import GlobalImports.Clause

/-! Import statements as they are looked for in the text of a program:
`import <clause> from '<specifier>'`, the specifier in either kind of quote. -/

namespace GlobalImports

/-- A statement found in a text. -/
structure Statement where
  text : List Char
  clause : String
  specifier : String
  deriving DecidableEq, Repr

namespace Statement

open Regex

/-- A character that may stand in a clause. -/
def clauseChar : CharSet :=
  .union .nameChar (.union (.ofRanges [('*', '*'), ('{', '{'), ('}', '}'), (',', ',')]) .blank)

/-- Text on one line between two quotes, up to the nearest closing one. -/
def quoted (quote : Char) : Regex :=
  cat [char quote, lazyStar (one (.compl .lineBreak)), char quote]

/-- A statement up to its specifier. -/
def opening : List Regex :=
  [literal "import", Clause.blanks, group 1 (star (one clauseChar)), Clause.blanks, literal "from",
    Clause.blanks]

def regex : Regex := cat (opening ++ [group 2 (oneOf [quoted '\'', quoted '"'])])

/-- The quoted text without any quotes. -/
def unquote (cs : List Char) : List Char := cs.filter fun c => c != '\'' && c != '"'

def ofFound (f : Found) : Statement where
  text := f.text
  clause := String.ofList ((f.group? 1).getD [])
  specifier := String.ofList (unquote ((f.group? 2).getD []))

end Statement

end GlobalImports
