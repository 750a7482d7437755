import GlobalImports.Keyword
import GlobalImports.Regex.Sweep

/-! Binding clauses: what stands between `import` and `from`. Three sweeps take a clause apart: one
for the namespace bindings, one for the named blocks, and one that deletes both along with commas
and white space, so that the default binding is left over. -/

namespace GlobalImports

/-- The bindings of a clause. Proper clauses have at most one default binding and at most one of
the other two; all that are met are kept, in order. -/
structure Clause where
  namespaces : List String
  /-- Each block with its braces, renames already turned into `name: local`. -/
  named : List String
  default : Option String
  deriving DecidableEq, Repr

namespace Clause

open Regex

/-! ### The parts of a clause -/

def blanks : Regex := plus (one .blank)

def name : Regex := plus (one .nameChar)

/-- `* as Name` -/
def namespaceBinding : Regex :=
  cat [char '*', blanks, literal "as", blanks, group 1 name]

/-- An opening brace up to the next closing one. -/
def namedBlock : Regex :=
  cat [char '{', star (one (.compl (.only '}'))), char '}']

/-- `name as local` -/
def renamedBinding : Regex :=
  cat [group 1 name, blanks, literal "as", blanks, group 2 name]

/-- A namespace binding without a group for the name. -/
def bareNamespace : Regex := cat [char '*', blanks, literal "as", blanks, name]

/-- All that is not part of the default binding. -/
def nonDefault : Regex := oneOf [namedBlock, bareNamespace, one (.union (.only ',') .blank)]

/-- A whole text that is an ASCII identifier. -/
def identifier : Regex :=
  cat [look .textStart, one .nameStart, star (one .nameChar), look .textEnd]

/-! ### Reading a clause -/

/-- What becomes of a rename. -/
def renameFound (f : Found) : List Char :=
  (f.group? 1).getD [] ++ [':', ' '] ++ (f.group? 2).getD []

/-- Every `name as local` turned into `name: local`. -/
def rename (block : List Char) : List Char := renamedBinding.replaceAll renameFound block

def namespacesIn (text : List Char) : List (List Char) :=
  (namespaceBinding.hits text).filterMap (·.group? 1)

def namedIn (text : List Char) : List (List Char) :=
  (namedBlock.hits text).map fun m => rename m.text

/-- What is left once blocks, namespace bindings, commas and white space are deleted. -/
def leftover (text : List Char) : List Char := nonDefault.replaceAll (fun _ => []) text

/-- Binds nothing. -/
def isEmpty (c : Clause) : Bool :=
  c.namespaces.isEmpty && c.named.isEmpty && c.default.isNone

/-- What is found in a text without white space at its ends, whatever the leftover is. -/
def ofInner (inner : List Char) : Clause where
  namespaces := (namespacesIn inner).map String.ofList
  named := (namedIn inner).map String.ofList
  default := if (leftover inner).isEmpty then none else some (String.ofList (leftover inner))

/-- The bindings of a clause, unless it binds nothing or its leftover is not an identifier. -/
def parse? (text : String) : Option Clause :=
  let inner := Text.trim text.toList
  if (leftover inner).isEmpty || identifier.isMatch (leftover inner) then
    let clause := ofInner inner
    if clause.isEmpty then none else some clause
  else none

/-! ### Declarations -/

/-- Reads the key `default` of a source that has one, and the source itself otherwise. -/
def defaultOf (source : String) : String :=
  source ++ " && Object.prototype.hasOwnProperty.call(" ++ source ++ ", 'default') ? " ++ source ++
    "['default'] : " ++ source

/-- The declarations that bind all names of the clause off `source`. -/
def declarationList (c : Clause) (k : Keyword) (source : String) : List String :=
  (c.namespaces ++ c.named).map (fun target => k.text ++ " " ++ target ++ " = " ++ source) ++
    (c.default.map fun name => k.text ++ " " ++ name ++ " = " ++ defaultOf source).toList

def declarations (c : Clause) (k : Keyword) (source : String) : String :=
  ";\n".intercalate (c.declarationList k source)

end Clause

end GlobalImports
