import GlobalImports.Regex.Basic
import GlobalImports.Unicode.CaseFolding
import GlobalImports.Unicode.Property

/-! Reading the notation of patterns: what can be wrong with a pattern, the flags in force, and the
steps from character to character. -/

namespace GlobalImports.Pattern

/-- Why a text is not a pattern. -/
inductive Fault where
  | unclosedGroup
  | unopenedGroup
  | nothingToRepeat
  | badCount
  | unclosedClass
  | badRange
  | badEscape
  | badCodePoint
  | unknownProperty
  | badGroupName
  | badFlags
  /-- Look-around and references to groups. -/
  | unsupported
  /-- Without the Unicode flag, a set that reaches beyond ASCII. -/
  | beyondAscii
  | tooDeep
  | tooLarge
  deriving DecidableEq, Repr

/-- The flags `i`, `m`, `s`, `U`, `u`, `R` and `x`. -/
structure Flags where
  caseless : Bool := false
  multiLine : Bool := false
  dotAll : Bool := false
  swapGreed : Bool := false
  unicode : Bool := true
  crlf : Bool := false
  extended : Bool := false
  deriving DecidableEq, Repr

/-- Where reading stands: the text left, the flags in force, and the groups opened so far. -/
structure Cursor where
  rest : List Char
  flags : Flags := {}
  groupCount : Nat := 0
  names : List (Nat × String) := []

abbrev Reader := StateT Cursor (Except Fault)

/-! ### Steps -/

/-- Drops white space, and comments from `#` to the end of the line. -/
def dropBlanks : List Char → List Char
  | [] => []
  | c :: cs =>
    if Text.isBlank c then dropBlanks cs
    else if c == '#' then dropComment cs
    else c :: cs
where
  /-- Drops the rest of a comment and what may be dropped after it. -/
  dropComment : List Char → List Char
  | [] => []
  | c :: cs => if c == '\n' then dropBlanks cs else dropComment cs

def peek : Reader (Option Char) := return (← get).rest.head?

/-- Whether the text left begins so. -/
def startsWith (s : String) : Reader Bool := return s.toList.isPrefixOf (← get).rest

def bump : Reader Unit := modify fun s => { s with rest := s.rest.tail }

/-- Passes a text that the rest begins with. -/
def pass (s : String) : Reader Bool := do
  if ← startsWith s then
    modify fun c => { c with rest := c.rest.drop s.length }
    return true
  else return false

/-- In extended notation, white space and comments mean nothing. -/
def skipBlanks : Reader Unit :=
  modify fun s => if s.flags.extended then { s with rest := dropBlanks s.rest } else s

/-- Passes a character and the blanks behind it. -/
def advance : Reader Unit := do bump; skipBlanks

/-- The next character, or the given fault at the end of the pattern. -/
def peekOr (fault : Fault) : Reader Char := do
  match ← peek with
  | some c => return c
  | none => throw fault

/-- Reads on while the characters satisfy `p`, passing blanks between them. -/
def takeWhile (p : Char → Bool) : Reader (List Char) := do
  go (← get).rest.length
where
  /-- At most the given number of characters. -/
  go : Nat → Reader (List Char)
  | 0 => return []
  | n + 1 => do
    match ← peek with
    | some c =>
      if p c then
        advance
        return c :: (← go n)
      else return []
    | none => return []

/-! ### Flags at work -/

/-- The set with the other case of its members, if case does not matter. -/
def Flags.foldCase (f : Flags) (r : Unicode.Ranges) : Unicode.Ranges :=
  if !f.caseless then r else if f.unicode then r.anyCase else r.anyAsciiCase

def Flags.word (f : Flags) : Regex.CharSet :=
  if f.unicode then .table Unicode.word else .asciiWord

/-- The set itself. Without the Unicode flag it may only hold ASCII characters. -/
def allowed (r : Unicode.Ranges) : Reader Unicode.Ranges := do
  if (← get).flags.unicode || r.isAscii then return r else throw .beyondAscii

end GlobalImports.Pattern
