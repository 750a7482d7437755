import GlobalImports.Pattern.Notation
import GlobalImports.Regex.Search

/-! Patterns in their usual notation, and what their groups capture. -/

namespace GlobalImports

/-- A regular expression whose groups may have names. Entry `i` of `names` is the name of group
`i`; group zero is the whole match and has none. -/
structure Pattern where
  regex : Regex
  names : List (Option String)
  deriving DecidableEq, Repr

/-- The texts of the groups of a match, nothing for a group that took no part. -/
structure Captures where
  names : List (Option String)
  texts : List (Option String)
  deriving DecidableEq, Repr

namespace Captures

/-- The text of a group given by number. -/
def get? (c : Captures) (i : Nat) : Option String := (c.texts[i]?).join

/-- The text of a group given by name. -/
def named? (c : Captures) (name : String) : Option String :=
  (c.names.idxOf? (some name)).bind c.get?

end Captures

end GlobalImports

namespace GlobalImports.Regex

/-- The numbers of the groups that occur. -/
def groupIndices : Regex → List Nat
  | empty | one _ | look _ => []
  | group i r => i :: r.groupIndices
  | seq r s | alt r s => r.groupIndices ++ s.groupIndices
  | many r _ _ _ => r.groupIndices

end GlobalImports.Regex

namespace GlobalImports.Pattern

/-- A pattern from its notation. A group that a repetition of none removes has no name. -/
def read (text : String) : Except Fault Pattern := do
  let (form, cursor) ← whole.run { rest := text.toList }
  let regex := form.regex
  let indices := regex.groupIndices
  return {
    regex := regex
    names := (List.range (regex.groupCount + 1)).map fun i =>
      if indices.contains i then cursor.names.lookup i else none }

def groupCount (p : Pattern) : Nat := p.names.length

/-- The captures of the leftmost match in a text. -/
def captures? (p : Pattern) (text : String) : Option Captures :=
  (p.regex.find? none text.toList).map fun f => ⟨p.names, f.groups.map (·.map String.ofList)⟩

end GlobalImports.Pattern
