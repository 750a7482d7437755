/-! The keyword that a generated declaration begins with. -/

namespace GlobalImports

inductive Keyword where
  | const
  | let_
  | var
  deriving DecidableEq, Repr, Inhabited

namespace Keyword

def text : Keyword → String
  | const => "const"
  | let_ => "let"
  | var => "var"

def all : List Keyword := [const, let_, var]

/-- The keyword spelled so. -/
def ofText? (s : String) : Option Keyword := all.find? (·.text == s)

theorem ofText?_eq_some_iff {s : String} {k : Keyword} : ofText? s = some k ↔ s = k.text := by
  constructor
  · intro h
    have := List.find?_some h
    exact (beq_iff_eq.1 this).symm
  · rintro rfl
    cases k <;> decide

end Keyword

end GlobalImports
