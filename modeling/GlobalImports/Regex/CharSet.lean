import GlobalImports.Text.Blank
import GlobalImports.Unicode.Ranges

/-! Sets of characters. Small sets are expressions, which keep the way they were put together; a
set that comes with its ranges is kept as a table of them. -/

namespace GlobalImports.Regex

inductive CharSet where
  | none
  | range (lo hi : Char)
  /-- White space. -/
  | blank
  | union (s t : CharSet)
  | compl (s : CharSet)
  | table (r : Unicode.Ranges)
  deriving DecidableEq, Repr

namespace CharSet

def contains : CharSet → Char → Bool
  | none, _ => false
  | range lo hi, c => lo ≤ c && c ≤ hi
  | blank, c => Text.isBlank c
  | union s t, c => s.contains c || t.contains c
  | compl s, c => !s.contains c
  | table r, c => r.contains c

/-! ### Sets built from others -/

def only (c : Char) : CharSet := range c c

/-- The union of the ranges. -/
def ofRanges (ranges : List (Char × Char)) : CharSet :=
  ranges.foldr (fun r s => union (range r.1 r.2) s) none

@[simp] theorem contains_only (a c : Char) : (only a).contains c = decide (c = a) := by
  rw [Bool.eq_iff_iff]
  simp only [only, contains, Bool.and_eq_true, decide_eq_true_eq]
  exact ⟨fun h => Char.le_antisymm h.2 h.1, fun h => h ▸ ⟨Char.le_refl _, Char.le_refl _⟩⟩

@[simp] theorem contains_compl (s : CharSet) (c : Char) :
    (compl s).contains c = !s.contains c := rfl

@[simp] theorem contains_union (s t : CharSet) (c : Char) :
    (union s t).contains c = (s.contains c || t.contains c) := rfl

/-! ### Common sets -/

/-- ASCII letters, ASCII digits and `_`. -/
def asciiWord : CharSet := ofRanges [('0', '9'), ('A', 'Z'), ('_', '_'), ('a', 'z')]

/-- ASCII letters, ASCII digits, `_` and `$`. -/
def nameChar : CharSet :=
  ofRanges [('A', 'Z'), ('a', 'z'), ('0', '9'), ('_', '_'), ('$', '$')]

/-- A name character other than a digit. -/
def nameStart : CharSet := ofRanges [('A', 'Z'), ('a', 'z'), ('_', '_'), ('$', '$')]

def lineBreak : CharSet := only '\n'

end CharSet

end GlobalImports.Regex
