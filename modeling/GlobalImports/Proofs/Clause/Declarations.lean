import GlobalImports.Clause
import Mathlib.Data.List.Basic

/-! Declarations as text. Each of them is a keyword, a target and a value, and a clause that binds
something has at least one. -/

namespace GlobalImports.Clause

/-- One declaration. -/
def declaration (k : Keyword) (target value : List Char) : List Char :=
  k.text.toList ++ ' ' :: target ++ " = ".toList ++ value

/-- The targets of a clause, in the order of their declarations, each with its value. -/
def assignments (c : Clause) (source : String) : List (List Char × List Char) :=
  (c.namespaces ++ c.named).map (fun target => (target.toList, source.toList)) ++
    (c.default.map fun name => (name.toList, (defaultOf source).toList)).toList

variable {c : Clause} {k : Keyword} {source : String}

theorem toList_declarationList :
    (c.declarationList k source).map String.toList =
      (c.assignments source).map fun a => declaration k a.1 a.2 := by
  have each (target value : String) :
      (k.text ++ " " ++ target ++ " = " ++ value).toList =
        declaration k target.toList value.toList := by
    simp [declaration]
  generalize ht : c.namespaces ++ c.named = targets
  rw [declarationList, assignments, ht, List.map_append, List.map_append, List.map_map,
    List.map_map]
  congr 1
  · apply List.map_congr_left
    intro target _
    exact each target source
  · cases c.default with
    | none => rfl
    | some name => exact congrArg (fun d => [d]) (each name (defaultOf source))

theorem toList_declarations :
    (c.declarations k source).toList =
      ";\n".toList.intercalate ((c.assignments source).map fun a => declaration k a.1 a.2) := by
  rw [declarations, String.toList_intercalate, toList_declarationList]

theorem assignments_ne_nil (h : c.isEmpty = false) : c.assignments source ≠ [] := by
  obtain ⟨namespaces, named, default⟩ := c
  intro none
  simp only [assignments, List.append_eq_nil_iff, List.map_eq_nil_iff] at none
  obtain ⟨⟨rfl, rfl⟩, hd⟩ := none
  cases default with
  | none => cases h
  | some name => cases hd

/-- A clause can be read if its leftover is nothing or an identifier and it binds something. -/
theorem parse?_eq_some_iff {text : String} :
    parse? text = some c ↔
      ((leftover (Text.trim text.toList)).isEmpty ||
          identifier.isMatch (leftover (Text.trim text.toList))) = true ∧
        c.isEmpty = false ∧ c = ofInner (Text.trim text.toList) := by
  rw [parse?]
  dsimp only
  generalize Text.trim text.toList = inner
  constructor
  · intro h
    obtain ⟨left, h⟩ := Option.ite_none_right_eq_some.1 h
    obtain ⟨binds, h⟩ := Option.ite_none_left_eq_some.1 h
    obtain rfl := Option.some.inj h
    exact ⟨left, by simpa using binds, rfl⟩
  · rintro ⟨left, binds, rfl⟩
    rw [if_pos left, if_neg (by simp [binds])]

theorem isEmpty_of_parse? {text : String} (h : parse? text = some c) : c.isEmpty = false :=
  (parse?_eq_some_iff.1 h).2.1

/-- Declarations begin with the keyword. -/
theorem exists_declarations_eq (h : c.isEmpty = false) :
    ∃ rest, (c.declarations k source).toList = k.text.toList ++ rest := by
  rw [toList_declarations]
  cases ha : c.assignments source with
  | nil => exact absurd ha (assignments_ne_nil h)
  | cons a as =>
    rw [List.map_cons, declaration]
    cases as with
    | nil => exact ⟨' ' :: a.1 ++ " = ".toList ++ a.2, by simp⟩
    | cons b bs =>
      rw [List.map_cons, List.intercalate_cons_cons]
      exact ⟨_, by simp only [List.append_assoc]; rfl⟩

end GlobalImports.Clause
