import GlobalImports.Proofs.Statement.Match

/-! Readings of a text. From left to right, a statement is taken wherever one begins, and any other
character by itself. A text has exactly one reading, and a sweep finds its statements: what is in
front of a place has no say in it. -/

namespace GlobalImports.Statement

open Regex

/-- Some statement stands at the head of the text. -/
def Begins (text : List Char) : Prop := ∃ s : Shape, ∃ rest, text = s.text ++ rest

/-- A statement, or a character that is part of none. -/
inductive Part where
  | char (c : Char)
  | statement (s : Shape)

def Part.text : Part → List Char
  | char c => [c]
  | statement s => s.text

/-- The parts of a text from left to right. -/
inductive Reading : List Char → List Part → Prop where
  | nil : Reading [] []
  | char {c : Char} {cs : List Char} {ps : List Part} (h : ¬Begins (c :: cs)) :
      Reading cs ps → Reading (c :: cs) (.char c :: ps)
  | statement (s : Shape) {rest : List Char} {ps : List Part} :
      Reading rest ps → Reading (s.text ++ rest) (.statement s :: ps)

/-! ### Where statements begin -/

theorem head?_text (s : Shape) : s.text.head? = some 'i' := rfl

theorem not_begins_of_head {c : Char} {cs : List Char} (h : c ≠ 'i') : ¬Begins (c :: cs) := by
  rintro ⟨s, rest, hs⟩
  have head := congrArg List.head? hs
  rw [List.head?_append_of_ne_nil _ s.text_ne_nil, head?_text] at head
  exact h (Option.some.inj head)

theorem begins_iff (before : Option Char) (text : List Char) :
    Begins text ↔ (regex.here? before text).isSome = true := by
  constructor
  · rintro ⟨s, rest, rfl⟩
    obtain ⟨clause, h, -⟩ := here?_text s before rest
    rw [h]
    rfl
  · intro h
    obtain ⟨f, hf⟩ := Option.isSome_iff_exists.1 h
    obtain ⟨s, -, htext, -⟩ := exists_shape hf
    exact ⟨s, f.rest, htext⟩

theorem here?_eq_none {before : Option Char} {text : List Char} (h : ¬Begins text) :
    regex.here? before text = none := by
  rw [begins_iff before, Option.not_isSome_iff_eq_none] at h
  exact h

instance (text : List Char) : Decidable (Begins text) :=
  decidable_of_iff' _ (begins_iff none text)

/-! ### The reading of a text -/

theorem exists_reading (text : List Char) : ∃ ps, Reading text ps := by
  induction h : text.length using Nat.strongRecOn generalizing text with
  | ind n ih =>
    subst h
    by_cases hb : Begins text
    · obtain ⟨s, rest, rfl⟩ := hb
      have shorter : rest.length < (s.text ++ rest).length := by
        have := List.length_pos_iff.2 s.text_ne_nil
        rw [List.length_append]
        omega
      obtain ⟨ps, hps⟩ := ih _ shorter rest rfl
      exact ⟨_, .statement s hps⟩
    · cases text with
      | nil => exact ⟨[], .nil⟩
      | cons c cs =>
        obtain ⟨ps, hps⟩ := ih _ (Nat.lt_succ_self _) cs rfl
        exact ⟨_, .char hb hps⟩

theorem Reading.flatMap_text {text : List Char} {ps : List Part} (h : Reading text ps) :
    ps.flatMap Part.text = text := by
  induction h with
  | nil => rfl
  | char _ _ ih => rw [List.flatMap_cons, ih]; rfl
  | statement s _ ih => rw [List.flatMap_cons, ih]; rfl

theorem Reading.unique {text : List Char} {ps qs : List Part} (hp : Reading text ps)
    (hq : Reading text qs) : ps = qs := by
  induction hp generalizing qs with
  | nil =>
    generalize ht : ([] : List Char) = text at hq
    cases hq with
    | nil => rfl
    | char => cases ht
    | statement s => exact absurd (List.append_eq_nil_iff.1 ht.symm).1 s.text_ne_nil
  | @char c cs ps hb _ ih =>
    generalize ht : c :: cs = text at hq
    cases hq with
    | nil => cases ht
    | char _ hq =>
      obtain ⟨rfl, rfl⟩ := List.cons.inj ht
      rw [ih hq]
    | statement s => exact absurd ⟨s, _, ht⟩ hb
  | @statement s rest ps _ ih =>
    generalize ht : s.text ++ rest = text at hq
    cases hq with
    | nil => exact absurd (List.append_eq_nil_iff.1 ht).1 s.text_ne_nil
    | char hb => exact absurd ⟨s, _, ht.symm⟩ hb
    | statement s' hq =>
      obtain ⟨rfl, rfl⟩ := Shape.text_append_inj ht
      rw [ih hq]

/-! ### Readings and sweeps -/

/-- The token is the part as a sweep finds it. -/
inductive Finds : Token → Part → Prop where
  | char (c : Char) : Finds (.char c) (.char c)
  | statement (s : Shape) {clause : List Char} (rest : List Char)
      (h : Text.trim clause = Text.trim s.binding) :
      Finds (.hit (s.found clause rest)) (.statement s)

theorem Reading.finds {text : List Char} {ps : List Part} (h : Reading text ps)
    (before : Option Char) : List.Forall₂ Finds (regex.tokens before text) ps := by
  induction h generalizing before with
  | nil =>
    rw [tokens_nil]
    exact .nil
  | @char c cs ps hb _ ih =>
    rw [tokens_char (by simp [here?_eq_none hb])]
    exact .cons (.char c) (ih _)
  | @statement s rest ps _ ih =>
    obtain ⟨clause, hit, same⟩ := here?_text s before rest
    rw [tokens_hit hit s.text_ne_nil]
    exact .cons (.statement s rest same) (ih _)

end GlobalImports.Statement
