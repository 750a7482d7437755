import Mathlib.Data.List.Basic

/-! Text in which something begins nowhere, whatever the text says, because of what comes behind
it. -/

namespace GlobalImports.Text

variable {P : List Char → Prop} {xs ys tail : List Char}

/-- `P` holds at no place in `xs` when `tail` follows it. -/
def Inert (P : List Char → Prop) (xs tail : List Char) : Prop :=
  ∀ d, d ≠ [] → d <:+ xs → ¬P (d ++ tail)

theorem inert_nil (P : List Char → Prop) (tail : List Char) : Inert P [] tail :=
  fun _ hne hd => absurd (List.suffix_nil.1 hd) hne

theorem inert_singleton {c : Char} (h : ¬P (c :: tail)) : Inert P [c] tail := by
  intro d hne hd
  rcases List.suffix_cons_iff.1 hd with rfl | hd
  · exact h
  · exact absurd (List.suffix_nil.1 hd) hne

theorem inert_append (hx : Inert P xs (ys ++ tail)) (hy : Inert P ys tail) :
    Inert P (xs ++ ys) tail := by
  rintro d hne ⟨e, he⟩
  rcases List.append_eq_append_iff.1 he with ⟨t, rfl, rfl⟩ | ⟨t, -, rfl⟩
  · by_cases ht : t = []
    · exact hy _ hne (by rw [ht]; exact List.suffix_refl _)
    · rw [List.append_assoc]
      exact hx t ht (List.suffix_append e t)
  · exact hy d hne (List.suffix_append t d)

/-- Where the first character decides. -/
theorem inert_of_head (h : ∀ c ∈ xs, ∀ cs, ¬P (c :: cs)) : Inert P xs tail := by
  intro d hne hd
  cases d with
  | nil => exact absurd rfl hne
  | cons c d => exact h c (hd.subset List.mem_cons_self) (d ++ tail)

theorem Inert.not_here {c : Char} (h : Inert P (c :: xs) tail) : ¬P (c :: (xs ++ tail)) :=
  h (c :: xs) (by simp) (List.suffix_refl _)

theorem Inert.of_append (h : Inert P (xs ++ ys) tail) : Inert P ys tail :=
  fun d hne hd => h d hne (hd.trans (List.suffix_append xs ys))

theorem Inert.of_cons {c : Char} (h : Inert P (c :: xs) tail) : Inert P xs tail := by
  rw [← List.singleton_append] at h
  exact h.of_append

end GlobalImports.Text
