import GlobalImports.Proofs.Statement.Reading

/-! Boundaries between statements. A character that no clause has can stand in a statement only from
its opening quote on, and a quoted text does not go on after a line break. So behind such a
character and white space with a line break in it, a text is read anew. -/

namespace GlobalImports.Statement

/-! ### Texts that are read one behind the other -/

/-- Statements that begin in `a` end there too when `b` follows. -/
def EndsBefore (a b : List Char) : Prop := ∀ d, d ≠ [] → d <:+ a → Begins (d ++ b) → Begins d

theorem EndsBefore.of_append {u a b : List Char} (h : EndsBefore (u ++ a) b) : EndsBefore a b :=
  fun d hne hd => h d hne (hd.trans (List.suffix_append u a))

theorem Reading.append_of_endsBefore {a b : List Char} {ps qs : List Part} (ha : Reading a ps)
    (h : EndsBefore a b) (hb : Reading b qs) : Reading (a ++ b) (ps ++ qs) := by
  induction ha with
  | nil => exact hb
  | @char c cs ps none _ ih =>
    have whole := h (c :: cs) (by simp) (List.suffix_refl _)
    exact .char (fun begins => none (whole begins)) (ih (h.of_append (u := [c])))
  | statement s _ ih =>
    rw [List.append_assoc]
    exact .statement s (ih h.of_append)

/-! ### Boundaries -/

/-- A character that no clause has, and behind it white space with a line break, end the text. -/
def Closed (text : List Char) : Prop :=
  ∃ u c w, text = u ++ c :: w ∧ clauseChar.contains c = false ∧
    (∀ d ∈ w, Text.isBlank d = true) ∧ '\n' ∈ w

/-- What may be left of a closed text: a closed text, or white space alone. -/
def Closing (text : List Char) : Prop :=
  Closed text ∨ ∀ c ∈ text, Text.isBlank c = true

/-! ### Inside a statement -/

theorem clauseChar_of_mem_import {c : Char} (h : c ∈ "import".toList) :
    clauseChar.contains c = true := by
  have h : c ∈ ['i', 'm', 'p', 'o', 'r', 't'] := h
  simp only [List.mem_cons, List.not_mem_nil, or_false] at h
  rcases h with rfl | rfl | rfl | rfl | rfl | rfl <;> decide

namespace Shape

variable (s : Shape)

/-- What comes before the quoted text. -/
def lead : List Char := "import".toList ++ s.run

theorem text_eq : s.text = s.lead ++ s.quote :: (s.content ++ [s.quote]) := rfl

theorem lead_chars : ∀ c ∈ s.lead, clauseChar.contains c = true := by
  intro c hc
  rcases List.mem_append.1 hc with hc | hc
  · exact clauseChar_of_mem_import hc
  · exact s.run_chars c hc

theorem quote_ne_newline : s.quote ≠ '\n' := by
  rcases s.quote_eq with h | h <;> rw [h] <;> decide

/-- Of a statement cut in two, the first part is clause characters only, or goes into the quoted
text. -/
theorem cut {u v : List Char} (h : s.text = u ++ v) (hv : v ≠ []) :
    (∀ c ∈ u, clauseChar.contains c = true) ∨ ∃ m, u = s.lead ++ s.quote :: m ∧ '\n' ∉ m := by
  rw [text_eq] at h
  rcases List.append_eq_append_iff.1 h with ⟨t, rfl, ht⟩ | ⟨t, ht, -⟩
  · cases t with
    | nil => exact .inl (by simpa using s.lead_chars)
    | cons d m =>
      obtain ⟨rfl, hmv⟩ : s.quote = d ∧ s.content ++ [s.quote] = m ++ v := List.cons.inj ht
      refine .inr ⟨m, rfl, ?_⟩
      intro hm
      -- the closing quote is on the other side
      have inside : m ++ v.dropLast = s.content := by
        rw [← List.dropLast_append_of_ne_nil hv, ← hmv, List.dropLast_concat]
      exact (s.content_chars '\n' (inside ▸ List.mem_append_left _ hm)).2 rfl
  · exact .inl fun c hc => s.lead_chars c (ht ▸ List.mem_append_left _ hc)

end Shape

/-- No statement goes on behind a boundary. -/
theorem not_cut_of_closed {s : Shape} {u v : List Char} (hu : Closed u) (hv : v ≠ []) :
    s.text ≠ u ++ v := by
  intro h
  obtain ⟨a, c, w, rfl, hc, -, hn⟩ := hu
  rcases s.cut h hv with hu | ⟨m, hm, hline⟩
  · rw [hu c (by simp)] at hc
    cases hc
  · rcases List.append_eq_append_iff.1 hm with ⟨t, ht, hcw⟩ | ⟨t, -, hcw⟩
    · cases t with
      | nil =>
        obtain ⟨-, rfl⟩ := List.cons.inj hcw
        exact hline hn
      | cons d t =>
        obtain ⟨rfl, -⟩ := List.cons.inj hcw
        rw [s.lead_chars c (ht ▸ by simp)] at hc
        cases hc
    · cases t with
      | nil =>
        obtain ⟨-, rfl⟩ := List.cons.inj hcw
        exact hline hn
      | cons d t =>
        obtain ⟨-, rfl⟩ := List.cons.inj hcw
        exact hline (List.mem_append_right _ (List.mem_cons_of_mem c hn))

/-! ### What is left of a closed text -/

theorem Closed.of_cons {c : Char} {cs : List Char} (h : Closed (c :: cs)) : Closing cs := by
  obtain ⟨u, d, w, hu, hd, hw, hn⟩ := h
  cases u with
  | nil =>
    obtain ⟨-, rfl⟩ := List.cons.inj hu
    exact .inr hw
  | cons e u =>
    obtain ⟨-, rfl⟩ := List.cons.inj hu
    exact .inl ⟨u, d, w, rfl, hd, hw, hn⟩

theorem Closing.of_cons {c : Char} {cs : List Char} (h : Closing (c :: cs)) : Closing cs := by
  rcases h with h | h
  · exact h.of_cons
  · exact .inr fun d hd => h d (List.mem_cons_of_mem c hd)

theorem Closing.of_append {u v : List Char} (h : Closing (u ++ v)) : Closing v := by
  induction u with
  | nil => exact h
  | cons c u ih => exact ih h.of_cons

theorem not_begins_of_isBlank {c : Char} {cs : List Char} (h : Text.isBlank c = true) :
    ¬Begins (c :: cs) := by
  apply not_begins_of_head
  rintro rfl
  exact absurd h (by decide)

/-- A statement that begins in front of a boundary ends there too. -/
theorem Closing.not_begins_append {a b : List Char} (h : Closing a) (ha : a ≠ [])
    (hb : ¬Begins a) : ¬Begins (a ++ b) := by
  rcases h with closed | blank
  · rintro ⟨s, rest, hs⟩
    rcases List.append_eq_append_iff.1 hs with ⟨t, ht, -⟩ | ⟨t, ht, -⟩
    · by_cases htn : t = []
      · exact hb ⟨s, [], by rw [ht, htn, List.append_nil, List.append_nil]⟩
      · exact not_cut_of_closed closed htn ht
    · exact hb ⟨s, t, ht⟩
  · cases a with
    | nil => exact absurd rfl ha
    | cons c cs => exact not_begins_of_isBlank (blank c List.mem_cons_self)

theorem Closing.endsBefore {a b : List Char} (h : Closing a) : EndsBefore a b := by
  rintro d hne ⟨e, rfl⟩ hb
  by_contra none
  exact h.of_append.not_begins_append hne none hb

/-- Texts on the two sides of a boundary are read independently. -/
theorem Reading.append {a b : List Char} {ps qs : List Part} (ha : Reading a ps)
    (h : Closed a) (hb : Reading b qs) : Reading (a ++ b) (ps ++ qs) :=
  ha.append_of_endsBefore (Closing.endsBefore (.inl h)) hb

end GlobalImports.Statement
