import GlobalImports.Proofs.Clause.Targets
import GlobalImports.Proofs.Statement.Boundary
import GlobalImports.Proofs.Text.Inert

/-! Text in which no statement begins, whatever it says, because of what comes behind it.
Declarations are such text: a target is followed by an equals sign before any quote comes, and a
value is built from a source in which the keyword `import` does not occur. -/

namespace GlobalImports.Statement

open Text (Inert inert_nil inert_append inert_of_head)

/-- The tail does not go on with `import` after its first letter. -/
def Breaks (tail : List Char) : Prop := ∀ c ∈ tail.head?, c ∉ "mport".toList

/-- No `import` begins in the text and goes on in the tail. -/
def Apart (xs tail : List Char) : Prop :=
  ∀ a b, a ++ b = "import".toList → a ≠ [] → b ≠ [] → a <:+ xs → ¬b <+: tail

theorem Breaks.apart {tail : List Char} (h : Breaks tail) (xs : List Char) : Apart xs tail := by
  rintro a b hab ha hb - ⟨t, rfl⟩
  cases b with
  | nil => exact hb rfl
  | cons c b =>
    cases a with
    | nil => exact ha rfl
    | cons d a =>
      have letters : "mport".toList = a ++ c :: b := ((List.cons.inj hab).2).symm
      exact h c rfl (letters ▸ by simp)

theorem import_prefix_of_begins {text : List Char} (h : Begins text) :
    "import".toList <+: text := by
  obtain ⟨s, rest, rfl⟩ := h
  exact ⟨s.run ++ s.quoted ++ rest, by simp [Shape.text_def]⟩

section Inert

variable {xs ys tail : List Char}

/-- A text that is inert is read character by character. -/
theorem Reading.of_inert {ps : List Part} (h : Inert Begins xs tail) (ht : Reading tail ps) :
    Reading (xs ++ tail) (xs.map .char ++ ps) := by
  induction xs with
  | nil => exact ht
  | cons c cs ih =>
    exact .char h.not_here (ih h.of_cons)

/-- Before a character that is neither part of a clause nor a quote, a text without quotes. -/
theorem not_begins_of_no_quote {x : Char} (hx : ∀ c ∈ xs, c ≠ '\'' ∧ c ≠ '"')
    (hk : clauseChar.contains x = false) (hq : x ≠ '\'' ∧ x ≠ '"') : ¬Begins (xs ++ x :: tail) := by
  rintro ⟨s, rest, h⟩
  rw [s.text_eq, List.append_assoc, List.cons_append] at h
  have quote (hm : s.quote ≠ '\'' ∧ s.quote ≠ '"') : False := by
    rcases s.quote_eq with h | h
    · exact hm.1 h
    · exact hm.2 h
  rcases List.append_eq_append_iff.1 h with ⟨t, ht, hx'⟩ | ⟨t, ht, hx'⟩
  · cases t with
    | nil => exact quote ((List.cons.inj hx').1 ▸ hq)
    | cons d t =>
      obtain ⟨rfl, -⟩ := List.cons.inj hx'
      rw [s.lead_chars x (ht ▸ by simp)] at hk
      cases hk
  · cases t with
    | nil => exact quote ((List.cons.inj hx').1 ▸ hq)
    | cons d t =>
      obtain ⟨rfl, -⟩ := List.cons.inj hx'
      exact quote (hx s.quote (ht ▸ by simp))

theorem inert_of_no_quote {x : Char} (hx : ∀ c ∈ xs, c ≠ '\'' ∧ c ≠ '"')
    (hk : clauseChar.contains x = false) (hq : x ≠ '\'' ∧ x ≠ '"') : Inert Begins xs (x :: tail) :=
  fun _ _ hd => not_begins_of_no_quote (fun c hc => hx c (hd.subset hc)) hk hq

theorem inert_of_no_i (hx : 'i' ∉ xs) : Inert Begins xs tail :=
  inert_of_head fun _ hc _ => not_begins_of_head fun h => hx (h ▸ hc)

/-- Text without `import`, before text that does not complete it. -/
theorem inert_of_not_infix (hx : ¬"import".toList <:+: xs) (ht : Apart xs tail) :
    Inert Begins xs tail := by
  intro d hne hd hb
  obtain ⟨r, hr⟩ := import_prefix_of_begins hb
  have free (t : List Char) : d ≠ "import".toList ++ t := by
    rintro rfl
    exact hx ((List.prefix_append _ t).isInfix.trans hd.isInfix)
  rcases List.append_eq_append_iff.1 hr with ⟨t, hd, -⟩ | ⟨t, hi, rfl⟩
  · exact free t hd
  · by_cases htn : t = []
    · exact free [] (by rw [htn, List.append_nil] at hi; rw [List.append_nil]; exact hi.symm)
    · exact ht d t hi.symm hne htn hd (List.prefix_append t r)

end Inert

/-! ### Declarations -/

open Clause

variable {source : String} {tail : List Char}

theorem breaks_cons {c : Char} (h : c ∉ "mport".toList) : Breaks (c :: tail) := by
  intro d hd
  rwa [← Option.some.inj hd]

theorem apart_cons {xs : List Char} {c : Char} (h : c ∉ "mport".toList) : Apart xs (c :: tail) :=
  (breaks_cons h).apart xs

theorem inert_source (hs : ¬"import".toList <:+: source.toList) (ht : Apart source.toList tail) :
    Inert Begins source.toList tail := inert_of_not_infix hs ht

theorem inert_defaultOf (hs : ¬"import".toList <:+: source.toList)
    (ht : Apart source.toList tail) : Inert Begins (defaultOf source).toList tail := by
  have parts : (defaultOf source).toList =
      source.toList ++ (" && Object.prototype.hasOwnProperty.call(".toList ++ (source.toList ++
        (", 'default') ? ".toList ++ (source.toList ++ ("['default'] : ".toList ++
          source.toList))))) := by
    simp [defaultOf]
  rw [parts]
  refine inert_append (inert_source hs (apart_cons (by decide))) ?_
  refine inert_append (inert_of_no_i (by decide)) ?_
  refine inert_append (inert_source hs (apart_cons (by decide))) ?_
  refine inert_append (inert_of_no_i (by decide)) ?_
  refine inert_append (inert_source hs (apart_cons (by decide))) ?_
  exact inert_append (inert_of_no_i (by decide)) (inert_source hs ht)

/-- A declaration up to its equals sign. -/
def targetOf (k : Keyword) (target : List Char) : List Char :=
  k.text.toList ++ ' ' :: target ++ [' ']

theorem declaration_eq (k : Keyword) (target value : List Char) :
    declaration k target value = targetOf k target ++ (['=', ' '] ++ value) := by
  simp [declaration, targetOf]

theorem not_quote_of_mem_targetOf {k : Keyword} {target : List Char}
    (h : ∀ c ∈ target, c ≠ '\'' ∧ c ≠ '"') : ∀ c ∈ targetOf k target, c ≠ '\'' ∧ c ≠ '"' := by
  have keyword : '\'' ∉ k.text.toList ∧ '"' ∉ k.text.toList := by
    cases k <;> decide
  intro c hc
  simp only [targetOf, List.mem_append, List.mem_cons, List.not_mem_nil, or_false] at hc
  rcases hc with (hc | rfl | hc) | rfl
  · exact ⟨fun e => keyword.1 (e ▸ hc), fun e => keyword.2 (e ▸ hc)⟩
  · decide
  · exact h c hc
  · decide

theorem inert_declaration {k : Keyword} {target value : List Char}
    (h : ∀ c ∈ target, c ≠ '\'' ∧ c ≠ '"') (hv : Inert Begins value tail) :
    Inert Begins (declaration k target value) tail := by
  rw [declaration_eq]
  refine inert_append ?_ (inert_append (inert_of_no_i (by decide)) hv)
  exact inert_of_no_quote (not_quote_of_mem_targetOf h) (by decide) (by decide)

theorem inert_intercalate {xs : List Char} {ds : List (List Char)}
    (h : ∀ d ∈ ds, ∀ t, Apart xs t → Inert Begins d t) (ht : Apart xs tail) :
    Inert Begins (";\n".toList.intercalate ds) tail := by
  induction ds with
  | nil => exact inert_nil Begins tail
  | cons d ds ih =>
    have first := h d List.mem_cons_self
    have others := ih fun e he => h e (List.mem_cons_of_mem d he)
    cases ds with
    | nil =>
      rw [List.intercalate_singleton]
      exact first tail ht
    | cons e es =>
      rw [List.intercalate_cons_cons, List.append_assoc]
      refine inert_append (first _ (apart_cons (by decide))) ?_
      exact inert_append (inert_of_no_i (by decide)) others

/-- A clause of characters that clauses have. -/
theorem not_quote_of_mem_target {c : Clause} {text : String} {a : List Char × List Char}
    (hc : parse? text = some c) (chars : ∀ ch ∈ text.toList, clauseChar.contains ch = true)
    (ha : a ∈ c.assignments source) : ∀ ch ∈ a.1, ch ≠ '\'' ∧ ch ≠ '"' := by
  intro ch h
  rcases mem_of_mem_target hc ha h with h | rfl | rfl
  · exact not_quote_of_clauseChar (chars ch h)
  · decide
  · decide

/-- Declarations come to a space and then to an equals sign before any quote. -/
theorem exists_declarations_eq_targetOf {c : Clause} {text : String} {k : Keyword}
    (hc : parse? text = some c) (chars : ∀ ch ∈ text.toList, clauseChar.contains ch = true) :
    ∃ xs rest, (c.declarations k source).toList = xs ++ '=' :: rest ∧ ' ' ∈ xs ∧
      ∀ ch ∈ xs, ch ≠ '\'' ∧ ch ≠ '"' := by
  rw [toList_declarations]
  cases ha : c.assignments source with
  | nil => exact absurd ha (assignments_ne_nil (isEmpty_of_parse? hc))
  | cons a as =>
    have space : ' ' ∈ targetOf k a.1 := by simp [targetOf]
    have free := not_quote_of_mem_targetOf (k := k)
      (not_quote_of_mem_target hc chars (ha ▸ List.mem_cons_self))
    rw [List.map_cons, declaration_eq]
    cases as with
    | nil =>
      rw [List.map_nil, List.intercalate_singleton]
      exact ⟨targetOf k a.1, _, rfl, space, free⟩
    | cons b bs =>
      rw [List.map_cons, List.intercalate_cons_cons, List.append_assoc, List.append_assoc]
      exact ⟨targetOf k a.1, _, rfl, space, free⟩

/-- No statement begins in the declarations of a clause, if what follows does not make up `import`
together with the end of their source. -/
theorem inert_declarations_of_apart {c : Clause} {text : String} {k : Keyword}
    (hc : parse? text = some c) (chars : ∀ ch ∈ text.toList, clauseChar.contains ch = true)
    (hs : ¬"import".toList <:+: source.toList) (ht : Apart source.toList tail) :
    Inert Begins (c.declarations k source).toList tail := by
  rw [toList_declarations]
  refine inert_intercalate ?_ ht
  intro d hd t ht
  obtain ⟨a, ha, rfl⟩ := List.mem_map.1 hd
  refine inert_declaration (not_quote_of_mem_target hc chars ha) ?_
  rcases value_of_mem_assignments ha with h | h
  · rw [h]
    exact inert_source hs ht
  · rw [h]
    exact inert_defaultOf hs ht

theorem inert_declarations {c : Clause} {text : String} {k : Keyword} (hc : parse? text = some c)
    (chars : ∀ ch ∈ text.toList, clauseChar.contains ch = true)
    (hs : ¬"import".toList <:+: source.toList) (ht : Breaks tail) :
    Inert Begins (c.declarations k source).toList tail :=
  inert_declarations_of_apart hc chars hs (ht.apart _)

end GlobalImports.Statement
