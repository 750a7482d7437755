import GlobalImports.Proofs.Clause.Targets
import GlobalImports.Proofs.Regex.Runs

/-! What the expressions for the parts of a clause match. Their parts are runs of disjoint sets, so
at each place there is one way through at most, the greedy one. -/

namespace GlobalImports.Clause

open Regex

/-! ### Runs -/

/-- White space, at least one character of it. -/
structure Space where
  chars : List Char
  ne_nil : chars ≠ []
  blank : ∀ c ∈ chars, Text.isBlank c = true

/-- Characters of names, at least one of them. -/
structure Word where
  chars : List Char
  ne_nil : chars ≠ []
  name : ∀ c ∈ chars, CharSet.nameChar.contains c = true

theorem toNat_le_iff (a b : Char) : a ≤ b ↔ a.toNat ≤ b.toNat := Iff.rfl

theorem not_nameChar_of_isBlank {c : Char} (h : Text.isBlank c = true) :
    CharSet.nameChar.contains c = false := by
  by_contra name
  simp only [CharSet.nameChar, CharSet.ofRanges, List.foldr, CharSet.contains, Bool.not_eq_false,
    Bool.or_eq_true, Bool.and_eq_true, decide_eq_true_eq, toNat_le_iff] at name
  simp only [Text.isBlank, Bool.or_eq_true, Bool.and_eq_true, decide_eq_true_eq, beq_iff_eq,
    toNat_le_iff, ← Char.toNat_inj] at h
  simp at h name
  omega

theorem Space.not_nameChar_head (s : Space) (v : List Char) :
    ∀ c ∈ (s.chars ++ v).head?, CharSet.nameChar.contains c = false := by
  intro c hc
  rw [List.head?_append_of_ne_nil _ s.ne_nil] at hc
  exact not_nameChar_of_isBlank (s.blank c (List.mem_of_mem_head? hc))

theorem not_nameChar_head {g v : List Char} {c : Char} (hg : ∀ d ∈ g, Text.isBlank d = true)
    (hc : CharSet.nameChar.contains c = false) :
    ∀ d ∈ (g ++ c :: v).head?, CharSet.nameChar.contains d = false := by
  intro d hd
  cases g with
  | nil =>
    rw [← Option.some.inj hd]
    exact hc
  | cons b g =>
    rw [← Option.some.inj hd]
    exact not_nameChar_of_isBlank (hg b List.mem_cons_self)

theorem Word.not_isBlank (w : Word) : ∀ c ∈ w.chars, Text.isBlank c = false := by
  intro c hc
  have name := w.name c hc
  cases hb : Text.isBlank c with
  | false => rfl
  | true =>
    rw [not_nameChar_of_isBlank hb] at name
    cases name

theorem Word.not_isBlank_head (w : Word) (v : List Char) :
    ∀ c ∈ (w.chars ++ v).head?, Text.isBlank c = false := by
  intro c hc
  rw [List.head?_append_of_ne_nil _ w.ne_nil] at hc
  exact w.not_isBlank c (List.mem_of_mem_head? hc)

theorem Word.nameChar_head (w : Word) (v : List Char) :
    ∀ c ∈ (w.chars ++ v).head?, CharSet.nameChar.contains c = true := by
  intro c hc
  rw [List.head?_append_of_ne_nil _ w.ne_nil] at hc
  exact w.name c (List.mem_of_mem_head? hc)

/-- A word goes on up to the first character that is in no name. -/
theorem Word.exists_longest (w : Word) (v : List Char) :
    ∃ (w' : Word) (v' : List Char), w.chars ++ v = w'.chars ++ v' ∧
      ∀ c ∈ v'.head?, CharSet.nameChar.contains c = false := by
  obtain ⟨e, v', rfl, chars, stop⟩ := Text.exists_run CharSet.nameChar.contains v
  refine ⟨⟨w.chars ++ e, by simp [w.ne_nil], ?_⟩, v', (List.append_assoc _ _ _).symm, stop⟩
  intro c hc
  rcases List.mem_append.1 hc with hc | hc
  · exact w.name c hc
  · exact chars c hc

section Runs

variable {σ : State} {v : List Char}

theorem head?_blanks (s : Space) (h : σ.rest = s.chars ++ v)
    (hv : ∀ c ∈ v.head?, Text.isBlank c = false) :
    (blanks.outcomes σ).head? = some (σ.advance s.chars v) :=
  head?_plus h s.ne_nil s.blank hv

theorem head?_name (w : Word) (h : σ.rest = w.chars ++ v)
    (hv : ∀ c ∈ v.head?, CharSet.nameChar.contains c = false) :
    (name.outcomes σ).head? = some (σ.advance w.chars v) :=
  head?_plus h w.ne_nil w.name hv

end Runs

theorem not_isBlank_head_as (v : List Char) :
    ∀ c ∈ ("as".toList ++ v).head?, Text.isBlank c = false := by
  rintro c ⟨⟩
  decide

/-! ### Namespaces -/

/-- A namespace binding up to its name. -/
def asterisk (s₁ s₂ : Space) : List Char := '*' :: s₁.chars ++ "as".toList ++ s₂.chars

theorem head?_asterisk {σ : State} {s₁ s₂ : Space} {v : List Char}
    (h : σ.rest = asterisk s₁ s₂ ++ v)
    (hv : ∀ c ∈ v.head?, Text.isBlank c = false) :
    ((cat [char '*', blanks, literal "as", blanks]).outcomes σ).head? =
      some (σ.advance (asterisk s₁ s₂) v) := by
  have h : σ.rest = '*' :: (s₁.chars ++ ("as".toList ++ (s₂.chars ++ v))) := by
    simpa [asterisk] using h
  have hs := head?_cat_cons (head?_char h)
    (head?_cat_cons (head?_blanks s₁ rfl (not_isBlank_head_as _))
      (head?_cat_cons (head?_literal rfl) (head?_cat_singleton (head?_blanks s₂ rfl hv))))
  simpa [asterisk] using hs

theorem groupCount_namespaceBinding : namespaceBinding.groupCount = 1 := by decide

theorem here?_namespaceBinding (s₁ s₂ : Space) (w : Word) {v : List Char} (before : Option Char)
    (hv : ∀ c ∈ v.head?, CharSet.nameChar.contains c = false) :
    namespaceBinding.here? before (asterisk s₁ s₂ ++ w.chars ++ v) =
      some ⟨[], asterisk s₁ s₂ ++ w.chars, v,
        [some (asterisk s₁ s₂ ++ w.chars), some w.chars]⟩ := by
  let σ : State := ⟨0, before, asterisk s₁ s₂ ++ w.chars ++ v, []⟩
  have opening := head?_asterisk (σ := σ) (v := w.chars ++ v) (List.append_assoc _ _ _)
    (w.not_isBlank_head v)
  have name := head?_group (g := 1)
    (head?_name (σ := (σ.advance (asterisk s₁ s₂) (w.chars ++ v)).mark 1 false) w rfl hv)
  have whole : (namespaceBinding.outcomes σ).head? = _ :=
    head?_cat_append opening (head?_cat_singleton name)
  rw [here?_of_head? whole, groupCount_namespaceBinding]
  exact congrArg some (cut_pass (by decide))

theorem namespaceBinding_begins {c : Char} {cs : List Char}
    (h : namespaceBinding.Begins (c :: cs)) : c = '*' := by
  obtain ⟨before, τ, hτ⟩ := exists_mem_outcomes_of_begins h
  simp only [namespaceBinding, mem_cat_cons, mem_char] at hτ
  obtain ⟨_, ⟨v, hv, -⟩, -⟩ := hτ
  exact (List.cons.inj hv).1

/-! ### Blocks -/

/-- A block, given what is between its braces. -/
def braces (inner : List Char) : List Char := '{' :: inner ++ ['}']

theorem head?_namedBlock {σ : State} {inner v : List Char} (h : σ.rest = braces inner ++ v)
    (hi : '}' ∉ inner) : (namedBlock.outcomes σ).head? = some (σ.advance (braces inner) v) := by
  have h : σ.rest = '{' :: (inner ++ ('}' :: v)) := by simpa [braces] using h
  have hs := head?_cat_cons (head?_char h)
    (head?_cat_cons (head?_upTo rfl hi) (head?_cat_singleton (head?_char rfl)))
  rw [namedBlock]
  simpa [braces] using hs

theorem here?_namedBlock {inner v : List Char} (before : Option Char) (hi : '}' ∉ inner) :
    namedBlock.here? before (braces inner ++ v) =
      some ⟨[], braces inner, v, [some (braces inner)]⟩ := by
  have whole := head?_namedBlock (σ := ⟨0, before, braces inner ++ v, []⟩) rfl hi
  rw [here?_of_head? whole, show namedBlock.groupCount = 0 from rfl]
  exact congrArg some cut_advance

theorem namedBlock_begins {c : Char} {cs : List Char} (h : namedBlock.Begins (c :: cs)) :
    c = '{' := by
  obtain ⟨before, τ, hτ⟩ := exists_mem_outcomes_of_begins h
  simp only [namedBlock, mem_cat_cons, mem_char] at hτ
  obtain ⟨_, ⟨v, hv, -⟩, -⟩ := hτ
  exact (List.cons.inj hv).1

/-! ### Renames -/

/-- What is between the two names of a rename. -/
def between (s₁ s₂ : Space) : List Char := s₁.chars ++ "as".toList ++ s₂.chars

theorem here?_renamedBinding (w₁ w₂ : Word) (s₁ s₂ : Space) {v : List Char} (before : Option Char)
    (hv : ∀ c ∈ v.head?, CharSet.nameChar.contains c = false) :
    renamedBinding.here? before (w₁.chars ++ between s₁ s₂ ++ w₂.chars ++ v) =
      some ⟨[], w₁.chars ++ between s₁ s₂ ++ w₂.chars, v,
        [some (w₁.chars ++ between s₁ s₂ ++ w₂.chars), some w₁.chars, some w₂.chars]⟩ := by
  let σ : State := ⟨0, before, w₁.chars ++ between s₁ s₂ ++ w₂.chars ++ v, []⟩
  let ρ₁ := σ.pass 1 w₁.chars (between s₁ s₂ ++ (w₂.chars ++ v))
  let ρ₂ := ρ₁.advance (between s₁ s₂) (w₂.chars ++ v)
  have first : ((group 1 name).outcomes σ).head? = some ρ₁ := by
    refine head?_group (head?_name w₁ ?_ ?_)
    · simp [σ]
    · rw [between, List.append_assoc, List.append_assoc]
      exact s₁.not_nameChar_head _
  have middle : ((cat [blanks, literal "as", blanks]).outcomes ρ₁).head? = some ρ₂ := by
    have ahead : ρ₁.rest = s₁.chars ++ ("as".toList ++ (s₂.chars ++ (w₂.chars ++ v))) := by
      simp [ρ₁, between]
    have hs := head?_cat_cons (head?_blanks s₁ ahead (not_isBlank_head_as _))
      (head?_cat_cons (head?_literal rfl)
        (head?_cat_singleton (head?_blanks s₂ rfl (w₂.not_isBlank_head v))))
    simpa [ρ₂, between] using hs
  have last : ((group 2 name).outcomes ρ₂).head? = some (ρ₂.pass 2 w₂.chars v) :=
    head?_group (head?_name (σ := ρ₂.mark 2 false) w₂ rfl hv)
  have whole : (renamedBinding.outcomes σ).head? = some (ρ₂.pass 2 w₂.chars v) :=
    head?_cat_cons first (head?_cat_append middle (head?_cat_singleton last))
  rw [here?_of_head? whole, show renamedBinding.groupCount = 2 from by decide]
  exact congrArg some (cut_pass_pass (a := []))

/-- A match takes a name and then a local name, with `as` and white space between them. -/
theorem exists_of_renamedBinding_begins {text : List Char} (h : renamedBinding.Begins text) :
    ∃ (w₁ : Word) (s₁ s₂ : Space) (w₂ : Word) (v : List Char),
      text = w₁.chars ++ (s₁.chars ++ ("as".toList ++ (s₂.chars ++ (w₂.chars ++ v)))) := by
  obtain ⟨before, τ, hτ⟩ := exists_mem_outcomes_of_begins h
  simp only [renamedBinding, name, blanks, plus, mem_cat_cons, mem_group, mem_plus, mem_literal]
    at hτ
  obtain ⟨_, ⟨_, ⟨w₁, v₁, h₁, ne₁, name₁, rfl⟩, rfl⟩, _, ⟨s₁, v₂, h₂, ne₂, blank₁, rfl⟩, _,
    ⟨v₃, h₃, rfl⟩, _, ⟨s₂, v₄, h₄, ne₃, blank₂, rfl⟩, _,
    ⟨_, ⟨w₂, v₅, h₅, ne₄, name₂, rfl⟩, rfl⟩, -⟩ := hτ
  refine ⟨⟨w₁, ne₁, name₁⟩, ⟨s₁, ne₂, blank₁⟩, ⟨s₂, ne₃, blank₂⟩, ⟨w₂, ne₄, name₂⟩, v₅, ?_⟩
  simp only [State.mark_rest, State.advance_rest] at h₁ h₂ h₃ h₄ h₅
  rw [h₁, h₂, h₃, h₄, h₅]

/-- No match begins in a word that is followed by other white space. -/
theorem renamedBinding_inert {w : Word} {g v : List Char} {c : Char}
    (hg : ∀ d ∈ g, Text.isBlank d = true) (hn : CharSet.nameChar.contains c = false)
    (hb : Text.isBlank c = false) (ha : c ≠ 'a') :
    Text.Inert renamedBinding.Begins w.chars (g ++ c :: v) := by
  rintro d hne hd h
  obtain ⟨w', s, s', w'', v', hw⟩ := exists_of_renamedBinding_begins h
  obtain ⟨-, hgap⟩ := Text.run_inj hw (fun e he => w.name e (hd.subset he)) w'.name
    (not_nameChar_head hg hn) (s.not_nameChar_head _)
  have stop' : ∀ e ∈ (c :: v).head?, Text.isBlank e = false := by
    intro e he
    rw [← Option.some.inj he]
    exact hb
  obtain ⟨-, has⟩ := Text.run_inj hgap hg s.blank stop' (not_isBlank_head_as _)
  exact ha (List.cons.inj has).1

theorem nameChar_of_renamedBinding_begins {c : Char} {cs : List Char}
    (h : renamedBinding.Begins (c :: cs)) : CharSet.nameChar.contains c = true := by
  obtain ⟨w, s, s', w', v, hw⟩ := exists_of_renamedBinding_begins h
  exact w.nameChar_head _ c (by rw [← hw]; rfl)

/-! ### All that is not the default binding -/

theorem nonDefault_eq : nonDefault =
    alt namedBlock (alt bareNamespace (one (.union (.only ',') .blank))) := rfl

theorem groupCount_nonDefault : nonDefault.groupCount = 0 := by decide

theorem outcomes_namedBlock_of_ne {σ : State} (h : σ.rest.head? ≠ some '{') :
    namedBlock.outcomes σ = [] := by
  rw [namedBlock, outcomes_cat_cons, outcomes_char, if_neg h]
  rfl

theorem outcomes_bareNamespace_of_ne {σ : State} (h : σ.rest.head? ≠ some '*') :
    bareNamespace.outcomes σ = [] := by
  rw [bareNamespace, outcomes_cat_cons, outcomes_char, if_neg h]
  rfl

theorem here?_nonDefault_block {inner v : List Char} (before : Option Char) (hi : '}' ∉ inner) :
    nonDefault.here? before (braces inner ++ v) =
      some ⟨[], braces inner, v, [some (braces inner)]⟩ := by
  have whole : (nonDefault.outcomes ⟨0, before, braces inner ++ v, []⟩).head? = _ :=
    head?_alt_left (head?_namedBlock rfl hi)
  rw [here?_of_head? whole, groupCount_nonDefault]
  exact congrArg some cut_advance

theorem here?_nonDefault_namespace (s₁ s₂ : Space) (w : Word) {v : List Char}
    (before : Option Char) (hv : ∀ c ∈ v.head?, CharSet.nameChar.contains c = false) :
    nonDefault.here? before (asterisk s₁ s₂ ++ w.chars ++ v) =
      some ⟨[], asterisk s₁ s₂ ++ w.chars, v, [some (asterisk s₁ s₂ ++ w.chars)]⟩ := by
  let σ : State := ⟨0, before, asterisk s₁ s₂ ++ w.chars ++ v, []⟩
  have opening := head?_asterisk (σ := σ) (v := w.chars ++ v) (List.append_assoc _ _ _)
    (w.not_isBlank_head v)
  have last := head?_name (σ := σ.advance (asterisk s₁ s₂) (w.chars ++ v)) w rfl hv
  have space : (bareNamespace.outcomes σ).head? = _ :=
    head?_cat_append opening (head?_cat_singleton last)
  rw [State.advance_advance] at space
  have block : namedBlock.outcomes σ = [] := outcomes_namedBlock_of_ne (by simp [σ, asterisk])
  have whole : (nonDefault.outcomes σ).head? = _ := head?_alt_right block (head?_alt_left space)
  rw [here?_of_head? whole, groupCount_nonDefault]
  exact congrArg some cut_advance

theorem here?_nonDefault_one {c : Char} {v : List Char} (before : Option Char)
    (hc : c = ',' ∨ Text.isBlank c = true) :
    nonDefault.here? before (c :: v) = some ⟨[], [c], v, [some [c]]⟩ := by
  let σ : State := ⟨0, before, [c] ++ v, []⟩
  have neither : c ≠ '{' ∧ c ≠ '*' := by
    constructor
    · rintro rfl
      exact absurd hc (by decide)
    · rintro rfl
      exact absurd hc (by decide)
  have block : namedBlock.outcomes σ = [] := outcomes_namedBlock_of_ne (by simp [σ, neither])
  have space : bareNamespace.outcomes σ = [] :=
    outcomes_bareNamespace_of_ne (by simp [σ, neither])
  have set : (CharSet.union (.only ',') .blank).contains c = true := by
    simpa [CharSet.contains] using hc
  have single : ((one (.union (.only ',') .blank)).outcomes σ).head? = some (σ.advance [c] v) := by
    simp [outcomes, State.readOne, σ, set, State.read_eq_advance]
  have whole : (nonDefault.outcomes σ).head? = _ :=
    head?_alt_right block (head?_alt_right space single)
  rw [show c :: v = [c] ++ v from rfl, here?_of_head? whole, groupCount_nonDefault]
  exact congrArg some cut_advance

theorem nonDefault_begins {c : Char} {cs : List Char} (h : nonDefault.Begins (c :: cs)) :
    CharSet.nameChar.contains c = false := by
  obtain ⟨before, τ, hτ⟩ := exists_mem_outcomes_of_begins h
  rw [nonDefault_eq] at hτ
  rcases List.mem_append.1 hτ with hτ | hτ
  · simp only [namedBlock, mem_cat_cons, mem_char] at hτ
    obtain ⟨_, ⟨v, hv, -⟩, -⟩ := hτ
    rw [(List.cons.inj hv).1]
    decide
  · rcases List.mem_append.1 hτ with hτ | hτ
    · simp only [bareNamespace, mem_cat_cons, mem_char] at hτ
      obtain ⟨_, ⟨v, hv, -⟩, -⟩ := hτ
      rw [(List.cons.inj hv).1]
      decide
    · obtain ⟨d, v, hv, hd, -⟩ := mem_one.1 hτ
      rw [(List.cons.inj hv).1]
      rcases Bool.or_eq_true_iff.1 hd with hd | hd
      · rw [CharSet.contains_only, decide_eq_true_eq] at hd
        rw [hd]
        decide
      · exact not_nameChar_of_isBlank hd

/-! ### Identifiers -/

/-- An identifier. -/
structure Name extends Word where
  start : ∀ c ∈ chars.head?, CharSet.nameStart.contains c = true

theorem identifier_isMatch (n : Name) : identifier.isMatch n.chars = true := by
  obtain ⟨⟨chars, ne_nil, name⟩, start⟩ := n
  cases chars with
  | nil => exact absurd rfl ne_nil
  | cons c cs =>
    let σ : State := ⟨0, none, c :: cs, []⟩
    let ρ := σ.advance [c] cs
    have first : ((one .nameStart).outcomes σ).head? = some ρ := by
      simp [outcomes, State.readOne, σ, start c rfl, State.read_eq_advance, ρ]
    have others : ((star (one .nameChar)).outcomes ρ).head? = some (ρ.advance cs []) :=
      head?_star (List.append_nil _).symm (fun d hd => name d (List.mem_cons_of_mem c hd)) (by simp)
    have whole : (identifier.outcomes σ).head? = some (ρ.advance cs []) :=
      head?_cat_cons (ρ := σ) rfl
        (head?_cat_cons first (head?_cat_cons others (head?_cat_singleton rfl)))
    have here : (identifier.firstAt 0 none (c :: cs)).isSome = true := by
      rw [firstAt, whole]
      rfl
    rw [isMatch, search_eq_leftmost identifier_productive, leftmost, Option.isSome_or, here,
      Bool.true_or]

end GlobalImports.Clause
