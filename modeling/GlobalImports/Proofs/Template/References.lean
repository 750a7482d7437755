import GlobalImports.Proofs.Builder.Steps
import GlobalImports.Proofs.Regex.Runs
import GlobalImports.Proofs.Regex.Tokens
import GlobalImports.Proofs.Text.Run

/-! References of templates. The sweep that checks a template sees what expansion refers to, as both
go on at the same place behind every dollar sign. So a builder warns of the references that no group
answers to and of nothing else, and those are the ones that stand for nothing in any expansion. -/

namespace GlobalImports.Template

open Regex

/-- What a part of a template refers to. -/
def Part.reference? : Part → Option (List Char)
  | literal _ => none
  | reference name => some name

/-- The references that expansion comes upon, in order. -/
def expanded (template : String) : List (List Char) :=
  (parts template.toList).filterMap Part.reference?

/-! ### What the sweep matches -/

section Sweep

variable {text u v : List Char}

theorem referenceRegex_productive : referenceRegex.productive = true := by decide

theorem groupCount_referenceRegex : referenceRegex.groupCount = 2 := by decide

theorem referenceRegex_eq : referenceRegex = alt escape (alt braced bare) := rfl

theorem isNameChar_eq (c : Char) : isNameChar c = CharSet.asciiWord.contains c := by
  apply Bool.eq_iff_iff.2
  unfold isNameChar Char.isAlphanum Char.isAlpha Char.isUpper Char.isLower Char.isDigit
  simp only [CharSet.asciiWord, CharSet.ofRanges, List.foldr, CharSet.contains, Char.le_def,
    UInt32.le_iff_toNat_le, ← Char.toNat_inj, Bool.or_eq_true, Bool.and_eq_true, decide_eq_true_eq,
    beq_iff_eq]
  simp
  omega

/-- The ways in which a match can begin. -/
theorem exists_of_referenceRegex_begins (h : referenceRegex.Begins text) :
    (∃ v, text = '$' :: '$' :: v) ∨ (∃ u v, text = '$' :: '{' :: (u ++ '}' :: v)) ∨
      ∃ c v, text = '$' :: c :: v ∧ isNameChar c = true := by
  obtain ⟨before, τ, hτ⟩ := exists_mem_outcomes_of_begins h
  rw [referenceRegex_eq] at hτ
  rcases List.mem_append.1 hτ with hτ | hτ
  · simp only [escape, mem_cat_cons, mem_char] at hτ
    obtain ⟨_, ⟨v₁, h₁, rfl⟩, _, ⟨v₂, h₂, rfl⟩, -⟩ := hτ
    rw [State.advance_rest] at h₂
    exact .inl ⟨v₂, by rw [h₁, h₂]⟩
  · rcases List.mem_append.1 hτ with hτ | hτ
    · simp only [braced, Regex.star, mem_cat_cons, mem_char, mem_group, mem_star] at hτ
      obtain ⟨_, ⟨v₁, h₁, rfl⟩, _, ⟨v₂, h₂, rfl⟩, _, ⟨_, ⟨u, v₃, h₃, -, rfl⟩, rfl⟩, _,
        ⟨v₄, h₄, rfl⟩, -⟩ := hτ
      simp only [State.mark_rest, State.advance_rest] at h₁ h₂ h₃ h₄
      exact .inr (.inl ⟨u, v₄, by rw [h₁, h₂, h₃, h₄]⟩)
    · simp only [bare, plus, mem_cat_cons, mem_char, mem_group, mem_plus] at hτ
      obtain ⟨_, ⟨v₁, h₁, rfl⟩, _, ⟨_, ⟨u, v₂, h₂, hne, hu, rfl⟩, rfl⟩, -⟩ := hτ
      simp only [State.mark_rest, State.advance_rest] at h₁ h₂
      cases u with
      | nil => exact absurd rfl hne
      | cons c u =>
        refine .inr (.inr ⟨c, u ++ v₂, by rw [h₁, h₂, List.cons_append], ?_⟩)
        rw [isNameChar_eq]
        exact hu c List.mem_cons_self

theorem here?_escape (before : Option Char) :
    referenceRegex.here? before (['$', '$'] ++ v) =
      some ⟨[], ['$', '$'], v, [some ['$', '$'], none, none]⟩ := by
  let σ : State := ⟨0, before, ['$', '$'] ++ v, []⟩
  have both := head?_cat_cons (head?_char (σ := σ) rfl) (head?_cat_singleton (head?_char rfl))
  have whole : (referenceRegex.outcomes σ).head? = some (σ.advance ['$', '$'] v) := by
    rw [State.advance_advance] at both
    exact head?_alt_left both
  rw [here?_of_head? whole, groupCount_referenceRegex]
  exact congrArg some cut_advance_only

theorem here?_braced (before : Option Char) (hu : '}' ∉ u) :
    referenceRegex.here? before (['$', '{'] ++ u ++ ['}'] ++ v) =
      some ⟨[], ['$', '{'] ++ u ++ ['}'], v,
        [some (['$', '{'] ++ u ++ ['}']), some u, none]⟩ := by
  let σ : State := ⟨0, before, ['$', '{'] ++ u ++ ['}'] ++ v, []⟩
  let ρ := σ.advance ['$', '{'] (u ++ ['}'] ++ v)
  have opening : ((cat [char '$', char '{']).outcomes σ).head? = some ρ := by
    have dollar := head?_char (σ := σ) (c := '$') (v := '{' :: (u ++ ['}'] ++ v)) (by simp [σ])
    have both := head?_cat_cons dollar (head?_cat_singleton (head?_char rfl))
    rwa [State.advance_advance] at both
  have name : ((group 1 (star (one (.compl (.only '}'))))).outcomes ρ).head? =
      some (ρ.pass 1 u (['}'] ++ v)) :=
    head?_group (head?_upTo (by simp [ρ]) hu)
  have reference := head?_cat_append opening
    (head?_cat_cons name (head?_cat_singleton (head?_char (v := v) rfl)))
  have none : escape.outcomes σ = [] := by
    rw [List.eq_nil_iff_forall_not_mem]
    intro τ hτ
    simp [escape, σ] at hτ
  have whole : (referenceRegex.outcomes σ).head? = _ :=
    head?_alt_right none (head?_alt_left reference)
  rw [here?_of_head? whole, groupCount_referenceRegex]
  exact congrArg some (cut_pass_only (by decide))

theorem here?_bare (before : Option Char) (hne : u ≠ []) (hu : ∀ c ∈ u, isNameChar c = true)
    (hv : ∀ c ∈ v.head?, isNameChar c = false) :
    referenceRegex.here? before (['$'] ++ u ++ v) =
      some ⟨[], ['$'] ++ u, v, [some (['$'] ++ u), none, some u]⟩ := by
  let σ : State := ⟨0, before, ['$'] ++ u ++ v, []⟩
  let ρ := σ.advance ['$'] (u ++ v)
  simp only [isNameChar_eq] at hu hv
  have dollar : ((char '$').outcomes σ).head? = some ρ := head?_char (by simp [σ])
  have name : ((group 2 (plus (one .asciiWord))).outcomes ρ).head? = some (ρ.pass 2 u v) :=
    head?_group (head?_plus rfl hne hu hv)
  have reference := head?_cat_cons dollar (head?_cat_singleton name)
  have first {c : Char} {w : List Char} (h : u ++ v = c :: w) :
      CharSet.asciiWord.contains c = true := by
    refine hu c (List.mem_of_mem_head? ?_)
    rw [← List.head?_append_of_ne_nil _ hne, h]
    rfl
  have none₁ : escape.outcomes σ = [] := by
    rw [List.eq_nil_iff_forall_not_mem]
    intro τ hτ
    simp only [escape, mem_cat_cons, mem_char] at hτ
    obtain ⟨_, ⟨v₁, h₁, rfl⟩, _, ⟨v₂, h₂, rfl⟩, -⟩ := hτ
    rw [State.advance_rest, ← (List.cons.inj h₁).2] at h₂
    exact absurd (first h₂) (by decide)
  have none₂ : braced.outcomes σ = [] := by
    rw [List.eq_nil_iff_forall_not_mem]
    intro τ hτ
    simp only [braced, mem_cat_cons, mem_char] at hτ
    obtain ⟨_, ⟨v₁, h₁, rfl⟩, _, ⟨v₂, h₂, rfl⟩, -⟩ := hτ
    rw [State.advance_rest, ← (List.cons.inj h₁).2] at h₂
    exact absurd (first h₂) (by decide)
  have whole : (referenceRegex.outcomes σ).head? = _ :=
    head?_alt_right none₁ (head?_alt_right none₂ reference)
  rw [here?_of_head? whole, groupCount_referenceRegex]
  exact congrArg some (cut_pass (by decide))

end Sweep

/-! ### The sweep and the pass -/

theorem references_eq {template : String} {ts : List Token}
    (h : referenceRegex.Reads template.toList ts) :
    references template = (ts.filterMap Token.hit?).filterMap referenceOf? := by
  rw [← h none, ← hits_eq _ referenceRegex_productive, List.filterMap_map]
  rfl

/-- At each place the sweep takes what the pass takes. -/
theorem exists_reads (cs : List Char) :
    ∃ ts, referenceRegex.Reads cs ts ∧
      (ts.filterMap Token.hit?).filterMap referenceOf? = (parts cs).filterMap Part.reference? := by
  fun_induction parts cs with
  | case1 => exact ⟨[], reads_nil _, rfl⟩
  | case2 r ih =>
    obtain ⟨ts, reads, same⟩ := ih
    have hit := reads.hit (f := ⟨[], ['$', '$'], r, _⟩) (by simp) fun before => here?_escape before
    exact ⟨_, hit, same⟩
  | case3 r closed ih =>
    obtain ⟨ts, reads, same⟩ := ih
    obtain ⟨u, v, rfl, hu⟩ := List.eq_append_cons_of_mem (List.contains_iff_mem.1 closed)
    rw [Text.dropWhile_bne hu] at reads same
    rw [Text.takeWhile_bne hu, Text.dropWhile_bne hu]
    have hit := reads.hit (f := ⟨[], ['$', '{'] ++ u ++ ['}'], v, _⟩) (by simp)
      fun before => here?_braced before hu
    have text : ['$', '{'] ++ u ++ ['}'] ++ v = '$' :: '{' :: (u ++ '}' :: v) := by simp
    rw [← text]
    exact ⟨_, hit, congrArg (u :: ·) same⟩
  | case4 r unclosed ih =>
    obtain ⟨ts, reads, same⟩ := ih
    have inner := reads.char (c := '{') fun hb => by
      rcases exists_of_referenceRegex_begins hb with ⟨v, h⟩ | ⟨u, v, h⟩ | ⟨c, v, h, -⟩
      · exact absurd (List.cons.inj h).1 (by decide)
      · exact absurd (List.cons.inj h).1 (by decide)
      · exact absurd (List.cons.inj h).1 (by decide)
    have outer := inner.char (c := '$') fun hb => by
      rcases exists_of_referenceRegex_begins hb with ⟨v, h⟩ | ⟨u, v, h⟩ | ⟨c, v, h, hc⟩
      · simp at h
      · simp only [List.cons.injEq, true_and] at h
        exact unclosed (by simp [h])
      · simp only [List.cons.injEq, true_and] at h
        rw [← h.1] at hc
        exact absurd hc (by decide)
    exact ⟨_, outer, same⟩
  | case5 r h₁ h₂ name none ih =>
    obtain ⟨ts, reads, same⟩ := ih
    refine ⟨_, reads.char (c := '$') fun hb => ?_, same⟩
    rcases exists_of_referenceRegex_begins hb with ⟨v, h⟩ | ⟨u, v, h⟩ | ⟨c, v, h, hc⟩
    · exact h₁ v (List.cons.inj h).2
    · exact h₂ _ (List.cons.inj h).2
    · simp [name, (List.cons.inj h).2, hc] at none
  | case6 r h₁ h₂ name some ih =>
    obtain ⟨ts, reads, same⟩ := ih
    obtain ⟨u, v, rfl, run, stop⟩ := Text.exists_run isNameChar r
    rw [Text.dropWhile_eq_rest run stop] at reads same
    have taken : name = u := Text.takeWhile_eq_run run stop
    rw [taken] at some ⊢
    rw [Text.dropWhile_eq_rest run stop]
    have hit := reads.hit (f := ⟨[], ['$'] ++ u, v, _⟩) (by simp)
      fun before => here?_bare before (by simpa using some) run stop
    exact ⟨_, hit, congrArg (u :: ·) same⟩
  | case7 c r h₁ h₂ h₃ ih =>
    obtain ⟨ts, reads, same⟩ := ih
    refine ⟨_, reads.char fun hb => ?_, same⟩
    rcases exists_of_referenceRegex_begins hb with ⟨v, h⟩ | ⟨u, v, h⟩ | ⟨d, v, h, -⟩
    · exact h₃ (List.cons.inj h).1
    · exact h₃ (List.cons.inj h).1
    · exact h₃ (List.cons.inj h).1

/-- The sweep sees what expansion refers to, in order and with repetitions. -/
theorem references_eq_expanded (template : String) : references template = expanded template := by
  obtain ⟨ts, reads, same⟩ := exists_reads template.toList
  rw [references_eq reads, same, expanded]

/-! ### Groups -/

/-- The reference means group `g` of the pattern: by number if it spells one, by name otherwise. -/
def Denotes (p : Pattern) (name : List Char) (g : Nat) : Prop :=
  g ≤ p.regex.groupCount ∧
    (index? name = some g ∨ index? name = none ∧ p.names[g]? = some (some (String.ofList name)))

instance (p : Pattern) (name : List Char) : Decidable (∃ g, Denotes p name g) :=
  inferInstanceAs (Decidable (∃ g, g ≤ _ ∧ _))

section Groups

variable {pattern : String} {p : Pattern} {name : List Char}

theorem groupCount_of_read (h : Pattern.read pattern = .ok p) :
    p.groupCount = p.regex.groupCount + 1 := by
  rw [Pattern.read] at h
  cases hr : (Pattern.whole.run { rest := pattern.toList } : Except _ _) with
  | error fault =>
    rw [hr] at h
    cases h
  | ok read =>
    rw [hr] at h
    obtain rfl := Except.ok.inj h
    simp [Pattern.groupCount]

theorem isKnown_iff (h : Pattern.read pattern = .ok p) :
    isKnown p name = true ↔ ∃ g, Denotes p name g := by
  have count := groupCount_of_read h
  rw [isKnown]
  cases hi : index? name with
  | some i =>
    simp only [Denotes, hi, decide_eq_true_eq, Option.some.injEq, reduceCtorEq, false_and, or_false]
    constructor
    · intro less
      exact ⟨i, by omega, rfl⟩
    · rintro ⟨g, le, rfl⟩
      omega
  | none =>
    simp only [Denotes, hi, List.contains_iff_mem, List.mem_iff_getElem?, reduceCtorEq, true_and,
      false_or]
    constructor
    · rintro ⟨g, hg⟩
      have less := (List.getElem?_eq_some_iff.1 hg).1
      exact ⟨g, by rw [Pattern.groupCount] at count; omega, hg⟩
    · rintro ⟨g, -, hg⟩
      exact ⟨g, hg⟩

theorem captures?_eq_some {specifier : String} {c : Captures}
    (hc : p.captures? specifier = some c) :
    c.names = p.names ∧ c.texts.length = p.regex.groupCount + 1 := by
  obtain ⟨f, hf, rfl⟩ := Option.map_eq_some_iff.1 hc
  obtain ⟨m, -, rfl⟩ := Option.map_eq_some_iff.1 hf
  exact ⟨rfl, by simp [Match.cut]⟩

/-- A reference that means no group stands for nothing in any expansion. -/
theorem expand_reference_eq_nil (h : Pattern.read pattern = .ok p) {specifier : String}
    {c : Captures} (hc : p.captures? specifier = some c) (free : ¬∃ g, Denotes p name g) :
    Part.expand c (.reference name) = [] := by
  obtain ⟨names, texts⟩ := captures?_eq_some hc
  have count := groupCount_of_read h
  have none : lookup? c name = none := by
    unfold lookup?
    cases hi : index? name with
    | some i =>
      have beyond : p.regex.groupCount < i := by
        by_contra le
        exact free ⟨i, by omega, .inl hi⟩
      have outside : c.texts[i]? = none := List.getElem?_eq_none (by omega)
      simp [Captures.get?, outside]
    | none =>
      have unnamed : some (String.ofList name) ∉ c.names := by
        intro hm
        rw [names] at hm
        obtain ⟨g, hg⟩ := List.mem_iff_getElem?.1 hm
        have less := (List.getElem?_eq_some_iff.1 hg).1
        rw [Pattern.groupCount] at count
        exact free ⟨g, by omega, .inr ⟨hi, hg⟩⟩
      simp [Captures.named?, List.idxOf?_eq_none_iff.2 unnamed]
  simp [Part.expand, none]

end Groups

/-! ### Warnings and sources -/

/-- The references that mean no group of the pattern. -/
def dangling (p : Pattern) (template : String) : List (List Char) :=
  (expanded template).filter fun name => ¬∃ g, Denotes p name g

/-- All parts but the references that mean no group. -/
def sound (p : Pattern) (template : String) : List Part :=
  (parts template.toList).filter fun part => ∀ name ∈ part.reference?, ∃ g, Denotes p name g

/-- What is said of a template of a pattern when a replacer is built, and what becomes of it in the
sources of specifiers. -/
structure Checked (pattern template : String) (p : Pattern) : Prop where
  /-- The sweep sees what expansion refers to, in order and with repetitions, -/
  references : references template = expanded template
  /-- and of that each reference to no group is warned about, and nothing else. -/
  warnings : ∀ steps earlier later,
    Builder.patternsOf steps = earlier ++ (pattern, .template template) :: later →
      (Builder.ofSteps steps).warnings = earlier.flatMap Builder.warningsFor ++
        (dangling p template).map
          (fun name => .unknownReference pattern (String.ofList name) template) ++
        later.flatMap Builder.warningsFor
  /-- It stands for nothing, whatever the pattern has matched, -/
  empty : ∀ specifier captures, p.captures? specifier = some captures →
    ∀ name ∈ dangling p template, Part.expand captures (.reference name) = []
  /-- so that sources are made of the other parts. -/
  source : ∀ steps specifier captures,
    Builder.IsFirst steps specifier (pattern, .template template) captures →
      (∀ source, Builder.IsLast steps specifier source → source = "") →
        (Builder.ofSteps steps).build.source? specifier =
          (some (String.ofList ((sound p template).flatMap (Part.expand captures)))).filter (· ≠ "")
  /-- Without a warning, every reference means a group. -/
  known : Builder.warningsFor (pattern, .template template) = [] →
    ∀ name ∈ expanded template, ∃ g, Denotes p name g

section Checked

variable {pattern : String} {p : Pattern} (template : String)

theorem unknownReferences_eq (h : Pattern.read pattern = .ok p) :
    unknownReferences p template = (dangling p template).map String.ofList := by
  rw [unknownReferences, dangling, references_eq_expanded]
  congr 2
  funext name
  have known : isKnown p name = decide (∃ g, Denotes p name g) := by
    rw [Bool.eq_iff_iff, isKnown_iff h, decide_eq_true_iff]
  rw [known, decide_not]

theorem warningsFor_eq (h : Pattern.read pattern = .ok p) :
    Builder.warningsFor (pattern, .template template) = (dangling p template).map
      fun name => .unknownReference pattern (String.ofList name) template := by
  rw [Builder.warningsFor, h]
  dsimp only
  rw [unknownReferences_eq template h, List.map_map]
  rfl

theorem flatMap_sound (h : Pattern.read pattern = .ok p) {specifier : String} {c : Captures}
    (hc : p.captures? specifier = some c) :
    (parts template.toList).flatMap (Part.expand c) =
      (sound p template).flatMap (Part.expand c) := by
  rw [sound]
  induction parts template.toList with
  | nil => rfl
  | cons part ps ih =>
    by_cases keep : ∀ name ∈ part.reference?, ∃ g, Denotes p name g
    · rw [List.filter_cons_of_pos (by simpa using keep), List.flatMap_cons, List.flatMap_cons, ih]
    · have gone : part.expand c = [] := by
        cases part with
        | literal d => simp [Part.reference?] at keep
        | reference name =>
          refine expand_reference_eq_nil h hc fun means => keep ?_
          rintro _ ⟨⟩
          exact means
      rw [List.filter_cons_of_neg (by simpa using keep), List.flatMap_cons, gone, ih]
      rfl

/-- The check of templates agrees with their expansion. -/
theorem checked_of_read (h : Pattern.read pattern = .ok p) : Checked pattern template p where
  references := references_eq_expanded template
  warnings steps earlier later split := by
    rw [Builder.ofSteps_eq, Builder.warnings, split, List.flatMap_append, List.flatMap_cons,
      warningsFor_eq template h, List.append_assoc]
  empty specifier captures hc name hn :=
    expand_reference_eq_nil h hc (by simpa using (List.mem_filter.1 hn).2)
  source steps specifier captures first exact := by
    obtain ⟨p', read, hc⟩ := first.matched
    obtain rfl : p' = p := Except.ok.inj (read.symm.trans h)
    rw [Builder.source?_of_no_last exact,
      (Builder.patternSource?_eq_some_iff steps).2 ⟨_, _, first, rfl⟩]
    rw [← flatMap_sound template h hc]
    rfl
  known none name hn := by
    rw [warningsFor_eq template h, List.map_eq_nil_iff] at none
    simpa using List.filter_eq_nil_iff.1 none name hn

end Checked

theorem checked_longest_name :
    ∃ p, Pattern.read "(a)" = .ok p ∧ Checked "(a)" "$1$$1-$1a" p ∧
      dangling p "$1$$1-$1a" = [['1', 'a']] := by
  have read : Pattern.read "(a)" = .ok ⟨.group 1 (.one (.range 'a' 'a')), [none, none]⟩ := by
    decide +kernel
  exact ⟨_, read, checked_of_read "$1$$1-$1a" read, by decide +kernel⟩

end GlobalImports.Template
