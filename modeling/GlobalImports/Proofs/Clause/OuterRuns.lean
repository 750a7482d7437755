import GlobalImports.Proofs.Clause.Pass

/-! The default binding of a clause, found in its text. The runs of name characters that lie outside
all blocks and all namespace bindings, put together, are the default binding. A proper clause has
one such run at most; with several, nothing is lost, but they are bound as one name. -/

namespace GlobalImports.Clause

open Regex

/-! ### Runs outside of pieces -/

/-- No block and no namespace binding of `u ++ w ++ v` reaches into `w`. If there is nothing in `w`,
none goes across the place between `u` and `v`. -/
def Outside (u w v : List Char) : Prop :=
  ∀ a piece b, a ++ piece ++ b = u ++ w ++ v → IsPiece piece →
    (a ++ piece).length ≤ u.length ∨ (u ++ w).length ≤ a.length

/-- `w` is a maximal run of name characters of `u ++ w ++ v`, outside of all blocks and namespace
bindings. -/
structure OuterRun (u w v : List Char) : Prop where
  ne_nil : w ≠ []
  name : ∀ c ∈ w, CharSet.nameChar.contains c = true
  before : ∀ c ∈ u.getLast?, CharSet.nameChar.contains c = false
  behind : ∀ c ∈ v.head?, CharSet.nameChar.contains c = false
  outside : Outside u w v

/-- All outer runs of a text from left to right, each with what is in front of it. -/
structure OuterRuns (text : List Char) (runs : List (List Char × List Char)) : Prop where
  mem_iff : ∀ u w, (u, w) ∈ runs ↔ ∃ v, text = u ++ w ++ v ∧ OuterRun u w v
  sorted : runs.Pairwise fun r r' => r.1.length < r'.1.length

/-! ### Pieces -/

section Pieces

variable {piece p q : List Char}

/-- Pieces begin with a character that is in no name and no separator. -/
theorem IsPiece.exists_mem {b rest : List Char} (h : IsPiece piece) (hs : piece ++ b = p ++ rest)
    (hp : p ≠ []) : '{' ∈ p ∨ '*' ∈ p := by
  cases p with
  | nil => exact absurd rfl hp
  | cons c cs =>
    rcases h with ⟨inner, -, rfl⟩ | ⟨s₁, s₂, w, rfl⟩
    · rw [← (List.cons.inj hs).1]
      exact .inl List.mem_cons_self
    · rw [← (List.cons.inj hs).1]
      exact .inr List.mem_cons_self

/-- A closing brace is the end of a piece. -/
theorem IsPiece.not_mem_of_append (h : IsPiece (p ++ q)) (hq : q ≠ []) : '}' ∉ p := by
  intro hp
  rcases h with ⟨inner, hi, h⟩ | ⟨s₁, s₂, w, h⟩
  · have cut := congrArg List.dropLast h
    rw [List.dropLast_append_of_ne_nil hq, braces, List.dropLast_concat] at cut
    have mem : '}' ∈ '{' :: inner := cut ▸ List.mem_append_left _ hp
    simp [hi] at mem
  · have brace : '}' ∉ asterisk s₁ s₂ ++ w.chars := not_mem_namespace (by decide) (by decide)
    exact brace (h ▸ List.mem_append_left q hp)

/-- A namespace binding takes its name up to the last character. -/
theorem IsPiece.eq_nil_of_append {s₁ s₂ : Space} {w : Word}
    (h : IsPiece (asterisk s₁ s₂ ++ w.chars ++ q))
    (hq : ∀ c ∈ q.head?, CharSet.nameChar.contains c = false) : q = [] := by
  rcases h with ⟨inner, -, h⟩ | ⟨s₁', s₂', w', h⟩
  · exact absurd (List.cons.inj h).1 (by decide)
  · have h : s₁.chars ++ ("as".toList ++ (s₂.chars ++ (w.chars ++ q))) =
        s₁'.chars ++ ("as".toList ++ (s₂'.chars ++ w'.chars)) := by
      simpa [asterisk] using h
    obtain ⟨-, h⟩ := Text.run_inj h s₁.blank s₁'.blank (not_isBlank_head_as _)
      (not_isBlank_head_as _)
    have h := List.append_cancel_left h
    have stop := w'.not_isBlank_head []
    rw [List.append_nil] at stop
    obtain ⟨-, h⟩ := Text.run_inj h s₂.blank s₂'.blank (w.not_isBlank_head q) stop
    rw [← List.append_nil w'.chars] at h
    exact (Text.run_inj h w.name w'.name hq (by simp)).2

end Pieces

/-! ### Places that no piece goes across -/

section Outside

variable {a b s u x rest piece : List Char}

/-- Where a place is inside of `x`. -/
theorem exists_split (h : a ++ s = u ++ x ++ rest) (h₁ : u.length ≤ a.length)
    (h₂ : a.length < (u ++ x).length) :
    ∃ a' p, a = u ++ a' ∧ x = a' ++ p ∧ p ≠ [] ∧ s = p ++ rest := by
  obtain ⟨a', rfl⟩ : u <+: a := by
    refine List.prefix_of_prefix_length_le ?_ (List.prefix_append a s) h₁
    rw [h, List.append_assoc]
    exact List.prefix_append _ _
  rw [List.append_assoc, List.append_assoc] at h
  rcases List.append_eq_append_iff.1 (List.append_cancel_left h) with ⟨p, hp, hs⟩ | ⟨e, he, -⟩
  · refine ⟨a', p, rfl, hp, ?_, hs⟩
    rintro rfl
    simp [hp] at h₂
  · rw [he] at h₂
    simp only [List.length_append] at h₂
    omega

/-- A piece that reaches into `x` begins in it, if no piece goes across the place before it. -/
theorem Outside.exists_split (h : Outside u [] (x ++ rest)) (hp : IsPiece piece)
    (hab : a ++ piece ++ b = u ++ x ++ rest) (h₁ : u.length < (a ++ piece).length)
    (h₂ : a.length < (u ++ x).length) :
    ∃ a' p, x = a' ++ p ∧ a = u ++ a' ∧ p ≠ [] ∧ piece ++ b = p ++ rest := by
  have behind : u.length ≤ a.length := by
    rcases h a piece b (by simpa using hab) hp with before | behind
    · omega
    · simpa using behind
  rw [List.append_assoc] at hab
  obtain ⟨a', p, ha, hx, hne, hs⟩ := Clause.exists_split hab behind h₂
  exact ⟨a', p, hx, ha, hne, hs⟩

/-- The place behind `x`, if no piece goes on there that begins in `x`. -/
theorem Outside.append (h : Outside u [] (x ++ rest))
    (hx : ∀ a p q b, x = a ++ p → p ≠ [] → rest = q ++ b → q ≠ [] → ¬IsPiece (p ++ q)) :
    Outside (u ++ x) [] rest := by
  intro a piece b hab hp
  rw [List.append_nil] at hab ⊢
  by_contra across
  obtain ⟨h₂, h₃⟩ : a.length < (u ++ x).length ∧ (u ++ x).length < (a ++ piece).length := by omega
  have h₁ : u.length < (a ++ piece).length := by
    rw [List.length_append] at h₃
    omega
  obtain ⟨a', p, rfl, rfl, hne, hs⟩ := h.exists_split hp hab h₁ h₂
  rcases List.append_eq_append_iff.1 hs with ⟨q, hq, -⟩ | ⟨q, hq, hr⟩
  · rw [hq] at h₃
    simp only [List.length_append] at h₃
    omega
  · subst hq
    refine hx a' p q b rfl hne hr ?_ hp
    rintro rfl
    simp at h₃

/-- No piece begins in such text, so none goes on behind it. -/
theorem Outside.append_of_not_mem (h : Outside u [] (x ++ rest)) (h₁ : '{' ∉ x) (h₂ : '*' ∉ x) :
    Outside (u ++ x) [] rest := by
  refine h.append fun a p q b hx hne _ _ hp => ?_
  rw [hx] at h₁ h₂
  rcases hp.exists_mem (List.append_nil _) hne with hc | hc
  · exact h₁ (List.mem_append_right a hc)
  · exact h₂ (List.mem_append_right a hc)

theorem Outside.of_name (h : Outside u [] (x ++ rest)) (h₁ : '{' ∉ x) (h₂ : '*' ∉ x) :
    Outside u x rest := by
  intro a piece b hab hp
  by_contra into
  obtain ⟨h₃, h₄⟩ : a.length < (u ++ x).length ∧ u.length < (a ++ piece).length := by omega
  obtain ⟨a', p, rfl, rfl, hne, hs⟩ := h.exists_split hp hab h₄ h₃
  rcases hp.exists_mem hs hne with hc | hc
  · exact h₁ (List.mem_append_right a' hc)
  · exact h₂ (List.mem_append_right a' hc)

theorem Outside.append_block {inner : List Char} (h : Outside u [] (braces inner ++ rest)) :
    Outside (u ++ braces inner) [] rest := by
  refine h.append fun a p q b hx hne _ hq hp => hp.not_mem_of_append hq ?_
  have last : p.getLast? = some '}' := by
    rw [← List.getLast?_append_of_ne_nil a hne, ← hx, braces, List.getLast?_concat]
  exact List.mem_of_getLast? last

theorem Outside.append_namespace {s₁ s₂ : Space} {w : Word}
    (h : Outside u [] (asterisk s₁ s₂ ++ w.chars ++ rest))
    (stop : ∀ c ∈ rest.head?, CharSet.nameChar.contains c = false) :
    Outside (u ++ (asterisk s₁ s₂ ++ w.chars)) [] rest := by
  refine h.append fun a p q b hx hne hr hq hp => ?_
  cases a with
  | nil =>
    rw [List.nil_append] at hx
    rw [← hx] at hp
    refine hq (hp.eq_nil_of_append fun c hc => stop c ?_)
    rw [hr, List.head?_append_of_ne_nil _ hq]
    exact hc
  | cons d a =>
    -- in the middle of a namespace binding nothing begins
    have inner : between s₁ s₂ ++ w.chars = a ++ p := (List.cons.inj hx).2
    rcases hp.exists_mem (List.append_nil _) hne with hc | hc
    · exact not_mem_between (by decide) (inner ▸ List.mem_append_right a hc)
    · exact not_mem_between (by decide) (inner ▸ List.mem_append_right a hc)

end Outside

/-! ### Runs from a place on -/

/-- A place that no piece and no name goes across. -/
structure Cut (u rest : List Char) : Prop where
  outside : Outside u [] rest
  stops : (∀ c ∈ u.getLast?, CharSet.nameChar.contains c = false) ∨
    ∀ c ∈ rest.head?, CharSet.nameChar.contains c = false

theorem not_nameChar_of_isSeparator {c : Char} (h : isSeparator c = true) :
    CharSet.nameChar.contains c = false := by
  rcases Bool.or_eq_true_iff.1 h with h | h
  · rw [eq_of_beq h]
    decide
  · exact not_nameChar_of_isBlank h

theorem not_mem_of_isSeparator {c : Char} (h : isSeparator c = true) : '{' ∉ [c] ∧ '*' ∉ [c] := by
  constructor
  · intro hm
    rw [← List.mem_singleton.1 hm] at h
    exact absurd h (by decide)
  · intro hm
    rw [← List.mem_singleton.1 hm] at h
    exact absurd h (by decide)

theorem Word.not_mem (w : Word) : '{' ∉ w.chars ∧ '*' ∉ w.chars :=
  ⟨fun hm => absurd (w.name '{' hm) (by decide), fun hm => absurd (w.name '*' hm) (by decide)⟩

section Cut

variable {u rest : List Char}

theorem cut_nil (rest : List Char) : Cut [] rest := by
  refine ⟨fun a piece b _ _ => ?_, .inl ?_⟩
  · exact .inr (Nat.zero_le _)
  · simp

theorem Cut.append_block {inner : List Char} (h : Cut u (braces inner ++ rest)) :
    Cut (u ++ braces inner) rest := by
  refine ⟨h.outside.append_block, .inl ?_⟩
  intro c hc
  rw [braces, ← List.append_assoc, List.getLast?_concat] at hc
  rw [← Option.some.inj hc]
  decide

theorem Cut.append_separator {c : Char} (h : Cut u ([c] ++ rest)) (hc : isSeparator c = true) :
    Cut (u ++ [c]) rest := by
  obtain ⟨brace, star⟩ := not_mem_of_isSeparator hc
  refine ⟨h.outside.append_of_not_mem brace star, .inl ?_⟩
  intro d hd
  rw [List.getLast?_concat] at hd
  rw [← Option.some.inj hd]
  exact not_nameChar_of_isSeparator hc

/-- A word at such a place is an outer run. -/
theorem Cut.outerRun {w : Word} (h : Cut u (w.chars ++ rest))
    (stop : ∀ c ∈ rest.head?, CharSet.nameChar.contains c = false) : OuterRun u w.chars rest := by
  obtain ⟨brace, star⟩ := w.not_mem
  refine ⟨w.ne_nil, w.name, ?_, stop, h.outside.of_name brace star⟩
  rcases h.stops with before | behind
  · exact before
  · obtain ⟨c, hc⟩ := Option.isSome_iff_exists.1 (List.isSome_head?.2 w.ne_nil)
    have name := behind c (by rw [List.head?_append_of_ne_nil _ w.ne_nil, hc]; rfl)
    rw [w.name c (List.mem_of_mem_head? hc)] at name
    cases name

end Cut

/-- The outer runs of `u ++ rest` that begin behind `u`. -/
structure RunsFrom (u rest : List Char) (runs : List (List Char × List Char)) : Prop where
  mem_iff : ∀ u' w, (u', w) ∈ runs ↔
    u.length ≤ u'.length ∧ ∃ v, u ++ rest = u' ++ w ++ v ∧ OuterRun u' w v
  sorted : runs.Pairwise fun r r' => r.1.length < r'.1.length

section Runs

variable {u x rest : List Char} {runs : List (List Char × List Char)}

theorem runsFrom_nil (u : List Char) : RunsFrom u [] [] := by
  refine ⟨fun u' w => iff_of_false List.not_mem_nil ?_, List.Pairwise.nil⟩
  rintro ⟨le, v, h, run⟩
  have length := congrArg List.length h
  have := List.length_pos_of_ne_nil run.ne_nil
  simp only [List.append_nil, List.length_append] at length
  omega

/-- Where no run begins in `x`. -/
theorem RunsFrom.skip (h : RunsFrom (u ++ x) rest runs)
    (none : ∀ a p w v, x = a ++ p → p ≠ [] → p ++ rest = w ++ v → ¬OuterRun (u ++ a) w v) :
    RunsFrom u (x ++ rest) runs := by
  refine ⟨fun u' w => ?_, h.sorted⟩
  rw [h.mem_iff, List.append_assoc]
  constructor
  · rintro ⟨le, hr⟩
    refine ⟨?_, hr⟩
    simp only [List.length_append] at le
    omega
  · rintro ⟨le, v, hv, run⟩
    refine ⟨?_, v, hv, run⟩
    by_contra into
    rw [← List.append_assoc, List.append_assoc u'] at hv
    obtain ⟨a, p, rfl, hx, hne, hs⟩ := exists_split hv.symm le (by omega)
    exact none a p w v hx hne hs.symm run

/-- Where a run begins that is a whole word. -/
theorem RunsFrom.cons (w : Word) (h : RunsFrom (u ++ w.chars) rest runs)
    (run : OuterRun u w.chars rest) : RunsFrom u (w.chars ++ rest) ((u, w.chars) :: runs) := by
  constructor
  · intro u' w'
    rw [List.mem_cons, h.mem_iff, List.append_assoc]
    constructor
    · rintro (same | ⟨le, hr⟩)
      · obtain ⟨rfl, rfl⟩ := Prod.mk.inj same
        exact ⟨le_refl _, rest, by rw [List.append_assoc], run⟩
      · refine ⟨?_, hr⟩
        simp only [List.length_append] at le
        omega
    · rintro ⟨le, v, hv, run'⟩
      by_cases into : u'.length < (u ++ w.chars).length
      · rw [← List.append_assoc, List.append_assoc u'] at hv
        obtain ⟨a, p, rfl, hx, hne, hs⟩ := exists_split hv.symm le into
        have start : a = [] := by
          by_contra ha
          have last := List.getLast?_eq_some_getLast ha
          have before := run'.before _ (by rw [List.getLast?_append_of_ne_nil u ha, last]; rfl)
          rw [w.name _ (hx ▸ List.mem_append_left p (List.getLast_mem ha))] at before
          cases before
        rw [start, List.nil_append] at hx
        rw [← hx] at hs
        obtain ⟨same, -⟩ := Text.run_inj hs run'.name w.name run'.behind run.behind
        exact .inl (by rw [start, List.append_nil, same])
      · exact .inr ⟨by omega, v, hv, run'⟩
  · refine List.pairwise_cons.2 ⟨fun r hr => ?_, h.sorted⟩
    have le := ((h.mem_iff r.1 r.2).1 hr).1
    have pos := List.length_pos_of_ne_nil w.ne_nil
    rw [List.length_append] at le
    show u.length < r.1.length
    omega

/-- Where `x` is a piece. -/
theorem RunsFrom.skip_piece (h : RunsFrom (u ++ x) rest runs) (hx : IsPiece x) :
    RunsFrom u (x ++ rest) runs := by
  refine h.skip fun a p w v hap hne hs run => ?_
  have whole : u ++ x ++ rest = u ++ a ++ w ++ v := by
    rw [hap, List.append_assoc (u ++ a), ← hs]
    simp only [List.append_assoc]
  have hp := List.length_pos_of_ne_nil hne
  have hw := List.length_pos_of_ne_nil run.ne_nil
  rcases run.outside u x rest whole hx with before | behind
  · simp only [hap, List.length_append] at before
    omega
  · simp only [List.length_append] at behind
    omega

theorem RunsFrom.skip_separator {c : Char} (h : RunsFrom (u ++ [c]) rest runs)
    (hc : CharSet.nameChar.contains c = false) : RunsFrom u (c :: rest) runs := by
  refine RunsFrom.skip (x := [c]) h fun a p w v hap hne hs run => ?_
  obtain ⟨rfl, rfl⟩ : a = [] ∧ p = [c] := by
    rcases List.append_eq_singleton_iff.1 hap.symm with h | ⟨-, h⟩
    · exact h
    · exact absurd h hne
  cases w with
  | nil => exact run.ne_nil rfl
  | cons d w =>
    rw [← (List.cons.inj hs).1] at run
    rw [run.name c List.mem_cons_self] at hc
    cases hc

end Runs

/-! ### The words of a clause -/

/-- The words of a text that stand between pieces and separators, each up to its last character. -/
inductive Outline : List Char → List (List Char) → Prop where
  | nil : Outline [] []
  | block {inner rest : List Char} {words : List (List Char)} (h : '}' ∉ inner) :
      Outline rest words → Outline (braces inner ++ rest) words
  | namespace_ (s₁ s₂ : Space) (w : Word) {rest : List Char} {words : List (List Char)}
      (h : ∀ c ∈ rest.head?, CharSet.nameChar.contains c = false) :
      Outline rest words → Outline (asterisk s₁ s₂ ++ w.chars ++ rest) words
  | separator {c : Char} {cs : List Char} {words : List (List Char)} (h : isSeparator c = true) :
      Outline cs words → Outline (c :: cs) words
  | word (w : Word) {rest : List Char} {words : List (List Char)}
      (h : ∀ c ∈ rest.head?, CharSet.nameChar.contains c = false) :
      Outline rest words → Outline (w.chars ++ rest) (w.chars :: words)

/-- The words are the outer runs. -/
theorem Outline.exists_runs {u text : List Char} {words : List (List Char)} (h : Outline text words)
    (cut : Cut u text) : ∃ runs, RunsFrom u text runs ∧ runs.map Prod.snd = words := by
  -- no piece and no name goes across a place where a part ends, so runs are found part by part
  induction h generalizing u with
  | nil => exact ⟨[], runsFrom_nil u, rfl⟩
  | @block inner rest words hi _ ih =>
    obtain ⟨runs, hr, hw⟩ := ih cut.append_block
    exact ⟨runs, hr.skip_piece (.inl ⟨inner, hi, rfl⟩), hw⟩
  | namespace_ s₁ s₂ w stop _ ih =>
    obtain ⟨runs, hr, hw⟩ := ih ⟨cut.outside.append_namespace stop, .inr stop⟩
    exact ⟨runs, hr.skip_piece (.inr ⟨s₁, s₂, w, rfl⟩), hw⟩
  | separator hc _ ih =>
    obtain ⟨runs, hr, hw⟩ := ih (cut.append_separator hc)
    exact ⟨runs, hr.skip_separator (not_nameChar_of_isSeparator hc), hw⟩
  | word w stop _ ih =>
    obtain ⟨brace, star⟩ := w.not_mem
    obtain ⟨runs, hr, hw⟩ := ih ⟨cut.outside.append_of_not_mem brace star, .inr stop⟩
    exact ⟨_, hr.cons w (cut.outerRun stop), by rw [List.map_cons, hw]⟩

theorem Outline.exists_outerRuns {text : List Char} {words : List (List Char)}
    (h : Outline text words) : ∃ runs, OuterRuns text runs ∧ runs.map Prod.snd = words := by
  obtain ⟨runs, hr, hw⟩ := h.exists_runs (cut_nil text)
  exact ⟨runs, ⟨fun u w => by simp [hr.mem_iff], hr.sorted⟩, hw⟩

/-! ### Words and lexemes -/

section Outline

variable {text cs : List Char} {words : List (List Char)} {c : Char}

/-- A name character makes the word behind it longer, or is a word of its own. -/
theorem Outline.exists_cons (h : Outline cs words) (hc : CharSet.nameChar.contains c = true) :
    ∃ words', Outline (c :: cs) words' ∧ words'.flatten = c :: words.flatten := by
  have single (stop : ∀ d ∈ cs.head?, CharSet.nameChar.contains d = false) :
      ∃ words', Outline (c :: cs) words' ∧ words'.flatten = c :: words.flatten :=
    ⟨_, .word ⟨[c], by simp, by simpa using hc⟩ stop h, rfl⟩
  cases h with
  | nil => exact single (by simp)
  | block => exact single fun d hd => by rw [← Option.some.inj hd]; decide
  | namespace_ => exact single fun d hd => by rw [← Option.some.inj hd]; decide
  | separator hs =>
    exact single fun d hd => by rw [← Option.some.inj hd]; exact not_nameChar_of_isSeparator hs
  | word w stop h =>
    have chars : ∀ d ∈ c :: w.chars, CharSet.nameChar.contains d = true := by
      intro d hd
      rcases List.mem_cons.1 hd with rfl | hd
      · exact hc
      · exact w.name d hd
    exact ⟨_, .word ⟨c :: w.chars, by simp, chars⟩ stop h, rfl⟩

theorem Lexes.exists_outline {ls : List Lexeme} (h : Lexes text ls)
    (name : ∀ c ∈ ls.filterMap Lexeme.kept?, CharSet.nameChar.contains c = true) :
    ∃ words, Outline text words ∧ words.flatten = ls.filterMap Lexeme.kept? := by
  induction h with
  | nil => exact ⟨[], .nil, rfl⟩
  | block hi _ ih =>
    obtain ⟨words, ho, hw⟩ := ih name
    exact ⟨words, .block hi ho, hw⟩
  | namespace_ s₁ s₂ w stop _ ih =>
    obtain ⟨words, ho, hw⟩ := ih name
    exact ⟨words, .namespace_ s₁ s₂ w stop ho, hw⟩
  | separator hc _ ih =>
    obtain ⟨words, ho, hw⟩ := ih name
    exact ⟨words, .separator hc ho, hw⟩
  | @other c cs ls _ _ _ ih =>
    obtain ⟨words, ho, hw⟩ := ih fun d hd => name d (List.mem_cons_of_mem c hd)
    obtain ⟨words', ho', hw'⟩ := ho.exists_cons (name c List.mem_cons_self)
    exact ⟨words', ho', by rw [hw', hw]; rfl⟩

theorem Outline.blank_append {b : List Char} (h : Outline text words)
    (hb : ∀ c ∈ b, Text.isBlank c = true) : Outline (b ++ text) words := by
  induction b with
  | nil => exact h
  | cons c b ih =>
    refine .separator ?_ (ih fun d hd => hb d (List.mem_cons_of_mem c hd))
    rw [isSeparator, hb c List.mem_cons_self, Bool.or_true]

/-- White space at the end of a text has no words and ends the last one. -/
theorem Outline.append_blank {b : List Char} (h : Outline text words)
    (hb : ∀ c ∈ b, Text.isBlank c = true) : Outline (text ++ b) words := by
  have stop {rest : List Char} (h : ∀ c ∈ rest.head?, CharSet.nameChar.contains c = false) :
      ∀ c ∈ (rest ++ b).head?, CharSet.nameChar.contains c = false := by
    intro c hc
    cases rest with
    | nil => exact not_nameChar_of_isBlank (hb c (List.mem_of_mem_head? hc))
    | cons d rest => exact h c hc
  induction h with
  | nil => simpa using Outline.nil.blank_append hb
  | block hi _ ih =>
    rw [List.append_assoc]
    exact .block hi ih
  | namespace_ s₁ s₂ w h _ ih =>
    rw [List.append_assoc]
    exact .namespace_ s₁ s₂ w (stop h) ih
  | separator hc _ ih => exact .separator hc ih
  | word w h _ ih =>
    rw [List.append_assoc]
    exact .word w (stop h) ih

end Outline

/-- A leftover that is accepted is made of name characters. -/
theorem nameChar_of_mem_leftover {inner : List Char}
    (h : ((leftover inner).isEmpty || identifier.isMatch (leftover inner)) = true) :
    ∀ c ∈ leftover inner, CharSet.nameChar.contains c = true := by
  rw [identifier_isMatch_eq] at h
  rcases Bool.or_eq_true_iff.1 h with none | name
  · simp [List.isEmpty_iff.1 none]
  · exact nameChar_of_isIdentifier name

/-- The outer runs of a clause, put together, are its default binding. -/
theorem default_eq_outerRuns {text : String} {c : Clause} (h : parse? text = some c) :
    ∃ runs, OuterRuns text.toList runs ∧
      c.default = if runs = [] then none else some (String.ofList (runs.flatMap Prod.snd)) := by
  obtain ⟨left, -, rfl⟩ := parse?_eq_some_iff.1 h
  obtain ⟨b, b', split, hb, hb'⟩ := Text.exists_eq_trim text.toList
  have lexes := lexes_lexemes (Text.trim text.toList)
  have name := nameChar_of_mem_leftover left
  rw [lexes.leftover_eq] at name
  obtain ⟨words, outline, kept⟩ := lexes.exists_outline name
  have outline := (outline.blank_append hb).append_blank hb'
  rw [← split] at outline
  obtain ⟨runs, hr, hw⟩ := outline.exists_outerRuns
  refine ⟨runs, hr, ?_⟩
  have flat : runs.flatMap Prod.snd = leftover (Text.trim text.toList) := by
    rw [lexes.leftover_eq, ← kept, ← hw, List.flatMap_def]
  have none_iff : runs = [] ↔ (leftover (Text.trim text.toList)).isEmpty = true := by
    rw [List.isEmpty_iff, ← flat, List.flatMap_eq_nil_iff]
    constructor
    · rintro rfl r hr
      cases hr
    · intro empty
      refine List.eq_nil_iff_forall_not_mem.2 fun r mem => ?_
      obtain ⟨v, -, run⟩ := (hr.mem_iff r.1 r.2).1 mem
      exact run.ne_nil (empty r mem)
  simp only [flat, ofInner, none_iff]

theorem default_of_pieces_between :
    parse? "\x7ba\x7dx * as n," = some ⟨["n"], ["\x7ba\x7d"], some "x"⟩ ∧
      ∃ runs, OuterRuns "\x7ba\x7dx * as n,".toList runs ∧
        some "x" = if runs = [] then none else some (String.ofList (runs.flatMap Prod.snd)) := by
  have read : parse? "\x7ba\x7dx * as n," = some ⟨["n"], ["\x7ba\x7d"], some "x"⟩ := by
    decide +kernel
  exact ⟨read, default_eq_outerRuns read⟩

/-- Two words with nothing but white space between them are bound as one name, which is neither of
them. -/
theorem two_words_bound_as_one :
    ¬∀ (text : String) (c : Clause), parse? text = some c →
      (∀ u w v, text.toList = u ++ w ++ v → OuterRun u w v →
        c.default = some (String.ofList w)) ∧
      ∀ name, c.default = some name →
        ∃ u v, text.toList = u ++ name.toList ++ v ∧ OuterRun u name.toList v := by
  intro h
  have read : parse? "a b" = some ⟨[], [], some "ab"⟩ := by decide +kernel
  have stop : ∀ c ∈ [' ', 'b'].head?, CharSet.nameChar.contains c = false := by
    rintro c ⟨⟩
    decide
  have run : OuterRun [] ['a'] [' ', 'b'] :=
    (cut_nil _).outerRun (w := ⟨['a'], by simp, List.forall_mem_singleton.2 (by decide)⟩) stop
  have bound := (h _ _ read).1 [] ['a'] [' ', 'b'] rfl run
  exact absurd bound (by decide)

end GlobalImports.Clause
