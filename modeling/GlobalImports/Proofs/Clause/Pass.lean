import GlobalImports.Proofs.Clause.Lexeme
import GlobalImports.Proofs.Clause.Parse
import Mathlib.Data.List.Infix

/-! The three sweeps of a clause against the one pass. The sweep for blocks and the one for what is
not default take a clause apart as the pass does, whatever the clause says. The sweep for namespaces
does not know of blocks and goes astray where there is an asterisk in one; otherwise it meets the
same names, so that the clause can be read off the lexemes. -/

namespace GlobalImports.Clause

open Regex

variable {text : List Char} {ls : List Lexeme}

/-! ### Matches begin where pieces do -/

theorem exists_of_mem_asterisk {σ ρ : State}
    (h : ρ ∈ (cat [char '*', blanks, literal "as", blanks]).outcomes σ) :
    ∃ s₁ s₂, σ.rest = asterisk s₁ s₂ ++ ρ.rest := by
  simp only [blanks, plus, mem_cat_cons, mem_char, mem_plus, mem_literal, outcomes_cat_nil,
    List.mem_singleton] at h
  obtain ⟨_, ⟨v₁, h₁, rfl⟩, _, ⟨s₁, v₂, h₂, ne₁, blank₁, rfl⟩, _, ⟨v₃, h₃, rfl⟩, _,
    ⟨s₂, v₄, h₄, ne₂, blank₂, rfl⟩, rfl⟩ := h
  simp only [State.advance_rest] at h₂ h₃ h₄
  refine ⟨⟨s₁, ne₁, blank₁⟩, ⟨s₂, ne₂, blank₂⟩, ?_⟩
  rw [h₁, h₂, h₃, h₄]
  simp [asterisk]

theorem exists_of_mem_name {σ τ : State} (h : τ ∈ name.outcomes σ) :
    ∃ w : Word, σ.rest = w.chars ++ τ.rest := by
  obtain ⟨w, v, hv, ne, chars, rfl⟩ := mem_plus.1 h
  exact ⟨⟨w, ne, chars⟩, hv⟩

theorem opens_of_mem_bareNamespace {σ τ : State} (h : τ ∈ bareNamespace.outcomes σ) :
    Opens σ.rest := by
  have h : τ ∈ (cat ([char '*', blanks, literal "as", blanks] ++ [name])).outcomes σ := h
  rw [outcomes_cat_append] at h
  obtain ⟨ρ, hρ, hτ⟩ := List.mem_flatMap.1 h
  obtain ⟨s₁, s₂, opening⟩ := exists_of_mem_asterisk hρ
  obtain ⟨w, word⟩ := exists_of_mem_name hτ
  exact ⟨_, τ.rest, .inr ⟨s₁, s₂, w, rfl⟩, by rw [opening, word, List.append_assoc]⟩

theorem opens_of_mem_namedBlock {σ τ : State} (h : τ ∈ namedBlock.outcomes σ) :
    Opens σ.rest := by
  simp only [namedBlock, Regex.star, mem_cat_cons, mem_char, mem_star] at h
  obtain ⟨_, ⟨v₁, h₁, rfl⟩, _, ⟨inner, v₂, h₂, chars, rfl⟩, _, ⟨v₃, h₃, rfl⟩, -⟩ := h
  simp only [State.advance_rest] at h₂ h₃
  refine ⟨braces inner, v₃, .inl ⟨inner, ?_, rfl⟩, ?_⟩
  · intro hm
    have := chars '}' hm
    simp at this
  · rw [h₁, h₂, h₃]
    simp [braces]

theorem opens_of_namespaceBinding_begins (h : namespaceBinding.Begins text) : Opens text := by
  obtain ⟨before, τ, hτ⟩ := exists_mem_outcomes_of_begins h
  have hτ : τ ∈ (cat ([char '*', blanks, literal "as", blanks] ++ [group 1 name])).outcomes _ := hτ
  rw [outcomes_cat_append] at hτ
  obtain ⟨ρ, hρ, hτ⟩ := List.mem_flatMap.1 hτ
  obtain ⟨s₁, s₂, opening⟩ := exists_of_mem_asterisk hρ
  obtain ⟨τ', hτ', rfl⟩ := mem_group.1 hτ
  obtain ⟨w, word⟩ := exists_of_mem_name hτ'
  rw [State.mark_rest] at word
  exact ⟨_, τ'.rest, .inr ⟨s₁, s₂, w, rfl⟩, by rw [List.append_assoc, ← word]; exact opening⟩

theorem opens_of_namedBlock_begins (h : namedBlock.Begins text) : Opens text := by
  obtain ⟨before, τ, hτ⟩ := exists_mem_outcomes_of_begins h
  exact opens_of_mem_namedBlock hτ

theorem opens_of_nonDefault_begins {c : Char} {cs : List Char} (h : nonDefault.Begins (c :: cs)) :
    Opens (c :: cs) ∨ isSeparator c = true := by
  obtain ⟨before, τ, hτ⟩ := exists_mem_outcomes_of_begins h
  rw [nonDefault_eq] at hτ
  rcases List.mem_append.1 hτ with hτ | hτ
  · exact .inl (opens_of_mem_namedBlock hτ)
  · rcases List.mem_append.1 hτ with hτ | hτ
    · exact .inl (opens_of_mem_bareNamespace hτ)
    · obtain ⟨d, v, hv, hd, -⟩ := mem_one.1 hτ
      rw [(List.cons.inj hv).1]
      refine .inr ?_
      simpa [isSeparator, CharSet.contains, Bool.beq_eq_decide_eq] using hd

/-! ### The sweeps over lexemes -/

/-- No block of the text has an asterisk between its braces. -/
def NoStarInBlocks (text : List Char) : Prop :=
  ∀ u inner v, text = u ++ braces inner ++ v → '}' ∉ inner → '*' ∉ inner

instance : DecidablePred NoStarInBlocks := fun text =>
  decidable_of_iff (∀ tail ∈ text.tails, ∀ b ∈ (blockHere? tail).map Prod.fst, '*' ∉ b) <| by
    constructor
    · rintro h u inner v rfl hi
      refine h (braces inner ++ v) ?_ inner ?_
      · rw [List.mem_tails, List.append_assoc]
        exact List.suffix_append _ _
      · rw [blockHere?_eq_some_iff.2 ⟨rfl, hi⟩]
        rfl
    · rintro h tail ht inner hb
      obtain ⟨⟨_, v⟩, here, rfl⟩ := Option.map_eq_some_iff.1 hb
      obtain ⟨rfl, hi⟩ := blockHere?_eq_some_iff.1 here
      obtain ⟨u, rfl⟩ := (List.mem_tails _ _).1 ht
      exact h u _ v (by simp only [List.append_assoc]) hi

theorem NoStarInBlocks.of_append {u v : List Char} (h : NoStarInBlocks (u ++ v)) :
    NoStarInBlocks v := by
  rintro u' inner v' rfl
  exact h (u ++ u') inner v' (by simp only [List.append_assoc])

/-- The sweep for namespaces passes over blocks that have no asterisk. -/
theorem Lexes.reads_namespaceBinding (h : Lexes text ls) (hs : NoStarInBlocks text) :
    ∃ ts, namespaceBinding.Reads text ts ∧
      (ts.filterMap Token.hit?).filterMap (·.group? 1) = ls.filterMap Lexeme.name? := by
  induction h with
  | nil => exact ⟨[], reads_nil _, rfl⟩
  | @block inner rest ls hi _ ih =>
    obtain ⟨ts, reads, names⟩ := ih hs.of_append
    have star : '*' ∉ braces inner :=
      not_mem_braces (hs [] inner rest rfl hi) (by decide) (by decide)
    exact ⟨_, reads.append_of_inert (namespaceBinding_inert star), by
      rw [filterMap_hit?_map_char, names]
      rfl⟩
  | namespace_ s₁ s₂ w stop _ ih =>
    obtain ⟨ts, reads, names⟩ := ih hs.of_append
    have hit := reads.hit (f := ⟨[], asterisk s₁ s₂ ++ w.chars, _, _⟩) (by simp [asterisk])
      fun before => here?_namespaceBinding s₁ s₂ w before stop
    exact ⟨_, hit, congrArg (w.chars :: ·) names⟩
  | @separator c cs ls hc _ ih =>
    obtain ⟨ts, reads, names⟩ := ih (NoStarInBlocks.of_append (u := [c]) hs)
    refine ⟨_, reads.char fun hb => ?_, names⟩
    rw [namespaceBinding_begins hb] at hc
    exact absurd hc (by decide)
  | @other c cs ls _ none _ ih =>
    obtain ⟨ts, reads, names⟩ := ih (NoStarInBlocks.of_append (u := [c]) hs)
    exact ⟨_, reads.char fun hb => none (opens_of_namespaceBinding_begins hb), names⟩

theorem Lexes.reads_namedBlock (h : Lexes text ls) :
    ∃ ts, namedBlock.Reads text ts ∧
      (ts.filterMap Token.hit?).map Found.text = ls.filterMap Lexeme.block? := by
  induction h with
  | nil => exact ⟨[], reads_nil _, rfl⟩
  | @block inner rest ls hi _ ih =>
    obtain ⟨ts, reads, blocks⟩ := ih
    have hit := reads.hit (f := ⟨[], braces inner, _, _⟩) (by simp [braces])
      fun before => here?_namedBlock before hi
    exact ⟨_, hit, congrArg (braces inner :: ·) blocks⟩
  | namespace_ s₁ s₂ w stop _ ih =>
    obtain ⟨ts, reads, blocks⟩ := ih
    have brace : '{' ∉ asterisk s₁ s₂ ++ w.chars := not_mem_namespace (by decide) (by decide)
    exact ⟨_, reads.append_of_inert (namedBlock_inert brace), by
      rw [filterMap_hit?_map_char, blocks]
      rfl⟩
  | separator hc _ ih =>
    obtain ⟨ts, reads, blocks⟩ := ih
    refine ⟨_, reads.char fun hb => ?_, blocks⟩
    rw [namedBlock_begins hb] at hc
    exact absurd hc (by decide)
  | other _ none _ ih =>
    obtain ⟨ts, reads, blocks⟩ := ih
    exact ⟨_, reads.char fun hb => none (opens_of_namedBlock_begins hb), blocks⟩

theorem Lexes.rewrites_nonDefault (h : Lexes text ls) :
    nonDefault.Rewrites (fun _ => []) text (ls.filterMap Lexeme.kept?) := by
  induction h with
  | nil => exact rewrites_nil nonDefault fun _ => []
  | @block inner rest ls hi _ ih =>
    exact ih.hit (f := ⟨[], braces inner, rest, _⟩) (by simp [braces])
      fun before => here?_nonDefault_block before hi
  | @namespace_ s₁ s₂ w rest ls stop _ ih =>
    exact ih.hit (f := ⟨[], asterisk s₁ s₂ ++ w.chars, rest, _⟩) (by simp [asterisk])
      fun before => here?_nonDefault_namespace s₁ s₂ w before stop
  | separator hc _ ih => exact leaves_one (by simpa [isSeparator] using hc) ih
  | other hc none _ ih =>
    refine ih.char fun hb => ?_
    rcases opens_of_nonDefault_begins hb with h | h
    · exact none h
    · rw [h] at hc
      cases hc

theorem Lexes.namespacesIn_eq (h : Lexes text ls) (hs : NoStarInBlocks text) :
    namespacesIn text = ls.filterMap Lexeme.name? := by
  obtain ⟨ts, reads, names⟩ := h.reads_namespaceBinding hs
  rw [Clause.namespacesIn_eq reads, names]

theorem Lexes.namedIn_eq (h : Lexes text ls) :
    namedIn text = (ls.filterMap Lexeme.block?).map rename := by
  obtain ⟨ts, reads, blocks⟩ := h.reads_namedBlock
  rw [Clause.namedIn_eq reads, ← blocks, List.map_map]
  rfl

theorem Lexes.leftover_eq (h : Lexes text ls) : leftover text = ls.filterMap Lexeme.kept? :=
  h.rewrites_nonDefault.replaceAll_eq nonDefault_productive fun _ => rfl

/-! ### The clause of a pass -/

/-- An ASCII identifier. -/
def isIdentifier : List Char → Bool
  | [] => false
  | c :: cs => CharSet.nameStart.contains c && cs.all CharSet.nameChar.contains

theorem mem_look {l : Look} {σ τ : State} :
    τ ∈ (look l).outcomes σ ↔ l.holds σ.before σ.rest.head? = true ∧ τ = σ := by
  rw [outcomes]
  split
  case isTrue h => simp [h]
  case isFalse h => simp [h]

/-- The expression holds of whole texts: nothing is in front of a match and nothing behind it. -/
theorem isIdentifier_of_mem_outcomes {σ τ : State} (h : τ ∈ identifier.outcomes σ) :
    σ.before = none ∧ isIdentifier σ.rest = true := by
  simp only [identifier, Regex.star, mem_cat_cons, mem_one, mem_star, mem_look] at h
  obtain ⟨_, ⟨first, rfl⟩, _, ⟨c, cs, hc, start, rfl⟩, _, ⟨u, v, hu, chars, rfl⟩, _,
    ⟨last, rfl⟩, -⟩ := h
  have none : v = [] := by simpa [Look.holds] using last
  rw [none, List.append_nil] at hu
  rw [State.advance_rest] at hu
  rw [← hu] at chars
  refine ⟨by simpa [Look.holds] using first, ?_⟩
  rw [hc, isIdentifier, start, Bool.true_and]
  exact List.all_eq_true.2 chars

theorem leftmost_identifier_behind (index : Nat) (c : Char) (cs : List Char) :
    leftmost identifier index (some c) cs = none := by
  have none (cs : List Char) (index : Nat) (c : Char) :
      identifier.firstAt index (some c) cs = none := by
    have stuck : identifier.outcomes ⟨index, some c, cs, []⟩ = [] :=
      List.eq_nil_iff_forall_not_mem.2 fun τ hτ =>
        absurd (isIdentifier_of_mem_outcomes hτ).1 (Option.some_ne_none c)
    rw [firstAt, stuck]
    rfl
  induction cs generalizing index c with
  | nil => exact none [] index c
  | cons d cs ih => rw [leftmost, none, ih, Option.or_none]

theorem nameChar_of_nameStart {c : Char} (h : CharSet.nameStart.contains c = true) :
    CharSet.nameChar.contains c = true := by
  simp only [CharSet.nameStart, CharSet.nameChar, CharSet.ofRanges, List.foldr, CharSet.contains,
    Bool.or_eq_true] at h ⊢
  tauto

theorem nameChar_of_isIdentifier {cs : List Char} (h : isIdentifier cs = true) :
    ∀ c ∈ cs, CharSet.nameChar.contains c = true := by
  cases cs with
  | nil => cases h
  | cons d ds =>
    obtain ⟨start, chars⟩ := Bool.and_eq_true_iff.1 h
    intro c hc
    rcases List.mem_cons.1 hc with rfl | hc
    · exact nameChar_of_nameStart start
    · exact List.all_eq_true.1 chars c hc

theorem identifier_isMatch_eq (cs : List Char) : identifier.isMatch cs = isIdentifier cs := by
  apply Bool.eq_iff_iff.2
  constructor
  · intro h
    have here : (identifier.firstAt 0 none cs).isSome = true := by
      rw [isMatch, search_eq_leftmost identifier_productive] at h
      cases cs with
      | nil => exact h
      | cons c cs => rwa [leftmost, leftmost_identifier_behind, Option.or_none] at h
    rw [firstAt, Option.isSome_map] at here
    obtain ⟨τ, hτ⟩ := Option.isSome_iff_exists.1 here
    exact (isIdentifier_of_mem_outcomes (List.mem_of_mem_head? hτ)).2
  · intro h
    have name := nameChar_of_isIdentifier h
    cases cs with
    | nil => cases h
    | cons c cs =>
      have start := (Bool.and_eq_true_iff.1 h).1
      exact identifier_isMatch ⟨⟨c :: cs, by simp, name⟩, by simpa using start⟩

/-- The clause of some lexemes. There is none if a text is kept that is no identifier, and none if
nothing is found and nothing kept. -/
def ofLexemes (ls : List Lexeme) : Option Clause :=
  let names := ls.filterMap Lexeme.name?
  let blocks := ls.filterMap Lexeme.block?
  let kept := ls.filterMap Lexeme.kept?
  if kept ≠ [] ∧ isIdentifier kept = false ∨ names = [] ∧ blocks = [] ∧ kept = [] then none
  else
    some
      { namespaces := names.map String.ofList
        named := blocks.map fun b => String.ofList (rename b)
        default := if kept = [] then none else some (String.ofList kept) }

theorem Lexes.parse?_eq {s : String} (h : Lexes (Text.trim s.toList) ls)
    (hs : NoStarInBlocks (Text.trim s.toList)) : parse? s = ofLexemes ls := by
  rw [parse?, ofLexemes]
  simp only [ofInner, h.leftover_eq, h.namespacesIn_eq hs, h.namedIn_eq, identifier_isMatch_eq,
    List.map_map, Function.comp_def]
  generalize ls.filterMap Lexeme.name? = names
  generalize ls.filterMap Lexeme.block? = blocks
  cases ls.filterMap Lexeme.kept? with
  | nil =>
    by_cases found : names = [] ∧ blocks = []
    · simp [isEmpty, found]
    · simp [isEmpty, found]
  | cons c cs =>
    cases isIdentifier (c :: cs) <;> simp [isEmpty]

/-- Reading a clause is one pass over it, if no block of it has an asterisk. -/
theorem parse?_eq_ofLexemes (text : String) (h : NoStarInBlocks text.toList) :
    parse? text = ofLexemes (lexemes (Text.trim text.toList)) := by
  obtain ⟨b, b', split, -, -⟩ := Text.exists_eq_trim text.toList
  refine (lexes_lexemes _).parse?_eq ?_
  rw [split, List.append_assoc] at h
  rintro u inner v hv hi
  refine h.of_append u inner (v ++ b') ?_ hi
  rw [hv]
  simp only [List.append_assoc]

theorem parse?_brace_in_block :
    NoStarInBlocks " \x7ba as b, \x7b c\x7dx, * as y".toList ∧
      parse? " \x7ba as b, \x7b c\x7dx, * as y" =
        some ⟨["y"], ["\x7ba: b, \x7b c\x7d"], some "x"⟩ := by
  have star : NoStarInBlocks " \x7ba as b, \x7b c\x7dx, * as y".toList := by decide +kernel
  refine ⟨star, ?_⟩
  rw [parse?_eq_ofLexemes _ star]
  decide +kernel

/-- The sweep for namespaces reads the inside of blocks. -/
example : parse? "\x7b* as x\x7d" = some ⟨["x"], ["\x7b* as x\x7d"], none⟩ ∧
    ofLexemes (lexemes "\x7b* as x\x7d".toList) = some ⟨[], ["\x7b* as x\x7d"], none⟩ := by
  decide +kernel

end GlobalImports.Clause
