import GlobalImports.Proofs.Clause.Match

/-! A clause cut by one pass. From left to right, a block or a namespace binding is taken whole
where one stands; any other character is taken by itself, and either separates or is kept. -/

namespace GlobalImports.Clause

open Regex

/-- What a pass over a clause takes at a place. -/
inductive Lexeme where
  | block (inner : List Char)
  /-- The binding up to its name, and the name. -/
  | namespace_ (lead name : List Char)
  | separator (c : Char)
  | other (c : Char)
  deriving DecidableEq, Repr

namespace Lexeme

/-- The name of a namespace binding. -/
def name? : Lexeme → Option (List Char)
  | namespace_ _ name => some name
  | _ => none

/-- A block with its braces. -/
def block? : Lexeme → Option (List Char)
  | block inner => some (braces inner)
  | _ => none

/-- A character that is kept. -/
def kept? : Lexeme → Option Char
  | other c => some c
  | _ => none

end Lexeme

/-! ### The pass -/

def isSeparator (c : Char) : Bool := c == ',' || Text.isBlank c

/-- The block at the head of a text, without its braces, and what is behind it. -/
def blockHere? : List Char → Option (List Char × List Char)
  | '{' :: cs =>
    match cs.dropWhile (· != '}') with
    | _ :: rest => some (cs.takeWhile (· != '}'), rest)
    | [] => none
  | _ => none

/-- The namespace binding at the head of a text, cut before its name, and what is behind it. -/
def namespaceHere? (text : List Char) : Option (List Char × List Char × List Char) := do
  let cs ← text.dropPrefix? ['*']
  let (before, cs) ← Text.run? Text.isBlank cs
  let cs ← cs.dropPrefix? "as".toList
  let (after, cs) ← Text.run? Text.isBlank cs
  let (name, rest) ← Text.run? CharSet.nameChar.contains cs
  return ('*' :: before ++ "as".toList ++ after, name, rest)

theorem blockHere?_eq_some_iff {text inner rest : List Char} :
    blockHere? text = some (inner, rest) ↔ text = braces inner ++ rest ∧ '}' ∉ inner := by
  constructor
  · intro h
    unfold blockHere? at h
    split at h
    case h_1 cs =>
      split at h
      case h_1 c cs' hc =>
        obtain ⟨rfl, rfl⟩ := Prod.mk.inj (Option.some.inj h)
        have brace : c = '}' := by
          have := @Text.not_of_mem_head?_dropWhile _ (· != '}') cs c (by rw [hc]; rfl)
          simpa using this
        refine ⟨?_, ?_⟩
        · have whole := List.takeWhile_append_dropWhile (p := (· != '}')) (l := cs)
          rw [hc, brace] at whole
          simp only [braces, List.cons_append, List.append_assoc, List.nil_append]
          rw [whole]
        · intro hm
          have := Text.of_mem_takeWhile hm
          simp at this
      case h_2 => cases h
    case h_2 => cases h
  · rintro ⟨rfl, hi⟩
    have cut : braces inner ++ rest = '{' :: (inner ++ '}' :: rest) := by simp [braces]
    rw [cut, blockHere?, Text.takeWhile_bne hi, Text.dropWhile_bne hi]

theorem namespaceHere?_eq_some_iff {text lead name rest : List Char} :
    namespaceHere? text = some (lead, name, rest) ↔
      ∃ (s₁ s₂ : Space) (w : Word), lead = asterisk s₁ s₂ ∧ name = w.chars ∧
        text = asterisk s₁ s₂ ++ w.chars ++ rest ∧
        ∀ c ∈ rest.head?, CharSet.nameChar.contains c = false := by
  constructor
  · intro h
    obtain ⟨cs, h₁, h⟩ := Option.bind_eq_some_iff.1 h
    obtain ⟨⟨b₁, cs₁⟩, h₂, h⟩ := Option.bind_eq_some_iff.1 h
    obtain ⟨cs₂, h₃, h⟩ := Option.bind_eq_some_iff.1 h
    obtain ⟨⟨b₂, cs₃⟩, h₄, h⟩ := Option.bind_eq_some_iff.1 h
    obtain ⟨⟨name', rest'⟩, h₅, h⟩ := Option.bind_eq_some_iff.1 h
    obtain ⟨rfl, rfl, rfl⟩ : _ ∧ _ ∧ _ := by
      simpa using Option.some.inj h
    obtain ⟨k₁, rfl, hk₁⟩ := List.dropPrefix?_eq_some_iff.1 h₁
    obtain ⟨rfl, ne₁, blank₁, -⟩ := Text.run?_eq_some_iff.1 h₂
    obtain ⟨k₂, rfl, hk₂⟩ := List.dropPrefix?_eq_some_iff.1 h₃
    obtain ⟨rfl, ne₂, blank₂, -⟩ := Text.run?_eq_some_iff.1 h₄
    obtain ⟨rfl, ne₃, chars, stop⟩ := Text.run?_eq_some_iff.1 h₅
    obtain rfl := eq_of_beq hk₁
    obtain rfl := eq_of_beq hk₂
    exact ⟨⟨b₁, ne₁, blank₁⟩, ⟨b₂, ne₂, blank₂⟩, ⟨_, ne₃, chars⟩,
      by simp [asterisk], rfl, by simp [asterisk], stop⟩
  · rintro ⟨s₁, s₂, w, rfl, rfl, rfl, stop⟩
    have read₁ : (asterisk s₁ s₂ ++ w.chars ++ rest).dropPrefix? ['*'] =
        some (s₁.chars ++ ("as".toList ++ (s₂.chars ++ (w.chars ++ rest)))) :=
      List.dropPrefix?_eq_some_iff.2 ⟨['*'], by simp [asterisk], beq_self_eq_true _⟩
    have read₂ := Text.run?_eq_some_iff.2
      ⟨rfl, s₁.ne_nil, s₁.blank, not_isBlank_head_as (s₂.chars ++ (w.chars ++ rest))⟩
    have read₃ : ("as".toList ++ (s₂.chars ++ (w.chars ++ rest))).dropPrefix? "as".toList =
        some (s₂.chars ++ (w.chars ++ rest)) :=
      List.dropPrefix?_eq_some_iff.2 ⟨_, rfl, beq_self_eq_true _⟩
    have read₄ := Text.run?_eq_some_iff.2 ⟨rfl, s₂.ne_nil, s₂.blank, w.not_isBlank_head rest⟩
    have read₅ := Text.run?_eq_some_iff.2 ⟨rfl, w.ne_nil, w.name, stop⟩
    simp only [namespaceHere?, read₁, read₂, read₃, read₄, read₅, Option.bind_eq_bind,
      Option.bind_some]
    rfl

theorem length_blockHere? {text inner rest : List Char} (h : blockHere? text = some (inner, rest)) :
    rest.length < text.length := by
  obtain ⟨rfl, -⟩ := blockHere?_eq_some_iff.1 h
  simp only [braces, List.length_append, List.length_cons]
  omega

theorem length_namespaceHere? {text lead name rest : List Char}
    (h : namespaceHere? text = some (lead, name, rest)) : rest.length < text.length := by
  obtain ⟨s₁, s₂, w, -, -, rfl, -⟩ := namespaceHere?_eq_some_iff.1 h
  simp only [asterisk, List.length_append, List.length_cons]
  omega

/-- The lexemes of a text, from left to right. -/
def lexemes : List Char → List Lexeme
  | [] => []
  | c :: cs =>
    match _hb : blockHere? (c :: cs) with
    | some (inner, rest) => .block inner :: lexemes rest
    | none =>
      match _hn : namespaceHere? (c :: cs) with
      | some (lead, name, rest) => .namespace_ lead name :: lexemes rest
      | none => (if isSeparator c then .separator c else .other c) :: lexemes cs
termination_by cs => cs.length
decreasing_by
  · exact length_blockHere? _hb
  · exact length_namespaceHere? _hn
  · exact Nat.lt_succ_self _

/-! ### What a pass takes -/

/-- A block or a namespace binding. -/
def IsPiece (text : List Char) : Prop :=
  (∃ inner, '}' ∉ inner ∧ text = braces inner) ∨
    ∃ (s₁ s₂ : Space) (w : Word), text = asterisk s₁ s₂ ++ w.chars

/-- A piece stands at the head of the text. -/
def Opens (text : List Char) : Prop := ∃ piece rest, IsPiece piece ∧ text = piece ++ rest

/-- The lexemes that a text is made of: pieces where they stand, names up to their last character,
and single characters at which no piece begins. -/
inductive Lexes : List Char → List Lexeme → Prop where
  | nil : Lexes [] []
  | block {inner rest : List Char} {ls : List Lexeme} (h : '}' ∉ inner) :
      Lexes rest ls → Lexes (braces inner ++ rest) (.block inner :: ls)
  | namespace_ (s₁ s₂ : Space) (w : Word) {rest : List Char} {ls : List Lexeme}
      (h : ∀ c ∈ rest.head?, CharSet.nameChar.contains c = false) :
      Lexes rest ls →
        Lexes (asterisk s₁ s₂ ++ w.chars ++ rest) (.namespace_ (asterisk s₁ s₂) w.chars :: ls)
  | separator {c : Char} {cs : List Char} {ls : List Lexeme} (h : isSeparator c = true) :
      Lexes cs ls → Lexes (c :: cs) (.separator c :: ls)
  | other {c : Char} {cs : List Char} {ls : List Lexeme} (h : isSeparator c = false)
      (none : ¬Opens (c :: cs)) : Lexes cs ls → Lexes (c :: cs) (.other c :: ls)

theorem not_opens {text : List Char} (hb : blockHere? text = none)
    (hn : namespaceHere? text = none) : ¬Opens text := by
  rintro ⟨piece, rest, ⟨inner, hi, rfl⟩ | ⟨s₁, s₂, w, rfl⟩, rfl⟩
  · rw [blockHere?_eq_some_iff.2 ⟨rfl, hi⟩] at hb
    cases hb
  · -- the name may go on
    obtain ⟨w', rest', longest, stop⟩ := w.exists_longest rest
    rw [List.append_assoc, longest, namespaceHere?_eq_some_iff.2 ⟨s₁, s₂, w', rfl, rfl,
      (List.append_assoc _ _ _).symm, stop⟩] at hn
    cases hn

theorem lexes_lexemes (text : List Char) : Lexes text (lexemes text) := by
  fun_induction lexemes text with
  | case1 => exact .nil
  | case2 c cs inner rest hb ih =>
    obtain ⟨split, hi⟩ := blockHere?_eq_some_iff.1 hb
    rw [split]
    exact .block hi ih
  | case3 c cs hb lead name rest hn ih =>
    obtain ⟨s₁, s₂, w, rfl, rfl, split, stop⟩ := namespaceHere?_eq_some_iff.1 hn
    rw [split]
    exact .namespace_ s₁ s₂ w stop ih
  | case4 c cs hb hn ih =>
    cases hc : isSeparator c with
    | true => exact .separator hc ih
    | false => exact .other hc (not_opens hb hn) ih

end GlobalImports.Clause
