import GlobalImports.Proofs.Replacer.Splice
import Mathlib.Data.List.DropRight
import Mathlib.Data.List.Forall2

/-! A scanner for import statements that never goes back. Where the keyword stands, it takes the
longest run of characters of clauses, finds the second keyword at the end of that run, and goes on
up to the nearest closing quote. At other places it passes over a character. A sweep finds the
statements that the scanner finds. -/

namespace GlobalImports.Statement

open Regex

/-! ### The scanner -/

/-- A statement that begins at byte `start`, cut into its parts. -/
structure Scanned where
  start : Nat
  binding : List Char
  gap : List Char
  quote : Char
  content : List Char
  deriving DecidableEq, Repr

namespace Scanned

def quoted (s : Scanned) : List Char := s.quote :: s.content ++ [s.quote]

def text (s : Scanned) : List Char :=
  "import".toList ++ (s.binding ++ "from".toList ++ s.gap) ++ s.quoted

/-- The bytes of the statement. -/
def span (s : Scanned) : Text.Span := ⟨s.start, s.start + Text.byteLength s.text⟩

end Scanned

/-- A run of clause characters cut at the last `from`, if only white space follows that, white space
stands at both ends of what comes before it, and that has room for two characters. -/
def cutRun? (run : List Char) : Option (List Char × List Char) :=
  let gap := run.rtakeWhile Text.isBlank
  match (run.rdropWhile Text.isBlank).dropSuffix? "from".toList with
  | some binding =>
    if gap ≠ [] ∧ 2 ≤ binding.length ∧ binding.head?.all Text.isBlank = true ∧
        binding.getLast?.all Text.isBlank = true then
      some (binding, gap)
    else none
  | none => none

/-- Text from behind an opening quote on, cut at the closing one if that is on the same line. -/
def cutQuoted? (quote : Char) (ahead : List Char) : Option (List Char × List Char) :=
  match ahead.dropWhile fun c => c != quote && c != '\n' with
  | c :: rest =>
    if c = quote then some (ahead.takeWhile fun c => c != quote && c != '\n', rest) else none
  | [] => none

/-- The statement at the head of a text that begins at byte `start`, and what is behind it. -/
def scanHere? (start : Nat) (text : List Char) : Option (Scanned × List Char) := do
  let behind ← text.dropPrefix? "import".toList
  let (binding, gap) ← cutRun? (behind.takeWhile clauseChar.contains)
  match behind.dropWhile clauseChar.contains with
  | [] => none
  | quote :: ahead =>
    if quote = '\'' ∨ quote = '"' then
      let (content, rest) ← cutQuoted? quote ahead
      return (⟨start, binding, gap, quote, content⟩, rest)
    else none

/-! ### What the scanner cuts -/

section Cut

variable {run ahead : List Char} {p : List Char × List Char} {q : Char}

theorem rtakeWhile_eq_run {α : Type} {p : α → Bool} {u v : List α} (hu : ∀ c ∈ u, p c = true)
    (hv : ∀ c ∈ v.getLast?, p c = false) : (v ++ u).rtakeWhile p = u := by
  rw [List.rtakeWhile, List.reverse_append,
    Text.takeWhile_eq_run (by simpa using hu) (by simpa using hv), List.reverse_reverse]

theorem rdropWhile_eq_rest {α : Type} {p : α → Bool} {u v : List α} (hu : ∀ c ∈ u, p c = true)
    (hv : ∀ c ∈ v.getLast?, p c = false) : (v ++ u).rdropWhile p = v := by
  rw [List.rdropWhile, List.reverse_append,
    Text.dropWhile_eq_rest (by simpa using hu) (by simpa using hv), List.reverse_reverse]

/-- The second keyword does not end in white space, so the cut is in the only place it can be. -/
theorem cutRun?_eq_some_iff :
    cutRun? run = some p ↔ run = p.1 ++ "from".toList ++ p.2 ∧ p.2 ≠ [] ∧
      (∀ c ∈ p.2, Text.isBlank c = true) ∧ 2 ≤ p.1.length ∧
      (∀ c ∈ p.1.head?, Text.isBlank c = true) ∧ ∀ c ∈ p.1.getLast?, Text.isBlank c = true := by
  obtain ⟨binding, gap⟩ := p
  constructor
  · intro h
    simp only [cutRun?] at h
    split at h
    case h_1 b hb =>
      obtain ⟨f, hf, same⟩ := List.dropSuffix?_eq_some_iff.1 hb
      obtain rfl := eq_of_beq same
      obtain ⟨⟨hg, hl, hh, ht⟩, h⟩ := Option.ite_none_right_eq_some.1 h
      obtain ⟨rfl, rfl⟩ := Prod.mk.inj (Option.some.inj h)
      refine ⟨?_, hg, fun c => List.mem_rtakeWhile_imp, hl, (Option.all_eq_true _ _).1 hh,
        (Option.all_eq_true _ _).1 ht⟩
      rw [← hf, List.rdropWhile_append_rtakeWhile]
    case h_2 => cases h
  · rintro ⟨rfl, hg, blank, hl, hh, ht⟩
    have letter : ∀ c ∈ (binding ++ "from".toList).getLast?, Text.isBlank c = false := by
      intro c hc
      have : c = 'm' := by simpa [eq_comm] using hc
      rw [this]
      decide
    have suffix : (binding ++ "from".toList).dropSuffix? "from".toList = some binding :=
      List.dropSuffix?_eq_some_iff.2 ⟨_, rfl, beq_self_eq_true _⟩
    simp only [cutRun?, rtakeWhile_eq_run blank letter, rdropWhile_eq_rest blank letter, suffix]
    exact if_pos ⟨hg, hl, (Option.all_eq_true _ _).2 hh, (Option.all_eq_true _ _).2 ht⟩

theorem cutQuoted?_eq_some_iff (hq : q ≠ '\n') :
    cutQuoted? q ahead = some p ↔
      ahead = p.1 ++ q :: p.2 ∧ ∀ c ∈ p.1, c ≠ q ∧ c ≠ '\n' := by
  obtain ⟨content, rest⟩ := p
  constructor
  · intro h
    rw [cutQuoted?] at h
    split at h
    case h_1 c cs hc =>
      obtain ⟨rfl, h⟩ := Option.ite_none_right_eq_some.1 h
      obtain ⟨rfl, rfl⟩ := Prod.mk.inj (Option.some.inj h)
      refine ⟨by rw [← hc, List.takeWhile_append_dropWhile], ?_⟩
      intro d hd
      simpa using List.mem_takeWhile_imp hd
    case h_2 => cases h
  · rintro ⟨rfl, hc⟩
    have inside : ∀ c ∈ content, (c != q && c != '\n') = true := by simpa using hc
    have stop : ∀ c ∈ (q :: rest).head?, (c != q && c != '\n') = false := by simp
    rw [cutQuoted?, Text.takeWhile_eq_run inside stop, Text.dropWhile_eq_rest inside stop]
    exact if_pos rfl

end Cut

/-- The parts of a statement that begins at byte `start`. -/
def Shape.scanned (s : Shape) (start : Nat) : Scanned :=
  ⟨start, s.binding, s.gap, s.quote, s.content⟩

/-- The scanner finds a statement exactly where one stands. -/
theorem scanHere?_eq_some_iff {start : Nat} {text : List Char} {p : Scanned × List Char} :
    scanHere? start text = some p ↔
      ∃ s : Shape, p.1 = s.scanned start ∧ text = s.text ++ p.2 := by
  constructor
  · intro h
    obtain ⟨behind, hb, h⟩ := Option.bind_eq_some_iff.1 h
    obtain ⟨⟨binding, gap⟩, hr, h⟩ := Option.bind_eq_some_iff.1 h
    obtain ⟨k, hk, keyword⟩ := List.dropPrefix?_eq_some_iff.1 hb
    obtain rfl := eq_of_beq keyword
    obtain ⟨run, ne, blank, length, head, last⟩ := cutRun?_eq_some_iff.1 hr
    dsimp only at h
    split at h
    case h_1 => cases h
    case h_2 quote ahead hd =>
      obtain ⟨hq, h⟩ := Option.ite_none_right_eq_some.1 h
      obtain ⟨⟨content, rest⟩, hc, found⟩ := Option.bind_eq_some_iff.1 h
      have line : quote ≠ '\n' := by
        rcases hq with rfl | rfl <;> decide
      obtain ⟨rfl, chars⟩ := (cutQuoted?_eq_some_iff line).1 hc
      obtain rfl := Option.some.inj found
      have inside : ∀ c ∈ binding ++ "from".toList ++ gap, clauseChar.contains c = true := by
        rw [← run]
        exact fun c => List.mem_takeWhile_imp
      refine ⟨⟨binding, gap, quote, content, fun c hc => inside c (by simp [hc]), length, head,
        last, ne, blank, hq, chars⟩, rfl, ?_⟩
      have whole := List.takeWhile_append_dropWhile (p := clauseChar.contains) (l := behind)
      rw [run, hd] at whole
      simp [hk, ← whole, Shape.text_def, Shape.run, Shape.quoted]
  · obtain ⟨found, rest⟩ := p
    rintro ⟨s, hs, rfl⟩
    obtain rfl : found = s.scanned start := hs
    have parts : s.text ++ rest =
        "import".toList ++ (s.run ++ (s.quote :: (s.content ++ s.quote :: rest))) := by
      simp [Shape.text_def, Shape.quoted]
    have stop : ∀ c ∈ (s.quote :: (s.content ++ s.quote :: rest)).head?,
        clauseChar.contains c = false := by
      simpa using not_clauseChar_quote s.quote_eq
    have keyword : (s.text ++ rest).dropPrefix? "import".toList =
        some (s.run ++ (s.quote :: (s.content ++ s.quote :: rest))) :=
      List.dropPrefix?_eq_some_iff.2 ⟨_, parts, beq_self_eq_true _⟩
    have run : cutRun? s.run = some (s.binding, s.gap) :=
      cutRun?_eq_some_iff.2 ⟨rfl, s.gap_ne_nil, s.gap_blank, s.binding_length, s.binding_head,
        s.binding_last⟩
    have quoted : cutQuoted? s.quote (s.content ++ s.quote :: rest) = some (s.content, rest) := by
      refine (cutQuoted?_eq_some_iff ?_).2 ⟨rfl, s.content_chars⟩
      rcases s.quote_eq with h | h <;> rw [h] <;> decide
    simp only [scanHere?, keyword, Option.bind_eq_bind, Option.bind_some,
      Text.takeWhile_eq_run s.run_chars stop, run, Text.dropWhile_eq_rest s.run_chars stop,
      if_pos s.quote_eq, quoted]
    rfl

theorem length_scanHere? {start : Nat} {text : List Char} {p : Scanned × List Char}
    (h : scanHere? start text = some p) : p.2.length < text.length := by
  obtain ⟨s, -, rfl⟩ := scanHere?_eq_some_iff.1 h
  have := List.length_pos_iff.2 s.text_ne_nil
  rw [List.length_append]
  omega

/-- The statements of a text that begins at byte `start`, from left to right. -/
def scan (start : Nat) (text : List Char) : List Scanned :=
  match _h : scanHere? start text with
  | some (s, rest) => s :: scan s.span.stop rest
  | none =>
    match text with
    | [] => []
    | c :: cs => scan (start + c.utf8Size) cs
termination_by text.length
decreasing_by
  · exact length_scanHere? _h
  · exact Nat.lt_succ_self _

theorem scan_of_some {start : Nat} {text rest : List Char} {s : Scanned}
    (h : scanHere? start text = some (s, rest)) : scan start text = s :: scan s.span.stop rest := by
  rw [scan]
  split
  case h_1 s' rest' h' =>
    obtain ⟨rfl, rfl⟩ := Prod.mk.inj (Option.some.inj (h.symm.trans h'))
    rfl
  case h_2 h' => rw [h] at h'; cases h'

theorem scan_of_none {start : Nat} {c : Char} {cs : List Char}
    (h : scanHere? start (c :: cs) = none) :
    scan start (c :: cs) = scan (start + c.utf8Size) cs := by
  rw [scan]
  split
  case h_1 h' => rw [h] at h'; cases h'
  case h_2 => rfl

theorem scan_nil (start : Nat) : scan start [] = [] := by
  rw [scan]
  split
  case h_1 h' => exact absurd (length_scanHere? h') (Nat.not_lt_zero _)
  case h_2 => rfl

/-! ### What a sweep finds -/

/-- A match of a sweep is what the scanner has found: they cover the same bytes, have the same
quoted text, and their clauses are the same apart from white space at the ends. -/
structure Matches (code : List Char) (f : Found) (s : Scanned) : Prop where
  span : f.span code = s.span
  text : f.text = s.text
  quoted : f.group? 2 = some s.quoted
  clause : Text.trim (ofFound f).clause.toList = Text.trim s.binding

theorem matches_tokens {text : List Char} {ps : List Part} (h : Reading text ps)
    (before : Option Char) {code u : List Char} (hc : code = u ++ text) :
    List.Forall₂ (Matches code) ((regex.tokens before text).filterMap Token.hit?)
      (scan (Text.byteLength u) text) := by
  induction h generalizing before u with
  | nil =>
    rw [tokens_nil, scan_nil]
    exact .nil
  | @char c cs ps none _ ih =>
    have free : scanHere? (Text.byteLength u) (c :: cs) = .none := by
      rw [Option.eq_none_iff_forall_ne_some]
      intro p hp
      obtain ⟨s, -, hs⟩ := scanHere?_eq_some_iff.1 hp
      exact none ⟨s, p.2, hs⟩
    have on := ih (some c) (u := u ++ [c]) (by rw [hc, List.append_assoc, List.singleton_append])
    rw [Text.byteLength_append] at on
    rw [tokens_char (by simp [here?_eq_none none]), scan_of_none free]
    exact on
  | @statement s rest ps _ ih =>
    obtain ⟨clause, hit, same⟩ := here?_text s before rest
    have whole : code = u ++ s.text ++ rest := by rw [hc, List.append_assoc]
    have found : scanHere? (Text.byteLength u) (s.text ++ rest) =
        some (s.scanned (Text.byteLength u), rest) :=
      scanHere?_eq_some_iff.2 ⟨s, rfl, rfl⟩
    have on := ih s.text.getLast? whole
    rw [Text.byteLength_append] at on
    rw [tokens_hit hit s.text_ne_nil, scan_of_some found]
    refine .cons ⟨Replacer.span_of_append whole, rfl, rfl, ?_⟩ on
    simpa [ofFound, Found.group?, Shape.found, Shape.scanned] using same

/-- The matches of a sweep are what the scanner finds, in the same order. -/
theorem hits_scan (code : List Char) :
    List.Forall₂ (Matches code) (regex.hits code) (scan 0 code) := by
  obtain ⟨ps, h⟩ := exists_reading code
  have tokens := matches_tokens h none (u := []) (List.nil_append code).symm
  rw [← hits_eq regex regex_productive, List.forall₂_map_left_iff] at tokens
  exact tokens.imp fun f s m => ⟨m.span, m.text, m.quoted, m.clause⟩

example : (scan 0 "import a from 'x'; import b\nfrom \"y".toList).map (·.span) = [⟨0, 17⟩] := by
  decide +kernel

end GlobalImports.Statement
