import GlobalImports.Proofs.Replacer.Series
import GlobalImports.Proofs.Replacer.Splice

/-! A second pass of the same replacer. No statement begins in text that a replacement has put in,
unless a source makes up the word `import` with what follows it. But a quote that was left open may
now be closed, by a quote of declarations. The specifier then has a space in it, as declarations
have one behind their keyword, and a replacer whose keys are paths keeps such a statement. -/

namespace GlobalImports

/-- A place in a text put together of two is in the second or in the first. -/
theorem Text.append_eq_append_cons {a b m v : List Char} {q : Char} (h : a ++ b = m ++ q :: v) :
    (∃ n, m = a ++ n ∧ b = n ++ q :: v) ∨ ∃ n, a = m ++ q :: n ∧ v = n ++ b := by
  rcases List.append_eq_append_iff.1 h with h | ⟨n, rfl, hn⟩
  · exact .inl h
  · cases n with
    | nil => exact .inl ⟨[], by simp, hn.symm⟩
    | cons c n =>
      obtain ⟨rfl, rfl⟩ := List.cons.inj hn
      exact .inr ⟨n, rfl, rfl⟩

namespace Statement

/-- A statement begins in the text and its opening quote `q` is not closed on the same line. -/
def LeavesOpen (q : Char) (text : List Char) : Prop :=
  ∃ (s : Shape) (w m : List Char),
    s.quote = q ∧ text = w ++ (s.lead ++ q :: m) ∧ q ∉ m ∧ '\n' ∉ m

theorem LeavesOpen.append {q : Char} {u t : List Char} (h : LeavesOpen q u) (hq : q ∉ t)
    (line : '\n' ∉ t) : LeavesOpen q (u ++ t) := by
  obtain ⟨s, w, m, hs, rfl, hm, hmline⟩ := h
  refine ⟨s, w, m ++ t, hs, by simp, ?_, ?_⟩
  · simp [hm, hq]
  · simp [hmline, line]

theorem not_leavesOpen_nil (q : Char) : ¬LeavesOpen q [] := by
  rintro ⟨s, w, m, -, h, -⟩
  simp at h

/-- Where a statement is cut behind its opening quote, the rest of the specifier follows. -/
theorem Shape.exists_content_eq {s : Shape} {m y : List Char}
    (h : s.text = s.lead ++ s.quote :: m ++ y) (hy : y ≠ []) :
    ∃ n, s.content = m ++ n ∧ y = n ++ [s.quote] := by
  rw [s.text_eq, List.append_assoc, List.cons_append] at h
  have h : s.content ++ [s.quote] = m ++ y := (List.cons.inj (List.append_cancel_left h)).2
  rcases List.append_eq_append_iff.1 h with ⟨t, rfl, ht⟩ | ⟨t, ht, rfl⟩
  · rcases List.append_eq_singleton_iff.1 ht.symm with ⟨rfl, rfl⟩ | ⟨-, rfl⟩
    · exact ⟨[], by simp, rfl⟩
    · exact absurd rfl hy
  · exact ⟨t, ht, rfl⟩

/-- Where no statement stands, a quote on the line does not close one. -/
theorem Shape.newline_mem {s : Shape} {m t : List Char}
    (hm : ∀ c ∈ m, c ≠ s.quote ∧ c ≠ '\n') (none : ¬Begins (s.lead ++ s.quote :: m ++ t))
    (a b : List Char) (ht : t = a ++ s.quote :: b) (ha : s.quote ∉ a) : '\n' ∈ a := by
  by_contra line
  have free : ∀ c ∈ m ++ a, c ≠ s.quote ∧ c ≠ '\n' := by
    intro c hc
    rcases List.mem_append.1 hc with hc | hc
    · exact hm c hc
    · exact ⟨fun e => ha (e ▸ hc), fun e => line (e ▸ hc)⟩
  let closed : Shape := { s with content := m ++ a, content_chars := free }
  refine none ⟨closed, b, ?_⟩
  rw [ht, closed.text_eq]
  show s.lead ++ s.quote :: m ++ (a ++ s.quote :: b) =
    s.lead ++ s.quote :: (m ++ a ++ [s.quote]) ++ b
  simp

theorem Reading.of_append {text : List Char} {ps qs : List Part} (h : Reading text (ps ++ qs)) :
    Reading (qs.flatMap Part.text) qs := by
  induction ps generalizing text with
  | nil =>
    rw [List.nil_append] at h
    rwa [h.flatMap_text]
  | cons p ps ih =>
    cases h with
    | char _ h => exact ih h
    | statement s h => exact ih h

end Statement

namespace Replacer

open Statement

/-- Characters of paths and of dotted names. -/
def pathChar : Regex.CharSet :=
  .union .nameChar (.ofRanges [('.', '.'), ('/', '/'), ('@', '@'), ('-', '-')])

/-- A text of such characters that is not empty. -/
def IsPath (s : String) : Prop := s ≠ "" ∧ s.toList.all pathChar.contains = true

instance (s : String) : Decidable (IsPath s) := inferInstanceAs (Decidable (_ ∧ _))

/-- Exact sources alone, keys and sources being paths, and no source with the keyword in it. -/
structure Simple (r : Replacer) : Prop where
  patterns : r.patterns = []
  key {key source : String} : r.exact[key]? = some source → IsPath key
  source {key source : String} : r.exact[key]? = some source → IsPath source
  no_import {key source : String} :
    r.exact[key]? = some source → ¬"import".toList <:+: source.toList

/-- The source of a statement does not make up `import` with what is behind the statement, and if
there is a line break in the statement, no quote is left open where it begins. -/
structure Separate (code : List Char) (e : Replaced) : Prop where
  next : Apart e.source.toList (Text.dropBytes e.span.stop code)
  line : '\n' ∈ Text.slice code e.span → ∀ q, ¬LeavesOpen q (Text.takeBytes e.span.start code)

variable {r : Replacer}

/-! ### Sources -/

theorem Simple.exact_of_source? (hr : Simple r) {specifier source : String}
    (h : r.source? specifier = some source) : r.exact[specifier]? = some source := by
  rw [source?, patternSource?, hr.patterns] at h
  split at h
  case h_1 source' hs =>
    obtain rfl := Option.some.inj h
    exact (Option.filter_eq_some_iff.1 hs).1
  case h_2 => cases h

/-- The specifier of a replaced part has the source it is replaced with. -/
theorem source?_of_part {p : Part} {specifier source : String} {text declarations : List Char}
    (h : r.part p = .replaced specifier source text declarations) :
    r.source? specifier = some source := by
  cases p with
  | char c => cases h
  | statement s =>
    rw [part, replace] at h
    split at h
    case h_1 hs _ =>
      obtain ⟨rfl, rfl, -, -⟩ := Stretch.replaced.inj h
      exact hs
    case h_2 => cases h

/-- A statement with a space in its specifier is kept. -/
theorem Simple.part_of_space (hr : Simple r) {s : Shape} (h : ' ' ∈ s.content) :
    r.part (.statement s) = .kept s.text := by
  have space : ' ' ∈ s.statement.specifier.toList := by
    rw [Shape.statement, String.toList_ofList, unquote, List.mem_filter]
    exact ⟨by simp [Shape.quoted, h], by decide⟩
  rw [part, replace]
  split
  case h_1 source clause hs _ =>
    have plain := List.all_eq_true.1 (hr.key (hr.exact_of_source? hs)).2 ' ' space
    exact absurd plain (by decide)
  case h_2 => rfl

/-! ### Declarations and what follows them -/

/-- The parts that are replaced are separate from what is around them. -/
def Separates (r : Replacer) (ps : List Part) : Prop :=
  ∀ before p behind specifier source text declarations, ps = before ++ p :: behind →
    r.part p = .replaced specifier source text declarations →
      Apart source.toList (behind.flatMap Part.text) ∧
        ('\n' ∈ p.text → ∀ q, ¬LeavesOpen q (before.flatMap Part.text))

theorem separates_of_report {code : List Char} {ps : List Part} (h : Reading code ps)
    (hs : ∀ e ∈ Stretch.report 0 (ps.map r.part), Separate code e) : r.Separates ps := by
  rintro before p behind specifier source text declarations rfl part
  obtain rfl : text = p.text := by rw [← r.old_part p, part]; rfl
  let start := Text.byteLength (before.flatMap Part.text)
  have reported : ⟨specifier, source, ⟨start, start + Text.byteLength p.text⟩⟩ ∈
      Stretch.report 0 ((before ++ p :: behind).map r.part) := by
    rw [List.map_append, List.map_cons, part, Stretch.report_append, flatMap_old_part,
      Nat.zero_add, Stretch.report_replaced]
    exact List.mem_append_right _ List.mem_cons_self
  have code_eq :
      code = before.flatMap Part.text ++ p.text ++ behind.flatMap Part.text := by
    rw [← h.flatMap_text, List.flatMap_append, List.flatMap_cons, List.append_assoc]
  obtain ⟨next, line⟩ := hs _ reported
  constructor
  · have behind_eq := Text.dropBytes_append (before.flatMap Part.text ++ p.text)
      (behind.flatMap Part.text)
    rw [← code_eq, Text.byteLength_append] at behind_eq
    rwa [behind_eq] at next
  · have before_eq := Text.takeBytes_append (before.flatMap Part.text)
      (p.text ++ behind.flatMap Part.text)
    rw [← List.append_assoc, ← code_eq] at before_eq
    rw [code_eq, Text.slice_append, ← code_eq] at line
    rwa [before_eq] at line

/-- Letters of the keyword behind its first one do not come from replacements. -/
theorem prefix_of_prefix_rewritten {b : List Char} {ps : List Part}
    (hb : ∀ c ∈ b, c ∈ "mport".toList) (h : b <+: r.rewritten ps) :
    b <+: ps.flatMap Part.text := by
  induction ps generalizing b with
  | nil => exact h
  | cons p ps ih =>
    cases b with
    | nil => exact List.nil_prefix
    | cons c b =>
      have letter := hb c List.mem_cons_self
      have not_letter {d : Char} {rest : List Char} (hd : d ∉ "mport".toList)
          (h : c :: b <+: d :: rest) : False :=
        hd ((List.cons_prefix_cons.1 h).1 ▸ letter)
      rw [rewritten_cons] at h
      rcases r.part_cases p with part | ⟨specifier, source, declarations, part⟩
      · rw [part] at h
        cases p with
        | char d =>
          obtain ⟨rfl, others⟩ : c = d ∧ b <+: r.rewritten ps := List.cons_prefix_cons.1 h
          have letters := fun e he => hb e (List.mem_cons_of_mem c he)
          exact (List.prefix_cons_inj c).2 (ih letters others)
        | statement s => exact absurd h (not_letter (by decide))
      · obtain ⟨-, rest, rfl⟩ := r.part_eq_replaced part
        rw [part] at h
        exfalso
        cases hk : r.keyword with
        | const => rw [hk] at h; exact not_letter (by decide) h
        | let_ => rw [hk] at h; exact not_letter (by decide) h
        | var => rw [hk] at h; exact not_letter (by decide) h

theorem apart_rewritten {xs : List Char} {ps : List Part}
    (h : Apart xs (ps.flatMap Part.text)) : Apart xs (r.rewritten ps) := by
  intro a b hab ha hb hx hp
  refine h a b hab ha hb hx (prefix_of_prefix_rewritten ?_ hp)
  intro c hc
  cases a with
  | nil => exact absurd rfl ha
  | cons d a =>
    have letters : a ++ b = "mport".toList := (List.cons.inj hab).2
    exact letters ▸ List.mem_append_right a hc

/-- No statement begins in declarations that are separate from what is behind them. -/
theorem Simple.inert_of_part (hr : Simple r) {p : Part} {specifier source : String}
    {text declarations tail : List Char}
    (part : r.part p = .replaced specifier source text declarations)
    (next : Apart source.toList tail) : Text.Inert Begins declarations tail := by
  have free := hr.no_import (hr.exact_of_source? (source?_of_part part))
  obtain ⟨s, clause, -, hc, rfl⟩ := exists_clause_of_part part
  exact inert_declarations_of_apart hc (by simpa using s.binding_chars) free next

/-! ### New statements -/

/-- A quote in the declarations of a replaced part, with the new text `m` up to it and the new text
`v` behind it. -/
inductive ClosedBy (r : Replacer) (q : Char) : List Part → List Char → List Char → Prop where
  | here {p : Part} {ps : List Part} {specifier source : String} {text d₁ d₂ : List Char}
      (h : r.part p = .replaced specifier source text (d₁ ++ q :: d₂)) :
      ClosedBy r q (p :: ps) d₁ (d₂ ++ r.rewritten ps)
  | there {p : Part} {ps : List Part} {m v : List Char} :
      ClosedBy r q ps m v → ClosedBy r q (p :: ps) ((r.part p).new ++ m) v

/-- The declarations have a space in front of the quote. -/
theorem ClosedBy.space_mem {q : Char} {ps : List Part} {m v : List Char}
    (h : r.ClosedBy q ps m v) (hq : q = '\'' ∨ q = '"') : ' ' ∈ m := by
  induction h with
  | @here p ps specifier source text d₁ d₂ part =>
    obtain ⟨xs, rest, declared, space, free⟩ := exists_target_of_part part
    rcases Text.append_eq_append_cons declared.symm with ⟨n, rfl, -⟩ | ⟨n, rfl, -⟩
    · exact List.mem_append_left n space
    · have := free q (by simp)
      rcases hq with h | h
      · exact absurd h this.1
      · exact absurd h this.2
  | there _ ih => exact List.mem_append_right _ ih

/-- What is behind the quote is the rest of the declarations and of the parts. -/
theorem ClosedBy.exists_split {q : Char} {ps : List Part} {m v : List Char}
    (h : r.ClosedBy q ps m v) :
    ∃ before p behind specifier source text d₁ d₂, ps = before ++ p :: behind ∧
      r.part p = .replaced specifier source text (d₁ ++ q :: d₂) ∧
        v = d₂ ++ r.rewritten behind := by
  induction h with
  | @here p ps specifier source text d₁ d₂ part =>
    exact ⟨[], p, ps, specifier, source, text, d₁, d₂, rfl, part, rfl⟩
  | @there p ps m v _ ih =>
    obtain ⟨before, p', behind, specifier, source, text, d₁, d₂, rfl, part, rfl⟩ := ih
    exact ⟨p :: before, p', behind, specifier, source, text, d₁, d₂, rfl, part, rfl⟩

/-- Where a quote is left open and the old text does not close it on the line, what closes it in
the new text is a quote of declarations. -/
theorem closedBy_of_leavesOpen {q : Char} {before ps : List Part} {m v : List Char}
    (hs : r.Separates (before ++ ps)) (opened : LeavesOpen q (before.flatMap Part.text))
    (unclosed : ∀ a b, ps.flatMap Part.text = a ++ q :: b → q ∉ a → '\n' ∈ a)
    (hq : q ∉ m) (line : '\n' ∉ m) (h : r.rewritten ps = m ++ q :: v) :
    r.ClosedBy q ps m v := by
  induction ps generalizing before m with
  | nil => simp [rewritten] at h
  | cons p ps ih =>
    have separates : r.Separates ((before ++ [p]) ++ ps) := by
      rwa [List.append_assoc, List.singleton_append]
    -- a part without the quote and without a line break changes nothing
    have later (hp : q ∉ p.text) (hl : '\n' ∉ p.text) {n : List Char}
        (hn : m = (r.part p).new ++ n) (hps : r.rewritten ps = n ++ q :: v) :
        r.ClosedBy q (p :: ps) m v := by
      rw [hn, List.mem_append, not_or] at hq line
      rw [hn]
      refine .there (ih separates ?_ ?_ hq.2 line.2 hps)
      · rw [List.flatMap_append, List.flatMap_singleton]
        exact opened.append hp hl
      · intro a b hab ha
        have whole : (p :: ps).flatMap Part.text = p.text ++ a ++ q :: b := by
          rw [List.flatMap_cons, hab, List.append_assoc]
        have := unclosed (p.text ++ a) b whole (by simp [hp, ha])
        exact (List.mem_append.1 this).resolve_left hl
    have split := Text.append_eq_append_cons (a := (r.part p).new) (b := r.rewritten ps) h
    rcases r.part_cases p with part | ⟨specifier, source, declarations, part⟩
    · rw [part, Stretch.new] at split
      rcases split with ⟨n, rfl, hn⟩ | ⟨n, here, -⟩
      · rw [List.mem_append, not_or] at hq line
        exact later hq.1 line.1 (by rw [part, Stretch.new]) hn
      · refine absurd (unclosed m (n ++ ps.flatMap Part.text) ?_ hq) line
        rw [List.flatMap_cons, here]
        simp
    · obtain ⟨-, one_line⟩ := hs before p ps _ _ _ _ rfl part
      have hl : '\n' ∉ p.text := fun hp => one_line hp q opened
      have hp : q ∉ p.text := by
        intro hp
        obtain ⟨a, b, hab, ha⟩ := List.eq_append_cons_of_mem hp
        have := unclosed a (b ++ ps.flatMap Part.text) (by rw [List.flatMap_cons, hab]; simp) ha
        exact hl (hab ▸ List.mem_append_left _ this)
      rcases split with ⟨n, hm, hn⟩ | ⟨n, here, rfl⟩
      · exact later hp hl hm hn
      · rw [part, Stretch.new] at here
        exact .here (part.trans (by rw [here]))

/-- No statement is closed behind replaced parts if only characters of clauses are before them. -/
theorem not_begins_of_part {p : Part} {ps : List Part} {specifier source : String}
    {x text declarations : List Char}
    (part : r.part p = .replaced specifier source text declarations)
    (chars : ∀ c ∈ x, clauseChar.contains c = true) : ¬Begins (x ++ r.rewritten (p :: ps)) := by
  obtain ⟨xs, rest, rfl, -, free⟩ := exists_target_of_part part
  have unquoted : ∀ c ∈ x ++ xs, c ≠ '\'' ∧ c ≠ '"' := by
    intro c hc
    rcases List.mem_append.1 hc with hc | hc
    · exact not_quote_of_clauseChar (chars c hc)
    · exact free c hc
  have none : ¬Begins ((x ++ xs) ++ '=' :: (rest ++ r.rewritten ps)) :=
    not_begins_of_no_quote unquoted (by decide) (by decide)
  rwa [rewritten_cons, part, Stretch.new, List.append_assoc, ← List.append_assoc x,
    List.cons_append]

/-- A statement that begins in the new text but not in the old one is closed by declarations. -/
theorem exists_closedBy {before ps : List Part} {w x rest : List Char} {s : Shape}
    (hs : r.Separates (before ++ ps)) (hx : before.flatMap Part.text = w ++ x)
    (none : ¬Begins (x ++ ps.flatMap Part.text)) (h : x ++ r.rewritten ps = s.text ++ rest) :
    ∃ a b m, ps = a ++ b ∧ m <:+ s.content ∧ r.ClosedBy s.quote b m rest := by
  induction ps generalizing before x with
  | nil => exact absurd ⟨s, rest, h⟩ none
  | cons p ps ih =>
    rcases r.part_cases p with part | ⟨specifier, source, declarations, part⟩
    · have none' : ¬Begins (x ++ p.text ++ ps.flatMap Part.text) := by rwa [List.append_assoc]
      have h' : x ++ p.text ++ r.rewritten ps = s.text ++ rest := by
        rw [← h, rewritten_cons, part, Stretch.new, List.append_assoc]
      have hs' : r.Separates ((before ++ [p]) ++ ps) := by
        rwa [List.append_assoc, List.singleton_append]
      obtain ⟨a, b, m, rfl, hm, closed⟩ := ih hs' (by simp [hx]) none' h'
      exact ⟨p :: a, b, m, rfl, hm, closed⟩
    · rcases List.append_eq_append_iff.1 h with ⟨y, hy, hrest⟩ | ⟨y, rfl, -⟩
      · have hn : y ≠ [] := by
          rintro rfl
          refine none (begins_append ⟨s, [], ?_⟩ _)
          rw [hy, List.append_nil, List.append_nil]
        rcases s.cut hy hn with chars | ⟨m, rfl, line⟩
        · exact absurd ⟨s, rest, h⟩ (not_begins_of_part part chars)
        · -- the quote is open in front of the declarations, so one of them closes it
          obtain ⟨n, content, rfl⟩ := Shape.exists_content_eq hy hn
          have inside : ∀ c ∈ m ++ n, c ≠ s.quote ∧ c ≠ '\n' := content ▸ s.content_chars
          have front := fun c hc => inside c (List.mem_append_left n hc)
          have behind := fun c hc => inside c (List.mem_append_right m hc)
          rw [List.append_assoc, List.singleton_append] at hrest
          have opened : LeavesOpen s.quote (before.flatMap Part.text) :=
            ⟨s, w, m, rfl, hx, fun hq => (front _ hq).1 rfl, line⟩
          exact ⟨[], p :: ps, n, rfl, content ▸ List.suffix_append m n,
            closedBy_of_leavesOpen hs opened (Shape.newline_mem front none)
              (fun hq => (behind _ hq).1 rfl) (fun hl => (behind _ hl).2 rfl) hrest⟩
      · exact absurd (begins_append ⟨s, y, rfl⟩ _) none

/-! ### The second pass -/

/-- The text is read as parts that are kept. -/
def Keeps (r : Replacer) (text : List Char) : Prop :=
  ∃ ps, Reading text ps ∧ ∀ p ∈ ps, r.part p = .kept p.text

theorem keeps_nil : r.Keeps [] := ⟨[], .nil, by simp⟩

theorem Keeps.char {c : Char} {cs : List Char} (h : ¬Begins (c :: cs)) (hr : r.Keeps cs) :
    r.Keeps (c :: cs) := by
  obtain ⟨ps, reading, kept⟩ := hr
  exact ⟨.char c :: ps, .char h reading, List.forall_mem_cons.2 ⟨rfl, kept⟩⟩

theorem Keeps.of_inert {xs tail : List Char} (h : Text.Inert Begins xs tail) (ht : r.Keeps tail) :
    r.Keeps (xs ++ tail) := by
  induction xs with
  | nil => exact ht
  | cons c cs ih => exact .char h.not_here (ih h.of_cons)

theorem Keeps.statement {s : Shape} {rest : List Char} (h : r.part (.statement s) = .kept s.text)
    (hr : r.Keeps rest) : r.Keeps (s.text ++ rest) := by
  obtain ⟨ps, reading, kept⟩ := hr
  exact ⟨.statement s :: ps, .statement s reading, List.forall_mem_cons.2 ⟨h, kept⟩⟩

theorem Keeps.replaceIn_eq {code : String} (h : r.Keeps code.toList) : r.replaceIn code = code := by
  obtain ⟨ps, reading, kept⟩ := h
  have same : (ps.map r.part).flatMap Stretch.new = ps.flatMap Part.text := by
    rw [List.flatMap_map]
    refine List.flatMap_congr fun p hp => ?_
    rw [kept p hp]
    rfl
  rw [replaceIn, r.report_eq reading, same, reading.flatMap_text, String.ofList_toList]

/-- Of a replacer of exact sources, the new text is kept as it is. -/
theorem Simple.keeps_rewritten (hr : Simple r) {before ps : List Part} {text : List Char}
    (h : Reading text ps) (hs : r.Separates (before ++ ps)) : r.Keeps (r.rewritten ps) := by
  induction hn : ps.length using Nat.strongRecOn generalizing before ps text with
  | ind n ih =>
    subst hn
    have later (a : List Part) {b : List Part} {p : Part} (hps : ps = a ++ p :: b) :
        r.Keeps (r.rewritten b) := by
      have split : ps = a ++ [p] ++ b := by simp [hps]
      rw [split] at h
      rw [split, ← List.append_assoc] at hs
      exact ih b.length (by simp [hps]; omega) h.of_append hs rfl
    have declared (a : List Part) (d₁ : List Char) {b : List Part} {p : Part}
        {specifier source : String} {text d₂ : List Char} (hps : ps = a ++ p :: b)
        (part : r.part p = .replaced specifier source text (d₁ ++ d₂)) :
        r.Keeps (d₂ ++ r.rewritten b) := by
      have whole : before ++ ps = before ++ a ++ p :: b := by rw [hps, List.append_assoc]
      obtain ⟨next, -⟩ := hs (before ++ a) p b _ _ _ _ whole part
      exact (later a hps).of_inert (hr.inert_of_part part (apart_rewritten next)).of_append
    cases h with
    | nil => exact keeps_nil
    | @char c cs ps none h =>
      by_cases hb : Begins (c :: r.rewritten ps)
      · -- the new statement goes up to a quote of declarations
        obtain ⟨s, rest, hrest⟩ := hb
        have here :
            (before ++ [Part.char c]).flatMap Part.text = before.flatMap Part.text ++ [c] := by
          simp [Part.text]
        have none' : ¬Begins ([c] ++ ps.flatMap Part.text) := by rwa [h.flatMap_text]
        rw [← List.singleton_append, ← List.append_assoc] at hs
        obtain ⟨a, b, m, rfl, hm, closed⟩ := exists_closedBy hs here none' hrest
        have kept := hr.part_of_space (hm.subset (closed.space_mem s.quote_eq))
        obtain ⟨a', p, b', specifier, source, text, d₁, d₂, rfl, part, rfl⟩ := closed.exists_split
        rw [← List.singleton_append, ← List.append_assoc] at part
        have behind : r.Keeps (d₂ ++ r.rewritten b') :=
          declared (.char c :: (a ++ a')) _ (by simp) part
        show r.Keeps (c :: r.rewritten _)
        rw [hrest]
        exact behind.statement kept
      · exact (later [] rfl).char hb
    | @statement s rest ps h =>
      rw [rewritten_cons]
      rcases r.part_cases (.statement s) with part | ⟨specifier, source, declarations, part⟩
      · rw [part]
        exact (later [] rfl).statement part
      · rw [part]
        exact declared [] [] rfl part

/-- A second pass of a replacer of exact sources changes nothing, if each statement that the first
one replaces is separate from what is around it. -/
theorem replaceIn_replaceIn (hr : Simple r) {code : String}
    (h : ∀ e ∈ (r.report code).replaced, Separate code.toList e) :
    r.replaceIn (r.replaceIn code) = r.replaceIn code := by
  obtain ⟨ps, reading⟩ := exists_reading code.toList
  rw [r.report_eq reading] at h
  have separates : r.Separates ([] ++ ps) := separates_of_report reading h
  have keeps := hr.keeps_rewritten reading separates
  have once : (r.replaceIn code).toList = r.rewritten ps := by
    rw [replaceIn, r.report_eq reading, String.toList_ofList]
    rfl
  rw [← once] at keeps
  exact keeps.replaceIn_eq

/-- One exact source. -/
theorem simple_insert {key source : String} (hk : IsPath key) (hs : IsPath source)
    (h : ¬"import".toList <:+: source.toList) (k : Keyword) :
    Simple { keyword := k, exact := (∅ : ExactSources).insert key source } := by
  have only {key' source' : String}
      (h : ((∅ : ExactSources).insert key source)[key']? = some source') :
      key = key' ∧ source = source' := by
    rw [Std.ExtTreeMap.getElem?_insert] at h
    split at h
    case isTrue heq => exact ⟨Std.LawfulEqCmp.eq_of_compare heq, Option.some.inj h⟩
    case isFalse => simp at h
  refine ⟨rfl, ?_, ?_, ?_⟩
  · rintro key' source' h
    obtain ⟨rfl, rfl⟩ := only h
    exact hk
  · rintro key' source' h
    obtain ⟨rfl, rfl⟩ := only h
    exact hs
  · rintro key' source' h
    obtain ⟨rfl, rfl⟩ := only h
    assumption

/-- A statement over two lines, and one behind a quote left open. -/
theorem replaceIn_replaceIn_quote_open :
    let r : Replacer := { exact := (∅ : ExactSources).insert "m" "M" }
    let code := "import * as a\nfrom 'm';\nimport b from \"x import * as c from 'm'"
    Simple r ∧ (∀ e ∈ (r.report code).replaced, Separate code.toList e) ∧
      r.replaceIn (r.replaceIn code) = r.replaceIn code := by
  intro r code
  have simple : Simple r := simple_insert (by decide) (by decide) (by decide +kernel) .const
  have entries : (r.report code).replaced =
      [⟨"m", "M", ⟨0, 22⟩⟩, ⟨"m", "M", ⟨41, 63⟩⟩] := by decide +kernel
  have separate : ∀ e ∈ (r.report code).replaced, Separate code.toList e := by
    rw [entries]
    refine List.forall_mem_cons.2 ⟨⟨?_, ?_⟩, List.forall_mem_singleton.2 ⟨?_, ?_⟩⟩
    · have next : (Text.dropBytes 22 code.toList).head? = some ';' := by decide +kernel
      refine Breaks.apart (fun c hc => ?_) _
      rw [next] at hc
      exact Option.some.inj hc ▸ by decide
    · intro _ q
      have front : Text.takeBytes 0 code.toList = [] := by decide +kernel
      rw [front]
      exact not_leavesOpen_nil q
    · have next : Text.dropBytes 63 code.toList = [] := by decide +kernel
      rw [next]
      exact Breaks.apart (fun c hc => by cases hc) _
    · have one_line : '\n' ∉ Text.slice code.toList ⟨41, 63⟩ := by decide +kernel
      exact fun hn => absurd hn one_line
  exact ⟨simple, separate, replaceIn_replaceIn simple separate⟩

/-- What is not separate may be rewritten by a second pass: a source makes up the keyword with the
text behind its statement, or a quote left open is closed once a line break is gone. -/
theorem replaceIn_replaceIn_ne :
    (let r : Replacer := { exact := (∅ : ExactSources).insert "m" "M.imp" }
     let code := "import * as a from 'm'ort * as b from 'm'"
     Simple r ∧ r.replaceIn code = "const a = M.import * as b from 'm'" ∧
       r.replaceIn (r.replaceIn code) ≠ r.replaceIn code) ∧
    let r : Replacer := { exact := (∅ : ExactSources).insert "m" "M" }
    let code :=
      "import a from \"x import\n* as b from 'm'; import c from \"y; import * as d from 'm'\""
    Simple r ∧
      r.replaceIn code =
        "import a from \"x const b = M; import c from \"y; import * as d from 'm'\"" ∧
      r.replaceIn (r.replaceIn code) ≠ r.replaceIn code := by
  constructor
  · intro r code
    have once : r.replaceIn code = "const a = M.import * as b from 'm'" := by decide +kernel
    refine ⟨simple_insert (by decide) (by decide) (by decide +kernel) .const, once, ?_⟩
    rw [once]
    decide +kernel
  · intro r code
    have once : r.replaceIn code =
        "import a from \"x const b = M; import c from \"y; import * as d from 'm'\"" := by
      decide +kernel
    refine ⟨simple_insert (by decide) (by decide) (by decide +kernel) .const, once, ?_⟩
    rw [once]
    decide +kernel

end Replacer

end GlobalImports
