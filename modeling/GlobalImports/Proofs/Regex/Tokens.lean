import GlobalImports.Regex.Sweep
import GlobalImports.Proofs.Regex.Preference
import GlobalImports.Proofs.Text.Inert

/-! A sweep over a text, one step at a time. At each place either a match begins, and the sweep goes
on behind it, or the next character is passed over; so a text is a list of tokens, and whatever a
sweep is used for can be read off them. -/

namespace GlobalImports.Regex

/-! ### A place further on in a text -/

def Mark.shift (k : Nat) (m : Mark) : Mark := { m with index := m.index + k }

def Match.shift (k : Nat) (m : Match) : Match :=
  ⟨m.start + k, m.stop + k, m.marks.map (Mark.shift k)⟩

theorem relabels_shift (k : Nat) :
    Relabels fun σ => { σ with index := σ.index + k, marks := σ.marks.map (Mark.shift k) } where
  before _ := rfl
  rest _ := rfl
  read σ c cs := by simp [State.read, Nat.add_right_comm]
  mark σ g b := by simp [State.mark, Mark.shift]

theorem firstAt_shift (r : Regex) (k index : Nat) (before : Option Char) (rest : List Char) :
    r.firstAt (index + k) before rest = (r.firstAt index before rest).map (Match.shift k) := by
  have same := outcomes_relabel (relabels_shift k) r ⟨index, before, rest, []⟩
  simp only [List.map_nil] at same
  rw [firstAt, same, firstAt, List.head?_map, Option.map_map, Option.map_map]
  rfl

theorem leftmost_shift (r : Regex) (k index : Nat) (before : Option Char) (rest : List Char) :
    leftmost r (index + k) before rest = (leftmost r index before rest).map (Match.shift k) := by
  induction rest generalizing index before with
  | nil => exact r.firstAt_shift k index before []
  | cons c cs ih =>
    rw [leftmost, leftmost, firstAt_shift, Nat.add_right_comm, ih, Option.map_or]

theorem Match.span?_shift (k g : Nat) (m : Match) :
    (m.shift k).span? g = (m.span? g).map fun s => (s.1 + k, s.2 + k) := by
  have marks (p : Mark → Bool) (hp : ∀ x, p (x.shift k) = p x) :
      (m.shift k).marks.find? p = (m.marks.find? p).map (Mark.shift k) := by
    rw [shift, List.find?_map, show p ∘ Mark.shift k = p from funext hp]
  unfold span?
  by_cases hg : g = 0
  · simp [hg, shift]
  · rw [if_neg hg, if_neg hg, marks _ fun _ => rfl, marks _ fun _ => rfl]
    cases m.marks.find? fun x => x.group == g && x.closing with
    | none => rfl
    | some stop => cases m.marks.find? fun x => x.group == g && !x.closing <;> rfl

/-- The match as it is found with `c` in front of the text. -/
def Found.behind (c : Char) (f : Found) : Found := { f with skipped := c :: f.skipped }

theorem Match.cut_shift (m : Match) (n : Nat) (c : Char) (cs : List Char) :
    (m.shift 1).cut n (c :: cs) = (m.cut n cs).behind c := by
  have groups (g : Nat) :
      (((m.shift 1).span? g).map fun s => ((c :: cs).drop s.1).take (s.2 - s.1)) =
        (m.span? g).map fun s => (cs.drop s.1).take (s.2 - s.1) := by
    rw [m.span?_shift 1 g, Option.map_map]
    congr 1
    funext s
    simp [Nat.add_sub_add_right]
  simp only [cut, Found.behind, Found.mk.injEq]
  refine ⟨by simp [shift], by simp [shift], by simp [shift], ?_⟩
  exact List.map_congr_left fun g _ => groups g

/-! ### Matches where they begin -/

/-- The match that begins at the head of a text, with nothing passed over. -/
def here? (r : Regex) (before : Option Char) (text : List Char) : Option Found :=
  (r.firstAt 0 before text).map (·.cut r.groupCount text)

theorem find?_nil {r : Regex} (hr : r.productive = true) (before : Option Char) :
    r.find? before [] = r.here? before [] := by
  rw [find?, search_eq_leftmost hr]
  rfl

theorem find?_cons {r : Regex} (hr : r.productive = true) (before : Option Char) (c : Char)
    (cs : List Char) :
    r.find? before (c :: cs) =
      (r.here? before (c :: cs)).or ((r.find? (some c) cs).map (Found.behind c)) := by
  rw [find?, search_eq_leftmost hr, leftmost, leftmost_shift r 1 0, Option.map_or, Option.map_map,
    find?, search_eq_leftmost hr, Option.map_map]
  congr 2
  funext m
  exact m.cut_shift r.groupCount c cs

theorem skipped_of_here? {r : Regex} {before : Option Char} {text : List Char} {f : Found}
    (h : r.here? before text = some f) : f.skipped = [] := by
  obtain ⟨m, hm, rfl⟩ := Option.map_eq_some_iff.1 h
  obtain ⟨τ, -, rfl⟩ := Option.map_eq_some_iff.1 hm
  rfl

theorem text_append_rest_of_here? {r : Regex} {before : Option Char} {text : List Char} {f : Found}
    (h : r.here? before text = some f) : f.text ++ f.rest = text := by
  obtain ⟨m, hm, rfl⟩ := Option.map_eq_some_iff.1 h
  obtain ⟨τ, -, rfl⟩ := Option.map_eq_some_iff.1 hm
  simp [Match.cut]

/-! ### Tokens -/

/-- A match, or a character outside of all matches. -/
inductive Token where
  | char (c : Char)
  | hit (found : Found)
  deriving DecidableEq, Repr

/-- The tokens that a piece of a sweep stands for. -/
def Piece.tokens : Piece → List Token
  | kept cs => cs.map .char
  | hit f => [.hit { f with skipped := [] }]

/-- The tokens of a text that has `before` in front of it. Empty matches are passed over. -/
def tokens (r : Regex) (before : Option Char) (text : List Char) : List Token :=
  match _hf : r.here? before text with
  | some f =>
    if _ht : f.text = [] then
      match text with
      | [] => []
      | c :: cs => .char c :: tokens r (some c) cs
    else .hit f :: tokens r f.text.getLast? f.rest
  | none =>
    match text with
    | [] => []
    | c :: cs => .char c :: tokens r (some c) cs
termination_by text.length
decreasing_by
  · exact Nat.lt_succ_self _
  · have := List.length_pos_iff.2 _ht
    rw [← text_append_rest_of_here? _hf, List.length_append]
    omega
  · exact Nat.lt_succ_self _

theorem tokens_hit {r : Regex} {before : Option Char} {text : List Char} {f : Found}
    (h : r.here? before text = some f) (hf : f.text ≠ []) :
    r.tokens before text = .hit f :: r.tokens f.text.getLast? f.rest := by
  rw [tokens]
  split
  case h_1 g hg =>
    obtain rfl : f = g := Option.some.inj (h.symm.trans hg)
    rw [dif_neg hf]
  case h_2 hg => rw [hg] at h; cases h

theorem tokens_char {r : Regex} {before : Option Char} {c : Char} {cs : List Char}
    (h : ∀ f, r.here? before (c :: cs) = some f → f.text = []) :
    r.tokens before (c :: cs) = .char c :: r.tokens (some c) cs := by
  rw [tokens]
  split
  case h_1 f hf => rw [dif_pos (h f hf)]
  case h_2 => rfl

theorem tokens_nil (r : Regex) (before : Option Char) : r.tokens before [] = [] := by
  rw [tokens]
  split
  case h_1 f hf =>
    have := List.append_eq_nil_iff.1 (text_append_rest_of_here? hf)
    rw [dif_pos this.1]
  case h_2 => rfl

/-! ### Tokens of a sweep -/

section Sweep

variable {r : Regex} {before : Option Char} {text : List Char} {f : Found}

theorem sweep_of_none (h : r.find? before text = none) : r.sweep before text = [.kept text] := by
  rw [sweep]
  split
  case h_1 => rfl
  case h_2 g hg => rw [hg] at h; cases h

theorem sweep_of_hit (h : r.find? before text = some f) (hf : f.text ≠ []) :
    r.sweep before text = .kept f.skipped :: .hit f :: r.sweep f.text.getLast? f.rest := by
  rw [sweep]
  split
  case h_1 hg => rw [hg] at h; cases h
  case h_2 g hg =>
    obtain rfl : f = g := Option.some.inj (h.symm.trans hg)
    rw [dif_neg hf]

theorem sweep_of_empty_end (h : r.find? before text = some f) (hf : f.text = [])
    (hr : f.rest = []) : r.sweep before text = [.kept f.skipped] := by
  rw [sweep]
  split
  case h_1 hg => rw [hg] at h; cases h
  case h_2 g hg =>
    obtain rfl : f = g := Option.some.inj (h.symm.trans hg)
    rw [dif_pos hf]
    split
    case h_1 => rfl
    case h_2 hg => rw [hg] at hr; cases hr

theorem sweep_of_empty {c : Char} {cs : List Char} (h : r.find? before text = some f)
    (hf : f.text = []) (hr : f.rest = c :: cs) :
    r.sweep before text = .kept (f.skipped ++ [c]) :: r.sweep (some c) cs := by
  rw [sweep]
  split
  case h_1 hg => rw [hg] at h; cases h
  case h_2 g hg =>
    obtain rfl : f = g := Option.some.inj (h.symm.trans hg)
    rw [dif_pos hf]
    split
    case h_1 hg => rw [hg] at hr; cases hr
    case h_2 hg =>
      obtain ⟨rfl, rfl⟩ := List.cons.inj (hr.symm.trans hg)
      rfl

/-- Where no match begins, a sweep passes over a character. -/
theorem sweep_tokens_cons {c : Char} {cs : List Char} (hr : r.productive = true)
    (h : r.here? before (c :: cs) = none) :
    (r.sweep before (c :: cs)).flatMap Piece.tokens =
      .char c :: (r.sweep (some c) cs).flatMap Piece.tokens := by
  have find := find?_cons hr before c cs
  rw [h, Option.none_or] at find
  cases hf : r.find? (some c) cs with
  | none =>
    rw [hf] at find
    rw [sweep_of_none find, sweep_of_none hf]
    simp [Piece.tokens]
  | some f =>
    rw [hf] at find
    by_cases ht : f.text = []
    · cases hr : f.rest with
      | nil =>
        rw [sweep_of_empty_end find ht hr, sweep_of_empty_end hf ht hr]
        simp [Piece.tokens, Found.behind]
      | cons d ds =>
        rw [sweep_of_empty find ht hr, sweep_of_empty hf ht hr]
        simp [Piece.tokens, Found.behind]
    · rw [sweep_of_hit find ht, sweep_of_hit hf ht]
      simp [Piece.tokens, Found.behind]

/-- The pieces of a sweep are the tokens of the text. -/
theorem sweep_tokens (hr : r.productive = true) (before : Option Char) (text : List Char) :
    (r.sweep before text).flatMap Piece.tokens = r.tokens before text := by
  induction h : text.length using Nat.strongRecOn generalizing before text with
  | ind n ih =>
    subst h
    cases hh : r.here? before text with
    | none =>
      cases text with
      | nil =>
        rw [sweep_of_none ((find?_nil hr before).trans hh), tokens_nil]
        simp [Piece.tokens]
      | cons c cs =>
        rw [sweep_tokens_cons hr hh, tokens_char (by simp [hh]),
          ih cs.length (Nat.lt_succ_self _) _ _ rfl]
    | some f =>
      have skipped := skipped_of_here? hh
      have split := text_append_rest_of_here? hh
      have find : r.find? before text = some f := by
        cases text with
        | nil => exact (find?_nil hr before).trans hh
        | cons c cs => rw [find?_cons hr, hh, Option.some_or]
      by_cases ht : f.text = []
      · rw [ht, List.nil_append] at split
        cases text with
        | nil =>
          rw [sweep_of_empty_end find ht split, tokens_nil, skipped]
          simp [Piece.tokens]
        | cons c cs =>
          rw [sweep_of_empty find ht split, tokens_char (by simp [hh, ht]), skipped,
            List.flatMap_cons, ih cs.length (Nat.lt_succ_self _) _ _ rfl]
          simp [Piece.tokens]
      · have less : f.rest.length < text.length := by
          have := List.length_pos_iff.2 ht
          rw [← split, List.length_append]
          omega
        rw [sweep_of_hit find ht, tokens_hit hh ht, skipped, List.flatMap_cons, List.flatMap_cons,
          ih _ less _ _ rfl]
        obtain ⟨_, _, _, _⟩ := f
        subst skipped
        rfl

end Sweep

/-! ### What a sweep is used for -/

def Token.hit? : Token → Option Found
  | char _ => none
  | hit f => some f

/-- The matches of a sweep, apart from what each of them passes over. -/
theorem hits_eq (r : Regex) (hr : r.productive = true) (text : List Char) :
    (r.hits text).map (fun f => { f with skipped := [] }) =
      (r.tokens none text).filterMap Token.hit? := by
  rw [← sweep_tokens hr, hits]
  induction r.sweep none text with
  | nil => rfl
  | cons piece pieces ih =>
    rw [List.flatMap_cons, List.filterMap_append, ← ih]
    cases piece with
    | kept cs =>
      have none : (cs.map Token.char).filterMap Token.hit? = [] := by
        simp [List.filterMap_map, Function.comp_def, Token.hit?]
      rw [Piece.tokens, none]
      rfl
    | hit f => rfl

theorem exists_of_mem_tokens {r : Regex} {before : Option Char} {text : List Char} {f : Found}
    (h : .hit f ∈ r.tokens before text) :
    ∃ u before', text = u ++ (f.text ++ f.rest) ∧ r.here? before' (f.text ++ f.rest) = some f := by
  have passed {c : Char} {cs : List Char}
      (on : ∃ u before', cs = u ++ (f.text ++ f.rest) ∧
        r.here? before' (f.text ++ f.rest) = some f) :
      ∃ u before', c :: cs = u ++ (f.text ++ f.rest) ∧
        r.here? before' (f.text ++ f.rest) = some f := by
    obtain ⟨u, before', hu, here⟩ := on
    exact ⟨c :: u, before', by rw [hu]; rfl, here⟩
  fun_induction tokens r before text with
  | case1 => cases h
  | case2 _ _ _ _ _ _ ih =>
    rcases List.mem_cons.1 h with h | h
    · cases h
    · exact passed (ih h)
  | case3 before text g hit _ ih =>
    have split := text_append_rest_of_here? hit
    rcases List.mem_cons.1 h with h | h
    · obtain rfl := Token.hit.inj h
      exact ⟨[], before, split.symm, by rw [split]; exact hit⟩
    · obtain ⟨u, before', hu, here⟩ := ih h
      exact ⟨g.text ++ u, before', by rw [List.append_assoc, ← hu, split], here⟩
  | case4 => cases h
  | case5 _ _ _ _ ih =>
    rcases List.mem_cons.1 h with h | h
    · cases h
    · exact passed (ih h)

theorem mem_of_char_mem_tokens {r : Regex} {before : Option Char} {text : List Char} {c : Char}
    (h : .char c ∈ r.tokens before text) : c ∈ text := by
  fun_induction tokens r before text with
  | case1 => cases h
  | case2 _ _ _ _ _ _ ih =>
    rcases List.mem_cons.1 h with h | h
    · rw [Token.char.inj h]
      exact List.mem_cons_self
    · exact List.mem_cons_of_mem _ (ih h)
  | case3 before text g hit _ ih =>
    rcases List.mem_cons.1 h with h | h
    · cases h
    · rw [← text_append_rest_of_here? hit]
      exact List.mem_append_right _ (ih h)
  | case4 => cases h
  | case5 _ _ _ _ ih =>
    rcases List.mem_cons.1 h with h | h
    · rw [Token.char.inj h]
      exact List.mem_cons_self
    · exact List.mem_cons_of_mem _ (ih h)

theorem mem_of_mem_group {r : Regex} {before : Option Char} {text u : List Char} {f : Found}
    {g : Nat} {c : Char} (h : r.here? before text = some f) (hg : f.group? g = some u)
    (hc : c ∈ u) : c ∈ text := by
  obtain ⟨m, -, rfl⟩ := Option.map_eq_some_iff.1 h
  obtain ⟨i, -, hi⟩ := List.mem_map.1 (List.mem_of_getElem? (Option.join_eq_some_iff.1 hg))
  obtain ⟨s, -, rfl⟩ := Option.map_eq_some_iff.1 hi
  exact List.mem_of_mem_drop (List.mem_of_mem_take hc)

/-- The matches of a sweep are tokens of the text. -/
theorem mem_tokens_of_mem_hits {r : Regex} (hr : r.productive = true) {text : List Char} {f : Found}
    (h : f ∈ r.hits text) : .hit { f with skipped := [] } ∈ r.tokens none text := by
  have mem : { f with skipped := [] } ∈ (r.tokens none text).filterMap Token.hit? :=
    hits_eq r hr text ▸ List.mem_map_of_mem h
  obtain ⟨t, ht, hit⟩ := List.mem_filterMap.1 mem
  cases t with
  | char c => cases hit
  | hit g => rwa [show g = { f with skipped := [] } from Option.some.inj hit] at ht

/-- Where a match of a sweep is in the text. -/
theorem exists_of_mem_hits {r : Regex} (hr : r.productive = true) {text : List Char} {f : Found}
    (h : f ∈ r.hits text) :
    ∃ u before, text = u ++ (f.text ++ f.rest) ∧
      r.here? before (f.text ++ f.rest) = some { f with skipped := [] } :=
  exists_of_mem_tokens (f := { f with skipped := [] }) (mem_tokens_of_mem_hits hr h)

/-- The groups of the matches of a sweep are made of characters of the text. -/
theorem mem_of_mem_group_hit {r : Regex} (hr : r.productive = true) {text u : List Char} {f : Found}
    {g : Nat} {c : Char} (h : f ∈ r.hits text) (hg : f.group? g = some u) (hc : c ∈ u) :
    c ∈ text := by
  obtain ⟨w, before, rfl, here⟩ := exists_of_mem_hits hr h
  exact List.mem_append_right w (mem_of_mem_group here hg hc)

/-- What replacing makes of a token. -/
def Token.replace (replacement : Found → List Char) : Token → List Char
  | char c => [c]
  | hit f => replacement f

theorem flatMap_replace_map_char (replacement : Found → List Char) (cs : List Char) :
    (cs.map Token.char).flatMap (Token.replace replacement) = cs := by
  rw [List.flatMap_map]
  exact List.flatMap_singleton' cs

/-- A text with its matches replaced, where the replacement of a match does not hang on what was
passed over before it. -/
theorem replaceAll_eq (r : Regex) (hr : r.productive = true) (text : List Char)
    (replacement : Found → List Char)
    (hs : ∀ f, replacement { f with skipped := [] } = replacement f) :
    r.replaceAll replacement text = (r.tokens none text).flatMap (Token.replace replacement) := by
  rw [← sweep_tokens hr, replaceAll, List.flatMap_assoc]
  congr 1
  funext piece
  cases piece with
  | kept cs => simp [Piece.tokens, Token.replace, List.flatMap_map]
  | hit f => simp [Piece.tokens, Token.replace, hs]

/-! ### Reading the tokens of a text -/

/-- Some match begins at the head of the text, at least behind some character. -/
def Begins (r : Regex) (text : List Char) : Prop := ∃ before f, r.here? before text = some f

/-- The tokens of a text, whatever is in front of it. -/
def Reads (r : Regex) (text : List Char) (ts : List Token) : Prop :=
  ∀ before, r.tokens before text = ts

section Reads

variable {r : Regex} {xs tail : List Char} {ts : List Token}

theorem reads_nil (r : Regex) : r.Reads [] [] := fun before => tokens_nil r before

theorem Reads.append_of_inert (ht : r.Reads tail ts) (hx : Text.Inert r.Begins xs tail) :
    r.Reads (xs ++ tail) (xs.map .char ++ ts) := by
  induction xs with
  | nil => exact ht
  | cons c xs ih =>
    intro before
    have none : ∀ f, r.here? before (c :: (xs ++ tail)) = some f → f.text = [] :=
      fun f hf => absurd ⟨before, f, hf⟩ hx.not_here
    rw [List.cons_append, tokens_char none, ih hx.of_cons]
    rfl

theorem Reads.char {c : Char} (ht : r.Reads tail ts) (h : ¬r.Begins (c :: tail)) :
    r.Reads (c :: tail) (.char c :: ts) :=
  ht.append_of_inert (Text.inert_singleton h)

theorem Reads.hit {f : Found} (ht : r.Reads f.rest ts) (hne : f.text ≠ [])
    (h : ∀ before, r.here? before (f.text ++ f.rest) = some f) :
    r.Reads (f.text ++ f.rest) (.hit f :: ts) := by
  intro before
  rw [tokens_hit (h before) hne, ht]

/-- The text with its matches replaced, whatever is in front of it. -/
def Rewrites (r : Regex) (replacement : Found → List Char) (text out : List Char) : Prop :=
  ∃ ts, r.Reads text ts ∧ ts.flatMap (Token.replace replacement) = out

section Rewrites

variable {replacement : Found → List Char} {out : List Char}

theorem rewrites_nil (r : Regex) (replacement : Found → List Char) :
    r.Rewrites replacement [] [] := ⟨[], reads_nil r, rfl⟩

theorem Rewrites.append_of_inert (h : r.Rewrites replacement tail out)
    (hx : Text.Inert r.Begins xs tail) : r.Rewrites replacement (xs ++ tail) (xs ++ out) := by
  obtain ⟨ts, hts, rfl⟩ := h
  refine ⟨_, hts.append_of_inert hx, ?_⟩
  rw [List.flatMap_append, flatMap_replace_map_char]

theorem Rewrites.char {c : Char} (h : r.Rewrites replacement tail out)
    (hc : ¬r.Begins (c :: tail)) : r.Rewrites replacement (c :: tail) (c :: out) :=
  h.append_of_inert (Text.inert_singleton hc)

theorem Rewrites.hit {f : Found} (ht : r.Rewrites replacement f.rest out) (hne : f.text ≠ [])
    (h : ∀ before, r.here? before (f.text ++ f.rest) = some f) :
    r.Rewrites replacement (f.text ++ f.rest) (replacement f ++ out) := by
  obtain ⟨ts, hts, rfl⟩ := ht
  exact ⟨_, hts.hit hne h, rfl⟩

theorem Rewrites.replaceAll_eq (h : r.Rewrites replacement xs out) (hr : r.productive = true)
    (hs : ∀ f, replacement { f with skipped := [] } = replacement f) :
    r.replaceAll replacement xs = out := by
  obtain ⟨ts, hts, rfl⟩ := h
  rw [Regex.replaceAll_eq r hr xs replacement hs, hts none]

end Rewrites

theorem here?_of_head? {before : Option Char} {text : List Char} {τ : State}
    (h : (r.outcomes ⟨0, before, text, []⟩).head? = some τ) :
    r.here? before text = some (Match.cut ⟨0, τ.index, τ.marks⟩ r.groupCount text) := by
  rw [here?, firstAt, h]
  rfl

theorem exists_mem_outcomes_of_begins {text : List Char} (h : r.Begins text) :
    ∃ before, ∃ τ, τ ∈ r.outcomes ⟨0, before, text, []⟩ := by
  obtain ⟨before, f, hf⟩ := h
  obtain ⟨m, hm, -⟩ := Option.map_eq_some_iff.1 hf
  obtain ⟨τ, hτ, -⟩ := Option.map_eq_some_iff.1 hm
  exact ⟨before, τ, List.mem_of_mem_head? hτ⟩

end Reads

end GlobalImports.Regex
