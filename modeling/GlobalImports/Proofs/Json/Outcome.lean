import GlobalImports.Json.Typed
import GlobalImports.Proofs.Json.Skip

/-! What becomes of reading, apart from where it fails. A reader makes the same of the text of a
value wherever the value stands: it is read as one thing or refused for one cause, and what comes
behind it has no say in that. -/

namespace GlobalImports.Json

section Outcome

variable {α β : Type}

/-- What has been read, or the cause of a fault wherever it was met. -/
def outcome (x : Except Fault α) : Except Cause α := x.mapError Fault.cause

variable (s : List Char) (cause : Cause)

@[simp] theorem outcome_ok (a : α) : outcome (.ok a) = .ok a := rfl

@[simp] theorem outcome_failNext : outcome ((failNext cause : Reader α) s) = .error cause := rfl

theorem outcome_error (fault : Fault) :
    outcome (.error fault : Except Fault α) = .error fault.cause := rfl

theorem outcome_eq_ok_iff {x : Except Fault α} {a : α} : outcome x = .ok a ↔ x = .ok a := by
  cases x with
  | error fault => simp [outcome_error]
  | ok b => simp

theorem outcome_map (x : Except Fault α) (f : α → β) :
    outcome (x.map f) = (outcome x).map f := by
  cases x <;> rfl

/-- What comes behind a reader goes by its outcome. -/
theorem outcome_bind {x : Reader α} {s t : List Char} {o : Except Cause α}
    (h : outcome (x s) = o.map fun a => (a, t)) (f : α → Reader β) :
    outcome ((x >>= f) s) = o.bind fun a => outcome (f a t) := by
  rw [bind_apply]
  cases hx : x s with
  | error fault =>
    rw [hx] at h
    cases o with
    | error cause => exact congrArg _ (Except.error.inj h)
    | ok a => cases h
  | ok p =>
    rw [hx] at h
    cases o with
    | error cause => cases h
    | ok a =>
      obtain rfl := Except.ok.inj h
      rfl

theorem outcome_pure_bind {x : Reader α} {s t : List Char} {o : Except Cause α}
    (h : outcome (x s) = o.map fun a => (a, t)) (f : α → β) :
    outcome ((do return f (← x) : Reader β) s) = (o.map f).map fun b => (b, t) := by
  rw [outcome_bind h]
  cases o <;> rfl

/-- The reader passes nothing and does not go by what is left. -/
def Steady (x : Reader α) : Prop :=
  ∃ o : Except Cause α, ∀ rest, outcome (x rest) = o.map fun a => (a, rest)

theorem steady_pure (a : α) : Steady (pure a : Reader α) := ⟨.ok a, fun _ => rfl⟩

theorem steady_failHere : Steady (failHere cause : Reader α) := ⟨.error cause, fun _ => rfl⟩

theorem Steady.map {x : Reader α} (h : Steady x) (f : α → β) :
    Steady (do return f (← x) : Reader β) := by
  obtain ⟨o, ho⟩ := h
  exact ⟨o.map f, fun rest => outcome_pure_bind (ho rest) f⟩

end Outcome

/-! ### Values in their places -/

section Yields

variable {α β : Type} {r : Reader α} {v : List Char} {o : Except Cause α}

/-- Wherever the text stands, it is read as the same thing or refused for the same cause. -/
def Yields (r : Reader α) (text : List Char) (o : Except Cause α) : Prop :=
  ∀ (g : Gap) (rest : List Char), Follows rest →
    outcome (r (g.chars ++ (text ++ rest))) = o.map fun a => (a, rest)

theorem yields_ok_iff {a : α} : Yields r v (.ok a) ↔ Reads r v a := by
  unfold Yields Reads
  simp only [Except.map, outcome_eq_ok_iff]

theorem Yields.unique {o' : Except Cause α} (h : Yields r v o) (h' : Yields r v o') : o = o' := by
  have both := (h .tight [] follows_nil).symm.trans (h' .tight [] follows_nil)
  cases o <;> cases o' <;> simp_all [Except.map]

/-- Readers of values pass white space and go by the first character. -/
theorem yields_peekValue {f : Char → Reader α} {c : Char} {cs : List Char}
    (hc : isSpace c = false)
    (h : ∀ rest, Follows rest → outcome (f c (c :: (cs ++ rest))) = o.map fun a => (a, rest)) :
    Yields (peekValue >>= f) (c :: cs) o := by
  intro g rest hr
  rw [bind_apply, peekValue_gap, List.cons_append, peekValue_cons _ hc]
  exact h rest hr

end Yields

/-! ### Strings -/

section Strings

/-- The characters of a string are read, or it breaks at some place. -/
def Breaks (pieces : List Piece) (cause : Cause) : Prop :=
  ∀ rest, outcome (stringBody (pieces.flatMap Piece.text ++ '"' :: rest)) = .error cause

variable {ps : List Piece} {cause : Cause}

/-- Behind a leading surrogate there has to be a trailing one. -/
theorem outcome_lowSurrogate (high : Nat)
    (h : ∀ v qs, ps = .unit v :: qs → isLowSurrogate v.value = false) :
    ∃ cause, ∀ rest,
      outcome (lowSurrogate high (ps.flatMap Piece.text ++ '"' :: rest)) = .error cause := by
  cases ps with
  | nil => exact ⟨.missingSurrogate, fun rest => rfl⟩
  | cons p qs =>
    cases p with
    | raw c hc =>
      rw [isRaw_iff] at hc
      refine ⟨.missingSurrogate, fun rest => ?_⟩
      rw [List.flatMap_cons, Piece.text, List.singleton_append, List.cons_append, lowSurrogate]
      · rfl
      · exact fun r hr => hc.2.2 (List.cons.inj hr).1
      · exact fun r hr => hc.2.2 (List.cons.inj hr).1
    | short letter c hc =>
      refine ⟨.missingSurrogate, fun rest => ?_⟩
      rw [List.flatMap_cons, Piece.text, List.cons_append, List.cons_append, lowSurrogate]
      · rfl
      · exact fun r hr => (shortEscape?_eq hc).2 (List.cons.inj hr).1
    | unit v =>
      refine ⟨.loneSurrogate, fun rest => ?_⟩
      simp [lowSurrogate, Piece.text, hex4_chars, h v qs rfl, bind, Except.bind]
      rfl

theorem outcome_stringBody_escape {t : List Char} (h : outcome (escape t) = .error cause) :
    outcome (stringBody ('\\' :: t)) = .error cause := by
  cases he : escape t with
  | ok p =>
    rw [he] at h
    cases h
  | error fault =>
    rw [he] at h
    rw [stringBody_escape_error he]
    exact congrArg _ (Except.error.inj h)

/-- What breaks behind an escape breaks. -/
theorem Breaks.behind (h : Breaks ps cause) {c : Char} {e : List Char}
    (he : ∀ t, escape (e ++ t) = .ok (c, t)) (rest : List Char) :
    outcome (stringBody ('\\' :: (e ++ (ps.flatMap Piece.text ++ '"' :: rest)))) =
      .error cause := by
  rw [stringBody_escape (he _), outcome_map, h]
  rfl

theorem Breaks.raw (h : Breaks ps cause) {c : Char} (hc : isRaw c = true) :
    Breaks (.raw c hc :: ps) cause := by
  intro rest
  rw [List.flatMap_cons, Piece.text, List.singleton_append, List.cons_append, stringBody_raw hc,
    outcome_map, h]
  rfl

theorem Breaks.short (h : Breaks ps cause) {letter c : Char} (hc : (letter, c) ∈ shortEscapes) :
    Breaks (.short letter c hc :: ps) cause := by
  intro rest
  rw [List.flatMap_cons, List.append_assoc]
  exact h.behind (e := [letter]) (escape_short hc) rest

theorem Breaks.unit (h : Breaks ps cause) {u : CodeUnit} {c : Char} (hu : u.value = c.toNat) :
    Breaks (.unit u :: ps) cause := by
  intro rest
  rw [List.flatMap_cons, List.append_assoc]
  exact h.behind (e := 'u' :: u.chars) (escape_unit hu) rest

theorem Breaks.pair (h : Breaks ps cause) {u v : CodeUnit} {c : Char} (hc : 0x10000 ≤ c.toNat)
    (hu : u.value = 0xD800 + (c.toNat - 0x10000) / 0x400)
    (hv : v.value = 0xDC00 + (c.toNat - 0x10000) % 0x400) :
    Breaks (.unit u :: .unit v :: ps) cause := by
  intro rest
  have text : ((.unit u :: .unit v :: ps).flatMap Piece.text ++ '"' :: rest : List Char) =
      '\\' :: ('u' :: (u.chars ++ '\\' :: 'u' :: v.chars) ++
        (ps.flatMap Piece.text ++ '"' :: rest)) := by
    simp [Piece.text]
  rw [text]
  refine h.behind (c := c) (fun t => ?_) rest
  rw [List.cons_append, List.append_assoc]
  exact escape_pair hc hu hv t

/-- A trailing surrogate comes behind a leading one only. -/
theorem breaks_low {u : CodeUnit} (hu : isLowSurrogate u.value = true) :
    Breaks (.unit u :: ps) .loneSurrogate := by
  intro rest
  rw [List.flatMap_cons, List.append_assoc]
  refine outcome_stringBody_escape (t := 'u' :: (u.chars ++ _)) ?_
  simp [escape, hex4_chars, hu, bind, Except.bind]
  rfl

theorem breaks_high {u : CodeUnit} (hu : isHighSurrogate u.value = true)
    (h : ∀ v qs, ps = .unit v :: qs → isLowSurrogate v.value = false) :
    ∃ cause, Breaks (.unit u :: ps) cause := by
  obtain ⟨cause, broken⟩ := outcome_lowSurrogate u.value h
  have low : isLowSurrogate u.value = false := by
    simp only [isHighSurrogate, isLowSurrogate, Bool.and_eq_true, decide_eq_true_eq,
      Bool.and_eq_false_iff, decide_eq_false_iff_not] at hu ⊢
    omega
  refine ⟨cause, fun rest => ?_⟩
  rw [List.flatMap_cons, List.append_assoc]
  refine outcome_stringBody_escape (t := 'u' :: (u.chars ++ _)) ?_
  simp only [escape, hex4_chars, hu, low, bind, Except.bind, if_true]
  exact broken rest

theorem CodeUnit.value_lt (u : CodeUnit) : u.value < 0x10000 := by
  rw [CodeUnit.value]
  omega

theorem exists_char {n : Nat} (h : n.isValidChar) : ∃ c : Char, n = c.toNat :=
  ⟨Char.ofNatAux n h, rfl⟩

/-- A code unit that is no surrogate is a character. -/
theorem CodeUnit.exists_char {u : CodeUnit} (low : isLowSurrogate u.value = false)
    (high : isHighSurrogate u.value = false) : ∃ c : Char, u.value = c.toNat := by
  have limit := u.value_lt
  refine Json.exists_char ?_
  simp only [isHighSurrogate, isLowSurrogate, Bool.and_eq_false_iff,
    decide_eq_false_iff_not] at low high
  unfold Nat.isValidChar
  omega

/-- Two surrogates are a character. -/
theorem CodeUnit.exists_char_pair {u v : CodeUnit} (high : isHighSurrogate u.value = true)
    (low : isLowSurrogate v.value = true) :
    ∃ c : Char, 0x10000 ≤ c.toNat ∧ u.value = 0xD800 + (c.toNat - 0x10000) / 0x400 ∧
      v.value = 0xDC00 + (c.toNat - 0x10000) % 0x400 := by
  simp only [isHighSurrogate, isLowSurrogate, Bool.and_eq_true, decide_eq_true_eq] at low high
  have valid : ((u.value - 0xD800) * 0x400 + (v.value - 0xDC00) + 0x10000).isValidChar := by
    unfold Nat.isValidChar
    omega
  obtain ⟨c, hc⟩ := Json.exists_char valid
  exact ⟨c, by omega, by omega, by omega⟩

/-- A string spells something, or it breaks for a cause of its own. By induction on its length, as
two code units may be taken at once. -/
theorem spelled_or_breaks (ps : List Piece) :
    (∃ s, Spelled ps s) ∨ ∃ cause, Breaks ps cause := by
  generalize length : ps.length = n
  induction n using Nat.strongRecOn generalizing ps with
  | _ n ih =>
  cases ps with
  | nil => exact .inl ⟨[], .nil⟩
  | cons p ps =>
    have shorter : ps.length < n := length ▸ Nat.lt_succ_self _
    cases p with
    | raw c h =>
      obtain ⟨s, hs⟩ | ⟨cause, hb⟩ := ih _ shorter ps rfl
      · exact .inl ⟨_, .raw h hs⟩
      · exact .inr ⟨cause, hb.raw h⟩
    | short letter c h =>
      obtain ⟨s, hs⟩ | ⟨cause, hb⟩ := ih _ shorter ps rfl
      · exact .inl ⟨_, .short h hs⟩
      · exact .inr ⟨cause, hb.short h⟩
    | unit u =>
      cases low : isLowSurrogate u.value with
      | true => exact .inr ⟨_, breaks_low low⟩
      | false =>
      cases high : isHighSurrogate u.value with
      | false =>
        obtain ⟨c, value⟩ := u.exists_char low high
        obtain ⟨s, hs⟩ | ⟨cause, hb⟩ := ih _ shorter ps rfl
        · exact .inl ⟨_, .unit value hs⟩
        · exact .inr ⟨cause, hb.unit value⟩
      | true =>
        by_cases pair : ∃ v qs, ps = .unit v :: qs ∧ isLowSurrogate v.value = true
        · obtain ⟨v, qs, rfl, low'⟩ := pair
          obtain ⟨c, large, hu, hv⟩ := CodeUnit.exists_char_pair high low'
          obtain ⟨s, hs⟩ | ⟨cause, hb⟩ := ih _ (Nat.lt_of_succ_lt shorter) qs rfl
          · exact .inl ⟨_, .pair large hu hv hs⟩
          · exact .inr ⟨cause, hb.pair large hu hv⟩
        · refine .inr (breaks_high high fun v qs e => ?_)
          rw [Bool.eq_false_iff]
          exact fun low' => pair ⟨v, qs, e, low'⟩

end Strings

/-- The outcome of a string hangs on the string alone. -/
theorem Literal.exists_outcome (l : Literal) :
    ∃ o : Except Cause String, (∀ s, o = .ok s → l.Spells s) ∧
      ∀ rest, outcome (stringRest (l.body ++ '"' :: rest)) = o.map fun s => (s, rest) := by
  obtain ⟨s, hs⟩ | ⟨cause, hb⟩ := spelled_or_breaks l.pieces
  · have spells : l.Spells (String.ofList s) := by
      rw [Spells, String.toList_ofList]
      exact hs
    refine ⟨.ok (String.ofList s), fun t ht => Except.ok.inj ht ▸ spells, fun rest => ?_⟩
    rw [stringRest_body spells]
    rfl
  · refine ⟨.error cause, by simp, fun rest => ?_⟩
    rw [stringRest, outcome_map, body, hb]
    rfl

/-! ### Numbers -/

/-- Whether the exponent is too large hangs on the digits alone. -/
theorem steady_applyExponent (s : Significand) (negative : Bool) (e : Option (Bool × List Char)) :
    Steady (applyExponent s negative e) := by
  have finish (x : Option Decimal.Double) : Steady (applyExponent.finish negative x) := by
    cases x with
    | none => exact steady_failHere _
    | some x => exact steady_pure _
  unfold applyExponent
  cases e with
  | none => exact finish _
  | some e =>
    obtain ⟨down, ds⟩ := e
    dsimp only
    cases overflowAt? ds with
    | none => exact finish _
    | some taken =>
      dsimp only
      split
      · exact ⟨.error .numberOutOfRange, fun _ => rfl⟩
      · exact steady_pure _

/-- Once its digits have been passed, what is left of a number is steady. -/
theorem Numeral.exists_steady (n : Numeral) (negative : Bool) :
    ∃ x : Reader Number, Steady x ∧
      ∀ rest, Follows rest → number negative (n.unsigned ++ rest) = x rest := by
  have float (s : Significand) : Steady (floatOf negative (n.exponent.map Exponent.signed) s) :=
    (steady_applyExponent s negative _).map _
  refine ⟨?left, ?steady, fun rest h => ?same⟩
  case same =>
    rw [number, bind_apply, n.wholeDigits_unsigned _ h, bind_ok, bind_apply,
      n.fractionDigits_fractionText _ h, bind_ok, bind_apply, n.exponentDigits_exponentText _ h,
      bind_ok]
  case steady =>
    dsimp only
    cases n.fraction with
    | some ds => exact float _
    | none =>
      by_cases asFloat : ((n.exponent.map Exponent.signed).isSome ||
          (n.whole.text.foldl Significand.whole {}).full) = true
      · simpa only [Option.map_none, if_pos asFloat] using float _
      · simp only [Option.map_none, if_neg asFloat]
        cases integer? negative (n.whole.text.foldl Significand.whole {}).value with
        | some i => exact steady_pure _
        | none => exact float _

theorem Numeral.exists_outcome (n : Numeral) (negative : Bool) :
    ∃ o : Except Cause Number, ∀ rest, Follows rest →
      outcome (number negative (n.unsigned ++ rest)) = o.map fun a => (a, rest) := by
  obtain ⟨x, ⟨o, ho⟩, same⟩ := n.exists_steady negative
  exact ⟨o, fun rest h => by rw [same rest h, ho]⟩

/-! ### Values of another type -/

/-- What the first character of a value says about the rest. -/
structure Head (v : List Char) (c : Char) (cs : List Char) : Prop where
  text : v = c :: cs
  space : isSpace c = false
  string : c = '"' → ∃ l : Literal, v = l.text
  list : c = '[' → ∃ g es, v = listText g es ∧ ∀ e ∈ es, IsValue e.value
  object : c = '{' → ∃ g ms, v = objectText g ms ∧ ∀ m ∈ ms, IsValue m.item.value
  null : c = 'n' → v = "null".toList

section Mismatch

variable {v : List Char}

namespace Head

variable {c : Char} {cs : List Char}

theorem ne_string (head : Head v c cs) (h : c ≠ '"') (l : Literal) : v ≠ l.text :=
  fun e => h (List.cons.inj (head.text.symm.trans e)).1

theorem ne_list (head : Head v c cs) (h : c ≠ '[') (g : Gap) (es : List Item) :
    v ≠ listText g es :=
  fun e => h (List.cons.inj (head.text.symm.trans e)).1

theorem ne_object (head : Head v c cs) (h : c ≠ '{') (g : Gap) (ms : List Member) :
    v ≠ objectText g ms :=
  fun e => h (List.cons.inj (head.text.symm.trans e)).1

theorem ne_quote (head : Head v c cs) (other : ∀ l : Literal, v ≠ l.text) : c ≠ '"' := by
  intro e
  obtain ⟨l, hl⟩ := head.string e
  exact other l hl

theorem ne_bracket (head : Head v c cs) (other : ∀ g es, v ≠ listText g es) : c ≠ '[' := by
  intro e
  obtain ⟨g, es, hv, -⟩ := head.list e
  exact other g es hv

theorem ne_brace (head : Head v c cs) (other : ∀ g ms, v ≠ objectText g ms) : c ≠ '{' := by
  intro e
  obtain ⟨g, ms, hv, -⟩ := head.object e
  exact other g ms hv

end Head

theorem IsValue.exists_head (h : IsValue v) : ∃ c cs, Head v c cs := by
  cases h with
  | word h =>
    simp only [List.mem_cons, List.not_mem_nil, or_false] at h
    rcases h with rfl | rfl | rfl
    · exact ⟨'n', _, rfl, by decide, by simp, by simp, by simp, fun _ => rfl⟩
    · exact ⟨'t', _, rfl, by decide, by simp, by simp, by simp, by simp⟩
    · exact ⟨'f', _, rfl, by decide, by simp, by simp, by simp, by simp⟩
  | number n =>
    rw [Numeral.text]
    split
    · exact ⟨'-', _, rfl, by decide, by simp, by simp, by simp, by simp⟩
    · obtain ⟨c, cs, hc, digit⟩ := n.exists_cons
      have ne (d : Char) (hd : d.isDigit = false) := ne_of_isDigit digit hd
      exact ⟨c, cs, hc, not_isSpace_digit digit, fun e => absurd e (ne '"' (by decide)),
        fun e => absurd e (ne '[' (by decide)), fun e => absurd e (ne '{' (by decide)),
        fun e => absurd e (ne 'n' (by decide))⟩
  | string l =>
    exact ⟨'"', _, rfl, by decide, fun _ => ⟨l, rfl⟩, by simp, by simp, by simp⟩
  | @list g es h =>
    exact ⟨'[', _, rfl, by decide, by simp, fun _ => ⟨g, es, rfl, h⟩, by simp, by simp⟩
  | @object g ms h =>
    exact ⟨'{', _, rfl, by decide, by simp, by simp, fun _ => ⟨g, ms, rfl, h⟩, by simp⟩

/-- A value that has been read only to be refused. -/
theorem exists_outcome_refused {α β : Type} {o : Except Cause α} (f : α → Cause) :
    ∃ cause, ∀ (x : Reader α) (s t : List Char), outcome (x s) = o.map (fun a => (a, t)) →
      outcome ((x >>= fun a => failHere (f a) : Reader β) s) = .error cause := by
  cases o with
  | error cause => exact ⟨cause, fun x s t h => outcome_bind h _⟩
  | ok a => exact ⟨f a, fun x s t h => outcome_bind h _⟩

/-- A value of any kind is refused where another is wanted. -/
theorem exists_outcome_mismatch {α : Type} (h : IsValue v) (expected : String) :
    ∃ cause, ∀ rest, Follows rest →
      outcome ((mismatch expected : Reader α) (v ++ rest)) = .error cause := by
  cases h with
  | word h =>
    simp only [List.mem_cons, List.not_mem_nil, or_false] at h
    rcases h with rfl | rfl | rfl
    · exact ⟨_, fun rest _ => rfl⟩
    · exact ⟨_, fun rest _ => rfl⟩
    · exact ⟨_, fun rest _ => rfl⟩
  | number n =>
    obtain ⟨o, ho⟩ := n.exists_outcome n.negative
    obtain ⟨cause, refused⟩ := exists_outcome_refused (β := α) (o := o)
      fun a => .invalidType a.kind expected
    refine ⟨cause, fun rest hr => ?_⟩
    rw [← refused _ _ _ (ho rest hr), Numeral.text]
    cases n.negative with
    | true => rfl
    | false =>
      obtain ⟨c, cs, hc, digit⟩ := n.exists_cons
      have ne (d : Char) (hd : d.isDigit = false) := ne_of_isDigit digit hd
      rw [if_neg Bool.false_ne_true, hc, List.cons_append]
      simp [mismatch, digit, ne 'n' (by decide), ne 't' (by decide), ne 'f' (by decide),
        ne '"' (by decide), ne '[' (by decide), ne '{' (by decide), ne '-' (by decide)]
  | string l =>
    obtain ⟨o, -, ho⟩ := l.exists_outcome
    obtain ⟨cause, refused⟩ := exists_outcome_refused (β := α) (o := o)
      fun s => .invalidType (.string s) expected
    refine ⟨cause, fun rest _ => ?_⟩
    rw [← refused _ _ _ (ho rest), l.text_append]
    rfl
  | list g h => exact ⟨_, fun rest _ => rfl⟩
  | object g h => exact ⟨_, fun rest _ => rfl⟩

/-- A reader of values that finds a value of another type. -/
theorem exists_yields_mismatch {α : Type} {f : Char → Reader α} {c : Char} {cs : List Char}
    (h : IsValue v) (head : Head v c cs) {expected : String} (hf : f c = mismatch expected) :
    ∃ cause, Yields (peekValue >>= f) v (.error cause) := by
  obtain ⟨cause, refused⟩ := exists_outcome_mismatch (α := α) h expected
  refine ⟨cause, ?_⟩
  rw [head.text] at refused ⊢
  refine yields_peekValue head.space fun rest hr => ?_
  rw [hf]
  exact refused rest hr

/-- What is no string is refused where a string is wanted. -/
theorem exists_yields_string_error (h : IsValue v) (expected : String)
    (other : ∀ l : Literal, v ≠ l.text) : ∃ cause, Yields (string expected) v (.error cause) := by
  obtain ⟨c, cs, head⟩ := h.exists_head
  have unquoted : ¬(c == '"') = true := by simpa using head.ne_quote other
  exact exists_yields_mismatch h head (if_neg unquoted)

theorem exists_yields_string (h : IsValue v) (expected : String) :
    ∃ o, Yields (string expected) v o := by
  by_cases literal : ∃ l : Literal, v = l.text
  · obtain ⟨l, rfl⟩ := literal
    obtain ⟨o, -, ho⟩ := l.exists_outcome
    refine ⟨o, yields_peekValue (by decide) fun rest _ => ?_⟩
    rw [← ho rest, List.append_assoc]
    rfl
  · obtain ⟨cause, refused⟩ := exists_yields_string_error h expected (not_exists.1 literal)
    exact ⟨_, refused⟩

theorem exists_yields_null (h : IsValue v) (expected : String) :
    ∃ o, Yields (null expected) v o := by
  obtain ⟨c, cs, head⟩ := h.exists_head
  by_cases n : c = 'n'
  · rw [head.null n]
    exact ⟨.ok (), yields_peekValue (by decide) fun rest _ => rfl⟩
  · have other : ¬(c == 'n') = true := by simpa using n
    have refused : ∃ cause, Yields (null expected) v (.error cause) :=
      exists_yields_mismatch h head (if_neg other)
    obtain ⟨cause, refused⟩ := refused
    exact ⟨_, refused⟩

end Mismatch

end GlobalImports.Json
