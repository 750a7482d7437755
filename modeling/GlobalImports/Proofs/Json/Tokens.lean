import GlobalImports.Proofs.Json.Strings
import Mathlib.Data.List.TakeDrop

/-! Single steps of readers: white space, colons, words and the parts of numbers. A number ends
where a value may end. -/

namespace GlobalImports.Json

section Steps

variable {α β : Type} (s : List Char)

@[simp] theorem bind_apply (x : Reader α) (f : α → Reader β) :
    (x >>= f) s = (x s).bind fun p => f p.1 p.2 := rfl

@[simp] theorem bind_ok {ε : Type} (a : α) (f : α → Except ε β) :
    Except.bind (.ok a) f = f a := rfl

@[simp] theorem pure_apply (a : α) : (pure a : Reader α) s = .ok (a, s) := rfl

@[simp] theorem get_apply : (get : Reader (List Char)) s = .ok (s, s) := rfl

@[simp] theorem map_apply (x : Reader α) (f : α → β) :
    (f <$> x) s = (x s).bind fun p => .ok (f p.1, p.2) := rfl

@[simp] theorem bump_apply : bump s = .ok ((), s.tail) := rfl

end Steps

theorem discard_apply {α : Type} {x : Reader α} {a : α} {s t : List Char}
    (h : x s = .ok (a, t)) : (discard x) s = .ok ((), t) := by
  show (x >>= fun _ => pure ()) s = _
  rw [bind_apply, h]
  rfl

/-- The text may follow a value: white space, a comma, a closing bracket or nothing. -/
def Follows (rest : List Char) : Prop :=
  ∀ c ∈ rest.head?, isSpace c = true ∨ c = ',' ∨ c = ']' ∨ c = '}'

/-- The reader takes the text for `a`, whatever white space is before it. -/
def Reads {α : Type} (r : Reader α) (text : List Char) (a : α) : Prop :=
  ∀ (g : Gap) (rest : List Char), Follows rest → r (g.chars ++ (text ++ rest)) = .ok (a, rest)

/-! ### White space and colons -/

section Space

variable (g : Gap) {c : Char} (cs : List Char)

theorem Gap.dropWhile_append : (g.chars ++ cs).dropWhile isSpace = cs.dropWhile isSpace :=
  List.dropWhile_append_of_pos g.space

@[simp] theorem peekToken_gap : peekToken (g.chars ++ cs) = peekToken cs := by
  rw [peekToken, g.dropWhile_append]
  rfl

theorem peekToken_cons (h : isSpace c = false) : peekToken (c :: cs) = .ok (some c, c :: cs) := by
  rw [peekToken, List.dropWhile_cons_of_neg (by simp [h])]
  rfl

theorem peekToken_chars : peekToken g.chars = .ok (none, []) := by
  rw [← List.append_nil g.chars, peekToken_gap]
  rfl

theorem peekValue_gap : peekValue (g.chars ++ cs) = peekValue cs := by
  rw [peekValue, bind_apply, peekToken_gap]
  rfl

theorem peekValue_cons (h : isSpace c = false) : peekValue (c :: cs) = .ok (c, c :: cs) := by
  rw [peekValue, bind_apply, peekToken_cons cs h]
  rfl

theorem colon_gap : colon (g.chars ++ ':' :: cs) = .ok ((), cs) := by
  rw [colon, bind_apply, peekToken_gap, peekToken_cons cs (by decide)]
  rfl

end Space

theorem follows_nil : Follows [] := fun _ h => by cases h

theorem follows_cons {c : Char} {cs : List Char}
    (h : isSpace c = true ∨ c = ',' ∨ c = ']' ∨ c = '}') : Follows (c :: cs) :=
  fun _ hd => Option.some.inj hd ▸ h

theorem Follows.gap_append (g : Gap) {rest : List Char} (h : Follows rest) :
    Follows (g.chars ++ rest) := by
  obtain ⟨chars, space⟩ := g
  cases chars with
  | nil => exact h
  | cons c cs => exact follows_cons (.inl (space c List.mem_cons_self))

/-! ### Words -/

theorem letters_append (ls rest : List Char) : letters ls (ls ++ rest) = .ok ((), rest) := by
  induction ls with
  | nil => rfl
  | cons l ls ih => simpa [letters] using ih

/-! ### Numbers -/

/-- What follows a value goes on with no number. -/
theorem Follows.ends {rest : List Char} (h : Follows rest) :
    ∀ c ∈ rest.head?, c.isDigit = false ∧ c ≠ '.' ∧ c ≠ 'e' ∧ c ≠ 'E' := by
  intro c hc
  rcases h c hc with h | rfl | rfl | rfl
  · simp only [isSpace, Bool.or_eq_true, beq_iff_eq] at h
    rcases h with ((rfl | rfl) | rfl) | rfl <;> decide
  all_goals decide

section Numbers

variable {rest : List Char}

theorem digits_append (ds : Digits) (h : ∀ c ∈ rest.head?, c.isDigit = false) :
    digits (ds.chars ++ rest) = .ok (ds.chars, rest) := by
  rw [digits, List.span_eq_takeWhile_dropWhile, Text.takeWhile_eq_run ds.digits h,
    Text.dropWhile_eq_rest ds.digits h]

theorem Digits.exists_cons (ds : Digits) : ∃ c cs, ds.chars = c :: cs ∧ c.isDigit = true := by
  obtain ⟨chars, ne_nil, digits⟩ := ds
  cases chars with
  | nil => exact absurd rfl ne_nil
  | cons c cs => exact ⟨c, cs, rfl, digits c List.mem_cons_self⟩

theorem wholeDigits_append (cause : Cause) (w : Whole)
    (h : ∀ c ∈ rest.head?, c.isDigit = false) :
    wholeDigits cause (w.text ++ rest) = .ok (w.text, rest) := by
  cases w with
  | zero =>
    cases rest with
    | nil => rfl
    | cons c cs =>
      have : c.isDigit = false := h c rfl
      simp [wholeDigits, Whole.text, this]
  | positive ds hz =>
    obtain ⟨c, cs, hc, digit⟩ := ds.exists_cons
    have taken := digits_append ds h
    rw [hc, List.head?_cons, ne_eq, Option.some.injEq] at hz
    rw [hc, List.cons_append] at taken
    simp only [Whole.text, hc, wholeDigits, bind_apply, get_apply, bind_ok, List.cons_append]
    rw [if_pos digit]
    exact taken

theorem fractionDigits_append (cause : Cause) (f : Option Digits)
    (h : ∀ c ∈ rest.head?, c.isDigit = false ∧ c ≠ '.') :
    fractionDigits cause ((f.elim [] fun ds => '.' :: ds.chars) ++ rest) =
      .ok (f.map Digits.chars, rest) := by
  cases f with
  | none =>
    have : rest.head? ≠ some '.' := fun hd => (h '.' hd).2 rfl
    simp [fractionDigits, this]
  | some ds =>
    have taken := digits_append ds fun c hc => (h c hc).1
    simp [fractionDigits, taken, ds.ne_nil]

/-- The sign and the digits that an exponent is read as. -/
def Exponent.signed (e : Exponent) : Bool × List Char := (e.sign == some '-', e.digits.chars)

theorem exponentDigits_append (cause : Cause) (e : Option Exponent)
    (h : ∀ c ∈ rest.head?, c.isDigit = false ∧ c ≠ 'e' ∧ c ≠ 'E') :
    exponentDigits cause (e.elim [] Exponent.text ++ rest) =
      .ok (e.map Exponent.signed, rest) := by
  cases e with
  | none =>
    have : rest.head?.any (fun c => c == 'e' || c == 'E') = false := by
      cases hd : rest.head? with
      | none => rfl
      | some c => simpa using (h c hd).2
    simp [exponentDigits, this]
  | some e =>
    obtain ⟨mark, mark_eq, sign, sign_eq, ds⟩ := e
    obtain ⟨c, cs, hc, digit⟩ := ds.exists_cons
    have taken := digits_append ds fun c hc => (h c hc).1
    rw [hc, List.cons_append] at taken
    have marked : (mark == 'e' || mark == 'E') = true := by simpa using mark_eq
    cases sign with
    | none =>
      have plus : c ≠ '+' := by rintro rfl; cases digit
      have minus : c ≠ '-' := by rintro rfl; cases digit
      simp [exponentDigits, Exponent.text, Exponent.signed, hc, marked, plus, minus, digit, taken]
    | some sign =>
      rcases sign_eq sign rfl with rfl | rfl
      · simp [exponentDigits, Exponent.text, Exponent.signed, hc, marked, digit, taken]
      · simp [exponentDigits, Exponent.text, Exponent.signed, hc, marked, digit, taken]

namespace Numeral

variable (n : Numeral) (cause : Cause)

theorem head?_exponentText (h : Follows rest) :
    ∀ c ∈ (n.exponentText ++ rest).head?, c.isDigit = false ∧ c ≠ '.' := by
  intro c hc
  rw [exponentText] at hc
  cases he : n.exponent with
  | none =>
    rw [he] at hc
    exact ⟨(h.ends c hc).1, (h.ends c hc).2.1⟩
  | some e =>
    rw [he] at hc
    obtain rfl : e.mark = c := Option.some.inj hc
    rcases e.mark_eq with h | h <;> rw [h] <;> decide

theorem head?_fractionText (h : Follows rest) :
    ∀ c ∈ (n.fractionText ++ (n.exponentText ++ rest)).head?, c.isDigit = false := by
  intro c hc
  rw [fractionText] at hc
  cases hf : n.fraction with
  | none =>
    rw [hf] at hc
    exact (n.head?_exponentText h c hc).1
  | some ds =>
    rw [hf] at hc
    obtain rfl : '.' = c := Option.some.inj hc
    decide

theorem wholeDigits_unsigned (h : Follows rest) :
    wholeDigits cause (n.unsigned ++ rest) =
      .ok (n.whole.text, n.fractionText ++ (n.exponentText ++ rest)) := by
  rw [unsigned, List.append_assoc, List.append_assoc]
  exact wholeDigits_append cause n.whole (n.head?_fractionText h)

theorem fractionDigits_fractionText (h : Follows rest) :
    fractionDigits cause (n.fractionText ++ (n.exponentText ++ rest)) =
      .ok (n.fraction.map Digits.chars, n.exponentText ++ rest) :=
  fractionDigits_append cause n.fraction (n.head?_exponentText h)

theorem exponentDigits_exponentText (h : Follows rest) :
    exponentDigits cause (n.exponentText ++ rest) = .ok (n.exponent.map Exponent.signed, rest) :=
  exponentDigits_append cause n.exponent fun c hc => ⟨(h.ends c hc).1, (h.ends c hc).2.2⟩

end Numeral

/-- A numeral is passed up to its end. -/
theorem skipNumber_append (n : Numeral) (h : Follows rest) :
    skipNumber (n.unsigned ++ rest) = .ok ((), rest) := by
  rw [skipNumber, bind_apply, discard_apply (n.wholeDigits_unsigned _ h), bind_ok, bind_apply,
    discard_apply (n.fractionDigits_fractionText _ h), bind_ok]
  exact discard_apply (n.exponentDigits_exponentText _ h)

end Numbers

end GlobalImports.Json
