import GlobalImports.Json.Skip
import GlobalImports.Proofs.Json.Grammar
import GlobalImports.Proofs.Text.Run

/-! Strings as they are read. A reader of strings takes every spelling of a text back to the text,
and one that only passes them takes any spelling. -/

namespace GlobalImports.Json

/-! ### Code units -/

theorem hexValue?_char (d : HexDigit) : Text.hexValue? d.char = some d.value.val := by
  obtain ⟨value, upper⟩ := d
  revert value
  cases upper <;> decide

theorem hex4_chars (u : CodeUnit) (rest : List Char) :
    hex4 (u.chars ++ rest) = .ok (u.value, rest) := by
  have digits : Text.ofHex? u.chars = some u.value := by
    simp [Text.ofHex?, CodeUnit.chars, CodeUnit.value, hexValue?_char]
  have length : u.chars.length = 4 := rfl
  have taken : (u.chars ++ rest).take 4 = u.chars := List.take_left' length
  have left : (u.chars ++ rest).drop 4 = rest := List.drop_left' length
  rw [hex4, taken, left, digits]
  simp [length]

/-- A character that is a code unit of its own is no surrogate. -/
theorem not_surrogate (c : Char) :
    isLowSurrogate c.toNat = false ∧ isHighSurrogate c.toNat = false := by
  have valid : c.toNat < 0xD800 ∨ 0xDFFF < c.toNat ∧ c.toNat < 0x110000 := c.valid
  simp only [isLowSurrogate, isHighSurrogate, Bool.and_eq_false_iff, decide_eq_false_iff_not]
  omega

theorem escape_unit {u : CodeUnit} {c : Char} (h : u.value = c.toNat) (rest : List Char) :
    escape ('u' :: (u.chars ++ rest)) = .ok (c, rest) := by
  obtain ⟨low, high⟩ := not_surrogate c
  simp [escape, hex4_chars, h, low, high, bind, Except.bind, pure, Except.pure]

theorem escape_pair {u v : CodeUnit} {c : Char} (h : 0x10000 ≤ c.toNat)
    (hu : u.value = 0xD800 + (c.toNat - 0x10000) / 0x400)
    (hv : v.value = 0xDC00 + (c.toNat - 0x10000) % 0x400) (rest : List Char) :
    escape ('u' :: (u.chars ++ '\\' :: 'u' :: (v.chars ++ rest))) = .ok (c, rest) := by
  have valid : c.toNat < 0xD800 ∨ 0xDFFF < c.toNat ∧ c.toNat < 0x110000 := c.valid
  have low : isLowSurrogate u.value = false := by simp [isLowSurrogate]; omega
  have high : isHighSurrogate u.value = true := by simp [isHighSurrogate]; omega
  have low' : isLowSurrogate v.value = true := by simp [isLowSurrogate]; omega
  have together : (u.value - 0xD800) * 0x400 + (v.value - 0xDC00) + 0x10000 = c.toNat := by omega
  simp [escape, lowSurrogate, hex4_chars, low, high, low', together, bind, Except.bind, pure,
    Except.pure]

theorem shortEscape?_eq {letter c : Char} (h : (letter, c) ∈ shortEscapes) :
    shortEscape? letter = some c ∧ letter ≠ 'u' := by
  simp only [shortEscapes, List.mem_cons, Prod.mk.injEq, List.not_mem_nil, or_false] at h
  rcases h with h | h | h | h | h | h | h | h <;> obtain ⟨rfl, rfl⟩ := h <;> decide

theorem escape_short {letter c : Char} (h : (letter, c) ∈ shortEscapes) (rest : List Char) :
    escape (letter :: rest) = .ok (c, rest) := by
  obtain ⟨short, hu⟩ := shortEscape?_eq h
  rw [escape]
  · rw [short]
  · simpa using hu

/-! ### Bodies of strings -/

section Body

variable {c : Char} {cs rest : List Char} {s : List Char}

theorem stringBody_quote (rest : List Char) : stringBody ('"' :: rest) = .ok ([], rest) := by
  rw [stringBody]

theorem isRaw_iff : isRaw c = true ↔ ' ' ≤ c ∧ c ≠ '"' ∧ c ≠ '\\' := by
  simp [isRaw, and_assoc]

theorem stringBody_raw (h : isRaw c = true) (cs : List Char) :
    stringBody (c :: cs) = (stringBody cs).map fun p => (c :: p.1, p.2) := by
  rw [isRaw_iff] at h
  rw [stringBody]
  · rw [if_neg (Char.not_lt.2 h.1)]
  · exact h.2.1
  · exact h.2.2

theorem stringBody_escape {cs' : List Char} (h : escape cs = .ok (c, cs')) :
    stringBody ('\\' :: cs) = (stringBody cs').map fun p => (c :: p.1, p.2) := by
  rw [stringBody]
  split
  case h_1 e he => rw [h] at he; cases he
  case h_2 d ds he =>
    rw [h] at he
    obtain ⟨rfl, rfl⟩ := Prod.mk.inj (Except.ok.inj he)
    rfl

theorem stringBody_escape_error {fault : Fault} (h : escape cs = .error fault) :
    stringBody ('\\' :: cs) = .error fault := by
  rw [stringBody]
  split
  case h_1 e he =>
    rw [h] at he
    exact congrArg _ (Except.error.inj he).symm
  case h_2 d ds he => rw [h] at he; cases he

/-- A spelling is read as what it spells. -/
theorem stringBody_body {l : Literal} {s : List Char} (h : Spelled l.pieces s)
    (rest : List Char) : stringBody (l.body ++ '"' :: rest) = .ok (s, rest) := by
  rw [Literal.body]
  generalize l.pieces = pieces at h
  induction h with
  | nil => exact stringBody_quote rest
  | raw h _ ih =>
    rw [List.flatMap_cons, List.append_assoc, Piece.text, List.singleton_append, stringBody_raw h,
      ih]
    rfl
  | short h _ ih =>
    simp only [List.flatMap_cons, Piece.text, List.cons_append, List.nil_append]
    rw [stringBody_escape (escape_short h _), ih]
    rfl
  | unit h _ ih =>
    simp only [List.flatMap_cons, Piece.text, List.append_assoc, List.cons_append]
    rw [stringBody_escape (escape_unit h _), ih]
    rfl
  | pair h hu hv _ ih =>
    simp only [List.flatMap_cons, Piece.text, List.append_assoc, List.cons_append]
    rw [stringBody_escape (escape_pair h hu hv _), ih]
    rfl

theorem stringRest_body {l : Literal} {s : String} (h : l.Spells s) (rest : List Char) :
    stringRest (l.body ++ '"' :: rest) = .ok (s, rest) := by
  rw [stringRest, stringBody_body h, ← String.ofList_toList (s := s), String.toList_ofList]
  rfl

theorem Literal.Spells.unique {l : Literal} {s t : String} (h : l.Spells s) (h' : l.Spells t) :
    s = t := by
  have both := (stringRest_body h []).symm.trans (stringRest_body h' [])
  exact congrArg Prod.fst (Except.ok.inj both)

/-- Any spelling is passed. -/
theorem skipStringBody_body (l : Literal) (rest : List Char) :
    skipStringBody (l.body ++ '"' :: rest) = .ok rest := by
  obtain ⟨pieces⟩ := l
  rw [Literal.body]
  induction pieces with
  | nil => rw [List.flatMap_nil, List.nil_append, skipStringBody]
  | cons p ps ih =>
    rw [List.flatMap_cons, List.append_assoc]
    have on {cs : List Char}
        (h : skipEscape cs = .ok (ps.flatMap Piece.text ++ '"' :: rest)) :
        skipStringBody ('\\' :: cs) = .ok rest := by
      rw [skipStringBody]
      split
      case h_1 e he => rw [h] at he; cases he
      case h_2 ds he =>
        rw [h] at he
        rw [← Except.ok.inj he]
        exact ih
    cases p with
    | raw c h =>
      rw [isRaw_iff] at h
      rw [Piece.text, List.singleton_append, skipStringBody]
      · rw [if_neg (Char.not_lt.2 h.1)]
        exact ih
      · exact h.2.1
      · exact h.2.2
    | short letter c h =>
      obtain ⟨short, hu⟩ := shortEscape?_eq h
      have passed : skipEscape (letter :: (ps.flatMap Piece.text ++ '"' :: rest)) =
          .ok (ps.flatMap Piece.text ++ '"' :: rest) := by
        rw [skipEscape]
        · simp [short]
        · simpa using hu
      exact on passed
    | unit u =>
      have passed : skipEscape ('u' :: (u.chars ++ (ps.flatMap Piece.text ++ '"' :: rest))) =
          .ok (ps.flatMap Piece.text ++ '"' :: rest) := by
        rw [skipEscape, hex4_chars]
        rfl
      exact on passed

end Body

end GlobalImports.Json
