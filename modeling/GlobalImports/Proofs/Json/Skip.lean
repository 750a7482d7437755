import GlobalImports.Proofs.Json.Tokens

/-! Passing a value of any nesting. What is still open around the place reached is a stack, and a
step passes at least one character, so a number of steps above the length of the text is always
enough. -/

namespace GlobalImports.Json

/-! ### Words, strings and numbers -/

/-- The text is passed at once: it begins with neither white space nor a bracket. -/
def IsScalar (v : List Char) : Prop :=
  ∃ c cs, v = c :: cs ∧ isSpace c = false ∧ c ∉ ['[', '{', ']', '}'] ∧
    ∀ rest, Follows rest → skipScalar c (c :: (cs ++ rest)) = .ok ((), rest)

/-- A text that is passed letter by letter. -/
theorem isScalar_letters {c : Char} {cs : List Char} (hs : isSpace c = false)
    (hc : c ∉ ['[', '{', ']', '}']) (h : skipScalar c = do bump; letters cs) :
    IsScalar (c :: cs) := by
  refine ⟨c, cs, rfl, hs, hc, fun rest _ => ?_⟩
  rw [h]
  exact letters_append cs rest

theorem isScalar_word {w : String} (h : w ∈ ["null", "true", "false"]) : IsScalar w.toList := by
  simp only [List.mem_cons, List.not_mem_nil, or_false] at h
  rcases h with rfl | rfl | rfl
  · exact isScalar_letters (by decide) (by decide) rfl
  · exact isScalar_letters (by decide) (by decide) rfl
  · exact isScalar_letters (by decide) (by decide) rfl

theorem skipString_body (l : Literal) (rest : List Char) :
    skipString (l.body ++ '"' :: rest) = .ok ((), rest) := by
  rw [skipString, skipStringBody_body]
  rfl

theorem isScalar_string (l : Literal) : IsScalar l.text := by
  refine ⟨'"', _, rfl, by decide, by decide, fun rest _ => ?_⟩
  rw [List.append_assoc]
  exact skipString_body l rest

/-- Digits are told apart from everything else that a value may begin with. -/
theorem ne_of_isDigit {c d : Char} (hc : c.isDigit = true) (hd : d.isDigit = false) : c ≠ d := by
  rintro rfl
  rw [hc] at hd
  cases hd

theorem skipScalar_digit {c : Char} (h : c.isDigit = true) : skipScalar c = skipNumber := by
  have ne (d : Char) (hd : d.isDigit = false) := ne_of_isDigit h hd
  rw [skipScalar, if_pos h]
  · exact ne 'n' (by decide)
  · exact ne 't' (by decide)
  · exact ne 'f' (by decide)
  · exact ne '"' (by decide)
  · exact ne '-' (by decide)

theorem not_isSpace_digit {c : Char} (h : c.isDigit = true) : isSpace c = false := by
  have ne (d : Char) (hd : d.isDigit = false) := ne_of_isDigit h hd
  simp [isSpace, ne ' ' (by decide), ne '\n' (by decide), ne '\t' (by decide), ne '\r' (by decide)]

theorem Numeral.exists_cons (n : Numeral) :
    ∃ c cs, n.unsigned = c :: cs ∧ c.isDigit = true := by
  rw [unsigned]
  cases n.whole with
  | zero => exact ⟨'0', _, rfl, by decide⟩
  | positive ds h =>
    obtain ⟨c, cs, hc, digit⟩ := ds.exists_cons
    exact ⟨c, _, by rw [Whole.text, hc]; rfl, digit⟩

theorem isScalar_number (n : Numeral) : IsScalar n.text := by
  rw [Numeral.text]
  split
  · exact ⟨'-', n.unsigned, rfl, by decide, by decide, fun rest h => skipNumber_append n h⟩
  · obtain ⟨c, cs, hc, digit⟩ := n.exists_cons
    refine ⟨c, cs, hc, not_isSpace_digit digit, ?_, fun rest h => ?_⟩
    · intro hm
      simp only [List.mem_cons, List.not_mem_nil, or_false] at hm
      rcases hm with rfl | rfl | rfl | rfl <;> cases digit
    · have passed := skipNumber_append n h
      rw [hc] at passed
      rw [skipScalar_digit digit]
      exact passed

/-! ### Lists and objects -/

namespace Enclosing

variable (k : Enclosing)

theorem ofOpening?_opening : ofOpening? k.opening = some k := by
  cases k <;> rfl

theorem isSpace_opening : isSpace k.opening = false := by
  cases k <;> decide

theorem isSpace_closing : isSpace k.closing = false := by
  cases k <;> decide

theorem closing_ne_comma : k.closing ≠ ',' := by
  cases k <;> decide

theorem follows_closing (rest : List Char) : Follows (k.closing :: rest) := by
  cases k <;> exact follows_cons (by decide)

end Enclosing

variable {rest : List Char} {fuel : Nat} {around : List Enclosing}

/-- Passes an element and what remains behind it. -/
def skipElement (fuel : Nat) (k : Enclosing) (around : List Enclosing) : Reader Unit := do
  k.skipFront
  skipFrom fuel (k :: around)

theorem skipKey_gap (g : Gap) (t : List Char) : skipKey (g.chars ++ t) = skipKey t := by
  rw [skipKey, bind_apply, bind_apply, peekToken_gap]

theorem skipFrom_gap (g : Gap) (t : List Char) :
    skipFrom (fuel + 1) around (g.chars ++ t) = skipFrom (fuel + 1) around t := by
  rw [skipFrom, bind_apply, bind_apply, peekValue_gap]

theorem skipElement_gap (k : Enclosing) (g : Gap) (t : List Char) :
    skipElement (fuel + 1) k around (g.chars ++ t) = skipElement (fuel + 1) k around t := by
  cases k with
  | list => exact skipFrom_gap g t
  | object => rw [skipElement, bind_apply, bind_apply, Enclosing.skipFront, skipKey_gap]

theorem skipAfter_gap (k : Enclosing) (g : Gap) (t : List Char) :
    skipAfter (fuel + 1) (k :: around) (g.chars ++ t) = skipAfter (fuel + 1) (k :: around) t := by
  rw [skipAfter, bind_apply, bind_apply, peekToken_gap]

theorem skipAfter_closing (k : Enclosing) :
    skipAfter (fuel + 1) (k :: around) (k.closing :: rest) = skipAfter fuel around rest := by
  rw [skipAfter, bind_apply, peekToken_cons rest k.isSpace_closing]
  simp [k.closing_ne_comma]

theorem skipAfter_comma (k : Enclosing) :
    skipAfter (fuel + 1) (k :: around) (',' :: rest) = skipElement fuel k around rest := by
  rw [skipAfter, bind_apply, peekToken_cons rest (by decide)]
  rfl

/-- Behind an opening bracket it goes by the next token. -/
theorem skipFrom_opening (k : Enclosing) {g : Gap} {c : Char} {t : List Char}
    (hc : isSpace c = false) :
    skipFrom (fuel + 1) around (k.opening :: (g.chars ++ c :: t)) =
      if c = k.closing then skipAfter fuel around t
      else skipElement fuel k around (c :: t) := by
  rw [skipFrom, bind_apply, peekValue_cons _ k.isSpace_opening]
  simp only [bind_ok, k.ofOpening?_opening, bind_apply, bump_apply, List.tail_cons, peekToken_gap,
    peekToken_cons t hc, beq_iff_eq]
  split
  · rfl
  · rfl

/-- The value is passed in whatever it stands, with steps to spare for what is behind it. -/
def Passed (v : List Char) : Prop :=
  ∀ (g : Gap) (rest : List Char) (fuel : Nat) (around : List Enclosing), Follows rest →
    (g.chars ++ (v ++ rest)).length < fuel →
      ∃ fuel', rest.length < fuel' ∧
        skipFrom fuel around (g.chars ++ (v ++ rest)) = skipAfter fuel' around rest

/-- The element is passed in what encloses it. -/
def PassedIn (k : Enclosing) (t : List Char) : Prop :=
  ∀ (rest : List Char) (fuel : Nat) (around : List Enclosing), Follows rest →
    (t ++ rest).length < fuel →
      ∃ fuel', rest.length < fuel' ∧
        skipElement fuel k around (t ++ rest) = skipAfter fuel' (k :: around) rest

/-- Elements with commas between them are passed up to the closing bracket. -/
theorem skip_elements {k : Enclosing} (g : Gap) {t : List Char} {ts : List (List Char)}
    (h : ∀ u ∈ t :: ts, PassedIn k u)
    (hf : (inner g (t :: ts) ++ k.closing :: rest).length < fuel) :
    ∃ fuel', rest.length < fuel' ∧
      skipElement fuel k around (inner g (t :: ts) ++ k.closing :: rest) =
        skipAfter fuel' around rest := by
  induction ts generalizing t fuel with
  | nil =>
    rw [inner_cons, behindComma, List.flatMap_nil, List.append_nil] at hf ⊢
    obtain ⟨f, hlt, eq⟩ :=
      h t List.mem_cons_self (k.closing :: rest) fuel around (k.follows_closing rest) hf
    obtain ⟨f, rfl⟩ : ∃ n, f = n + 1 := ⟨f - 1, by omega⟩
    rw [skipAfter_closing] at eq
    exact ⟨f, Nat.lt_of_succ_lt_succ hlt, eq⟩
  | cons u ts ih =>
    rw [inner_cons, behindComma_cons, ← inner_cons g, List.append_assoc, List.cons_append] at hf ⊢
    have follows : Follows (',' :: (inner g (u :: ts) ++ k.closing :: rest)) :=
      follows_cons (by decide)
    obtain ⟨f, hlt, eq⟩ := h t List.mem_cons_self _ fuel around follows hf
    obtain ⟨f, rfl⟩ : ∃ n, f = n + 1 := ⟨f - 1, by omega⟩
    rw [skipAfter_comma] at eq
    obtain ⟨f', hlt', eq'⟩ := ih (fun v hv => h v (List.mem_cons_of_mem t hv))
      (Nat.lt_of_succ_lt_succ hlt)
    exact ⟨f', hlt', eq.trans eq'⟩

/-- The value and the white space behind it. -/
theorem skipFrom_item {e : Item} (k : Enclosing) (h : Passed e.value) (hr : Follows rest)
    (hf : (e.text ++ rest).length < fuel) :
    ∃ fuel', rest.length < fuel' ∧
      skipFrom fuel (k :: around) (e.text ++ rest) = skipAfter fuel' (k :: around) rest := by
  rw [e.text_append] at hf ⊢
  obtain ⟨f, hlt, eq⟩ := h e.before _ fuel (k :: around) (hr.gap_append e.after) hf
  rw [List.length_append] at hlt
  obtain ⟨f, rfl⟩ : ∃ n, f = n + 1 := ⟨f - 1, by omega⟩
  rw [skipAfter_gap] at eq
  exact ⟨f + 1, by omega, eq⟩

theorem passedIn_item {e : Item} (h : Passed e.value) : PassedIn .list e.text :=
  fun _ _ _ hr hf => skipFrom_item .list h hr hf

theorem skipKey_append (m : Member) (rest : List Char) :
    skipKey (m.text ++ rest) = .ok ((), m.item.text ++ rest) := by
  rw [m.text_append, skipKey_gap, skipKey, bind_apply, peekToken_cons _ (by decide)]
  simp only [bind_ok, bind_apply, bump_apply, List.tail_cons, skipString_body, colon_gap]

theorem passedIn_member {m : Member} (h : Passed m.item.value) : PassedIn .object m.text := by
  intro rest fuel around hr hf
  have shorter : (m.item.text ++ rest).length ≤ (m.text ++ rest).length := by
    simp only [Member.text, Member.rest, List.length_append, List.length_cons]
    omega
  obtain ⟨f, hlt, eq⟩ := skipFrom_item .object h hr (Nat.lt_of_le_of_lt shorter hf)
  refine ⟨f, hlt, ?_⟩
  rw [skipElement, bind_apply, Enclosing.skipFront, skipKey_append]
  exact eq

/-- The text begins, behind white space, with something else than a closing bracket. -/
def Filled (k : Enclosing) (t : List Char) : Prop :=
  ∃ (g : Gap) (c : Char) (cs : List Char),
    t = g.chars ++ c :: cs ∧ isSpace c = false ∧ c ≠ k.closing

/-- Enclosed elements are passed if each of them is. -/
theorem passed_enclosed {k : Enclosing} (g : Gap) {ts : List (List Char)}
    (h : ∀ t ∈ ts, PassedIn k t) (filled : ∀ t ∈ ts, Filled k t) :
    Passed (k.opening :: (inner g ts ++ [k.closing])) := by
  intro g' rest fuel around _ hf
  rw [List.cons_append, List.append_assoc, List.singleton_append] at hf ⊢
  simp only [List.length_append, List.length_cons] at hf
  cases ts with
  | nil =>
    obtain ⟨f, rfl⟩ : ∃ n, fuel = n + 1 := ⟨fuel - 1, by omega⟩
    refine ⟨f, by omega, ?_⟩
    rw [skipFrom_gap, inner, skipFrom_opening k k.isSpace_closing, if_pos rfl]
  | cons t ts =>
    obtain ⟨f, rfl⟩ : ∃ n, fuel = n + 2 := ⟨fuel - 2, by omega⟩
    obtain ⟨b, c, cs, rfl, hs, hc⟩ := filled t List.mem_cons_self
    have first : inner g ((b.chars ++ c :: cs) :: ts) ++ k.closing :: rest =
        b.chars ++ c :: (cs ++ (behindComma ts ++ k.closing :: rest)) := by
      simp [inner_cons]
    rw [skipFrom_gap, first, skipFrom_opening k hs, if_neg hc, ← skipElement_gap k b, ← first]
    refine skip_elements g h ?_
    simp only [List.length_append, List.length_cons] at hf ⊢
    omega

/-! ### Values -/

theorem IsScalar.passed {v : List Char} (h : IsScalar v) : Passed v := by
  intro g rest fuel around hr hf
  obtain ⟨c, cs, rfl, hs, hc, passed⟩ := h
  simp only [List.length_append, List.length_cons] at hf
  obtain ⟨f, rfl⟩ : ∃ n, fuel = n + 1 := ⟨fuel - 1, by omega⟩
  refine ⟨f, by omega, ?_⟩
  simp only [List.mem_cons, List.not_mem_nil, or_false, not_or] at hc
  obtain ⟨list, object, -⟩ := hc
  have opens : Enclosing.ofOpening? c = none := by
    simp [Enclosing.ofOpening?, Enclosing.opening, Ne.symm list, Ne.symm object]
  rw [skipFrom_gap, List.cons_append, skipFrom, bind_apply, peekValue_cons _ hs]
  simp only [bind_ok, opens, bind_apply, passed rest hr]

/-- No value begins with white space or with a closing bracket. -/
theorem IsValue.exists_cons {v : List Char} (h : IsValue v) :
    ∃ c cs, v = c :: cs ∧ isSpace c = false ∧ c ≠ ']' := by
  have scalar (h : IsScalar v) : ∃ c cs, v = c :: cs ∧ isSpace c = false ∧ c ≠ ']' := by
    obtain ⟨c, cs, hv, hs, hc, -⟩ := h
    exact ⟨c, cs, hv, hs, fun e => hc (by simp [e])⟩
  cases h with
  | word h => exact scalar (isScalar_word h)
  | number n => exact scalar (isScalar_number n)
  | string l => exact scalar (isScalar_string l)
  | list g h => exact ⟨'[', _, rfl, by decide, by decide⟩
  | object g h => exact ⟨'{', _, rfl, by decide, by decide⟩

theorem IsValue.passed {v : List Char} (h : IsValue v) : Passed v := by
  induction h with
  | word h => exact (isScalar_word h).passed
  | number n => exact (isScalar_number n).passed
  | string l => exact (isScalar_string l).passed
  | @list g es h ih =>
    refine passed_enclosed (k := .list) g ?_ ?_
    · intro t ht
      obtain ⟨e, he, rfl⟩ := List.mem_map.1 ht
      exact passedIn_item (ih e he)
    · intro t ht
      obtain ⟨e, he, rfl⟩ := List.mem_map.1 ht
      obtain ⟨c, cs, hv, hs, hc⟩ := (h e he).exists_cons
      exact ⟨e.before, c, _, by rw [Item.text, hv, List.append_assoc]; rfl, hs, hc⟩
  | @object g ms h ih =>
    refine passed_enclosed (k := .object) g ?_ ?_
    · intro t ht
      obtain ⟨m, hm, rfl⟩ := List.mem_map.1 ht
      exact passedIn_member (ih m hm)
    · intro t ht
      obtain ⟨m, -, rfl⟩ := List.mem_map.1 ht
      exact ⟨m.before, '"', _, by rw [Member.text, List.append_assoc]; rfl, by decide, by decide⟩

/-- A value of any nesting is passed up to its end. -/
theorem reads_skipValue {v : List Char} (h : IsValue v) : Reads skipValue v () := by
  intro g rest hr
  rw [skipValue, bind_apply, get_apply, bind_ok]
  obtain ⟨f, -, eq⟩ := h.passed g rest _ [] hr (Nat.lt_succ_self _)
  rw [eq]
  cases f <;> rw [skipAfter] <;> rfl

end GlobalImports.Json
