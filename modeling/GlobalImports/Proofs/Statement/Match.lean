import GlobalImports.Proofs.Regex.Runs
import GlobalImports.Proofs.Regex.Tokens
import GlobalImports.Proofs.Statement.Shape

/-! What the expression for statements matches: a statement wherever one stands, and nothing else.
The clause it finds is the text between the two keywords up to white space at the ends. -/

namespace GlobalImports.Statement

open Regex

/-! ### Text between quotes -/

section Quoted

variable {σ τ : State} {q : Char}

/-- What is between two quotes goes up to the nearest closing one, on the same line. -/
theorem head?_quoted {m v : List Char} (h : σ.rest = q :: (m ++ q :: v))
    (hm : ∀ c ∈ m, c ≠ q ∧ c ≠ '\n') :
    ((quoted q).outcomes σ).head? = some (σ.advance (q :: m ++ [q]) v) := by
  have quote : (char q).outcomes σ = [σ.advance [q] (m ++ q :: v)] := by
    simp [outcomes_char, h]
  rw [quoted, outcomes_cat_cons, quote, List.flatMap_singleton,
    head?_lazyStar_char rfl _ fun hq => (hm q hq).1 rfl]
  · simp
  · intro c hc
    simpa [CharSet.lineBreak] using (hm c hc).2

theorem outcomes_quoted_of_ne (h : σ.rest.head? ≠ some q) : (quoted q).outcomes σ = [] := by
  rw [quoted, outcomes_cat_cons, outcomes_char, if_neg h]
  rfl

theorem exists_of_mem_quoted (h : τ ∈ (quoted q).outcomes σ) :
    ∃ m v, σ.rest = q :: (m ++ q :: v) ∧ ∀ c ∈ m, c ≠ q ∧ c ≠ '\n' := by
  simp only [quoted, lazyStar, mem_cat_cons, mem_char, mem_star] at h
  obtain ⟨_, ⟨w, hw, rfl⟩, _, ⟨m, w', hm, line, rfl⟩, _, ⟨v, hv, rfl⟩, -⟩ := h
  rw [State.advance_rest] at hm hv
  -- the run may have passed over quotes
  obtain ⟨m₁, m₂, rfl, hm₁, hm₂⟩ := Text.exists_run (· != q) m
  obtain ⟨v', hv'⟩ : ∃ v', m₂ ++ q :: v = q :: v' := by
    cases m₂ with
    | nil => exact ⟨v, rfl⟩
    | cons c m₂ =>
      have : c = q := by simpa using hm₂ c (by simp)
      exact ⟨m₂ ++ q :: v, by rw [this, List.cons_append]⟩
  refine ⟨m₁, v', ?_, ?_⟩
  · rw [hw, hm, hv, List.append_assoc, hv']
  · intro c hc
    refine ⟨by simpa using hm₁ c hc, ?_⟩
    simpa [CharSet.lineBreak] using line c (List.mem_append_left m₂ hc)

end Quoted

/-! ### Matches of the expression -/

theorem regex_productive : regex.productive = true := by
  decide

theorem groupCount_regex : regex.groupCount = 2 := by
  decide

/-- The state behind the opening of a statement: behind its clause and what follows that. -/
def behindOpening (σ : State) (a cl b v : List Char) : State :=
  ((σ.advance a (cl ++ b ++ v)).pass 1 cl (b ++ v)).advance b v

/-- The parts of an opening, `v` left over. -/
structure Opens (σ : State) (b₁ cl b₂ b₃ v : List Char) : Prop where
  rest : σ.rest = ("import".toList ++ b₁) ++ cl ++ (b₂ ++ "from".toList ++ b₃) ++ v
  ne₁ : b₁ ≠ []
  ne₂ : b₂ ≠ []
  ne₃ : b₃ ≠ []
  blank : ∀ c ∈ b₁ ++ b₂ ++ b₃, Text.isBlank c = true
  clause : ∀ c ∈ cl, clauseChar.contains c = true

theorem mem_opening {σ ρ : State} :
    ρ ∈ (cat opening).outcomes σ ↔ ∃ b₁ cl b₂ b₃ v, Opens σ b₁ cl b₂ b₃ v ∧
      ρ = behindOpening σ ("import".toList ++ b₁) cl (b₂ ++ "from".toList ++ b₃) v := by
  constructor
  · intro h
    simp only [opening, Clause.blanks, Regex.plus, Regex.star, mem_cat_cons, mem_literal, mem_plus,
      mem_group, mem_star] at h
    obtain ⟨_, ⟨w, hw, rfl⟩, _, ⟨b₁, w₁, hw₁, ne₁, hb₁, rfl⟩, _, ⟨_, ⟨cl, w₂, hw₂, hcl, rfl⟩, rfl⟩,
      _, ⟨b₂, w₃, hw₃, ne₂, hb₂, rfl⟩, _, ⟨w₄, hw₄, rfl⟩, _, ⟨b₃, v, hv, ne₃, hb₃, rfl⟩, h⟩ := h
    simp at hw₁ hw₂ hw₃ hw₄ hv h
    subst w w₁ w₂ w₃ w₄
    refine ⟨b₁, cl, b₂, b₃, v, ⟨?_, ne₁, ne₂, ne₃, ?_, hcl⟩, ?_⟩
    · simpa using hw
    · simp only [List.mem_append]
      rintro c ((h | h) | h)
      · exact hb₁ c h
      · exact hb₂ c h
      · exact hb₃ c h
    · simp [h, behindOpening, State.pass]
  · rintro ⟨b₁, cl, b₂, b₃, v, ⟨hr, ne₁, ne₂, ne₃, hb, hcl⟩, rfl⟩
    simp only [opening, Clause.blanks, Regex.plus, Regex.star, mem_cat_cons, mem_literal, mem_plus,
      mem_group, mem_star]
    refine ⟨_, ⟨b₁ ++ (cl ++ (b₂ ++ ("from".toList ++ (b₃ ++ v)))), by simpa using hr, rfl⟩,
      _, ⟨b₁, cl ++ (b₂ ++ ("from".toList ++ (b₃ ++ v))), rfl, ne₁, ?_, rfl⟩,
      _, ⟨_, ⟨cl, b₂ ++ ("from".toList ++ (b₃ ++ v)), rfl, hcl, rfl⟩, rfl⟩,
      _, ⟨b₂, "from".toList ++ (b₃ ++ v), rfl, ne₂, ?_, rfl⟩,
      _, ⟨b₃ ++ v, rfl, rfl⟩, _, ⟨b₃, v, rfl, ne₃, ?_, rfl⟩, ?_⟩
    · exact fun c hc => hb c (by simp [hc])
    · exact fun c hc => hb c (by simp [hc])
    · exact fun c hc => hb c (by simp [hc])
    · simp [behindOpening, State.pass]

/-- What is found where a statement stands. -/
def Shape.found (s : Shape) (clause rest : List Char) : Found :=
  ⟨[], s.text, rest, [some s.text, some clause, some s.quoted]⟩

/-- The last part of the expression takes the text up to the nearest closing quote. -/
theorem head?_specifier {σ : State} {q : Char} {m v : List Char} (hq : q = '\'' ∨ q = '"')
    (h : σ.rest = q :: (m ++ q :: v)) (hm : ∀ c ∈ m, c ≠ q ∧ c ≠ '\n') :
    ((group 2 (oneOf [quoted '\'', quoted '"'])).outcomes σ).head? =
      some (σ.pass 2 (q :: m ++ [q]) v) := by
  have first := head?_quoted (σ := σ.mark 2 false) h hm
  apply head?_group
  rcases hq with rfl | rfl
  · exact head?_alt_left first
  · exact head?_alt_right (outcomes_quoted_of_ne (by simp [h])) first

/-- An opening and a quoted text make a statement. -/
theorem exists_shape_of_opens {σ : State} {b₁ cl b₂ b₃ v : List Char} {q : Char} {m : List Char}
    (o : Opens σ b₁ cl b₂ b₃ v) (hq : q = '\'' ∨ q = '"') (hm : ∀ c ∈ m, c ≠ q ∧ c ≠ '\n') :
    ∃ s : Shape, s.binding = b₁ ++ cl ++ b₂ ∧ s.gap = b₃ ∧ s.quote = q ∧ s.content = m := by
  have blank (c : Char) (hc : c ∈ b₁ ∨ c ∈ b₂ ∨ c ∈ b₃) : Text.isBlank c = true :=
    o.blank c (by simpa [or_assoc] using hc)
  refine ⟨⟨b₁ ++ cl ++ b₂, b₃, q, m, ?_, ?_, ?_, ?_, o.ne₃, ?_, hq, hm⟩, rfl, rfl, rfl, rfl⟩
  · intro c hc
    simp only [List.mem_append] at hc
    rcases hc with (hc | hc) | hc
    · exact clauseChar_of_isBlank (blank c (.inl hc))
    · exact o.clause c hc
    · exact clauseChar_of_isBlank (blank c (.inr (.inl hc)))
  · have := List.length_pos_iff.2 o.ne₁
    have := List.length_pos_iff.2 o.ne₂
    simp only [List.length_append]
    omega
  · intro c hc
    rw [List.append_assoc, List.head?_append_of_ne_nil _ o.ne₁] at hc
    exact blank c (.inl (List.mem_of_mem_head? hc))
  · intro c hc
    rw [List.getLast?_append_of_ne_nil _ o.ne₂] at hc
    exact blank c (.inr (.inl (List.mem_of_getLast? hc)))
  · exact fun c hc => blank c (.inr (.inr hc))

/-- A shape has an opening that leaves its quoted text. -/
theorem Shape.exists_opens (s : Shape) (before : Option Char) (rest : List Char) :
    ∃ b₁ cl b₂, Opens ⟨0, before, s.text ++ rest, []⟩ b₁ cl b₂ s.gap (s.quoted ++ rest) := by
  obtain ⟨c, d, m, hb⟩ : ∃ c d m, s.binding = c :: (m ++ [d]) := by
    have := s.binding_length
    cases hb : s.binding with
    | nil => rw [hb] at this; simp at this
    | cons c cs =>
      have : cs ≠ [] := by
        rintro rfl
        rw [hb] at this
        simp at this
      exact ⟨c, cs.getLast this, cs.dropLast, by rw [List.dropLast_append_getLast this]⟩
  have head := s.binding_head
  have last := s.binding_last
  have chars := s.binding_chars
  rw [hb] at head last chars
  have hc : Text.isBlank c = true := head c rfl
  have hd : Text.isBlank d = true := last d (by simp [List.getLast?_cons])
  refine ⟨[c], m, [d], ⟨?_, by simp, by simp, s.gap_ne_nil, ?_, ?_⟩⟩
  · simp [Shape.text_def, Shape.run, hb]
  · simpa [hc, hd] using s.gap_blank
  · intro x hx
    exact chars x (by simp [hx])

/-- What the expression takes for the parts of a match is a statement. -/
theorem exists_shape {before : Option Char} {text : List Char} {f : Found}
    (h : regex.here? before text = some f) :
    ∃ s : Shape, ∃ clause, text = s.text ++ f.rest ∧ f = s.found clause f.rest ∧
      Text.trim clause = Text.trim s.binding := by
  obtain ⟨m, hm, rfl⟩ := Option.map_eq_some_iff.1 h
  obtain ⟨τ, hτ, rfl⟩ := Option.map_eq_some_iff.1 hm
  rw [regex] at hτ
  obtain ⟨ρ, hρ, first⟩ := exists_of_head?_cat_append hτ
  obtain ⟨b₁, cl, b₂, b₃, v, o, rfl⟩ := mem_opening.1 hρ
  obtain ⟨υ, hυ, -⟩ := mem_group.1 (List.mem_of_mem_head? first)
  obtain ⟨q, content, v', hq, hv, hcontent⟩ :
      ∃ q m v', (q = '\'' ∨ q = '"') ∧ v = q :: (m ++ q :: v') ∧ ∀ c ∈ m, c ≠ q ∧ c ≠ '\n' := by
    rcases List.mem_append.1 hυ with hυ | hυ
    · obtain ⟨m, v', hv, hm⟩ := exists_of_mem_quoted hυ
      exact ⟨'\'', m, v', .inl rfl, hv, hm⟩
    · obtain ⟨m, v', hv, hm⟩ := exists_of_mem_quoted hυ
      exact ⟨'"', m, v', .inr rfl, hv, hm⟩
  obtain rfl := Option.some.inj (first.symm.trans (head?_specifier hq hv hcontent))
  obtain ⟨s, hb, hg, rfl, rfl⟩ := exists_shape_of_opens o hq hcontent
  have tail : v = s.quoted ++ v' := by simp [hv, Shape.quoted]
  have parts :
      "import".toList ++ b₁ ++ cl ++ (b₂ ++ "from".toList ++ s.gap) ++ s.quoted = s.text := by
    simp [Shape.text_def, Shape.run, hb]
  subst hg tail
  have cut := @cut_pass_pass before ("import".toList ++ b₁) cl (b₂ ++ "from".toList ++ s.gap)
    s.quoted v'
  have whole : text = s.text ++ v' := by
    rw [show text = _ from o.rest, ← List.append_assoc, parts]
  simp only [parts, ← whole] at cut
  rw [groupCount_regex]
  refine ⟨s, cl, ?_⟩
  rw [show s.quote :: s.content ++ [s.quote] = s.quoted from rfl, behindOpening, cut]
  refine ⟨whole, rfl, ?_⟩
  rw [hb, Text.trim_append_right, Text.trim_append_left]
  · exact fun c hc => o.blank c (by simp [hc])
  · exact fun c hc => o.blank c (by simp [hc])

/-- A statement is matched wherever it stands. -/
theorem here?_text (s : Shape) (before : Option Char) (rest : List Char) :
    ∃ clause, regex.here? before (s.text ++ rest) = some (s.found clause rest) ∧
      Text.trim clause = Text.trim s.binding := by
  obtain ⟨b₁, cl, b₂, o⟩ := s.exists_opens before rest
  let ρ := behindOpening ⟨0, before, s.text ++ rest, []⟩ ("import".toList ++ b₁) cl
    (b₂ ++ "from".toList ++ s.gap) (s.quoted ++ rest)
  have opens : ρ ∈ (cat opening).outcomes ⟨0, before, s.text ++ rest, []⟩ :=
    mem_opening.2 ⟨b₁, cl, b₂, s.gap, s.quoted ++ rest, o, rfl⟩
  have ahead : ρ.rest = s.quote :: (s.content ++ s.quote :: rest) := by
    simp [ρ, behindOpening, Shape.quoted]
  have last := List.mem_of_mem_head? (head?_specifier s.quote_eq ahead s.content_chars)
  have some : (regex.here? before (s.text ++ rest)).isSome = true := by
    rw [here?, firstAt, Option.isSome_map, Option.isSome_map, regex, List.isSome_head?,
      outcomes_cat_append]
    simpa using ⟨ρ, opens, List.ne_nil_of_mem last⟩
  obtain ⟨f, hf⟩ := Option.isSome_iff_exists.1 some
  obtain ⟨s', cl', htext, hfound, htrim⟩ := exists_shape hf
  obtain ⟨rfl, hrest⟩ := Shape.text_append_inj htext
  rw [← hrest] at hfound
  exact ⟨cl', by rw [hf, hfound], htrim⟩

end GlobalImports.Statement
