import GlobalImports.Statement
import GlobalImports.Proofs.Text.Run

/-! The shape of an import statement. A text has at most one statement at its head, so the choices
that the expression has between its three runs make no difference beyond white space around the
clause. -/

namespace GlobalImports.Statement

open Regex

/-! ### Characters of clauses -/

theorem clauseChar_of_isBlank {c : Char} (h : Text.isBlank c = true) :
    clauseChar.contains c = true := by
  simp [clauseChar, CharSet.contains, h]

theorem not_clauseChar_quote {q : Char} (h : q = '\'' ∨ q = '"') :
    clauseChar.contains q = false := by
  rcases h with rfl | rfl <;> decide

theorem not_quote_of_clauseChar {c : Char} (h : clauseChar.contains c = true) :
    c ≠ '\'' ∧ c ≠ '"' := by
  constructor
  · rintro rfl
    cases h
  · rintro rfl
    cases h

theorem clauseChar_of_mem_from {c : Char} (h : c ∈ "from".toList) :
    clauseChar.contains c = true := by
  have h : c ∈ ['f', 'r', 'o', 'm'] := h
  simp only [List.mem_cons, List.not_mem_nil, or_false] at h
  rcases h with rfl | rfl | rfl | rfl <;> decide

/-! ### Shapes -/

/-- A statement taken apart: what stands between the two keywords, with the white space around it,
the white space behind the second, the quote, and the text between the quotes. -/
structure Shape where
  binding : List Char
  gap : List Char
  quote : Char
  content : List Char
  binding_chars : ∀ c ∈ binding, clauseChar.contains c = true
  binding_length : 2 ≤ binding.length
  binding_head : ∀ c ∈ binding.head?, Text.isBlank c = true
  binding_last : ∀ c ∈ binding.getLast?, Text.isBlank c = true
  gap_ne_nil : gap ≠ []
  gap_blank : ∀ c ∈ gap, Text.isBlank c = true
  quote_eq : quote = '\'' ∨ quote = '"'
  content_chars : ∀ c ∈ content, c ≠ quote ∧ c ≠ '\n'

namespace Shape

/-- The part of the statement that consists of characters of clauses. -/
def run (s : Shape) : List Char := s.binding ++ "from".toList ++ s.gap

/-- The specifier between its quotes. -/
def quoted (s : Shape) : List Char := s.quote :: s.content ++ [s.quote]

def text (s : Shape) : List Char := "import".toList ++ s.run ++ s.quoted

theorem text_def (s : Shape) : s.text = "import".toList ++ s.run ++ s.quoted := rfl

/-- The parts that count, white space around the clause included. -/
def statement (s : Shape) : Statement where
  text := s.text
  clause := String.ofList s.binding
  specifier := String.ofList (unquote s.quoted)

theorem run_chars (s : Shape) : ∀ c ∈ s.run, clauseChar.contains c = true := by
  intro c hc
  simp only [run, List.mem_append] at hc
  rcases hc with (hc | hc) | hc
  · exact s.binding_chars c hc
  · exact clauseChar_of_mem_from hc
  · exact clauseChar_of_isBlank (s.gap_blank c hc)

theorem text_ne_nil (s : Shape) : s.text ≠ [] := List.cons_ne_nil 'i' _

/-- A text has at most one statement at its head. -/
theorem text_append_inj {s s' : Shape} {rest rest' : List Char}
    (h : s.text ++ rest = s'.text ++ rest') : s = s' ∧ rest = rest' := by
  have h : s.run ++ (s.quote :: (s.content ++ s.quote :: rest)) =
      s'.run ++ (s'.quote :: (s'.content ++ s'.quote :: rest')) := by
    simp only [text_def, quoted, List.append_assoc] at h
    exact List.append_cancel_left h
  obtain ⟨hrun, hquoted⟩ := Text.run_inj h s.run_chars s'.run_chars
    (by simpa using not_clauseChar_quote s.quote_eq)
    (by simpa using not_clauseChar_quote s'.quote_eq)
  obtain ⟨hquote, hcontent⟩ := List.cons.inj hquoted
  have letter : ∀ b : List Char, ∀ c ∈ (b ++ "from".toList).getLast?, Text.isBlank c = false := by
    intro b c hc
    have : c = 'm' := by simpa [eq_comm] using hc
    rw [this]
    decide
  obtain ⟨hfrom, hgap⟩ := Text.run_inj_right hrun s.gap_blank s'.gap_blank
    (letter s.binding) (letter s'.binding)
  have hbinding := List.append_cancel_right hfrom
  rw [← hquote] at hcontent
  obtain ⟨hcontent, hrest⟩ := Text.run_inj (p := (· != s.quote)) hcontent
    (fun c hc => by simpa using (s.content_chars c hc).1)
    (fun c hc => by simpa [hquote] using (s'.content_chars c hc).1) (by simp) (by simp)
  refine ⟨?_, (List.cons.inj hrest).2⟩
  obtain ⟨⟩ := s
  obtain ⟨⟩ := s'
  subst hbinding hgap hquote hcontent
  rfl

end Shape

end GlobalImports.Statement
