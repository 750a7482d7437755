import GlobalImports.Proofs.Replacer.Legal
import GlobalImports.Proofs.Replacer.Splice
import Mathlib.Data.List.Infix

/-! Statements at the start of a line. What is before such a statement may end in the keyword
`import`, white space and other characters of clauses. Then a statement has begun there that takes
the whole one for the rest of its clause; otherwise the statement is found by itself. -/

namespace GlobalImports

namespace Statement

/-- The text ends in `import`, white space and further characters of clauses. -/
def LeavesClauseOpen (text : List Char) : Prop :=
  ∃ u run, text = u ++ ("import".toList ++ run) ∧ (∃ c ∈ run.head?, Text.isBlank c = true) ∧
    ∀ c ∈ run, clauseChar.contains c = true

/-- What can be said of the end of a text that leaves a clause open. -/
def isOpening (d : List Char) : Bool :=
  match d.dropPrefix? "import".toList with
  | some run => run.head?.any Text.isBlank && run.all clauseChar.contains
  | none => false

theorem isOpening_iff {d : List Char} :
    isOpening d = true ↔ ∃ run, d = "import".toList ++ run ∧
      (∃ c ∈ run.head?, Text.isBlank c = true) ∧ ∀ c ∈ run, clauseChar.contains c = true := by
  constructor
  · intro h
    rw [isOpening] at h
    split at h
    case h_1 run hd =>
      obtain ⟨k, rfl, keyword⟩ := List.dropPrefix?_eq_some_iff.1 hd
      obtain ⟨head, chars⟩ := Bool.and_eq_true_iff.1 h
      obtain ⟨c, hc, blank⟩ := (Option.any_eq_true _ _).1 head
      exact ⟨run, by rw [eq_of_beq keyword], ⟨c, hc, blank⟩, List.all_eq_true.1 chars⟩
    case h_2 => cases h
  · rintro ⟨run, rfl, ⟨c, hc, blank⟩, chars⟩
    have keyword : ("import".toList ++ run).dropPrefix? "import".toList = some run :=
      List.dropPrefix?_eq_some_iff.2 ⟨_, rfl, beq_self_eq_true _⟩
    rw [isOpening, keyword]
    exact Bool.and_eq_true_iff.2
      ⟨(Option.any_eq_true _ _).2 ⟨c, hc, blank⟩, List.all_eq_true.2 chars⟩

instance (text : List Char) : Decidable (LeavesClauseOpen text) :=
  decidable_of_iff (∃ d ∈ text.tails, isOpening d = true) <| by
    constructor
    · rintro ⟨d, hd, h⟩
      obtain ⟨u, rfl⟩ := (List.mem_tails _ _).1 hd
      obtain ⟨run, hrun, opens⟩ := isOpening_iff.1 h
      exact ⟨u, run, by rw [hrun], opens⟩
    · rintro ⟨u, run, rfl, h⟩
      exact ⟨_, (List.mem_tails _ _).2 (List.suffix_append u _), isOpening_iff.2 ⟨run, rfl, h⟩⟩

/-! ### A clause left open -/

/-- The statement with further text in front of its own, and one more keyword before that. -/
def Shape.widen (s : Shape) (run : List Char) (head : ∃ c ∈ run.head?, Text.isBlank c = true)
    (chars : ∀ c ∈ run, clauseChar.contains c = true) : Shape :=
  { s with
    binding := run ++ ("import".toList ++ s.binding)
    binding_chars := by
      intro c hc
      rcases List.mem_append.1 hc with hc | hc
      · exact chars c hc
      · rcases List.mem_append.1 hc with hc | hc
        · exact clauseChar_of_mem_import hc
        · exact s.binding_chars c hc
    binding_length := by
      have := s.binding_length
      simp only [List.length_append]
      omega
    binding_head := by
      obtain ⟨c, hc, blank⟩ := head
      intro d hd
      rw [List.head?_append, Option.mem_def.1 hc, Option.some_or] at hd
      exact Option.some.inj hd ▸ blank
    binding_last := by
      have ne : s.binding ≠ [] := by
        intro none
        have := s.binding_length
        rw [none] at this
        exact absurd this (by simp)
      intro c hc
      rw [List.getLast?_append_of_ne_nil _ (by simp), List.getLast?_append_of_ne_nil _ ne] at hc
      exact s.binding_last c hc }

theorem Shape.text_widen (s : Shape) (run : List Char)
    (head : ∃ c ∈ run.head?, Text.isBlank c = true)
    (chars : ∀ c ∈ run, clauseChar.contains c = true) :
    (s.widen run head chars).text = "import".toList ++ run ++ s.text := by
  show "import".toList ++ (run ++ ("import".toList ++ s.binding) ++ "from".toList ++ s.gap) ++
    s.quoted = "import".toList ++ run ++ ("import".toList ++
      (s.binding ++ "from".toList ++ s.gap) ++ s.quoted)
  simp only [List.append_assoc]

/-- Where a clause is left open, a statement begins that goes on to the end of the next one. -/
theorem LeavesClauseOpen.exists_begins {a : List Char} (h : LeavesClauseOpen a) :
    ∃ d, d ≠ [] ∧ d <:+ a ∧ (∀ c ∈ d, clauseChar.contains c = true) ∧
      ∀ (s : Shape) (rest : List Char), Begins (d ++ (s.text ++ rest)) := by
  obtain ⟨u, run, rfl, head, chars⟩ := h
  refine ⟨"import".toList ++ run, by simp, List.suffix_append u _, ?_, ?_⟩
  · intro c hc
    rcases List.mem_append.1 hc with hc | hc
    · exact clauseChar_of_mem_import hc
    · exact chars c hc
  · intro s rest
    exact ⟨s.widen run head chars, rest, by rw [s.text_widen, List.append_assoc _ s.text]⟩

/-- Otherwise no statement goes on into the next line. -/
theorem endsBefore_of_lineBreak {a : List Char} (line : a.getLast? = some '\n')
    (closed : ¬LeavesClauseOpen a) (b : List Char) : EndsBefore a b := by
  rintro d hne ⟨u, rfl⟩ ⟨s, rest, hs⟩
  rw [List.getLast?_append_of_ne_nil _ hne] at line
  have newline : '\n' ∈ d := List.mem_of_getLast? line
  rcases List.append_eq_append_iff.1 hs with ⟨t, ht, -⟩ | ⟨t, ht, -⟩
  · by_cases htn : t = []
    · exact ⟨s, [], by rw [ht, htn, List.append_nil, List.append_nil]⟩
    exfalso
    rcases s.cut ht htn with chars | ⟨m, rfl, hm⟩
    · -- the keyword is on one line, so the cut is behind it
      rw [s.text_def, List.append_assoc] at ht
      rcases List.append_eq_append_iff.1 ht with ⟨run, rfl, hrun⟩ | ⟨run, hrun, -⟩
      · refine closed ⟨u, run, rfl, ?_, fun c hc => chars c (List.mem_append_right _ hc)⟩
        have ne : run ≠ [] := by
          rintro rfl
          exact absurd newline (by decide)
        obtain ⟨c, cs, rfl⟩ := List.exists_cons_of_ne_nil ne
        refine ⟨c, rfl, s.binding_head c ?_⟩
        have length := s.binding_length
        cases hb : s.binding with
        | nil => rw [hb] at length; exact absurd length (by simp)
        | cons e es =>
          rw [Shape.run, hb] at hrun
          rw [(List.cons.inj hrun).1]
          rfl
      · exact absurd (hrun ▸ List.mem_append_left run newline) (by decide)
    · rw [List.getLast?_append_of_ne_nil _ (by simp)] at line
      rcases List.mem_cons.1 (List.mem_of_getLast? line) with h | h
      · exact s.quote_ne_newline h.symm
      · exact hm h
  · exact ⟨s, t, ht⟩

/-- Where a part ends, no statement goes on that begins in characters of clauses before it. -/
theorem Reading.not_begins_of_run {text d : List Char} {ps qs : List Part}
    (h : Reading text (ps ++ qs)) (hne : d ≠ []) (hd : d <:+ ps.flatMap Part.text)
    (chars : ∀ c ∈ d, clauseChar.contains c = true) : ¬Begins (d ++ qs.flatMap Part.text) := by
  induction ps generalizing text with
  | nil => exact absurd (List.suffix_nil.1 hd) hne
  | cons p ps ih =>
    cases h with
    | @char c cs _ none h =>
      rcases List.suffix_cons_iff.1 hd with rfl | hd
      · have tail : ps.flatMap Part.text ++ qs.flatMap Part.text = cs := by
          rw [← List.flatMap_append]
          exact h.flatMap_text
        show ¬Begins (c :: (ps.flatMap Part.text ++ qs.flatMap Part.text))
        rwa [tail]
      · exact ih h hd
    | statement s h =>
      obtain ⟨e, he⟩ := hd
      rw [List.flatMap_cons] at he
      rcases List.append_eq_append_iff.1 he with ⟨t, ht, rfl⟩ | ⟨t, -, hps⟩
      · by_cases htn : t = []
        · exact ih h (by rw [htn]; exact List.suffix_refl _)
        · -- the last character of the statement is its closing quote
          have last : t.getLast? = some s.quote := by
            rw [← List.getLast?_append_of_ne_nil e htn, ← ht, Part.text, s.text_eq,
              ← List.cons_append, ← List.append_assoc, List.getLast?_concat]
          have quote := chars s.quote (List.mem_append_left _ (List.mem_of_getLast? last))
          rw [not_clauseChar_quote s.quote_eq] at quote
          cases quote
      · exact ih h ⟨t, hps.symm⟩

end Statement

namespace Replacer

open Statement

variable {r : Replacer}

/-- An entry of the report is a part of the text, between those before and behind it. -/
theorem exists_part_of_mem_report {code : String} {ps : List Part} {e : Replaced}
    (h : Reading code.toList ps) (he : e ∈ (r.report code).replaced) :
    ∃ before p behind, ps = before ++ p :: behind ∧
      e.span = ⟨Text.byteLength (before.flatMap Part.text),
        Text.byteLength (before.flatMap Part.text) + Text.byteLength p.text⟩ := by
  rw [r.report_eq h] at he
  obtain ⟨before, text, declarations, behind, split, span⟩ :=
    Stretch.exists_split_of_mem_report he
  obtain ⟨before', rest, rfl, rfl, hrest⟩ := List.map_eq_append_iff.1 split
  obtain ⟨p, behind', rfl, hp, -⟩ := List.map_eq_cons_iff.1 hrest
  obtain rfl : text = p.text := by rw [← r.old_part p, hp]; rfl
  rw [flatMap_old_part, Nat.zero_add] at span
  exact ⟨before', p, behind', rfl, span⟩

/-- A legal statement with a source at the start of a line is reported with exactly its bytes, but
for texts before it that leave a clause open. -/
theorem reports_lineStart_iff (pre : String) (st : Legal) (post : String) {source : String}
    (hs : r.source? (String.ofList st.content) = some source)
    (hpre : pre = "" ∨ pre.toList.getLast? = some '\n') :
    (∃ e ∈ (r.report (pre ++ String.ofList st.text ++ post)).replaced,
        e.span = ⟨pre.utf8ByteSize, pre.utf8ByteSize + Text.byteLength st.text⟩) ↔
      ¬LeavesClauseOpen pre.toList := by
  have code : (pre ++ String.ofList st.text ++ post).toList =
      pre.toList ++ (st.shape.text ++ post.toList) := by
    rw [String.toList_append, String.toList_append, String.toList_ofList, List.append_assoc,
      st.text_shape]
  constructor
  · rintro ⟨e, he, hspan⟩ opened
    obtain ⟨ps, reading⟩ := exists_reading (pre ++ String.ofList st.text ++ post).toList
    obtain ⟨before, p, behind, rfl, span⟩ := exists_part_of_mem_report reading he
    have parts := reading.flatMap_text
    rw [code, List.flatMap_append] at parts
    -- a part ends where the line does
    have length : Text.byteLength (before.flatMap Part.text) = Text.byteLength pre.toList := by
      rw [Text.byteLength_toList]
      exact (Text.Span.mk.inj (span.symm.trans hspan)).1
    have front : before.flatMap Part.text = pre.toList := by
      rw [← Text.takeBytes_append (before.flatMap Part.text), parts, length, Text.takeBytes_append]
    have back := List.append_cancel_left (front ▸ parts)
    obtain ⟨d, hne, hd, chars, begins⟩ := opened.exists_begins
    refine reading.not_begins_of_run hne (front ▸ hd) chars ?_
    rw [back]
    exact begins st.shape post.toList
  · intro closed
    obtain ⟨ps, hp⟩ := exists_reading pre.toList
    obtain ⟨qs, hq⟩ := exists_reading post.toList
    have ends : EndsBefore pre.toList (st.shape.text ++ post.toList) := by
      rcases hpre with rfl | line
      · exact fun d hne hd => absurd (List.suffix_nil.1 hd) hne
      · exact endsBefore_of_lineBreak line closed _
    have whole := hp.append_of_endsBefore ends (.statement st.shape hq)
    rw [← code] at whole
    rw [r.report_eq whole, List.map_append, List.map_cons, part, r.replace_legal st hs,
      Stretch.report_append, flatMap_old_part, hp.flatMap_text, Text.byteLength_toList,
      Nat.zero_add, Stretch.report_replaced]
    exact ⟨_, List.mem_append_right _ List.mem_cons_self, rfl⟩

/-- The statement `import a from 'm'`. -/
def importDefault : Legal :=
  { keywordNames with
    layout := .default ⟨⟨['a'], List.cons_ne_nil _ _, List.forall_mem_singleton.2 (by decide)⟩,
      fun _ h => Option.some.inj h ▸ by decide⟩ }

/-- Behind a line that has the keyword and no white space right after it. -/
theorem reports_behind_dynamic_import :
    let r : Replacer := { exact := (∅ : ExactSources).insert "m" "M" }
    let pre := "import('m')\nimport.meta\n"
    r.source? (String.ofList importDefault.content) = some "M" ∧
      pre.toList.getLast? = some '\n' ∧ ¬LeavesClauseOpen pre.toList ∧
      ∃ e ∈ (r.report (pre ++ String.ofList importDefault.text ++ ";")).replaced,
        e.span = ⟨24, 41⟩ := by
  intro r pre
  have source : r.source? (String.ofList importDefault.content) = some "M" := by decide +kernel
  have line : pre.toList.getLast? = some '\n' := by decide +kernel
  have closed : ¬LeavesClauseOpen pre.toList := by decide +kernel
  refine ⟨source, line, closed, ?_⟩
  exact (reports_lineStart_iff pre importDefault ";" source (.inr line)).2 closed

/-- Behind a line that ends in the keyword, the statement that is reported begins in that line. -/
theorem not_reports_behind_keyword :
    let r : Replacer := { exact := (∅ : ExactSources).insert "m" "M" }
    let pre := "// import\n"
    r.source? (String.ofList importDefault.content) = some "M" ∧
      pre.toList.getLast? = some '\n' ∧
      ¬∃ e ∈ (r.report (pre ++ String.ofList importDefault.text ++ ";")).replaced,
        e.span = ⟨10, 27⟩ := by
  decide +kernel

end Replacer

end GlobalImports
