import GlobalImports.Proofs.Builder.Steps
import GlobalImports.Proofs.Replacer.Splice

/-! One more exact source. It has a say in the statements of its own specifier and in no others: all
other edits of a text stay as they are, however far the new texts drift apart, and so does all that
is kept. -/

namespace GlobalImports

namespace Replacer

open Statement

/-- The replacers use the same keyword and have the same sources, except for one specifier. -/
structure AgreeBeyond (specifier : String) (r r' : Replacer) : Prop where
  keyword : r.keyword = r'.keyword
  source? : ∀ s, s ≠ specifier → r.source? s = r'.source? s

/-- The edit is for a statement of another specifier. -/
def isBeyond (specifier : String) (e : Replaced × List Char) : Bool := e.1.specifier != specifier

/-- What the replacers make of a text differs in the statements of one specifier only. -/
structure Confined (specifier : String) (r r' : Replacer) (code : String) : Prop where
  /-- Of other specifiers, the same statements are replaced by the same sources at the same bytes. -/
  replaced : (r.report code).replaced.filter (·.specifier != specifier) =
    (r'.report code).replaced.filter (·.specifier != specifier)
  /-- Both new texts are splices of the old one, -/
  spliced : ∀ q ∈ [r, r'],
    (q.report code).replaced = (q.edits code).map Prod.fst ∧
      (q.report code).code =
        String.ofList (Text.splice code.toList 0 ((q.edits code).map fun e => (e.1.span, e.2)))
  /-- with the same declarations in the same places, but for those of the one specifier. -/
  edits : (r.edits code).filter (isBeyond specifier) = (r'.edits code).filter (isBeyond specifier)
  /-- From part to part of the old text, both keep the same characters and put the same
  declarations, unless the part is a statement of the one specifier. -/
  parts : ∃ ps, Reading code.toList ps ∧
    (∀ q ∈ [r, r'],
      (q.report code).code = String.ofList (ps.flatMap fun p => (q.part p).new)) ∧
    ∀ p ∈ ps, r.part p = r'.part p ∨
      ∃ s, p = .statement s ∧ s.statement.specifier = specifier

section Agree

variable {specifier : String} {r r' : Replacer}

theorem AgreeBeyond.replace_eq (h : AgreeBeyond specifier r r') {s : Statement}
    (hs : s.specifier ≠ specifier) : r.replace s = r'.replace s := by
  simp only [replace, h.keyword, h.source? _ hs]

theorem AgreeBeyond.part_cases (h : AgreeBeyond specifier r r') (p : Part) :
    r.part p = r'.part p ∨ ∃ s, p = .statement s ∧ s.statement.specifier = specifier := by
  cases p with
  | char c => exact .inl rfl
  | statement s =>
    by_cases hs : s.statement.specifier = specifier
    · exact .inr ⟨s, rfl, hs⟩
    · exact .inl (h.replace_eq hs)

/-- An edit has the specifier of its match. -/
theorem specifier_of_edit? {code : List Char} {f : Regex.Found} {e : Replaced × List Char}
    (h : e ∈ r.edit? code f) : e.1.specifier = (ofFound f).specifier := by
  simp only [edit?, Option.bind_eq_bind, Option.mem_def, Option.bind_eq_some_iff, pure,
    Option.some.injEq] at h
  obtain ⟨source, -, clause, -, rfl⟩ := h
  rfl

theorem filter_edit?_of_eq {code : List Char} {f : Regex.Found}
    (h : (ofFound f).specifier = specifier) :
    (r.edit? code f).filter (isBeyond specifier) = none := by
  rw [Option.filter_eq_none_iff]
  intro e he
  rw [isBeyond, specifier_of_edit? he, h]
  simp

theorem AgreeBeyond.edits_eq (h : AgreeBeyond specifier r r') (code : String) :
    (r.edits code).filter (isBeyond specifier) = (r'.edits code).filter (isBeyond specifier) := by
  unfold edits
  rw [List.filter_filterMap, List.filter_filterMap]
  congr 1
  funext f
  by_cases hs : (ofFound f).specifier = specifier
  · rw [filter_edit?_of_eq hs, filter_edit?_of_eq hs]
  · unfold edit?
    rw [h.source? _ hs, h.keyword]

theorem AgreeBeyond.confined (h : AgreeBeyond specifier r r') (code : String) :
    Confined specifier r r' code where
  replaced := by
    have edits := congrArg (List.map Prod.fst) (h.edits_eq code)
    rw [r.replaced_eq, r'.replaced_eq, List.filter_map, List.filter_map]
    exact edits
  spliced q _ := ⟨q.replaced_eq code, q.code_eq_splice code⟩
  edits := h.edits_eq code
  parts := by
    obtain ⟨ps, reading⟩ := exists_reading code.toList
    refine ⟨ps, reading, fun q _ => ?_, fun p _ => h.part_cases p⟩
    rw [q.report_eq reading, List.flatMap_map]

end Agree

end Replacer

namespace Builder

variable (steps : List Step) (specifier source : String)

theorem ofSteps_append_exact :
    ofSteps (steps ++ [.exact specifier source]) =
      (ofSteps steps).apply (.exact specifier source) :=
  List.foldl_append

/-- Only its own specifier is asked for an exact source that is given last. -/
theorem agreeBeyond_exact :
    Replacer.AgreeBeyond specifier (ofSteps steps).build
      (ofSteps (steps ++ [.exact specifier source])).build := by
  rw [ofSteps_append_exact]
  refine ⟨rfl, fun s hs => ?_⟩
  have other : ((ofSteps steps).exact.insert specifier source)[s]? = (ofSteps steps).exact[s]? := by
    rw [Std.ExtTreeMap.getElem?_insert, if_neg]
    intro same
    exact hs (Std.LawfulEqCmp.eq_of_compare same).symm
  unfold Replacer.source?
  simp only [build, apply, other]
  rfl

/-- For that one it counts, unless it is empty: then the patterns are asked. -/
theorem source?_exact :
    (ofSteps (steps ++ [.exact specifier source])).build.source? specifier =
      if source = "" then ((ofSteps steps).build.patternSource? specifier).filter (· ≠ "")
      else some source := by
  rw [ofSteps_append_exact]
  unfold Replacer.source?
  simp only [build, apply, Std.ExtTreeMap.getElem?_insert_self]
  by_cases h : source = ""
  · simp only [h, Option.filter_some, ne_eq, not_true_eq_false, decide_false, if_true]
    rfl
  · simp only [h, Option.filter_some, ne_eq, not_false_eq_true, decide_true, if_true, if_false]

/-- One more exact source changes what becomes of the statements of its specifier, and nothing
else. -/
theorem exact_confined (code : String) :
    Replacer.Confined specifier (ofSteps steps).build
        (ofSteps (steps ++ [.exact specifier source])).build code ∧
      (ofSteps (steps ++ [.exact specifier source])).build.source? specifier =
        if source = "" then ((ofSteps steps).build.patternSource? specifier).filter (· ≠ "")
        else some source :=
  ⟨(agreeBeyond_exact steps specifier source).confined code, source?_exact steps specifier source⟩

end Builder

end GlobalImports
