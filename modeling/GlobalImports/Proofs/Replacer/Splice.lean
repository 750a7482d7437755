import GlobalImports.Optimizer
import GlobalImports.Proofs.Clause.Declarations
import GlobalImports.Proofs.Replacer.Parts
import GlobalImports.Proofs.Text.Bytes

/-! The report as a list of edits. The matches of the sweep that are replaced, each with its bytes
and its declarations, say all there is to say about the new text: it is the old one with the edits
spliced in. -/

namespace GlobalImports

/-! ### Edits of stretches -/

namespace Stretch

/-- The statements replaced, each with what takes its place, the first stretch beginning at byte
`start`. -/
def edits (start : Nat) : List Stretch → List (Replaced × List Char)
  | [] => []
  | kept text :: ss => edits (start + Text.byteLength text) ss
  | replaced specifier source text declarations :: ss =>
    (⟨specifier, source, ⟨start, start + Text.byteLength text⟩⟩, declarations) ::
      edits (start + Text.byteLength text) ss

theorem map_fst_edits (start : Nat) (ss : List Stretch) :
    (edits start ss).map Prod.fst = report start ss := by
  induction ss generalizing start with
  | nil => rfl
  | cons s ss ih =>
    cases s with
    | kept text => exact ih _
    | replaced => rw [edits, List.map_cons, ih, report_replaced]

/-- The stretch of a replaced statement, among those before and behind it. -/
theorem exists_split_of_mem_report {start : Nat} {ss : List Stretch} {e : Replaced}
    (h : e ∈ report start ss) :
    ∃ before text declarations behind,
      ss = before ++ replaced e.specifier e.source text declarations :: behind ∧
      e.span = ⟨start + Text.byteLength (before.flatMap old),
        start + Text.byteLength (before.flatMap old) + Text.byteLength text⟩ := by
  induction ss generalizing start with
  | nil => cases h
  | cons s ss ih =>
    have later (h : e ∈ report (start + Text.byteLength s.old) ss) :
        ∃ before text declarations behind,
          s :: ss = before ++ replaced e.specifier e.source text declarations :: behind ∧
          e.span = ⟨start + Text.byteLength (before.flatMap old),
            start + Text.byteLength (before.flatMap old) + Text.byteLength text⟩ := by
      obtain ⟨before, text, declarations, behind, rfl, hs⟩ := ih h
      refine ⟨s :: before, text, declarations, behind, rfl, ?_⟩
      rw [hs, List.flatMap_cons, Text.byteLength_append, Nat.add_assoc]
    cases s with
    | kept text => exact later h
    | replaced specifier source text declarations =>
      rcases List.mem_cons.1 h with rfl | h
      · exact ⟨[], text, declarations, ss, rfl, rfl⟩
      · exact later h

/-- What has been copied is `u`; what is still to be copied before the next edit is `w`. -/
theorem splice_edits (u w : List Char) (ss : List Stretch) :
    Text.splice (u ++ w ++ ss.flatMap old) (Text.byteLength u)
        ((edits (Text.byteLength u + Text.byteLength w) ss).map fun e => (e.1.span, e.2)) =
      w ++ ss.flatMap new := by
  induction ss generalizing u w with
  | nil =>
    simp only [edits, List.map_nil, Text.splice, List.flatMap_nil, List.append_nil]
    exact Text.dropBytes_append u w
  | cons s ss ih =>
    cases s with
    | kept text =>
      have on := ih u (w ++ text)
      simp only [Text.byteLength_append, ← Nat.add_assoc, ← List.append_assoc] at on
      simpa only [edits, List.flatMap_cons, old, new, ← List.append_assoc] using on
    | replaced specifier source text declarations =>
      have on := ih (u ++ w ++ text) []
      simp only [Text.byteLength_append, Text.byteLength_nil, Nat.add_zero, List.append_nil,
        List.nil_append] at on
      have copied : Text.slice (u ++ w ++ (text ++ ss.flatMap old))
          ⟨Text.byteLength u, Text.byteLength u + Text.byteLength w⟩ = w :=
        Text.slice_append u w _
      simp only [edits, List.map_cons, Text.splice, List.flatMap_cons, old, new, copied]
      rw [← List.append_assoc (u ++ w), on, List.append_assoc]

end Stretch

/-! ### Edits of a sweep -/

/-- The bytes of a match in the text that was swept. -/
def Regex.Found.span (code : List Char) (f : Found) : Text.Span :=
  let stop := Text.byteLength code - Text.byteLength f.rest
  ⟨stop - Text.byteLength f.text, stop⟩

namespace Replacer

open Regex Statement

variable (r : Replacer)

/-- What takes the place of a match, if its specifier has a source and its clause can be read. -/
def edit? (code : List Char) (f : Found) : Option (Replaced × List Char) := do
  let source ← r.source? (ofFound f).specifier
  let clause ← Clause.parse? (ofFound f).clause
  return (⟨(ofFound f).specifier, source, f.span code⟩,
    (clause.declarations r.keyword source).toList)

/-- All edits of a text, in order. -/
def edits (code : String) : List (Replaced × List Char) :=
  (regex.hits code.toList).filterMap (r.edit? code.toList)

theorem span_of_append {code u : List Char} {f : Found} (h : code = u ++ f.text ++ f.rest) :
    f.span code = ⟨Text.byteLength u, Text.byteLength u + Text.byteLength f.text⟩ := by
  have stop : Text.byteLength code - Text.byteLength f.rest =
      Text.byteLength u + Text.byteLength f.text := by
    rw [h, Text.byteLength_append, Text.byteLength_append, Nat.add_sub_cancel_right]
  rw [Found.span, stop, Nat.add_sub_cancel_right]

/-- A match makes the edit that its stretch makes. -/
theorem edits_replace {code u : List Char} {f : Found} (h : code = u ++ f.text ++ f.rest)
    (ss : List Stretch) :
    Stretch.edits (Text.byteLength u) (r.replace (ofFound f) :: ss) =
      (r.edit? code f).toList ++
        Stretch.edits (Text.byteLength u + Text.byteLength f.text) ss := by
  rw [edit?, span_of_append h, replace]
  cases r.source? (ofFound f).specifier with
  | none => rfl
  | some source =>
    cases Clause.parse? (ofFound f).clause with
    | none => rfl
    | some clause => rfl

theorem filterMap_edit?_tokens {text : List Char} {ps : List Part} (h : Reading text ps)
    (before : Option Char) {code u : List Char} (hc : code = u ++ text) :
    ((regex.tokens before text).filterMap Token.hit?).filterMap (r.edit? code) =
      Stretch.edits (Text.byteLength u) (ps.map r.part) := by
  induction h generalizing before u with
  | nil =>
    rw [tokens_nil]
    rfl
  | @char c cs ps none _ ih =>
    rw [tokens_char (by simp [here?_eq_none none])]
    have on := ih (some c) (u := u ++ [c]) (by rw [hc, List.append_assoc, List.singleton_append])
    rw [Text.byteLength_append] at on
    exact on
  | @statement s rest ps _ ih =>
    obtain ⟨clause, hit, same⟩ := here?_text s before rest
    have whole : code = u ++ s.text ++ rest := by rw [hc, List.append_assoc]
    have on := ih s.text.getLast? whole
    have first : Stretch.edits (Text.byteLength u)
        (r.replace (ofFound (s.found clause rest)) :: ps.map r.part) =
          (r.edit? code (s.found clause rest)).toList ++
            Stretch.edits (Text.byteLength u + Text.byteLength s.text) (ps.map r.part) :=
      r.edits_replace (f := s.found clause rest) whole (ps.map r.part)
    have part : r.replace (ofFound (s.found clause rest)) = r.part (.statement s) :=
      r.token_eq_part (.statement s rest same)
    rw [Text.byteLength_append] at on
    rw [part] at first
    rw [tokens_hit hit s.text_ne_nil, List.map_cons, first, ← on]
    show List.filterMap _ (s.found clause rest :: List.filterMap Token.hit? _) = _
    rw [List.filterMap_cons]
    cases r.edit? code (s.found clause rest) <;> rfl

/-- The edits are the statements replaced, with their declarations. -/
theorem edits_eq {code : String} {ps : List Part} (h : Reading code.toList ps) :
    r.edits code = Stretch.edits 0 (ps.map r.part) := by
  have clear (f : Found) : r.edit? code.toList { f with skipped := [] } =
      r.edit? code.toList f := rfl
  rw [edits, ← Text.byteLength_nil, ← r.filterMap_edit?_tokens h none (List.nil_append _).symm,
    ← hits_eq regex regex_productive, List.filterMap_map]
  congr 1

/-- The replaced statements are those that make an edit. -/
theorem replaced_eq (code : String) : (r.report code).replaced = (r.edits code).map Prod.fst := by
  obtain ⟨ps, h⟩ := exists_reading code.toList
  rw [r.report_eq h, r.edits_eq h, Stretch.map_fst_edits]

/-- The new text is the old one with the edits spliced in. -/
theorem code_eq_splice (code : String) :
    (r.report code).code =
      String.ofList (Text.splice code.toList 0 ((r.edits code).map fun e => (e.1.span, e.2))) := by
  obtain ⟨ps, h⟩ := exists_reading code.toList
  have spliced := Stretch.splice_edits [] [] (ps.map r.part)
  rw [List.nil_append, List.nil_append, flatMap_old_part, h.flatMap_text] at spliced
  rw [r.report_eq h, r.edits_eq h]
  exact congrArg String.ofList spliced.symm

/-- A replaced part is a statement, and its declarations begin with the keyword. -/
theorem part_eq_replaced {p : Part} {specifier source : String} {text declarations : List Char}
    (h : r.part p = .replaced specifier source text declarations) :
    (∃ s : Shape, text = s.text) ∧ ∃ rest, declarations = r.keyword.text.toList ++ rest := by
  cases p with
  | char c => cases h
  | statement s =>
    rw [part, replace] at h
    split at h
    case h_1 source' clause _ hc =>
      obtain ⟨-, -, rfl, rfl⟩ := Stretch.replaced.inj h
      exact ⟨⟨s, rfl⟩, Clause.exists_declarations_eq (Clause.isEmpty_of_parse? hc)⟩
    case h_2 => cases h

end Replacer

end GlobalImports
