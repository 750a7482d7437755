import GlobalImports.Regex.Search

/-! All matches of an expression in a text, from left to right, each search going on where the
match before it ended. The text between the matches is kept, so that nothing is lost. -/

namespace GlobalImports.Regex

/-- A stretch of text between matches, or a match. -/
inductive Piece where
  | kept (text : List Char)
  | hit (found : Found)
  deriving DecidableEq, Repr

theorem find?_rest_length_le {r : Regex} {before : Option Char} {text : List Char} {f : Found}
    (h : r.find? before text = some f) : f.rest.length ≤ text.length := by
  obtain ⟨m, -, rfl⟩ := Option.map_eq_some_iff.1 h
  simp [Match.cut]

theorem find?_rest_length_lt {r : Regex} {before : Option Char} {text : List Char} {f : Found}
    (h : r.find? before text = some f) (hf : f.text ≠ []) : f.rest.length < text.length := by
  obtain ⟨m, -, rfl⟩ := Option.map_eq_some_iff.1 h
  simp only [Match.cut, ne_eq, List.take_eq_nil_iff, List.drop_eq_nil_iff, not_or] at hf
  simp only [Match.cut, List.length_drop]
  omega

/-- Cuts a text that has `before` in front of it into matches and the stretches between them. An
empty match is passed over. -/
def sweep (r : Regex) (before : Option Char) (text : List Char) : List Piece :=
  match _hm : r.find? before text with
  | none => [.kept text]
  | some f =>
    if _ht : f.text = [] then
      match _hr : f.rest with
      | [] => [.kept f.skipped]
      | c :: cs => .kept (f.skipped ++ [c]) :: sweep r (some c) cs
    else .kept f.skipped :: .hit f :: sweep r f.text.getLast? f.rest
termination_by text.length
decreasing_by
  · have := find?_rest_length_le _hm
    rw [_hr] at this
    exact this
  · exact find?_rest_length_lt _hm _ht

/-- The matches of a sweep over a whole text. -/
def hits (r : Regex) (text : List Char) : List Found :=
  (r.sweep none text).filterMap fun
    | .kept _ => none
    | .hit f => some f

/-- The text with every match replaced. -/
def replaceAll (r : Regex) (replacement : Found → List Char) (text : List Char) : List Char :=
  (r.sweep none text).flatMap fun
    | .kept cs => cs
    | .hit f => replacement f

end GlobalImports.Regex
