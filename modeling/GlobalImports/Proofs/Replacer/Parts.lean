import GlobalImports.Replacer
import GlobalImports.Proofs.Statement.Reading

/-! The report of a replacer, read off the parts of the text: each statement is replaced or kept by
itself, and every other character is kept. -/

namespace GlobalImports

/-! ### Reports on lists of stretches -/

namespace Stretch

@[simp] theorem report_kept (start : Nat) (text : List Char) (ss : List Stretch) :
    report start (kept text :: ss) = report (start + Text.byteLength text) ss := rfl

@[simp] theorem report_replaced (start : Nat) (specifier source : String)
    (text declarations : List Char) (ss : List Stretch) :
    report start (replaced specifier source text declarations :: ss) =
      ⟨specifier, source, ⟨start, start + Text.byteLength text⟩⟩ ::
        report (start + Text.byteLength text) ss := rfl

theorem report_append (start : Nat) (ss ts : List Stretch) :
    report start (ss ++ ts) =
      report start ss ++ report (start + Text.byteLength (ss.flatMap old)) ts := by
  induction ss generalizing start with
  | nil => rfl
  | cons s ss ih =>
    cases s with
    | kept text => simp [ih, old, Nat.add_assoc]
    | replaced => simp [ih, old, Nat.add_assoc]

/-- A text that is kept may as well be kept character by character. -/
theorem report_map_kept (start : Nat) (cs : List Char) :
    report start (cs.map fun c => kept [c]) = [] := by
  induction cs generalizing start with
  | nil => rfl
  | cons c cs ih => simp [ih]

theorem flatMap_old_map_kept (cs : List Char) : (cs.map fun c => kept [c]).flatMap old = cs := by
  induction cs with
  | nil => rfl
  | cons c cs ih => rw [List.map_cons, List.flatMap_cons, ih]; rfl

theorem flatMap_new_map_kept (cs : List Char) : (cs.map fun c => kept [c]).flatMap new = cs := by
  induction cs with
  | nil => rfl
  | cons c cs ih => rw [List.map_cons, List.flatMap_cons, ih]; rfl

end Stretch

/-- A clause is read without the white space at its ends. -/
theorem Clause.parse?_congr {cs ds : List Char} (h : Text.trim cs = Text.trim ds) :
    Clause.parse? (String.ofList cs) = Clause.parse? (String.ofList ds) := by
  simp only [Clause.parse?, String.toList_ofList, h]

namespace Replacer

open Regex Statement

variable (r : Replacer)

/-- What becomes of a part of a text. -/
def part : Part → Stretch
  | .char c => .kept [c]
  | .statement s => r.replace s.statement

/-- What becomes of a token of a sweep. -/
def token : Token → Stretch
  | .char c => .kept [c]
  | .hit f => r.replace (ofFound f)

theorem replace_congr {s t : Statement} (text : s.text = t.text)
    (specifier : s.specifier = t.specifier)
    (clause : Clause.parse? s.clause = Clause.parse? t.clause) : r.replace s = r.replace t := by
  simp only [replace, text, specifier, clause]

theorem token_eq_part {t : Token} {p : Part} (h : Finds t p) : r.token t = r.part p := by
  cases h with
  | char c => rfl
  | statement s rest same => exact r.replace_congr rfl rfl (Clause.parse?_congr same)

theorem map_token_eq {ts : List Token} {ps : List Part} (h : List.Forall₂ Finds ts ps) :
    ts.map r.token = ps.map r.part := by
  induction h with
  | nil => rfl
  | cons h _ ih => rw [List.map_cons, List.map_cons, r.token_eq_part h, ih]

theorem map_token_tokens (piece : Piece) :
    piece.tokens.map r.token = match piece with
      | .kept text => text.map fun c => .kept [c]
      | .hit f => [r.replace (ofFound f)] := by
  cases piece with
  | kept text => rw [Piece.tokens, List.map_map]; rfl
  | hit f => rfl

/-- Pieces and tokens make the same new text. -/
theorem flatMap_new_stretch (pieces : List Piece) :
    (pieces.map r.stretch).flatMap Stretch.new =
      ((pieces.flatMap Piece.tokens).map r.token).flatMap Stretch.new := by
  induction pieces with
  | nil => rfl
  | cons piece pieces ih =>
    rw [List.map_cons, List.flatMap_cons, ih, List.flatMap_cons, List.map_append,
      List.flatMap_append, map_token_tokens]
    congr 1
    cases piece with
    | kept text => rw [Stretch.flatMap_new_map_kept]; rfl
    | hit f => exact (List.append_nil _).symm

/-- Pieces and tokens make the same report. -/
theorem report_stretch (start : Nat) (pieces : List Piece) :
    Stretch.report start (pieces.map r.stretch) =
      Stretch.report start ((pieces.flatMap Piece.tokens).map r.token) := by
  induction pieces generalizing start with
  | nil => rfl
  | cons piece pieces ih =>
    rw [List.map_cons, List.flatMap_cons, List.map_append, map_token_tokens]
    cases piece with
    | kept text =>
      rw [Stretch.report_append, Stretch.report_map_kept, Stretch.flatMap_old_map_kept]
      exact ih _
    | hit f =>
      rw [List.singleton_append, stretch]
      cases r.replace (ofFound f) with
      | kept text => exact ih _
      | replaced specifier source text declarations =>
        rw [Stretch.report_replaced, Stretch.report_replaced, ih]

/-- The report of a text that reads as the given parts. -/
theorem report_eq {code : String} {ps : List Part} (h : Reading code.toList ps) :
    r.report code =
      ⟨String.ofList ((ps.map r.part).flatMap Stretch.new), Stretch.report 0 (ps.map r.part)⟩ := by
  have same :
      ((regex.sweep none code.toList).flatMap Piece.tokens).map r.token = ps.map r.part := by
    rw [sweep_tokens regex_productive]
    exact r.map_token_eq (h.finds none)
  rw [report, stretches, flatMap_new_stretch, report_stretch, same]

theorem old_part (p : Part) : (r.part p).old = p.text := by
  cases p with
  | char c => rfl
  | statement s =>
    rw [part, replace]
    split <;> rfl

/-- A part is kept as it is, or it gives way to declarations. -/
theorem part_cases (p : Part) :
    r.part p = .kept p.text ∨
      ∃ specifier source declarations,
        r.part p = .replaced specifier source p.text declarations := by
  have old := r.old_part p
  cases h : r.part p with
  | kept text =>
    rw [h] at old
    obtain rfl : text = p.text := old
    exact .inl rfl
  | replaced specifier source text declarations =>
    rw [h] at old
    obtain rfl : text = p.text := old
    exact .inr ⟨specifier, source, declarations, rfl⟩

theorem flatMap_old_part (ps : List Part) :
    (ps.map r.part).flatMap Stretch.old = ps.flatMap Part.text := by
  rw [List.flatMap_map]
  congr 1
  funext p
  exact r.old_part p

end Replacer

end GlobalImports
