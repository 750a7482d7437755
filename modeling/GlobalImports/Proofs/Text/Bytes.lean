import GlobalImports.Text.Span

/-! Bytes of a text. Cutting and splicing go by byte offsets, and give back the parts of a text that
is cut where characters begin. -/

namespace GlobalImports.Text

theorem byteLength_toList (s : String) : byteLength s.toList = s.utf8ByteSize := by
  have same (cs : List Char) : byteLength cs = (String.ofList cs).utf8ByteSize := by
    induction cs with
    | nil => rfl
    | cons c cs ih =>
      rw [byteLength_cons, ih, ← String.utf8ByteSize_singleton, ← String.utf8ByteSize_append,
        ← String.ofList_cons]
  rw [same, String.ofList_toList]

/-- The text from byte `n` on. -/
def dropBytes : Nat → List Char → List Char
  | 0, cs => cs
  | _ + 1, [] => []
  | n + 1, c :: cs => dropBytes (n + 1 - c.utf8Size) cs

/-- The text up to byte `n`. -/
def takeBytes : Nat → List Char → List Char
  | 0, _ => []
  | _ + 1, [] => []
  | n + 1, c :: cs => c :: takeBytes (n + 1 - c.utf8Size) cs

/-- The text of a span. -/
def slice (cs : List Char) (s : Span) : List Char :=
  takeBytes (s.stop - s.start) (dropBytes s.start cs)

/-- The text from byte `start` on, with each of the spans replaced. -/
def splice (cs : List Char) (start : Nat) : List (Span × List Char) → List Char
  | [] => dropBytes start cs
  | (s, new) :: edits => slice cs ⟨start, s.start⟩ ++ new ++ splice cs s.stop edits

section Cut

variable (u v w : List Char)

theorem dropBytes_append : dropBytes (byteLength u) (u ++ v) = v := by
  induction u with
  | nil => cases v <;> rfl
  | cons c u ih =>
    have := c.utf8Size_pos
    obtain ⟨n, hn⟩ : ∃ n, c.utf8Size + byteLength u = n + 1 := ⟨_, (Nat.succ_pred (by omega)).symm⟩
    rw [byteLength_cons, hn, List.cons_append, dropBytes, ← hn, Nat.add_sub_cancel_left, ih]

theorem takeBytes_append : takeBytes (byteLength u) (u ++ v) = u := by
  induction u with
  | nil => cases v <;> rfl
  | cons c u ih =>
    have := c.utf8Size_pos
    obtain ⟨n, hn⟩ : ∃ n, c.utf8Size + byteLength u = n + 1 := ⟨_, (Nat.succ_pred (by omega)).symm⟩
    rw [byteLength_cons, hn, List.cons_append, takeBytes, ← hn, Nat.add_sub_cancel_left, ih]

theorem slice_append :
    slice (u ++ v ++ w) ⟨byteLength u, byteLength u + byteLength v⟩ = v := by
  rw [slice, List.append_assoc, dropBytes_append, Nat.add_sub_cancel_left, takeBytes_append]

end Cut

end GlobalImports.Text
