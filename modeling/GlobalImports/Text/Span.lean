/-! Byte lengths of texts in UTF-8, and spans of bytes. -/

namespace GlobalImports.Text

/-- Length of a text in UTF-8 bytes. -/
def byteLength : List Char → Nat
  | [] => 0
  | c :: cs => c.utf8Size + byteLength cs

@[simp] theorem byteLength_nil : byteLength [] = 0 := rfl

@[simp] theorem byteLength_cons (c : Char) (cs : List Char) :
    byteLength (c :: cs) = c.utf8Size + byteLength cs := rfl

@[simp] theorem byteLength_append (as bs : List Char) :
    byteLength (as ++ bs) = byteLength as + byteLength bs := by
  induction as with
  | nil => simp
  | cons a as ih => simp [ih, Nat.add_assoc]

/-- Bytes `start` to `stop`, the latter excluded. -/
structure Span where
  start : Nat
  stop : Nat
  deriving DecidableEq, Repr

end GlobalImports.Text
