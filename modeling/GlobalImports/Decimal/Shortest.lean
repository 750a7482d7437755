import GlobalImports.Decimal.Double

/-! The shortest decimal text of a number: the fewest digits that read back as the number, and of
those the nearest to it. -/

namespace GlobalImports.Decimal

/-- The value `0.digits * 10 ^ point`, for instance `123` and `2` for `12.3`. -/
structure Digits where
  digits : List Char
  point : Int
  deriving DecidableEq, Repr

namespace Double

/-- Bounds of the values that round to `x`, as multiples of `2 ^ (exponent - 2)`. Below a power of
two the gap to the next number is half as wide. -/
def bounds (x : Double) : Nat × Nat :=
  let m := 4 * x.mantissa
  let lowest := x.mantissa = Nat.pow 2 (precision - 1) ∧ minExponent < x.exponent
  (if lowest then m - 1 else m - 2, m + 2)

/-- Compares `a / b` with `c / d`. -/
def ratioLe (a b c d : Nat) : Bool := a * d ≤ c * b

/-- Whether `k * 10 ^ e` reads back as `x`. The bounds do if the mantissa is even. -/
def readsBack (x : Double) (k : Nat) (e : Int) : Bool :=
  let (lo, hi) := x.bounds
  let (a, b) := scaled 10 k 1 e
  let (lo, loDen) := scaled 2 lo 1 (x.exponent - 2)
  let (hi, hiDen) := scaled 2 hi 1 (x.exponent - 2)
  if x.mantissa % 2 = 0 then ratioLe lo loDen a b && ratioLe a b hi hiDen
  else !ratioLe a b lo loDen && !ratioLe hi hiDen a b

/-- The least `p` between `lo` and `lo + fuel` with `x < 10 ^ p`. -/
def pointFrom (x : Double) (lo : Int) : Nat → Int
  | 0 => lo
  | fuel + 1 =>
    let (a, b) := x.ratio
    let (a, b) := scaled 10 a b (-lo)
    if a < b then lo else pointFrom x (lo + 1) fuel

/-- The point of a number other than zero. -/
def point (x : Double) : Int :=
  let log2 : Int := x.mantissa.log2 + x.exponent
  pointFrom x (log2 * 30103 / 100000 - 1) 4

/-- The nearest of the two neighbours with `n` digits that reads back, if either does. -/
def withDigits? (x : Double) (p : Int) (n : Nat) : Option Nat :=
  let e := p - n
  let (a, b) := x.ratio
  let (a, b) := scaled 10 a b (-e)
  let k := a / b
  let nearest := roundDiv a b
  let other := if nearest = k then k + 1 else k
  if x.readsBack nearest e then some nearest
  else if x.readsBack other e then some other
  else none

/-- The fewest digits, tried from `n` on. -/
def digitsFrom (x : Double) (p : Int) (n : Nat) : Nat → Nat × Nat
  | 0 => (0, n)
  | fuel + 1 =>
    match x.withDigits? p n with
    | some k => (k, n)
    | none => digitsFrom x p (n + 1) fuel

/-- The shortest digits of a number other than zero. The upper neighbour may be a power of ten, with
one digit more and zeros at its end. -/
def shortest (x : Double) : Digits :=
  let p := x.point
  let (k, n) := x.digitsFrom p 1 17
  let text := Nat.toDigits 10 k
  ⟨(text.reverse.dropWhile (· == '0')).reverse, p + (text.length - n : Int)⟩

end Double

/-! ### Text -/

def zeros (n : Nat) : List Char := List.replicate n '0'

/-- Digits with a point among them and at least one digit on each side. -/
def Digits.plain (d : Digits) : List Char :=
  match d.point with
  | .negSucc p => ['0', '.'] ++ zeros (p + 1) ++ d.digits
  | .ofNat 0 => ['0', '.'] ++ d.digits
  | .ofNat p =>
    if d.digits.length ≤ p then d.digits ++ zeros (p - d.digits.length) ++ ['.', '0']
    else d.digits.take p ++ ['.'] ++ d.digits.drop p

/-- One digit, the others behind a point, and the exponent with its sign. -/
def Digits.scientific (d : Digits) : List Char :=
  let e := d.point - 1
  let fraction := if d.digits.length ≤ 1 then [] else '.' :: d.digits.drop 1
  d.digits.take 1 ++ fraction ++ ['e', if e < 0 then '-' else '+'] ++ Nat.toDigits 10 e.natAbs

/-- Plain from 0.00001 up to, but not including, ten to the 16th. -/
def Digits.text (d : Digits) : List Char :=
  if -4 ≤ d.point ∧ d.point ≤ 16 then d.plain else d.scientific

/-- A number with its sign, which zero has too. -/
structure Signed where
  negative : Bool
  value : Double
  deriving DecidableEq, Repr

def Signed.text (x : Signed) : String :=
  let digits := if x.value.mantissa = 0 then ['0', '.', '0'] else x.value.shortest.text
  String.ofList (if x.negative then '-' :: digits else digits)

end GlobalImports.Decimal
