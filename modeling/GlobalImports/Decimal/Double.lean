/-! Non-negative binary floating-point numbers of 53 bits, in exact arithmetic: every operation
rounds the true result to the nearest number, and a tie to the even one. -/

namespace GlobalImports.Decimal

/-- The value `mantissa * 2 ^ exponent`. Rounding gives a mantissa below `2 ^ 53`, at least `2 ^ 52`
unless the exponent is the lowest. -/
structure Double where
  mantissa : Nat
  exponent : Int
  deriving DecidableEq, Repr

namespace Double

def precision : Nat := 53

def minExponent : Int := -1074

def maxExponent : Int := 971

def zero : Double := ⟨0, minExponent⟩

/-- The quotient rounded to the nearest whole number, and to the even one of two. -/
def roundDiv (num den : Nat) : Nat :=
  let q := num / den
  let twice := 2 * (num % den)
  if twice < den then q
  else if den < twice then q + 1
  else q + q % 2

/-- The fraction `num / den * base ^ shift` as numerator and denominator. -/
def scaled (base num den : Nat) (shift : Int) : Nat × Nat :=
  match shift with
  | .ofNat s => (num * Nat.pow base s, den)
  | .negSucc s => (num, den * Nat.pow base (s + 1))

/-- The number nearest to `num / den`, or nothing if it is too large. -/
def ofRatio (num den : Nat) : Option Double :=
  if num = 0 then some zero
  else
    let guess : Int := (num.log2 : Int) - den.log2 - precision
    let fits (e : Int) : Bool := let (n, d) := scaled 2 num den (-e); n < Nat.pow 2 precision * d
    let e := if fits guess then guess else guess + 1
    let e := max e minExponent
    let (n, d) := scaled 2 num den (-e)
    let m := roundDiv n d
    let (m, e) := if m = Nat.pow 2 precision then (m / 2, e + 1) else (m, e)
    if e ≤ maxExponent then some ⟨m, e⟩ else none

def ofNat (n : Nat) : Option Double := ofRatio n 1

/-- The value as numerator and denominator. -/
def ratio (x : Double) : Nat × Nat := scaled 2 x.mantissa 1 x.exponent

def mul (x y : Double) : Option Double :=
  let (a, b) := x.ratio
  let (c, d) := y.ratio
  ofRatio (a * c) (b * d)

/-- The quotient by a number other than zero. -/
def div (x y : Double) : Option Double :=
  let (a, b) := x.ratio
  let (c, d) := y.ratio
  ofRatio (a * d) (b * c)

example : ofNat 1 = some ⟨4503599627370496, -52⟩ := by decide +kernel

example : ofRatio 1 10 = some ⟨7205759403792794, -56⟩ := by decide +kernel

end Double

end GlobalImports.Decimal
