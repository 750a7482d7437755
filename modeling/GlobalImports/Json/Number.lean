import GlobalImports.Json.Reader

/-! Numbers in JSON documents. A number without fraction and exponent that fits 64 bits is an
integer. Any other is a float, made in steps that each round: as many digits as fit 64 bits, times
or by a power of ten. -/

namespace GlobalImports.Json

open Decimal (Double Signed)

/-- The value of a number. -/
inductive Number where
  | integer (n : Int)
  | float (x : Signed)
  deriving DecidableEq, Repr

def Number.kind : Number → Kind
  | integer n => .integer n
  | float x => .float x

/-! ### The value of a number's digits -/

def maxSignificand : Nat := 18446744073709551615

/-- Digits taken in so far, the power of ten they are to be multiplied with, and whether a digit
has been left out. -/
structure Significand where
  value : Nat := 0
  exponent : Int := 0
  full : Bool := false

/-- Takes in a digit of the whole part. From the first that does not fit on, digits only count. -/
def Significand.whole (s : Significand) (c : Char) : Significand :=
  let value := s.value * 10 + Text.digitValue c
  if s.full || maxSignificand < value then { s with exponent := s.exponent + 1, full := true }
  else { s with value := value }

/-- Takes in a digit of the fraction. From the first that does not fit on, digits are left out. -/
def Significand.fraction (s : Significand) (c : Char) : Significand :=
  let value := s.value * 10 + Text.digitValue c
  if s.full || maxSignificand < value then { s with full := true }
  else { s with value := value, exponent := s.exponent - 1 }

/-- The largest power of ten among the numbers. -/
def maxPower : Nat := 308

def powerOfTen (n : Nat) : Double := (Double.ofNat (Nat.pow 10 n)).getD .zero

/-- Divides until the power of ten left to divide by is among the numbers. -/
def divideDown (x : Double) (n : Nat) : Option Double :=
  if _h : n ≤ maxPower then x.div (powerOfTen n)
  else if x.mantissa = 0 then some x
  else (x.div (powerOfTen maxPower)).bind fun x => divideDown x (n - maxPower)
termination_by n
decreasing_by simp only [maxPower] at *; omega

/-- The significand times the power of ten, or nothing if that is too large. -/
def float? (significand : Nat) (exponent : Int) : Option Double := do
  let x ← Double.ofNat significand
  match exponent with
  | .ofNat n =>
    if n ≤ maxPower then x.mul (powerOfTen n)
    else if x.mantissa = 0 then some x
    else none
  | .negSucc n => divideDown x (n + 1)

/-- The integer, if it fits 64 bits. Zero with a minus sign is none. -/
def integer? (negative : Bool) (n : Nat) : Option Int :=
  if negative then if 1 ≤ n ∧ n ≤ 9223372036854775808 then some (-n) else none
  else some n

/-! ### Reading -/

def digits : Reader (List Char) := fun rest => .ok (rest.span Char.isDigit)

/-- The whole part: a zero, or digits that do not begin with one. -/
def wholeDigits (atEnd : Cause) : Reader (List Char) := do
  match ← get with
  | [] => failHere atEnd
  | '0' :: rest =>
    bump
    if rest.head?.any Char.isDigit then failNext .invalidNumber
    return ['0']
  | c :: _ => if c.isDigit then digits else failNext .invalidNumber

/-- The digits behind a decimal point, if there is one. -/
def fractionDigits (atEnd : Cause) : Reader (Option (List Char)) := do
  if (← get).head? != some '.' then return none
  bump
  let ds ← digits
  if ds.isEmpty then
    if (← get).isEmpty then failNext atEnd else failNext .invalidNumber
  return some ds

/-- The sign and the digits of an exponent, if there is one. -/
def exponentDigits (atEnd : Cause) : Reader (Option (Bool × List Char)) := do
  if !(← get).head?.any (fun c => c == 'e' || c == 'E') then return none
  bump
  let sign := (← get).head?
  if sign == some '+' || sign == some '-' then bump
  match (← get).head? with
  | none => failHere atEnd
  | some c =>
    if c.isDigit then return some (sign == some '-', ← digits)
    else failNext .invalidNumber

def maxExponent : Nat := 2147483647

/-- How many leading digits it takes to exceed the largest exponent, if they ever do. -/
def overflowAt? (ds : List Char) : Option Nat :=
  go 0 0 ds
where
  /-- `taken` digits have the value `n`. -/
  go (n taken : Nat) : List Char → Option Nat
  | [] => none
  | c :: cs =>
    let n := n * 10 + Text.digitValue c
    if maxExponent < n then some (taken + 1) else go n (taken + 1) cs

/-- The exponent applied to a significand. A huge one is met before the number is read to its end:
it makes zero, or a number out of range. -/
def applyExponent (s : Significand) (negative : Bool) (exponent : Option (Bool × List Char)) :
    Reader Signed := do
  match exponent with
  | none => finish (float? s.value s.exponent)
  | some (down, ds) =>
    match overflowAt? ds with
    | some taken =>
      if s.value ≠ 0 ∧ !down then
        let rest ← get
        throw (faultHere (ds.drop taken ++ rest) .numberOutOfRange)
      else return ⟨negative, .zero⟩
    | none =>
      let e : Int := Text.ofDecimal ds
      finish (float? s.value (if down then s.exponent - e else s.exponent + e))
where
  /-- A float is in range if there is a number near it. -/
  finish : Option Double → Reader Signed
  | some x => return ⟨negative, x⟩
  | none => failHere .numberOutOfRange

/-- The number as a float, whatever its digits. -/
def floatOf (negative : Bool) (exponent : Option (Bool × List Char)) (s : Significand) :
    Reader Number :=
  return .float (← applyExponent s negative exponent)

/-- Reads a number from its first digit on, a minus sign having been passed if it is negative. -/
def number (negative : Bool) : Reader Number := do
  let whole ← wholeDigits .endOfValue
  let fraction ← fractionDigits .endOfValue
  let exponent ← exponentDigits .endOfValue
  let s := whole.foldl Significand.whole {}
  match fraction with
  | some ds => floatOf negative exponent (ds.foldl Significand.fraction { s with full := false })
  | none =>
    if exponent.isSome || s.full then floatOf negative exponent s
    else
      match integer? negative s.value with
      | some n => return .integer n
      | none => floatOf negative exponent s

end GlobalImports.Json
