import AviPlayback.Number.Binary64

/-!
Decimal numbers and 64-bit floating-point numbers. `Decimal.toFloat` rounds a decimal to the
nearest float; `Decimal.shortest` gives the decimal with the fewest digits that rounds back to a
float, and of these the nearest to it.
-/
set_option autoImplicit false

namespace AviPlayback

/-- The number `digits * 10 ^ exponent`. -/
structure Decimal where
  digits : Nat
  exponent : Int
  deriving DecidableEq, Repr

namespace Binary64

def infinityBits : Nat := 2047 * fractionCount

/-- The power of two below `num / den`. -/
def floorLog2 (num den : Nat) : Int :=
  let e : Int := (num.log2 : Int) - den.log2
  let below : Bool := match e with
    | .ofNat k => num < den * Nat.pow 2 k
    | .negSucc k => num * Nat.pow 2 (k + 1) < den
  if below then e - 1 else e

/-- The bits of the float nearest to `num / den`; a tie goes to the even mantissa. -/
def nearestBits (num den : Nat) : Nat :=
  if num = 0 then 0
  else
    let e := max (-1074) (floorLog2 num den - 52)
    let m := match e with
      | .ofNat k => roundedQuotient num (den * Nat.pow 2 k)
      | .negSucc k => roundedQuotient (num * Nat.pow 2 (k + 1)) den
    min infinityBits ((e + 1074).toNat * fractionCount + m)

/-- The float of a magnitude's bits, with a sign. -/
def ofMagnitude (negative : Bool) (bits : Nat) : Float :=
  Float.ofBits (UInt64.ofNat (if negative then UInt64.size / 2 + bits else bits))

end Binary64

namespace Decimal

def digitCount (n : Nat) : Nat := (Nat.toDigits 10 n).length

/-- The bits of the float nearest to a decimal. Past the range of floats no power of ten is
computed. -/
def nearestBits (d : Decimal) : Nat :=
  let magnitude := (digitCount d.digits : Int) + d.exponent
  if d.digits = 0 ∨ magnitude < -330 then 0
  else if 330 < magnitude then Binary64.infinityBits
  else match d.exponent with
    | .ofNat k => Binary64.nearestBits (d.digits * Nat.pow 10 k) 1
    | .negSucc k => Binary64.nearestBits d.digits (Nat.pow 10 (k + 1))

def toFloat (d : Decimal) (negative : Bool) : Float :=
  Binary64.ofMagnitude negative d.nearestBits

/-- The decimal without a zero at the end of its digits. -/
def trimmed (d : Decimal) : Decimal :=
  if d.digits % 10 = 0 then ⟨d.digits / 10, d.exponent + 1⟩ else d

/-- The neighbour of `m * 2 ^ e` among the multiples of `10 ^ k` that rounds back to it; of two the
nearer, and the upper one if they are equally near. -/
def onGrid? (m : Nat) (e k : Int) : Option Decimal :=
  let num := Nat.pow 2 (e - 2).toNat * Nat.pow 10 (-k).toNat
  let den := Nat.pow 2 (2 - e).toNat * Nat.pow 10 k.toNat
  let low := (if m = Binary64.fractionCount ∧ -1074 < e then 4 * m - 1 else 4 * m - 2) * num
  let high := (4 * m + 2) * num
  let rounds (d : Nat) : Bool :=
    if m % 2 = 0 then low ≤ d * den && d * den ≤ high else low < d * den && d * den < high
  let down := 4 * m * num / den
  let up := down + 1
  match rounds down, rounds up with
  | true, true => some ⟨if 2 * (4 * m * num % den) < den then down else up, k⟩
  | true, false => some ⟨down, k⟩
  | false, true => some ⟨up, k⟩
  | false, false => none

/-- Number of digits before the point of `m * 2 ^ e`; not positive when zeros follow the point. -/
def pointAfter (m : Nat) (e : Int) : Int :=
  (digitCount (m * Nat.pow 2 e.toNat * Nat.pow 10 400 / Nat.pow 2 (-e).toNat) : Int) - 400

/-- The shortest decimal that rounds back to the positive number `m * 2 ^ e`. Seventeen digits are
always enough. -/
def shortest (m : Nat) (e : Int) : Decimal :=
  let point := pointAfter m e
  (((List.range 17).findSome? fun (n : Nat) => onGrid? m e (point - n - 1)).getD ⟨0, 0⟩).trimmed

/-- Positional notation, with a digit on both sides of the point. -/
def positional (d : Decimal) : String :=
  let digits := Nat.toDigits 10 d.digits
  match d.exponent with
  | .ofNat k => String.ofList (digits ++ List.replicate k '0' ++ ['.', '0'])
  | .negSucc k =>
    let padded := List.replicate (k + 2 - digits.length) '0' ++ digits
    let whole := padded.length - (k + 1)
    String.ofList (padded.take whole ++ '.' :: padded.drop whole)

end Decimal

end AviPlayback
