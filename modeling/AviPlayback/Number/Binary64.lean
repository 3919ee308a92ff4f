/-!
The value behind a 64-bit floating-point number: a finite number is a whole mantissa times a
power of two, and `roundedQuotient` rounds an exact quotient to the nearest whole number.
-/
set_option autoImplicit false

namespace AviPlayback.Binary64

/-- The number of fractions: two to the power of 52. -/
def fractionCount : Nat := 0x10000000000000

def fraction (x : Float) : Nat := x.toBits.toNat % fractionCount

def biasedExponent (x : Float) : Nat := x.toBits.toNat / fractionCount % 2048

def isNegative (x : Float) : Bool := UInt64.size / 2 ≤ x.toBits.toNat

/-- The mantissa `m` and the exponent `e` of the magnitude `m * 2 ^ e` of a finite number. -/
def magnitude? (x : Float) : Option (Nat × Int) :=
  let e := biasedExponent x
  if e = 2047 then none
  else if e = 0 then some (fraction x, -1074)
  else some (fractionCount + fraction x, (e : Int) - 1075)

/-- The magnitude of a finite number as a fraction; zero for the others. -/
def ratio (x : Float) : Nat × Nat :=
  match magnitude? x with
  | some (m, .ofNat e) => (m * Nat.pow 2 e, 1)
  | some (m, .negSucc e) => (m, Nat.pow 2 (e + 1))
  | none => (0, 1)

/-- The whole number nearest to `num / den`; of two, the even one. -/
def roundedQuotient (num den : Nat) : Nat :=
  let q := num / den
  let twice := 2 * (num % den)
  if twice < den then q
  else if den < twice then q + 1
  else if q % 2 = 0 then q else q + 1

/-- A number of seconds as whole nanoseconds, rounded to the nearest. -/
def nanoseconds (seconds : Float) : Nat :=
  let r := ratio seconds
  roundedQuotient (r.1 * 1000000000) r.2

end AviPlayback.Binary64
