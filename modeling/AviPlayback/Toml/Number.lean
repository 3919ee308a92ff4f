import AviPlayback.Number.Decimal
import AviPlayback.Toml.Scan
import AviPlayback.Toml.Value

/-!
Numbers in TOML: whole numbers of 64 bits in four bases, and floats, which always have a fraction
or an exponent.
-/
set_option autoImplicit false

namespace AviPlayback.Toml

def digitValue (c : Char) : Nat :=
  if c.isDigit then c.toNat - 48 else if 'a' ≤ c then c.toNat - 87 else c.toNat - 55

def isDigitOf (base : Nat) (c : Char) : Bool :=
  (c.isDigit || ('a' ≤ c && c ≤ 'f') || ('A' ≤ c && c ≤ 'F')) && digitValue c < base

def ofDigits (base : Nat) (digits : List Char) : Nat :=
  digits.foldl (fun n c => base * n + digitValue c) 0

/-- Digits with at most one underscore between each two. -/
def digitRun (base : Nat) : Scan (List Char) := do
  let first ← Scan.one (isDigitOf base)
  let rest ← Scan.many do
    let _ ← Scan.optional (.exactly ['_'])
    Scan.one (isDigitOf base)
  return first :: rest

def sign : Scan Bool := do
  match ← Scan.optional (Scan.one fun c => c == '+' || c == '-') with
  | some c => return c == '-'
  | none => return false

/-- The digits before the point. A zero stands alone. -/
def wholeDigits : Scan (List Char) := do
  match ← Scan.peek? with
  | some '0' => return [← Scan.one (· == '0')]
  | _ => digitRun 10

def fraction : Scan (List Char) := do
  Scan.exactly ['.']
  digitRun 10

def exponent : Scan Int := do
  let _ ← Scan.one fun c => c == 'e' || c == 'E'
  let negative ← sign
  let digits ← digitRun 10
  return if negative then -(ofDigits 10 digits : Int) else ofDigits 10 digits

def wholeNumber (value : Int) : Scan Value := do
  Scan.require (Int64.minValue.toInt ≤ value && value ≤ Int64.maxValue.toInt)
  return .integer value

/-- A float; one that would round to positive infinity is refused. -/
def roundedFloat (negative : Bool) (d : Decimal) : Scan Value := do
  Scan.require (negative || d.nearestBits != Binary64.infinityBits)
  return .float (d.toFloat negative)

def namedFloat : Scan Value := do
  let negative ← sign
  let bits ← Scan.orElse (do Scan.exactly ['i', 'n', 'f']; return Binary64.infinityBits)
    do Scan.exactly ['n', 'a', 'n']; return Binary64.infinityBits + Binary64.fractionCount / 2
  return .float (Binary64.ofMagnitude negative bits)

/-- A number in a base other than ten, after its mark. -/
def basedNumber : Scan Value := do
  Scan.exactly ['0']
  let base ← match ← Scan.one fun _ => true with
    | 'x' => pure 16
    | 'o' => pure 8
    | 'b' => pure 2
    | _ => Scan.refuse
  let digits ← digitRun base
  wholeNumber (ofDigits base digits)

def decimalNumber : Scan Value := do
  let negative ← sign
  let before ← wholeDigits
  let behind ← Scan.optional fraction
  let power ← Scan.optional exponent
  match behind, power with
  | none, none =>
    let n : Int := ofDigits 10 before
    wholeNumber (if negative then -n else n)
  | _, _ =>
    let behind := behind.getD []
    roundedFloat negative ⟨ofDigits 10 (before ++ behind), power.getD 0 - behind.length⟩

def number : Scan Value := .orElse basedNumber (.orElse namedFloat decimalNumber)

end AviPlayback.Toml
