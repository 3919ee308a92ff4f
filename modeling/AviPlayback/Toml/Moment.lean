import AviPlayback.Toml.Scan

/-!
Dates and times in TOML. They are checked against the calendar and the clock; their values are not
kept.
-/
set_option autoImplicit false

namespace AviPlayback.Toml

def fixedDigits (count : Nat) : Scan Nat := fun s =>
  let digits := s.take count
  if digits.length = count ∧ digits.all Char.isDigit then
    some (digits.foldl (fun n c => 10 * n + (c.toNat - 48)) 0, s.drop count)
  else none

def isLeapYear (year : Nat) : Bool := year % 4 = 0 && (year % 100 ≠ 0 || year % 400 = 0)

def daysIn (year month : Nat) : Nat :=
  match month with
  | 2 => if isLeapYear year then 29 else 28
  | 4 | 6 | 9 | 11 => 30
  | _ => 31

def date : Scan Unit := do
  let year ← fixedDigits 4
  Scan.exactly ['-']
  let month ← fixedDigits 2
  Scan.exactly ['-']
  let day ← fixedDigits 2
  Scan.require (1 ≤ month && month ≤ 12 && 1 ≤ day && day ≤ daysIn year month)

def hoursAndMinutes : Scan Unit := do
  let hour ← fixedDigits 2
  Scan.exactly [':']
  let minute ← fixedDigits 2
  Scan.require (hour ≤ 23 && minute ≤ 59)

/-- A time of day with seconds, of which a leap second is one, and perhaps parts of them. -/
def timeOfDay : Scan Unit := do
  hoursAndMinutes
  Scan.exactly [':']
  let second ← fixedDigits 2
  Scan.require (second ≤ 60)
  let _ ← Scan.optional do
    Scan.exactly ['.']
    Scan.takeWhile1 Char.isDigit

def zone : Scan Unit :=
  .orElse (do let _ ← Scan.one fun c => c == 'Z' || c == 'z')
    do
      let _ ← Scan.one fun c => c == '+' || c == '-'
      hoursAndMinutes

/-- A date, a time, or both, and then perhaps with a zone. -/
def moment : Scan Unit :=
  .orElse timeOfDay do
    date
    let _ ← Scan.optional do
      let _ ← Scan.one fun c => c == 'T' || c == 't' || c == ' '
      timeOfDay
      Scan.optional zone

end AviPlayback.Toml
