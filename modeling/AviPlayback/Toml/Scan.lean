/-!
Reading a text from its front. A scan gives a value and the rest of the text, or nothing when the
text does not fit; `many` repeats a scan for as long as it fits.
-/
set_option autoImplicit false

namespace AviPlayback

abbrev Scan (α : Type) : Type := StateT (List Char) Option α

namespace Scan

variable {α : Type}

/-- Nothing fits. -/
def refuse : Scan α := fun _ => none

def require (condition : Bool) : Scan Unit := fun s => if condition then some ((), s) else none

/-- The next character, which stays. -/
def peek? : Scan (Option Char) := fun s => some (s.head?, s)

def one (kind : Char → Bool) : Scan Char
  | c :: rest => if kind c then some (c, rest) else none
  | [] => none

def exactly (text : List Char) : Scan Unit := fun s =>
  if text.isPrefixOf s then some ((), s.drop text.length) else none

def takeWhile (kind : Char → Bool) : Scan (List Char) := fun s =>
  some (s.takeWhile kind, s.dropWhile kind)

/-- All characters of a kind that come next, of which there is at least one. -/
def takeWhile1 (kind : Char → Bool) : Scan (List Char) := do
  let run ← takeWhile kind
  require !run.isEmpty
  return run

/-- A value, or nothing with the text as it was. -/
def optional (scan : Scan α) : Scan (Option α) := fun s =>
  match scan s with
  | some (a, rest) => some (some a, rest)
  | none => some (none, s)

def orElse (first second : Scan α) : Scan α := fun s => (first s).or (second s)

/-- Values for as long as they fit, no more of them than `fuel` has characters. -/
def upTo (scan : Scan α) : List Char → Scan (List α)
  | [] => pure []
  | _ :: fuel => fun s =>
    match scan s with
    | some (a, rest) => (upTo scan fuel rest).map fun (as, rest) => (a :: as, rest)
    | none => some ([], s)

/-- Values for as long as they fit. Each has to take something off the text. -/
def many (scan : Scan α) : Scan (List α) := fun s => upTo scan s s

/-- Values with something between each two; none at all is fine too. -/
def separated (scan : Scan α) (separator : Scan Unit) : Scan (List α) := do
  match ← optional scan with
  | none => return []
  | some first =>
    let rest ← many do separator; scan
    return first :: rest

/-- The value of a text that fits as a whole. -/
def whole? (scan : Scan α) (text : List Char) : Option α :=
  match scan text with
  | some (a, []) => some a
  | _ => none

end Scan

end AviPlayback
