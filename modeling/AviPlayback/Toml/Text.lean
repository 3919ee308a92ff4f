import AviPlayback.Toml.Scan

/-!
Text in TOML: blanks, comments, line ends, keys and the four kinds of strings.
-/
set_option autoImplicit false

namespace AviPlayback.Toml

def isBlank (c : Char) : Bool := c == ' ' || c == '\t'

/-- Characters that may stand for themselves: all but the controls other than the tab. -/
def isPlain (c : Char) : Bool := c == '\t' || ('\x20' ≤ c && c != '\x7f')

def isBare (c : Char) : Bool := c.isAlphanum || c == '-' || c == '_'

def lineBreak : Scan Unit := .orElse (.exactly ['\n']) (.exactly ['\r', '\n'])

/-- The end of the text. -/
def textEnd : Scan Unit := fun s => if s.isEmpty then some ((), s) else none

def blanks : Scan Unit := do
  let _ ← Scan.takeWhile isBlank

def comment : Scan Unit := do
  Scan.exactly ['#']
  let _ ← Scan.takeWhile isPlain

/-- The end of a line, after blanks and a comment. -/
def lineEnd : Scan Unit := do
  blanks
  let _ ← Scan.optional comment
  Scan.orElse lineBreak textEnd

/-- Blanks, line breaks and comments, each comment with its line break. -/
def gap : Scan Unit := do
  let _ ← Scan.many (.orElse (do let _ ← Scan.takeWhile1 isBlank)
    (.orElse lineBreak do comment; lineBreak))

/-! ### Strings -/

/-- The character of a hexadecimal code point with so many digits. -/
def codePoint (count : Nat) : Scan Char := fun s =>
  let digits := s.take count
  let code := digits.foldl (fun n c => 16 * n + hexValue c) 0
  if digits.length = count ∧ digits.all isHex ∧ code.isValidChar then
    some (Char.ofNat code, s.drop count)
  else none
where
  /-- Hexadecimal digits of either case. -/
  isHex (c : Char) : Bool := c.isDigit || ('a' ≤ c && c ≤ 'f') || ('A' ≤ c && c ≤ 'F')
  /-- The value of a hexadecimal digit. -/
  hexValue (c : Char) : Nat :=
    if c.isDigit then c.toNat - 48 else if 'a' ≤ c then c.toNat - 87 else c.toNat - 55

def escape : Scan Char := do
  Scan.exactly ['\\']
  match ← Scan.one fun _ => true with
  | 'b' => return '\x08'
  | 't' => return '\t'
  | 'n' => return '\n'
  | 'f' => return '\x0c'
  | 'r' => return '\r'
  | '"' => return '"'
  | '\\' => return '\\'
  | 'u' => codePoint 4
  | 'U' => codePoint 8
  | _ => Scan.refuse

def basicString : Scan (List Char) := do
  Scan.exactly ['"']
  let pieces ← Scan.many (.orElse (Scan.takeWhile1 fun c => isPlain c && c != '"' && c != '\\')
    do return [← escape])
  Scan.exactly ['"']
  return pieces.flatten

def literalString : Scan (List Char) := do
  Scan.exactly ['\'']
  let text ← Scan.takeWhile fun c => isPlain c && c != '\''
  Scan.exactly ['\'']
  return text

/-- One or two quotes inside a string between triple quotes. -/
def innerQuotes (quote : Char) : Scan (List Char) := do
  let run ← Scan.takeWhile1 (· == quote)
  Scan.require (run.length < 3)
  return run

/-- The triple quotes at the end of a string; up to two more before them belong to it. -/
def outerQuotes (quote : Char) : Scan (List Char) := do
  let run ← Scan.takeWhile (· == quote)
  Scan.require (3 ≤ run.length && run.length ≤ 5)
  return run.drop 3

/-- A string between triple quotes, made of pieces. A line break right behind the opening quotes is
dropped, and the others are plain line feeds. -/
def longString (quote : Char) (piece : Scan (List Char)) : Scan (List Char) := do
  Scan.exactly [quote, quote, quote]
  let _ ← Scan.optional lineBreak
  let pieces ← Scan.many (.orElse piece (.orElse (do lineBreak; return ['\n']) (innerQuotes quote)))
  let last ← outerQuotes quote
  return pieces.flatten ++ last

/-- A backslash at the end of a line, which joins it with the next text. -/
def joint : Scan (List Char) := do
  Scan.exactly ['\\']
  blanks
  lineBreak
  let _ ← Scan.many (.orElse (do let _ ← Scan.takeWhile1 isBlank) lineBreak)
  return []

def longBasicString : Scan (List Char) :=
  longString '"' (.orElse (Scan.takeWhile1 fun c => isPlain c && c != '"' && c != '\\')
    (.orElse joint do return [← escape]))

def longLiteralString : Scan (List Char) :=
  longString '\'' (Scan.takeWhile1 fun c => isPlain c && c != '\'')

def string : Scan (List Char) := fun s =>
  if ['"', '"', '"'].isPrefixOf s then longBasicString s
  else if ['\'', '\'', '\''].isPrefixOf s then longLiteralString s
  else (basicString.orElse literalString) s

/-! ### Keys -/

def maxDepth : Nat := 80

def keyPart : Scan String := do
  blanks
  let name ← Scan.orElse (Scan.takeWhile1 isBare) (.orElse basicString literalString)
  blanks
  return String.ofList name

def key : Scan (List String) := do
  let parts ← Scan.separated keyPart (.exactly ['.'])
  Scan.require (!parts.isEmpty && parts.length < maxDepth)
  return parts

end AviPlayback.Toml
