import AviPlayback.Number.Decimal

/-!
How values are written in TOML. A string takes the plainest form that holds it as it is: between
double quotes, single quotes, or three of either; escapes are left for what no form holds.
-/
set_option autoImplicit false

namespace AviPlayback.Toml

/-- A float in positional notation; the sign of one that is no number is dropped. -/
def writeFloat (x : Float) : String :=
  if x.isNaN then "nan"
  else
    let sign := if Binary64.isNegative x then "-" else ""
    sign ++ match Binary64.magnitude? x with
      | none => "inf"
      | some (0, _) => "0.0"
      | some (m, e) => (Decimal.shortest m e).positional

def needsEscape (c : Char) : Bool := (c < ' ' && c != '\t' && c != '\n') || c == '\x7f'

/-- The marks that a string can be written between. -/
inductive Quotes
  | basic
  | literal
  | longBasic
  | longLiteral
  deriving DecidableEq, Repr

namespace Quotes

def marks : Quotes → String
  | basic => "\""
  | literal => "'"
  | longBasic => "\"\"\""
  | longLiteral => "'''"

/-- Whether line breaks can stand between the marks. -/
def isLong : Quotes → Bool
  | basic | literal => false
  | longBasic | longLiteral => true

/-- Whether characters can be escaped between the marks. -/
def hasEscapes : Quotes → Bool
  | basic | longBasic => true
  | literal | longLiteral => false

end Quotes

/-- The length of the longest run of a character; `run` of them stand before the text. -/
def longestRun (mark : Char) (run : Nat) : List Char → Nat
  | [] => run
  | c :: rest =>
    if c = mark then longestRun mark (run + 1) rest else max run (longestRun mark 0 rest)

/-- The first marks, plainest first, between which a string needs no escapes but that of a tab, or
else those that can hold anything. -/
def quotesFor (s : List Char) : Quotes :=
  let long := s.contains '\n'
  let backslash := s.contains '\\'
  let doubles := longestRun '"' 0 s
  let singles := longestRun '\'' 0 s
  if s.any needsEscape then if long then .longBasic else .basic
  else if !long && !backslash && doubles = 0 then .basic
  else if !long && singles = 0 then .literal
  else if !backslash && doubles ≤ 2 then .longBasic
  else if singles ≤ 2 then .longLiteral
  else if long then .longBasic
  else .basic

/-- The upper-case hexadecimal digits of a character below 256, in four places. -/
def fourDigits (c : Char) : List Char :=
  let digits := (Nat.toDigits 16 c.toNat).map Char.toUpper
  List.replicate (4 - digits.length) '0' ++ digits

/-- One character other than a double quote; between long marks a line break stays. -/
def escaped (long : Bool) (c : Char) : List Char :=
  match c with
  | '\x08' => ['\\', 'b']
  | '\t' => ['\\', 't']
  | '\n' => if long then ['\n'] else ['\\', 'n']
  | '\x0c' => ['\\', 'f']
  | '\r' => ['\\', 'r']
  | '\\' => ['\\', '\\']
  | c => if needsEscape c then '\\' :: 'u' :: fourDigits c else [c]

/-- A text with escapes. Of double quotes in a row only two stand as they are, and those between
long marks; `run` of them have been written last. -/
def escapedText (long : Bool) (run : Nat) : List Char → List Char
  | [] => []
  | '"' :: rest =>
    if long && run < 2 then '"' :: escapedText long (run + 1) rest
    else '\\' :: '"' :: escapedText long 0 rest
  | c :: rest => escaped long c ++ escapedText long 0 rest

/-- A string, with its marks. A line break behind long marks at the start does not count, so one
is put there before a text that has line breaks. -/
def writeText (text : String) : String :=
  let s := text.toList
  let quotes := quotesFor s
  let body := if quotes.hasEscapes then String.ofList (escapedText quotes.isLong 0 s) else text
  let opening := if quotes.isLong && s.contains '\n' then "\n" else ""
  quotes.marks ++ opening ++ body ++ quotes.marks

end AviPlayback.Toml
