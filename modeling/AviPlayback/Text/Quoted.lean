import AviPlayback.Text.CharClass

/-!
Quoted text: a string between double quotes, with the quote, the backslash, the common controls
and every character without a glyph of its own escaped.
-/
namespace AviPlayback.Text

/-- The lower-case hexadecimal digits of a number, without leading zeros. -/
def hexDigits (n : Nat) : String :=
  String.ofList (Nat.toDigits 16 n)

/-- The escape that names a character by its code point. -/
def escapeCodePoint (c : Char) : String :=
  "\\u\x7b" ++ hexDigits c.toNat ++ "\x7d"

def quoteChar (c : Char) : String :=
  match c with
  | '\x00' => "\\0"
  | '\t' => "\\t"
  | '\r' => "\\r"
  | '\n' => "\\n"
  | '"' => "\\\""
  | '\\' => "\\\\"
  | c => if isGraphemeExtend c || !isPrintable c then escapeCodePoint c else c.toString

def quoted (s : String) : String :=
  "\"" ++ s.foldl (fun out c => out ++ quoteChar c) "" ++ "\""

end AviPlayback.Text
