import ProbeForest.Text.Printable
import ProbeForest.Text.Utf8

/-!
# Quoted text

A quotation stands between double quotes.  The quote, the backslash and four
controls have escapes of their own, a character without a shape is written by
its number, and a byte that is not part of any character is written in
hexadecimal.  An apostrophe stands for itself.
-/

namespace ProbeForest.Text

/-- A number in small hexadecimal digits, without leading zeros. -/
def hex (n : Nat) : String := String.ofList (Nat.toDigits 16 n)

/-- A byte as two hexadecimal digits, in small letters. -/
def hexByte (byte : UInt8) : String :=
  String.ofList [Nat.digitChar (byte.toNat / 16), Nat.digitChar (byte.toNat % 16)]

/-- A character as it is written inside a quotation. -/
def quoteChar : Char → String
  | '"' => "\\\""
  | '\\' => "\\\\"
  | '\n' => "\\n"
  | '\r' => "\\r"
  | '\t' => "\\t"
  | '\x00' => "\\0"
  | c => if isNumbered c then "\\u\x7b" ++ hex c.toNat ++ "\x7d" else c.toString

/-- A piece of bytes as it is written inside a quotation. -/
def Segment.quoted : Segment → String
  | .char c => quoteChar c
  | .stray byte => "\\x" ++ (hexByte byte).toUpper

/-- A text in quotes. -/
def quote (text : String) : String :=
  "\"" ++ String.join (text.toList.map quoteChar) ++ "\""

/-- Bytes in quotes, whether they are text or not. -/
def quoteBytes (bytes : List UInt8) : String :=
  "\"" ++ String.join ((segments bytes).map Segment.quoted) ++ "\""

end ProbeForest.Text
