import GraphDriver.Text.Printable
import GraphDriver.Text.Hex

/-!
# Quoted text

Strings as diagnostic messages show them: between double quotes, with a backslash before quotes and
backslashes, short escapes for the common control characters, and the code point in braces for
every other character that is not printable.
-/

namespace GraphDriver.Text

/-- The hexadecimal digits of a number without leading zeros. -/
def hexNumber (n : Nat) : String := String.ofList (Nat.toDigits 16 n)

/-- How one character stands between the quotes. -/
def escape (c : Char) : String :=
  match c with
  | '"' => "\\\""
  | '\\' => "\\\\"
  | '\n' => "\\n"
  | '\r' => "\\r"
  | '\t' => "\\t"
  | '\x00' => "\\0"
  | _ => if isPrintable c then c.toString else "\\u\x7b" ++ hexNumber c.toNat ++ "\x7d"

/-- A string in quotes. -/
def quoted (s : String) : String := "\"" ++ String.join (s.toList.map escape) ++ "\""

end GraphDriver.Text
