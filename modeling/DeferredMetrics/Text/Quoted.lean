import DeferredMetrics.Text.Printable

set_option autoImplicit false

/-! # Quoted text

A text in a debug rendering stands between double quotes. The quote, the backslash and the usual
four controls have escapes of two characters, every other character that does not show on its own
is written by its code point in lower-case hexadecimal, and all else stands as it is. -/

namespace DeferredMetrics

/-- The digits of `n` in lower-case hexadecimal. -/
def hexDigits (n : Nat) : List Char := Nat.toDigits 16 n

/-- How a character is written between double quotes. -/
def quoteChar (c : Char) : List Char :=
  match c with
  | '"' => ['\\', '"']
  | '\\' => ['\\', '\\']
  | '\n' => ['\\', 'n']
  | '\t' => ['\\', 't']
  | '\r' => ['\\', 'r']
  | '\x00' => ['\\', '0']
  | c => if isPrintable c then [c] else ['\\', 'u', '\x7b'] ++ hexDigits c.toNat ++ ['\x7d']

/-- The text between double quotes, with its escapes. -/
def quote (s : String) : String :=
  String.ofList (['"'] ++ s.toList.flatMap quoteChar ++ ['"'])

end DeferredMetrics
