import GroundLink.Text.Escaped
import GroundLink.Text.Numeral

/-!
# Quoted text

A text in double quotes, as messages and lists show it.  The quote, the backslash and the common
controls have short escapes; other characters without a shape of their own are written by their
numbers.
-/

namespace GroundLink.Text

/-- A character inside quotes. -/
def quoteChar (c : Char) : List Char :=
  match c with
  | '"' => ['\\', '"']
  | '\\' => ['\\', '\\']
  | '\t' => ['\\', 't']
  | '\n' => ['\\', 'n']
  | '\r' => ['\\', 'r']
  | '\x00' => ['\\', '0']
  | _ =>
    if isEscaped c.toNat then
      '\\' :: 'u' :: '\x7b' :: (Nat.toDigits 16 c.toNat ++ ['\x7d'])
    else [c]

def quote (s : String) : String :=
  String.ofList ('"' :: (s.toList.flatMap quoteChar ++ ['"']))

/-- Items in brackets, separated by commas. -/
def bracketed (items : List String) : String :=
  "[" ++ ", ".intercalate items ++ "]"

/-- Texts in quotes and brackets. -/
def quoteList (items : List String) : String :=
  bracketed (items.map quote)

end GroundLink.Text
