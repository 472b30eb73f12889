import ServiceControl.Text.Shown
/-!
# Quoted texts

A text between double quotes for a message: the quote, the backslash, tab, line feed, carriage return and NUL as short
escapes, any other character that is not shown as `\u`, its code point in hexadecimal and curly brackets around it.  An
apostrophe needs no escape.
-/
namespace ServiceControl.Text

/-- The lower-case hexadecimal digits of a number. -/
def hexDigits (n : Nat) : List Char := Nat.toDigits 16 n

/-- One character inside the quotes. -/
def quotedChar (c : Char) : List Char :=
  match c with
  | '"' => ['\\', '"']
  | '\\' => ['\\', '\\']
  | '\t' => ['\\', 't']
  | '\n' => ['\\', 'n']
  | '\r' => ['\\', 'r']
  | '\x00' => ['\\', '0']
  | c => if isShown c then [c] else ['\\', 'u', '\x7b'] ++ hexDigits c.toNat ++ ['\x7d']

def quoted (s : String) : String := String.ofList ('"' :: s.toList.flatMap quotedChar ++ ['"'])

end ServiceControl.Text
