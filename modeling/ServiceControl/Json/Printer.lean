import ServiceControl.Json.Fault
import ServiceControl.Json.Value
/-!
# Writing JSON values

A value on one line without blanks.  In a string the quote, the backslash and the controls are escaped, by a letter where
JSON has one and else by four hexadecimal digits; every other character stands for itself.
-/
namespace ServiceControl.Json

/-- A control as `\u` and four digits. -/
def longEscape (c : Char) : List Char :=
  let digits := Text.hexDigits c.toNat
  ['\\', 'u'] ++ List.replicate (4 - digits.length) '0' ++ digits

def escapeChar (c : Char) : List Char :=
  match c with
  | '"' => ['\\', '"']
  | '\\' => ['\\', '\\']
  | '\x08' => ['\\', 'b']
  | '\x0c' => ['\\', 'f']
  | '\n' => ['\\', 'n']
  | '\r' => ['\\', 'r']
  | '\t' => ['\\', 't']
  | c => if c.toNat < 0x20 then longEscape c else [c]

def renderString (s : String) : List Char := '"' :: s.toList.flatMap escapeChar ++ ['"']

def Number.render : Number → List Char
  | .integer i => (toString i).toList
  | .float x => (numberStyle.text x).toList

mutual

/-- The written form of a value. -/
def Value.render : Value → List Char
  | .null => ['n', 'u', 'l', 'l']
  | .bool true => ['t', 'r', 'u', 'e']
  | .bool false => ['f', 'a', 'l', 's', 'e']
  | .number n => n.render
  | .string s => renderString s
  | .array [] => ['[', ']']
  | .array (v :: vs) => '[' :: v.render ++ renderItems vs
  | .object [] => ['\x7b', '\x7d']
  | .object ((k, v) :: ms) => '\x7b' :: renderString k ++ ':' :: v.render ++ renderMembers ms

/-- The items after the first, and the closing bracket. -/
def renderItems : List Value → List Char
  | [] => [']']
  | v :: vs => ',' :: v.render ++ renderItems vs

/-- The members after the first, and the closing bracket. -/
def renderMembers : NameMap Value → List Char
  | [] => ['\x7d']
  | (k, v) :: ms => ',' :: renderString k ++ ':' :: v.render ++ renderMembers ms

end

def Value.text (v : Value) : String := String.ofList v.render

end ServiceControl.Json
