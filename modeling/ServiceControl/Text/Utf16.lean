/-!
# UTF-16

Code units of a text and back.  Decoding never fails: a unit of an unpaired surrogate becomes U+FFFD.
-/
namespace ServiceControl.Text

/-- The code units of one character: itself below U+10000, else a surrogate pair. -/
def unitsOf (c : Char) : List Nat :=
  if c.toNat < 0x10000 then [c.toNat]
  else [0xD800 + (c.toNat - 0x10000) / 0x400, 0xDC00 + (c.toNat - 0x10000) % 0x400]

def encodeUtf16 (cs : List Char) : List Nat := cs.flatMap unitsOf

def isHighSurrogate (u : Nat) : Bool := 0xD800 ≤ u && u < 0xDC00

def isLowSurrogate (u : Nat) : Bool := 0xDC00 ≤ u && u < 0xE000

/-- The code point of a surrogate pair. -/
def pairPoint (high low : Nat) : Nat := 0x10000 + (high - 0xD800) * 0x400 + (low - 0xDC00)

/-- The character that stands for what cannot be decoded. -/
def replacement : Char := '\uFFFD'

/-- Decodes code units; each unit of an unpaired surrogate becomes U+FFFD. -/
def decodeUtf16 : List Nat → List Char
  | [] => []
  | [u] => [if isHighSurrogate u || isLowSurrogate u then replacement else Char.ofNat u]
  | u :: v :: us =>
    if isHighSurrogate u && isLowSurrogate v then Char.ofNat (pairPoint u v) :: decodeUtf16 us
    else (if isHighSurrogate u || isLowSurrogate u then replacement else Char.ofNat u) :: decodeUtf16 (v :: us)

/-- The longest beginning without a NUL: what a reader of a NUL-terminated text sees of it. -/
def upToNul (cs : List Char) : List Char := cs.takeWhile (· ≠ '\x00')

/-- A text as a NUL-terminated one: it may end in a NUL of its own and holds no other. -/
def terminated? (cs : List Char) : Option (List Char) :=
  match cs.dropWhile (· ≠ '\x00') with
  | [] | ['\x00'] => some (upToNul cs)
  | _ => none

end ServiceControl.Text
