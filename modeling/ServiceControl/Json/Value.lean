import ServiceControl.NameMap
/-!
# JSON values

Numbers keep whether they are integers: an integer lies in the range of a signed or an unsigned 64-bit word, and every
other number is a double.  An object lists its members in the order in which their keys first occurred.
-/
namespace ServiceControl.Json

inductive Number
  | integer (value : Int)
  | float (value : Float)
  deriving BEq, Repr, Inhabited

inductive Value
  | null
  | bool (value : Bool)
  | number (value : Number)
  | string (value : String)
  | array (items : List Value)
  | object (members : List (String × Value))
  deriving BEq, Repr, Inhabited

namespace Value

/-- The member of an object under a key. -/
def get? (key : String) : Value → Option Value
  | .object ms => NameMap.find? key ms
  | _ => none

def string? : Value → Option String
  | .string s => some s
  | _ => none

def bool? : Value → Option Bool
  | .bool b => some b
  | _ => none

def items? : Value → Option (List Value)
  | .array vs => some vs
  | _ => none

def members? : Value → Option (NameMap Value)
  | .object ms => some ms
  | _ => none

/-- A number that is an integer and not negative. -/
def nat? : Value → Option Nat
  | .number (.integer (.ofNat n)) => some n
  | _ => none

end Value

end ServiceControl.Json
