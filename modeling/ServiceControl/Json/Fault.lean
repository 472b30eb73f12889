import ServiceControl.Decimal.Shortest
import ServiceControl.Text.Quoted
import ServiceControl.Json.Numeral
/-!
# Why a JSON text does not give a record

Either the text is no JSON, or a value in it is not what the record asks for.
-/
namespace ServiceControl.Json

/-- How a double is written: positionally below 10^16 and with up to four zeros after the point. -/
def numberStyle : Decimal.Style := ⟨16, 4⟩

/-- A value met where one of another type was expected. -/
inductive Found
  | null
  | bool (value : Bool)
  | number (value : Number)
  | string (value : String)
  | sequence
  | map
  deriving BEq, Repr, Inhabited

def Found.text : Found → String
  | .null => "null"
  | .bool b => s!"boolean `{b}`"
  | .number (.integer i) => s!"integer `{i}`"
  | .number (.float x) => s!"floating point `{numberStyle.text x}`"
  | .string s => "string " ++ Text.quoted s
  | .sequence => "sequence"
  | .map => "map"

/-- What is wrong with a record's data. -/
inductive DataFault
  | wrongType (found : Found) (expected : String)
  | missingField (name : String)
  | repeatedField (name : String)
  /-- A list of field values with too few of them for a record of this description. -/
  | wrongLength (length : Nat) (expected : String)
  deriving BEq, Repr, Inhabited

def DataFault.detail : DataFault → String
  | .wrongType found expected => s!"invalid type: {found.text}, expected {expected}"
  | .missingField name => s!"missing field `{name}`"
  | .repeatedField name => s!"duplicate field `{name}`"
  | .wrongLength length expected => s!"invalid length {length}, expected {expected}"

inductive Fault
  | text (fault : TextFault)
  | data (fault : DataFault)
  deriving BEq, Repr, Inhabited

end ServiceControl.Json
