import ServiceControl.Json.Fault
import ServiceControl.Json.Token
/-!
# Reading JSON values

A value is read token by token with the containers that are still open on a stack, so a reader is a recursion on the
tokens.  `readValue` keeps what it reads and holds the nesting within `deepest`; `skipValue` passes over a value of any
depth and looks at nothing but its form.  Either returns the tokens after the value, which are fewer
(`readValue_length`, `skipValue_length`).
-/
namespace ServiceControl.Json

abbrev Result (α : Type) := Except Fault (α × List Token)

def truncated {α : Type} : Except Fault α := .error (.text .truncated)

def malformed {α : Type} : Except Fault α := .error (.text .malformed)

/-- The most containers that may be open at once in a value that is kept. -/
def deepest : Nat := 127

/-- The text of a string token. -/
def keepString (pieces : List Piece) (ending : Option TextFault) : Except Fault String :=
  match Piece.decode ending pieces with
  | .ok cs => .ok (String.ofList cs)
  | .error fault => .error (.text fault)

def keepNumeral (n : Numeral) : Except Fault Number :=
  match n.number? with
  | some number => .ok number
  | none => malformed

/-- A container of which a part was read, latest first. -/
inductive Frame
  | array (items : List Value)
  | object (members : NameMap Value) (key : String)
  deriving BEq, Repr, Inhabited

/-- What must come next. -/
inductive Expected
  | value
  /-- Just after an opening bracket: a value or the end. -/
  | firstItem
  /-- Just after an opening curly bracket: a key or the end. -/
  | firstKey
  | key
  | colon
  /-- After a value in a container: a comma or the end. -/
  | more
  deriving DecidableEq, Repr, Inhabited

/-- A value that is complete, or the containers that are still open. -/
inductive Progress
  | complete (value : Value)
  | pending (stack : List Frame) (expected : Expected)

/-- Puts a complete value into the innermost container. -/
def accept (v : Value) : List Frame → Progress
  | [] => .complete v
  | .array items :: stack => .pending (.array (v :: items) :: stack) .more
  | .object members key :: stack => .pending (.object (NameMap.put key v members) key :: stack) .more

/-- Closes the innermost container. -/
def close (stack : List Frame) : Progress :=
  match stack with
  | .array items :: stack => accept (.array items.reverse) stack
  | .object members _ :: stack => accept (.object members) stack
  | [] => .pending [] .value

/-- A token where a value must begin. -/
def beginValue (outer : Nat) (stack : List Frame) : Token → Except Fault Progress
  | .null => .ok (accept .null stack)
  | .bool b => .ok (accept (.bool b) stack)
  | .numeral n => do return accept (.number (← keepNumeral n)) stack
  | .string ps => do return accept (.string (← keepString ps none)) stack
  | .brokenString ps fault => do return accept (.string (← keepString ps (some fault))) stack
  | .broken fault _ => .error (.text fault)
  | .opening .square =>
    if outer + stack.length < deepest then .ok (.pending (.array [] :: stack) .firstItem) else malformed
  | .opening .curly =>
    if outer + stack.length < deepest then .ok (.pending (.object [] "" :: stack) .firstKey) else malformed
  | _ => malformed

/-- A token where a key must begin. -/
def beginKey (stack : List Frame) : Token → Except Fault Progress
  | .string ps => do
    let key ← keepString ps none
    match stack with
    | .object members _ :: stack => return .pending (.object members key :: stack) .colon
    | _ => malformed
  | .brokenString ps fault => do
    let _ ← keepString ps (some fault)
    malformed
  | _ => malformed

/-- Takes one token. -/
def readToken (outer : Nat) (stack : List Frame) : Expected → Token → Except Fault Progress
  | .value, t => beginValue outer stack t
  | .firstItem, .closing .square => .ok (close stack)
  | .firstItem, t => beginValue outer stack t
  | .firstKey, .closing .curly => .ok (close stack)
  | .firstKey, t => beginKey stack t
  | .key, t => beginKey stack t
  | .colon, .colon => .ok (.pending stack .value)
  | .colon, _ => malformed
  | .more, t =>
    match stack, t with
    | .array _ :: _, .comma => .ok (.pending stack .value)
    | .array _ :: _, .closing .square => .ok (close stack)
    | .object _ _ :: _, .comma => .ok (.pending stack .key)
    | .object _ _ :: _, .closing .curly => .ok (close stack)
    | _, _ => malformed

/-- Reads on until the outermost value is complete; `outer` containers are open around it. -/
def readFrom (outer : Nat) : List Frame → Expected → List Token → Result Value
  | _, _, [] => truncated
  | stack, expected, t :: ts =>
    match readToken outer stack expected t with
    | .error fault => .error fault
    | .ok (.complete v) => .ok (v, ts)
    | .ok (.pending stack expected) => readFrom outer stack expected ts

/-- Reads one value with `outer` containers open around it. -/
def readValue (outer : Nat) (ts : List Token) : Result Value := readFrom outer [] .value ts

theorem readFrom_length {outer : Nat} {v : Value} {rest : List Token} :
    ∀ {ts : List Token} {stack : List Frame} {expected : Expected},
      readFrom outer stack expected ts = .ok (v, rest) → rest.length < ts.length
  | [], _, _, h => by cases h
  | t :: ts, stack, expected, h => by
    unfold readFrom at h
    split at h
    · cases h
    · cases h
      simp
    · have := readFrom_length h
      simp only [List.length_cons]
      omega

theorem readValue_length {outer : Nat} {v : Value} {ts rest : List Token} (h : readValue outer ts = .ok (v, rest)) :
    rest.length < ts.length := readFrom_length h

/-! ## Passing over a value -/

/-- A token where a value must begin, when nothing is kept: what must come next, and the open brackets. -/
def passValue (stack : List Bracket) : Token → Except Fault (List Bracket × Expected)
  | .null | .bool _ | .numeral _ | .string _ => .ok (stack, .more)
  | .brokenString _ fault => .error (.text fault)
  | .broken _ fault => .error (.text fault)
  | .opening .square => .ok (.square :: stack, .firstItem)
  | .opening .curly => .ok (.curly :: stack, .firstKey)
  | _ => malformed

def passKey (stack : List Bracket) : Token → Except Fault (List Bracket × Expected)
  | .string _ => .ok (stack, .colon)
  | .brokenString _ fault => .error (.text fault)
  | _ => malformed

def passToken (stack : List Bracket) : Expected → Token → Except Fault (List Bracket × Expected)
  | .value, t => passValue stack t
  | .firstItem, .closing .square => .ok (stack.tail, .more)
  | .firstItem, t => passValue stack t
  | .firstKey, .closing .curly => .ok (stack.tail, .more)
  | .firstKey, t => passKey stack t
  | .key, t => passKey stack t
  | .colon, .colon => .ok (stack, .value)
  | .colon, _ => malformed
  | .more, t =>
    match stack, t with
    | .square :: _, .comma => .ok (stack, .value)
    | .square :: _, .closing .square => .ok (stack.tail, .more)
    | .curly :: _, .comma => .ok (stack, .key)
    | .curly :: _, .closing .curly => .ok (stack.tail, .more)
    | _, _ => malformed

/-- Passes on until the outermost value is complete: nothing is open and nothing but more could come. -/
def skipFrom : List Bracket → Expected → List Token → Except Fault (List Token)
  | _, _, [] => truncated
  | stack, expected, t :: ts =>
    match passToken stack expected t with
    | .error fault => .error fault
    | .ok ([], .more) => .ok ts
    | .ok (stack, expected) => skipFrom stack expected ts

/-- Passes over one value. -/
def skipValue (ts : List Token) : Except Fault (List Token) := skipFrom [] .value ts

theorem skipFrom_length {rest : List Token} : ∀ {ts : List Token} {stack : List Bracket} {expected : Expected},
    skipFrom stack expected ts = .ok rest → rest.length < ts.length
  | [], _, _, h => by cases h
  | t :: ts, stack, expected, h => by
    unfold skipFrom at h
    split at h
    · cases h
    · cases h
      simp
    · have := skipFrom_length h
      simp only [List.length_cons]
      omega

theorem skipValue_length {ts rest : List Token} (h : skipValue ts = .ok rest) : rest.length < ts.length :=
  skipFrom_length h

/-! ## Whole texts -/

/-- Reads a text that holds one value and nothing else. -/
def parse (s : String) : Except Fault Value :=
  match readValue 0 (tokens s.toList) with
  | .error fault => .error fault
  | .ok (v, []) => .ok v
  | .ok (_, _ :: _) => malformed

end ServiceControl.Json
