import ServiceControl.Config
import ServiceControl.Json.Printer
import ServiceControl.Json.Reader
/-!
# Configurations as JSON

A configuration is written as an object with eight members.  It is read from an object, whose members may come in any
order and may be absent but for the name, or from an array of their values in order, the last ones of which may be
missing.  Members that no field has are passed over.  Reading goes once from left to right, and the first fault counts.
-/
namespace ServiceControl.ServiceConfig

open Json

inductive Field
  | name
  | displayName
  | description
  | userName
  | arguments
  | executable
  | options
  | restartOnFailure
  deriving DecidableEq, Repr, Inhabited

namespace Field

def all : List Field :=
  [name, displayName, description, userName, arguments, executable, options, restartOnFailure]

def key : Field → String
  | name => "name"
  | displayName => "display_name"
  | description => "description"
  | userName => "user_name"
  | arguments => "arguments"
  | executable => "executable"
  | options => "options"
  | restartOnFailure => "restart_on_failure"

def ofKey? (k : String) : Option Field := all.find? fun f => f.key == k

theorem ofKey?_key (f : Field) : ofKey? f.key = some f := by cases f <;> decide

end Field

/-! ## Writing -/

def optional : Option String → Value
  | some s => .string s
  | none => .null

def fieldValue (c : ServiceConfig) : Field → Value
  | .name => .string c.name
  | .displayName => optional c.displayName
  | .description => .string c.description
  | .userName => optional c.userName
  | .arguments => .array (c.arguments.map .string)
  | .executable => optional c.executable
  | .options => .object c.options
  | .restartOnFailure => .bool c.restartOnFailure

/-- A configuration as an object; the context is left out. -/
def toJson (c : ServiceConfig) : Value := .object (Field.all.map fun f => (f.key, c.fieldValue f))

/-! ## Reading values of one type -/

/-- What a token says that cannot begin a value of the wanted type. -/
def refuse {α : Type} (expected : String) : Token → Except Fault α
  | .null => wrong .null
  | .bool b => wrong (.bool b)
  | .numeral n => do wrong (.number (← keepNumeral n))
  | .string ps => do wrong (.string (← keepString ps none))
  | .brokenString ps fault => do wrong (.string (← keepString ps (some fault)))
  | .broken fault _ => .error (.text fault)
  | .opening .square => wrong .sequence
  | .opening .curly => wrong .map
  | _ => malformed
where
  wrong (found : Found) : Except Fault α := .error (.data (.wrongType found expected))

def readString (expected : String) : List Token → Except Fault (String × List Token)
  | [] => truncated
  | .string ps :: ts => do return (← keepString ps none, ts)
  | .brokenString ps fault :: ts => do return (← keepString ps (some fault), ts)
  | t :: _ => refuse expected t

def readOptional (expected : String) : List Token → Except Fault (Option String × List Token)
  | .null :: ts => .ok (none, ts)
  | ts => do
    let (s, rest) ← readString expected ts
    return (some s, rest)

def readBool : List Token → Except Fault (Bool × List Token)
  | [] => truncated
  | .bool b :: ts => .ok (b, ts)
  | t :: _ => refuse "a boolean" t

/-- The strings of an array after the first of them. -/
def readMoreStrings : List Token → Except Fault (List String × List Token)
  | [] => truncated
  | .closing .square :: ts => .ok ([], ts)
  | .comma :: .string ps :: ts => do
    let s ← keepString ps none
    let (rest, ts) ← readMoreStrings ts
    return (s :: rest, ts)
  | [.comma] => truncated
  | .comma :: t :: _ => refuse "a string" t
  | _ => malformed

def readStrings : List Token → Except Fault (List String × List Token)
  | [] => truncated
  | .opening .square :: .closing .square :: ts => .ok ([], ts)
  | .opening .square :: ts => do
    let (s, ts) ← readString "a string" ts
    let (rest, ts) ← readMoreStrings ts
    return (s :: rest, ts)
  | t :: _ => refuse "a sequence" t

/-- An object that is read one container deep. -/
def readOptions (ts : List Token) : Except Fault (NameMap Value × List Token) :=
  match ts with
  | [] => truncated
  | .opening .curly :: _ => do
    match ← readValue 1 ts with
    | (.object members, rest) => return (members, rest)
    | _ => malformed
  | t :: _ => refuse "a map" t

/-! ## Reading the record -/

/-- Reads the value of a field into a configuration. -/
def readField (c : ServiceConfig) (f : Field) (ts : List Token) : Except Fault (ServiceConfig × List Token) :=
  match f with
  | .name => do let (v, ts) ← readString "a string" ts; return ({ c with name := v }, ts)
  | .displayName => do let (v, ts) ← readOptional "a string" ts; return ({ c with displayName := v }, ts)
  | .description => do let (v, ts) ← readString "a string" ts; return ({ c with description := v }, ts)
  | .userName => do let (v, ts) ← readOptional "a string" ts; return ({ c with userName := v }, ts)
  | .arguments => do let (v, ts) ← readStrings ts; return ({ c with arguments := v }, ts)
  | .executable => do let (v, ts) ← readOptional "path string" ts; return ({ c with executable := v }, ts)
  | .options => do let (v, ts) ← readOptions ts; return ({ c with options := v }, ts)
  | .restartOnFailure => do let (v, ts) ← readBool ts; return ({ c with restartOnFailure := v }, ts)

def takeColon : List Token → Except Fault (List Token)
  | [] => truncated
  | .colon :: ts => .ok ts
  | _ => malformed

/-- The next key of an object, or none where the object ends. -/
def takeKey (first : Bool) (ts : List Token) : Except Fault (Option String × List Token) :=
  match ts, first with
  | [], _ => truncated
  | .closing .curly :: ts, _ => .ok (none, ts)
  | .comma :: ts, false => keyAt ts
  | ts, true => keyAt ts
  | _, false => malformed
where
  keyAt : List Token → Except Fault (Option String × List Token)
    | [] => truncated
    | .string ps :: ts => do return (some (← keepString ps none), ts)
    | .brokenString ps fault :: ts => do return (some (← keepString ps (some fault)), ts)
    | _ => malformed

/-- A configuration of which a part was read, and the fields that were. -/
structure Draft where
  config : ServiceConfig := { name := "" }
  seen : List Field := []

def Draft.readMember (d : Draft) (key : String) (ts : List Token) : Except Fault (Draft × List Token) :=
  match Field.ofKey? key with
  | none => do
    let ts ← skipValue (← takeColon ts)
    return (d, ts)
  | some f =>
    if f ∈ d.seen then .error (.data (.repeatedField f.key))
    else do
      let (c, ts) ← readField d.config f (← takeColon ts)
      return (⟨c, f :: d.seen⟩, ts)

/-- A configuration needs a name. -/
def Draft.complete (d : Draft) : Except Fault ServiceConfig :=
  if .name ∈ d.seen then .ok d.config else .error (.data (.missingField Field.name.key))

/-! Each reader takes one token at least. -/

theorem bind_eq_ok {ε α β : Type} {x : Except ε α} {f : α → Except ε β} {b : β} :
    (x >>= f) = .ok b ↔ ∃ a, x = .ok a ∧ f a = .ok b := by
  cases x <;> simp [bind, Except.bind]

theorem refuse_ne_ok {α : Type} {expected : String} {t : Token} {a : α} : refuse expected t ≠ .ok a := by
  intro h
  unfold refuse at h
  split at h
  all_goals first
    | cases h
    | (obtain ⟨_, _, h⟩ := bind_eq_ok.1 h; cases h)

theorem readString_length {expected s : String} {ts rest : List Token} (h : readString expected ts = .ok (s, rest)) :
    rest.length < ts.length := by
  unfold readString at h
  split at h
  case h_4 => exact absurd h refuse_ne_ok
  case h_1 => cases h
  all_goals
    obtain ⟨_, _, h⟩ := bind_eq_ok.1 h
    cases h
    simp

theorem readOptional_length {expected : String} {s : Option String} {ts rest : List Token}
    (h : readOptional expected ts = .ok (s, rest)) : rest.length < ts.length := by
  unfold readOptional at h
  split at h
  · cases h
    simp
  · obtain ⟨_, hs, h⟩ := bind_eq_ok.1 h
    cases h
    exact readString_length hs

theorem readBool_length {b : Bool} {ts rest : List Token} (h : readBool ts = .ok (b, rest)) :
    rest.length < ts.length := by
  unfold readBool at h
  split at h
  · cases h
  · cases h
    simp
  · exact absurd h refuse_ne_ok

theorem readMoreStrings_length {ss : List String} {ts rest : List Token} (h : readMoreStrings ts = .ok (ss, rest)) :
    rest.length < ts.length := by
  fun_induction readMoreStrings ts generalizing ss with
  | case1 => cases h
  | case2 => cases h; simp
  | case3 ps ts ih =>
    obtain ⟨_, _, h⟩ := bind_eq_ok.1 h
    obtain ⟨_, hr, h⟩ := bind_eq_ok.1 h
    cases h
    have := ih hr
    simp only [List.length_cons]
    omega
  | case4 => cases h
  | case5 => exact absurd h refuse_ne_ok
  | case6 => cases h

theorem readStrings_length {ss : List String} {ts rest : List Token} (h : readStrings ts = .ok (ss, rest)) :
    rest.length < ts.length := by
  unfold readStrings at h
  split at h
  · cases h
  · cases h
    simp only [List.length_cons]
    omega
  · obtain ⟨_, hs, h⟩ := bind_eq_ok.1 h
    obtain ⟨_, hm, h⟩ := bind_eq_ok.1 h
    cases h
    have := readString_length hs
    have := readMoreStrings_length hm
    simp only [List.length_cons]
    omega
  · exact absurd h refuse_ne_ok

theorem readOptions_length {ms : NameMap Value} {ts rest : List Token}
    (h : readOptions ts = .ok (ms, rest)) : rest.length < ts.length := by
  unfold readOptions at h
  split at h
  · cases h
  · obtain ⟨_, hv, h⟩ := bind_eq_ok.1 h
    split at h <;> cases h
    exact readValue_length hv
  · exact absurd h refuse_ne_ok

theorem readField_length {c d : ServiceConfig} {f : Field} {ts rest : List Token}
    (h : readField c f ts = .ok (d, rest)) : rest.length < ts.length := by
  cases f <;> (obtain ⟨_, hv, h⟩ := bind_eq_ok.1 h; cases h)
  · exact readString_length hv
  · exact readOptional_length hv
  · exact readString_length hv
  · exact readOptional_length hv
  · exact readStrings_length hv
  · exact readOptional_length hv
  · exact readOptions_length hv
  · exact readBool_length hv

theorem takeColon_length {ts rest : List Token} (h : takeColon ts = .ok rest) : rest.length < ts.length := by
  unfold takeColon at h
  split at h <;> cases h
  simp

theorem readMember_length {d e : Draft} {key : String} {ts rest : List Token}
    (h : d.readMember key ts = .ok (e, rest)) : rest.length < ts.length := by
  unfold Draft.readMember at h
  split at h
  · obtain ⟨_, hc, h⟩ := bind_eq_ok.1 h
    obtain ⟨_, hv, h⟩ := bind_eq_ok.1 h
    cases h
    have := takeColon_length hc
    have := skipValue_length hv
    omega
  · split at h
    · cases h
    · obtain ⟨_, hc, h⟩ := bind_eq_ok.1 h
      obtain ⟨_, hv, h⟩ := bind_eq_ok.1 h
      cases h
      have := takeColon_length hc
      have := readField_length hv
      omega

theorem keyAt_length {k : Option String} {ts rest : List Token} (h : takeKey.keyAt ts = .ok (k, rest)) :
    rest.length < ts.length := by
  unfold takeKey.keyAt at h
  split at h
  case h_1 => cases h
  case h_4 => cases h
  all_goals
    obtain ⟨_, _, h⟩ := bind_eq_ok.1 h
    cases h
    simp

theorem takeKey_length {first : Bool} {k : Option String} {ts rest : List Token}
    (h : takeKey first ts = .ok (k, rest)) : rest.length < ts.length := by
  unfold takeKey at h
  split at h
  · cases h
  · cases h
    simp
  · have := keyAt_length h
    simp only [List.length_cons]
    omega
  · exact keyAt_length h
  · cases h

def readMembers (d : Draft) (first : Bool) (ts : List Token) : Except Fault (ServiceConfig × List Token) :=
  match _hk : takeKey first ts with
  | .error fault => .error fault
  | .ok (none, rest) => do return (← d.complete, rest)
  | .ok (some key, afterKey) =>
    match _hm : d.readMember key afterKey with
    | .error fault => .error fault
    | .ok (d, rest) => readMembers d false rest
termination_by ts.length
decreasing_by
  have := takeKey_length _hk
  have := readMember_length _hm
  omega

/-- How a record is told of whose values are too few. -/
def expectedRecord : String := "struct ServiceConfig with 8 elements"

/-- Reads the values of an array in the order of the fields; only the name must be there. -/
def readItems (c : ServiceConfig) : List Field → List Token → Except Fault (ServiceConfig × List Token)
  | _, [] => truncated
  | fields, .closing .square :: ts =>
    if .name ∈ fields then .error (.data (.wrongLength 0 expectedRecord)) else .ok (c, ts)
  | .name :: fields, ts => do
    let (c, ts) ← readField c .name ts
    readItems c fields ts
  | f :: fields, .comma :: ts => do
    let (c, ts) ← readField c f ts
    readItems c fields ts
  | _, _ => malformed

def readRecord : List Token → Except Fault (ServiceConfig × List Token)
  | [] => truncated
  | .opening .curly :: ts => readMembers {} true ts
  | .opening .square :: ts => readItems { name := "" } Field.all ts
  | t :: _ => refuse "struct ServiceConfig" t

/-- Reads a text that holds a configuration and nothing else. -/
def parse (s : String) : Except Fault ServiceConfig :=
  match readRecord (tokens s.toList) with
  | .error fault => .error fault
  | .ok (c, []) => .ok c
  | .ok (_, _ :: _) => malformed

end ServiceControl.ServiceConfig
