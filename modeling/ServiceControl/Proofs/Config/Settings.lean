import ServiceControl.Spec
/-!
# Settings one after another

A setting writes one field of a configuration, and that of an account with a password writes two: the account, and the
option that holds passwords, which any setting of an option may write as well.  Main statement: every field holds what the
last setting that writes it wrote, in the configuration and in the entry made of it, and neighbours that write no field in
common may change places (`last_setting_counts`).
-/
namespace ServiceControl.ServiceConfig

open Json (Value)

/-! ## Fields -/

/-- The fields that settings write, with every option as one of its own. -/
inductive Part
  | displayName
  | description
  | userName
  | arguments
  | executable
  | restartOnFailure
  | context
  | option (key : String)

namespace Part

/-- What is written to a field. -/
abbrev Content : Part → Type
  | displayName | description | userName | executable => String
  | arguments => List String
  | restartOnFailure => Bool
  | context => Shutdown.Context
  | option _ => Value

/-- What a configuration holds in a field, unless that is unset. -/
def held (c : ServiceConfig) : (f : Part) → Option f.Content
  | displayName => c.displayName
  | description => some c.description
  | userName => c.userName
  | arguments => some c.arguments
  | executable => c.executable
  | restartOnFailure => some c.restartOnFailure
  | context => some c.context
  | option key => NameMap.find? key c.options

/-- What a setting writes to a field, if it writes there at all.  The password of an account is written as an option. -/
def written : (f : Part) → Setting → Option f.Content
  | displayName, .displayName shown => some shown
  | description, .description text => some text
  | userName, .user name _ => some name
  | arguments, .arguments items => some items
  | executable, .executable path => some path
  | restartOnFailure, .restartOnFailure enabled => some enabled
  | context, .context ended => some ended
  | option key, .user _ (some password) => if passwordKey = key then some (.string password) else none
  | option key, .option other value => if other = key then some value else none
  | _, _ => none

/-- What the last setting that writes to a field writes there. -/
def last (f : Part) (settings : List Setting) : Option f.Content := settings.reverse.findSome? f.written

end Part

/-! ## The last setting that writes to a field -/

namespace Part

variable (f : Part)

theorem last_append (before after : List Setting) : f.last (before ++ after) = (f.last after).or (f.last before) := by
  simp [last, List.findSome?_append]

theorem last_singleton (s : Setting) : f.last [s] = f.written s := by simp [last]

theorem last_cons (s : Setting) (settings : List Setting) : f.last (s :: settings) = (f.last settings).or (f.written s) := by
  rw [← List.singleton_append, last_append, last_singleton]

/-- **It writes there, and no setting after it does.** -/
theorem last_eq_some_iff {settings : List Setting} {v : f.Content} : f.last settings = some v ↔
    ∃ before s after, settings = before ++ s :: after ∧ f.written s = some v ∧ ∀ t ∈ after, f.written t = none := by
  unfold last
  rw [List.findSome?_eq_some_iff]
  constructor
  · rintro ⟨after, s, before, split, writes, silent⟩
    refine ⟨before.reverse, s, after.reverse, ?_, writes, fun t ht => silent t (List.mem_reverse.1 ht)⟩
    simpa using congrArg List.reverse split
  · rintro ⟨before, s, after, rfl, writes, silent⟩
    exact ⟨after.reverse, s, before.reverse, by simp, writes, fun t ht => silent t (List.mem_reverse.1 ht)⟩

/-- A setting that does not write to the field may be left out. -/
theorem last_skip {s : Setting} (silent : f.written s = none) (before after : List Setting) :
    f.last (before ++ s :: after) = f.last (before ++ after) := by
  rw [last_append, last_append, last_cons, silent, Option.or_none]

/-- Where only one of two neighbours writes to the field they may change places. -/
theorem last_swap {s t : Setting} (silent : f.written s = none ∨ f.written t = none) (before after : List Setting) :
    f.last (before ++ s :: t :: after) = f.last (before ++ t :: s :: after) := by
  rcases silent with hs | ht
  · rw [f.last_skip hs, last_append, last_append, last_cons, last_cons, last_cons, hs, Option.or_none]
  · rw [last_append, last_append, last_cons, last_cons, last_cons, last_cons, ht, Option.or_none, Option.or_none]

end Part

/-! ## Settings and what they leave behind -/

section Settings

variable (c : ServiceConfig) (f : Part)

/-- **A setting changes the fields that it writes to, and no other.** -/
theorem held_apply (s : Setting) : f.held (c.apply s) = (f.written s).or (f.held c) := by
  cases s with
  | user name password =>
    cases password with
    | none => cases f <;> rfl
    | some password =>
      cases f with
      | option key =>
        show NameMap.find? key (NameMap.put passwordKey _ c.options) = (ite _ _ _ : Option Value).or _
        rw [NameMap.find?_put]
        split <;> rfl
      | _ => rfl
  | option other value =>
    cases f with
    | option key =>
      show NameMap.find? key (NameMap.put other value c.options) = (ite _ _ _ : Option Value).or _
      rw [NameMap.find?_put]
      split <;> rfl
    | _ => rfl
  | _ => cases f <;> rfl

/-- **Of settings one after another the last that writes to a field counts there.** -/
theorem held_applyAll (settings : List Setting) : f.held (c.applyAll settings) = (f.last settings).or (f.held c) := by
  induction settings generalizing c with
  | nil => rfl
  | cons s settings ih =>
    show f.held ((c.apply s).applyAll settings) = _
    rw [ih, held_apply, Part.last_cons, Option.or_assoc]

theorem name_applyAll (settings : List Setting) : (c.applyAll settings).name = c.name := by
  induction settings generalizing c with
  | nil => rfl
  | cons s settings ih => exact (ih (c.apply s)).trans (apply_name c s)

/-- No key comes twice among the options. -/
theorem nodup_applyAll (settings : List Setting) (distinct : (NameMap.keys c.options).Nodup) :
    (NameMap.keys (c.applyAll settings).options).Nodup := by
  induction settings generalizing c with
  | nil => exact distinct
  | cons s settings ih =>
    refine ih (c.apply s) ?_
    cases s with
    | user name password =>
      cases password with
      | none => exact distinct
      | some password => exact NameMap.nodup_keys_put distinct
    | option key value => exact NameMap.nodup_keys_put distinct
    | _ => exact distinct

end Settings

/-! ## Configurations that hold the same -/

/-- The name and every field are the same; the options may have come in another order. -/
structure Alike (c d : ServiceConfig) : Prop where
  name : c.name = d.name
  held : ∀ f : Part, f.held c = f.held d

namespace Alike

variable {c d : ServiceConfig} (same : Alike c d)
include same

theorem display_eq : c.display = d.display := by
  have shown : c.displayName = d.displayName := same.held .displayName
  unfold display
  rw [shown, same.name]

theorem password_eq : c.password? = d.password? :=
  congrArg (Option.bind · Value.string?) (same.held (.option passwordKey))

/-- **The same entry is made of them**, or for the same reason none. -/
theorem ofConfig_eq (binary : RunningBinary) : ServiceSpec.ofConfig binary c = ServiceSpec.ofConfig binary d := by
  have executable : c.executable = d.executable := same.held .executable
  have userName : c.userName = d.userName := same.held .userName
  have description : c.description = d.description := Option.some.inj (same.held .description)
  have arguments : c.arguments = d.arguments := Option.some.inj (same.held .arguments)
  unfold ServiceSpec.ofConfig
  rw [same.name, same.display_eq, same.password_eq, executable, userName, description, arguments]

end Alike

/-- Settings that write to no field in common. -/
def Setting.Apart (s t : Setting) : Prop := ∀ f : Part, f.written s = none ∨ f.written t = none

theorem applyAll_swap (c : ServiceConfig) {s t : Setting} (apart : s.Apart t) (before after : List Setting) :
    Alike (c.applyAll (before ++ s :: t :: after)) (c.applyAll (before ++ t :: s :: after)) where
  name := by rw [name_applyAll, name_applyAll]
  held f := by rw [held_applyAll, held_applyAll, f.last_swap (apart f)]

/-! ## What settings make of a name -/

/-- **Every field is what the last setting that writes to it wrote**, in a configuration that was only a name before. -/
structure Settled (called : String) (settings : List Setting) (c : ServiceConfig) : Prop where
  name : c.name = called
  displayName : c.displayName = Part.displayName.last settings
  description : c.description = (Part.description.last settings).getD ""
  userName : c.userName = Part.userName.last settings
  arguments : c.arguments = (Part.arguments.last settings).getD []
  executable : c.executable = Part.executable.last settings
  options : ∀ key, NameMap.find? key c.options = (Part.option key).last settings
  distinct : (NameMap.keys c.options).Nodup
  restartOnFailure : c.restartOnFailure = (Part.restartOnFailure.last settings).getD false
  context : c.context = (Part.context.last settings).getD .never
  /-- An empty display name is as good as none. -/
  display : c.display = ((Part.displayName.last settings).filter (· ≠ "")).getD called
  /-- Only a string is a password. -/
  password : c.password? = ((Part.option passwordKey).last settings).bind Value.string?

/-- **So is every part of the entry** that is made of it. -/
structure Entered (binary : RunningBinary) (called : String) (settings : List Setting) (spec : ServiceSpec) : Prop where
  name : spec.name = called
  displayName : spec.displayName = ((Part.displayName.last settings).filter (· ≠ "")).getD called
  description : spec.description = (Part.description.last settings).getD ""
  executable : ((Part.executable.last settings).map Except.ok).getD binary = .ok spec.executable
  arguments : spec.arguments = (Part.arguments.last settings).getD []
  startType : spec.startType = .automatic
  account : spec.account = Part.userName.last settings
  password : spec.password = ((Part.option passwordKey).last settings).bind Value.string?

theorem display_eq_filter (c : ServiceConfig) : c.display = (c.displayName.filter (· ≠ "")).getD c.name := by
  unfold display
  cases c.displayName with
  | none => rfl
  | some shown => by_cases empty : shown = "" <;> simp [Option.filter, empty]

section Made

variable (called : String) (settings : List Setting)

theorem settled : Settled called settings (applyAll { name := called } settings) := by
  have held (f : Part) := held_applyAll { name := called } f settings
  have name : (applyAll { name := called } settings).name = called := name_applyAll _ settings
  have shown : (applyAll { name := called } settings).displayName = Part.displayName.last settings :=
    (held .displayName).trans Option.or_none
  have option (key : String) : NameMap.find? key (applyAll { name := called } settings).options =
      (Part.option key).last settings := (held (.option key)).trans Option.or_none
  -- what is never unset has a value before the first setting
  have always {α : Type} {a b : α} {o : Option α} (h : some a = o.or (some b)) : a = o.getD b := by
    rw [Option.or_some] at h
    exact Option.some.inj h
  exact {
    name
    displayName := shown
    description := always (held .description)
    userName := (held .userName).trans Option.or_none
    arguments := always (held .arguments)
    executable := (held .executable).trans Option.or_none
    options := option
    distinct := nodup_applyAll _ settings List.nodup_nil
    restartOnFailure := always (held .restartOnFailure)
    context := always (held .context)
    display := by rw [display_eq_filter, shown, name]
    password := congrArg (Option.bind · Value.string?) (option passwordKey) }

variable {called settings} {c : ServiceConfig} (h : Settled called settings c) {binary : RunningBinary}
include h

theorem Settled.entered {spec : ServiceSpec} (made : ServiceSpec.ofConfig binary c = .ok spec) :
    Entered binary called settings spec := by
  unfold ServiceSpec.ofConfig at made
  split at made
  · cases made
  · rename_i executable found
    obtain rfl := Except.ok.inj made
    exact {
      name := h.name
      displayName := h.display
      description := h.description
      executable := h.executable ▸ found
      arguments := h.arguments
      startType := rfl
      account := h.userName
      password := h.password }

/-- **Only a running binary whose path is not known stands in the way of an entry**, and only where no setting gives
another. -/
theorem Settled.refused_iff {e : ServiceError} : ServiceSpec.ofConfig binary c = .error e ↔
    Part.executable.last settings = none ∧ ∃ reason, binary = .error reason ∧
      e = .manager s!"failed to resolve executable path: {reason}" := by
  unfold ServiceSpec.ofConfig
  rw [h.executable]
  cases Part.executable.last settings with
  | some path => exact ⟨nofun, nofun⟩
  | none =>
    cases binary with
    | ok path => exact ⟨nofun, nofun⟩
    | error reason => simp [eq_comm]

end Made

/-- **The last setting counts**, for every field by itself.  An account without a password leaves the password as it is,
and neighbours that write to no field in common may change places. -/
theorem last_setting_counts (called : String) (settings : List Setting) (binary : RunningBinary) :
    let made (settings : List Setting) := applyAll { name := called } settings
    Settled called settings (made settings) ∧
    (∀ spec, ServiceSpec.ofConfig binary (made settings) = .ok spec → Entered binary called settings spec) ∧
    (∀ e, ServiceSpec.ofConfig binary (made settings) = .error e ↔
      Part.executable.last settings = none ∧ ∃ reason, binary = .error reason ∧
        e = .manager s!"failed to resolve executable path: {reason}") ∧
    (∀ before account after, settings = before ++ .user account none :: after →
      (made settings).password? = (made (before ++ after)).password?) ∧
    ∀ before s t after, settings = before ++ s :: t :: after → s.Apart t →
      Alike (made settings) (made (before ++ t :: s :: after)) ∧
      ServiceSpec.ofConfig binary (made settings) = ServiceSpec.ofConfig binary (made (before ++ t :: s :: after)) := by
  intro made
  have whole := settled called settings
  refine ⟨whole, fun spec => whole.entered, fun e => whole.refused_iff, ?_, ?_⟩
  · rintro before account after rfl
    rw [whole.password, (settled called (before ++ after)).password, Part.last_skip _ rfl]
  · rintro before s t after rfl apart
    have same := applyAll_swap { name := called } apart before after
    exact ⟨same, same.ofConfig_eq binary⟩

/-- A password that a number takes the place of, an account that comes without one, and a display name that is emptied. -/
theorem last_setting_counts_overridden :
    let before : List Setting :=
      [.user "svc-user" (some "s3cret"), .displayName "Service A", .option "Password" (.number (.integer 1234))]
    let region : Setting := .option "Region" (.string "eu")
    let account : Setting := .user "svcB" none
    let made (settings : List Setting) := applyAll { name := "svcA" } settings
    let settings := before ++ region :: account :: [.displayName ""]
    let spec : ServiceSpec := { name := "svcA", displayName := "svcA", executable := "svc", account := some "svcB" }
    Settled "svcA" settings (made settings) ∧ (made settings).password? = none ∧
      ServiceSpec.ofConfig (.ok "svc") (made settings) = .ok spec ∧ Entered (.ok "svc") "svcA" settings spec ∧
      (made settings).password? = (made (before ++ [region, .displayName ""])).password? ∧
      region.Apart account ∧ Alike (made settings) (made (before ++ account :: region :: [.displayName ""])) := by
  intro before region account made settings spec
  obtain ⟨whole, entered, -, kept, swap⟩ := last_setting_counts "svcA" settings (.ok "svc")
  have entry : ServiceSpec.ofConfig (.ok "svc") (made settings) = .ok spec := rfl
  have apart : region.Apart account := by
    intro f
    cases f with
    | option key => exact .inr rfl
    | _ => exact .inl rfl
  exact ⟨whole, rfl, entry, entered spec entry, kept (before ++ [region]) "svcB" [.displayName ""] rfl, apart,
    (swap before region account [.displayName ""] rfl apart).1⟩

end ServiceControl.ServiceConfig
