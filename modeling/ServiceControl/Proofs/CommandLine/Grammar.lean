import ServiceControl.CommandLine.Arguments
/-!
# The grammar of command lines

A command line is a row of units with at most one command among them: a flag in one of its spellings, an option with the
word after it, whatever that word is, or a command.  Main statement: a command line is read exactly if it is such a row,
what is read is what the units say, in whatever order they stand, and otherwise the first word at which no row goes on is
at fault (`parse_grammar`).
-/
namespace ServiceControl.CommandLine

/-! ## Rows of units -/

/-- The words for a flag. -/
def Flag.words : Flag → List String
  | help => ["--help", "-h"]
  | version => ["--version", "-v"]
  | debug => ["--debug"]
  | restartOnFailure => ["--restart-on-failure"]

namespace ArgumentUnit

/-- A unit may stand on a command line like this.  The value of an option may be any word, also that of a flag, an option or
a command. -/
inductive Spelt : ArgumentUnit → List String → Prop
  | flag {f : Flag} {word : String} (h : word ∈ f.words) : Spelt (flag f) [word]
  | valued (option : Valued) (value : String) : Spelt (valued option value) [option.word, value]
  | command (c : Command) : Spelt (command c) [c.word]

def isCommand : ArgumentUnit → Bool
  | command _ => true
  | _ => false

end ArgumentUnit

open ArgumentUnit (isCommand)

/-- These words are these units, from left to right. -/
inductive Row : List ArgumentUnit → List String → Prop
  | nil : Row [] []
  | cons {u : ArgumentUnit} {us : List ArgumentUnit} {ws words : List String} (first : u.Spelt ws) (rest : Row us words) :
      Row (u :: us) (ws ++ words)

/-- There is at most one command among the units. -/
def Single (us : List ArgumentUnit) : Prop := us.countP isCommand ≤ 1

/-- No unit can go on with these words; `commanded` says whether a command went before. -/
inductive Offends (commanded : Bool) : List String → ArgumentFault → Prop
  /-- An option stands last, without its value. -/
  | noValue (option : Valued) : Offends commanded [option.word] (.noValue option)
  | unknown {word : String} {words : List String} (noFlag : ∀ f : Flag, word ∉ f.words)
      (noOption : ∀ o : Valued, word ≠ o.word) (noCommand : ∀ c : Command, word ≠ c.word) :
      Offends commanded (word :: words) (.unknown word)
  /-- There was a command before this one. -/
  | second (c : Command) (words : List String) (h : commanded = true) :
      Offends commanded (c.word :: words) (.unknown c.word)

/-! ## Words -/

theorem Flag.ofWord?_eq_some_iff {word : String} {f : Flag} : ofWord? word = some f ↔ word ∈ f.words := by
  constructor
  · intro h
    unfold ofWord? at h
    split at h <;> cases h <;> decide
  · intro h
    cases f <;> simp only [words, List.mem_cons, List.not_mem_nil, or_false] at h
    · rcases h with rfl | rfl <;> rfl
    · rcases h with rfl | rfl <;> rfl
    · subst h
      rfl
    · subst h
      rfl

theorem Valued.ofWord?_eq_some_iff {word : String} {o : Valued} : ofWord? word = some o ↔ word = o.word := by
  constructor
  · intro h
    unfold ofWord? at h
    split at h <;> cases h <;> rfl
  · rintro rfl
    cases o <;> rfl

theorem Command.ofWord?_eq_some_iff {word : String} {c : Command} : ofWord? word = some c ↔ word = c.word := by
  constructor
  · intro h
    unfold ofWord? at h
    split at h <;> cases h <;> rfl
  · rintro rfl
    exact ofWord?_word c

/-- The word of an option is no flag. -/
theorem Valued.word_not_flag (o : Valued) : Flag.ofWord? o.word = none := by cases o <;> rfl

/-- The word of a command is neither a flag nor an option. -/
theorem Command.word_alone (c : Command) : Flag.ofWord? c.word = none ∧ Valued.ofWord? c.word = none := by
  cases c <;> exact ⟨rfl, rfl⟩

/-! ## Cutting words into units -/

section Units

variable {commanded : Bool} {us : List ArgumentUnit} {words : List String} {fault : ArgumentFault}

/-- A unit is cut off, unless it is a second command. -/
theorem units_spelt {u : ArgumentUnit} {ws : List String} (spelt : u.Spelt ws)
    (first : commanded = true → u.isCommand = false) (words : List String) :
    units commanded (ws ++ words) = (u :: ·) <$> units (commanded || u.isCommand) words := by
  cases spelt with
  | @flag f word h =>
    show units commanded (word :: words) = (.flag f :: ·) <$> units (commanded || false) words
    rw [units, Flag.ofWord?_eq_some_iff.2 h, Bool.or_false]
  | valued option value =>
    show units commanded (option.word :: value :: words) = (.valued option value :: ·) <$> units (commanded || false) words
    rw [units, option.word_not_flag, Valued.ofWord?_eq_some_iff.2 rfl, Bool.or_false]
  | command c =>
    obtain ⟨notFlag, notOption⟩ := c.word_alone
    have uncommanded : commanded = false := by
      cases commanded with
      | false => rfl
      | true => cases first rfl
    rw [List.singleton_append, units, notFlag, notOption, c.ofWord?_word, uncommanded]
    rfl

/-- **A row is cut off unit by unit**, and the rest is cut as if it stood alone after them. -/
theorem units_row {before : List String} (row : Row us before) (single : us.countP isCommand + commanded.toNat ≤ 1)
    (rest : List String) :
    units commanded (before ++ rest) = (us ++ ·) <$> units (commanded || us.any isCommand) rest := by
  induction row generalizing commanded with
  | nil => simp
  | @cons u us ws words spelt row ih =>
    rw [List.countP_cons] at single
    have first : commanded = true → u.isCommand = false := by
      rintro rfl
      cases hu : u.isCommand with
      | false => rfl
      | true => simp [hu] at single
    have single' : us.countP isCommand + (commanded || u.isCommand).toNat ≤ 1 := by
      cases commanded <;> cases hu : u.isCommand <;> simp_all
    rw [List.append_assoc, units_spelt spelt first, ih single', List.any_cons, Bool.or_assoc]
    cases units (commanded || (u.isCommand || us.any isCommand)) rest <;> rfl

/-- Words that no unit goes on with are refused for what they offend by. -/
theorem units_offends (h : Offends commanded words fault) : units commanded words = .error fault := by
  cases h with
  | noValue option => rw [units, option.word_not_flag, Valued.ofWord?_eq_some_iff.2 rfl]
  | unknown noFlag noOption noCommand =>
    rename_i word words
    have flag : Flag.ofWord? word = none :=
      Option.eq_none_iff_forall_ne_some.2 fun f h => noFlag f (Flag.ofWord?_eq_some_iff.1 h)
    have option : Valued.ofWord? word = none :=
      Option.eq_none_iff_forall_ne_some.2 fun o h => noOption o (Valued.ofWord?_eq_some_iff.1 h)
    have command : Command.ofWord? word = none :=
      Option.eq_none_iff_forall_ne_some.2 fun c h => noCommand c (Command.ofWord?_eq_some_iff.1 h)
    rw [units, flag, option, command]
  | second c words commanded =>
    obtain ⟨notFlag, notOption⟩ := c.word_alone
    rw [units, notFlag, notOption, c.ofWord?_word, commanded]
    rfl

/-- How words go on: with a unit, or with an offence. -/
theorem unit_or_offence (commanded : Bool) (word : String) (words : List String) :
    (∃ (u : ArgumentUnit) (ws rest : List String), word :: words = ws ++ rest ∧ u.Spelt ws ∧ rest.length ≤ words.length ∧
      (commanded = true → u.isCommand = false)) ∨ ∃ fault, Offends commanded (word :: words) fault := by
  cases flag : Flag.ofWord? word with
  | some f => exact .inl ⟨.flag f, [word], words, rfl, .flag (Flag.ofWord?_eq_some_iff.1 flag), Nat.le_refl _, fun _ => rfl⟩
  | none =>
    cases option : Valued.ofWord? word with
    | some o =>
      obtain rfl := Valued.ofWord?_eq_some_iff.1 option
      cases words with
      | nil => exact .inr ⟨_, .noValue o⟩
      | cons value words =>
        exact .inl ⟨.valued o value, [o.word, value], words, rfl, .valued o value, Nat.le_succ _, fun _ => rfl⟩
    | none =>
      cases command : Command.ofWord? word with
      | some c =>
        obtain rfl := Command.ofWord?_eq_some_iff.1 command
        cases commanded with
        | true => exact .inr ⟨_, .second c words rfl⟩
        | false => exact .inl ⟨.command c, [c.word], words, rfl, .command c, Nat.le_refl _, nofun⟩
      | none =>
        refine .inr ⟨_, .unknown (fun f h => ?_) (fun o h => ?_) fun c h => ?_⟩
        · exact absurd (flag.symm.trans (Flag.ofWord?_eq_some_iff.2 h)) nofun
        · exact absurd (option.symm.trans (Valued.ofWord?_eq_some_iff.2 h)) nofun
        · exact absurd (command.symm.trans (Command.ofWord?_eq_some_iff.2 h)) nofun

/-- **Any words are a row up to their end or up to an offence.** -/
theorem row_or_offence (commanded : Bool) (words : List String) :
    ∃ us before rest, words = before ++ rest ∧ Row us before ∧ us.countP isCommand + commanded.toNat ≤ 1 ∧
      (rest = [] ∨ ∃ fault, Offends (commanded || us.any isCommand) rest fault) := by
  -- a unit takes one word or two, so that the words after it are fewer
  generalize hn : words.length = n
  induction n using Nat.strongRecOn generalizing commanded words with
  | ind n ih =>
    have none : ([] : List ArgumentUnit).countP isCommand + commanded.toNat ≤ 1 := by cases commanded <;> decide
    cases words with
    | nil => exact ⟨[], [], [], rfl, .nil, none, .inl rfl⟩
    | cons word words =>
      obtain ⟨u, ws, rest, hwords, spelt, shorter, first⟩ | offence := unit_or_offence commanded word words
      · have fewer : rest.length < n := hn ▸ Nat.lt_succ_of_le shorter
        obtain ⟨us, before, rest, rfl, row, single, last⟩ := ih rest.length fewer (commanded || u.isCommand) rest rfl
        refine ⟨u :: us, ws ++ before, rest, ?_, .cons spelt row, ?_, ?_⟩
        · rw [hwords, List.append_assoc]
        · rw [List.countP_cons]
          cases commanded <;> cases hu : u.isCommand <;> simp_all
        · rwa [List.any_cons, ← Bool.or_assoc]
      · exact ⟨[], [], word :: words, rfl, .nil, none, .inr (by simpa using offence)⟩

theorem units_eq_ok_iff :
    units commanded words = .ok us ↔ Row us words ∧ us.countP isCommand + commanded.toNat ≤ 1 := by
  constructor
  · intro h
    obtain ⟨us', before, rest, rfl, row, single, rfl | ⟨fault, offence⟩⟩ := row_or_offence commanded words
    · rw [units_row row single] at h
      obtain rfl : us' = us := by simpa [units] using Except.ok.inj h
      rw [List.append_nil]
      exact ⟨row, single⟩
    · rw [units_row row single, units_offends offence] at h
      cases h
  · rintro ⟨row, single⟩
    have h := units_row row single []
    rw [List.append_nil] at h
    rw [h, units]
    exact congrArg Except.ok (List.append_nil us)

theorem units_eq_error_iff : units commanded words = .error fault ↔
    ∃ us before rest, words = before ++ rest ∧ Row us before ∧ us.countP isCommand + commanded.toNat ≤ 1 ∧
      Offends (commanded || us.any isCommand) rest fault := by
  constructor
  · intro h
    obtain ⟨us, before, rest, rfl, row, single, rfl | ⟨fault', offence⟩⟩ := row_or_offence commanded words
    · rw [units_row row single] at h
      cases h
    · rw [units_row row single, units_offends offence] at h
      obtain rfl : fault' = fault := Except.error.inj h
      exact ⟨us, before, rest, rfl, row, single, offence⟩
  · rintro ⟨us, before, rest, rfl, row, single, offence⟩
    rw [units_row row single, units_offends offence]
    rfl

end Units

/-! ## What units say -/

/-- The values that are given for an option, in order. -/
def valuesOf (option : Valued) (us : List ArgumentUnit) : List String :=
  us.filterMap fun
    | .valued o value => if o = option then some value else none
    | _ => none

theorem valuesOf_valued (option o : Valued) (value : String) (us : List ArgumentUnit) :
    valuesOf option (.valued o value :: us) = if o = option then value :: valuesOf option us else valuesOf option us := by
  unfold valuesOf
  rw [List.filterMap_cons]
  split <;> rename_i h <;> split at h <;> simp_all

/-- What the environment says in place of an option. -/
def Environment.value? (env : Environment) : Valued → Option String
  | .config => env.configPath
  | .name => env.name
  | .displayName => none

namespace Arguments

def has (a : Arguments) : Flag → Bool
  | .help => a.help
  | .version => a.version
  | .debug => a.debug
  | .restartOnFailure => a.restartOnFailure

def value? (a : Arguments) : Valued → Option String
  | .config => a.configPath
  | .name => a.name
  | .displayName => a.displayName

/-- **What units say in an environment.** -/
structure Says (us : List ArgumentUnit) (env : Environment) (a : Arguments) : Prop where
  flags : ∀ f, a.has f = true ↔ .flag f ∈ us
  /-- The last value of an option counts, and where there is none what the environment says. -/
  values : ∀ o, a.value? o = (valuesOf o us).getLast?.or (env.value? o)
  command : ∀ c, a.command = some c ↔ .command c ∈ us

section Put

variable (a : Arguments) (us : List ArgumentUnit)

theorem has_put (u : ArgumentUnit) (f : Flag) : (a.put u).has f = true ↔ u = .flag f ∨ a.has f = true := by
  cases u with
  | flag g => cases g <;> cases f <;> simp [put, has]
  | valued o value => cases o <;> cases f <;> simp [put, has]
  | command c => cases f <;> simp [put, has]

theorem has_foldl (f : Flag) : (us.foldl put a).has f = true ↔ a.has f = true ∨ .flag f ∈ us := by
  induction us generalizing a with
  | nil => simp
  | cons u us ih =>
    rw [List.foldl_cons, ih, has_put, List.mem_cons, or_assoc, or_left_comm, @eq_comm _ u]

theorem value?_put (o option : Valued) (value : String) :
    (a.put (.valued o value)).value? option = if o = option then some value else a.value? option := by
  cases o <;> cases option <;> rfl

theorem value?_foldl (o : Valued) : (us.foldl put a).value? o = (valuesOf o us).getLast?.or (a.value? o) := by
  induction us generalizing a with
  | nil => rfl
  | cons u us ih =>
    rw [List.foldl_cons, ih]
    cases u with
    | flag f => cases f <;> cases o <;> rfl
    | command c => cases o <;> rfl
    | valued option value =>
      rw [value?_put, valuesOf_valued]
      split
      · rw [List.getLast?_cons]
        cases (valuesOf o us).getLast? <;> rfl
      · rfl

/-- A command stays where there is no other after it. -/
theorem command_foldl (single : us.countP isCommand + a.command.isSome.toNat ≤ 1) (c : Command) :
    (us.foldl put a).command = some c ↔ a.command = some c ∨ .command c ∈ us := by
  induction us generalizing a with
  | nil => simp
  | cons u us ih =>
    rw [List.countP_cons] at single
    rw [List.foldl_cons, List.mem_cons]
    cases u with
    | flag f =>
      have same : (a.put (.flag f)).command = a.command := by cases f <;> rfl
      rw [ih _ (by simpa [same, isCommand] using single), same]
      simp
    | valued o value =>
      have same : (a.put (.valued o value)).command = a.command := by cases o <;> rfl
      rw [ih _ (by simpa [same, isCommand] using single), same]
      simp
    | command c' =>
      have first : a.command = none := by
        cases h : a.command with
        | none => rfl
        | some _ => simp [h, isCommand] at single
      have put_command : (a.put (.command c')).command = some c' := rfl
      rw [ih _ (by simpa [put_command, first, isCommand] using single), put_command, first]
      simp [eq_comm]

end Put

variable {us vs : List ArgumentUnit} {env : Environment} {a b : Arguments}

theorem has_complete (a : Arguments) (env : Environment) (f : Flag) : (a.complete env).has f = a.has f := by
  cases f <;> rfl

theorem value?_complete (a : Arguments) (env : Environment) (o : Valued) :
    (a.complete env).value? o = (a.value? o).or (env.value? o) := by
  cases o with
  | displayName => exact Option.or_none.symm
  | _ => rfl

theorem says_ofUnits (single : Single us) (env : Environment) : Says us env ((ofUnits us).complete env) where
  flags f := by
    have unset : ({} : Arguments).has f = false := by cases f <;> rfl
    rw [has_complete, ofUnits, has_foldl, unset]
    simp
  values o := by
    have unset : ({} : Arguments).value? o = none := by cases o <;> rfl
    rw [value?_complete, ofUnits, value?_foldl, unset, Option.or_none]
  command c := by
    have h := command_foldl {} us (by simpa [Single] using single) c
    simpa [complete, ofUnits] using h

/-- Units say one thing only. -/
theorem Says.unique (ha : Says us env a) (hb : Says us env b) : a = b := by
  have has (f : Flag) : a.has f = b.has f := Bool.eq_iff_iff.2 ((ha.flags f).trans (hb.flags f).symm)
  have value? (o : Valued) : a.value? o = b.value? o := (ha.values o).trans (hb.values o).symm
  have command : a.command = b.command := Option.ext fun c => (ha.command c).trans (hb.command c).symm
  obtain ⟨command₁, configPath₁, name₁, displayName₁, restartOnFailure₁, debug₁, help₁, version₁⟩ := a
  obtain rfl : command₁ = _ := command
  obtain rfl : configPath₁ = _ := value? .config
  obtain rfl : name₁ = _ := value? .name
  obtain rfl : displayName₁ = _ := value? .displayName
  obtain rfl : restartOnFailure₁ = _ := has .restartOnFailure
  obtain rfl : debug₁ = _ := has .debug
  obtain rfl : help₁ = _ := has .help
  obtain rfl : version₁ = _ := has .version
  rfl

/-- **The order of units does not matter**, but for that of the values of one option. -/
theorem Says.perm (h : Says us env a) (perm : us.Perm vs) (values : ∀ o, valuesOf o us = valuesOf o vs) :
    Says vs env a where
  flags f := (h.flags f).trans perm.mem_iff
  values o := values o ▸ h.values o
  command c := (h.command c).trans perm.mem_iff

/-- The environment has no say where all that it could say is given. -/
theorem Says.elsewhere (h : Says us env a) (config : valuesOf .config us ≠ []) (name : valuesOf .name us ≠ [])
    (env' : Environment) : Says us env' a where
  flags := h.flags
  values o := by
    have given (o : Valued) (ho : valuesOf o us ≠ []) (x y : Option String) :
        (valuesOf o us).getLast?.or x = (valuesOf o us).getLast?.or y := by
      rw [List.getLast?_eq_some_getLast ho, Option.some_or, Option.some_or]
    rw [h.values o]
    cases o with
    | config => exact given .config config _ _
    | name => exact given .name name _ _
    | displayName => rfl
  command := h.command

/-! ## Reading command lines -/

variable {argv : List String}

theorem parse_row (row : Row us argv.tail) (single : Single us) : parse env argv = .ok a ↔ Says us env a := by
  have hunits : units false argv.tail = .ok us := units_eq_ok_iff.2 ⟨row, single⟩
  have hparse : parse env argv = .ok ((ofUnits us).complete env) := by
    unfold parse
    rw [hunits]
    rfl
  rw [hparse]
  constructor
  · intro h
    obtain rfl := Except.ok.inj h
    exact says_ofUnits single env
  · intro h
    rw [h.unique (says_ofUnits single env)]

theorem parse_eq_ok_iff : parse env argv = .ok a ↔ ∃ us, Row us argv.tail ∧ Single us ∧ Says us env a := by
  constructor
  · intro h
    cases hunits : units false argv.tail with
    | error fault =>
      unfold parse at h
      rw [hunits] at h
      cases h
    | ok us =>
      obtain ⟨row, single⟩ := units_eq_ok_iff.1 hunits
      exact ⟨us, row, single, (parse_row row single).1 h⟩
  · rintro ⟨us, row, single, told⟩
    exact (parse_row row single).2 told

theorem parse_eq_error_iff {fault : ArgumentFault} : parse env argv = .error fault ↔
    ∃ us before rest, argv.tail = before ++ rest ∧ Row us before ∧ Single us ∧
      Offends (us.any isCommand) rest fault := by
  have hparse : parse env argv = .error fault ↔ units false argv.tail = .error fault := by
    unfold parse
    cases units false argv.tail with
    | ok us => exact ⟨nofun, nofun⟩
    | error e =>
      constructor
      · intro h
        obtain rfl : e = fault := Except.error.inj h
        rfl
      · intro h
        obtain rfl : e = fault := Except.error.inj h
        rfl
  rw [hparse, units_eq_error_iff]
  simp only [Single, Bool.toNat_false, Nat.add_zero, Bool.false_or]

/-- **The grammar of command lines.**  The words after the name of the program are read exactly if they are a row of units
with at most one command, and what is read is what the units say.  Otherwise the fault is that of the first word at which
no row goes on.  The units may stand in any order that leaves the values of each option in theirs, and the environment has
no say where the configuration file and the name are given. -/
theorem parse_grammar (env : Environment) (argv : List String) :
    (∀ a, parse env argv = .ok a ↔ ∃ us, Row us argv.tail ∧ Single us ∧ Says us env a) ∧
      (∀ fault, parse env argv = .error fault ↔ ∃ us before rest, argv.tail = before ++ rest ∧ Row us before ∧
        Single us ∧ Offends (us.any isCommand) rest fault) ∧
      ∀ us, Row us argv.tail → Single us →
        (∀ vs program words, us.Perm vs → (∀ o, valuesOf o us = valuesOf o vs) → Row vs words →
          parse env (program :: words) = parse env argv) ∧
        (valuesOf .config us ≠ [] → valuesOf .name us ≠ [] → ∀ env', parse env' argv = parse env argv) := by
  refine ⟨fun a => parse_eq_ok_iff, fun fault => parse_eq_error_iff, ?_⟩
  intro us row single
  have told := says_ofUnits single env
  have read := (parse_row row single).2 told
  refine ⟨?_, ?_⟩
  · intro vs program words perm values row'
    have single' : Single vs := by
      unfold Single
      rw [← perm.countP_eq]
      exact single
    rw [read]
    exact (parse_row row' single').2 (told.perm perm values)
  · intro config name env'
    rw [read]
    exact (parse_row row single).2 (told.elsewhere config name env')

/-- Values that look like an option and like a command, and units that are given in another order and another spelling. -/
theorem parse_grammar_disguised :
    let us : List ArgumentUnit :=
      [.flag .help, .valued .name "--config", .command .run, .valued .name "svcA", .valued .config "install"]
    let vs : List ArgumentUnit :=
      [.valued .config "install", .valued .name "--config", .valued .name "svcA", .flag .help, .command .run]
    let argv := ["svc", "-h", "--name", "--config", "run", "--name", "svcA", "--config", "install"]
    let words := ["--config", "install", "--name", "--config", "--name", "svcA", "--help", "run"]
    let env : Environment := { configPath := some "other", name := some "svcB" }
    Row us argv.tail ∧ Single us ∧ us.Perm vs ∧ (∀ o, valuesOf o us = valuesOf o vs) ∧ Row vs words ∧
      parse env argv = .ok { command := some .run, configPath := some "install", name := some "svcA", help := true } ∧
      parse env ("service" :: words) = parse env argv ∧ parse {} argv = parse env argv := by
  intro us vs argv words env
  obtain ⟨row, single⟩ := units_eq_ok_iff.1 (show units false argv.tail = .ok us from rfl)
  obtain ⟨row', -⟩ := units_eq_ok_iff.1 (show units false words = .ok vs from rfl)
  have perm : us.Perm vs := by decide
  have values (o : Valued) : valuesOf o us = valuesOf o vs := by cases o <;> rfl
  obtain ⟨hread, -, hsame⟩ := parse_grammar env argv
  obtain ⟨hperm, henv⟩ := hsame us row single
  have told : Says us env { command := some .run, configPath := some "install", name := some "svcA", help := true } :=
    says_ofUnits single env
  exact ⟨row, single, perm, values, row', (hread _).2 ⟨us, row, single, told⟩, hperm vs "service" words perm values row',
    henv nofun nofun {}⟩

/-- A command that is a value does not count, but the second one after that is at fault. -/
example : parse {} ["svc", "run", "--name", "stop", "stop", "--config"] = .error (.unknown "stop") := rfl

end Arguments

end ServiceControl.CommandLine
