import ServiceControl.Proofs.CommandLine.Precedence
import ServiceControl.Proofs.Heartbeats
/-!
# The life of the program

The program prints a text, fails with a message or runs its service, and the first thing that stands in the way of a run
decides which.  A run is looked at again and again (`look`): it starts its heartbeat once, waits as long as no signal comes,
and stops it and ends at the first look that brings one.  Main statement: when anything is started, how the program ends
then, and how it ends else, without a look at any file where the command line alone decides (`program_lifetime`).
-/
namespace ServiceControl

/-! ## Tasks that end at once -/

section Done

variable {γ α β ε : Type} [Background γ] {s s' : Scene γ}

section Wait

variable {w : Wait γ} {k : Scene γ → Step γ α}

theorem Step.goOn_met (met : w.isOver s = true) : (wait w s k).goOn = (k s).goOn := if_pos met

theorem Step.goOn_settled (waits : w.isOver s = false) (met : w.isOver s.settle = true) :
    (wait w s k).goOn = (k s.settle).goOn :=
  (if_neg (Bool.eq_false_iff.1 waits)).trans (if_pos met)

theorem Step.goOn_waits (waits : w.isOver s = false) (settled : w.isOver s.settle = false) :
    (wait w s k).goOn = wait w s k :=
  (if_neg (Bool.eq_false_iff.1 waits)).trans (if_neg (Bool.eq_false_iff.1 settled))

end Wait

/-- What is bound to a task that ends at once goes on from there. -/
theorem Step.goOn_bind {x : Step γ α} {a : α} (h : x.goOn = .done a s') (f : α → Scene γ → Step γ β) :
    (x.bind f).goOn = (f a s').goOn := by
  induction x with
  | done b s =>
    cases h
    rfl
  | wait w s k ih =>
    cases met : w.isOver s with
    | true => exact (goOn_met met).trans (ih s ((goOn_met met).symm.trans h))
    | false =>
      cases settled : w.isOver s.settle with
      | true => exact (goOn_settled met settled).trans (ih s.settle ((goOn_settled met settled).symm.trans h))
      | false => cases (goOn_waits met settled).symm.trans h

theorem Task.bind_done {t : Task γ α} {a : α} (h : (t s).goOn = .done a s') (f : α → Task γ β) :
    ((t >>= f) s).goOn = (f a s').goOn :=
  Step.goOn_bind h _

theorem Task.run_bind_done {x : ExceptT ε (Task γ) α} {a : α} (h : (x.run s).goOn = .done (.ok a) s')
    (f : α → ExceptT ε (Task γ) β) : ((x >>= f).run s).goOn = ((f a).run s').goOn :=
  Task.bind_done h _

theorem Task.lift_done {t : Task γ α} {a : α} (h : (t s).goOn = .done a s') :
    ((liftM t : ExceptT ε (Task γ) α).run s).goOn = .done (.ok a) s' :=
  Task.bind_done h _

/-- A wait that is over ends at once, and so does one that is over when all is done that is to be done at the instant. -/
theorem Task.await_done {w : Wait γ} (h : w.isOver s = true ∧ s' = s ∨
    w.isOver s = false ∧ w.isOver s.settle = true ∧ s' = s.settle) : (Task.await w s).goOn = .done () s' := by
  unfold Task.await Step.afterWait
  obtain ⟨met, rfl⟩ | ⟨waits, met, rfl⟩ := h
  · rw [if_pos met]
    rfl
  · rw [if_neg (Bool.eq_false_iff.1 waits), Step.goOn_settled waits met]
    rfl

theorem Task.adapt_done {ε' : Type} {x : ExceptT ε (Task γ) α} {r : Except ε α} (explain : ε → ε')
    (h : (x.run s).goOn = .done r s') : ((ExceptT.adapt explain x).run s).goOn = .done (r.mapError explain) s' :=
  Task.bind_done h _

theorem Task.attempt_done {x : ExceptT ε (Task γ) α} {r : Except ε α} (h : (x.run s).goOn = .done r s') :
    ((attempt x).run s).goOn = .done (.ok r) s' :=
  Task.bind_done h _

end Done

namespace CommandLine

open Workload (Heartbeat Hosts hosting session_hosts)
open Workload.Heartbeat (waitingFor)

/-! ## The heartbeat of a run -/

/-- **The heartbeat was started once and has not been stopped.**  Its beater may yet have to begin, or has died of an
interval of nothing. -/
structure Beats (h : Heartbeat) : Prop where
  sound : h.poisoned = false
  current : h.current = some 0
  spawned : h.spawned = 1
  alone : h.beaters = [] ∨
    ∃ b, h.beaters = [b] ∧ h.shutdown = waitingFor b ∧ (b.due = none ∧ h.interval = 0 ∨ 0 < h.interval)

section Beats

variable {h : Heartbeat}

/-- **Time goes by and the heartbeat beats on.** -/
theorem Beats.goes_on (beats : Beats h) (now later : Nat) : Beats ((h.settle now).1.passed now later) := by
  obtain ⟨sound, current, spawned, none | ⟨b, one, silent, ⟨unbegun, dead⟩ | positive⟩⟩ := beats
  · rw [Heartbeat.settle_nil none, Heartbeat.passed_nil none]
    exact ⟨sound, current, spawned, .inl none⟩
  · rw [Heartbeat.settle_dead one unbegun dead, Heartbeat.passed_nil rfl]
    exact ⟨sound, current, spawned, .inl rfl⟩
  · obtain ⟨k, arms, passed, -⟩ := Heartbeat.settle_passed one silent positive now later
    rw [passed]
    exact ⟨sound, current, spawned, .inr ⟨_, rfl, rfl, .inr positive⟩⟩

/-- The heartbeat when its beater is given the word. -/
def told (h : Heartbeat) : Heartbeat := { h with current := none, shutdown := h.shutdown.notifyOne }

/-- **Whoever beats ends at its next turn** then. -/
theorem Beats.told_ends (beats : Beats h) (now : Nat) : ((told h).settle now).1.beaters = [] ∧
    ((told h).settle now).1.current = none ∧ ((told h).settle now).1.spawned = 1 := by
  obtain ⟨-, -, spawned, none | ⟨b, one, silent, ⟨unbegun, dead⟩ | positive⟩⟩ := beats
  · rw [Heartbeat.settle_nil (h := told h) none]
    exact ⟨none, rfl, spawned⟩
  · rw [Heartbeat.settle_dead (h := told h) one unbegun dead]
    exact ⟨rfl, rfl, spawned⟩
  · obtain ⟨k, arms, ends, -⟩ := Heartbeat.settle_told (h := { h with current := none }) one silent positive now
    have ends : ((told h).settle now).1 = _ := ends
    rw [ends]
    exact ⟨rfl, rfl, spawned⟩

end Beats

/-! ## What is left of a run once its wait is over -/

/-- What a run waits for beside its context, which never ends it. -/
def waiting (fault : Option String) : Wait Session :=
  (match fault with | some _ => .never | none => ⟨none, (·.ended)⟩ : Wait Session)

theorem waiting_isOver (fault : Option String) (s : Scene Session) :
    ((waiting fault).or (Shutdown.cancelled Session.triggersCell .never)).isOver s = (fault.isNone && s.world.ended) := by
  cases fault <;> simp [waiting, Shutdown.cancelled, Shutdown.Triggers.isCancelled, Wait.isOver, Wait.isDue, Wait.or,
    Wait.sooner, Wait.never]

/-- The workload is stopped. -/
def parting (kill : Wait Session) (view : View Session) : Op Session Unit := do
  if kill.isOver (← get) then Act.info "Termination signal received" else Act.info "Run context cancelled"
  Workload.asOp ((Workload.heartbeat Session.heartbeatCell).stop view)

/-- And the program ends as that has ended. -/
def closing (config : ServiceConfig) (kill : Wait Session) (view : View Session) : Task Session Ending :=
  Task.andThen (ExceptT.run do
    if let .error e ← attempt (parting kill view) then
      Act.error s!"run {config.display} failed: {e.message}"
      throw e : Task Session (Except ServiceError Unit)) Ending.ofRun

theorem carryOut_runs {config : ServiceConfig} (h : config.context = .never) (debug : Bool) (fault : Option String)
    (binary : RunningBinary) : ∃ s, (Outcome.runs config debug).carryOut fault binary =
      .wait ((waiting fault).or (Shutdown.cancelled Session.triggersCell .never)) s
        (closing config (waiting fault) (Session.controller config fault binary true).view) ∧
      Beats s.world.heartbeat ∧ s.world.ended = false := by
  obtain ⟨name, displayName, description, userName, arguments, executable, options, restartOnFailure, context⟩ := config
  subst h
  have unbegun {interval : Nat} {b : Workload.Beater} (new : b.due = none) : b.due = none ∧ interval = 0 ∨ 0 < interval :=
    (Nat.eq_zero_or_pos interval).imp_left fun none => ⟨new, none⟩
  cases fault with
  | none => exact ⟨_, rfl, ⟨rfl, rfl, rfl, .inr ⟨_, rfl, rfl, unbegun rfl⟩⟩, rfl⟩
  | some reason => exact ⟨_, rfl, ⟨rfl, rfl, rfl, .inr ⟨_, rfl, rfl, unbegun rfl⟩⟩, rfl⟩

/-- **The heartbeat was stopped at this instant**, after its one start. -/
structure Stilled (instant : Nat) (s : Scene Session) : Prop where
  now : s.now = instant
  current : s.world.heartbeat.current = none
  spawned : s.world.heartbeat.spawned = 1

section Stop

variable {s : Scene Session} (beats : Beats s.world.heartbeat) (view : View Session)
include beats

/-- The beater is given the word. -/
theorem requestStop_done :
    ∃ s', ((liftM (Heartbeat.requestStop Session.heartbeatCell view) : Callback Session _).run s).goOn =
      .done (.ok (some 0)) s' ∧ s'.now = s.now ∧ s'.world.heartbeat = told s.world.heartbeat := by
  have returns : (hosting fun w : Session => some w.heartbeat).Returns (Heartbeat.requestStop Session.heartbeatCell view)
      ⟨s.now, some s.world.heartbeat⟩ (.ok (some 0)) ⟨s.now, some (told s.world.heartbeat)⟩ :=
    session_hosts.requestStop_returns beats.sound beats.current
  obtain ⟨result, seen⟩ := returns s rfl
  obtain ⟨now, held⟩ := Sight.mk.inj seen
  refine ⟨((Heartbeat.requestStop Session.heartbeatCell view).run s).2, ?_, now, Option.some.inj held⟩
  exact congrArg (Step.done · _) (Option.some.inj result)

/-- Its end is waited for, and comes at once. -/
theorem await_told {s' : Scene Session} (now : s'.now = s.now) (held : s'.world.heartbeat = told s.world.heartbeat) :
    ∃ ended, (Task.await (Heartbeat.isOver Session.heartbeatCell 0) s').goOn = .done () ended ∧ Stilled s.now ended := by
  obtain ⟨nobody, stopped, once⟩ := beats.told_ends s'.now
  have isOver (s : Scene Session) : (Heartbeat.isOver Session.heartbeatCell 0).isOver s = !s.world.heartbeat.isAlive 0 :=
    Bool.or_false _
  cases alive : s'.world.heartbeat.isAlive 0 with
  | false =>
    refine ⟨s', Task.await_done (.inl ⟨by rw [isOver, alive]; rfl, rfl⟩), now, ?_, ?_⟩
    · rw [held]
      rfl
    · rw [held]
      exact beats.spawned
  | true =>
    have settled : s'.settle.world.heartbeat = ((told s.world.heartbeat).settle s'.now).1 := by rw [← held]; rfl
    refine ⟨s'.settle, Task.await_done (.inr ⟨by rw [isOver, alive]; rfl, ?_, rfl⟩), now, ?_, ?_⟩
    · rw [isOver, settled, Heartbeat.isAlive, nobody]
      rfl
    · rw [settled, stopped]
    · rw [settled, once]

/-- **The heartbeat stops at once.** -/
theorem stop_done : ∃ s', (((Workload.heartbeat Session.heartbeatCell).stop view).run s).goOn = .done (.ok ()) s' ∧
    Stilled s.now s' := by
  obtain ⟨s', asked, now, held⟩ := requestStop_done beats view
  obtain ⟨ended, awaited, now', current, spawned⟩ := await_told beats now held
  show ∃ after, ((Heartbeat.stop Session.heartbeatCell view).run s).goOn = .done (.ok ()) after ∧ _
  unfold Heartbeat.stop
  rw [Task.run_bind_done asked]
  dsimp only
  rw [Task.run_bind_done (Task.lift_done awaited),
    Task.run_bind_done (x := Act.read Session.heartbeatCell) (a := ended.world.heartbeat) rfl]
  -- a beater that has died is told of in one more log line
  split <;> exact ⟨_, rfl, now', current, spawned⟩

theorem parting_done (kill : Wait Session) :
    ∃ s', ((parting kill view).run s).goOn = .done (.ok ()) s' ∧ Stilled s.now s' := by
  have stops (text : String) : ∃ s', ((do
      Act.log .info text
      Workload.asOp ((Workload.heartbeat Session.heartbeatCell).stop view) : Op Session Unit).run s).goOn =
        .done (.ok ()) s' ∧ Stilled s.now s' := by
    obtain ⟨s', stopped, stilled⟩ :=
      stop_done (s := { s with journal := ⟨.info, text⟩ :: s.journal }) beats view
    exact ⟨s', (Task.run_bind_done rfl _).trans (Task.adapt_done _ stopped), stilled⟩
  unfold parting
  rw [Task.run_bind_done (x := MonadState.get) (a := s) rfl]
  split
  · exact stops "Termination signal received"
  · exact stops "Run context cancelled"

/-- **The program ends well** at the instant at which its wait is over. -/
theorem closing_done (config : ServiceConfig) (kill : Wait Session) :
    ∃ s', (closing config kill view s).goOn = .done {} s' ∧ Stilled s.now s' := by
  obtain ⟨s', parted, stilled⟩ := parting_done beats view kill
  exact ⟨s', (Step.goOn_bind ((Task.run_bind_done (Task.attempt_done parted) _).trans rfl) _).trans rfl, stilled⟩

end Stop

/-! ## Looks -/

/-- A program that is looked at again and again, at these instants and with these signals come by then. -/
def watched (step : Step Session Ending) (looks : List (Nat × List Termination)) : Step Session Ending :=
  looks.foldl (fun step (instant, signals) => look instant signals step) step

/-- What comes of one signal. -/
theorem receive_run (signal : Termination) (s : Scene Session) :
    ((Session.receive signal).run s).2.now = s.now ∧
      ((Session.receive signal).run s).2.world.heartbeat = s.world.heartbeat ∧
      ((Session.receive signal).run s).2.world.ended = true := by
  cases ended : s.world.ended with
  | false =>
    simp only [Session.receive, StateT.run_bind, StateT.run_get, pure_bind, ended, Bool.not_false, if_true]
    exact ⟨rfl, rfl, rfl⟩
  | true =>
    simp only [Session.receive, StateT.run_bind, StateT.run_get, pure_bind, ended, Bool.not_true]
    exact ⟨rfl, rfl, ended⟩

/-- Signals leave the clock and the heartbeat alone. -/
theorem receive_all (signals : List Termination) (s : Scene Session) :
    ((signals.forM Session.receive).run s).2.now = s.now ∧
      ((signals.forM Session.receive).run s).2.world.heartbeat = s.world.heartbeat ∧
      ((signals.forM Session.receive).run s).2.world.ended = (s.world.ended || !signals.isEmpty) := by
  induction signals generalizing s with
  | nil => exact ⟨rfl, rfl, (Bool.or_false _).symm⟩
  | cons signal signals ih =>
    obtain ⟨now, heartbeat, ended⟩ := receive_run signal s
    obtain ⟨now', heartbeat', ended'⟩ := ih ((Session.receive signal).run s).2
    rw [ended, Bool.true_or] at ended'
    exact ⟨now'.trans now, heartbeat'.trans heartbeat, ended'.trans (Bool.or_true _).symm⟩

/-- **A program at its wait.**  Only one that cannot hear signals may have gone past them. -/
structure Attends (fault : Option String) (step : Step Session Ending) (s : Scene Session) : Prop where
  waits : ∃ config view, step = .wait ((waiting fault).or (Shutdown.cancelled Session.triggersCell .never)) s
    (closing config (waiting fault) view)
  beats : Beats s.world.heartbeat
  quiet : fault = none → s.world.ended = false

section Look

variable {fault : Option String} {step : Step Session Ending} {s : Scene Session} (attends : Attends fault step s)
include attends

/-- **What there is at a look**: time has gone by, and the heartbeat has beaten on. -/
theorem Attends.look_eq (instant : Nat) (signals : List Termination) : ∃ config view s',
    look instant signals step = (Step.wait ((waiting fault).or (Shutdown.cancelled Session.triggersCell .never)) s'
      (closing config (waiting fault) view)).goOn ∧ s'.now = instant ∧ Beats s'.world.heartbeat ∧
      (fault = none → s'.world.ended = !signals.isEmpty) := by
  obtain ⟨⟨config, view, rfl⟩, beats, quiet⟩ := attends
  obtain ⟨now, heartbeat, ended⟩ := receive_all signals (s.settle.advance instant)
  have passed : (s.settle.advance instant).world.heartbeat =
      (s.world.heartbeat.settle s.now).1.passed s.now instant :=
    Option.some.inj (session_hosts.pass s.now instant _ _ (session_hosts.settle s.now s.world _ rfl))
  have beats' := beats.goes_on s.now instant
  rw [← passed, ← heartbeat] at beats'
  refine ⟨config, view, _, rfl, now, beats', fun heard => ended.trans ?_⟩
  have before : (s.settle.advance instant).world.ended = false := quiet heard
  rw [before, Bool.false_or]

/-- **As long as no signal comes the program waits**, and for good if it cannot hear any. -/
theorem Attends.look_silent (instant : Nat) {signals : List Termination} (silent : fault = none → signals = []) :
    ∃ s', Attends fault (look instant signals step) s' := by
  obtain ⟨config, view, s', looked, -, beats, ended⟩ := attends.look_eq instant signals
  have quiet (heard : fault = none) : s'.world.ended = false := by rw [ended heard, silent heard]; rfl
  have going (s'' : Scene Session) (same : s''.world.ended = s'.world.ended) :
      ((waiting fault).or (Shutdown.cancelled Session.triggersCell .never)).isOver s'' = false := by
    rw [waiting_isOver, same]
    cases fault with
    | some reason => rfl
    | none => exact quiet rfl
  exact ⟨s', ⟨config, view, looked.trans (Step.goOn_waits (going s' rfl) (going s'.settle rfl))⟩, beats, quiet⟩

/-- **At the first signal the program stops its heartbeat and ends well.** -/
theorem Attends.look_signalled (heard : fault = none) (instant : Nat) {signals : List Termination}
    (signalled : signals ≠ []) : ∃ s', look instant signals step = .done {} s' ∧ Stilled instant s' := by
  obtain ⟨config, view, s', looked, now, beats, ended⟩ := attends.look_eq instant signals
  have finished : ((waiting fault).or (Shutdown.cancelled Session.triggersCell .never)).isOver s' = true := by
    rw [waiting_isOver, heard, ended heard]
    simp [signalled]
  obtain ⟨s'', done, stilled⟩ := closing_done beats view config (waiting fault)
  exact ⟨s'', (looked.trans (Step.goOn_met finished)).trans done, now ▸ stilled⟩

end Look

theorem Attends.watched_silent {fault : Option String} {step : Step Session Ending} {s : Scene Session}
    (attends : Attends fault step s) (looks : List (Nat × List Termination))
    (silent : fault = none → ∀ l ∈ looks, l.2 = []) : ∃ s', Attends fault (watched step looks) s' := by
  induction looks generalizing step s with
  | nil => exact ⟨s, attends⟩
  | cons l looks ih =>
    obtain ⟨s', attends'⟩ := attends.look_silent l.1 fun heard => silent heard l List.mem_cons_self
    exact ih attends' fun heard l' hl' => silent heard l' (List.mem_cons_of_mem _ hl')

/-- One that has ended is not changed by looking at it. -/
theorem watched_done (ending : Ending) (s : Scene Session) (looks : List (Nat × List Termination)) :
    watched (.done ending s) looks = .done ending s := by
  induction looks with
  | nil => rfl
  | cons l looks ih => exact ih

/-! ## How the program ends -/

/-- **A program that serves.**  Its heartbeat was started once. -/
structure Serves (fault : Option String) (step : Step Session Ending) : Prop where
  /-- It waits for as long as no signal comes, whenever it is looked at, and its heartbeat is not stopped; without a
  handler no signal comes at all. -/
  waits (looks : List (Nat × List Termination)) (silent : fault = none → ∀ l ∈ looks, l.2 = []) :
    ∃ w s resume, watched step looks = .wait w s resume ∧ s.world.heartbeat.current = some 0 ∧
      s.world.heartbeat.spawned = 1
  /-- At the first look that brings a signal it stops its heartbeat and ends well, whatever came with that one or comes
  later. -/
  ends (heard : fault = none) (before after : List (Nat × List Termination)) (silent : ∀ l ∈ before, l.2 = [])
    (instant : Nat) (signals : List Termination) (signalled : signals ≠ []) :
    ∃ s, watched step (before ++ (instant, signals) :: after) = .done {} s ∧ Stilled instant s

theorem Attends.serves {fault : Option String} {step : Step Session Ending} {s : Scene Session}
    (attends : Attends fault step s) : Serves fault step where
  waits looks silent := by
    obtain ⟨s', ⟨config, view, waits⟩, beats, -⟩ := attends.watched_silent looks silent
    exact ⟨_, s', _, waits, beats.current, beats.spawned⟩
  ends heard before after silent instant signals signalled := by
    obtain ⟨s', attends'⟩ := attends.watched_silent before fun _ => silent
    obtain ⟨s'', ended, stilled⟩ := attends'.look_signalled heard instant signalled
    refine ⟨s'', ?_, stilled⟩
    calc
      watched step (before ++ (instant, signals) :: after)
          = watched (look instant signals (watched step before)) after := List.foldl_append
      _ = watched (.done {} s'') after := by rw [ended]
      _ = .done {} s'' := watched_done _ _ _

/-- The program ends without a wait and without having started anything. -/
def EndsAtOnce (step : Step Session Ending) (ending : Ending) : Prop :=
  ∃ s, step = .done ending s ∧ s.world.heartbeat.spawned = 0

/-- How many heartbeats there have been by the first wait, or by the end where there is no wait. -/
def starts (step : Step Session Ending) : Nat := step.scene.world.heartbeat.spawned

theorem Attends.starts_pos {fault : Option String} {step : Step Session Ending} {s : Scene Session}
    (attends : Attends fault step s) : 0 < starts step := by
  obtain ⟨⟨config, view, rfl⟩, beats, -⟩ := attends
  show 0 < s.world.heartbeat.spawned
  rw [beats.spawned]
  exact Nat.one_pos

theorem EndsAtOnce.starts_eq {step : Step Session Ending} {ending : Ending} (h : EndsAtOnce step ending) :
    starts step = 0 := by
  obtain ⟨s, rfl, unstarted⟩ := h
  exact unstarted

theorem carryOut_fails (error : ProgramError) (fault : Option String) (binary : RunningBinary) :
    EndsAtOnce ((Outcome.fails error).carryOut fault binary) (.fails error.message) :=
  ⟨_, rfl, rfl⟩

theorem carryOut_prints (text : String) (fault : Option String) (binary : RunningBinary) :
    EndsAtOnce ((Outcome.prints text).carryOut fault binary) { printed := text } :=
  ⟨_, rfl, rfl⟩

/-! ## What decides -/

namespace Arguments

variable {env : Environment} {argv : List String} {read : FileReader} {a : Arguments} {us : List ArgumentUnit}

/-- No configuration that the program has is ever cancelled from outside. -/
theorem serviceConfig_context {config : ServiceConfig} (configured : a.serviceConfig read = .ok config) :
    config.context = .never := by
  obtain ⟨base, hbase, rfl⟩ := serviceConfig_eq_ok.1 configured
  show base.context = .never
  obtain ⟨path, -, loaded⟩ | ⟨-, rfl⟩ := baseConfig_cases hbase
  · exact ServiceConfig.load_context loaded
  · rfl

theorem goOn_run (a : Arguments) (config : ServiceConfig) (run : ∀ c, a.command = some c → c = .run) :
    a.goOn (.ok config) = .runs config a.debug := by
  unfold goOn
  cases hc : a.command with
  | none => rfl
  | some c =>
    obtain rfl := run c hc
    rfl

theorem goOn_refuses {a : Arguments} (config : ServiceConfig) {c : Command} (command : a.command = some c)
    (refused : c ≠ .run) : a.goOn (.ok config) = .fails (.noManager c) := by
  unfold goOn
  rw [command]
  cases c with
  | run => exact absurd rfl refused
  | _ => rfl

end Arguments

open Arguments (parse Says parse_row parse_eq_ok_iff)

section Hindrances

variable (env : Environment) (read : FileReader) (argv : List String)

/-- **Nothing stands in the way of a run.** -/
structure Unhindered (a : Arguments) (us : List ArgumentUnit) (config : ServiceConfig) : Prop where
  parsed : parse env argv = .ok a
  row : Row us argv.tail
  single : Single us
  version : .flag .version ∉ us
  help : .flag .help ∉ us
  configured : a.serviceConfig read = .ok config
  command : ∀ c, .command c ∈ us → c = .run

/-- **What stands in the way of a run where the command line parses**, the one before the other.  A plan that is settled
reads no file. -/
structure Hindrances (a : Arguments) (us : List ArgumentUnit) (step : Step Session Ending) : Prop where
  version : .flag .version ∈ us →
    plan env argv = .settled (.prints versionText) ∧ EndsAtOnce step { printed := versionText }
  help : .flag .version ∉ us → .flag .help ∈ us →
    plan env argv = .settled (.prints (usage (argv.headD Arguments.defaultName))) ∧
      EndsAtOnce step { printed := usage (argv.headD Arguments.defaultName) }
  configuration : .flag .version ∉ us → .flag .help ∉ us →
    ∀ e, a.serviceConfig read = .error e → EndsAtOnce step (.fails e.message)
  command : .flag .version ∉ us → .flag .help ∉ us → ∀ config c, a.serviceConfig read = .ok config →
    .command c ∈ us → c ≠ .run →
      EndsAtOnce step (.fails s!"'{c.word}' needs a native service manager, only 'run' is available on linux")

end Hindrances

section Decided

variable {env : Environment} {read : FileReader} {argv : List String} {a : Arguments} {us : List ArgumentUnit}

theorem outcome_settled {settled : Outcome} (h : plan env argv = .settled settled) (read : FileReader) :
    outcome env read argv = settled :=
  congrArg (Plan.outcome read) h

/-- A command line that asks for neither text leaves the matter to the configuration. -/
theorem outcome_unflagged (parsed : parse env argv = .ok a) (told : Says us env a) (version : .flag .version ∉ us)
    (help : .flag .help ∉ us) (read : FileReader) : outcome env read argv = a.goOn (a.serviceConfig read) :=
  outcome_of_parse parsed (Bool.eq_false_iff.2 fun set => version ((told.flags .version).1 set))
    (Bool.eq_false_iff.2 fun set => help ((told.flags .help).1 set))

variable (fault : Option String) (binary : RunningBinary)

theorem ends_refused {error : ArgumentFault} (refused : parse env argv = .error error) (read : FileReader) :
    plan env argv = .settled (.fails (.arguments error)) ∧
      EndsAtOnce ((outcome env read argv).carryOut fault binary) (.fails error.message) := by
  have planned : plan env argv = .settled (.fails (.arguments error)) := by
    unfold plan
    rw [refused]
  exact ⟨planned, outcome_settled planned read ▸ carryOut_fails _ fault binary⟩

theorem hindrances (parsed : parse env argv = .ok a) (told : Says us env a) (read : FileReader) :
    Hindrances env read argv a us ((outcome env read argv).carryOut fault binary) where
  version given := by
    have set : a.version = true := (told.flags .version).2 given
    have planned : plan env argv = .settled (.prints versionText) := by
      unfold plan
      rw [parsed]
      exact if_pos set
    exact ⟨planned, outcome_settled planned read ▸ carryOut_prints _ fault binary⟩
  help version given := by
    have unset : a.version = false := Bool.eq_false_iff.2 fun set => version ((told.flags .version).1 set)
    have set : a.help = true := (told.flags .help).2 given
    have planned : plan env argv = .settled (.prints (usage (argv.headD Arguments.defaultName))) := by
      unfold plan
      rw [parsed]
      simp only [unset, set, Bool.false_eq_true, if_false, if_true]
    exact ⟨planned, outcome_settled planned read ▸ carryOut_prints _ fault binary⟩
  configuration version help e failed := by
    rw [outcome_unflagged parsed told version help, failed]
    exact carryOut_fails (.load e) fault binary
  command version help config c configured given other := by
    rw [outcome_unflagged parsed told version help, configured,
      Arguments.goOn_refuses config ((told.command c).2 given) other]
    exact carryOut_fails (.noManager c) fault binary

theorem Unhindered.attends {config : ServiceConfig} (way : Unhindered env read argv a us config) :
    ∃ s, Attends fault ((outcome env read argv).carryOut fault binary) s := by
  have told : Says us env a := (parse_row way.row way.single).1 way.parsed
  have runs : outcome env read argv = .runs config a.debug := by
    rw [outcome_unflagged way.parsed told way.version way.help, way.configured]
    exact a.goOn_run config fun c given => way.command c ((told.command c).1 given)
  obtain ⟨s, waits, beats, quiet⟩ :=
    carryOut_runs (Arguments.serviceConfig_context way.configured) a.debug fault binary
  exact ⟨s, ⟨config, _, runs ▸ waits⟩, beats, fun _ => quiet⟩

end Decided

/-- **How the program ends**, for every command line, every environment and all files; `fault` says why the system does
not let it hear signals, if so.  The heartbeat is started exactly if nothing stands in the way of a run, and then the
program waits for a signal and ends well.  Else nothing is started and the first thing in the way decides: a fault of the
command line whatever else is on it, the version, the usage, a configuration that there is not, a command that needs a
manager. -/
theorem program_lifetime (env : Environment) (read : FileReader) (argv : List String) (fault : Option String)
    (binary : RunningBinary) :
    let step := (outcome env read argv).carryOut fault binary
    (0 < starts step ↔ ∃ a us config, Unhindered env read argv a us config) ∧
    (0 < starts step → Serves fault step) ∧
    (∀ error, parse env argv = .error error →
      plan env argv = .settled (.fails (.arguments error)) ∧ EndsAtOnce step (.fails error.message)) ∧
    ∀ a us, parse env argv = .ok a → Row us argv.tail → Single us → Hindrances env read argv a us step := by
  intro step
  have refused (error : ArgumentFault) (h : parse env argv = .error error) := ends_refused fault binary h read
  have hindered (a : Arguments) (us : List ArgumentUnit) (parsed : parse env argv = .ok a) (row : Row us argv.tail)
      (single : Single us) : Hindrances env read argv a us step :=
    hindrances fault binary parsed ((parse_row row single).1 parsed) read
  have unhindered (started : 0 < starts step) : ∃ a us config, Unhindered env read argv a us config := by
    -- whatever stood in the way would have ended the program before a start
    have never {ending : Ending} (h : EndsAtOnce step ending) : False := by
      rw [h.starts_eq] at started
      exact Nat.lt_irrefl 0 started
    cases parsed : parse env argv with
    | error error => exact (never (refused error parsed).2).elim
    | ok a =>
      obtain ⟨us, row, single, -⟩ := parse_eq_ok_iff.1 parsed
      have way := hindered a us parsed row single
      have version : .flag .version ∉ us := fun given => never (way.version given).2
      have help : .flag .help ∉ us := fun given => never (way.help version given).2
      cases configured : a.serviceConfig read with
      | error e => exact (never (way.configuration version help e configured)).elim
      | ok config =>
        have command (c : Command) (given : .command c ∈ us) : c = .run :=
          by_contra fun other => never (way.command version help config c configured given other)
        exact ⟨a, us, config, parsed, row, single, version, help, configured, command⟩
  refine ⟨⟨unhindered, ?_⟩, ?_, refused, hindered⟩
  · rintro ⟨a, us, config, way⟩
    obtain ⟨s, attends⟩ := way.attends fault binary
    exact attends.starts_pos
  · intro started
    obtain ⟨a, us, config, way⟩ := unhindered started
    obtain ⟨s, attends⟩ := way.attends fault binary
    exact attends.serves

/-- The environment gives the configuration file of a run that two signals end at the third look; and a command that needs
a manager, with a file that is not there, for which it also asks for the usage, or is at fault elsewhere. -/
theorem program_lifetime_signalled :
    let read : FileReader := fun path =>
      if path = "svc.json" then .ok "\x7b\"name\": \"svcA\"\x7d" else .error .notFound
    let env : Environment := { configPath := some "svc.json", name := none }
    let after (argv : List String) := (outcome env read argv).carryOut none (.ok "/usr/bin/svc")
    let install := ["svc", "install", "--config", "none.json"]
    0 < starts (after ["svc", "--debug", "run"]) ∧
      (∃ s, watched (after ["svc", "--debug", "run"])
          [(1000, []), (61000, []), (62500, [.interrupt, .terminate]), (70000, [.terminate])] = .done {} s ∧
        Stilled 62500 s) ∧
      EndsAtOnce (after install) (.fails "Failed to read service configuration \"none.json\"") ∧
      plan env (install ++ ["-h"]) = .settled (.prints (usage "svc")) ∧
      EndsAtOnce (after (install ++ ["-h"])) { printed := usage "svc" } ∧
      EndsAtOnce (after (install ++ ["-h", "-v"])) { printed := versionText } ∧
      EndsAtOnce (after (install ++ ["-h", "-v", "run"])) (.fails (ArgumentFault.unknown "run").message) := by
  intro read env after install
  have row {argv : List String} {us : List ArgumentUnit} (h : units false argv = .ok us) : Row us argv ∧ Single us :=
    units_eq_ok_iff.1 h
  have loads : (ServiceConfig.load read "svc.json").toOption.isSome = true := by decide +kernel
  obtain ⟨base, hload⟩ : ∃ base, ServiceConfig.load read "svc.json" = .ok base := by
    cases h : ServiceConfig.load read "svc.json" with
    | error e =>
      rw [h] at loads
      cases loads
    | ok base => exact ⟨base, rfl⟩
  have hrun : 0 < starts (after ["svc", "--debug", "run"]) ∧ Serves none (after ["svc", "--debug", "run"]) := by
    let a : Arguments := { command := some .run, configPath := some "svc.json", debug := true }
    obtain ⟨row, single⟩ := row (show units false ["--debug", "run"] = .ok [.flag .debug, .command .run] from rfl)
    obtain ⟨starts_iff, serves, -⟩ := program_lifetime env read ["svc", "--debug", "run"] none (.ok "/usr/bin/svc")
    have started := starts_iff.2 ⟨a, _, _, rfl, row, single, by decide, by decide,
      Arguments.serviceConfig_eq_ok.2 ⟨base, hload, rfl⟩, by simp⟩
    exact ⟨started, serves started⟩
  have hinstall (flags : List String) (a : Arguments) (us : List ArgumentUnit)
      (parsed : parse env (install ++ flags) = .ok a) (cut : units false (install ++ flags).tail = .ok us) :
      Hindrances env read (install ++ flags) a us (after (install ++ flags)) := by
    obtain ⟨-, -, -, hindered⟩ := program_lifetime env read (install ++ flags) none (.ok "/usr/bin/svc")
    exact hindered a us parsed (row cut).1 (row cut).2
  obtain ⟨-, -, atFault, -⟩ := program_lifetime env read (install ++ ["-h", "-v", "run"]) none (.ok "/usr/bin/svc")
  obtain ⟨planned, helped⟩ := (hinstall ["-h"] _ _ rfl rfl).help (by decide) (by decide)
  refine ⟨hrun.1, ?_, ?_, planned, helped, ?_, ?_⟩
  · exact hrun.2.ends rfl [(1000, []), (61000, [])] [(70000, [.terminate])] (by simp) 62500 _ (by simp)
  · exact (hinstall [] _ _ rfl rfl).configuration (by decide) (by decide) ⟨"none.json", .unreadable .notFound⟩ rfl
  · exact ((hinstall ["-h", "-v"] _ _ rfl rfl).version (by decide)).2
  · exact (atFault (.unknown "run") rfl).2

end CommandLine

end ServiceControl
