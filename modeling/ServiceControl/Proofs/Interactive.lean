import ServiceControl.Controller
import ServiceControl.Proofs.Cancellations
import ServiceControl.Proofs.Passages
import ServiceControl.Proofs.Scripted.Conduct
/-!
# Interactive runs

A run in a session of a user, with triggers fired and let go of beside it.  An account keeps the calls of the workload, the
setting up of the kill signal and the return of the run with their times.  Main statement: the account is fixed by how long
the callbacks take and how they end, by when the kill signal comes, and by when the context is cancelled
(`attended_account`).
-/
namespace ServiceControl.Interactive

open Cell (Succeeds)
open Shutdown (Context Triggers)

variable {γ κ S E : Type}

/-! ## Accounts -/

inductive Happening
  | startCalled
  /-- The kill signal was set up. -/
  | signalCreated
  | stopCalled
  | returned (result : Except ServiceError Unit)

/-- What has happened, with its time and the latest first. -/
abbrev Account := List (Nat × Happening)

/-- Puts what happens on account.  The place of the account also holds what the workload reads and writes. -/
def note (own : Cell γ (Account × κ)) (h : Happening) : Act γ Unit := do
  let now ← Act.now
  Act.update own fun (a, k) => ((now, h) :: a, k)

/-- A workload with its calls put on account. -/
def noting (own : Cell γ (Account × κ)) (w : Workload γ) : Workload γ where
  start view := do
    note own .startCalled
    w.start view
  stop view := do
    note own .stopCalled
    w.stop view

/-- A controller that is kept account of. -/
def observed (own : Cell γ (Account × κ)) (c : Controller γ S E) : Controller γ S E :=
  { c with
    workload := noting own c.workload
    killSignal := do
      note own .signalCreated
      c.killSignal }

/-- Its run, and when that returns. -/
def watched (own : Cell γ (Account × κ)) (c : Controller γ S E) : Task γ Unit := do
  note own (.returned (← (observed own c).run.run))

/-! ## Runs -/

/-- The callback lasts this long and ends so, whatever goes on beside it, and does not touch the account. -/
def Lasts (d : Sides γ (Account × κ) Hands) (x : Callback γ Unit) (ms : Nat) (result : Except Failure Unit)
    (before after : κ → Prop) : Prop :=
  ∀ a : Account, d.Lasting ms (fun b => b.1 = a ∧ before b.2) x.run fun r b => r = result ∧ b.1 = a ∧ after b.2

/-- The kill signal comes this long after it was set up, or never. -/
def Signals (d : Sides γ (Account × κ) Hands) (x : Act γ (Wait γ)) (delay : Option Nat) : Prop :=
  ∀ s, (x.run s).1 = ⟨delay.map (s.now + ·), fun _ => false⟩ ∧ d.own.sight (x.run s).2 = d.own.sight s ∧
    d.outside.get (x.run s).2.world = d.outside.get s.world

/-- The controller runs in the session of a user.  Nothing but the account and the workload touches the one place, and
nothing but what is done with triggers the other. -/
structure Attended [Background γ] (c : Controller γ S E) (own : Cell γ (Account × κ)) (outside : Cell γ Hands) :
    Prop where
  interactive : c.interactive = true
  quiet : own.Undisturbed
  quietOutside : outside.Undisturbed
  ownApart : own.Apart outside
  outsideApart : outside.Apart own
  triggers : ∀ w, c.triggers.get w = (outside.get w).triggers
  ownErrors : own.Apart c.errors
  outsideErrors : outside.Apart c.errors

section Scripted

open Workload (Scripted)
open Workload.Scripted (outcome)

variable {own : Cell γ (Account × Scripted)} {outside : Cell γ Hands} {context : Context} {view : View γ}

/-- A scripted workload beside the account. -/
def scriptCell (own : Cell γ (Account × Scripted)) : Cell γ Scripted := own.inside ⟨(·.2), fun k x => (x.1, k)⟩

theorem respond_eq (place : Cell γ Scripted) (stopping : Bool) (told : Option (String × String)) :
    Scripted.respond place stopping told = (do
      let now ← Act.now
      let response ← Act.takeFrom place (Scripted.call stopping ⟨stopping, now, told⟩)
      (Task.sleep response.ms : Task γ Unit)
      liftM (outcome response)) := by
  unfold Scripted.respond outcome
  refine congrArg _ (funext fun now => congrArg _ (funext fun response => congrArg _ (funext fun _ => ?_)))
  cases response.failure <;> rfl

variable (lawful : own.Lawful) (apart : outside.Apart own) (stopping : Bool) {r : Workload.Response}
  {before after : Scripted → Prop}
  (responds : ∀ k sighting, before k → (k.call stopping sighting).1 = r ∧ after (k.call stopping sighting).2)
include lawful apart responds

theorem respond_lasts (told : Option (String × String)) :
    Lasts (sides own outside context) (Scripted.respond (scriptCell own) stopping told) r.ms (outcome r) before after := by
  rw [respond_eq]
  intro a s hs
  have htake : (sides own outside context).Lasting 0 (fun b => b.1 = a ∧ before b.2)
      (liftM (Act.takeFrom (scriptCell own) (Scripted.call stopping ⟨stopping, s.now, told⟩) : Act γ _) : Task γ _)
      fun response b => response = r ∧ b.1 = a ∧ after b.2 := by
    refine .act ?_
    rintro s' ⟨rfl, hk⟩
    obtain ⟨response, left⟩ := responds _ ⟨stopping, s.now, told⟩ hk
    refine ⟨?_, rfl, apart _ _⟩
    show _ = r ∧ (own.get (own.set _ s'.world)).1 = _ ∧ after (own.get (own.set _ s'.world)).2
    rw [lawful.get_set]
    exact ⟨response, rfl, left⟩
  have htask : (sides own outside context).Lasting (0 + (r.ms + 0)) (fun b => b.1 = a ∧ before b.2)
      ((liftM (Act.takeFrom (scriptCell own) (Scripted.call stopping ⟨stopping, s.now, told⟩) : Act γ _) :
        Callback γ _) >>= fun response => liftM (Task.sleep response.ms : Task γ Unit) >>= fun _ =>
          liftM (outcome response)).run fun res b => res = outcome r ∧ b.1 = a ∧ after b.2 := by
    refine htake.lift_bind fun response => ?_
    rintro s' ⟨rfl, hb⟩
    refine (Sides.Lasting.sleep (P := fun b => b.1 = a ∧ after b.2) response.ms).lift_bind (fun _ => ?_) s' hb
    exact .pure (outcome response)
  rw [Nat.zero_add, Nat.add_zero] at htask
  exact htask s hs

/-- **A scripted callback lasts as long as its response says.** -/
theorem scripted_lasts (blind : ∀ k, before k → k.observes = false) :
    Lasts (sides own outside context) (Scripted.callback (scriptCell own) stopping view) r.ms (outcome r) before after := by
  rintro a s ⟨rfl, hk⟩
  have quiet : (own.get s.world).2.observes = false := blind _ hk
  have hrun : (Scripted.callback (scriptCell own) stopping view).run s =
      (Scripted.respond (scriptCell own) stopping none).run s := by
    have hlook : (Scripted.callback (scriptCell own) stopping view).run s =
        (if (own.get s.world).2.observes then
          (liftM (some <$> Scripted.look view) : Callback γ _) >>= Scripted.respond (scriptCell own) stopping
        else pure none >>= Scripted.respond (scriptCell own) stopping).run s := rfl
    rw [hlook, quiet]
    rfl
  rw [hrun]
  exact respond_lasts lawful apart stopping responds none _ s ⟨rfl, hk⟩

end Scripted

section Run

variable [Background γ] {c : Controller γ S E} {own : Cell γ (Account × κ)} {outside : Cell γ Hands}
  {fires : Option Nat} {now : Nat} {a : Account} {k : κ} (h : Attended c own outside)
include h

theorem Attended.still : (sides own outside c.config.context).Still := ⟨h.quiet.toStill, h.quietOutside.toStill⟩

theorem note_passes (happening : Happening) :
    (sides own outside c.config.context).Passes fires (· = ⟨now, a, k⟩) (liftM (note own happening) : Task γ Unit)
      fun _ σ => σ = ⟨now, (now, happening) :: a, k⟩ := by
  refine .act fun s hs => ?_
  obtain ⟨rfl, mine⟩ := Sight.mk.inj hs
  have held : own.get s.world = (a, k) := mine
  refine ⟨?_, rfl, h.outsideApart _ _⟩
  show Sight.mk s.now (own.get (own.set _ s.world)) = _
  rw [h.quiet.get_set, held]

/-- A callback is put on account before it begins. -/
theorem callback_comes {x : Callback γ Unit} {ms : Nat} {result : Except Failure Unit} {before after : κ → Prop}
    (lasts : Lasts (sides own outside c.config.context) x ms result before after) (hk : before k)
    (happening : Happening) :
    (sides own outside c.config.context).Comes fires (· = ⟨now, a, k⟩) (Workload.asOp do note own happening; x)
      fun r σ => r = result.mapError .workload ∧ σ.now = now + ms ∧ σ.held.1 = (now, happening) :: a ∧
        after σ.held.2 := by
  have hx : (sides own outside c.config.context).Comes fires (· = ⟨now, (now, happening) :: a, k⟩) x fun r σ =>
      σ.now = now + ms ∧ r = result ∧ σ.held.1 = (now, happening) :: a ∧ after σ.held.2 := by
    refine ((lasts ((now, happening) :: a)).passes h.still now).strengthen ?_
    rintro σ rfl
    exact ⟨rfl, rfl, hk⟩
  refine .adapt ServiceError.workload ((Sides.Comes.lift (note_passes h happening)).bind_ok fun _ => hx) ?_
  rintro r σ ⟨later, rfl, told, hafter⟩
  exact ⟨rfl, later, told, hafter⟩

variable {s p : Nat} {started stopped : Except Failure Unit} {idle up down : κ → Prop} {kill : Option Nat}

/-- A run up to the end of the start callback. -/
def opening (c : Controller γ S E) : Op γ Unit := do
  Act.update c.errors fun _ => ErrorBox.empty
  Act.info s!"Running {c.name} interactively"
  Workload.asOp (c.workload.start c.view)

/-- A run once the workload has started. -/
def attend (c : Controller γ S E) : Op γ Unit := do
  let kill ← c.killSignal
  Task.await (kill.or (Shutdown.cancelled c.triggers c.config.context))
  if kill.isOver (← get) then Act.info "Termination signal received" else Act.info "Run context cancelled"
  Workload.asOp (c.workload.stop c.view)

omit h [Background γ] in
theorem run_eq (interactive : c.interactive = true) : c.run = opening c >>= fun _ => attend c := by
  unfold Controller.run opening
  rw [interactive, if_pos rfl, bind_assoc]
  refine congrArg _ (funext fun _ => ?_)
  rw [bind_assoc]
  rfl

theorem opening_comes (starts : Lasts (sides own outside c.config.context) (c.workload.start c.view) s started idle up)
    (hk : idle k) :
    (sides own outside c.config.context).Comes fires (· = ⟨now, a, k⟩) (opening (observed own c)) fun r σ =>
      r = started.mapError .workload ∧ σ.now = now + s ∧ σ.held.1 = (now, .startCalled) :: a ∧ up σ.held.2 := by
  have hclear : (sides own outside c.config.context).Passes fires (· = ⟨now, a, k⟩)
      (Act.update c.errors fun _ => ErrorBox.empty : Task γ Unit) fun _ σ => σ = ⟨now, a, k⟩ := by
    refine .act fun s hs => ⟨?_, rfl, h.outsideErrors _ _⟩
    rw [← hs]
    exact congrArg (Sight.mk s.now) (h.ownErrors _ _)
  unfold opening
  refine (Sides.Comes.lift hclear).bind_ok fun _ => ?_
  refine (Sides.Comes.log _ _).bind_ok fun _ => ?_
  exact callback_comes h starts hk .startCalled

/-- The kill signal is set up, and what is waited for then. -/
theorem signal_passes (signals : Signals (sides own outside c.config.context) c.killSignal kill) :
    (sides own outside c.config.context).Passes fires (· = ⟨now, a, k⟩) (liftM (observed own c).killSignal : Task γ _)
      fun w σ => w = ⟨kill.map (now + ·), fun _ => false⟩ ∧ σ = ⟨now, (now, .signalCreated) :: a, k⟩ := by
  have hsignal : (sides own outside c.config.context).Passes fires (· = ⟨now, (now, .signalCreated) :: a, k⟩)
      (liftM c.killSignal : Task γ _)
      fun w σ => w = ⟨kill.map (now + ·), fun _ => false⟩ ∧ σ = ⟨now, (now, .signalCreated) :: a, k⟩ := by
    refine .act fun s hs => ?_
    obtain ⟨wait, seen, same⟩ := signals s
    obtain ⟨rfl, -⟩ := Sight.mk.inj hs
    exact ⟨⟨wait, seen.trans hs⟩, congrArg Sight.now seen, same⟩
  exact (note_passes h .signalCreated).bind fun _ => hsignal

/-- What an interactive run waits for. -/
def ending (c : Controller γ S E) (kill : Option Nat) (now : Nat) : Wait γ :=
  (Wait.mk (kill.map (now + ·)) fun _ => false).or (Shutdown.cancelled c.triggers c.config.context)

theorem ending_awaits (b : Account × κ) :
    (sides own outside c.config.context).Awaits b (ending c kill now) true := by
  refine ⟨fun x _ => ?_⟩
  show (false || (c.triggers.get x).isCancelled c.config.context) = _
  rw [h.triggers]
  rfl

omit h [Background γ] in
theorem ends_ending (fires : Option Nat) :
    Sides.ends fires (ending c kill now) true = Wait.sooner (kill.map (now + ·)) fires := by
  show Wait.sooner (Wait.sooner (kill.map (now + ·)) none) fires = _
  cases kill <;> rfl

/-- **The workload is stopped once the kill signal comes or the context is cancelled.** -/
theorem attend_comes (signals : Signals (sides own outside c.config.context) c.killSignal kill)
    (stops : Lasts (sides own outside c.config.context) (c.workload.stop c.view) p stopped up down) (hk : up k) {t : Nat}
    (ht : Wait.sooner (kill.map (now + ·)) fires = some t) :
    (sides own outside c.config.context).Comes fires (· = ⟨now, a, k⟩) (attend (observed own c)) fun r σ =>
      r = stopped.mapError .workload ∧ σ.now = max now t + p ∧
        σ.held.1 = (max now t, .stopCalled) :: (now, .signalCreated) :: a := by
  unfold attend
  refine (Sides.Comes.lift (signal_passes h signals)).bind_ok fun w => .of_each ?_
  rintro σ ⟨rfl, rfl⟩
  have hwait : (sides own outside c.config.context).Passes fires (· = ⟨now, (now, .signalCreated) :: a, k⟩)
      (Task.await (ending c kill now)) fun _ σ => σ = ⟨max now t, (now, .signalCreated) :: a, k⟩ :=
    .await h.still (ending_awaits h _) ((ends_ending fires).trans ht)
  refine (Sides.Comes.lift hwait).bind_ok fun _ => .get fun scene => ?_
  have hstop : (sides own outside c.config.context).Comes fires
      (· = ⟨max now t, (now, .signalCreated) :: a, k⟩) (Workload.asOp ((observed own c).workload.stop c.view))
      fun r σ => r = stopped.mapError .workload ∧ σ.now = max now t + p ∧
        σ.held.1 = (max now t, .stopCalled) :: (now, .signalCreated) :: a := by
    refine (callback_comes h stops hk .stopCalled).weaken ?_
    rintro r σ ⟨result, later, told, -⟩
    exact ⟨result, later, told⟩
  dsimp only
  split
  · exact (Sides.Comes.log _ _).bind_ok fun _ => hstop
  · exact (Sides.Comes.log _ _).bind_ok fun _ => hstop

/-- **Without either the run waits for good.** -/
theorem attend_stays (signals : Signals (sides own outside c.config.context) c.killSignal kill)
    (never : Wait.sooner (kill.map (now + ·)) fires = none) :
    (sides own outside c.config.context).Stays fires (· = ⟨now, a, k⟩) (attend (observed own c)).run fun b =>
      b = ((now, .signalCreated) :: a, k) := by
  unfold attend
  refine (Sides.Comes.lift (signal_passes h signals)).bind_stays fun w => .of_each ?_
  rintro σ ⟨rfl, rfl⟩
  have hwait : (sides own outside c.config.context).Stays fires (· = ⟨now, (now, .signalCreated) :: a, k⟩)
      (Task.await (ending c kill now)) fun b => b = ((now, .signalCreated) :: a, k) :=
    .await h.still (ending_awaits h _) ((ends_ending fires).trans never)
  exact hwait.lift_bind

/-! Whole runs -/

/-- The return of a run is the last on its account. -/
theorem watched_passes {result : Except ServiceError Unit} {later : Nat} {told : Account}
    (hrun : (sides own outside c.config.context).Comes fires (· = ⟨now, a, k⟩) (observed own c).run fun r σ =>
      r = result ∧ σ.now = later ∧ σ.held.1 = told) :
    (sides own outside c.config.context).Passes fires (· = ⟨now, a, k⟩) (watched own c) fun _ σ =>
      σ.held.1 = (later, .returned result) :: told := by
  refine Sides.Passes.bind hrun fun r => .of_each ?_
  rintro ⟨now', a', k'⟩ ⟨rfl, rfl, rfl⟩
  refine (note_passes h _).weaken ?_
  rintro _ σ rfl
  rfl

section Whole

variable (starts : Lasts (sides own outside c.config.context) (c.workload.start c.view) s started idle up) (hk : idle k)
include starts hk

theorem watched_failed {failure : Failure} (failed : started = .error failure) :
    (sides own outside c.config.context).Passes fires (· = ⟨now, a, k⟩) (watched own c) fun _ σ =>
      σ.held.1 = [(now + s, .returned (.error (.workload failure))), (now, .startCalled)] ++ a := by
  have hrun : (sides own outside c.config.context).Comes fires (· = ⟨now, a, k⟩) (observed own c).run fun r σ =>
      r = .error (.workload failure) ∧ σ.now = now + s ∧ σ.held.1 = (now, .startCalled) :: a := by
    rw [run_eq (c := observed own c) h.interactive]
    refine (opening_comes h starts hk).bind (fun _ => .of_each ?_) ?_
    · rintro σ ⟨result, -⟩
      rw [failed] at result
      cases result
    · rintro e σ ⟨result, later, told, -⟩
      rw [failed] at result
      exact ⟨congrArg _ (Except.error.inj result), later, told⟩
  exact watched_passes h hrun

theorem opening_succeeds (ok : started = .ok ()) :
    (sides own outside c.config.context).Comes fires (· = ⟨now, a, k⟩) (opening (observed own c))
      (Succeeds fun _ σ => σ.now = now + s ∧ σ.held.1 = (now, .startCalled) :: a ∧ up σ.held.2) := by
  refine (opening_comes h starts hk).weaken fun r σ hr => ?_
  obtain ⟨rfl, rest⟩ := hr
  rw [ok]
  exact rest

variable (signals : Signals (sides own outside c.config.context) c.killSignal kill)
  (stops : Lasts (sides own outside c.config.context) (c.workload.stop c.view) p stopped up down)
include signals

include stops in
theorem watched_stopped (ok : started = .ok ()) {t : Nat}
    (ht : Wait.sooner (kill.map (now + s + ·)) fires = some t) :
    (sides own outside c.config.context).Passes fires (· = ⟨now, a, k⟩) (watched own c) fun _ σ =>
      σ.held.1 = [(max (now + s) t + p, .returned (stopped.mapError .workload)), (max (now + s) t, .stopCalled),
        (now + s, .signalCreated), (now, .startCalled)] ++ a := by
  have hrun : (sides own outside c.config.context).Comes fires (· = ⟨now, a, k⟩) (observed own c).run fun r σ =>
      r = stopped.mapError .workload ∧ σ.now = max (now + s) t + p ∧
        σ.held.1 = [(max (now + s) t, .stopCalled), (now + s, .signalCreated), (now, .startCalled)] ++ a := by
    rw [run_eq (c := observed own c) h.interactive]
    refine (opening_succeeds h starts hk ok).bind_ok fun _ => .of_each ?_
    rintro ⟨now', a', k'⟩ ⟨rfl, rfl, hup⟩
    exact attend_comes h signals stops hup ht
  exact watched_passes h hrun

theorem watched_stays (ok : started = .ok ()) (never : Wait.sooner (kill.map (now + s + ·)) fires = none) :
    (sides own outside c.config.context).Stays fires (· = ⟨now, a, k⟩) (watched own c) fun b =>
      b.1 = [(now + s, .signalCreated), (now, .startCalled)] ++ a := by
  have hrun : (sides own outside c.config.context).Stays fires (· = ⟨now, a, k⟩) (observed own c).run.run fun b =>
      b.1 = [(now + s, .signalCreated), (now, .startCalled)] ++ a := by
    rw [run_eq (c := observed own c) h.interactive]
    refine (opening_succeeds h starts hk ok).bind_stays fun _ => .of_each ?_
    rintro ⟨now', a', k'⟩ ⟨rfl, rfl, -⟩
    refine (attend_stays h signals never).weaken ?_
    rintro b rfl
    rfl
  exact hrun.bind

end Whole

end Run

/-- The controller over another gateway, with the same view of its service for its workload. -/
def through {S' E' : Type} (c : Controller γ S E) (gateway : Gateway γ S' E') : Controller γ S' E' where
  gateway
  workload := {
    start := fun _ => c.workload.start c.view
    stop := fun _ => c.workload.stop c.view }
  config := c.config
  interactive := c.interactive
  terminate := c.terminate
  killSignal := c.killSignal
  errors := c.errors
  triggers := c.triggers
  binary := c.binary
  tie := c.tie

/-- **What an interactive run does**, whatever is done with triggers beside it.  A workload that does not start ends the
run.  One that does is stopped once, when the kill signal comes or the context is cancelled and not before it has started;
the run returns when it has stopped.  If neither happens the run does not return.  Of its gateway the run makes no use. -/
theorem attended_account [Background γ] {c : Controller γ S E} {own : Cell γ (Account × κ)} {outside : Cell γ Hands}
    (h : Attended c own outside) {s p : Nat} {started stopped : Except Failure Unit} {idle up down : κ → Prop}
    {kill : Option Nat}
    (starts : Lasts (sides own outside c.config.context) (c.workload.start c.view) s started idle up)
    (stops : Lasts (sides own outside c.config.context) (c.workload.stop c.view) p stopped up down)
    (signals : Signals (sides own outside c.config.context) c.killSignal kill) (scene : Scene γ)
    (hk : idle (own.get scene.world).2) (events : List (Nat × Deed)) :
    let past := (own.get scene.world).1
    let now := scene.now
    let cancellation := cancelled (outside.get scene.world) now events c.config.context
    let run := ((watched own c).both (deeds outside events)).finish scene
    let account := (own.get run.2.world).1
    (match started, Wait.sooner (kill.map (now + s + ·)) cancellation with
      | .error failure, _ => run.1.isSome ∧
        account = [(now + s, .returned (.error (.workload failure))), (now, .startCalled)] ++ past
      | .ok _, some t => let asked := max (now + s) t
        run.1.isSome ∧ account = [(asked + p, .returned (stopped.mapError .workload)), (asked, .stopCalled),
          (now + s, .signalCreated), (now, .startCalled)] ++ past
      | .ok _, none => run.1 = none ∧ account = [(now + s, .signalCreated), (now, .startCalled)] ++ past) ∧
    ∀ {S' E' : Type} (gateway : Gateway γ S' E'), (through c gateway).run = c.run := by
  intro past now cancellation run account
  refine ⟨?_, fun gateway => ?_⟩
  · have ready : (sides own outside c.config.context).Ready cancellation (deeds outside events) scene.now
        (outside.get scene.world) :=
      deeds_ready h.quietOutside.toLawful h.ownApart events now _
    have seen : own.sight scene = ⟨now, past, (own.get scene.world).2⟩ := rfl
    cases started with
    | error failure =>
      obtain ⟨_, _, s', σ, done, told, mine⟩ := (watched_failed h starts hk rfl).finishes h.still seen ready
      have hrun : run = (some _, s') := done
      show run.1.isSome ∧ (own.get run.2.world).1 = _
      rw [hrun]
      exact ⟨rfl, (congrArg Prod.fst mine).trans told⟩
    | ok _ =>
      cases ht : Wait.sooner (kill.map (now + s + ·)) cancellation with
      | some t =>
        obtain ⟨_, _, s', σ, done, told, mine⟩ :=
          (watched_stopped h starts hk signals stops rfl ht).finishes h.still seen ready
        have hrun : run = (some _, s') := done
        show run.1.isSome ∧ (own.get run.2.world).1 = _
        rw [hrun]
        exact ⟨rfl, (congrArg Prod.fst mine).trans told⟩
      | none =>
        obtain ⟨s', stays, told⟩ := (watched_stays h starts hk signals rfl ht).finishes seen ready
        have hrun : run = (none, s') := stays
        show run.1 = none ∧ (own.get run.2.world).1 = _
        rw [hrun]
        exact ⟨rfl, told⟩
  · rw [run_eq h.interactive, run_eq (c := through c gateway) h.interactive]
    rfl

section Staged

open Scenario (Role Stage)
open Workload (Scripted)

/-- The kill signal of a role comes as the role says, and not where it cannot be set up. -/
theorem killSignal_signals {G : Type} {own : Cell (Stage G) (Account × κ)} {outside : Cell (Stage G) Hands}
    {context : Context} (role : Role) : Signals (sides own outside context) role.killSignal
      (match role.killFault with | some _ => none | none => role.killAfter) := by
  intro s
  unfold Role.killSignal
  cases role.killFault with
  | some reason => exact ⟨rfl, rfl, rfl⟩
  | none => cases role.killAfter <;> exact ⟨rfl, rfl, rfl⟩

/-- A trigger that is fired and let go of during a slow start ends the run once the start is over. -/
theorem attended_account_slow :
    let gateway : Cell (Stage (Scripted.Machine × (Account × Scripted) × List Nat)) _ :=
      Stage.managerCell.inside ⟨(·.1), fun m w => (m, w.2)⟩
    let own := (Stage.managerCell (G := Scripted.Machine × (Account × Scripted) × List Nat)).inside
      ⟨(·.2.1), fun b w => (w.1, b, w.2.2)⟩
    let outside : Cell (Stage (Scripted.Machine × (Account × Scripted) × List Nat)) Hands :=
      ⟨fun w => ⟨w.triggers, w.manager.2.2⟩,
        fun h w => { w with triggers := h.triggers, manager := (w.manager.1, w.manager.2.1, h.held) }⟩
    let role : Role := { config := { name := "svcA", context := .of 0 }, interactive := true, killAfter := some 9000 }
    let c := { role.controller 0 (Scripted.gateway gateway) (Scripted.terminator gateway) (.ok "svc") with
      workload := Workload.scripted (scriptCell own) }
    let script : Scripted := { onStart := [⟨300, none⟩], onStop := [⟨50, some ⟨"stop exploded", []⟩⟩] }
    let d := sides own outside c.config.context
    let up (k : Scripted) := k.observes = false ∧ k.onStop = script.onStop
    let scene : Scene (Stage (Scripted.Machine × (Account × Scripted) × List Nat)) :=
      { world := { manager := ({}, ([], script), [0]), triggers := { count := 1 } } }
    let run := ((watched own c).both (deeds outside [(100, .fire 0), (50, .letGo 0)])).finish scene
    Attended c own outside ∧ Lasts d (c.workload.start c.view) 300 (.ok ()) (· = script) up ∧
      Lasts d (c.workload.stop c.view) 50 (.error ⟨"stop exploded", []⟩) up (fun _ => True) ∧
      Signals d c.killSignal (some 9000) ∧ run.1.isSome ∧
      (own.get run.2.world).1 = [(350, .returned (.error (.workload ⟨"stop exploded", []⟩))), (300, .stopCalled),
        (300, .signalCreated), (0, .startCalled)] := by
  intro gateway own outside role c script d up scene run
  have quiet : own.Undisturbed := Cell.inside_undisturbed Stage.managerCell_undisturbed
    ⟨fun _ _ => rfl, fun _ _ _ => rfl, fun _ => rfl⟩
  have apart : outside.Apart own := fun _ _ => rfl
  have attended : Attended c own outside := {
    interactive := rfl
    quiet
    quietOutside := {
      get_set := fun _ _ => rfl
      set_set := fun _ _ _ => rfl
      set_get := fun _ => rfl
      get_settle := fun _ _ => rfl
      get_pass := fun _ _ _ => rfl }
    ownApart := fun _ _ => rfl
    outsideApart := apart
    triggers := fun _ => rfl
    ownErrors := fun _ _ => rfl
    outsideErrors := fun _ _ => rfl }
  have starts : Lasts d (c.workload.start c.view) 300 (.ok ()) (· = script) up := by
    refine scripted_lasts (r := ⟨300, none⟩) quiet.toLawful apart false ?_ ?_
    · rintro _ sighting rfl
      exact ⟨rfl, rfl, rfl⟩
    · rintro _ rfl
      rfl
  have stops : Lasts d (c.workload.stop c.view) 50 (.error ⟨"stop exploded", []⟩) up (fun _ => True) := by
    refine scripted_lasts (r := ⟨50, some ⟨"stop exploded", []⟩⟩) quiet.toLawful apart true ?_ fun _ hk => hk.1
    rintro k sighting ⟨-, left⟩
    refine ⟨?_, trivial⟩
    show k.onStop.headD {} = _
    rw [left]
    rfl
  have signals : Signals d c.killSignal (some 9000) := killSignal_signals role
  have told := (attended_account attended starts stops signals scene rfl [(100, .fire 0), (50, .letGo 0)]).1
  have whole : run = ((watched own c).both (deeds outside [(100, .fire 0), (50, .letGo 0)])).finish scene := rfl
  rw [← whole] at told
  -- what is told of the run is to be compared, and not the run itself
  clear_value run
  exact ⟨attended, starts, stops, signals, told⟩

end Staged

end ServiceControl.Interactive
