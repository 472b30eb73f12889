import ServiceControl.Proofs.Running
import ServiceControl.Proofs.Windows.Runs
/-!
# The slot of the dispatches

All dispatches hand their loops over in one slot.  Whatever Windows does, a dispatch comes to what its own loop comes to
when the first call of the entry point runs it, and leaves the slot empty (`dispatchNext_finish`).  A run keeps what the
callbacks of its loop leave alone (`serve_keeps`), and there is none if the handler is not taken (`serve_denied`).
-/
namespace ServiceControl.Windows

open Cell (Ensures Keeps Yields)

variable {γ : Type} {cell : Cell γ Machine}

/-! ## What leaves the slot alone -/

/-- What of a machine belongs to the dispatches. -/
structure Slot where
  dispatches : Nat
  pending : Option Nat
  served : List Nat

def Machine.slot (m : Machine) : Slot := ⟨m.dispatches, m.pending, m.served⟩

/-- Where the slot is seen.  Nothing is written here. -/
def slotPlace (cell : Cell γ Machine) : Cell γ Slot := ⟨fun w => (cell.get w).slot, fun _ w => w⟩

theorem slot_call (f : Function) (c : Call) (m : Machine) : (m.call f c).2.slot = m.slot := by
  unfold Machine.call
  rw [takeReply_eq]
  rfl

/-- Of the machine no more is seen in the place than the slot. -/
def SeesSlot {β : Type} (place : Cell γ β) (cell : Cell γ Machine) : Prop :=
  ∀ m w, m.slot = (cell.get w).slot → place.get (cell.set m w) = place.get w

theorem slotPlace_sees (lawful : cell.Lawful) : SeesSlot (slotPlace cell) cell := by
  intro m w h
  show (cell.get (cell.set m w)).slot = (cell.get w).slot
  rw [lawful.get_set, h]

section Kept

variable {β : Type} {place : Cell γ β} {P : Sight β → Prop} {α : Type} {m : Type → Type} [Monad m]
  [MonadStateOf (Scene γ) m] [Playable γ m] (sees : SeesSlot place cell)
include sees

theorem takeFrom_unseen {g : Machine → α × Machine} (h : ∀ x, (g x).2.slot = x.slot) :
    place.Ensures P (Act.takeFrom cell g : m α) fun _ => P := by
  intro s hs
  unfold Act.takeFrom
  rw [Playable.play_modifyGet]
  refine ⟨_, rfl, ?_⟩
  show P ⟨s.now, place.get (cell.set _ s.world)⟩
  rwa [sees _ _ (h _)]

theorem update_unseen {g : Machine → Machine} (h : ∀ x, (g x).slot = x.slot) :
    place.Ensures P (Act.update cell g : m Unit) fun _ => P :=
  takeFrom_unseen (g := fun x => ((), g x)) sees h

omit [Monad m] [MonadStateOf (Scene γ) m] [Playable γ m] in
theorem request_unseen (f : Function) (c : Call) : place.Yields P (request cell f c) fun _ => P :=
  request_yields (takeFrom_unseen sees (slot_call f c))

theorem report_unseen (r : StatusReport) : place.Ensures P (report cell r) fun _ => P := by
  unfold report
  cases statusRecord? r with
  | none => exact .pure fun _ hσ => hσ
  | some record =>
    have hdeliver : place.Ensures P (deliver cell record) fun _ => P := by
      refine update_unseen sees fun x => ?_
      split <;> rfl
    refine Ensures.bind (m := Act γ) (request_unseen sees _ _) fun reply => hdeliver.bind fun _ => ?_
    cases reply with
    | ok _ => exact .pure fun _ hσ => hσ
    | error f => exact .log _ _

theorem registerHandler_unseen (name : String) : place.Yields P (registerHandler cell name) fun _ => P := by
  unfold registerHandler explained
  refine Yields.adapt (R := P) _ (Yields.result_bind (fun checked _ => ?_) fun _ _ _ hσ => hσ)
  have harm : place.Ensures P (Act.update cell fun m => { m with armed := true } : Act γ Unit) fun _ => P :=
    update_unseen sees fun _ => rfl
  refine (request_unseen sees _ _).bind (fun _ => ?_) fun _ _ hσ => hσ
  exact (Yields.lift harm).of_succeeds fun _ _ hσ => hσ

end Kept

/-! ## The loops -/

variable [Background γ]

/-- **The callbacks of the loop leave the place alone**, and its error box lies apart from it. -/
structure Aloof {β : Type} (place : Cell γ β) (l : ControlLoop γ) : Prop where
  starts : ∀ b, place.Keeps (fun σ => σ.held = b) False (l.workload.start l.view).run
  stops : ∀ b, place.Keeps (fun σ => σ.held = b) False (l.workload.stop l.view).run
  errors : place.Apart l.errors

/-- The callbacks of the loop end, whenever they are called. -/
structure Terminates (l : ControlLoop γ) : Prop where
  starts : ∀ s, ((l.workload.start l.view).run.finish s).1.isSome = true
  stops : ∀ s, ((l.workload.stop l.view).run.finish s).1.isSome = true

/-- Runs a loop and tells what has gone wrong. -/
def serve (cell : Cell γ Machine) (loop : ControlLoop γ) : Task γ Unit := do
  if let .error e ← (runService cell loop).run then
    Act.error s!"Service failed: {e.message}"

/-- Calls of the entry point that find no loop. -/
def missed : Nat → Act γ Unit
  | 0 => return
  | n + 1 => do
    Act.error "Service entry point called without a pending control loop"
    missed n

/-- What calls of the entry point come to: the first runs the loop, which has this number, and the others find none. -/
def serveOnce (cell : Cell γ Machine) (number : Nat) (loop : ControlLoop γ) : Nat → Task γ Unit
  | 0 => return
  | n + 1 => do
    Act.update cell fun m => { m with served := number :: m.served }
    serve cell loop
    (missed n : Act γ Unit)

section Serving

variable {β : Type} {place : Cell γ β} {l : ControlLoop γ} (still : place.Still) (aloof : Aloof place l)
include still aloof

/-- **A run keeps what the callbacks of its loop leave alone**, and ends if they do. -/
theorem serve_keeps (sees : SeesSlot place cell) (b : β) :
    place.Keeps (fun σ => σ.held = b) (Terminates l) (serve cell l) := by
  have timeless : Cell.Timeless fun σ : Sight β => σ.held = b := fun _ _ h => h
  have hloop (inbox : Inbox) (closing : Terminates l → inbox.closes.isSome = true) :
      place.Keeps (fun σ => σ.held = b) (Terminates l) (l.run (report cell) inbox) :=
    ControlLoop.run_keeps (fun r => report_unseen sees r) (fun failure => Ensures.update_apart aloof.errors _)
      ((aloof.stops b).ending fun ends => ends.stops) still timeless ((aloof.starts b).ending fun ends => ends.starts)
      closing
  have hregister : place.Keeps (fun σ => σ.held = b) (Terminates l)
      (liftM (registerHandler cell l.name) : Op γ Unit).run :=
    Ensures.keeps (m := Task γ) (Yields.call (registerHandler_unseen sees _))
  have hrun : place.Keeps (fun σ => σ.held = b) (Terminates l) (runService cell l).run := by
    unfold runService
    refine hregister.bind_run fun _ _ => (Yields.log _ _).keeps.bind_run fun _ _ => ?_
    refine (Yields.read cell).keeps.bind_run fun m _ => Yields.now_any.keeps.bind_run fun now _ => ?_
    exact (Keeps.apart still timeless (hloop _ fun _ => rfl)).lift
  unfold serve
  refine hrun.bind fun r _ => ?_
  cases r with
  | ok _ => exact .pure _
  | error e => exact (Ensures.log _ _).keeps

omit [Background γ] still aloof in
theorem missed_quiet {P : Sight β → Prop} (n : Nat) : place.Ensures P (missed n : Act γ Unit) fun _ => P := by
  induction n with
  | zero => exact .pure fun _ hσ => hσ
  | succ n ih => exact (Ensures.log _ _).bind fun _ => ih

theorem serveOnce_keeps (apart : place.Apart cell) (k n : Nat) (b : β) :
    place.Keeps (fun σ => σ.held = b) (Terminates l) (serveOnce cell k l n) := by
  cases n with
  | zero => exact .pure _
  | succ n =>
    have hserve : place.Keeps (fun σ => σ.held = b) (Terminates l) (serve cell l) :=
      serve_keeps still aloof (fun m w _ => apart m w) b
    refine (Ensures.update_apart apart _).keeps.bind fun _ _ => hserve.bind fun _ _ => ?_
    exact (Ensures.act (missed_quiet n)).keeps

end Serving

section Slots

variable (still : cell.Undisturbed) {l : ControlLoop γ} (aloof : Aloof (slotPlace cell) l)
include still

theorem slotPlace_still : (slotPlace cell).Still where
  get_settle now w := congrArg Machine.slot (still.get_settle now w)
  get_pass since later w := congrArg Machine.slot (still.get_pass since later w)

include aloof

theorem serve_slot (s : Scene γ) : (cell.get ((serve cell l).finish s).2.world).slot = (cell.get s.world).slot :=
  (serve_keeps (slotPlace_still still) aloof (slotPlace_sees still.toLawful) _ s rfl).1

end Slots

/-! ## Calls of the entry point -/

/-- The same scene with nothing in the slot. -/
def emptied (cell : Cell γ Machine) (s : Scene γ) : Scene γ :=
  { s with world := cell.set { cell.get s.world with pending := none } s.world }

omit [Background γ] in
theorem emptied_of_empty (lawful : cell.Lawful) {s : Scene γ} (empty : (cell.get s.world).pending = none) :
    emptied cell s = s := by
  have same : { cell.get s.world with pending := none } = cell.get s.world := by
    rw [← empty]
  rw [emptied, same, lawful.set_get]

omit [Background γ] in
theorem missed_world (n : Nat) (s : Scene γ) : ((missed n).run s).2.world = s.world := by
  induction n generalizing s with
  | zero => rfl
  | succ n ih => exact ih _

variable {loops : Nat → ControlLoop γ}

theorem read_bind_finish {α : Type} (f : Machine → Task γ α) (s : Scene γ) :
    (Act.read cell >>= f).finish s = (f (cell.get s.world)).finish s := rfl

theorem callEntryPoint_empty (n : Nat) {s : Scene γ} (empty : (cell.get s.world).pending = none) :
    (callEntryPoint cell loops n).finish s = (some (), ((missed n).run s).2) := by
  induction n generalizing s with
  | zero => rfl
  | succ n ih =>
    let told := ((Act.error "Service entry point called without a pending control loop" : Act γ Unit).run s).2
    have hentry : (entryPoint cell loops).finish s = (some (), told) := by
      unfold entryPoint
      rw [read_bind_finish, empty]
      rfl
    exact (Task.finish_bind_some hentry).trans (ih empty)

/-- **The calls of the entry point run the loop whose number is in the slot**, at the first of them and never again.  If
they do not return, it was taken out. -/
theorem callEntryPoint_waiting (still : cell.Undisturbed) {k : Nat} (aloof : Aloof (slotPlace cell) (loops k)) (n : Nat)
    {s : Scene γ} (waits : (cell.get s.world).pending = some k) :
    let called := (callEntryPoint cell loops n).finish s
    (serveOnce cell k (loops k) n).finish (emptied cell s) = (called.1, emptied cell called.2) ∧
      (called.1 = none → (cell.get called.2.world).pending = none) := by
  intro called
  cases n with
  | zero => exact ⟨rfl, fun h => absurd h (Option.some_ne_none ())⟩
  | succ n =>
    let taken : Scene γ := { s with world := cell.set { cell.get s.world with
      pending := none, served := k :: (cell.get s.world).served } s.world }
    obtain ⟨r, s', hserve⟩ : ∃ r s', (serve cell (loops k)).finish taken = (r, s') := ⟨_, _, rfl⟩
    have empty : (cell.get s'.world).pending = none := by
      have hslot := serve_slot still aloof taken
      rw [hserve] at hslot
      refine (congrArg Slot.pending hslot).trans ?_
      show (cell.get (cell.set _ s.world)).pending = none
      rw [still.get_set]
    have hentry : (entryPoint cell loops).finish s = (r, s') := by
      unfold entryPoint
      rw [read_bind_finish, waits]
      exact hserve
    have honce : (serveOnce cell k (loops k) (n + 1)).finish (emptied cell s) =
        (serve cell (loops k) >>= fun _ => (liftM (missed n : Act γ Unit) : Task γ Unit)).finish taken := by
      have htaken : { emptied cell s with world := cell.set { cell.get (emptied cell s).world with
          served := k :: (cell.get (emptied cell s).world).served } (emptied cell s).world } = taken := by
        rw [emptied, still.get_set, still.set_set]
      rw [← htaken]
      rfl
    cases r with
    | none =>
      have hcalled : called = (none, s') := Task.finish_bind_none hentry
      rw [honce, Task.finish_bind_none hserve, hcalled, emptied_of_empty still.toLawful empty]
      exact ⟨rfl, fun _ => empty⟩
    | some _ =>
      let after := ((missed n).run s').2
      have hcalled : called = (some (), after) :=
        (Task.finish_bind_some hentry).trans (callEntryPoint_empty n empty)
      have still_empty : (cell.get after.world).pending = none := by
        rw [missed_world]
        exact empty
      rw [honce, Task.finish_bind_some hserve, hcalled, emptied_of_empty still.toLawful still_empty]
      exact ⟨rfl, fun _ => still_empty⟩

/-! ## A dispatch -/

omit [Background γ] in
theorem request_run (f : Function) (c : Call) (s : Scene γ) : (request cell f c).run.run s =
    (replied ((cell.get s.world).call f c).1,
      { s with world := cell.set ((cell.get s.world).call f c).2 s.world }) := by
  unfold request
  rw [ExceptT.run_bind, StateT.run_bind]
  have hinvoke : (ExceptT.run (liftM (invoke cell f c : Act γ Reply) : Sys γ Reply)).run s =
      (.ok ((cell.get s.world).call f c).1,
        { s with world := cell.set ((cell.get s.world).call f c).2 s.world }) := rfl
  rw [hinvoke]
  cases ((cell.get s.world).call f c).1 <;> rfl

section Finish

variable {ε α δ : Type} {x : ExceptT ε (Task γ) α} {f : α → ExceptT ε (Task γ) δ} {s s' : Scene γ}

theorem bind_finish_ok {a : α} (h : x.run.finish s = (some (.ok a), s')) :
    (x >>= f).run.finish s = (f a).run.finish s' :=
  Task.finish_bind_some h

theorem bind_finish_error {e : ε} (h : x.run.finish s = (some (.error e), s')) :
    (x >>= f).run.finish s = (some (.error e), s') :=
  Task.finish_bind_some h

theorem bind_finish_none (h : x.run.finish s = (none, s')) : (x >>= f).run.finish s = (none, s') :=
  Task.finish_bind_none h

theorem lift_finish (t : Task γ α) : (liftM t : ExceptT ε (Task γ) α).run.finish s =
    ((t.finish s).1.map Except.ok, (t.finish s).2) := by
  obtain ⟨r, s', h⟩ : ∃ r s', t.finish s = (r, s') := ⟨_, _, rfl⟩
  rw [h]
  cases r with
  | some a => exact Task.finish_bind_some h
  | none => exact Task.finish_bind_none h

end Finish

/-- A machine that has been asked to dispatch, with nothing in the slot. -/
def Machine.asked (name : String) (m : Machine) : Machine :=
  let m := { m with pending := none, dispatches := m.dispatches + 1 }
  match terminated (.nul "service name") name with
  | .ok checked => (m.call .startDispatcher (.startDispatcher checked)).2
  | .error _ => m

/-- How often a dispatch calls the entry point. -/
def Machine.entries (name : String) (m : Machine) : Nat :=
  match terminated (.nul "service name") name with
  | .ok _ => m.mainCalls.getD m.board.usualCalls
  | .error _ => 0

/-- What the dispatcher is started for: it is asked, calls the entry point, and only then replies. -/
theorem startDispatcher_finish (still : cell.Undisturbed) {name checked : String}
    (hchecked : terminated (.nul "service name") name = .ok checked) (s : Scene γ) :
    let m := cell.get s.world
    let asked : Scene γ := { s with world := cell.set (m.call .startDispatcher (.startDispatcher checked)).2 s.world }
    let called := (callEntryPoint cell loops (m.mainCalls.getD m.board.usualCalls)).finish asked
    (startDispatcher cell name loops).run.finish s =
      (called.1.map fun _ => (replied (nextReply (m.replies .startDispatcher)).1).map fun _ => (), called.2) := by
  intro m asked called
  let c : Call := .startDispatcher checked
  let reply := (nextReply (m.replies .startDispatcher)).1
  let n := m.mainCalls.getD m.board.usualCalls
  have hrequest : (request cell .startDispatcher c).run.run s = (replied reply, asked) := by
    rw [request_run, call_reply]
  have hattempt : (liftM (attempt (request cell .startDispatcher c)) : ExceptT Fault (Task γ) _).run.finish s =
      (some (.ok (replied reply)), asked) :=
    congrArg (fun p : Except Fault Reply × Scene γ => (some (Except.ok p.1), p.2)) hrequest
  have hread : (Act.read cell : ExceptT Fault (Task γ) Machine).run.finish asked =
      (some (.ok (m.call .startDispatcher c).2), asked) := by
    show (some (Except.ok (cell.get (cell.set _ s.world))), asked) = _
    rw [still.get_set]
  have hmain : (m.call .startDispatcher c).2.mainCalls = m.mainCalls := by
    unfold Machine.call
    rw [takeReply_eq]
  have hcalls : (liftM (callEntryPoint cell loops n) : ExceptT Fault (Task γ) Unit).run.finish asked =
      (called.1.map Except.ok, called.2) := lift_finish _
  unfold startDispatcher
  rw [hchecked]
  refine (bind_finish_ok (show _ = (some (Except.ok checked), s) from rfl)).trans ?_
  refine (bind_finish_ok hattempt).trans ((bind_finish_ok hread).trans ?_)
  rw [hmain]
  cases hr : called.1 with
  | none =>
    rw [hr] at hcalls
    exact bind_finish_none hcalls
  | some _ =>
    rw [hr] at hcalls
    refine (bind_finish_ok hcalls).trans ?_
    cases replied reply <;> rfl

/-- **A dispatch runs its own loop, once**, if the entry point is called at all, and tells what the dispatcher replies.  It
does not return if the loop never ends. -/
theorem dispatchNext_finish (still : cell.Undisturbed) (loops : Nat → ControlLoop γ) (name : String) (s : Scene γ)
    (aloof : Aloof (slotPlace cell) (loops (cell.get s.world).dispatches)) :
    let m := cell.get s.world
    let served := (serveOnce cell m.dispatches (loops m.dispatches) (m.entries name)).finish
      { s with world := cell.set (m.asked name) s.world }
    (dispatchNext cell name loops).run.finish s = (served.1.map fun _ => m.board.verdict name, served.2) := by
  intro m
  let waiting : Machine := { m with pending := some m.dispatches, dispatches := m.dispatches + 1 }
  let s₁ : Scene γ := { s with world := cell.set waiting s.world }
  have hs₁ : cell.get s₁.world = waiting := still.get_set _ _
  have hdispatch {r : Option (Except Fault Unit)} {s₂ : Scene γ}
      (hstart : (startDispatcher cell name loops).run.finish s₁ = (r, s₂))
      (taken : r = none → (cell.get s₂.world).pending = none) :
      (dispatchNext cell name loops).run.finish s =
        (r.map (·.mapError fun f => .dispatch f.message), emptied cell s₂) := by
    have hlift : (liftM (startDispatcher cell name loops).run : Op γ _).run.finish s₁ = (r.map Except.ok, s₂) := by
      rw [lift_finish, hstart]
    unfold dispatchNext
    refine (bind_finish_ok (show _ = (some (Except.ok ()), s₁) from rfl)).trans ?_
    cases r with
    | none =>
      rw [emptied_of_empty still.toLawful (taken rfl)]
      exact bind_finish_none hlift
    | some r =>
      refine (bind_finish_ok hlift).trans ?_
      refine (bind_finish_ok (show _ = (some (Except.ok ()), emptied cell s₂) from rfl)).trans ?_
      cases r <;> rfl
  unfold Board.verdict Machine.asked Machine.entries
  cases hchecked : terminated (.nul "service name") name with
  | error f =>
    have hstart : (startDispatcher cell name loops).run.finish s₁ = (some (.error f), s₁) := by
      unfold startDispatcher
      rw [hchecked]
      rfl
    rw [hdispatch hstart fun h => absurd h (Option.some_ne_none _), emptied, hs₁]
    show (_, Scene.mk s.now s.journal (cell.set _ (cell.set _ s.world))) = _
    rw [still.set_set]
    rfl
  | ok checked =>
    let c : Call := .startDispatcher checked
    let asked := ({ m with pending := none, dispatches := m.dispatches + 1 }.call .startDispatcher c).2
    let s₂ : Scene γ := { s₁ with world := cell.set (waiting.call .startDispatcher c).2 s₁.world }
    have hs₂ : cell.get s₂.world = (waiting.call .startDispatcher c).2 := still.get_set _ _
    have hstart : (startDispatcher cell name loops).run.finish s₁ = _ := startDispatcher_finish still hchecked s₁
    rw [hs₁] at hstart
    have hemptied : emptied cell s₂ = { s with world := cell.set asked s.world } := by
      have hcall : { (waiting.call .startDispatcher c).2 with pending := none } = asked := by
        show _ = (Machine.call _ c _).2
        unfold Machine.call
        rw [takeReply_eq, takeReply_eq]
      rw [emptied, hs₂, hcall]
      show Scene.mk s.now s.journal (cell.set _ (cell.set _ (cell.set _ s.world))) = _
      rw [still.set_set, still.set_set]
    have waits : (cell.get s₂.world).pending = some m.dispatches := by
      rw [hs₂]
      exact congrArg Slot.pending (slot_call _ c waiting)
    obtain ⟨honce, taken⟩ := callEntryPoint_waiting still aloof (m.mainCalls.getD m.board.usualCalls) waits
    rw [hemptied] at honce
    dsimp only
    rw [honce, hdispatch hstart fun h => taken (Option.map_eq_none_iff.1 h), Option.map_map]
    rfl

/-! ## Loops that are not run -/

section Denied

variable (lawful : cell.Lawful) {s : Scene γ}
include lawful

omit [Background γ] in
theorem registerHandler_denied {name : String}
    (denied : ¬(Speakable name ∧ (nextReply ((cell.get s.world).replies .registerHandler)).1.Grants)) :
    ∃ e m, m.records = (cell.get s.world).records ∧
      (registerHandler cell name).run.run s = (.error e, { s with world := cell.set m s.world }) := by
  unfold registerHandler explained
  cases hchecked : terminated (.nul "service name") name with
  | error f =>
    refine ⟨f.during "register service control handler", cell.get s.world, rfl, ?_⟩
    rw [lawful.set_get]
    rfl
  | ok checked =>
    obtain ⟨code, hcode⟩ := replied_of_refused fun grants => denied ⟨speakable_of_terminated hchecked, grants⟩
    have hrequest : (request cell .registerHandler (.registerHandler checked)).run.run s = _ := request_run _ _ s
    rw [call_reply, hcode] at hrequest
    refine ⟨(Fault.system code).during "register service control handler",
      ((cell.get s.world).call .registerHandler (.registerHandler checked)).2,
      congrArg Board.records (board_call _ _ _), ?_⟩
    show ((StateT.run (ExceptT.run (request cell .registerHandler (.registerHandler checked) >>= _)) s).1.mapError _,
      (StateT.run (ExceptT.run (request cell .registerHandler (.registerHandler checked) >>= _)) s).2) = _
    rw [ExceptT.run_bind, StateT.run_bind, hrequest]
    rfl

/-- **A loop whose handler is not taken is not run**: nothing is reported, and nothing but the machine changes. -/
theorem serve_denied {l : ControlLoop γ}
    (denied : ¬(Speakable l.name ∧ (nextReply ((cell.get s.world).replies .registerHandler)).1.Grants)) :
    ∃ m lines, m.records = (cell.get s.world).records ∧
      (serve cell l).finish s = (some (), ⟨s.now, lines, cell.set m s.world⟩) := by
  obtain ⟨e, m, quiet, hregister⟩ := registerHandler_denied lawful denied
  have hlift : (liftM (registerHandler cell l.name) : Op γ Unit).run.finish s =
      (some (.error e), { s with world := cell.set m s.world }) :=
    congrArg (fun p : Except ServiceError Unit × Scene γ => (some p.1, p.2)) hregister
  have hrun : (runService cell l).run.finish s = (some (.error e), { s with world := cell.set m s.world }) :=
    bind_finish_error hlift
  exact ⟨m, _, quiet, (Task.finish_bind_some hrun).trans rfl⟩

end Denied

end ServiceControl.Windows
