import Mathlib.Control.Monad.Basic
import ServiceControl.Proofs.Promises
import ServiceControl.Scenario.Outcome
/-!
# Recorded gateways

A gateway of any kind, and a log in which every call on a session, an entry or a log source is noted with its reply.  The
gateway itself knows nothing of the log.  What a program writes is told by `Writes`, whose rules put the notes of a program
together from those of its parts, in the order in which they are written.
-/
namespace ServiceControl

open Cell (Ensures Keeps)

/-! ## What a program writes -/

section Writes

open Playable

variable {γ α δ ε ν : Type} {m : Type → Type} [Monad m] [MonadStateOf (Scene γ) m] [Playable γ m]

/-- **The program comes to an end, and adds notes to the log** that fit its result. -/
def Writes (log : Cell γ (List ν)) (x : m α) (T : α → List ν → Prop) : Prop :=
  ∀ base, log.Ensures (fun σ => σ.held = base) x fun a σ => ∃ notes, σ.held = base ++ notes ∧ T a notes

/-- The program does nothing with the log. -/
def Spares (log : Cell γ (List ν)) (x : m α) : Prop := Writes log x fun _ notes => notes = []

variable {log : Cell γ (List ν)}

namespace Writes

theorem weaken {x : m α} {T U : α → List ν → Prop} (hx : Writes log x T) (h : ∀ a notes, T a notes → U a notes) :
    Writes log x U := by
  intro base
  refine (hx base).weaken ?_
  rintro a σ ⟨notes, hheld, hT⟩
  exact ⟨notes, hheld, h a notes hT⟩

theorem pure {a : α} {T : α → List ν → Prop} (h : T a []) : Writes log (Pure.pure a : m α) T := by
  intro base
  refine Ensures.pure ?_
  intro σ hσ
  exact ⟨[], by rw [hσ, List.append_nil], h⟩

theorem bind {x : m α} {f : α → m δ} {T : α → List ν → Prop} {U : δ → List ν → Prop} (hx : Writes log x T)
    (hf : ∀ a first, T a first → Writes log (f a) fun r rest => U r (first ++ rest)) : Writes log (x >>= f) U := by
  intro base
  refine (hx base).bind fun a => ?_
  rintro s ⟨first, hheld, hT⟩
  obtain ⟨r, hr, rest, hrest, hU⟩ := hf a first hT (base ++ first) s hheld
  exact ⟨r, hr, first ++ rest, by rw [hrest, List.append_assoc], hU⟩

/-- What is written is the last thing that is done. -/
theorem map {x : m α} {T : δ → List ν → Prop} (f : α → δ) (hx : Writes log x fun a => T (f a)) :
    Writes log (f <$> x) T := by
  rw [map_eq_pure_bind]
  refine hx.bind fun a first hT => pure ?_
  rwa [List.append_nil]

theorem log_line (level : Level) (text : String) : Spares log (Act.log level text : m Unit) := by
  intro base
  refine (Ensures.log level text).weaken ?_
  intro _ σ hσ
  exact ⟨[], by rw [hσ, List.append_nil], rfl⟩

/-- What begins with something that does nothing with the log. -/
theorem after_spares {x : m α} {f : α → m δ} {T : δ → List ν → Prop} (hx : Spares log x)
    (hf : ∀ a, Writes log (f a) T) : Writes log (x >>= f) T := by
  refine bind hx ?_
  rintro a _ rfl
  exact hf a

/-- Notes that are added at once. -/
theorem note (lawful : log.Lawful) (n : ν) :
    Writes log (Act.update log (· ++ [n]) : m Unit) fun _ notes => notes = [n] := by
  intro base
  refine .of_leads ?_
  rintro σ rfl
  exact ⟨(), _, Cell.Leads.update lawful _, [n], rfl, rfl⟩

end Writes

theorem Spares.of_ensures {x : m α} (h : ∀ notes, log.Ensures (fun σ => σ.held = notes) x fun _ σ => σ.held = notes) :
    Spares log x := by
  intro base
  refine (h base).weaken ?_
  intro _ σ hσ
  exact ⟨[], by rw [hσ, List.append_nil], rfl⟩

/-- What holds of the log still holds. -/
theorem Spares.ensures {x : m α} (hx : Spares log x) (P : List ν → Prop) :
    log.Ensures (fun σ => P σ.held) x fun _ σ => P σ.held := by
  intro s hs
  obtain ⟨a, ha, notes, hheld, rfl⟩ := hx _ s rfl
  rw [List.append_nil] at hheld
  refine ⟨a, ha, ?_⟩
  show P (log.sight (play x s).2).held
  rwa [hheld]

/-! ### Programs that may fail -/

namespace Writes

theorem bind_run {x : ExceptT ε m α} {f : α → ExceptT ε m δ} {T : Except ε α → List ν → Prop}
    {U : Except ε δ → List ν → Prop} (hx : Writes log x.run T)
    (hf : ∀ a first, T (.ok a) first → Writes log (f a).run fun r rest => U r (first ++ rest))
    (he : ∀ e notes, T (.error e) notes → U (.error e) notes) : Writes log (x >>= f).run U := by
  refine Writes.bind (m := m) hx ?_
  intro r first hT
  cases r with
  | ok a => exact hf a first hT
  | error e =>
    refine Writes.pure (m := m) ?_
    rw [List.append_nil]
    exact he e first hT

/-- After an attempt one goes on, however it went. -/
theorem attempt_bind {x : ExceptT ε m α} {f : Except ε α → ExceptT ε m δ} {T : Except ε α → List ν → Prop}
    {U : Except ε δ → List ν → Prop} (hx : Writes log x.run T)
    (hf : ∀ r first, T r first → Writes log (f r).run fun r' rest => U r' (first ++ rest)) :
    Writes log (attempt x >>= f).run U := by
  refine bind_run (T := fun r notes => ∃ r', r = .ok r' ∧ T r' notes) ?_ ?_ ?_
  · exact map Except.ok (hx.weaken fun r _ hT => ⟨r, rfl, hT⟩)
  · rintro _ first ⟨r, h, hT⟩
    obtain rfl := Except.ok.inj h
    exact hf _ first hT
  · rintro e _ ⟨_, h, -⟩
    cases h

/-- A program that cannot fail. -/
theorem lift {x : m α} {T : Except ε α → List ν → Prop} (hx : Writes log x fun a notes => T (.ok a) notes) :
    Writes log (liftM x : ExceptT ε m α).run T :=
  map Except.ok hx

/-- A program that cannot fail comes first. -/
theorem bind_lift {x : m α} {f : α → ExceptT ε m δ} {T : α → List ν → Prop} {U : Except ε δ → List ν → Prop}
    (hx : Writes log x T) (hf : ∀ a first, T a first → Writes log (f a).run fun r rest => U r (first ++ rest)) :
    Writes log (liftM x >>= f).run U := by
  refine bind_run (T := fun r notes => ∃ a, r = .ok a ∧ T a notes) ?_ ?_ ?_
  · exact lift (hx.weaken fun a _ hT => ⟨a, rfl, hT⟩)
  · rintro _ first ⟨a, h, hT⟩
    obtain rfl := Except.ok.inj h
    exact hf _ first hT
  · rintro e _ ⟨_, h, -⟩
    cases h

/-- It does nothing with the log. -/
theorem lift_bind {x : m α} {f : α → ExceptT ε m δ} {U : Except ε δ → List ν → Prop} (hx : Spares log x)
    (hf : ∀ a, Writes log (f a).run U) : Writes log (liftM x >>= f).run U := by
  refine bind_lift hx ?_
  rintro a _ rfl
  exact hf a

/-- A log line comes last. -/
theorem log_run {T : Except ε Unit → List ν → Prop} (level : Level) (text : String) (h : T (.ok ()) []) :
    Writes log (Act.log level text : ExceptT ε m Unit).run T := by
  refine lift ((log_line level text).weaken ?_)
  rintro _ _ rfl
  exact h

theorem log_bind {f : Unit → ExceptT ε m δ} {U : Except ε δ → List ν → Prop} (level : Level) (text : String)
    (hf : Writes log (f ()).run U) : Writes log (Act.log level text >>= f).run U :=
  lift_bind (log_line level text) fun _ => hf

theorem now_bind {f : Nat → ExceptT ε m δ} {U : Except ε δ → List ν → Prop} (hf : ∀ now, Writes log (f now).run U) :
    Writes log (Act.now >>= f).run U := by
  refine bind_run (T := fun r notes => (∃ now, r = .ok now) ∧ notes = []) ?_ ?_ ?_
  · intro base
    refine .of_leads ?_
    rintro σ hσ
    exact ⟨_, σ, Cell.Returns.now, [], by rw [hσ, List.append_nil], ⟨_, rfl⟩, rfl⟩
  · rintro now _ ⟨-, rfl⟩
    exact hf now
  · rintro e _ ⟨⟨_, h⟩, -⟩
    cases h

theorem throw {e : ε} {T : Except ε α → List ν → Prop} (h : T (.error e) []) :
    Writes log (MonadExcept.throw e : ExceptT ε m α).run T :=
  Writes.pure (m := m) h

/-- What comes after a failure is left out. -/
theorem throw_bind {e : ε} {f : α → ExceptT ε m δ} {U : Except ε δ → List ν → Prop} (h : U (.error e) []) :
    Writes log (MonadExcept.throw e >>= f).run U := by
  refine bind_run (T := fun r notes => r = .error e ∧ notes = []) (throw ⟨rfl, rfl⟩) ?_ ?_
  · rintro _ _ ⟨h, -⟩
    cases h
  · rintro _ _ ⟨he, rfl⟩
    obtain rfl := Except.error.inj he
    exact h

/-- A result that is at hand comes first. -/
theorem result_bind {r : Except ε α} {f : α → ExceptT ε m δ} {U : Except ε δ → List ν → Prop}
    (ok : ∀ a, r = .ok a → Writes log (f a).run U) (error : ∀ e, r = .error e → U (.error e) []) :
    Writes log (liftM r >>= f).run U := by
  refine bind_run (T := fun r' notes => r' = r ∧ notes = []) (Writes.pure (m := m) ⟨rfl, rfl⟩) ?_ ?_
  · rintro a _ ⟨h, rfl⟩
    exact ok a h.symm
  · rintro e _ ⟨h, rfl⟩
    exact error e h.symm

theorem return_run {a : α} {T : Except ε α → List ν → Prop} (h : T (.ok a) []) :
    Writes log (Pure.pure a : ExceptT ε m α).run T :=
  Writes.pure (m := m) h

end Writes

section Tasks

variable [Background γ]

theorem Writes.act {x : Act γ α} {T : α → List ν → Prop} (hx : Writes log x T) : Writes log (liftM x : Task γ α) T := hx

theorem Writes.call {x : ExceptT ε (Act γ) α} {T : Except ε α → List ν → Prop} (hx : Writes log x.run T) :
    Writes log (liftM x : ExceptT ε (Task γ) α).run T := hx

end Tasks

/-- What passes while something is held: it is refused, or obtained, used and given back. -/
inductive Held {η : Type} (take : Except ε η → ν) (back : η → ν) (Use : η → Except ε α → List ν → Prop) :
    Except ε α → List ν → Prop
  | refused (e : ε) : Held take back Use (.error e) [take (.error e)]
  | used (held : η) {r : Except ε α} {notes : List ν} (use : Use held r notes) :
      Held take back Use r (take (.ok held) :: (notes ++ [back held]))

theorem Writes.holding {η : Type} {acquire : ExceptT ε m η} {giveBack : η → m Unit} {use : η → ExceptT ε m α}
    {take : Except ε η → ν} {back : η → ν} {Use : η → Except ε α → List ν → Prop}
    (ha : Writes log acquire.run fun r notes => notes = [take r])
    (hg : ∀ held, Writes log (giveBack held) fun _ notes => notes = [back held])
    (hu : ∀ held, Writes log (use held).run (Use held)) :
    Writes log (holding acquire giveBack use).run (Held take back Use) := by
  refine bind_run ha ?_ ?_
  · rintro held _ rfl
    refine Writes.bind (m := m) (hu held) fun r notes hU => ?_
    refine Writes.bind (m := m) (hg held) ?_
    rintro _ _ rfl
    refine Writes.pure (m := m) ?_
    rw [List.append_nil]
    exact .used held hU
  · rintro e _ rfl
    exact .refused e

end Writes

/-! ## Gateways with a log -/

/-- A call, with what it was made on and what was replied.  A session or an entry is given back without a reply. -/
inductive Note (S E : Type)
  | connect (reply : Except ServiceError S)
  | openEntry (session : S) (name : String) (reply : Except ServiceError E)
  | create (session : S) (spec : ServiceSpec) (reply : Except ServiceError E)
  | query (entry : E) (reply : Except ServiceError ServiceStatus)
  | start (entry : E) (reply : Except ServiceError Unit)
  | control (entry : E) (signal : ControlSignal) (reply : Except ServiceError ServiceStatus)
  | setRecovery (entry : E) (action : RecoveryAction) (reply : Except ServiceError Unit)
  | delete (entry : E) (reply : Except ServiceError Unit)
  | closeEntry (entry : E)
  | closeSession (session : S)
  | registerLogSource (name : String) (reply : Except ServiceError Unit)
  | removeLogSource (name : String) (reply : Except ServiceError Unit)
  deriving DecidableEq

section Recorded

variable {γ S E α : Type}

/-- Makes a call and notes it with its reply. -/
def noted (log : Cell γ (List (Note S E))) (note : Except ServiceError α → Note S E) (x : Call γ α) : Call γ α :=
  ExceptT.mk do
    let reply ← x.run
    Act.update log (· ++ [note reply])
    return reply

/-- **The gateway with a log.**  To be told the stop timeout is no call on a session or an entry, and what a dispatch calls
is noted as it is called. -/
def Gateway.recorded (g : Gateway γ S E) (log : Cell γ (List (Note S E))) : Gateway γ S E where
  connect := noted log .connect g.connect
  openEntry session name := noted log (.openEntry session name) (g.openEntry session name)
  create session spec := noted log (.create session spec) (g.create session spec)
  query entry := noted log (.query entry) (g.query entry)
  start entry := noted log (.start entry) (g.start entry)
  control entry signal := noted log (.control entry signal) (g.control entry signal)
  setRecovery entry action := noted log (.setRecovery entry action) (g.setRecovery entry action)
  delete entry := noted log (.delete entry) (g.delete entry)
  closeEntry entry := do
    g.closeEntry entry
    Act.update log (· ++ [.closeEntry entry])
  closeSession session := do
    g.closeSession session
    Act.update log (· ++ [.closeSession session])
  registerLogSource name := noted log (.registerLogSource name) (g.registerLogSource name)
  removeLogSource name := noted log (.removeLogSource name) (g.removeLogSource name)
  stopTimeout := g.stopTimeout
  dispatch := g.dispatch

/-- **The gateway knows nothing of the log.**  It may reply what it likes; a dispatch does nothing with the log but what
the control loop does that it is given. -/
structure Gateway.Unaware [Background γ] (g : Gateway γ S E) (log : Cell γ (List (Note S E))) : Prop where
  connect : Spares log g.connect.run
  openEntry : ∀ session name, Spares log (g.openEntry session name).run
  create : ∀ session spec, Spares log (g.create session spec).run
  query : ∀ entry, Spares log (g.query entry).run
  start : ∀ entry, Spares log (g.start entry).run
  control : ∀ entry signal, Spares log (g.control entry signal).run
  setRecovery : ∀ entry action, Spares log (g.setRecovery entry action).run
  delete : ∀ entry, Spares log (g.delete entry).run
  closeEntry : ∀ entry, Spares log (g.closeEntry entry)
  closeSession : ∀ session, Spares log (g.closeSession session)
  registerLogSource : ∀ name, Spares log (g.registerLogSource name).run
  removeLogSource : ∀ name, Spares log (g.removeLogSource name).run
  stopTimeout : Spares log g.stopTimeout
  dispatch : ∀ name loop (P : List (Note S E) → Prop),
    (∀ report inbox, (∀ r, Spares log (report r)) →
      log.Keeps (fun σ => P σ.held) False (ControlLoop.run loop report inbox)) →
    log.Keeps (fun σ => P σ.held) False (g.dispatch name loop).run

/-- **A controller over a recorded gateway.**  Its workload does nothing with the log but have the state of the service
told. -/
structure Records [Background γ] (c : Controller γ S E) (g : Gateway γ S E) (log : Cell γ (List (Note S E))) : Prop where
  gateway : c.gateway = g.recorded log
  unaware : g.Unaware log
  quiet : log.Undisturbed
  terminate : ∀ pid, Spares log (c.terminate pid).run
  killSignal : Spares log c.killSignal
  errors : log.Apart c.errors
  start : ∀ P : List (Note S E) → Prop, (log.Ensures (fun σ => P σ.held) c.view.status fun _ σ => P σ.held) →
    log.Keeps (fun σ => P σ.held) False (c.workload.start c.view).run
  stop : ∀ P : List (Note S E) → Prop, (log.Ensures (fun σ => P σ.held) c.view.status fun _ σ => P σ.held) →
    log.Keeps (fun σ => P σ.held) False (c.workload.stop c.view).run

section Calls

variable {log : Cell γ (List (Note S E))} (lawful : log.Lawful)
include lawful

theorem noted_writes {note : Except ServiceError α → Note S E} {x : Call γ α} (hx : Spares log x.run) :
    Writes log (noted log note x).run fun reply notes => notes = [note reply] := by
  refine Writes.bind hx ?_
  rintro reply _ rfl
  refine (Writes.note lawful _).bind ?_
  rintro _ _ rfl
  exact .pure rfl

theorem giving_writes {x : Act γ Unit} {n : Note S E} (hx : Spares log x) :
    Writes log (do x; Act.update log (· ++ [n]) : Act γ Unit) fun _ notes => notes = [n] := by
  refine Writes.bind hx ?_
  rintro _ _ rfl
  exact Writes.note lawful n

end Calls

end Recorded

end ServiceControl
