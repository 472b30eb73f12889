import ServiceControl.Proofs.Course
import ServiceControl.Proofs.Stages
/-!
# How scripted workloads behave

A scripted workload does what its script says, whatever the view tells it (`scripted_enacts`).
-/
namespace ServiceControl

/-! ## Asking for the state -/

section Telling

variable {γ β S E : Type} {place : Cell γ β} {P : Sight β → Prop} {g : Gateway γ S E} {config : ServiceConfig}

/-- **The state of a service is told by its label, or by the error for which it cannot be told.** -/
theorem Gateway.status_ensures {R : S → Sight β → Prop} {L : S → String → Sight β → Prop} {T : String → Sight β → Prop}
    (connects : place.Yields P g.connect (Cell.Either R fun e => T s!"Unknown: {e.message}"))
    (looks : ∀ session, place.Yields (R session) (holding (g.openEntry session config.name) g.closeEntry g.query)
      (Cell.Either (fun status => L session status.state.label) fun e => L session e.message))
    (closes : ∀ session text, place.Ensures (L session text) (g.closeSession session) fun _ => T text) :
    place.Ensures P (g.status config) T := by
  unfold Gateway.status
  refine Cell.Ensures.bind connects ?_
  intro r
  cases r with
  | error e => exact .pure fun _ hσ => hσ
  | ok session =>
    have hend (text : String) : place.Ensures (L session text) _ T :=
      (closes session text).bind fun _ => .pure (m := Act γ) (a := text) fun _ hσ => hσ
    have htext (text : String) :=
      (Cell.Ensures.pure (m := Act γ) (a := text) (Q := L session) fun _ hσ => hσ).bind hend
    refine Cell.Ensures.bind (looks session) ?_
    intro found
    cases found with
    | ok status => exact htext _
    | error e => exact (Cell.Ensures.log _ _).bind fun _ => htext _

/-- **Telling the state of a service changes nothing**, if the session and the entry that it takes are given back. -/
theorem Gateway.status_keeps {R : Except ServiceError S → Sight β → Prop} (connects : place.Yields P g.connect R)
    (refused : ∀ e σ, R (.error e) σ → P σ)
    (looks : ∀ session, place.Yields (R (.ok session))
      (holding (g.openEntry session config.name) g.closeEntry g.query) fun _ => R (.ok session))
    (closes : ∀ session, place.Ensures (R (.ok session)) (g.closeSession session) fun _ => P) :
    place.Ensures P (g.status config) fun _ => P := by
  refine Gateway.status_ensures (R := fun session => R (.ok session)) (L := fun session _ => R (.ok session))
    (connects.weaken fun r σ hσ => ?_) (fun session => (looks session).weaken fun r σ hσ => ?_)
    fun session _ => closes session
  · cases r with
    | ok session => exact hσ
    | error e => exact refused e σ hσ
  · cases r <;> exact hσ

end Telling

/-- A state that every call of the gateway leaves as it is. -/
theorem Gateway.status_quiet {γ β S E : Type} {place : Cell γ β} {P : Sight β → Prop} {g : Gateway γ S E}
    {config : ServiceConfig} (connects : place.Yields P g.connect fun _ => P)
    (opens : ∀ session name, place.Yields P (g.openEntry session name) fun _ => P)
    (queries : ∀ entry, place.Yields P (g.query entry) fun _ => P)
    (closesEntry : ∀ entry, place.Ensures P (g.closeEntry entry) fun _ => P)
    (closesSession : ∀ session, place.Ensures P (g.closeSession session) fun _ => P) :
    place.Ensures P (g.status config) fun _ => P :=
  Gateway.status_keeps connects (fun _ _ h => h)
    (fun session => .holding (opens session _) (fun _ _ h => h) queries fun entry _ => closesEntry entry) closesSession

namespace Workload.Scripted

/-- The state of a scripted workload apart from what the view told it. -/
def blind (s : Scripted) : Scripted := { s with seen := s.seen.map fun sighting => { sighting with told := none } }

/-- What a callback does once it has looked. -/
def respond {γ : Type} (place : Cell γ Scripted) (stopping : Bool) (told : Option (String × String)) :
    Callback γ Unit := do
  let response ← Act.takeFrom place (call stopping ⟨stopping, ← Act.now, told⟩)
  (Task.sleep response.ms : Task γ Unit)
  match response.failure with
  | some failure => throw failure
  | none => return

def outcome (response : Response) : Except Failure Unit :=
  match response.failure with
  | some failure => .error failure
  | none => .ok ()

def ending (stopping : Bool) (now : Nat) (k : Scripted) : Ending Scripted :=
  let called := call stopping ⟨stopping, now, none⟩ k
  ⟨some (outcome called.1), now + called.1.ms, called.2⟩

/-- **Scripts are a conduct.** -/
def conduct : Conduct Scripted where
  start := ending false
  stop := ending true
  onward _ _ := Nat.le_add_right _ _

theorem call_blind (stopping : Bool) (sighting : Sighting) (s : Scripted) :
    (call stopping sighting s).1 = (call stopping { sighting with told := none } s.blind).1 ∧
      (call stopping sighting s).2.blind = (call stopping { sighting with told := none } s.blind).2 := by
  cases stopping <;> exact ⟨rfl, rfl⟩

end Workload.Scripted

open Workload (Scripted)
open Cell (Leads Returns)

section Enacts

variable {γ ν : Type} [Background γ] {place : Cell γ (Seen ν Scripted)} {job : Cell γ Scripted}
  (still : place.Still) (sees : ∀ s w, place.get (job.set s w) = (place.get w).working s.blind)
  (works : ∀ w, (place.get w).work = (job.get w).blind)
include still sees works

theorem respond_returns (stopping : Bool) (told : Option (String × String)) (now : Nat) (d : Seen ν Scripted) :
    let ending := Scripted.ending stopping now d.work
    place.Leads (Scripted.respond job stopping told).run ⟨now, d⟩ ending.result
      ⟨ending.instant, d.working ending.work⟩ := by
  intro ending
  let called := Scripted.call stopping ⟨stopping, now, none⟩ d.work
  have hcall : place.Leads (Act.takeFrom job (Scripted.call stopping ⟨stopping, now, told⟩) : Task γ _) ⟨now, d⟩
      (some called.1) ⟨now, d.working called.2⟩ := by
    refine .step ?_
    intro s hs
    obtain ⟨rfl, rfl⟩ := Sight.mk.inj hs
    obtain ⟨hresponse, hstate⟩ := Scripted.call_blind stopping ⟨stopping, s.now, told⟩ (job.get s.world)
    rw [← works] at hresponse hstate
    refine ⟨hresponse, ?_⟩
    show Sight.mk s.now (place.get (job.set _ _)) = _
    rw [sees, hstate]
  have hsleep : place.Leads (Task.sleep called.1.ms : Task γ Unit) ⟨now, d.working called.2⟩ (some ())
      ⟨now + called.1.ms, d.working called.2⟩ := Leads.sleep still _
  unfold Scripted.respond
  refine Returns.now.bind ((Returns.lift hcall).bind ((Returns.lift hsleep).bind ?_))
  show place.Returns _ _ (Scripted.outcome called.1) _
  unfold Scripted.outcome
  cases called.1.failure with
  | some failure => exact Returns.throw (m := Task γ) failure
  | none => exact Returns.pure (m := Task γ) ()

variable {view : View γ} (quiet : ∀ σ, place.Ensures (· = σ) view.status fun _ σ' => σ' = σ)
include quiet

theorem callback_returns (stopping : Bool) (now : Nat) (d : Seen ν Scripted) :
    let ending := Scripted.ending stopping now d.work
    place.Leads (Scripted.callback job stopping view).run ⟨now, d⟩ ending.result
      ⟨ending.instant, d.working ending.work⟩ := by
  have hlook : place.Ensures (· = ⟨now, d⟩)
      (liftM (some <$> Scripted.look view) : Callback γ (Option (String × String))).run
      fun r σ => (∃ told, r = .ok told) ∧ σ = ⟨now, d⟩ := by
    intro s hs
    obtain ⟨text, -, hquiet⟩ := quiet ⟨now, d⟩ s hs
    exact ⟨_, rfl, ⟨_, rfl⟩, hquiet⟩
  have hrespond (told : Option (String × String)) := respond_returns still sees works stopping told now d
  have hread : place.Ensures (· = ⟨now, d⟩) (Act.read job : Callback γ Scripted).run
      fun r σ => (∃ s, r = .ok s) ∧ σ = ⟨now, d⟩ :=
    fun s hs => ⟨_, rfl, ⟨_, rfl⟩, hs⟩
  unfold Scripted.callback
  refine Cell.Ensures.leads (m := Task γ) hread ?_
  rintro _ ⟨s, rfl⟩
  show place.Leads (ExceptT.run (if s.observes = true then _ else _)) _ _ _
  split
  · refine Cell.Ensures.leads (m := Task γ) hlook ?_
    rintro _ ⟨told, rfl⟩
    exact hrespond told
  · exact Leads.bind (m := Task γ) (.pure _) (hrespond none)

/-- **A scripted workload behaves as its script says**, if asking for the state of the service changes nothing that is
seen. -/
theorem scripted_enacts : (Workload.scripted job).Enacts place view Scripted.conduct where
  start := callback_returns still sees works quiet false
  stop := callback_returns still sees works quiet true

end Enacts

/-! ## A manager with one scripted workload -/

open Scenario (Stage)

structure Solo (μ : Type) where
  machine : μ
  errors : ErrorBox := {}
  job : Scripted := {}

namespace Solo

variable {μ ν : Type}

def machineCell : Cell (Stage (Solo μ)) μ := Stage.managerCell.inside ⟨(·.machine), fun m d => { d with machine := m }⟩

def errorsCell : Cell (Stage (Solo μ)) ErrorBox :=
  Stage.managerCell.inside ⟨(·.errors), fun box d => { d with errors := box }⟩

def jobCell : Cell (Stage (Solo μ)) Scripted := Stage.managerCell.inside ⟨(·.job), fun job d => { d with job }⟩

def work (w : Stage (Solo μ)) : Scripted := (jobCell.get w).blind

theorem separate : Separate (machineCell (μ := μ)) errorsCell work where
  machine := Cell.inside_undisturbed Stage.managerCell_undisturbed ⟨fun _ _ => rfl, fun _ _ _ => rfl, fun _ => rfl⟩
  box := Cell.inside_undisturbed Stage.managerCell_undisturbed ⟨fun _ _ => rfl, fun _ _ _ => rfl, fun _ => rfl⟩
  machine_box _ _ := rfl
  box_machine _ _ := rfl
  work_machine _ _ := rfl
  work_box _ _ := rfl
  work_settle _ _ := rfl
  work_pass _ _ _ := rfl

theorem enacts {look : μ → ν} {view : View (Stage (Solo μ))}
    (quiet : ∀ σ, (panel look machineCell errorsCell work).Ensures (· = σ) view.status fun _ σ' => σ' = σ) :
    (Workload.scripted jobCell).Enacts (panel look machineCell errorsCell work) view Scripted.conduct :=
  scripted_enacts separate.still (fun _ _ => rfl) (fun _ => rfl) quiet

def controller {S E : Type} (config : ServiceConfig) (gateway : Gateway (Stage (Solo μ)) S E) :
    Controller (Stage (Solo μ)) S E where
  gateway
  workload := Workload.scripted jobCell
  config
  interactive := false
  terminate := Scenario.Role.refuse
  errors := errorsCell
  triggers := Stage.triggersCell
  binary := .error ""

end Solo

end ServiceControl
