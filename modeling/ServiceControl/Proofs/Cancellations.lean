import ServiceControl.Proofs.Beside
import ServiceControl.Proofs.Promises
import ServiceControl.Shutdown
/-!
# Triggers beside a run

Triggers are fired and let go of while a run goes on.  One that is let go of unfired is never fired, and one that was
fired stays so when it is let go of.  Main statement: what is done with triggers beside a run cancels a context at the
first firing of its trigger, if there is one, and from then on for good (`deeds_ready`).
-/
namespace ServiceControl.Interactive

open Shutdown (Context Triggers)

variable {γ κ : Type}

/-- The triggers, and which of them someone still has. -/
structure Hands where
  triggers : Triggers
  held : List Nat

inductive Deed
  | fire (trigger : Nat)
  | letGo (trigger : Nat)
  deriving DecidableEq, Repr

/-- A trigger that nobody has any more is not fired. -/
def Deed.apply : Deed → Hands → Hands
  | .fire trigger, h => if trigger ∈ h.held then { h with triggers := h.triggers.fire trigger } else h
  | .letGo trigger, h => { h with held := h.held.filter (· ≠ trigger) }

/-- Deeds one after another, each some time after the one before. -/
def deeds (outside : Cell γ Hands) : List (Nat × Deed) → Task γ Unit
  | [] => return
  | (delay, deed) :: rest => do
    Task.sleep delay
    Act.update outside deed.apply
    deeds outside rest

/-- When a trigger that someone has is fired: at the first deed that fires it, and not once it has been let go of. -/
def firing (trigger : Nat) : Nat → List (Nat × Deed) → Option Nat
  | _, [] => none
  | now, (delay, .fire t) :: rest => if t = trigger then some (now + delay) else firing trigger (now + delay) rest
  | now, (delay, .letGo t) :: rest => if t = trigger then none else firing trigger (now + delay) rest

/-- From when on the context is cancelled, if it ever is: it may be so from the start. -/
def cancelled (h : Hands) (now : Nat) (events : List (Nat × Deed)) : Context → Option Nat
  | .never => none
  | .of trigger =>
    if trigger ∈ h.triggers.fired then some now else if trigger ∈ h.held then firing trigger now events else none

section Cancelled

variable {trigger : Nat} {context : Context} {h : Hands} {now : Nat} {events : List (Nat × Deed)}

theorem isCancelled_of : h.triggers.isCancelled (.of trigger) = true ↔ trigger ∈ h.triggers.fired := by
  show h.triggers.fired.contains trigger = true ↔ _
  rw [List.contains_iff_mem]

theorem cancelled_fired (fired : trigger ∈ h.triggers.fired) : cancelled h now events (.of trigger) = some now :=
  if_pos fired

theorem cancelled_unfired (unfired : trigger ∉ h.triggers.fired) :
    cancelled h now events (.of trigger) = if trigger ∈ h.held then firing trigger now events else none :=
  if_neg unfired

theorem firing_fire (delay t : Nat) : firing trigger now ((delay, .fire t) :: events) =
    if t = trigger then some (now + delay) else firing trigger (now + delay) events :=
  rfl

theorem firing_letGo (delay t : Nat) : firing trigger now ((delay, .letGo t) :: events) =
    if t = trigger then none else firing trigger (now + delay) events :=
  rfl

theorem firing_ge {u : Nat} (hu : u ∈ firing trigger now events) : now ≤ u := by
  induction events generalizing now with
  | nil => cases hu
  | cons event rest ih =>
    obtain ⟨delay, t | t⟩ := event
    · rw [firing_fire] at hu
      split at hu
      · obtain rfl := Option.some.inj hu
        exact Nat.le_add_right _ _
      · exact Nat.le_trans (Nat.le_add_right _ _) (ih hu)
    · rw [firing_letGo] at hu
      split at hu
      · cases hu
      · exact Nat.le_trans (Nat.le_add_right _ _) (ih hu)

theorem cancelled_ge {u : Nat} (hu : u ∈ cancelled h now events context) : now ≤ u := by
  cases context with
  | never => cases hu
  | of trigger =>
    by_cases fired : trigger ∈ h.triggers.fired
    · rw [cancelled_fired fired] at hu
      exact Nat.le_of_eq (Option.some.inj hu)
    · rw [cancelled_unfired fired] at hu
      split at hu
      · exact firing_ge hu
      · cases hu

theorem cancelled_already (already : h.triggers.isCancelled context = true) :
    cancelled h now events context = some now := by
  cases context with
  | never => cases already
  | of trigger => exact cancelled_fired (isCancelled_of.1 already)

theorem cancelled_nil (idle : h.triggers.isCancelled context = false) : cancelled h now [] context = none := by
  cases context with
  | never => rfl
  | of trigger =>
    rw [cancelled_unfired (mt isCancelled_of.2 (Bool.eq_false_iff.1 idle))]
    exact ite_self _

/-- Until the context is cancelled a deed is as good as done. -/
theorem cancelled_cons (idle : h.triggers.isCancelled context = false) (delay : Nat) (deed : Deed) :
    cancelled h now ((delay, deed) :: events) context = cancelled (deed.apply h) (now + delay) events context := by
  cases context with
  | never => rfl
  | of trigger =>
    have unfired : trigger ∉ h.triggers.fired := mt isCancelled_of.2 (Bool.eq_false_iff.1 idle)
    rw [cancelled_unfired unfired]
    cases deed with
    | fire t =>
      rw [firing_fire]
      unfold Deed.apply
      dsimp only
      by_cases own : t = trigger
      · subst own
        rw [if_pos rfl]
        by_cases held : t ∈ h.held
        · rw [if_pos held, if_pos held, cancelled_fired List.mem_cons_self]
        · rw [if_neg held, if_neg held, cancelled_unfired unfired, if_neg held]
      · rw [if_neg own]
        by_cases had : t ∈ h.held
        · have other : trigger ∉ (h.triggers.fire t).fired := fun fired =>
            (List.mem_cons.1 fired).elim (fun eq => own eq.symm) unfired
          rw [if_pos had, cancelled_unfired other]
        · rw [if_neg had, cancelled_unfired unfired]
    | letGo t =>
      have left : trigger ∈ (Deed.apply (.letGo t) h).held ↔ trigger ∈ h.held ∧ trigger ≠ t := by
        simp [Deed.apply]
      rw [firing_letGo, cancelled_unfired (h := Deed.apply (.letGo t) h) unfired]
      by_cases own : t = trigger
      · rw [if_pos own, ite_self, if_neg fun held => (left.1 held).2 own.symm]
      · rw [if_neg own]
        by_cases held : trigger ∈ h.held
        · rw [if_pos held, if_pos (left.2 ⟨held, fun eq => own eq.symm⟩)]
        · rw [if_neg held, if_neg fun kept => held (left.1 kept).1]

theorem isCancelled_apply (deed : Deed) (cancelled : h.triggers.isCancelled context = true) :
    (deed.apply h).triggers.isCancelled context = true := by
  cases deed with
  | fire trigger =>
    unfold Deed.apply
    dsimp only
    split
    · exact Triggers.isCancelled_fire trigger cancelled
    · exact cancelled
  | letGo trigger => exact cancelled

end Cancelled

/-- What a run listens for. -/
def sides (own : Cell γ κ) (outside : Cell γ Hands) (context : Context) : Sides γ κ Hands :=
  ⟨own, outside, fun h => h.triggers.isCancelled context⟩

section Deeds

variable {own : Cell γ κ} {outside : Cell γ Hands} {context : Context} {fires : Option Nat}

/-- The scene after a deed. -/
def acted (outside : Cell γ Hands) (deed : Deed) (s : Scene γ) : Scene γ :=
  { s with world := outside.set (deed.apply (outside.get s.world)) s.world }

theorem deeds_cons (outside : Cell γ Hands) (delay : Nat) (deed : Deed) (rest : List (Nat × Deed)) (s : Scene γ) :
    deeds outside ((delay, deed) :: rest) s =
      (Step.afterWait (.till (s.now + delay)) (.done ()) s).bind fun _ s' => deeds outside rest (acted outside deed s') :=
  rfl

/-- **Deeds are a second task that cancels the context at its instant**, if they do so at all. -/
theorem deeds_fires (lawful : outside.Lawful) (apart : own.Apart outside) (events : List (Nat × Deed)) (s : Scene γ)
    (before : (outside.get s.world).triggers.isCancelled context = true → ∃ u ∈ fires, u ≤ s.now)
    (after : (outside.get s.world).triggers.isCancelled context = false →
      fires = cancelled (outside.get s.world) s.now events context) :
    own.get (deeds outside events s).scene.world = own.get s.world ∧ (deeds outside events s).scene.now = s.now ∧
      (sides own outside context).Fires fires (deeds outside events s) := by
  induction events generalizing s with
  | nil =>
    have fired {u : Nat} (hu : u ∈ fires) : (outside.get s.world).triggers.isCancelled context = true := by
      refine Bool.of_not_eq_false fun idle => ?_
      rw [after idle, cancelled_nil idle] at hu
      cases hu
    refine ⟨rfl, rfl, ⟨before, fun ⟨u, hu, _⟩ => fired hu⟩, fun u hu => ?_⟩
    obtain ⟨u', hu', hle⟩ := before (fired hu)
    rwa [Option.mem_unique hu hu']
  | cons event rest ih =>
    obtain ⟨delay, deed⟩ := event
    have turn (s' : Scene γ) (now : s'.now = s.now + delay) (same : outside.get s'.world = outside.get s.world) :
        own.get (deeds outside rest (acted outside deed s')).scene.world = own.get s'.world ∧
          (deeds outside rest (acted outside deed s')).scene.now = s.now + delay ∧
          (sides own outside context).Fires fires (deeds outside rest (acted outside deed s')) := by
      have holds : outside.get (acted outside deed s').world = deed.apply (outside.get s.world) := by
        rw [← same]
        exact lawful.get_set _ _
      have mine : own.get (acted outside deed s').world = own.get s'.world := apart _ _
      have later : (acted outside deed s').now = s.now + delay := now
      rw [← mine, ← later]
      refine ih (acted outside deed s') ?_ ?_
      · intro done
        rw [holds] at done
        rw [later]
        cases already : (outside.get s.world).triggers.isCancelled context with
        | true =>
          obtain ⟨u, hu, hle⟩ := before already
          exact ⟨u, hu, Nat.le_trans hle (Nat.le_add_right _ _)⟩
        | false =>
          refine ⟨s.now + delay, ?_, Nat.le_refl _⟩
          rw [after already, cancelled_cons already, cancelled_already done]
          rfl
      · intro idle
        rw [holds] at idle ⊢
        have still : (outside.get s.world).triggers.isCancelled context = false :=
          Bool.eq_false_iff.2 fun already => Bool.eq_false_iff.1 idle (isCancelled_apply deed already)
        rw [after still, cancelled_cons still, later]
    rw [deeds_cons, Step.afterWait]
    by_cases now : s.now + delay ≤ s.now
    · rw [if_pos (Wait.isOver_till.2 now)]
      obtain ⟨mine, later, fires⟩ := turn s (by omega) rfl
      exact ⟨mine, later.trans (by omega), fires⟩
    · rw [if_neg (mt Wait.isOver_till.1 now)]
      have ahead {u : Nat} (idle : (outside.get s.world).triggers.isCancelled context = false) (hu : u ∈ fires) :
          s.now + delay ≤ u := by
        rw [after idle, cancelled_cons idle] at hu
        exact cancelled_ge hu
      refine ⟨rfl, rfl, ⟨before, ?_⟩, s.now + delay, rfl, Nat.lt_of_not_le now, ?_, turn⟩
      · rintro ⟨u, hu, hle⟩
        refine Bool.of_not_eq_false fun idle => ?_
        exact now (Nat.le_trans (ahead idle hu) hle)
      · intro u hu hlt
        refine ahead (Bool.eq_false_iff.2 fun already => ?_) hu
        obtain ⟨u', hu', hle⟩ := before already
        obtain rfl := Option.mem_unique hu hu'
        exact Nat.not_le_of_lt hlt hle

/-- **The second task is ready**, whatever has been done with the triggers before. -/
theorem deeds_ready (lawful : outside.Lawful) (apart : own.Apart outside) (events : List (Nat × Deed)) (now : Nat)
    (h : Hands) :
    (sides own outside context).Ready (cancelled h now events context) (deeds outside events) now h := by
  constructor
  · intro already
    exact ⟨now, cancelled_already already, Nat.le_refl _⟩
  · rintro s rfl rfl
    refine deeds_fires lawful apart events s ?_ fun _ => rfl
    intro already
    exact ⟨s.now, cancelled_already already, Nat.le_refl _⟩

end Deeds

end ServiceControl.Interactive
