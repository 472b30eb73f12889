import ServiceControl.Proofs.Memory.Requests
import ServiceControl.Proofs.Memory.Staged
/-!
# Entries and log sources

An entry has a log source and a log source has an entry, over whatever several controllers have done with one machine,
unless the error of an operation has told otherwise (`entries_paired`).
-/
namespace ServiceControl.Memory

variable {γ : Type} [Background γ] {cell : Cell γ Machine}

/-! ## Histories -/

/-- An order that a controller has carried out, with what it came to and the machine before and after. -/
structure Deed where
  name : String
  order : Scenario.Order
  result : Except ServiceError Unit
  before : Machine
  after : Machine

/-- **Where a machine gets from empty** by what controllers do with it one after another, by what it is set to, and by what
goes on elsewhere: the deeds, the latest first. -/
inductive Reached (cell : Cell γ Machine) : List Deed → Scene γ → Prop
  | empty {s : Scene γ} (fresh : cell.get s.world = {}) : Reached cell [] s
  | order {deeds : List Deed} {s after : Scene γ} {c : Controller γ Unit String} {order : Scenario.Order}
      {r : Except ServiceError Unit} (h : Reached cell deeds s) (o : Oversees c cell)
      (done : (carryOut c order).run.finish s = (some r, after)) :
      Reached cell (⟨c.name, order, r, cell.get s.world, cell.get after.world⟩ :: deeds) after
  | set {deeds : List Deed} {s after : Scene γ} (h : Reached cell deeds s) (setting : Setting)
      (done : cell.get after.world = (cell.get s.world).set setting) : Reached cell deeds after
  | elsewhere {deeds : List Deed} {s after : Scene γ} (h : Reached cell deeds s)
      (same : cell.get after.world = cell.get s.world) : Reached cell deeds after

theorem set_keeps (m : Machine) (setting : Setting) : (m.set setting).openSessions = m.openSessions ∧
    (m.set setting).openEntries = m.openEntries ∧ (m.set setting).roll = m.roll := by
  cases setting <;> exact ⟨rfl, rfl, rfl⟩

/-- Between operations nothing is held. -/
theorem Reached.free {deeds : List Deed} {s : Scene γ} (h : Reached cell deeds s) :
    (cell.get s.world).openSessions = 0 ∧ (cell.get s.world).openEntries = 0 := by
  induction h with
  | empty fresh =>
    rw [fresh]
    exact ⟨rfl, rfl⟩
  | @order _ s after c order r _ o done ih =>
    obtain ⟨⟨ρ, stands, -⟩, -⟩ := carryOut_carried o order s (.start (cell.sight s) ih.1 ih.2)
    rw [done] at stands
    exact ⟨stands.sessions, stands.entries⟩
  | @set _ s _ _ setting done ih =>
    obtain ⟨hsessions, hentries, -⟩ := set_keeps (cell.get s.world) setting
    rw [done, hsessions, hentries]
    exact ih
  | elsewhere _ same ih =>
    rw [same]
    exact ih

/-- An operation that is not a run is carried out to its end. -/
theorem Reached.ordered {deeds : List Deed} {s : Scene γ} (h : Reached cell deeds s) {c : Controller γ Unit String}
    (o : Oversees c cell) {order : Scenario.Order} (ends : order ≠ .run) : ∃ r,
      Reached cell (⟨c.name, order, r, cell.get s.world, cell.get ((carryOut c order).run.finish s).2.world⟩ :: deeds)
        ((carryOut c order).run.finish s).2 := by
  obtain ⟨-, ended⟩ := carryOut_carried o order s (.start (cell.sight s) h.free.1 h.free.2)
  obtain ⟨r, hr⟩ := Option.isSome_iff_exists.1 (ended fun run => absurd run ends)
  exact ⟨r, h.order o (Prod.ext hr rfl)⟩

/-! ## One order -/

/-- **What an order can mean for a name.** -/
inductive Bears (name : String) (ρ ρ' : Roll) : Scenario.Order → String → Except ServiceError Unit → Prop
  | unchanged {order : Scenario.Order} {other : String} {r : Except ServiceError Unit}
      (installed : ρ'.installed name = ρ.installed name) (sourced : ρ'.sourced name = ρ.sourced name) :
      Bears name ρ ρ' order other r
  | paired {order : Scenario.Order} {other : String} {r : Except ServiceError Unit}
      (paired : ρ'.installed name = ρ'.sourced name) : Bears name ρ ρ' order other r
  | stuck (absent : ρ.installed name = false) (installed : ρ'.installed name = true) (reason rollback : String) :
      Bears name ρ ρ' .install name (.error (.rollbackFailed name reason rollback))
  | half (gone : ρ'.installed name = false) (reason : String) :
      Bears name ρ ρ' .uninstall name (.error (.logSourceRemoval name reason))

theorem bears_elsewhere {name : String} {ρ ρ' : Roll} {order : Scenario.Order} {other : String}
    {r : Except ServiceError Unit} (h : Affects order other ρ r ρ') (elsewhere : name ≠ other) :
    Bears name ρ ρ' order other r := by
  have hne : (name == other) = false := beq_eq_false_iff_ne.2 elsewhere
  have hbne : (name != other) = true := bne_iff_ne.2 elsewhere
  cases order with
  | install =>
    cases (h : Installs other ρ r ρ') with
    | refused _ => exact .unchanged rfl rfl
    | done _ _ => exact .unchanged (by simp [Roll.enter, Roll.source, hne]) (by simp [Roll.enter, Roll.source, hne])
    | stuck _ _ _ => exact .unchanged (by simp [Roll.enter, hne]) rfl
  | uninstall =>
    cases (h : Uninstalls other ρ r ρ') with
    | refused _ => exact .unchanged rfl rfl
    | done _ _ => exact .unchanged (by simp [Roll.strike, Roll.unsource, hbne]) (by simp [Roll.strike, Roll.unsource, hbne])
    | half _ _ => exact .unchanged (by simp [Roll.strike, hbne]) rfl
  | _ =>
    obtain rfl : ρ' = ρ := h
    exact .unchanged rfl rfl

theorem bears {ρ ρ' : Roll} {order : Scenario.Order} {other : String} {r : Except ServiceError Unit}
    (h : Affects order other ρ r ρ') (name : String) : Bears name ρ ρ' order other r := by
  by_cases elsewhere : name = other
  · subst elsewhere
    cases order with
    | install =>
      cases (h : Installs name ρ r ρ') with
      | refused _ => exact .unchanged rfl rfl
      | done _ _ => exact .paired (by simp [Roll.enter, Roll.source])
      | stuck absent reason rollback => exact .stuck absent (by simp [Roll.enter]) reason rollback
    | uninstall =>
      cases (h : Uninstalls name ρ r ρ') with
      | refused _ => exact .unchanged rfl rfl
      | done _ _ => exact .paired (by simp [Roll.strike, Roll.unsource])
      | half _ reason => exact .half (by simp [Roll.strike]) reason
    | _ =>
      obtain rfl : ρ' = ρ := h
      exact .unchanged rfl rfl
  · exact bears_elsewhere h elsewhere

/-! ## Any number of them -/

/-- The deed that installed the entry of a name and could not delete it again. -/
structure Deed.Sticks (d : Deed) (name : String) : Prop where
  named : d.name = name
  ordered : d.order = .install
  result : ∃ reason rollback, d.result = .error (.rollbackFailed name reason rollback)
  absent : d.before.isInstalled name = false
  installed : d.after.isInstalled name = true

/-- The deed that deleted the entry of a name and left its log source. -/
structure Deed.Halves (d : Deed) (name : String) : Prop where
  named : d.name = name
  ordered : d.order = .uninstall
  result : ∃ reason, d.result = .error (.logSourceRemoval name reason)
  gone : d.after.isInstalled name = false

/-- **What explains that a name has the one and not the other.** -/
structure Explained (name : String) (deeds : List Deed) (ρ : Roll) : Prop where
  unsourced : ρ.installed name = true → ρ.sourced name = false → ∃ later d earlier, deeds = later ++ d :: earlier ∧
    d.Sticks name ∧ ∀ d' ∈ later, d'.before.isInstalled name = true ∧ d'.after.isInstalled name = true
  uninstalled : ρ.sourced name = true → ρ.installed name = false → ∃ d ∈ deeds, d.Halves name

/-- One deed more. -/
theorem Explained.deed {name other : String} {deeds : List Deed} {order : Scenario.Order} {r : Except ServiceError Unit}
    {before after : Machine} (h : Explained name deeds before.roll)
    (b : Bears name before.roll after.roll order other r) :
    Explained name (⟨other, order, r, before, after⟩ :: deeds) after.roll := by
  cases b with
  | unchanged installed sourced =>
    constructor
    · intro present absent
      rw [installed] at present
      rw [sourced] at absent
      obtain ⟨later, d, earlier, rfl, sticks, since⟩ := h.unsourced present absent
      refine ⟨_ :: later, d, earlier, rfl, sticks, ?_⟩
      intro d' hd'
      rcases List.mem_cons.1 hd' with rfl | hd'
      · exact ⟨present, installed.trans present⟩
      · exact since d' hd'
    · intro present absent
      rw [sourced] at present
      rw [installed] at absent
      obtain ⟨d, hd, halves⟩ := h.uninstalled present absent
      exact ⟨d, List.mem_cons_of_mem _ hd, halves⟩
  | paired paired =>
    constructor
    · intro present absent
      rw [paired] at present
      exact absurd (present.symm.trans absent) Bool.noConfusion
    · intro present absent
      rw [paired] at absent
      exact absurd (present.symm.trans absent) Bool.noConfusion
  | stuck absent installed reason rollback =>
    constructor
    · intro _ _
      refine ⟨[], _, deeds, rfl, ⟨rfl, rfl, ⟨reason, rollback, rfl⟩, absent, installed⟩, ?_⟩
      intro _ hd'
      exact absurd hd' List.not_mem_nil
    · intro _ gone
      exact absurd (installed.symm.trans gone) Bool.noConfusion
  | half gone reason =>
    constructor
    · intro present _
      exact absurd (present.symm.trans gone) Bool.noConfusion
    · intro _ _
      exact ⟨_, List.mem_cons_self, rfl, rfl, ⟨reason, rfl⟩, gone⟩

theorem reached_explained {deeds : List Deed} {s : Scene γ} (h : Reached cell deeds s) (name : String) :
    Explained name deeds (cell.get s.world).roll := by
  induction h with
  | empty fresh =>
    rw [fresh]
    exact ⟨fun present => absurd present Bool.noConfusion, fun present => absurd present Bool.noConfusion⟩
  | @order deeds s after c order r h o done ih =>
    obtain ⟨⟨ρ', stands, -, affects⟩, -⟩ := carryOut_carried o order s (.start (cell.sight s) h.free.1 h.free.2)
    rw [done] at stands affects
    have hroll : (cell.get after.world).roll = ρ' := stands.roll
    have b := bears (affects r rfl) name
    rw [← hroll] at b
    exact ih.deed b
  | @set _ s _ _ setting done ih =>
    obtain ⟨-, -, hroll⟩ := set_keeps (cell.get s.world) setting
    rw [done, hroll]
    exact ih
  | elsewhere _ same ih =>
    rw [same]
    exact ih

/-- **Entries and log sources are paired.**  An entry without a log source was made by an install that failed to roll
back, and has been there since; a log source without an entry was left by an uninstall that failed to remove it.  A name of
which no operation told such a thing is installed if and only if its log source is registered. -/
theorem entries_paired {deeds : List Deed} {s : Scene γ} (h : Reached cell deeds s) (name : String) :
    let m := cell.get s.world
    (m.isInstalled name = true → m.hasLogSource name = false → ∃ later d earlier, deeds = later ++ d :: earlier ∧
      d.Sticks name ∧ ∀ d' ∈ later, d'.before.isInstalled name = true ∧ d'.after.isInstalled name = true) ∧
    (m.hasLogSource name = true → m.isInstalled name = false → ∃ d ∈ deeds, d.Halves name) ∧
    ((∀ d ∈ deeds, d.name = name → ∀ reason rollback, d.result ≠ .error (.rollbackFailed name reason rollback)) →
      (∀ d ∈ deeds, d.name = name → ∀ reason, d.result ≠ .error (.logSourceRemoval name reason)) →
      m.isInstalled name = m.hasLogSource name) := by
  intro m
  obtain ⟨unsourced, uninstalled⟩ := reached_explained h name
  refine ⟨unsourced, uninstalled, ?_⟩
  intro noneStuck noneHalf
  cases hi : m.isInstalled name with
  | true =>
    cases hs : m.hasLogSource name with
    | true => rfl
    | false =>
      obtain ⟨later, d, earlier, rfl, sticks, -⟩ := unsourced hi hs
      obtain ⟨reason, rollback, result⟩ := sticks.result
      exact absurd result (noneStuck d (by simp) sticks.named reason rollback)
  | false =>
    cases hs : m.hasLogSource name with
    | false => rfl
    | true =>
      obtain ⟨d, hd, halves⟩ := uninstalled hs hi
      obtain ⟨reason, result⟩ := halves.result
      exact absurd result (noneHalf d hd halves.named reason)

open Scenario.Shared (World machineCell) in
/-- One service is stuck without a log source, and the log source of another stays behind. -/
theorem entries_paired_refused :
    let control (name : String) : Controller World Unit String :=
      Scenario.Role.controller { config := { name } } 0 (gateway machineCell) (terminator machineCell) (.ok "/bin/svc")
    let set (setting : Setting) (s : Scene World) : Scene World :=
      { s with world := machineCell.set ((machineCell.get s.world).set setting) s.world }
    let order (name : String) (order : Scenario.Order) (s : Scene World) : Scene World :=
      ((carryOut (control name) order).run.finish s).2
    let first : Scene World := { world := { manager := {} } }
    let refused := order "svcA" .install (set (.failsDelete true) (set (.failsLogRegistration true) first))
    let installed := order "svcB" .install (set (.failsDelete false) (set (.failsLogRegistration false) refused))
    let last := order "svcB" .uninstall (set (.failsLogRemoval true) installed)
    let m := machineCell.get last.world
    ∃ deeds, Reached machineCell deeds last ∧
      m.isInstalled "svcA" = true ∧ m.hasLogSource "svcA" = false ∧
      (∃ later d earlier, deeds = later ++ d :: earlier ∧ d.Sticks "svcA" ∧
        ∀ d' ∈ later, d'.before.isInstalled "svcA" = true ∧ d'.after.isInstalled "svcA" = true) ∧
      m.hasLogSource "svcB" = true ∧ m.isInstalled "svcB" = false ∧ ∃ d ∈ deeds, d.Halves "svcB" := by
  intro control set order first refused installed last m
  have o (name : String) : Oversees (control name) machineCell := role_oversees _ 0 _
  have sets {deeds : List Deed} {s : Scene World} (h : Reached machineCell deeds s) (setting : Setting) :
      Reached machineCell deeds (set setting s) :=
    h.set setting rfl
  have carries {deeds : List Deed} {s : Scene World} (h : Reached machineCell deeds s) (name : String)
      (what : Scenario.Order) (ends : what ≠ .run) : ∃ d, Reached machineCell (d :: deeds) (order name what s) := by
    obtain ⟨r, hr⟩ := h.ordered (o name) ends
    exact ⟨_, hr⟩
  have h₀ : Reached machineCell [] first := .empty rfl
  obtain ⟨d₁, h₁⟩ : ∃ d, Reached machineCell [d] refused :=
    carries (sets (sets h₀ (.failsLogRegistration true)) (.failsDelete true)) "svcA" .install nofun
  obtain ⟨d₂, h₂⟩ : ∃ d, Reached machineCell [d, d₁] installed :=
    carries (sets (sets h₁ (.failsLogRegistration false)) (.failsDelete false)) "svcB" .install nofun
  obtain ⟨d₃, h₃⟩ : ∃ d, Reached machineCell [d, d₂, d₁] last :=
    carries (sets h₂ (.failsLogRemoval true)) "svcB" .uninstall nofun
  have stuck : m.isInstalled "svcA" = true ∧ m.hasLogSource "svcA" = false := by decide +kernel
  have half : m.hasLogSource "svcB" = true ∧ m.isInstalled "svcB" = false := by decide +kernel
  clear_value last
  have explainedA := (entries_paired h₃ "svcA").1 stuck.1 stuck.2
  have explainedB := (entries_paired h₃ "svcB").2.1 half.1 half.2
  exact ⟨_, h₃, stuck.1, stuck.2, explainedA, half.1, half.2, explainedB⟩

end ServiceControl.Memory
