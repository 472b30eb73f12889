import ServiceControl.Proofs.Watch
import ServiceControl.Proofs.Windows.Pile
/-!
# Custody of handles

What each use of Windows does to the pile of handles that are held.  A controller obtains, uses and closes handles in such
a way that every errand begins and ends with an empty pile, whatever Windows replies (`perform_custody`).
-/
namespace ServiceControl.Windows

open Cell (Ensures Yields Either)

namespace Item

def ofManager (m : Handle) : Item := ⟨.manager, m, none⟩

def ofService (m h : Handle) : Item := ⟨.service, h, some m⟩

def ofKey (h : Handle) : Item := ⟨.key, h, none⟩

end Item

theorem fits_of_mem {held : List Item} {x : Item} {c : Call} {kinds : List Kind} (hx : x ∈ held)
    (takes : c.takes? = some (x.handle, kinds)) (kind : x.kind ∈ kinds) : c.Fits held := by
  intro h kinds' takes'
  obtain ⟨rfl, rfl⟩ := Prod.mk.inj (Option.some.inj (takes.symm.trans takes'))
  exact ⟨x, hx, rfl, kind⟩

theorem fits_of_none {held : List Item} {c : Call} (takes : c.takes? = none) : c.Fits held := by
  intro h kinds takes'
  rw [takes] at takes'
  cases takes'

namespace Lookout

variable {γ κ : Type} {o : Lookout γ κ} {d : Desk κ} {held : List Item} {f : Function} {c : Call}

/-- These handles are held of those that were obtained since. -/
def holds (o : Lookout γ κ) (d : Desk κ) (held : List Item) : Sight (Desk κ) → Prop :=
  o.since d fun log => Trail Handed [] log held

variable (clear : o.Clear)
include clear

/-! ## Requests -/

section Requests

variable (called : c.function? = some f) (fits : c.Fits held)
include called fits

theorem invoke_holds (closes : c.closes? = none) (obtains : c.obtains = false) :
    o.place.Ensures (o.holds d held) (invoke o.cell f c) fun _ => o.holds d held := by
  refine invoke_since clear called closes obtains fun log reply h => h.snoc (.used rfl ?_)
  intro c' hc'
  obtain rfl : c = c' := Option.some.inj hc'
  exact ⟨fits, closes⟩

theorem acquire_holds {item : Handle → Item} (closes : c.closes? = none) (obtains : c.obtains = true)
    (gives : ∀ h, c.item? h = some (item h)) :
    o.place.Yields (o.holds d held) (acquire o.cell f c)
      (Either (fun r => o.holds d (item r.1 :: held)) fun _ => o.holds d held) := by
  refine acquire_since (Φ := fun log => Trail Handed [] log held)
    (Ψ := fun h log => Trail Handed [] log (item h :: held))
    (Ξ := fun _ log => Trail Handed [] log held) clear called closes obtains
    (fun log reply h trail _ => trail.snoc (.obtained (gives h) ?_)) fun log code trail => trail.snoc (.used rfl ?_)
  · intro c' hc'
    obtain rfl : c = c' := Option.some.inj hc'
    exact fits
  · intro c' hc'
    obtain rfl : c = c' := Option.some.inj hc'
    exact ⟨fits, closes⟩

end Requests

theorem close_holds {g : Handle → Call} {x : Item} (called : (g x.handle).function? = some f)
    (closing : g x.handle = x.closing) :
    o.place.Ensures (o.holds d (x :: held)) (close o.cell f g x.handle) fun _ => o.holds d held := by
  refine close_since clear called (by rw [closing, closes_closing]) fun log reply trail => trail.snoc (.closed ?_)
  exact congrArg some closing

/-! ## Uses of Windows -/

theorem connect_holds :
    o.place.Yields (o.holds d held) (connect o.cell)
      (Either (fun m => o.holds d (.ofManager m :: held)) fun _ => o.holds d held) :=
  connect_yields (acquire_holds clear rfl (fits_of_none rfl) rfl rfl fun _ => rfl)

/-- Handles of the manager and of services are closed alike. -/
theorem closeHandle_holds {x : Item} (notKey : x.kind ≠ .key) :
    o.place.Ensures (o.holds d (x :: held)) (closeHandle o.cell x.handle) fun _ => o.holds d held := by
  refine close_holds clear rfl ?_
  obtain ⟨kind, _, _⟩ := x
  cases kind with
  | key => exact absurd rfl notKey
  | _ => rfl

section Session

variable {m : Handle} (hm : Item.ofManager m ∈ held)
include hm

theorem openService_holds (name : String) :
    o.place.Yields (o.holds d held) (openService o.cell m name)
      (Either (fun h => o.holds d (.ofService m h :: held)) fun _ => o.holds d held) := by
  refine openService_yields (fun checked => ?_) fun _ _ _ hσ => hσ
  exact acquire_holds clear rfl (fits_of_mem hm rfl (List.mem_singleton.2 rfl)) rfl rfl fun _ => rfl

theorem createService_holds (spec : ServiceSpec) :
    o.place.Yields (o.holds d held) (createService o.cell m spec)
      (Either (fun h => o.holds d (.ofService m h :: held)) fun _ => o.holds d held) := by
  refine createService_yields (R := fun h => o.holds d (.ofService m h :: held)) (fun new => ?_) (fun _ _ _ hσ => hσ)
    (fun h text => ?_) fun _ _ hσ => hσ
  · exact acquire_holds clear rfl (fits_of_mem hm rfl (List.mem_singleton.2 rfl)) rfl rfl fun _ => rfl
  · exact invoke_holds clear rfl (fits_of_mem List.mem_cons_self rfl (List.mem_singleton.2 rfl)) rfl rfl

end Session

section Entry

variable {m h : Handle} (hx : Item.ofService m h ∈ held)
include hx

theorem service_holds (called : c.function? = some f) (closes : c.closes? = none) (obtains : c.obtains = false)
    (takes : c.takes? = some (h, [.service])) :
    o.place.Ensures (o.holds d held) (invoke o.cell f c) fun _ => o.holds d held :=
  invoke_holds clear called (fits_of_mem hx takes (List.mem_singleton.2 rfl)) closes obtains

theorem start_holds : o.place.Yields (o.holds d held) (start o.cell h) fun _ => o.holds d held :=
  (order_bluntly (service_holds clear hx rfl rfl rfl rfl) _).weaken fun _ _ => Bluntly.kept

theorem setRecovery_holds (action : RecoveryAction) :
    o.place.Yields (o.holds d held) (setRecovery o.cell h action) fun _ => o.holds d held :=
  (order_bluntly (service_holds clear hx rfl rfl rfl rfl) _).weaken fun _ _ => Bluntly.kept

theorem delete_holds : o.place.Yields (o.holds d held) (delete o.cell h) fun _ => o.holds d held :=
  (order_bluntly (service_holds clear hx rfl rfl rfl rfl) _).weaken fun _ _ => Bluntly.kept

theorem query_holds : o.place.Yields (o.holds d held) (query o.cell h) fun _ => o.holds d held :=
  query_yields (service_holds clear hx rfl rfl rfl rfl)

theorem control_holds : o.place.Yields (o.holds d held) (control o.cell h .stop) fun _ => o.holds d held :=
  control_yields (service_holds clear hx rfl rfl rfl rfl)

end Entry

/-- A key that is open lies on top of the pile. -/
theorem keys_hold : Keys o.place o.cell (o.holds d held) fun key => o.holds d (.ofKey key :: held) where
  creates _ := acquire_holds clear rfl (fits_of_none rfl) rfl rfl fun _ => rfl
  opens _ := acquire_holds clear rfl (fits_of_none rfl) rfl rfl fun _ => rfl
  sets _ _ _ := invoke_holds clear rfl (fits_of_mem List.mem_cons_self rfl (List.mem_singleton.2 rfl)) rfl rfl
  queries _ _ _ := invoke_holds clear rfl (fits_of_mem List.mem_cons_self rfl (List.mem_singleton.2 rfl)) rfl rfl
  closes key := close_holds (x := .ofKey key) clear rfl rfl
  deletes _ := invoke_holds clear rfl (fits_of_none rfl) rfl rfl

end Lookout

/-! ## Errands -/

namespace Governs

open Lookout

variable {γ κ α : Type} [Background γ] {c : Controller γ Handle Handle} {o : Lookout γ κ} (governs : Governs c o)
  {d : Desk κ} {held : List Item} {m h : Handle}
include governs

theorem withSession_holds {use : Handle → ServiceControl.Call γ α}
    (hu : ∀ m, o.place.Yields (o.holds d [.ofManager m]) (use m) fun _ => o.holds d [.ofManager m]) :
    o.place.Yields (o.holds d []) (c.withSession use) fun _ => o.holds d [] := by
  unfold Controller.withSession
  rw [governs.gateway]
  refine (connect_holds governs.toClear).holding (fun _ _ hσ => hσ) hu fun m _ => ?_
  exact closeHandle_holds (x := .ofManager m) governs.toClear nofun

theorem holdingEntry_holds {use : Handle → ServiceControl.Call γ α}
    (hu : ∀ h, o.place.Yields (o.holds d [.ofService m h, .ofManager m]) (use h) fun _ =>
      o.holds d [.ofService m h, .ofManager m]) :
    o.place.Yields (o.holds d [.ofManager m]) (holding (c.gateway.openEntry m c.name) c.gateway.closeEntry use)
      fun _ => o.holds d [.ofManager m] := by
  rw [governs.gateway]
  refine (openService_holds governs.toClear List.mem_cons_self _).holding (fun _ _ hσ => hσ) hu fun h _ => ?_
  exact closeHandle_holds (x := .ofService m h) governs.toClear nofun

theorem withEntry_holds {use : Handle → Op γ α}
    (hu : ∀ m h, o.place.Yields (o.holds d [.ofService m h, .ofManager m]) (use h) fun _ =>
      o.holds d [.ofService m h, .ofManager m]) :
    o.place.Yields (o.holds d []) (c.withEntry use) fun _ => o.holds d [] := by
  unfold Controller.withEntry
  rw [governs.gateway]
  refine (Yields.call (connect_holds governs.toClear)).holding (U := fun m _ => o.holds d [.ofManager m])
    (fun _ _ hσ => hσ) (fun m => ?_) fun m _ => ?_
  · refine (Yields.call (openService_holds governs.toClear List.mem_cons_self _)).holding (fun _ _ hσ => hσ) (hu m)
      fun h _ => ?_
    exact Ensures.act (closeHandle_holds (x := .ofService m h) governs.toClear nofun)
  · exact Ensures.act (closeHandle_holds (x := .ofManager m) governs.toClear nofun)

/-! ### Installing -/

theorem checkAbsent_holds :
    o.place.Yields (o.holds d [.ofManager m]) (c.checkAbsent m) fun _ => o.holds d [.ofManager m] := by
  unfold Controller.checkAbsent
  rw [governs.gateway]
  refine Yields.attempt_bind (openService_holds governs.toClear List.mem_cons_self _) fun r => ?_
  cases r with
  | ok h =>
    have hclose : o.place.Ensures (o.holds d [.ofService m h, .ofManager m]) (closeHandle o.cell h) fun _ =>
        o.holds d [.ofManager m] :=
      closeHandle_holds (x := .ofService m h) governs.toClear nofun
    exact (Yields.lift hclose).bind_ok fun _ => .throw fun _ hσ => hσ
  | error e =>
    cases e with
    | notInstalled name => exact .pure fun _ hσ => hσ
    | _ => exact .throw fun _ hσ => hσ

theorem sourceEntry_holds (hx : Item.ofService m h ∈ held) :
    o.place.Yields (o.holds d held) (c.registerLogSource h) fun _ => o.holds d held := by
  unfold Controller.registerLogSource
  rw [governs.gateway]
  have hregister : o.place.Yields (o.holds d held) (registerLogSource o.cell c.name) fun _ => o.holds d held :=
    ((keys_hold governs.toClear).registerLogSource_bluntly c.name).weaken fun _ _ => Bluntly.kept
  refine hregister.attempt_bind fun r => ?_
  cases r with
  | ok _ => exact .pure fun _ hσ => hσ
  | error e =>
    refine (Yields.log _ _).bind_ok fun _ => Yields.attempt_bind (delete_holds governs.toClear hx) fun r => ?_
    cases r with
    | ok _ => exact .throw fun _ hσ => hσ
    | error rollback => exact .throw fun _ hσ => hσ

theorem install_holds : o.place.Yields (o.holds d []) c.install fun _ => o.holds d [] := by
  have hset {m h : Handle} : o.place.Yields (o.holds d [.ofService m h, .ofManager m])
      (c.gateway.setRecovery h .restartNow) fun _ => o.holds d [.ofService m h, .ofManager m] := by
    rw [governs.gateway]
    exact setRecovery_holds governs.toClear List.mem_cons_self _
  have hcreate {m : Handle} (spec : ServiceSpec) : o.place.Yields (o.holds d [.ofManager m])
      (c.gateway.create m spec) (Either (fun h => o.holds d [.ofService m h, .ofManager m]) fun _ =>
        o.holds d [.ofManager m]) := by
    rw [governs.gateway]
    exact createService_holds governs.toClear List.mem_cons_self spec
  have hclose {m h : Handle} : o.place.Ensures (o.holds d [.ofService m h, .ofManager m]) (c.gateway.closeEntry h)
      fun _ => o.holds d [.ofManager m] := by
    rw [governs.gateway]
    exact closeHandle_holds (x := .ofService m h) governs.toClear nofun
  unfold Controller.install
  refine (Yields.log _ _).bind_ok fun _ => withSession_holds governs fun m => ?_
  refine (checkAbsent_holds governs).bind (fun _ => ?_) fun _ _ hσ => hσ
  refine .result_bind (fun spec _ => ?_) fun _ _ _ hσ => hσ
  refine Yields.bind (R := fun _ => o.holds d [.ofManager m]) ?_ (fun _ => ?_) fun _ _ hσ => hσ
  · refine (hcreate spec).holding (U := fun h _ => o.holds d [.ofService m h, .ofManager m]) (fun _ _ hσ => hσ)
      (fun h => ?_) fun h _ => hclose
    refine (sourceEntry_holds governs List.mem_cons_self).bind (fun _ => ?_) fun _ _ hσ => hσ
    split
    · refine hset.attempt_bind fun r => ?_
      cases r with
      | ok _ => exact .pure fun _ hσ => hσ
      | error e => exact (Yields.log _ _).of_succeeds fun _ _ hσ => hσ
    · exact .pure fun _ hσ => hσ
  · exact (Yields.log _ _).of_succeeds fun _ _ hσ => hσ

/-! ### Starting and stopping -/

theorem start_holds : o.place.Yields (o.holds d []) c.start fun _ => o.holds d [] := by
  have hset {m h : Handle} : o.place.Yields (o.holds d [.ofService m h, .ofManager m])
      (c.gateway.setRecovery h .restartNow) fun _ => o.holds d [.ofService m h, .ofManager m] := by
    rw [governs.gateway]
    exact setRecovery_holds governs.toClear List.mem_cons_self _
  have hstart {m h : Handle} : o.place.Yields (o.holds d [.ofService m h, .ofManager m]) (c.gateway.start h)
      fun _ => o.holds d [.ofService m h, .ofManager m] := by
    rw [governs.gateway]
    exact Lookout.start_holds governs.toClear List.mem_cons_self
  unfold Controller.start
  refine (Yields.log _ _).bind_ok fun _ => Yields.bind (R := fun _ => o.holds d []) ?_ (fun _ => ?_) fun _ _ hσ => hσ
  · refine withSession_holds governs fun m => holdingEntry_holds governs fun h => ?_
    split
    · exact hset.bind (fun _ => hstart) fun _ _ hσ => hσ
    · exact hstart
  · exact (Yields.log _ _).of_succeeds fun _ _ hσ => hσ

theorem stopEntry_holds (hx : Item.ofService m h ∈ held) :
    o.place.Yields (o.holds d held) (c.stopEntry h) fun _ => o.holds d held := by
  have hterminate (pid : Nat) : o.place.Yields (o.holds d held) (c.terminate pid) fun _ => o.holds d held :=
    governs.terminate_since pid fun log trail => trail.snoc (.used rfl nofun)
  have timeless : Cell.Timeless (o.holds d held) := timeless_since
  have hstop (timeout : Nat) : o.place.Yields (o.holds d held)
      (StopTarget.stopAndWait ⟨control o.cell h, query o.cell h, c.terminate⟩ c.tie timeout)
      fun _ => o.holds d held :=
    StopTarget.stopAndWait_yields hterminate governs.still timeless (query_holds governs.toClear hx)
      (control_holds governs.toClear hx) c.tie timeout
  unfold Controller.stopEntry
  rw [governs.gateway]
  split
  · refine (Yields.call (setRecovery_holds governs.toClear hx .none)).bind (fun _ => ?_) fun _ _ hσ => hσ
    exact (Yields.act ((keys_hold governs.toClear).stopTimeout_ensures)).bind_ok hstop
  · exact (Yields.act ((keys_hold governs.toClear).stopTimeout_ensures)).bind_ok hstop

theorem stop_holds : o.place.Yields (o.holds d []) c.stop fun _ => o.holds d [] := by
  unfold Controller.stop
  refine (Yields.log _ _).bind_ok fun _ => ?_
  refine (withEntry_holds governs fun m h => stopEntry_holds governs List.mem_cons_self).bind (fun _ => ?_)
    fun _ _ hσ => hσ
  exact (Yields.log _ _).of_succeeds fun _ _ hσ => hσ

theorem restart_holds : o.place.Yields (o.holds d []) c.restart fun _ => o.holds d [] := by
  unfold Controller.restart
  exact (stop_holds governs).bind (fun _ => Yields.call (start_holds governs)) fun _ _ hσ => hσ

theorem uninstall_holds : o.place.Yields (o.holds d []) c.uninstall fun _ => o.holds d [] := by
  have hdelete {m h : Handle} : o.place.Yields (o.holds d [.ofService m h, .ofManager m]) (c.gateway.delete h)
      fun _ => o.holds d [.ofService m h, .ofManager m] := by
    rw [governs.gateway]
    exact delete_holds governs.toClear List.mem_cons_self
  have hremove : o.place.Yields (o.holds d []) (c.gateway.removeLogSource c.name) fun _ => o.holds d [] := by
    rw [governs.gateway]
    exact ((keys_hold governs.toClear).removeLogSource_bluntly c.name).weaken fun _ _ => Bluntly.kept
  unfold Controller.uninstall
  refine (Yields.log _ _).bind_ok fun _ => Yields.bind (R := fun _ => o.holds d []) ?_ (fun _ => ?_) fun _ _ hσ => hσ
  · refine withEntry_holds governs fun m h => ?_
    refine Yields.attempt_bind (stopEntry_holds governs List.mem_cons_self) fun r => ?_
    cases r with
    | ok _ => exact Yields.call hdelete
    | error e => exact (Yields.log _ _).bind_ok fun _ => Yields.call hdelete
  · refine Yields.attempt_bind (Yields.call hremove) fun r => ?_
    cases r with
    | ok _ => exact (Yields.log _ _).of_succeeds fun _ _ hσ => hσ
    | error e => exact .throw fun _ hσ => hσ

theorem status_holds : o.place.Ensures (o.holds d []) c.status fun _ => o.holds d [] := by
  unfold Controller.status
  have hconnect : o.place.Yields (o.holds d []) c.gateway.connect
      (Either (fun m => o.holds d [.ofManager m]) fun _ => o.holds d []) := by
    rw [governs.gateway]
    exact connect_holds governs.toClear
  have hquery {m h : Handle} : o.place.Yields (o.holds d [.ofService m h, .ofManager m]) (c.gateway.query h)
      fun _ => o.holds d [.ofService m h, .ofManager m] := by
    rw [governs.gateway]
    exact query_holds governs.toClear List.mem_cons_self
  refine Gateway.status_keeps hconnect (fun _ _ hσ => hσ) (fun m => holdingEntry_holds governs fun h => hquery)
    fun m => ?_
  rw [governs.gateway]
  exact closeHandle_holds (x := .ofManager m) governs.toClear nofun

theorem perform_holds (errand : Errand) : o.place.Yields (o.holds d []) (c.perform errand) fun _ => o.holds d [] := by
  have done {x : Op γ Unit} (hx : o.place.Yields (o.holds d []) x fun _ => o.holds d []) :
      o.place.Yields (o.holds d []) (do x; return (none : Option String)) fun _ => o.holds d [] :=
    hx.bind (fun _ => .pure fun _ hσ => hσ) fun _ _ hσ => hσ
  cases errand with
  | install => exact done (Yields.call (install_holds governs))
  | uninstall => exact done (uninstall_holds governs)
  | start => exact done (Yields.call (start_holds governs))
  | stop => exact done (stop_holds governs)
  | restart => exact done (restart_holds governs)
  | status => exact (Yields.act (status_holds governs)).bind_ok fun _ => .pure fun _ hσ => hσ

/-- **Whatever Windows replies, an errand comes to its end with all handles given back.** -/
theorem perform_custody (errand : Errand) (s : Scene γ) :
    let ran := (c.perform errand).run.finish s
    let before := o.place.get s.world
    let after := o.place.get ran.2.world
    ∃ r log, ran.1 = some r ∧ Trail (Desk.Meets o.mark) before log after ∧
      after.machine.calls = (calls log).reverse ++ before.machine.calls ∧ Custody log := by
  intro ran before after
  obtain ⟨r, hr, log, trail, handed⟩ := perform_holds governs (d := before) errand s ⟨[], .nil _, .nil _⟩
  exact ⟨r, log, hr, trail, (trail_kept trail).1, custody_of_trail handed (trail_handles_nodup trail)⟩

end Governs

open Scenario.Win32 (lookout) in
/-- The log source is there already, and the new service cannot be deleted again. -/
theorem perform_custody_rolled_back :
    let role : Scenario.Role := { config := { name := "svcA" } }
    let c := role.controller 0 Scenario.Win32.gateway Scenario.Win32.terminate (.ok "svcA.exe")
    let s : Scene Scenario.Win32.World := { world := { manager := { windows := { replies := fun
      | .openService => [.fails Code.serviceDoesNotExist]
      | .createKey => [.existing]
      | .deleteService => [.fails Code.accessDenied]
      | _ => [] } } } }
    Governs c lookout ∧ ∃ r log, ((c.perform .install).run.finish s).1 = some r ∧ Custody log ∧
      closings log = [.closeKey 3, .closeServiceHandle 2, .closeServiceHandle 1] := by
  intro role c s
  have governs : Governs c lookout := Scenario.Win32.governs rfl _
  obtain ⟨r, log, ended, -, hcalls, custody⟩ := governs.perform_custody .install s
  refine ⟨governs, r, log, ended, custody, ?_⟩
  have hmade : (lookout.place.get ((c.perform .install).run.finish s).2.world).machine.calls.reverse.filter
      (fun call => call.closes?.isSome) = [.closeKey 3, .closeServiceHandle 2, .closeServiceHandle 1] := by
    decide +kernel
  rwa [hcalls, show (lookout.place.get s.world).machine.calls = [] from rfl, List.append_nil,
    List.reverse_reverse] at hmade

end ServiceControl.Windows
