import ServiceControl.Escalation
import ServiceControl.Proofs.Promises
/-!
# Watching a service stop

What a bounded stop comes to, look by look.  Each wait is for the next look or the deadline; as long as the service goes
on, one look follows the other at every interval, as many as fit before the deadline (`watch_skip`, `served_iff`).  A look
that finds it stopped or fails ends the watch, and so does the deadline (`watch_deadline`).  A stop always comes to its
end, keeps what its calls keep, and ends no process but one that it was told of (`stopAndWait_heeds`).
-/
namespace ServiceControl.StopTarget

open Cell (Returns Leads Ensures Yields)

variable {γ β : Type} {c : Cell γ β} {target : StopTarget γ} {σ₁ σ₂ σ₃ σ₄ : Sight β}

/-- Whether a process could be ended is told and no more. -/
theorem kill_leads {pid : Nat} {r : Except ServiceError Unit} (ht : c.Returns (target.terminate pid) σ₁ r σ₂) :
    c.Leads (target.kill pid) σ₁ (some ()) σ₂ := by
  unfold kill
  refine .bind ht ?_
  cases r with
  | ok _ => exact .pure _
  | error e => exact .log _ _

/-! ## The request -/

section Request

variable {status : ServiceStatus} {e : ServiceError}

theorem request_accepted (hc : c.Returns (target.control .stop) σ₁ (.ok status) σ₂) :
    c.Returns target.request σ₁ (.ok (.graceful, status)) σ₂ := by
  unfold request
  exact (Returns.attempt hc).bind (.pure _)

theorem request_failed (hc : c.Returns (target.control .stop) σ₁ (.error e) σ₂) (he : e.isControlRejection = false) :
    c.Returns target.request σ₁ (.error e) σ₂ := by
  unfold request
  refine (Returns.attempt hc).bind ?_
  simp only [he, Bool.not_false, if_true]
  exact (Returns.throw _).bind_error

/-- A service that rejects the request is looked at. -/
theorem request_unseen (hc : c.Returns (target.control .stop) σ₁ (.error e) σ₂) (he : e.isControlRejection = true)
    {e' : ServiceError} (hq : c.Returns target.query σ₂ (.error e') σ₃) :
    c.Returns target.request σ₁ (.error e') σ₃ := by
  unfold request
  refine (Returns.attempt hc).bind ?_
  simp only [he, Bool.not_true, Bool.false_eq_true, if_false]
  exact (Returns.log _ _).bind hq.bind_error

/-- A service that rejects the request is ended by force once its process is known. -/
theorem request_rejected (hc : c.Returns (target.control .stop) σ₁ (.error e) σ₂) (he : e.isControlRejection = true)
    (hq : c.Returns target.query σ₂ (.ok status) σ₃)
    (hk : c.Leads (target.kill status.processId) σ₃ (some ()) σ₄) :
    c.Returns target.request σ₁ (.ok (.rejected, status)) σ₄ := by
  unfold request
  refine (Returns.attempt hc).bind ?_
  simp only [he, Bool.not_true, Bool.false_eq_true, if_false]
  refine (Returns.log _ _).bind ?_
  refine hq.bind ?_
  exact (Returns.lift hk).bind (.pure _)

end Request

/-! ## The looks before the deadline -/

/-- The look of this number is made: it comes before the deadline, or together with it and is served first. -/
def Served (tie : Tie) (timeout k : Nat) : Prop :=
  interval * k < grace timeout ∨ interval * k = grace timeout ∧ tie = .look

/-- How often a service that goes on is looked at before the deadline. -/
def looks (tie : Tie) (timeout : Nat) : Nat :=
  match tie with
  | .look => grace timeout / interval
  | .deadline => (grace timeout - 1) / interval

/-- **The looks that are made are as many as fit before the deadline.** -/
theorem served_iff (tie : Tie) (timeout k : Nat) : Served tie timeout k ↔ k ≤ looks tie timeout := by
  unfold Served looks grace interval
  cases tie <;> simp <;> omega

theorem looks_pos (tie : Tie) (timeout : Nat) : 0 < looks tie timeout := by
  have first : Served tie timeout 1 := by
    unfold Served grace interval
    omega
  exact (served_iff tie timeout 1).1 first

theorem Served.within {tie : Tie} {timeout k : Nat} (served : Served tie timeout k) : interval * k ≤ grace timeout :=
  served.elim Nat.le_of_lt fun together => Nat.le_of_eq together.1

theorem interval_mul_looks_le (tie : Tie) (timeout : Nat) : interval * looks tie timeout ≤ grace timeout :=
  ((served_iff tie timeout _).2 (Nat.le_refl _)).within

/-- The instant at which a wait for a look or the deadline is over is that of the look if it is served. -/
theorem looksFirst_iff (tie : Tie) (timeout now k : Nat) :
    LooksFirst tie (now + interval * k) (now + grace timeout) (min (now + interval * k) (now + grace timeout)) ↔
      Served tie timeout k := by
  unfold LooksFirst Served
  cases tie <;> simp only [reduceCtorEq, and_true, and_false, or_false] <;> omega

/-! ## The watch -/

section Watch

variable [Background γ] {tie : Tie} {timeout deadline tick : Nat} {outcome : StopOutcome} {status : ServiceStatus}

/-- A service that has stopped is not looked at again. -/
theorem watch_stopped (stopped : status.state = .stopped) :
    c.Returns (target.watch tie timeout deadline outcome tick status) σ₁ (.ok outcome) σ₁ := by
  rw [watch, if_pos stopped]
  exact (Returns.log _ _).bind (.pure _)

variable {now n : Nat} {held : β} (still : c.Still)
include still

theorem await_first (within : interval * n ≤ grace timeout) :
    c.Leads (Task.await ((Wait.till (now + interval * (n + 1))).or (.till (now + grace timeout))) : Task γ Unit)
      ⟨now + interval * n, held⟩ (some ()) ⟨min (now + interval * (n + 1)) (now + grace timeout), held⟩ := by
  refine Leads.wakeAt still (Nat.max_eq_right (Nat.le_min.2 ⟨?_, ?_⟩))
  · exact Nat.add_le_add_left (Nat.mul_le_mul_left _ (Nat.le_succ n)) now
  · exact Nat.add_le_add_left within now

section Look

variable (going : status.state ≠ .stopped) (served : Served tie timeout (n + 1))
include going served

/-- **A look that is served is made.** -/
theorem watch_look {next : ServiceStatus} {r : Except ServiceError StopOutcome}
    (hq : c.Returns target.query ⟨now + interval * (n + 1), held⟩ (.ok next) σ₂)
    (hw : c.Returns (target.watch tie timeout (now + grace timeout) outcome (now + interval * (n + 2)) next) σ₂ r σ₃) :
    c.Returns (target.watch tie timeout (now + grace timeout) outcome (now + interval * (n + 1)) status)
      ⟨now + interval * n, held⟩ r σ₃ := by
  have within := Nat.le_trans (Nat.mul_le_mul_left interval (Nat.le_succ n)) served.within
  rw [watch, if_neg going]
  refine (Returns.lift (await_first still within)).bind (Returns.now.bind ?_)
  rw [dif_pos ((looksFirst_iff tie timeout now (n + 1)).2 served),
    Nat.min_eq_left (Nat.add_le_add_left served.within now)]
  exact (Returns.call hq).bind ((Returns.log _ _).bind hw)

theorem watch_error {e : ServiceError}
    (hq : c.Returns target.query ⟨now + interval * (n + 1), held⟩ (.error e) σ₂) :
    c.Returns (target.watch tie timeout (now + grace timeout) outcome (now + interval * (n + 1)) status)
      ⟨now + interval * n, held⟩ (.error e) σ₂ := by
  have within := Nat.le_trans (Nat.mul_le_mul_left interval (Nat.le_succ n)) served.within
  rw [watch, if_neg going]
  refine (Returns.lift (await_first still within)).bind (Returns.now.bind ?_)
  rw [dif_pos ((looksFirst_iff tie timeout now (n + 1)).2 served),
    Nat.min_eq_left (Nat.add_le_add_left served.within now)]
  exact (Returns.call hq).bind_error

end Look

/-- **At the deadline the process is ended, and the service is not looked at again.** -/
theorem watch_deadline (going : status.state ≠ .stopped) (last : n = looks tie timeout)
    (hk : c.Leads (target.kill status.processId) ⟨now + grace timeout, held⟩ (some ()) σ₂) :
    c.Returns (target.watch tie timeout (now + grace timeout) outcome (now + interval * (n + 1)) status)
      ⟨now + interval * n, held⟩ (.ok .terminated) σ₂ := by
  have within : interval * n ≤ grace timeout := last ▸ interval_mul_looks_le tie timeout
  have unserved : ¬ Served tie timeout (n + 1) := fun served =>
    Nat.not_succ_le_self n (last ▸ (served_iff tie timeout (n + 1)).1 served)
  have deadline : grace timeout ≤ interval * (n + 1) := Nat.not_lt.1 fun before => unserved (.inl before)
  rw [watch, if_neg going]
  refine (Returns.lift (await_first still within)).bind (Returns.now.bind ?_)
  rw [dif_neg (mt (looksFirst_iff tie timeout now (n + 1)).1 unserved),
    Nat.min_eq_right (Nat.add_le_add_left deadline now)]
  exact (Returns.log _ _).bind ((Returns.act hk).bind (.pure _))

/-- **Looks that find the service going on are made at every interval.**  The watch is then what is left of it after
them. -/
theorem watch_skip (held : Nat → β) (statuses : Nat → ServiceStatus) {r : Except ServiceError StopOutcome}
    (served : n ≤ looks tie timeout)
    (hq : ∀ k < n, c.Returns target.query ⟨now + interval * (k + 1), held k⟩ (.ok (statuses (k + 1)))
      ⟨now + interval * (k + 1), held (k + 1)⟩)
    (going : ∀ k < n, (statuses k).state ≠ .stopped)
    (hw : c.Returns (target.watch tie timeout (now + grace timeout) outcome (now + interval * (n + 1)) (statuses n))
      ⟨now + interval * n, held n⟩ r σ₂) :
    c.Returns (target.watch tie timeout (now + grace timeout) outcome (now + interval) (statuses 0)) ⟨now, held 0⟩ r σ₂ := by
  -- from the last look backwards
  induction n with
  | zero => simpa using hw
  | succ n ih =>
    refine ih (Nat.le_of_succ_le served) (fun k hk => hq k (by omega)) (fun k hk => going k (by omega)) ?_
    exact watch_look still (going n (by omega)) ((served_iff tie timeout _).2 served) (hq n (by omega)) hw

end Watch

section Stop

variable [Background γ] {tie : Tie} {timeout : Nat}

theorem stopAndWait_request {r : Except ServiceError StopOutcome} {outcome : StopOutcome} {status : ServiceStatus}
    (hr : c.Returns target.request σ₁ (.ok (outcome, status)) σ₂)
    (hw : c.Returns (target.watch tie timeout (σ₂.now + grace timeout) outcome (σ₂.now + interval) status) σ₂ r σ₃) :
    c.Returns (target.stopAndWait tie timeout) σ₁ r σ₃ := by
  unfold stopAndWait
  exact (Returns.call hr).bind (Returns.now.bind hw)

theorem stopAndWait_failed {e : ServiceError} (hr : c.Returns target.request σ₁ (.error e) σ₂) :
    c.Returns (target.stopAndWait tie timeout) σ₁ (.error e) σ₂ := by
  unfold stopAndWait
  exact (Returns.call hr).bind_error

end Stop

/-! ## What a stop keeps -/

section Kept

variable {P : Sight β → Prop}

theorem kill_ensures {Q : Sight β → Prop} {pid : Nat} (ht : c.Yields P (target.terminate pid) fun _ => Q) :
    c.Ensures P (target.kill pid) fun _ => Q := by
  unfold kill
  refine Ensures.bind ht ?_
  intro r
  cases r with
  | ok _ => exact .pure fun _ hσ => hσ
  | error e => exact .log _ _

/-- This holds after a look however it went, and the process that it tells of may be ended. -/
def Heeding (Safe : Nat → Prop) (P : Sight β → Prop) : Except ServiceError ServiceStatus → Sight β → Prop :=
  Cell.Either (fun status σ => Safe status.processId ∧ P σ) fun _ => P

theorem heeding_any {r : Except ServiceError ServiceStatus} {σ : Sight β} (hσ : P σ) :
    Heeding (fun _ => True) P r σ := by
  cases r with
  | ok status => exact ⟨trivial, hσ⟩
  | error e => exact hσ

section Safe

variable {Safe : Nat → Prop} (ht : ∀ pid, Safe pid → c.Yields P (target.terminate pid) fun _ => P)
include ht

/-- A watch fails as its looks do, and ends no process but the ones that they tell of. -/
theorem watch_heeds [Background γ] (still : c.Still) (timeless : Cell.Timeless P) (E : ServiceError → Sight β → Prop)
    (hq : c.Yields P target.query (Cell.Either (fun status σ => Safe status.processId ∧ P σ) E))
    (tie : Tie) (timeout deadline : Nat) (outcome : StopOutcome) (tick : Nat) {status : ServiceStatus}
    (safe : Safe status.processId) :
    c.Yields P (target.watch tie timeout deadline outcome tick status) (Cell.Either (fun _ => P) E) := by
  induction tick, status using watch.induct tie deadline with
  | case1 tick status stopped =>
    rw [watch, if_pos stopped]
    exact (Yields.log _ _).bind_ok fun _ => .pure fun _ hσ => hσ
  | case2 tick status going ih =>
    rw [watch, if_neg going]
    refine (Yields.lift (Ensures.sleepUntil still timeless (min tick deadline))).bind_ok fun _ => ?_
    refine Yields.now_any.bind_ok fun now => ?_
    split
    case isTrue first =>
      refine (Yields.call hq).bind (fun next => ?_) fun _ _ hσ => hσ
      rintro s ⟨told, hs⟩
      exact (Yields.log _ _).bind_ok (fun _ => ih now first next told) s hs
    case isFalse =>
      refine (Yields.log _ _).bind_ok fun _ => ?_
      exact (Yields.act (kill_ensures (ht _ safe))).bind_ok fun _ => .pure fun _ hσ => hσ

variable (hq : c.Yields P target.query (Heeding Safe P)) (hc : c.Yields P (target.control .stop) (Heeding Safe P))
include hq hc

theorem request_heeds : c.Yields P target.request (Cell.Either (fun r σ => Safe r.2.processId ∧ P σ) fun _ => P) := by
  unfold request
  refine Yields.attempt_bind hc ?_
  intro r
  cases r with
  | ok status => exact .pure fun _ hσ => hσ
  | error e =>
    cases he : e.isControlRejection with
    | false =>
      simp only [he, Bool.not_false, if_true]
      exact .throw_bind fun _ hσ => hσ
    | true =>
      simp only [he, Bool.not_true, Bool.false_eq_true, if_false]
      refine (Yields.log _ _).bind_ok fun _ => hq.bind (fun status => ?_) fun _ _ hσ => hσ
      rintro s ⟨told, hs⟩
      refine Yields.bind_ok (.lift (kill_ensures (ht status.processId told))) (fun _ => ?_) s hs
      exact .pure fun _ hσ => ⟨told, hσ⟩

/-- **A stop comes to its end, keeps what each of its calls keeps, and ends no process but one that it was told of.** -/
theorem stopAndWait_heeds [Background γ] (still : c.Still) (timeless : Cell.Timeless P) (tie : Tie) (timeout : Nat) :
    c.Yields P (target.stopAndWait tie timeout) fun _ => P := by
  unfold stopAndWait
  refine (Yields.call (request_heeds ht hq hc)).bind (fun r => ?_) fun _ _ hσ => hσ
  obtain ⟨outcome, status⟩ := r
  rintro s ⟨told, hs⟩
  refine Yields.now_any.bind_ok (fun now => ?_) s hs
  refine (watch_heeds ht still timeless (fun _ => P) hq _ _ _ _ _ told).weaken fun r σ hσ => ?_
  cases r <;> exact hσ

end Safe

variable (ht : ∀ pid, c.Yields P (target.terminate pid) fun _ => P)
include ht

/-- The same where any process may be ended. -/
theorem watch_either [Background γ] (still : c.Still) (timeless : Cell.Timeless P) (E : ServiceError → Sight β → Prop)
    (hq : c.Yields P target.query (Cell.Either (fun _ => P) E)) (tie : Tie) (timeout deadline : Nat)
    (outcome : StopOutcome) (tick : Nat) (status : ServiceStatus) :
    c.Yields P (target.watch tie timeout deadline outcome tick status) (Cell.Either (fun _ => P) E) := by
  refine watch_heeds (fun pid (_ : True) => ht pid) still timeless E (hq.weaken fun r σ hσ => ?_) _ _ _ _ _
    trivial
  cases r with
  | ok status => exact ⟨trivial, hσ⟩
  | error e => exact hσ

theorem stopAndWait_yields [Background γ] (still : c.Still) (timeless : Cell.Timeless P)
    (hq : c.Yields P target.query fun _ => P) (hc : c.Yields P (target.control .stop) fun _ => P) (tie : Tie)
    (timeout : Nat) : c.Yields P (target.stopAndWait tie timeout) fun _ => P :=
  stopAndWait_heeds (fun pid _ => ht pid) (hq.weaken fun _ _ => heeding_any) (hc.weaken fun _ _ => heeding_any) still
    timeless tie timeout

end Kept

end ServiceControl.StopTarget
