import ServiceControl.Proofs.Stages
import ServiceControl.Proofs.Watch
/-!
# Bounded stops of scripted services

The protocol of a bounded stop, for whatever a gateway answers.  A script holds the replies, so the calls that are made and
their times say all that a stop does.  Main statement: a stop is one request, one look and one termination at once if the
request was rejected, and then a look at every interval until one is settled or the deadline comes
(`stopAndWait_protocol`).
-/
namespace ServiceControl.Scripted

open Cell (Returns Leads)
open StopTarget (interval grace looks Served)

namespace Machine

/-- The reply to the call of a kind that is made after `n` others of it. -/
def reply (m : Machine) (kind : Kind) (n : Nat) : Reply :=
  match (m.replies kind)[n]? with
  | some r => r
  | none => (m.replies kind).getLast?.getD (.ok noStatus)

theorem takeReply_fst (m : Machine) (kind : Kind) : (m.takeReply kind).1 = m.reply kind 0 := by
  unfold takeReply reply
  split <;> rename_i h <;> simp [h]

theorem reply_takeReply (m : Machine) (kind k : Kind) (n : Nat) :
    (m.takeReply kind).2.reply k n = m.reply k (if k = kind then n + 1 else n) := by
  unfold takeReply
  by_cases hk : k = kind
  · subst hk
    split
    · rename_i h
      simp [reply, h]
    · rename_i r h
      cases n <;> simp [reply, h]
    · rename_i r rest hne h
      cases rest with
      | nil => exact absurd rfl hne
      | cons r' rest => simp [reply, h]
  · split <;> simp [reply, hk]

theorem calls_takeReply (m : Machine) (kind : Kind) : (m.takeReply kind).2.calls = m.calls := by
  unfold takeReply
  split <;> rfl

/-- The machine once a call is made. -/
def made (m : Machine) (now : Nat) (kind : Kind) (call : Call) : Machine :=
  { (m.takeReply kind).2 with calls := (now, call) :: (m.takeReply kind).2.calls }

@[simp] theorem reply_made (m : Machine) (now : Nat) (kind k : Kind) (call : Call) (n : Nat) :
    (m.made now kind call).reply k n = m.reply k (if k = kind then n + 1 else n) := reply_takeReply m kind k n

@[simp] theorem calls_made (m : Machine) (now : Nat) (kind : Kind) (call : Call) :
    (m.made now kind call).calls = (now, call) :: m.calls := congrArg _ (calls_takeReply m kind)

end Machine

variable {γ : Type} {cell : Cell γ Machine}

/-! ## Calls -/

section Calls

variable (lawful : cell.Lawful) (now : Nat) (m : Machine)
include lawful

/-- **A call takes the next reply of its kind, and is kept.** -/
theorem make_returns (kind : Kind) (call : Call) :
    cell.Returns (make cell kind call) ⟨now, m⟩ (m.reply kind 0) ⟨now, m.made now kind call⟩ := by
  rw [← Machine.takeReply_fst]
  unfold make
  refine (Returns.lift (Leads.takeFrom lawful _)).bind ?_
  refine (Returns.lift (Leads.now.bind (Leads.update lawful _))).bind ?_
  exact .result _

theorem terminator_returns (pid : Nat) : ∃ r, cell.Returns (terminator cell pid) ⟨now, m⟩ r
    ⟨now, m.made now .terminate (.terminate pid)⟩ := by
  have h := make_returns lawful now m .terminate (.terminate pid)
  unfold terminator order
  cases hr : m.reply .terminate 0 with
  | ok status =>
    rw [hr] at h
    exact ⟨_, h.bind (.pure _)⟩
  | error e =>
    rw [hr] at h
    exact ⟨_, h.bind_error⟩

end Calls

/-- A scripted entry and the scripted end of its process. -/
def target (cell : Cell γ Machine) (entry : Nat) : StopTarget γ :=
  ⟨(gateway cell).control entry, (gateway cell).query entry, terminator cell⟩

theorem kill_target (lawful : cell.Lawful) (entry now : Nat) (m : Machine) (pid : Nat) :
    cell.Leads ((target cell entry).kill pid) ⟨now, m⟩ (some ()) ⟨now, m.made now .terminate (.terminate pid)⟩ := by
  obtain ⟨r, h⟩ := terminator_returns lawful now m pid
  exact StopTarget.kill_leads h

/-! ## Looks -/

/-- The machine after as many looks, the first one an interval after the start. -/
def looked (entry start : Nat) (m : Machine) : Nat → Machine
  | 0 => m
  | n + 1 => (looked entry start m n).made (start + interval * (n + 1)) .query (.query entry)

/-- Looks at every interval. -/
def looksFrom (entry start n : Nat) : List (Nat × Call) :=
  (List.range n).map fun k => (start + interval * (k + 1), .query entry)

theorem looksFrom_succ (entry start n : Nat) :
    looksFrom entry start (n + 1) = looksFrom entry start n ++ [(start + interval * (n + 1), .query entry)] := by
  simp [looksFrom, List.range_succ]

theorem calls_looked (entry start : Nat) (m : Machine) (n : Nat) :
    (looked entry start m n).calls = (looksFrom entry start n).reverse ++ m.calls := by
  induction n with
  | zero => rfl
  | succ n ih =>
    rw [looked, Machine.calls_made, ih, looksFrom_succ, List.reverse_append]
    rfl

theorem query_looked (entry start : Nat) (m : Machine) (n k : Nat) :
    (looked entry start m n).reply .query k = m.reply .query (n + k) := by
  induction n generalizing k with
  | zero => rw [looked, Nat.zero_add]
  | succ n ih =>
    have hn : n + (k + 1) = n + 1 + k := by omega
    rw [looked, Machine.reply_made, if_pos rfl, ih, hn]

/-! ## The watch -/

/-- A reply that ends a watch: a failure, or a service that has stopped. -/
def Settled : Reply → Prop
  | .ok status => status.state = .stopped
  | .error _ => True

/-- The status that is known after so many looks, `status` being known before them. -/
def known (m : Machine) (status : ServiceStatus) : Nat → ServiceStatus
  | 0 => status
  | n + 1 =>
    match m.reply .query n with
    | .ok seen => seen
    | .error _ => status

theorem reply_of_not_settled {m : Machine} {n : Nat} (h : ¬ Settled (m.reply .query n)) (status : ServiceStatus) :
    m.reply .query n = .ok (known m status (n + 1)) ∧ (known m status (n + 1)).state ≠ .stopped := by
  rw [known]
  cases hr : m.reply .query n with
  | ok seen =>
    rw [hr] at h
    exact ⟨rfl, h⟩
  | error e =>
    rw [hr] at h
    exact absurd trivial h

theorem known_going {m : Machine} {status : ServiceStatus} {n : Nat} (going : status.state ≠ .stopped)
    (unsettled : ∀ j < n, ¬ Settled (m.reply .query j)) : (known m status n).state ≠ .stopped := by
  cases n with
  | zero => exact going
  | succ n => exact (reply_of_not_settled (unsettled n (by omega)) status).2

section Watch

variable [Background γ] (quiet : cell.Undisturbed) (entry : Nat) {tie : Tie} {timeout now n : Nat} {m : Machine}
  {outcome : StopOutcome} {status : ServiceStatus}
include quiet

theorem query_returns (now : Nat) (m : Machine) (n : Nat) :
    cell.Returns (target cell entry).query ⟨now + interval * (n + 1), looked entry now m n⟩ (m.reply .query n)
      ⟨now + interval * (n + 1), looked entry now m (n + 1)⟩ := by
  have h := make_returns quiet.toLawful (now + interval * (n + 1)) (looked entry now m n) .query (.query entry)
  rwa [query_looked] at h

/-- Looks that settle nothing leave the watch where it is. -/
theorem watch_unsettled {r : Except ServiceError StopOutcome} {σ : Sight Machine}
    (going : status.state ≠ .stopped) (unsettled : ∀ j < n, ¬ Settled (m.reply .query j))
    (served : n ≤ looks tie timeout)
    (hw : cell.Returns ((target cell entry).watch tie timeout (now + grace timeout) outcome (now + interval * (n + 1))
      (known m status n)) ⟨now + interval * n, looked entry now m n⟩ r σ) :
    cell.Returns ((target cell entry).watch tie timeout (now + grace timeout) outcome (now + interval) status) ⟨now, m⟩
      r σ := by
  refine StopTarget.watch_skip quiet.toStill (looked entry now m) (known m status) served ?_ ?_ hw
  · intro k hk
    have h := query_returns quiet entry now m k
    rwa [(reply_of_not_settled (unsettled k hk) status).1] at h
  · intro k hk
    refine known_going going ?_
    intro j hj
    exact unsettled j (by omega)

/-- **The first settled look ends the watch.** -/
theorem watch_settled (going : status.state ≠ .stopped) (unsettled : ∀ j < n, ¬ Settled (m.reply .query j))
    (settled : Settled (m.reply .query n)) (served : Served tie timeout (n + 1)) :
    cell.Returns ((target cell entry).watch tie timeout (now + grace timeout) outcome (now + interval) status) ⟨now, m⟩
      ((m.reply .query n).map fun _ => outcome) ⟨now + interval * (n + 1), looked entry now m (n + 1)⟩ := by
  refine watch_unsettled quiet entry going unsettled (Nat.le_of_succ_le ((StopTarget.served_iff _ _ _).1 served)) ?_
  have hgoing := known_going going unsettled
  have hq := query_returns quiet entry now m n
  cases hr : m.reply .query n with
  | ok seen =>
    rw [hr] at hq settled
    exact StopTarget.watch_look quiet.toStill hgoing served hq (StopTarget.watch_stopped settled)
  | error e =>
    rw [hr] at hq
    exact StopTarget.watch_error quiet.toStill hgoing served hq

/-- **A watch without a settled look ends at the deadline**, with the end of the process that was seen last. -/
theorem watch_unended (going : status.state ≠ .stopped) (last : n = looks tie timeout)
    (unsettled : ∀ j < n, ¬ Settled (m.reply .query j)) :
    cell.Returns ((target cell entry).watch tie timeout (now + grace timeout) outcome (now + interval) status) ⟨now, m⟩
      (.ok .terminated) ⟨now + grace timeout, (looked entry now m n).made (now + grace timeout) .terminate
        (.terminate (known m status n).processId)⟩ := by
  have hgoing := known_going going unsettled
  have hk := kill_target quiet.toLawful entry (now + grace timeout) (looked entry now m n) (known m status n).processId
  refine watch_unsettled quiet entry going unsettled (Nat.le_of_eq last) ?_
  exact StopTarget.watch_deadline quiet.toStill hgoing last hk

end Watch

/-! ## The protocol -/

section Protocol

variable [Background γ]

/-- A bounded stop comes to this outcome at this time, and makes these calls. -/
def Stops (cell : Cell γ Machine) (entry : Nat) (tie : Tie) (timeout : Nat) (start : Sight Machine)
    (outcome : Except ServiceError StopOutcome) (ended : Nat) (calls : List (Nat × Call)) : Prop :=
  ∃ m', cell.Returns ((target cell entry).stopAndWait tie timeout) start outcome ⟨ended, m'⟩ ∧
    m'.calls = calls.reverse ++ start.held.calls

/-- How a stop goes on from a status that was told: the calls so far are `begun`, and the looks to come are answered by
the replies from the number `first` on. -/
structure Watched (cell : Cell γ Machine) (entry : Nat) (tie : Tie) (timeout : Nat) (start : Sight Machine)
    (outcome : StopOutcome) (status : ServiceStatus) (first : Nat) (begun : List (Nat × Call)) : Prop where
  /-- A service that has stopped is not looked at. -/
  already : status.state = .stopped → Stops cell entry tie timeout start (.ok outcome) start.now begun
  /-- The first settled look that is served ends the stop. -/
  settled : status.state ≠ .stopped → ∀ k, Served tie timeout (k + 1) → Settled (start.held.reply .query (first + k)) →
    (∀ j < k, ¬ Settled (start.held.reply .query (first + j))) →
    Stops cell entry tie timeout start ((start.held.reply .query (first + k)).map fun _ => outcome)
      (start.now + interval * (k + 1)) (begun ++ looksFrom entry start.now (k + 1))
  /-- Without one the process that was seen last is terminated at the deadline, after all looks that are served. -/
  unended : status.state ≠ .stopped →
    (∀ k, Served tie timeout (k + 1) → ¬ Settled (start.held.reply .query (first + k))) →
    ∃ n last, (∀ k, Served tie timeout k ↔ k ≤ n + 1) ∧ start.held.reply .query (first + n) = .ok last ∧
      Stops cell entry tie timeout start (.ok .terminated) (start.now + grace timeout)
        (begun ++ looksFrom entry start.now (n + 1) ++ [(start.now + grace timeout, .terminate last.processId)])

variable {entry timeout now : Nat} {tie : Tie} {m m₁ : Machine}

theorem watched_of_request (quiet : cell.Undisturbed) {outcome : StopOutcome} {status : ServiceStatus} {first : Nat}
    {begun : List (Nat × Call)}
    (hr : cell.Returns (target cell entry).request ⟨now, m⟩ (.ok (outcome, status)) ⟨now, m₁⟩)
    (hreply : ∀ k, m₁.reply .query k = m.reply .query (first + k)) (hcalls : m₁.calls = begun.reverse ++ m.calls) :
    Watched cell entry tie timeout ⟨now, m⟩ outcome status first begun where
  already stopped := ⟨m₁, StopTarget.stopAndWait_request hr (StopTarget.watch_stopped stopped), hcalls⟩
  settled going k served settled unsettled := by
    simp only [← hreply] at settled unsettled ⊢
    refine ⟨_, StopTarget.stopAndWait_request hr (watch_settled quiet entry going unsettled settled served), ?_⟩
    rw [calls_looked, hcalls, List.reverse_append, List.append_assoc]
  unended going unsettled := by
    simp only [← hreply, StopTarget.served_iff] at unsettled ⊢
    obtain ⟨n, hn⟩ : ∃ n, looks tie timeout = n + 1 :=
      ⟨_, (Nat.succ_pred_eq_of_pos (StopTarget.looks_pos tie timeout)).symm⟩
    rw [hn] at unsettled
    have hlast := (reply_of_not_settled (unsettled n (Nat.le_refl _)) status).1
    have hw : cell.Returns ((target cell entry).watch tie timeout (now + grace timeout) outcome (now + interval) status)
        ⟨now, m₁⟩ _ _ :=
      watch_unended quiet entry going hn.symm fun j hj => unsettled j hj
    refine ⟨n, _, fun k => by rw [hn], hlast, _, StopTarget.stopAndWait_request hr hw, ?_⟩
    rw [Machine.calls_made, calls_looked, hcalls]
    simp only [List.reverse_append, List.append_assoc, List.reverse_cons, List.reverse_nil, List.nil_append,
      List.cons_append]

/-- **The protocol of a bounded stop**, for every reply to the request, every sequence of replies to the looks, every reply
of the terminator, every timeout, and either order of a look and the deadline that fall together.  A refusal other than a
rejection ends the stop at once.  After a rejection one look is made, and the process that it tells of is terminated. -/
theorem stopAndWait_protocol (quiet : cell.Undisturbed) (entry : Nat) (tie : Tie) (timeout now : Nat) (m : Machine) :
    match m.reply .control 0 with
    | .ok status => Watched cell entry tie timeout ⟨now, m⟩ .graceful status 0 [(now, .control entry .stop)]
    | .error e =>
      if e.isControlRejection then
        match m.reply .query 0 with
        | .ok status => Watched cell entry tie timeout ⟨now, m⟩ .rejected status 1
            [(now, .control entry .stop), (now, .query entry), (now, .terminate status.processId)]
        | .error e' => Stops cell entry tie timeout ⟨now, m⟩ (.error e') now
            [(now, .control entry .stop), (now, .query entry)]
      else Stops cell entry tie timeout ⟨now, m⟩ (.error e) now [(now, .control entry .stop)] := by
  have hc : cell.Returns ((target cell entry).control .stop) _ _ _ :=
    make_returns quiet.toLawful now m .control (.control entry .stop)
  have hq : cell.Returns (target cell entry).query _ _ _ :=
    make_returns quiet.toLawful now (m.made now .control (.control entry .stop)) .query (.query entry)
  rw [Machine.reply_made, if_neg (by decide)] at hq
  cases hcontrol : m.reply .control 0 with
  | ok status =>
    rw [hcontrol] at hc
    refine watched_of_request quiet (StopTarget.request_accepted hc) (fun k => ?_) ?_
    · simp
    · simp
  | error e =>
    rw [hcontrol] at hc
    dsimp only
    split
    · rename_i he
      cases hquery : m.reply .query 0 with
      | ok status =>
        rw [hquery] at hq
        have hk := kill_target quiet.toLawful entry now
          ((m.made now .control (.control entry .stop)).made now .query (.query entry)) status.processId
        refine watched_of_request quiet (StopTarget.request_rejected hc he hq hk) (fun k => ?_) ?_
        · simp [Nat.add_comm]
        · simp
      | error e' =>
        rw [hquery] at hq
        exact ⟨_, StopTarget.stopAndWait_failed (StopTarget.request_unseen hc he hq), by simp⟩
    · rename_i he
      exact ⟨_, StopTarget.stopAndWait_failed (StopTarget.request_failed hc (by simpa using he)), by simp⟩

/-- A service that rejects the request, and whose process changes under the stop, is terminated twice.  At a timeout of
nothing the deadline comes together with the second look, and before it here. -/
theorem stopAndWait_protocol_restarted :
    let cell : Cell Scenario.Calls.World Machine := Scenario.Stage.managerCell
    let m : Machine := { replies := fun
      | .control => [.error (.controlRejected "busy")]
      | .query => [.ok ⟨.running, 7⟩, .ok ⟨.stopPending, 8⟩]
      | _ => [] }
    cell.Undisturbed ∧ Stops cell 0 .deadline 0 ⟨0, m⟩ (.ok .terminated) 200
      [(0, .control 0 .stop), (0, .query 0), (0, .terminate 7), (100, .query 0), (200, .terminate 8)] := by
  intro cell m
  have quiet : cell.Undisturbed := Scenario.Stage.managerCell_undisturbed
  have hw : Watched cell 0 .deadline 0 ⟨0, m⟩ .rejected ⟨.running, 7⟩ 1 _ := stopAndWait_protocol quiet 0 .deadline 0 0 m
  have hreply : ∀ k, m.reply .query (1 + k) = .ok ⟨.stopPending, 8⟩ := by
    intro k
    rw [Nat.add_comm]
    cases k <;> rfl
  have unsettled : ∀ k, Served .deadline 0 (k + 1) → ¬ Settled (m.reply .query (1 + k)) := by
    intro k _
    rw [hreply]
    exact nofun
  obtain ⟨n, last, hn, hlast, hstops⟩ := hw.unended (by decide) unsettled
  obtain rfl : n = 0 := by
    have hserved := (hn 2).2
    unfold Served grace interval at hserved
    simp at hserved
    omega
  obtain rfl : _ = last := Except.ok.inj ((hreply 0).symm.trans hlast)
  exact ⟨quiet, hstops⟩

end Protocol

end ServiceControl.Scripted
