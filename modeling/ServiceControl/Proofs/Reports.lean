import ServiceControl.ControlLoop
import ServiceControl.Proofs.Stages
/-!
# The reports of a run

What a run of a service tells its manager, and when it calls its workload.  An account keeps the reports and the calls with
their times, and the error box.  Main statement: the account of a run is fixed by how long the callbacks take and how they
end, the arrivals of the signals and the closing of the inbox (`run_account`).
-/
namespace ServiceControl

/-- The signals that end a run. -/
def ControlSignal.endsRun : ControlSignal → Bool
  | .stop | .shutdown => true
  | _ => false

namespace Inbox

/-- The signals that are taken before the end of the run is asked for. -/
def taken (i : Inbox) : List (Nat × ControlSignal) := i.signals.takeWhile fun s => !s.2.endsRun

/-- When the end of the run is asked for: by the first signal that does so, or else by the closing of the inbox. -/
def endAsked (i : Inbox) : Option Nat :=
  match i.signals.find? fun s => s.2.endsRun with
  | some s => some s.1
  | none => i.closes

/-- Signals arrive one after another, and the inbox closes after the last. -/
structure Ordered (i : Inbox) : Prop where
  arrivals : i.signals.Pairwise fun s t => s.1 ≤ t.1
  closing : ∀ c ∈ i.closes, ∀ s ∈ i.signals, s.1 ≤ c

variable {s : Nat × ControlSignal} {signals : List (Nat × ControlSignal)} {closes : Option Nat}

theorem taken_last (ends : s.2.endsRun = true) : taken ⟨s :: signals, closes⟩ = [] := by simp [taken, ends]

theorem taken_more (goesOn : s.2.endsRun = false) : taken ⟨s :: signals, closes⟩ = s :: taken ⟨signals, closes⟩ := by
  simp [taken, goesOn]

theorem endAsked_last (ends : s.2.endsRun = true) : endAsked ⟨s :: signals, closes⟩ = some s.1 := by
  simp [endAsked, ends]

theorem endAsked_more (goesOn : s.2.endsRun = false) :
    endAsked ⟨s :: signals, closes⟩ = endAsked ⟨signals, closes⟩ := by
  simp [endAsked, goesOn]

theorem Ordered.rest (h : Ordered ⟨s :: signals, closes⟩) : Ordered ⟨signals, closes⟩ := by
  constructor
  · exact (List.pairwise_cons.1 h.arrivals).2
  · intro c hc s' hs'
    exact h.closing c hc s' (List.mem_cons_of_mem _ hs')

theorem Ordered.first (h : Ordered ⟨s :: signals, closes⟩) : ∀ s' ∈ signals, s.1 ≤ s'.1 :=
  (List.pairwise_cons.1 h.arrivals).1

end Inbox

namespace ControlLoop

open Cell (Returns Leads)

variable {γ κ : Type}

/-! ## Accounts -/

inductive Happening
  | reported (r : StatusReport)
  | startCalled
  | stopCalled
  deriving DecidableEq, Repr

/-- What has happened, with its time and the latest first, and what lies in the error box. -/
structure Account where
  happenings : List (Nat × Happening) := []
  box : ErrorBox := {}
  deriving DecidableEq, Repr

namespace Account

def add (now : Nat) (h : Happening) (a : Account) : Account := { a with happenings := (now, h) :: a.happenings }

/-- The account with more that has happened, in order. -/
def extend (hs : List (Nat × Happening)) (a : Account) : Account := { a with happenings := hs.reverse ++ a.happenings }

/-- A callback that fails leaves its failure in the error box. -/
def settle (result : Except Failure Unit) (a : Account) : Account :=
  match result with
  | .ok () => a
  | .error failure => { a with box := a.box.put (.workload failure) }

theorem add_extend (now : Nat) (h : Happening) (hs : List (Nat × Happening)) (a : Account) :
    (a.extend hs).add now h = a.extend (hs ++ [(now, h)]) := by
  simp [add, extend]

theorem extend_extend (hs hs' : List (Nat × Happening)) (a : Account) :
    (a.extend hs).extend hs' = a.extend (hs ++ hs') := by
  simp [extend]

theorem add_settle (now : Nat) (h : Happening) (result : Except Failure Unit) (a : Account) :
    (a.settle result).add now h = (a.add now h).settle result := by
  cases result <;> rfl

end Account

/-! ## Accounted loops

The place of an account also holds what the callbacks of the workload read and write, if that is to be told. -/

def note (place : Cell γ (Account × κ)) (h : Happening) : Act γ Unit := do
  let now ← Act.now
  Act.update place fun (a, k) => (a.add now h, k)

/-- The workload, with its calls put on account. -/
def noting (place : Cell γ (Account × κ)) (w : Workload γ) : Workload γ where
  start view := do
    note place .startCalled
    w.start view
  stop view := do
    note place .stopCalled
    w.stop view

/-- A control loop that is kept account of. -/
def accounted (place : Cell γ (Account × κ)) (w : Workload γ) (view : View γ) : ControlLoop γ :=
  ⟨noting place w, view, place.inside ⟨(·.1.box), fun b (a, k) => ({ a with box := b }, k)⟩⟩

def reporter (place : Cell γ (Account × κ)) (r : StatusReport) : Act γ Unit := note place (.reported r)

/-- Begun where `before` holds, the callback ends after this time with this result, and leaves `after` to hold.  It does not
touch the account. -/
def Lasts [Background γ] (place : Cell γ (Account × κ)) (c : Callback γ Unit) (ms : Nat) (result : Except Failure Unit)
    (before after : κ → Prop) : Prop :=
  ∀ now a k, before k → ∃ k', after k' ∧ place.Returns c ⟨now, a, k⟩ result ⟨now + ms, a, k'⟩

section Steps

variable [Background γ] {place : Cell γ (Account × κ)} (quiet : place.Undisturbed)
include quiet

theorem note_leads (h : Happening) (now : Nat) (a : Account) (k : κ) :
    place.Leads (note place h) ⟨now, a, k⟩ (some ()) ⟨now, a.add now h, k⟩ :=
  Leads.now.bind (Leads.update quiet.toLawful _)

variable {w : Workload γ} {view : View γ} {ms : Nat} {result : Except Failure Unit} {before after : κ → Prop} {k : κ}

theorem start_leads (hw : Lasts place (w.start view) ms result before after) (now : Nat) (a : Account) (hk : before k) :
    ∃ k', after k' ∧
      place.Returns ((noting place w).start view) ⟨now, a, k⟩ result ⟨now + ms, a.add now .startCalled, k'⟩ := by
  have hnote := note_leads quiet .startCalled now a k
  obtain ⟨k', hafter, hstart⟩ := hw now (a.add now .startCalled) k hk
  exact ⟨k', hafter, (Returns.act hnote).bind hstart⟩

theorem stop_leads (hw : Lasts place (w.stop view) ms result before after) (now : Nat) (a : Account) (hk : before k) :
    ∃ k', after k' ∧
      place.Returns ((noting place w).stop view) ⟨now, a, k⟩ result ⟨now + ms, a.add now .stopCalled, k'⟩ := by
  have hnote := note_leads quiet .stopCalled now a k
  obtain ⟨k', hafter, hstop⟩ := hw now (a.add now .stopCalled) k hk
  exact ⟨k', hafter, (Returns.act hnote).bind hstop⟩

theorem fail_leads (failure : Failure) (now : Nat) (a : Account) (k : κ) :
    place.Leads ((accounted place w view).fail failure) ⟨now, a, k⟩ (some ()) ⟨now, a.settle (.error failure), k⟩ :=
  Leads.update_inside quiet.toLawful _ _

end Steps

/-! ## Scripted workloads -/

section Scripted

open Workload (Scripted Response)

variable [Background γ] {place : Cell γ (Account × Scripted)} {view : View γ}

/-- A scripted workload beside the account. -/
def scriptCell (place : Cell γ (Account × Scripted)) : Cell γ Scripted := place.inside ⟨(·.2), fun k x => (x.1, k)⟩

def result (r : Response) : Except Failure Unit :=
  match r.failure with
  | some failure => .error failure
  | none => .ok ()

/-- A workload that does not look at its service and has these responses left. -/
def Scripts (onStart onStop : List Response) (k : Scripted) : Prop :=
  k.observes = false ∧ k.onStart = onStart ∧ k.onStop = onStop

theorem callback_returns (quiet : place.Undisturbed) (stopping : Bool) {now : Nat} {a : Account} {k : Scripted}
    (blind : k.observes = false) :
    let called := k.call stopping ⟨stopping, now, none⟩
    place.Returns (Scripted.callback (scriptCell place) stopping view) ⟨now, a, k⟩ (result called.1)
      ⟨now + called.1.ms, a, called.2⟩ := by
  unfold Scripted.callback
  refine (Returns.read_inside _).bind ?_
  simp only [blind, Bool.false_eq_true, if_false]
  refine (Returns.pure _).bind (Returns.now.bind ?_)
  refine (Returns.lift (Leads.takeFrom_inside quiet.toLawful _ _)).bind ?_
  refine (Returns.lift (Leads.sleep quiet.toStill _)).bind ?_
  dsimp only
  unfold result
  cases (k.call stopping ⟨stopping, now, none⟩).1.failure with
  | some failure => exact Returns.throw (m := Task γ) failure
  | none => exact Returns.pure (m := Task γ) ()

theorem scripted_start_lasts (quiet : place.Undisturbed) (r : Response) (onStart onStop : List Response) :
    Lasts place ((Workload.scripted (scriptCell place)).start view) r.ms (result r) (Scripts (r :: onStart) onStop)
      (Scripts onStart onStop) := by
  rintro now a ⟨_, _, _, starts, stops, seen⟩ ⟨rfl, rfl, rfl⟩
  refine ⟨_, ?_, callback_returns quiet false ?_⟩
  · exact ⟨rfl, rfl, rfl⟩
  · rfl

theorem scripted_stop_lasts (quiet : place.Undisturbed) (r : Response) (onStart onStop : List Response) :
    Lasts place ((Workload.scripted (scriptCell place)).stop view) r.ms (result r) (Scripts onStart (r :: onStop))
      (Scripts onStart onStop) := by
  rintro now a ⟨_, _, _, starts, stops, seen⟩ ⟨rfl, rfl, rfl⟩
  refine ⟨_, ?_, callback_returns quiet true ?_⟩
  · exact ⟨rfl, rfl, rfl⟩
  · rfl

end Scripted

/-! ## Serving signals -/

/-- How a run that was up ends, and the code that it reports. -/
def ended : Except Failure Unit → LoopExit × ExitCode
  | .ok () => (.normal, .win32 0)
  | .error _ => (.stopFailed, .service 2)

theorem exitCode_ended (stopped : Except Failure Unit) : (ended stopped).1.exitCode = (ended stopped).2 := by
  cases stopped <;> rfl

/-- The answer to a signal that is taken, in a run that is up from an instant on. -/
def answer (up : Nat) (s : Nat × ControlSignal) : List (Nat × Happening) :=
  if s.2 = .interrogate then [(max s.1 up, .reported .running)] else []

/-- The answers to all signals that are taken. -/
def answers (up : Nat) (inbox : Inbox) : List (Nat × Happening) := inbox.taken.flatMap (answer up)

section Serving

variable [Background γ] {place : Cell γ (Account × κ)} {w : Workload γ} {view : View γ} {p : Nat}
  {stopped : Except Failure Unit} {before after : κ → Prop}

/-- What serving signals comes to in a run that is up since an instant: every interrogation is answered, and the workload is
stopped once the end is asked for. -/
def Serves (place : Cell γ (Account × κ)) (w : Workload γ) (view : View γ) (p : Nat) (stopped : Except Failure Unit)
    (up : Nat) (inbox : Inbox) (now : Nat) (a : Account) (k : κ) : Prop :=
  let serving := (accounted place w view).serve (reporter place) inbox.closes inbox.signals
  match inbox.endAsked with
  | some asked => ∃ k', place.Leads serving ⟨now, a, k⟩ (some (ended stopped).1)
    ⟨max asked up + p, (a.extend (answers up inbox ++
      [(max asked up, .reported (.pending .stopPending)), (max asked up, .stopCalled)])).settle stopped, k'⟩
  | none => ∃ idle, place.Leads serving ⟨now, a, k⟩ none ⟨idle, a.extend (answers up inbox), k⟩

variable (quiet : place.Undisturbed) (stops : Lasts place (w.stop view) p stopped before after)
include quiet

include stops in
/-- **The workload is stopped between two reports.** -/
theorem stopWorkload_leads (signal : ControlSignal) (h : Nat) (a : Account) {k : κ} (hk : before k) :
    ∃ k', place.Leads ((accounted place w view).stopWorkload (reporter place) signal) ⟨h, a, k⟩ (some (ended stopped).1)
      ⟨h + p, (a.extend [(h, .reported (.pending .stopPending)), (h, .stopCalled)]).settle stopped, k'⟩ := by
  have hreport := note_leads quiet (.reported (.pending .stopPending)) h a k
  obtain ⟨k', -, hstop⟩ := stop_leads quiet stops h (a.add h (.reported (.pending .stopPending))) hk
  refine ⟨k', ?_⟩
  unfold stopWorkload
  refine (Leads.log _ _).bind ((Leads.act hreport).bind (Leads.bind hstop ?_))
  cases stopped with
  | ok _ => exact .pure _
  | error failure =>
    refine (Leads.log _ _).bind ?_
    exact (Leads.act (fail_leads quiet failure _ _ _)).bind (.pure _)

variable {up t : Nat} {s : Nat × ControlSignal} {signals : List (Nat × ControlSignal)} {closes : Option Nat}
  {a : Account} {k : κ}

include stops in
/-- An inbox without signals ends the run when it closes. -/
theorem serves_nil (hk : before k) (isUp : up ≤ t) (hc : ∀ c ∈ closes, t ≤ max c up) :
    Serves place w view p stopped up ⟨[], closes⟩ t a k := by
  cases closes with
  | none => exact ⟨t, (Leads.await_nothing quiet.toStill).bind_none⟩
  | some c =>
    have hs : max t c = max c up := by
      have := hc c rfl
      omega
    have hwake : place.Leads (Task.sleepUntil c : Task γ Unit) ⟨t, a, k⟩ (some ()) ⟨max c up, a, k⟩ :=
      Leads.wakeAt quiet.toStill hs
    obtain ⟨k', hstop⟩ := stopWorkload_leads quiet stops .shutdown (max c up) a hk
    exact ⟨k', hwake.bind ((Leads.log _ _).bind hstop)⟩

include stops in
/-- A signal that ends the run is the last that is taken. -/
theorem serves_last (hk : before k) (ends : s.2.endsRun = true) (hs : max t s.1 = max s.1 up) :
    Serves place w view p stopped up ⟨s :: signals, closes⟩ t a k := by
  obtain ⟨arrival, signal⟩ := s
  obtain ⟨k', hstop⟩ := stopWorkload_leads quiet stops signal (max arrival up) a hk
  have hwake : place.Leads (Task.sleepUntil arrival : Task γ Unit) ⟨t, a, k⟩ (some ()) ⟨max arrival up, a, k⟩ :=
    Leads.wakeAt quiet.toStill hs
  unfold Serves answers
  rw [Inbox.endAsked_last ends, Inbox.taken_last ends]
  refine ⟨k', ?_⟩
  unfold serve
  cases signal with
  | stop => exact hwake.bind hstop
  | shutdown => exact hwake.bind hstop
  | _ => cases ends

/-- Any other signal leaves the rest to be served, with the answer to it given. -/
theorem serve_more {r : Option LoopExit} {σ : Sight (Account × κ)} (goesOn : s.2.endsRun = false)
    (hs : max t s.1 = max s.1 up)
    (rest : place.Leads ((accounted place w view).serve (reporter place) closes signals)
      ⟨max s.1 up, a.extend (answer up s), k⟩ r σ) :
    place.Leads ((accounted place w view).serve (reporter place) closes (s :: signals)) ⟨t, a, k⟩ r σ := by
  obtain ⟨arrival, signal⟩ := s
  have hwake : place.Leads (Task.sleepUntil arrival : Task γ Unit) ⟨t, a, k⟩ (some ()) ⟨max arrival up, a, k⟩ :=
    Leads.wakeAt quiet.toStill hs
  unfold serve
  refine hwake.bind ?_
  cases signal with
  | stop => cases goesOn
  | shutdown => cases goesOn
  | interrogate =>
    have hreport := note_leads quiet (.reported .running) (max arrival up) a k
    exact (Leads.act hreport).bind rest
  | _ => exact (Leads.log _ _).bind rest

theorem serves_more (goesOn : s.2.endsRun = false) (hs : max t s.1 = max s.1 up)
    (rest : Serves place w view p stopped up ⟨signals, closes⟩ (max s.1 up) (a.extend (answer up s)) k) :
    Serves place w view p stopped up ⟨s :: signals, closes⟩ t a k := by
  unfold Serves answers at rest ⊢
  rw [Inbox.endAsked_more goesOn, Inbox.taken_more goesOn, List.flatMap_cons]
  dsimp only at rest ⊢
  cases hasked : Inbox.endAsked ⟨signals, closes⟩ with
  | some asked =>
    rw [hasked] at rest
    obtain ⟨k', h⟩ := rest
    refine ⟨k', ?_⟩
    rw [List.append_assoc, ← Account.extend_extend]
    exact serve_more quiet goesOn hs h
  | none =>
    rw [hasked] at rest
    obtain ⟨idle, h⟩ := rest
    refine ⟨idle, ?_⟩
    rw [← Account.extend_extend]
    exact serve_more quiet goesOn hs h

include stops in
/-- **Signals are served in order**, from any instant that is not past what is still to come. -/
theorem serves (ordered : Inbox.Ordered ⟨signals, closes⟩) (hk : before k) (isUp : up ≤ t)
    (ahead : ∀ s ∈ signals, t ≤ max s.1 up) (stillOpen : ∀ c ∈ closes, t ≤ max c up) :
    Serves place w view p stopped up ⟨signals, closes⟩ t a k := by
  induction signals generalizing t a with
  | nil => exact serves_nil quiet stops hk isUp stillOpen
  | cons s signals ih =>
    have hs : max t s.1 = max s.1 up := by
      have := ahead s List.mem_cons_self
      omega
    cases ends : s.2.endsRun with
    | true => exact serves_last quiet stops hk ends hs
    | false =>
      -- taking the signal moves the clock to its arrival, and neither a later signal nor the closing is before that
      refine serves_more quiet ends hs (ih ordered.rest (Nat.le_max_right _ _) ?_ ?_)
      · intro s' hs'
        have := ordered.first s' hs'
        omega
      · intro c hc
        have := ordered.closing c hc s List.mem_cons_self
        omega

end Serving

/-! ## Whole runs -/

section Run

variable [Background γ] {place : Cell γ (Account × κ)} {w : Workload γ} {view : View γ} {s p : Nat}
  {started stopped : Except Failure Unit} {idle up down : κ → Prop} {k : κ} {inbox : Inbox}

/-- How a run begins. -/
def begun (now : Nat) : List (Nat × Happening) := [(now, .reported (.pending .startPending)), (now, .startCalled)]

theorem drive_failed (quiet : place.Undisturbed) (inbox : Inbox) {failure : Failure}
    (starts : Lasts place (w.start view) s (.error failure) idle up) (hk : idle k) (now : Nat) (a : Account) :
    ∃ k', place.Leads ((accounted place w view).drive (reporter place) inbox) ⟨now, a, k⟩ (some .startFailed)
      ⟨now + s, (a.extend (begun now)).settle (.error failure), k'⟩ := by
  have hreport := note_leads quiet (.reported (.pending .startPending)) now a k
  obtain ⟨k', -, hstart⟩ := start_leads quiet starts now (a.add now (.reported (.pending .startPending))) hk
  refine ⟨k', ?_⟩
  unfold drive
  refine (Leads.act hreport).bind (Leads.bind hstart ?_)
  refine (Leads.log _ _).bind ?_
  exact (Leads.act (fail_leads quiet failure _ _ _)).bind (.pure _)

/-- Once the workload is up, the run is what serving the signals is. -/
theorem drive_started (quiet : place.Undisturbed) (inbox : Inbox)
    (starts : Lasts place (w.start view) s (.ok ()) idle up) (hk : idle k) (now : Nat) (a : Account) :
    ∃ k', up k' ∧ ∀ {r : Option LoopExit} {σ : Sight (Account × κ)},
      place.Leads ((accounted place w view).serve (reporter place) inbox.closes inbox.signals)
        ⟨now + s, a.extend (begun now ++ [(now + s, .reported .running)]), k'⟩ r σ →
      place.Leads ((accounted place w view).drive (reporter place) inbox) ⟨now, a, k⟩ r σ := by
  have hreport := note_leads quiet (.reported (.pending .startPending)) now a k
  obtain ⟨k', hup, hstart⟩ := start_leads quiet starts now (a.add now (.reported (.pending .startPending))) hk
  refine ⟨k', hup, ?_⟩
  intro r σ serving
  unfold drive
  refine (Leads.act hreport).bind (Leads.bind hstart ?_)
  refine (Leads.act (note_leads quiet _ _ _ _)).bind ?_
  exact (Leads.log _ _).bind serving

/-- The last report is that of a stopped service. -/
theorem run_leads (quiet : place.Undisturbed) {exit : LoopExit} {σ : Sight (Account × κ)} {ends : Nat} {a : Account}
    (driven : place.Leads ((accounted place w view).drive (reporter place) inbox) σ (some exit) ⟨ends, a, k⟩) :
    place.Leads ((accounted place w view).run (reporter place) inbox) σ (some exit)
      ⟨ends, a.add ends (.reported (.stopped exit.exitCode)), k⟩ := by
  have hreport := note_leads quiet (.reported (.stopped exit.exitCode)) ends a k
  unfold run
  refine driven.bind ?_
  exact (Leads.act hreport).bind ((Leads.log _ _).bind (.pure _))

/-- **The account of a run.**  It holds the reports and the calls of the workload with their times, and nothing else has
happened.  Without a signal that ends the run and without a closing of the inbox, the run waits for good. -/
theorem run_account (quiet : place.Undisturbed) (starts : Lasts place (w.start view) s started idle up)
    (stops : Lasts place (w.stop view) p stopped up down) (ordered : inbox.Ordered) (hk : idle k) (now : Nat)
    (a : Account) :
    let run := (accounted place w view).run (reporter place) inbox
    let opening := begun now ++ [(now + s, .reported .running)] ++ answers (now + s) inbox
    match started, inbox.endAsked with
    | .error _, _ => ∃ k', place.Leads run ⟨now, a, k⟩ (some .startFailed)
      ⟨now + s, (a.extend (begun now ++ [(now + s, .reported (.stopped (.service 1)))])).settle started, k'⟩
    | .ok _, some asked =>
      let h := max asked (now + s)
      ∃ k', place.Leads run ⟨now, a, k⟩ (some (ended stopped).1) ⟨h + p, (a.extend (opening ++
        [(h, .reported (.pending .stopPending)), (h, .stopCalled), (h + p, .reported (.stopped (ended stopped).2))])).settle
        stopped, k'⟩
    | .ok _, none => ∃ idle k', place.Leads run ⟨now, a, k⟩ none ⟨idle, a.extend opening, k'⟩ := by
  cases started with
  | error failure =>
    obtain ⟨k', hdrive⟩ := drive_failed quiet inbox starts hk now a
    have h := run_leads quiet hdrive
    rw [Account.add_settle, Account.add_extend] at h
    exact ⟨k', h⟩
  | ok _ =>
    obtain ⟨k₁, hup, hdrive⟩ := drive_started quiet inbox starts hk now a
    have hserved : Serves place w view p stopped (now + s) inbox (now + s)
        (a.extend (begun now ++ [(now + s, .reported .running)])) k₁ :=
      serves quiet stops ordered hup (Nat.le_refl _) (fun _ _ => Nat.le_max_right _ _) fun _ _ => Nat.le_max_right _ _
    unfold Serves at hserved
    dsimp only at hserved ⊢
    cases hasked : inbox.endAsked with
    | some asked =>
      rw [hasked] at hserved
      obtain ⟨k', hserve⟩ := hserved
      have h := run_leads quiet (hdrive hserve)
      rw [Account.add_settle, Account.extend_extend, Account.add_extend, exitCode_ended] at h
      exact ⟨k', by simpa only [List.append_assoc, List.cons_append, List.nil_append] using h⟩
    | none =>
      rw [hasked] at hserved
      obtain ⟨idle, hserve⟩ := hserved
      rw [Account.extend_extend] at hserve
      exact ⟨idle, k₁, (hdrive hserve).bind_none⟩

open Workload (Scripted Response) in
open Scenario (Stage) in
/-- An interrogation that comes during a slow start is answered after it, and what comes after the stop is not taken. -/
theorem run_account_scripted :
    let place : Cell (Stage (Account × Scripted)) (Account × Scripted) := Stage.managerCell
    let view : View (Stage (Account × Scripted)) := ⟨{ name := "svcA" }, pure "Running"⟩
    let w := Workload.scripted (scriptCell place)
    let slow : Response := ⟨300, none⟩
    let failing : Response := ⟨50, some ⟨"stop exploded", []⟩⟩
    let k : Scripted := { onStart := [slow], onStop := [failing] }
    let inbox : Inbox :=
      ⟨[(100, .interrogate), (400, .pause), (500, .interrogate), (700, .stop), (800, .interrogate)], none⟩
    place.Undisturbed ∧ Lasts place (w.start view) 300 (.ok ()) (Scripts [slow] [failing]) (Scripts [] [failing]) ∧
      Lasts place (w.stop view) 50 (.error ⟨"stop exploded", []⟩) (Scripts [] [failing]) (Scripts [] []) ∧
      inbox.Ordered ∧ Scripts [slow] [failing] k ∧
      ∃ k', place.Leads ((accounted place w view).run (reporter place) inbox) ⟨0, {}, k⟩ (some .stopFailed)
        ⟨750, ⟨[(750, .reported (.stopped (.service 2))), (700, .stopCalled), (700, .reported (.pending .stopPending)),
          (500, .reported .running), (300, .reported .running), (300, .reported .running), (0, .startCalled),
          (0, .reported (.pending .startPending))], ⟨some (.workload ⟨"stop exploded", []⟩)⟩⟩, k'⟩ := by
  intro place view w slow failing k inbox
  have quiet : place.Undisturbed := Stage.managerCell_undisturbed
  have starts : Lasts place (w.start view) _ _ _ _ := scripted_start_lasts quiet slow [] [failing]
  have stops : Lasts place (w.stop view) _ _ _ _ := scripted_stop_lasts quiet failing [] []
  have ordered : inbox.Ordered := ⟨by decide, nofun⟩
  have ready : Scripts [slow] [failing] k := ⟨rfl, rfl, rfl⟩
  exact ⟨quiet, starts, stops, ordered, ready, run_account quiet starts stops ordered ready 0 {}⟩

end Run

end ControlLoop

end ServiceControl
