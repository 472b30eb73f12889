import ServiceControl.Proofs.Scripted.Conduct
import ServiceControl.Windows.Gateway
/-!
# A dispatch under Windows

What a control loop that Windows calls for reports to Windows, and what is answered to the controls that it sends
(`dispatch_course`).
-/
namespace ServiceControl.Windows

open Cell (Leads Returns Ensures Yields)

/-! ## What is seen of Windows -/

def Call.record? : Call → Option StatusRecord
  | .setStatus record => some record
  | _ => none

def Call.answer? : Call → Option (Nat × Nat)
  | .handler control answer => some (control, answer)
  | _ => none

/-- The status records that Windows got, the latest first. -/
def Machine.records (m : Machine) : List StatusRecord := m.calls.filterMap Call.record?

/-- The controls that the handler was called with and its answers, the latest first. -/
def Machine.answers (m : Machine) : List (Nat × Nat) := m.calls.filterMap Call.answer?

/-- What of Windows has to do with a dispatch. -/
structure Board where
  records : List StatusRecord
  answers : List (Nat × Nat)
  armed : Bool
  controls : List Nat
  waits : Bool
  mainCalls : Option Nat
  registering : List Reply
  dispatching : List Reply

def Machine.board (m : Machine) : Board :=
  ⟨m.records, m.answers, m.armed, m.controls, m.pending.isSome, m.mainCalls, m.replies .registerHandler,
    m.replies .startDispatcher⟩

/-- Takes the next of some replies. -/
def nextReply : List Reply → Reply × List Reply
  | [] => (.succeeds, [])
  | [reply] => (reply, [reply])
  | reply :: rest => (reply, rest)

/-- What comes of a reply. -/
def replied : Reply → Except Fault Reply
  | .fails code => .error (.system code)
  | reply => .ok reply

theorem takeReply_eq (f : Function) (m : Machine) : m.takeReply f = ((nextReply (m.replies f)).1,
    { m with replies := fun g => if g = f then (nextReply (m.replies f)).2 else m.replies g }) := by
  have same {replies : List Reply} (h : m.replies f = replies) :
      { m with replies := fun g => if g = f then replies else m.replies g } = m := by
    have hfun : (fun g => if g = f then replies else m.replies g) = m.replies := by
      funext g
      split
      · rename_i hg
        rw [hg, h]
      · rfl
    rw [hfun]
  unfold Machine.takeReply
  match h : m.replies f with
  | [] => rw [nextReply, same h]
  | [reply] => rw [nextReply, same h]
  | reply :: _ :: _ => rfl

def Board.call (f : Function) (c : Call) (v : Board) : Board :=
  { v with
    records := c.record?.toList ++ v.records
    answers := c.answer?.toList ++ v.answers
    registering := if f = .registerHandler then (nextReply v.registering).2 else v.registering
    dispatching := if f = .startDispatcher then (nextReply v.dispatching).2 else v.dispatching }

theorem call_reply (f : Function) (c : Call) (m : Machine) : (m.call f c).1 = (nextReply (m.replies f)).1 := by
  unfold Machine.call
  rw [takeReply_eq]

theorem board_call (f : Function) (c : Call) (m : Machine) : (m.call f c).2.board = m.board.call f c := by
  have hrecords : (c :: m.calls).filterMap Call.record? = c.record?.toList ++ m.records := by
    rw [List.filterMap_cons]
    cases c.record? <;> rfl
  have hanswers : (c :: m.calls).filterMap Call.answer? = c.answer?.toList ++ m.answers := by
    rw [List.filterMap_cons]
    cases c.answer? <;> rfl
  unfold Machine.call
  rw [takeReply_eq]
  unfold Machine.board Machine.records Machine.answers
  dsimp only
  rw [hrecords, hanswers]
  cases f <;> rfl

section Requests

variable {γ β : Type} {cell : Cell γ Machine} {place : Cell γ β} {σ σ' : Sight β} {f : Function} {c : Call}

theorem request_returns {reply : Reply} (h : place.Leads (invoke cell f c) σ (some reply) σ') :
    place.Returns (request cell f c) σ (replied reply) σ' := by
  unfold request
  refine (Returns.lift h).bind ?_
  cases reply with
  | fails code => exact Returns.throw (m := Act γ) (Fault.system code)
  | _ => exact Returns.pure (m := Act γ) _

theorem request_replied {P : Sight β → Prop} {R : Except Fault Reply → Sight β → Prop}
    (h : place.Ensures P (invoke cell f c) fun reply => R (replied reply)) : place.Yields P (request cell f c) R := by
  unfold request
  refine (Yields.lift h).bind_ok fun reply => ?_
  cases reply with
  | fails code => exact .throw fun _ hσ => hσ
  | _ => exact .pure fun _ hσ => hσ

theorem request_yields {P : Sight β → Prop} {Q : Sight β → Prop} (h : place.Ensures P (invoke cell f c) fun _ => Q) :
    place.Yields P (request cell f c) fun _ => Q :=
  request_replied h

end Requests

/-! ## Reports -/

namespace Board

def sent (v : Board) : List Nat := upToLast (v.controls ++ [Code.stopControl])

/-- Sends the controls once the service has reported that it runs. -/
def send (record : StatusRecord) (v : Board) : Board :=
  if v.armed && record.state = RuntimeState.running.code then
    { v with armed := false, answers := (v.sent.map fun c => (c, answerTo c)).reverse ++ v.answers }
  else v

def tell (r : StatusReport) (v : Board) : Board :=
  match statusRecord? r with
  | none => v
  | some record => (v.call .setStatus (.setStatus record)).send record

end Board

variable {γ κ : Type} [Background γ] {cell : Cell γ Machine} {errors : Cell γ ErrorBox} {work : γ → κ}
  {conduct : Conduct κ}

/-- A machine with an error box and a workload, seen for a dispatch. -/
abbrev boardPanel (cell : Cell γ Machine) (errors : Cell γ ErrorBox) (work : γ → κ) : Cell γ (Seen Board κ) :=
  panel Machine.board cell errors work

/-- Sent controls are answered, and nothing is reported by that. -/
theorem board_handled (controls : List Nat) (m : Machine) :
    let calls := (controls.map fun c => Call.handler c (answerTo c)).reverse ++ m.calls
    calls.filterMap Call.record? = m.records ∧
      calls.filterMap Call.answer? = (controls.map fun c => (c, answerTo c)).reverse ++ m.answers := by
  intro calls
  constructor
  · have none_reported : (controls.map fun c => Call.handler c (answerTo c)).reverse.filterMap Call.record? = [] := by
      rw [List.filterMap_eq_nil_iff]
      intro call hcall
      obtain ⟨c, -, rfl⟩ := List.mem_map.1 (List.mem_reverse.1 hcall)
      rfl
    rw [List.filterMap_append, none_reported, List.nil_append]
    rfl
  · rw [List.filterMap_append, List.filterMap_reverse, List.filterMap_map]
    have all_answered : Call.answer? ∘ (fun c => Call.handler c (answerTo c)) = fun c => some (c, answerTo c) := rfl
    rw [all_answered, List.filterMap_eq_map']
    rfl

theorem board_send (record : StatusRecord) (m : Machine) :
    Machine.board (if m.armed && record.state = RuntimeState.running.code then
      { m with armed := false, calls := (m.sent.map fun c => Call.handler c (answerTo c)).reverse ++ m.calls }
    else m) = m.board.send record := by
  obtain ⟨hrecords, hanswers⟩ := board_handled m.sent m
  unfold Board.send
  show _ = if m.armed && _ then _ else _
  split
  · unfold Machine.board
    rw [show Machine.records { m with armed := false, calls := _ } = m.records from hrecords,
      show Machine.answers { m with armed := false, calls := _ } = _ from hanswers]
    rfl
  · rfl

theorem report_tells (apart : Separate cell errors work) :
    ControlLoop.Tells (boardPanel cell errors work) (report cell) Board.tell := by
  rintro r now ⟨v, box, k⟩
  show (boardPanel cell errors work).Leads (report cell r) _ _ ⟨now, ⟨v.tell r, box, k⟩⟩
  unfold report Board.tell
  cases statusRecord? r with
  | none => exact .pure _
  | some record =>
    let received : Board := v.call .setStatus (.setStatus record)
    have hinvoke : (boardPanel cell errors work).Ensures (· = ⟨now, ⟨v, box, k⟩⟩)
        (invoke cell .setStatus (.setStatus record)) fun _ => (· = ⟨now, ⟨received, box, k⟩⟩) := by
      refine Ensures.weaken (apart.takeFrom_any (R := fun _ => True) fun x hx => ⟨trivial, ?_⟩) fun _ _ h => h.2
      rw [board_call, hx]
    have hdeliver : (boardPanel cell errors work).Leads (deliver cell record) ⟨now, ⟨received, box, k⟩⟩
        (some ()) ⟨now, ⟨received.send record, box, k⟩⟩ := by
      refine apart.update_machine fun x hx => ?_
      rw [← hx]
      exact board_send record x
    -- what Windows replies is told in the journal, and has no part in the rest
    refine Ensures.leads (R := fun _ => True) ((request_yields hinvoke).weaken fun _ _ h => ⟨trivial, h⟩) ?_
    intro reply _
    refine hdeliver.bind ?_
    cases reply with
    | ok _ => exact .pure _
    | error f => exact .log _ _

/-! ## The entry point -/

/-- Windows takes the text. -/
def Speakable (name : String) : Prop := (Text.terminated? name.toList).isSome = true

theorem terminated_of_speakable {name : String} (h : Speakable name) (what : Fault) :
    ∃ checked, terminated what name = .ok checked := by
  obtain ⟨cs, hcs⟩ := Option.isSome_iff_exists.1 h
  unfold terminated
  rw [hcs]
  exact ⟨_, rfl⟩

def Reply.Grants (reply : Reply) : Prop := ∀ code, reply ≠ .fails code

theorem replied_of_grants {reply : Reply} (h : reply.Grants) : replied reply = .ok reply := by
  cases reply with
  | fails code => exact absurd rfl (h code)
  | _ => rfl

theorem isOk_of_grants {reply : Reply} (h : reply.Grants) : (replied reply).isOk = true := by
  rw [replied_of_grants h]
  rfl

theorem fails_of_refused {reply : Reply} (h : ¬reply.Grants) : ∃ code, reply = .fails code := by
  cases reply with
  | fails code => exact ⟨code, rfl⟩
  | _ => exact absurd (fun _ => nofun) h

namespace Board

def registered (v : Board) : Board := { v with armed := true, registering := (nextReply v.registering).2 }

def signals (v : Board) : List ControlSignal := v.sent.filterMap signalOf?

def toldAll (reports : List StatusReport) (v : Board) : Board := reports.foldl (fun v r => v.tell r) v

/-- What is seen once a run has gone its course. -/
def ran (course : Course κ) (box : ErrorBox) (v : Board) : Seen Board κ :=
  ⟨v.toldAll course.reports, boxAfter course.failure box, course.work⟩

end Board

section Entry

variable {l : ControlLoop γ} (apart : Separate cell l.errors work)
  (enacts : l.workload.Enacts (boardPanel cell l.errors work) l.view conduct) {v : Board} (now : Nat)
  (box : ErrorBox) (k : κ)
include apart

theorem registerHandler_returns {name : String} (speakable : Speakable name)
    (grants : (nextReply v.registering).1.Grants) :
    (boardPanel cell l.errors work).Returns (registerHandler cell name) ⟨now, ⟨v, box, k⟩⟩ (.ok ())
      ⟨now, ⟨v.registered, box, k⟩⟩ := by
  obtain ⟨checked, hchecked⟩ := terminated_of_speakable speakable (.nul "service name")
  have hinvoke : (boardPanel cell l.errors work).Leads
      (invoke cell .registerHandler (.registerHandler checked)) ⟨now, ⟨v, box, k⟩⟩
      (some (nextReply v.registering).1) ⟨now, ⟨v.call .registerHandler (.registerHandler checked), box, k⟩⟩ := by
    refine apart.takeFrom_machine fun x hx => ⟨?_, ?_⟩
    · rw [call_reply, ← hx]
      rfl
    · rw [board_call, hx]
  have hrequest := request_returns hinvoke
  rw [replied_of_grants grants] at hrequest
  have harm : (boardPanel cell l.errors work).Leads
      (Act.update cell fun m => { m with armed := true } : Act γ Unit)
      ⟨now, ⟨v.call .registerHandler (.registerHandler checked), box, k⟩⟩ (some ())
      ⟨now, ⟨{ v.call .registerHandler (.registerHandler checked) with armed := true }, box, k⟩⟩ := by
    refine apart.update_machine fun x hx => ?_
    rw [← hx]
    rfl
  unfold registerHandler explained
  rw [hchecked]
  refine Returns.adapt (m := Act γ) (r := .ok ()) _ ?_
  exact Returns.bind (Returns.result (m := Act γ) (.ok checked)) (hrequest.bind (Returns.lift harm))

variable (speakable : Speakable l.name) (grants : (nextReply v.registering).1.Grants)
include enacts speakable grants

theorem runService_leads :
    let course := conduct.course now k v.signals
    (boardPanel cell l.errors work).Leads (runService cell l).run ⟨now, ⟨v, box, k⟩⟩ (course.exit.map fun _ => .ok ())
      ⟨now, v.registered.ran course box⟩ := by
  intro course
  have hloop : (boardPanel cell l.errors work).Leads (l.run (report cell) (Inbox.ready now v.signals))
      ⟨now, ⟨v.registered, box, k⟩⟩ course.exit
      ⟨course.instant, v.registered.ran course box⟩ :=
    ControlLoop.run_course enacts (Separate.fails apart) (report_tells apart) apart.still v.signals now _
  have hregister := registerHandler_returns apart now box k speakable grants
  unfold runService
  refine Leads.bind (m := Task γ) (Returns.call hregister) (Leads.bind (m := Task γ) (Returns.log _ _) ?_)
  refine Separate.read_machine_run fun x hx => Leads.bind (m := Task γ) Returns.now ?_
  have hsent : x.sent.filterMap signalOf? = v.signals := by
    rw [show x.sent = x.board.sent from rfl, hx]
    rfl
  rw [hsent]
  have hran := (hloop.apart apart.still).lift (ε := ServiceError)
  rwa [Option.map_map] at hran

/-- **The first call of the entry point runs the loop**, and does not return if that never ends. -/
theorem entryPoint_leads :
    let course := conduct.course now k v.signals
    (boardPanel cell l.errors work).Leads (entryPoint cell fun _ => l) ⟨now, ⟨{ v with waits := true }, box, k⟩⟩
      (course.exit.map fun _ => ()) ⟨now, { v with waits := false }.registered.ran course box⟩ := by
  intro course
  have hrun : (boardPanel cell l.errors work).Leads (runService cell l).run _ (course.exit.map fun _ => .ok ()) _ :=
    runService_leads (v := { v with waits := false }) apart enacts now box k speakable grants
  unfold entryPoint
  refine Separate.read_machine fun x hx => ?_
  cases hpending : x.pending with
  | none =>
    have hwaits : x.pending.isSome = true := congrArg Board.waits hx
    rw [hpending] at hwaits
    cases hwaits
  | some number =>
    have htake : (boardPanel cell l.errors work).Leads
        (Act.update cell fun m => { m with pending := none, served := number :: m.served } : Task γ Unit)
        ⟨now, ⟨{ v with waits := true }, box, k⟩⟩ (some ()) ⟨now, ⟨{ v with waits := false }, box, k⟩⟩ := by
      refine apart.update_machine fun y hy => ?_
      show { y.board with waits := false } = { v with waits := false }
      rw [hy]
    refine htake.bind ?_
    cases hexit : course.exit with
    | none =>
      rw [hexit] at hrun
      exact hrun.bind_none
    | some exit =>
      rw [hexit] at hrun
      exact hrun.bind (.pure _)

omit apart enacts speakable grants in
theorem callEntryPoint_idle (n : Nat) (waits : v.waits = false) :
    (boardPanel cell l.errors work).Leads (callEntryPoint cell (fun _ => l) n) ⟨now, ⟨v, box, k⟩⟩ (some ())
      ⟨now, ⟨v, box, k⟩⟩ := by
  induction n with
  | zero => exact .pure _
  | succ n ih =>
    have hentry : (boardPanel cell l.errors work).Leads (entryPoint cell fun _ => l) ⟨now, ⟨v, box, k⟩⟩ (some ())
        ⟨now, ⟨v, box, k⟩⟩ := by
      unfold entryPoint
      refine Separate.read_machine fun x hx => ?_
      cases hpending : x.pending with
      | none => exact .log _ _
      | some number =>
        have hwaits : x.pending.isSome = v.waits := congrArg Board.waits hx
        rw [hpending, waits] at hwaits
        cases hwaits
    exact hentry.bind ih

end Entry

/-! ## The dispatch -/

namespace Board

/-- How often the dispatcher calls the entry point if nothing else is said. -/
def usualCalls (v : Board) : Nat :=
  match replied (nextReply v.dispatching).1 with
  | .ok _ => 1
  | .error _ => 0

/-- What there is before the first report. -/
def begun (v : Board) : Board :=
  { v with waits := false, dispatching := (nextReply v.dispatching).2 }.registered

theorem tell_waits (r : StatusReport) (v : Board) : (v.tell r).waits = v.waits := by
  unfold tell
  cases statusRecord? r with
  | none => rfl
  | some record =>
    show (send record _).waits = _
    unfold send
    split <;> rfl

theorem tell_records (r : StatusReport) (v : Board) : (v.tell r).records = (statusRecord? r).toList ++ v.records := by
  unfold tell
  cases statusRecord? r with
  | none => rfl
  | some record =>
    show (send record _).records = _
    unfold send
    split <;> rfl

/-- Windows is told of all reports that have a record. -/
theorem toldAll_records (reports : List StatusReport) (v : Board) :
    (v.toldAll reports).records = (reports.filterMap statusRecord?).reverse ++ v.records := by
  induction reports generalizing v with
  | nil => rfl
  | cons r reports ih =>
    refine (ih (v.tell r)).trans ?_
    rw [tell_records, List.filterMap_cons, ← List.append_assoc]
    cases statusRecord? r with
    | none => rw [Option.toList_none, List.append_nil]
    | some record => rw [Option.toList_some, List.reverse_cons]

theorem toldAll_waits (reports : List StatusReport) (v : Board) : (v.toldAll reports).waits = v.waits := by
  induction reports generalizing v with
  | nil => rfl
  | cons r reports ih => exact (ih (v.tell r)).trans (tell_waits r v)

end Board

section Dispatch

variable {l : ControlLoop γ} (apart : Separate cell l.errors work)
  (enacts : l.workload.Enacts (boardPanel cell l.errors work) l.view conduct) {v : Board} (now : Nat)
  (box : ErrorBox) (k : κ)
include apart

/-- The dispatcher is asked, calls the entry point, and only then replies. -/
theorem startDispatcher_calls {name : String} (named : Speakable name) {r : Option Unit} {σ' : Sight (Seen Board κ)}
    (calls : (boardPanel cell l.errors work).Leads (callEntryPoint cell (fun _ => l) (v.mainCalls.getD v.usualCalls))
      ⟨now, ⟨{ v with waits := true, dispatching := (nextReply v.dispatching).2 }, box, k⟩⟩ r σ') :
    (boardPanel cell l.errors work).Leads (startDispatcher cell name fun _ => l).run
      ⟨now, ⟨{ v with waits := true }, box, k⟩⟩ (r.map fun _ => (replied (nextReply v.dispatching).1).map fun _ => ())
      σ' := by
  obtain ⟨checked, hchecked⟩ := terminated_of_speakable named (.nul "service name")
  have hinvoke : (boardPanel cell l.errors work).Leads
      (invoke cell .startDispatcher (.startDispatcher checked)) ⟨now, ⟨{ v with waits := true }, box, k⟩⟩
      (some (nextReply v.dispatching).1)
      ⟨now, ⟨{ v with waits := true, dispatching := (nextReply v.dispatching).2 }, box, k⟩⟩ := by
    refine apart.takeFrom_machine fun x hx => ⟨?_, ?_⟩
    · rw [call_reply, show x.replies .startDispatcher = x.board.dispatching from rfl, hx]
    · rw [board_call, hx]
      rfl
  have hattempt := Returns.call (Returns.attempt (request_returns hinvoke))
  unfold startDispatcher
  rw [hchecked]
  refine Leads.bind (m := Task γ) (Returns.result (.ok checked)) (Leads.bind (m := Task γ) hattempt ?_)
  dsimp only
  refine Separate.read_machine_run fun x hx => ?_
  have hmain : x.mainCalls = v.mainCalls := congrArg Board.mainCalls hx
  rw [hmain]
  have hcalls := calls.lift (ε := Fault)
  cases r with
  | none => exact Leads.bind_none (m := Task γ) hcalls
  | some _ =>
    refine Leads.bind (m := Task γ) hcalls ?_
    cases replied (nextReply v.dispatching).1 with
    | ok reply => exact Returns.pure (m := Task γ) ()
    | error f => exact Returns.throw (m := Task γ) f

/-- A dispatch comes to what the dispatcher does, and the slot is empty after it. -/
theorem dispatch_starts {name : String} {r : Option (Except Fault Unit)} {v' : Board} {box' : ErrorBox} {k' : κ}
    (start : (boardPanel cell l.errors work).Leads (startDispatcher cell name fun _ => l).run
      ⟨now, ⟨{ v with waits := true }, box, k⟩⟩ r ⟨now, ⟨v', box', k'⟩⟩) (taken : r = none → v'.waits = false) :
    (boardPanel cell l.errors work).Leads (dispatch cell name l).run ⟨now, ⟨v, box, k⟩⟩
      (r.map (·.mapError fun f => .dispatch f.message)) ⟨now, ⟨{ v' with waits := false }, box', k'⟩⟩ := by
  have hpend : (boardPanel cell l.errors work).Leads (Act.update cell fun m =>
      { m with pending := some m.dispatches, dispatches := m.dispatches + 1 } : Task γ Unit) ⟨now, ⟨v, box, k⟩⟩ (some ())
      ⟨now, ⟨{ v with waits := true }, box, k⟩⟩ := by
    refine apart.update_machine fun x hx => ?_
    rw [← hx]
    rfl
  have htake : (boardPanel cell l.errors work).Leads
      (Act.update cell fun m => { m with pending := none } : Task γ Unit) ⟨now, ⟨v', box', k'⟩⟩ (some ())
      ⟨now, ⟨{ v' with waits := false }, box', k'⟩⟩ := by
    refine apart.update_machine fun x hx => ?_
    rw [← hx]
    rfl
  have hstart := start.lift (ε := ServiceError)
  unfold dispatch dispatchNext
  refine Leads.bind (m := Task γ) (Returns.lift hpend) ?_
  cases r with
  | none =>
    -- the dispatcher waits for good, and the slot is empty by then
    rw [← taken rfl]
    exact Leads.bind_none (m := Task γ) hstart
  | some r =>
    refine Leads.bind (m := Task γ) hstart (Leads.bind (m := Task γ) (Returns.lift htake) ?_)
    cases r with
    | ok _ => exact Returns.pure (m := Task γ) ()
    | error f => exact Returns.throw (m := Task γ) _

variable (speakable : Speakable l.name) (grants : (nextReply v.registering).1.Grants)
include enacts speakable grants

theorem startDispatcher_leads {name : String} (named : Speakable name) (called : 0 < v.mainCalls.getD v.usualCalls) :
    let course := conduct.course now k v.signals
    (boardPanel cell l.errors work).Leads (startDispatcher cell name fun _ => l).run
      ⟨now, ⟨{ v with waits := true }, box, k⟩⟩
      (course.exit.map fun _ => (replied (nextReply v.dispatching).1).map fun _ => ())
      ⟨now, v.begun.ran course box⟩ := by
  intro course
  have hentry : (boardPanel cell l.errors work).Leads (entryPoint cell fun _ => l)
      ⟨now, ⟨{ v with waits := true, dispatching := (nextReply v.dispatching).2 }, box, k⟩⟩ (course.exit.map fun _ => ())
      ⟨now, v.begun.ran course box⟩ :=
    entryPoint_leads (v := { v with dispatching := (nextReply v.dispatching).2 }) apart enacts now box k speakable
      grants
  have hcalls : (boardPanel cell l.errors work).Leads
      (callEntryPoint cell (fun _ => l) (v.mainCalls.getD v.usualCalls))
      ⟨now, ⟨{ v with waits := true, dispatching := (nextReply v.dispatching).2 }, box, k⟩⟩ (course.exit.map fun _ => ())
      ⟨now, v.begun.ran course box⟩ := by
    obtain ⟨n, hn⟩ := Nat.exists_eq_succ_of_ne_zero (Nat.ne_of_gt called)
    rw [hn]
    cases hexit : course.exit with
    | none =>
      rw [hexit] at hentry
      exact hentry.bind_none
    | some exit =>
      rw [hexit] at hentry
      exact hentry.bind (callEntryPoint_idle _ _ _ n (Board.toldAll_waits _ _))
  have hstart := startDispatcher_calls apart now box k named hcalls
  rwa [Option.map_map] at hstart

/-- **A loop that Windows calls for runs its course**, with the signals of the controls that are sent.  The dispatch
returns if the loop ends. -/
theorem dispatch_course {name : String} (named : Speakable name) (called : 0 < v.mainCalls.getD v.usualCalls) :
    let course := conduct.course now k v.signals
    (boardPanel cell l.errors work).Leads (dispatch cell name l).run ⟨now, ⟨v, box, k⟩⟩
      (course.exit.map fun _ =>
        ((replied (nextReply v.dispatching).1).map fun _ => ()).mapError fun f => .dispatch f.message)
      ⟨now, v.begun.ran course box⟩ := by
  intro course
  have hstart := startDispatcher_leads apart enacts now box k speakable grants named called
  -- the slot is empty by then, so that nothing is taken out
  have waits : (v.begun.toldAll course.reports).waits = false := Board.toldAll_waits course.reports v.begun
  have hdispatch := dispatch_starts apart now box k hstart fun _ => waits
  rwa [Option.map_map, ← waits] at hdispatch

end Dispatch

/-! ## Asking for the state -/

theorem invoke_quiet {P : Sight (Seen Board κ) → Prop} (apart : Separate cell errors work) {f : Function} {c : Call}
    (registers : f ≠ .registerHandler) (dispatches : f ≠ .startDispatcher) (record : c.record? = none)
    (answer : c.answer? = none) :
    (boardPanel cell errors work).Ensures P (invoke cell f c) fun _ => P := by
  refine apart.takeFrom_unseen fun m => ?_
  rw [board_call]
  unfold Board.call
  rw [if_neg registers, if_neg dispatches, record, answer]
  rfl

theorem acquire_quiet {P : Sight (Seen Board κ) → Prop} (apart : Separate cell errors work) {f : Function} {c : Call}
    (h : (boardPanel cell errors work).Ensures P (invoke cell f c) fun _ => P) :
    (boardPanel cell errors work).Yields P (acquire cell f c) fun _ => P := by
  unfold acquire
  refine (request_yields h).bind (fun reply => ?_) fun _ _ hσ => hσ
  refine (Yields.lift (apart.takeFrom_unseen fun _ => rfl)).bind_ok fun handle => ?_
  exact .pure fun _ hσ => hσ

/-- Asking for the state of a service has nothing to do with a dispatch. -/
theorem status_quiet {P : Sight (Seen Board κ) → Prop} (apart : Separate cell errors work) (config : ServiceConfig) :
    (boardPanel cell errors work).Ensures P ((gateway cell).status config) fun _ => P := by
  have hinvoke {f : Function} {c : Call} := invoke_quiet (P := P) (f := f) (c := c) apart
  have hclose (handle : Handle) :
      (boardPanel cell errors work).Ensures P (closeHandle cell handle) fun _ => P :=
    (hinvoke (by decide) (by decide) rfl rfl).bind fun _ => apart.update_unseen fun _ => rfl
  have hacquire {f : Function} {c : Call}
      (h : (boardPanel cell errors work).Ensures P (invoke cell f c) fun _ => P) :
      (boardPanel cell errors work).Yields P (do return (← acquire cell f c).1) fun _ => P :=
    (acquire_quiet apart h).bind (fun _ => .pure fun _ hσ => hσ) fun _ _ hσ => hσ
  have hstatus (state pid : Nat) : (boardPanel cell errors work).Yields P
      (liftM (readStatus state pid) : Sys γ ServiceStatus) fun _ => P :=
    (Yields.result _).weaken fun _ _ h => h.2
  refine Gateway.status_quiet ?_ (fun session name => ?_) (fun entry => ?_) hclose hclose
  · exact (hacquire (hinvoke (by decide) (by decide) rfl rfl)).adapt _
  · refine Yields.adapt _ ((Yields.result _).bind (fun checked => ?_) fun _ _ hσ => hσ.2)
    exact Ensures.strengthen (m := Act γ) (hacquire (hinvoke (by decide) (by decide) rfl rfl)) fun _ h => h.2
  · have hrequest := request_yields (hinvoke (f := .queryStatus) (c := .queryStatus entry) (by decide) (by decide) rfl rfl)
    refine Yields.adapt _ (hrequest.bind (fun reply => ?_) fun _ _ h => h)
    cases reply with
    | status state pid => exact hstatus state pid
    | _ => exact hstatus 1 0

end ServiceControl.Windows
