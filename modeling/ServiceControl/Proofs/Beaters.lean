import ServiceControl.Workload.Heartbeat
import Mathlib.Data.Nat.Basic
/-!
# Beaters

What comes of the turns of a beater, whatever it looks at first.  As long as nobody gives it the word it beats whenever it
is due, and so it does while the clock moves (`settle_passed`); once it has been given the word it ends, maybe after a
beat that was due, and no word is left (`settle_told`).  Heartbeats beside one another go on as each does alone
(`getElem?_passAll`).
-/
namespace ServiceControl.Workload

/-! ## The word -/

namespace Notify

variable {n : Notify} {id : Nat}

/-- The word has not come, and nobody but this task waits for it. -/
def Silent (n : Notify) (id : Nat) : Prop := n = {} ∨ n = { waiting := [id] }

/-- The word is there for this task, and nobody waits. -/
def Given (n : Notify) (id : Nat) : Prop := n = { permit := true } ∨ n = { told := [id] }

theorem Silent.ask (silent : n.Silent id) : n.ask id = (false, { waiting := [id] }) := by
  rcases silent with rfl | rfl <;> simp [Notify.ask]

theorem Silent.leave (silent : n.Silent id) : n.leave id = {} := by
  rcases silent with rfl | rfl <;> simp [Notify.leave]

theorem Given.ask (given : n.Given id) : n.ask id = (true, {}) := by
  rcases given with rfl | rfl <;> simp [Notify.ask]

/-- **A word that was not taken is kept.** -/
theorem Given.leave (given : n.Given id) : n.leave id = { permit := true } := by
  rcases given with rfl | rfl <;> simp [Notify.leave, notifyOne]

end Notify

namespace Heartbeat

variable {h : Heartbeat} {b : Beater} {now due interval : Nat} {positive : 0 < interval}

/-! ## A look -/

section Pick

variable {n : Notify} {id : Nat}

/-- While the word has not come a beat is made if it is due. -/
theorem pick_silent (silent : n.Silent id) (first : Arm) (due : Bool) : ∃ n', n'.Silent id ∧
    (due = true → pick first due id n = (.beats, n')) ∧
    (due = false → pick first due id n = (.waits, { waiting := [id] })) := by
  cases first with
  | beat => exact ⟨n, silent, fun reached => by simp [pick, reached], fun ahead => by simp [pick, ahead, silent.ask]⟩
  | word =>
    exact ⟨_, .inr rfl, fun reached => by simp [pick, reached, silent.ask], fun ahead => by simp [pick, ahead, silent.ask]⟩

/-- Once the word is there a beat that is due may still come first. -/
theorem pick_given (given : n.Given id) (first : Arm) (due : Bool) :
    pick first due id n = (.ends, {}) ∨ due = true ∧ pick first due id n = (.beats, n) := by
  unfold pick
  split
  · rename_i both
    exact .inr ⟨both.2, rfl⟩
  · rw [given.ask]
    exact .inl rfl

end Pick

theorem look_silent (silent : h.shutdown.Silent b.id) (now due : Nat) : ∃ shutdown, shutdown.Silent b.id ∧
    (due ≤ now → h.look now due b.id = (.beats, { h with shutdown, arms := h.arms.tail })) ∧
    (now < due → h.look now due b.id = (.waits, { h with shutdown := { waiting := [b.id] }, arms := h.arms.tail })) := by
  obtain ⟨shutdown, silent', beats, waits⟩ := pick_silent silent (h.arms.headD .beat) (due ≤ now)
  refine ⟨shutdown, silent', fun reached => ?_, fun ahead => ?_⟩
  · rw [look, beats (decide_eq_true reached)]
  · rw [look, waits (decide_eq_false (Nat.not_le.2 ahead))]

theorem look_given (given : h.shutdown.Given b.id) (now due : Nat) :
    h.look now due b.id = (.ends, { h with shutdown := {}, arms := h.arms.tail }) ∨
      due ≤ now ∧ h.look now due b.id = (.beats, { h with arms := h.arms.tail }) := by
  rcases pick_given given (h.arms.headD .beat) (due ≤ now) with ends | ⟨reached, beats⟩
  · exact .inl (by rw [look, ends])
  · exact .inr ⟨of_decide_eq_true reached, by rw [look, beats]⟩

/-! ## The loop -/

section Loop

variable {h' : Heartbeat}

theorem loop_ends (looked : h.look now due b.id = (.ends, h')) : loop now interval positive b due h = (h', []) := by
  rw [loop]
  split <;> simp_all

theorem loop_waits (looked : h.look now due b.id = (.waits, h')) : loop now interval positive b due h =
    ({ h' with beaters := h'.beaters ++ [{ b with due := some due }] }, []) := by
  rw [loop]
  split <;> simp_all

theorem loop_beats (looked : h.look now due b.id = (.beats, h')) :
    (loop now interval positive b due h).1 = (loop now interval positive b (due + interval) (h'.beat b).1).1 := by
  rw [loop]
  split <;> simp_all

end Loop

/-- **As long as the word has not come a beater makes each beat that is due**, and then waits. -/
theorem loop_silent (silent : h.shutdown.Silent b.id) : ∃ k arms,
    (loop now interval positive b due h).1 = { h with
      beats := h.beats + k
      beaters := h.beaters ++ [{ b with due := some (due + k * interval) }]
      shutdown := { waiting := [b.id] }
      arms } ∧
    now < due + k * interval ∧ ∀ j < k, due + j * interval ≤ now := by
  -- each beat brings the next due instant closer to one that is still ahead
  generalize hn : now + 1 - due = n
  induction n using Nat.strongRecOn generalizing due h with
  | ind n ih =>
    obtain ⟨shutdown, silent', beats, waits⟩ := look_silent silent now due
    rcases Nat.lt_or_ge now due with ahead | reached
    · refine ⟨0, h.arms.tail, ?_, by omega, nofun⟩
      rw [loop_waits (waits ahead)]
      simp
    · obtain ⟨k, arms, looped, later, before⟩ := ih (now + 1 - (due + interval)) (by omega)
        (h := (Heartbeat.beat b { h with shutdown, arms := h.arms.tail }).1) (.inl silent'.leave) rfl
      refine ⟨k + 1, arms, ?_, by rw [Nat.succ_mul]; omega, fun j hj => ?_⟩
      · rw [loop_beats (beats reached), looped, Nat.succ_mul]
        simp [beat, Nat.add_assoc, Nat.add_comm 1, Nat.add_comm interval]
      · cases j with
        | zero => simpa using reached
        | succ j =>
          have := before j (Nat.lt_of_succ_lt_succ hj)
          rw [Nat.succ_mul]
          omega

/-- **Once the word is there a beater ends**, after such beats as were due and came first; the word is gone then. -/
theorem loop_given (given : h.shutdown.Given b.id) (positive : 0 < interval) (now due : Nat) : ∃ k arms,
    (loop now interval positive b due h).1 = { h with beats := h.beats + k, shutdown := {}, arms } ∧
    ∀ j < k, due + j * interval ≤ now := by
  generalize hn : now + 1 - due = n
  induction n using Nat.strongRecOn generalizing due h with
  | ind n ih =>
    rcases look_given given now due with ends | ⟨reached, beats⟩
    · exact ⟨0, h.arms.tail, by rw [loop_ends ends]; rfl, nofun⟩
    · obtain ⟨k, arms, looped, before⟩ := ih (now + 1 - (due + interval)) (by omega)
        (h := (Heartbeat.beat b { h with arms := h.arms.tail }).1) (.inl given.leave) (due + interval) rfl
      refine ⟨k + 1, arms, ?_, fun j hj => ?_⟩
      · rw [loop_beats beats, looped]
        simp [beat, Nat.add_assoc, Nat.add_comm 1]
      · cases j with
        | zero => simpa using reached
        | succ j =>
          have := before j (Nat.lt_of_succ_lt_succ hj)
          rw [Nat.succ_mul]
          omega

/-! ## One beater at an instant -/

theorem round_nil (nobody : h.beaters = []) (now : Nat) : h.round now = (h, []) := by
  obtain ⟨_, _, _, _, beaters, _, _, _, _⟩ := h
  obtain rfl : beaters = [] := nobody
  rfl

theorem settle_nil (nobody : h.beaters = []) (now : Nat) : h.settle now = (h, []) := by
  unfold settle
  rw [round_nil nobody]
  simp only [round_nil nobody, List.append_nil]

theorem round_single (one : h.beaters = [b]) (now : Nat) : (h.round now).1 =
    if h.isReady now b then ({ h with beaters := [] }.turn now b).1 else h := by
  unfold round
  rw [one, List.foldl_cons, List.foldl_nil]
  show (if h.isReady now b then _ else _ : Heartbeat × Journal).1 = _
  split
  · rfl
  · obtain ⟨_, _, _, _, beaters, _, _, _, _⟩ := h
    obtain rfl : beaters = [b] := one
    rfl

/-- A beater that waits for the word does so under its number. -/
def waitingFor (b : Beater) : Notify := { waiting := if b.due.isSome then [b.id] else [] }

theorem waitingFor_silent (b : Beater) : (waitingFor b).Silent b.id := by
  unfold waitingFor
  split
  · exact .inr rfl
  · exact .inl rfl

/-- The beat of a beater that has not begun is due an interval after it does. -/
def firstDue (h : Heartbeat) (now : Nat) (b : Beater) : Nat := b.due.getD (now + h.interval)

/-- **A beater that was given no word has made each beat that was due** once all is done at an instant. -/
theorem settle_silent (one : h.beaters = [b]) (silent : h.shutdown = waitingFor b) (positive : 0 < h.interval)
    (now : Nat) : ∃ k arms, (h.settle now).1 = { h with
      beats := h.beats + k
      beaters := [{ b with due := some (h.firstDue now b + k * h.interval) }]
      shutdown := { waiting := [b.id] }
      arms } ∧
    now < h.firstDue now b + k * h.interval ∧ ∀ j < k, h.firstDue now b + j * h.interval ≤ now := by
  have hround : ∃ k arms, (h.round now).1 = { h with
      beats := h.beats + k
      beaters := [{ b with due := some (h.firstDue now b + k * h.interval) }]
      shutdown := { waiting := [b.id] }
      arms } ∧
      now < h.firstDue now b + k * h.interval ∧ ∀ j < k, h.firstDue now b + j * h.interval ≤ now := by
    rw [round_single one]
    split
    · unfold turn
      rw [dif_pos positive]
      exact loop_silent (h := { h with beaters := [] }) (silent ▸ waitingFor_silent b)
    · rename_i waits
      obtain ⟨_, beats, _, _, beaters, shutdown, _, arms, _⟩ := h
      obtain rfl : beaters = [b] := one
      obtain rfl : shutdown = waitingFor b := silent
      obtain ⟨id, name, due⟩ := b
      cases due with
      | none => exact absurd rfl waits
      | some due =>
        have ahead : now < due := by simpa [isReady, waitingFor] using waits
        exact ⟨0, arms, by simp [firstDue, waitingFor], by simpa [firstDue] using ahead, nofun⟩
  obtain ⟨k, arms, first, ahead, before⟩ := hround
  refine ⟨k, arms, ?_, ahead, before⟩
  -- in the second round nobody has anything to do
  show ((h.round now).1.round now).1 = _
  rw [round_single (h := (h.round now).1) (b := { b with due := some (h.firstDue now b + k * h.interval) })
    (by rw [first]), first]
  refine if_neg ?_
  simpa [isReady] using ahead

/-- At the instant at which a beat is due it is made, and no second one. -/
theorem settle_due (one : h.beaters = [{ b with due := some due }]) (silent : h.shutdown = { waiting := [b.id] })
    (positive : 0 < h.interval) : ∃ arms, (h.settle due).1 =
      { h with beats := h.beats + 1, beaters := [{ b with due := some (due + h.interval) }], arms } := by
  obtain ⟨k, arms, settled, ahead, before⟩ := settle_silent (b := { b with due := some due }) one silent positive due
  have first : h.firstDue due { b with due := some due } = due := rfl
  rw [first] at settled ahead before
  obtain rfl : k = 1 := by
    rcases Nat.lt_trichotomy k 1 with none | one | more
    · obtain rfl : k = 0 := Nat.lt_one_iff.1 none
      omega
    · exact one
    · have := before 1 more
      omega
  refine ⟨arms, ?_⟩
  rw [settled, silent, Nat.one_mul]

/-- **A beater that was given the word ends**, after such beats as were due and came first, and no word is left. -/
theorem settle_told (one : h.beaters = [b]) (silent : h.shutdown = waitingFor b) (positive : 0 < h.interval) (now : Nat) :
    ∃ k arms, ({ h with shutdown := h.shutdown.notifyOne }.settle now).1 =
      { h with beats := h.beats + k, beaters := [], shutdown := {}, arms } ∧
    ∀ j < k, h.firstDue now b + j * h.interval ≤ now := by
  let told : Heartbeat := { h with shutdown := h.shutdown.notifyOne }
  have given : told.shutdown.Given b.id := by
    show (h.shutdown.notifyOne).Given b.id
    rw [silent, waitingFor]
    split
    · exact .inr rfl
    · exact .inl rfl
  have ready : told.isReady now b = true := by
    show (b.due.all (· ≤ now) || b.id ∈ h.shutdown.notifyOne.told) = true
    rw [silent, waitingFor]
    cases b.due with
    | none => rfl
    | some due => simp [Notify.notifyOne]
  obtain ⟨k, arms, ends, before⟩ := loop_given (h := { told with beaters := [] }) given positive now (h.firstDue now b)
  have first : (told.round now).1 = { h with beats := h.beats + k, beaters := [], shutdown := {}, arms } := by
    rw [round_single (h := told) one, if_pos ready, turn, dif_pos positive]
    exact ends
  refine ⟨k, arms, ?_, before⟩
  show ((told.round now).1.round now).1 = _
  rw [round_nil (by rw [first]), first]

/-- One without an interval dies at its first turn. -/
theorem settle_dead (one : h.beaters = [b]) (unbegun : b.due = none) (none : h.interval = 0) (now : Nat) :
    (h.settle now).1 = { h with beaters := [] } := by
  have first : (h.round now).1 = { h with beaters := [] } := by
    have ready : h.isReady now b = true := by simp [isReady, unbegun]
    rw [round_single one, if_pos ready, turn, dif_neg (by simp [none])]
  show ((h.round now).1.round now).1 = _
  rw [round_nil (by rw [first]), first]

/-! ## One beater while the clock moves -/

/-- A heartbeat after the clock has gone from one instant to another. -/
def passed (since later : Nat) (h : Heartbeat) : Heartbeat :=
  match _next : h.nextDue? since later with
  | none => h
  | some t => passed t later (h.settle t).1
termination_by later - since
decreasing_by
  have between : since < t ∧ t ≤ later := of_nextDue? _next
  omega

theorem passed_none {since later : Nat} (next : h.nextDue? since later = none) : h.passed since later = h := by
  rw [passed]
  split <;> simp_all

theorem passed_some {since later t : Nat} (next : h.nextDue? since later = some t) :
    h.passed since later = (h.settle t).1.passed t later := by
  rw [passed]
  split <;> simp_all

theorem passed_nil (nobody : h.beaters = []) (since later : Nat) : h.passed since later = h :=
  passed_none (by simp [nextDue?, nobody])

/-- **While the clock moves a beater makes each beat that is due**, but for one that is due at the end and late. -/
theorem passed_single {since : Nat} (one : h.beaters = [{ b with due := some due }])
    (silent : h.shutdown = { waiting := [b.id] }) (positive : 0 < h.interval) (ahead : since < due) (later : Nat) :
    ∃ k arms,
    h.passed since later = { h with
      beats := h.beats + k, beaters := [{ b with due := some (due + k * h.interval) }], arms } ∧
    later ≤ due + k * h.interval ∧ (due + k * h.interval = later → later ∈ h.late) ∧
    ∀ j < k, due + j * h.interval ≤ later := by
  generalize hn : later - since = n
  induction n using Nat.strongRecOn generalizing since due h with
  | ind n ih =>
    have next : h.nextDue? since later = if h.isServed later due then some due else none := by
      unfold nextDue?
      rw [one]
      cases served : h.isServed later due <;> simp [ahead, served]
    cases served : h.isServed later due with
    | false =>
      have last : ¬ due < later ∧ (due = later → due ∈ h.late) := by
        simpa [isServed, Classical.or_iff_not_imp_left] using served
      refine ⟨0, h.arms, ?_, by omega, fun same => ?_, fun j hj => absurd hj (Nat.not_lt_zero j)⟩
      · rw [passed_none (next.trans (if_neg (by simp [served])))]
        obtain ⟨_, _, _, _, beaters, _, _, _, _⟩ := h
        obtain rfl : beaters = _ := one
        simp
      · have same : due = later := by simpa using same
        exact same ▸ last.2 same
    | true =>
      have next : h.nextDue? since later = some due := next.trans (if_pos served)
      have reached : due ≤ later := (of_nextDue? next).2
      obtain ⟨arms, settled⟩ := settle_due one silent positive
      have following : due < due + h.interval := Nat.lt_add_of_pos_right positive
      obtain ⟨m, arms', rest, last, late, before⟩ := ih (later - due) (by omega)
        (h := { h with beats := h.beats + 1, beaters := [{ b with due := some (due + h.interval) }], arms })
        rfl silent positive following rfl
      dsimp only at rest last late before
      refine ⟨m + 1, arms', ?_, ?_, ?_, fun j hj => ?_⟩
      · rw [passed_some next, settled, rest]
        simp [Nat.succ_mul, Nat.add_assoc, Nat.add_comm 1, Nat.add_comm h.interval]
      · rw [Nat.succ_mul]
        omega
      · intro same
        exact late (by rw [Nat.succ_mul] at same; omega)
      · cases j with
        | zero => simpa using reached
        | succ j =>
          have := before j (Nat.lt_of_succ_lt_succ hj)
          rw [Nat.succ_mul]
          omega

/-- **A beater that was given no word makes each beat that is due** at an instant and until a later one, but for one that
is due at the end and late. -/
theorem settle_passed (one : h.beaters = [b]) (silent : h.shutdown = waitingFor b) (positive : 0 < h.interval)
    (now later : Nat) : ∃ k arms,
    (h.settle now).1.passed now later = { h with
      beats := h.beats + k
      beaters := [{ b with due := some (h.firstDue now b + k * h.interval) }]
      shutdown := { waiting := [b.id] }
      arms } ∧
    later ≤ h.firstDue now b + k * h.interval ∧ (h.firstDue now b + k * h.interval = later → later ∈ h.late) ∧
    ∀ j < k, h.firstDue now b + j * h.interval ≤ max now later := by
  obtain ⟨k, arms, settled, ahead, first⟩ := settle_silent one silent positive now
  rw [settled]
  generalize h.firstDue now b = due at ahead first ⊢
  obtain ⟨m, arms', passed, last, late, second⟩ := passed_single (b := b)
    (h := { h with
      beats := h.beats + k
      beaters := [{ b with due := some (due + k * h.interval) }]
      shutdown := { waiting := [b.id] }
      arms }) rfl rfl positive ahead later
  dsimp only at passed last late second
  rw [Nat.add_assoc due, ← Nat.add_mul] at passed last late
  refine ⟨k + m, arms', by rw [passed, Nat.add_assoc], last, late, fun j hj => ?_⟩
  rcases Nat.lt_or_ge j k with before | after
  · exact Nat.le_trans (first j before) (Nat.le_max_left _ _)
  · have reached := second (j - k) (by omega)
    rw [Nat.add_assoc, ← Nat.add_mul, Nat.add_sub_cancel' after] at reached
    exact Nat.le_trans reached (Nat.le_max_right _ _)

/-- A stop on the way at which no beat of a heartbeat is due makes no difference to it. -/
theorem passed_from {since t later : Nat} (on : since ≤ t) (ahead : ∀ u ∈ h.nextDue? since later, t < u) :
    h.passed t later = h.passed since later := by
  have same : h.nextDue? t later = h.nextDue? since later := by
    unfold nextDue?
    congr 1
    refine List.filter_congr fun u hu => ?_
    rw [Bool.eq_iff_iff, Bool.and_eq_true, Bool.and_eq_true, decide_eq_true_eq, decide_eq_true_eq]
    refine ⟨fun ⟨after, served⟩ => ⟨Nat.lt_of_le_of_lt on after, served⟩, fun ⟨after, served⟩ => ⟨?_, served⟩⟩
    have mem : u ∈ (h.beaters.filterMap (·.due)).filter fun t => since < t && h.isServed later t :=
      List.mem_filter.2 ⟨hu, by simp [after, served]⟩
    cases next : h.nextDue? since later with
    | none => exact absurd mem (List.min?_eq_none_iff.1 next ▸ List.not_mem_nil)
    | some first => exact Nat.lt_of_lt_of_le (ahead first next) ((List.min?_eq_some_iff.1 next).2 u mem)
  cases next : h.nextDue? since later with
  | none => rw [passed_none next, passed_none (same.trans next)]
  | some first => rw [passed_some next, passed_some (same.trans next)]

end Heartbeat

/-! ## Heartbeats beside one another -/

theorem getElem?_eachOf (f : Heartbeat → Heartbeat × Journal) (hs : List Heartbeat) (i : Nat) :
    (eachOf f hs).1[i]? = hs[i]?.map fun h => (f h).1 := by
  unfold eachOf
  rw [List.getElem?_map, List.getElem?_map, Option.map_map]
  rfl

/-- **Each heartbeat goes on as it does alone**, whatever others there are. -/
theorem getElem?_passAll (hs : List Heartbeat) (since later i : Nat) :
    (passAll hs since later).1[i]? = hs[i]?.map (·.passed since later) := by
  generalize hn : later - since = n
  induction n using Nat.strongRecOn generalizing hs since with
  | ind n ih =>
    rw [passAll]
    split
    · rename_i next
      have nobody : ∀ h ∈ hs, h.nextDue? since later = none :=
        List.filterMap_eq_nil_iff.1 (List.min?_eq_none_iff.1 next)
      cases hi : hs[i]? with
      | none => rfl
      | some h => exact congrArg some (Heartbeat.passed_none (nobody h (List.mem_of_getElem? hi))).symm
    · rename_i t next
      obtain ⟨after, on⟩ := of_nextDueOf? next
      refine (ih (later - t) (by omega) _ t rfl).trans ?_
      rw [getElem?_eachOf, Option.map_map]
      cases hi : hs[i]? with
      | none => rfl
      | some h =>
        refine congrArg some ?_
        show Heartbeat.passed t later (ite _ _ _ : Heartbeat × Journal).1 = _
        split
        · rename_i own
          exact (Heartbeat.passed_some own).symm
        · rename_i other
          refine Heartbeat.passed_from (Nat.le_of_lt after) fun u hu => Nat.lt_of_le_of_ne ?_ fun same => other (same ▸ hu)
          exact (List.min?_eq_some_iff.1 next).2 u (List.mem_filterMap.2 ⟨h, List.mem_of_getElem? hi, hu⟩)

theorem length_passAll (hs : List Heartbeat) (since later : Nat) : (passAll hs since later).1.length = hs.length := by
  refine Nat.le_antisymm ?_ ?_
  · refine List.getElem?_eq_none_iff.1 ?_
    rw [getElem?_passAll, List.getElem?_eq_none (Nat.le_refl _), Option.map_none]
  · refine List.getElem?_eq_none_iff.1 (Option.map_eq_none_iff.1 ((getElem?_passAll hs since later _).symm.trans ?_))
    exact List.getElem?_eq_none (Nat.le_refl _)

end ServiceControl.Workload
