import ServiceControl.Proofs.Sight
/-!
# Tasks side by side

A task that has a second one beside it, each with a place of the world that it alone writes to.  The second waits for
instants only, and from some instant on what it has written is what the first listens for (`Fires`).  Main statement: a
wait of the first ends at what comes first of the instant that it waits for and the one at which it hears what it listens
for, and without either it waits for good (`meanwhile_goes`, `meanwhile_stays`).
-/
namespace ServiceControl

variable {γ α β δ ε : Type}

/-! ## Waits -/

namespace Wait

theorem isDue_iff {w : Wait γ} {now : Nat} : w.isDue now = true ↔ ∃ t ∈ w.due, t ≤ now := by
  unfold isDue
  cases w.due <;> simp

theorem sooner_le_iff {a b : Option Nat} {now : Nat} :
    (∃ t ∈ sooner a b, t ≤ now) ↔ (∃ t ∈ a, t ≤ now) ∨ ∃ t ∈ b, t ≤ now := by
  cases a with
  | none => cases b <;> simp [sooner]
  | some s =>
    cases b with
    | none => simp [sooner]
    | some t =>
      simp only [sooner, Option.mem_some_iff, exists_eq_left']
      omega

theorem mem_of_mem_sooner {a b : Option Nat} {t : Nat} (h : t ∈ sooner a b) : t ∈ a ∨ t ∈ b := by
  cases a with
  | none => exact .inr h
  | some s =>
    cases b with
    | none => exact .inl h
    | some u =>
      rw [sooner, Option.mem_some_iff] at h
      rw [Option.mem_some_iff, Option.mem_some_iff]
      omega

theorem isOver_or (v w : Wait γ) (s : Scene γ) : (v.or w).isOver s = (v.isOver s || w.isOver s) := by
  have due : (v.or w).isDue s.now = (v.isDue s.now || w.isDue s.now) := by
    rw [Bool.eq_iff_iff, Bool.or_eq_true, isDue_iff, isDue_iff, isDue_iff]
    exact sooner_le_iff
  unfold isOver
  rw [due]
  show (v.met s.world || w.met s.world || _) = _
  cases v.met s.world <;> cases w.met s.world <;> simp

theorem isOver_till {t : Nat} {s : Scene γ} : (till t).isOver s = true ↔ t ≤ s.now := by
  simp [isOver, isDue, till]

end Wait

namespace Step

variable [Background γ]

/-- To wait for what is over already is to go on. -/
theorem finish_afterWait (w : Wait γ) (k : Scene γ → Step γ α) (s : Scene γ) :
    (afterWait w k s).finish = (wait w s k).finish := by
  unfold afterWait
  by_cases ended : w.isOver s
  · rw [if_pos ended, finish, if_pos ended]
  · rw [if_neg ended]

/-- Beside a task that has ended, a task is run as alone. -/
theorem finish_both_pure (x : Step γ α) (b : ε) : (x.both (pure b)).finish = (x.map (·, b)).finish := by
  cases x with
  | done a s => rfl
  | wait w s k => exact finish_afterWait w (fun s' => (k s').map (·, b)) s

end Step

/-! ## The two sides -/

/-- The place that the first task alone writes to, that of the second, and what the first listens for there. -/
structure Sides (γ β δ : Type) where
  own : Cell γ β
  outside : Cell γ δ
  heard : δ → Bool

namespace Sides

/-- Nothing else touches the two places. -/
structure Still [Background γ] (d : Sides γ β δ) : Prop where
  own : d.own.Still
  outside : d.outside.Still

variable (d : Sides γ β δ) (fires : Option Nat)

/-- What the first task listens for is heard from this instant on. -/
def Told (s : Scene γ) : Prop := d.heard (d.outside.get s.world) = true ↔ ∃ u ∈ fires, u ≤ s.now

/-- **The second task waits for instants only**, leaves the place of the first alone, and at one of these instants brings
about what the first listens for, if at all. -/
def Fires : Step γ ε → Prop
  | .done _ s => d.Told fires s ∧ ∀ u ∈ fires, u ≤ s.now
  | .wait w s k => d.Told fires s ∧ ∃ t, w = .till t ∧ s.now < t ∧ (∀ u ∈ fires, s.now < u → t ≤ u) ∧
      ∀ s', s'.now = t → d.outside.get s'.world = d.outside.get s.world →
        d.own.get (k s').scene.world = d.own.get s'.world ∧ (k s').scene.now = t ∧ Fires (k s')

/-- The second task can have its turn at this instant, with this in its place. -/
structure Ready (second : Task γ ε) (now : Nat) (o : δ) : Prop where
  told : d.heard o = true → ∃ u ∈ fires, u ≤ now
  turn : ∀ s, s.now = now → d.outside.get s.world = o →
    d.own.get (second s).scene.world = d.own.get s.world ∧ (second s).scene.now = now ∧ d.Fires fires (second s)

variable {d : Sides γ β δ} {fires : Option Nat}

theorem Fires.told {e : Step γ ε} (h : d.Fires fires e) : d.Told fires e.scene := by
  cases e with
  | done b s => exact h.1
  | wait w s k => exact h.1

/-- A second task that has ended has had its say. -/
theorem ready_pure {b : ε} {s : Scene γ} (h : d.Fires fires (.done b s)) {now : Nat} (later : s.now ≤ now) :
    d.Ready fires (pure b : Task γ ε) now (d.outside.get s.world) := by
  obtain ⟨told, past⟩ := h
  constructor
  · intro heard
    obtain ⟨u, hu, hle⟩ := told.1 heard
    exact ⟨u, hu, Nat.le_trans hle later⟩
  · rintro s' rfl same
    refine ⟨rfl, rfl, ?_, fun u hu => Nat.le_trans (past u hu) later⟩
    show d.heard (d.outside.get s'.world) = true ↔ _
    rw [same]
    constructor
    · intro heard
      obtain ⟨u, hu, hle⟩ := told.1 heard
      exact ⟨u, hu, Nat.le_trans hle later⟩
    · rintro ⟨u, hu, -⟩
      exact told.2 ⟨u, hu, past u hu⟩

/-- A second task that waits can have another turn until the instant that it waits for has come. -/
theorem ready_afterWait {s : Scene γ} {k : Scene γ → Step γ ε} {t : Nat} (h : d.Fires fires (.wait (.till t) s k))
    {now : Nat} (later : s.now ≤ now) (soon : now ≤ t) :
    d.Ready fires (Step.afterWait (.till t) k) now (d.outside.get s.world) := by
  obtain ⟨told, t', ht, ahead, quiet, turn⟩ := h
  obtain rfl : t = t' := Option.some.inj (congrArg Wait.due ht)
  constructor
  · intro heard
    obtain ⟨u, hu, hle⟩ := told.1 heard
    exact ⟨u, hu, Nat.le_trans hle later⟩
  · rintro s' rfl same
    unfold Step.afterWait
    rcases Nat.lt_or_eq_of_le soon with before | now'
    · rw [if_neg (mt Wait.isOver_till.1 (Nat.not_le_of_lt before))]
      refine ⟨rfl, rfl, ?_, t, rfl, before, fun u hu hlt => quiet u hu (by omega), fun s'' hs'' same' => ?_⟩
      · show d.heard (d.outside.get s'.world) = true ↔ _
        rw [same]
        -- it fires at no instant between two turns
        refine Iff.trans told ⟨?_, ?_⟩
        · rintro ⟨u, hu, hle⟩
          exact ⟨u, hu, by omega⟩
        · rintro ⟨u, hu, hle⟩
          refine ⟨u, hu, ?_⟩
          rcases Nat.lt_or_ge s.now u with hlt | hle'
          · have := quiet u hu hlt
            omega
          · exact hle'
      · exact turn s'' hs'' (same'.trans same)
    · rw [if_pos (Wait.isOver_till.2 (Nat.le_of_eq now'.symm)), now']
      exact turn s' now' same

/-! ## Waits beside a second task -/

/-- The first task waits for an instant or not, and listens or not. -/
structure Awaits (d : Sides γ β δ) (b : β) (w : Wait γ) (listens : Bool) : Prop where
  met : ∀ x, d.own.get x = b → w.met x = (listens && d.heard (d.outside.get x))

section Meanwhile

variable {w : Wait γ} {listens : Bool} {b : β}

/-- When a wait ends: at what comes first of the instant that it waits for and what it listens for. -/
def ends (fires : Option Nat) (w : Wait γ) (listens : Bool) : Option Nat :=
  Wait.sooner w.due (if listens then fires else none)

/-- A wait that is over has come to its end, also if the second task has yet to have its turn. -/
theorem Awaits.come (awaits : d.Awaits b w listens) {s : Scene γ} (mine : d.own.get s.world = b)
    (told : d.heard (d.outside.get s.world) = true → ∃ u ∈ fires, u ≤ s.now) (ended : w.isOver s = true) :
    ∃ t ∈ ends fires w listens, t ≤ s.now := by
  unfold ends
  rw [Wait.sooner_le_iff]
  rcases Bool.or_eq_true_iff.1 ended with met | due
  · rw [awaits.met _ mine] at met
    obtain ⟨rfl, heard⟩ := Bool.and_eq_true_iff.1 met
    exact .inr (told heard)
  · exact .inl (Wait.isDue_iff.1 due)

theorem Awaits.isOver_iff (awaits : d.Awaits b w listens) {s : Scene γ} (mine : d.own.get s.world = b)
    (told : d.Told fires s) : w.isOver s = true ↔ ∃ t ∈ ends fires w listens, t ≤ s.now := by
  unfold Told at told
  unfold Wait.isOver ends
  rw [Bool.or_eq_true, Wait.isDue_iff, Wait.sooner_le_iff, awaits.met _ mine, or_comm, Bool.and_eq_true, told]
  cases listens <;> simp

/-- What ends a wait that is not over is still to come. -/
theorem Awaits.ahead (awaits : d.Awaits b w listens) {s : Scene γ} (mine : d.own.get s.world = b)
    (told : d.Told fires s) (going : w.isOver s = false) {t : Nat} (ht : t ∈ ends fires w listens) : s.now < t := by
  refine Nat.lt_of_not_le fun hle => ?_
  rw [Bool.eq_false_iff, Ne, awaits.isOver_iff mine told] at going
  exact going ⟨t, ht, hle⟩

/-- A wait that is not over ends at its own instant if it hears nothing before that. -/
theorem Awaits.ends_due (awaits : d.Awaits b w listens) {s : Scene γ} (mine : d.own.get s.world = b)
    (told : d.Told fires s) (going : w.isOver s = false)
    (late : ∀ u ∈ fires, s.now < u → ∃ t ∈ w.due, t ≤ u) : ends fires w listens = w.due := by
  have ahead {t : Nat} (ht : t ∈ ends fires w listens) : s.now < t := awaits.ahead mine told going ht
  unfold ends at ahead ⊢
  cases listens with
  | false => cases w.due <;> rfl
  | true =>
    rw [if_pos rfl] at ahead ⊢
    cases fires with
    | none => cases w.due <;> rfl
    | some u =>
      cases hd : w.due with
      | none =>
        rw [hd] at ahead late
        obtain ⟨t, ht, -⟩ := late u rfl (ahead rfl)
        cases ht
      | some t =>
        rw [hd] at ahead late
        have htu : t ≤ u := by
          rcases Nat.lt_or_ge s.now u with hlt | hge
          · obtain ⟨t', ht', hle⟩ := late u rfl hlt
            rwa [Option.some.inj ht']
          · have := ahead (t := min t u) rfl
            omega
        rw [Wait.sooner, Nat.min_eq_left htu]

variable [Background γ] (still : d.Still)
include still

/-- What is in the two places once the clock has moved. -/
theorem Still.passed (s : Scene γ) (later : Nat) :
    d.own.get (s.settle.advance later).world = d.own.get s.world ∧
      d.outside.get (s.settle.advance later).world = d.outside.get s.world := by
  constructor
  · exact (still.own.get_pass _ _ _).trans (still.own.get_settle _ _)
  · exact (still.outside.get_pass _ _ _).trans (still.outside.get_settle _ _)

/-- A wait that is not over is not over once all has been done at the instant. -/
theorem Still.not_over (awaits : d.Awaits b w listens) {s : Scene γ} (mine : d.own.get s.world = b)
    (going : w.isOver s = false) : w.isOver s.settle = false := by
  have mine' : d.own.get s.settle.world = b := (still.own.get_settle _ _).trans mine
  have same : d.outside.get s.settle.world = d.outside.get s.world := still.outside.get_settle _ _
  unfold Wait.isOver at going ⊢
  rwa [awaits.met _ mine', same, ← awaits.met _ mine]

variable {s : Scene γ} {j : Scene γ → Step γ ε} {k : Scene γ → Step γ α}
  {first : Scene γ → Task γ ε → Step γ (α × ε)} {t u : Nat}

/-- The first task goes on before the second has another turn. -/
theorem meanwhile_due (awaits : d.Awaits b w listens) (mine : d.own.get s.world = b) (going : w.isOver s = false)
    (ahead : s.now < u) (due : w.due = some t) (soon : t ≤ u) :
    ((Step.wait (.till u) s j).meanwhile w k first).finish
      = (first (s.settle.advance t) (Step.afterWait (.till u) j)).finish := by
  have quiet : (Wait.till u).isOver s = false := Bool.eq_false_iff.2 (mt Wait.isOver_till.1 (Nat.not_le_of_lt ahead))
  have quiet' : (Wait.till u).isOver s.settle = false := quiet
  have ended : w.isOver (s.settle.advance t) = true := by
    unfold Wait.isOver
    rw [Bool.or_eq_true, Wait.isDue_iff]
    exact .inr ⟨t, due, Nat.le_refl t⟩
  have next : (w.or (.till u)).due = some t := by
    show Wait.sooner w.due (some u) = _
    rw [due, Wait.sooner, Nat.min_eq_left soon]
  rw [Step.meanwhile, going, if_neg Bool.false_ne_true, Step.finish, Wait.isOver_or, Wait.isOver_or, going, quiet,
    still.not_over awaits mine going, quiet']
  simp only [Bool.or_false, Bool.false_eq_true, if_false, next]
  rw [ended, if_pos rfl]

/-- The second task has another turn before the first goes on. -/
theorem meanwhile_turn (awaits : d.Awaits b w listens) (mine : d.own.get s.world = b) (going : w.isOver s = false)
    (ahead : s.now < u) (late : ∀ t ∈ w.due, u < t) :
    ((Step.wait (.till u) s j).meanwhile w k first).finish
      = ((j (s.settle.advance u)).meanwhile w k first).finish := by
  have quiet : (Wait.till u).isOver s = false := Bool.eq_false_iff.2 (mt Wait.isOver_till.1 (Nat.not_le_of_lt ahead))
  have quiet' : (Wait.till u).isOver s.settle = false := quiet
  have going' : w.isOver (s.settle.advance u) = false := by
    obtain ⟨mine', same⟩ := still.passed s u
    have undue : w.isDue u = false := by
      rw [Bool.eq_false_iff, Ne, Wait.isDue_iff]
      rintro ⟨t, ht, hle⟩
      exact Nat.not_le_of_lt (late t ht) hle
    have unmet : w.met s.world = false := (Bool.or_eq_false_iff.1 going).1
    unfold Wait.isOver
    rw [awaits.met _ (mine'.trans mine), same, ← awaits.met _ mine, unmet]
    exact undue
  have next : (w.or (.till u)).due = some u := by
    show Wait.sooner w.due (some u) = _
    cases hd : w.due with
    | none => rfl
    | some t => rw [Wait.sooner, Nat.min_eq_right (Nat.le_of_lt (late t hd))]
  rw [Step.meanwhile, going, if_neg Bool.false_ne_true, Step.finish, Wait.isOver_or, Wait.isOver_or, going, quiet,
    still.not_over awaits mine going, quiet']
  simp only [Bool.or_false, Bool.false_eq_true, if_false, next]
  rw [going', if_neg Bool.false_ne_true]

/-- **A wait beside a second task ends at what comes first**, and then the first task goes on with the second at hand. -/
theorem meanwhile_goes (awaits : d.Awaits b w listens) (ht : ends fires w listens = some t) {e : Step γ ε}
    (he : d.Fires fires e) (mine : d.own.get e.scene.world = b) :
    ∃ (s : Scene γ) (second : Task γ ε), s.now = max e.scene.now t ∧ d.own.get s.world = b ∧
      d.Ready fires second s.now (d.outside.get s.world) ∧
      ∀ {α : Type} (k : Scene γ → Step γ α) (first : Scene γ → Task γ ε → Step γ (α × ε)),
        (∀ s c, (first s (pure c)).finish = ((k s).map (·, c)).finish) →
          (e.meanwhile w k first).finish = (first s second).finish := by
  have among : t ∈ ends fires w listens := ht
  induction e with
  | done c s =>
    have mine : d.own.get s.world = b := mine
    cases going : w.isOver s with
    | true =>
      obtain ⟨t', ht', hle⟩ := (awaits.isOver_iff mine he.told).1 going
      obtain rfl := Option.mem_unique among ht'
      refine ⟨s, pure c, (Nat.max_eq_left hle).symm, mine, ready_pure he (Nat.le_refl _), fun k first alone => ?_⟩
      rw [Step.meanwhile, Step.finish_afterWait, Step.finish, if_pos going, alone]
    | false =>
      have ahead : s.now < t := awaits.ahead mine he.told going among
      have due : w.due = some t := by
        rw [← ht, awaits.ends_due mine he.told going]
        intro u hu hlt
        exact absurd (he.2 u hu) (Nat.not_le_of_lt hlt)
      obtain ⟨mine', same⟩ := still.passed s t
      have ready := ready_pure he (Nat.le_of_lt ahead)
      rw [← same] at ready
      refine ⟨s.settle.advance t, pure c, (Nat.max_eq_right (Nat.le_of_lt ahead)).symm, mine'.trans mine, ready,
        fun k first alone => ?_⟩
      rw [Step.meanwhile, Step.finish_afterWait, Step.finish, going, still.not_over awaits mine going, alone]
      simp only [Bool.false_eq_true, if_false, due]
  | wait v s j ih =>
    have mine : d.own.get s.world = b := mine
    obtain ⟨told, u, rfl, hu, quiet, turn⟩ := id he
    cases going : w.isOver s with
    | true =>
      obtain ⟨t', ht', hle⟩ := (awaits.isOver_iff mine told).1 going
      obtain rfl := Option.mem_unique among ht'
      have ready := ready_afterWait he (Nat.le_refl _) (Nat.le_of_lt hu)
      refine ⟨s, _, (Nat.max_eq_left hle).symm, mine, ready, fun k first alone => ?_⟩
      rw [Step.meanwhile, if_pos going]
    | false =>
      have ahead : s.now < t := awaits.ahead mine told going among
      by_cases first : ∃ t' ∈ w.due, t' ≤ u
      · obtain ⟨t', ht', hle⟩ := first
        have due : ends fires w listens = w.due :=
          awaits.ends_due mine told going fun u' hu' hlt => ⟨t', ht', Nat.le_trans hle (quiet u' hu' hlt)⟩
        obtain rfl := Option.mem_unique (due ▸ among) ht'
        obtain ⟨mine', same⟩ := still.passed s t
        have ready := ready_afterWait he (Nat.le_of_lt ahead) hle
        rw [← same] at ready
        refine ⟨s.settle.advance t, _, (Nat.max_eq_right (Nat.le_of_lt ahead)).symm, mine'.trans mine, ready,
          fun k first alone => ?_⟩
        exact meanwhile_due still awaits mine going hu ht' hle
      · have late (t' : Nat) (ht' : t' ∈ w.due) : u < t' := Nat.lt_of_not_le fun hle => first ⟨t', ht', hle⟩
        have after : u ≤ t := by
          rcases Wait.mem_of_mem_sooner among with ht' | ht'
          · exact Nat.le_of_lt (late t ht')
          · cases listens with
            | false => cases ht'
            | true => exact quiet t ht' ahead
        obtain ⟨mine', same⟩ := still.passed s u
        obtain ⟨kept, now, he'⟩ := turn (s.settle.advance u) rfl same
        obtain ⟨s', second, hnow, hs', ready, goes⟩ := ih _ he' (kept.trans (mine'.trans mine))
        have later : max (j (s.settle.advance u)).scene.now t = max s.now t := by
          rw [now]
          omega
        refine ⟨s', second, hnow.trans later, hs', ready, fun k first alone => ?_⟩
        rw [← goes k first alone]
        exact meanwhile_turn still awaits mine going hu late

/-- **A wait that nothing ends is for good**, whatever the second task does. -/
theorem meanwhile_stays (awaits : d.Awaits b w listens) (none : ends fires w listens = none) {e : Step γ ε}
    (he : d.Fires fires e) (mine : d.own.get e.scene.world = b) :
    ∃ s : Scene γ, d.own.get s.world = b ∧
      ∀ {α : Type} (k : Scene γ → Step γ α) (first : Scene γ → Task γ ε → Step γ (α × ε)),
        (e.meanwhile w k first).finish = (.none, s) := by
  have going {s : Scene γ} (mine : d.own.get s.world = b) (told : d.Told fires s) : w.isOver s = false := by
    rw [Bool.eq_false_iff, Ne, awaits.isOver_iff mine told, none]
    rintro ⟨t, ht, -⟩
    cases ht
  have undue : w.due = .none := by
    unfold ends at none
    revert none
    cases w.due <;> cases (if listens then fires else .none) <;> simp [Wait.sooner]
  induction e with
  | done c s =>
    have mine : d.own.get s.world = b := mine
    have hgoing := going mine he.told
    refine ⟨s.settle, (still.own.get_settle _ _).trans mine, fun k first => ?_⟩
    rw [Step.meanwhile, Step.finish_afterWait, Step.finish, hgoing, still.not_over awaits mine hgoing]
    simp only [Bool.false_eq_true, if_false, undue]
  | wait v s j ih =>
    have mine : d.own.get s.world = b := mine
    obtain ⟨told, u, rfl, hu, -, turn⟩ := he
    obtain ⟨mine', same⟩ := still.passed s u
    obtain ⟨kept, -, he'⟩ := turn (s.settle.advance u) rfl same
    obtain ⟨s', hs', stays⟩ := ih _ he' (kept.trans (mine'.trans mine))
    refine ⟨s', hs', fun k first => ?_⟩
    rw [← stays k first]
    refine meanwhile_turn still awaits mine (going mine told) hu ?_
    rw [undue]
    intro t ht
    cases ht

/-- Left alone the second task comes to its end. -/
theorem Fires.finishes {e : Step γ ε} (he : d.Fires fires e) :
    ∃ c s, e.finish = (some c, s) ∧ d.own.get s.world = d.own.get e.scene.world := by
  induction e with
  | done c s => exact ⟨c, s, rfl, rfl⟩
  | wait v s j ih =>
    obtain ⟨-, u, rfl, hu, -, turn⟩ := he
    obtain ⟨mine', same⟩ := still.passed s u
    obtain ⟨kept, -, he'⟩ := turn (s.settle.advance u) rfl same
    obtain ⟨c, s', done, mine⟩ := ih _ he'
    have ahead (s' : Scene γ) (now : s'.now = s.now) : ¬ (Wait.till u).isOver s' = true :=
      mt Wait.isOver_till.1 (by omega)
    refine ⟨c, s', ?_, mine.trans (kept.trans mine')⟩
    rw [← done, Step.finish, if_neg (ahead s rfl), if_neg (ahead s.settle rfl)]
    rfl

end Meanwhile

end Sides

end ServiceControl
