import ServiceControl.Proofs.Beside
import ServiceControl.Proofs.Promises
/-!
# Runs beside a second task

What the first of two tasks comes to, told part by part.  A part `Passes` if the task comes through it with the second
still at hand, and `Stays` if it waits there for good; one that waits for instants of its own is told by how long it lasts.
The rules follow a task as those of `Ensures` do.  Main statement: if the first task passes, both come to their ends
(`Passes.finishes`).
-/
namespace ServiceControl.Sides

variable {γ α β δ ε ζ η : Type} {d : Sides γ β δ} {fires : Option Nat}

/-! ## Tasks that take their time -/

/-- From here on the task ends at this instant, whatever goes on beside it: it waits for instants, and leaves the place of
the second task alone. -/
def Lasts (d : Sides γ β δ) (finish : Nat) (Q : α → β → Prop) : Step γ α → Prop
  | .done a s => s.now = finish ∧ Q a (d.own.get s.world)
  | .wait w s k => ∃ t, w.due = some t ∧ s.now < t ∧ d.Awaits (d.own.get s.world) w false ∧
      ∀ s', s'.now = t → d.own.get s'.world = d.own.get s.world →
        d.outside.get (k s').scene.world = d.outside.get s'.world ∧ (k s').scene.now = t ∧ Lasts d finish Q (k s')

/-- A task that lasts this long, begun where `P` holds of its place, and leaves `Q` to hold. -/
def Lasting (d : Sides γ β δ) (ms : Nat) (P : β → Prop) (x : Task γ α) (Q : α → β → Prop) : Prop :=
  ∀ s, P (d.own.get s.world) →
    d.outside.get (x s).scene.world = d.outside.get s.world ∧ (x s).scene.now = s.now ∧
      d.Lasts (s.now + ms) Q (x s)

section Lasting

variable {P : β → Prop} {x : Task γ α}

theorem Lasting.pure (a : α) : d.Lasting 0 P (Pure.pure a : Task γ α) fun r b => r = a ∧ P b :=
  fun _ hs => ⟨rfl, rfl, rfl, rfl, hs⟩

theorem Lasting.act {a : Act γ α} {Q : α → β → Prop}
    (h : ∀ s, P (d.own.get s.world) → Q (a.run s).1 (d.own.get (a.run s).2.world) ∧ (a.run s).2.now = s.now ∧
      d.outside.get (a.run s).2.world = d.outside.get s.world) : d.Lasting 0 P (liftM a : Task γ α) Q := by
  intro s hs
  obtain ⟨hQ, now, same⟩ := h s hs
  exact ⟨same, now, now, hQ⟩

theorem Lasting.sleep (ms : Nat) : d.Lasting ms P (Task.sleep ms) fun _ => P := by
  intro s hs
  unfold Task.sleep Task.sleepUntil Task.await Step.afterWait
  by_cases ended : s.now + ms ≤ s.now
  · rw [if_pos (Wait.isOver_till.2 ended)]
    exact ⟨rfl, rfl, by omega, hs⟩
  · rw [if_neg (mt Wait.isOver_till.1 ended)]
    refine ⟨rfl, rfl, s.now + ms, rfl, Nat.lt_of_not_le ended, ⟨fun _ _ => rfl⟩, fun s' now mine => ?_⟩
    exact ⟨rfl, now, now, mine ▸ hs⟩

/-- What is done after a task that lasts is done at its end. -/
theorem Lasts.bind {f : α → Task γ η} {R : α → β → Prop} {Q : η → β → Prop} {ms finish : Nat} {x : Step γ α}
    (hx : d.Lasts finish R x) (hf : ∀ a, d.Lasting ms (R a) (f a) Q) :
    d.outside.get (x.bind f).scene.world = d.outside.get x.scene.world ∧ (x.bind f).scene.now = x.scene.now ∧
      d.Lasts (finish + ms) Q (x.bind f) := by
  induction x with
  | done a s =>
    obtain ⟨rfl, hR⟩ := hx
    exact hf a s hR
  | wait w s k ih =>
    obtain ⟨t, due, ahead, awaits, goes⟩ := hx
    refine ⟨rfl, rfl, t, due, ahead, awaits, fun s' hs' mine => ?_⟩
    obtain ⟨same, now, hk⟩ := goes s' hs' mine
    obtain ⟨same', now', hbind⟩ := ih s' hk
    exact ⟨same'.trans same, now'.trans now, hbind⟩

/-- One task after another lasts as long as the two. -/
theorem Lasting.bind {f : α → Task γ η} {R : α → β → Prop} {Q : η → β → Prop} {m n : Nat} (hx : d.Lasting m P x R)
    (hf : ∀ a, d.Lasting n (R a) (f a) Q) : d.Lasting (m + n) P (x >>= f) Q := by
  intro s hs
  obtain ⟨same, now, lasts⟩ := hx s hs
  obtain ⟨same', now', hbind⟩ := lasts.bind hf
  rw [← Nat.add_assoc]
  exact ⟨same'.trans same, now'.trans now, hbind⟩

/-- The same within a task that may fail. -/
theorem Lasting.lift_bind {f : α → ExceptT ζ (Task γ) η} {R : α → β → Prop} {Q : Except ζ η → β → Prop} {m n : Nat}
    (hx : d.Lasting m P x R) (hf : ∀ a, d.Lasting n (R a) (f a).run Q) :
    d.Lasting (m + n) P ((liftM x : ExceptT ζ (Task γ) α) >>= f).run Q := by
  have hrun : ((liftM x : ExceptT ζ (Task γ) α) >>= f).run = x >>= fun a => (f a).run := ExceptT.run_bind_lift _ _
  rw [hrun]
  exact hx.bind hf

end Lasting

variable [Background γ]

/-- What the first task goes on with once this part of it has been run. -/
def Goes (d : Sides γ β δ) (fires : Option Nat) (x : Step γ α) (second : Task γ ε) (Q : α → Sight β → Prop) : Prop :=
  ∃ (a : α) (s : Scene γ) (second' : Task γ ε), Q a (d.own.sight s) ∧
    d.Ready fires second' s.now (d.outside.get s.world) ∧
    ∀ {η : Type} (g : α → Scene γ → Step γ η), ((x.bind g).both second).finish = ((g a s).both second').finish

theorem Lasts.goes (still : d.Still) {finish : Nat} {Q : α → β → Prop} {x : Step γ α} (hx : d.Lasts finish Q x)
    {second : Task γ ε} (ready : d.Ready fires second x.scene.now (d.outside.get x.scene.world)) :
    d.Goes fires x second fun a σ => σ.now = finish ∧ Q a σ.held := by
  induction x generalizing second with
  | done a s => exact ⟨a, s, second, hx, ready, fun g => rfl⟩
  | wait w s k ih =>
    obtain ⟨t, due, ahead, awaits, goes⟩ := hx
    obtain ⟨kept, now, he⟩ := ready.turn s rfl rfl
    have last : ends fires w false = some t := by
      unfold ends
      rw [due]
      rfl
    obtain ⟨s₁, second₁, hnow, hs₁, ready₁, rest⟩ := meanwhile_goes still awaits last he kept
    rw [now] at hnow
    have hnow : s₁.now = t := hnow.trans (Nat.max_eq_right (Nat.le_of_lt ahead))
    obtain ⟨same, now₁, hx₁⟩ := goes s₁ hnow hs₁
    rw [← same, hnow, ← now₁] at ready₁
    obtain ⟨a, s₂, second₂, hQ, ready₂, rest₂⟩ := ih s₁ hx₁ ready₁
    refine ⟨a, s₂, second₂, hQ, ready₂, fun g => ?_⟩
    rw [← rest₂ g]
    exact rest (fun s' => (k s').bind g) (fun s' second' => ((k s').bind g).both second')
      fun s' c => Step.finish_both_pure _ c

/-! ## Runs beside a second task -/

section Rules

/-- **Begun where `P` holds, the first task comes through this part of it**, whatever the second does beside it, and `Q`
holds of its result and of what is seen then. -/
def Passes (d : Sides γ β δ) (fires : Option Nat) (P : Sight β → Prop) (x : Task γ α) (Q : α → Sight β → Prop) : Prop :=
  ∀ (ε : Type) (second : Task γ ε) (s : Scene γ), P (d.own.sight s) →
    d.Ready fires second s.now (d.outside.get s.world) → d.Goes fires (x s) second Q

/-- The first task waits for good, with this seen then. -/
def Stays (d : Sides γ β δ) (fires : Option Nat) (P : Sight β → Prop) (x : Task γ α) (Q : β → Prop) : Prop :=
  ∀ (ε : Type) (second : Task γ ε) (s : Scene γ), P (d.own.sight s) →
    d.Ready fires second s.now (d.outside.get s.world) →
    ∃ s' : Scene γ, Q (d.own.get s'.world) ∧
      ∀ {η : Type} (g : α → Scene γ → Step γ η), (((x s).bind g).both second).finish = (none, s')

variable {P : Sight β → Prop} {x : Task γ α}

theorem Passes.pure {Q : α → Sight β → Prop} {a : α} (h : ∀ σ, P σ → Q a σ) :
    d.Passes fires P (Pure.pure a : Task γ α) Q :=
  fun _ second s hs ready => ⟨a, s, second, h _ hs, ready, fun _ => rfl⟩

theorem Passes.bind {f : α → Task γ η} {R : α → Sight β → Prop} {Q : η → Sight β → Prop} (hx : d.Passes fires P x R)
    (hf : ∀ a, d.Passes fires (R a) (f a) Q) : d.Passes fires P (x >>= f) Q := by
  intro ε second s hs ready
  obtain ⟨a, s₁, second₁, hR, ready₁, goes₁⟩ := hx _ second s hs ready
  obtain ⟨b, s₂, second₂, hQ, ready₂, goes₂⟩ := hf a _ second₁ s₁ hR ready₁
  refine ⟨b, s₂, second₂, hQ, ready₂, fun g => ?_⟩
  rw [← goes₂ g, ← goes₁ fun a s => (f a s).bind g]
  exact congrArg (fun y : Step γ _ => (y.both second).finish) (Step.bind_assoc (x s) _ g)

theorem Passes.bind_stays {f : α → Task γ η} {R : α → Sight β → Prop} {Q : β → Prop} (hx : d.Passes fires P x R)
    (hf : ∀ a, d.Stays fires (R a) (f a) Q) : d.Stays fires P (x >>= f) Q := by
  intro ε second s hs ready
  obtain ⟨a, s₁, second₁, hR, ready₁, goes₁⟩ := hx _ second s hs ready
  obtain ⟨s₂, hQ, stays⟩ := hf a _ second₁ s₁ hR ready₁
  refine ⟨s₂, hQ, fun g => ?_⟩
  rw [← stays g, ← goes₁ fun a s => (f a s).bind g]
  exact congrArg (fun y : Step γ _ => (y.both second).finish) (Step.bind_assoc (x s) _ g)

/-- What comes after a wait for good does not begin. -/
theorem Stays.bind {f : α → Task γ η} {Q : β → Prop} (hx : d.Stays fires P x Q) : d.Stays fires P (x >>= f) Q := by
  intro ε second s hs ready
  obtain ⟨s₁, hQ, stays⟩ := hx _ second s hs ready
  refine ⟨s₁, hQ, fun g => ?_⟩
  rw [← stays fun a s => (f a s).bind g]
  exact congrArg (fun y : Step γ _ => (y.both second).finish) (Step.bind_assoc (x s) _ g)

/-- What is done at one instant, and not in the place of the second task. -/
theorem Passes.act {a : Act γ α} {Q : α → Sight β → Prop}
    (h : ∀ s, P (d.own.sight s) → Q (a.run s).1 (d.own.sight (a.run s).2) ∧ (a.run s).2.now = s.now ∧
      d.outside.get (a.run s).2.world = d.outside.get s.world) :
    d.Passes fires P (liftM a : Task γ α) Q := by
  intro ε second s hs ready
  obtain ⟨hQ, now, same⟩ := h s hs
  rw [← now, ← same] at ready
  exact ⟨_, _, second, hQ, ready, fun _ => rfl⟩

theorem Passes.weaken {R Q : α → Sight β → Prop} (hx : d.Passes fires P x R) (h : ∀ a σ, R a σ → Q a σ) :
    d.Passes fires P x Q := by
  intro ε second s hs ready
  obtain ⟨a, s₁, second₁, hR, rest⟩ := hx _ second s hs ready
  exact ⟨a, s₁, second₁, h _ _ hR, rest⟩

theorem Passes.strengthen {P' : Sight β → Prop} {Q : α → Sight β → Prop} (hx : d.Passes fires P x Q)
    (h : ∀ σ, P' σ → P σ) : d.Passes fires P' x Q :=
  fun _ second s hs ready => hx _ second s (h _ hs) ready

theorem Stays.weaken {R Q : β → Prop} (hx : d.Stays fires P x R) (h : ∀ b, R b → Q b) : d.Stays fires P x Q := by
  intro ε second s hs ready
  obtain ⟨s₁, hR, rest⟩ := hx _ second s hs ready
  exact ⟨s₁, h _ hR, rest⟩

/-- What is seen at the beginning may be told in more detail. -/
theorem Passes.of_each {Q : α → Sight β → Prop} (h : ∀ σ, P σ → d.Passes fires (· = σ) x Q) : d.Passes fires P x Q :=
  fun _ second s hs ready => h _ hs _ second s rfl ready

theorem Stays.of_each {Q : β → Prop} (h : ∀ σ, P σ → d.Stays fires (· = σ) x Q) : d.Stays fires P x Q :=
  fun _ second s hs ready => h _ hs _ second s rfl ready

theorem Lasting.passes (still : d.Still) {ms : Nat} {P : β → Prop} {Q : α → β → Prop} (hx : d.Lasting ms P x Q)
    (now : Nat) : d.Passes fires (fun σ => σ.now = now ∧ P σ.held) x fun a σ => σ.now = now + ms ∧ Q a σ.held := by
  rintro ε second s ⟨rfl, hP⟩ ready
  obtain ⟨same, now, lasts⟩ := hx s hP
  rw [← same, ← now] at ready
  exact lasts.goes still ready

variable (still : d.Still) {w : Wait γ} {listens : Bool} {now : Nat} {b : β}
include still

/-- **A wait of the first task ends at what comes first.** -/
theorem Passes.await (awaits : d.Awaits b w listens) {t : Nat} (ht : ends fires w listens = some t) :
    d.Passes fires (· = ⟨now, b⟩) (Task.await w) fun _ σ => σ = ⟨max now t, b⟩ := by
  intro ε second s hs ready
  obtain ⟨rfl, mine⟩ := Sight.mk.inj hs
  unfold Goes Task.await Step.afterWait
  cases ended : w.isOver s with
  | true =>
    obtain ⟨t', ht', past⟩ := awaits.come mine ready.told ended
    obtain rfl := Option.mem_unique ht' ht
    refine ⟨(), s, second, ?_, ready, fun g => rfl⟩
    rw [Nat.max_eq_left past]
    exact hs
  | false =>
    obtain ⟨kept, now, he⟩ := ready.turn s rfl rfl
    obtain ⟨s₁, second₁, hnow, hs₁, ready₁, rest⟩ := meanwhile_goes still awaits ht he (kept.trans mine)
    refine ⟨(), s₁, second₁, ?_, ready₁, fun g => ?_⟩
    · rw [← now, ← hnow, ← hs₁]
      rfl
    · exact rest (fun s' => g () s') (fun s' second' => (g () s').both second') fun s' c => Step.finish_both_pure _ c

theorem Stays.await (awaits : d.Awaits b w listens) (ht : ends fires w listens = none) :
    d.Stays fires (· = ⟨now, b⟩) (Task.await w) (· = b) := by
  intro ε second s hs ready
  obtain ⟨rfl, mine⟩ := Sight.mk.inj hs
  unfold Task.await Step.afterWait
  cases ended : w.isOver s with
  | true =>
    obtain ⟨t, ht', -⟩ := awaits.come mine ready.told ended
    rw [ht] at ht'
    cases ht'
  | false =>
    obtain ⟨kept, now, he⟩ := ready.turn s rfl rfl
    obtain ⟨s₁, hs₁, rest⟩ := meanwhile_stays still awaits ht he (kept.trans mine)
    exact ⟨s₁, hs₁, fun g => rest (fun s' => g () s') fun s' second' => (g () s').both second'⟩

/-! ## Whole runs -/

/-- A first task that comes through comes to its end, and the second to its own. -/
theorem Passes.finishes {Q : α → Sight β → Prop} (hx : d.Passes fires P x Q) {second : Task γ ε} {s : Scene γ}
    (hs : P (d.own.sight s)) (ready : d.Ready fires second s.now (d.outside.get s.world)) :
    ∃ a c s' σ, (x.both second).finish s = (some (a, c), s') ∧ Q a σ ∧ d.own.get s'.world = σ.held := by
  obtain ⟨a, s₁, second₁, hQ, ready₁, goes⟩ := hx _ second s hs ready
  obtain ⟨kept, -, he⟩ := ready₁.turn s₁ rfl rfl
  obtain ⟨c, s', done, mine⟩ := he.finishes still
  have rest : ((Step.done a s₁).both second₁).finish = (some (a, c), s') := by
    unfold Step.both Step.map
    rw [Step.finish_bind, done]
    rfl
  have whole := goes Step.done
  rw [Step.bind_done, rest] at whole
  exact ⟨a, c, s', _, whole, hQ, mine.trans kept⟩

omit still in
theorem Stays.finishes {Q : β → Prop} (hx : d.Stays fires P x Q) {second : Task γ ε} {s : Scene γ}
    (hs : P (d.own.sight s)) (ready : d.Ready fires second s.now (d.outside.get s.world)) :
    ∃ s', (x.both second).finish s = (none, s') ∧ Q (d.own.get s'.world) := by
  obtain ⟨s', hQ, stays⟩ := hx _ second s hs ready
  have whole := stays Step.done
  rw [Step.bind_done] at whole
  exact ⟨s', whole, hQ⟩

end Rules

/-! ## Parts that may fail -/

section MayFail

open Cell (Succeeds)

/-- The same of a part that may fail. -/
def Comes (d : Sides γ β δ) (fires : Option Nat) (P : Sight β → Prop) (x : ExceptT ζ (Task γ) α)
    (Q : Except ζ α → Sight β → Prop) : Prop :=
  d.Passes fires P x.run Q

variable {P : Sight β → Prop} {x : ExceptT ζ (Task γ) α}

theorem Comes.bind {f : α → ExceptT ζ (Task γ) η} {R : Except ζ α → Sight β → Prop} {Q : Except ζ η → Sight β → Prop}
    (hx : d.Comes fires P x R) (hf : ∀ a, d.Comes fires (R (.ok a)) (f a) Q)
    (he : ∀ e σ, R (.error e) σ → Q (.error e) σ) : d.Comes fires P (x >>= f) Q := by
  refine Passes.bind hx fun r => ?_
  cases r with
  | ok a => exact hf a
  | error e => exact .pure (he e)

theorem Comes.bind_ok {f : α → ExceptT ζ (Task γ) η} {R : α → Sight β → Prop} {Q : Except ζ η → Sight β → Prop}
    (hx : d.Comes fires P x (Succeeds R)) (hf : ∀ a, d.Comes fires (R a) (f a) Q) : d.Comes fires P (x >>= f) Q :=
  hx.bind hf fun _ _ h => h.elim

theorem Comes.bind_stays {f : α → ExceptT ζ (Task γ) η} {R : α → Sight β → Prop} {Q : β → Prop}
    (hx : d.Comes fires P x (Succeeds R)) (hf : ∀ a, d.Stays fires (R a) (f a).run Q) :
    d.Stays fires P (x >>= f).run Q := by
  refine Passes.bind_stays hx fun r => ?_
  cases r with
  | ok a => exact hf a
  | error e => exact fun _ _ _ hs => hs.elim

theorem Comes.lift {t : Task γ α} {R : α → Sight β → Prop} (ht : d.Passes fires P t R) :
    d.Comes fires P (liftM t : ExceptT ζ (Task γ) α) (Succeeds R) := by
  show d.Passes fires P (Except.ok <$> t) _
  rw [map_eq_pure_bind]
  exact ht.bind fun a => .pure fun σ hσ => hσ

theorem Stays.lift_bind {t : Task γ α} {f : α → ExceptT ζ (Task γ) η} {Q : β → Prop} (ht : d.Stays fires P t Q) :
    d.Stays fires P ((liftM t : ExceptT ζ (Task γ) α) >>= f).run Q := by
  have lifted : d.Stays fires P (liftM t : ExceptT ζ (Task γ) α).run Q := by
    show d.Stays fires P (Except.ok <$> t) _
    rw [map_eq_pure_bind]
    exact ht.bind
  exact Stays.bind lifted

theorem Comes.log (level : Level) (text : String) :
    d.Comes fires P (Act.log level text : ExceptT ζ (Task γ) Unit) (Succeeds fun _ => P) :=
  Passes.act (a := (.ok <$> Act.log level text : Act γ (Except ζ Unit))) fun _ hs => ⟨hs, rfl, rfl⟩

/-- A part that begins with a look at the scene. -/
theorem Comes.get {f : Scene γ → ExceptT ζ (Task γ) α} {Q : Except ζ α → Sight β → Prop}
    (hf : ∀ s, d.Comes fires P (f s) Q) : d.Comes fires P (MonadState.get >>= f) Q :=
  fun _ second s hs ready => hf s _ second s hs ready

/-- An error is told in other words. -/
theorem Comes.adapt {ζ' : Type} {R : Except ζ α → Sight β → Prop} {Q : Except ζ' α → Sight β → Prop} (explain : ζ → ζ')
    (hx : d.Comes fires P x R) (h : ∀ r σ, R r σ → Q (r.mapError explain) σ) :
    d.Comes fires P (ExceptT.adapt explain x) Q := by
  show d.Passes fires P (Except.mapError explain <$> x.run) _
  rw [map_eq_pure_bind]
  exact Passes.bind hx fun r => .pure (h r)

end MayFail

end ServiceControl.Sides
