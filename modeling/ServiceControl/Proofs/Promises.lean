import ServiceControl.Proofs.Sight
/-!
# What programs promise

Where it does not matter what exactly a program comes to, it is said what holds after it.  A program that comes to an end
`Ensures` something of its result, one that may fail `Yields` something either way, and one that may wait for good `Keeps`
what held before, or `Admits` only some results.  Their rules follow a program as those of `Leads` do.
-/
namespace ServiceControl.Cell

open Playable

variable {γ α β δ ε : Type}

section Rules

variable {m : Type → Type} [Monad m] [MonadStateOf (Scene γ) m] [Playable γ m]

/-- **Begun where `P` holds, the program comes to an end**, and `Q` holds of its result and of what is seen then. -/
def Ensures (c : Cell γ β) (P : Sight β → Prop) (x : m α) (Q : α → Sight β → Prop) : Prop :=
  ∀ s, P (c.sight s) → ∃ a, (play x s).1 = some a ∧ Q a (c.sight (play x s).2)

/-- The same of a program that may fail. -/
def Yields (c : Cell γ β) (P : Sight β → Prop) (x : ExceptT ε m α) (Q : Except ε α → Sight β → Prop) : Prop :=
  c.Ensures P x.run Q

/-- **What held before the program holds after it**, also where it waits for good, which it does not if it is said to
end. -/
def Keeps (c : Cell γ β) (P : Sight β → Prop) (ends : Prop) (x : m α) : Prop :=
  ∀ s, P (c.sight s) → P (c.sight (play x s).2) ∧ (ends → ∃ a, (play x s).1 = some a)

/-- **If the program comes to an end**, `Q` holds of its result and of what is seen then. -/
def Admits (c : Cell γ β) (P : Sight β → Prop) (x : m α) (Q : α → Sight β → Prop) : Prop :=
  ∀ s, P (c.sight s) → ∀ a, (play x s).1 = some a → Q a (c.sight (play x s).2)

variable {c : Cell γ β} {P : Sight β → Prop}

/-! ## Programs that end -/

theorem Ensures.pure {Q : α → Sight β → Prop} {a : α} (h : ∀ σ, P σ → Q a σ) : c.Ensures P (Pure.pure a : m α) Q := by
  intro s hs
  rw [play_pure]
  exact ⟨a, rfl, h _ hs⟩

theorem Ensures.bind {x : m α} {f : α → m δ} {R : α → Sight β → Prop} {Q : δ → Sight β → Prop}
    (hx : c.Ensures P x R) (hf : ∀ a, c.Ensures (R a) (f a) Q) : c.Ensures P (x >>= f) Q := by
  intro s hs
  obtain ⟨a, ha, hR⟩ := hx s hs
  rw [play_bind]
  rcases hp : play x s with ⟨_, s'⟩
  rw [hp] at ha hR
  obtain rfl : _ = some a := ha
  exact hf a s' hR

theorem Ensures.weaken {x : m α} {R Q : α → Sight β → Prop} (hx : c.Ensures P x R) (h : ∀ a σ, R a σ → Q a σ) :
    c.Ensures P x Q := by
  intro s hs
  obtain ⟨a, ha, hR⟩ := hx s hs
  exact ⟨a, ha, h a _ hR⟩

theorem Ensures.strengthen {x : m α} {P' : Sight β → Prop} {Q : α → Sight β → Prop} (hx : c.Ensures P x Q)
    (h : ∀ σ, P' σ → P σ) : c.Ensures P' x Q := fun s hs => hx s (h _ hs)

/-- Where it is told exactly what a program comes to, what holds then follows. -/
theorem Ensures.of_leads {x : m α} {Q : α → Sight β → Prop}
    (h : ∀ σ, P σ → ∃ a σ', c.Leads x σ (some a) σ' ∧ Q a σ') : c.Ensures P x Q := by
  intro s hs
  obtain ⟨a, σ', hx, hQ⟩ := h _ hs
  obtain ⟨ha, hσ⟩ := hx s rfl
  exact ⟨a, ha, hσ ▸ hQ⟩

theorem Leads.of_ensures {x : m α} {a : α} {σ₁ σ₂ : Sight β} (hx : c.Ensures (· = σ₁) x fun a' σ => a' = a ∧ σ = σ₂) :
    c.Leads x σ₁ (some a) σ₂ := by
  intro s hs
  obtain ⟨_, hr, rfl, hσ⟩ := hx s hs
  exact ⟨hr, hσ⟩

/-- What is not told exactly of a program may not matter for the rest. -/
theorem Ensures.leads {x : m α} {f : α → m δ} {R : α → Prop} {σ₁ σ₂ σ₃ : Sight β} {r : Option δ}
    (hx : c.Ensures (· = σ₁) x fun a σ => R a ∧ σ = σ₂) (hf : ∀ a, R a → c.Leads (f a) σ₂ r σ₃) :
    c.Leads (x >>= f) σ₁ r σ₃ := by
  intro s hs
  obtain ⟨a, ha, hR, hσ⟩ := hx s hs
  rw [play_bind]
  rcases hp : play x s with ⟨_, s'⟩
  rw [hp] at ha hσ
  obtain rfl : _ = some a := ha
  exact hf a hR s' hσ

theorem Ensures.log (level : Level) (text : String) : c.Ensures P (Act.log level text : m Unit) fun _ => P :=
  .of_leads fun σ hσ => ⟨(), σ, .log level text, hσ⟩

/-- What is written in the other place is not seen in this one. -/
def Apart (c : Cell γ β) (other : Cell γ δ) : Prop := ∀ a w, c.get (other.set a w) = c.get w

theorem Ensures.takeFrom_apart {other : Cell γ δ} (apart : c.Apart other) (f : δ → α × δ) :
    c.Ensures P (Act.takeFrom other f : m α) fun _ => P := by
  intro s hs
  unfold Act.takeFrom
  rw [play_modifyGet]
  refine ⟨_, rfl, ?_⟩
  show P ⟨s.now, c.get (other.set _ s.world)⟩
  rwa [apart]

theorem Ensures.get : c.Ensures P (MonadState.get : m (Scene γ)) fun _ => P := by
  intro s hs
  rw [play_get]
  exact ⟨s, rfl, hs⟩

theorem Ensures.update_apart {other : Cell γ δ} (apart : c.Apart other) (f : δ → δ) :
    c.Ensures P (Act.update other f : m Unit) fun _ => P :=
  Ensures.takeFrom_apart apart fun a => ((), f a)

/-! ## Programs that may fail -/

theorem Yields.pure {Q : Except ε α → Sight β → Prop} {a : α} (h : ∀ σ, P σ → Q (.ok a) σ) :
    c.Yields P (Pure.pure a : ExceptT ε m α) Q :=
  Ensures.pure (m := m) h

theorem Yields.throw {Q : Except ε α → Sight β → Prop} {e : ε} (h : ∀ σ, P σ → Q (.error e) σ) :
    c.Yields P (MonadExcept.throw e : ExceptT ε m α) Q :=
  Ensures.pure (m := m) h

/-- What is said of a failure is said of the whole program. -/
theorem Yields.bind {x : ExceptT ε m α} {f : α → ExceptT ε m δ} {R : Except ε α → Sight β → Prop}
    {Q : Except ε δ → Sight β → Prop} (hx : c.Yields P x R) (hf : ∀ a, c.Yields (R (.ok a)) (f a) Q)
    (he : ∀ e σ, R (.error e) σ → Q (.error e) σ) : c.Yields P (x >>= f) Q := by
  refine Ensures.bind (m := m) hx ?_
  intro r
  cases r with
  | ok a => exact hf a
  | error e => exact Ensures.pure (m := m) (he e)

/-- What comes after a failure is left out. -/
theorem Yields.throw_bind {f : α → ExceptT ε m δ} {Q : Except ε δ → Sight β → Prop} {e : ε}
    (h : ∀ σ, P σ → Q (.error e) σ) : c.Yields P (MonadExcept.throw e >>= f) Q := by
  refine Ensures.bind (m := m) (.pure (Q := fun r σ => r = .error e ∧ P σ) fun σ hσ => ⟨rfl, hσ⟩) ?_
  intro r s hs
  obtain ⟨rfl, hP⟩ := hs
  exact Ensures.pure (m := m) h s hP

theorem Yields.weaken {x : ExceptT ε m α} {R Q : Except ε α → Sight β → Prop} (hx : c.Yields P x R)
    (h : ∀ r σ, R r σ → Q r σ) : c.Yields P x Q :=
  Ensures.weaken (m := m) hx h

/-- What is said of a program that does not fail. -/
def Succeeds (R : α → Sight β → Prop) : Except ε α → Sight β → Prop
  | .ok a => R a
  | .error _ => fun _ => False

/-- What is said of a program that fails. -/
def Fails (E : ε → Sight β → Prop) : Except ε α → Sight β → Prop
  | .ok _ => fun _ => False
  | .error e => E e

/-- What is said of a program that succeeds and of one that fails. -/
def Either (R : α → Sight β → Prop) (E : ε → Sight β → Prop) : Except ε α → Sight β → Prop
  | .ok a => R a
  | .error e => E e

theorem Yields.bind_ok {x : ExceptT ε m α} {f : α → ExceptT ε m δ} {R : α → Sight β → Prop}
    {Q : Except ε δ → Sight β → Prop} (hx : c.Yields P x (Succeeds R)) (hf : ∀ a, c.Yields (R a) (f a) Q) :
    c.Yields P (x >>= f) Q :=
  hx.bind hf fun _ _ h => h.elim

/-- What comes after a failure does not begin. -/
theorem Yields.bind_fails {x : ExceptT ε m α} {f : α → ExceptT ε m δ} {E : ε → Sight β → Prop}
    (hx : c.Yields P x (Fails E)) : c.Yields P (x >>= f) (Fails E) :=
  hx.bind (fun _ _ h => h.elim) fun _ _ h => h

theorem Yields.of_succeeds {x : ExceptT ε m α} {R : α → Sight β → Prop} {Q : Except ε α → Sight β → Prop}
    (hx : c.Yields P x (Succeeds R)) (h : ∀ a σ, R a σ → Q (.ok a) σ) : c.Yields P x Q := by
  refine hx.weaken ?_
  intro r σ hr
  cases r with
  | ok a => exact h a σ hr
  | error e => exact hr.elim

theorem Yields.lift {x : m α} {R : α → Sight β → Prop} (hx : c.Ensures P x R) :
    c.Yields P (liftM x : ExceptT ε m α) (Succeeds R) := by
  show c.Ensures P (Except.ok <$> x) _
  rw [map_eq_pure_bind]
  exact hx.bind fun a => .pure fun σ hσ => hσ

/-- After an attempt one goes on, however it went. -/
theorem Yields.attempt_bind {x : ExceptT ε m α} {f : Except ε α → ExceptT ε m δ} {R : Except ε α → Sight β → Prop}
    {Q : Except ε δ → Sight β → Prop} (hx : c.Yields P x R) (hf : ∀ r, c.Yields (R r) (f r) Q) :
    c.Yields P (attempt x >>= f) Q := by
  have ha : c.Yields P (attempt x) fun r σ => ∃ r', r = .ok r' ∧ R r' σ := by
    show c.Ensures P (Except.ok <$> x.run) _
    rw [map_eq_pure_bind]
    exact Ensures.bind hx fun r => .pure fun σ hσ => ⟨r, rfl, hσ⟩
  refine ha.bind ?_ ?_
  · intro r s hs
    obtain ⟨r', h, hR⟩ := hs
    obtain rfl := Except.ok.inj h
    exact hf r s hR
  · rintro e σ ⟨r, h, -⟩
    cases h

/-- An error may be told in other words. -/
theorem Yields.explain {ε' : Type} {x : ExceptT ε m α} {R : Except ε α → Sight β → Prop}
    {Q : Except ε' α → Sight β → Prop} (explain : ε → ε') (hx : c.Yields P x R)
    (h : ∀ r σ, R r σ → Q (r.mapError explain) σ) : c.Yields P (ExceptT.adapt explain x) Q := by
  show c.Ensures P (Except.mapError explain <$> x.run) _
  rw [map_eq_pure_bind]
  exact Ensures.bind hx fun r => .pure (h r)

theorem Yields.adapt {ε' : Type} {x : ExceptT ε m α} {R : Sight β → Prop} (explain : ε → ε')
    (hx : c.Yields P x fun _ => R) : c.Yields P (ExceptT.adapt explain x) fun _ => R :=
  hx.explain explain fun _ _ hσ => hσ

/-- What is not obtained is not used. -/
theorem Yields.holding_fails {acquire : ExceptT ε m δ} {giveBack : δ → m Unit} {use : δ → ExceptT ε m α}
    {E : ε → Sight β → Prop} (ha : c.Yields P acquire (Fails E)) : c.Yields P (holding acquire giveBack use) (Fails E) :=
  ha.bind_fails

/-- What is obtained is given back however its use ends. -/
theorem Yields.holding {acquire : ExceptT ε m δ} {giveBack : δ → m Unit} {use : δ → ExceptT ε m α}
    {R : Except ε δ → Sight β → Prop} {U : δ → Except ε α → Sight β → Prop} {Q : Except ε α → Sight β → Prop}
    (ha : c.Yields P acquire R) (he : ∀ e σ, R (.error e) σ → Q (.error e) σ)
    (hu : ∀ held, c.Yields (R (.ok held)) (use held) (U held))
    (hg : ∀ held r, c.Ensures (U held r) (giveBack held) fun _ => Q r) :
    c.Yields P (holding acquire giveBack use) Q := by
  refine ha.bind ?_ he
  intro held
  refine Ensures.bind (m := m) (hu held) ?_
  intro r
  exact (hg held r).bind fun _ => .pure fun σ hσ => hσ

theorem Yields.log (level : Level) (text : String) :
    c.Yields P (Act.log level text : ExceptT ε m Unit) (Succeeds fun _ => P) :=
  .lift (.log level text)

theorem Yields.get : c.Yields P (MonadState.get : ExceptT ε m (Scene γ)) (Succeeds fun _ => P) := .lift .get

theorem Yields.read (other : Cell γ δ) : c.Yields P (Act.read other : ExceptT ε m δ) (Succeeds fun _ => P) :=
  Yields.get.bind_ok fun _ => .pure fun _ hσ => hσ

theorem Yields.takeFrom_apart {other : Cell γ δ} (apart : c.Apart other) (f : δ → α × δ) :
    c.Yields P (Act.takeFrom other f : ExceptT ε m α) (Succeeds fun _ => P) :=
  .lift (.takeFrom_apart apart f)

theorem Yields.update_apart {other : Cell γ δ} (apart : c.Apart other) (f : δ → δ) :
    c.Yields P (Act.update other f : ExceptT ε m Unit) (Succeeds fun _ => P) :=
  .lift (.update_apart apart f)

/-- A result that is at hand. -/
theorem Yields.result (r : Except ε α) : c.Yields P (liftM r : ExceptT ε m α) fun r' σ => r' = r ∧ P σ :=
  Ensures.pure (m := m) fun _ hσ => ⟨rfl, hσ⟩

theorem Yields.result_bind {r : Except ε α} {f : α → ExceptT ε m δ} {Q : Except ε δ → Sight β → Prop}
    (ok : ∀ a, r = .ok a → c.Yields P (f a) Q) (error : ∀ e, r = .error e → ∀ σ, P σ → Q (.error e) σ) :
    c.Yields P (liftM r >>= f) Q := by
  refine (Yields.result r).bind ?_ fun e σ ⟨h, hσ⟩ => error e h.symm σ hσ
  rintro a s ⟨h, hs⟩
  exact ok a h.symm s hs

theorem Yields.now : c.Yields P (Act.now : ExceptT ε m Nat) (Succeeds fun now σ => now = σ.now ∧ P σ) :=
  .of_leads fun σ hσ => ⟨.ok σ.now, σ, Returns.now, rfl, hσ⟩

theorem Yields.now_any : c.Yields P (Act.now : ExceptT ε m Nat) (Succeeds fun _ => P) :=
  .of_leads fun σ hσ => ⟨.ok σ.now, σ, Returns.now, hσ⟩

/-! ## Programs that may wait for good -/

variable {ends : Prop}

theorem Ensures.keeps {x : m α} (h : c.Ensures P x fun _ => P) : c.Keeps P ends x := by
  intro s hs
  obtain ⟨a, ha, hP⟩ := h s hs
  exact ⟨hP, fun _ => ⟨a, ha⟩⟩

theorem Keeps.pure (a : α) : c.Keeps P ends (Pure.pure a : m α) :=
  Ensures.keeps (.pure fun _ hσ => hσ)

theorem Keeps.of_ends {ends' : Prop} {x : m α} (h : c.Keeps P ends x) (he : ends' → ends) : c.Keeps P ends' x :=
  fun s hs => ⟨(h s hs).1, fun hends => (h s hs).2 (he hends)⟩

/-- What is kept, and that the program ends, may be shown apart. -/
theorem Keeps.ending {x : m α} (h : c.Keeps P False x) (he : ends → ∀ s, (play x s).1.isSome = true) :
    c.Keeps P ends x :=
  fun s hs => ⟨(h s hs).1, fun hends => Option.isSome_iff_exists.1 (he hends s)⟩

theorem Keeps.bind {x : m α} {f : α → m δ} (hx : c.Keeps P ends x)
    (hf : ∀ a, (∃ s, (play x s).1 = some a) → c.Keeps P ends (f a)) : c.Keeps P ends (x >>= f) := by
  intro s hs
  obtain ⟨hP, hends⟩ := hx s hs
  rw [play_bind]
  rcases hp : play x s with ⟨r, s'⟩
  rw [hp] at hP hends
  cases r with
  | some a => exact hf a ⟨s, by rw [hp]⟩ s' hP
  | none =>
    refine ⟨hP, ?_⟩
    intro h
    obtain ⟨a, ha⟩ := hends h
    cases ha

theorem Keeps.map {x : m α} (f : α → δ) (hx : c.Keeps P ends x) : c.Keeps P ends (f <$> x) := by
  rw [map_eq_pure_bind]
  exact hx.bind fun _ _ => .pure _

/-! Of a program that may fail, what is kept is said of its run. -/

theorem Keeps.lift {x : m α} (hx : c.Keeps P ends x) : c.Keeps P ends (liftM x : ExceptT ε m α).run :=
  hx.map Except.ok

theorem Keeps.attempt {x : ExceptT ε m α} (hx : c.Keeps P ends x.run) : c.Keeps P ends (attempt x).run :=
  hx.map Except.ok

theorem Yields.keeps {x : ExceptT ε m α} (hx : c.Yields P x (Succeeds fun _ => P)) : c.Keeps P ends x.run :=
  Ensures.keeps (hx.of_succeeds fun _ _ h => h)

theorem Keeps.bind_run {x : ExceptT ε m α} {f : α → ExceptT ε m δ} (hx : c.Keeps P ends x.run)
    (hf : ∀ a, (∃ s, (play x.run s).1 = some (.ok a)) → c.Keeps P ends (f a).run) :
    c.Keeps P ends (x >>= f).run := by
  refine Keeps.bind (m := m) hx ?_
  intro r hr
  cases r with
  | ok a => exact hf a hr
  | error e => exact .pure _

theorem Keeps.of_held {x : m α} (h : ∀ a, c.Keeps (fun σ => σ.held = a) False x)
    (timeless : ∀ σ later, P σ → P ⟨later, σ.held⟩) : c.Keeps P False x := by
  intro s hs
  have same : (c.sight (play x s).2).held = (c.sight s).held := (h _ s rfl).1
  refine ⟨?_, False.elim⟩
  have hP := timeless _ (play x s).2.now hs
  rwa [← same] at hP

/-! ## Programs of which it is not said that they end -/

theorem Admits.any (x : m α) : c.Admits P x fun _ _ => True := fun _ _ _ _ => trivial

theorem Keeps.admits {x : m α} (hx : c.Keeps P ends x) : c.Admits P x fun _ => P := fun s hs _ _ => (hx s hs).1

theorem Ensures.admits {x : m α} {Q : α → Sight β → Prop} (hx : c.Ensures P x Q) : c.Admits P x Q := by
  intro s hs a ha
  obtain ⟨a', ha', hQ⟩ := hx s hs
  obtain rfl := Option.some.inj (ha'.symm.trans ha)
  exact hQ

theorem Admits.bind {x : m α} {f : α → m δ} {R : α → Sight β → Prop} {Q : δ → Sight β → Prop}
    (hx : c.Admits P x R) (hf : ∀ a, c.Admits (R a) (f a) Q) : c.Admits P (x >>= f) Q := by
  intro s hs a
  have hR := hx s hs
  rw [play_bind]
  rcases hp : play x s with ⟨r, s'⟩
  rw [hp] at hR
  cases r with
  | some a' => exact hf a' s' (hR a' rfl) a
  | none => exact nofun

theorem Admits.map {x : m α} {R : α → Sight β → Prop} {Q : δ → Sight β → Prop} {f : α → δ} (hx : c.Admits P x R)
    (h : ∀ a σ, R a σ → Q (f a) σ) : c.Admits P (f <$> x) Q := by
  rw [map_eq_pure_bind]
  exact hx.bind fun a => Ensures.admits (.pure (h a))

theorem Admits.bind_run {x : ExceptT ε m α} {f : α → ExceptT ε m δ} {R : Except ε α → Sight β → Prop}
    {Q : Except ε δ → Sight β → Prop} (hx : c.Admits P x.run R) (hf : ∀ a, c.Admits (R (.ok a)) (f a).run Q)
    (he : ∀ e σ, R (.error e) σ → Q (.error e) σ) : c.Admits P (x >>= f).run Q := by
  refine Admits.bind (m := m) hx ?_
  intro r
  cases r with
  | ok a => exact hf a
  | error e => exact Ensures.admits (.pure (he e))

theorem Admits.bind_ok {x : ExceptT ε m α} {f : α → ExceptT ε m δ} {R : α → Sight β → Prop}
    {Q : Except ε δ → Sight β → Prop} (hx : c.Admits P x.run (Succeeds R)) (hf : ∀ a, c.Admits (R a) (f a).run Q) :
    c.Admits P (x >>= f).run Q :=
  hx.bind_run hf fun _ _ h => h.elim

theorem Admits.attempt_bind {x : ExceptT ε m α} {f : Except ε α → ExceptT ε m δ} {R : Except ε α → Sight β → Prop}
    {Q : Except ε δ → Sight β → Prop} (hx : c.Admits P x.run R) (hf : ∀ r, c.Admits (R r) (f r).run Q) :
    c.Admits P (attempt x >>= f).run Q := by
  have ha : c.Admits P (attempt x).run (Succeeds R) := hx.map fun _ _ h => h
  exact ha.bind_ok hf

theorem Admits.lift {x : m α} {R : α → Sight β → Prop} (hx : c.Admits P x R) :
    c.Admits P (liftM x : ExceptT ε m α).run (Succeeds R) :=
  hx.map fun _ _ h => h

end Rules

/-! ## Tasks -/

section Tasks

variable [Background γ] {c : Cell γ β} {P : Sight β → Prop}

theorem Ensures.act {x : Act γ α} {Q : α → Sight β → Prop} (hx : c.Ensures P x Q) :
    c.Ensures P (liftM x : Task γ α) Q := hx

theorem Yields.act {x : Act γ α} {R : α → Sight β → Prop} (hx : c.Ensures P x R) :
    c.Yields P (liftM x : ExceptT ε (Task γ) α) (Succeeds R) :=
  .lift (Ensures.act hx)

theorem Yields.call {x : ExceptT ε (Act γ) α} {Q : Except ε α → Sight β → Prop} (hx : c.Yields P x Q) :
    c.Yields P (liftM x : ExceptT ε (Task γ) α) Q := hx

theorem Admits.finish {x : Task γ α} {Q : α → Sight β → Prop} {s after : Scene γ} {a : α} (hx : c.Admits P x Q)
    (hs : P (c.sight s)) (done : x.finish s = (some a, after)) : Q a (c.sight after) := by
  have hQ := hx s hs a (congrArg Prod.fst done)
  rwa [show (play x s).2 = after from congrArg Prod.snd done] at hQ

/-! ### Time -/

/-- What holds of a place at any time if it holds at one. -/
def Timeless (P : Sight β → Prop) : Prop := ∀ σ later, P σ → P ⟨later, σ.held⟩

variable (still : c.Still) (timeless : Timeless P)
include still timeless

theorem Ensures.sleepUntil (instant : Nat) : c.Ensures P (Task.sleepUntil instant : Task γ Unit) fun _ => P :=
  .of_leads fun σ hσ => ⟨(), _, Leads.sleepUntil still instant, timeless σ _ hσ⟩

theorem Ensures.sleep (ms : Nat) : c.Ensures P (Task.sleep ms : Task γ Unit) fun _ => P :=
  .of_leads fun σ hσ => ⟨(), _, Leads.sleep still ms, timeless σ _ hσ⟩

/-- A wait for whatever it is for; it ends if there is an instant at which it does. -/
theorem Keeps.await (w : Wait γ) : c.Keeps P (w.due.isSome = true) (Task.await w : Task γ Unit) := by
  intro s hs
  have settled : P (c.sight s.settle) := by
    have h : c.sight s.settle = c.sight s := by
      show Sight.mk s.now (c.get (Background.settle s.now s.world).1) = _
      rw [still.get_settle, sight]
    rwa [h]
  have hplay : play (Task.await w : Task γ Unit) s = (Step.afterWait w (fun s => .done () s) s).finish := rfl
  rw [hplay, Step.afterWait]
  split
  · exact ⟨hs, fun _ => ⟨(), rfl⟩⟩
  · unfold Step.finish
    split
    · exact ⟨hs, fun _ => ⟨(), rfl⟩⟩
    · split
      · exact ⟨settled, fun _ => ⟨(), rfl⟩⟩
      · split
        · refine ⟨?_, fun _ => ⟨(), rfl⟩⟩
          rename_i later _
          have h : (c.sight (s.settle.advance later)).held = (c.sight s.settle).held := still.get_pass _ _ _
          have hP := timeless _ later settled
          rwa [← h] at hP
        · rename_i never
          rw [never]
          exact ⟨settled, fun due => absurd due Bool.false_ne_true⟩

theorem Keeps.apart {t : Task γ α} (ht : c.Keeps P ends t) : c.Keeps P ends (Task.apart t) := by
  intro s hs
  obtain ⟨hP, hends⟩ := ht s hs
  let back : Scene γ := { (play t s).2 with now := s.now }
  have hback : P (c.sight back) := timeless _ s.now hP
  have hplay : play (Task.apart t) s = (Task.apart t s).finish := rfl
  rw [hplay]
  unfold Task.apart
  rw [show t.finish s = ((play t s).1, (play t s).2) from rfl]
  cases hr : (play t s).1 with
  | some a => exact ⟨hback, fun _ => ⟨(), rfl⟩⟩
  | none =>
    obtain ⟨-, hsight⟩ := Leads.await_nothing still back rfl
    refine ⟨hsight ▸ hback, fun h => ?_⟩
    obtain ⟨a, ha⟩ := hends h
    exact absurd (ha.symm.trans hr) (Option.some_ne_none a)

end Tasks

end ServiceControl.Cell
