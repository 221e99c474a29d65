import StateMachine.Proofs.Prediction

/-!
# Runs without identities and times

Two runs of the same machine draw different identities and take different times. What is left when
these are taken out of values and logs is what a user may rely on.

* `Role.anonymous`, `Call.anonymous`, `Settled.anonymous`, `Event.anonymous`, `Entry.anonymous`,
  `Outcome.anonymous`: data without identities and times.
* `Run.Alike`: runs that tell the same, wherever each of them begins to draw identities.
* `Code.Alike`: code that does the same as long as what it is answered is the same.
* `Code.Alike.run`: such code runs alike on hosts that answer alike.

A remark belongs to the callback that makes it, so what is to be taken out of remarks is given as a
function `hush`.
-/

namespace StateMachine

variable {π ν ε ε' α β γ δ : Type}

/-! ## Data -/

/-- An answer, seen through a function on errors and one on values. -/
def veiled (f : ε → ε') (g : α → β) : Except ε α → Except ε' β
  | .error e => .error (f e)
  | .ok a => .ok (g a)

/-- Answers that are seen alike are both errors or both values. -/
theorem veiled_cases {f : ε → ε'} {g : α → β} {r r' : Except ε α}
    (same : veiled f g r = veiled f g r') :
    (∃ e e', r = .error e ∧ r' = .error e' ∧ f e = f e') ∨
      ∃ a a', r = .ok a ∧ r' = .ok a' ∧ g a = g a' := by
  cases r with
  | error e =>
    cases r' with
    | error e' => exact .inl ⟨e, e', rfl, rfl, Except.error.inj same⟩
    | ok a' => exact nomatch same
  | ok a =>
    cases r' with
    | error e' => exact nomatch same
    | ok a' => exact .inr ⟨a, a', rfl, rfl, Except.ok.inj same⟩

/-- A role without the identity in the cause or the time that it tells. -/
def Role.anonymous : Role → Role
  | handler cause => handler cause.anonymous
  | effect phase _ => effect phase 0
  | role => role

/-- A call without identities and times. -/
def Call.anonymous (c : Call π) : Call π :=
  { c with role := c.role.anonymous, context := c.context.anonymous }

/-- What a callback leaves, without the identity of its transition. -/
def Settled.anonymous (s : Settled π) : Settled π := { s with context := s.context.anonymous }

/-- An event without the identity of its transition. -/
def Event.anonymous : Event → Event
  | firing ctx => firing ctx.anonymous
  | complete ctx => complete ctx.anonymous
  | failed ctx e => failed ctx.anonymous e.anonymous
  | guardRejected ctx guard failure => guardRejected ctx.anonymous guard failure
  | stepSkipped ctx step label reason => stepSkipped ctx.anonymous step label reason
  | stepFailed ctx step label failure => stepFailed ctx.anonymous step label failure
  | retargeted ctx handler before after => retargeted ctx.anonymous handler before after
  | handlerFailed ctx step handler failure => handlerFailed ctx.anonymous step handler failure
  | panicked e => panicked e.anonymous
  | dispatched ctx phase invoked => dispatched ctx.anonymous phase invoked
  | e => e

/-- A line of a log without identities and times. -/
def Entry.anonymous (hush : ν → ν) : Entry π ν → Entry π ν
  | call c => call c.anonymous
  | settled c s => settled c.anonymous s.anonymous
  | event e => event e.anonymous
  | remark r => remark (hush r)

/-- How a fire ends, without identities. -/
def Outcome.anonymous : Outcome → Outcome
  | answered r => answered (veiled FireError.anonymous Context.anonymous r)
  | escaped value => escaped value

/-- What a fire leaves and how it ends, without identities. -/
def Outcome.anonymousLeft (r : π × Outcome) : π × Outcome := (r.1, r.2.anonymous)

/-- What a step or a chain leaves, without identities. -/
def Chain.anonymousLeft (r : π × Except ChainError Unit) : π × Except ChainError Unit :=
  (r.1, veiled ChainError.anonymous id r.2)

/-- What handlers leave, without identities. -/
def Recovered.anonymous (r : Recovered π) : Recovered π :=
  ⟨r.payload, r.context.anonymous, veiled ChainError.anonymous id r.result⟩

/-- What the handlers of a state leave of a failed transition, without identities. -/
def Node.anonymousLeft (r : π × Context × ChainError) : π × Context × ChainError :=
  (r.1, r.2.1.anonymous, r.2.2.anonymous)

theorem Context.anonymous_retarget (ctx : Context) (s : State) :
    (ctx.retarget s).anonymous = ctx.anonymous.retarget s := rfl

theorem Context.anonymous_inj {ctx ctx' : Context} :
    ctx.anonymous = ctx'.anonymous ↔ ctx.source = ctx'.source ∧
      ctx.destination = ctx'.destination ∧ ctx.trigger = ctx'.trigger := by
  simp [anonymous]

/-! ## Runs -/

/-- What a finished run tells about its value and its log. -/
def Ran.told (hush : ν → ν) (f : α → β) (r : Ran (Entry π ν) α) : β × List (Entry π ν) :=
  (f r.value, r.log.map (Entry.anonymous hush))

/-- Whether two runs tell the same, wherever they begin to draw identities. -/
def Run.Alike (hush : ν → ν) (f : α → β) (x x' : Run (Entry π ν) α) : Prop :=
  ∀ n n', (x n).map (Ran.told hush f) = (x' n').map (Ran.told hush f)

theorem Run.bind_apply_of_eq_none {x : Run ε α} {y : α → Run ε β} {n : Nat} (h : x n = none) :
    (x >>= y) n = none := by
  show Run.bind x y n = none
  rw [Run.bind, h]

namespace Run.Alike

variable {hush : ν → ν} {f : α → β} {g : γ → δ} {x x' : Run (Entry π ν) α}

theorem pure {a a' : α} (same : f a = f a') :
    Run.Alike hush f (Pure.pure a : Run (Entry π ν) α) (Pure.pure a') := by
  intro n n'
  simp only [Run.pure_apply, Option.map_some, Ran.told, same]

theorem exhausted : Run.Alike hush f (Run.exhausted : Run (Entry π ν) α) Run.exhausted :=
  fun _ _ => rfl

theorem emit {e e' : Entry π ν} (same : e.anonymous hush = e'.anonymous hush) :
    Run.Alike hush id (Run.emit e) (Run.emit e') := by
  intro n n'
  simp only [Run.emit_apply, Option.map_some, Ran.told, List.map_cons, List.map_nil, same]

theorem event {e e' : Event} (same : e.anonymous = e'.anonymous) :
    Run.Alike (π := π) hush id (Run.emit (.event e)) (Run.emit (.event e')) :=
  emit (by rw [Entry.anonymous, Entry.anonymous, same])

theorem told_bind {y : α → Run (Entry π ν) γ} {n : Nat} {r : Ran (Entry π ν) α}
    (h : x n = some r) :
    ((x >>= y) n).map (Ran.told hush g) =
      ((y r.value r.next).map (Ran.told hush g)).map
        (Prod.map id (r.log.map (Entry.anonymous hush) ++ ·)) := by
  rw [Run.bind_apply_of_eq_some h, Option.map_map, Option.map_map]
  refine congrFun (congrArg Option.map (funext fun s => ?_)) _
  simp [Ran.told]

/-- Runs that go on alike after values that tell the same. -/
theorem bind {y y' : α → Run (Entry π ν) γ} (first : Run.Alike hush f x x')
    (next : ∀ a a', f a = f a' → Run.Alike hush g (y a) (y' a')) :
    Run.Alike hush g (x >>= y) (x' >>= y') := by
  intro n n'
  have begun := first n n'
  cases hx : x n with
  | none =>
    cases hx' : x' n' with
    | none => rw [Run.bind_apply_of_eq_none hx, Run.bind_apply_of_eq_none hx']
    | some r' =>
      rw [hx, hx'] at begun
      exact nomatch begun
  | some r =>
    cases hx' : x' n' with
    | none =>
      rw [hx, hx'] at begun
      exact nomatch begun
    | some r' =>
      rw [hx, hx'] at begun
      obtain ⟨value, log⟩ := Prod.mk.inj (Option.some.inj begun)
      rw [told_bind hx, told_bind hx', next _ _ value r.next r'.next, log]

theorem map {h : α → γ} (first : Run.Alike hush f x x')
    (same : ∀ a a', f a = f a' → g (h a) = g (h a')) : Run.Alike hush g (h <$> x) (h <$> x') := by
  rw [← bind_pure_comp, ← bind_pure_comp]
  exact first.bind fun a a' seen => .pure (same a a' seen)

theorem create (source destination : State) (trigger : Trigger) :
    Run.Alike (π := π) hush Context.anonymous (Context.create source destination trigger)
      (Context.create source destination trigger) := by
  intro n n'
  rfl

end Run.Alike

/-! ## Code -/

/-- Code that does the same as long as what it is answered is the same; what it is answered may
differ in identities. -/
inductive Code.Alike (hush : ν → ν) : Code π ν → Code π ν → Prop
  | finish {payload verdict} : Alike hush (.finish payload verdict) (.finish payload verdict)
  | remark {r r' next next'} (same : hush r = hush r') (rest : Alike hush next next') :
      Alike hush (.remark r next) (.remark r' next')
  | retarget {destination next next'} (rest : Alike hush next next') :
      Alike hush (.retarget destination next) (.retarget destination next')
  | triggers {payload next next'} (rest : ∀ answer, Alike hush (next answer) (next' answer)) :
      Alike hush (.triggers payload next) (.triggers payload next')
  | canFire {payload trigger next next'}
      (rest : ∀ a a', veiled FireError.anonymous id a = veiled FireError.anonymous id a' →
        Alike hush (next a) (next' a')) :
      Alike hush (.canFire payload trigger next) (.canFire payload trigger next')
  | fire {payload trigger next next'}
      (rest : ∀ left a a',
        veiled FireError.anonymous Context.anonymous a =
          veiled FireError.anonymous Context.anonymous a' →
        Alike hush (next left a) (next' left a')) :
      Alike hush (.fire payload trigger next) (.fire payload trigger next')

/-- Whether two hosts answer alike. -/
structure Host.Alike (hush : ν → ν) (host host' : Host π ν) : Prop where
  triggers : host.triggers = host'.triggers
  canFire : ∀ payload trigger, Run.Alike hush (veiled FireError.anonymous id)
    (host.canFire payload trigger) (host'.canFire payload trigger)
  fire : ∀ payload trigger, Run.Alike hush Outcome.anonymousLeft
    (host.fire payload trigger) (host'.fire payload trigger)

/-- Code that is alike runs alike on hosts that answer alike. -/
theorem Code.Alike.run {hush : ν → ν} {host host' : Host π ν} (hosts : host.Alike hush host')
    {code code' : Code π ν} (h : code.Alike hush code') {ctx ctx' : Context}
    (same : ctx.anonymous = ctx'.anonymous) :
    Run.Alike hush Settled.anonymous (code.run host ctx) (code'.run host' ctx') := by
  induction h generalizing ctx ctx' with
  | finish => exact .pure (by simp [Settled.anonymous, same])
  | remark said rest ih =>
    refine (Run.Alike.emit ?_).bind fun _ _ _ => ih same
    exact congrArg Entry.remark said
  | retarget rest ih =>
    apply ih
    rw [Context.anonymous_retarget, Context.anonymous_retarget, same]
  | triggers rest ih =>
    rw [Code.run, Code.run, hosts.triggers]
    exact ih _ same
  | canFire rest ih => exact (hosts.canFire _ _).bind fun a a' seen => ih a a' seen same
  | fire rest ih =>
    -- a panic that escapes carries no identity, and ends both codes
    rw [Code.run, Code.run]
    refine (hosts.fire _ _).bind ?_
    rintro ⟨left, outcome⟩ ⟨left', outcome'⟩ seen
    obtain ⟨payload, ended⟩ := Prod.mk.inj seen
    obtain rfl : left = left' := payload
    cases outcome with
    | answered r =>
      cases outcome' with
      | answered r' => exact ih left r r' (Outcome.answered.inj ended) same
      | escaped value' => cases ended
    | escaped value =>
      cases outcome' with
      | answered r' => cases ended
      | escaped value' =>
        obtain rfl : value = value' := Outcome.escaped.inj ended
        exact .pure (by simp [Settled.anonymous, same])

end StateMachine
