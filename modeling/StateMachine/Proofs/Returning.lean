import StateMachine.Proofs.Congruence

/-!
# Returning

The engine always comes to an end with a value, whatever callbacks do, as long as their own code
does.

* `Run.Returns`: runs that finish; putting such runs together keeps it.
* `Code.Returns`, and the same for guards, chains, recoveries, states and machines: code that
  finishes on the given host.
* `Chain.returns_execute`, `Recovery.returns_execute`, `Machine.returns_canFireOn` and
  `Machine.returns_fireOn`: what the engine does with such code finishes.
-/

namespace StateMachine

variable {ε π ν α : Type}

/-- Whether a run finishes, whatever the next unused identity is. -/
def Run.Returns (x : Run ε α) : Prop := ∀ n, (x n).isSome = true

/-- Finishing is kept when runs are put together. It looks at one of the two runs only. -/
theorem Run.congruence_returns : Run.Congruence fun _ (x _ : Run ε _) => x.Returns where
  pure _ _ := rfl
  emit _ _ := rfl
  fresh _ := rfl
  bind hx hy n := by
    obtain ⟨r, hr⟩ := Option.isSome_iff_exists.1 (hx n)
    obtain ⟨s, hs⟩ := Option.isSome_iff_exists.1 (hy r.value r.next)
    exact Option.isSome_iff_exists.2 ⟨_, Run.bind_eq_some_iff.2 ⟨r, s, hr, hs, rfl⟩⟩

/-! ## Code that returns -/

variable (host : Host π ν)

/-- Whether code finishes on a host, for every transition. -/
def Code.Returns (code : Code π ν) : Prop := ∀ ctx, (code.run host ctx).Returns

/-- Whether the predicate of a guard finishes. -/
def Guard.Returns : Guard π ν → Prop
  | .triggerIs _ => True
  | .predicate _ code => ∀ payload ctx, (code payload ctx).Returns host

/-- Whether the guard and the operation of a step finish. -/
structure Step.Returns (step : Step π ν) : Prop where
  guard : ∀ g, step.guard = some g → g.Returns host
  operation : ∀ payload ctx, (step.operation payload ctx).Returns host

/-- Whether all steps of a chain finish. -/
def Chain.Returns (chain : Chain π ν) : Prop := ∀ step ∈ chain.steps, step.Returns host

/-- Whether all handlers finish. -/
def Recovery.Returns (recovery : Recovery π ν) : Prop :=
  ∀ handler ∈ recovery.handlers, ∀ payload ctx cause,
    (handler.operation payload ctx cause).Returns host

/-- Whether all callbacks of a state finish. -/
structure Node.Returns (node : Node π ν) : Prop where
  guards : ∀ edge ∈ node.edges, ∀ g, edge.guard = some g → g.Returns host
  exit : node.exit.Returns host
  entry : node.entry.Returns host
  recovery : node.recovery.Returns host

/-- Whether all callbacks of a machine finish. -/
structure Machine.Returns (m : Machine π ν) : Prop where
  nodes : ∀ node ∈ m.definition.nodes, node.Returns host
  effects : ∀ effect ∈ m.definition.effects.effects, ∀ phase payload ctx elapsed,
    (effect.callback phase payload ctx elapsed).Returns host

variable {host}

/-! ### The same, told by the relation -/

theorem Guard.Returns.related {g : Guard π ν} (h : g.Returns host) :
    g.Related (fun _ x _ => x.Returns) host host := by
  cases g with
  | triggerIs t => trivial
  | predicate label code => exact h

theorem Step.Returns.related {step : Step π ν} (h : step.Returns host) :
    step.Related (fun _ x _ => x.Returns) host host :=
  ⟨fun g hg => (h.guard g hg).related, h.operation⟩

theorem Chain.Returns.related {chain : Chain π ν} (h : chain.Returns host) :
    chain.Related (fun _ x _ => x.Returns) host host :=
  fun step hs => (h step hs).related

theorem Recovery.Returns.related {recovery : Recovery π ν} (h : recovery.Returns host) :
    recovery.Related (fun _ x _ => x.Returns) host host := h

theorem Node.Returns.related {node : Node π ν} (h : node.Returns host) :
    node.Related (fun _ x _ => x.Returns) host host :=
  ⟨fun edge he g hg => (h.guards edge he g hg).related, h.exit.related, h.entry.related,
    h.recovery.related⟩

theorem Machine.Returns.related {m : Machine π ν} (h : m.Returns host) :
    m.Related (fun _ x _ => x.Returns) host host :=
  ⟨fun node hn => (h.nodes node hn).related, h.effects⟩

/-! ## The engine -/

theorem Chain.returns_execute {chain : Chain π ν} (h : chain.Returns host) (side : Side)
    (ctx : Context) (payload : π) : (chain.execute host side ctx payload).Returns :=
  Chain.related_execute Run.congruence_returns h.related side ctx payload

theorem Recovery.returns_execute {recovery : Recovery π ν} (h : recovery.Returns host)
    (cause : ChainError) (ctx : Context) (payload : π) :
    (recovery.execute host cause ctx payload).Returns :=
  Recovery.related_execute Run.congruence_returns h.related cause ctx payload

namespace Machine

variable [Payload π] {m : Machine π ν}

theorem returns_canFireOn (h : m.Returns host) (payload : π) (trigger : Trigger) :
    (m.canFireOn host payload trigger).Returns :=
  related_canFireOn Run.congruence_returns h.related payload trigger

theorem returns_fireOn (h : m.Returns host) (payload : π) (trigger : Trigger) :
    (m.fireOn host payload trigger).Returns :=
  related_fireOn Run.congruence_returns h.related payload trigger

end Machine

end StateMachine
