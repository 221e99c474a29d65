import StateMachine.Proofs.Course

/-!
# Running the engine on two hosts

The engine itself asks its host for nothing; only the code of callbacks does. So if the code of
every callback runs on one host as on another, up to a relation between runs, then the whole engine
does.

* `Run.Congruence`: relations that are kept when runs are put together.
* `Code.Related`, and the same for guards, chains, recoveries, states and machines: code that runs
  alike on both hosts.
* For each function of the engine, a lemma `related_…`; the main ones are `Chain.related_execute`,
  `Recovery.related_execute`, `Machine.related_canFireOn` and `Machine.related_fireOn`.
-/

namespace StateMachine

variable {ε π ν : Type}

/-- Relations between runs that are kept when runs are put together. -/
structure Run.Congruence (R : (α : Type) → Run ε α → Run ε α → Prop) : Prop where
  pure : ∀ {α : Type} (a : α), R α (Pure.pure a) (Pure.pure a)
  emit : ∀ e : ε, R Unit (Run.emit e) (Run.emit e)
  fresh : R Nat Run.fresh Run.fresh
  bind : ∀ {α β : Type} {x x' : Run ε α} {y y' : α → Run ε β},
    R α x x' → (∀ a, R β (y a) (y' a)) → R β (x >>= y) (x' >>= y')

theorem Run.Congruence.map {R : (α : Type) → Run ε α → Run ε α → Prop} (cong : Congruence R)
    {α β : Type} {x x' : Run ε α} (f : α → β) (hx : R α x x') : R β (f <$> x) (f <$> x') := by
  rw [← bind_pure_comp, ← bind_pure_comp]
  exact cong.bind hx fun a => cong.pure (f a)

/-! ## Code that runs alike -/

section Related

variable (R : (α : Type) → Run (Entry π ν) α → Run (Entry π ν) α → Prop) (host host' : Host π ν)

/-- Whether code runs alike on two hosts, for every transition. -/
def Code.Related (code : Code π ν) : Prop := ∀ ctx, R _ (code.run host ctx) (code.run host' ctx)

/-- Whether the predicate of a guard runs alike. -/
def Guard.Related : Guard π ν → Prop
  | .triggerIs _ => True
  | .predicate _ code => ∀ payload ctx, (code payload ctx).Related R host host'

/-- Whether the guard and the operation of a step run alike. -/
structure Step.Related (step : Step π ν) : Prop where
  guard : ∀ g, step.guard = some g → g.Related R host host'
  operation : ∀ payload ctx, (step.operation payload ctx).Related R host host'

/-- Whether all steps of a chain run alike. -/
def Chain.Related (chain : Chain π ν) : Prop := ∀ step ∈ chain.steps, step.Related R host host'

/-- Whether all handlers run alike. -/
def Recovery.Related (recovery : Recovery π ν) : Prop :=
  ∀ handler ∈ recovery.handlers, ∀ payload ctx cause,
    (handler.operation payload ctx cause).Related R host host'

/-- Whether all callbacks of a state run alike. -/
structure Node.Related (node : Node π ν) : Prop where
  guards : ∀ edge ∈ node.edges, ∀ g, edge.guard = some g → g.Related R host host'
  exit : node.exit.Related R host host'
  entry : node.entry.Related R host host'
  recovery : node.recovery.Related R host host'

/-- Whether all callbacks of a machine run alike. -/
structure Machine.Related (m : Machine π ν) : Prop where
  nodes : ∀ node ∈ m.definition.nodes, node.Related R host host'
  effects : ∀ effect ∈ m.definition.effects.effects, ∀ phase payload ctx elapsed,
    (effect.callback phase payload ctx elapsed).Related R host host'

end Related

/-! ## The engine -/

section Engine

variable {R : (α : Type) → Run (Entry π ν) α → Run (Entry π ν) α → Prop} {host host' : Host π ν}
  (cong : Run.Congruence R)

include cong

theorem related_emit_pure {α : Type} (e : Entry π ν) (a : α) :
    R α (do Run.emit e; pure a) (do Run.emit e; pure a) :=
  cong.bind (cong.emit e) fun _ => cong.pure a

theorem PanicError.related_report (ctx : Context) (step : Nat) (label : String) (value : Raised) :
    R _ (PanicError.report ctx step label value) (PanicError.report ctx step label value) :=
  related_emit_pure cong _ _

theorem Context.related_create (source destination : State) (trigger : Trigger) :
    R _ (Context.create source destination trigger) (Context.create source destination trigger) :=
  cong.bind cong.fresh fun _ => cong.pure _

theorem Call.related_run (call : Call π) {code : Code π ν} (h : code.Related R host host') :
    R _ (call.run host code) (call.run host' code) :=
  cong.bind (cong.emit _) fun _ => cong.bind (h _) fun settled => related_emit_pure cong _ settled

namespace Guard

variable {g : Guard π ν}

theorem related_check (h : g.Related R host host') (role : Role) (payload : π) (ctx : Context) :
    R _ (g.check host role payload ctx) (g.check host' role payload ctx) := by
  cases g with
  | triggerIs t => exact cong.pure _
  | predicate label code => exact cong.map _ ((Call.mk ..).related_run cong (h payload ctx))

theorem related_permit (h : g.Related R host host') (payload : π) (ctx : Context) :
    R _ (g.permit host payload ctx) (g.permit host' payload ctx) := by
  refine cong.bind (related_check cong h _ payload ctx) fun verdict => ?_
  cases verdict with
  | ok => exact cong.pure _
  | fail => exact related_emit_pure cong _ _
  | panic => exact cong.bind (PanicError.related_report cong _ _ _ _) fun _ => cong.pure _

end Guard

namespace Step

variable {step : Step π ν}

theorem related_consult (h : step.Related R host host') (side : Side) (position : Nat)
    (ctx : Context) (payload : π) :
    R _ (step.consult host side position ctx payload)
      (step.consult host' side position ctx payload) := by
  unfold consult
  split
  · exact cong.pure _
  · next g hg =>
    refine cong.bind (Guard.related_check cong (h.guard g hg) _ payload ctx) fun verdict => ?_
    cases verdict with
    | ok => exact cong.pure _
    | fail => exact related_emit_pure cong _ _
    | panic => exact cong.map _ (PanicError.related_report cong _ _ _ _)

theorem related_operate (h : step.Related R host host') (side : Side) (position : Nat)
    (ctx : Context) (payload : π) :
    R _ (step.operate host side position ctx payload)
      (step.operate host' side position ctx payload) := by
  refine cong.bind ((Call.mk ..).related_run cong (h.operation payload ctx)) fun settled => ?_
  cases settled.verdict with
  | ok => exact cong.pure _
  | fail => exact related_emit_pure cong _ _
  | panic => exact cong.bind (PanicError.related_report cong _ _ _ _) fun _ => cong.pure _

end Step

theorem Chain.related_executeFrom (side : Side) (ctx : Context) (position : Nat)
    {steps : List (Step π ν)} (h : ∀ step ∈ steps, step.Related R host host') (payload : π) :
    R _ (executeFrom host side ctx position steps payload)
      (executeFrom host' side ctx position steps payload) := by
  induction steps generalizing position payload with
  | nil => exact cong.pure _
  | cons step rest ih =>
    rw [List.forall_mem_cons] at h
    refine cong.bind (Step.related_consult cong h.1 side position ctx payload) fun verdict => ?_
    match verdict with
    | .error _ => exact cong.pure _
    | .ok false => exact ih _ h.2 _
    | .ok true =>
      refine cong.bind (Step.related_operate cong h.1 side position ctx payload) fun ended => ?_
      match ended with
      | (_, .error _) => exact cong.pure _
      | (_, .ok ()) => exact ih _ h.2 _

theorem Chain.related_execute {chain : Chain π ν} (h : chain.Related R host host') (side : Side)
    (ctx : Context) (payload : π) :
    R _ (chain.execute host side ctx payload) (chain.execute host' side ctx payload) :=
  related_executeFrom cong side ctx 0 h payload

theorem Handler.related_handle {handler : Handler π ν} {cause : ChainError}
    (h : ∀ payload ctx, (handler.operation payload ctx cause).Related R host host')
    (position : Nat) (ctx : Context) (payload : π) :
    R _ (handler.handle host cause position ctx payload)
      (handler.handle host' cause position ctx payload) := by
  refine cong.bind ((Call.mk ..).related_run cong (h payload ctx)) ?_
  rintro ⟨left, reported, verdict⟩
  cases verdict with
  | ok =>
    dsimp only
    split
    · exact related_emit_pure cong _ _
    · exact cong.pure _
  | fail => exact related_emit_pure cong _ _
  | panic => exact cong.bind (PanicError.related_report cong _ _ _ _) fun _ => cong.pure _

theorem Recovery.related_executeFrom {cause : ChainError} (position : Nat)
    {handlers : List (Handler π ν)}
    (h : ∀ handler ∈ handlers, ∀ payload ctx,
      (handler.operation payload ctx cause).Related R host host')
    (ctx : Context) (payload : π) :
    R _ (executeFrom host cause position handlers ctx payload)
      (executeFrom host' cause position handlers ctx payload) := by
  induction handlers generalizing position ctx payload with
  | nil => exact cong.pure _
  | cons handler rest ih =>
    rw [List.forall_mem_cons] at h
    refine cong.bind (Handler.related_handle cong h.1 position ctx payload) fun recovered => ?_
    match recovered with
    | ⟨_, _, .error _⟩ => exact cong.pure _
    | ⟨_, _, .ok ()⟩ => exact ih _ h.2 _ _

theorem Recovery.related_execute {recovery : Recovery π ν} (h : recovery.Related R host host')
    (cause : ChainError) (ctx : Context) (payload : π) :
    R _ (recovery.execute host cause ctx payload) (recovery.execute host' cause ctx payload) :=
  related_executeFrom cong 0 (fun handler hh payload ctx => h handler hh payload ctx cause) ctx
    payload

theorem Node.related_recover {node : Node π ν} (h : node.recovery.Related R host host')
    (cause : ChainError) (ctx : Context) (payload : π) :
    R _ (node.recover host cause ctx payload) (node.recover host' cause ctx payload) := by
  refine cong.bind (Recovery.related_execute cong h cause ctx payload) fun recovered => ?_
  match recovered with
  | ⟨_, _, .error _⟩ => exact cong.pure _
  | ⟨_, _, .ok ()⟩ => exact cong.pure _

/-- Only the side effects that are told of the phase make a difference. -/
theorem Bus.related_deliver (phase : Phase) (payload : π) (ctx : Context) (elapsed told : Nat)
    {effects : List (Effect π ν)}
    (h : ∀ effect ∈ effects, effect.filter.allows phase = true →
      (effect.callback phase payload ctx elapsed).Related R host host') :
    R _ (deliver host phase payload ctx elapsed told effects)
      (deliver host' phase payload ctx elapsed told effects) := by
  induction effects generalizing told with
  | nil => exact cong.pure _
  | cons effect rest ih =>
    rw [List.forall_mem_cons] at h
    rw [deliver, deliver]
    split
    · next allowed =>
      refine cong.bind ((Call.mk ..).related_run cong (h.1 allowed)) fun settled => ?_
      split
      · exact cong.pure _
      · exact ih _ h.2
    · exact ih _ h.2

theorem Bus.related_dispatch (phase : Phase) (payload : π) (ctx : Context) (elapsed : Nat)
    {bus : Bus π ν}
    (h : ∀ effect ∈ bus.effects, effect.filter.allows phase = true →
      (effect.callback phase payload ctx elapsed).Related R host host') :
    R _ (bus.dispatch host phase payload ctx elapsed)
      (bus.dispatch host' phase payload ctx elapsed) := by
  refine cong.bind (related_deliver cong phase payload ctx elapsed 0 h) fun told => ?_
  cases told with
  | error => exact cong.pure _
  | ok => exact related_emit_pure cong _ _

namespace Machine

variable {m : Machine π ν}

theorem related_tell (h : m.Related R host host') (phase : Phase) (payload : π) (ctx : Context) :
    R _ (m.tell host phase payload ctx) (m.tell host' phase payload ctx) :=
  Bus.related_dispatch cong phase payload ctx _ fun effect he _ =>
    h.effects effect he phase payload ctx _

theorem related_fail (payload : π) (ctx : Context) (error : ChainError) :
    R _ (fail payload ctx error) (fail payload ctx error) :=
  related_emit_pure cong _ _

theorem related_abandon (h : m.Related R host host') {source : Node π ν}
    (hs : source.recovery.Related R host host') (cause : ChainError) (ctx : Context)
    (payload : π) :
    R _ (m.abandon host source cause ctx payload) (m.abandon host' source cause ctx payload) := by
  refine cong.bind (Node.related_recover cong hs cause ctx payload) fun recovered => ?_
  refine cong.bind (related_tell cong h .betweenStates _ _) fun told => ?_
  cases told with
  | error => exact cong.pure _
  | ok => exact related_fail cong _ _ _

theorem related_arrive (h : m.Related R host host') {destination : Node π ν}
    (hd : destination.Related R host host') (ctx : Context) (payload : π) :
    R _ (m.arrive host destination ctx payload) (m.arrive host' destination ctx payload) := by
  refine cong.bind (Chain.related_execute cong hd.entry .entry ctx payload) fun ended => ?_
  match ended with
  | (_, .error cause) =>
    exact cong.bind (Node.related_recover cong hd.recovery cause ctx _) fun _ =>
      related_fail cong _ _ _
  | (_, .ok ()) =>
    refine cong.bind (related_tell cong h .afterTransition _ _) fun told => ?_
    cases told with
    | error => exact cong.pure _
    | ok => exact related_emit_pure cong _ _

theorem related_transit (h : m.Related R host host') {source destination : Node π ν}
    (hs : source.Related R host host') (hd : destination.Related R host host') (ctx : Context)
    (payload : π) :
    R _ (m.transit host source destination ctx payload)
      (m.transit host' source destination ctx payload) := by
  refine cong.bind (cong.emit _) fun _ => ?_
  refine cong.bind (related_tell cong h .beforeTransition payload ctx) fun told => ?_
  cases told with
  | error => exact cong.pure _
  | ok =>
    refine cong.bind (Chain.related_execute cong hs.exit .exit ctx payload) fun ended => ?_
    match ended with
    | (_, .error cause) => exact related_abandon cong h hs.recovery cause ctx _
    | (_, .ok ()) =>
      refine cong.bind (related_tell cong h .betweenStates _ ctx) fun told => ?_
      cases told with
      | error => exact cong.pure _
      | ok => exact related_arrive cong h hd ctx _

variable [Payload π]

omit cong in
theorem mem_of_resolve {payload : π} {trigger : Trigger} {node : Node π ν} {edge : Edge π ν}
    (h : m.resolve payload trigger = .ok (node, edge)) :
    node ∈ m.definition.nodes ∧ edge ∈ node.edges := by
  obtain ⟨hn, he⟩ := resolve_eq_ok_iff.1 h
  exact ⟨Definition.mem_of_node? hn, Node.mem_of_edge? he⟩

theorem related_canFireOn (h : m.Related R host host') (payload : π) (trigger : Trigger) :
    R _ (m.canFireOn host payload trigger) (m.canFireOn host' payload trigger) := by
  unfold canFireOn
  split
  · exact cong.pure _
  · next node edge found =>
    obtain ⟨hn, he⟩ := mem_of_resolve found
    split
    · exact cong.pure _
    · next g hg =>
      refine cong.bind (Context.related_create cong _ _ _) fun ctx => ?_
      exact Guard.related_permit cong ((h.nodes node hn).guards edge he g hg) payload ctx

theorem related_fireOn (h : m.Related R host host') (payload : π) (trigger : Trigger) :
    R _ (m.fireOn host payload trigger) (m.fireOn host' payload trigger) := by
  unfold fireOn
  split
  · exact cong.pure _
  · next source edge found =>
    obtain ⟨hn, he⟩ := mem_of_resolve found
    split
    · exact cong.pure _
    · next destination hd =>
      have transits := related_transit cong h (h.nodes source hn)
        (h.nodes destination (Definition.mem_of_node? hd))
      refine cong.bind (Context.related_create cong _ _ _) fun ctx => ?_
      split
      · exact transits ctx payload
      · next g hg =>
        have guard := (h.nodes source hn).guards edge he g hg
        refine cong.bind (Guard.related_permit cong guard payload ctx) fun admitted => ?_
        match admitted with
        | .error _ => exact cong.pure _
        | .ok () => exact transits ctx payload

end Machine

end Engine

end StateMachine
