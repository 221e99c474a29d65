import StateMachine.Proofs.Anonymity
import StateMachine.Proofs.Demand
import StateMachine.Script

/-!
# Blind callbacks

A callback is blind if it does not look at identities and times. The engine itself is blind: a
machine whose callbacks are answers alike, whatever identities it draws and however long its
transitions take.

* `BlindTo`, `BlindToCause`, `BlindToTime`: callbacks that are alike for contexts and causes that
  differ in identities only, at any time; `Definition.Blind` tells that all callbacks are.
* For each function of the engine, a lemma `alike_…`; the main ones are `Machine.alike_canFireOn`
  and `Machine.alike_fireOn`.
* `Machine.alike_host`: a blind machine answers its callbacks alike, so `Machine.alike_fire` and
  `Machine.alike_canFire` hold for machines that differ in their stopwatch only.
* `Script.alike_code`: scripts are blind.
-/

namespace StateMachine

variable {π ν : Type}

section Blind

variable (hush : ν → ν)

/-- Whether a callback does the same for contexts that differ in their identity only. -/
def BlindTo (code : π → Context → Code π ν) : Prop :=
  ∀ payload ctx ctx', ctx.anonymous = ctx'.anonymous →
    (code payload ctx).Alike hush (code payload ctx')

/-- Whether an error handler does the same for contexts and causes that differ in identities
only. -/
def BlindToCause (code : π → Context → ChainError → Code π ν) : Prop :=
  ∀ payload ctx ctx' cause cause', ctx.anonymous = ctx'.anonymous →
    cause.anonymous = cause'.anonymous →
    (code payload ctx cause).Alike hush (code payload ctx' cause')

/-- Whether a side effect does the same at all times for contexts that differ in their identity
only. -/
def BlindToTime (code : Phase → π → Context → Nat → Code π ν) : Prop :=
  ∀ phase payload ctx ctx' elapsed elapsed', ctx.anonymous = ctx'.anonymous →
    (code phase payload ctx elapsed).Alike hush (code phase payload ctx' elapsed')

/-- The demand that callbacks are blind. -/
def blindness : Demand π ν := ⟨BlindTo hush, BlindToCause hush, BlindToTime hush⟩

/-- Whether all callbacks of a definition are blind. -/
def Definition.Blind (d : Definition π ν) : Prop := d.Meets (blindness hush)

end Blind

/-! ## The engine -/

section Engine

variable {hush : ν → ν} {host host' : Host π ν} {ctx ctx' : Context}

theorem PanicError.alike_report (same : ctx.anonymous = ctx'.anonymous) (step : Nat)
    (label : String) (value : Raised) :
    Run.Alike (π := π) hush PanicError.anonymous (PanicError.report ctx step label value)
      (PanicError.report ctx' step label value) := by
  have panics : (⟨ctx, step, label, value.payload⟩ : PanicError).anonymous =
      (⟨ctx', step, label, value.payload⟩ : PanicError).anonymous := by
    simp [PanicError.anonymous, same]
  refine (Run.Alike.event ?_).bind fun _ _ _ => .pure panics
  rw [Event.anonymous, Event.anonymous, panics]

theorem alike_emit_pure {α β : Type} {f : α → β} {e e' : Event} {a a' : α}
    (events : e.anonymous = e'.anonymous) (values : f a = f a') :
    Run.Alike (π := π) hush f (do Run.emit (.event e); pure a) (do Run.emit (.event e'); pure a') :=
  (Run.Alike.event events).bind fun _ _ _ => .pure values

variable (hosts : host.Alike hush host')

include hosts

theorem Call.alike_run {call call' : Call π} (calls : call.anonymous = call'.anonymous)
    {code code' : Code π ν} (h : code.Alike hush code') :
    Run.Alike hush Settled.anonymous (call.run host code) (call'.run host' code') := by
  have same : call.context.anonymous = call'.context.anonymous :=
    congrArg Call.context calls
  have lines : (Entry.call call : Entry π ν).anonymous hush = (Entry.call call').anonymous hush :=
    congrArg Entry.call calls
  refine (Run.Alike.emit lines).bind fun _ _ _ => ?_
  refine (h.run hosts same).bind fun settled settled' left => ?_
  refine (Run.Alike.emit ?_).bind fun _ _ _ => .pure left
  rw [Entry.anonymous, Entry.anonymous, calls, left]

namespace Guard

variable {g : Guard π ν}

theorem alike_check (blind : g.Meets (blindness hush)) (role : Role) (payload : π)
    (same : ctx.anonymous = ctx'.anonymous) :
    Run.Alike hush id (g.check host role payload ctx) (g.check host' role payload ctx') := by
  cases g with
  | triggerIs t =>
    obtain ⟨-, -, trigger⟩ := Context.anonymous_inj.1 same
    exact .pure (by rw [trigger])
  | predicate label code =>
    refine (Call.alike_run hosts ?_ (blind payload ctx ctx' same)).map fun _ _ left => ?_
    · rw [Call.anonymous, Call.anonymous, same]
    · exact (Settled.mk.inj left).2.2

theorem alike_permit (blind : g.Meets (blindness hush)) (payload : π)
    (same : ctx.anonymous = ctx'.anonymous) :
    Run.Alike hush (veiled FireError.anonymous id) (g.permit host payload ctx)
      (g.permit host' payload ctx') := by
  refine (alike_check hosts blind .edgeGuard payload same).bind ?_
  rintro verdict _ rfl
  cases verdict with
  | ok => exact .pure rfl
  | fail failure =>
    obtain ⟨source, -, trigger⟩ := Context.anonymous_inj.1 same
    refine alike_emit_pure ?_ ?_
    · rw [Event.anonymous, Event.anonymous, same]
    · rw [source, trigger]
  | panic value =>
    refine (PanicError.alike_report same 0 g.label value).bind fun e e' panics => .pure ?_
    rw [veiled, veiled, FireError.anonymous, FireError.anonymous, panics]

end Guard

namespace Step

variable {step : Step π ν}

theorem alike_consult (blind : step.Meets (blindness hush)) (side : Side) (position : Nat)
    (payload : π) (same : ctx.anonymous = ctx'.anonymous) :
    Run.Alike hush (veiled PanicError.anonymous id) (step.consult host side position ctx payload)
      (step.consult host' side position ctx' payload) := by
  unfold consult
  split
  · exact .pure rfl
  · next g hg =>
    refine (Guard.alike_check hosts (blind.guard g hg) (.stepGuard side) payload same).bind ?_
    rintro verdict _ rfl
    cases verdict with
    | ok => exact .pure rfl
    | fail reason => exact alike_emit_pure (by rw [Event.anonymous, Event.anonymous, same]) rfl
    | panic value =>
      refine (PanicError.alike_report same position g.label value).map fun e e' panics => ?_
      rw [veiled, veiled, panics]

theorem alike_operate (blind : step.Meets (blindness hush)) (side : Side) (position : Nat)
    (payload : π) (same : ctx.anonymous = ctx'.anonymous) :
    Run.Alike hush Chain.anonymousLeft (step.operate host side position ctx payload)
      (step.operate host' side position ctx' payload) := by
  have calls : (Call.mk (.operation side) step.label ctx payload).anonymous =
      (Call.mk (.operation side) step.label ctx' payload).anonymous := by
    rw [Call.anonymous, Call.anonymous, same]
  refine (Call.alike_run hosts calls (blind.operation payload ctx ctx' same)).bind ?_
  rintro ⟨left, reported, verdict⟩ ⟨left', reported', verdict'⟩ settled
  obtain ⟨rfl, -, rfl⟩ := Settled.mk.inj settled
  cases verdict with
  | ok => exact .pure rfl
  | fail failure => exact alike_emit_pure (by rw [Event.anonymous, Event.anonymous, same]) rfl
  | panic value =>
    refine (PanicError.alike_report same position step.label value).bind fun e e' panics =>
      .pure ?_
    rw [Chain.anonymousLeft, Chain.anonymousLeft, veiled, veiled, ChainError.anonymous,
      ChainError.anonymous, panics]

end Step

theorem Chain.alike_executeFrom (side : Side) (same : ctx.anonymous = ctx'.anonymous)
    (position : Nat) {steps : List (Step π ν)} (blind : ∀ step ∈ steps, step.Meets (blindness hush))
    (payload : π) :
    Run.Alike hush Chain.anonymousLeft (executeFrom host side ctx position steps payload)
      (executeFrom host' side ctx' position steps payload) := by
  induction steps generalizing position payload with
  | nil => exact .pure rfl
  | cons step rest ih =>
    obtain ⟨first, others⟩ := List.forall_mem_cons.1 blind
    refine (Step.alike_consult hosts first side position payload same).bind fun r r' seen => ?_
    obtain ⟨e, e', rfl, rfl, panics⟩ | ⟨b, _, rfl, rfl, rfl⟩ := veiled_cases seen
    · refine .pure ?_
      rw [Chain.anonymousLeft, Chain.anonymousLeft, veiled, veiled, ChainError.anonymous,
        ChainError.anonymous, panics]
    cases b with
    | false => exact ih _ others _
    | true =>
      refine (Step.alike_operate hosts first side position payload same).bind ?_
      rintro ⟨left, r⟩ ⟨left', r'⟩ seen
      obtain ⟨payloads, results⟩ := Prod.mk.inj seen
      obtain rfl : left = left' := payloads
      obtain ⟨e, e', rfl, rfl, errors⟩ | ⟨_, _, rfl, rfl, -⟩ := veiled_cases results
      · refine .pure ?_
        rw [Chain.anonymousLeft, Chain.anonymousLeft, veiled, veiled, errors]
      · exact ih _ others _

theorem Chain.alike_execute {chain : Chain π ν} (blind : chain.Meets (blindness hush)) (side : Side)
    (same : ctx.anonymous = ctx'.anonymous) (payload : π) :
    Run.Alike hush Chain.anonymousLeft (chain.execute host side ctx payload)
      (chain.execute host' side ctx' payload) :=
  alike_executeFrom hosts side same 0 blind payload

theorem Handler.alike_handle {handler : Handler π ν} (blind : BlindToCause hush handler.operation)
    {cause cause' : ChainError} (causes : cause.anonymous = cause'.anonymous) (position : Nat)
    (same : ctx.anonymous = ctx'.anonymous) (payload : π) :
    Run.Alike hush Recovered.anonymous (handler.handle host cause position ctx payload)
      (handler.handle host' cause' position ctx' payload) := by
  have calls : (Call.mk (.handler cause) handler.label ctx payload).anonymous =
      (Call.mk (.handler cause') handler.label ctx' payload).anonymous := by
    rw [Call.anonymous, Call.anonymous, Role.anonymous, Role.anonymous, causes, same]
  refine (Call.alike_run hosts calls (blind payload ctx ctx' cause cause' same causes)).bind ?_
  rintro ⟨left, reported, verdict⟩ ⟨left', reported', verdict'⟩ settled
  obtain ⟨rfl, contexts, rfl⟩ := Settled.mk.inj settled
  obtain ⟨-, before, -⟩ := Context.anonymous_inj.1 same
  obtain ⟨-, after, -⟩ := Context.anonymous_inj.1 contexts
  cases verdict with
  | ok =>
    have kept : Recovered.anonymous (⟨left, reported, .ok ()⟩ : Recovered π) =
        Recovered.anonymous ⟨left, reported', .ok ()⟩ := by
      rw [Recovered.anonymous, Recovered.anonymous, contexts]
    dsimp only
    rw [before, after]
    split
    · exact alike_emit_pure (by rw [Event.anonymous, Event.anonymous, contexts]) kept
    · exact .pure kept
  | fail failure =>
    refine alike_emit_pure (by rw [Event.anonymous, Event.anonymous, contexts]) ?_
    rw [Recovered.anonymous, Recovered.anonymous, contexts]
  | panic value =>
    refine (PanicError.alike_report contexts position handler.label value).bind fun e e' panics =>
      .pure ?_
    rw [Recovered.anonymous, Recovered.anonymous, contexts, veiled, veiled, ChainError.anonymous,
      ChainError.anonymous, panics]

theorem Recovery.alike_executeFrom {cause cause' : ChainError}
    (causes : cause.anonymous = cause'.anonymous) (position : Nat) {handlers : List (Handler π ν)}
    (blind : ∀ handler ∈ handlers, BlindToCause hush handler.operation)
    (same : ctx.anonymous = ctx'.anonymous)
    (payload : π) :
    Run.Alike hush Recovered.anonymous (executeFrom host cause position handlers ctx payload)
      (executeFrom host' cause' position handlers ctx' payload) := by
  induction handlers generalizing position ctx ctx' payload with
  | nil =>
    refine .pure ?_
    rw [Recovered.anonymous, Recovered.anonymous, same]
  | cons handler rest ih =>
    obtain ⟨first, others⟩ := List.forall_mem_cons.1 blind
    refine (Handler.alike_handle hosts first causes position same payload).bind ?_
    rintro ⟨left, reported, r⟩ ⟨left', reported', r'⟩ recovered
    obtain ⟨payloads, contexts, results⟩ := Recovered.mk.inj recovered
    obtain rfl : left = left' := payloads
    obtain ⟨e, e', rfl, rfl, errors⟩ | ⟨_, _, rfl, rfl, -⟩ := veiled_cases results
    · refine .pure ?_
      rw [Recovered.anonymous, Recovered.anonymous, veiled, veiled, contexts, errors]
    · exact ih _ others contexts left

theorem Node.alike_recover {node : Node π ν} (blind : node.recovery.Meets (blindness hush))
    {cause cause' : ChainError} (causes : cause.anonymous = cause'.anonymous)
    (same : ctx.anonymous = ctx'.anonymous) (payload : π) :
    Run.Alike hush Node.anonymousLeft (node.recover host cause ctx payload)
      (node.recover host' cause' ctx' payload) := by
  refine (Recovery.alike_executeFrom hosts causes 0 blind same payload).bind ?_
  rintro ⟨left, reported, r⟩ ⟨left', reported', r'⟩ recovered
  obtain ⟨payloads, contexts, results⟩ := Recovered.mk.inj recovered
  obtain rfl : left = left' := payloads
  obtain ⟨e, e', rfl, rfl, errors⟩ | ⟨_, _, rfl, rfl, -⟩ := veiled_cases results
  · exact .pure (by rw [Node.anonymousLeft, Node.anonymousLeft, contexts, errors])
  · exact .pure (by rw [Node.anonymousLeft, Node.anonymousLeft, contexts, causes])

theorem Bus.alike_deliver (phase : Phase) (payload : π) (same : ctx.anonymous = ctx'.anonymous)
    (elapsed elapsed' told : Nat) {effects : List (Effect π ν)}
    (blind : ∀ effect ∈ effects, BlindToTime hush effect.callback) :
    Run.Alike hush id (deliver host phase payload ctx elapsed told effects)
      (deliver host' phase payload ctx' elapsed' told effects) := by
  induction effects generalizing told with
  | nil => exact .pure rfl
  | cons effect rest ih =>
    obtain ⟨first, others⟩ := List.forall_mem_cons.1 blind
    rw [deliver, deliver]
    split
    · have calls : (Call.mk (.effect phase elapsed) effect.label ctx payload).anonymous =
          (Call.mk (.effect phase elapsed') effect.label ctx' payload).anonymous := by
        rw [Call.anonymous, Call.anonymous, Role.anonymous, Role.anonymous, same]
      refine (Call.alike_run hosts calls
        (first phase payload ctx ctx' elapsed elapsed' same)).bind ?_
      rintro ⟨left, reported, verdict⟩ ⟨left', reported', verdict'⟩ settled
      obtain ⟨-, -, rfl⟩ := Settled.mk.inj settled
      cases verdict with
      | panic value => exact .pure rfl
      | ok => exact ih _ others
      | fail failure => exact ih _ others
    · exact ih _ others

namespace Machine

variable {m m' : Machine π ν} (definitions : m.definition = m'.definition)
  (blind : m.definition.Blind hush)

include definitions blind

theorem alike_tell (phase : Phase) (payload : π) (same : ctx.anonymous = ctx'.anonymous) :
    Run.Alike hush id (m.tell host phase payload ctx) (m'.tell host' phase payload ctx') := by
  rw [tell, tell, ← definitions]
  refine (Bus.alike_deliver hosts phase payload same _ _ 0 blind.effects).bind ?_
  rintro told _ rfl
  cases told with
  | error value => exact .pure rfl
  | ok told => exact alike_emit_pure (by rw [Event.anonymous, Event.anonymous, same]) rfl

omit hosts definitions blind in
theorem alike_fail {error error' : ChainError} (errors : error.anonymous = error'.anonymous)
    (same : ctx.anonymous = ctx'.anonymous) (payload : π) :
    Run.Alike (ν := ν) hush Outcome.anonymousLeft (fail payload ctx error)
      (fail payload ctx' error') := by
  refine alike_emit_pure ?_ ?_
  · rw [Event.anonymous, Event.anonymous, same, errors]
  · rw [Outcome.anonymousLeft, Outcome.anonymousLeft, Outcome.anonymous, Outcome.anonymous, veiled,
      veiled, FireError.anonymous, FireError.anonymous, same, errors]

theorem alike_abandon {source : Node π ν} (recovers : source.recovery.Meets (blindness hush))
    {cause cause' : ChainError} (causes : cause.anonymous = cause'.anonymous)
    (same : ctx.anonymous = ctx'.anonymous) (payload : π) :
    Run.Alike hush Outcome.anonymousLeft (m.abandon host source cause ctx payload)
      (m'.abandon host' source cause' ctx' payload) := by
  refine (Node.alike_recover hosts recovers causes same payload).bind ?_
  rintro ⟨left, reported, error⟩ ⟨left', reported', error'⟩ seen
  obtain ⟨payloads, rest⟩ := Prod.mk.inj seen
  obtain ⟨contexts, errors⟩ := Prod.mk.inj rest
  obtain rfl : left = left' := payloads
  refine (alike_tell hosts definitions blind .betweenStates left contexts).bind ?_
  rintro told _ rfl
  cases told with
  | error value => exact .pure rfl
  | ok told => exact alike_fail errors contexts left

theorem alike_arrive {destination : Node π ν} (callbacks : destination.Meets (blindness hush))
    (same : ctx.anonymous = ctx'.anonymous) (payload : π) :
    Run.Alike hush Outcome.anonymousLeft (m.arrive host destination ctx payload)
      (m'.arrive host' destination ctx' payload) := by
  refine (Chain.alike_execute hosts callbacks.entry .entry same payload).bind ?_
  rintro ⟨left, r⟩ ⟨left', r'⟩ seen
  obtain ⟨payloads, results⟩ := Prod.mk.inj seen
  obtain rfl : left = left' := payloads
  obtain ⟨e, e', rfl, rfl, errors⟩ | ⟨_, _, rfl, rfl, -⟩ := veiled_cases results
  · refine (Node.alike_recover hosts callbacks.recovery errors same left).bind ?_
    rintro ⟨left, reported, error⟩ ⟨left', reported', error'⟩ seen
    obtain ⟨payloads, rest⟩ := Prod.mk.inj seen
    obtain ⟨contexts, errors⟩ := Prod.mk.inj rest
    obtain rfl : left = left' := payloads
    exact alike_fail errors contexts left
  · refine (alike_tell hosts definitions blind .afterTransition left same).bind ?_
    rintro told _ rfl
    cases told with
    | error value => exact .pure rfl
    | ok told =>
      refine alike_emit_pure (by rw [Event.anonymous, Event.anonymous, same]) ?_
      rw [Outcome.anonymousLeft, Outcome.anonymousLeft, Outcome.anonymous, Outcome.anonymous,
        veiled, veiled, same]

theorem alike_transit {source destination : Node π ν} (leaving : source.Meets (blindness hush))
    (entering : destination.Meets (blindness hush)) (same : ctx.anonymous = ctx'.anonymous)
    (payload : π) :
    Run.Alike hush Outcome.anonymousLeft (m.transit host source destination ctx payload)
      (m'.transit host' source destination ctx' payload) := by
  have begun : (Event.firing ctx).anonymous = (Event.firing ctx').anonymous := by
    rw [Event.anonymous, Event.anonymous, same]
  refine (Run.Alike.event begun).bind fun _ _ _ => ?_
  refine (alike_tell hosts definitions blind .beforeTransition payload same).bind ?_
  rintro told _ rfl
  cases told with
  | error value => exact .pure rfl
  | ok told =>
    refine (Chain.alike_execute hosts leaving.exit .exit same payload).bind ?_
    rintro ⟨left, r⟩ ⟨left', r'⟩ seen
    obtain ⟨payloads, results⟩ := Prod.mk.inj seen
    obtain rfl : left = left' := payloads
    obtain ⟨e, e', rfl, rfl, errors⟩ | ⟨_, _, rfl, rfl, -⟩ := veiled_cases results
    · exact alike_abandon hosts definitions blind leaving.recovery errors same left
    · refine (alike_tell hosts definitions blind .betweenStates left same).bind ?_
      rintro told _ rfl
      cases told with
      | error value => exact .pure rfl
      | ok told => exact alike_arrive hosts definitions blind entering same left

variable [Payload π]

omit hosts blind in
theorem resolve_of_definition (payload : π) (trigger : Trigger) :
    m.resolve payload trigger = m'.resolve payload trigger := by
  rw [resolve, resolve, node, node, definitions]

theorem alike_canFireOn (payload : π) (trigger : Trigger) :
    Run.Alike hush (veiled FireError.anonymous id) (m.canFireOn host payload trigger)
      (m'.canFireOn host' payload trigger) := by
  rw [canFireOn, canFireOn, ← resolve_of_definition definitions]
  split
  · exact .pure rfl
  · next node edge found =>
    obtain ⟨hn, he⟩ := mem_of_resolve found
    split
    · exact .pure rfl
    · next g hg =>
      refine (Run.Alike.create _ _ _).bind fun ctx ctx' same => ?_
      exact Guard.alike_permit hosts ((blind.nodes node hn).guards edge he g hg) payload same

theorem alike_fireOn (payload : π) (trigger : Trigger) :
    Run.Alike hush Outcome.anonymousLeft (m.fireOn host payload trigger)
      (m'.fireOn host' payload trigger) := by
  rw [fireOn, fireOn, ← resolve_of_definition definitions, ← definitions]
  split
  · exact .pure rfl
  · next source edge found =>
    obtain ⟨hn, he⟩ := mem_of_resolve found
    split
    · exact .pure rfl
    · next destination hd =>
      have transits {ctx ctx' : Context} (same : ctx.anonymous = ctx'.anonymous) :=
        alike_transit hosts definitions blind (blind.nodes source hn)
          (blind.nodes destination (Definition.mem_of_node? hd)) same payload
      refine (Run.Alike.create _ _ _).bind fun ctx ctx' same => ?_
      split
      · exact transits same
      · next g hg =>
        have guard := (blind.nodes source hn).guards edge he g hg
        refine (Guard.alike_permit hosts guard payload same).bind fun r r' seen => ?_
        obtain ⟨e, e', rfl, rfl, errors⟩ | ⟨_, _, rfl, rfl, -⟩ := veiled_cases seen
        · refine .pure ?_
          rw [Outcome.anonymousLeft, Outcome.anonymousLeft, Outcome.anonymous, Outcome.anonymous,
            veiled, veiled, errors]
        · exact transits same

omit hosts

omit blind in
theorem triggers_of_definition : m.triggers = m'.triggers := by
  funext payload
  rw [triggers, triggers, node, node, definitions]

/-- A blind machine answers its callbacks alike, whatever time its transitions take. -/
theorem alike_host (depth : Nat) : (m.host depth).Alike hush (m'.host depth) := by
  induction depth with
  | zero =>
    exact ⟨triggers_of_definition definitions, fun _ _ => .exhausted, fun _ _ => .exhausted⟩
  | succ depth ih =>
    exact ⟨triggers_of_definition definitions, alike_canFireOn ih definitions blind,
      alike_fireOn ih definitions blind⟩

theorem alike_canFire (depth : Nat) (payload : π) (trigger : Trigger) :
    Run.Alike hush (veiled FireError.anonymous id) (m.canFire depth payload trigger)
      (m'.canFire depth payload trigger) :=
  alike_canFireOn (alike_host definitions blind depth) definitions blind payload trigger

theorem alike_fire (depth : Nat) (payload : π) (trigger : Trigger) :
    Run.Alike hush Outcome.anonymousLeft (m.fire depth payload trigger)
      (m'.fire depth payload trigger) :=
  alike_fireOn (alike_host definitions blind depth) definitions blind payload trigger

end Machine

end Engine

/-! ## Scripts -/

-- The messages are unfolded by `delta`: their equation lemmas are slow to make.

theorem PanicError.message_anonymous (e : PanicError) : e.anonymous.message = e.message := by
  delta PanicError.message
  rfl

theorem ChainError.message_anonymous (e : ChainError) : e.anonymous.message = e.message := by
  cases e with
  | panic error => exact error.message_anonymous
  | _ => rfl

theorem FireError.message_anonymous (e : FireError) : e.anonymous.message = e.message := by
  cases e with
  | chain ctx error =>
    delta FireError.message
    dsimp only [FireError.anonymous, Context.anonymous]
    rw [error.message_anonymous]
  | guardPanicked error =>
    delta FireError.message
    dsimp only [FireError.anonymous]
    rw [error.message_anonymous]
  | _ => rfl

/-- A remark without the identities in the answer that it tells. -/
def Remark.anonymous : Remark → Remark
  | canFire trigger answer => canFire trigger (veiled FireError.anonymous id answer)
  | fired tolerant trigger answer =>
    fired tolerant trigger (veiled FireError.anonymous Context.anonymous answer)
  | logged value => logged value

/-- Where a script stands, without the identity in the cause. -/
def Grant.anonymous : Grant → Grant
  | recover cause => recover cause.anonymous
  | grant => grant

namespace Script

variable {grant grant' : Grant}

theorem changes_of_anonymous (grants : grant.anonymous = grant'.anonymous) :
    grant.changes = grant'.changes := by
  cases grant <;> cases grant' <;> first | rfl | exact nomatch grants

/-- Two scripts stand in the same place, or both in an error handler, with causes that differ in
identities only. -/
theorem grants_cases (grants : grant.anonymous = grant'.anonymous) :
    (grant = grant' ∧ ∀ cause, grant ≠ .recover cause) ∨
      ∃ cause cause', grant = .recover cause ∧ grant' = .recover cause' ∧
        cause.anonymous = cause'.anonymous := by
  cases grant with
  | look =>
    cases grant' with
    | look => exact .inl ⟨rfl, nofun⟩
    | _ => exact nomatch grants
  | change =>
    cases grant' with
    | change => exact .inl ⟨rfl, nofun⟩
    | _ => exact nomatch grants
  | recover cause =>
    cases grant' with
    | recover cause' => exact .inr ⟨cause, cause', rfl, rfl, Grant.recover.inj grants⟩
    | _ => exact nomatch grants

/-- Whether what follows an action in two scripts is alike. -/
def Follows (next next' : Subject → Context → Code Subject Remark) : Prop :=
  ∀ s ctx ctx', ctx.anonymous = ctx'.anonymous →
    (next s ctx).Alike Remark.anonymous (next' s ctx')

section Actions

variable {ctx ctx' : Context} {next next' : Subject → Context → Code Subject Remark}

/-- A fire in a script that does not tolerate errors fails with what the error says. -/
theorem alike_fire_action (grants : grant.anonymous = grant'.anonymous)
    (same : ctx.anonymous = ctx'.anonymous) (rest : Follows next next') (s : Subject)
    (tolerant : Bool) (trigger : Trigger) :
    ((Action.fire tolerant trigger).code grant ctx s next).Alike Remark.anonymous
      ((Action.fire tolerant trigger).code grant' ctx' s next') := by
  rw [Action.code, Action.code, changes_of_anonymous grants]
  by_cases changes : grant'.changes = true
  · rw [if_pos changes, if_pos changes]
    refine .fire fun left a a' seen => .remark ?_ ?_
    · rw [Remark.anonymous, Remark.anonymous, seen]
    obtain ⟨e, e', rfl, rfl, errors⟩ | ⟨_, _, rfl, rfl, -⟩ := veiled_cases seen
    · have message : e.message = e'.message := by
        rw [← e.message_anonymous, errors, e'.message_anonymous]
      dsimp only
      rw [message]
      cases tolerant with
      | true => exact rest left ctx ctx' same
      | false => exact .finish
    · exact rest left ctx ctx' same
  · rw [if_neg changes, if_neg changes]
    exact rest s ctx ctx' same

theorem alike_retarget_action (grants : grant.anonymous = grant'.anonymous)
    (same : ctx.anonymous = ctx'.anonymous) (rest : Follows next next') (s : Subject)
    (destination : State) :
    ((Action.retarget destination).code grant ctx s next).Alike Remark.anonymous
      ((Action.retarget destination).code grant' ctx' s next') := by
  rcases grants_cases grants with ⟨rfl, elsewhere⟩ | ⟨cause, cause', rfl, rfl, -⟩
  · cases grant with
    | recover cause => exact absurd rfl (elsewhere cause)
    | _ => exact rest s ctx ctx' same
  · apply Code.Alike.retarget
    apply rest
    rw [Context.anonymous_retarget, Context.anonymous_retarget, same]

theorem alike_quote_action (grants : grant.anonymous = grant'.anonymous)
    (same : ctx.anonymous = ctx'.anonymous) (rest : Follows next next') (s : Subject) :
    (Action.quote.code grant ctx s next).Alike Remark.anonymous
      (Action.quote.code grant' ctx' s next') := by
  rcases grants_cases grants with ⟨rfl, elsewhere⟩ | ⟨cause, cause', rfl, rfl, causes⟩
  · cases grant with
    | recover cause => exact absurd rfl (elsewhere cause)
    | _ => exact rest s ctx ctx' same
  · have message : cause.message = cause'.message := by
      rw [← cause.message_anonymous, causes, cause'.message_anonymous]
    rw [Action.code, Action.code, message]
    exact rest _ ctx ctx' same

/-- An action tells and does the same for contexts and causes that differ in identities only. -/
theorem alike_action (grants : grant.anonymous = grant'.anonymous)
    (same : ctx.anonymous = ctx'.anonymous) (rest : Follows next next') (s : Subject)
    (action : Action) :
    (action.code grant ctx s next).Alike Remark.anonymous (action.code grant' ctx' s next') := by
  cases action with
  | log value => exact .remark rfl (rest s ctx ctx' same)
  | canFire trigger =>
    refine .canFire fun a a' seen => .remark ?_ (rest s ctx ctx' same)
    rw [Remark.anonymous, Remark.anonymous, seen]
  | fire tolerant trigger => exact alike_fire_action grants same rest s tolerant trigger
  | retarget destination => exact alike_retarget_action grants same rest s destination
  | quote => exact alike_quote_action grants same rest s
  | _ =>
    -- the others change the subject at most, and look at nothing but the destination
    obtain ⟨-, destination, -⟩ := Context.anonymous_inj.1 same
    simp only [Action.code, Action.alter, changes_of_anonymous grants, destination]
    exact rest _ ctx ctx' same

end Actions

theorem alike_codeThen (grants : grant.anonymous = grant'.anonymous) (script : Script)
    {ctx ctx' : Context} (same : ctx.anonymous = ctx'.anonymous) (s : Subject)
    {next next' : Subject → Context → Code Subject Remark} (rest : Follows next next') :
    (script.codeThen grant ctx s next).Alike Remark.anonymous
      (script.codeThen grant' ctx' s next') := by
  induction script generalizing ctx ctx' s next next' with
  | done => exact rest s ctx ctx' same
  | act action more ih =>
    exact alike_action grants same (fun s ctx ctx' same => ih same s rest) s action
  | stop verdict => exact .finish
  | when condition body more ihBody ihMore =>
    rw [codeThen, codeThen]
    split
    · exact ihBody same s fun s ctx ctx' same => ihMore same s rest
    · exact ihMore same s rest

/-- A script looks at nothing but where its transition comes from, where it goes, what triggers it
and, in a handler, what its cause says. -/
theorem alike_code (grants : grant.anonymous = grant'.anonymous) (script : Script)
    {ctx ctx' : Context} (same : ctx.anonymous = ctx'.anonymous) (s : Subject) :
    (script.code grant ctx s).Alike Remark.anonymous (script.code grant' ctx' s) :=
  alike_codeThen grants script same s fun _ _ _ _ => .finish

theorem blind_predicate (script : Script) :
    (blindness Remark.anonymous).step (predicate script) :=
  fun s _ _ same => alike_code rfl script same s

theorem blind_operation (script : Script) :
    (blindness Remark.anonymous).step (operation script) :=
  fun s _ _ same => alike_code rfl script same s

theorem blind_effect (script : Script) :
    (blindness Remark.anonymous).effect (effect script) :=
  fun _ s _ _ _ _ same => alike_code rfl script same s

end Script

end StateMachine
