import StateMachine.Proofs.Callbacks
import StateMachine.Proofs.DeadSpots
import StateMachine.Proofs.Nesting

/-!
# Keeping to configured states

If validation finds no errors, and the callbacks assign only states that are configured, or were
told to them, then no fire and no question ever meets another state. This holds at every depth,
whether callbacks fail, panic or fire.

* `Call.states`, `Answer.states`: the states that a callback is told, when it is called and by what
  its questions are answered.
* `Code.Keeps`, `Machine.Keeps`: what is asked of callbacks. The code is looked at, not its runs.
* `Definition.InOrder`, `Definition.Satisfies`: what then holds of payloads, contexts and answers.
* `Code.Path.keeps`, `Turn.keeps`, `Machine.Course.inOrder`, `Machine.Answers.inOrder`: one step
  each, from the code of a callback to a whole question.
* `Machine.keeps_host`: every question, at every depth.
* `Machine.Within`: the questions that are put within others; `Within.satisfies` says that they are
  answered in order, too.
-/

namespace StateMachine

variable {π ν : Type}

/-! ## Questions and answers -/

/-- The payload that a question is about. -/
def Question.payload : Question π → π
  | triggers payload => payload
  | canFire payload _ => payload
  | fire payload _ => payload

namespace Answer

/-- The payload after an answer; only a fire may have changed it. -/
def left (payload : π) : Answer π → π
  | fire left _ => left
  | _ => payload

/-- Whether an answer is that a state is missing. -/
def Misses (x : State) : Answer π → Prop
  | triggers result => result = .error (.stateNotFound x)
  | canFire result => result = .error (.stateNotFound x)
  | fire _ outcome => outcome = .answered (.error (.stateNotFound x))

end Answer

/-- The payload that a visit passes on: guards and side effects cannot change it. -/
def Visit.left (v : Visit π) : π := (v.advance (v.call.payload, v.call.context)).1

/-- The visits in the log of happenings are those of its turns, those within the turns, and those
within questions. -/
theorem forall_visits_logOf {host : Host π ν} {P : Visit π → Prop} {hs : List (Happening host)}
    (turn : ∀ t, .turn t ∈ hs → (∀ v ∈ visits t.run.ran.log, P v) ∧ P t.visit)
    (asked : ∀ q f, .asked q f ∈ hs → ∀ v ∈ visits f.ran.log, P v) :
    ∀ v ∈ visits (logOf hs), P v := by
  induction hs with
  | nil => simp [visits]
  | cons h hs ih =>
    have rest := ih (fun t ht => turn t (List.mem_cons_of_mem _ ht))
      fun q f hf => asked q f (List.mem_cons_of_mem _ hf)
    rw [logOf_cons, visits_append]
    refine List.forall_mem_append.2 ⟨?_, rest⟩
    cases h with
    | turn t =>
      obtain ⟨inner, last⟩ := turn t List.mem_cons_self
      have log : visits (Happening.turn t).log = visits t.run.ran.log ++ [t.visit] := by
        simp [visits, Happening.log, Turn.visit, List.filterMap_cons, Entry.visit?]
      rw [log]
      exact List.forall_mem_append.2 ⟨inner, List.forall_mem_singleton.2 last⟩
    | asked q f => exact asked q f List.mem_cons_self
    | _ => simp [visits, Happening.log, Entry.visit?]

/-- Whether a callback may change the payload. -/
def Role.changes : Role → Bool
  | .operation _ => true
  | .handler _ => true
  | _ => false

/-- Whether a state is one of those known, or configured. -/
def Definition.Knows (d : Definition π ν) (known : List State) (s : State) : Prop :=
  s ∈ known ∨ d.contains s = true

theorem Definition.Knows.contains {d : Definition π ν} {known : List State} {s : State}
    (h : d.Knows known s) (configured : ∀ s ∈ known, d.contains s = true) :
    d.contains s = true :=
  h.elim (configured s) id

theorem Definition.Knows.append {d : Definition π ν} {known : List State} {s : State}
    (h : d.Knows known s) (more : List State) : d.Knows (more ++ known) s :=
  h.imp_left (List.mem_append_right more)

/-! ## States that are told -/

/-- The states that a context tells. -/
def Context.states (ctx : Context) : List State := [ctx.source, ctx.destination]

/-- The states that an error of a fire tells. -/
def FireError.states : FireError → List State
  | stateNotFound s => [s]
  | triggerNotFound s _ => [s]
  | guardRejected s _ _ _ => [s]
  | e => e.contexts.flatMap Context.states

/-- The states that an outcome tells. -/
def Outcome.states : Outcome → List State
  | answered (.ok ctx) => ctx.states
  | answered (.error e) => e.states
  | escaped _ => []

variable [Payload π]

/-- The states that a callback is told when it is called: that of the payload, and those of the
contexts that it is given. -/
def Call.states (call : Call π) : List State :=
  Payload.state call.payload :: call.contexts.flatMap Context.states

/-- The states that an answer tells. A fire also leaves the payload in one. -/
def Answer.states : Answer π → List State
  | triggers (.error e) => e.states
  | canFire (.error e) => e.states
  | fire left outcome => Payload.state left :: outcome.states
  | _ => []

theorem Call.forall_states {P : State → Prop} {call : Call π} : (∀ x ∈ call.states, P x) ↔
    P (Payload.state call.payload) ∧ ∀ c ∈ call.contexts, ∀ x ∈ c.states, P x := by
  rw [states, List.forall_mem_cons, List.forall_mem_flatMap]

theorem Call.destination_mem_states (call : Call π) : call.context.destination ∈ call.states :=
  List.mem_cons_of_mem _ (List.mem_flatMap.2
    ⟨call.context, List.mem_cons_self, by simp [Context.states]⟩)

omit [Payload π] in
theorem Call.mem_contexts_iff {call : Call π} {c : Context} : c ∈ call.contexts ↔
    c = call.context ∨ ∃ cause, call.role = .handler cause ∧ c ∈ cause.contexts := by
  rw [contexts, List.mem_cons]
  cases call.role <;> simp

/-! ## Code that keeps to configured states -/

variable {d : Definition π ν} {host : Host π ν}

/-- Whether code assigns known states and configured states only. Known are the states that it was
told, by its call or by the answers to its own questions. Its questions must be about payloads in
such states; a callback that may change the payload must leave it in one, and an error handler must
report such destinations. Everything else is free. -/
def Code.Keeps (d : Definition π ν) (role : Role) : List State → Code π ν → Prop
  | known, finish payload _ => role.changes = true → d.Knows known (Payload.state payload)
  | known, remark _ next => next.Keeps d role known
  | known, retarget destination next =>
    (role.isHandler = true → d.Knows known destination) ∧ next.Keeps d role known
  | known, triggers payload next =>
    d.Knows known (Payload.state payload) ∧ ∀ result,
      (next result).Keeps d role ((Answer.triggers result : Answer π).states ++ known)
  | known, canFire payload _ next =>
    d.Knows known (Payload.state payload) ∧ ∀ result,
      (next result).Keeps d role ((Answer.canFire result : Answer π).states ++ known)
  | known, fire payload _ next =>
    d.Knows known (Payload.state payload) ∧ ∀ left result,
      (next left result).Keeps d role ((Answer.fire left (.answered result)).states ++ known)

/-- Whether all callbacks of a machine keep to configured states and to those that they are told,
such as the source and the destination of their context. -/
def Machine.Keeps (m : Machine π ν) : Prop :=
  ∀ call code, m.Calls call code → code.Keeps m.definition call.role call.states

/-- Whether a payload and a context are in order: the states that they tell are configured. -/
structure Definition.InOrder (d : Definition π ν) (s : π × Context) : Prop where
  payload : d.contains (Payload.state s.1) = true
  context : ∀ x ∈ s.2.states, d.contains x = true

/-- Whether an answer is in order: the payload is in a configured state afterwards, all states that
are told are configured, and none is missing. -/
structure Definition.Satisfies (d : Definition π ν) (q : Question π) (a : Answer π) : Prop where
  left : d.contains (Payload.state (a.left q.payload)) = true
  told : ∀ x ∈ a.states, d.contains x = true
  found : ∀ x, ¬a.Misses x

/-- Whether a host keeps to configured states: asked about a payload in such a state, its answer is
in order, and so is every payload that is passed on meanwhile. -/
def Host.Keeps (d : Definition π ν) (host : Host π ν) : Prop :=
  ∀ q (f : Finished (host.ask q)), d.contains (Payload.state q.payload) = true →
    d.Satisfies q f.ran.value ∧
      ∀ v ∈ visits f.ran.log, d.contains (Payload.state v.left) = true

/-- What the code of a callback leaves, and what it has asked, when it keeps to configured states
on a host that does. -/
theorem Code.Path.keeps (kept : host.Keeps d) {role : Role} {code : Code π ν} {ctx : Context}
    {hs : List (Happening host)} {s : Settled π} (path : code.Path host ctx hs s)
    {known : List State} (keeps : code.Keeps d role known)
    (configured : ∀ s ∈ known, d.contains s = true) :
    (role.changes = true → d.contains (Payload.state s.payload) = true) ∧
      (role.isHandler = true → (∀ x ∈ ctx.states, d.contains x = true) →
        ∀ x ∈ s.context.states, d.contains x = true) ∧
      ∀ q f, .asked q f ∈ hs → d.contains (Payload.state q.payload) = true := by
  have cons {q : Question π} {f : Finished (host.ask q)} {hs : List (Happening host)}
      (first : d.contains (Payload.state q.payload) = true)
      (rest : ∀ q f, .asked q f ∈ hs → d.contains (Payload.state q.payload) = true) :
      ∀ q' f', .asked q' f' ∈ .asked q f :: hs → d.contains (Payload.state q'.payload) = true := by
    simp only [List.mem_cons, Happening.asked.injEq]
    rintro q' f' (⟨rfl, -⟩ | mem)
    · exact first
    · exact rest q' f' mem
  -- what an answer tells is known in the code after it
  have learnt {q : Question π} (f : Finished (host.ask q)) {a : Answer π} (answer : f.ran.value = a)
      (given : d.contains (Payload.state q.payload) = true) {known : List State}
      (configured : ∀ s ∈ known, d.contains s = true) :
      ∀ s ∈ a.states ++ known, d.contains s = true :=
    List.forall_mem_append.2 ⟨answer ▸ (kept q f given).1.told, configured⟩
  induction path generalizing known with
  | finish => exact ⟨fun changes => (keeps changes).contains configured, fun _ h => h, by simp⟩
  | remark _ ih =>
    obtain ⟨left, context, asked⟩ := ih keeps configured
    exact ⟨left, context, by simpa using asked⟩
  | retarget _ ih =>
    obtain ⟨left, context, asked⟩ := ih keeps.2 configured
    refine ⟨left, fun handler given => context handler ?_, by simpa using asked⟩
    obtain ⟨source, -⟩ := List.forall_mem_cons.1 given
    exact List.forall_mem_cons.2 ⟨source,
      List.forall_mem_singleton.2 ((keeps.1 handler).contains configured)⟩
  | triggers f answer _ ih =>
    have given := keeps.1.contains configured
    obtain ⟨left, context, asked⟩ := ih (keeps.2 _) (learnt f answer given configured)
    exact ⟨left, context, cons given asked⟩
  | canFire f answer _ ih =>
    have given := keeps.1.contains configured
    obtain ⟨left, context, asked⟩ := ih (keeps.2 _) (learnt f answer given configured)
    exact ⟨left, context, cons given asked⟩
  | fire f answer _ ih =>
    have given := keeps.1.contains configured
    obtain ⟨left, context, asked⟩ := ih (keeps.2 _ _) (learnt f answer given configured)
    exact ⟨left, context, cons given asked⟩
  | @escape payload trigger _ _ _ _ f answer =>
    have given := keeps.1.contains configured
    have satisfied := (kept (.fire payload trigger) f given).1.left
    rw [answer] at satisfied
    exact ⟨fun _ => satisfied, fun _ h => h, cons given (by simp)⟩

/-! ## Visits -/

omit [Payload π] in
theorem Edge.Admits.told {edge : Edge π ν} {payload : π} {ctx : Context}
    {hs : List (Happening host)} {e : FireError}
    (h : edge.Admits host payload ctx hs (.error e)) : ∀ x ∈ e.states, x ∈ ctx.states := by
  rcases h.error_eq with ⟨_, _, rfl⟩ | ⟨_, _, rfl⟩
  · exact List.forall_mem_singleton.2 List.mem_cons_self
  · exact List.forall_mem_flatMap.2 (List.forall_mem_singleton.2 fun x hx => hx)

/-- A callback that is given a payload and a context in order passes on such, and asks about such
payloads only. -/
theorem Turn.keeps (kept : host.Keeps d) (t : Turn host)
    (keeps : t.code.Keeps d t.call.role t.call.states)
    (given : ∀ x ∈ t.call.states, d.contains x = true) :
    d.InOrder (t.visit.advance (t.call.payload, t.call.context)) ∧
      ∀ hs, t.run.Unfolds (t.code.Path host t.call.context) hs →
        ∀ q f, .asked q f ∈ hs → d.contains (Payload.state q.payload) = true := by
  have path := fun hs (unf : t.run.Unfolds (t.code.Path host t.call.context) hs) =>
    Code.Path.keeps kept unf.rel keeps given
  obtain ⟨payload, contexts⟩ := Call.forall_states.1 given
  have context := contexts t.call.context List.mem_cons_self
  refine ⟨?_, fun hs unf => (path hs unf).2.2⟩
  obtain ⟨hs, unf⟩ := t.code.plays_run host t.call.context t.run
  obtain ⟨left, kept, -⟩ := path hs unf
  unfold Visit.advance
  split
  · next side role => exact ⟨left (congrArg Role.changes role), context⟩
  · next cause role =>
    exact ⟨left (congrArg Role.changes role), kept (congrArg Role.isHandler role) context⟩
  · exact ⟨payload, context⟩

/-- What is in order at the beginning is in order at each visit, and in the end. -/
theorem Threaded.inOrder {ts : List (Turn host)} {s e : π × Context}
    (h : Threaded s (ts.map Turn.visit) e)
    (step : ∀ t ∈ ts, d.InOrder (t.call.payload, t.call.context) →
      d.InOrder (t.visit.advance (t.call.payload, t.call.context)))
    (start : d.InOrder s) :
    d.InOrder e ∧ ∀ t ∈ ts, d.InOrder (t.call.payload, t.call.context) := by
  induction ts generalizing s with
  | nil =>
    obtain rfl : e = s := h
    exact ⟨start, by simp⟩
  | cons t ts ih =>
    obtain ⟨first, rest⟩ := List.forall_mem_cons.1 step
    obtain ⟨given, more⟩ := h
    obtain rfl : (t.call.payload, t.call.context) = s := given
    obtain ⟨last, all⟩ := ih more rest (first start)
    exact ⟨last, List.forall_mem_cons.2 ⟨start, all⟩⟩

namespace Machine

variable {m : Machine π ν} {q : Question π} {a : Answer π} {hs : List (Happening host)}

/-- Whether all happenings are in order: turns are those of the machine's callbacks, which are told
configured states only, and questions are about payloads in configured states. -/
structure Fine (m : Machine π ν) (hs : List (Happening host)) : Prop where
  calls : ∀ t ∈ turns hs, m.Calls t.call t.code
  given : ∀ t ∈ turns hs, ∀ x ∈ t.call.states, m.definition.contains x = true
  asked : ∀ q f, .asked q f ∈ hs → m.definition.contains (Payload.state q.payload) = true

theorem fine_of_served (served : ∀ x ∈ hs, x.Served m)
    (given : ∀ t ∈ turns hs, ∀ x ∈ t.call.states, m.definition.contains x = true) :
    m.Fine hs where
  calls _ ht := served _ (mem_turns.1 ht)
  given := given
  asked _ _ mem := (served _ mem).elim

theorem satisfies_triggers {payload : π}
    (given : m.definition.contains (Payload.state payload) = true) :
    m.definition.Satisfies (.triggers payload) (.triggers (m.triggers payload)) := by
  obtain ⟨node, found⟩ := m.sound.exists_node? given
  have answered : m.triggers payload = .ok node.triggers := by
    rw [Machine.triggers, Machine.node, found]
    rfl
  rw [answered]
  exact ⟨given, List.forall_mem_nil _, by simp [Answer.Misses]⟩

theorem told_of_lost {payload : π} {trigger : Trigger} {e : FireError}
    (given : m.definition.contains (Payload.state payload) = true)
    (lost : m.resolve payload trigger = .error e) :
    ∀ x ∈ e.states, m.definition.contains x = true := by
  rcases resolve_eq_error lost with ⟨-, rfl⟩ | ⟨_, -, -, rfl⟩ <;>
    exact List.forall_mem_singleton.2 given

theorem inOrder_of_found (free : m.definition.hasErrors = false) {payload : π} {trigger : Trigger}
    {node : Node π ν} {edge : Edge π ν} {ctx : Context}
    (found : m.resolve payload trigger = .ok (node, edge))
    (context : ctx = ⟨ctx.id, node.state, edge.destination, trigger⟩)
    (given : m.definition.contains (Payload.state payload) = true) :
    m.definition.InOrder (payload, ctx) where
  payload := given
  context := by
    rw [context, m.sound.state_of_node? (resolve_eq_ok_iff.1 found).1]
    exact List.forall_mem_cons.2 ⟨given,
      List.forall_mem_singleton.2 (contains_destination free found)⟩

omit [Payload π] in
/-- What a fire answers tells the states of its own context, and of those that handlers have left;
`last` is about the last of these. -/
theorem Course.told {P : State → Prop} {payload : π} {source destination : Node π ν}
    {edge : Edge π ν} {ctx : Context} {out : π × Outcome}
    (h : m.Course host source edge destination ctx payload hs out) (start : ∀ x ∈ ctx.states, P x)
    (handled : ∀ v ∈ visitsOf hs, v.call.role.isHandler = true →
      ∀ x ∈ v.settled.context.states, P x)
    (last : ∀ x ∈ (contextAfter ctx (handlersOf (visitsOf hs))).states, P x) :
    ∀ x ∈ out.2.states, P x := by
  have freezes := h.outline.freezes
  obtain ⟨left, outcome⟩ := out
  match outcome with
  | .escaped value => exact List.forall_mem_nil _
  | .answered (.ok c) =>
    obtain rfl := freezes.returned c rfl
    exact start
  | .answered (.error (.chain c e)) =>
    refine List.forall_mem_flatMap.2 (List.forall_mem_cons.2 ⟨?_, fun c' hc' => ?_⟩)
    · rw [freezes.reported c e rfl]
      exact last
    · cases e with
      | panic p =>
        obtain rfl : c' = p.transition := List.mem_singleton.1 hc'
        obtain ⟨v, hv, -, transition⟩ := freezes.panicked c p rfl
        rw [transition]
        split
        · next handler => exact handled v hv handler
        · exact start
      | _ => exact nomatch hc'
  | .answered (.error (.guardPanicked p)) =>
    have transition := freezes.rejected p rfl
    exact List.forall_mem_flatMap.2 (List.forall_mem_singleton.2 (transition ▸ start))
  | .answered (.error (.guardRejected s t label failure)) =>
    have guard := (h.admits_of_refuses rfl).2
    exact fun x hx => start x (guard.told x hx)
  | .answered (.error (.stateNotFound s)) =>
    exact absurd rfl ((h.admits_of_refuses rfl).2.ne_stateNotFound s)
  | .answered (.error (.triggerNotFound s t)) =>
    exact fun x hx => start x ((h.admits_of_refuses rfl).2.told x hx)

/-- A fire that begins in order ends in order, and so is all that its callbacks are given. -/
theorem Course.inOrder (keeps : m.Keeps) (kept : host.Keeps m.definition) {payload left : π}
    {source destination : Node π ν} {edge : Edge π ν} {ctx : Context} {trigger : Trigger}
    {outcome : Outcome} (h : m.Course host source edge destination ctx payload hs (left, outcome))
    (calls : ∀ t ∈ turns hs, m.Calls t.call t.code)
    (start : m.definition.InOrder (payload, ctx)) :
    m.definition.Satisfies (.fire payload trigger) (.fire left outcome) ∧
      ∀ t ∈ turns hs, ∀ x ∈ t.call.states, m.definition.contains x = true := by
  -- the cause that a handler is given carries the context of the fire itself
  have told : ∀ t ∈ turns hs, m.definition.InOrder (t.call.payload, t.call.context) →
      ∀ x ∈ t.call.states, m.definition.contains x = true := by
    intro t ht given
    refine Call.forall_states.2 ⟨given.payload, fun c hc => ?_⟩
    rcases Call.mem_contexts_iff.1 hc with rfl | ⟨cause, role, hc⟩
    · exact given.context
    · obtain rfl := h.outline.freezes.cause t.visit (List.mem_map_of_mem ht) cause role c hc
      exact start.context
  have step : ∀ t ∈ turns hs, m.definition.InOrder (t.call.payload, t.call.context) →
      m.definition.InOrder (t.visit.advance (t.call.payload, t.call.context)) :=
    fun t ht given => (t.keeps kept (keeps _ _ (calls t ht)) (told t ht given)).1
  obtain ⟨c, threaded⟩ := h.outline.threaded
  obtain ⟨last, all⟩ := Threaded.inOrder threaded step start
  refine ⟨⟨last.payload, List.forall_mem_cons.2 ⟨last.payload, ?_⟩, fun x misses => ?_⟩,
    fun t ht => told t ht (all t ht)⟩
  · refine h.told start.context (fun v hv handler => ?_) ?_
    · obtain ⟨t, ht, rfl⟩ := List.mem_map.1 hv
      have passed := (step t ht (all t ht)).context
      rwa [Visit.advance_of_handler handler] at passed
    · rw [← snd_foldl_advance _ (payload, ctx), ← threaded.eq_foldl]
      exact last.context
  · obtain rfl : outcome = .answered (.error (.stateNotFound x)) := misses
    exact (h.admits_of_refuses rfl).2.ne_stateNotFound x rfl

/-- A question about a payload in a configured state is answered in order, and what happens
meanwhile is in order. -/
theorem Answers.inOrder (free : m.definition.hasErrors = false) (keeps : m.Keeps)
    (kept : host.Keeps m.definition) (h : m.Answers host q hs a)
    (given : m.definition.contains (Payload.state q.payload) = true) :
    m.definition.Satisfies q a ∧ m.Fine hs := by
  have served := h.serves
  cases h with
  | triggers => exact ⟨satisfies_triggers given, fine_of_served served (by simp)⟩
  | unresolved lost =>
    refine ⟨⟨given, told_of_lost given lost, fun x misses => ?_⟩, fine_of_served served (by simp)⟩
    exact ne_stateNotFound_of_lost given lost (Except.error.inj misses)
  | unguarded =>
    exact ⟨⟨given, List.forall_mem_nil _, fun x misses => nomatch misses⟩,
      fine_of_served served (by simp)⟩
  | @guarded payload trigger node edge g ctx hs r found some context guard =>
    have order := inOrder_of_found free found context given
    refine ⟨⟨given, ?_, fun x misses => ?_⟩, fine_of_served served fun t ht => ?_⟩
    · cases r with
      | ok => exact List.forall_mem_nil _
      | error e => exact fun x hx => order.context x (guard.told x hx)
    · obtain rfl : r = .error (.stateNotFound x) := misses
      exact guard.ne_stateNotFound x rfl
    · obtain ⟨samePayload, sameContext⟩ := guard.turns_given t ht
      have role : t.call.role = .edgeGuard := guard.role t.visit (List.mem_map_of_mem ht)
      rw [Call.states, samePayload, Call.contexts_of_not_handler (congrArg Role.isHandler role),
        sameContext]
      exact List.forall_mem_cons.2 ⟨order.payload,
        List.forall_mem_flatMap.2 (List.forall_mem_singleton.2 order.context)⟩
  | lost lost =>
    refine ⟨⟨given, List.forall_mem_cons.2 ⟨given, told_of_lost given lost⟩, fun x misses => ?_⟩,
      fine_of_served served (by simp)⟩
    exact ne_stateNotFound_of_lost given lost (Except.error.inj (Outcome.answered.inj misses))
  | nowhere found none =>
    exact nomatch (m.sound.node?_eq_none_iff.1 none).symm.trans (contains_destination free found)
  | @fired payload trigger source edge destination ctx hs left outcome leads context course =>
    have order := inOrder_of_found free leads.resolve_eq context given
    have calls : ∀ t ∈ turns hs, m.Calls t.call t.code := fun t ht =>
      served _ (List.mem_cons_of_mem _ (mem_turns.1 ht))
    obtain ⟨satisfied, all⟩ := course.inOrder keeps kept calls order
    exact ⟨satisfied, fine_of_served served all⟩

/-! ## All depths -/

theorem Fine.path (keeps : m.Keeps) (kept : host.Keeps m.definition) (fine : m.Fine hs)
    {t : Turn host} (mem : .turn t ∈ hs) {inner : List (Happening host)}
    (path : t.run.Unfolds (t.code.Path host t.call.context) inner) : m.Fine inner where
  calls _ hu := (path.rel.inner _ (mem_turns.1 hu)).elim
  given _ hu := (path.rel.inner _ (mem_turns.1 hu)).elim
  asked := (t.keeps kept (keeps _ _ (fine.calls t (mem_turns.2 mem)))
    (fine.given t (mem_turns.2 mem))).2 inner path

theorem Fine.visits (keeps : m.Keeps) (kept : host.Keeps m.definition) (fine : m.Fine hs) :
    ∀ v ∈ visits (logOf hs), m.definition.contains (Payload.state v.left) = true := by
  refine forall_visits_logOf (fun t ht => ?_) fun q f mem => (kept q f (fine.asked q f mem)).2
  have turn := mem_turns.2 ht
  refine ⟨?_, (t.keeps kept (keeps _ _ (fine.calls t turn)) (fine.given t turn)).1.payload⟩
  -- within a turn there are questions, but no turns
  obtain ⟨inner, path⟩ := t.code.plays_run host t.call.context t.run
  rw [← path.log_eq]
  refine forall_visits_logOf (fun u hu => (path.rel.inner _ hu).elim) fun q f mem => ?_
  exact (kept q f ((fine.path keeps kept ht path).asked q f mem)).2

/-- A machine without errors whose callbacks keep to configured states does so itself, however deep
its callbacks may call it. -/
theorem keeps_host (free : m.definition.hasErrors = false) (keeps : m.Keeps) (depth : Nat) :
    (m.host depth).Keeps m.definition := by
  induction depth with
  | zero =>
    intro q f given
    cases q with
    | triggers payload =>
      obtain ⟨n, ran, hran⟩ := f
      obtain rfl := Option.some.inj hran
      exact ⟨satisfies_triggers given, fun v hv => nomatch hv⟩
    | canFire payload trigger => exact nomatch f.run_eq
    | fire payload trigger => exact nomatch f.run_eq
  | succ depth ih =>
    intro q f given
    obtain ⟨hs, unf⟩ := m.plays_ask depth q f
    obtain ⟨satisfied, fine⟩ := unf.rel.inOrder free keeps ih given
    rw [← unf.log_eq]
    exact ⟨satisfied, fine.visits keeps ih⟩

/-- The questions that are put while something happens, those within turns and within other
questions included. -/
inductive Within (m : Machine π ν) :
    (depth : Nat) → List (Happening (m.host depth)) →
      (level : Nat) → (q : Question π) → Finished ((m.host level).ask q) → Prop
  | asked {depth hs q f} (mem : .asked q f ∈ hs) : Within m depth hs depth q f
  /-- What happens within a turn is what happens when the code of the callback is run. -/
  | turn {depth hs t hs' level q f} (mem : .turn t ∈ hs)
      (path : t.run.Unfolds (t.code.Path (m.host depth) t.call.context) hs')
      (inner : Within m depth hs' level q f) : Within m depth hs level q f
  /-- What happens while the machine answers happens one level below. -/
  | nested {depth hs q' f' hs' level q f} (mem : .asked q' f' ∈ hs)
      (answers : f'.Unfolds (m.Answers (m.host depth) q') hs')
      (inner : Within m depth hs' level q f) : Within m (depth + 1) hs level q f

/-- Of happenings in order, all questions are about payloads in configured states, and are answered
in order. -/
theorem Within.satisfies (free : m.definition.hasErrors = false) (keeps : m.Keeps)
    {depth level : Nat} {hs : List (Happening (m.host depth))} {f : Finished ((m.host level).ask q)}
    (h : m.Within depth hs level q f) (fine : m.Fine hs) :
    m.definition.contains (Payload.state q.payload) = true ∧
      m.definition.Satisfies q f.ran.value := by
  induction h with
  | @asked depth hs q f mem =>
    have given := fine.asked q f mem
    exact ⟨given, (keeps_host free keeps depth q f given).1⟩
  | @turn depth hs t hs' level q f mem path inner ih =>
    exact ih (fine.path keeps (keeps_host free keeps depth) mem path)
  | @nested depth hs q' f' hs' level q f mem answers inner ih =>
    exact ih (answers.rel.inOrder free keeps (keeps_host free keeps depth) (fine.asked q' f' mem)).2

end Machine

end StateMachine
