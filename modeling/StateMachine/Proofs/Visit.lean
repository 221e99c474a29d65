import StateMachine.Proofs.Identity

/-!
# Visits

A visit is what the log tells of one callback: the call, and what the callback left. The visits of
a fire carry its payload and its context from one callback to the next, and some of them cut the
list of callbacks short to which they belong.

* `Visit`, `visits`, `ownVisits`: the visits of a log, and those of one transition.
* `visitsOf`: the visits of happenings; `ownVisits_logOf` finds them in the log.
* `Visit.advance`, `Threaded`: what the next callback is given after a visit. Steps and handlers
  pass on the payload they left, and handlers also the context.
* `handlersOf`, `contextAfter`: the visits to handlers, and the context that they leave.
* `Visit.error?`: the error that a visit makes of its list; `reportedError` is what handlers make
  of a cause.
* `Stop`, `Visit.Stops`, `Visit.Calm`, `Ends`: how visits end, which is decided by the last one.
* `Visit.Fails side`: the visits that make a chain of exit or entry steps fail.
-/

namespace StateMachine

variable {π ν : Type} {host : Host π ν}

/-- Whether a callback is an error handler. -/
def Role.isHandler : Role → Bool
  | handler _ => true
  | _ => false

/-- Whether a callback is a side effect. -/
def Role.isEffect : Role → Bool
  | effect _ _ => true
  | _ => false

/-- A callback that was called, and what it left. -/
structure Visit (π : Type) where
  call : Call π
  settled : Settled π
deriving DecidableEq

/-- The visit that a line of the log concludes, if it concludes one. -/
def Entry.visit? : Entry π ν → Option (Visit π)
  | settled c s => some ⟨c, s⟩
  | _ => none

/-- The visits of a log, in the order in which they ended. -/
def visits (log : List (Entry π ν)) : List (Visit π) := log.filterMap Entry.visit?

/-- The visits of one transition. -/
def ownVisits (i : Nat) (log : List (Entry π ν)) : List (Visit π) :=
  (visits log).filter fun v => v.call.context.id = i

/-- The visit that a turn is. -/
def Turn.visit (t : Turn host) : Visit π := ⟨t.call, t.settled⟩

@[simp] theorem Turn.call_visit (t : Turn host) : t.visit.call = t.call := rfl

@[simp] theorem Turn.payload_visit (t : Turn host) :
    t.visit.settled.payload = t.settled.payload := rfl

@[simp] theorem Turn.context_visit (t : Turn host) :
    t.visit.settled.context = t.settled.context := rfl

@[simp] theorem Turn.verdict_visit (t : Turn host) : t.visit.settled.verdict = t.verdict := rfl

/-- The visits of happenings. -/
def visitsOf (hs : List (Happening host)) : List (Visit π) := (turns hs).map Turn.visit

@[simp] theorem visits_append (l l' : List (Entry π ν)) :
    visits (l ++ l') = visits l ++ visits l' :=
  List.filterMap_append

@[simp] theorem visitsOf_nil : visitsOf ([] : List (Happening host)) = [] := rfl

@[simp] theorem visitsOf_event (e : Event) (hs : List (Happening host)) :
    visitsOf (.event e :: hs) = visitsOf hs := rfl

@[simp] theorem visitsOf_turn (t : Turn host) (hs : List (Happening host)) :
    visitsOf (.turn t :: hs) = t.visit :: visitsOf hs := rfl

@[simp] theorem visitsOf_append (hs hs' : List (Happening host)) :
    visitsOf (hs ++ hs') = visitsOf hs ++ visitsOf hs' := by
  simp [visitsOf]

@[simp] theorem turns_map_turn (ts : List (Turn host)) : turns (ts.map Happening.turn) = ts := by
  induction ts with
  | nil => rfl
  | cons t ts ih => rw [List.map_cons, turns_turn, ih]

theorem visits_lines (hs : List (Happening host)) :
    visits (hs.flatMap Happening.lines) = visitsOf hs := by
  induction hs with
  | nil => rfl
  | cons h hs ih =>
    rw [List.flatMap_cons, visits_append, ih]
    cases h <;> rfl

/-- The visits of one transition are those of its own happenings. -/
theorem ownVisits_logOf (fresh : host.Fresh) {i n k : Nat} (hi : i < n)
    {hs : List (Happening host)} (spans : Spans hs n k)
    (bears : ∀ h ∈ hs, h.Bears fun c => c.id = i) : ownVisits i (logOf hs) = visitsOf hs := by
  rw [ownVisits, visits, ← filter_filterMap_own, ← visits, own_logOf fresh hi spans bears,
    visits_lines, List.filter_eq_self]
  · intro v hv
    obtain ⟨t, ht, rfl⟩ := List.mem_map.1 hv
    exact decide_eq_true (Happening.id_of_turn bears t ht)
  · intro e v hv hid
    cases e with
    | settled c s =>
      obtain rfl : Visit.mk c s = v := Option.some.inj hv
      exact List.any_eq_true.2 ⟨_, List.mem_cons_of_mem _ List.mem_cons_self, hid⟩
    | _ => simp [Entry.visit?] at hv

/-- What a log shows of one transition: the lines, calls and visits with its identity are those of
the given happenings. -/
structure Accounts (i : Nat) (hs : List (Happening host)) (log : List (Entry π ν)) : Prop where
  log_eq : logOf hs = log
  own_eq : own i log = hs.flatMap Happening.lines
  calls_eq : ownCalls i log = (turns hs).map Turn.call
  visits_eq : ownVisits i log = visitsOf hs

theorem accounts_logOf (fresh : host.Fresh) {i n k : Nat} (hi : i < n)
    {hs : List (Happening host)} (spans : Spans hs n k)
    (bears : ∀ h ∈ hs, h.Bears fun c => c.id = i) : Accounts i hs (logOf hs) where
  log_eq := rfl
  own_eq := own_logOf fresh hi spans bears
  calls_eq := ownCalls_logOf fresh hi spans bears
  visits_eq := ownVisits_logOf fresh hi spans bears

theorem Accounts.begun {i : Nat} {ctx : Context} {hs : List (Happening host)}
    {log : List (Entry π ν)} (h : Accounts i hs log) : Accounts i (.begun ctx :: hs) log :=
  ⟨h.log_eq, h.own_eq, h.calls_eq, h.visits_eq⟩

theorem Accounts.event_mem {i : Nat} {hs : List (Happening host)} {log : List (Entry π ν)}
    (h : Accounts i hs log) {e : Event} (he : ∃ c ∈ e.contexts, c.id = i)
    (mem : .event e ∈ log) : .event e ∈ hs := by
  obtain ⟨c, hc, hid⟩ := he
  have hown : .event e ∈ own i log :=
    List.mem_filter.2 ⟨mem, List.any_eq_true.2 ⟨c, hc, decide_eq_true hid⟩⟩
  rw [h.own_eq] at hown
  obtain ⟨x, hx, hline⟩ := List.mem_flatMap.1 hown
  cases x <;> simp [Happening.lines] at hline
  exact hline ▸ hx

/-! ## Payload and context from visit to visit -/

/-- What the next callback of a fire is given after a visit: the payload and the context. -/
def Visit.advance (s : π × Context) (v : Visit π) : π × Context :=
  match v.call.role with
  | .operation _ => (v.settled.payload, s.2)
  | .handler _ => (v.settled.payload, v.settled.context)
  | _ => s

theorem Visit.advance_of_handler {v : Visit π} {s : π × Context}
    (handler : v.call.role.isHandler = true) :
    v.advance s = (v.settled.payload, v.settled.context) := by
  unfold advance
  cases role : v.call.role <;> first | rfl | simp [role, Role.isHandler] at handler

/-- Every visit is given what the one before it passes on; the last passes on the end. -/
def Threaded : π × Context → List (Visit π) → π × Context → Prop
  | s, [], e => e = s
  | s, v :: vs, e => (v.call.payload, v.call.context) = s ∧ Threaded (v.advance s) vs e

@[simp] theorem threaded_nil {s e : π × Context} : Threaded s [] e ↔ e = s := Iff.rfl

namespace Threaded

variable {s e e' : π × Context} {vs vs' : List (Visit π)}

theorem append (h : Threaded s vs e) (h' : Threaded e vs' e') : Threaded s (vs ++ vs') e' := by
  induction vs generalizing s with
  | nil => exact h ▸ h'
  | cons v vs ih => exact ⟨h.1, ih h.2⟩

theorem eq_foldl (h : Threaded s vs e) : e = vs.foldl Visit.advance s := by
  induction vs generalizing s with
  | nil => exact h
  | cons v vs ih => exact ih h.2

theorem given {v : Visit π} (h : Threaded s (vs ++ v :: vs') e) :
    (v.call.payload, v.call.context) = vs.foldl Visit.advance s := by
  induction vs generalizing s with
  | nil => exact h.1
  | cons w vs ih => exact ih h.2

theorem last_effect {v : Visit π} (h : Threaded s (vs ++ [v]) e)
    (effect : v.call.role.isEffect = true) : e = (v.call.payload, v.call.context) := by
  rw [h.given, h.eq_foldl, List.foldl_append, List.foldl_cons, List.foldl_nil, Visit.advance]
  cases hr : v.call.role <;> first | rfl | exact absurd effect (by simp [hr, Role.isEffect])

end Threaded

/-- The visits to handlers. -/
def handlersOf (vs : List (Visit π)) : List (Visit π) := vs.filter fun v => v.call.role.isHandler

/-- The context that handlers leave, the first of which was given `ctx`. -/
def contextAfter (ctx : Context) (handlers : List (Visit π)) : Context :=
  handlers.foldl (fun _ v => v.settled.context) ctx

@[simp] theorem handlersOf_append (vs vs' : List (Visit π)) :
    handlersOf (vs ++ vs') = handlersOf vs ++ handlersOf vs' :=
  List.filter_append ..

theorem handlersOf_eq_nil {vs : List (Visit π)} (h : ∀ v ∈ vs, v.call.role.isHandler = false) :
    handlersOf vs = [] := by
  refine List.filter_eq_nil_iff.2 fun v hv => ?_
  rw [h v hv]
  exact Bool.false_ne_true

/-- Only handlers change the context that is passed on. -/
theorem snd_foldl_advance (vs : List (Visit π)) (s : π × Context) :
    (vs.foldl Visit.advance s).2 = contextAfter s.2 (handlersOf vs) := by
  induction vs generalizing s with
  | nil => rfl
  | cons v vs ih =>
    rw [List.foldl_cons, ih, Visit.advance]
    simp only [handlersOf, List.filter_cons]
    cases v.call.role <;> rfl

theorem Threaded.context_eq {s e : π × Context} {vs vs' : List (Visit π)} {v : Visit π}
    (h : Threaded s (vs ++ v :: vs') e) : v.call.context = contextAfter s.2 (handlersOf vs) :=
  (congrArg Prod.snd h.given).trans (snd_foldl_advance vs s)

/-! ## Visits that cut their list short -/

/-- The error that a visit makes of its list, if its callback stands at the given position there.
A handler's panic is reported with the context as the handler left it. -/
def Visit.error? (position : Nat) (v : Visit π) : Option ChainError :=
  match v.call.role, v.settled.verdict with
  | .stepGuard _, .panic r => some (.panic ⟨v.call.context, position, v.call.label, r.payload⟩)
  | .operation _, .fail f => some (.operation position v.call.label f)
  | .operation _, .panic r => some (.panic ⟨v.call.context, position, v.call.label, r.payload⟩)
  | .handler _, .fail f => some (.handler position v.call.label f)
  | .handler _, .panic r => some (.panic ⟨v.settled.context, position, v.call.label, r.payload⟩)
  | _, _ => none

/-- The error that is reported for a cause after visits to handlers: that of the first handler that
went wrong, or the cause itself. -/
def reportedError (cause : ChainError) (handlers : List (Visit π)) : ChainError :=
  (handlers.zipIdx.findSome? fun x => x.1.error? x.2).getD cause

/-- How a list of callbacks is cut short: with an error, or by a side effect that panics. -/
inductive Stop where
  | failed (error : ChainError)
  | escaped (value : Raised)

namespace Visit

/-- Whether a visit cuts its list short in the given way. -/
def Stops (v : Visit π) : Stop → Prop
  | .failed e => ∃ position, v.error? position = some e
  | .escaped value => v.call.role.isEffect = true ∧ v.settled.verdict = .panic value

/-- A visit that neither panics nor makes an error of its list. -/
def Calm (v : Visit π) : Prop :=
  (∀ r, v.settled.verdict ≠ .panic r) ∧ ∀ position, v.error? position = none

/-- A visit to a step of the given side that makes an error of its chain. -/
def Fails (side : Side) (v : Visit π) : Prop :=
  (v.call.role = .stepGuard side ∨ v.call.role = .operation side) ∧
    ∃ position e, v.error? position = some e

/-- A guard, a step or a side effect, told of the given context. -/
def Steady (ctx : Context) (v : Visit π) : Prop :=
  v.call.role.isHandler = false ∧ v.call.context = ctx

theorem error?_of_ok {v : Visit π} (h : v.settled.verdict = .ok) (position : Nat) :
    v.error? position = none := by
  unfold error?
  rw [h]
  cases v.call.role <;> rfl

theorem calm_of_ok {v : Visit π} (h : v.settled.verdict = .ok) : v.Calm :=
  ⟨fun r => by rw [h]; exact Verdict.noConfusion, v.error?_of_ok h⟩

/-- The error of a guard or a step carries the context that the callback was given. -/
theorem eq_of_mem_contexts {v : Visit π} {ctx : Context} {e : ChainError} {position : Nat}
    (steady : v.Steady ctx) (h : v.error? position = some e) : ∀ c ∈ e.contexts, c = ctx := by
  obtain ⟨role, rfl⟩ := steady
  unfold error? at h
  split at h <;> cases h <;> simp_all [Role.isHandler, ChainError.contexts, ChainError.panic?]

/-- The error of any visit carries a context of the same transition. -/
theorem of_mem_contexts {v : Visit π} {e : ChainError} {position : Nat}
    (of : v.call.context.Of v.settled.context) (h : v.error? position = some e) :
    ∀ c ∈ e.contexts, v.call.context.Of c := by
  unfold error? at h
  split at h <;> cases h <;>
    simp [ChainError.contexts, ChainError.panic?, of, Context.Of.refl]

end Visit

/-- How visits end: all of them calmly, or the last cuts them short. -/
def Ends (vs : List (Visit π)) : Option Stop → Prop
  | none => ∀ v ∈ vs, v.Calm
  | some stop => ∃ before last, vs = before ++ [last] ∧ (∀ v ∈ before, v.Calm) ∧ last.Stops stop

theorem Ends.append {vs vs' : List (Visit π)} {stop : Option Stop} (h : Ends vs none)
    (h' : Ends vs' stop) : Ends (vs ++ vs') stop := by
  cases stop with
  | none => exact List.forall_mem_append.2 ⟨h, h'⟩
  | some stop =>
    obtain ⟨before, last, rfl, calm, stops⟩ := h'
    exact ⟨vs ++ before, last, (List.append_assoc ..).symm, List.forall_mem_append.2 ⟨h, calm⟩,
      stops⟩

theorem ends_singleton {v : Visit π} {stop : Stop} (h : v.Stops stop) : Ends [v] (some stop) :=
  ⟨[], v, rfl, by simp, h⟩

theorem ends_of_calm {v : Visit π} (h : v.Calm) : Ends [v] none := List.forall_mem_singleton.2 h

theorem ends_of_error {v : Visit π} {e : ChainError} (position : Nat)
    (h : v.error? position = some e) : Ends [v] (some (.failed e)) :=
  ends_singleton ⟨position, h⟩

/-- A visit among two lists is one of the first list, or comes after the whole of it. -/
theorem mem_or_split {vs ws before after : List (Visit π)} {v : Visit π}
    (h : vs ++ ws = before ++ v :: after) :
    v ∈ vs ∨ ∃ between, ws = between ++ v :: after ∧ before = vs ++ between := by
  rcases List.append_eq_append_iff.1 h with ⟨between, hb, hws⟩ | ⟨rest, hvs, hrest⟩
  · exact .inr ⟨between, hws, hb⟩
  · cases rest with
    | nil => exact .inr ⟨[], by simpa using hrest.symm, by simpa using hvs.symm⟩
    | cons w rest =>
      obtain rfl : v = w := (List.cons.inj hrest).1
      exact .inl (by simp [hvs])

/-- A visit with some property that calm visits lack is not among visits that end calmly. -/
theorem split_of_calm {vs ws before after : List (Visit π)} {v : Visit π}
    (calm : ∀ w ∈ vs, w.Calm) (h : vs ++ ws = before ++ v :: after) (hv : ¬v.Calm) :
    ∃ between, ws = between ++ v :: after ∧ before = vs ++ between :=
  (mem_or_split h).resolve_left fun mem => hv (calm v mem)

/-- A visit that is not calm is the one that cuts its list short, or comes after the list. -/
theorem Ends.split {vs ws before after : List (Visit π)} {v : Visit π} {stop : Option Stop}
    (ends : Ends vs stop) (h : vs ++ ws = before ++ v :: after) (hv : ¬v.Calm) :
    (∃ s, stop = some s ∧ v.Stops s ∧ vs = before ++ [v] ∧ ws = after) ∨
      ∃ between, ws = between ++ v :: after ∧ before = vs ++ between := by
  cases stop with
  | none => exact .inr (split_of_calm ends h hv)
  | some s =>
    obtain ⟨first, last, rfl, calm, stops⟩ := ends
    rw [List.append_assoc] at h
    obtain ⟨between, hb, rfl⟩ := split_of_calm calm h hv
    cases between with
    | nil =>
      obtain ⟨rfl, rfl⟩ := List.cons.inj hb
      exact .inl ⟨s, rfl, stops, by rw [List.append_nil], rfl⟩
    | cons w between =>
      obtain ⟨rfl, rfl⟩ := List.cons.inj hb
      exact .inr ⟨between, rfl, by rw [List.append_assoc, List.singleton_append]⟩

end StateMachine
