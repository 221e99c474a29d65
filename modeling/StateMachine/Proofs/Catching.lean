import StateMachine.Proofs.Protocol

/-!
# What is kept of a panic

Panics are caught in four places: at the guards of edges and of steps, at operations and at error
handlers. In each of them the value that was raised is tried for the known types, one after the
other, and whatever it is, the report of the panic keeps what it carries.

* `Raised.failure?`, `Raised.message?`: what the value says, if it is of a known type.
* `KnownType.tryEach`: the value is handed from one type to the next; `KnownType.tryEach_eq`: the
  order of the types does not matter.
* `PanicError.Keeps`: the report keeps what the value carries.
* `Boundary`: the four places, with `Boundary.enter`; `Boundary.enter_of_panic`: what they do.
* `Reported`: logs in which every panic of a callback that is not a side effect is followed by its
  report; `Machine.reports_host`: the logs of a machine are such.
* `Machine.panics_kept`: both, for every value.
-/

namespace StateMachine

variable {π ν : Type} {host : Host π ν}

/-! ## Values -/

namespace Raised

/-- What a value says that is a failure of one of the known types: its text and its causes. -/
def failure? : Raised → Option Failure
  | boxed f => some f
  | sendable f => some f
  | shared f => some f
  | io f => some f.failure
  | format => some (.plain "an error occurred when formatting an argument")
  | _ => none

/-- The text of a value that is a message. -/
def message? : Raised → Option String
  | message text => some text
  | literal text => some text
  | _ => none

variable {raised : Raised}

theorem payload_of_failure {f : Failure} (h : raised.failure? = some f) :
    raised.payload = .failure f := by
  cases raised <;> cases h <;> rfl

theorem payload_of_message {text : String} (h : raised.message? = some text) :
    raised.payload = .message text := by
  cases raised <;> cases h <;> rfl

theorem payload_of_none (h : raised.failure? = none) (h' : raised.message? = none) :
    raised.payload = .unknown raised := by
  cases raised with
  | custom => rfl
  | boxedText => rfl
  | state => rfl
  | number => rfl
  | unit => rfl
  | other => rfl
  | message => exact nomatch h'
  | literal => exact nomatch h'
  | _ => exact nomatch h

end Raised

/-- The types for which a raised value is tried. -/
inductive KnownType
  | boxed
  | sendable
  | shared
  | io
  | format
  | message
  | literal
deriving DecidableEq

namespace KnownType

/-- Takes a value of the type. Any other value is given back. -/
def take : KnownType → Raised → Except Raised PanicPayload
  | boxed, .boxed f => .ok (.failure f)
  | sendable, .sendable f => .ok (.failure f)
  | shared, .shared f => .ok (.failure f)
  | io, .io f => .ok (.failure f.failure)
  | format, .format => .ok (.failure (.plain "an error occurred when formatting an argument"))
  | message, .message text => .ok (.message text)
  | literal, .literal text => .ok (.message text)
  | _, value => .error value

/-- Tries one type after the other. What none of them takes is kept as it is. -/
def tryEach : List KnownType → Raised → PanicPayload
  | [], value => .unknown value
  | type :: rest, value =>
    match type.take value with
    | .ok payload => payload
    | .error value => tryEach rest value

theorem take_eq (type : KnownType) (raised : Raised) :
    type.take raised = .ok raised.payload ∨ type.take raised = .error raised := by
  unfold take
  split
  · exact .inl rfl
  · exact .inl rfl
  · exact .inl rfl
  · exact .inl rfl
  · exact .inl rfl
  · exact .inl rfl
  · exact .inl rfl
  · exact .inr rfl

theorem exists_take (raised : Raised) :
    raised.payload = .unknown raised ∨
      ∃ type : KnownType, type.take raised = .ok raised.payload := by
  cases raised with
  | boxed => exact .inr ⟨boxed, rfl⟩
  | sendable => exact .inr ⟨sendable, rfl⟩
  | shared => exact .inr ⟨shared, rfl⟩
  | io => exact .inr ⟨io, rfl⟩
  | format => exact .inr ⟨format, rfl⟩
  | message => exact .inr ⟨message, rfl⟩
  | literal => exact .inr ⟨literal, rfl⟩
  | _ => exact .inl rfl

/-- However the types are ordered, a value reaches its own type unchanged, or the end. -/
theorem tryEach_eq {types : List KnownType} {raised : Raised}
    (all : ∀ type : KnownType, type.take raised = .ok raised.payload → type ∈ types) :
    tryEach types raised = raised.payload := by
  induction types with
  | nil =>
    rcases exists_take raised with unknown | ⟨type, taken⟩
    · exact unknown.symm
    · exact absurd (all type taken) List.not_mem_nil
  | cons type rest ih =>
    rw [tryEach]
    rcases type.take_eq raised with taken | refused
    · rw [taken]
    · rw [refused]
      refine ih fun other taken => (List.mem_cons.1 (all other taken)).resolve_left ?_
      rintro rfl
      exact nomatch taken.symm.trans refused

end KnownType

/-! ## Reports -/

theorem suffix_append (s t : String) : t.toList <:+ (s ++ t).toList := by
  rw [String.toList_append]
  exact List.suffix_append _ _

theorem PanicPayload.failure?_eq_some_iff {p : PanicPayload} {f : Failure} :
    p.failure? = some f ↔ p = .failure f := by
  cases p <;> simp [failure?]

theorem PanicPayload.unknown?_eq_some_iff {p : PanicPayload} {value : Raised} :
    p.unknown? = some value ↔ p = .unknown value := by
  cases p <;> simp [unknown?]

namespace PanicError

theorem text_suffix (e : PanicError) : e.payload.text.toList <:+ e.message.toList := by
  have tail : e.payload.text.toList <:+
      s!" from '{e.transition.source.name}': {e.payload.text}".toList := suffix_append _ _
  exact tail.trans (suffix_append _ _)

/-- Whether a report keeps what a value carries. -/
structure Keeps (e : PanicError) (raised : Raised) : Prop where
  /-- A failure of a known type is there with its text and all its causes. -/
  failure : ∀ f, raised.failure? = some f →
    e.inner? = some f ∧ f.text.toList <:+ e.message.toList
  /-- A message is there as a message. -/
  message : ∀ text, raised.message? = some text →
    e.payload = .message text ∧ text.toList <:+ e.message.toList
  /-- Any other value is there as it is. -/
  other : raised.failure? = none → raised.message? = none →
    e.unknownInner? = some raised ∧ "opaque panic value".toList <:+ e.message.toList
  /-- There is never both a failure and a value. -/
  not_both : e.inner? = none ∨ e.unknownInner? = none
  /-- Only a message leaves neither. -/
  neither : e.inner? = none ∧ e.unknownInner? = none ↔ raised.message?.isSome = true

theorem keeps_of_payload {e : PanicError} {raised : Raised} (payload : e.payload = raised.payload) :
    e.Keeps raised where
  failure f hf := by
    have eq := payload.trans (Raised.payload_of_failure hf)
    have ends := e.text_suffix
    rw [eq] at ends
    exact ⟨by rw [inner?, eq]; rfl, ends⟩
  message text ht := by
    have eq := payload.trans (Raised.payload_of_message ht)
    have ends := e.text_suffix
    rw [eq] at ends
    exact ⟨eq, ends⟩
  other hf ht := by
    have eq := payload.trans (Raised.payload_of_none hf ht)
    have ends := e.text_suffix
    rw [eq] at ends
    exact ⟨by rw [unknownInner?, eq]; rfl, ends⟩
  not_both := by
    rw [inner?, unknownInner?]
    cases e.payload with
    | unknown => exact .inl rfl
    | _ => exact .inr rfl
  neither := by
    rw [inner?, unknownInner?, payload]
    cases ht : raised.message? with
    | some text =>
      rw [Raised.payload_of_message ht]
      exact ⟨fun _ => rfl, fun _ => ⟨rfl, rfl⟩⟩
    | none =>
      cases hf : raised.failure? with
      | some f =>
        rw [Raised.payload_of_failure hf]
        exact ⟨fun h => (nomatch h.1), nofun⟩
      | none =>
        rw [Raised.payload_of_none hf ht]
        exact ⟨fun h => (nomatch h.2), nofun⟩

/-- A report that keeps what a value carries holds the value as it is classified. -/
theorem Keeps.payload_eq {e : PanicError} {raised : Raised} (h : e.Keeps raised) :
    e.payload = raised.payload := by
  obtain ⟨transition, step, label, payload⟩ := e
  cases hf : raised.failure? with
  | some f =>
    rw [Raised.payload_of_failure hf]
    exact PanicPayload.failure?_eq_some_iff.1 (h.failure f hf).1
  | none =>
    cases ht : raised.message? with
    | some text =>
      rw [Raised.payload_of_message ht]
      exact (h.message text ht).1
    | none =>
      rw [Raised.payload_of_none hf ht]
      exact PanicPayload.unknown?_eq_some_iff.1 (h.other hf ht).1

/-- Whether a report tells that the callback of a visit raised a value. Panics of side effects are
not reported. A handler's panic is reported with the context as the handler left it. -/
structure Reports (e : PanicError) (v : Visit π) (raised : Raised) : Prop where
  caught : v.call.role.isEffect = false
  panicked : v.settled.verdict = .panic raised
  label : e.label = v.call.label
  transition : e.transition =
    if v.call.role.isHandler then v.settled.context else v.call.context
  keeps : e.Keeps raised

namespace Reports

variable {v : Visit π} {raised : Raised}

theorem of_panic {reported : Context} (effect : v.call.role.isEffect = false)
    (panic : v.settled.verdict = .panic raised)
    (context : reported = if v.call.role.isHandler then v.settled.context else v.call.context)
    (position : Nat) :
    Reports ⟨reported, position, v.call.label, raised.payload⟩ v raised :=
  ⟨effect, panic, rfl, context, keeps_of_payload rfl⟩

theorem text_suffix {e : PanicError} (report : e.Reports v raised) :
    raised.payload.text.toList <:+ e.message.toList := by
  rw [← report.keeps.payload_eq]
  exact e.text_suffix

end Reports

end PanicError

/-! ## The places where panics are caught -/

theorem Call.run_of_code {call : Call π} {code : Code π ν} {n : Nat}
    {ran : Ran (Entry π ν) (Settled π)} (h : code.run host call.context n = some ran) :
    call.run host code n =
      some ⟨ran.value, ran.next, .call call :: (ran.log ++ [.settled call ran.value])⟩ := by
  rw [Call.run, Run.bind_apply_of_eq_some (Run.emit_apply _ _), Run.bind_apply_of_eq_some h,
    Run.bind_apply_of_eq_some (Run.emit_apply _ _)]
  rfl

/-- A place where a callback is called and its panic is caught. -/
inductive Boundary (π ν : Type) where
  /-- The guard of an edge, which asks a predicate of the user. -/
  | edgeGuard (label : String) (code : π → Context → Code π ν)
  /-- The guard of a step at a position, which asks a predicate of the user. -/
  | stepGuard (side : Side) (position : Nat) (step : Step π ν) (label : String)
    (code : π → Context → Code π ν)
  /-- The operation of a step at a position. -/
  | operation (side : Side) (position : Nat) (step : Step π ν)
  /-- An error handler at a position, which is told a cause. -/
  | handler (cause : ChainError) (position : Nat) (handler : Handler π ν)

namespace Boundary

/-- How the callback is called. -/
def call (payload : π) (ctx : Context) : Boundary π ν → Call π
  | edgeGuard label _ => ⟨.edgeGuard, label, ctx, payload⟩
  | stepGuard side _ _ label _ => ⟨.stepGuard side, label, ctx, payload⟩
  | operation side _ step => ⟨.operation side, step.label, ctx, payload⟩
  | handler cause _ h => ⟨.handler cause, h.label, ctx, payload⟩

/-- The code of the callback. -/
def code (payload : π) (ctx : Context) : Boundary π ν → Code π ν
  | edgeGuard _ code => code payload ctx
  | stepGuard _ _ _ _ code => code payload ctx
  | operation _ _ step => step.operation payload ctx
  | handler cause _ h => h.operation payload ctx cause

/-- The position that is reported. An edge has one guard. -/
def position : Boundary π ν → Nat
  | edgeGuard _ _ => 0
  | stepGuard _ position _ _ _ => position
  | operation _ position _ => position
  | handler _ position _ => position

/-- The panic that is caught if the callback raises a value. -/
def caught (payload : π) (ctx reported : Context) (raised : Raised) (b : Boundary π ν) :
    PanicError where
  transition := if (b.call payload ctx).role.isHandler then reported else ctx
  step := b.position
  label := (b.call payload ctx).label
  payload := raised.payload

/-- The panic that a result tells of, if it does. -/
def panicOf {ε α : Type} (panic? : ε → Option PanicError) : Except ε α → Option PanicError
  | .ok _ => none
  | .error e => panic? e

/-- The panic of the guard of an edge, if the error is one. -/
def guardPanic? : FireError → Option PanicError
  | .guardPanicked e => some e
  | _ => none

/-- Calls the callback, as the engine does in this place. What counts here is whether it comes to a
caught panic. -/
def enter (host : Host π ν) (payload : π) (ctx : Context) :
    Boundary π ν → Run (Entry π ν) (Option PanicError)
  | edgeGuard label code =>
    panicOf guardPanic? <$> (Guard.predicate label code).permit host payload ctx
  | stepGuard side position step label code =>
    panicOf some <$>
      { step with guard := some (.predicate label code) }.consult host side position ctx payload
  | operation side position step =>
    (fun left => panicOf ChainError.panic? left.2) <$>
      step.operate host side position ctx payload
  | handler cause position h =>
    (fun left => panicOf ChainError.panic? left.result) <$>
      h.handle host cause position ctx payload

end Boundary

/-! ### What they do -/

section Boundaries

variable {payload left : π} {ctx reported : Context} {n next : Nat} {raised : Raised}
  {log : List (Entry π ν)}

/-- The lines of a callback that panics and whose panic is caught. -/
def caughtLines (call : Call π) (settled : Settled π) (log : List (Entry π ν)) (e : PanicError) :
    List (Entry π ν) :=
  .call call :: (log ++ [.settled call settled]) ++ [.event (.panicked e)]

theorem Guard.check_of_panic {role : Role} {label : String} {code : π → Context → Code π ν}
    (h : (code payload ctx).run host ctx n = some ⟨⟨left, reported, .panic raised⟩, next, log⟩) :
    (Guard.predicate label code).check host role payload ctx n =
      some ⟨.panic raised, next, .call ⟨role, label, ctx, payload⟩ ::
        (log ++ [.settled ⟨role, label, ctx, payload⟩ ⟨left, reported, .panic raised⟩])⟩ := by
  have called : (Call.mk role label ctx payload).run host (code payload ctx) n = _ :=
    Call.run_of_code h
  rw [Guard.check, Run.map_apply_of_eq_some called]

theorem Guard.permit_of_panic {label : String} {code : π → Context → Code π ν}
    (h : (code payload ctx).run host ctx n = some ⟨⟨left, reported, .panic raised⟩, next, log⟩) :
    (Guard.predicate label code).permit host payload ctx n =
      some ⟨.error (.guardPanicked ⟨ctx, 0, label, raised.payload⟩), next,
        caughtLines ⟨.edgeGuard, label, ctx, payload⟩ ⟨left, reported, .panic raised⟩ log
          ⟨ctx, 0, label, raised.payload⟩⟩ := by
  rw [Guard.permit, Run.bind_apply_of_eq_some (Guard.check_of_panic h)]
  rfl

theorem Step.consult_of_panic {side : Side} {position : Nat} {step : Step π ν} {label : String}
    {code : π → Context → Code π ν} (guarded : step.guard = some (.predicate label code))
    (h : (code payload ctx).run host ctx n = some ⟨⟨left, reported, .panic raised⟩, next, log⟩) :
    step.consult host side position ctx payload n =
      some ⟨.error ⟨ctx, position, label, raised.payload⟩, next,
        caughtLines ⟨.stepGuard side, label, ctx, payload⟩ ⟨left, reported, .panic raised⟩ log
          ⟨ctx, position, label, raised.payload⟩⟩ := by
  simp only [Step.consult, guarded]
  rw [Run.bind_apply_of_eq_some (Guard.check_of_panic h)]
  rfl

theorem Step.operate_of_panic {side : Side} {position : Nat} {step : Step π ν}
    (h : (step.operation payload ctx).run host ctx n =
      some ⟨⟨left, reported, .panic raised⟩, next, log⟩) :
    step.operate host side position ctx payload n =
      some ⟨(left, .error (.panic ⟨ctx, position, step.label, raised.payload⟩)), next,
        caughtLines ⟨.operation side, step.label, ctx, payload⟩ ⟨left, reported, .panic raised⟩ log
          ⟨ctx, position, step.label, raised.payload⟩⟩ := by
  have called : (Call.mk (.operation side) step.label ctx payload).run host
      (step.operation payload ctx) n = _ := Call.run_of_code h
  rw [Step.operate, Run.bind_apply_of_eq_some called]
  rfl

theorem Handler.handle_of_panic {cause : ChainError} {position : Nat} {handler : Handler π ν}
    (h : (handler.operation payload ctx cause).run host ctx n =
      some ⟨⟨left, reported, .panic raised⟩, next, log⟩) :
    handler.handle host cause position ctx payload n =
      some ⟨⟨left, reported, .error (.panic ⟨reported, position, handler.label, raised.payload⟩)⟩,
        next, caughtLines ⟨.handler cause, handler.label, ctx, payload⟩
          ⟨left, reported, .panic raised⟩ log
            ⟨reported, position, handler.label, raised.payload⟩⟩ := by
  have called : (Call.mk (.handler cause) handler.label ctx payload).run host
      (handler.operation payload ctx cause) n = _ := Call.run_of_code h
  rw [Handler.handle, Run.bind_apply_of_eq_some called]
  rfl

namespace Boundary

variable {b : Boundary π ν}

/-- Whichever of the four places a callback is called in, its panic is caught there, and reported
before anything else happens. -/
theorem enter_of_panic
    (h : (b.code payload ctx).run host ctx n =
      some ⟨⟨left, reported, .panic raised⟩, next, log⟩) :
    b.enter host payload ctx n =
      some ⟨some (b.caught payload ctx reported raised), next,
        caughtLines (b.call payload ctx) ⟨left, reported, .panic raised⟩ log
          (b.caught payload ctx reported raised)⟩ := by
  cases b with
  | edgeGuard label code =>
    rw [enter, Run.map_apply_of_eq_some (Guard.permit_of_panic h)]
    rfl
  | stepGuard side position step label code =>
    rw [enter, Run.map_apply_of_eq_some (Step.consult_of_panic rfl h)]
    rfl
  | operation side position step =>
    rw [enter, Run.map_apply_of_eq_some (Step.operate_of_panic h)]
    rfl
  | handler cause position handler =>
    rw [enter, Run.map_apply_of_eq_some (Handler.handle_of_panic h)]
    rfl

theorem caught_reports (b : Boundary π ν) (payload left : π) (ctx reported : Context)
    (raised : Raised) :
    (b.caught payload ctx reported raised).Reports
      ⟨b.call payload ctx, ⟨left, reported, .panic raised⟩⟩ raised where
  caught := by cases b <;> rfl
  panicked := rfl
  label := rfl
  transition := by cases b <;> rfl
  keeps := PanicError.keeps_of_payload rfl

end Boundary

end Boundaries

/-! ## Logs -/

/-- Whether a line of the log is neither a panic that is caught nor the report of one. -/
def Entry.Plain : Entry π ν → Prop
  | settled c s => c.role.isEffect = true ∨ ∀ raised, s.verdict ≠ .panic raised
  | event (.panicked _) => False
  | _ => True

/-- Logs in which each panic of a callback that is not a side effect is followed by its report, and
nothing else is reported as a panic. -/
inductive Reported : List (Entry π ν) → Prop
  | nil : Reported []
  | plain {line rest} (plain : line.Plain) (more : Reported rest) : Reported (line :: rest)
  | panicked {v : Visit π} {e raised rest} (report : e.Reports v raised) (more : Reported rest) :
      Reported (.settled v.call v.settled :: .event (.panicked e) :: rest)

theorem Reported.append {log log' : List (Entry π ν)} (h : Reported log) (h' : Reported log') :
    Reported (log ++ log') := by
  induction h with
  | nil => exact h'
  | plain plain _ ih => exact .plain plain ih
  | panicked report _ ih => exact .panicked report ih

/-- Whether whatever a host is asked leaves such a log. -/
def Host.Reports (host : Host π ν) : Prop := ∀ q (f : Finished (host.ask q)), Reported f.ran.log

section Parts

variable {ctx : Context} {payload : π} {hs hs' : List (Happening host)}

theorem reported_append (h : Reported (logOf hs)) (h' : Reported (logOf hs')) :
    Reported (logOf (hs ++ hs')) := by
  rw [logOf_append]
  exact h.append h'

theorem reported_event {e : Event} (plain : (Entry.event e : Entry π ν).Plain)
    (h : Reported (logOf hs)) : Reported (logOf (.event e :: hs)) := by
  rw [logOf_cons]
  exact .plain plain h

variable (reports : host.Reports)

include reports

/-- What happens within the turn of a callback is asked of the host. -/
theorem Turn.reported (t : Turn host) : Reported t.run.ran.log := by
  obtain ⟨hs, path⟩ := t.code.plays_run host t.call.context t.run
  have inner := path.rel.inner
  rw [← path.log_eq]
  clear path
  induction hs with
  | nil => exact .nil
  | cons h hs ih =>
    obtain ⟨first, rest⟩ := List.forall_mem_cons.1 inner
    rw [logOf_cons]
    refine Reported.append ?_ (ih rest)
    cases h with
    | asked q f => exact reports q f
    | remark r => exact .plain trivial .nil
    | retarget destination => exact .nil
    | _ => exact first.elim

theorem reported_turn {t : Turn host} (plain : (Entry.settled (ν := ν) t.call t.settled).Plain)
    (more : Reported (logOf hs)) : Reported (logOf (.turn t :: hs)) := by
  rw [logOf_cons]
  exact Reported.append (.plain trivial ((t.reported reports).append (.plain plain .nil))) more

theorem reported_calm {t : Turn host} {verdict : Verdict} (ended : t.verdict = verdict)
    (calm : ∀ raised, verdict ≠ .panic raised) (more : Reported (logOf hs)) :
    Reported (logOf (.turn t :: hs)) :=
  reported_turn reports (.inr fun raised panic => calm raised (ended.symm.trans panic)) more

theorem reported_caught {t : Turn host} {call : Call π} {code : Code π ν} {raised : Raised}
    {reported : Context} (of : t.Of call code) (panic : t.verdict = .panic raised)
    (effect : call.role.isEffect = false)
    (context : reported = if call.role.isHandler then t.settled.context else call.context)
    (position : Nat) :
    Reported (logOf
      [.turn t, .event (.panicked ⟨reported, position, call.label, raised.payload⟩)]) := by
  obtain ⟨rfl, -⟩ := of
  have report : PanicError.Reports ⟨reported, position, t.call.label, raised.payload⟩ t.visit
      raised := .of_panic (v := t.visit) effect panic context position
  have log : logOf [.turn t, .event (.panicked ⟨reported, position, t.call.label,
      raised.payload⟩)] = .call t.call :: (t.run.ran.log ++ [.settled t.call t.settled,
        .event (.panicked ⟨reported, position, t.call.label, raised.payload⟩)]) := by
    simp [Happening.log]
  rw [log]
  exact .plain trivial ((t.reported reports).append (.panicked report .nil))

/-! ### Guards and steps -/

theorem Guard.Answers.reported {role : Role} {g : Guard π ν} {verdict : Verdict}
    (h : g.Answers host role payload ctx hs verdict) (calm : ∀ raised, verdict ≠ .panic raised) :
    Reported (logOf hs) := by
  rcases h.asked with ⟨rfl, -⟩ | ⟨t, code, rfl, -, rfl⟩
  · exact .nil
  · exact reported_turn reports (.inr calm) .nil

theorem Guard.Answers.reported_panic {role : Role} {g : Guard π ν} {raised : Raised}
    (h : g.Answers host role payload ctx hs (.panic raised)) (effect : role.isEffect = false)
    (handler : role.isHandler = false) (position : Nat) :
    Reported (logOf (hs ++ [.event (.panicked ⟨ctx, position, g.label, raised.payload⟩)])) := by
  rcases h.asked with ⟨-, calm⟩ | ⟨t, code, rfl, of, panic⟩
  · exact absurd rfl (calm raised)
  · exact reported_caught reports of panic effect (by simp [handler]) position

theorem Edge.Admits.reported {edge : Edge π ν} {r : Except FireError Unit}
    (h : edge.Admits host payload ctx hs r) : Reported (logOf hs) := by
  cases h with
  | free => exact .nil
  | passed _ answer => exact answer.reported reports fun _ => Verdict.noConfusion
  | rejected _ answer =>
    exact reported_append (answer.reported reports fun _ => Verdict.noConfusion)
      (reported_event trivial .nil)
  | panicked _ answer => exact answer.reported_panic reports rfl rfl 0

theorem Step.Consults.reported {side : Side} {position : Nat} {step : Step π ν}
    {r : Except PanicError Bool} (h : step.Consults host side position ctx payload hs r) :
    Reported (logOf hs) := by
  cases h with
  | free => exact .nil
  | passed _ answer => exact answer.reported reports fun _ => Verdict.noConfusion
  | skipped _ answer =>
    exact reported_append (answer.reported reports fun _ => Verdict.noConfusion)
      (reported_event trivial .nil)
  | panicked _ answer => exact answer.reported_panic reports rfl rfl position

theorem Step.Operates.reported {side : Side} {position : Nat} {step : Step π ν}
    {out : π × Except ChainError Unit} (h : step.Operates host side position ctx payload hs out) :
    Reported (logOf hs) := by
  cases h with
  | done t of ok => exact reported_calm reports ok (fun _ => Verdict.noConfusion) .nil
  | failed t of fail =>
    exact reported_calm reports fail (fun _ => Verdict.noConfusion) (reported_event trivial .nil)
  | panicked t of panic => exact reported_caught reports of panic rfl rfl position

theorem Chain.Passes.reported {side : Side} {position : Nat} {steps : List (Step π ν)}
    {out : π × Except ChainError Unit}
    (h : Chain.Passes host side ctx position steps payload hs out) : Reported (logOf hs) := by
  induction h with
  | nil => exact .nil
  | blocked guard => exact guard.reported reports
  | skipped guard _ ih => exact reported_append (guard.reported reports) ih
  | stopped guard operation =>
    exact reported_append (guard.reported reports) (operation.reported reports)
  | passed guard operation _ ih =>
    exact reported_append (guard.reported reports)
      (reported_append (operation.reported reports) ih)

/-! ### Handlers -/

theorem Handler.Handles.reported {cause : ChainError} {position : Nat} {handler : Handler π ν}
    {out : Recovered π} (h : handler.Handles host cause position ctx payload hs out) :
    Reported (logOf hs) := by
  cases h with
  | kept t of ok => exact reported_calm reports ok (fun _ => Verdict.noConfusion) .nil
  | retargeted t of ok =>
    exact reported_calm reports ok (fun _ => Verdict.noConfusion) (reported_event trivial .nil)
  | failed t of fail =>
    exact reported_calm reports fail (fun _ => Verdict.noConfusion) (reported_event trivial .nil)
  | panicked t of panic => exact reported_caught reports of panic rfl rfl position

theorem Recovery.Handles.reported {cause : ChainError} {position : Nat}
    {handlers : List (Handler π ν)} {out : Recovered π}
    (h : Recovery.Handles host cause position handlers ctx payload hs out) :
    Reported (logOf hs) := by
  induction h with
  | nil => exact .nil
  | stopped last => exact last.reported reports
  | passed first _ ih => exact reported_append (first.reported reports) ih

/-! ### Side effects -/

theorem Effect.Heard.reported {phase : Phase} {elapsed : Nat} {effects : List (Effect π ν)}
    {ts : List (Turn host)} {escape? : Option Raised}
    (h : Effect.Heard host phase payload ctx elapsed effects ts escape?) :
    Reported (logOf (ts.map Happening.turn)) := by
  induction h with
  | nil => exact .nil
  | calm t _ calm _ ih => exact reported_turn reports (.inr calm) ih
  | panicked t of => exact reported_turn reports (.inl (by rw [of.1]; rfl)) .nil

theorem Machine.Tells.reported {m : Machine π ν} {phase : Phase} {r : Except Raised Nat}
    (h : m.Tells host phase payload ctx hs r) : Reported (logOf hs) := by
  cases h with
  | told heard => exact reported_append (heard.reported reports) (reported_event trivial .nil)
  | panicked heard => exact heard.reported reports

/-! ### Fires -/

theorem Machine.Course.reported {m : Machine π ν} {source destination : Node π ν}
    {edge : Edge π ν} {out : π × Outcome}
    (h : m.Course host source edge destination ctx payload hs out) : Reported (logOf hs) := by
  have firing {g hs : List (Happening host)} {c : Context} (h : Reported (logOf g))
      (h' : Reported (logOf hs)) : Reported (logOf (g ++ .event (.firing c) :: hs)) :=
    reported_append h (reported_event trivial h')
  have failed (c : Context) (e : ChainError) :
      Reported (logOf [(.event (.failed c e) : Happening host)]) := reported_event trivial .nil
  cases h with
  | refused guard => exact guard.reported reports
  | cutBefore guard before => exact firing (guard.reported reports) (before.reported reports)
  | cutRecovery guard before exit recovery between =>
    exact firing (guard.reported reports) (reported_append (before.reported reports)
      (reported_append (exit.1.reported reports) (reported_append (recovery.1.reported reports)
        (between.reported reports))))
  | exitFailed guard before exit recovery between =>
    exact firing (guard.reported reports) (reported_append (before.reported reports)
      (reported_append (exit.1.reported reports) (reported_append (recovery.1.reported reports)
        (reported_append (between.reported reports) (failed _ _)))))
  | cutBetween guard before exit between =>
    exact firing (guard.reported reports) (reported_append (before.reported reports)
      (reported_append (exit.1.reported reports) (between.reported reports)))
  | entryFailed guard before exit between entry recovery =>
    exact firing (guard.reported reports) (reported_append (before.reported reports)
      (reported_append (exit.1.reported reports) (reported_append (between.reported reports)
        (reported_append (entry.1.reported reports) (reported_append (recovery.1.reported reports)
          (failed _ _))))))
  | cutAfter guard before exit between entry after =>
    exact firing (guard.reported reports) (reported_append (before.reported reports)
      (reported_append (exit.1.reported reports) (reported_append (between.reported reports)
        (reported_append (entry.1.reported reports) (after.reported reports)))))
  | completed guard before exit between entry after =>
    exact firing (guard.reported reports) (reported_append (before.reported reports)
      (reported_append (exit.1.reported reports) (reported_append (between.reported reports)
        (reported_append (entry.1.reported reports) (reported_append (after.reported reports)
          (reported_event trivial .nil))))))

theorem Machine.Answers.reported [Payload π] {m : Machine π ν} {q : Question π} {a : Answer π}
    (h : m.Answers host q hs a) : Reported (logOf hs) := by
  cases h with
  | guarded _ _ _ guard =>
    rw [logOf_cons]
    exact guard.reported reports
  | fired _ _ course =>
    rw [logOf_cons]
    exact course.reported reports
  | _ => exact .nil

end Parts

namespace Machine

variable [Payload π]

/-- Whatever is asked of a machine, at whatever depth, panics are reported. -/
theorem reports_host (m : Machine π ν) (depth : Nat) : (m.host depth).Reports := by
  induction depth with
  | zero =>
    intro q f
    obtain ⟨result, hran⟩ := Finished.of_exhausted f
    rw [hran]
    exact .nil
  | succ depth ih =>
    intro q f
    obtain ⟨hs, unf⟩ := m.plays_ask depth q f
    rw [← unf.log_eq]
    exact unf.rel.reported ih

/-- Panics keep what they carry. Whatever value a callback raises, in each of the four places where
panics are caught, a report follows that keeps it, and the order in which the known types are tried
does not matter. In the logs of a machine all such panics are reported, those in fires within
callbacks included, and nothing else is. -/
theorem panics_kept (m : Machine π ν) (depth : Nat) :
    (∀ (host : Host π ν) (b : Boundary π ν) payload ctx n left reported raised next log,
      (b.code payload ctx).run host ctx n =
        some ⟨⟨left, reported, .panic raised⟩, next, log⟩ →
      ∃ e : PanicError, b.enter host payload ctx n = some ⟨some e, next,
          caughtLines (b.call payload ctx) ⟨left, reported, .panic raised⟩ log e⟩ ∧
        e.step = b.position ∧
        e.Reports ⟨b.call payload ctx, ⟨left, reported, .panic raised⟩⟩ raised) ∧
    (∀ types : List KnownType, (∀ type, type ∈ types) →
      ∀ raised, KnownType.tryEach types raised = raised.payload) ∧
    (∀ payload trigger n ran, m.fire depth payload trigger n = some ran → Reported ran.log) ∧
    ∀ payload trigger n ran, m.canFire depth payload trigger n = some ran →
      Reported ran.log := by
  refine ⟨?_, ?_, ?_, ?_⟩
  · intro host b payload ctx n left reported raised next log h
    exact ⟨_, b.enter_of_panic h, rfl, b.caught_reports payload left ctx reported raised⟩
  · exact fun types all raised => KnownType.tryEach_eq fun type _ => all type
  · intro payload trigger n ran h
    obtain ⟨hs, unf⟩ := m.plays_fireOn payload trigger ⟨n, _, h⟩
    have log : logOf hs = ran.log := unf.log_eq
    exact log ▸ unf.rel.reported (m.reports_host depth)
  · intro payload trigger n ran h
    obtain ⟨hs, unf⟩ := m.plays_canFireOn payload trigger ⟨n, _, h⟩
    have log : logOf hs = ran.log := unf.log_eq
    exact log ▸ unf.rel.reported (m.reports_host depth)

/-- A handler that finds no shed for a parcel, because a disk cannot be read. -/
def stow : Handler Subject Remark :=
  ⟨"stow", Script.handler (.act (.retarget ⟨"shed"⟩)
    (.stop (.panic (.io (.wrapping ⟨"disk", ["sector 7", "bit rot"]⟩)))))⟩

/-- The handler's report has the failure with both its causes. In the log of the parcel, the panic
that escapes from the fire within a step is reported. -/
theorem parcel_panics_kept :
    (∃ (e : PanicError) (log : List (Entry Subject Remark)),
      (Boundary.handler (.operation 0 "stamp" (.plain "no ink")) 2 stow).enter (parcel.host 0)
        packed ⟨7, ⟨"packed"⟩, ⟨"sent"⟩, ⟨"send"⟩⟩ 8 = some ⟨some e, 8, log⟩ ∧
      e.inner? = some ⟨"disk", ["sector 7", "bit rot"]⟩ ∧ e.unknownInner? = none ∧
      e.transition.destination = ⟨"shed"⟩) ∧
    KnownType.tryEach [.literal, .message, .format, .io, .shared, .sendable, .boxed]
      (.boxedText "") = .unknown (.boxedText "") ∧
    (∃ ran, parcel.fire 1 packed ⟨"send"⟩ 0 = some ran ∧ Reported ran.log) ∧
    ∃ ran, parcel.canFire 1 packed ⟨"send"⟩ 0 = some ran ∧ Reported ran.log := by
  obtain ⟨boundaries, types, fires, questions⟩ := panics_kept parcel 1
  refine ⟨?_, types _ (fun type => by cases type <;> decide) _, ?_, ?_⟩
  · obtain ⟨e, entered, -, report⟩ := boundaries (parcel.host 0)
      (.handler (.operation 0 "stamp" (.plain "no ink")) 2 stow) packed
      ⟨7, ⟨"packed"⟩, ⟨"sent"⟩, ⟨"send"⟩⟩ 8 packed ⟨7, ⟨"packed"⟩, ⟨"shed"⟩, ⟨"send"⟩⟩
      (.io (.wrapping ⟨"disk", ["sector 7", "bit rot"]⟩)) 8 [] rfl
    have inner := (report.keeps.failure _ rfl).1
    refine ⟨e, _, entered, inner, ?_, ?_⟩
    · exact report.keeps.not_both.resolve_left (by simp [inner])
    · rw [report.transition]
      rfl
  · have finished : (parcel.fire 1 packed ⟨"send"⟩ 0).isSome = true := by decide +kernel
    obtain ⟨ran, h⟩ := Option.isSome_iff_exists.1 finished
    exact ⟨ran, h, fires _ _ _ _ h⟩
  · have finished : (parcel.canFire 1 packed ⟨"send"⟩ 0).isSome = true := by decide +kernel
    obtain ⟨ran, h⟩ := Option.isSome_iff_exists.1 finished
    exact ⟨ran, h, questions _ _ _ _ h⟩

end Machine

end StateMachine
