import Mathlib.Algebra.GroupWithZero.Nat
import StateMachine.Proofs.Outline

/-!
# The events of a fire

Some of the events of a fire are landmarks: it begins and it ends, side effects have been told, a
callback went wrong. The events of a fire that is answered are known up to those between the
landmarks, and every report of how many side effects were told agrees with the calls.

* `Mark`, `Event.mark?`, `marks`: the landmarks.
* `heard`: how many side effects of a phase were called.
* `Sums`: the marks of happenings, where all that were called of a phase have been reported. For
  every part of the engine there is a lemma that says what its marks are.
* `Context.Guarded`, `Context.Reports`: the events of a guard, and of a fire, by what it answers.
* `Machine.Course.reports`: a fire that is answered has such events.
-/

namespace StateMachine

variable {π ν : Type} {host : Host π ν}

/-! ## Marks -/

/-- A landmark in the log. -/
inductive Mark where
  /-- A transition begins. -/
  | opened (id : Nat)
  /-- A transition ends. -/
  | closed (id : Nat)
  /-- The side effects of a phase have been told, so many of them. -/
  | told (phase : Phase) (invoked : Nat)
  /-- A callback has gone wrong, with the error that its list comes to. -/
  | wrong (error : ChainError)
deriving DecidableEq

/-- The landmark that an event is, if it is one. -/
def Event.mark? : Event → Option Mark
  | firing ctx => some (.opened ctx.id)
  | complete ctx => some (.closed ctx.id)
  | failed ctx _ => some (.closed ctx.id)
  | dispatched _ phase invoked => some (.told phase invoked)
  | stepFailed _ step label failure => some (.wrong (.operation step label failure))
  | handlerFailed _ step label failure => some (.wrong (.handler step label failure))
  | panicked e => some (.wrong (.panic e))
  | _ => none

/-- The landmarks among events. -/
def marks (es : List Event) : List Mark := es.filterMap Event.mark?

@[simp] theorem marks_append (es es' : List Event) : marks (es ++ es') = marks es ++ marks es' :=
  List.filterMap_append

/-- The phase that a side effect is called for. -/
def Role.phase? : Role → Option Phase
  | effect phase _ => some phase
  | _ => none

/-- How many side effects of a phase were called. -/
def heard (phase : Phase) (cs : List (Call π)) : Nat :=
  cs.countP fun c => c.role.phase? = some phase

theorem heard_of_role {phase : Phase} {cs : List (Call π)}
    (h : ∀ c ∈ cs, c.role.phase? = some phase) (phase' : Phase) :
    heard phase' cs = if phase = phase' then cs.length else 0 := by
  by_cases same : phase = phase'
  · rw [if_pos same]
    exact List.countP_eq_length.2 fun c hc => decide_eq_true (same ▸ h c hc)
  · rw [if_neg same]
    refine List.countP_eq_zero.2 fun c hc called => same ?_
    exact Option.some.inj ((h c hc).symm.trans (of_decide_eq_true called))

/-- How many side effects of a phase have been told, if a mark says so. -/
def Mark.invoked (phase : Phase) : Mark → Nat
  | told p n => if p = phase then n else 0
  | _ => 0

@[simp] theorem Mark.invoked_told (phase p : Phase) (n : Nat) :
    (told p n).invoked phase = if p = phase then n else 0 := rfl

/-- Errors tell nothing of side effects. -/
@[simp] theorem Mark.invoked_wrong (phase : Phase) (errors : List ChainError) :
    (errors.map (Mark.invoked phase ∘ Mark.wrong)).sum = 0 := by
  induction errors with
  | nil => rfl
  | cons e errors ih => exact (Nat.zero_add _).trans ih

/-! ## The marks of happenings -/

/-- The event that a happening is, if it is one. -/
def Happening.event? : Happening host → Option Event
  | event e => some e
  | _ => none

theorem Happening.eq_of_event? {h : Happening host} {e : Event} (he : h.event? = some e) :
    h = .event e := by
  cases h with
  | event e' => exact congrArg _ (Option.some.inj he)
  | _ => exact nomatch he

/-- The events among happenings, those within turns or questions aside. -/
def eventsOf (hs : List (Happening host)) : List Event := hs.filterMap Happening.event?

@[simp] theorem eventsOf_nil : eventsOf ([] : List (Happening host)) = [] := rfl

@[simp] theorem eventsOf_event (e : Event) (hs : List (Happening host)) :
    eventsOf (.event e :: hs) = e :: eventsOf hs := rfl

@[simp] theorem eventsOf_append (hs hs' : List (Happening host)) :
    eventsOf (hs ++ hs') = eventsOf hs ++ eventsOf hs' :=
  List.filterMap_append

@[simp] theorem eventsOf_turn (t : Turn host) (hs : List (Happening host)) :
    eventsOf (.turn t :: hs) = eventsOf hs := rfl

theorem eventsOf_map_turn (ts : List (Turn host)) : eventsOf (ts.map Happening.turn) = [] := by
  rw [eventsOf, List.filterMap_map]
  exact List.filterMap_eq_nil_iff.2 fun _ _ => rfl

/-- The side effects that were called among happenings. -/
def heardIn (phase : Phase) (hs : List (Happening host)) : Nat :=
  heard phase ((turns hs).map Turn.call)

theorem heardIn_append (phase : Phase) (hs hs' : List (Happening host)) :
    heardIn phase (hs ++ hs') = heardIn phase hs + heardIn phase hs' := by
  simp [heardIn, heard]

theorem heardIn_event (phase : Phase) (e : Event) (hs : List (Happening host)) :
    heardIn phase (.event e :: hs) = heardIn phase hs := rfl

/-- The marks of happenings. As many side effects were called as they say. -/
structure Sums (hs : List (Happening host)) (ms : List Mark) : Prop where
  marks_eq : marks (eventsOf hs) = ms
  heard_eq : ∀ phase, heardIn phase hs = (ms.map (Mark.invoked phase)).sum

namespace Sums

variable {hs hs' : List (Happening host)} {ms ms' : List Mark} {e : Event}

theorem nil : Sums ([] : List (Happening host)) [] := ⟨rfl, fun _ => rfl⟩

theorem append (h : Sums hs ms) (h' : Sums hs' ms') : Sums (hs ++ hs') (ms ++ ms') where
  marks_eq := by rw [eventsOf_append, marks_append, h.marks_eq, h'.marks_eq]
  heard_eq phase := by
    rw [heardIn_append, List.map_append, List.sum_append, h.heard_eq, h'.heard_eq]

theorem event (silent : ∀ phase, (e.mark?.toList.map (Mark.invoked phase)).sum = 0) :
    Sums [(.event e : Happening host)] e.mark?.toList where
  marks_eq := by
    rw [eventsOf_event, marks, List.filterMap_cons]
    cases e.mark? <;> rfl
  heard_eq phase := (silent phase).symm

theorem turn {t : Turn host} {call : Call π} {code : Code π ν} (of : t.Of call code)
    (ht : call.role.phase? = none) : Sums [.turn t] [] where
  marks_eq := rfl
  heard_eq phase := by simp [heardIn, heard, of.1, ht]

end Sums

/-! ### Guards, steps and handlers -/

section Steps

variable {ctx : Context} {payload : π} {hs : List (Happening host)} {position : Nat} {side : Side}

/-- The mark of a list that came to an error. -/
def wrongs : Except ChainError Unit → List Mark
  | .ok _ => []
  | .error e => [.wrong e]

theorem Guard.Answers.sums {role : Role} {g : Guard π ν} {verdict : Verdict}
    (hr : role.phase? = none) (h : g.Answers host role payload ctx hs verdict) :
    eventsOf hs = [] ∧ Sums hs [] := by
  rcases h.asked with ⟨rfl, -⟩ | ⟨t, code, rfl, of, -⟩
  · exact ⟨rfl, .nil⟩
  · exact ⟨rfl, .turn of hr⟩

theorem Step.Consults.sums {step : Step π ν} {r : Except PanicError Bool}
    (h : step.Consults host side position ctx payload hs r) :
    Sums hs
      (match r with
        | .ok _ => []
        | .error panic => [.wrong (.panic panic)]) := by
  cases h with
  | free => exact .nil
  | passed _ answer => exact (answer.sums rfl).2
  | skipped _ answer => exact (answer.sums rfl).2.append (.event fun _ => rfl)
  | panicked _ answer => exact (answer.sums rfl).2.append (.event fun _ => rfl)

theorem Step.Operates.sums {step : Step π ν} {out : π × Except ChainError Unit}
    (h : step.Operates host side position ctx payload hs out) : Sums hs (wrongs out.2) := by
  cases h with
  | done t of => exact .turn of rfl
  | failed t of => exact (Sums.turn of rfl).append (.event fun _ => rfl)
  | panicked t of => exact (Sums.turn of rfl).append (.event fun _ => rfl)

/-- The steps of a chain report what went wrong with the last of them, if anything did. -/
theorem Chain.Passes.sums {steps : List (Step π ν)} {out : π × Except ChainError Unit}
    (h : Chain.Passes host side ctx position steps payload hs out) : Sums hs (wrongs out.2) := by
  induction h with
  | nil => exact .nil
  | blocked guard => exact guard.sums
  | skipped guard _ ih => exact guard.sums.append ih
  | stopped guard operation => exact guard.sums.append operation.sums
  | passed guard operation _ ih => exact guard.sums.append (operation.sums.append ih)

theorem Handler.Handles.sums {handler : Handler π ν} {cause : ChainError} {out : Recovered π}
    (h : handler.Handles host cause position ctx payload hs out) :
    Sums hs (wrongs out.result) := by
  cases h with
  | kept t of => exact .turn of rfl
  | retargeted t of => exact (Sums.turn of rfl).append (.event fun _ => rfl)
  | failed t of => exact (Sums.turn of rfl).append (.event fun _ => rfl)
  | panicked t of => exact (Sums.turn of rfl).append (.event fun _ => rfl)

theorem Recovery.Handles.sums {handlers : List (Handler π ν)} {cause : ChainError}
    {out : Recovered π} (h : Recovery.Handles host cause position handlers ctx payload hs out) :
    Sums hs (wrongs out.result) := by
  induction h with
  | nil => exact .nil
  | stopped last => exact last.sums
  | passed first _ ih => exact first.sums.append ih

/-- The errors that are reported when handlers have run for a cause: the cause, and the error of a
handler that went wrong. -/
def Recovered.errors (r : Recovered π) (cause : ChainError) : List ChainError :=
  match r.result with
  | .ok () => [cause]
  | .error superseding => [cause, superseding]

/-- Steps that fail and the handlers that run for their error. -/
theorem Sums.recovered {xs rs : List (Happening host)} {cause : ChainError} {out : Recovered π}
    (steps : Sums xs [.wrong cause]) (handlers : Sums rs (wrongs out.result)) :
    Sums (xs ++ rs) ((out.errors cause).map .wrong) := by
  have sums := steps.append handlers
  unfold Recovered.errors
  cases hr : out.result with
  | ok => rwa [hr] at sums
  | error e => rwa [hr] at sums

end Steps

/-! ### Side effects -/

/-- When the side effects of a phase have been told, their number is reported. -/
theorem Machine.Tells.sums {m : Machine π ν} {phase : Phase} {payload : π} {ctx : Context}
    {hs : List (Happening host)} {k : Nat} (h : m.Tells host phase payload ctx hs (.ok k)) :
    Sums hs [.told phase k] := by
  cases h with
  | @told ts heard =>
    constructor
    · rw [eventsOf_append, eventsOf_map_turn]
      rfl
    · intro phase'
      have role : ∀ c ∈ ts.map Turn.call, c.role.phase? = some phase := fun c hc => by
        obtain ⟨t, ht, rfl⟩ := List.mem_map.1 hc
        rw [heard.role t ht]
        rfl
      rw [heardIn_append, heardIn, turns_map_turn, heard_of_role role, List.length_map]
      rfl

/-! ## Fires -/

/-- The events of a transition whose guard is asked: none if it lets the transition pass, else one
that says why not. -/
inductive Context.Guarded (ctx : Context) : List Event → Except FireError Unit → Prop
  | passed : Guarded ctx [] (.ok ())
  | rejected {guard failure} (level : (Event.guardRejected ctx guard failure).level = .debug) :
      Guarded ctx [.guardRejected ctx guard failure]
        (.error (.guardRejected ctx.source ctx.trigger guard failure))
  | panicked {panic} (level : (Event.panicked panic).level = .warn)
      (same : panic.transition = ctx) :
      Guarded ctx [.panicked panic] (.error (.guardPanicked panic))

/-- The events of a fire that has found its way, and the calls, by what it answers. -/
inductive Context.Reports (ctx : Context) (cs : List (Call π)) :
    List Event → Except FireError Context → Prop
  /-- The guard does not let the fire pass. -/
  | refused {es e} (guard : ctx.Guarded es (.error e)) : Reports ctx cs es (.error e)
  /-- The fire succeeds: all three phases are told, and nothing goes wrong. -/
  | completed {es}
      (within : marks es = [.told .beforeTransition (heard .beforeTransition cs),
        .told .betweenStates (heard .betweenStates cs),
        .told .afterTransition (heard .afterTransition cs)]) :
      Reports ctx cs (.firing ctx :: (es ++ [.complete ctx])) (.ok ctx)
  /-- An exit step goes wrong, and perhaps a handler: the last error is reported. -/
  | exitFailed {es errors c e} (of : ctx.Of c) (last : errors = [e] ∨ ∃ cause, errors = [cause, e])
      (none : heard .afterTransition cs = 0)
      (within : marks es = .told .beforeTransition (heard .beforeTransition cs) ::
        (errors.map .wrong ++ [.told .betweenStates (heard .betweenStates cs)])) :
      Reports ctx cs (.firing ctx :: (es ++ [.failed c e])) (.error (.chain c e))
  /-- An entry step goes wrong, and perhaps a handler: the last error is reported. -/
  | entryFailed {es errors c e} (of : ctx.Of c) (last : errors = [e] ∨ ∃ cause, errors = [cause, e])
      (none : heard .afterTransition cs = 0)
      (within : marks es = .told .beforeTransition (heard .beforeTransition cs) ::
        .told .betweenStates (heard .betweenStates cs) :: errors.map .wrong) :
      Reports ctx cs (.firing ctx :: (es ++ [.failed c e])) (.error (.chain c e))

theorem Edge.Admits.guarded {edge : Edge π ν} {payload : π} {ctx : Context}
    {hs : List (Happening host)} {r : Except FireError Unit}
    (h : edge.Admits host payload ctx hs r) : ctx.Guarded (eventsOf hs) r := by
  cases h with
  | free => exact .passed
  | passed _ answer =>
    rw [(answer.sums rfl).1]
    exact .passed
  | rejected _ answer =>
    rw [eventsOf_append, (answer.sums rfl).1]
    exact .rejected rfl
  | panicked _ answer =>
    rw [eventsOf_append, (answer.sums rfl).1]
    exact .panicked rfl rfl

theorem Edge.Admits.sums {edge : Edge π ν} {payload : π} {ctx : Context}
    {hs : List (Happening host)} (h : edge.Admits host payload ctx hs (.ok ())) :
    eventsOf hs = [] ∧ Sums hs [] := by
  cases h with
  | free => exact ⟨rfl, .nil⟩
  | passed _ answer => exact answer.sums rfl

theorem Recovered.last_errors (r : Recovered π) (cause : ChainError) :
    r.errors cause = [r.error cause] ∨ ∃ cause', r.errors cause = [cause', r.error cause] := by
  unfold errors error
  cases r.result with
  | ok => exact .inl rfl
  | error e => exact .inr ⟨cause, rfl⟩

/-- What is within the first and the last event of a transition accounts for all of its calls, since
no side effect is called while the guard is asked. -/
theorem Sums.enclosed {g hs : List (Happening host)} {ms : List Mark} (within : Sums hs ms)
    (guard : eventsOf g = [] ∧ Sums g []) (first last : Event) :
    eventsOf (g ++ .event first :: (hs ++ [.event last])) = first :: (eventsOf hs ++ [last]) ∧
      ∀ phase, heard phase ((turns (g ++ .event first :: (hs ++ [.event last]))).map Turn.call) =
        (ms.map (Mark.invoked phase)).sum := by
  constructor
  · rw [eventsOf_append, guard.1, eventsOf_event, eventsOf_append]
    rfl
  · intro phase
    rw [← heardIn, heardIn_append, heardIn_event, heardIn_append, heardIn_event,
      guard.2.heard_eq, within.heard_eq]
    simp [heardIn, heard]

namespace Machine.Course

variable {m : Machine π ν} {source destination : Node π ν} {edge : Edge π ν} {ctx : Context}
  {payload left : π} {hs : List (Happening host)} {result : Except FireError Context}

/-- The events of a fire that is answered, and how they agree with its calls. -/
theorem reports
    (h : m.Course host source edge destination ctx payload hs (left, .answered result)) :
    ctx.Reports ((turns hs).map Turn.call) (eventsOf hs) result := by
  cases h with
  | refused guard => exact .refused guard.guarded
  | @exitFailed g b x h t _ cause out k l guard before exit recovery between =>
    -- the handlers run before the side effects between the states are told
    have within := before.sums.append
      ((exit.1.sums.recovered recovery.1.sums).append between.sums)
    obtain ⟨events, heard⟩ := within.enclosed guard.sums (.firing ctx)
      (.failed out.context (out.error cause))
    simp only [List.append_assoc] at within events heard
    have of := (recovery.1.mended exit.1.stretch.of_mem_contexts).of
    rw [events]
    refine .exitFailed of (out.last_errors cause) ?_ ?_
    · rw [heard]
      simp
    · rw [within.marks_eq, heard, heard]
      simp
  | @entryFailed g b x t y h _ _ cause out k l guard before exit between entry recovery =>
    have within := before.sums.append
      (exit.1.sums.append (between.sums.append (entry.1.sums.recovered recovery.1.sums)))
    obtain ⟨events, heard⟩ := within.enclosed guard.sums (.firing ctx)
      (.failed out.context (out.error cause))
    simp only [List.append_assoc] at events heard
    have of := (recovery.1.mended entry.1.stretch.of_mem_contexts).of
    rw [events]
    refine .entryFailed of (out.last_errors cause) ?_ ?_
    · rw [heard]
      simp [wrongs]
    · rw [within.marks_eq, heard, heard]
      simp [wrongs]
  | @completed g b x t y a _ _ k l i guard before exit between entry after =>
    have within := before.sums.append
      (exit.1.sums.append (between.sums.append (entry.1.sums.append after.sums)))
    obtain ⟨events, heard⟩ := within.enclosed guard.sums (.firing ctx) (.complete ctx)
    simp only [List.append_assoc] at events heard
    rw [events]
    refine .completed ?_
    rw [within.marks_eq, heard, heard, heard]
    simp [wrongs]

end Machine.Course

end StateMachine
