import StateMachine.Proofs.EventLog
import StateMachine.Proofs.Protocol

/-!
# What the log tells of the destination

When a handler returns ok and leaves another destination, the log tells that the transition was
moved, and from where to where. A handler that fails or panics may have set a destination as well.
That destination is reported, but the log does not tell that it was set.

* `Event.move?`, `moves`: the moves that events tell of.
* `Trail`: moves that lead from one destination to another.
* `Tracks`: how far the moves in the log follow the destination.
* `Recovery.Handles.tracks`, `Machine.tracks_of_fire`: the same for a run of handlers and for a
  fire; `Machine.moves_track` says both.
* `Machine.unlogged_move`: two fires whose log tells of no move.
-/

namespace StateMachine

variable {π ν : Type} {host : Host π ν}

/-! ## Moves -/

/-- The move of the destination that an event tells of, if it tells of one. -/
def Event.move? : Event → Option (State × State)
  | retargeted _ _ before after => some (before, after)
  | _ => none

/-- The moves that events tell of. -/
def moves (es : List Event) : List (State × State) := es.filterMap Event.move?

@[simp] theorem moves_nil : moves [] = [] := rfl

@[simp] theorem moves_cons (e : Event) (es : List Event) :
    moves (e :: es) = e.move?.toList ++ moves es := by
  rw [moves, List.filterMap_cons]
  cases e.move? <;> rfl

@[simp] theorem moves_append (es es' : List Event) : moves (es ++ es') = moves es ++ moves es' :=
  List.filterMap_append

/-- Whether moves lead from one state to another: each begins where the one before it ended. -/
def Trail : State → List (State × State) → State → Prop
  | s, [], t => t = s
  | s, m :: ms, t => m.1 = s ∧ Trail m.2 ms t

theorem Trail.append_iff {s r t : State} {ms ms' : List (State × State)} (h : Trail s ms r) :
    Trail s (ms ++ ms') t ↔ Trail r ms' t := by
  induction ms generalizing s with
  | nil => rw [List.nil_append, show r = s from h]
  | cons m ms ih => exact (and_iff_right h.1).trans (ih h.2)

/-- Whether a callback returned ok. -/
def Visit.isOk (v : Visit π) : Bool := v.settled.verdict = .ok

/-- Whether a callback left the destination as it was given. -/
def Visit.Stays (v : Visit π) : Prop := v.settled.context.destination = v.call.context.destination

/-- How far moves follow the destination of a transition. Handlers were visited, and in the end a
destination is reported. -/
structure Tracks (ctx : Context) (ms : List (State × State)) (vs : List (Visit π))
    (reported : State) : Prop where
  /-- The moves lead to the destination that was left by those handlers that returned ok. -/
  trail : Trail ctx.destination ms (contextAfter ctx (vs.filter Visit.isOk)).destination
  /-- They lead to the one that is reported unless another handler has changed it. -/
  reaches : Trail ctx.destination ms reported ↔ ∀ v ∈ vs, v.isOk = false → v.Stays

/-- Where the moves do not lead to what is reported, a handler has changed the destination that did
not return ok. -/
theorem Tracks.exists_moved {ctx : Context} {ms : List (State × State)} {vs : List (Visit π)}
    {reported : State} (h : Tracks ctx ms vs reported)
    (off : ¬Trail ctx.destination ms reported) : ∃ v ∈ vs, v.isOk = false ∧ ¬v.Stays := by
  rw [h.reaches] at off
  simpa only [Classical.not_forall, exists_prop] using off

/-! ## Handlers -/

section Handlers

variable {ctx : Context} {payload : π} {hs : List (Happening host)} {position : Nat}
  {cause : ChainError} {out : Recovered π}

theorem Handler.Handles.trail_of_ok {handler : Handler π ν}
    (h : handler.Handles host cause position ctx payload hs out) (ok : out.result = .ok ()) :
    Trail ctx.destination (moves (eventsOf hs)) out.context.destination := by
  cases h with
  | kept t of _ same => exact same
  | retargeted t of => exact ⟨rfl, rfl⟩
  | failed => exact nomatch ok
  | panicked => exact nomatch ok

theorem Handler.Handles.moves_of_error {handler : Handler π ν} {e : ChainError}
    (h : handler.Handles host cause position ctx payload hs out) (error : out.result = .error e) :
    moves (eventsOf hs) = [] := by
  cases h with
  | kept => exact nomatch error
  | retargeted => exact nomatch error
  | failed => rfl
  | panicked => rfl

/-- The moves in the log of a run of handlers. -/
theorem Recovery.Handles.tracks {handlers : List (Handler π ν)}
    (h : Recovery.Handles host cause position handlers ctx payload hs out) :
    Tracks ctx (moves (eventsOf hs)) (visitsOf hs) out.context.destination := by
  induction h with
  | nil => exact ⟨rfl, iff_of_true rfl (by simp)⟩
  | @stopped position handler rest ctx payload hs left reported e last =>
    obtain ⟨t, ht, call, hout, error⟩ := last.visited
    obtain ⟨rfl, rfl, -⟩ := Recovered.mk.inj hout
    have wrong : t.visit.isOk = false := by
      refine Bool.eq_false_iff.2 fun ok => ?_
      have none := Visit.error?_of_ok (of_decide_eq_true ok) position
      exact nomatch none.symm.trans error
    have given : t.call.context = ctx := congrArg Call.context call
    rw [last.moves_of_error rfl, ht]
    refine ⟨by rw [List.filter_cons_of_neg (by simp [wrong])]; rfl, ?_⟩
    simp [Trail, Visit.Stays, wrong, given]
  | @passed position handler rest ctx payload hs hs' left reported out first more ih =>
    have trail := first.trail_of_ok rfl
    obtain ⟨t, ht, call, hout, ok⟩ := first.visited
    obtain ⟨rfl, rfl, -⟩ := Recovered.mk.inj hout
    have fine : t.visit.isOk = true := decide_eq_true ok
    rw [eventsOf_append, moves_append, visitsOf_append, ht, List.singleton_append]
    constructor
    · rw [List.filter_cons_of_pos fine, trail.append_iff]
      exact ih.trail
    · rw [trail.append_iff, ih.reaches, List.forall_mem_cons]
      simp [fine]

end Handlers

/-! ## Fires -/

section Parts

variable {ctx : Context} {payload : π} {hs : List (Happening host)} {position : Nat} {side : Side}

theorem Step.Consults.moves_eq {step : Step π ν} {r : Except PanicError Bool}
    (h : step.Consults host side position ctx payload hs r) : moves (eventsOf hs) = [] := by
  cases h with
  | free => rfl
  | passed _ answer => rw [(answer.sums rfl).1, moves_nil]
  | skipped _ answer =>
    rw [eventsOf_append, (answer.sums rfl).1]
    rfl
  | panicked _ answer =>
    rw [eventsOf_append, (answer.sums rfl).1]
    rfl

theorem Chain.Passes.moves_eq {steps : List (Step π ν)} {out : π × Except ChainError Unit}
    (h : Chain.Passes host side ctx position steps payload hs out) :
    moves (eventsOf hs) = [] := by
  have operates {position : Nat} {step : Step π ν} {payload : π} {hs : List (Happening host)}
      {out : π × Except ChainError Unit}
      (h : step.Operates host side position ctx payload hs out) : moves (eventsOf hs) = [] := by
    cases h <;> rfl
  induction h with
  | nil => rfl
  | blocked guard => exact guard.moves_eq
  | skipped guard _ ih => simp [guard.moves_eq, ih]
  | stopped guard operation => simp [guard.moves_eq, operates operation]
  | passed guard operation _ ih => simp [guard.moves_eq, operates operation, ih]

theorem Machine.Tells.moves_eq {m : Machine π ν} {phase : Phase} {k : Nat}
    (h : m.Tells host phase payload ctx hs (.ok k)) : moves (eventsOf hs) = [] := by
  cases h with
  | told =>
    rw [eventsOf_append, eventsOf_map_turn]
    rfl

end Parts

namespace Machine

/-- The moves in the log of a fire that reports a failure. -/
theorem Course.tracks {m : Machine π ν} {source destination : Node π ν} {edge : Edge π ν}
    {ctx c : Context} {payload left : π} {hs : List (Happening host)} {e : ChainError}
    (h : m.Course host source edge destination ctx payload hs
      (left, .answered (.error (.chain c e)))) :
    Tracks ctx (moves (eventsOf hs)) (handlersOf (visitsOf hs)) c.destination := by
  cases h with
  | refused guard => rcases guard.error_eq with ⟨_, _, he⟩ | ⟨_, _, he⟩ <;> exact nomatch he
  | exitFailed guard before exit recovery between =>
    have mended := recovery.1.mended exit.1.stretch.of_mem_contexts
    have told := recovery.1.tracks
    simpa [Event.move?, guard.sums.1, before.moves_eq, exit.1.moves_eq, between.moves_eq,
      guard.stretch.handlersOf_eq, before.stretch.handlersOf_eq, exit.1.stretch.handlersOf_eq,
      mended.handlersOf_eq, between.stretch.handlersOf_eq] using told
  | entryFailed guard before exit between entry recovery =>
    have mended := recovery.1.mended entry.1.stretch.of_mem_contexts
    have told := recovery.1.tracks
    simpa [Event.move?, guard.sums.1, before.moves_eq, exit.1.moves_eq, between.moves_eq,
      entry.1.moves_eq, guard.stretch.handlersOf_eq, before.stretch.handlersOf_eq,
      exit.1.stretch.handlersOf_eq, between.stretch.handlersOf_eq, entry.1.stretch.handlersOf_eq,
      mended.handlersOf_eq] using told

variable [Payload π]

theorem tracks_of_fire {m : Machine π ν} {depth n : Nat} {payload : π} {trigger : Trigger}
    {source destination : Node π ν} {edge : Edge π ν} {ran : Ran (Entry π ν) (π × Outcome)}
    {c : Context} {e : ChainError} (leads : m.Leads payload trigger source edge destination)
    (h : m.fire depth payload trigger n = some ran)
    (answer : ran.value.2 = .answered (.error (.chain c e))) :
    Tracks (contextOf n source edge trigger) (moves (ownEvents n ran.log))
      (handlersOf (ownVisits n ran.log)) c.destination := by
  obtain ⟨hs, course, accounts⟩ := course_of_fire leads h
  have bears : ∀ x ∈ hs, x.Bears fun c => c.id = n :=
    fun x hx => (course.outline.bears x hx).mono fun _ of => of.id_eq
  rw [ownEvents_eq accounts.own_eq bears, accounts.visits_eq]
  obtain ⟨⟨left, outcome⟩, next, log⟩ := ran
  obtain rfl : outcome = .answered (.error (.chain c e)) := answer
  exact course.tracks

/-- The moves in the log of a run of handlers lead from one destination to the next, up to the one
that was left by the last handler that returned ok, and so do those in the log of a fire. If a fire
reports a destination that its edge does not have, the log tells of a move, or a handler that did
not return ok has set a destination. -/
theorem moves_track (m : Machine π ν) :
    (∀ (host : Host π ν) (recovery : Recovery π ν) (cause : ChainError) (ctx : Context)
      (payload : π) (f : Finished (recovery.execute host cause ctx payload)),
      ∃ hs : List (Happening host), f.Unfolds (fun hs out =>
        Recovery.Handles host cause 0 recovery.handlers ctx payload hs out ∧
          Tracks ctx (moves (eventsOf hs)) (visitsOf hs) out.context.destination) hs) ∧
    ∀ depth payload trigger n ran c e, m.fire depth payload trigger n = some ran →
      ran.value.2 = .answered (.error (.chain c e)) →
      ∃ source edge destination, m.Leads payload trigger source edge destination ∧
        Tracks (contextOf n source edge trigger) (moves (ownEvents n ran.log))
          (handlersOf (ownVisits n ran.log)) c.destination ∧
        (c.destination ≠ edge.destination → moves (ownEvents n ran.log) ≠ [] ∨
          ∃ v ∈ handlersOf (ownVisits n ran.log), v.isOk = false ∧ ¬v.Stays) := by
  constructor
  · intro host recovery cause ctx payload f
    obtain ⟨hs, unf⟩ := recovery.plays_execute cause ctx payload f
    exact ⟨hs, unf.spans, unf.log_eq, unf.rel.1, unf.rel.1.tracks⟩
  · intro depth payload trigger n ran c e h answer
    rcases leads_or_lost h with ⟨source, edge, destination, leads⟩ | ⟨_, answer', lost, -⟩
    · have tracks := tracks_of_fire leads h answer
      refine ⟨source, edge, destination, leads, tracks, fun other => ?_⟩
      by_cases silent : moves (ownEvents n ran.log) = []
      · rw [silent] at tracks
        exact .inr (tracks.exists_moved other)
      · exact .inl silent
    · cases answer.symm.trans answer'
      exact nomatch lost

/-! ### A machine to look at -/

end Machine

/-- The failure that a fire reports, if it reports one. -/
def Outcome.reported? : Outcome → Option (Context × ChainError)
  | answered (.error (.chain ctx e)) => some (ctx, e)
  | _ => none

theorem Outcome.eq_of_reported? {outcome : Outcome} {ctx : Context} {e : ChainError}
    (h : outcome.reported? = some (ctx, e)) : outcome = .answered (.error (.chain ctx e)) := by
  unfold reported? at h
  split at h
  · cases h
    rfl
  · exact nomatch h

namespace Machine

/-- Parcels that are sent without a stamp, and handlers for this. -/
def courier (handlers : List (String × Script)) : Machine Subject Remark where
  definition := .build [
    .configure ⟨"packed"⟩ .plain (
      .permit ⟨"send"⟩ ⟨"sent"⟩ none ::
      .onExit none (some "stamp") (Script.operation (.stop (.fail (.plain "no stamps")))) ::
      handlers.map fun h => .onError (some h.1) (Script.handler h.2)),
    .configure ⟨"sent"⟩ .plain []]
  stopwatch _ _ := 0
  sound := Definition.sound_build _

/-- The first handler moves the parcel and returns ok. The second one moves it and fails, so the log
tells of one move out of two. -/
theorem courier_moves_track : ∃ ran c e,
    (courier [("divert", .act (.retarget ⟨"depot"⟩) .done),
      ("report", .act (.retarget ⟨"lost"⟩) (.stop (.fail (.plain "no paper"))))]).fire 1 packed
        ⟨"send"⟩ 0 = some ran ∧
      ran.value.2 = .answered (.error (.chain c e)) ∧ c.destination = ⟨"lost"⟩ ∧
      moves (ownEvents 0 ran.log) = [(⟨"sent"⟩, ⟨"depot"⟩)] ∧
      ∃ (source : Node Subject Remark) (edge : Edge Subject Remark),
        Tracks (contextOf 0 source edge ⟨"send"⟩) (moves (ownEvents 0 ran.log))
          (handlersOf (ownVisits 0 ran.log)) c.destination := by
  have shown : ((courier [("divert", .act (.retarget ⟨"depot"⟩) .done),
      ("report", .act (.retarget ⟨"lost"⟩) (.stop (.fail (.plain "no paper"))))]).fire 1 packed
        ⟨"send"⟩ 0).map (fun r => (r.value.2.reported?.map fun x => x.1.destination,
          moves (ownEvents 0 r.log))) = some (some ⟨"lost"⟩, [(⟨"sent"⟩, ⟨"depot"⟩)]) := by
    decide +kernel
  obtain ⟨ran, h, shown⟩ := Option.map_eq_some_iff.1 shown
  obtain ⟨reported, logged⟩ := Prod.mk.inj shown
  obtain ⟨⟨c, e⟩, answer, lost⟩ := Option.map_eq_some_iff.1 reported
  have answer := Outcome.eq_of_reported? answer
  obtain ⟨source, edge, _, -, tracks, -⟩ := (moves_track _).2 _ _ _ _ _ c e h answer
  exact ⟨ran, c, e, h, answer, lost, logged, source, edge, tracks⟩

/-- A fire reports a destination that its edge does not have, and no event tells of a move, so there
is no trail that leads there. -/
def MovesUnlogged [Payload π] (m : Machine π ν) (payload : π) (trigger : Trigger) : Prop :=
  ∃ ran c e source edge destination, m.Leads payload trigger source edge destination ∧
    m.fire 1 payload trigger 0 = some ran ∧ ran.value.2 = .answered (.error (.chain c e)) ∧
    c.destination ≠ edge.destination ∧ moves (events ran.log) = [] ∧
    ¬Trail edge.destination (moves (events ran.log)) c.destination

/-- It is enough to look at where the trigger leads and at what the fire reports. -/
theorem movesUnlogged_of_fire [Payload π] {m : Machine π ν} {payload : π} {trigger : Trigger}
    {goal told : State} (other : told ≠ goal)
    (way : (m.definition.node? (Payload.state payload)).bind (fun node =>
      (node.edge? trigger).map Edge.destination) = some goal)
    (stands : (m.definition.node? goal).isSome = true)
    (shown : (m.fire 1 payload trigger 0).map (fun r =>
      (r.value.2.reported?.map fun x => x.1.destination, moves (events r.log))) =
        some (some told, [])) : m.MovesUnlogged payload trigger := by
  obtain ⟨source, edge, destination, leads, -, rfl, -⟩ := exists_leads way stands
  obtain ⟨ran, h, shown⟩ := Option.map_eq_some_iff.1 shown
  obtain ⟨reported, silent⟩ := Prod.mk.inj shown
  obtain ⟨⟨c, e⟩, answer, rfl⟩ := Option.map_eq_some_iff.1 reported
  refine ⟨ran, c, e, source, edge, destination, leads, h, Outcome.eq_of_reported? answer, other,
    silent, ?_⟩
  rwa [silent]

/-- A handler that fails or panics after it has set another destination. The destination is
reported, and the log does not tell that it was set. -/
theorem unlogged_move :
    (courier [("report", .act (.retarget ⟨"lost"⟩)
      (.stop (.fail (.plain "no paper"))))]).MovesUnlogged packed ⟨"send"⟩ ∧
    (courier [("report", .act (.retarget ⟨"lost"⟩)
      (.stop (.panic (.literal "no paper"))))]).MovesUnlogged packed ⟨"send"⟩ := by
  have other : State.mk "lost" ≠ ⟨"sent"⟩ := by decide
  constructor
  · refine movesUnlogged_of_fire other ?_ ?_ ?_ <;> decide +kernel
  · refine movesUnlogged_of_fire other ?_ ?_ ?_ <;> decide +kernel

end Machine

end StateMachine
