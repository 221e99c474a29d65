import StateMachine.Proofs.Outline

/-!
# The context of one fire

The context of a fire is made once. Callbacks are given copies of it, and all that may differ in a
copy is the destination that an error handler has reported.

* `retargeted`, `Code.Path.context_eq`: what the code of a callback makes of its context. Only the
  destinations that it reports itself count, and none that is reported in a fire within it.
* `Context.Freezes`: how far the contexts of a fire may differ from the one that it was given: those
  of its callbacks, those of its errors, and the one that it returns.
* `Machine.Outline.freezes`: all fires keep to this.
-/

namespace StateMachine

variable {π ν : Type} {host : Host π ν}

/-! ## Destinations that a callback reports -/

/-- A context after what happened in the turn of a callback: with the last destination that the
callback reported. -/
def retargeted (ctx : Context) : List (Happening host) → Context
  | [] => ctx
  | .retarget destination :: hs => retargeted (ctx.retarget destination) hs
  | _ :: hs => retargeted ctx hs

/-- A callback leaves the context that it was given, with the last destination that it reported
itself. -/
theorem Code.Path.context_eq {code : Code π ν} {ctx : Context} {hs : List (Happening host)}
    {s : Settled π} (h : code.Path host ctx hs s) : s.context = retargeted ctx hs := by
  induction h with
  | finish => rfl
  | escape => rfl
  | remark _ ih => exact ih
  | retarget _ ih => exact ih
  | triggers _ _ _ ih => exact ih
  | canFire _ _ _ ih => exact ih
  | fire _ _ _ ih => exact ih

theorem Turn.context_eq (t : Turn host) : ∃ hs,
    t.run.Unfolds (t.code.Path host t.call.context) hs ∧
      t.settled.context = retargeted t.call.context hs := by
  obtain ⟨hs, path⟩ := t.code.plays_run host t.call.context t.run
  exact ⟨hs, path, path.rel.context_eq⟩

/-! ## Errors of visits -/

theorem Visit.transition_of_handler {v : Visit π} {position : Nat} {p : PanicError}
    (handler : v.call.role.isHandler = true) (error : v.error? position = some (.panic p)) :
    p.transition = v.settled.context := by
  unfold error? at error
  cases hr : v.call.role with
  | handler cause =>
    rw [hr] at error
    split at error <;> cases error <;> first | rfl | contradiction
  | _ => simp [hr, Role.isHandler] at handler

/-! ## Guards of edges -/

section Guards

variable {ctx : Context} {payload : π} {hs : List (Happening host)} {edge : Edge π ν}

theorem Edge.Admits.given {r : Except FireError Unit} (h : edge.Admits host payload ctx hs r) :
    ∀ v ∈ visitsOf hs, v.call.context = ctx := by
  intro v hv
  cases r with
  | ok => exact (h.stretch.steady v hv).2
  | error e =>
    rcases h.refusal.2 with hnil | ⟨w, hw, -, context, -⟩
    · simp [hnil] at hv
    · obtain rfl : v = w := by simpa [hw] using hv
      exact context

theorem Edge.Admits.eq_of_mem_contexts {e : FireError}
    (h : edge.Admits host payload ctx hs (.error e)) : ∀ c ∈ e.contexts, c = ctx := by
  rcases h.error_eq with ⟨_, _, rfl⟩ | ⟨_, _, rfl⟩
  · exact fun _ hc => nomatch hc
  · exact fun _ hc => List.mem_singleton.1 hc

end Guards

/-! ## Fires -/

/-- How a fire with the given visits and the given outcome keeps to its context. -/
structure Context.Freezes (ctx : Context) (vs : List (Visit π)) (outcome : Outcome) : Prop where
  /-- Every callback is given what the handlers before it left. -/
  given : ∀ before v after, vs = before ++ v :: after →
    v.call.context = contextAfter ctx (handlersOf before)
  /-- Every callback is given the context of the fire itself, except for handlers, and for the side
  effects between the states after an exit step has failed. -/
  unmoved : ∀ before v after, vs = before ++ v :: after →
    v.call.context = ctx ∨ v.call.role.isHandler = true ∨
      (∃ elapsed, v.call.role = .effect .betweenStates elapsed) ∧ ∃ w ∈ before, w.Fails .exit
  /-- A handler's cause carries the context of the fire itself. -/
  cause : ∀ v ∈ vs, ∀ e, v.call.role = .handler e → ∀ c ∈ e.contexts, c = ctx
  /-- A success returns the context of the fire itself. -/
  returned : ∀ c, outcome = .answered (.ok c) → c = ctx
  /-- A panic of the edge's guard carries the context of the fire itself. -/
  rejected : ∀ p, outcome = .answered (.error (.guardPanicked p)) → p.transition = ctx
  /-- A failure reports the context that the handlers left. -/
  reported : ∀ c e, outcome = .answered (.error (.chain c e)) →
    c = contextAfter ctx (handlersOf vs)
  /-- A reported panic is that of a callback. It carries the context of the fire itself, whatever
  handlers reported afterwards; if it is that of a handler, the context that the handler left. -/
  panicked : ∀ c p, outcome = .answered (.error (.chain c (.panic p))) →
    ∃ v ∈ vs, (∃ position, v.error? position = some (.panic p)) ∧
      p.transition = if v.call.role.isHandler then v.settled.context else ctx

section Freezes

variable {ctx : Context} {payload left : π} {hs : List (Happening host)}

theorem Stretch.unmoved {stop : Option Stop} (h : Stretch ctx payload hs left stop)
    {before after : List (Visit π)} {v : Visit π} (hv : visitsOf hs = before ++ v :: after) :
    v.call.context = ctx :=
  (h.steady v (by simp [hv])).2

/-- A stretch without handlers keeps to its context, if its outcome does. -/
theorem Stretch.freezes {stop : Option Stop} (h : Stretch ctx payload hs left stop)
    {outcome : Outcome} (kept : outcome = .answered (.ok ctx) ∨ ∃ value, outcome = .escaped value) :
    ctx.Freezes (visitsOf hs) outcome where
  given _ _ _ hv := (hv ▸ h.threaded).context_eq
  unmoved _ _ _ hv := .inl (h.unmoved hv)
  cause v hv e role := by
    have := (h.steady v hv).1
    simp [role, Role.isHandler] at this
  returned c hc := by rcases kept with rfl | ⟨_, rfl⟩ <;> simp_all
  rejected p hp := by rcases kept with rfl | ⟨_, rfl⟩ <;> simp_all
  reported c e hc := by rcases kept with rfl | ⟨_, rfl⟩ <;> simp_all
  panicked c p hc := by rcases kept with rfl | ⟨_, rfl⟩ <;> simp_all

theorem Context.freezes_of_refusal {vs : List (Visit π)} {e : FireError}
    (asked : ∀ v ∈ vs, v.call.role = .edgeGuard ∧ v.call.context = ctx)
    (error : (∃ guard failure, e = .guardRejected ctx.source ctx.trigger guard failure) ∨
      ∃ guard text, e = .guardPanicked ⟨ctx, 0, guard, text⟩) :
    ctx.Freezes vs (.answered (.error e)) where
  given before v after hv := by
    have hnil : handlersOf before = [] := handlersOf_eq_nil fun w hw => by
      rw [(asked w (by simp [hv, hw])).1]
      rfl
    rw [hnil]
    exact (asked v (by simp [hv])).2
  unmoved before v after hv := .inl (asked v (by simp [hv])).2
  cause v hv e role := nomatch (asked v hv).1.symm.trans role
  returned c hc := by simp at hc
  rejected p hp := by
    rcases error with ⟨_, _, rfl⟩ | ⟨_, _, rfl⟩
    · simp at hp
    · obtain rfl : _ = p := by simpa using hp
      rfl
  reported c e' hc := by rcases error with ⟨_, _, rfl⟩ | ⟨_, _, rfl⟩ <;> simp at hc
  panicked c p hc := by rcases error with ⟨_, _, rfl⟩ | ⟨_, _, rfl⟩ <;> simp at hc

/-- The error that is reported after the handlers have run, if it is a panic, is that of a step
before them, or that of a handler. -/
theorem Mended.panicked {hs' : List (Happening host)} {cause : ChainError} {out : Recovered π}
    (stretch : Stretch ctx payload hs left (some (.failed cause)))
    (mended : Mended cause ctx left 0 hs' out) {p : PanicError}
    (hp : out.error cause = .panic p) :
    ∃ v ∈ visitsOf hs ++ visitsOf hs', (∃ position, v.error? position = some (.panic p)) ∧
      p.transition = if v.call.role.isHandler then v.settled.context else ctx := by
  rw [mended.error_eq] at hp
  cases found : (visitsOf hs').zipIdx.findSome? fun x => x.1.error? x.2 with
  | some e =>
    obtain rfl : e = .panic p := by simpa [found] using hp
    obtain ⟨⟨v, position⟩, mem, error⟩ := List.exists_of_findSome?_eq_some found
    have hv : v ∈ visitsOf hs' := List.fst_mem_of_mem_zipIdx mem
    have handler : v.call.role.isHandler = true := by
      rw [mended.role v hv]
      rfl
    refine ⟨v, List.mem_append_right _ hv, ⟨position, error⟩, ?_⟩
    rw [if_pos handler, Visit.transition_of_handler handler error]
  | none =>
    obtain rfl : cause = .panic p := by simpa [found] using hp
    obtain ⟨before, last, hvs, -, position, error⟩ := stretch.ends
    have hv : last ∈ visitsOf hs := by simp [hvs]
    refine ⟨last, List.mem_append_left _ hv, ⟨position, error⟩, ?_⟩
    rw [(stretch.steady last hv).1]
    exact stretch.eq_of_mem_contexts _ List.mem_cons_self

theorem Recovered.of_outcome {r : Recovered π} {cause : ChainError} {escape? : Option Raised}
    {result : Except FireError Context} (h : r.outcome cause escape? = .answered result) :
    result = .error (.chain r.context (r.error cause)) := by
  cases escape? with
  | none => exact (Outcome.answered.inj h).symm
  | some value => exact nomatch h

theorem Mended.freezes {hs' hs'' : List (Happening host)} {cause : ChainError} {out : Recovered π}
    (escape? : Option Raised) (stretch : Stretch ctx payload hs left (some (.failed cause)))
    (mended : Mended cause ctx left 0 hs' out)
    (between : Stretch out.context out.payload hs'' out.payload (escape?.map .escaped))
    (role : ∀ v ∈ visitsOf hs'', ∃ elapsed, v.call.role = .effect .betweenStates elapsed)
    (failed : visitsOf hs'' ≠ [] → ∃ v ∈ visitsOf hs, v.Fails .exit) :
    ctx.Freezes (visitsOf hs ++ (visitsOf hs' ++ visitsOf hs'')) (out.outcome cause escape?) where
  given _ _ _ hv := by
    have threaded := stretch.threaded.append (mended.threaded.append between.threaded)
    exact (hv ▸ threaded).context_eq
  unmoved before v after hv := by
    rcases mem_or_split hv with mem | ⟨rest, hrest, rfl⟩
    · exact .inl (stretch.steady v mem).2
    rcases mem_or_split hrest with mem | ⟨_, hlast, -⟩
    · refine .inr (.inl ?_)
      rw [mended.role v mem]
      rfl
    · have hne : visitsOf hs'' ≠ [] := by simp [hlast]
      obtain ⟨w, hw, fails⟩ := failed hne
      exact .inr (.inr ⟨role v (by simp [hlast]), w, List.mem_append_left _ hw, fails⟩)
  cause v hv e hr := by
    rcases List.mem_append.1 hv with hv | hv
    · exact absurd (stretch.steady v hv).1 (by simp [hr, Role.isHandler])
    rcases List.mem_append.1 hv with hv | hv
    · obtain rfl := Role.handler.inj (hr.symm.trans (mended.role v hv))
      exact stretch.eq_of_mem_contexts
    · obtain ⟨elapsed, hr'⟩ := role v hv
      cases hr.symm.trans hr'
  returned c hc := by cases Recovered.of_outcome hc
  rejected p hp := by cases Recovered.of_outcome hp
  reported c e hc := by
    cases Recovered.of_outcome hc
    simp [stretch.handlersOf_eq, mended.handlersOf_eq, between.handlersOf_eq,
      mended.contextAfter_eq]
  panicked c p hc := by
    have hp : out.error cause = .panic p := by
      have := Recovered.of_outcome hc
      simp only [Except.error.injEq, FireError.chain.injEq] at this
      exact this.2.symm
    obtain ⟨v, hv, panicked⟩ := mended.panicked stretch hp
    rw [← List.append_assoc]
    exact ⟨v, List.mem_append_left _ hv, panicked⟩

end Freezes

namespace Machine.Outline

variable {ctx : Context} {payload : π} {hs : List (Happening host)} {out : π × Outcome}

/-- A fire keeps to its context, whatever course it takes. -/
theorem freezes (h : Outline ctx payload hs out) : ctx.Freezes (visitsOf hs) out.2 := by
  cases h with
  | refused _ asked error =>
    refine Context.freezes_of_refusal (fun v hv => ?_) error
    rcases asked with hnil | ⟨w, hw, role, context, -⟩
    · simp [hnil] at hv
    · obtain rfl : v = w := by simpa [hw] using hv
      exact ⟨role, context⟩
  | escaped stretch => exact stretch.freezes (.inr ⟨_, rfl⟩)
  | completed stretch => exact stretch.freezes (.inl rfl)
  | recovered escape? stretch mended between role failed =>
    rw [visitsOf_append, visitsOf_append]
    exact mended.freezes escape? stretch between role failed

theorem of_answer (h : Outline ctx payload hs out) : ∀ c ∈ out.2.contexts, ctx.Of c := by
  cases h with
  | refused _ _ error =>
    rcases error with ⟨_, _, rfl⟩ | ⟨_, _, rfl⟩
    · simp [Outcome.contexts, FireError.contexts]
    · exact List.forall_mem_singleton.2 (.refl ctx)
  | escaped => simp [Outcome.contexts]
  | completed => exact List.forall_mem_singleton.2 (.refl ctx)
  | recovered escape? _ mended _ =>
    cases escape? with
    | none => exact List.forall_mem_cons.2 ⟨mended.of, mended.error_of⟩
    | some value => simp [Recovered.outcome, Outcome.contexts]

end Machine.Outline

end StateMachine
