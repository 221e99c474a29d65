import StateMachine.Proofs.Protocol

/-!
# What a fire reports

A fire whose guard let it pass, and from which no panic escapes, succeeds exactly if the exit steps
and the entry steps do. Otherwise it reports an error, even if all handlers returned.

* `Recovery.Decides`: which error is reported for a cause: the cause, or the error of the first
  handler that went wrong.
* `Node.Reports`: the result of a fire whose steps at one of its two states stopped with a cause.
* `Machine.fire_reports`: the result of every such fire.
-/

namespace StateMachine

variable {π ν : Type} {host : Host π ν}

/-- The error that is reported for a cause after the given visits to handlers. -/
inductive Recovery.Decides (recovery : Recovery π ν) (cause : ChainError) :
    List (Visit π) → ChainError → Prop
  /-- Every handler returned ok. -/
  | kept {vs} (all : vs.map (fun v => v.call.label) = recovery.labels)
      (ok : ∀ v ∈ vs, v.settled.verdict = .ok) : Decides recovery cause vs cause
  /-- The first handler that did not return ok is the last one visited. -/
  | superseded {before v e}
      (first : (before ++ [v]).map (fun v => v.call.label) <+: recovery.labels)
      (ok : ∀ w ∈ before, w.settled.verdict = .ok) (error : v.error? before.length = some e) :
      Decides recovery cause (before ++ [v]) e

/-- The result of a fire whose steps at the given state stopped with a cause, as told by the visits
of the fire. -/
structure Node.Reports (node : Node π ν) (cause : ChainError) (ctx : Context)
    (vs : List (Visit π)) (result : Except FireError Context) : Prop where
  told : ∀ v ∈ handlersOf vs, v.call.role = .handler cause
  reported : ∃ e, node.recovery.Decides cause (handlersOf vs) e ∧
    result = .error (.chain (contextAfter ctx (handlersOf vs)) e) ∧
    (FireError.chain (contextAfter ctx (handlersOf vs)) e).code =
      if e.panic?.isSome then "CALLBACK_PANICKED" else "CHAIN_FAILED"

/-! ## Handlers -/

theorem code_chain (ctx : Context) (e : ChainError) :
    (FireError.chain ctx e).code =
      if e.panic?.isSome then "CALLBACK_PANICKED" else "CHAIN_FAILED" := by
  cases e <;> rfl

/-- Either all handlers were visited and returned ok, or the last one visited is the first that did
not. -/
theorem Recovery.Handles.first_failure {cause : ChainError} {ctx : Context} {payload : π}
    {position : Nat} {handlers : List (Handler π ν)} {hs : List (Happening host)}
    {out : Recovered π} (h : Recovery.Handles host cause position handlers ctx payload hs out) :
    (out.result = .ok () ∧
      (visitsOf hs).map (fun v => v.call.label) = handlers.map Handler.label ∧
      ∀ v ∈ visitsOf hs, v.settled.verdict = .ok) ∨
    ∃ before v e, visitsOf hs = before ++ [v] ∧ out.result = .error e ∧
      (before ++ [v]).map (fun v => v.call.label) <+: handlers.map Handler.label ∧
      (∀ w ∈ before, w.settled.verdict = .ok) ∧
      v.error? (position + before.length) = some e := by
  induction h with
  | nil => exact .inl ⟨rfl, rfl, by simp⟩
  | stopped last =>
    obtain ⟨t, ht, call, -, error⟩ := last.visited
    exact .inr ⟨[], t.visit, _, ht, rfl, by simp [call], by simp, error⟩
  | passed first _ ih =>
    obtain ⟨t, ht, call, -, ok⟩ := first.visited
    rw [visitsOf_append, ht, List.singleton_append]
    rcases ih with ⟨result, labels, oks⟩ | ⟨before, v, e, hvs, result, labels, oks, error⟩
    · exact .inl ⟨result, by simp [call, labels], List.forall_mem_cons.2 ⟨ok, oks⟩⟩
    · refine .inr ⟨t.visit :: before, v, e, by rw [hvs]; rfl, result, ?_,
        List.forall_mem_cons.2 ⟨ok, oks⟩, ?_⟩
      · simpa [call] using labels
      · rwa [List.length_cons, Nat.add_comm before.length, ← Nat.add_assoc]

theorem Recovery.Executes.decides {recovery : Recovery π ν} {cause : ChainError} {ctx : Context}
    {payload : π} {hs : List (Happening host)} {out : Recovered π}
    (h : recovery.Executes host cause ctx payload hs out) :
    recovery.Decides cause (visitsOf hs) (out.error cause) := by
  rcases h.1.first_failure with ⟨result, labels, oks⟩ |
    ⟨before, v, e, hvs, result, labels, oks, error⟩
  · rw [Recovered.error, result]
    exact .kept labels oks
  · rw [Recovered.error, result, hvs]
    rw [Nat.zero_add] at error
    exact .superseded labels oks error

theorem Recovery.Executes.reports {node : Node π ν} {cause : ChainError} {ctx : Context}
    {payload : π} {hs : List (Happening host)} {out : Recovered π} {vs : List (Visit π)}
    (h : node.recovery.Executes host cause ctx payload hs out)
    (hc : ∀ c ∈ cause.contexts, ctx.Of c) (hvs : handlersOf vs = visitsOf hs) :
    node.Reports cause ctx vs (.error (.chain out.context (out.error cause))) := by
  have mended := h.1.mended hc
  refine ⟨?_, out.error cause, ?_, ?_, code_chain _ _⟩
  · rw [hvs]
    exact mended.role
  · rw [hvs]
    exact h.decides
  · rw [hvs, mended.contextAfter_eq]

/-! ## Fires -/

theorem mem_of_mem_events {e : Event} {log : List (Entry π ν)} (h : e ∈ events log) :
    .event e ∈ log := by
  obtain ⟨entry, mem, he⟩ := List.mem_filterMap.1 h
  cases entry with
  | event _ => exact Option.some.inj he ▸ mem
  | _ => simp [Entry.event?] at he

theorem infix_logOf {hs hs' : List (Happening host)} (h : hs <:+: hs') :
    logOf hs <:+: logOf hs' := by
  obtain ⟨before, after, rfl⟩ := h
  exact ⟨logOf before, logOf after, by rw [logOf_append, logOf_append]⟩

namespace Machine

/-- How the result of a fire follows from the runs of its exit steps and, if these succeeded, of
its entry steps. -/
structure Concludes (host : Host π ν) (source destination : Node π ν) (ctx : Context)
    (payload : π) (log : List (Entry π ν)) (result : Except FireError Context)
    (exit : Finished (source.exit.execute host .exit ctx payload))
    (entry : Option (Finished (destination.entry.execute host .entry ctx exit.ran.value.1))) :
    Prop where
  exit_ran : exit.ran.log <:+: log
  entry_ran : ∀ f ∈ entry, f.ran.log <:+: log
  entered : entry.isSome = true ↔ exit.ran.value.2 = .ok ()
  /-- A fire succeeds exactly if both lists of steps do. -/
  succeeds : (∃ c, result = .ok c) ↔
    exit.ran.value.2 = .ok () ∧ ∀ f ∈ entry, f.ran.value.2 = .ok ()
  /-- If the exit steps failed, the handlers of the source decide, and the side effects between the
  states are told what they reported. -/
  exit_failed : ∀ e, exit.ran.value.2 = .error e →
    source.Reports e ctx (ownVisits ctx.id log) result ∧
      ∀ v ∈ ownVisits ctx.id log, (∃ elapsed, v.call.role = .effect .betweenStates elapsed) →
        v.call.context = contextAfter ctx (handlersOf (ownVisits ctx.id log))
  /-- If the entry steps failed, the handlers of the destination decide. -/
  entry_failed : ∀ f ∈ entry, ∀ e, f.ran.value.2 = .error e →
    destination.Reports e ctx (ownVisits ctx.id log) result

/-- The event that a transition begins is only reported once its guard has let it pass. -/
theorem firing_not_mem_of_refused {edge : Edge π ν} {ctx c : Context} {payload : π}
    {hs : List (Happening host)} {e : FireError}
    (guard : edge.Admits host payload ctx hs (.error e)) : .event (.firing c) ∉ hs := by
  cases guard with
  | rejected _ answer => rcases answer.asked with ⟨rfl, -⟩ | ⟨t, code, rfl, -⟩ <;> simp
  | panicked _ answer => rcases answer.asked with ⟨rfl, -⟩ | ⟨t, code, rfl, -⟩ <;> simp

section Concludes

variable {m : Machine π ν} {source destination : Node π ν} {edge : Edge π ν} {ctx : Context}
  {payload left left' : π} {g b x t y r rest : List (Happening host)} {cause : ChainError}
  {out : Recovered π} {log : List (Entry π ν)} {i k l : Nat}

theorem infix_of_exit {f : Finished (source.exit.execute host .exit ctx payload)}
    (hf : f.ran.log = logOf x)
    (hlog : logOf (g ++ .event (.firing ctx) :: (b ++ (x ++ rest))) = log) :
    f.ran.log <:+: log := by
  rw [hf, ← hlog]
  exact infix_logOf ⟨g ++ .event (.firing ctx) :: b, rest, by simp⟩

theorem infix_of_entry {f : Finished (destination.entry.execute host .entry ctx payload)}
    (hf : f.ran.log = logOf y)
    (hlog : logOf (g ++ .event (.firing ctx) :: (b ++ (x ++ (t ++ (y ++ rest))))) = log) :
    f.ran.log <:+: log := by
  rw [hf, ← hlog]
  exact infix_logOf ⟨g ++ .event (.firing ctx) :: (b ++ (x ++ t)), rest, by simp⟩

theorem concludes_of_exitFailed (guard : edge.Admits host payload ctx g (.ok ()))
    (before : m.Tells host .beforeTransition payload ctx b (.ok k))
    (exit : source.exit.Executes host .exit ctx payload x (left, .error cause))
    (recovery : source.recovery.Executes host cause ctx left r out)
    (between : m.Tells host .betweenStates out.payload out.context t (.ok l))
    (accounts : Accounts ctx.id (g ++ .event (.firing ctx) ::
      (b ++ (x ++ (r ++ (t ++ [.event (.failed out.context (out.error cause))]))))) log) :
    ∃ exit entry, Concludes host source destination ctx payload log
      (.error (.chain out.context (out.error cause))) exit entry := by
  obtain ⟨passes, f, hf, hx⟩ := exit
  have mended := recovery.1.mended passes.stretch.of_mem_contexts
  have handlers : handlersOf (ownVisits ctx.id log) = visitsOf r := by
    rw [accounts.visits_eq]
    simp [guard.stretch.handlersOf_eq, before.stretch.handlersOf_eq,
      passes.stretch.handlersOf_eq, mended.handlersOf_eq, between.stretch.handlersOf_eq]
  refine ⟨f, none, infix_of_exit hx accounts.log_eq, by simp, by simp [hf], by simp [hf],
    fun e he => ?_, by simp⟩
  obtain rfl : cause = e := by simpa [hf] using he
  refine ⟨recovery.reports passes.stretch.of_mem_contexts handlers, fun v hv ⟨elapsed, role⟩ => ?_⟩
  rw [handlers, mended.contextAfter_eq]
  rw [accounts.visits_eq] at hv
  simp only [visitsOf_append, visitsOf_event, visitsOf_nil, List.mem_append] at hv
  rcases hv with hv | hv | hv | hv | hv | hv
  · exact nomatch (guard.role v hv).symm.trans role
  · obtain ⟨_, role'⟩ := before.role v hv
    exact nomatch role'.symm.trans role
  · rcases passes.role v hv with role' | role' <;> exact nomatch role'.symm.trans role
  · exact nomatch (mended.role v hv).symm.trans role
  · exact (between.stretch.steady v hv).2
  · exact nomatch hv

theorem concludes_of_entryFailed (guard : edge.Admits host payload ctx g (.ok ()))
    (before : m.Tells host .beforeTransition payload ctx b (.ok k))
    (exit : source.exit.Executes host .exit ctx payload x (left, .ok ()))
    (between : m.Tells host .betweenStates left ctx t (.ok l))
    (entry : destination.entry.Executes host .entry ctx left y (left', .error cause))
    (recovery : destination.recovery.Executes host cause ctx left' r out)
    (accounts : Accounts ctx.id (g ++ .event (.firing ctx) ::
      (b ++ (x ++ (t ++ (y ++ (r ++ [.event (.failed out.context (out.error cause))])))))) log) :
    ∃ exit entry, Concludes host source destination ctx payload log
      (.error (.chain out.context (out.error cause))) exit entry := by
  obtain ⟨exits, f, hf, hx⟩ := exit
  obtain ⟨enters, f', hf', hy⟩ := entry
  have ok : f.ran.value.2 = .ok () := congrArg Prod.snd hf
  obtain rfl : f.ran.value.1 = left := congrArg Prod.fst hf
  have mended := recovery.1.mended enters.stretch.of_mem_contexts
  have handlers : handlersOf (ownVisits ctx.id log) = visitsOf r := by
    rw [accounts.visits_eq]
    simp [guard.stretch.handlersOf_eq, before.stretch.handlersOf_eq,
      exits.stretch.handlersOf_eq, between.stretch.handlersOf_eq,
      enters.stretch.handlersOf_eq, mended.handlersOf_eq]
  have entered := infix_of_entry hy accounts.log_eq
  refine ⟨f, some f', infix_of_exit hx accounts.log_eq, by simpa using entered, by simp [ok],
    by simp [hf'], by simp [ok], fun f'' hf'' e he => ?_⟩
  obtain rfl := Option.some.inj hf''
  obtain rfl : cause = e := by simpa [hf'] using he
  exact recovery.reports enters.stretch.of_mem_contexts handlers

theorem concludes_of_completed
    (exit : source.exit.Executes host .exit ctx payload x (left, .ok ()))
    (entry : destination.entry.Executes host .entry ctx left y (left', .ok ()))
    (accounts : Accounts i (g ++ .event (.firing ctx) :: (b ++ (x ++ (t ++ (y ++ rest))))) log) :
    ∃ exit entry, Concludes host source destination ctx payload log (.ok ctx) exit entry := by
  obtain ⟨-, f, hf, hx⟩ := exit
  obtain ⟨-, f', hf', hy⟩ := entry
  have ok : f.ran.value.2 = .ok () := congrArg Prod.snd hf
  obtain rfl : f.ran.value.1 = left := congrArg Prod.fst hf
  have entered := infix_of_entry hy accounts.log_eq
  exact ⟨f, some f', infix_of_exit hx accounts.log_eq, by simpa using entered, by simp [ok],
    by simp [ok, hf'], by simp [ok], by simp [hf']⟩

end Concludes

variable [Payload π] {m : Machine π ν} {depth n : Nat} {payload : π} {trigger : Trigger}
  {source destination : Node π ν} {edge : Edge π ν}

/-- The result of every fire whose guard let it pass and from which no panic escapes. -/
theorem fire_reports {ran : Ran (Entry π ν) (π × Outcome)} {result : Except FireError Context}
    (leads : m.Leads payload trigger source edge destination)
    (h : m.fire depth payload trigger n = some ran) (answered : ran.value.2 = .answered result)
    (passed : .event (.firing (contextOf n source edge trigger)) ∈ ran.log) :
    ∃ exit entry, Concludes (m.host depth) source destination (contextOf n source edge trigger)
      payload ran.log result exit entry := by
  obtain ⟨hs, course, accounts⟩ := course_of_fire leads h
  obtain ⟨⟨left, outcome⟩, next, log⟩ := ran
  obtain rfl : outcome = .answered result := answered
  have mem := accounts.event_mem ⟨_, List.mem_singleton_self _, rfl⟩ passed
  cases course with
  | refused guard => exact absurd mem (firing_not_mem_of_refused guard)
  | exitFailed guard before exit recovery between =>
    exact concludes_of_exitFailed guard before exit recovery between accounts
  | entryFailed guard before exit between entry recovery =>
    exact concludes_of_entryFailed guard before exit between entry recovery accounts
  | completed guard before exit between entry after =>
    exact concludes_of_completed exit entry accounts

/-- Only a fire that reports a panic carries two contexts. -/
theorem panicked_of_contexts {outcome : Outcome} {ctx c : Context}
    (h : outcome.contexts = [ctx, c]) :
    ∃ p, outcome = .answered (.error (.chain ctx (.panic p))) ∧ p.transition = c := by
  cases outcome with
  | escaped value => simp [Outcome.contexts] at h
  | answered result =>
    cases result with
    | ok c' => simp [Outcome.contexts] at h
    | error e =>
      cases e with
      | chain ctx' e =>
        cases e with
        | panic p =>
          obtain ⟨rfl, rfl⟩ : ctx' = ctx ∧ p.transition = c := by
            simpa [Outcome.contexts, FireError.contexts, ChainError.contexts,
              ChainError.panic?] using h
          exact ⟨p, rfl, rfl⟩
        | _ => simp [Outcome.contexts, FireError.contexts, ChainError.contexts,
            ChainError.panic?] at h
      | _ => simp [Outcome.contexts, FireError.contexts] at h

/-- The travelling step panics, the handler redirects the parcel and returns ok: the panic is
reported, for a parcel that is lost. -/
theorem parcel_reports : ∃ ran p result source destination,
    parcel.fire 1 packed ⟨"send"⟩ 0 = some ran ∧ ran.value.2 = .answered result ∧
      result = .error (.chain ⟨0, ⟨"packed"⟩, ⟨"lost"⟩, ⟨"send"⟩⟩ (.panic p)) ∧
      ∃ exit entry, Concludes (parcel.host 1) source destination
        ⟨0, ⟨"packed"⟩, ⟨"sent"⟩, ⟨"send"⟩⟩ packed ran.log result exit entry := by
  have finished : (parcel.fire 1 packed ⟨"send"⟩ 0).isSome = true := by decide +kernel
  obtain ⟨ran, h⟩ := Option.isSome_iff_exists.1 finished
  have contexts : (parcel.fire 1 packed ⟨"send"⟩ 0).map (fun r => r.value.2.contexts) =
      some [⟨0, ⟨"packed"⟩, ⟨"lost"⟩, ⟨"send"⟩⟩, ⟨0, ⟨"packed"⟩, ⟨"sent"⟩, ⟨"send"⟩⟩] := by
    decide +kernel
  have mem : (parcel.fire 1 packed ⟨"send"⟩ 0).map (fun r =>
      decide (.firing ⟨0, ⟨"packed"⟩, ⟨"sent"⟩, ⟨"send"⟩⟩ ∈ events r.log)) = some true := by
    decide +kernel
  simp only [h, Option.map_some, Option.some.injEq, decide_eq_true_eq] at contexts mem
  obtain ⟨source, edge, destination, leads, hctx⟩ := parcel_leads
  have passed : .event (.firing (contextOf 0 source edge ⟨"send"⟩)) ∈ ran.log := by
    rw [hctx]
    exact mem_of_mem_events mem
  obtain ⟨p, hvalue, -⟩ := panicked_of_contexts contexts
  have concludes := fire_reports leads h hvalue passed
  rw [hctx] at concludes
  exact ⟨ran, p, _, source, destination, h, hvalue, rfl, concludes⟩

end Machine

end StateMachine
