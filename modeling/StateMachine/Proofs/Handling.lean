import StateMachine.Proofs.Frozen
import StateMachine.Proofs.Stopping

/-!
# How handlers deal with a failure

The handlers of a state run one after the other, until one of them does not return ok. Each is told
the same cause. What a handler leaves reaches the next one: the payload, and the destination that
was set last, which is kept even if the handler that set it fails.

* `Attempt`: a handler that was called; `Attempt.targets` are the destinations that it set.
* `Context.movedBy`, `payloadLeft`: what is left once some handlers have been called.
* `Recovery.Calls`: the next handler is called. `Recovery.Deals`: all that a recovery comes to.
* `Recovery.deals_execute`: every run of a recovery is like that.
-/

namespace StateMachine

variable {π ν : Type} {host : Host π ν}

/-! ## Destinations -/

/-- The destination that a callback reports, if this is what happens. -/
def Happening.target? : Happening host → Option State
  | retarget destination => some destination
  | _ => none

/-- Of all destinations that a callback reports, the last one counts. -/
theorem retargeted_eq (ctx : Context) (hs : List (Happening host)) :
    retargeted ctx hs =
      ctx.retarget ((hs.filterMap Happening.target?).getLast?.getD ctx.destination) := by
  induction hs generalizing ctx with
  | nil => rfl
  | cons h hs ih =>
    cases h with
    | retarget destination =>
      have targets : (Happening.retarget destination :: hs).filterMap Happening.target? =
          destination :: hs.filterMap Happening.target? := rfl
      rw [retargeted, ih, targets, List.getLast?_cons]
      rfl
    | _ => exact ih ctx

/-- A handler that was called, and what happened in its turn. -/
structure Attempt (host : Host π ν) where
  turn : Turn host
  inner : List (Happening host)
  unfolds : turn.run.Unfolds (turn.code.Path host turn.call.context) inner

namespace Attempt

/-- How the handler ended. -/
def verdict (a : Attempt host) : Verdict := a.turn.verdict

/-- The destinations that the handler set, in their order. -/
def targets (a : Attempt host) : List State := a.inner.filterMap Happening.target?

theorem context_eq (a : Attempt host) :
    a.turn.settled.context =
      a.turn.call.context.retarget (a.targets.getLast?.getD a.turn.call.context.destination) :=
  a.unfolds.rel.context_eq.trans (retargeted_eq _ _)

theorem exists_turn_eq (t : Turn host) : ∃ a : Attempt host, a.turn = t := by
  obtain ⟨hs, path⟩ := t.code.plays_run host t.call.context t.run
  exact ⟨⟨t, hs, path⟩, rfl⟩

/-- The error that a handler makes of its list, given its position there and the context that is
left. -/
inductive Fails (a : Attempt host) (position : Nat) (left : Context) : ChainError → Prop
  | returned {f} (fail : a.verdict = .fail f) :
      Fails a position left (.handler position a.turn.call.label f)
  | panicked {v} (panic : a.verdict = .panic v) :
      Fails a position left (.panic ⟨left, position, a.turn.call.label, v.payload⟩)

theorem Fails.step_eq {a : Attempt host} {position : Nat} {left : Context} {e : ChainError}
    (h : a.Fails position left e) : e.step = position := by
  cases h <;> rfl

end Attempt

/-- The context once handlers have been called: with the destination that was set last. -/
def Context.movedBy (ctx : Context) (as : List (Attempt host)) : Context :=
  ctx.retarget ((as.flatMap Attempt.targets).getLast?.getD ctx.destination)

/-- The payload once handlers have been called: what the last of them left. -/
def payloadLeft (payload : π) (as : List (Attempt host)) : π :=
  (as.getLast?.map fun a => a.turn.settled.payload).getD payload

section Left

variable {ctx : Context} {payload : π} {as : List (Attempt host)} {a : Attempt host}

@[simp] theorem payloadLeft_concat :
    payloadLeft payload (as ++ [a]) = a.turn.settled.payload := by
  simp [payloadLeft]

theorem Context.movedBy_concat (given : a.turn.call.context = ctx.movedBy as) :
    ctx.movedBy (as ++ [a]) = a.turn.settled.context := by
  rw [a.context_eq, given]
  simp only [movedBy, List.flatMap_append, List.flatMap_singleton, List.getLast?_append,
    retarget_retarget, destination_retarget]
  cases a.targets.getLast? <;> rfl

end Left

/-! ## Handlers in a row -/

/-- What becomes of one handler. -/
theorem Handler.Handles.attempted {handler : Handler π ν} {cause : ChainError} {position : Nat}
    {ctx : Context} {payload : π} {hs : List (Happening host)} {out : Recovered π}
    (h : handler.Handles host cause position ctx payload hs out) :
    ∃ a : Attempt host, turns hs = [a.turn] ∧
      a.turn.Of ⟨.handler cause, handler.label, ctx, payload⟩
        (handler.operation payload ctx cause) ∧
      out = ⟨a.turn.settled.payload, a.turn.settled.context, out.result⟩ ∧
      (match out.result with
        | .ok _ => a.verdict = .ok
        | .error e => a.Fails position out.context e) := by
  cases h with
  | kept t of ok =>
    obtain ⟨a, rfl⟩ := Attempt.exists_turn_eq t
    exact ⟨a, rfl, of, rfl, ok⟩
  | retargeted t of ok =>
    obtain ⟨a, rfl⟩ := Attempt.exists_turn_eq t
    exact ⟨a, rfl, of, rfl, ok⟩
  | failed t of fail =>
    obtain ⟨a, rfl⟩ := Attempt.exists_turn_eq t
    have label : a.turn.call.label = handler.label := congrArg Call.label of.1
    exact ⟨a, rfl, of, rfl, label ▸ .returned fail⟩
  | panicked t of panic =>
    obtain ⟨a, rfl⟩ := Attempt.exists_turn_eq t
    have label : a.turn.call.label = handler.label := congrArg Call.label of.1
    exact ⟨a, rfl, of, rfl, label ▸ .panicked panic⟩

namespace Recovery

/-- A handler is called after some others. It is the next one in the list; it is given the payload
and the context as they left them, and the cause. -/
def Calls (recovery : Recovery π ν) (cause : ChainError) (ctx : Context) (payload : π)
    (before : List (Attempt host)) (a : Attempt host) : Prop :=
  ∃ handler, recovery.handlers[before.length]? = some handler ∧
    a.turn.Of ⟨.handler cause, handler.label, ctx.movedBy before, payloadLeft payload before⟩
      (handler.operation (payloadLeft payload before) (ctx.movedBy before) cause)

theorem calls_of_split {recovery : Recovery π ν} {cause : ChainError} {ctx moved : Context}
    {payload left : π} {front rest : List (Handler π ν)} {handler : Handler π ν}
    {before : List (Attempt host)} {a : Attempt host}
    (split : recovery.handlers = front ++ handler :: rest) (length : before.length = front.length)
    (hmoved : ctx.movedBy before = moved) (hleft : payloadLeft payload before = left)
    (of : a.turn.Of ⟨.handler cause, handler.label, moved, left⟩
      (handler.operation left moved cause)) : recovery.Calls cause ctx payload before a := by
  subst hmoved hleft
  exact ⟨handler, by simp [split, length], of⟩

/-- What handlers come to when they are run for a cause: which of them are called, and what they
leave. -/
structure Deals (recovery : Recovery π ν) (cause : ChainError) (ctx : Context) (payload : π)
    (as : List (Attempt host)) (out : Recovered π) : Prop where
  /-- Handlers are called in their order, from the first one on. -/
  called : ∀ before a, before ++ [a] <+: as → recovery.Calls cause ctx payload before a
  /-- All of them return ok, except perhaps the last. -/
  returned : ∀ a ∈ as.dropLast, a.verdict = .ok
  /-- The recovery succeeds exactly if all handlers of the list are called and return ok. -/
  succeeds : out.result = .ok () ↔ as.length = recovery.length ∧ ∀ a ∈ as, a.verdict = .ok
  /-- Otherwise the last one that is called fails or panics, and the error tells of it. -/
  fails : ∀ e, out.result = .error e →
    ∃ before a, as = before ++ [a] ∧ a.Fails before.length (ctx.movedBy as) e
  /-- The payload is left as the last one that is called left it. -/
  left : out.payload = payloadLeft payload as
  /-- Only the destination is changed. It is the last one that any of them set. -/
  reported : out.context = ctx.movedBy as

variable {recovery : Recovery π ν} {cause : ChainError} {ctx : Context} {payload : π}

/-- Some handlers have been called, and all of them returned ok. -/
structure Past (recovery : Recovery π ν) (cause : ChainError) (ctx : Context) (payload : π)
    (as : List (Attempt host)) : Prop where
  called : ∀ before a, before ++ [a] <+: as → recovery.Calls cause ctx payload before a
  ok : ∀ a ∈ as, a.verdict = .ok

namespace Past

variable {as : List (Attempt host)} {a : Attempt host}

theorem start : recovery.Past cause ctx payload ([] : List (Attempt host)) :=
  ⟨fun before a h => by simp at h, fun _ h => nomatch h⟩

theorem called_concat (past : recovery.Past cause ctx payload as)
    (calls : recovery.Calls cause ctx payload as a) :
    ∀ before b, before ++ [b] <+: as ++ [a] → recovery.Calls cause ctx payload before b := by
  intro before b h
  rcases List.prefix_concat_iff.1 h with same | earlier
  · obtain ⟨rfl, hb⟩ := List.append_inj' same rfl
    obtain rfl := List.singleton_inj.1 hb
    exact calls
  · exact past.called before b earlier

theorem concat (past : recovery.Past cause ctx payload as)
    (calls : recovery.Calls cause ctx payload as a) (ok : a.verdict = .ok) :
    recovery.Past cause ctx payload (as ++ [a]) :=
  ⟨past.called_concat calls, List.forall_mem_append.2 ⟨past.ok, List.forall_mem_singleton.2 ok⟩⟩

theorem deals (past : recovery.Past cause ctx payload as) (all : as.length = recovery.length) :
    recovery.Deals cause ctx payload as
      ⟨payloadLeft payload as, ctx.movedBy as, .ok ()⟩ where
  called := past.called
  returned a mem := past.ok a (List.dropLast_subset _ mem)
  succeeds := ⟨fun _ => ⟨all, past.ok⟩, fun _ => rfl⟩
  fails _ h := nomatch h
  left := rfl
  reported := rfl

theorem deals_of_fails (past : recovery.Past cause ctx payload as)
    (calls : recovery.Calls cause ctx payload as a) {e : ChainError}
    (fails : a.Fails as.length a.turn.settled.context e) :
    recovery.Deals cause ctx payload (as ++ [a])
      ⟨a.turn.settled.payload, a.turn.settled.context, .error e⟩ := by
  have moved : ctx.movedBy (as ++ [a]) = a.turn.settled.context := by
    obtain ⟨handler, -, of⟩ := calls
    exact Context.movedBy_concat (congrArg Call.context of.1)
  refine ⟨past.called_concat calls, ?_, ⟨nofun, ?_⟩, ?_, payloadLeft_concat.symm, moved.symm⟩
  · rw [List.dropLast_concat]
    exact past.ok
  · rintro ⟨-, ok⟩
    have ok : a.verdict = .ok := ok a (by simp)
    cases fails with
    | returned fail => exact nomatch ok.symm.trans fail
    | panicked panic => exact nomatch ok.symm.trans panic
  · rintro _ ⟨⟩
    exact ⟨as, a, rfl, moved ▸ fails⟩

end Past

/-- The handlers that are left are run from where those before them have come to. -/
theorem Handles.deals {position : Nat} {before rest : List (Handler π ν)} {moved : Context}
    {left : π} {hs : List (Happening host)} {out : Recovered π} {as : List (Attempt host)}
    (h : Handles host cause position rest moved left hs out)
    (split : recovery.handlers = before ++ rest) (reached : before.length = position)
    (past : recovery.Past cause ctx payload as) (called : as.length = position)
    (hmoved : ctx.movedBy as = moved) (hleft : payloadLeft payload as = left) :
    ∃ more, turns hs = more.map Attempt.turn ∧
      recovery.Deals cause ctx payload (as ++ more) out := by
  induction h generalizing before as with
  | nil =>
    have all : as.length = recovery.length := by
      rw [Recovery.length, split, List.append_nil, called, reached]
    subst hmoved hleft
    exact ⟨[], rfl, by simpa using past.deals all⟩
  | stopped last =>
    obtain ⟨a, ht, of, hout, fails⟩ := last.attempted
    obtain ⟨rfl, rfl, -⟩ := Recovered.mk.inj hout
    have calls := calls_of_split split (called.trans reached.symm) hmoved hleft of
    exact ⟨[a], ht, past.deals_of_fails calls (called ▸ fails)⟩
  | @passed _ handler rest _ _ _ _ _ _ _ first _ ih =>
    obtain ⟨a, ht, of, hout, ok⟩ := first.attempted
    obtain ⟨rfl, rfl, -⟩ := Recovered.mk.inj hout
    have calls := calls_of_split split (called.trans reached.symm) hmoved hleft of
    have hmoved' : ctx.movedBy (as ++ [a]) = a.turn.settled.context :=
      Context.movedBy_concat ((congrArg Call.context of.1).trans hmoved.symm)
    have split' : recovery.handlers = before ++ [handler] ++ rest := by simp [split]
    obtain ⟨as', hturns, deals⟩ := ih split' (by simp [reached]) (past.concat calls ok)
      (by simp [called]) hmoved' payloadLeft_concat
    exact ⟨a :: as', by rw [turns_append, ht, hturns]; rfl, by simpa using deals⟩

/-- A recovery comes to a result if its handlers do, and the handlers that it calls are the first
ones of its list, up to the first that does not return ok. -/
theorem deals_execute (host : Host π ν) (recovery : Recovery π ν) (cause : ChainError)
    (ctx : Context) (payload : π) :
    (recovery.Returns host → (recovery.execute host cause ctx payload).Returns) ∧
    ∀ f : Finished (recovery.execute host cause ctx payload),
      ∃ (as : List (Attempt host)) (hs : List (Happening host)), f.Unfolds (fun hs out =>
        turns hs = as.map Attempt.turn ∧ recovery.Deals cause ctx payload as out) hs := by
  refine ⟨fun returns => returns_execute returns cause ctx payload, fun f => ?_⟩
  obtain ⟨hs, unf⟩ := plays_executeFrom cause 0 recovery.handlers ctx payload f
  have handles : Handles host cause 0 recovery.handlers ctx payload hs f.ran.value := unf.rel
  obtain ⟨as, turns, deals⟩ := handles.deals (List.nil_append _).symm rfl .start rfl rfl rfl
  exact ⟨as, hs, unf.spans, unf.log_eq, turns, deals⟩

/-! ### A recovery to look at -/

/-- A crate that cannot be labelled is diverted, at first to the wrong place. The report says where
it went, but it cannot be completed, and there is no refund. -/
def rescue : Recovery Subject Remark := ⟨[
  ⟨"divert", Script.handler (.act (.retarget ⟨"cellar"⟩)
    (.act (.retarget ⟨"depot"⟩) (.act (.set "diverted" 1) .done)))⟩,
  ⟨"report", Script.handler (.act .quote
    (.act (.retarget ⟨"unknown"⟩) (.stop (.panic (.literal "no paper")))))⟩,
  ⟨"refund", Script.handler (.act (.retarget ⟨"refunded"⟩) (.act (.set "refund" 5) .done))⟩]⟩

/-- Why the crate was not labelled. -/
def noInk : ChainError := .operation 2 "label" (.plain "no ink")

theorem rescue_returns : rescue.Returns .absent := by
  intro handler mem
  simp only [rescue, List.mem_cons, List.not_mem_nil, or_false] at mem
  rcases mem with rfl | rfl | rfl <;> exact fun _ _ _ _ _ => rfl

/-- Two of three handlers are called. The second one panics when it has set a destination, which is
the one that the error and the context tell. -/
theorem rescue_deals : (rescue.execute .absent noInk Chain.shipment Chain.crate).Returns ∧
    ∃ f : Finished (rescue.execute .absent noInk Chain.shipment Chain.crate),
      f.ran.value.payload =
        ⟨⟨"packed"⟩, [("diverted", 1)], ["operation 'label' at step 2 failed: no ink"]⟩ ∧
      f.ran.value.context = Chain.shipment.retarget ⟨"unknown"⟩ ∧
      f.ran.value.result = .error (.panic
        ⟨Chain.shipment.retarget ⟨"unknown"⟩, 1, "report", .message "no paper"⟩) ∧
      ∃ (as : List (Attempt Host.absent)) (hs : List (Happening Host.absent)),
        as.length = 2 ∧ f.Unfolds (fun hs out => turns hs = as.map Attempt.turn ∧
          rescue.Deals noInk Chain.shipment Chain.crate as out) hs := by
  obtain ⟨returns, deals⟩ := deals_execute .absent rescue noInk Chain.shipment Chain.crate
  obtain ⟨ran, h⟩ := Option.isSome_iff_exists.1 (returns rescue_returns 1)
  have value : (rescue.execute .absent noInk Chain.shipment Chain.crate 1).map
      (fun r => (r.value.payload, r.value.context, r.value.result)) = some
      (⟨⟨"packed"⟩, [("diverted", 1)], ["operation 'label' at step 2 failed: no ink"]⟩,
        Chain.shipment.retarget ⟨"unknown"⟩, .error (.panic
          ⟨Chain.shipment.retarget ⟨"unknown"⟩, 1, "report", .message "no paper"⟩)) := by
    decide +kernel
  simp only [h, Option.map_some, Option.some.injEq, Prod.mk.injEq] at value
  obtain ⟨payload, context, result⟩ := value
  obtain ⟨as, hs, unf⟩ := deals ⟨1, ran, h⟩
  refine ⟨returns rescue_returns, ⟨1, ran, h⟩, payload, context, result, as, hs, ?_, unf⟩
  obtain ⟨before, a, rfl, fails⟩ := unf.rel.2.fails _ result
  rw [List.length_append, ← fails.step_eq]
  rfl

end Recovery

end StateMachine
