import Mathlib.Control.Monad.Basic
import Mathlib.Logic.ExistsUnique
import StateMachine.Proofs.Outline
import StateMachine.Proofs.Returning
import StateMachine.Script

/-!
# Where a chain stops

A chain goes past a step whose guard refuses it, and past one whose operation returns ok. It stops
at the first step of another kind, or when no step is left, and how far it has come is a number.

* `Step.Permits`, `Step.Passed`, `Step.Stopped`: what becomes of one step.
* `Chain.Past k`: the first `k` steps have been gone past, one after the other.
* `Chain.StopsAt k`: where a chain stops, and with what.
* `Chain.stops_once`: every run of a chain stops at one place.
-/

namespace StateMachine

variable {π ν : Type} {host : Host π ν} {side : Side} {position : Nat} {ctx : Context}
  {payload : π}

/-! ## One step -/

namespace Step

/-- A step is run: it has no guard, or its guard returns ok. -/
inductive Permits (host : Host π ν) (side : Side) (ctx : Context) (payload : π)
    (step : Step π ν) : List (Happening host) → Prop
  | unguarded (none : step.guard = none) : Permits host side ctx payload step []
  | granted {g hs} (some : step.guard = some g)
      (granted : g.Answers host (.stepGuard side) payload ctx hs .ok) :
      Permits host side ctx payload step hs

/-- A step is gone past, and what it leaves as the payload. -/
inductive Passed (host : Host π ν) (side : Side) (position : Nat) (ctx : Context) (payload : π)
    (step : Step π ν) : List (Happening host) → π → Prop
  /-- Its guard returns an error. The operation is not called, and the payload stays as it is. -/
  | skipped {g hs f} (some : step.guard = some g)
      (refused : g.Answers host (.stepGuard side) payload ctx hs (.fail f)) :
      Passed host side position ctx payload step
        (hs ++ [.event (.stepSkipped ctx position step.label f)]) payload
  /-- It is run, and its operation returns ok. -/
  | ran {hs} (t : Turn host) (permitted : step.Permits host side ctx payload hs)
      (of : t.Of ⟨.operation side, step.label, ctx, payload⟩ (step.operation payload ctx))
      (ok : t.verdict = .ok) :
      Passed host side position ctx payload step (hs ++ [.turn t]) t.settled.payload

/-- A step makes its chain fail: what it leaves as the payload, and the error. -/
inductive Stopped (host : Host π ν) (side : Side) (position : Nat) (ctx : Context) (payload : π)
    (step : Step π ν) : List (Happening host) → π → ChainError → Prop
  /-- Its guard panics. The operation is not called, and the error bears the guard's label. -/
  | guardPanicked {g hs v} (some : step.guard = some g)
      (panicked : g.Answers host (.stepGuard side) payload ctx hs (.panic v)) :
      Stopped host side position ctx payload step
        (hs ++ [.event (.panicked ⟨ctx, position, g.label, v.payload⟩)]) payload
        (.panic ⟨ctx, position, g.label, v.payload⟩)
  /-- Its operation returns an error. -/
  | failed {hs f} (t : Turn host) (permitted : step.Permits host side ctx payload hs)
      (of : t.Of ⟨.operation side, step.label, ctx, payload⟩ (step.operation payload ctx))
      (fail : t.verdict = .fail f) :
      Stopped host side position ctx payload step
        (hs ++ [.turn t, .event (.stepFailed ctx position step.label f)]) t.settled.payload
        (.operation position step.label f)
  /-- Its operation panics. -/
  | panicked {hs v} (t : Turn host) (permitted : step.Permits host side ctx payload hs)
      (of : t.Of ⟨.operation side, step.label, ctx, payload⟩ (step.operation payload ctx))
      (panic : t.verdict = .panic v) :
      Stopped host side position ctx payload step
        (hs ++ [.turn t, .event (.panicked ⟨ctx, position, step.label, v.payload⟩)])
        t.settled.payload (.panic ⟨ctx, position, step.label, v.payload⟩)

variable {step : Step π ν} {hs hs' : List (Happening host)} {left : π}

theorem Stopped.step_eq {e : ChainError}
    (h : step.Stopped host side position ctx payload hs left e) : e.step = position := by
  cases h <;> rfl

theorem Consults.permits (h : step.Consults host side position ctx payload hs (.ok true)) :
    step.Permits host side ctx payload hs := by
  cases h with
  | free none => exact .unguarded none
  | passed some answer => exact .granted some answer

theorem Consults.skipped_passed (h : step.Consults host side position ctx payload hs (.ok false)) :
    step.Passed host side position ctx payload hs payload := by
  cases h with
  | skipped some answer => exact .skipped some answer

theorem Consults.stopped {panic : PanicError}
    (h : step.Consults host side position ctx payload hs (.error panic)) :
    step.Stopped host side position ctx payload hs payload (.panic panic) := by
  cases h with
  | panicked some answer => exact .guardPanicked some answer

theorem Operates.passed (permitted : step.Permits host side ctx payload hs)
    (h : step.Operates host side position ctx payload hs' (left, .ok ())) :
    step.Passed host side position ctx payload (hs ++ hs') left := by
  cases h with
  | done t of ok => exact .ran t permitted of ok

theorem Operates.stopped {e : ChainError} (permitted : step.Permits host side ctx payload hs)
    (h : step.Operates host side position ctx payload hs' (left, .error e)) :
    step.Stopped host side position ctx payload (hs ++ hs') left e := by
  cases h with
  | failed t of fail => exact .failed t permitted of fail
  | panicked t of panic => exact .panicked t permitted of panic

end Step

/-! ## All steps -/

namespace Chain

/-- The first `k` steps have been gone past in their order, each with the payload that the one
before it left. -/
inductive Past (host : Host π ν) (side : Side) (chain : Chain π ν) (ctx : Context) (payload : π) :
    Nat → List (Happening host) → π → Prop
  | start : Past host side chain ctx payload 0 [] payload
  | step {k hs given step hs' left} (before : Past host side chain ctx payload k hs given)
      (stands : chain.steps[k]? = some step)
      (passed : step.Passed host side k ctx given hs' left) :
      Past host side chain ctx payload (k + 1) (hs ++ hs') left

/-- A chain stops once it has gone past `k` steps: there are no more, or the next one fails, and
nothing happens afterwards. -/
inductive StopsAt (host : Host π ν) (side : Side) (chain : Chain π ν) (ctx : Context)
    (payload : π) : Nat → List (Happening host) → π × Except ChainError Unit → Prop
  | finished {hs left} (past : Past host side chain ctx payload chain.length hs left) :
      StopsAt host side chain ctx payload chain.length hs (left, .ok ())
  | failed {k hs given step hs' left e} (past : Past host side chain ctx payload k hs given)
      (stands : chain.steps[k]? = some step)
      (stopped : step.Stopped host side k ctx given hs' left e) :
      StopsAt host side chain ctx payload k (hs ++ hs') (left, .error e)

variable {chain : Chain π ν} {hs hs' : List (Happening host)}
  {out : π × Except ChainError Unit}

theorem StopsAt.step_eq {k : Nat} {left : π} {e : ChainError}
    (h : chain.StopsAt host side ctx payload k hs (left, .error e)) : e.step = k := by
  cases h with
  | failed _ _ stopped => exact stopped.step_eq

/-- What a chain comes to tells where it stopped. -/
theorem StopsAt.unique {k k' : Nat} (h : chain.StopsAt host side ctx payload k hs out)
    (h' : chain.StopsAt host side ctx payload k' hs' out) : k' = k := by
  obtain ⟨left, result⟩ := out
  cases result with
  | error e => rw [← h.step_eq, ← h'.step_eq]
  | ok =>
    cases h with
    | finished => cases h' with
      | finished => rfl

theorem stands_of_split {step : Step π ν} {before rest : List (Step π ν)}
    (split : chain.steps = before ++ step :: rest) (reached : before.length = position) :
    chain.steps[position]? = some step := by
  simp [split, ← reached]

/-- The steps that are left are run from where the steps before them have come to. The induction is
on these. What has come before is carried along, for its length is the place in the chain. -/
theorem Passes.stopsAt {before rest : List (Step π ν)} {given : π}
    (h : Passes host side ctx position rest given hs out) (split : chain.steps = before ++ rest)
    (reached : before.length = position)
    (past : chain.Past host side ctx payload position hs' given) :
    ∃ k, chain.StopsAt host side ctx payload k (hs' ++ hs) out := by
  induction h generalizing before hs' with
  | nil =>
    obtain rfl : chain.length = _ := by rw [length, split, List.append_nil, reached]
    rw [List.append_nil]
    exact ⟨_, .finished past⟩
  | @blocked position step rest given hs panic guard =>
    have stands := stands_of_split split reached
    exact ⟨position, .failed past stands guard.stopped⟩
  | @stopped position step rest given hs hs'' left error guard operation =>
    have stands := stands_of_split split reached
    exact ⟨position, .failed past stands (operation.stopped guard.permits)⟩
  | @skipped position step rest given hs hs'' out guard more ih =>
    have stands := stands_of_split split reached
    have next := past.step stands guard.skipped_passed
    rw [← List.append_assoc]
    have split' : chain.steps = before ++ [step] ++ rest := by simp [split]
    exact ih split' (by simp [reached]) next
  | @passed position step rest given hs hs'' hs''' left out guard operation more ih =>
    have stands := stands_of_split split reached
    have next := past.step stands (operation.passed guard.permits)
    rw [← List.append_assoc hs, ← List.append_assoc]
    have split' : chain.steps = before ++ [step] ++ rest := by simp [split]
    exact ih split' (by simp [reached]) next

/-- A chain comes to a result if its callbacks do, and it stops at one place: past all steps before
that place, and either at its end or at a step that fails. Each callback is given the payload that
the callbacks before it left, and guards leave it as it is. -/
theorem stops_once (host : Host π ν) (side : Side) (chain : Chain π ν) (ctx : Context)
    (payload : π) :
    (chain.Returns host → (chain.execute host side ctx payload).Returns) ∧
    ∀ f : Finished (chain.execute host side ctx payload), ∃! k, ∃ hs, f.Unfolds (fun hs out =>
      chain.StopsAt host side ctx payload k hs out ∧
        Threaded (payload, ctx) (visitsOf hs) (out.1, ctx)) hs := by
  refine ⟨fun returns => returns_execute returns side ctx payload, fun f => ?_⟩
  obtain ⟨hs, unf⟩ := plays_executeFrom side ctx 0 chain.steps payload f
  have passes : Passes host side ctx 0 chain.steps payload hs f.ran.value := unf.rel
  obtain ⟨k, stops⟩ := passes.stopsAt (List.nil_append _).symm rfl .start
  refine ⟨k, ⟨hs, unf.spans, unf.log_eq, stops, passes.stretch.threaded⟩, ?_⟩
  rintro k' ⟨hs', unf'⟩
  exact stops.unique unf'.rel.1

/-! ### A chain to look at -/

end Chain

/-- A host that is not there. -/
def Host.absent : Host Subject Remark := .exhausted fun _ => .ok []

namespace Chain

/-- A crate is weighed, lifted by hand if it is light, labelled and shipped. There is not enough ink
for the label. -/
def packing : Chain Subject Remark := ⟨[
  ⟨none, "weigh", Script.operation (.act (.set "weight" 3) .done)⟩,
  ⟨some (.predicate "light" fun s _ =>
      .finish s (if s.var "weight" < 3 then .ok else .fail (.plain "heavy"))),
    "lift", Script.operation (.act (.set "lifted" 1) .done)⟩,
  ⟨some (.triggerIs ⟨"ship"⟩), "label",
    Script.operation (.act (.note "fragi") (.stop (.fail (.plain "no ink"))))⟩,
  ⟨none, "ship", Script.operation (.act (.move ⟨"shipped"⟩) .done)⟩]⟩

/-- A crate about to be shipped. -/
def crate : Subject := ⟨⟨"packed"⟩, [], []⟩

/-- What is known of the shipment. -/
def shipment : Context := ⟨0, ⟨"packed"⟩, ⟨"shipped"⟩, ⟨"ship"⟩⟩

theorem packing_returns : packing.Returns .absent := by
  intro step mem
  simp only [packing, List.mem_cons, List.not_mem_nil, or_false] at mem
  rcases mem with rfl | rfl | rfl | rfl <;>
    refine ⟨fun g guarded => ?_, fun _ _ _ _ => rfl⟩ <;> cases guarded
  · exact fun _ _ _ _ => rfl
  · trivial

/-- The crate turns out to be heavy, so the second step is skipped. The third one fails when a part
of the label is written. -/
theorem packing_stops_once : (packing.execute .absent .alone shipment crate).Returns ∧
    ∃ f : Finished (packing.execute .absent .alone shipment crate),
      f.ran.value =
        (⟨⟨"packed"⟩, [("weight", 3)], ["fragi"]⟩, .error (.operation 2 "label" (.plain "no ink"))) ∧
      ∃ hs, f.Unfolds (fun hs out => packing.StopsAt .absent .alone shipment crate 2 hs out ∧
        Threaded (crate, shipment) (visitsOf hs) (out.1, shipment)) hs := by
  obtain ⟨returns, stops⟩ := stops_once .absent .alone packing shipment crate
  obtain ⟨ran, h⟩ := Option.isSome_iff_exists.1 (returns packing_returns 1)
  have value : (packing.execute .absent .alone shipment crate 1).map Ran.value = some
      (⟨⟨"packed"⟩, [("weight", 3)], ["fragi"]⟩,
        .error (.operation 2 "label" (.plain "no ink"))) := by
    decide +kernel
  simp only [h, Option.map_some, Option.some.injEq] at value
  obtain ⟨k, ⟨hs, unf⟩, -⟩ := stops ⟨1, ran, h⟩
  have stopped := unf.rel.1
  rw [value] at stopped
  obtain rfl : 2 = k := stopped.step_eq
  exact ⟨returns packing_returns, ⟨1, ran, h⟩, value, hs, unf⟩

end Chain

end StateMachine
