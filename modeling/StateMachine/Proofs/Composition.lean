import StateMachine.Proofs.Handling
import StateMachine.Proofs.Renumbering
import StateMachine.Proofs.Reopening
import StateMachine.Proofs.Stopping

/-!
# Lists of callbacks compose

A list of steps or of error handlers may be cut in two. Running it is running its first part and, if
this did not fail, its second part on what the first one left; only the positions in reports are
counted from the start of the whole list. So a list that fails does not notice what is added behind.

* `Chain.executeFrom_append`, `Recovery.executeFrom_append`: a list in two parts.
* `Chain.retold_executeFrom`, `Recovery.retold_executeFrom`: a list at other positions.
* `Chain.Joins`, `Recovery.Joins`: what it means that two parts join.
* `Node.Grows`: the lists of a state grow at their ends; `Node.KeepsFailures`: so what fails goes on
  to fail in the same way.
* `lists_compose`: all of this, and what it means for states that are reopened.
-/

namespace StateMachine

variable {π ν : Type}

theorem Run.bind_apply_of_idle {ε α : Type} {x : Run ε α} {y : α → Run ε α} {n : Nat} {r : Ran ε α}
    (h : x n = some r) (idle : y r.value = pure r.value) : (x >>= y) n = some r := by
  rw [bind_apply_of_eq_some h, idle]
  simp [pure_apply]

/-! ## Steps -/

namespace Chain

/-- Goes on with the payload that steps left, unless one of them failed. -/
def andThen (next : π → Run (Entry π ν) (π × Except ChainError Unit)) :
    π × Except ChainError Unit → Run (Entry π ν) (π × Except ChainError Unit)
  | (left, .error e) => pure (left, .error e)
  | (left, .ok ()) => next left

/-- Steps in two parts. The induction is on the first one: it ends at a panic of a guard, at an
operation that fails, or when the first part has no more steps. -/
theorem executeFrom_append (host : Host π ν) (side : Side) (ctx : Context) (position : Nat)
    (xs ys : List (Step π ν)) (payload : π) :
    executeFrom host side ctx position (xs ++ ys) payload =
      executeFrom host side ctx position xs payload >>=
        andThen (executeFrom host side ctx (position + xs.length) ys) := by
  induction xs generalizing position payload with
  | nil =>
    rw [List.nil_append, executeFrom, pure_bind]
    rfl
  | cons step rest ih =>
    have reached : position + (step :: rest).length = position + 1 + rest.length := by
      rw [List.length_cons]
      omega
    rw [List.cons_append, executeFrom, executeFrom, bind_assoc, reached]
    refine bind_congr fun verdict => ?_
    cases verdict with
    | error panic =>
      rw [pure_bind]
      rfl
    | ok runs =>
      cases runs with
      | false => exact ih _ _
      | true =>
        rw [bind_assoc]
        refine bind_congr ?_
        rintro ⟨left, result⟩
        cases result with
        | error e =>
          rw [pure_bind]
          rfl
        | ok => exact ih _ _

theorem retold_executeFrom (host : Host π ν) (k : Nat) (side : Side) (ctx : Context)
    (position : Nat) (steps : List (Step π ν)) (payload : π) :
    Run.Retold host true (k + ·) (Chain.renumber (k + ·))
      (executeFrom host side ctx position steps payload)
      (executeFrom host side ctx (k + position) steps payload) := by
  induction steps generalizing position payload with
  | nil => exact .pure _
  | cons step rest ih =>
    refine (Step.retold_consult (k + ·) side position step ctx payload).bind fun verdict => ?_
    cases verdict with
    | error panic => exact .pure _
    | ok runs =>
      cases runs with
      | false => exact ih _ _
      | true =>
        refine (Step.retold_operate (k + ·) side position step ctx payload).bind ?_
        rintro ⟨left, result⟩
        cases result with
        | error e => exact .pure _
        | ok => exact ih _ _

/-- What it means that running a chain is running two parts of it one after the other. -/
structure Joins (host : Host π ν) (side : Side) (ctx : Context) (xs ys : List (Step π ν))
    (payload : π) : Prop where
  /-- The steps of the second part are run on the payload that the first part left, if it did not
  fail. Their positions are counted from the start of the whole chain. -/
  parts : (Chain.mk (xs ++ ys)).execute host side ctx payload =
    (Chain.mk xs).execute host side ctx payload >>=
      andThen (executeFrom host side ctx xs.length ys)
  /-- Run on its own, the second part does the same, and it reports the same but for the positions:
  these are smaller by the length of the first part, skipped steps counted. -/
  displaced : ∀ left, Run.Retold host true (xs.length + ·) (Chain.renumber (xs.length + ·))
    ((Chain.mk ys).execute host side ctx left)
    (executeFrom host side ctx xs.length ys left)
  /-- So the whole chain calls the same callbacks as its parts, and comes to the same. A failure in
  the second part has its position increased by the length of the first part. -/
  traced : ((Chain.mk (xs ++ ys)).execute host side ctx payload).Matches
    ((Chain.mk xs).execute host side ctx payload >>= andThen fun left =>
      Chain.renumber (xs.length + ·) <$> (Chain.mk ys).execute host side ctx left)
  /-- Where the first part fails, the whole chain does nothing else. -/
  fails : ∀ n ran e, (Chain.mk xs).execute host side ctx payload n = some ran →
    ran.value.2 = .error e → (Chain.mk (xs ++ ys)).execute host side ctx payload n = some ran

theorem joins (host : Host π ν) (side : Side) (ctx : Context) (xs ys : List (Step π ν))
    (payload : π) : Joins host side ctx xs ys payload := by
  have parts : (Chain.mk (xs ++ ys)).execute host side ctx payload =
      (Chain.mk xs).execute host side ctx payload >>=
        andThen (executeFrom host side ctx xs.length ys) := by
    have append := executeFrom_append host side ctx 0 xs ys payload
    rwa [Nat.zero_add] at append
  have displaced (left : π) := retold_executeFrom host xs.length side ctx 0 ys left
  refine ⟨parts, displaced, ?_, fun n ran e h failed => ?_⟩
  · rw [parts]
    refine (Run.Matches.refl _).bind ?_
    rintro ⟨left, result⟩
    cases result with
    | error e => exact .refl _
    | ok => exact (displaced left).matches.symm
  · rw [parts]
    refine Run.bind_apply_of_idle h ?_
    obtain ⟨⟨left, result⟩, next, log⟩ := ran
    obtain rfl : result = .error e := failed
    rfl

end Chain

/-! ## Error handlers -/

namespace Recovery

/-- Goes on with the payload and the context that handlers left, unless one of them failed. -/
def andThen (next : Context → π → Run (Entry π ν) (Recovered π)) :
    Recovered π → Run (Entry π ν) (Recovered π)
  | ⟨left, reported, .error e⟩ => pure ⟨left, reported, .error e⟩
  | ⟨left, reported, .ok ()⟩ => next reported left

/-- Handlers in two parts; both are told the same cause. -/
theorem executeFrom_append (host : Host π ν) (cause : ChainError) (position : Nat)
    (xs ys : List (Handler π ν)) (ctx : Context) (payload : π) :
    executeFrom host cause position (xs ++ ys) ctx payload =
      executeFrom host cause position xs ctx payload >>=
        andThen (executeFrom host cause (position + xs.length) ys) := by
  induction xs generalizing position ctx payload with
  | nil =>
    rw [List.nil_append, executeFrom, pure_bind]
    rfl
  | cons handler rest ih =>
    have reached : position + (handler :: rest).length = position + 1 + rest.length := by
      rw [List.length_cons]
      omega
    rw [List.cons_append, executeFrom, executeFrom, bind_assoc, reached]
    refine bind_congr ?_
    rintro ⟨left, reported, result⟩
    cases result with
    | error e =>
      rw [pure_bind]
      rfl
    | ok => exact ih _ _ _

theorem retold_executeFrom (host : Host π ν) (k : Nat) (cause : ChainError) (position : Nat)
    (handlers : List (Handler π ν)) (ctx : Context) (payload : π) :
    Run.Retold host true (k + ·) (Recovered.renumber (k + ·))
      (executeFrom host cause position handlers ctx payload)
      (executeFrom host cause (k + position) handlers ctx payload) := by
  induction handlers generalizing position ctx payload with
  | nil => exact .pure _
  | cons handler rest ih =>
    refine (Handler.retold_handle (k + ·) cause position handler ctx payload).bind ?_
    rintro ⟨left, reported, result⟩
    cases result with
    | error e => exact .pure _
    | ok => exact ih _ _ _

/-- What it means that running error handlers is running two parts of them one after the other. -/
structure Joins (host : Host π ν) (cause : ChainError) (xs ys : List (Handler π ν)) (ctx : Context)
    (payload : π) : Prop where
  /-- The handlers of the second part are run on the payload and the context that the first part
  left, if it did not fail, and they are told the same cause. Their positions are counted from the
  first handler of all. -/
  parts : (Recovery.mk (xs ++ ys)).execute host cause ctx payload =
    (Recovery.mk xs).execute host cause ctx payload >>=
      andThen (executeFrom host cause xs.length ys)
  /-- Run on its own, the second part does the same, and it reports the same but for the
  positions. -/
  displaced : ∀ reported left, Run.Retold host true (xs.length + ·)
    (Recovered.renumber (xs.length + ·)) ((Recovery.mk ys).execute host cause reported left)
    (executeFrom host cause xs.length ys reported left)
  /-- So all handlers together call the same callbacks as the two parts, and come to the same. A
  failure in the second part has its position increased by the length of the first part. -/
  traced : ((Recovery.mk (xs ++ ys)).execute host cause ctx payload).Matches
    ((Recovery.mk xs).execute host cause ctx payload >>= andThen fun reported left =>
      Recovered.renumber (xs.length + ·) <$>
        (Recovery.mk ys).execute host cause reported left)
  /-- Where the first part fails, nothing else is done. -/
  fails : ∀ n ran e, (Recovery.mk xs).execute host cause ctx payload n = some ran →
    ran.value.result = .error e →
      (Recovery.mk (xs ++ ys)).execute host cause ctx payload n = some ran

theorem joins (host : Host π ν) (cause : ChainError) (xs ys : List (Handler π ν)) (ctx : Context)
    (payload : π) : Joins host cause xs ys ctx payload := by
  have parts : (Recovery.mk (xs ++ ys)).execute host cause ctx payload =
      (Recovery.mk xs).execute host cause ctx payload >>=
        andThen (executeFrom host cause xs.length ys) := by
    have append := executeFrom_append host cause 0 xs ys ctx payload
    rwa [Nat.zero_add] at append
  have displaced (reported : Context) (left : π) :=
    retold_executeFrom host xs.length cause 0 ys reported left
  refine ⟨parts, displaced, ?_, fun n ran e h failed => ?_⟩
  · rw [parts]
    refine (Run.Matches.refl _).bind ?_
    rintro ⟨left, reported, result⟩
    cases result with
    | error e => exact .refl _
    | ok => exact (displaced reported left).matches.symm
  · rw [parts]
    refine Run.bind_apply_of_idle h ?_
    obtain ⟨⟨left, reported, result⟩, next, log⟩ := ran
    obtain rfl : result = .error e := failed
    rfl

end Recovery

/-! ## States that grow -/

namespace Node

/-- Whether the lists of a state only grow at their ends. -/
structure Grows (node node' : Node π ν) : Prop where
  entry : node.entry.steps <+: node'.entry.steps
  exit : node.exit.steps <+: node'.exit.steps
  recovery : node.recovery.handlers <+: node'.recovery.handlers

/-- Whether every list of a state that fails goes on to fail in the same way: on every host, with the
same callbacks, the same reports and the same result. -/
structure KeepsFailures (node node' : Node π ν) : Prop where
  entry : ∀ host ctx payload n ran e, node.entry.execute host .entry ctx payload n = some ran →
    ran.value.2 = .error e → node'.entry.execute host .entry ctx payload n = some ran
  exit : ∀ host ctx payload n ran e, node.exit.execute host .exit ctx payload n = some ran →
    ran.value.2 = .error e → node'.exit.execute host .exit ctx payload n = some ran
  recovery : ∀ host cause ctx payload n ran e,
    node.recovery.execute host cause ctx payload n = some ran → ran.value.result = .error e →
      node'.recovery.execute host cause ctx payload n = some ran

variable {node node' : Node π ν} {clause : Clause π ν}

theorem Grows.refl (node : Node π ν) : node.Grows node :=
  ⟨List.prefix_refl _, List.prefix_refl _, List.prefix_refl _⟩

theorem Grows.trans {node'' : Node π ν} (h : node.Grows node') (h' : node'.Grows node'') :
    node.Grows node'' :=
  ⟨h.entry.trans h'.entry, h.exit.trans h'.exit, h.recovery.trans h'.recovery⟩

theorem grows_extend (h : node.extend clause = .ok node') : node.Grows node' := by
  have permitted {edge : Edge π ν} (h : node.permit edge = .ok node') : node.Grows node' := by
    obtain ⟨-, rfl⟩ := permit_eq_ok h
    exact ⟨List.prefix_refl _, List.prefix_refl _, List.prefix_refl _⟩
  cases clause with
  | permit trigger destination guard => exact permitted h
  | permitIf trigger destination code => exact permitted h
  | onEntry trigger label operation =>
    obtain rfl := Except.ok.inj h
    exact { Grows.refl node with entry := List.prefix_append _ _ }
  | onExit trigger label operation =>
    obtain rfl := Except.ok.inj h
    exact { Grows.refl node with exit := List.prefix_append _ _ }
  | onError label operation =>
    obtain rfl := Except.ok.inj h
    exact { Grows.refl node with recovery := List.prefix_append _ _ }

theorem Grows.keepsFailures (h : node.Grows node') : node.KeepsFailures node' := by
  obtain ⟨state, caption, edges, index, ⟨entry⟩, ⟨exit⟩, ⟨recovery⟩⟩ := node
  obtain ⟨state', caption', edges', index', ⟨entry'⟩, ⟨exit'⟩, ⟨recovery'⟩⟩ := node'
  obtain ⟨⟨more, rfl⟩, ⟨more', rfl⟩, more'', rfl⟩ := h
  exact ⟨fun host ctx payload => (Chain.joins host .entry ctx entry more payload).fails,
    fun host ctx payload => (Chain.joins host .exit ctx exit more' payload).fails,
    fun host cause ctx payload => (Recovery.joins host cause recovery more'' ctx payload).fails⟩

end Node

namespace Definition

variable {d : Definition π ν} {state : State} {node : Node π ν}

theorem build_append (declarations further : List (Declaration π ν)) :
    build (declarations ++ further) = (build declarations).extend further :=
  List.foldl_append

theorem grows_extend (sound : d.Sound) (stands : d.node? state = some node)
    (declarations : List (Declaration π ν)) :
    ∃ node', (d.extend declarations).node? state = some node' ∧ node.Grows node' := by
  obtain ⟨node', stands', folded⟩ := node?_extend sound stands declarations
  refine ⟨node', stands', Node.foldlM_keeps (p := node.Grows) ?_ (.refl node) folded⟩
  exact fun _ _ _ _ grows h => grows.trans (Node.grows_extend h)

end Definition

/-! ## Composition -/

/-- Lists of callbacks compose: steps and error handlers may be cut in two anywhere. So what is added
behind a list does not change a run in which it fails. And a state that is reopened for callbacks is
left as if all had been declared at once, whatever else was declared in between; if nothing was, this
is so for all clauses. -/
theorem lists_compose (declarations : List (Declaration π ν)) :
    (∀ (host : Host π ν) side ctx xs ys payload, Chain.Joins host side ctx xs ys payload) ∧
    (∀ (host : Host π ν) cause xs ys ctx payload, Recovery.Joins host cause xs ys ctx payload) ∧
    (∀ further state node, (Definition.build declarations).node? state = some node →
      ∃ node', (Definition.build (declarations ++ further)).node? state = some node' ∧
        node.Grows node' ∧ node.KeepsFailures node') ∧
    ∀ x state position count,
      ((Definition.build declarations).declare x).2 = .state position state count →
      (∀ callbacks between, (∀ clause ∈ callbacks, clause.part ≠ .edges) →
        (∀ y ∈ between, y.SparesCallbacks state) →
        Definition.build (declarations ++ (x :: between ++ [.reopen state callbacks])) =
          Definition.build (declarations ++ x.append callbacks :: between)) ∧
      ∀ clauses, Definition.build (declarations ++ [x, .reopen state clauses]) =
        Definition.build (declarations ++ [x.append clauses]) := by
  have sound := Definition.sound_build declarations
  refine ⟨Chain.joins, Recovery.joins, fun further state node stands => ?_,
    fun x state position count all => ⟨fun callbacks between only spares => ?_, fun clauses => ?_⟩⟩
  · obtain ⟨node', stands', grows⟩ := Definition.grows_extend sound stands further
    rw [Definition.build_append]
    exact ⟨node', stands', grows, grows.keepsFailures⟩
  · rw [Definition.build_append, Definition.build_append]
    exact Definition.extend_reopen_later only sound all spares
  · rw [Definition.build_append, Definition.build_append]
    exact Definition.extend_reopen all clauses

/-! ### Lists to look at -/

/-- A scale that is reopened twice, for a trigger that leads to the depot and for another step. -/
def scale : List (Declaration Subject Remark) := [
  .configure ⟨"scale"⟩ .plain [.onEntry none none (Script.operation (.act .enter .done))],
  .configure ⟨"depot"⟩ .plain [],
  .reopen ⟨"scale"⟩ [.permit ⟨"store"⟩ ⟨"depot"⟩ none],
  .reopen ⟨"scale"⟩ [.onEntry (some ⟨"ship"⟩) none (Script.operation .done)]]

/-- The same scale, with its steps declared at once. -/
def scaleAtOnce : List (Declaration Subject Remark) := [
  .configure ⟨"scale"⟩ .plain [.onEntry none none (Script.operation (.act .enter .done)),
    .onEntry (some ⟨"ship"⟩) none (Script.operation .done)],
  .configure ⟨"depot"⟩ .plain [],
  .reopen ⟨"scale"⟩ [.permit ⟨"store"⟩ ⟨"depot"⟩ none]]

/-- A crate is packed in two parts. The second step is skipped, and the first step of the second part
fails: it is the third of all. The two scales are the same. -/
theorem packing_composes :
    Chain.Joins .absent .alone Chain.shipment (Chain.packing.steps.take 2)
        (Chain.packing.steps.drop 2) Chain.crate ∧
      ((Chain.mk (Chain.packing.steps.drop 2)).execute .absent .alone Chain.shipment
        Chain.crate 0).map (fun r => r.value.2) =
          some (.error (.operation 0 "label" (.plain "no ink"))) ∧
      (Chain.packing.execute .absent .alone Chain.shipment Chain.crate 0).map
        (fun r => r.value.2) = some (.error (.operation 2 "label" (.plain "no ink"))) ∧
      Definition.build scale = Definition.build scaleAtOnce := by
  obtain ⟨chains, -, -, reopened⟩ := lists_compose (π := Subject) (ν := Remark) []
  have all : ((Definition.build []).declare (.configure ⟨"scale"⟩ .plain
      [.onEntry none none (Script.operation (.act .enter .done))] :
        Declaration Subject Remark)).2 = .state 0 ⟨"scale"⟩ 1 := by decide +kernel
  refine ⟨chains .absent .alone Chain.shipment _ _ Chain.crate, by decide +kernel,
    by decide +kernel, ?_⟩
  refine (reopened _ _ _ _ all).1 [.onEntry (some ⟨"ship"⟩) none (Script.operation .done)]
    [.configure ⟨"depot"⟩ .plain [], .reopen ⟨"scale"⟩ [.permit ⟨"store"⟩ ⟨"depot"⟩ none]] ?_ ?_
  · exact List.forall_mem_singleton.2 Part.noConfusion
  · exact List.forall_mem_cons.2 ⟨fun _ _ mem => (nomatch mem),
      List.forall_mem_singleton.2 fun _ => List.forall_mem_singleton.2 rfl⟩

end StateMachine
