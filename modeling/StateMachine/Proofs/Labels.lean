import Mathlib.Data.List.DropRight
import StateMachine.Proofs.BuildOrder
import StateMachine.Proofs.Causes
import StateMachine.Proofs.EventLog
import StateMachine.Proofs.Scoping

/-!
# Labels

A callback that was given no label gets one that ends with the number of callbacks registered before
it. Callbacks are added at the end of their list only, so that number goes on to be the position of
the callback, and the position is what errors tell. The names in a label may have any characters:
the number is what follows the last '#'.

* `labelNumber?`: the number at the end of a label; `labelNumber?_append` finds it.
* `Registration`, `registrations`: how the callbacks of one list of a state were declared.
* `Definition.callbacks_build`: the callbacks of a list and their labels, from what was declared.
* `Node.Labelled`: what labels tell of the callbacks that bear them.
* `ChainError.Names`: an error names the callback that it is due to, by its position and its label.
  `Chain.Passes.names`, `Recovery.Handles.names`: the errors of lists do.
* `Attributed`, `Machine.Course.attributed`: so do all errors that the events of a fire tell of.
* `Machine.labels_identify`: the errors that a fire makes known tell which callback they are due to,
  and its position can be read off its label unless another label was given.
-/

namespace StateMachine

variable {π ν : Type} {host : Host π ν}

/-! ## Numbers in labels -/

/-- The decimal number that follows the last '#' of a label. -/
def labelNumber? (label : String) : Option Nat :=
  let digits := label.toList.rtakeWhile (· != '#')
  if label.toList.contains '#' && !digits.isEmpty && digits.all Char.isDigit then
    some (Nat.ofDigitChars 10 digits 0)
  else none

/-- Whatever stands in front of the last '#', the number is read behind it. -/
theorem labelNumber?_append (front : String) (n : Nat) :
    labelNumber? (front ++ "#" ++ toString n) = some n := by
  have isDigit : ∀ c ∈ Nat.toDigits 10 n, c.isDigit = true :=
    fun c mem => Nat.isDigit_of_mem_toDigits (by decide) (Nat.le_refl 10) mem
  have chars : (front ++ "#" ++ toString n).toList = front.toList ++ '#' :: Nat.toDigits 10 n := by
    simp
  -- no digit is a '#', so all of them are passed from the end
  have passed : ∀ c ∈ (Nat.toDigits 10 n).reverse, (c != '#') = true := by
    intro c mem
    refine bne_iff_ne.2 fun same => ?_
    exact absurd (isDigit c (List.mem_reverse.1 mem)) (same ▸ by decide)
  have digits : (front.toList ++ '#' :: Nat.toDigits 10 n).rtakeWhile (· != '#') =
      Nat.toDigits 10 n := by
    rw [List.rtakeWhile, List.reverse_append, List.reverse_cons, List.append_assoc,
      List.takeWhile_append_of_pos passed]
    simp
  have checked : ((front.toList ++ '#' :: Nat.toDigits 10 n).contains '#' &&
      !(Nat.toDigits 10 n).isEmpty && (Nat.toDigits 10 n).all Char.isDigit) = true := by
    simpa [Nat.toDigits_ne_nil] using isDigit
  rw [labelNumber?, chars]
  simp only [digits]
  rw [if_pos checked, Nat.ofDigitChars_ten_toDigits]

/-! ## Registrations -/

/-- A callback of a state. Handlers are told the cause as well. -/
inductive Callback (π ν : Type) where
  | step (operation : π → Context → Code π ν)
  | handler (operation : π → Context → ChainError → Code π ν)

/-- How a callback was declared: in which words, for which trigger if for one only, and under which
label if it was given one. -/
structure Registration (π ν : Type) where
  kind : String
  trigger : Option Trigger
  label : Option String
  callback : Callback π ν

/-- How a clause declares a callback, if it declares one. -/
def Clause.registration? : Clause π ν → Option (Registration π ν)
  | onEntry trigger label operation => some ⟨"on_entry", trigger, label, .step operation⟩
  | onExit trigger label operation => some ⟨"on_exit", trigger, label, .step operation⟩
  | onError label operation => some ⟨"on_error", none, label, .handler operation⟩
  | permit .. => none
  | permitIf .. => none

/-- How clauses declare the callbacks of one list. -/
def registrations (part : Part) (clauses : List (Clause π ν)) : List (Registration π ν) :=
  (clauses.filter fun clause => clause.part = part).filterMap Clause.registration?

namespace Registration

/-- The label of a callback that was given none: its state, its kind, its trigger if it is for one,
and its position. -/
def defaultLabel (r : Registration π ν) (state : State) (position : Nat) : String :=
  state.name ++ "." ++ r.kind ++ (r.trigger.elim "" fun t => "[" ++ t.name ++ "]") ++ "#" ++
    toString position

/-- The label of a callback. -/
def labelAt (r : Registration π ν) (state : State) (position : Nat) : String :=
  r.label.getD (r.defaultLabel state position)

/-- What is registered: the callback under its label. -/
def placedAt (r : Registration π ν) (state : State) (position : Nat) : String × Callback π ν :=
  (r.labelAt state position, r.callback)

theorem labelNumber?_defaultLabel (r : Registration π ν) (state : State) (position : Nat) :
    labelNumber? (r.defaultLabel state position) = some position :=
  labelNumber?_append _ _

end Registration

namespace Node

/-- The labels of one list of a state. -/
def labels (node : Node π ν) : Part → List String
  | .edges => []
  | .entry => node.entry.labels
  | .exit => node.exit.labels
  | .recovery => node.recovery.labels

/-- The callbacks of one list of a state, each under its label. -/
def callbacks (node : Node π ν) : Part → List (String × Callback π ν)
  | .edges => []
  | .entry => node.entry.steps.map fun step => (step.label, .step step.operation)
  | .exit => node.exit.steps.map fun step => (step.label, .step step.operation)
  | .recovery => node.recovery.handlers.map fun h => (h.label, .handler h.operation)

variable {node node' : Node π ν} {clause : Clause π ν} {clauses : List (Clause π ν)}

theorem map_fst_callbacks (node : Node π ν) (part : Part) :
    (node.callbacks part).map Prod.fst = node.labels part := by
  cases part with
  | edges => rfl
  | entry => exact List.map_map
  | exit => exact List.map_map
  | recovery => exact List.map_map

theorem defaultLabel_eq (node : Node π ν) (kind : String) (trigger : Option Trigger)
    (label : Option String) (callback : Callback π ν) (position : Nat) :
    node.defaultLabel (stepKind kind trigger) position =
      (Registration.mk kind trigger label callback).defaultLabel node.state position := by
  rw [← String.toList_inj]
  cases trigger <;> simp [defaultLabel, stepKind, Registration.defaultLabel, toString]

theorem label_step (node : Node π ν) (kind : String) (position : Nat) (trigger : Option Trigger)
    (label : Option String) (operation : π → Context → Code π ν) :
    (node.step kind position trigger label operation).label =
      (Registration.mk kind trigger label (.step operation)).labelAt node.state position :=
  congrArg label.getD (node.defaultLabel_eq kind trigger label _ position)

theorem label_handler (node : Node π ν) (position : Nat) (label : Option String)
    (operation : π → Context → ChainError → Code π ν) :
    label.getD (node.defaultLabel "on_error" position) =
      (Registration.mk "on_error" none label (.handler operation)).labelAt node.state position :=
  congrArg label.getD (node.defaultLabel_eq "on_error" none label _ position)

/-- A clause that declares a callback adds it to the end of one list, and other clauses add none. -/
theorem callbacks_extend (h : node.extend clause = .ok node') (part : Part) :
    node'.callbacks part = node.callbacks part ++
      ((registrations part [clause]).zipIdx (node.callbacks part).length).map fun r =>
        r.1.placedAt node.state r.2 := by
  have permitted {edge : Edge π ν} (h : node.permit edge = .ok node') :
      node'.callbacks part = node.callbacks part := by
    obtain ⟨-, rfl⟩ := permit_eq_ok h
    cases part <;> rfl
  cases clause with
  | permit trigger destination guard =>
    rw [permitted h]
    cases part <;> simp [registrations, Clause.part, Clause.registration?]
  | permitIf trigger destination code =>
    rw [permitted h]
    cases part <;> simp [registrations, Clause.part, Clause.registration?]
  | onEntry trigger label operation =>
    obtain rfl := Except.ok.inj h
    cases part <;>
      simp [registrations, Clause.part, Clause.registration?, callbacks, Registration.placedAt,
        label_step, Chain.length]
    rfl
  | onExit trigger label operation =>
    obtain rfl := Except.ok.inj h
    cases part <;>
      simp [registrations, Clause.part, Clause.registration?, callbacks, Registration.placedAt,
        label_step, Chain.length]
    rfl
  | onError label operation =>
    obtain rfl := Except.ok.inj h
    cases part <;>
      simp [registrations, Clause.part, Clause.registration?, callbacks, Registration.placedAt,
        label_handler node _ label operation, Recovery.length]

/-- The callbacks of a list come in the order of their declaration, each under the label that it
was given or that tells the position that it had then. -/
theorem callbacks_foldlM (h : clauses.foldlM extend node = .ok node') (part : Part) :
    node'.callbacks part = node.callbacks part ++
      ((registrations part clauses).zipIdx (node.callbacks part).length).map fun r =>
        r.1.placedAt node.state r.2 := by
  induction clauses generalizing node with
  | nil =>
    obtain rfl := Except.ok.inj h
    exact (List.append_nil _).symm
  | cons clause rest ih =>
    obtain ⟨extended, hext, more⟩ := foldlM_cons_eq_ok_iff.1 h
    have split : registrations part (clause :: rest) =
        registrations part [clause] ++ registrations part rest := by
      rw [registrations, ← List.singleton_append, List.filter_append, List.filterMap_append]
      rfl
    rw [ih more, callbacks_extend hext part, state_extend hext, split, List.zipIdx_append,
      List.map_append, List.append_assoc]
    simp

end Node

namespace Definition

variable {d : Definition π ν} {state : State} {node : Node π ν}

theorem node?_declare_of_missing (sound : d.Sound) (missing : d.node? state = none)
    (x : Declaration π ν) :
    (d.declare x).1.node? state = none ∧
        clausesFor state ((d.declare x).2.added?.elim [] x.accepted) = [] ∨
      ∃ caption node, (d.declare x).1.node? state = some node ∧
        (clausesFor state ((d.declare x).2.added?.elim [] x.accepted)).foldlM Node.extend
          (.bare state caption) = .ok node := by
  by_cases here : x.address = some state
  · cases x with
    | configure s caption clauses =>
      obtain rfl := Option.some.inj here
      have new : d.contains s = false := sound.node?_eq_none_iff.1 missing
      have stands : (d.addState s caption).node? s = some (.bare s caption) := by
        rw [node?_addState sound, if_pos rfl]
      obtain ⟨k, node, hk, left, folded⟩ := node?_addClauses (sound.addState new caption)
        (d.position?_addState s caption) stands 0 clauses
      rw [declare, if_neg (Bool.eq_false_iff.1 new), hk, Nat.zero_add]
      refine .inr ⟨caption, node, left, ?_⟩
      rw [Option.elim_some, Declaration.accepted, clausesFor_same]
      exact folded
    | reopen s clauses =>
      obtain rfl := Option.some.inj here
      rw [declare, (position?_eq_none_iff sound).2 missing]
      exact .inl ⟨missing, rfl⟩
    | effect filter label callback => cases here
  · exact .inl ⟨(node?_declare_of_ne sound here).trans missing, clausesFor_accepted_of_ne here _⟩

/-- A state that declarations configure is made of the clauses that were added to it. -/
theorem foldlM_extend (sound : d.Sound) (missing : d.node? state = none)
    {declarations : List (Declaration π ν)}
    (stands : (d.extend declarations).node? state = some node) :
    ∃ caption, (clausesFor state (d.accepted declarations)).foldlM Node.extend
      (.bare state caption) = .ok node := by
  induction declarations generalizing d with
  | nil => exact nomatch missing.symm.trans stands
  | cons x rest ih =>
    rw [clausesFor_accepted_cons]
    rcases node?_declare_of_missing sound missing x with
      ⟨missing', none⟩ | ⟨caption, node', stands', folded⟩
    · rw [none]
      exact ih (sound.declare x) missing' stands
    · obtain ⟨node'', stands'', folded'⟩ := node?_extend (sound.declare x) stands' rest
      obtain rfl := Option.some.inj (stands''.symm.trans stands)
      refine ⟨caption, ?_⟩
      rw [List.foldlM_append, folded]
      exact folded'

/-- The callbacks of a list of a state, each at the position that its label tells if it was given
none. -/
theorem callbacks_build {declarations : List (Declaration π ν)}
    (stands : (build declarations).node? state = some node) (part : Part) :
    node.state = state ∧ node.callbacks part =
      (registrations part (clausesFor state (empty.accepted declarations))).zipIdx.map
        fun r => r.1.placedAt state r.2 := by
  obtain ⟨caption, folded⟩ := foldlM_extend sound_empty rfl stands
  have same := Node.state_foldlM folded
  have callbacks := Node.callbacks_foldlM folded part
  refine ⟨same, callbacks.trans ?_⟩
  cases part <;> rfl

end Definition

/-! ## What labels tell -/

/-- What the labels of a list tell of its callbacks, if these were declared in the given ways. -/
structure Node.Labelled (node : Node π ν) (part : Part) (rs : List (Registration π ν)) : Prop where
  /-- There is a callback for every registration, in the same order. -/
  callbacks : (node.callbacks part).map Prod.snd = rs.map Registration.callback
  /-- There is a label for every callback. -/
  length : (node.labels part).length = rs.length
  /-- A callback that was given a label bears it. -/
  given : ∀ (position : Nat) (r : Registration π ν) label, rs[position]? = some r →
    r.label = some label → (node.labels part)[position]? = some label
  /-- A callback that was given none bears one that tells its state, its kind, its trigger and its
  position in the list. -/
  default : ∀ (position : Nat) (r : Registration π ν), rs[position]? = some r → r.label = none →
    (node.labels part)[position]? = some (r.defaultLabel node.state position)
  /-- The position can be read off it. -/
  numbered : ∀ (position : Nat) (r : Registration π ν), rs[position]? = some r → r.label = none →
    ∃ label, (node.labels part)[position]? = some label ∧ labelNumber? label = some position
  /-- So no two callbacks without labels of their own bear the same. -/
  distinct : ∀ (i j : Nat) (r r' : Registration π ν), rs[i]? = some r → r.label = none →
    rs[j]? = some r' → r'.label = none → (node.labels part)[i]? = (node.labels part)[j]? → i = j

theorem Node.labelled_of_eq {node : Node π ν} {part : Part} {rs : List (Registration π ν)}
    (h : node.callbacks part = rs.zipIdx.map fun r => r.1.placedAt node.state r.2) :
    node.Labelled part rs := by
  have labels : node.labels part = rs.zipIdx.map fun r => r.1.labelAt node.state r.2 := by
    rw [← map_fst_callbacks, h, List.map_map]
    rfl
  have label {position : Nat} {r : Registration π ν} (stands : rs[position]? = some r) :
      (node.labels part)[position]? = some (r.labelAt node.state position) := by
    rw [labels, List.getElem?_map, List.getElem?_zipIdx, stands]
    simp
  have default {position : Nat} {r : Registration π ν} (stands : rs[position]? = some r)
      (none : r.label = none) :
      (node.labels part)[position]? = some (r.defaultLabel node.state position) := by
    rw [label stands, Registration.labelAt, none, Option.getD_none]
  refine ⟨?_, by simp [labels], fun position r l stands some => ?_, fun _ _ => default,
    fun position r stands none => ⟨_, default stands none, r.labelNumber?_defaultLabel _ _⟩, ?_⟩
  · calc (node.callbacks part).map Prod.snd
        = rs.zipIdx.map (Registration.callback ∘ Prod.fst) := by
          rw [h, List.map_map]
          rfl
      _ = rs.map Registration.callback := by rw [← List.map_map, List.zipIdx_map_fst]
  · rw [label stands, Registration.labelAt, some, Option.getD_some]
  · intro i j r r' stands none stands' none' same
    rw [default stands none, default stands' none'] at same
    have number := congrArg labelNumber? (Option.some.inj same)
    rw [r.labelNumber?_defaultLabel, r'.labelNumber?_defaultLabel] at number
    exact Option.some.inj number

/-! ## Errors and labels -/

/-- The side on which a list of steps is run. -/
def Part.side? : Part → Option Side
  | .entry => some .entry
  | .exit => some .exit
  | _ => none

/-- Whether a turn is one of a callback that is called in a list under a label. -/
inductive Callback.Takes (label : String) (part : Part) : Callback π ν → Turn host → Prop
  | step {operation side ctx payload t} (runs : part.side? = some side)
      (of : t.Of ⟨.operation side, label, ctx, payload⟩ (operation payload ctx)) :
      Takes label part (.step operation) t
  | handler {operation cause ctx payload t} (runs : part = .recovery)
      (of : t.Of ⟨.handler cause, label, ctx, payload⟩ (operation payload ctx cause)) :
      Takes label part (.handler operation) t

/-- The label of the callback that stopped its list. -/
def ChainError.label : ChainError → String
  | operation _ label _ => label
  | handler _ label _ => label
  | panic e => e.label

/-- An error names the callback of a list that it is due to: in the given turn, the callback at its
position was called under its label and made the error. -/
structure ChainError.Names (e : ChainError) (node : Node π ν) (part : Part) (t : Turn host) :
    Prop where
  made : t.visit.error? e.step = some e
  called : ∃ callback, (node.callbacks part)[e.step]? = some (e.label, callback) ∧
    callback.Takes e.label part t

section Lists

variable {ctx : Context} {payload left : π} {hs : List (Happening host)} {e : ChainError}

theorem Step.Stopped.names {side : Side} {position : Nat} {step : Step π ν} (hstep : step.Scoped)
    (h : step.Stopped host side position ctx payload hs left e) :
    e.step = position ∧ e.label = step.label ∧ ∃ t ∈ turns hs,
      t.visit.error? position = some e ∧
        t.Of ⟨.operation side, step.label, ctx, payload⟩ (step.operation payload ctx) := by
  cases h with
  | guardPanicked some panicked =>
    obtain ⟨t, rfl⟩ := hstep _ some
    cases panicked
  | failed t _ of fail =>
    refine ⟨rfl, rfl, t, mem_turns.2 (by simp), ?_, of⟩
    simp [Visit.error?, of.1, fail]
  | panicked t _ of panic =>
    refine ⟨rfl, rfl, t, mem_turns.2 (by simp), ?_, of⟩
    simp [Visit.error?, of.1, panic]

theorem Chain.Passes.names {side : Side} {chain : Chain π ν} (hchain : chain.Scoped)
    (h : Chain.Passes host side ctx 0 chain.steps payload hs (left, .error e)) {node : Node π ν}
    {part : Part}
    (list : node.callbacks part = chain.steps.map fun step => (step.label, .step step.operation))
    (runs : part.side? = some side) : ∃ t ∈ turns hs, e.Names node part t := by
  obtain ⟨k, stops⟩ := h.stopsAt (List.nil_append _).symm rfl .start
  cases stops with
  | @failed _ hs given step hs' _ _ past stands stopped =>
    obtain ⟨rfl, label, t, mem, made, of⟩ :=
      stopped.names (hchain step (List.mem_of_getElem? stands))
    refine ⟨t, by simp [mem], made, .step step.operation, ?_, label ▸ .step runs of⟩
    rw [list, List.getElem?_map, stands, label]
    rfl

theorem Attempt.Fails.made {a : Attempt host} {position : Nat} {cause : ChainError}
    (h : a.Fails position a.turn.settled.context e) (role : a.turn.call.role = .handler cause) :
    e.step = position ∧ e.label = a.turn.call.label ∧ a.turn.visit.error? position = some e := by
  cases h with
  | returned fail =>
    have fail : a.turn.settled.verdict = .fail _ := fail
    exact ⟨rfl, rfl, by simp [Visit.error?, Turn.visit, role, fail]⟩
  | panicked panic =>
    have panic : a.turn.settled.verdict = .panic _ := panic
    exact ⟨rfl, rfl, by simp [Visit.error?, Turn.visit, role, panic]⟩

theorem Recovery.Handles.names {cause : ChainError} {node : Node π ν} {out : Recovered π}
    (h : Recovery.Handles host cause 0 node.recovery.handlers ctx payload hs out)
    (failed : out.result = .error e) : ∃ t ∈ turns hs, e.Names node .recovery t := by
  obtain ⟨as, hturns, deals⟩ := h.deals (List.nil_append _).symm rfl .start rfl rfl rfl
  rw [List.nil_append] at deals
  obtain ⟨before, a, rfl, fails⟩ := deals.fails e failed
  obtain ⟨handler, stands, of⟩ := deals.called before a (List.prefix_refl _)
  rw [Context.movedBy_concat (congrArg Call.context of.1)] at fails
  obtain ⟨step, label, made⟩ := fails.made (congrArg Call.role of.1)
  have label : e.label = handler.label := label.trans (congrArg Call.label of.1)
  refine ⟨a.turn, by simp [hturns], step ▸ made, .handler handler.operation, ?_,
    label ▸ .handler rfl of⟩
  rw [Node.callbacks, List.getElem?_map, step, stands, label]
  rfl

theorem Recovered.error_cases (r : Recovered π) (cause : ChainError) :
    r.error cause = cause ∨ r.result = .error (r.error cause) := by
  unfold error
  cases r.result with
  | ok => exact .inl rfl
  | error => exact .inr rfl

end Lists

/-! ## Fires -/

/-- The lists of callbacks that a transition may run, with the state of each. -/
inductive Engages (source destination : Node π ν) : Part → Node π ν → Prop
  | exit : Engages source destination .exit source
  | entry : Engages source destination .entry destination
  | afterExit : Engages source destination .recovery source
  | afterEntry : Engages source destination .recovery destination

/-- An error names a callback that was called in one of the lists of a transition, in one of the
given turns. -/
def ChainError.NamesIn (source destination : Node π ν) (ts : List (Turn host)) (e : ChainError) :
    Prop :=
  ∃ part node, Engages source destination part node ∧ ∃ t ∈ ts, e.Names node part t

theorem ChainError.NamesIn.mono {source destination : Node π ν} {ts ts' : List (Turn host)}
    {e : ChainError} (h : e.NamesIn source destination ts) (sub : ts ⊆ ts') :
    e.NamesIn source destination ts' := by
  obtain ⟨part, node, engaged, t, mem, names⟩ := h
  exact ⟨part, node, engaged, t, sub mem, names⟩

/-- All errors that events tell of name callbacks that were called in the lists of a transition. -/
def Attributed (source destination : Node π ν) (hs : List (Happening host)) : Prop :=
  ∀ e, .wrong e ∈ marks (eventsOf hs) → e.NamesIn source destination (turns hs)

namespace Attributed

variable {source destination : Node π ν} {hs hs' : List (Happening host)}

theorem append (h : Attributed source destination hs) (h' : Attributed source destination hs') :
    Attributed source destination (hs ++ hs') := by
  intro e told
  rw [eventsOf_append, marks_append] at told
  rw [turns_append]
  rcases List.mem_append.1 told with told | told
  · exact (h e told).mono (List.subset_append_left _ _)
  · exact (h' e told).mono (List.subset_append_right _ _)

theorem of_marks (none : marks (eventsOf hs) = []) : Attributed source destination hs := by
  intro e told
  rw [none] at told
  exact nomatch told

theorem of_silent (silent : eventsOf hs = []) : Attributed source destination hs :=
  of_marks (by rw [silent]; rfl)

theorem event {ev : Event} (silent : ∀ e, ev.mark? ≠ some (.wrong e)) :
    Attributed source destination [(.event ev : Happening host)] := by
  intro e told
  obtain ⟨ev', mem, mark⟩ := List.mem_filterMap.1 told
  obtain rfl := List.mem_singleton.1 mem
  exact absurd mark (silent e)

theorem of_wrongs {result : Except ChainError Unit} (h : marks (eventsOf hs) = wrongs result)
    (failed : ∀ e, result = .error e → e.NamesIn source destination (turns hs)) :
    Attributed source destination hs := by
  intro e told
  rw [h] at told
  cases result with
  | ok => exact nomatch told
  | error e' =>
    obtain rfl := Mark.wrong.inj (List.mem_singleton.1 told)
    exact failed e rfl

theorem of_tells {m : Machine π ν} {phase : Phase} {payload : π} {ctx : Context}
    {r : Except Raised Nat} (h : m.Tells host phase payload ctx hs r) :
    Attributed source destination hs := by
  cases h with
  | told => exact (of_silent (eventsOf_map_turn _)).append (event fun _ => nofun)
  | panicked => exact of_silent (eventsOf_map_turn _)

end Attributed

section Parts

variable {source destination node : Node π ν} {ctx : Context} {payload left : π}
  {hs : List (Happening host)} {r : Except ChainError Unit} {cause : ChainError}

theorem attributed_chain {side : Side} {part : Part} {chain : Chain π ν}
    (engaged : Engages source destination part node) (hchain : chain.Scoped)
    (list : node.callbacks part = chain.steps.map fun step => (step.label, .step step.operation))
    (runs : part.side? = some side) (h : chain.Executes host side ctx payload hs (left, r)) :
    Attributed source destination hs ∧
      ∀ e, r = .error e → e.NamesIn source destination (turns hs) := by
  have failed : ∀ e, r = .error e → e.NamesIn source destination (turns hs) := by
    rintro e rfl
    exact ⟨part, node, engaged, h.1.names hchain list runs⟩
  exact ⟨.of_wrongs h.1.sums.marks_eq failed, failed⟩

theorem attributed_recovery (engaged : Engages source destination .recovery node)
    {out : Recovered π} (h : node.recovery.Executes host cause ctx payload hs out)
    {ts : List (Turn host)} (names : cause.NamesIn source destination ts) :
    Attributed source destination hs ∧
      (out.error cause).NamesIn source destination (ts ++ turns hs) := by
  have failed : ∀ e, out.result = .error e → e.NamesIn source destination (turns hs) :=
    fun e he => ⟨.recovery, node, engaged, h.1.names he⟩
  refine ⟨.of_wrongs h.1.sums.marks_eq failed, ?_⟩
  rcases out.error_cases cause with same | superseded
  · rw [same]
    exact names.mono (List.subset_append_left _ _)
  · exact (failed _ superseded).mono (List.subset_append_right _ _)

end Parts

namespace Machine.Course

variable {m : Machine π ν} {source destination : Node π ν} {edge : Edge π ν} {ctx : Context}
  {payload : π} {hs : List (Happening host)} {out : π × Outcome}

/-- The errors of a fire, which it answers with or tells of in its events, name callbacks of its
lists. Where the guard panicked, no list was run. -/
theorem attributed (hexit : source.exit.Scoped) (hentry : destination.entry.Scoped)
    (h : m.Course host source edge destination ctx payload hs out) :
    ((∀ p, out.2 ≠ .answered (.error (.guardPanicked p))) → Attributed source destination hs) ∧
    ∀ c e, out.2 = .answered (.error (.chain c e)) →
      e.NamesIn source destination (turns hs) := by
  have begun {g : List (Happening host)} (guard : edge.Admits host payload ctx g (.ok ())) :
      Attributed source destination (g ++ [.event (.firing ctx)]) :=
    (Attributed.of_silent guard.sums.1).append (.event fun _ => nofun)
  have exited {given left : π} {x : List (Happening host)} {r : Except ChainError Unit}
      (exit : source.exit.Executes host .exit ctx given x (left, r)) :=
    attributed_chain (.exit : Engages source destination _ _) hexit rfl rfl exit
  have entered {given left : π} {y : List (Happening host)} {r : Except ChainError Unit}
      (entry : destination.entry.Executes host .entry ctx given y (left, r)) :=
    attributed_chain (.entry : Engages source destination _ _) hentry rfl rfl entry
  have ended {c : Context} {e : ChainError} :
      Attributed source destination [(.event (.failed c e) : Happening host)] :=
    .event fun _ => nofun
  have complete : Attributed source destination [(.event (.complete ctx) : Happening host)] :=
    .event fun _ => nofun
  cases h with
  | refused guard =>
    have guarded := guard.guarded
    generalize events : eventsOf hs = es at guarded
    cases guarded with
    | rejected => exact ⟨fun _ => .of_marks (by rw [events]; rfl), fun _ _ => nofun⟩
    | panicked => exact ⟨fun calm => absurd rfl (calm _), fun _ _ => nofun⟩
  | cutBefore guard before =>
    refine ⟨fun _ => ?_, nofun⟩
    simpa using (begun guard).append (.of_tells before)
  | cutRecovery guard before exit recovery between =>
    have failed := exited exit
    have mended := attributed_recovery .afterExit recovery (failed.2 _ rfl)
    refine ⟨fun _ => ?_, nofun⟩
    simpa using (begun guard).append ((Attributed.of_tells before).append
      (failed.1.append (mended.1.append (.of_tells between))))
  | exitFailed guard before exit recovery between =>
    have failed := exited exit
    have mended := attributed_recovery .afterExit recovery (failed.2 _ rfl)
    refine ⟨fun _ => ?_, fun c e answered => ?_⟩
    · simpa using (begun guard).append ((Attributed.of_tells before).append
        (failed.1.append (mended.1.append ((Attributed.of_tells between).append ended))))
    · obtain ⟨-, rfl⟩ := FireError.chain.inj (Except.error.inj (Outcome.answered.inj answered))
      exact mended.2.mono fun t ht => by rcases List.mem_append.1 ht with ht | ht <;> simp [ht]
  | cutBetween guard before exit between =>
    refine ⟨fun _ => ?_, nofun⟩
    simpa using (begun guard).append ((Attributed.of_tells before).append
      ((exited exit).1.append (.of_tells between)))
  | entryFailed guard before exit between entry recovery =>
    have failed := entered entry
    have mended := attributed_recovery .afterEntry recovery (failed.2 _ rfl)
    refine ⟨fun _ => ?_, fun c e answered => ?_⟩
    · simpa using (begun guard).append ((Attributed.of_tells before).append
        ((exited exit).1.append ((Attributed.of_tells between).append
          (failed.1.append (mended.1.append ended)))))
    · obtain ⟨-, rfl⟩ := FireError.chain.inj (Except.error.inj (Outcome.answered.inj answered))
      exact mended.2.mono fun t ht => by rcases List.mem_append.1 ht with ht | ht <;> simp [ht]
  | cutAfter guard before exit between entry after =>
    refine ⟨fun _ => ?_, nofun⟩
    simpa using (begun guard).append ((Attributed.of_tells before).append
      ((exited exit).1.append ((Attributed.of_tells between).append
        ((entered entry).1.append (.of_tells after)))))
  | completed guard before exit between entry after =>
    refine ⟨fun _ => ?_, fun _ _ answered => ?_⟩
    · simpa using (begun guard).append ((Attributed.of_tells before).append
      ((exited exit).1.append ((Attributed.of_tells between).append
        ((entered entry).1.append ((Attributed.of_tells after).append
          complete)))))
    · cases Outcome.answered.inj answered

end Machine.Course

/-! ## What errors tell -/

/-- How the callbacks of one list of a state were declared. Clauses that were refused are left
out. -/
def registered (declarations : List (Declaration π ν)) (state : State) (part : Part) :
    List (Registration π ν) :=
  registrations part (clausesFor state (Definition.empty.accepted declarations))

/-- An error tells which callback of a list it is due to, if these were declared in the given ways
and the callback was called in the given turn. -/
structure ChainError.Identifies (e : ChainError) (node : Node π ν) (part : Part)
    (rs : List (Registration π ν)) (t : Turn host) : Prop where
  /-- The error is what the turn makes of its list. -/
  made : t.visit.error? e.step = some e
  /-- The label in the error is the one that stands at the position in the error. -/
  label : (node.labels part)[e.step]? = some e.label
  /-- The callback that was declared there had the turn. If it was given no label, its position is
  the number at the end of its label. -/
  declared : ∃ r, rs[e.step]? = some r ∧ r.callback.Takes e.label part t ∧ (r.label = none →
    e.label = r.defaultLabel node.state e.step ∧ labelNumber? e.label = some e.step)

theorem ChainError.Names.identifies {e : ChainError} {node : Node π ν} {part : Part}
    {rs : List (Registration π ν)} {t : Turn host} (h : e.Names node part t)
    (labelled : node.Labelled part rs) : e.Identifies node part rs t := by
  obtain ⟨callback, stands, takes⟩ := h.called
  have label : (node.labels part)[e.step]? = some e.label := by
    rw [← node.map_fst_callbacks, List.getElem?_map, stands]
    rfl
  have declared : (rs.map Registration.callback)[e.step]? = some callback := by
    rw [← labelled.callbacks, List.getElem?_map, stands]
    rfl
  rw [List.getElem?_map] at declared
  obtain ⟨r, hr, rfl⟩ := Option.map_eq_some_iff.1 declared
  refine ⟨h.made, label, r, hr, takes, fun none => ?_⟩
  have same : e.label = r.defaultLabel node.state e.step :=
    Option.some.inj (label.symm.trans (labelled.default _ r hr none))
  exact ⟨same, same ▸ r.labelNumber?_defaultLabel _ _⟩

/-- An error of a callback that a fire makes known: the fire answers with it, or tells of it in its
events. What the events tell where the guard of the edge panicked is of that guard. -/
inductive ChainError.Disclosed (e : ChainError) (n : Nat) (ran : Ran (Entry π ν) (π × Outcome)) :
    Prop
  | answered {ctx} (answer : ran.value.2 = .answered (.error (.chain ctx e))) : Disclosed e n ran
  | told (event : .wrong e ∈ marks (ownEvents n ran.log))
      (calm : ∀ p, ran.value.2 ≠ .answered (.error (.guardPanicked p))) : Disclosed e n ran

namespace Machine

variable [Payload π] {m : Machine π ν} {source destination : Node π ν} {edge : Edge π ν}
  {payload : π} {trigger : Trigger} {depth n : Nat} {ran : Ran (Entry π ν) (π × Outcome)}
  {e : ChainError}

/-- A fire that makes an error of a callback known has found its way. -/
theorem leads_of_disclosed (h : m.fire depth payload trigger n = some ran)
    (disclosed : e.Disclosed n ran) :
    ∃ source edge destination, m.Leads payload trigger source edge destination := by
  rcases leads_or_lost h with leads | ⟨e', answered, lost, silent⟩
  · exact leads
  · cases disclosed with
    | answered answer =>
      obtain rfl := Except.error.inj (Outcome.answered.inj (answered.symm.trans answer))
      exact nomatch lost
    | told event =>
      rw [silent] at event
      exact nomatch event

omit [Payload π] in
/-- The errors that a fire makes known name callbacks of its two states, which it has called. -/
theorem Course.names_of_disclosed {host : Host π ν} {hs : List (Happening host)}
    (course : m.Course host source edge destination (contextOf n source edge trigger) payload hs
      ran.value)
    (accounts : Accounts n hs ran.log) (hexit : source.exit.Scoped)
    (hentry : destination.entry.Scoped) (disclosed : e.Disclosed n ran) :
    e.NamesIn source destination (turns hs) := by
  obtain ⟨told, answered⟩ := course.attributed hexit hentry
  cases disclosed with
  | answered answer => exact answered _ e answer
  | told event calm =>
    have bears : ∀ x ∈ hs, x.Bears fun c => c.id = n :=
      fun x hx => (course.outline.bears x hx).mono fun _ of => of.id_eq
    rw [ownEvents_eq accounts.own_eq bears] at event
    exact told calm e event

/-- What an error tells that a fire makes known: the callback of which list of which state it is
due to. -/
def Traces (m : Machine π ν) (declarations : List (Declaration π ν)) (depth n : Nat) (payload : π)
    (trigger : Trigger) (ran : Ran (Entry π ν) (π × Outcome)) (e : ChainError) : Prop :=
  ∃ source edge destination, m.Leads payload trigger source edge destination ∧
    ∃ hs : List (Happening (m.host depth)),
      m.Course (m.host depth) source edge destination (contextOf n source edge trigger) payload hs
        ran.value ∧ Accounts n hs ran.log ∧
      ∃ part node, Engages source destination part node ∧ ∃ t ∈ turns hs,
        e.Identifies node part (registered declarations node.state part) t

/-- Labels that were not given tell the state, the kind, the trigger and the position of their
callback, so that they differ within a list, whatever characters the names have. The errors that a
fire makes known tell the position and the label of the callback that they are due to. -/
theorem labels_identify (declarations : List (Declaration π ν)) :
    (∀ state node, (Definition.build declarations).node? state = some node →
      node.state = state ∧ ∀ part, node.Labelled part (registered declarations state part)) ∧
    ∀ stopwatch depth payload trigger n ran e,
      (compile declarations stopwatch).fire depth payload trigger n = some ran →
      e.Disclosed n ran →
      (compile declarations stopwatch).Traces declarations depth n payload trigger ran e := by
  have labelled {state : State} {node : Node π ν}
      (stands : (Definition.build declarations).node? state = some node) :
      node.state = state ∧ ∀ part, node.Labelled part (registered declarations state part) := by
    have callbacks := fun part => Definition.callbacks_build stands part
    have same : node.state = state := (callbacks .entry).1
    exact ⟨same, fun part => Node.labelled_of_eq (same ▸ (callbacks part).2)⟩
  refine ⟨fun _ _ => labelled, fun stopwatch depth payload trigger n ran e h disclosed => ?_⟩
  obtain ⟨source, edge, destination, leads⟩ := leads_of_disclosed h disclosed
  obtain ⟨hs, course, accounts⟩ := course_of_fire leads h
  have sound := Definition.forall_nodes_build Node.Scoped.extend Node.scoped_bare declarations
  obtain ⟨part, node, engaged, t, mem, names⟩ := course.names_of_disclosed accounts
    (sound _ (Definition.mem_of_node? leads.source_eq)).exit
    (sound _ (Definition.mem_of_node? leads.destination_eq)).entry disclosed
  have stands : ∃ state, (Definition.build declarations).node? state = some node := by
    cases engaged with
    | exit => exact ⟨_, leads.source_eq⟩
    | entry => exact ⟨_, leads.destination_eq⟩
    | afterExit => exact ⟨_, leads.source_eq⟩
    | afterEntry => exact ⟨_, leads.destination_eq⟩
  obtain ⟨state, stands⟩ := stands
  obtain ⟨rfl, labelled⟩ := labelled stands
  exact ⟨source, edge, destination, leads, hs, course, accounts, part, node, engaged, t, mem,
    names.identifies (labelled part)⟩

/-- A box whose names imitate labels, and so do the labels that were given. It cannot be turned. -/
def box : List (Declaration Subject Remark) := [
  .configure ⟨"box#7"⟩ .plain
    [.permit ⟨"turn]#0"⟩ ⟨"a.on_entry#3"⟩ none,
      .onExit none (some "box#7.on_exit#1") (Script.operation .done),
      .onError (some "box#7.on_error#1") (Script.handler .done)],
  .configure ⟨"a.on_entry#3"⟩ .plain [],
  .reopen ⟨"box#7"⟩
    [.onExit (some ⟨"turn]#0"⟩) none (Script.operation (.stop (.fail (.plain "stuck")))),
      .onError none (Script.handler (.stop (.panic (.message "broken"))))]]

/-- The box when it is turned. -/
def turning : Context := ⟨0, ⟨"box#7"⟩, ⟨"a.on_entry#3"⟩, ⟨"turn]#0"⟩⟩

/-- The step that fails stands second in its list, and so does the handler that panics then. The
label of the handler before it was given and is the same. -/
theorem box_labels_identify :
    (∃ node, (Definition.build box).node? ⟨"box#7"⟩ = some node ∧
      node.Labelled .exit (registered box ⟨"box#7"⟩ .exit) ∧
      node.labels .exit = ["box#7.on_exit#1", "box#7.on_exit[turn]#0]#1"] ∧
      node.labels .recovery = ["box#7.on_error#1", "box#7.on_error#1"]) ∧
    ∃ ran, (compile box fun _ _ => 0).fire 0 ⟨⟨"box#7"⟩, [], []⟩ ⟨"turn]#0"⟩ 0 = some ran ∧
      ∀ e ∈ [ChainError.operation 1 "box#7.on_exit[turn]#0]#1" (.plain "stuck"),
          .panic ⟨turning, 1, "box#7.on_error#1", .message "broken"⟩],
        e.Disclosed 0 ran ∧ (compile box fun _ _ => 0).Traces box 0 0 ⟨⟨"box#7"⟩, [], []⟩
          ⟨"turn]#0"⟩ ran e := by
  constructor
  · have labels : ((Definition.build box).node? ⟨"box#7"⟩).map
        (fun node => (node.labels .exit, node.labels .recovery)) =
          some (["box#7.on_exit#1", "box#7.on_exit[turn]#0]#1"],
            ["box#7.on_error#1", "box#7.on_error#1"]) := by decide +kernel
    obtain ⟨node, stands, labels⟩ := Option.map_eq_some_iff.1 labels
    obtain ⟨exit, recovery⟩ := Prod.mk.inj labels
    exact ⟨node, stands, ((labels_identify box).1 _ node stands).2 .exit, exit, recovery⟩
  · have answered : ((compile box fun _ _ => 0).fire 0 ⟨⟨"box#7"⟩, [], []⟩ ⟨"turn]#0"⟩ 0).map
        (fun r => (r.value.2.error?, marks (ownEvents 0 r.log))) =
          some (some (.chain turning
              (.panic ⟨turning, 1, "box#7.on_error#1", .message "broken"⟩)),
            [.opened 0, .told .beforeTransition 0,
              .wrong (.operation 1 "box#7.on_exit[turn]#0]#1" (.plain "stuck")),
              .wrong (.panic ⟨turning, 1, "box#7.on_error#1", .message "broken"⟩),
              .told .betweenStates 0, .closed 0]) := by decide +kernel
    obtain ⟨ran, h, shown⟩ := Option.map_eq_some_iff.1 answered
    obtain ⟨answer, told⟩ := Prod.mk.inj shown
    have answer := Outcome.eq_of_error? answer
    refine ⟨ran, h, List.forall_mem_cons.2 ⟨?_, List.forall_mem_singleton.2 ?_⟩⟩
    · have disclosed : ChainError.Disclosed
          (.operation 1 "box#7.on_exit[turn]#0]#1" (.plain "stuck")) 0 ran :=
        .told (by rw [told]; decide) fun p => by rw [answer]; exact nofun
      exact ⟨disclosed, (labels_identify box).2 _ _ _ _ _ _ _ h disclosed⟩
    · exact ⟨.answered answer, (labels_identify box).2 _ _ _ _ _ _ _ h (.answered answer)⟩

end Machine

end StateMachine
