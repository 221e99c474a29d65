import StateMachine.Diagram.Uml
import StateMachine.Proofs.EdgeOrder
import StateMachine.Proofs.Writing

/-!
# Which definitions are drawn

Both diagrams are made from one judgement, but what they need is kept in different places: the
errors are counted in the graph, the states in the list of nodes, and the initial state is the first
one of the graph. In a definition that was built these agree, so a definition that has been judged
fit for drawing always is drawn.

* `Definition.refusal?_eq_some_iff`, `Definition.refusal?_eq_none_iff`: the judgement.
* `Definition.Sound.exists_initial`: the initial state is the first node's.
* `Definition.Sound.length_errors`: the errors, counted by going through the edges.
* `Definition.Judged`: which definitions are drawn, and what is answered for the others.
* `Definition.judged_build`: whatever was declared, definitions are judged like that.
-/

namespace StateMachine

variable {π ν : Type}

namespace Definition

variable {d : Definition π ν} {reason : RenderError}

/-! ## The judgement -/

theorem hasErrors_iff : d.hasErrors = true ↔ 0 < d.errors.length := by
  rw [hasErrors, List.any_eq_true, errors, List.length_pos_iff_exists_mem]
  simp

/-- A definition is refused for its errors if there are any, and otherwise only if there is nothing
to draw. -/
theorem refusal?_eq_some_iff :
    d.refusal? = some reason ↔
      (0 < d.errors.length ∧ reason = .compileErrors d.errors.length) ∨
        (d.errors.length = 0 ∧ d.nodes = [] ∧ reason = .noStates) := by
  rw [refusal?]
  split
  · next some =>
    have more := hasErrors_iff.1 some
    simp [more, Nat.ne_of_gt more, eq_comm]
  · next none =>
    have zero : d.errors.length = 0 := Nat.eq_zero_of_not_pos (mt hasErrors_iff.2 none)
    split
    · next nothing => simp [zero, List.isEmpty_iff.1 nothing, eq_comm]
    · next something => simp [zero, mt List.isEmpty_iff.2 something]

theorem refusal?_eq_none_iff : d.refusal? = none ↔ d.nodes ≠ [] ∧ d.errors = [] := by
  rw [Option.eq_none_iff_forall_ne_some]
  simp only [ne_eq, refusal?_eq_some_iff, ← List.length_eq_zero_iff]
  constructor
  · intro never
    have zero : d.errors.length = 0 :=
      Nat.eq_zero_of_not_pos fun more => never _ (.inl ⟨more, rfl⟩)
    exact ⟨fun nothing => never _ (.inr ⟨zero, nothing, rfl⟩), zero⟩
  · rintro ⟨something, zero⟩ reason (⟨more, -⟩ | ⟨-, nothing, -⟩)
    · exact Nat.ne_of_gt more zero
    · exact something nothing

theorem dot_eq_error_iff : d.dot = .error reason ↔ d.refusal? = some reason := by
  refine ⟨dot_eq_error, fun some => ?_⟩
  rw [dot, some]

theorem exists_dot_iff : (∃ text, d.dot = .ok text) ↔ d.refusal? = none := by
  constructor
  · rintro ⟨text, drawn⟩
    exact (dot_eq_ok drawn).1
  · intro none
    rw [dot, none]
    exact ⟨_, rfl⟩

theorem writeDot_buffer (d : Definition π ν) :
    (d.writeDot .buffer []).2 = d.dot.map fun _ => () := by
  cases h : d.refusal? with
  | some reason => rw [writeDot, dot, h, Except.map]
  | none =>
    rw [writeDot_eq h, Writer.writeTexts_buffer, dot, h]
    rfl

/-! ## What a sound definition has -/

namespace Sound

theorem initial?_eq (sound : d.Sound) : d.initial? = d.nodes.head?.map Node.state := by
  rw [initial?, sound.states, Definition.states, List.head?_map]

theorem exists_initial (sound : d.Sound) (something : d.nodes ≠ []) :
    ∃ node, d.nodes.head? = some node ∧ d.initial? = some node.state := by
  obtain ⟨node, rest, cons⟩ := List.exists_cons_of_ne_nil something
  have first : d.nodes.head? = some node := by rw [cons, List.head?_cons]
  exact ⟨node, first, by rw [sound.initial?_eq, first, Option.map_some]⟩

theorem not_mem_states_iff (sound : d.Sound) {state : State} :
    state ∉ d.states ↔ d.contains state = false := by
  rw [← Bool.not_eq_true, contains, sound.index.contains_iff]

/-- There are as many errors as edges that lead to a state which is not configured, whether these
are gone through in the order of the graph or state by state. -/
theorem length_errors (sound : d.Sound) :
    d.errors.length = d.arrows.countP fun a => a.destination ∉ d.states := by
  have perm : d.arrows.Perm d.graph.arrows := sound.visits.perm
  rw [perm.countP_eq, errors_eq, List.length_map, danglingArrows, ← List.countP_eq_length_filter]
  refine List.countP_congr fun a _ => ?_
  rw [Bool.not_eq_true', decide_eq_true_iff, sound.not_mem_states_iff]

theorem arrows_eq_nil (nothing : d.nodes = []) : d.arrows = [] := by
  rw [Definition.arrows, nothing, List.flatMap_nil]

theorem errors_eq_nil (sound : d.Sound) (nothing : d.nodes = []) : d.errors = [] := by
  rw [← List.length_eq_zero_iff, sound.length_errors, arrows_eq_nil nothing, List.countP_nil]

/-- The state diagram asks for the initial state only after the judgement, which knows that there is
one. -/
theorem uml_eq_error_iff (sound : d.Sound) : d.uml = .error reason ↔ d.refusal? = some reason := by
  rw [uml, drawable]
  cases h : d.refusal? with
  | some reason' => simp
  | none =>
    obtain ⟨node, -, initial⟩ := sound.exists_initial (refusal?_eq_none_iff.1 h).1
    simp [initial]

theorem exists_uml_iff (sound : d.Sound) : (∃ text, d.uml = .ok text) ↔ d.refusal? = none := by
  rw [Option.eq_none_iff_forall_ne_some]
  simp only [ne_eq, ← sound.uml_eq_error_iff]
  cases d.uml with
  | error reason => simp
  | ok text => simp

end Sound

/-! ## Both diagrams -/

/-- Which definitions are drawn, and what is answered for the others. -/
structure Judged (d : Definition π ν) : Prop where
  /-- A state diagram is drawn exactly if there is a state and validation finds no error. -/
  uml_drawn : (∃ text, d.uml = .ok text) ↔ d.nodes ≠ [] ∧ d.errors = []
  /-- So is a graph document. -/
  dot_drawn : (∃ text, d.dot = .ok text) ↔ d.nodes ≠ [] ∧ d.errors = []
  /-- Errors are a reason to refuse a state diagram, and the answer tells how many there are.
  Otherwise the only reason is that there is no state. -/
  uml_refused : ∀ reason, d.uml = .error reason ↔
    (0 < d.errors.length ∧ reason = .compileErrors d.errors.length) ∨
      (d.errors.length = 0 ∧ d.nodes = [] ∧ reason = .noStates)
  /-- A graph document is refused for the same reason. -/
  refused_alike : ∀ reason, d.dot = .error reason ↔ d.uml = .error reason
  /-- Making a document is writing it. -/
  dot_written : (d.writeDot .buffer []).2 = d.dot.map fun _ => ()
  /-- The errors are as many as the edges, gone through state by state, that lead to a state which
  is not configured. -/
  counted : d.errors.length = d.arrows.countP fun a => a.destination ∉ d.states
  /-- Both reasons never hold at once: without states there is nothing that could be wrong. -/
  apart : d.nodes = [] → d.errors = [] ∧ d.arrows = []
  /-- However many warnings there are, they are no reason to refuse. -/
  warned : d.nodes ≠ [] → (∀ f ∈ d.diagnostics, f.severity = .warning) →
    (∃ text, d.uml = .ok text) ∧ ∃ text, d.dot = .ok text
  /-- A definition that is not refused has an initial state, the first that was configured. -/
  initial : d.refusal? = none → ∃ node, d.nodes.head? = some node ∧ d.initial? = some node.state

theorem errors_eq_nil_of_warnings (warnings : ∀ f ∈ d.diagnostics, f.severity = .warning) :
    d.errors = [] := by
  refine List.filter_eq_nil_iff.2 fun f hf => ?_
  simp [Diagnostic.isError, warnings f hf]

theorem Sound.judged (sound : d.Sound) : d.Judged where
  uml_drawn := sound.exists_uml_iff.trans refusal?_eq_none_iff
  dot_drawn := exists_dot_iff.trans refusal?_eq_none_iff
  uml_refused _ := sound.uml_eq_error_iff.trans refusal?_eq_some_iff
  refused_alike _ := dot_eq_error_iff.trans sound.uml_eq_error_iff.symm
  dot_written := writeDot_buffer d
  counted := sound.length_errors
  apart nothing := ⟨sound.errors_eq_nil nothing, arrows_eq_nil nothing⟩
  warned something warnings := by
    have none := refusal?_eq_none_iff.2 ⟨something, errors_eq_nil_of_warnings warnings⟩
    exact ⟨sound.exists_uml_iff.2 none, exists_dot_iff.2 none⟩
  initial none := sound.exists_initial (refusal?_eq_none_iff.1 none).1

/-- Whatever was declared, both diagrams are refused for the errors that validation finds, or for
want of a state, and are drawn in all other cases. -/
theorem judged_build (declarations : List (Declaration π ν)) : (build declarations).Judged :=
  (sound_build declarations).judged

/-- Two edges of different states lead to the same missing one, which counts twice; that a state
cannot be left does not count. -/
example :
    let d : Definition Unit Unit := .build [
      .configure ⟨"idle"⟩ .plain [.permit ⟨"go"⟩ ⟨"away"⟩ none],
      .configure ⟨"busy"⟩ .plain [.permit ⟨"go"⟩ ⟨"away"⟩ none],
      .configure ⟨"done"⟩ .plain []]
    d.uml = .error (.compileErrors 2) ∧ d.dot = .error (.compileErrors 2) ∧
      (empty : Definition Unit Unit).uml = .error .noStates := by
  decide +kernel

end Definition

end StateMachine
