import StateMachine.Proofs.Drawing
import StateMachine.Proofs.Reading

/-!
# State diagrams are read back

Nothing is escaped in a state diagram. Still, a reader that knows nothing of the definition gets
back from its text what was drawn, as long as no state has a space in its name and no trigger a line
break: a state ends at the first space, a trigger at the end of the line. A name may look like an
arrow, like the last line, or be empty.

* `Uml.read`: the initial state and the arrows of a text; `Uml.read_document`: it undoes writing.
* `Definition.Legible`: what the names of a definition must not have.
* `Definition.uml_eq_ok_iff`: the text of a definition that may be drawn.
* `Definition.decodes_build`: the text of a definition determines the initial state and the arrows,
  and these are the arrows that its graph document shows.
-/

namespace StateMachine

/-- Whether the names in the line of an arrow end where the reader expects it. -/
structure Arrow.Legible (a : Arrow) : Prop where
  source : ' ' ∉ a.source.name.toList
  destination : ' ' ∉ a.destination.name.toList
  trigger : '\n' ∉ a.trigger.name.toList

namespace Uml

/-! ## Reading -/

/-- The first line, up to the name of the initial state. -/
def opening : String := "@startuml\n[*] -> "

/-- The last line. -/
def closing : String := "@enduml"

/-- Reads a name up to a character that it does not have; also what is left. -/
def upTo (c : Char) (input : List Char) : List Char × List Char :=
  (input.takeWhile (· ≠ c), input.dropWhile (· ≠ c))

/-- Reads the line of an arrow; also what is left. -/
def arrow? (input : List Char) : Option (Arrow × List Char) := do
  let (source, input) := upTo ' ' input
  let input ← Dot.skip " --> " input
  let (destination, input) := upTo ' ' input
  let input ← Dot.skip " : " input
  let (trigger, input) := upTo '\n' input
  let input ← Dot.skip "\n" input
  return (⟨⟨.ofList source⟩, ⟨.ofList trigger⟩, ⟨.ofList destination⟩⟩, input)

theorem upTo_length (c : Char) (input : List Char) : (upTo c input).2.length ≤ input.length :=
  (List.dropWhile_sublist _).length_le

theorem skip_line_length {input rest : List Char} (h : Dot.skip "\n" input = some rest) :
    rest.length < input.length := by
  obtain ⟨passed, rfl, same⟩ := List.dropPrefix?_eq_some_iff.1 h
  obtain rfl : passed = ['\n'] := eq_of_beq same
  simp

theorem arrow?_length {input rest : List Char} {a : Arrow} (h : arrow? input = some (a, rest)) :
    rest.length < input.length := by
  simp only [arrow?, Option.bind_eq_bind, Option.bind_eq_some_iff] at h
  obtain ⟨i₁, h₁, i₂, h₂, i₃, h₃, h₄⟩ := h
  obtain rfl : i₃ = rest := congrArg Prod.snd (Option.some.inj h₄)
  have := upTo_length ' ' input
  have := Dot.skip_length h₁
  have := upTo_length ' ' i₁
  have := Dot.skip_length h₂
  have := upTo_length '\n' i₂
  have := skip_line_length h₃
  omega

/-- Reads lines up to the last one. -/
def arrows? (input : List Char) : Option (List Arrow) :=
  if input = closing.toList then some []
  else
    match _taken : arrow? input with
    | none => none
    | some (a, rest) => (arrows? rest).map (a :: ·)
termination_by input.length
decreasing_by exact arrow?_length _taken

/-- Reads a text: the initial state, then the arrows. -/
def read (text : String) : Option (State × List Arrow) := do
  let input ← Dot.skip opening text.toList
  let (initial, input) := upTo ' ' input
  let input ← Dot.skip " \n" input
  let arrows ← arrows? input
  return (⟨.ofList initial⟩, arrows)

/-! ## Reading what was written -/

/-- The text for an initial state and some arrows. -/
def document (initial : State) (arrows : List Arrow) : String :=
  opening ++ initial.name ++ " \n" ++ String.join (arrows.map Arrow.uml) ++ closing

theorem upTo_append {c : Char} {name : String} (inside : c ∉ name.toList) {next : String}
    {tail : List Char} (starts : next.toList = c :: tail) (rest : List Char) :
    upTo c (name.toList ++ (next.toList ++ rest)) = (name.toList, next.toList ++ rest) := by
  have passed : ∀ x ∈ name.toList, decide (x ≠ c) = true :=
    fun x mem => decide_eq_true fun same => inside (same ▸ mem)
  rw [upTo, List.takeWhile_append_of_pos passed, List.dropWhile_append_of_pos passed, starts]
  simp

theorem uml_eq (a : Arrow) :
    a.uml = a.source.name ++ " --> " ++ a.destination.name ++ " : " ++ a.trigger.name ++ "\n" := by
  rw [← String.toList_inj]
  simp [Arrow.uml, toString]

/-- A line whose names end where they should is read as its arrow, whatever follows. -/
theorem arrow?_uml {a : Arrow} (legible : a.Legible) (rest : List Char) :
    arrow? (a.uml.toList ++ rest) = some (a, rest) := by
  have arrow : (" --> " : String).toList = ' ' :: "--> ".toList := rfl
  have colon : (" : " : String).toList = ' ' :: ": ".toList := rfl
  have line : ("\n" : String).toList = '\n' :: [] := rfl
  simp only [arrow?, uml_eq, String.toList_append, List.append_assoc, Dot.skip_append,
    upTo_append legible.source arrow, upTo_append legible.destination colon,
    upTo_append legible.trigger line, Option.bind_eq_bind, Option.bind_some, String.ofList_toList]
  rfl

/-- No line looks like the end of the text: it has a space in it. -/
theorem uml_ne_closing (a : Arrow) (rest : List Char) : a.uml.toList ++ rest ≠ closing.toList := by
  intro same
  have space : ' ' ∈ a.uml.toList ++ rest := by
    simp [uml_eq]
  rw [same] at space
  exact absurd space (by decide)

/-- Arrows are read back from their lines. -/
theorem arrows?_lines {arrows : List Arrow} (legible : ∀ a ∈ arrows, a.Legible) :
    arrows? (String.join (arrows.map Arrow.uml) ++ closing).toList = some arrows := by
  induction arrows with
  | nil =>
    have last : String.join [] ++ closing = closing := by simp
    rw [List.map_nil, last, arrows?, if_pos rfl]
  | cons a rest ih =>
    rw [List.map_cons, String.join_cons, String.append_assoc, String.toList_append, arrows?,
      if_neg (uml_ne_closing a _)]
    have first := arrow?_uml (legible a List.mem_cons_self)
    split
    next refused =>
      rw [first] at refused
      contradiction
    next a' rest' taken =>
      rw [first] at taken
      obtain ⟨rfl, rfl⟩ := Prod.mk.inj (Option.some.inj taken)
      rw [ih fun a mem => legible a (List.mem_cons_of_mem _ mem), Option.map_some]

/-- A text is read as the initial state and the arrows that it was made for. -/
theorem read_document {initial : State} {arrows : List Arrow}
    (space : ' ' ∉ initial.name.toList) (legible : ∀ a ∈ arrows, a.Legible) :
    read (document initial arrows) = some (initial, arrows) := by
  have line : (" \n" : String).toList = ' ' :: "\n".toList := rfl
  have lines := arrows?_lines legible
  rw [String.toList_append] at lines
  simp only [read, document, String.toList_append, List.append_assoc, Dot.skip_append,
    upTo_append space line, Option.bind_eq_bind, Option.bind_some, lines, String.ofList_toList]
  rfl

end Uml

namespace Definition

variable {π ν : Type} {d : Definition π ν}

/-- Whether no state of a definition has a space in its name, and no trigger a line break. A state
may have line breaks. -/
structure Legible (d : Definition π ν) : Prop where
  states : ∀ state ∈ d.states, ' ' ∉ state.name.toList
  triggers : ∀ a ∈ d.arrows, '\n' ∉ a.trigger.name.toList

theorem uml_eq_ok_iff {text : String} : d.uml = .ok text ↔
    d.refusal? = none ∧ ∃ initial, d.initial? = some initial ∧
      text = Uml.document initial d.arrows := by
  rw [uml, drawable]
  cases d.refusal? with
  | some reason => simp
  | none =>
    cases d.initial? with
    | none => simp
    | some initial => simp [Uml.document, Uml.opening, Uml.closing, toString, eq_comm]

theorem Sound.destination_mem_states (sound : d.Sound) (renderable : d.refusal? = none) {a : Arrow}
    (ha : a ∈ d.arrows) : a.destination ∈ d.states := by
  have zero := sound.length_errors
  rw [(refusal?_eq_none_iff.1 renderable).2, List.length_nil, eq_comm, List.countP_eq_zero] at zero
  simpa using zero a ha

theorem Sound.legible_arrow (sound : d.Sound) (renderable : d.refusal? = none)
    (legible : d.Legible) {a : Arrow} (ha : a ∈ d.arrows) : a.Legible where
  source := legible.states _ (Sound.source_mem_states ha)
  destination := legible.states _ (sound.destination_mem_states renderable ha)
  trigger := legible.triggers a ha

/-- What both diagrams of a definition tell about it. -/
structure Decodes (d : Definition π ν) (initial : State) (uml dot : String) : Prop where
  uml_drawn : d.uml = .ok uml
  dot_drawn : d.dot = .ok dot
  initial_eq : d.initial? = some initial
  /-- A reader of the text gets the initial state and the arrows, in the order in which they are
  gone through state by state. -/
  uml_read : Uml.read uml = some (initial, d.arrows)
  /-- A reader of the graph document gets the same arrows. -/
  dot_read : (Dot.read dot).map (·.filterMap Dot.Statement.arrow?) = (Uml.read uml).map Prod.snd
  /-- Other definitions have the same text exactly if they have that initial state and those
  arrows. -/
  determined : ∀ {π' ν' : Type} (declarations : List (Declaration π' ν')),
    (build declarations).refusal? = none → (build declarations).Legible →
      ((build declarations).uml = .ok uml ↔
        (build declarations).initial? = some initial ∧ (build declarations).arrows = d.arrows)

theorem Sound.read_uml (sound : d.Sound) (renderable : d.refusal? = none) (legible : d.Legible) :
    ∃ initial, d.initial? = some initial ∧ d.uml = .ok (Uml.document initial d.arrows) ∧
      Uml.read (Uml.document initial d.arrows) = some (initial, d.arrows) := by
  obtain ⟨node, first, initial⟩ := sound.exists_initial (refusal?_eq_none_iff.1 renderable).1
  have configured : node.state ∈ d.states := List.mem_map_of_mem (List.mem_of_mem_head? first)
  refine ⟨node.state, initial, uml_eq_ok_iff.2 ⟨renderable, _, initial, rfl⟩, ?_⟩
  exact Uml.read_document (legible.states _ configured) fun a ha =>
    sound.legible_arrow renderable legible ha

/-- Whatever was declared, the text of a definition whose names are legible determines its initial
state and its arrows, and the graph document shows the same arrows. -/
theorem decodes_build (declarations : List (Declaration π ν))
    (renderable : (build declarations).refusal? = none)
    (legible : (build declarations).Legible) :
    ∃ initial uml dot, (build declarations).Decodes initial uml dot := by
  obtain ⟨initial, initial_eq, drawn, read⟩ :=
    (sound_build declarations).read_uml renderable legible
  refine ⟨initial, _, _, drawn, dot_eq_ok_iff.2 ⟨renderable, rfl⟩, initial_eq, read, ?_, ?_⟩
  · rw [Dot.read_document, read, Option.map_some, Option.map_some, filterMap_statements]
  · intro π' ν' declarations' renderable' legible'
    obtain ⟨initial', initial_eq', drawn', read'⟩ :=
      (sound_build declarations').read_uml renderable' legible'
    rw [drawn', initial_eq', Except.ok.injEq, Option.some.injEq]
    constructor
    · intro same
      rw [same, read] at read'
      obtain ⟨rfl, arrows⟩ := Prod.mk.inj (Option.some.inj read')
      exact ⟨rfl, arrows.symm⟩
    · rintro ⟨rfl, arrows⟩
      rw [arrows]

/-- States and triggers that look like parts of a diagram, or like nothing. -/
def disguised : List (Declaration Unit Unit) := [
  .configure ⟨"-->"⟩ .plain [.permit ⟨" --> : \\"⟩ ⟨"@enduml"⟩ none, .permit ⟨""⟩ ⟨""⟩ none],
  .configure ⟨"@enduml"⟩ .plain [.permit ⟨"@enduml"⟩ ⟨":"⟩ none],
  .configure ⟨""⟩ .plain [.permit ⟨" "⟩ ⟨"-->"⟩ none],
  .configure ⟨":"⟩ .plain [.permit ⟨"\""⟩ ⟨":"⟩ none]]

theorem decodes_disguised :
    (build disguised).refusal? = none ∧ (build disguised).Legible ∧
      ∃ initial uml dot, (build disguised).Decodes initial uml dot := by
  have renderable : (build disguised).refusal? = none := by decide +kernel
  have legible : (build disguised).Legible := by
    constructor <;> decide +kernel
  exact ⟨renderable, legible, decodes_build disguised renderable legible⟩

/-- A trigger with a line break may look like two arrows. -/
example :
    let one : Definition Unit Unit := .build [
      .configure ⟨"a"⟩ .plain [.permit ⟨"x\na --> a : y"⟩ ⟨"a"⟩ none]]
    let two : Definition Unit Unit := .build [
      .configure ⟨"a"⟩ .plain [.permit ⟨"x"⟩ ⟨"a"⟩ none, .permit ⟨"y"⟩ ⟨"a"⟩ none]]
    one.uml = two.uml ∧ one.arrows.length = 1 ∧ two.arrows.length = 2 := by
  decide +kernel

end Definition

end StateMachine
