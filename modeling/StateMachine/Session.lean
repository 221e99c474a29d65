import StateMachine.Diagram.Dot
import StateMachine.Diagram.Uml
import StateMachine.Machine
import StateMachine.Soundness
import StateMachine.Validation

/-!
# Sessions

A session builds one definition and drives one payload by it. Each request is answered, and leaves
what was logged meanwhile.

* `Session`: the machine, the payload, and the next unused identity.
* `Request`, `Reply`: what may be asked, and the answers.
* `Session.step`: answers a request. Only a request that runs callbacks may have no answer, namely
  when they call the machine within each other more than `Session.depth` deep.
* `Session.run`: answers a list of requests.
-/

namespace StateMachine

/-- A machine, the payload it is used on, and the next unused identity. -/
structure Session (π ν : Type) where
  machine : Machine π ν
  payload : π
  next : Nat

/-- What a session may be asked. -/
inductive Request (π ν : Type) where
  /-- Adds a declaration. -/
  | declare (declaration : Declaration π ν)
  /-- Compiles the definition. -/
  | compile
  /-- Describes the definition. -/
  | describe
  /-- Validates the definition. -/
  | validate
  /-- Draws the state diagram. -/
  | uml
  /-- Draws the graph document. -/
  | dot
  /-- Writes the graph document where there is room for so many bytes. -/
  | writeDot (capacity : Nat) (overflow : Overflow)
  /-- Replaces the payload. -/
  | replace (payload : π)
  /-- Asks for the triggers of the payload's state. -/
  | triggers
  /-- Asks whether a trigger could be fired. -/
  | canFire (trigger : Trigger)
  /-- Fires a trigger. -/
  | fire (trigger : Trigger)

/-- The answers of a session. -/
inductive Reply (π ν : Type) where
  | declared (answer : Declared)
  | definition (definition : Definition π ν)
  | drawing (result : Except RenderError String)
  | written (sink : Sink) (result : Except RenderError Unit)
  | payload (payload : π)
  | triggers (result : Except FireError (List Trigger))
  | canFire (result : Except FireError Unit)
  | fired (outcome : Outcome)

namespace Session

variable {π ν : Type}

/-- A session without states. -/
def start (payload : π) : Session π ν where
  machine := ⟨.empty, fun _ _ => 0, Definition.sound_empty⟩
  payload := payload
  next := 0

/-- How deep callbacks may call the machine within each other. -/
def depth : Nat := 100000

variable [Payload π]

/-- Answers a request and logs what happens meanwhile. -/
def step (s : Session π ν) :
    Request π ν → Option (Session π ν × Reply π ν × List (Entry π ν))
  | .declare declaration =>
    let declared := s.machine.definition.declare declaration
    let machine : Machine π ν :=
      { s.machine with
        definition := declared.1
        sound := s.machine.sound.declare declaration }
    some ({ s with machine := machine }, .declared declared.2, [])
  | .compile =>
    some (s, .definition s.machine.definition,
      s.machine.definition.compilationEvents.map .event)
  | .describe => some (s, .definition s.machine.definition, [])
  | .validate =>
    some (s, .definition s.machine.definition, s.machine.definition.validationEvents.map .event)
  | .uml =>
    some (s, .drawing s.machine.definition.uml,
      s.machine.definition.validationEvents.map .event)
  | .dot =>
    some (s, .drawing s.machine.definition.dot,
      s.machine.definition.validationEvents.map .event)
  | .writeDot capacity overflow =>
    let (sink, result) :=
      s.machine.definition.writeDot (Sink.writer overflow Sink.whole) (.ofCapacity capacity)
    some (s, .written sink result, s.machine.definition.validationEvents.map .event)
  | .replace payload => some ({ s with payload := payload }, .payload payload, [])
  | .triggers => some (s, .triggers (s.machine.triggers s.payload), [])
  | .canFire trigger =>
    (s.machine.canFire depth s.payload trigger s.next).map fun ran =>
      ({ s with next := ran.next }, .canFire ran.value, ran.log)
  | .fire trigger =>
    (s.machine.fire depth s.payload trigger s.next).map fun ran =>
      ({ s with payload := ran.value.1, next := ran.next }, .fired ran.value.2, ran.log)

/-- Answers a list of requests, one after the other. -/
def run (s : Session π ν) :
    List (Request π ν) → Option (Session π ν × List (Reply π ν × List (Entry π ν)))
  | [] => some (s, [])
  | request :: rest =>
    match s.step request with
    | none => none
    | some (s', answer) =>
      match s'.run rest with
      | none => none
      | some (s'', answers) => some (s'', answer :: answers)

end Session

end StateMachine
