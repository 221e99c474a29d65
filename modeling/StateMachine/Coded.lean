import StateMachine.Diagnostic
import StateMachine.Graph
import StateMachine.Phase
import StateMachine.Value

/-!
# Coded types

How names, phases, filters, captions, diagnostics and graphs are written as values and read back.

* `Coded`: types with a written form.
* Names are texts, and so are phases and severities; a filter is a byte.
* Structures are records. A caption leaves out what it does not have.
* `decode_encode`, in each namespace: what was written can be read.
-/

namespace StateMachine

/-- Types that can be written as values and read back. -/
class Coded (α : Type) where
  encode : α → Value
  decode : Value → Option α

export Coded (encode decode)

instance : Coded State where
  encode s := .text s.name
  decode v := v.text?.map State.mk

instance : Coded Trigger where
  encode t := .text t.name
  decode v := v.text?.map Trigger.mk

instance : Coded Phase where
  encode p := .text p.name
  decode v :=
    match v.variant? with
    | some "BeforeTransition" => some .beforeTransition
    | some "BetweenStates" => some .betweenStates
    | some "AfterTransition" => some .afterTransition
    | _ => none

instance : Coded Severity where
  encode s := .text s.name
  decode v :=
    match v.variant? with
    | some "Error" => some .error
    | some "Warning" => some .warning
    | _ => none

instance : Coded Filter where
  encode f := .number f.bits.toNat 0
  decode v := v.byte?.map Filter.mk

/-- A text that may be missing or null. -/
def decodeText? : Option Value → Option (Option String)
  | none => some none
  | some .null => some none
  | some (.text s) => some (some s)
  | some _ => none

instance : Coded Caption where
  encode c :=
    .record ((c.name.map fun s => ("name", .text s)).toList ++
      (c.description.map fun s => ("description", .text s)).toList)
  decode v :=
    match v.fields? ["name", "description"] true with
    | some [name, description] =>
      match decodeText? name, decodeText? description with
      | some name, some description => some ⟨name, description⟩
      | _, _ => none
    | _ => none

instance : Coded Diagnostic where
  encode d := .record [("severity", encode d.severity), ("message", .text d.message)]
  decode v :=
    match v.fields? ["severity", "message"] false with
    | some [some severity, some message] =>
      match decode severity, message.text? with
      | some severity, some message => some ⟨severity, message⟩
      | _, _ => none
    | _ => none

instance : Coded Arrow where
  encode a :=
    .record [("source", encode a.source), ("trigger", encode a.trigger),
      ("destination", encode a.destination)]
  decode v :=
    match v.fields? ["source", "trigger", "destination"] false with
    | some [some source, some trigger, some destination] =>
      match decode source, decode trigger, decode destination with
      | some source, some trigger, some destination => some ⟨source, trigger, destination⟩
      | _, _, _ => none
    | _ => none

/-- Reads every value of a list. -/
def decodeAll {α : Type} [Coded α] : List Value → Option (List α)
  | [] => some []
  | v :: rest =>
    match decode v, decodeAll rest with
    | some a, some as => some (a :: as)
    | _, _ => none

instance {α : Type} [Coded α] : Coded (List α) where
  encode l := .list (l.map encode)
  decode v := v.items?.bind decodeAll

instance : Coded Graph where
  encode g := .record [("states", encode g.states), ("edges", encode g.arrows)]
  decode v :=
    match v.fields? ["states", "edges"] false with
    | some [some states, some arrows] =>
      match decode states, decode arrows with
      | some states, some arrows => some ⟨states, arrows⟩
      | _, _ => none
    | _ => none

theorem State.decode_encode (s : State) : decode (encode s) = some s := rfl

theorem Trigger.decode_encode (t : Trigger) : decode (encode t) = some t := rfl

theorem Phase.decode_encode (p : Phase) : decode (encode p) = some p := by
  cases p <;> rfl

theorem Severity.decode_encode (s : Severity) : decode (encode s) = some s := by
  cases s <;> rfl

theorem Caption.decode_encode (c : Caption) : decode (encode c) = some c := by
  obtain ⟨name, description⟩ := c
  cases name <;> cases description <;> rfl

theorem Diagnostic.decode_encode (d : Diagnostic) : decode (encode d) = some d := by
  obtain ⟨severity, message⟩ := d
  cases severity <;> rfl

theorem Arrow.decode_encode (a : Arrow) : decode (encode a) = some a := rfl

theorem decodeAll_encode {α : Type} [Coded α] (h : ∀ a : α, decode (encode a) = some a)
    (l : List α) : decode (encode l) = some l := by
  show decodeAll (l.map encode) = some l
  induction l with
  | nil => rfl
  | cons a l ih => rw [List.map_cons, decodeAll, h a, ih]

theorem Graph.decode_encode (g : Graph) : decode (encode g) = some g := by
  show (match decode (encode g.states), decode (encode g.arrows) with
    | some states, some arrows => some (Graph.mk states arrows)
    | _, _ => none) = some g
  rw [decodeAll_encode State.decode_encode, decodeAll_encode Arrow.decode_encode]

end StateMachine
