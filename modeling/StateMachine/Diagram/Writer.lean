import StateMachine.Failure

/-!
# Writers

A writer takes bytes a portion at a time and may fail. To write a text is to offer what has not
been taken yet until nothing is left; a writer that takes nothing has failed too.

* `Writer`: takes some of the bytes it is offered; `Writer.writeAll` and `Writer.writeTexts` offer
  until everything is taken or the writer fails.
* `Writer.writeNext`: the same, if nothing has failed before.
* `Sink`: what a writer with a limited capacity has taken so far; `Sink.writer` is that writer.
* `Sink.tail?`: the last bytes taken, as text.
-/

namespace StateMachine

/-- The UTF-8 bytes of a text. -/
def utf8 (text : String) : List UInt8 := text.toUTF8.data.toList

/-- A writer with states `σ`: offered some bytes, it fails or takes a number of them. An offer that
is interrupted comes to neither; it is made again, and only then counts as an answer. -/
structure Writer (σ : Type) where
  write : σ → List UInt8 → σ × Except Failure Nat

namespace Writer

variable {σ : Type}

/-- The failure of a writer that takes nothing. -/
def stuck : Failure := .plain "failed to write whole buffer"

/-- Offers bytes until all are taken or the writer fails. -/
def writeAll (w : Writer σ) (s : σ) (bytes : List UInt8) : σ × Except Failure Unit :=
  match bytes with
  | [] => (s, .ok ())
  | b :: rest =>
    match w.write s (b :: rest) with
    | (s', .error f) => (s', .error f)
    | (s', .ok 0) => (s', .error stuck)
    | (s', .ok (taken + 1)) => writeAll w s' (rest.drop taken)
termination_by bytes.length
decreasing_by
  simp only [List.length_drop, List.length_cons]
  omega

/-- Writes texts one after the other, until the writer fails. -/
def writeTexts (w : Writer σ) : σ → List String → σ × Except Failure Unit
  | s, [] => (s, .ok ())
  | s, text :: rest =>
    match w.writeAll s (utf8 text) with
    | (s', .error f) => (s', .error f)
    | (s', .ok ()) => writeTexts w s' rest

/-- Writes texts after other texts, unless the writer has failed. -/
def writeNext (w : Writer σ) : σ × Except Failure Unit → List String → σ × Except Failure Unit
  | (s, .error f), _ => (s, .error f)
  | (s, .ok ()), texts => w.writeTexts s texts

end Writer

/-- What becomes of bytes that find no room: the writer fails, or it takes none. -/
inductive Overflow
  | failing (failure : Failure)
  | stalling
deriving DecidableEq

/-- The room that is left, and the bytes taken so far. -/
structure Sink where
  room : Nat
  taken : List UInt8
deriving DecidableEq

namespace Sink

/-- An empty sink for the given number of bytes. -/
def ofCapacity (capacity : Nat) : Sink := ⟨capacity, []⟩

/-- A writer that takes what there is room for, but at most a portion at a time, which may depend
on everything. -/
def writer (overflow : Overflow) (portion : Sink → List UInt8 → Nat) : Writer Sink where
  write s bytes :=
    match s.room with
    | 0 =>
      match overflow with
      | .failing f => (s, .error f)
      | .stalling => (s, .ok 0)
    | room + 1 =>
      let count := min (min (max 1 (portion s bytes)) (room + 1)) bytes.length
      (⟨room + 1 - count, s.taken ++ bytes.take count⟩, .ok count)

/-- A portion that leaves nothing back. -/
def whole (_ : Sink) (bytes : List UInt8) : Nat := bytes.length

/-- The last bytes taken, as text if they are one. -/
def tail? (s : Sink) (count : Nat) : Option String :=
  String.fromUTF8? ⟨(s.taken.drop (s.taken.length - count)).toArray⟩

end Sink

end StateMachine
