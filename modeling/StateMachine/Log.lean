import StateMachine.Event

/-!
# The log of a run

A run leaves one log: every time a callback of the user was handed control and every time it gave
control back, every event, and every remark that a callback made, in the order in which they
happened. What one wants to know of a run is a view of its log.

* `Role`, `Call`: which kind of callback was called, and what it was given.
* `Verdict`, `Settled`: how a callback ended, and what it left.
* `Entry`: one line of a log.
* `calls`, `events`, `contextIds`: views of a log.
-/

namespace StateMachine

/-- The list a step belongs to: the exit steps or the entry steps of a state, or a list that
stands on its own. -/
inductive Side
  | exit
  | entry
  | alone
deriving DecidableEq

/-- What a callback was called for. -/
inductive Role
  | edgeGuard
  | stepGuard (side : Side)
  | operation (side : Side)
  | handler (cause : ChainError)
  | effect (phase : Phase) (elapsed : Nat)
deriving DecidableEq

/-- A call of a callback: its role and label, and the context and the payload it was given. -/
structure Call (π : Type) where
  role : Role
  label : String
  context : Context
  payload : π
deriving DecidableEq

/-- How a callback ends. -/
inductive Verdict
  | ok
  | fail (failure : Failure)
  | panic (value : Raised)
deriving DecidableEq

/-- What a callback leaves when it ends: the payload, the context with the last destination it
reported, and its verdict. -/
structure Settled (π : Type) where
  payload : π
  context : Context
  verdict : Verdict
deriving DecidableEq

/-- A line of the log. -/
inductive Entry (π ν : Type) where
  /-- A callback was handed control. -/
  | call (c : Call π)
  /-- A callback gave control back. -/
  | settled (c : Call π) (s : Settled π)
  /-- The machine reported something. -/
  | event (e : Event)
  /-- A callback made a remark. -/
  | remark (r : ν)
deriving DecidableEq

variable {π ν : Type}

namespace Entry

/-- The call a line records, if it records one. -/
def call? : Entry π ν → Option (Call π)
  | call c => some c
  | _ => none

/-- The event a line records, if it records one. -/
def event? : Entry π ν → Option Event
  | event e => some e
  | _ => none

/-- The transition a line shows to the user: the one a callback was given, or the one a
successful fire returned. -/
def shown? : Entry π ν → Option Context
  | call c => some c.context
  | event (.complete ctx) => some ctx
  | _ => none

end Entry

/-- The calls of a log, in order. -/
def calls (log : List (Entry π ν)) : List (Call π) := log.filterMap Entry.call?

/-- The events of a log, in order. -/
def events (log : List (Entry π ν)) : List Event := log.filterMap Entry.event?

/-- The identities of the transitions that a log shows to the user, each once. -/
def contextIds (log : List (Entry π ν)) : List Nat :=
  (log.filterMap fun e => e.shown?.map Context.id).eraseDups

@[simp] theorem calls_append (l l' : List (Entry π ν)) : calls (l ++ l') = calls l ++ calls l' :=
  List.filterMap_append

@[simp] theorem events_append (l l' : List (Entry π ν)) :
    events (l ++ l') = events l ++ events l' :=
  List.filterMap_append

end StateMachine
