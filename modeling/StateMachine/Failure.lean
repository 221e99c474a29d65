/-!
# Failures

A failure is an error returned by a callback or a writer: its own text and the texts of the
failures that caused it, outermost first.

* `Failure`: text and causes; `Failure.texts` lists both.
* `IoFailure`: a failure of reading or writing, either a bare kind (`IoKind`) or one that wraps
  another failure; `IoFailure.failure` is what it says.
-/

namespace StateMachine

/-- An error with the texts of its causes, outermost first. -/
structure Failure where
  text : String
  causes : List String
deriving DecidableEq

namespace Failure

/-- A failure without a cause. -/
def plain (text : String) : Failure := ⟨text, []⟩

/-- The failure with the given texts, outermost first; without texts, it says nothing. -/
def ofTexts : List String → Failure
  | [] => plain ""
  | text :: causes => ⟨text, causes⟩

/-- All texts of a failure, outermost first. -/
def texts (f : Failure) : List String := f.text :: f.causes

@[simp] theorem ofTexts_texts (f : Failure) : ofTexts f.texts = f := rfl

theorem texts_ofTexts {ts : List String} (h : ts ≠ []) : (ofTexts ts).texts = ts := by
  cases ts with
  | nil => exact absurd rfl h
  | cons t ts => rfl

end Failure

/-- Kinds of input or output failures that carry no text of their own. -/
inductive IoKind
  | notFound
  | brokenPipe
  | timedOut
  | permissionDenied
deriving DecidableEq

/-- The text that stands for a kind. -/
def IoKind.text : IoKind → String
  | .notFound => "entity not found"
  | .brokenPipe => "broken pipe"
  | .timedOut => "timed out"
  | .permissionDenied => "permission denied"

/-- A failure of input or output. -/
inductive IoFailure
  | ofKind (kind : IoKind)
  | wrapping (failure : Failure)
deriving DecidableEq

/-- What an input or output failure says: a wrapped failure speaks for itself, causes included. -/
def IoFailure.failure : IoFailure → Failure
  | .ofKind kind => .plain kind.text
  | .wrapping f => f

end StateMachine
