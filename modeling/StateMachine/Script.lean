import StateMachine.Machine
import StateMachine.Value

/-!
# Scripts

A small language for callbacks. A script is a list of actions on a subject: a state, some
variables and some notes. What a script may do depends on where it stands: guards and side effects
may only look, steps may change their subject, and error handlers may also report another
destination and quote their cause. An action that a script may not do does nothing.

* `Subject`: the payloads of scripts.
* `Action`, `Condition`, `Script`: the language.
* `Remark`: what scripts leave in the log.
* `Script.code`: the callback that a script is; `Script.predicate`, `Script.operation`,
  `Script.handler` and `Script.effect` place it.
* `Script.detached`: what is left of a script where there is no machine. Its code runs in the same
  way on every host (`Script.run_code_detached`).
-/

namespace StateMachine

/-- The payload of scripts. A variable that was never set is zero. -/
structure Subject where
  state : State
  vars : List (String × Int)
  notes : List String
deriving DecidableEq

instance : Payload Subject := ⟨Subject.state⟩

namespace Subject

/-- The value of a variable. -/
def var (s : Subject) (name : String) : Int := (s.vars.lookup name).getD 0

/-- Sets a variable. -/
def set (s : Subject) (name : String) (n : Int) : Subject :=
  { s with vars := s.vars.filter (fun v => v.1 ≠ name) ++ [(name, n)] }

/-- Adds a note. -/
def note (s : Subject) (text : String) : Subject := { s with notes := s.notes ++ [text] }

end Subject

/-- How a variable is compared with a number. -/
inductive Comparison
  | less
  | atLeast
  | different
  | equal
deriving DecidableEq

/-- Whether a comparison holds. -/
def Comparison.holds : Comparison → Int → Int → Bool
  | less, a, b => a < b
  | atLeast, a, b => a ≥ b
  | different, a, b => a ≠ b
  | equal, a, b => a = b

/-- A condition on a subject. -/
inductive Condition
  | var (name : String) (comparison : Comparison) (n : Int)
  | state (state : State)
deriving DecidableEq

/-- Whether a condition holds. -/
def Condition.holds : Condition → Subject → Bool
  | var name comparison n, s => comparison.holds (s.var name) n
  | state t, s => s.state = t

/-- An action of a script. -/
inductive Action
  /-- Leaves a value in the log. -/
  | log (value : Value)
  /-- Asks whether a trigger could be fired, and leaves the answer in the log. -/
  | canFire (trigger : Trigger)
  /-- Sets a variable. -/
  | set (name : String) (n : Int)
  /-- Adds to a variable. -/
  | add (name : String) (n : Int)
  /-- Sets the state. -/
  | move (state : State)
  /-- Sets the state to the current destination of the transition. -/
  | enter
  /-- Adds a note. -/
  | note (text : String)
  /-- Fires a trigger and leaves the answer in the log; unless the script is tolerant, an error
  ends it with a failure of the same text. -/
  | fire (tolerant : Bool) (trigger : Trigger)
  /-- Reports another destination. -/
  | retarget (destination : State)
  /-- Notes what the cause says. -/
  | quote

/-- A script. -/
inductive Script
  /-- The end: success. -/
  | done
  /-- An action, and the rest. -/
  | act (action : Action) (rest : Script)
  /-- Ends at once with a verdict. -/
  | stop (verdict : Verdict)
  /-- A script that is run if a condition holds, and the rest. -/
  | when (condition : Condition) (body rest : Script)

/-- What scripts leave in the log. -/
inductive Remark
  | logged (value : Value)
  | canFire (trigger : Trigger) (answer : Except FireError Unit)
  | fired (tolerant : Bool) (trigger : Trigger) (answer : Except FireError Context)

/-- What a script may do. -/
inductive Grant
  | look
  | change
  | recover (cause : ChainError)
deriving DecidableEq

/-- Whether a script may change its subject. -/
def Grant.changes : Grant → Bool
  | look => false
  | change => true
  | recover _ => true

/-- What an action does to the subject alone. -/
def Action.alter (ctx : Context) : Action → Subject → Subject
  | set name n, s => s.set name n
  | add name n, s => s.set name (s.var name + n)
  | move state, s => { s with state := state }
  | enter, s => { s with state := ctx.destination }
  | note text, s => s.note text
  | _, s => s

/-- The code of an action, followed by the given code. -/
def Action.code (grant : Grant) (ctx : Context) (s : Subject)
    (next : Subject → Context → Code Subject Remark) : Action → Code Subject Remark
  | log value => .remark (.logged value) (next s ctx)
  | canFire trigger =>
    .canFire s trigger fun answer => .remark (.canFire trigger answer) (next s ctx)
  | fire tolerant trigger =>
    if grant.changes then
      .fire s trigger fun left answer =>
        .remark (.fired tolerant trigger answer) <|
          match answer with
          | .ok _ => next left ctx
          | .error e =>
            if tolerant then next left ctx else .finish left (.fail (.plain e.message))
    else next s ctx
  | retarget destination =>
    match grant with
    | .recover _ => .retarget destination (next s (ctx.retarget destination))
    | _ => next s ctx
  | quote =>
    match grant with
    | .recover cause => next (s.note cause.message) ctx
    | _ => next s ctx
  | action => next (if grant.changes then action.alter ctx s else s) ctx

namespace Script

/-- The code of a script, followed by the given code if the script does not stop. -/
def codeThen (grant : Grant) :
    Script → Context → Subject → (Subject → Context → Code Subject Remark) → Code Subject Remark
  | done, ctx, s, next => next s ctx
  | act action rest, ctx, s, next =>
    action.code grant ctx s fun s ctx => rest.codeThen grant ctx s next
  | stop verdict, _, s, _ => .finish s verdict
  | .when condition body rest, ctx, s, next =>
    if condition.holds s then
      body.codeThen grant ctx s fun s ctx => rest.codeThen grant ctx s next
    else rest.codeThen grant ctx s next

/-- The code of a script. -/
def code (grant : Grant) (script : Script) (ctx : Context) (s : Subject) : Code Subject Remark :=
  script.codeThen grant ctx s fun s _ => .finish s .ok

/-- A script without the actions that call the machine: what it does where there is none. -/
def detached : Script → Script
  | done => done
  | act (.canFire _) rest => rest.detached
  | act (.fire _ _) rest => rest.detached
  | act action rest => .act action rest.detached
  | stop verdict => .stop verdict
  | .when condition body rest => .when condition body.detached rest.detached

/-- A script as the condition of a guard. -/
def predicate (script : Script) (s : Subject) (ctx : Context) : Code Subject Remark :=
  script.code .look ctx s

/-- A script as the operation of a step. -/
def operation (script : Script) (s : Subject) (ctx : Context) : Code Subject Remark :=
  script.code .change ctx s

/-- A script as an error handler. -/
def handler (script : Script) (s : Subject) (ctx : Context) (cause : ChainError) :
    Code Subject Remark :=
  script.code (.recover cause) ctx s

/-- A script as a side effect. -/
def effect (script : Script) (_ : Phase) (s : Subject) (ctx : Context) (_ : Nat) :
    Code Subject Remark :=
  script.code .look ctx s

theorem run_codeThen_detached (host host' : Host Subject Remark) (grant : Grant)
    (script : Script) (ctx : Context) (s : Subject)
    (next : Subject → Context → Code Subject Remark)
    (h : ∀ s ctx shown, (next s ctx).run host shown = (next s ctx).run host' shown)
    (shown : Context) :
    (script.detached.codeThen grant ctx s next).run host shown =
      (script.detached.codeThen grant ctx s next).run host' shown := by
  induction script generalizing ctx s next shown with
  | done => exact h s ctx shown
  | stop verdict => rfl
  | when condition body rest ihBody ihRest =>
    simp only [detached, codeThen]
    split
    · exact ihBody _ _ _ (fun s ctx shown => ihRest _ _ _ h shown) _
    · exact ihRest _ _ _ h _
  | act action rest ih =>
    cases action with
    | log value => simp only [detached, codeThen, Action.code, Code.run, ih _ _ _ h]
    | retarget destination =>
      cases grant <;> simp only [detached, codeThen, Action.code, Code.run, ih _ _ _ h]
    | quote => cases grant <;> exact ih _ _ _ h _
    | _ => exact ih _ _ _ h _

/-- A detached script asks its host for nothing. -/
theorem run_code_detached (host host' : Host Subject Remark) (grant : Grant) (script : Script)
    (ctx : Context) (s : Subject) (shown : Context) :
    (script.detached.code grant ctx s).run host shown =
      (script.detached.code grant ctx s).run host' shown :=
  run_codeThen_detached host host' grant script ctx s _ (fun _ _ _ => rfl) shown

end Script

end StateMachine
