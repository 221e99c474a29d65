import StateMachine.Log

/-!
# Runs

Everything that may call a callback is a run: a computation that draws the identities of new
transitions from a counter and writes a log. Callbacks may fire further transitions without end,
so a run may also give up; it then has no result at all.

* `Run`: the computations; `Ran`: what a finished one leaves.
* `Run.emit`, `Run.fresh`, `Run.exhausted`: writing a line, drawing an identity, giving up.
* `Context.create`: the beginning of a transition.
* `Run.bind_eq_some_iff`: a run in two parts finishes exactly when both parts do, and leaves the log
  of the first part followed by that of the second (`Run.bind_apply_of_eq_some`).
-/

namespace StateMachine

/-- What a finished run leaves: its value, the next unused identity, and its log. -/
structure Ran (ε α : Type) where
  value : α
  next : Nat
  log : List ε
deriving DecidableEq

/-- A computation that begins at a next unused identity and, if it finishes, leaves a `Ran`. -/
def Run (ε α : Type) : Type := Nat → Option (Ran ε α)

namespace Run

variable {ε α β γ : Type}

/-- The run that only has a value. -/
protected def pure (a : α) : Run ε α := fun n => some ⟨a, n, []⟩

/-- One run after another; their logs are joined. -/
protected def bind (x : Run ε α) (f : α → Run ε β) : Run ε β := fun n =>
  match x n with
  | none => none
  | some r =>
    match f r.value r.next with
    | none => none
    | some s => some ⟨s.value, s.next, r.log ++ s.log⟩

instance : Monad (Run ε) where
  pure := Run.pure
  bind := Run.bind

/-- Writes one line. -/
def emit (e : ε) : Run ε Unit := fun n => some ⟨(), n, [e]⟩

/-- Draws a new identity. -/
def fresh : Run ε Nat := fun n => some ⟨n, n + 1, []⟩

/-- Gives up. -/
def exhausted : Run ε α := fun _ => none

theorem pure_apply (a : α) (n : Nat) : (pure a : Run ε α) n = some ⟨a, n, []⟩ := rfl

theorem emit_apply (e : ε) (n : Nat) : emit e n = some ⟨(), n, [e]⟩ := rfl

theorem bind_eq_some_iff {x : Run ε α} {f : α → Run ε β} {n : Nat} {t : Ran ε β} :
    (x >>= f) n = some t ↔
      ∃ r s, x n = some r ∧ f r.value r.next = some s ∧
        t = ⟨s.value, s.next, r.log ++ s.log⟩ := by
  show Run.bind x f n = some t ↔ _
  unfold Run.bind
  cases hx : x n with
  | none => simp
  | some r =>
    cases hf : f r.value r.next with
    | none => simp [hf]
    | some s => simp [hf, eq_comm]

/-- Once the first part of a run has finished, the second part decides. -/
theorem bind_apply_of_eq_some {x : Run ε α} {f : α → Run ε β} {n : Nat} {r : Ran ε α}
    (h : x n = some r) :
    (x >>= f) n = (f r.value r.next).map fun s => ⟨s.value, s.next, r.log ++ s.log⟩ := by
  show Run.bind x f n = _
  unfold Run.bind
  cases hf : f r.value r.next <;> simp [h, hf]

instance : LawfulMonad (Run ε) :=
  LawfulMonad.mk' (Run ε)
    (fun x => by
      funext n
      show Run.bind x (fun a => Run.pure a) n = x n
      unfold Run.bind Run.pure
      cases x n with
      | none => rfl
      | some r => simp)
    (fun a f => by
      funext n
      show Run.bind (Run.pure a) f n = f a n
      unfold Run.bind Run.pure
      cases h : f a n with
      | none => simp [h]
      | some s => simp [h])
    (fun x f g => by
      funext n
      show Run.bind (Run.bind x f) g n = Run.bind x (fun a => Run.bind (f a) g) n
      unfold Run.bind
      cases x n with
      | none => rfl
      | some r =>
        cases hf : f r.value r.next with
        | none => simp [hf]
        | some s =>
          cases hg : g s.value s.next with
          | none => simp [hf, hg]
          | some t => simp [hf, hg, List.append_assoc])

theorem map_apply_of_eq_some {x : Run ε α} {f : α → β} {n : Nat} {r : Ran ε α} (h : x n = some r) :
    (f <$> x) n = some ⟨f r.value, r.next, r.log⟩ := by
  rw [← bind_pure_comp, bind_apply_of_eq_some h]
  simp [pure_apply]

end Run

/-- Begins a transition: the context gets an identity of its own. -/
def Context.create {ε : Type} (source destination : State) (trigger : Trigger) :
    Run ε Context := do
  let id ← Run.fresh
  pure ⟨id, source, destination, trigger⟩

end StateMachine
