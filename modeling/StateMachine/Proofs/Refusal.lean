import StateMachine.Proofs.Protocol

/-!
# Refusals

A fire may be refused before its transition begins. Then it answers with an error that is not one of
a list of callbacks, and it leaves the payload as it was.

* `FireError.refuses`: the errors of a fire that has not begun its transition. The errors of an
  edge are such, and never that a state is missing (`Edge.Admits.ne_stateNotFound`).
* `Machine.fire_of_lost`, `Machine.fire_of_nowhere`: the fires that find no way ask nobody.
* `Machine.way`: the three ways in which a trigger may be resolved.
* `Machine.refusal_of_fire`: the reasons why a fire is refused. A fire that misses a state misses
  its own or the destination (`Machine.stateNotFound_of_fire`).
-/

namespace StateMachine

/-- Whether an error tells that no transition has begun. -/
def FireError.refuses : FireError → Bool
  | stateNotFound _ => true
  | triggerNotFound _ _ => true
  | guardRejected _ _ _ _ => true
  | guardPanicked _ => true
  | chain _ _ => false

variable {π ν : Type}

namespace Edge.Admits

variable {host : Host π ν} {edge : Edge π ν} {payload : π} {ctx : Context}
  {hs : List (Happening host)} {e : FireError}

theorem refuses (h : edge.Admits host payload ctx hs (.error e)) : e.refuses = true := by
  rcases h.error_eq with ⟨_, _, rfl⟩ | ⟨_, _, rfl⟩ <;> rfl

theorem ne_stateNotFound (h : edge.Admits host payload ctx hs (.error e)) (x : State) :
    e ≠ .stateNotFound x := by
  rcases h.error_eq with ⟨_, _, rfl⟩ | ⟨_, _, rfl⟩ <;> exact FireError.noConfusion

end Edge.Admits

namespace Machine

variable {m : Machine π ν} {payload : π} {trigger : Trigger} {e : FireError}
  {node source destination : Node π ν} {edge : Edge π ν} {x : State}

/-- A course that ends in a refusal is that of a fire whose guard did not let it pass. -/
theorem Course.admits_of_refuses {host : Host π ν} {ctx : Context} {left : π}
    {hs : List (Happening host)} (refuses : e.refuses = true)
    (h : m.Course host source edge destination ctx payload hs (left, .answered (.error e))) :
    left = payload ∧ edge.Admits host payload ctx hs (.error e) := by
  cases h with
  | refused guard => exact ⟨rfl, guard⟩
  | exitFailed => exact nomatch refuses
  | entryFailed => exact nomatch refuses

/-- A fire that finds its way is refused by its guard, or goes on to tell the side effects before
the transition. -/
theorem Course.begins {host : Host π ν} {ctx : Context} {hs : List (Happening host)}
    {out : π × Outcome} (h : m.Course host source edge destination ctx payload hs out) :
    (∃ e, edge.Admits host payload ctx hs (.error e) ∧ out = (payload, .answered (.error e))) ∨
      ∃ g b r rest, edge.Admits host payload ctx g (.ok ()) ∧
        m.Tells host .beforeTransition payload ctx b r ∧
        hs = g ++ .event (.firing ctx) :: (b ++ rest) := by
  cases h with
  | refused guard => exact .inl ⟨_, guard, rfl⟩
  | cutBefore guard before => exact .inr ⟨_, _, _, [], guard, before, by simp⟩
  | cutRecovery guard before => exact .inr ⟨_, _, _, _, guard, before, rfl⟩
  | exitFailed guard before => exact .inr ⟨_, _, _, _, guard, before, rfl⟩
  | cutBetween guard before => exact .inr ⟨_, _, _, _, guard, before, rfl⟩
  | entryFailed guard before => exact .inr ⟨_, _, _, _, guard, before, rfl⟩
  | cutAfter guard before => exact .inr ⟨_, _, _, _, guard, before, rfl⟩
  | completed guard before => exact .inr ⟨_, _, _, _, guard, before, rfl⟩

variable [Payload π]

theorem refuses_of_lost (lost : m.resolve payload trigger = .error e) : e.refuses = true := by
  rcases resolve_eq_error lost with ⟨-, rfl⟩ | ⟨_, -, -, rfl⟩ <;> rfl

theorem ne_stateNotFound_of_lost (configured : m.definition.contains (Payload.state payload) = true)
    (lost : m.resolve payload trigger = .error e) : e ≠ .stateNotFound x := by
  rcases resolve_eq_error lost with ⟨none, -⟩ | ⟨_, -, -, rfl⟩
  · exact nomatch (m.sound.node?_eq_none_iff.1 none).symm.trans configured
  · exact FireError.noConfusion

theorem fire_of_lost (lost : m.resolve payload trigger = .error e) (depth n : Nat) :
    m.fire depth payload trigger n = some ⟨(payload, .answered (.error e)), n, []⟩ := by
  rw [fire, fireOn, lost]
  rfl

theorem canFire_of_lost (lost : m.resolve payload trigger = .error e) (depth n : Nat) :
    m.canFire depth payload trigger n = some ⟨.error e, n, []⟩ := by
  rw [canFire, canFireOn, lost]
  rfl

/-- A destination that is not configured is noticed before the guard is asked. -/
theorem fire_of_nowhere (found : m.resolve payload trigger = .ok (node, edge))
    (none : m.definition.node? edge.destination = none) (depth n : Nat) :
    m.fire depth payload trigger n =
      some ⟨(payload, .answered (.error (.stateNotFound edge.destination))), n, []⟩ := by
  rw [fire, fireOn, found]
  simp only [none]
  rfl

theorem way (m : Machine π ν) (payload : π) (trigger : Trigger) :
    (∃ e, m.resolve payload trigger = .error e) ∨
      (∃ node edge, m.resolve payload trigger = .ok (node, edge) ∧
        m.definition.node? edge.destination = none) ∨
      ∃ source edge destination, m.Leads payload trigger source edge destination := by
  cases found : m.resolve payload trigger with
  | error e => exact .inl ⟨e, rfl⟩
  | ok r =>
    obtain ⟨node, edge⟩ := r
    cases goal : m.definition.node? edge.destination with
    | none => exact .inr (.inl ⟨node, edge, rfl, goal⟩)
    | some destination =>
      obtain ⟨hs, he⟩ := resolve_eq_ok_iff.1 found
      exact .inr (.inr ⟨node, edge, destination, hs, he, goal⟩)

/-- Why a fire is refused: it finds no edge, or its edge leads nowhere, or the guard of the edge
does not let it pass. -/
theorem refusal_of_fire {depth n : Nat} {ran : Ran (Entry π ν) (π × Outcome)}
    (h : m.fire depth payload trigger n = some ran) (refuses : e.refuses = true)
    (refused : ran.value.2 = .answered (.error e)) :
    m.resolve payload trigger = .error e ∨
      (∃ node edge, m.resolve payload trigger = .ok (node, edge) ∧
        m.definition.node? edge.destination = none ∧ e = .stateNotFound edge.destination) ∨
      (∃ s t guard failure, e = .guardRejected s t guard failure) ∨
      ∃ panic, e = .guardPanicked panic := by
  rcases m.way payload trigger with ⟨e', lost⟩ | ⟨node, edge, found, none⟩ |
    ⟨source, edge, destination, leads⟩
  · rw [fire_of_lost lost] at h
    obtain rfl := Option.some.inj h
    obtain rfl : e' = e := by simpa using refused
    exact .inl lost
  · rw [fire_of_nowhere found none] at h
    obtain rfl := Option.some.inj h
    exact .inr (.inl ⟨node, edge, found, none, by simpa using refused.symm⟩)
  · obtain ⟨hs, course, -⟩ := course_of_fire leads h
    obtain ⟨⟨left, outcome⟩, next, log⟩ := ran
    obtain rfl : outcome = .answered (.error e) := refused
    obtain ⟨-, guard⟩ := course.admits_of_refuses refuses
    rcases guard.error_eq with ⟨_, _, rfl⟩ | ⟨_, _, rfl⟩
    · exact .inr (.inr (.inl ⟨_, _, _, _, rfl⟩))
    · exact .inr (.inr (.inr ⟨_, rfl⟩))

/-- A fire answers that a state is missing if it finds no way, and for no other reason. -/
theorem stateNotFound_of_fire {depth n : Nat} {ran : Ran (Entry π ν) (π × Outcome)}
    (h : m.fire depth payload trigger n = some ran)
    (missing : ran.value.2 = .answered (.error (.stateNotFound x))) :
    m.resolve payload trigger = .error (.stateNotFound x) ∨
      ∃ node edge, m.resolve payload trigger = .ok (node, edge) ∧
        m.definition.node? edge.destination = none ∧ edge.destination = x := by
  rcases refusal_of_fire h rfl missing with
    lost | ⟨node, edge, found, none, same⟩ | ⟨_, _, _, _, other⟩ | ⟨_, other⟩
  · exact .inl lost
  · exact .inr ⟨node, edge, found, none, (FireError.stateNotFound.inj same).symm⟩
  · exact nomatch other
  · exact nomatch other

/-- A fire answers that a trigger is missing if it finds no edge, and for no other reason. -/
theorem triggerNotFound_of_fire {depth n : Nat} {ran : Ran (Entry π ν) (π × Outcome)} {t : Trigger}
    (h : m.fire depth payload trigger n = some ran)
    (missing : ran.value.2 = .answered (.error (.triggerNotFound x t))) :
    m.resolve payload trigger = .error (.triggerNotFound x t) := by
  rcases refusal_of_fire h rfl missing with
    lost | ⟨_, _, _, _, other⟩ | ⟨_, _, _, _, other⟩ | ⟨_, other⟩
  · exact lost
  · exact nomatch other
  · exact nomatch other
  · exact nomatch other

end Machine

end StateMachine
