import StateMachine.Proofs.Extension

/-!
# The order of declarations

The declarations of different states may come in any order, mixed with each other and with side
effects. Only positions depend on it, and nothing that a machine answers depends on positions.

* `Machine.compile`: the machine that declarations leave.
* `OrderFree`: what two lists of declarations have in common.
* `order_free`: lists that hold the same declarations for each state and for the side effects have
  that in common, whatever captions they give to states.
-/

namespace StateMachine

variable {π ν : Type} [Payload π]

omit [Payload π] in
/-- The machine that declarations leave. -/
def Machine.compile (declarations : List (Declaration π ν)) (stopwatch : Nat → Phase → Nat) :
    Machine π ν :=
  ⟨.build declarations, stopwatch, Definition.sound_build declarations⟩

/-- What two lists of declarations have in common that differ in the order of their states. -/
structure OrderFree (declarations declarations' : List (Declaration π ν)) : Prop where
  /-- Declarations for the same address are answered alike, each in its turn. -/
  answers : ∀ address, Definition.empty.answersAt address declarations =
    Definition.empty.answersAt address declarations'
  /-- Every state has the same edges and guards, and the same steps and error handlers, all with the
  same labels. -/
  nodes : ∀ state, ((Definition.build declarations).node? state).map Node.uncaptioned =
    ((Definition.build declarations').node? state).map Node.uncaptioned
  /-- The same side effects are registered, with the same labels. -/
  effects : (Definition.build declarations).effects = (Definition.build declarations').effects
  /-- Every state has the same triggers, in the same order. -/
  triggers : ∀ stopwatch stopwatch', (Machine.compile declarations stopwatch).triggers =
    (Machine.compile declarations' stopwatch').triggers
  /-- With the same identities and times, a fire has the same result, leaves the same payload and
  calls the same callbacks, and so do the fires within it. -/
  fire : ∀ stopwatch depth payload trigger,
    (Machine.compile declarations stopwatch).fire depth payload trigger =
      (Machine.compile declarations' stopwatch).fire depth payload trigger
  /-- The same for the question whether a trigger could be fired. -/
  canFire : ∀ stopwatch depth payload trigger,
    (Machine.compile declarations stopwatch).canFire depth payload trigger =
      (Machine.compile declarations' stopwatch).canFire depth payload trigger
  /-- If callbacks do not look at identities and times, the fires are alike for all identities and
  times. -/
  fire_alike : ∀ hush : ν → ν, (Definition.build declarations).Blind hush →
    ∀ stopwatch stopwatch' depth payload trigger, Run.Alike hush Outcome.anonymousLeft
      ((Machine.compile declarations stopwatch).fire depth payload trigger)
      ((Machine.compile declarations' stopwatch').fire depth payload trigger)
  /-- The same for the question whether a trigger could be fired. -/
  canFire_alike : ∀ hush : ν → ν, (Definition.build declarations).Blind hush →
    ∀ stopwatch stopwatch' depth payload trigger, Run.Alike hush (veiled FireError.anonymous id)
      ((Machine.compile declarations stopwatch).canFire depth payload trigger)
      ((Machine.compile declarations' stopwatch').canFire depth payload trigger)
  /-- Validation finds the same errors. -/
  errors : (Definition.build declarations).errors.Perm (Definition.build declarations').errors
  /-- Validation finds the same warnings. -/
  warnings : (Definition.build declarations).warnings.Perm (Definition.build declarations').warnings

variable {declarations declarations' : List (Declaration π ν)}

omit [Payload π] in
theorem agree_compile
    (same : ∀ address, addressed address declarations = addressed address declarations')
    (stopwatch : Nat → Phase → Nat) :
    (Machine.compile declarations stopwatch).Agree (Machine.compile declarations' stopwatch) :=
  ⟨rfl, fun address => (Definition.build_agreeAt (same address)).2⟩

/-- The order in which different states are declared is of no consequence, and neither are their
captions. -/
theorem order_free
    (same : ∀ address, addressed address declarations = addressed address declarations') :
    OrderFree declarations declarations' where
  answers address := (Definition.build_agreeAt (same address)).1
  nodes state := (Definition.build_agreeAt (same (some state))).2
  effects := (Definition.build_agreeAt (same none)).2
  triggers stopwatch stopwatch' := (agree_compile same stopwatch).triggers_eq
  fire stopwatch depth payload trigger := by rw [(agree_compile same stopwatch).fire_eq]
  canFire stopwatch depth payload trigger := by rw [(agree_compile same stopwatch).canFire_eq]
  fire_alike hush blind stopwatch stopwatch' depth payload trigger := by
    have timed : (Machine.compile declarations stopwatch).definition =
        (Machine.compile declarations stopwatch').definition := rfl
    rw [← (agree_compile same stopwatch').fire_eq]
    exact Machine.alike_fire timed blind depth payload trigger
  canFire_alike hush blind stopwatch stopwatch' depth payload trigger := by
    have timed : (Machine.compile declarations stopwatch).definition =
        (Machine.compile declarations stopwatch').definition := rfl
    rw [← (agree_compile same stopwatch').canFire_eq]
    exact Machine.alike_canFire timed blind depth payload trigger
  errors := (agree_compile same fun _ _ => 0).errors_perm
  warnings := (agree_compile same fun _ _ => 0).warnings_perm

/-! ## A switch to look at -/

/-- A switch, state by state. -/
def switch : List (Declaration Subject Remark) := [
  .configure ⟨"off"⟩ .plain
    [.permitIf ⟨"press"⟩ ⟨"on"⟩ (Script.predicate .done),
      .onExit none none (Script.operation (.act (.add "clicks" 1) .done))],
  .reopen ⟨"off"⟩ [.permit ⟨"press"⟩ ⟨"stuck"⟩ none],
  .configure ⟨"on"⟩ .plain [.onEntry none none (Script.operation (.act .enter .done))],
  .effect .beforeTransition none (Script.effect .done)]

/-- The same switch from the other end, with a caption. -/
def switchBackwards : List (Declaration Subject Remark) := [
  .effect .beforeTransition none (Script.effect .done),
  .configure ⟨"on"⟩ ⟨some "On", none⟩
    [.onEntry none none (Script.operation (.act .enter .done))],
  .configure ⟨"off"⟩ .plain
    [.permitIf ⟨"press"⟩ ⟨"on"⟩ (Script.predicate .done),
      .onExit none none (Script.operation (.act (.add "clicks" 1) .done))],
  .reopen ⟨"off"⟩ [.permit ⟨"press"⟩ ⟨"stuck"⟩ none]]

theorem addressed_switch (address : Option State) :
    addressed address switch = addressed address switchBackwards := by
  by_cases effects : address = none
  · subst effects
    rfl
  by_cases off : address = some ⟨"off"⟩
  · subst off
    rfl
  by_cases on : address = some ⟨"on"⟩
  · subst on
    rfl
  -- nothing is declared for any other state
  simp [addressed, switch, switchBackwards, Declaration.address, Ne.symm effects, Ne.symm off,
    Ne.symm on]

theorem switch_blind : (Definition.build switch).Blind Remark.anonymous := by
  refine Definition.meets_build (List.forall_mem_cons.2 ⟨?_, List.forall_mem_cons.2 ⟨?_,
    List.forall_mem_cons.2 ⟨?_, List.forall_mem_singleton.2 (Script.blind_effect _)⟩⟩⟩)
  · exact List.forall_mem_cons.2
      ⟨Script.blind_predicate _, List.forall_mem_singleton.2 (Script.blind_operation _)⟩
  · exact List.forall_mem_singleton.2 fun _ unguarded => nomatch unguarded
  · exact List.forall_mem_singleton.2 (Script.blind_operation _)

/-- The switch works the same from both ends, with other identities and times as well. -/
theorem switch_order_free :
    (∀ address, addressed address switch = addressed address switchBackwards) ∧
      (Definition.build switch).Blind Remark.anonymous ∧
      OrderFree switch switchBackwards ∧
      ∀ stopwatch stopwatch' depth payload trigger,
        Run.Alike Remark.anonymous Outcome.anonymousLeft
          ((Machine.compile switch stopwatch).fire depth payload trigger)
          ((Machine.compile switchBackwards stopwatch').fire depth payload trigger) :=
  ⟨addressed_switch, switch_blind, order_free addressed_switch,
    (order_free addressed_switch).fire_alike _ switch_blind⟩

end StateMachine
