import StateMachine.Proofs.Congruence

/-!
# Depth

Callbacks may call the machine within each other only so deep; a deeper call makes the run give up.
Nothing else depends on the depth.

* `Run.Below`, `Host.Below`: what finishes on the left finishes in the same way on the right.
* `Code.mono`: code asks its host and does nothing else with it.
* `Machine.fire_mono`, `Machine.canFire_mono`: a question that is answered is answered in the same
  way at every greater depth.
* `Machine.fire_unique`: two fires that finish agree, however deep callbacks may call in each.
-/

namespace StateMachine

variable {ε π ν α : Type}

/-- Whether a run that finishes does so as the other one does. -/
def Run.Below (x y : Run ε α) : Prop := ∀ n ran, x n = some ran → y n = some ran

theorem Run.Below.refl (x : Run ε α) : Below x x := fun _ _ h => h

theorem Run.congruence_below : Run.Congruence fun _ (x y : Run ε _) => x.Below y where
  pure _ := .refl _
  emit _ := .refl _
  fresh := .refl _
  bind hx hy n ran h := by
    obtain ⟨r, s, hr, hs, rfl⟩ := Run.bind_eq_some_iff.1 h
    exact Run.bind_eq_some_iff.2 ⟨r, s, hx _ _ hr, hy _ _ _ hs, rfl⟩

/-- Whether whatever a host answers is answered in the same way by another one. -/
structure Host.Below (host host' : Host π ν) : Prop where
  triggers : host.triggers = host'.triggers
  canFire : ∀ payload trigger, (host.canFire payload trigger).Below (host'.canFire payload trigger)
  fire : ∀ payload trigger, (host.fire payload trigger).Below (host'.fire payload trigger)

/-- Code that finishes does so in the same way where more is answered. -/
theorem Code.mono {host host' : Host π ν} (h : host.Below host') (code : Code π ν) :
    code.Related (fun _ x y => x.Below y) host host' := by
  have bind {α β : Type} {x x' : Run (Entry π ν) α} {y y' : α → Run (Entry π ν) β}
      (hx : x.Below x') (hy : ∀ a, (y a).Below (y' a)) : (x >>= y).Below (x' >>= y') :=
    Run.congruence_below.bind hx hy
  induction code with
  | finish payload verdict => exact fun ctx => .refl _
  | remark r next ih => exact fun ctx => bind (.refl _) fun _ => ih ctx
  | retarget destination next ih => exact fun ctx => ih _
  | triggers payload next ih =>
    intro ctx
    rw [run, run, h.triggers]
    exact ih _ ctx
  | canFire payload trigger next ih =>
    exact fun ctx => bind (h.canFire payload trigger) fun answer => ih answer ctx
  | fire payload trigger next ih =>
    intro ctx
    rw [run, run]
    refine bind (h.fire payload trigger) ?_
    rintro ⟨left, outcome⟩
    cases outcome with
    | answered result => exact ih left result ctx
    | escaped value => exact .refl _

namespace Machine

theorem related_of_codes {R : (α : Type) → Run (Entry π ν) α → Run (Entry π ν) α → Prop}
    {host host' : Host π ν} (h : ∀ code : Code π ν, code.Related R host host') (m : Machine π ν) :
    m.Related R host host' := by
  have guard (g : Guard π ν) : g.Related R host host' := by
    cases g with
    | triggerIs t => trivial
    | predicate label code => exact fun payload ctx => h _
  have chain (c : Chain π ν) : c.Related R host host' :=
    fun step _ => ⟨fun g _ => guard g, fun payload ctx => h _⟩
  exact ⟨fun node _ => ⟨fun _ _ g _ => guard g, chain _, chain _, fun _ _ _ _ _ => h _⟩,
    fun _ _ _ _ _ _ => h _⟩

variable [Payload π] {m : Machine π ν} {depth depth' n : Nat}

theorem host_below_succ (m : Machine π ν) (depth : Nat) :
    (m.host depth).Below (m.host (depth + 1)) := by
  induction depth with
  | zero => exact ⟨rfl, fun _ _ _ _ h => (nomatch h), fun _ _ _ _ h => (nomatch h)⟩
  | succ depth ih =>
    have related := m.related_of_codes (Code.mono ih)
    exact ⟨rfl, related_canFireOn Run.congruence_below related,
      related_fireOn Run.congruence_below related⟩

/-- A machine that may be called deeper answers all that it answered before. -/
theorem host_below (m : Machine π ν) (h : depth ≤ depth') :
    (m.host depth).Below (m.host depth') := by
  induction h with
  | refl => exact ⟨rfl, fun _ _ => .refl _, fun _ _ => .refl _⟩
  | @step depth' _ ih =>
    have last := m.host_below_succ depth'
    exact ⟨ih.triggers.trans last.triggers,
      fun payload trigger n ran hr => last.canFire payload trigger n ran
        (ih.canFire payload trigger n ran hr),
      fun payload trigger n ran hr => last.fire payload trigger n ran
        (ih.fire payload trigger n ran hr)⟩

theorem fire_mono (h : depth ≤ depth') (payload : π) (trigger : Trigger) :
    (m.fire depth payload trigger).Below (m.fire depth' payload trigger) :=
  related_fireOn Run.congruence_below (m.related_of_codes (Code.mono (m.host_below h)))
    payload trigger

theorem canFire_mono (h : depth ≤ depth') (payload : π) (trigger : Trigger) :
    (m.canFire depth payload trigger).Below (m.canFire depth' payload trigger) :=
  related_canFireOn Run.congruence_below (m.related_of_codes (Code.mono (m.host_below h)))
    payload trigger

/-- The depth decides whether a fire finishes, and nothing else. -/
theorem fire_unique {payload : π} {trigger : Trigger} {ran ran' : Ran (Entry π ν) (π × Outcome)}
    (h : m.fire depth payload trigger n = some ran)
    (h' : m.fire depth' payload trigger n = some ran') : ran = ran' := by
  have left := fire_mono (Nat.le_max_left depth depth') payload trigger n ran h
  have right := fire_mono (Nat.le_max_right depth depth') payload trigger n ran' h'
  exact Option.some.inj (left.symm.trans right)

end Machine

end StateMachine
