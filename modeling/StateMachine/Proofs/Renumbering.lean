import StateMachine.Proofs.Anonymity

/-!
# Runs with other positions

The position of a step or a handler is told by the errors and the events of its list, and by nothing
else: callbacks are not given it. So running a list at other positions is the same but for these
reports.

* `PanicError.renumber`, `ChainError.renumber`, `Event.renumber`, `Happening.renumber`: reports with
  other positions. What happens within the turn of a callback keeps its own positions.
* `Chain.renumber`, `Recovered.renumber`: what a list leaves, with the position in its error changed.
* `Run.Retold`: two runs that are the same up to positions. Its rules put runs together; the main
  ones are `Run.Retold.bind` and `Run.Retold.of_plays`.
* `Step.retold_consult`, `Step.retold_operate`, `Handler.retold_handle`: one step, one handler.
* `Run.Matches`: two runs that are the same if the reports of the machine are left out.
-/

namespace StateMachine

variable {π ν α β γ δ : Type}

/-! ## Reports -/

/-- A caught panic at another position. -/
def PanicError.renumber (f : Nat → Nat) (e : PanicError) : PanicError := { e with step := f e.step }

/-- The error of a list with another position. -/
def ChainError.renumber (f : Nat → Nat) : ChainError → ChainError
  | operation step label failure => operation (f step) label failure
  | handler step label failure => handler (f step) label failure
  | panic e => panic (e.renumber f)

/-- A report of a list with another position. -/
def Event.renumber (f : Nat → Nat) : Event → Event
  | stepSkipped ctx step label reason => stepSkipped ctx (f step) label reason
  | stepFailed ctx step label failure => stepFailed ctx (f step) label failure
  | handlerFailed ctx step handler failure => handlerFailed ctx (f step) handler failure
  | panicked e => panicked (e.renumber f)
  | e => e

/-- What steps leave, with another position in the error. -/
def Chain.renumber (f : Nat → Nat) (r : π × Except ChainError Unit) : π × Except ChainError Unit :=
  (r.1, veiled (ChainError.renumber f) id r.2)

/-- What handlers leave, with another position in the error. -/
def Recovered.renumber (f : Nat → Nat) (r : Recovered π) : Recovered π :=
  { r with result := veiled (ChainError.renumber f) id r.result }

@[simp] theorem ChainError.step_renumber (f : Nat → Nat) (e : ChainError) :
    (e.renumber f).step = f e.step := by
  cases e <;> rfl

variable {host : Host π ν}

namespace Happening

/-- A happening with another position, if it is a report of the list itself. A turn stays as it
is, with all that happens in it. -/
def renumber (f : Nat → Nat) : Happening host → Happening host
  | event e => event (e.renumber f)
  | h => h

/-- Whether a happening is to be told. It may be left out that steps are skipped. -/
def told (skips : Bool) : Happening host → Bool
  | event (.stepSkipped ..) => skips
  | _ => true

end Happening

/-- The lines of a log that are not reports of the machine: callbacks are called and end, and make
remarks. -/
def callbackLines (log : List (Entry π ν)) : List (Entry π ν) :=
  log.filter fun e => e.event?.isNone

@[simp] theorem callbackLines_append (l l' : List (Entry π ν)) :
    callbackLines (l ++ l') = callbackLines l ++ callbackLines l' :=
  List.filter_append l l'

theorem callbackLines_renumber (f : Nat → Nat) (hs : List (Happening host)) :
    callbackLines (logOf (hs.map (Happening.renumber f))) = callbackLines (logOf hs) := by
  induction hs with
  | nil => rfl
  | cons h hs ih =>
    rw [List.map_cons, logOf_cons, logOf_cons, callbackLines_append, callbackLines_append, ih]
    cases h <;> rfl

theorem callbackLines_told (skips : Bool) (hs : List (Happening host)) :
    callbackLines (logOf (hs.filter (Happening.told skips))) = callbackLines (logOf hs) := by
  induction hs with
  | nil => rfl
  | cons h hs ih =>
    rw [List.filter_cons]
    split
    · rw [logOf_cons, logOf_cons, callbackLines_append, callbackLines_append, ih]
    · next left_out =>
      have silent : callbackLines h.log = [] := by
        unfold Happening.told at left_out
        split at left_out
        · rfl
        · exact absurd rfl left_out
      rw [logOf_cons, callbackLines_append, silent, ih, List.nil_append]

/-! ## Runs that are told again -/

/-- Two runs are the same up to positions: both finish, or none of them does. If they do, the same
happens, as far as it is to be told, but for the positions in the reports. -/
def Run.Retold (host : Host π ν) (skips : Bool) (f : Nat → Nat) (g : α → β)
    (x : Run (Entry π ν) α) (x' : Run (Entry π ν) β) : Prop :=
  ∀ n, x n = none ∧ x' n = none ∨
    ∃ (hs hs' : List (Happening host)) (a : α) (next : Nat),
      hs'.filter (Happening.told skips) = hs.map (Happening.renumber f) ∧
        Spans hs n next ∧ Spans hs' n next ∧
        x n = some ⟨a, next, logOf hs⟩ ∧ x' n = some ⟨g a, next, logOf hs'⟩

namespace Run.Retold

variable {skips : Bool} {f : Nat → Nat} {g : α → β} {g' : γ → δ} {x : Run (Entry π ν) α}
  {x' : Run (Entry π ν) β}

theorem pure (a : α) : Run.Retold host skips f g (Pure.pure a) (Pure.pure (g a)) :=
  fun n => .inr ⟨[], [], a, n, rfl, rfl, rfl, rfl, rfl⟩

theorem event {e : Event} (told : (Happening.event e : Happening host).told skips = true) :
    Run.Retold host skips f id (Run.emit (.event e)) (Run.emit (.event (e.renumber f))) := by
  have told' : (Happening.event (e.renumber f) : Happening host).told skips = true := by
    cases e <;> exact told
  refine fun n => .inr ⟨[.event e], [.event (e.renumber f)], (), n, ?_, ⟨n, rfl, rfl⟩, ⟨n, rfl, rfl⟩,
    rfl, rfl⟩
  rw [List.filter_cons_of_pos told']
  rfl

/-- A run that reports nothing of its own is the same at all positions. -/
theorem of_plays {R : List (Happening host) → α → Prop} (plays : Plays host x R)
    (silent : ∀ hs a, R hs a → ∀ h ∈ hs, h.told skips = true ∧ h.renumber f = h) :
    Run.Retold host skips f id x x := by
  intro n
  cases hx : x n with
  | none => exact .inl ⟨rfl, rfl⟩
  | some ran =>
    obtain ⟨hs, unf⟩ := plays ⟨n, ran, hx⟩
    have fixed := silent hs _ unf.rel
    have log : logOf hs = ran.log := unf.log_eq
    refine .inr ⟨hs, hs, ran.value, ran.next, ?_, unf.spans, unf.spans, ?_, ?_⟩
    · rw [List.filter_eq_self.2 fun h hh => (fixed h hh).1,
        (List.map_congr_left fun h hh => (fixed h hh).2).trans (List.map_id _)]
    · rw [log]
    · rw [log]
      rfl

theorem bind {y : α → Run (Entry π ν) γ} {y' : β → Run (Entry π ν) δ}
    (first : Run.Retold host skips f g x x')
    (next : ∀ a, Run.Retold host skips f g' (y a) (y' (g a))) :
    Run.Retold host skips f g' (x >>= y) (x' >>= y') := by
  intro n
  rcases first n with ⟨hx, hx'⟩ | ⟨hs, hs', a, j, told, spans, spans', hx, hx'⟩
  · exact .inl ⟨Run.bind_apply_of_eq_none hx, Run.bind_apply_of_eq_none hx'⟩
  · rw [Run.bind_apply_of_eq_some hx, Run.bind_apply_of_eq_some hx']
    rcases next a j with ⟨hy, hy'⟩ | ⟨ks, ks', b, k, told₂, spans₂, spans₂', hy, hy'⟩
    · exact .inl ⟨by rw [hy]; rfl, by rw [hy']; rfl⟩
    · refine .inr ⟨hs ++ ks, hs' ++ ks', b, k, ?_, spans_append.2 ⟨j, spans, spans₂⟩,
        spans_append.2 ⟨j, spans', spans₂'⟩, ?_, ?_⟩
      · rw [List.filter_append, List.map_append, told, told₂]
      · rw [hy, logOf_append]
        rfl
      · rw [hy', logOf_append]
        rfl

theorem map {h : α → γ} {h' : β → δ} (first : Run.Retold host skips f g x x')
    (same : ∀ a, g' (h a) = h' (g a)) : Run.Retold host skips f g' (h <$> x) (h' <$> x') := by
  rw [← bind_pure_comp, ← bind_pure_comp]
  exact first.bind fun a => same a ▸ .pure (h a)

end Run.Retold

/-! ## One step, one handler -/

section Parts

variable {skips : Bool} (f : Nat → Nat)

theorem PanicError.retold_report (ctx : Context) (position : Nat) (label : String)
    (value : Raised) : Run.Retold host skips f (PanicError.renumber f)
      (PanicError.report ctx position label value)
      (PanicError.report ctx (f position) label value) :=
  (Run.Retold.event rfl).bind fun _ => .pure _

theorem Call.retold_run (call : Call π) (code : Code π ν) :
    Run.Retold host skips f id (call.run host code) (call.run host code) := by
  refine .of_plays (plays_call call code) ?_
  rintro _ _ ⟨t, -, rfl, -⟩ h mem
  obtain rfl := List.mem_singleton.1 mem
  exact ⟨rfl, rfl⟩

theorem Guard.retold_check (role : Role) (g : Guard π ν) (payload : π) (ctx : Context) :
    Run.Retold host skips f id (g.check host role payload ctx) (g.check host role payload ctx) := by
  cases g with
  | triggerIs t => exact .pure _
  | predicate label code => exact (Call.retold_run f _ _).map fun _ => rfl

theorem Step.retold_consult (side : Side) (position : Nat) (step : Step π ν) (ctx : Context)
    (payload : π) : Run.Retold host true f (veiled (PanicError.renumber f) id)
      (step.consult host side position ctx payload)
      (step.consult host side (f position) ctx payload) := by
  unfold consult
  split
  · exact .pure _
  · next g _ =>
    refine (g.retold_check f _ payload ctx).bind fun verdict => ?_
    cases verdict with
    | ok => exact .pure _
    | fail reason => exact (Run.Retold.event rfl).bind fun _ => .pure _
    | panic value => exact (PanicError.retold_report f ctx position g.label value).map fun _ => rfl

theorem Step.retold_operate (side : Side) (position : Nat) (step : Step π ν) (ctx : Context)
    (payload : π) : Run.Retold host skips f (Chain.renumber f)
      (step.operate host side position ctx payload)
      (step.operate host side (f position) ctx payload) := by
  refine (Call.retold_run f _ _).bind fun settled => ?_
  rw [id]
  cases settled.verdict with
  | ok => exact .pure _
  | fail failure => exact (Run.Retold.event rfl).bind fun _ => .pure _
  | panic value => exact (PanicError.retold_report f _ _ _ _).bind fun _ => .pure _

/-- A handler at another position. The cause that it is told keeps its position. -/
theorem Handler.retold_handle (cause : ChainError) (position : Nat) (handler : Handler π ν)
    (ctx : Context) (payload : π) : Run.Retold host skips f (Recovered.renumber f)
      (handler.handle host cause position ctx payload)
      (handler.handle host cause (f position) ctx payload) := by
  refine (Call.retold_run f _ _).bind ?_
  rintro ⟨left, reported, verdict⟩
  cases verdict with
  | ok =>
    dsimp only [id]
    split
    · exact (Run.Retold.event rfl).bind fun _ => .pure _
    · exact .pure _
  | fail failure => exact (Run.Retold.event rfl).bind fun _ => .pure _
  | panic value => exact (PanicError.retold_report f _ _ _ _).bind fun _ => .pure _

end Parts

/-! ## Runs without reports -/

/-- What is left of a finished run without the reports of the machine. -/
def Ran.heard (r : Ran (Entry π ν) α) : α × Nat × List (Entry π ν) :=
  (r.value, r.next, callbackLines r.log)

/-- Whether two runs are the same if the reports of the machine are left out: both finish or none of
them does; they have the same value and call the same callbacks, which leave the same and make the
same remarks. -/
def Run.Matches (x x' : Run (Entry π ν) α) : Prop :=
  ∀ n, (x n).map Ran.heard = (x' n).map Ran.heard

namespace Run.Matches

variable {x x' : Run (Entry π ν) α}

theorem refl (x : Run (Entry π ν) α) : x.Matches x := fun _ => rfl

theorem symm (h : x.Matches x') : x'.Matches x := fun n => (h n).symm

theorem heard_bind {y : α → Run (Entry π ν) β} {n : Nat} {r : Ran (Entry π ν) α}
    (h : x n = some r) : ((x >>= y) n).map Ran.heard =
      ((y r.value r.next).map Ran.heard).map fun t =>
        (t.1, t.2.1, callbackLines r.log ++ t.2.2) := by
  rw [Run.bind_apply_of_eq_some h, Option.map_map, Option.map_map]
  refine congrFun (congrArg Option.map (funext fun s => ?_)) _
  simp [Ran.heard]

theorem bind {y y' : α → Run (Entry π ν) β} (first : x.Matches x')
    (next : ∀ a, (y a).Matches (y' a)) : (x >>= y).Matches (x' >>= y') := by
  intro n
  have same := first n
  cases hx : x n with
  | none =>
    cases hx' : x' n with
    | none => rw [Run.bind_apply_of_eq_none hx, Run.bind_apply_of_eq_none hx']
    | some r' =>
      rw [hx, hx'] at same
      exact nomatch same
  | some r =>
    cases hx' : x' n with
    | none =>
      rw [hx, hx'] at same
      exact nomatch same
    | some r' =>
      rw [hx, hx'] at same
      obtain ⟨value, later⟩ := Prod.mk.inj (Option.some.inj same)
      obtain ⟨drawn, lines⟩ := Prod.mk.inj later
      rw [heard_bind hx, heard_bind hx', value, drawn, lines, next]

end Run.Matches

/-- Runs that are the same up to positions call the same callbacks. -/
theorem Run.Retold.matches {skips : Bool} {f : Nat → Nat} {g : α → β} {x : Run (Entry π ν) α}
    {x' : Run (Entry π ν) β} (h : Run.Retold host skips f g x x') : (g <$> x).Matches x' := by
  intro n
  rw [← bind_pure_comp]
  rcases h n with ⟨hx, hx'⟩ | ⟨hs, hs', a, next, told, -, -, hx, hx'⟩
  · rw [Run.bind_apply_of_eq_none hx, hx']
  · have lines : callbackLines (logOf hs') = callbackLines (logOf hs) := by
      rw [← callbackLines_told skips hs', told, callbackLines_renumber]
    rw [Run.bind_apply_of_eq_some hx, hx']
    simp [Run.pure_apply, Ran.heard, lines]

end StateMachine
