import StateMachine.Proofs.Containment
import StateMachine.Proofs.Refusal

/-!
# Prediction

Asking whether a trigger could be fired predicts the fire, if the guard of its edge is a function of
the payload and of where the transition comes from, where it goes and what triggers it. The two
questions draw different identities, so their errors are compared without identities. They differ
where the destination is not configured: then a fire does not even ask the guard.

* `FireError.anonymous`: an error without the identities in it.
* `Guard.Decides`: whether a guard is such a function, and of which verdict.
* `Machine.Proceeds`, `Machine.Refused`: the two ways a fire may go at its guard.
* `Machine.Predicts`: what an answer to the question tells about fires.
* `Machine.canFire_predicts`: the answer predicts all fires of the trigger.
-/

namespace StateMachine

variable {π ν : Type}

/-! ## Errors without identities -/

/-- A context without its identity. -/
def Context.anonymous (ctx : Context) : Context := { ctx with id := 0 }

/-- A caught panic without the identity of its transition. -/
def PanicError.anonymous (e : PanicError) : PanicError :=
  { e with transition := e.transition.anonymous }

/-- An error of a list of callbacks without the identity of its transition. -/
def ChainError.anonymous : ChainError → ChainError
  | panic e => panic e.anonymous
  | e => e

/-- An error of a fire without the identity of its transition. -/
def FireError.anonymous : FireError → FireError
  | guardPanicked e => guardPanicked e.anonymous
  | chain ctx e => chain ctx.anonymous e.anonymous
  | e => e

/-! ## Guards -/

namespace Guard

variable {host : Host π ν} {g : Guard π ν} {payload : π} {ctx ctx' : Context} {n : Nat}

/-- What an edge answers when its guard has come to a verdict. -/
def answer (g : Guard π ν) (ctx : Context) : Verdict → Except FireError Unit
  | .ok => .ok ()
  | .fail failure => .error (.guardRejected ctx.source ctx.trigger g.label failure)
  | .panic value => .error (.guardPanicked ⟨ctx, 0, g.label, value.payload⟩)

theorem permit_of_check {ran : Ran (Entry π ν) Verdict}
    (h : g.check host .edgeGuard payload ctx n = some ran) :
    ∃ log, g.permit host payload ctx n = some ⟨g.answer ctx ran.value, ran.next, log⟩ := by
  rw [permit, Run.bind_apply_of_eq_some h]
  obtain ⟨verdict, next, log⟩ := ran
  cases verdict <;> exact ⟨_, rfl⟩

theorem refuses_of_answer {verdict : Verdict} {e : FireError}
    (h : g.answer ctx verdict = .error e) : e.refuses = true := by
  cases verdict with
  | ok => exact nomatch h
  | _ => exact Except.error.inj h ▸ rfl

/-- Whether a guard is a function of the payload and of the source, the destination and the trigger:
asked about the payload for any transition and at any time, it comes to the same verdict. -/
def Decides (host : Host π ν) (g : Guard π ν) (payload : π)
    (verdict : State → State → Trigger → Verdict) : Prop :=
  ∀ ctx n, ∃ ran, g.check host .edgeGuard payload ctx n = some ran ∧
    ran.value = verdict ctx.source ctx.destination ctx.trigger

theorem answer_agrees (same : ctx'.anonymous = ctx.anonymous) (verdict : Verdict) :
    (∃ e e', g.answer ctx verdict = .error e ∧ g.answer ctx' verdict = .error e' ∧
        e'.anonymous = e.anonymous) ∨
      g.answer ctx verdict = .ok () ∧ g.answer ctx' verdict = .ok () := by
  obtain ⟨_, source, destination, trigger⟩ := ctx
  obtain ⟨_, source', destination', trigger'⟩ := ctx'
  simp only [Context.anonymous, Context.mk.injEq, true_and] at same
  obtain ⟨rfl, rfl, rfl⟩ := same
  cases verdict with
  | ok => exact .inr ⟨rfl, rfl⟩
  | fail => exact .inl ⟨_, _, rfl, rfl, rfl⟩
  | panic => exact .inl ⟨_, _, rfl, rfl, rfl⟩

end Guard

/-! ## Both questions at the guard -/

/-- What a run leaves when a log stands before its own. -/
def Ran.prepend {ε α : Type} (log : List ε) (ran : Ran ε α) : Ran ε α :=
  ⟨ran.value, ran.next, log ++ ran.log⟩

namespace Machine

variable [Payload π] {m : Machine π ν} {depth n : Nat} {payload : π} {trigger : Trigger}
  {node source destination : Node π ν} {edge : Edge π ν} {g : Guard π ν}
  {ran : Ran (Entry π ν) Verdict}

theorem canFire_of_unguarded (found : m.resolve payload trigger = .ok (node, edge))
    (none : edge.guard = none) (depth n : Nat) :
    m.canFire depth payload trigger n = some ⟨.ok (), n, []⟩ := by
  rw [canFire, canFireOn, found]
  simp only [none]
  rfl

theorem canFire_of_check (found : m.resolve payload trigger = .ok (node, edge))
    (some : edge.guard = some g)
    (h : g.check (m.host depth) .edgeGuard payload (contextOf n node edge trigger) (n + 1) =
      .some ran) :
    ∃ log, m.canFire depth payload trigger n =
      .some ⟨g.answer (contextOf n node edge trigger) ran.value, ran.next, log⟩ := by
  obtain ⟨log, hlog⟩ := Guard.permit_of_check h
  refine ⟨log, ?_⟩
  have created : (Context.create node.state edge.destination trigger : Run (Entry π ν) Context) n =
      .some ⟨contextOf n node edge trigger, n + 1, []⟩ := rfl
  rw [canFire, canFireOn, found]
  simp only [some]
  rw [Run.bind_apply_of_eq_some created, hlog]
  rfl

/-- A fire that finds its way makes its context and asks the guard of its edge, if there is one. -/
theorem fire_apply_of_leads (leads : m.Leads payload trigger source edge destination)
    (depth n : Nat) :
    m.fire depth payload trigger n =
      (match edge.guard with
        | none =>
          m.transit (m.host depth) source destination (contextOf n source edge trigger) payload
        | some g => do
          match ← g.permit (m.host depth) payload (contextOf n source edge trigger) with
          | .error e => pure (payload, .answered (.error e))
          | .ok () =>
            m.transit (m.host depth) source destination (contextOf n source edge trigger) payload)
        (n + 1) := by
  have created :
      (Context.create source.state destination.state trigger : Run (Entry π ν) Context) n =
        some ⟨contextOf n source edge trigger, n + 1, []⟩ := by
    rw [m.sound.state_of_node? leads.destination_eq]
    rfl
  rw [fire, fireOn, leads.resolve_eq]
  simp only [leads.destination_eq]
  rw [Run.bind_apply_of_eq_some created]
  exact Option.map_id'

theorem fire_of_check (leads : m.Leads payload trigger source edge destination)
    (some : edge.guard = some g)
    (h : g.check (m.host depth) .edgeGuard payload (contextOf n source edge trigger) (n + 1) =
      .some ran) :
    ∃ log, m.fire depth payload trigger n =
      match g.answer (contextOf n source edge trigger) ran.value with
      | .error e => .some ⟨(payload, .answered (.error e)), ran.next, log⟩
      | .ok () => (m.transit (m.host depth) source destination (contextOf n source edge trigger)
          payload ran.next).map (Ran.prepend log) := by
  obtain ⟨log, hlog⟩ := Guard.permit_of_check h
  refine ⟨log, ?_⟩
  rw [fire_apply_of_leads leads]
  simp only [some]
  rw [Run.bind_apply_of_eq_some hlog]
  cases g.answer (contextOf n source edge trigger) ran.value with
  | error e => simp [Run.pure_apply]
  | ok => rfl

/-- Whether a fire goes on to the side effects before the transition: after the log of its guard,
all that happens is the transition. -/
def Proceeds (m : Machine π ν) (depth : Nat) (payload : π) (trigger : Trigger) (n : Nat) : Prop :=
  ∃ source edge destination log k, m.Leads payload trigger source edge destination ∧
    m.fire depth payload trigger n =
      (m.transit (m.host depth) source destination (contextOf n source edge trigger) payload
        k).map (Ran.prepend log)

/-- Whether a fire answers with an error that refuses the transition. -/
def Refused (m : Machine π ν) (depth : Nat) (payload : π) (trigger : Trigger) (n : Nat)
    (e : FireError) : Prop :=
  ∃ ran, m.fire depth payload trigger n = some ran ∧ ran.value.2 = .answered (.error e) ∧
    e.refuses = true

theorem Refused.unique {e e' : FireError} (h : m.Refused depth payload trigger n e)
    (h' : m.Refused depth payload trigger n e') : e' = e := by
  obtain ⟨ran, hran, he, -⟩ := h
  obtain ⟨ran', hran', he', -⟩ := h'
  obtain rfl := Option.some.inj (hran.symm.trans hran')
  simpa using he'.symm.trans he

theorem Proceeds.not_refused {e : FireError} (h : m.Proceeds depth payload trigger n) :
    ¬m.Refused depth payload trigger n e := by
  rintro ⟨ran, hran, he, refuses⟩
  obtain ⟨source, edge, destination, log, k, leads, proceeds⟩ := h
  obtain ⟨⟨⟨left, outcome⟩, next, log'⟩, transit, rfl⟩ :=
    Option.map_eq_some_iff.1 (proceeds.symm.trans hran)
  obtain rfl : outcome = .answered (.error e) := he
  -- a transition is the course of a fire whose edge has no guard
  have free : (Edge.mk trigger destination.state none : Edge π ν).Admits (m.host depth) payload
      (contextOf n source edge trigger) [] (.ok ()) := .free rfl
  obtain ⟨hs, unf⟩ := plays_transit free ⟨k, _, transit⟩
  obtain ⟨-, guard⟩ := Course.admits_of_refuses refuses unf.rel
  cases guard with
  | rejected some => exact nomatch some
  | panicked some => exact nomatch some

/-- Whether the edge that a trigger takes, if there is one, leads to a configured state. -/
def Finds (m : Machine π ν) (payload : π) (trigger : Trigger) : Prop :=
  ∀ node edge, m.resolve payload trigger = .ok (node, edge) →
    m.definition.contains edge.destination = true

/-- Whether the guard of the edge that a trigger takes is a function. -/
def Decided (m : Machine π ν) (depth : Nat) (payload : π) (trigger : Trigger) : Prop :=
  ∀ node edge g, m.resolve payload trigger = .ok (node, edge) → edge.guard = some g →
    ∃ verdict, g.Decides (m.host depth) payload verdict

/-- Either question comes to the same at the guard, whenever it is put. -/
theorem canFire_agrees (decided : m.Decided depth payload trigger)
    (finds : m.Finds payload trigger) (n n' : Nat) :
    ∃ ran, m.canFire depth payload trigger n = some ran ∧
      ((∃ e e', ran.value = .error e ∧ m.Refused depth payload trigger n' e' ∧
          e'.anonymous = e.anonymous) ∨
        ran.value = .ok () ∧ m.Proceeds depth payload trigger n') := by
  rcases m.way payload trigger with ⟨e, lost⟩ | ⟨node, edge, found, none⟩ |
    ⟨source, edge, destination, leads⟩
  · have refused : m.Refused depth payload trigger n' e :=
      ⟨_, fire_of_lost lost depth n', rfl, refuses_of_lost lost⟩
    exact ⟨_, canFire_of_lost lost depth n, .inl ⟨e, e, rfl, refused, rfl⟩⟩
  · exact nomatch (m.sound.node?_eq_none_iff.1 none).symm.trans (finds node edge found)
  · cases guard : edge.guard with
    | none =>
      refine ⟨_, canFire_of_unguarded leads.resolve_eq guard depth n, .inr ⟨rfl, ?_⟩⟩
      refine ⟨source, edge, destination, [], n' + 1, leads, ?_⟩
      rw [fire_apply_of_leads leads]
      simp only [guard]
      exact Option.map_id'.symm
    | some g =>
      obtain ⟨verdict, decides⟩ := decided source edge g leads.resolve_eq guard
      obtain ⟨r, hr, rv⟩ := decides (contextOf n source edge trigger) (n + 1)
      obtain ⟨r', hr', rv'⟩ := decides (contextOf n' source edge trigger) (n' + 1)
      have same : r'.value = r.value := rv'.trans rv.symm
      obtain ⟨log, asked⟩ := canFire_of_check leads.resolve_eq guard hr
      obtain ⟨log', fired⟩ := fire_of_check leads guard hr'
      refine ⟨_, asked, ?_⟩
      rw [same] at fired
      have alike : (contextOf n' source edge trigger).anonymous =
          (contextOf n source edge trigger).anonymous := rfl
      rcases g.answer_agrees alike r.value with
        ⟨e, e', answered, answered', alike⟩ | ⟨answered, answered'⟩
      · simp only [answered'] at fired
        exact .inl ⟨e, e', answered, ⟨_, fired, rfl, Guard.refuses_of_answer answered'⟩, alike⟩
      · simp only [answered'] at fired
        exact .inr ⟨answered, source, edge, destination, log', r'.next, leads, fired⟩

/-! ## What is asked -/

/-- Whether a log shows no callbacks under an identity but the guard of the edge that a trigger
takes, and that at most once. -/
def AsksGuard (m : Machine π ν) (payload : π) (trigger : Trigger) (i : Nat)
    (log : List (Entry π ν)) : Prop :=
  ownCalls i log = [] ∨ ∃ node edge g, m.resolve payload trigger = .ok (node, edge) ∧
    edge.guard = some g ∧
      ownCalls i log = [⟨.edgeGuard, g.label, contextOf i node edge trigger, payload⟩]

theorem asksGuard_of_admits {host : Host π ν} {hs : List (Happening host)} {i : Nat}
    {r : Except FireError Unit} {log : List (Entry π ν)}
    (found : m.resolve payload trigger = .ok (node, edge))
    (guard : edge.Admits host payload (contextOf i node edge trigger) hs r)
    (calls : ownCalls i log = (turns hs).map Turn.call) : m.AsksGuard payload trigger i log := by
  rcases guard.calls with none | ⟨g, some, one⟩
  · exact .inl (calls.trans none)
  · exact .inr ⟨node, edge, g, found, some, calls.trans one⟩

/-- Asking whether a trigger could be fired asks the guard of its edge and nobody else. -/
theorem asksGuard_of_canFire {ran : Ran (Entry π ν) (Except FireError Unit)}
    (h : m.canFire depth payload trigger n = some ran) : m.AsksGuard payload trigger n ran.log := by
  obtain ⟨result, next, log⟩ := ran
  obtain ⟨hs, unf⟩ := m.plays_canFireOn payload trigger ⟨n, _, h⟩
  have spans : Spans hs n next := unf.spans
  have hlog : logOf hs = log := unf.log_eq
  have answers : m.Answers (m.host depth) (.canFire payload trigger) hs (.canFire result) :=
    unf.rel
  have calls := (answers.accounts spans).calls_eq
  rw [hlog] at calls
  cases answers with
  | unresolved => exact .inl calls
  | unguarded => exact .inl calls
  | @guarded _ _ node edge g ctx hs _ found _ context guard =>
    obtain ⟨j, ⟨hid, -⟩, -⟩ := spans
    rw [hid] at context
    subst context
    exact asksGuard_of_admits found guard calls

/-- A fire that is refused leaves the payload as it was, and has asked the guard of its edge and
nobody else. -/
theorem asksGuard_of_refused {ran : Ran (Entry π ν) (π × Outcome)} {e : FireError}
    (h : m.fire depth payload trigger n = some ran) (refused : ran.value.2 = .answered (.error e))
    (refuses : e.refuses = true) :
    ran.value.1 = payload ∧ m.AsksGuard payload trigger n ran.log := by
  rcases m.way payload trigger with ⟨_, lost⟩ | ⟨node, edge, found, none⟩ |
    ⟨source, edge, destination, leads⟩
  · obtain rfl := Option.some.inj ((fire_of_lost lost depth n).symm.trans h)
    exact ⟨rfl, .inl rfl⟩
  · obtain rfl := Option.some.inj ((fire_of_nowhere found none depth n).symm.trans h)
    exact ⟨rfl, .inl rfl⟩
  · obtain ⟨hs, course, accounts⟩ := course_of_fire leads h
    obtain ⟨⟨left, outcome⟩, next, log⟩ := ran
    obtain rfl : outcome = .answered (.error e) := refused
    obtain ⟨same, guard⟩ := course.admits_of_refuses refuses
    exact ⟨same, asksGuard_of_admits leads.resolve_eq guard accounts.calls_eq⟩

theorem told_of_proceeds {ran : Ran (Entry π ν) (π × Outcome)}
    (proceeds : m.Proceeds depth payload trigger n)
    (h : m.fire depth payload trigger n = some ran) :
    ∃ source edge destination, m.Leads payload trigger source edge destination ∧
      ∃ (g b rest : List (Happening (m.host depth))) (r : Except Raised Nat),
        edge.Admits (m.host depth) payload (contextOf n source edge trigger) g (.ok ()) ∧
          m.Tells (m.host depth) .beforeTransition payload (contextOf n source edge trigger) b r ∧
          ran.log =
            logOf (g ++ .event (.firing (contextOf n source edge trigger)) :: (b ++ rest)) := by
  obtain ⟨source, edge, destination, -, -, leads, -⟩ := id proceeds
  obtain ⟨hs, course, accounts⟩ := course_of_fire leads h
  rcases course.begins with ⟨e, guard, hout⟩ | ⟨g, b, r, rest, guard, before, rfl⟩
  · exact absurd ⟨ran, h, by rw [hout], guard.refuses⟩ proceeds.not_refused
  · exact ⟨source, edge, destination, leads, g, b, rest, r, guard, before, accounts.log_eq.symm⟩

/-! ## The prediction -/

/-- What an answer to the question whether a trigger could be fired tells about the fires of the
trigger. The question itself cannot change the payload. -/
structure Predicts (m : Machine π ν) (depth : Nat) (payload : π) (trigger : Trigger) (n : Nat)
    (ran : Ran (Entry π ν) (Except FireError Unit)) : Prop where
  /-- Nobody was asked but the guard of the edge. -/
  asks : m.AsksGuard payload trigger n ran.log
  /-- Unless the edge leads nowhere, the answer is an error exactly if a fire is refused. -/
  error_iff : m.Finds payload trigger → ∀ n',
    (∃ e, ran.value = .error e) ↔ ∃ e, m.Refused depth payload trigger n' e
  /-- Then the errors are the same but for the identities. -/
  same : m.Finds payload trigger → ∀ n' e e', ran.value = .error e →
    m.Refused depth payload trigger n' e' → e'.anonymous = e.anonymous
  /-- Unless the edge leads nowhere, the answer is no error exactly if a fire goes on. -/
  ok_iff : m.Finds payload trigger → ∀ n',
    ran.value = .ok () ↔ m.Proceeds depth payload trigger n'
  /-- If the edge leads nowhere, a fire answers so and asks nobody. -/
  nowhere : ∀ node edge, m.resolve payload trigger = .ok (node, edge) →
    m.definition.contains edge.destination = false → ∀ n',
      m.fire depth payload trigger n' =
        some ⟨(payload, .answered (.error (.stateNotFound edge.destination))), n', []⟩
  /-- Without a guard, the answer is no error, wherever the edge leads. -/
  free : ∀ node edge, m.resolve payload trigger = .ok (node, edge) → edge.guard = none →
    ran.value = .ok ()
  /-- With a guard, the answer is that of the guard, wherever the edge leads. -/
  guarded : ∀ node edge g, m.resolve payload trigger = .ok (node, edge) → edge.guard = some g →
    ∃ r,
      g.check (m.host depth) .edgeGuard payload (contextOf n node edge trigger) (n + 1) = some r ∧
        ran.value = g.answer (contextOf n node edge trigger) r.value
  /-- A fire that goes on tells its side effects before the transition. -/
  told : ∀ n' ran', m.Proceeds depth payload trigger n' →
    m.fire depth payload trigger n' = some ran' →
    ∃ source edge destination, m.Leads payload trigger source edge destination ∧
      ∃ (g b rest : List (Happening (m.host depth))) (r : Except Raised Nat),
        edge.Admits (m.host depth) payload (contextOf n' source edge trigger) g (.ok ()) ∧
          m.Tells (m.host depth) .beforeTransition payload (contextOf n' source edge trigger) b r ∧
          ran'.log =
            logOf (g ++ .event (.firing (contextOf n' source edge trigger)) :: (b ++ rest))
  /-- A fire that is refused leaves the payload as it was, and asks nobody but the guard of its
  edge. -/
  refused : ∀ n' ran' e, m.fire depth payload trigger n' = some ran' →
    ran'.value.2 = .answered (.error e) → e.refuses = true →
      ran'.value.1 = payload ∧ m.AsksGuard payload trigger n' ran'.log

/-- Where guards are functions, asking whether a trigger could be fired always comes to an answer:
the guard's, if there is one. -/
theorem canFire_answers (decided : m.Decided depth payload trigger) (n : Nat) :
    ∃ ran, m.canFire depth payload trigger n = some ran ∧
      ∀ node edge, m.resolve payload trigger = .ok (node, edge) →
        (edge.guard = none → ran.value = .ok ()) ∧
        ∀ g, edge.guard = some g → ∃ r,
          g.check (m.host depth) .edgeGuard payload (contextOf n node edge trigger) (n + 1) =
              some r ∧
            ran.value = g.answer (contextOf n node edge trigger) r.value := by
  cases found : m.resolve payload trigger with
  | error e => exact ⟨_, canFire_of_lost found depth n, fun _ _ h => nomatch h⟩
  | ok way =>
    obtain ⟨node, edge⟩ := way
    cases guard : edge.guard with
    | none =>
      refine ⟨_, canFire_of_unguarded found guard depth n, fun node' edge' same => ?_⟩
      obtain ⟨rfl, rfl⟩ := Prod.mk.inj (Except.ok.inj same)
      refine ⟨fun _ => rfl, fun g some => ?_⟩
      exact nomatch guard.symm.trans some
    | some g =>
      obtain ⟨verdict, decides⟩ := decided node edge g found guard
      obtain ⟨r, hr, -⟩ := decides (contextOf n node edge trigger) (n + 1)
      obtain ⟨log, asked⟩ := canFire_of_check found guard hr
      refine ⟨_, asked, fun node' edge' same => ?_⟩
      obtain ⟨rfl, rfl⟩ := Prod.mk.inj (Except.ok.inj same)
      refine ⟨fun none => absurd (none.symm.trans guard) nofun, fun g' some => ?_⟩
      obtain rfl := Option.some.inj (guard.symm.trans some)
      exact ⟨r, hr, rfl⟩

/-- Asking whether a trigger could be fired always comes to an answer, and the answer predicts all
fires of the trigger. -/
theorem canFire_predicts (decided : m.Decided depth payload trigger) (n : Nat) :
    ∃ ran, m.canFire depth payload trigger n = some ran ∧
      m.Predicts depth payload trigger n ran := by
  obtain ⟨ran, h, own⟩ := canFire_answers decided n
  have agrees (finds : m.Finds payload trigger) (n' : Nat) :
      (∃ e e', ran.value = .error e ∧ m.Refused depth payload trigger n' e' ∧
          e'.anonymous = e.anonymous) ∨
        ran.value = .ok () ∧ m.Proceeds depth payload trigger n' := by
    obtain ⟨ran', h', agrees⟩ := canFire_agrees decided finds n n'
    obtain rfl := Option.some.inj (h.symm.trans h')
    exact agrees
  refine ⟨ran, h, ?_⟩
  exact {
    asks := asksGuard_of_canFire h
    error_iff := fun finds n' => by
      rcases agrees finds n' with ⟨e, e', error, refused, -⟩ | ⟨ok, proceeds⟩
      · exact ⟨fun _ => ⟨e', refused⟩, fun _ => ⟨e, error⟩⟩
      · constructor
        · rintro ⟨e, error⟩
          exact nomatch ok.symm.trans error
        · rintro ⟨e, refused⟩
          exact absurd refused proceeds.not_refused
    same := fun finds n' e e' error refused => by
      rcases agrees finds n' with ⟨e₁, e₂, error', refused', alike⟩ | ⟨ok, -⟩
      · obtain rfl := Except.error.inj (error'.symm.trans error)
        obtain rfl := refused.unique refused'
        exact alike
      · exact nomatch ok.symm.trans error
    ok_iff := fun finds n' => by
      rcases agrees finds n' with ⟨e, e', error, refused, -⟩ | ⟨ok, proceeds⟩
      · constructor
        · intro ok
          exact nomatch ok.symm.trans error
        · intro proceeds
          exact absurd refused proceeds.not_refused
      · exact ⟨fun _ => proceeds, fun _ => ok⟩
    nowhere := fun node edge found none n' =>
      fire_of_nowhere found (m.sound.node?_eq_none_iff.2 none) depth n'
    free := fun node edge found => (own node edge found).1
    guarded := fun node edge g found => (own node edge found).2 g
    told := fun n' ran' => told_of_proceeds
    refused := fun n' ran' e => asksGuard_of_refused }

theorem alarm_decided : alarm.Decided 0 ⟨⟨"armed"⟩, [], []⟩ ⟨"test"⟩ := by
  have taken : (alarm.resolve ⟨⟨"armed"⟩, [], []⟩ ⟨"test"⟩).map (fun way => way.2.guard) =
      .ok (some (.predicate "fuse" (Script.predicate (.stop (.panic (.literal "blown")))))) := rfl
  intro node edge g found guard
  rw [found] at taken
  obtain rfl := Option.some.inj (guard.symm.trans (Except.ok.inj taken))
  exact ⟨fun _ _ _ => .panic (.literal "blown"), fun ctx n => ⟨_, rfl, rfl⟩⟩

/-- The fuse blows when the alarm is asked whether it could be tested, so it blows in the same way
when the alarm is tested. -/
theorem alarm_predicts : ∃ ran e,
    alarm.canFire 0 ⟨⟨"armed"⟩, [], []⟩ ⟨"test"⟩ 0 = some ran ∧
      ran.value = .error
        (.guardPanicked ⟨⟨0, ⟨"armed"⟩, ⟨"armed"⟩, ⟨"test"⟩⟩, 0, "fuse", .message "blown"⟩) ∧
      alarm.Refused 0 ⟨⟨"armed"⟩, [], []⟩ ⟨"test"⟩ 1 e ∧
      e.anonymous =
        .guardPanicked ⟨⟨0, ⟨"armed"⟩, ⟨"armed"⟩, ⟨"test"⟩⟩, 0, "fuse", .message "blown"⟩ := by
  obtain ⟨ran, h, predicts⟩ := canFire_predicts alarm_decided 0
  have finds : alarm.Finds ⟨⟨"armed"⟩, [], []⟩ ⟨"test"⟩ := by
    have way : (alarm.resolve ⟨⟨"armed"⟩, [], []⟩ ⟨"test"⟩).map (fun way => way.2.destination) =
        .ok ⟨"armed"⟩ := rfl
    intro node edge found
    rw [found] at way
    have armed : edge.destination = ⟨"armed"⟩ := Except.ok.inj way
    rw [armed]
    decide +kernel
  have asked : (alarm.canFire 0 ⟨⟨"armed"⟩, [], []⟩ ⟨"test"⟩ 0).map Ran.value =
      some (.error
        (.guardPanicked ⟨⟨0, ⟨"armed"⟩, ⟨"armed"⟩, ⟨"test"⟩⟩, 0, "fuse", .message "blown"⟩)) := rfl
  rw [h] at asked
  have error := Option.some.inj asked
  obtain ⟨e, refused⟩ := (predicts.error_iff finds 1).1 ⟨_, error⟩
  exact ⟨ran, e, h, error, refused, predicts.same finds 1 _ e error refused⟩

end Machine

end StateMachine
