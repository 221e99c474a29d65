import StateMachine.Proofs.Outline
import StateMachine.Script
import StateMachine.Soundness

/-!
# The protocol of a fire

* `Machine.course_of_fire`: a fire that finds its way takes one of the courses of
  `Machine.Course`, and its own callbacks are found in the log by their identity.
* `Machine.fire_follows_protocol`: every fire either takes a course or calls nobody.
* `Machine.parcel`: a machine to look at, where a fire within a step goes wrong.
-/

namespace StateMachine

namespace Machine

variable {π ν : Type} [Payload π] {m : Machine π ν} {depth n : Nat} {payload : π}
  {trigger : Trigger} {source source' destination destination' : Node π ν} {edge edge' : Edge π ν}

theorem Leads.unique (h : m.Leads payload trigger source edge destination)
    (h' : m.Leads payload trigger source' edge' destination') :
    source' = source ∧ edge' = edge ∧ destination' = destination := by
  obtain rfl := Option.some.inj (h'.source_eq.symm.trans h.source_eq)
  obtain rfl := Option.some.inj (h'.edge_eq.symm.trans h.edge_eq)
  exact ⟨rfl, rfl, Option.some.inj (h'.destination_eq.symm.trans h.destination_eq)⟩

theorem Leads.resolve_eq (h : m.Leads payload trigger source edge destination) :
    m.resolve payload trigger = .ok (source, edge) :=
  resolve_eq_ok_iff.2 ⟨h.source_eq, h.edge_eq⟩

theorem exists_leads {goal : State}
    (way : (m.definition.node? (Payload.state payload)).bind (fun node =>
      (node.edge? trigger).map Edge.destination) = some goal)
    (stands : (m.definition.node? goal).isSome = true) :
    ∃ source edge destination, m.Leads payload trigger source edge destination ∧
      source.state = Payload.state payload ∧ edge.destination = goal ∧
        destination.state = goal := by
  obtain ⟨source, hs, way⟩ := Option.bind_eq_some_iff.1 way
  obtain ⟨edge, he, rfl⟩ := Option.map_eq_some_iff.1 way
  obtain ⟨destination, hd⟩ := Option.isSome_iff_exists.1 stands
  exact ⟨source, edge, destination, ⟨hs, he, hd⟩, m.sound.state_of_node? hs, rfl,
    m.sound.state_of_node? hd⟩

/-- The context of a fire that draws the identity `n`. -/
def contextOf (n : Nat) (source : Node π ν) (edge : Edge π ν) (trigger : Trigger) : Context :=
  ⟨n, source.state, edge.destination, trigger⟩

/-- A fire that finds its way takes one of the courses, and the identity that it draws tells its
callbacks apart from all others. -/
theorem course_of_fire {ran : Ran (Entry π ν) (π × Outcome)}
    (leads : m.Leads payload trigger source edge destination)
    (h : m.fire depth payload trigger n = some ran) :
    ∃ hs : List (Happening (m.host depth)),
      m.Course (m.host depth) source edge destination (contextOf n source edge trigger) payload hs
        ran.value ∧ Accounts n hs ran.log := by
  obtain ⟨⟨left, outcome⟩, next, log⟩ := ran
  obtain ⟨all, unf⟩ := m.plays_fireOn payload trigger ⟨n, _, h⟩
  have spans : Spans all n next := unf.spans
  have hlog : logOf all = log := unf.log_eq
  have answers : m.Answers (m.host depth) (.fire payload trigger) all (.fire left outcome) :=
    unf.rel
  have accounts := answers.accounts spans
  rw [hlog] at accounts
  cases answers with
  | lost lost => exact nomatch lost.symm.trans leads.resolve_eq
  | nowhere found none =>
    obtain ⟨rfl, rfl⟩ := Prod.mk.inj (Except.ok.inj (found.symm.trans leads.resolve_eq))
    exact nomatch none.symm.trans leads.destination_eq
  | @fired _ _ _ _ _ ctx hs _ _ leads' context course =>
    obtain ⟨rfl, rfl, rfl⟩ := leads.unique leads'
    obtain ⟨j, ⟨hid, -⟩, -⟩ := spans
    rw [hid] at context
    subst context
    exact ⟨hs, course, hlog, accounts.own_eq, accounts.calls_eq, accounts.visits_eq⟩

theorem silent_of_fire {ran : Ran (Entry π ν) (π × Outcome)}
    (lost : ∀ source edge destination, ¬m.Leads payload trigger source edge destination)
    (h : m.fire depth payload trigger n = some ran) :
    ran.log = [] ∧ ∃ e, ran.value = (payload, .answered (.error e)) := by
  obtain ⟨⟨left, outcome⟩, next, log⟩ := ran
  obtain ⟨hs, unf⟩ := m.plays_fireOn payload trigger ⟨n, _, h⟩
  have hlog : logOf hs = log := unf.log_eq
  have answers : m.Answers (m.host depth) (.fire payload trigger) hs (.fire left outcome) :=
    unf.rel
  cases answers with
  | lost => exact ⟨hlog.symm, _, rfl⟩
  | nowhere => exact ⟨hlog.symm, _, rfl⟩
  | fired leads => exact absurd leads (lost _ _ _)

/-- Every fire takes one of the courses from the state that the payload had when it was called, or
finds no way and calls nobody. The callbacks with the identity of the fire are called in the order
of the course, whatever their own fires do meanwhile. -/
theorem fire_follows_protocol (m : Machine π ν) {ran : Ran (Entry π ν) (π × Outcome)}
    (h : m.fire depth payload trigger n = some ran) :
    (∃ source edge destination, m.Leads payload trigger source edge destination ∧
      ∃ hs : List (Happening (m.host depth)),
        m.Course (m.host depth) source edge destination (contextOf n source edge trigger) payload
          hs ran.value ∧ Accounts n hs ran.log) ∨
    (∀ source edge destination, ¬m.Leads payload trigger source edge destination) ∧
      ran.log = [] ∧ ∃ e, ran.value = (payload, .answered (.error e)) := by
  by_cases leads : ∃ source edge destination, m.Leads payload trigger source edge destination
  · obtain ⟨source, edge, destination, leads⟩ := leads
    exact .inl ⟨source, edge, destination, leads, course_of_fire leads h⟩
  · have lost : ∀ source edge destination, ¬m.Leads payload trigger source edge destination :=
      fun s e d leads' => leads ⟨s, e, d, leads'⟩
    exact .inr ⟨lost, silent_of_fire lost h⟩

/-! ## A machine to look at -/

/-- Parcels are sent, and arrive while they are sent. A side effect panics when they have arrived,
and the handler then reports them lost. -/
def parcel : Machine Subject Remark where
  definition := .build [
    .configure ⟨"packed"⟩ .plain
      [.permit ⟨"send"⟩ ⟨"sent"⟩ (some (.predicate "ready" (Script.predicate .done))),
        .onExit (some ⟨"send"⟩) (some "stamp") (Script.operation (.act (.set "stamps" 1) .done))],
    .configure ⟨"sent"⟩ .plain
      [.permit ⟨"arrive"⟩ ⟨"home"⟩ none,
        .onEntry none (some "travel")
          (Script.operation (.act .enter (.act (.fire true ⟨"arrive"⟩) .done))),
        .onError (some "redirect") (Script.handler (.act (.retarget ⟨"lost"⟩) .done))],
    .configure ⟨"home"⟩ .plain
      [.onEntry none (some "unpack") (Script.operation (.act .enter .done))],
    .configure ⟨"lost"⟩ .plain [],
    .effect .afterTransition (some "bell")
      (Script.effect (.when (.state ⟨"home"⟩) (.stop (.panic (.message "nobody home"))) .done))]
  stopwatch _ _ := 0
  sound := Definition.sound_build _

/-- A parcel that is ready to be sent. -/
def packed : Subject := ⟨⟨"packed"⟩, [], []⟩

theorem parcel_leads : ∃ source edge destination,
    parcel.Leads packed ⟨"send"⟩ source edge destination ∧
      contextOf 0 source edge ⟨"send"⟩ = ⟨0, ⟨"packed"⟩, ⟨"sent"⟩, ⟨"send"⟩⟩ := by
  have way : (parcel.definition.node? ⟨"packed"⟩).bind (fun node =>
      (node.edge? ⟨"send"⟩).map Edge.destination) = some ⟨"sent"⟩ := by decide +kernel
  have stands : (parcel.definition.node? ⟨"sent"⟩).isSome = true := by decide +kernel
  have leads : ∃ source edge destination,
      parcel.Leads packed ⟨"send"⟩ source edge destination ∧ _ := exists_leads way stands
  obtain ⟨source, edge, destination, leads, hs, hd, -⟩ := leads
  exact ⟨source, edge, destination, leads, by rw [contextOf, hs, hd]; rfl⟩

/-- Two more callbacks are called while the parcel is sent, by the fire within the step. -/
theorem parcel_follows_protocol :
    ∃ ran, parcel.fire 1 packed ⟨"send"⟩ 0 = some ran ∧
      (calls ran.log).map Call.label =
        ["ready", "stamp", "travel", "unpack", "bell", "redirect"] ∧
      ∃ hs : List (Happening (parcel.host 1)), logOf hs = ran.log ∧
        (turns hs).map (fun t => t.call.label) = ["ready", "stamp", "travel", "redirect"] := by
  have finished : (parcel.fire 1 packed ⟨"send"⟩ 0).isSome = true := by decide +kernel
  obtain ⟨ran, h⟩ := Option.isSome_iff_exists.1 finished
  have labels : (parcel.fire 1 packed ⟨"send"⟩ 0).map (fun r => (calls r.log).map Call.label) =
      some ["ready", "stamp", "travel", "unpack", "bell", "redirect"] := by decide +kernel
  have own : (parcel.fire 1 packed ⟨"send"⟩ 0).map (fun r => (ownCalls 0 r.log).map Call.label) =
      some ["ready", "stamp", "travel", "redirect"] := by decide +kernel
  simp only [h, Option.map_some, Option.some.injEq] at labels own
  refine ⟨ran, h, labels, ?_⟩
  rcases fire_follows_protocol parcel h with ⟨_, _, _, _, hs, _, accounts⟩ | ⟨_, hlog, _⟩
  · refine ⟨hs, accounts.log_eq, ?_⟩
    rw [← own, accounts.calls_eq, List.map_map]
    rfl
  · exact absurd labels (by simp [hlog, calls])

end Machine

end StateMachine
