import StateMachine.Proofs.Containment
import StateMachine.Proofs.Marks
import StateMachine.Proofs.Nesting
import StateMachine.Proofs.Refusal

/-!
# The log as a mirror of a run

From the events in the log of a fire one can tell which fires there were within each other, how
they ended and what went wrong with them, as long as no side effect panics.

* `Balanced`, `brackets`: the beginnings and ends of transitions, well nested.
* `Peaceful`: logs without panics of side effects.
* `Host.Balanced`, `Machine.balanced_host`: whatever is asked of a machine leaves a balanced log.
* `ownEvents`: the events of one transition, in a log that other transitions write to as well.
* `Machine.Transition.Mirrored`: how the events of a transition agree with its answer.
* `Machine.log_mirrors`: the log of every fire, and of all fires within it.
-/

namespace StateMachine

variable {π ν : Type} {host : Host π ν}

/-! ## Brackets -/

/-- Whether a mark is the beginning or the end of a transition. -/
def Mark.isBracket : Mark → Bool
  | opened _ => true
  | closed _ => true
  | _ => false

/-- Every transition that begins ends under the same identity, and all that begin meanwhile end
before it. -/
inductive Balanced : List Mark → Prop
  | nil : Balanced []
  | enclosed {id ms} (inner : Balanced ms) : Balanced (.opened id :: (ms ++ [.closed id]))
  | append {ms ms'} (first : Balanced ms) (rest : Balanced ms') : Balanced (ms ++ ms')

/-- The beginnings and ends of transitions among marks. -/
def bracketsOf (ms : List Mark) : List Mark := ms.filter Mark.isBracket

/-- The beginnings and ends of transitions in a log. -/
def brackets (log : List (Entry π ν)) : List Mark := bracketsOf (marks (events log))

theorem bracketsOf_append (ms ms' : List Mark) :
    bracketsOf (ms ++ ms') = bracketsOf ms ++ bracketsOf ms' :=
  List.filter_append ..

theorem brackets_append (l l' : List (Entry π ν)) :
    brackets (l ++ l') = brackets l ++ brackets l' := by
  rw [brackets, events_append, marks_append, bracketsOf_append, brackets, brackets]

theorem brackets_event (e : Event) :
    brackets (Happening.event e : Happening host).log =
      bracketsOf (marks (eventsOf [(.event e : Happening host)])) := rfl

theorem brackets_turn (t : Turn host) :
    brackets (Happening.turn t).log = brackets t.run.ran.log := by
  have call : brackets [Entry.call (ν := ν) t.call] = [] := rfl
  have settled : brackets [Entry.settled (ν := ν) t.call t.settled] = [] := rfl
  rw [Happening.log, ← List.singleton_append, brackets_append, brackets_append, call, settled,
    List.nil_append, List.append_nil]

/-! ## Panics of side effects -/

/-- Whether no side effect panics, at whatever depth. -/
def Peaceful (log : List (Entry π ν)) : Prop :=
  ∀ v ∈ visits log, v.call.role.isEffect = true → ∀ raised, v.settled.verdict ≠ .panic raised

namespace Peaceful

variable {l l' : List (Entry π ν)}

theorem append_iff : Peaceful (l ++ l') ↔ Peaceful l ∧ Peaceful l' := by
  rw [Peaceful, visits_append]
  exact List.forall_mem_append

theorem of_turn {t : Turn host} (h : Peaceful (Happening.turn t).log) :
    Peaceful t.run.ran.log := by
  rw [Happening.log, ← List.singleton_append] at h
  exact (append_iff.1 (append_iff.1 h).2).1

end Peaceful

theorem mem_visits_of_own {i : Nat} {log : List (Entry π ν)} {hs : List (Happening host)}
    (own_eq : own i log = hs.flatMap Happening.lines) : ∀ v ∈ visitsOf hs, v ∈ visits log := by
  intro v hv
  rw [← visits_lines, ← own_eq] at hv
  exact (List.filter_sublist.filterMap _).subset hv

theorem Machine.Course.answered {m : Machine π ν} {source destination : Node π ν}
    {edge : Edge π ν} {ctx : Context} {payload left : π} {hs : List (Happening host)}
    {outcome : Outcome} {log : List (Entry π ν)}
    (course : m.Course host source edge destination ctx payload hs (left, outcome))
    (peaceful : Peaceful log) (visited : ∀ v ∈ visitsOf hs, v ∈ visits log) :
    ∃ result, outcome = .answered result := by
  cases outcome with
  | answered result => exact ⟨result, rfl⟩
  | escaped value =>
    obtain ⟨v, hv, effect, panic⟩ := course.outline.escapes rfl
    exact absurd panic (peaceful v (visited v hv) effect value)

/-! ## Balanced logs -/

/-- Whatever a host is asked leaves a balanced log, unless a side effect panics. -/
def Host.Balanced (host : Host π ν) : Prop :=
  ∀ q (f : Finished (host.ask q)), Peaceful f.ran.log → StateMachine.Balanced (brackets f.ran.log)

section Balance

variable {hs : List (Happening host)}

/-- Happenings among which no transition begins or ends leave a balanced log. What the turns in them
leave is given here, because `Turn.balanced`, which says so, needs this lemma for the happenings
within a turn. -/
theorem balanced_of_turns (balanced : host.Balanced) (peaceful : Peaceful (logOf hs))
    (quiet : bracketsOf (marks (eventsOf hs)) = [])
    (ht : ∀ t, .turn t ∈ hs → Peaceful t.run.ran.log → Balanced (brackets t.run.ran.log)) :
    Balanced (brackets (logOf hs)) := by
  induction hs with
  | nil => exact .nil
  | cons h hs ih =>
    rw [logOf_cons] at peaceful ⊢
    obtain ⟨first, rest⟩ := Peaceful.append_iff.1 peaceful
    have quiet' : bracketsOf (marks (eventsOf [h])) = [] ∧
        bracketsOf (marks (eventsOf hs)) = [] := by
      rw [← List.singleton_append, eventsOf_append, marks_append, bracketsOf_append] at quiet
      exact List.append_eq_nil_iff.1 quiet
    rw [brackets_append]
    refine .append ?_ (ih rest quiet'.2 fun t hm => ht t (List.mem_cons_of_mem _ hm))
    cases h with
    | turn t =>
      rw [brackets_turn]
      exact ht t List.mem_cons_self first.of_turn
    | asked q f => exact balanced q f first
    | event e =>
      rw [brackets_event, quiet'.1]
      exact .nil
    | _ => exact .nil

theorem Turn.balanced (balanced : host.Balanced) (t : Turn host)
    (peaceful : Peaceful t.run.ran.log) : Balanced (brackets t.run.ran.log) := by
  obtain ⟨hs, path⟩ := t.code.plays_run host t.call.context t.run
  have inner := path.rel.inner
  have none : eventsOf hs = [] := by
    refine List.filterMap_eq_nil_iff.2 fun h hh => ?_
    cases h with
    | event e => exact (inner _ hh).elim
    | _ => rfl
  rw [← path.log_eq] at peaceful ⊢
  refine balanced_of_turns balanced peaceful (by rw [none]; rfl) fun t ht => ?_
  exact (inner _ ht).elim

theorem balanced_logOf (balanced : host.Balanced) (peaceful : Peaceful (logOf hs))
    (quiet : bracketsOf (marks (eventsOf hs)) = []) : Balanced (brackets (logOf hs)) :=
  balanced_of_turns balanced peaceful quiet fun t _ => t.balanced balanced

theorem exists_of_enclosed {first last : Event} {es : List Event}
    (events : eventsOf hs = first :: (es ++ [last])) :
    ∃ before within after, hs = before ++ .event first :: (within ++ .event last :: after) ∧
      eventsOf before = [] ∧ eventsOf within = es ∧ eventsOf after = [] := by
  obtain ⟨before, h, rest, rfl, hbefore, hfirst, hrest⟩ := List.filterMap_eq_cons_iff.1 events
  obtain ⟨inner, rest, rfl, hinner, hrest⟩ := List.filterMap_eq_append_iff.1 hrest
  obtain ⟨pause, h', after, rfl, hpause, hlast, hafter⟩ := List.filterMap_eq_cons_iff.1 hrest
  obtain rfl := Happening.eq_of_event? hfirst
  obtain rfl := Happening.eq_of_event? hlast
  refine ⟨before, inner ++ pause, after, by rw [List.append_assoc], ?_, ?_, hafter⟩
  · exact List.filterMap_eq_nil_iff.2 hbefore
  · have silent : eventsOf pause = [] := List.filterMap_eq_nil_iff.2 hpause
    rw [eventsOf_append, silent, List.append_nil]
    exact hinner

/-- A transition that begins and ends, and in between only asks for others. -/
theorem balanced_of_enclosed (balanced : host.Balanced) (peaceful : Peaceful (logOf hs))
    {first last : Event} {es : List Event} {i : Nat}
    (events : eventsOf hs = first :: (es ++ [last])) (opens : first.mark? = some (.opened i))
    (closes : last.mark? = some (.closed i)) (quiet : bracketsOf (marks es) = []) :
    Balanced (brackets (logOf hs)) := by
  obtain ⟨before, within, after, rfl, hbefore, rfl, hafter⟩ := exists_of_enclosed events
  have opened : brackets (Happening.event first : Happening host).log = [.opened i] := by
    simp [brackets_event, marks, opens, bracketsOf, Mark.isBracket]
  have closed : brackets (Happening.event last : Happening host).log = [.closed i] := by
    simp [brackets_event, marks, closes, bracketsOf, Mark.isBracket]
  have all : brackets (logOf (before ++ .event first :: (within ++ .event last :: after))) =
      brackets (logOf before) ++ ((.opened i :: (brackets (logOf within) ++ [.closed i])) ++
        brackets (logOf after)) := by
    simp [brackets_append, opened, closed]
  simp only [logOf_append, logOf_cons, Peaceful.append_iff] at peaceful
  obtain ⟨calm, -, calm', -, calm''⟩ := peaceful
  rw [all]
  apply Balanced.append
  · exact balanced_logOf balanced calm (by rw [hbefore]; rfl)
  · apply Balanced.append
    · exact .enclosed (balanced_logOf balanced calm' quiet)
    · exact balanced_logOf balanced calm'' (by rw [hafter]; rfl)

theorem Context.Guarded.quiet {ctx : Context} {es : List Event} {r : Except FireError Unit}
    (h : ctx.Guarded es r) : bracketsOf (marks es) = [] := by
  cases h with
  | passed => rfl
  | rejected => rfl
  | panicked => rfl

theorem Context.Reports.balanced {ctx : Context} {cs : List (Call π)}
    {result : Except FireError Context} (reports : ctx.Reports cs (eventsOf hs) result)
    (balanced : host.Balanced) (peaceful : Peaceful (logOf hs)) :
    Balanced (brackets (logOf hs)) := by
  generalize events : eventsOf hs = es at reports
  cases reports with
  | refused guard =>
    refine balanced_logOf balanced peaceful ?_
    rw [events]
    exact guard.quiet
  | completed within =>
    refine balanced_of_enclosed balanced peaceful events rfl rfl ?_
    rw [within]
    rfl
  | exitFailed of _ _ within =>
    refine balanced_of_enclosed balanced peaceful events rfl (by rw [← of.id_eq]; rfl) ?_
    rw [within]
    simp [bracketsOf, Mark.isBracket]
  | entryFailed of _ _ within =>
    refine balanced_of_enclosed balanced peaceful events rfl (by rw [← of.id_eq]; rfl) ?_
    rw [within]
    simp [bracketsOf, Mark.isBracket]

end Balance

/-! ## The events of one transition -/

/-- The events of one transition. -/
def ownEvents (i : Nat) (log : List (Entry π ν)) : List Event :=
  (events log).filter fun e => e.context?.any fun c => c.id = i

theorem events_lines (hs : List (Happening host)) :
    events (hs.flatMap Happening.lines) = eventsOf hs := by
  induction hs with
  | nil => rfl
  | cons h hs ih =>
    rw [List.flatMap_cons, events_append, ih]
    cases h <;> rfl

theorem Event.context?_eq_head? (e : Event) : e.context? = e.contexts.head? := by
  cases e <;> rfl

/-- Where the lines of a transition are those of its own happenings, so are its events. -/
theorem ownEvents_eq {i : Nat} {log : List (Entry π ν)} {hs : List (Happening host)}
    (own_eq : own i log = hs.flatMap Happening.lines)
    (bears : ∀ h ∈ hs, h.Bears fun c => c.id = i) : ownEvents i log = eventsOf hs := by
  rw [ownEvents, events, ← filter_filterMap_own, ← events, own_eq, events_lines,
    List.filter_eq_self]
  · intro e he
    obtain ⟨h, hh, event⟩ := List.mem_filterMap.1 he
    obtain rfl := Happening.eq_of_event? event
    obtain ⟨some, all⟩ := bears _ hh
    rw [e.context?_eq_head?, List.head?_eq_some_head some]
    exact decide_eq_true (all _ (List.head_mem some))
  · intro entry e he hid
    cases entry with
    | event e' =>
      obtain rfl : e' = e := Option.some.inj he
      obtain ⟨c, hc, hci⟩ := (Option.any_eq_true _ _).1 hid
      rw [e'.context?_eq_head?] at hc
      exact List.any_eq_true.2 ⟨c, List.mem_of_head? hc, hci⟩
    | _ => simp [Entry.event?] at he

/-- The events of a fire in a log without panics of side effects. -/
theorem Machine.Course.reports_own {m : Machine π ν} {source destination : Node π ν}
    {edge : Edge π ν} {ctx : Context} {payload : π} {hs : List (Happening host)}
    {out : π × Outcome} {log : List (Entry π ν)}
    (course : m.Course host source edge destination ctx payload hs out) (peaceful : Peaceful log)
    (own_eq : own ctx.id log = hs.flatMap Happening.lines) :
    ∃ result, out.2 = .answered result ∧
      ctx.Reports (ownCalls ctx.id log) (ownEvents ctx.id log) result := by
  obtain ⟨left, outcome⟩ := out
  obtain ⟨result, rfl⟩ := course.answered peaceful (mem_visits_of_own own_eq)
  have bears : ∀ x ∈ hs, x.Bears fun c => c.id = ctx.id :=
    fun x hx => (course.outline.bears x hx).mono fun _ of => of.id_eq
  rw [ownCalls_eq own_eq bears, ownEvents_eq own_eq bears]
  exact ⟨result, rfl, course.reports⟩

/-- Whether an error says that a fire has found no way, since a state or a trigger is missing. -/
def FireError.isLost : FireError → Bool
  | stateNotFound _ => true
  | triggerNotFound _ _ => true
  | _ => false

theorem Context.Reports.not_lost {ctx : Context} {cs : List (Call π)} {es : List Event}
    {e : FireError} (h : ctx.Reports cs es (.error e)) : e.isLost = false := by
  cases h with
  | refused guard => cases guard <;> rfl
  | exitFailed => rfl
  | entryFailed => rfl

namespace Machine

variable [Payload π] {m : Machine π ν}

/-- Whatever a machine is asked leaves a balanced log, at every depth. -/
theorem balanced_host (m : Machine π ν) (depth : Nat) : (m.host depth).Balanced := by
  induction depth with
  | zero =>
    intro q f _
    obtain ⟨result, hran⟩ := Finished.of_exhausted f
    rw [hran]
    exact .nil
  | succ depth ih =>
    intro q f peaceful
    obtain ⟨hs, unf⟩ := m.plays_ask depth q f
    have answers := unf.rel
    have accounts := answers.accounts unf.spans
    rw [← unf.log_eq] at peaceful ⊢
    generalize f.ran.value = a at answers
    cases answers with
    | guarded _ _ _ guard =>
      exact balanced_logOf ih peaceful guard.guarded.quiet
    | fired _ _ course =>
      -- without a panic of a side effect the fire is answered, so its end is reported as well
      obtain ⟨result, rfl⟩ := course.answered peaceful (mem_visits_of_own accounts.own_eq)
      exact course.reports.balanced ih peaceful
    | _ => exact .nil

/-! ## The mirror -/

/-- How the events and the calls of a transition in a log agree with its answer. -/
structure Transition.Mirrored (t : m.Transition) (log : List (Entry π ν)) : Prop where
  /-- A fire is answered, and its events tell what it is answered. -/
  fired : ∀ left outcome, t.run.ran.value = .fire left outcome →
    ∃ result, outcome = .answered result ∧
      t.context.Reports (ownCalls t.context.id log) (ownEvents t.context.id log) result
  /-- If only the guard is asked, it reports no more than a refusal. -/
  guarded : ∀ r, t.run.ran.value = .canFire r →
    t.context.Guarded (ownEvents t.context.id log) r

theorem Transition.mirrored (t : m.Transition) {log : List (Entry π ν)}
    (own_eq : own t.context.id log = t.happenings.flatMap Happening.lines)
    (peaceful : Peaceful log) : t.Mirrored log := by
  have bears := t.bears
  obtain ⟨level, q, f, ctx, hs, unf⟩ := t
  have answers := unf.rel
  generalize ha : f.ran.value = a at answers
  constructor
  · intro left outcome hvalue
    obtain rfl := ha.symm.trans hvalue
    cases answers with
    | fired _ _ course => exact course.reports_own peaceful own_eq
  · intro r hvalue
    obtain rfl := ha.symm.trans hvalue
    cases answers with
    | guarded _ _ _ guard =>
      rw [ownEvents_eq own_eq fun x hx => (bears x hx).mono fun _ of => of.id_eq]
      exact guard.guarded

/-- What the log of a fire shows, and of all that began meanwhile. -/
structure Mirrors (m : Machine π ν) (depth n : Nat) (payload : π) (trigger : Trigger)
    (ran : Ran (Entry π ν) (π × Outcome)) : Prop where
  /-- The beginnings and ends of all transitions are well nested. -/
  balanced : Balanced (brackets ran.log)
  /-- The fire is answered, and unless it finds no way its events tell what it is answered. -/
  answered : ∃ result, ran.value.2 = .answered result ∧
    ((∃ source edge destination, m.Leads payload trigger source edge destination ∧
        (contextOf n source edge trigger).Reports (ownCalls n ran.log) (ownEvents n ran.log)
          result) ∨
      (∃ e, result = .error e ∧ e.isLost = true) ∧ ran.log = [])
  /-- So it is with all transitions that begin meanwhile. Everything in the log that carries a
  context is about one of them. -/
  transitions : ∃ (f : Finished ((m.host (depth + 1)).ask (.fire payload trigger)))
    (ts : List m.Transition), f.first = n ∧ f.ran.log = ran.log ∧
      m.Begins (depth + 1) [.asked _ f] ts ∧ (ts.map fun t => t.context.id).Pairwise (· < ·) ∧
      (∀ e ∈ ran.log, ∀ c ∈ e.contexts, ∃ t ∈ ts, t.context.Of c) ∧
      ∀ t ∈ ts, t.Mirrored ran.log

/-- A fire finds its way, or its error says why not and nothing is reported. -/
theorem leads_or_lost {depth n : Nat} {payload : π} {trigger : Trigger}
    {ran : Ran (Entry π ν) (π × Outcome)} (h : m.fire depth payload trigger n = some ran) :
    (∃ source edge destination, m.Leads payload trigger source edge destination) ∨
      ∃ e, ran.value.2 = .answered (.error e) ∧ e.isLost = true ∧ ran.log = [] := by
  rcases m.way payload trigger with ⟨e, lost⟩ | ⟨node, edge, found, none⟩ | leads
  · obtain rfl := Option.some.inj ((fire_of_lost lost depth n).symm.trans h)
    refine .inr ⟨e, rfl, ?_, rfl⟩
    rcases resolve_eq_error lost with ⟨-, rfl⟩ | ⟨_, -, -, rfl⟩ <;> rfl
  · obtain rfl := Option.some.inj ((fire_of_nowhere found none depth n).symm.trans h)
    exact .inr ⟨_, rfl, rfl, rfl⟩
  · exact .inl leads

theorem mirrors_of_fire {depth n : Nat} {payload : π} {trigger : Trigger}
    {ran : Ran (Entry π ν) (π × Outcome)} (h : m.fire depth payload trigger n = some ran)
    (peaceful : Peaceful ran.log) : m.Mirrors depth n payload trigger ran := by
  have plays : Plays (m.host (depth + 1)) ((m.host (depth + 1)).fire payload trigger) _ :=
    plays_fire payload trigger
  obtain ⟨_, unf⟩ := plays ⟨n, ran, h⟩
  obtain ⟨f, rfl, -⟩ := unf.rel
  obtain ⟨_, ⟨first, -⟩, -⟩ := unf.spans
  have log : f.ran.log = ran.log := by simpa [Happening.log] using unf.log_eq
  obtain ⟨ts, begins⟩ := Begins.total m (depth + 1) [.asked _ f]
  have bears (P : Context → Prop) :
      ∀ x ∈ [(.asked _ f : Happening (m.host (depth + 1)))], x.Bears P :=
    List.forall_mem_singleton.2 trivial
  refine ⟨?_, ?_, f, ts, first, log, begins, (begins.ascending unf.spans).pairwise, ?_, ?_⟩
  · rw [← log] at peaceful ⊢
    exact m.balanced_host (depth + 1) _ f peaceful
  · rcases leads_or_lost h with ⟨source, edge, destination, leads⟩ | ⟨e, answered, lost, silent⟩
    · obtain ⟨hs, course, accounts⟩ := course_of_fire leads h
      obtain ⟨result, answered, reports⟩ := course.reports_own peaceful accounts.own_eq
      exact ⟨result, answered, .inl ⟨source, edge, destination, leads, reports⟩⟩
    · exact ⟨_, answered, .inr ⟨⟨e, rfl, lost⟩, silent⟩⟩
  · intro e he c hc
    rw [← unf.log_eq] at he
    exact (begins.covers (bears fun _ => False) e he c hc).resolve_left id
  · intro t ht
    have own_eq := begins.own_eq unf.spans (bears _) t ht
    rw [unf.log_eq] at own_eq
    exact t.mirrored own_eq peaceful

/-- The log of a fire mirrors the run, if no side effect panics: the beginnings and ends of
transitions are well nested, and the events of each transition, whatever others report meanwhile,
tell how it ended and how many side effects were told. A fire that finds no way, at whatever depth,
reports nothing. -/
theorem log_mirrors (m : Machine π ν) :
    (∀ depth payload trigger n ran, m.fire depth payload trigger n = some ran →
      Peaceful ran.log → m.Mirrors depth n payload trigger ran) ∧
    ∀ level payload trigger (f : Finished ((m.host level).ask (.fire payload trigger))) left e,
      f.ran.value = .fire left (.answered (.error e)) → e.isLost = true → f.ran.log = [] := by
  refine ⟨fun _ _ _ _ _ h => mirrors_of_fire h, ?_⟩
  intro level payload trigger f left e answer lost
  cases level with
  | zero =>
    obtain ⟨result, hran⟩ := Finished.of_exhausted f
    exact nomatch (congrArg Ran.value hran).symm.trans answer
  | succ level =>
    obtain ⟨hs, unf⟩ := m.plays_ask level _ f
    have answers := unf.rel
    rw [← unf.log_eq]
    rw [answer] at answers
    cases answers with
    | lost => rfl
    | nowhere => rfl
    | fired _ _ course => exact nomatch course.reports.not_lost.symm.trans lost

/-! ## A machine to look at -/

/-- A door that is opened. Meanwhile somebody rings, and the chime is broken; somebody asks whether
the door could be opened, and somebody tries to close it, which nobody has provided for. -/
def door : Machine Subject Remark where
  definition := .build [
    .configure ⟨"shut"⟩ .plain
      [.permit ⟨"open"⟩ ⟨"open"⟩ (some (.predicate "unlocked" (Script.predicate .done))),
        .permit ⟨"ring"⟩ ⟨"shut"⟩ none,
        .onExit (some ⟨"open"⟩) (some "greet")
          (Script.operation (.act (.fire true ⟨"ring"⟩) (.act (.canFire ⟨"open"⟩)
            (.act (.fire true ⟨"close"⟩) .done)))),
        .onEntry none (some "chime") (Script.operation (.stop (.fail (.plain "broken"))))],
    .configure ⟨"open"⟩ .plain
      [.onEntry none (some "swing") (Script.operation (.act .enter .done))],
    .effect .all (some "lamp") (Script.effect .done)]
  stopwatch _ _ := 0
  sound := Definition.sound_build _

/-- While the door is opened a fire fails, a guard is asked and a fire finds no way. The log shows
this, and how the fires ended. -/
theorem door_mirrors : ∃ ran, door.fire 1 ⟨⟨"shut"⟩, [], []⟩ ⟨"open"⟩ 0 = some ran ∧
    brackets ran.log = [.opened 0, .opened 1, .closed 1, .closed 0] ∧
    marks (ownEvents 1 ran.log) = [.opened 1, .told .beforeTransition 1, .told .betweenStates 1,
      .wrong (.operation 0 "chime" (.plain "broken")), .closed 1] ∧
    ownEvents 2 ran.log = [] ∧
    Peaceful ran.log ∧ door.Mirrors 1 0 ⟨⟨"shut"⟩, [], []⟩ ⟨"open"⟩ ran := by
  have finished : (door.fire 1 ⟨⟨"shut"⟩, [], []⟩ ⟨"open"⟩ 0).isSome = true := by decide +kernel
  obtain ⟨ran, h⟩ := Option.isSome_iff_exists.1 finished
  have shown : (door.fire 1 ⟨⟨"shut"⟩, [], []⟩ ⟨"open"⟩ 0).map
      (fun r : Ran (Entry Subject Remark) (Subject × Outcome) => decide (
      brackets r.log = [.opened 0, .opened 1, .closed 1, .closed 0] ∧
      marks (ownEvents 1 r.log) = [.opened 1, .told .beforeTransition 1, .told .betweenStates 1,
        .wrong (.operation 0 "chime" (.plain "broken")), .closed 1] ∧
      ownEvents 2 r.log = [] ∧
      ∀ v ∈ visits r.log, v.call.role.isEffect = true → v.settled.verdict = .ok)) =
      some true := by
    decide +kernel
  simp only [h, Option.map_some, Option.some.injEq, decide_eq_true_eq] at shown
  obtain ⟨nested, failed, asked, fine⟩ := shown
  have peaceful : Peaceful ran.log := by
    intro v hv effect raised panic
    exact nomatch (fine v hv effect).symm.trans panic
  exact ⟨ran, h, nested, failed, asked, peaceful, (log_mirrors door).1 _ _ _ _ _ h peaceful⟩

end Machine

end StateMachine
