import StateMachine.Proofs.Arrows
import StateMachine.Proofs.Frozen
import StateMachine.Proofs.Protocol

/-!
# Transitions within transitions

A machine is asked one question after the other, and the callbacks that run meanwhile ask further
questions. All transitions that begin in such a run are told apart by their contexts.

* `Host.Asks`: what happens when questions are put to a host, one after the other.
* `Ascending`: numbers that ascend within bounds.
* `Machine.Transition`: a transition of a run, at any depth.
* `Machine.Begins`: which transitions begin while something happens, those within callbacks
  included.
* `Begins.ascending`, `Begins.covers`, `Begins.own_eq`: their identities ascend, every context in
  the log belongs to one of them, and each leaves no lines with its identity but its own.
* `Machine.Transition.Frozen`: what the context of a transition is made of, and that it is kept to.
* `Machine.contexts_frozen`: all of this, for every run of every machine.
-/

namespace StateMachine

variable {π ν : Type} {host : Host π ν}

/-! ## Runs of questions -/

theorem plays_question (q : Question π) :
    Plays host (host.ask q) fun hs a =>
      ∃ f : Finished (host.ask q), hs = [.asked q f] ∧ f.ran.value = a := by
  intro f
  exact ⟨[.asked q f], ⟨_, ⟨rfl, rfl⟩, rfl⟩, by simp [Happening.log], f, rfl, rfl⟩

/-- What happens when questions are put to a host one after the other, and the answers. -/
inductive Host.Asks (host : Host π ν) :
    List (Question π) → List (Happening host) → List (Answer π) → Prop
  | nil : Asks host [] [] []
  | cons {q qs hs answers} (f : Finished (host.ask q)) (rest : Asks host qs hs answers) :
      Asks host (q :: qs) (.asked q f :: hs) (f.ran.value :: answers)

theorem plays_questions (qs : List (Question π)) :
    Plays host (qs.mapM host.ask) (host.Asks qs) := by
  induction qs with
  | nil =>
    rw [List.mapM_nil]
    exact .pure .nil
  | cons q qs ih =>
    rw [List.mapM_cons]
    refine (plays_question q).bind ?_
    rintro _ _ ⟨f, rfl, rfl⟩
    refine ih.bind fun answers hs rest => .pure ?_
    rw [List.append_nil]
    exact .cons f rest

theorem Host.Asks.bears {P : Context → Prop} {qs : List (Question π)} {hs : List (Happening host)}
    {answers : List (Answer π)} (h : host.Asks qs hs answers) : ∀ x ∈ hs, x.Bears P := by
  induction h with
  | nil => exact fun _ hx => nomatch hx
  | cons f _ ih => exact List.forall_mem_cons.2 ⟨trivial, ih⟩

theorem Host.Asks.of_mem {qs : List (Question π)} {hs : List (Happening host)}
    {answers : List (Answer π)} (h : host.Asks qs hs answers) :
    ∀ a ∈ answers, ∃ q f, .asked q f ∈ hs ∧ f.ran.value = a := by
  induction h with
  | nil => exact fun _ ha => nomatch ha
  | cons f _ ih =>
    refine List.forall_mem_cons.2 ⟨⟨_, f, List.mem_cons_self, rfl⟩, fun a ha => ?_⟩
    obtain ⟨q, g, mem, hg⟩ := ih a ha
    exact ⟨q, g, List.mem_cons_of_mem _ mem, hg⟩

/-- The contexts that an answer carries. -/
def Answer.contexts : Answer π → List Context
  | canFire (.error e) => e.contexts
  | fire _ outcome => outcome.contexts
  | _ => []

/-! ## Ascending identities -/

/-- Numbers that ascend, from `n` on and below `k`. -/
structure Ascending (n k : Nat) (is : List Nat) : Prop where
  le : n ≤ k
  pairwise : is.Pairwise (· < ·)
  within : ∀ i ∈ is, n ≤ i ∧ i < k

namespace Ascending

variable {n j k : Nat} {is is' : List Nat}

theorem nil (h : n ≤ k) : Ascending n k [] := ⟨h, .nil, by simp⟩

theorem cons (h : Ascending (n + 1) k is) : Ascending n k (n :: is) where
  le := Nat.le_of_succ_le h.le
  pairwise := List.pairwise_cons.2 ⟨fun i hi => (h.within i hi).1, h.pairwise⟩
  within := by
    have := h.le
    refine List.forall_mem_cons.2 ⟨by omega, fun i hi => ?_⟩
    have := h.within i hi
    omega

theorem append (h : Ascending n j is) (h' : Ascending j k is') : Ascending n k (is ++ is') where
  le := Nat.le_trans h.le h'.le
  pairwise := by
    refine List.pairwise_append.2 ⟨h.pairwise, h'.pairwise, fun i hi i' hi' => ?_⟩
    exact Nat.lt_of_lt_of_le (h.within i hi).2 (h'.within i' hi').1
  within := by
    have := h.le
    have := h'.le
    refine List.forall_mem_append.2 ⟨fun i hi => ?_, fun i hi => ?_⟩
    · have := h.within i hi
      omega
    · have := h'.within i hi
      omega

end Ascending

/-! ## The transitions of a run -/

namespace Machine

variable [Payload π]

/-- A transition of a run: a fire, or a question for which a guard was asked, with what happened
meanwhile. Its callbacks may still call the machine `level` deep. -/
structure Transition (m : Machine π ν) where
  level : Nat
  question : Question π
  run : Finished ((m.host (level + 1)).ask question)
  context : Context
  happenings : List (Happening (m.host level))
  unfolds : run.Unfolds (m.Answers (m.host level) question) (.begun context :: happenings)

namespace Transition

variable {m : Machine π ν} (t : m.Transition)

theorem bears : ∀ x ∈ t.happenings, x.Bears t.context.Of := by
  obtain ⟨_, _, heq, bears⟩ := t.unfolds.rel.begun.resolve_left (by simp)
  obtain ⟨rfl, rfl⟩ : t.context = _ ∧ t.happenings = _ := by simpa using heq
  exact bears

/-- A transition has the first identity that is drawn in its run; what happens then draws later
ones. -/
theorem spans :
    t.context.id = t.run.first ∧ Spans t.happenings (t.run.first + 1) t.run.ran.next := by
  obtain ⟨_, ⟨hid, rfl⟩, rest⟩ := t.unfolds.spans
  exact ⟨hid, rest⟩

theorem accounts : Accounts t.context.id t.happenings t.run.ran.log := by
  have accounts := t.unfolds.rel.accounts t.unfolds.spans
  rw [t.unfolds.log_eq, ← t.spans.1] at accounts
  exact ⟨t.unfolds.log_eq, accounts.own_eq, accounts.calls_eq, accounts.visits_eq⟩

end Transition

/-- The transitions that begin while something happens, in the order in which they begin. -/
inductive Begins (m : Machine π ν) :
    (depth : Nat) → List (Happening (m.host depth)) → List m.Transition → Prop
  | nil {depth} : Begins m depth [] []
  /-- What happens within a turn is what happens when the code of the callback is run. -/
  | turn {depth hs ts} (t : Turn (m.host depth))
      (path : t.run.Unfolds (t.code.Path (m.host depth) t.call.context) hs)
      (inner : Begins m depth hs ts) : Begins m depth [.turn t] ts
  /-- A question that draws no identity begins no transition. -/
  | silent {depth q} (f : Finished ((m.host depth).ask q)) (next : f.ran.next = f.first)
      (log : f.ran.log = []) : Begins m depth [.asked q f] []
  | asked {ts} (t : m.Transition) (inner : Begins m t.level t.happenings ts) :
      Begins m (t.level + 1) [.asked t.question t.run] (t :: ts)
  /-- Everything else begins no transition. -/
  | other {depth h} (quiet : ∀ t, h ≠ .turn t) (quiet' : ∀ q f, h ≠ .asked q f) :
      Begins m depth [h] []
  | append {depth hs hs' ts ts'} (first : Begins m depth hs ts) (rest : Begins m depth hs' ts') :
      Begins m depth (hs ++ hs') (ts ++ ts')

namespace Begins

variable {m : Machine π ν} {depth n k : Nat} {hs : List (Happening (m.host depth))}
  {ts : List m.Transition}

/-- If it is known of every question which transitions begin with it, then it is known of
everything that happens. Turns are gone into first, since there are none within them. -/
theorem exists_of_questions
    (asked : ∀ q (f : Finished ((m.host depth).ask q)), ∃ ts, m.Begins depth [.asked q f] ts)
    (hs : List (Happening (m.host depth))) : ∃ ts, m.Begins depth hs ts := by
  have lists {hs : List (Happening (m.host depth))}
      (single : ∀ h ∈ hs, ∃ ts, m.Begins depth [h] ts) : ∃ ts, m.Begins depth hs ts := by
    induction hs with
    | nil => exact ⟨[], .nil⟩
    | cons h hs ih =>
      obtain ⟨⟨ts, first⟩, single⟩ := List.forall_mem_cons.1 single
      obtain ⟨ts', rest⟩ := ih single
      exact ⟨ts ++ ts', first.append rest⟩
  have inner {hs : List (Happening (m.host depth))} (inner : ∀ h ∈ hs, h.Inner) :
      ∃ ts, m.Begins depth hs ts := by
    refine lists fun h hh => ?_
    cases h with
    | asked q f => exact asked q f
    | turn t => exact (inner _ hh).elim
    | _ => exact ⟨[], .other (by simp) (by simp)⟩
  refine lists fun h _ => ?_
  cases h with
  | asked q f => exact asked q f
  | turn t =>
    obtain ⟨hs, path⟩ := t.code.plays_run (m.host depth) t.call.context t.run
    obtain ⟨ts, h⟩ := inner path.rel.inner
    exact ⟨ts, .turn t path h⟩
  | _ => exact ⟨[], .other (by simp) (by simp)⟩

theorem total (m : Machine π ν) (depth : Nat) (hs : List (Happening (m.host depth))) :
    ∃ ts, m.Begins depth hs ts := by
  induction depth with
  | zero =>
    refine exists_of_questions (fun q f => ?_) hs
    obtain ⟨result, hran⟩ := Finished.of_exhausted f
    exact ⟨[], .silent f (congrArg Ran.next hran) (congrArg Ran.log hran)⟩
  | succ depth ih =>
    refine exists_of_questions (fun q f => ?_) hs
    obtain ⟨hs, unf⟩ := m.plays_ask depth q f
    rcases unf.rel.begun with rfl | ⟨ctx, hs, rfl, -⟩
    · exact ⟨[], .silent f unf.spans unf.log_eq.symm⟩
    · obtain ⟨ts, inner⟩ := ih hs
      exact ⟨_, .asked ⟨depth, q, f, ctx, hs, unf⟩ inner⟩

/-- Transitions draw ascending identities, none of them used before. -/
theorem ascending (h : m.Begins depth hs ts) (spans : Spans hs n k) :
    Ascending n k (ts.map fun t => t.context.id) := by
  induction h generalizing n k with
  | nil => exact .nil (Nat.le_of_eq spans.symm)
  | turn t path _ ih =>
    obtain ⟨_, ⟨rfl, rfl⟩, rfl⟩ := spans
    exact ih path.spans
  | silent f next =>
    obtain ⟨_, ⟨rfl, rfl⟩, rfl⟩ := spans
    exact .nil (Nat.le_of_eq next.symm)
  | asked t _ ih =>
    obtain ⟨_, ⟨rfl, rfl⟩, rfl⟩ := spans
    obtain ⟨hid, rest⟩ := t.spans
    rw [List.map_cons, hid]
    exact (ih rest).cons
  | @other _ h quiet quiet' =>
    obtain ⟨_, hspans, rfl⟩ := spans
    refine .nil ?_
    cases h with
    | turn t => exact absurd rfl (quiet t)
    | asked q f => exact absurd rfl (quiet' q f)
    | begun ctx =>
      obtain ⟨-, rfl⟩ := hspans
      exact Nat.le_succ n
    | _ => exact Nat.le_of_eq (Eq.symm hspans)
  | append _ _ ih ih' =>
    obtain ⟨j, first, rest⟩ := spans_append.1 spans
    rw [List.map_append]
    exact (ih first).append (ih' rest)

theorem within (h : m.Begins depth hs ts) (spans : Spans hs n k) :
    ∀ t ∈ ts, n ≤ t.context.id ∧ t.context.id < k := fun _ ht =>
  (h.ascending spans).within _ (List.mem_map_of_mem (f := fun t => t.context.id) ht)

/-- Every context in the log is one of a transition that began meanwhile, unless it is borne by what
happened itself. -/
theorem covers {P : Context → Prop} (h : m.Begins depth hs ts) (bears : ∀ x ∈ hs, x.Bears P) :
    ∀ e ∈ logOf hs, ∀ c ∈ e.contexts, P c ∨ ∃ t ∈ ts, t.context.Of c := by
  induction h generalizing P with
  | nil => simp
  | turn t path _ ih =>
    have hinner := ih (P := fun _ => False) fun x hx => (path.rel.inner x hx).bears
    intro e he c hc
    rw [logOf_cons, logOf_nil, List.append_nil, Happening.mem_log_turn] at he
    rcases he with he | he
    · exact .inl ((List.forall_mem_singleton.1 bears).of_mem_lines he hc)
    · rw [← path.log_eq] at he
      exact .inr ((hinner e he c hc).resolve_left id)
  | silent f _ log => simp [Happening.log, log]
  | asked t _ ih =>
    intro e he c hc
    rw [logOf_cons, logOf_nil, List.append_nil, Happening.log, ← t.accounts.log_eq] at he
    rcases ih t.bears e he c hc with of | ⟨t', ht', of⟩
    · exact .inr ⟨t, List.mem_cons_self, of⟩
    · exact .inr ⟨t', List.mem_cons_of_mem _ ht', of⟩
  | @other _ h quiet quiet' =>
    intro e he c hc
    rw [logOf_cons, logOf_nil, List.append_nil] at he
    cases h with
    | turn t => exact absurd rfl (quiet t)
    | asked q f => exact absurd rfl (quiet' q f)
    | begun ctx => simp [Happening.log] at he
    | retarget s => simp [Happening.log] at he
    | remark r =>
      obtain rfl := List.mem_singleton.1 he
      simp [Entry.contexts] at hc
    | event e' => exact .inl ((List.forall_mem_singleton.1 bears).of_mem_lines he hc)
  | append _ _ ih ih' =>
    obtain ⟨first, rest⟩ := List.forall_mem_append.1 bears
    intro e he c hc
    rw [logOf_append, List.mem_append] at he
    rcases he with he | he
    · rcases ih first e he c hc with borne | ⟨t, ht, of⟩
      · exact .inl borne
      · exact .inr ⟨t, List.mem_append_left _ ht, of⟩
    · rcases ih' rest e he c hc with borne | ⟨t, ht, of⟩
      · exact .inl borne
      · exact .inr ⟨t, List.mem_append_right _ ht, of⟩

/-- Where identities from `n` on are drawn, no other of these is found in the log. -/
theorem own_eq_nil_of_apart (h : m.Begins depth hs ts) (bears : ∀ x ∈ hs, x.Bears fun c => c.id < n)
    {i : Nat} (hi : n ≤ i) (apart : ∀ t ∈ ts, t.context.id ≠ i) : own i (logOf hs) = [] := by
  refine own_eq_nil fun e he c hc => ?_
  rcases h.covers bears e he c hc with hlt | ⟨t, ht, of⟩
  · omega
  · rw [of.id_eq]
    exact apart t ht

/-- Each transition leaves its own lines under its identity, and nothing else does. Where something
happens after something else, the later identities are not found in the log before, nor the earlier
ones in the log after. -/
theorem own_eq (h : m.Begins depth hs ts) (spans : Spans hs n k)
    (bears : ∀ x ∈ hs, x.Bears fun c => c.id < n) :
    ∀ t ∈ ts, own t.context.id (logOf hs) = t.happenings.flatMap Happening.lines := by
  induction h generalizing n k with
  | nil => simp
  | silent => simp
  | other => simp
  | turn u path inner ih =>
    obtain ⟨_, ⟨rfl, rfl⟩, rfl⟩ := spans
    obtain ⟨hcall, hsettled⟩ := List.forall_mem_singleton.1 bears
    intro t ht
    have hle := (inner.within path.spans t ht).1
    have hcall' : ∀ c ∈ u.call.contexts, c.id ≠ t.context.id := fun c hc => by
      have := hcall c hc
      omega
    rw [logOf_cons, logOf_nil, List.append_nil, own_log_turn hcall' (by omega), ← path.log_eq]
    exact ih path.spans (fun x hx => (path.rel.inner x hx).bears) t ht
  | asked u inner ih =>
    rw [logOf_cons, logOf_nil, List.append_nil, Happening.log]
    refine List.forall_mem_cons.2 ⟨u.accounts.own_eq, fun t ht => ?_⟩
    rw [← u.accounts.log_eq]
    refine ih u.spans.2 (fun x hx => (u.bears x hx).mono fun c of => ?_) t ht
    exact Nat.lt_succ_of_le (Nat.le_of_eq (of.id_eq.trans u.spans.1))
  | append first rest ih ih' =>
    obtain ⟨j, spans, spans'⟩ := spans_append.1 spans
    obtain ⟨bears, bears'⟩ := List.forall_mem_append.1 bears
    have hnj := (first.ascending spans).le
    have within := first.within spans
    have within' := rest.within spans'
    refine List.forall_mem_append.2 ⟨fun t ht => ?_, fun t ht => ?_⟩
    · have hrest := rest.own_eq_nil_of_apart bears' (within t ht).1 fun t' ht' => by
        have := within t ht
        have := within' t' ht'
        omega
      rw [logOf_append, own_append, ih spans bears t ht, hrest, List.append_nil]
    · have hfirst := first.own_eq_nil_of_apart bears (Nat.le_trans hnj (within' t ht).1)
        fun t' ht' => by
          have := within t' ht'
          have := within' t ht
          omega
      rw [logOf_append, own_append, hfirst, List.nil_append]
      exact ih' spans'
        (fun x hx => (bears' x hx).mono fun _ hlt => Nat.lt_of_lt_of_le hlt hnj) t ht

end Begins

/-! ## Answers -/

theorem contexts_of_lost {m : Machine π ν} {payload : π} {trigger : Trigger} {e : FireError}
    (h : m.resolve payload trigger = .error e) : e.contexts = [] := by
  rcases resolve_eq_error h with ⟨-, rfl⟩ | ⟨_, -, -, rfl⟩ <;> rfl

theorem contexts_of_silent (m : Machine π ν) {depth : Nat} {q : Question π}
    (f : Finished ((m.host depth).ask q)) (next : f.ran.next = f.first) :
    f.ran.value.contexts = [] := by
  cases depth with
  | zero =>
    obtain ⟨result, hran⟩ := Finished.of_exhausted f
    rw [hran]
    rfl
  | succ depth =>
    obtain ⟨hs, unf⟩ := m.plays_ask depth q f
    have answers := unf.rel
    rcases answers.begun with rfl | ⟨ctx, hs, rfl, bears⟩
    · generalize f.ran.value = a at answers
      cases answers with
      | triggers => rfl
      | unguarded => rfl
      | nowhere => rfl
      | unresolved lost => exact contexts_of_lost lost
      | lost lost => exact contexts_of_lost lost
    · have rest := bears_id unf.spans bears
      have := (within_logOf (m.fresh_host depth) rest.1 rest.2).1
      omega

namespace Begins

variable {m : Machine π ν}

/-- The contexts in an answer are those of the transition that was asked for. -/
theorem answered {depth : Nat} {hs : List (Happening (m.host depth))} {ts : List m.Transition}
    (h : m.Begins depth hs ts) :
    ∀ q f, .asked q f ∈ hs → f.ran.value.contexts ≠ [] →
      ∃ t ∈ ts, t.question = q ∧ t.run.ran.value = f.ran.value := by
  induction h with
  | nil => exact fun _ _ mem => nomatch mem
  | turn => exact fun _ _ mem => nomatch List.mem_singleton.1 mem
  | silent f next =>
    intro q g mem hne
    cases List.mem_singleton.1 mem
    exact absurd (contexts_of_silent m f next) hne
  | asked t =>
    intro q g mem hne
    cases List.mem_singleton.1 mem
    exact ⟨t, List.mem_cons_self, rfl, rfl⟩
  | other _ quiet => exact fun q f mem => absurd (List.mem_singleton.1 mem).symm (quiet q f)
  | append _ _ ih ih' =>
    intro q f mem hne
    rcases List.mem_append.1 mem with mem | mem
    · obtain ⟨t, ht, h⟩ := ih q f mem hne
      exact ⟨t, List.mem_append_left _ ht, h⟩
    · obtain ⟨t, ht, h⟩ := ih' q f mem hne
      exact ⟨t, List.mem_append_right _ ht, h⟩

end Begins

/-! ## Frozen contexts -/

/-- A transition keeps to its context, at whatever depth it is. -/
structure Transition.Frozen {m : Machine π ν} (t : m.Transition) : Prop where
  /-- The context is made of the state that the payload had at the call, of the trigger, and of the
  destination of its edge. The graph shows this as an arrow. -/
  begun : ∃ payload trigger node edge,
    (t.question = .fire payload trigger ∨ t.question = .canFire payload trigger) ∧
      m.resolve payload trigger = .ok (node, edge) ∧
      t.context = ⟨t.context.id, Payload.state payload, edge.destination, trigger⟩ ∧
      (⟨Payload.state payload, trigger, edge.destination⟩ : Arrow) ∈ m.definition.graph.arrows
  /-- All callbacks and events are those of one transition. -/
  bears : ∀ x ∈ t.happenings, x.Bears t.context.Of
  /-- The answer is about the same transition. -/
  answer : ∀ c ∈ t.run.ran.value.contexts, t.context.Of c
  /-- A fire keeps to its context. -/
  fired : ∀ left outcome, t.run.ran.value = .fire left outcome →
    t.context.Freezes (visitsOf t.happenings) outcome
  /-- A guard that is asked alone is given the context, and panics with it. -/
  guarded : ∀ r, t.run.ran.value = .canFire r →
    (∀ v ∈ visitsOf t.happenings, v.call.role = .edgeGuard ∧ v.call.context = t.context) ∧
      ∀ p, r = .error (.guardPanicked p) → p.transition = t.context
  /-- Callbacks leave the context that they were given, with no other destination than one that
  they reported themselves. -/
  turns : ∀ u ∈ turns t.happenings, ∃ hs,
    u.run.Unfolds (u.code.Path (m.host t.level) u.call.context) hs ∧
      u.settled.context = retargeted u.call.context hs

theorem arrow_of_resolve {m : Machine π ν} (recorded : m.definition.Recorded) {payload : π}
    {trigger : Trigger} {node : Node π ν} {edge : Edge π ν}
    (found : m.resolve payload trigger = .ok (node, edge)) :
    (⟨Payload.state payload, trigger, edge.destination⟩ : Arrow) ∈ m.definition.graph.arrows := by
  obtain ⟨hnode, hedge⟩ := resolve_eq_ok_iff.1 found
  have harrow : (⟨node.state, edge.trigger, edge.destination⟩ : Arrow) ∈ node.arrows :=
    List.mem_map.2 ⟨edge, Node.mem_of_edge? hedge, rfl⟩
  have hmem := Definition.mem_of_node? hnode
  rw [m.sound.state_of_node? hnode, (m.sound.nodes node hmem).trigger_of_edge? hedge] at harrow
  exact recorded node hmem _ harrow

theorem Transition.frozen {m : Machine π ν} (recorded : m.definition.Recorded) (t : m.Transition) :
    t.Frozen := by
  have bears := t.bears
  obtain ⟨level, q, f, ctx, hs, unf⟩ := t
  have answers := unf.rel
  have turns := fun u (_ : u ∈ turns hs) => Turn.context_eq u
  generalize ha : f.ran.value = a at answers
  cases answers with
  | @guarded payload trigger node edge _ _ _ r found _ context guard =>
    rw [m.sound.state_of_node? (resolve_eq_ok_iff.1 found).1] at context
    refine ⟨⟨payload, trigger, node, edge, .inr rfl, found, context,
      arrow_of_resolve recorded found⟩, bears, ?_, ?_, ?_, turns⟩
    · rw [ha]
      intro c hc
      cases r with
      | ok => exact nomatch hc
      | error e =>
        rw [guard.eq_of_mem_contexts c hc]
        exact .refl ctx
    · exact fun _ _ h => nomatch ha.symm.trans h
    · intro r' h
      obtain rfl := Answer.canFire.inj (ha.symm.trans h)
      refine ⟨fun v hv => ⟨guard.role v hv, guard.given v hv⟩, ?_⟩
      rintro p rfl
      exact guard.eq_of_mem_contexts _ List.mem_cons_self
  | @fired payload trigger source edge _ _ _ _ _ leads context course =>
    rw [m.sound.state_of_node? leads.source_eq] at context
    refine ⟨⟨payload, trigger, source, edge, .inl rfl, leads.resolve_eq, context,
      arrow_of_resolve recorded leads.resolve_eq⟩, bears, ?_, ?_, ?_, turns⟩
    · rw [ha]
      exact course.outline.of_answer
    · intro left outcome h
      cases ha.symm.trans h
      exact course.outline.freezes
    · exact fun _ h => nomatch ha.symm.trans h

/-- However many questions a machine is asked one after the other, and however deep its callbacks
ask it within each other: all transitions are told apart by their identities, everything in the log
that carries a context is about one of them, and each of them keeps to its own context. -/
theorem contexts_frozen {m : Machine π ν} {declarations : List (Declaration π ν)}
    (declared : m.definition = .build declarations) {depth n : Nat} {questions : List (Question π)}
    {ran : Ran (Entry π ν) (List (Answer π))}
    (h : questions.mapM (m.host depth).ask n = some ran) :
    ∃ (hs : List (Happening (m.host depth))) (ts : List m.Transition),
      (m.host depth).Asks questions hs ran.value ∧ logOf hs = ran.log ∧ m.Begins depth hs ts ∧
      (ts.map fun t => t.context.id).Pairwise (· < ·) ∧
      (∀ e ∈ ran.log, ∀ c ∈ e.contexts, ∃ t ∈ ts, t.context.Of c) ∧
      (∀ a ∈ ran.value, a.contexts ≠ [] → ∃ t ∈ ts, t.run.ran.value = a) ∧
      ∀ t ∈ ts, own t.context.id ran.log = t.happenings.flatMap Happening.lines ∧ t.Frozen := by
  obtain ⟨hs, unf⟩ := plays_questions questions ⟨n, ran, h⟩
  have asks : (m.host depth).Asks questions hs ran.value := unf.rel
  have hlog : logOf hs = ran.log := unf.log_eq
  have recorded : m.definition.Recorded := declared ▸ Definition.recorded_build declarations
  obtain ⟨ts, begins⟩ := Begins.total m depth hs
  refine ⟨hs, ts, asks, hlog, begins, (begins.ascending unf.spans).pairwise, fun e he c hc => ?_,
    fun a ha hne => ?_, fun t ht => ⟨?_, t.frozen recorded⟩⟩
  · exact (begins.covers (P := fun _ => False) asks.bears e (hlog ▸ he) c hc).resolve_left id
  · obtain ⟨q, f, mem, rfl⟩ := asks.of_mem a ha
    obtain ⟨t, ht, -, hvalue⟩ := begins.answered q f mem hne
    exact ⟨t, ht, hvalue⟩
  · rw [← hlog]
    exact begins.own_eq unf.spans asks.bears t ht

/-- The parcel is reported lost, the panic still with the destination that the step was given. The
fire within the step has a context of its own. -/
theorem parcel_contexts_frozen :
    ∃ ran, [.canFire packed ⟨"send"⟩, .fire packed ⟨"send"⟩].mapM (parcel.host 2).ask 0 = some ran ∧
      ran.value.map Answer.contexts =
        [[], [⟨1, ⟨"packed"⟩, ⟨"lost"⟩, ⟨"send"⟩⟩, ⟨1, ⟨"packed"⟩, ⟨"sent"⟩, ⟨"send"⟩⟩]] ∧
      ∃ ts : List parcel.Transition, (ts.map fun t => t.context.id).Pairwise (· < ·) ∧
        (∃ t ∈ ts, t.context.Of ⟨1, ⟨"packed"⟩, ⟨"lost"⟩, ⟨"send"⟩⟩) ∧
        (∃ t ∈ ts, t.context.Of ⟨2, ⟨"sent"⟩, ⟨"home"⟩, ⟨"arrive"⟩⟩) ∧ ∀ t ∈ ts, t.Frozen := by
  have finished : ([.canFire packed ⟨"send"⟩, .fire packed ⟨"send"⟩].mapM
      (parcel.host 2).ask 0).isSome = true := by decide +kernel
  obtain ⟨ran, h⟩ := Option.isSome_iff_exists.1 finished
  have answers : ([.canFire packed ⟨"send"⟩, .fire packed ⟨"send"⟩].mapM
      (parcel.host 2).ask 0).map (fun r => r.value.map Answer.contexts) =
        some [[], [⟨1, ⟨"packed"⟩, ⟨"lost"⟩, ⟨"send"⟩⟩, ⟨1, ⟨"packed"⟩, ⟨"sent"⟩, ⟨"send"⟩⟩]] := by
    decide +kernel
  have shown : ([.canFire packed ⟨"send"⟩, .fire packed ⟨"send"⟩].mapM
      (parcel.host 2).ask 0).map (fun r =>
        r.log.any (fun e => e.contexts.any (· = ⟨1, ⟨"packed"⟩, ⟨"lost"⟩, ⟨"send"⟩⟩)) &&
        r.log.any (fun e => e.contexts.any (· = ⟨2, ⟨"sent"⟩, ⟨"home"⟩, ⟨"arrive"⟩⟩))) =
      some true := by decide +kernel
  simp only [h, Option.map_some, Option.some.injEq, Bool.and_eq_true, List.any_eq_true,
    decide_eq_true_eq] at answers shown
  obtain ⟨⟨e, he, c, hc, rfl⟩, ⟨e', he', c', hc', rfl⟩⟩ := shown
  obtain ⟨hs, ts, -, -, -, ascending, covers, -, frozen⟩ := contexts_frozen rfl h
  exact ⟨ran, h, answers, ts, ascending, covers e he _ hc, covers e' he' _ hc',
    fun t ht => (frozen t ht).2⟩

end Machine

end StateMachine
