import StateMachine.Proofs.Course

/-!
# Identities

Every transition is told apart by its identity. A fire draws one and puts it into every line of
the log that is its own; what its callbacks ask meanwhile draws later ones. So the lines of a fire
can be read off a log in which the lines of other fires stand between them.

* `Entry.contexts`: the contexts a line of the log carries, those inside of errors included.
* `Happening.Bears P`: whatever a happening itself puts into the log carries contexts with `P`.
* `Context.Of ctx`: contexts of the same transition as `ctx`, whatever destination they report.
* `Host.Fresh`: what is asked of a host draws identities of its own, and leaves no line with
  another one.
* `own_logOf`: the lines with a fire's identity are those of its own events and turns.
* `ownCalls_logOf`: so the calls with its identity are those of its turns.
-/

namespace StateMachine

variable {π ν : Type} {host : Host π ν}

/-! ## Contexts in the log -/

/-- The contexts that an error of a list carries. -/
def ChainError.contexts (e : ChainError) : List Context := e.panic?.toList.map PanicError.transition

/-- The contexts that an error of a fire carries. -/
def FireError.contexts : FireError → List Context
  | guardPanicked e => [e.transition]
  | chain ctx e => ctx :: e.contexts
  | _ => []

/-- The contexts that an outcome carries. -/
def Outcome.contexts : Outcome → List Context
  | answered (.ok ctx) => [ctx]
  | answered (.error e) => e.contexts
  | escaped _ => []

/-- The contexts that a call carries: the one given to the callback, and that in its cause. -/
def Call.contexts (c : Call π) : List Context :=
  c.context ::
    match c.role with
    | .handler cause => cause.contexts
    | _ => []

/-- The contexts that an event carries. -/
def Event.contexts : Event → List Context
  | failed ctx e => ctx :: e.contexts
  | e => e.context?.toList

/-- The contexts that a line of the log carries. -/
def Entry.contexts : Entry π ν → List Context
  | call c => c.contexts
  | settled c s => s.context :: c.contexts
  | event e => e.contexts
  | remark _ => []

/-- Whether a line carries a context with the given identity. -/
def Entry.carries (i : Nat) (e : Entry π ν) : Bool := e.contexts.any fun c => c.id = i

/-- The lines of a log that carry a context with the given identity. -/
def own (i : Nat) (log : List (Entry π ν)) : List (Entry π ν) := log.filter (Entry.carries i)

/-- Whether all contexts in a log have identities from `n` on and below `k`. -/
def Within (n k : Nat) (log : List (Entry π ν)) : Prop :=
  ∀ e ∈ log, ∀ c ∈ e.contexts, n ≤ c.id ∧ c.id < k

/-- Contexts of the same transition: only the destination may differ. -/
def Context.Of (ctx c : Context) : Prop := c = ctx.retarget c.destination

namespace Context.Of

variable {ctx c : Context}

theorem refl (ctx : Context) : Of ctx ctx := rfl

theorem retarget (ctx : Context) (s : State) : Of ctx (ctx.retarget s) := rfl

theorem trans {b : Context} (h : Of ctx b) (h' : Of b c) : Of ctx c := by
  unfold Of at h h' ⊢
  rw [h', h]
  rfl

theorem symm (h : Of ctx c) : Of c ctx := by
  unfold Of at h ⊢
  rw [h]
  rfl

theorem id_eq (h : Of ctx c) : c.id = ctx.id := by rw [h]; rfl

/-- One transition has one identity, one source and one trigger. -/
theorem iff : Of ctx c ↔ c.id = ctx.id ∧ c.source = ctx.source ∧ c.trigger = ctx.trigger := by
  obtain ⟨id, source, destination, trigger⟩ := ctx
  obtain ⟨id', source', destination', trigger'⟩ := c
  simp [Of, Context.retarget]

end Context.Of

/-! ## What a happening itself puts into the log -/

namespace Happening

/-- The lines that a happening itself puts into the log. -/
def lines : Happening host → List (Entry π ν)
  | event e => [.event e]
  | turn t => [.call t.call, .settled t.call t.settled]
  | _ => []

/-- All lines that a happening itself puts into the log carry contexts, and only such with `P`. -/
def Bears (P : Context → Prop) : Happening host → Prop
  | begun ctx => P ctx
  | event e => e.contexts ≠ [] ∧ ∀ c ∈ e.contexts, P c
  | turn t => (∀ c ∈ t.call.contexts, P c) ∧ P t.settled.context
  | _ => True

theorem Bears.mono {P Q : Context → Prop} (hPQ : ∀ c, P c → Q c) {h : Happening host}
    (hP : h.Bears P) : h.Bears Q := by
  cases h with
  | begun ctx => exact hPQ _ hP
  | event e => exact ⟨hP.1, fun c hc => hPQ c (hP.2 c hc)⟩
  | turn t => exact ⟨fun c hc => hPQ c (hP.1 c hc), hPQ _ hP.2⟩
  | _ => trivial

theorem Bears.of_mem_lines {P : Context → Prop} {h : Happening host} (bears : h.Bears P)
    {e : Entry π ν} (he : e ∈ h.lines) {c : Context} (hc : c ∈ e.contexts) : P c := by
  cases h with
  | event e' =>
    obtain rfl := List.mem_singleton.1 he
    exact bears.2 c hc
  | turn t =>
    simp only [lines, List.mem_cons, List.not_mem_nil, or_false] at he
    rcases he with rfl | rfl
    · exact bears.1 c hc
    · rcases List.mem_cons.1 hc with rfl | hc
      · exact bears.2
      · exact bears.1 c hc
  | _ => exact absurd he List.not_mem_nil

theorem mem_log_turn {t : Turn host} {e : Entry π ν} :
    e ∈ (turn t).log ↔ e ∈ (turn t).lines ∨ e ∈ t.run.ran.log := by
  simp only [log, lines, List.mem_cons, List.mem_append, List.not_mem_nil, or_false]
  rw [or_left_comm, or_comm]

/-- Whether a happening belongs into the turn of a callback. -/
def Inner : Happening host → Prop
  | remark _ => True
  | retarget _ => True
  | asked _ _ => True
  | _ => False

theorem Inner.bears {P : Context → Prop} {h : Happening host} (hi : h.Inner) : h.Bears P := by
  cases h <;> trivial

end Happening

theorem Code.Path.inner {code : Code π ν} {ctx : Context} {hs : List (Happening host)}
    {s : Settled π} (h : code.Path host ctx hs s) : ∀ h ∈ hs, h.Inner := by
  induction h with
  | finish => exact fun _ hh => nomatch hh
  | escape => exact List.forall_mem_cons.2 ⟨trivial, fun _ hh => nomatch hh⟩
  | remark _ ih => exact List.forall_mem_cons.2 ⟨trivial, ih⟩
  | retarget _ ih => exact List.forall_mem_cons.2 ⟨trivial, ih⟩
  | triggers _ _ _ ih => exact List.forall_mem_cons.2 ⟨trivial, ih⟩
  | canFire _ _ _ ih => exact List.forall_mem_cons.2 ⟨trivial, ih⟩
  | fire _ _ _ ih => exact List.forall_mem_cons.2 ⟨trivial, ih⟩

/-- Code changes nothing of its context but the destination. -/
theorem Code.Path.of_context {code : Code π ν} {ctx : Context} {hs : List (Happening host)}
    {s : Settled π} (h : code.Path host ctx hs s) : Context.Of ctx s.context := by
  induction h with
  | finish => exact .refl _
  | retarget _ ih => exact (Context.Of.retarget _ _).trans ih
  | escape => exact .refl _
  | remark _ ih => exact ih
  | triggers _ _ _ ih => exact ih
  | canFire _ _ _ ih => exact ih
  | fire _ _ _ ih => exact ih

theorem Turn.of_context (t : Turn host) : Context.Of t.call.context t.settled.context := by
  obtain ⟨hs, h⟩ := t.code.plays_run host t.call.context t.run
  exact h.rel.of_context

/-! ## Freshness -/

/-- Whatever a host is asked draws identities that are not used yet, and leaves only lines with
such. -/
def Host.Fresh (host : Host π ν) : Prop :=
  ∀ q (f : Finished (host.ask q)), f.first ≤ f.ran.next ∧ Within f.first f.ran.next f.ran.log

/-- The lines that a happening leaves carry what it bears itself, or identities drawn meanwhile. -/
theorem Happening.within (fresh : host.Fresh) {P : Context → Prop} {h : Happening host}
    {n k : Nat} (spans : h.Spans n k) (bears : h.Bears P)
    (ht : ∀ t, h = .turn t → t.run.first ≤ t.run.ran.next ∧
      Within t.run.first t.run.ran.next t.run.ran.log) :
    n ≤ k ∧ ∀ e ∈ h.log, ∀ c ∈ e.contexts, P c ∨ n ≤ c.id ∧ c.id < k := by
  cases h with
  | begun ctx => exact ⟨by have := spans.2; omega, by simp [Happening.log]⟩
  | remark r => exact ⟨Nat.le_of_eq spans.symm, by simp [Happening.log, Entry.contexts]⟩
  | retarget s => exact ⟨Nat.le_of_eq spans.symm, by simp [Happening.log]⟩
  | event e =>
    exact ⟨Nat.le_of_eq spans.symm, fun e' he c hc => .inl (bears.of_mem_lines he hc)⟩
  | asked q f =>
    obtain ⟨rfl, rfl⟩ := spans
    exact ⟨(fresh q f).1, fun e he c hc => .inr ((fresh q f).2 e he c hc)⟩
  | turn t =>
    obtain ⟨rfl, rfl⟩ := spans
    have hrun := ht t rfl
    refine ⟨hrun.1, fun e he c hc => ?_⟩
    rcases mem_log_turn.1 he with he | he
    · exact .inl (bears.of_mem_lines he hc)
    · exact .inr (hrun.2 e he c hc)

/-- The same for a list. What the turns in it leave is given here, because `Turn.within`, which
says so, needs this lemma for the happenings within a turn. -/
theorem within_of_turns (fresh : host.Fresh) {P : Context → Prop} {hs : List (Happening host)}
    {n k : Nat} (spans : Spans hs n k) (bears : ∀ h ∈ hs, h.Bears P)
    (ht : ∀ t, .turn t ∈ hs → t.run.first ≤ t.run.ran.next ∧
      Within t.run.first t.run.ran.next t.run.ran.log) :
    n ≤ k ∧ ∀ e ∈ logOf hs, ∀ c ∈ e.contexts, P c ∨ n ≤ c.id ∧ c.id < k := by
  induction hs generalizing n with
  | nil => exact ⟨Nat.le_of_eq spans.symm, by simp⟩
  | cons h hs ih =>
    obtain ⟨j, hj, hk⟩ := spans
    rw [List.forall_mem_cons] at bears
    have hfirst := h.within fresh hj bears.1 fun t e => ht t (e ▸ List.mem_cons_self)
    have hrest := ih hk bears.2 fun t hm => ht t (List.mem_cons_of_mem _ hm)
    refine ⟨Nat.le_trans hfirst.1 hrest.1, fun e he c hc => ?_⟩
    rw [logOf_cons, List.mem_append] at he
    rcases he with he | he
    · exact (hfirst.2 e he c hc).imp_right fun h => ⟨h.1, Nat.lt_of_lt_of_le h.2 hrest.1⟩
    · exact (hrest.2 e he c hc).imp_right fun h => ⟨Nat.le_trans hfirst.1 h.1, h.2⟩

/-- What a callback asks during its turn draws later identities. -/
theorem Turn.within (fresh : host.Fresh) (t : Turn host) :
    t.run.first ≤ t.run.ran.next ∧ Within t.run.first t.run.ran.next t.run.ran.log := by
  obtain ⟨hs, h⟩ := t.code.plays_run host t.call.context t.run
  have := within_of_turns (P := fun _ => False) fresh h.spans
    (fun h' hh => (h.rel.inner h' hh).bears) fun t ht => (h.rel.inner _ ht).elim
  exact ⟨this.1, fun e he c hc => (this.2 e (h.log_eq ▸ he) c hc).resolve_left id⟩

theorem within_logOf (fresh : host.Fresh) {P : Context → Prop} {hs : List (Happening host)}
    {n k : Nat} (spans : Spans hs n k) (bears : ∀ h ∈ hs, h.Bears P) :
    n ≤ k ∧ ∀ e ∈ logOf hs, ∀ c ∈ e.contexts, P c ∨ n ≤ c.id ∧ c.id < k :=
  within_of_turns fresh spans bears fun t _ => t.within fresh

/-! ## The lines of one transition -/

theorem own_append (i : Nat) (l l' : List (Entry π ν)) : own i (l ++ l') = own i l ++ own i l' :=
  List.filter_append ..

theorem own_eq_nil {i : Nat} {log : List (Entry π ν)}
    (apart : ∀ e ∈ log, ∀ c ∈ e.contexts, c.id ≠ i) : own i log = [] := by
  refine List.filter_eq_nil_iff.2 fun e he => ?_
  simpa only [Entry.carries, List.any_eq_true, decide_eq_true_eq, not_exists, not_and] using
    apart e he

theorem Within.own_eq_nil {i n k : Nat} {log : List (Entry π ν)} (h : Within n k log)
    (hi : i < n) : own i log = [] :=
  StateMachine.own_eq_nil fun e he c hc => Nat.ne_of_gt (Nat.lt_of_lt_of_le hi (h e he c hc).1)

theorem own_singleton {i : Nat} {e : Entry π ν} {c : Context} (hc : c ∈ e.contexts)
    (hi : c.id = i) : own i [e] = [e] := by
  refine List.filter_eq_self.2 fun e' he => ?_
  obtain rfl := List.mem_singleton.1 he
  exact List.any_eq_true.2 ⟨c, hc, by simpa using hi⟩

theorem own_log_turn {i : Nat} {t : Turn host} (call : ∀ c ∈ t.call.contexts, c.id ≠ i)
    (settled : t.settled.context.id ≠ i) :
    own i (Happening.turn t).log = own i t.run.ran.log := by
  have hcall : own i [Entry.call (ν := ν) t.call] = [] := own_eq_nil (by simpa [Entry.contexts])
  have hsettled : own i [Entry.settled (ν := ν) t.call t.settled] = [] :=
    own_eq_nil (by simpa [Entry.contexts] using ⟨settled, call⟩)
  rw [Happening.log, ← List.singleton_append, own_append, own_append, hcall, hsettled,
    List.nil_append, List.append_nil]

theorem Happening.own_log (fresh : host.Fresh) {i n k : Nat} (hi : i < n) {h : Happening host}
    (spans : h.Spans n k) (bears : h.Bears fun c => c.id = i) : own i h.log = h.lines := by
  cases h with
  | begun ctx => rfl
  | remark r => rfl
  | retarget s => rfl
  | event e =>
    obtain ⟨c, hc⟩ := List.exists_mem_of_ne_nil _ bears.1
    exact own_singleton hc (bears.2 c hc)
  | asked q f =>
    obtain ⟨rfl, rfl⟩ := spans
    exact (fresh q f).2.own_eq_nil hi
  | turn t =>
    obtain ⟨rfl, rfl⟩ := spans
    have hcall : t.call.context ∈ t.call.contexts := List.mem_cons_self
    calc own i (.call t.call :: (t.run.ran.log ++ [.settled t.call t.settled]))
      _ = own i [.call t.call] ++ (own i t.run.ran.log ++ own i [.settled t.call t.settled]) := by
          rw [← own_append, ← own_append, List.singleton_append]
      _ = [.call t.call] ++ ([] ++ [.settled t.call t.settled]) := by
          rw [own_singleton (e := .call t.call) hcall (bears.1 _ hcall),
            (t.within fresh).2.own_eq_nil hi,
            own_singleton (e := .settled t.call t.settled) List.mem_cons_self bears.2]

/-- The lines with the identity `i` are those that the happenings themselves leave, if these bear
`i` and all identities drawn meanwhile are later. -/
theorem own_logOf (fresh : host.Fresh) {i n k : Nat} (hi : i < n) {hs : List (Happening host)}
    (spans : Spans hs n k) (bears : ∀ h ∈ hs, h.Bears fun c => c.id = i) :
    own i (logOf hs) = hs.flatMap Happening.lines := by
  induction hs generalizing n with
  | nil => rfl
  | cons h hs ih =>
    obtain ⟨j, hj, hk⟩ := spans
    rw [List.forall_mem_cons] at bears
    have hle : n ≤ j := (h.within fresh hj bears.1 fun t _ => t.within fresh).1
    rw [logOf_cons, own_append, h.own_log fresh hi hj bears.1,
      ih (Nat.lt_of_lt_of_le hi hle) hk bears.2, List.flatMap_cons]

/-! ## The calls of one transition -/

/-- The calls of one transition. -/
def ownCalls (i : Nat) (log : List (Entry π ν)) : List (Call π) :=
  (calls log).filter fun c => c.context.id = i

/-- A view of the lines of one transition may be taken of the whole log, if it shows nothing of
other lines. -/
theorem filter_filterMap_own {β : Type} {i : Nat} {f : Entry π ν → Option β} {p : β → Bool}
    (h : ∀ e b, f e = some b → p b = true → e.carries i = true) (log : List (Entry π ν)) :
    ((own i log).filterMap f).filter p = (log.filterMap f).filter p := by
  induction log with
  | nil => rfl
  | cons e log ih =>
    by_cases he : e.carries i = true
    · rw [own, List.filter_cons_of_pos he, ← own]
      cases hf : f e with
      | none => rw [List.filterMap_cons_none hf, List.filterMap_cons_none hf, ih]
      | some b =>
        rw [List.filterMap_cons_some hf, List.filterMap_cons_some hf, List.filter_cons,
          List.filter_cons, ih]
    · rw [own, List.filter_cons_of_neg he, ← own, ih]
      cases hf : f e with
      | none => rw [List.filterMap_cons_none hf]
      | some b =>
        have hb : ¬p b = true := fun hb => he (h e b hf hb)
        rw [List.filterMap_cons_some hf, List.filter_cons_of_neg hb]

theorem calls_lines (hs : List (Happening host)) :
    calls (hs.flatMap Happening.lines) = (turns hs).map Turn.call := by
  induction hs with
  | nil => rfl
  | cons h hs ih =>
    rw [List.flatMap_cons, calls_append, ih]
    cases h <;> rfl

theorem Happening.id_of_turn {i : Nat} {hs : List (Happening host)}
    (bears : ∀ h ∈ hs, h.Bears fun c => c.id = i) : ∀ t ∈ turns hs, t.call.context.id = i := by
  intro t ht
  exact (bears _ (mem_turns.1 ht)).1 _ List.mem_cons_self

/-- Where the lines of one transition are those of its own happenings, its calls are those of its
own turns. -/
theorem ownCalls_eq {i : Nat} {log : List (Entry π ν)} {hs : List (Happening host)}
    (own_eq : own i log = hs.flatMap Happening.lines)
    (bears : ∀ h ∈ hs, h.Bears fun c => c.id = i) :
    ownCalls i log = (turns hs).map Turn.call := by
  rw [ownCalls, calls, ← filter_filterMap_own, ← calls, own_eq, calls_lines, List.filter_eq_self]
  · intro c hc
    obtain ⟨t, ht, rfl⟩ := List.mem_map.1 hc
    exact decide_eq_true (Happening.id_of_turn bears t ht)
  · intro e c hc hid
    cases e with
    | call c' =>
      obtain rfl : c' = c := Option.some.inj hc
      exact List.any_eq_true.2 ⟨_, List.mem_cons_self, hid⟩
    | _ => simp [Entry.call?] at hc

/-- The calls of one transition are those of its own turns. -/
theorem ownCalls_logOf (fresh : host.Fresh) {i n k : Nat} (hi : i < n)
    {hs : List (Happening host)} (spans : Spans hs n k)
    (bears : ∀ h ∈ hs, h.Bears fun c => c.id = i) :
    ownCalls i (logOf hs) = (turns hs).map Turn.call :=
  ownCalls_eq (own_logOf fresh hi spans bears) bears

end StateMachine
