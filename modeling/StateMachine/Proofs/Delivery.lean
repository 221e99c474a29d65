import Mathlib.Data.List.Forall2
import Mathlib.Data.Nat.Bitwise
import StateMachine.Proofs.Containment
import StateMachine.Proofs.Refusal

/-!
# Delivery

Side effects are told of a phase in the order of their registration: those whose filter includes
the phase, up to the first that panics. A fire tells them of as many phases as it comes to.

* `Filter.includes`: whether the bit of a phase is set. The other bits of a filter choose nothing.
* `Bus.places`: the positions of the registrations that a phase is delivered to.
* `Bus.Delivers`: what telling side effects of a phase comes to, turn by turn.
* `Bus.refilter`: another filter for one of them; `Bus.mem_places_union` is about unions.
* `phasesOf`: the phases that an answer shows; `Machine.Rounds`: side effects are told of phases,
  one after the other.
* `Machine.effects_delivered`: what is delivered in every dispatch, and in every fire without a
  panic of a side effect.
-/

namespace StateMachine

variable {π ν : Type} {host : Host π ν}

/-! ## Filters -/

/-- The bit of a filter that stands for a phase. -/
def Phase.bit : Phase → Nat
  | .beforeTransition => 0
  | .betweenStates => 1
  | .afterTransition => 2

namespace Filter

/-- Whether the bit of a phase is set in a filter. -/
def includes (f : Filter) (phase : Phase) : Bool := f.bits.toNat.testBit phase.bit

theorem toNat_bits_ofPhase (phase : Phase) : (ofPhase phase).bits.toNat = 2 ^ phase.bit := by
  cases phase <;> rfl

/-- The five bits that stand for no phase make no difference. -/
theorem allows_eq_includes (f : Filter) (phase : Phase) : f.allows phase = f.includes phase := by
  have masked : (f.bits &&& (ofPhase phase).bits).toNat =
      (f.includes phase).toNat * 2 ^ phase.bit := by
    rw [UInt8.toNat_and, toNat_bits_ofPhase, Nat.and_two_pow]
    rfl
  rw [allows, Bool.eq_iff_iff, bne_iff_ne, ne_eq, ← UInt8.toNat_inj, masked]
  cases f.includes phase <;> simp

theorem includes_foldl (filters : List Filter) (f : Filter) (phase : Phase) :
    (filters.foldl (· ||| ·) f).includes phase = true ↔
      ∃ g ∈ f :: filters, g.includes phase = true := by
  rw [← allows_eq_includes, allows_foldl, List.exists_mem_cons_iff, Bool.or_eq_true,
    List.any_eq_true, allows_eq_includes]
  simp only [allows_eq_includes]

end Filter

/-! ## One dispatch -/

namespace Bus

variable {bus : Bus π ν} {phase : Phase} {i j : Nat}

/-- The positions of the side effects whose filters include a phase. -/
def places (bus : Bus π ν) (phase : Phase) : List Nat :=
  bus.effects.findIdxs fun e => e.filter.includes phase

/-- A turn is that of the side effect at a position, which is told of a phase. -/
def Hears (bus : Bus π ν) (phase : Phase) (payload : π) (ctx : Context) (elapsed : Nat)
    (t : Turn host) (i : Nat) : Prop :=
  ∃ e, bus.effects[i]? = some e ∧
    t.Of (e.call phase payload ctx elapsed) (e.callback phase payload ctx elapsed)

theorem mem_places :
    i ∈ bus.places phase ↔ ∃ e, bus.effects[i]? = some e ∧ e.filter.includes phase = true := by
  simp only [places, List.mem_findIdxs_iff_exists_getElem_pos, List.getElem?_eq_some_iff]
  constructor
  · rintro ⟨within, included⟩
    exact ⟨_, ⟨within, rfl⟩, included⟩
  · rintro ⟨_, ⟨within, rfl⟩, included⟩
    exact ⟨within, included⟩

theorem count_places {e : Effect π ν} (stands : bus.effects[i]? = some e) (phases : List Phase) :
    (phases.flatMap bus.places).count i = phases.countP e.filter.includes := by
  induction phases with
  | nil => rfl
  | cons phase rest ih =>
    have told : i ∈ bus.places phase ↔ e.filter.includes phase = true := by
      rw [mem_places, stands]
      simp
    have once : (bus.places phase).Nodup := List.nodup_findIdxs
    rw [List.flatMap_cons, List.count_append, ih, once.count, List.countP_cons, Nat.add_comm]
    simp only [told]

theorem audience_eq (bus : Bus π ν) (phase : Phase) :
    bus.audience phase = bus.effects.filter fun e => e.filter.includes phase := by
  simp only [audience, Filter.allows_eq_includes]

theorem map_places (bus : Bus π ν) (phase : Phase) :
    (bus.places phase).map (bus.effects[·]?) = (bus.audience phase).map some := by
  rw [audience_eq, places]
  refine List.ext_getElem (by simp [List.countP_eq_length_filter]) fun k hk hk' => ?_
  rw [List.length_map] at hk'
  rw [List.getElem_map, List.getElem_map, List.getElem_filter_eq_getElem_getElem_findIdxs hk']
  exact List.getElem?_eq_getElem _

/-- What telling side effects of a phase comes to: the turns, all happenings, and the answer. -/
structure Delivers (bus : Bus π ν) (phase : Phase) (payload : π) (ctx : Context) (elapsed : Nat)
    (ts : List (Turn host)) (hs : List (Happening host)) (r : Except Raised Nat) : Prop where
  /-- Nothing happens but the turns. The number of side effects is reported in the end. -/
  happened : hs = ts.map .turn ++
    r.toOption.toList.map fun told => .event (.dispatched ctx phase told)
  /-- The turns are those of the first registrations that include the phase, in their order. -/
  called : List.Forall₂ (bus.Hears phase payload ctx elapsed) ts ((bus.places phase).take ts.length)
  /-- Either all of these registrations are called, and none of them panics, or the last one that is
  called panics, and none before it. -/
  ends : (r = .ok (bus.places phase).length ∧ ts.length = (bus.places phase).length ∧
      ∀ t ∈ ts, ∀ v, t.verdict ≠ .panic v) ∨
    ∃ before last v, ts = before ++ [last] ∧ (∀ t ∈ before, ∀ w, t.verdict ≠ .panic w) ∧
      last.verdict = .panic v ∧ r = .error v

section Heard

variable {payload : π} {ctx : Context} {elapsed : Nat} {effects : List (Effect π ν)}
  {ts : List (Turn host)} {escape? : Option Raised}

theorem called_of_heard (h : Effect.Heard host phase payload ctx elapsed effects ts escape?) :
    List.Forall₂ (fun t e => t.Of (e.call phase payload ctx elapsed)
      (e.callback phase payload ctx elapsed)) ts (effects.take ts.length) := by
  induction h with
  | nil => exact .nil
  | calm t of _ _ ih => exact .cons of ih
  | panicked t of => exact .cons of .nil

theorem ends_of_heard (h : Effect.Heard host phase payload ctx elapsed effects ts escape?) :
    (escape? = none ∧ ts.length = effects.length ∧ ∀ t ∈ ts, ∀ v, t.verdict ≠ .panic v) ∨
      ∃ before last v, ts = before ++ [last] ∧ (∀ t ∈ before, ∀ w, t.verdict ≠ .panic w) ∧
        last.verdict = .panic v ∧ escape? = some v := by
  induction h with
  | nil => exact .inl ⟨rfl, rfl, List.forall_mem_nil _⟩
  | calm t _ calm _ ih =>
    rcases ih with ⟨none, all, quiet⟩ | ⟨before, last, v, rfl, quiet, panic, escape⟩
    · exact .inl ⟨none, congrArg Nat.succ all, List.forall_mem_cons.2 ⟨calm, quiet⟩⟩
    · exact .inr ⟨t :: before, last, v, rfl, List.forall_mem_cons.2 ⟨calm, quiet⟩, panic, escape⟩
  | @panicked _ _ v t _ panic => exact .inr ⟨[], t, v, rfl, List.forall_mem_nil _, panic, rfl⟩

/-- The turns are matched with the positions of the side effects that are told. -/
theorem hears_of_heard
    (h : Effect.Heard host phase payload ctx elapsed (bus.audience phase) ts escape?) :
    List.Forall₂ (bus.Hears phase payload ctx elapsed) ts ((bus.places phase).take ts.length) := by
  have matched : List.Forall₂ (fun t place => ∃ e, place = some e ∧
      t.Of (e.call phase payload ctx elapsed) (e.callback phase payload ctx elapsed)) ts
      (((bus.audience phase).take ts.length).map some) := by
    rw [List.forall₂_map_right_iff]
    exact (called_of_heard h).imp fun _ e of => ⟨e, rfl, of⟩
  rw [List.map_take, ← map_places, ← List.map_take, List.forall₂_map_right_iff] at matched
  exact matched

end Heard

variable {payload : π} {ctx : Context} {elapsed : Nat} {hs : List (Happening host)}
  {r : Except Raised Nat}

theorem length_audience (bus : Bus π ν) (phase : Phase) :
    (bus.audience phase).length = (bus.places phase).length := by
  simpa using (congrArg List.length (bus.map_places phase)).symm

theorem Tells.delivers (h : bus.Tells host phase payload ctx elapsed hs r) :
    ∃ ts, bus.Delivers phase payload ctx elapsed ts hs r := by
  cases h with
  | @told ts heard =>
    rcases ends_of_heard heard with ⟨-, all, quiet⟩ | ⟨_, _, _, -, -, -, escape⟩
    · rw [length_audience] at all
      exact ⟨ts, rfl, hears_of_heard heard, .inl ⟨by rw [all], all, quiet⟩⟩
    · exact nomatch escape
  | @panicked ts v heard =>
    rcases ends_of_heard heard with ⟨escape, -⟩ | ⟨before, last, w, split, quiet, panic, escape⟩
    · exact nomatch escape
    · obtain rfl := Option.some.inj escape
      exact ⟨ts, (List.append_nil _).symm, hears_of_heard heard,
        .inr ⟨before, last, v, split, quiet, panic, rfl⟩⟩

theorem returns_dispatch
    (returns : ∀ e ∈ bus.effects, e.filter.includes phase = true →
      (e.callback phase payload ctx elapsed).Returns host) :
    (bus.dispatch host phase payload ctx elapsed).Returns := by
  have related : ∀ e ∈ bus.effects, e.filter.allows phase = true →
      (e.callback phase payload ctx elapsed).Related (fun _ x _ => x.Returns) host host := by
    intro e mem allowed
    rw [Filter.allows_eq_includes] at allowed
    exact returns e mem allowed
  exact Bus.related_dispatch Run.congruence_returns phase payload ctx elapsed related

/-- Gives the side effect at a position another filter. -/
def refilter (bus : Bus π ν) (i : Nat) (f : Filter) : Bus π ν :=
  ⟨bus.effects.modify i fun e => { e with filter := f }⟩

theorem mem_places_refilter {f : Filter} :
    j ∈ (bus.refilter i f).places phase ↔
      ∃ e, bus.effects[j]? = some e ∧ (if i = j then f else e.filter).includes phase = true := by
  rw [mem_places, refilter]
  simp only [List.getElem?_modify]
  split <;> simp

/-- Under a union of filters, a side effect is told of what it is told of under one of them. To the
others the filter makes no difference. -/
theorem mem_places_union (f : Filter) (rest : List Filter) :
    j ∈ (bus.refilter i (rest.foldl (· ||| ·) f)).places phase ↔
      ∃ g ∈ f :: rest, j ∈ (bus.refilter i g).places phase := by
  simp only [mem_places_refilter]
  split
  · simp only [Filter.includes_foldl]
    constructor
    · rintro ⟨e, stands, g, mem, included⟩
      exact ⟨g, mem, e, stands, included⟩
    · rintro ⟨g, mem, e, stands, included⟩
      exact ⟨e, stands, g, mem, included⟩
  · exact ⟨fun h => ⟨f, List.mem_cons_self, h⟩, fun ⟨_, _, h⟩ => h⟩

end Bus

/-! ## Whole fires -/

/-- The phases that side effects have been told of, if a fire is answered like this. -/
def phasesOf : Except FireError Context → List Phase
  | .ok _ => [.beforeTransition, .betweenStates, .afterTransition]
  | .error (.chain _ _) => [.beforeTransition, .betweenStates]
  | .error _ => []

theorem phasesOf_of_refuses {e : FireError} (refuses : e.refuses = true) :
    phasesOf (.error e) = [] := by
  cases e with
  | chain => exact nomatch refuses
  | _ => rfl

/-- The turns of side effects among happenings. -/
def effectTurns (hs : List (Happening host)) : List (Turn host) :=
  (turns hs).filter fun t => t.call.role.isEffect

@[simp] theorem effectTurns_nil : effectTurns ([] : List (Happening host)) = [] := rfl

@[simp] theorem effectTurns_append (hs hs' : List (Happening host)) :
    effectTurns (hs ++ hs') = effectTurns hs ++ effectTurns hs' := by
  rw [effectTurns, turns_append, List.filter_append]
  rfl

@[simp] theorem effectTurns_event (e : Event) (hs : List (Happening host)) :
    effectTurns (.event e :: hs) = effectTurns hs := rfl

theorem effectTurns_eq_nil {hs : List (Happening host)}
    (others : ∀ v ∈ visitsOf hs, v.call.role.isEffect = false) : effectTurns hs = [] := by
  rw [effectTurns, List.filter_eq_nil_iff]
  intro t ht
  rw [← t.call_visit, others t.visit (List.mem_map_of_mem ht)]
  exact Bool.false_ne_true

namespace Machine

variable {m : Machine π ν} {n : Nat}

/-- Side effects are told of phases, one after the other, all of them and without a panic. In each
phase they are given the same payload, the same context and the same time. -/
inductive Rounds (m : Machine π ν) (n : Nat) : List Phase → List (Turn host) → Prop
  | nil : Rounds m n [] []
  | cons {phase payload ctx ts phases ts'} (id : ctx.id = n)
      (round : List.Forall₂
        (m.definition.effects.Hears phase payload ctx (m.stopwatch n phase)) ts
        (m.definition.effects.places phase))
      (rest : Rounds m n phases ts') : Rounds m n (phase :: phases) (ts ++ ts')

/-- A turn is that of the side effect at a position, which is told of some phase of a fire. -/
def Serves (m : Machine π ν) (n : Nat) (t : Turn host) (i : Nat) : Prop :=
  ∃ phase payload ctx, ctx.id = n ∧
    m.definition.effects.Hears phase payload ctx (m.stopwatch n phase) t i

theorem Rounds.serves {phases : List Phase} {ts : List (Turn host)} (h : m.Rounds n phases ts) :
    List.Forall₂ (m.Serves n) ts (phases.flatMap m.definition.effects.places) := by
  induction h with
  | nil => exact .nil
  | cons id round _ ih =>
    rw [List.flatMap_cons]
    exact List.rel_append (round.imp fun _ _ hears => ⟨_, _, _, id, hears⟩) ih

/-- One phase of which the side effects have been told without a panic. -/
theorem Tells.rounds {phase : Phase} {payload : π} {ctx : Context} {hs : List (Happening host)}
    {k : Nat} (h : m.Tells host phase payload ctx hs (.ok k)) (id : ctx.id = n)
    {phases : List Phase} {ts : List (Turn host)} (rest : m.Rounds n phases ts) :
    m.Rounds n (phase :: phases) (effectTurns hs ++ ts) := by
  have effects : effectTurns hs = turns hs := by
    refine List.filter_eq_self.2 fun t ht => ?_
    obtain ⟨elapsed, role⟩ := h.role t.visit (List.mem_map_of_mem ht)
    rw [← t.call_visit, role]
    rfl
  obtain ⟨ts', delivers⟩ := Bus.Tells.delivers h
  have all : ts'.length = (m.definition.effects.places phase).length := by
    rcases delivers.ends with ⟨-, all, -⟩ | ⟨_, _, _, -, -, -, escaped⟩
    · exact all
    · exact nomatch escaped
  have told : effectTurns hs = ts' := by
    rw [effects, delivers.happened, turns_append, turns_map_turn]
    exact List.append_nil ts'
  have called := delivers.called
  rw [all, List.take_length, id] at called
  rw [told]
  exact .cons id called rest

section Course

variable {source destination : Node π ν} {edge : Edge π ν} {ctx : Context} {payload left : π}
  {hs : List (Happening host)} {result : Except FireError Context}

theorem effectTurns_of_admits {r : Except FireError Unit}
    (h : edge.Admits host payload ctx hs r) : effectTurns hs = [] :=
  effectTurns_eq_nil fun v hv => by rw [h.role v hv]; rfl

theorem effectTurns_of_executes {side : Side} {chain : Chain π ν}
    {out : π × Except ChainError Unit} (h : chain.Executes host side ctx payload hs out) :
    effectTurns hs = [] :=
  effectTurns_eq_nil fun v hv => by rcases h.1.role v hv with role | role <;> rw [role] <;> rfl

theorem effectTurns_of_mended {cause : ChainError} {out : Recovered π}
    (h : Mended cause ctx payload 0 hs out) : effectTurns hs = [] :=
  effectTurns_eq_nil fun v hv => by rw [h.role v hv]; rfl

/-- An answered fire has told the side effects of the phases that the answer shows. -/
theorem Course.rounds
    (h : m.Course host source edge destination ctx payload hs (left, .answered result)) :
    m.Rounds ctx.id (phasesOf result) (effectTurns hs) := by
  cases h with
  | refused guard =>
    rw [phasesOf_of_refuses guard.refuses, effectTurns_of_admits guard]
    exact .nil
  | exitFailed guard before exit recovery between =>
    have mended := recovery.1.mended exit.1.stretch.of_mem_contexts
    have rounds := before.rounds rfl (between.rounds mended.of.id_eq .nil)
    simpa [phasesOf, effectTurns_of_admits guard, effectTurns_of_executes exit,
      effectTurns_of_mended mended] using rounds
  | entryFailed guard before exit between entry recovery =>
    have mended := recovery.1.mended entry.1.stretch.of_mem_contexts
    have rounds := before.rounds rfl (between.rounds rfl .nil)
    simpa [phasesOf, effectTurns_of_admits guard, effectTurns_of_executes exit,
      effectTurns_of_executes entry, effectTurns_of_mended mended] using rounds
  | completed guard before exit between entry after =>
    have rounds := before.rounds rfl (between.rounds rfl (after.rounds rfl .nil))
    simpa [phasesOf, effectTurns_of_admits guard, effectTurns_of_executes exit,
      effectTurns_of_executes entry] using rounds

end Course

/-- What a fire delivers that is answered, if these are its happenings. -/
structure Delivered (m : Machine π ν) (n : Nat) (result : Except FireError Context)
    (hs : List (Happening host)) : Prop where
  /-- The side effects are told of the phases that the answer shows, one phase after the other. -/
  rounds : m.Rounds n (phasesOf result) (effectTurns hs)
  /-- Each of them is called as many times as its filter includes such phases. -/
  counted : ∃ served : List Nat, List.Forall₂ (m.Serves n) (effectTurns hs) served ∧
    ∀ (i : Nat) e, m.definition.effects.effects[i]? = some e →
      served.count i = (phasesOf result).countP e.filter.includes

theorem Rounds.delivered {result : Except FireError Context} {hs : List (Happening host)}
    (h : m.Rounds n (phasesOf result) (effectTurns hs)) : m.Delivered n result hs :=
  ⟨h, _, h.serves, fun _ _ stands => Bus.count_places stands _⟩

theorem delivered_nil {e : FireError} (refuses : e.refuses = true) :
    m.Delivered n (.error e) ([] : List (Happening host)) := by
  refine Rounds.delivered ?_
  rw [phasesOf_of_refuses refuses]
  exact .nil

variable [Payload π]

/-- A fire is answered if none of its side effects panics. -/
theorem delivered_of_fire {depth : Nat} {payload : π} {trigger : Trigger}
    {ran : Ran (Entry π ν) (π × Outcome)} (h : m.fire depth payload trigger n = some ran)
    (calm : ∀ v ∈ ownVisits n ran.log, v.call.role.isEffect = true →
      ∀ raised, v.settled.verdict ≠ .panic raised) :
    ∃ result, ran.value.2 = .answered result ∧ ∃ hs : List (Happening (m.host depth)),
      Accounts n hs ran.log ∧ m.Delivered n result hs := by
  have silent : Accounts n ([] : List (Happening (m.host depth))) [] := ⟨rfl, rfl, rfl, rfl⟩
  rcases m.way payload trigger with ⟨e, lost⟩ | ⟨_, _, found, none⟩ |
    ⟨source, edge, destination, leads⟩
  · obtain rfl := Option.some.inj ((fire_of_lost lost depth n).symm.trans h)
    exact ⟨_, rfl, [], silent, delivered_nil (refuses_of_lost lost)⟩
  · obtain rfl := Option.some.inj ((fire_of_nowhere found none depth n).symm.trans h)
    exact ⟨_, rfl, [], silent, delivered_nil rfl⟩
  · obtain ⟨hs, course, accounts⟩ := course_of_fire leads h
    rw [accounts.visits_eq] at calm
    obtain ⟨⟨left, outcome⟩, next, log⟩ := ran
    cases outcome with
    | answered result => exact ⟨result, rfl, hs, accounts, course.rounds.delivered⟩
    | escaped value =>
      obtain ⟨v, mem, effect, panic⟩ := course.outline.escapes rfl
      exact absurd panic (calm v mem effect value)

/-- A dispatch calls the side effects whose filters include its phase, each once and in the order
of their registration, until one of them panics, and answers with their number if none does. Under
a union of filters a side effect is told of what it is told of under one of them. A fire without a
panic of a side effect tells them of no phase if it is refused, of the first two if a step fails,
and of all three if it succeeds. -/
theorem effects_delivered :
    (∀ (host : Host π ν) (bus : Bus π ν) phase payload ctx elapsed,
      ((∀ e ∈ bus.effects, e.filter.includes phase = true →
          (e.callback phase payload ctx elapsed).Returns host) →
        (bus.dispatch host phase payload ctx elapsed).Returns) ∧
      ∀ f : Finished (bus.dispatch host phase payload ctx elapsed),
        ∃ (ts : List (Turn host)) (hs : List (Happening host)),
          f.Unfolds (bus.Delivers phase payload ctx elapsed ts) hs) ∧
    (∀ (bus : Bus π ν) i f rest phase j,
      j ∈ (bus.refilter i (rest.foldl (· ||| ·) f)).places phase ↔
        ∃ g ∈ f :: rest, j ∈ (bus.refilter i g).places phase) ∧
    ∀ (m : Machine π ν) depth payload trigger n ran, m.fire depth payload trigger n = some ran →
      (∀ v ∈ ownVisits n ran.log, v.call.role.isEffect = true →
        ∀ raised, v.settled.verdict ≠ .panic raised) →
      ∃ result, ran.value.2 = .answered result ∧ ∃ hs : List (Happening (m.host depth)),
        Accounts n hs ran.log ∧ m.Delivered n result hs := by
  refine ⟨fun host bus phase payload ctx elapsed => ⟨Bus.returns_dispatch, fun f => ?_⟩,
    fun bus i f rest phase j => Bus.mem_places_union f rest,
    fun m depth payload trigger n ran h calm => delivered_of_fire h calm⟩
  obtain ⟨hs, unf⟩ := bus.plays_dispatch phase payload ctx elapsed f
  obtain ⟨ts, delivers⟩ := unf.rel.delivers
  exact ⟨ts, hs, unf.spans, unf.log_eq, delivers⟩

/-- A torch whose bulb is burnt. Filters of its side effects have bits that stand for no phase, and
the fuse panics where there is light. -/
def torch : Machine Subject Remark where
  definition := .build [
    .configure ⟨"dark"⟩ .plain [.permit ⟨"switch"⟩ ⟨"lit"⟩ none],
    .configure ⟨"lit"⟩ .plain
      [.onEntry none (some "bulb") (Script.operation (.stop (.fail (.plain "burnt"))))],
    .effect ⟨0xF9⟩ (some "meter") (Script.effect .done),
    .effect ⟨0xF8⟩ (some "stub") (Script.effect .done),
    .effect (.betweenStates ||| .beforeTransition) (some "fuse") fun _ s _ _ =>
      .finish s (if s.state = ⟨"lit"⟩ then .panic (.message "short") else .ok),
    .effect .all (some "clock") (Script.effect .done)]
  stopwatch _ _ := 0
  sound := Definition.sound_build _

/-- A torch that is lit. -/
def glowing : Subject := ⟨⟨"lit"⟩, [], []⟩

/-- What is known when the torch is switched. -/
def switching : Context := ⟨0, ⟨"dark"⟩, ⟨"lit"⟩, ⟨"switch"⟩⟩

/-- The panic of the fuse spares the clock. Where the fuse is calm, the torch fails after two of the
three phases. -/
theorem torch_effects_delivered :
    ((torch.definition.effects.dispatch (torch.host 0) .beforeTransition glowing switching
        5).Returns ∧
      ∃ f : Finished (torch.definition.effects.dispatch (torch.host 0) .beforeTransition glowing
          switching 5),
        f.ran.value = .error (.message "short") ∧
        (calls f.ran.log).map Call.label = ["meter", "fuse"] ∧
        ∃ (ts : List (Turn (torch.host 0))) (hs : List (Happening (torch.host 0))), f.Unfolds
          (torch.definition.effects.Delivers .beforeTransition glowing switching 5 ts) hs) ∧
    ∃ ran result, torch.fire 0 ⟨⟨"dark"⟩, [], []⟩ ⟨"switch"⟩ 0 = some ran ∧
      ran.value.2 = .answered result ∧
      (ownCalls 0 ran.log).map Call.label =
        ["meter", "fuse", "clock", "fuse", "clock", "bulb"] ∧
      ∃ hs : List (Happening (torch.host 0)),
        Accounts 0 hs ran.log ∧ torch.Delivered 0 result hs := by
  constructor
  · have dispatches := effects_delivered.1 (torch.host 0) torch.definition.effects
      .beforeTransition glowing switching 5
    have returns := dispatches.1 (List.forall_mem_cons.2 ⟨fun _ _ _ => rfl,
      List.forall_mem_cons.2 ⟨fun _ _ _ => rfl, List.forall_mem_cons.2 ⟨fun _ _ _ => rfl,
        List.forall_mem_cons.2 ⟨fun _ _ _ => rfl, List.forall_mem_nil _⟩⟩⟩⟩)
    have shown : (torch.definition.effects.dispatch (torch.host 0) .beforeTransition glowing
        switching 5 1).map (fun r => (r.value, (calls r.log).map Call.label)) =
          some (.error (.message "short"), ["meter", "fuse"]) := by decide +kernel
    obtain ⟨ran, h, shown⟩ := Option.map_eq_some_iff.1 shown
    obtain ⟨value, labels⟩ := Prod.mk.inj shown
    exact ⟨returns, ⟨1, ran, h⟩, value, labels, dispatches.2 ⟨1, ran, h⟩⟩
  · have shown : (torch.fire 0 ⟨⟨"dark"⟩, [], []⟩ ⟨"switch"⟩ 0).map
        (fun r => ((ownCalls 0 r.log).map Call.label,
          (ownVisits 0 r.log).map fun v => v.settled.verdict)) =
            some (["meter", "fuse", "clock", "fuse", "clock", "bulb"],
              [.ok, .ok, .ok, .ok, .ok, .fail (.plain "burnt")]) := by decide +kernel
    obtain ⟨ran, h, shown⟩ := Option.map_eq_some_iff.1 shown
    obtain ⟨labels, verdicts⟩ := Prod.mk.inj shown
    have calm : ∀ v ∈ ownVisits 0 ran.log, v.call.role.isEffect = true →
        ∀ raised, v.settled.verdict ≠ .panic raised := by
      intro v mem _ raised panic
      have listed : v.settled.verdict ∈ (ownVisits 0 ran.log).map fun v => v.settled.verdict :=
        List.mem_map_of_mem mem
      rw [verdicts, panic] at listed
      simp at listed
    obtain ⟨result, answered, delivered⟩ := effects_delivered.2.2 torch 0 _ _ 0 ran h calm
    exact ⟨ran, result, h, answered, labels, delivered⟩

end Machine

end StateMachine
