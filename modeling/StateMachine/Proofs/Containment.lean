import StateMachine.Proofs.Protocol
import StateMachine.Proofs.Returning

/-!
# Where panics go

A panic of a side effect escapes from the fire that told the side effect. Every other panic is
caught where the callback was called, and becomes an error there, even if it is the panic of a side
effect that escaped from a fire within the callback.

* `Visit.Becomes`: what a panic becomes, by the role of the callback.
* `Code.Path.settled_of_escape`: a panic that escapes from a fire is the callback's own.
* `Machine.Contains`: what is known of the panics of a finished fire.
* `Machine.panics_contained`: the panics of fires and of the other questions to a machine.
-/

namespace StateMachine

variable {π ν : Type} {host : Host π ν}

/-- Whether a fire reports an error, or loses it because a side effect panics afterwards. -/
def Outcome.Reports (out : Outcome) (after : List (Visit π)) (error : ChainError) : Prop :=
  (∃ ctx, out = .answered (.error (.chain ctx error))) ∨
    ∃ w ∈ after, w.call.role.isEffect = true ∧
      ∃ value, w.settled.verdict = .panic value ∧ out = .escaped value

/-- What the panic of a callback becomes, if the given visits follow in the same fire and the fire
comes to the given payload and outcome. -/
def Visit.Becomes (v : Visit π) (raised : Raised) (after : List (Visit π)) (out : π × Outcome) :
    Prop :=
  match v.call.role with
  | .effect _ _ => after = [] ∧ out = (v.call.payload, .escaped raised)
  | .edgeGuard =>
    after = [] ∧ out = (v.call.payload,
      .answered (.error (.guardPanicked ⟨v.call.context, 0, v.call.label, raised.payload⟩)))
  | .stepGuard _ | .operation _ =>
    ∃ position cause, cause = .panic ⟨v.call.context, position, v.call.label, raised.payload⟩ ∧
      (∀ w ∈ after, w.call.role = .handler cause ∨ w.call.role.isEffect = true) ∧
      out.2.Reports after (reportedError cause (handlersOf after))
  | .handler _ =>
    (∀ w ∈ after, w.call.role.isEffect = true) ∧
      ∃ position, out.2.Reports after
        (.panic ⟨v.settled.context, position, v.call.label, raised.payload⟩)

namespace Visit

variable {v : Visit π} {raised : Raised} {after : List (Visit π)} {out : π × Outcome}

theorem not_calm (h : v.settled.verdict = .panic raised) : ¬v.Calm := fun calm => calm.1 raised h

theorem error_of_panic (panic : v.settled.verdict = .panic raised) {position : Nat}
    {e : ChainError} (error : v.error? position = some e) : ∃ p, e = .panic p := by
  simp only [error?, panic] at error
  cases hr : v.call.role <;> rw [hr] at error <;> cases error <;> exact ⟨_, rfl⟩

theorem becomes_of_effect (effect : v.call.role.isEffect = true) :
    v.Becomes raised [] (v.call.payload, .escaped raised) := by
  unfold Becomes
  cases hr : v.call.role with
  | effect => exact ⟨rfl, rfl⟩
  | _ => exact absurd effect (by simp [hr, Role.isEffect])

theorem becomes_of_handler {position : Nat} {cause e : ChainError}
    (role : v.call.role = .handler cause) (panic : v.settled.verdict = .panic raised)
    (error : v.error? position = some e) (effects : ∀ w ∈ after, w.call.role.isEffect = true)
    (reports : out.2.Reports after e) : v.Becomes raised after out := by
  obtain rfl : .panic ⟨v.settled.context, position, v.call.label, raised.payload⟩ = e := by
    simpa [error?, role, panic] using error
  unfold Becomes
  rw [role]
  exact ⟨effects, position, reports⟩

/-- Of the callbacks that are no handlers, only those of a step make an error of a panic. -/
theorem becomes_of_step {position : Nat} {cause : ChainError} {ctx : Context}
    (steady : v.Steady ctx) (panic : v.settled.verdict = .panic raised)
    (error : v.error? position = some cause)
    (roles : ∀ w ∈ after, w.call.role = .handler cause ∨ w.call.role.isEffect = true)
    (reports : out.2.Reports after
      (reportedError cause (handlersOf after))) :
    v.Becomes raised after out := by
  unfold Becomes
  cases hr : v.call.role with
  | edgeGuard => exact absurd error (by simp [error?, hr])
  | effect => exact absurd error (by simp [error?, hr])
  | handler => exact absurd steady.1 (by simp [hr, Role.isHandler])
  | stepGuard =>
    have h : ChainError.panic ⟨v.call.context, position, v.call.label, raised.payload⟩ = cause := by
      simpa [error?, hr, panic] using error
    exact ⟨position, cause, h.symm, roles, reports⟩
  | operation =>
    have h : ChainError.panic ⟨v.call.context, position, v.call.label, raised.payload⟩ = cause := by
      simpa [error?, hr, panic] using error
    exact ⟨position, cause, h.symm, roles, reports⟩

end Visit

/-! ## Fires in outline -/

theorem Stretch.last_of_escaped {ctx : Context} {payload left : π} {hs : List (Happening host)}
    {value : Raised} (h : Stretch ctx payload hs left (some (.escaped value))) :
    ∃ before v, visitsOf hs = before ++ [v] ∧ v.call.role.isEffect = true ∧
      v.settled.verdict = .panic value ∧ left = v.call.payload := by
  obtain ⟨before, v, hvs, -, effect, panic⟩ := h.ends
  have threaded := h.threaded
  rw [hvs] at threaded
  exact ⟨before, v, hvs, effect, panic, congrArg Prod.fst (threaded.last_effect effect)⟩

theorem Stretch.escape_of_panic {ctx : Context} {payload left : π} {hs : List (Happening host)}
    {raised : Raised} {before after : List (Visit π)} {v : Visit π} (escape? : Option Raised)
    (h : Stretch ctx payload hs left (escape?.map .escaped))
    (hv : visitsOf hs = before ++ v :: after) (panic : v.settled.verdict = .panic raised) :
    escape? = some raised ∧ after = [] ∧ v.call.role.isEffect = true ∧ left = v.call.payload := by
  have hnil := (List.append_nil (visitsOf hs)).trans hv
  rcases h.ends.split hnil (Visit.not_calm panic) with ⟨s, hstop, -, hvs, rfl⟩ | ⟨rest, hrest, -⟩
  · obtain ⟨value, rfl, rfl⟩ := Option.map_eq_some_iff.1 hstop
    obtain ⟨first, last, hlast, effect, hvalue, rfl⟩ := h.last_of_escaped
    obtain ⟨-, hv⟩ := List.append_inj' (hvs.symm.trans hlast) rfl
    obtain rfl := List.singleton_inj.1 hv
    obtain rfl := Verdict.panic.inj (panic.symm.trans hvalue)
    exact ⟨rfl, rfl, effect, rfl⟩
  · exact absurd hrest (by simp)

theorem Stretch.reports {out : Recovered π} {cause : ChainError} {escape? : Option Raised}
    {hs : List (Happening host)} {after : List (Visit π)}
    (between : Stretch out.context out.payload hs out.payload (escape?.map .escaped))
    (hafter : ∀ v ∈ visitsOf hs, v ∈ after) :
    (out.outcome cause escape?).Reports after (out.error cause) := by
  cases escape? with
  | none => exact .inl ⟨_, rfl⟩
  | some value =>
    obtain ⟨before, v, hvs, effect, panic, -⟩ := between.last_of_escaped
    exact .inr ⟨v, hafter v (by simp [hvs]), effect, value, panic, rfl⟩

namespace Machine.Outline

variable {ctx : Context} {payload : π} {hs : List (Happening host)} {out : π × Outcome}

/-- A panic of one of the callbacks of a fire becomes what the role of the callback says. -/
theorem becomes (h : Outline ctx payload hs out) {before after : List (Visit π)} {v : Visit π}
    {raised : Raised} (hv : visitsOf hs = before ++ v :: after)
    (panic : v.settled.verdict = .panic raised) : v.Becomes raised after out := by
  have not_calm := Visit.not_calm panic
  cases h with
  | refused _ asked =>
    rcases asked with hnil | ⟨w, hw, role, rfl, rfl, refusal⟩
    · exact absurd (hnil.symm.trans hv) (by simp)
    · obtain ⟨-, rfl, rfl⟩ : before = [] ∧ v = w ∧ after = [] := by
        simpa [List.append_eq_singleton_iff] using hv.symm.trans hw
      unfold Visit.Becomes
      rw [role, refusal raised panic]
      exact ⟨rfl, rfl⟩
  | @escaped _ _ value stretch =>
    obtain ⟨hvalue, rfl, effect, rfl⟩ := stretch.escape_of_panic (some value) hv panic
    obtain rfl := Option.some.inj hvalue
    exact Visit.becomes_of_effect effect
  | completed stretch => exact nomatch (stretch.escape_of_panic none hv panic).1
  | @recovered hs hs' hs'' left cause out escape? stretch mended between role _ =>
    rw [visitsOf_append, visitsOf_append] at hv
    have effects : ∀ w ∈ visitsOf hs'', w.call.role.isEffect = true := fun w hw => by
      obtain ⟨elapsed, hr⟩ := role w hw
      rw [hr]
      rfl
    rcases stretch.ends.split hv not_calm with ⟨s, hstop, stops, hvs, rfl⟩ | ⟨rest, hv, -⟩
    · -- A step panicked: the handlers are run for its error.
      obtain rfl := Option.some.inj hstop
      obtain ⟨position, error⟩ := stops
      have handlers : handlersOf (visitsOf hs' ++ visitsOf hs'') = visitsOf hs' := by
        simp [mended.handlersOf_eq, between.handlersOf_eq]
      refine Visit.becomes_of_step (stretch.steady v (by simp [hvs])) panic error ?_ ?_
      · exact List.forall_mem_append.2
          ⟨fun w hw => .inl (mended.role w hw), fun w hw => .inr (effects w hw)⟩
      · rw [handlers, reportedError, ← mended.error_eq]
        exact between.reports fun w hw => List.mem_append_right _ hw
    rcases mended.ends.split hv not_calm with ⟨s, hstop, stops, hvs, rfl⟩ | ⟨rest', hv, -⟩
    · -- A handler panicked: its error is the one to be reported.
      cases hresult : out.result with
      | ok => simp [hresult] at hstop
      | error e =>
        obtain rfl : Stop.failed e = s := by simpa [hresult] using hstop
        obtain ⟨position, error⟩ := stops
        have he : out.error cause = e := by rw [Recovered.error, hresult]
        refine Visit.becomes_of_handler (mended.role v (by simp [hvs])) panic error effects ?_
        rw [← he]
        exact between.reports fun w hw => hw
    · -- A side effect panicked after the handlers: their error is lost.
      obtain ⟨rfl, rfl, effect, hleft⟩ := between.escape_of_panic escape? hv panic
      rw [hleft]
      exact Visit.becomes_of_effect effect

/-- A panic that escapes from a fire is that of one of its side effects. -/
theorem escapes (h : Outline ctx payload hs out) {value : Raised} (hout : out.2 = .escaped value) :
    ∃ v ∈ visitsOf hs, v.call.role.isEffect = true ∧ v.settled.verdict = .panic value := by
  cases h with
  | refused => exact nomatch hout
  | completed => exact nomatch hout
  | escaped stretch =>
    obtain rfl := Outcome.escaped.inj hout
    obtain ⟨before, v, hvs, effect, panic, -⟩ := stretch.last_of_escaped
    exact ⟨v, by simp [hvs], effect, panic⟩
  | recovered escape? stretch mended between =>
    cases escape? with
    | none => exact nomatch hout
    | some raised =>
      obtain rfl := Outcome.escaped.inj hout
      obtain ⟨before, v, hvs, effect, panic, -⟩ := between.last_of_escaped
      exact ⟨v, by simp [hvs], effect, panic⟩

end Machine.Outline

/-! ## Fires within callbacks -/

/-- A panic that escapes from a fire ends the callback that fired, and is its own from then on. -/
theorem Code.Path.settled_of_escape {code : Code π ν} {ctx : Context} {hs : List (Happening host)}
    {s : Settled π} (h : code.Path host ctx hs s) {payload left : π} {trigger : Trigger}
    {value : Raised} {f : Finished (host.ask (.fire payload trigger))}
    (hf : .asked _ f ∈ hs) (escape : f.ran.value = .fire left (.escaped value)) :
    s.payload = left ∧ s.verdict = .panic value ∧ ∃ before, hs = before ++ [.asked _ f] := by
  induction h with
  | finish => exact nomatch hf
  | escape g answer =>
    cases List.mem_singleton.1 hf
    cases answer.symm.trans escape
    exact ⟨rfl, rfl, [], rfl⟩
  | fire g answer _ ih =>
    rcases List.mem_cons.1 hf with heq | hf
    · cases heq
      exact nomatch answer.symm.trans escape
    · obtain ⟨hp, hv, before, rfl⟩ := ih hf
      exact ⟨hp, hv, _ :: before, rfl⟩
  | _ =>
    rename_i ih
    rcases List.mem_cons.1 hf with heq | hf
    · cases heq
    · obtain ⟨hp, hv, before, rfl⟩ := ih hf
      exact ⟨hp, hv, _ :: before, rfl⟩

/-! ## Lists of callbacks -/

/-- Whether panics of callbacks end their list, with the error that the list comes to. -/
def Caught (vs : List (Visit π)) (result : Except ChainError Unit) : Prop :=
  ∀ before v after raised, vs = before ++ v :: after → v.settled.verdict = .panic raised →
    after = [] ∧ ∃ position e, v.error? position = some (.panic e) ∧ result = .error (.panic e)

theorem caught_of_ends {vs : List (Visit π)} {result : Except ChainError Unit}
    (ends : Ends vs
      (match result with
        | .ok _ => none
        | .error e => some (.failed e))) : Caught vs result := by
  intro before v after raised hvs panic
  have hnil := (List.append_nil vs).trans hvs
  rcases ends.split hnil (Visit.not_calm panic) with ⟨s, hstop, stops, -, rfl⟩ | ⟨_, hrest, -⟩
  · cases result with
    | ok => exact nomatch hstop
    | error e =>
      obtain rfl := Option.some.inj hstop
      obtain ⟨position, error⟩ := stops
      obtain ⟨e, rfl⟩ := Visit.error_of_panic panic error
      exact ⟨rfl, position, e, error, rfl⟩
  · exact absurd hrest (by simp)

theorem Chain.caught {chain : Chain π ν} {side : Side} {ctx : Context} {payload : π}
    (f : Finished (chain.execute host side ctx payload)) :
    ∃ hs : List (Happening host), logOf hs = f.ran.log ∧ Caught (visitsOf hs) f.ran.value.2 := by
  obtain ⟨hs, unf⟩ := chain.plays_execute side ctx payload f
  exact ⟨hs, unf.log_eq, caught_of_ends unf.rel.1.stretch.ends⟩

theorem Recovery.caught {recovery : Recovery π ν} {cause : ChainError} {ctx : Context}
    {payload : π} (f : Finished (recovery.execute host cause ctx payload)) :
    ∃ hs : List (Happening host), logOf hs = f.ran.log ∧
      Caught (visitsOf hs) f.ran.value.result := by
  obtain ⟨hs, unf⟩ := recovery.plays_execute cause ctx payload f
  exact ⟨hs, unf.log_eq, caught_of_ends unf.rel.1.ends⟩

/-! ## Questions to a machine -/

namespace Machine

variable [Payload π] {m : Machine π ν} {depth n : Nat} {payload : π} {trigger : Trigger}

/-- What is known of the panics in a finished fire that began with the identity `n`. -/
structure Contains (m : Machine π ν) (depth n : Nat) (ran : Ran (Entry π ν) (π × Outcome)) :
    Prop where
  /-- A value escapes exactly if a side effect of this fire panicked with it. -/
  escapes : ∀ value, ran.value.2 = .escaped value ↔
    ∃ v ∈ ownVisits n ran.log, v.call.role.isEffect = true ∧ v.settled.verdict = .panic value
  /-- The panic of any callback of this fire becomes what its role says. -/
  becomes : ∀ before v after raised, ownVisits n ran.log = before ++ v :: after →
    v.settled.verdict = .panic raised → v.Becomes raised after ran.value
  /-- A callback of this fire within which a value escapes from another fire ends there, with the
  payload as the other fire left it, and panics with that value. -/
  within : ∃ ts : List (Turn (m.host depth)), ownVisits n ran.log = ts.map Turn.visit ∧
    ∀ t ∈ ts, ∃ hs, t.run.Unfolds (t.code.Path (m.host depth) t.call.context) hs ∧
      ∀ payload trigger left value (f : Finished ((m.host depth).ask (.fire payload trigger))),
        .asked _ f ∈ hs → f.ran.value = .fire left (.escaped value) →
          t.settled.payload = left ∧ t.verdict = .panic value ∧
            ∃ before, hs = before ++ [.asked _ f]

theorem contains_of_fire {ran : Ran (Entry π ν) (π × Outcome)}
    (h : m.fire depth payload trigger n = some ran) : m.Contains depth n ran := by
  by_cases leads : ∃ source edge destination, m.Leads payload trigger source edge destination
  · obtain ⟨source, edge, destination, leads⟩ := leads
    obtain ⟨hs, course, accounts⟩ := course_of_fire leads h
    have hvisits := accounts.visits_eq
    refine ⟨fun value => ?_, fun before v after raised hv => ?_, turns hs, hvisits, fun t _ => ?_⟩
    · rw [hvisits]
      refine ⟨course.outline.escapes, ?_⟩
      rintro ⟨v, hv, effect, panic⟩
      obtain ⟨before, after, hsplit⟩ := List.append_of_mem hv
      have becomes := course.outline.becomes hsplit panic
      unfold Visit.Becomes at becomes
      cases hr : v.call.role with
      | effect =>
        rw [hr] at becomes
        exact congrArg Prod.snd becomes.2
      | _ => exact absurd effect (by simp [hr, Role.isEffect])
    · rw [hvisits] at hv
      exact course.outline.becomes hv
    · obtain ⟨hs, unf⟩ := t.code.plays_run (m.host depth) t.call.context t.run
      exact ⟨hs, unf, fun _ _ _ _ _ hf escape => unf.rel.settled_of_escape hf escape⟩
  · obtain ⟨hlog, e, hvalue⟩ := silent_of_fire (fun s e d leads' => leads ⟨s, e, d, leads'⟩) h
    have hvisits : ownVisits n ran.log = [] := by rw [hlog]; rfl
    refine ⟨fun value => ?_, fun before v after raised hv => ?_, [], hvisits, by simp⟩
    · simp [hvisits, hvalue]
    · exact absurd (hvisits.symm.trans hv) (by simp)

/-- If the guard panics that is asked whether a trigger could be fired, this is the answer. -/
theorem guardPanicked_of_canFire {ran : Ran (Entry π ν) (Except FireError Unit)}
    (h : m.canFire depth payload trigger n = some ran) {v : Visit π} {raised : Raised}
    (hv : v ∈ ownVisits n ran.log) (panic : v.settled.verdict = .panic raised) :
    ran.value =
      .error (.guardPanicked ⟨v.call.context, 0, v.call.label, raised.payload⟩) := by
  obtain ⟨result, next, log⟩ := ran
  obtain ⟨hs, unf⟩ := m.plays_canFireOn payload trigger ⟨n, _, h⟩
  have hlog : logOf hs = log := unf.log_eq
  have answers : m.Answers (m.host depth) (.canFire payload trigger) hs (.canFire result) :=
    unf.rel
  have visits := (answers.accounts unf.spans).visits_eq
  rw [hlog] at visits
  have mem : v ∈ visitsOf hs := visits ▸ hv
  cases answers with
  | unresolved => exact absurd mem List.not_mem_nil
  | unguarded => exact absurd mem List.not_mem_nil
  | guarded _ _ _ guard =>
    obtain ⟨before, after, hsplit⟩ := List.append_of_mem mem
    cases result with
    | ok => exact nomatch (guard.stretch.escape_of_panic none hsplit panic).1
    | error e =>
      rcases guard.refusal.2 with hnil | ⟨w, hw, -, rfl, -, refusal⟩
      · exact absurd (hnil.symm.trans hsplit) (by simp)
      · obtain rfl : v = w := List.mem_singleton.1 (hw ▸ mem)
        exact congrArg _ (refusal raised panic)

/-- A fire lets a panic escape exactly if one of its own side effects panics. All other panics, and
those that escape from fires within callbacks, become errors where the callback was called; asking
whether a trigger could be fired and running a list of steps or handlers always returns. -/
theorem panics_contained (m : Machine π ν) (depth : Nat) :
    (∀ payload trigger n ran, m.fire depth payload trigger n = some ran →
      m.Contains depth n ran) ∧
    (∀ payload trigger n ran, m.canFire depth payload trigger n = some ran →
      ∀ v ∈ ownVisits n ran.log, ∀ raised, v.settled.verdict = .panic raised →
        ran.value =
          .error (.guardPanicked ⟨v.call.context, 0, v.call.label, raised.payload⟩)) ∧
    (m.Returns (m.host depth) → ∀ payload trigger,
      (m.fire depth payload trigger).Returns ∧ (m.canFire depth payload trigger).Returns) ∧
    (∀ (host : Host π ν) side (chain : Chain π ν) ctx payload,
      (chain.Returns host → (chain.execute host side ctx payload).Returns) ∧
      ∀ f : Finished (chain.execute host side ctx payload),
        ∃ hs : List (Happening host), logOf hs = f.ran.log ∧
          Caught (visitsOf hs) f.ran.value.2) ∧
    (∀ (host : Host π ν) (recovery : Recovery π ν) cause ctx payload,
      (recovery.Returns host → (recovery.execute host cause ctx payload).Returns) ∧
      ∀ f : Finished (recovery.execute host cause ctx payload),
        ∃ hs : List (Happening host), logOf hs = f.ran.log ∧
          Caught (visitsOf hs) f.ran.value.result) := by
  refine ⟨fun _ _ _ _ h => contains_of_fire h, fun _ _ _ _ h v hv raised panic => ?_, ?_, ?_, ?_⟩
  · exact guardPanicked_of_canFire h hv panic
  · exact fun returns payload trigger =>
      ⟨returns_fireOn returns payload trigger, returns_canFireOn returns payload trigger⟩
  · exact fun host side chain ctx payload =>
      ⟨fun returns => Chain.returns_execute returns side ctx payload, Chain.caught⟩
  · exact fun host recovery cause ctx payload =>
      ⟨fun returns => Recovery.returns_execute returns cause ctx payload, Recovery.caught⟩

/-- An alarm whose side effects panic, and whose guard does when it is tested. -/
def alarm : Machine Subject Remark where
  definition := .build [
    .configure ⟨"armed"⟩ .plain
      [.permit ⟨"ring"⟩ ⟨"armed"⟩ none,
        .permit ⟨"test"⟩ ⟨"armed"⟩
          (some (.predicate "fuse" (Script.predicate (.stop (.panic (.literal "blown"))))))],
    .effect .all (some "siren") (Script.effect (.stop (.panic (.number 110))))]
  stopwatch _ _ := 0
  sound := Definition.sound_build _

theorem alarm_returns (host : Host Subject Remark) : alarm.Returns host := by
  refine ⟨fun node hn => ?_, fun effect he => ?_⟩
  · simp [alarm, Definition.build, Definition.declare, Definition.addClauses, Definition.addClause,
      Definition.addState, Definition.empty, Definition.contains, Definition.length, Node.extend,
      Node.permit, Node.bare, Definition.replace, Definition.addEffect, Clause.arrow?,
      Index.contains, Index.find?_insert] at hn
    subst hn
    refine ⟨?_, by simp [Chain.Returns, Chain.empty], by simp [Chain.Returns, Chain.empty],
      by simp [Recovery.Returns, Recovery.empty]⟩
    simp only [List.forall_mem_cons, Option.some.injEq, forall_eq', List.not_mem_nil]
    exact ⟨by simp, fun _ _ _ _ => rfl, by simp⟩
  · obtain rfl := List.mem_singleton.1 he
    exact fun _ _ _ _ _ _ => rfl

/-- What escapes from the fire within the step is an error of the step; the siren's panic escapes
from its own fire, and the fuse's is an answer. -/
theorem parcel_and_alarm_contain_panics :
    (∃ ran, parcel.fire 1 packed ⟨"send"⟩ 0 = some ran ∧ parcel.Contains 1 0 ran ∧
      ∀ value, ran.value.2 ≠ .escaped value) ∧
    (∃ ran, alarm.fire 0 ⟨⟨"armed"⟩, [], []⟩ ⟨"ring"⟩ 0 = some ran ∧ alarm.Contains 0 0 ran ∧
      ran.value.2 = .escaped (.number 110)) ∧
    (alarm.canFire 0 ⟨⟨"armed"⟩, [], []⟩ ⟨"test"⟩).Returns := by
  have parcels := panics_contained parcel 1
  have alarms := panics_contained alarm 0
  refine ⟨?_, ?_, (alarms.2.2.1 (alarm_returns _) _ _).2⟩
  · have finished : (parcel.fire 1 packed ⟨"send"⟩ 0).isSome = true := by decide +kernel
    obtain ⟨ran, h⟩ := Option.isSome_iff_exists.1 finished
    have quiet : (parcel.fire 1 packed ⟨"send"⟩ 0).map (fun r =>
        (ownVisits 0 r.log).all fun v => !v.call.role.isEffect) = some true := by decide +kernel
    have contains := parcels.1 _ _ _ _ h
    refine ⟨ran, h, contains, fun value escape => ?_⟩
    obtain ⟨v, hv, effect, -⟩ := (contains.escapes value).1 escape
    simp only [h, Option.map_some, Option.some.injEq, List.all_eq_true] at quiet
    exact absurd effect (by simpa using quiet v hv)
  · have finished : (alarm.fire 0 ⟨⟨"armed"⟩, [], []⟩ ⟨"ring"⟩ 0).isSome = true := by decide +kernel
    obtain ⟨ran, h⟩ := Option.isSome_iff_exists.1 finished
    have siren : (alarm.fire 0 ⟨⟨"armed"⟩, [], []⟩ ⟨"ring"⟩ 0).map (fun r =>
        (ownVisits 0 r.log).any fun v =>
          v.call.role.isEffect && v.settled.verdict = .panic (.number 110)) = some true := by
      decide +kernel
    have contains := alarms.1 _ _ _ _ h
    simp only [h, Option.map_some, Option.some.injEq, List.any_eq_true] at siren
    obtain ⟨v, hv, hpanic⟩ := siren
    exact ⟨ran, h, contains, (contains.escapes _).2 ⟨v, hv, by simpa using hpanic⟩⟩

end Machine

end StateMachine
