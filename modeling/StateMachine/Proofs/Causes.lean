import StateMachine.Proofs.Catching
import StateMachine.Proofs.Refusal

/-!
# The causes of an error

The error of a fire has others behind it, down to what a callback of the user said. None of them is
lost on the way: every message ends with the message behind it, and what the user's failure carries
is there in the end.

* `Link`, `Link.source?`: an error and the one behind it; `Link.Sources`: all that stand behind it.
* `Link.message_suffix`: a message ends with that of the source.
* `Visit.Blames`: the callback that an error of a fire is due to.
* `FireError.Tells`: what such an error says of the callback.
* `FireError.Origin`: where an error comes from; `Machine.Outline.origin`: it is the last callback
  of a fire that has gone wrong.
* `FireError.Traced`: nothing is lost between an error and where it comes from.
* `Machine.causes_kept`: the errors of all fires, and of asking whether a trigger could be fired.
-/

namespace StateMachine

variable {π ν : Type} {host : Host π ν}

/-! ## Errors behind errors -/

/-- An error, or a failure of the user, as one link in a row of causes. -/
inductive Link
  | fire (error : FireError)
  | chain (error : ChainError)
  | panic (error : PanicError)
  | failure (failure : Failure)

namespace Link

/-- What a link says. -/
def message : Link → String
  | fire e => e.message
  | chain e => e.message
  | panic e => e.message
  | failure f => f.text

/-- The link behind a link. Behind the error of a list that is a panic there is what stands behind
the panic, and that is nothing. -/
def source? : Link → Option Link
  | fire (.guardRejected _ _ _ f) => some (.failure f)
  | fire (.guardPanicked e) => some (.panic e)
  | fire (.chain _ e) => some (.chain e)
  | fire _ => none
  | chain (.operation _ _ f) => some (.failure f)
  | chain (.handler _ _ f) => some (.failure f)
  | chain (.panic _) => none
  | panic _ => none
  | failure ⟨_, []⟩ => none
  | failure ⟨_, text :: causes⟩ => some (.failure ⟨text, causes⟩)

/-- Whether a link is a failure of the user. -/
def isFailure : Link → Bool
  | failure _ => true
  | _ => false

/-- All that stands behind a link, each the source of the one before it. -/
inductive Sources : Link → List Link → Prop
  | last {l} (none : l.source? = none) : Sources l []
  | behind {l s ls} (some : l.source? = some s) (more : Sources s ls) : Sources l (s :: ls)

/-- A message of the machine ends with what stands behind it. Of its own failures the user
decides. -/
theorem message_suffix {l s : Link} (source : l.source? = some s) (own : l.isFailure = false) :
    s.message.toList <:+ l.message.toList := by
  cases l with
  | fire e =>
    cases e with
    | stateNotFound => exact nomatch source
    | triggerNotFound => exact nomatch source
    | _ => exact Option.some.inj source ▸ suffix_append _ _
  | chain e =>
    cases e with
    | panic => exact nomatch source
    | _ => exact Option.some.inj source ▸ suffix_append _ _
  | panic => exact nomatch source
  | failure => exact nomatch own

theorem exists_sources_failure (text : String) (causes : List String) :
    ∃ links, (failure ⟨text, causes⟩).Sources links ∧ links.map message = causes := by
  induction causes generalizing text with
  | nil => exact ⟨[], .last rfl, rfl⟩
  | cons cause causes ih =>
    obtain ⟨links, sources, messages⟩ := ih cause
    exact ⟨_, .behind rfl sources, by rw [List.map_cons, messages]; rfl⟩

theorem exists_sources_chain (e : ChainError) :
    ∃ links, (chain e).Sources links ∧ links.map message = e.sources := by
  cases e with
  | operation step label f =>
    obtain ⟨links, sources, messages⟩ := exists_sources_failure f.text f.causes
    exact ⟨_, .behind rfl sources, by rw [List.map_cons, messages]; rfl⟩
  | handler step label f =>
    obtain ⟨links, sources, messages⟩ := exists_sources_failure f.text f.causes
    exact ⟨_, .behind rfl sources, by rw [List.map_cons, messages]; rfl⟩
  | panic e => exact ⟨[], .last rfl, rfl⟩

/-- The sources of an error are the messages of what stands behind it, one after the other. -/
theorem exists_sources (e : FireError) :
    ∃ links, (fire e).Sources links ∧ links.map message = e.sources := by
  cases e with
  | stateNotFound => exact ⟨[], .last rfl, rfl⟩
  | triggerNotFound => exact ⟨[], .last rfl, rfl⟩
  | guardRejected s t guard f =>
    obtain ⟨links, sources, messages⟩ := exists_sources_failure f.text f.causes
    exact ⟨_, .behind rfl sources, by rw [List.map_cons, messages]; rfl⟩
  | guardPanicked e => exact ⟨[.panic e], .behind rfl (.last rfl), rfl⟩
  | chain ctx e =>
    obtain ⟨links, sources, messages⟩ := exists_sources_chain e
    exact ⟨_, .behind rfl sources, by rw [List.map_cons, messages]; rfl⟩

end Link

/-! ## Errors and the callbacks they are due to -/

/-- Whether the error of a fire is due to a callback: it is the guard of the edge, which rejects or
panics, or the error is that of a step or a handler. -/
inductive Visit.Blames (v : Visit π) : FireError → Prop
  | rejected {f} (role : v.call.role = .edgeGuard) (fail : v.settled.verdict = .fail f) :
      Blames v (.guardRejected v.call.context.source v.call.context.trigger v.call.label f)
  | panicked {r} (role : v.call.role = .edgeGuard) (panic : v.settled.verdict = .panic r) :
      Blames v (.guardPanicked ⟨v.call.context, 0, v.call.label, r.payload⟩)
  | stopped {ctx position e} (error : v.error? position = some e) : Blames v (.chain ctx e)

/-- With what a callback has gone wrong, in words. -/
def Verdict.text? : Verdict → Option String
  | ok => none
  | fail f => some f.text
  | panic r => some r.payload.text

/-- What an error of a fire tells of the callback that it is due to. -/
structure FireError.Tells (e : FireError) (v : Visit π) : Prop where
  /-- The message ends with what the callback said. -/
  ends : ∃ text, v.settled.verdict.text? = some text ∧ text.toList <:+ e.message.toList
  /-- Behind the rejection of a guard there is the failure with all its causes, and nothing else. -/
  rejected : ∀ f, v.settled.verdict = .fail f → v.call.role = .edgeGuard → e.sources = f.texts
  /-- Behind the failure of a step or a handler there is the error of the list in addition. -/
  failed : ∀ f, v.settled.verdict = .fail f → v.call.role ≠ .edgeGuard →
    ∃ ctx c position, e = .chain ctx c ∧ e.sources = c.message :: f.texts ∧
      ((∃ side, v.call.role = .operation side ∧ c = .operation position v.call.label f) ∨
        ∃ cause, v.call.role = .handler cause ∧ c = .handler position v.call.label f)
  /-- Behind a panic there is its report, and nothing else, whatever the value carries. -/
  panicked : ∀ r, v.settled.verdict = .panic r →
    ∃ p : PanicError, p.Reports v r ∧ e.sources = [p.message] ∧
      (e = .guardPanicked p ∨ ∃ ctx, e = .chain ctx (.panic p))

/-- The error that a callback makes of its list reports its panic, or holds its failure. -/
theorem Visit.error_cases {v : Visit π} {position : Nat} {e : ChainError}
    (error : v.error? position = some e) :
    (∃ r p, v.settled.verdict = .panic r ∧ p.Reports v r ∧ e = .panic p) ∨
      ∃ f, v.settled.verdict = .fail f ∧
        ((∃ side, v.call.role = .operation side ∧ e = .operation position v.call.label f) ∨
          ∃ cause, v.call.role = .handler cause ∧ e = .handler position v.call.label f) := by
  unfold error? at error
  split at error
  · next role panic =>
    cases error
    refine .inl ⟨_, _, panic, .of_panic ?_ panic ?_ position, rfl⟩ <;> rw [role] <;> rfl
  · next role fail =>
    cases error
    exact .inr ⟨_, fail, .inl ⟨_, role, rfl⟩⟩
  · next role panic =>
    cases error
    refine .inl ⟨_, _, panic, .of_panic ?_ panic ?_ position, rfl⟩ <;> rw [role] <;> rfl
  · next role fail =>
    cases error
    exact .inr ⟨_, fail, .inr ⟨_, role, rfl⟩⟩
  · next role panic =>
    cases error
    refine .inl ⟨_, _, panic, .of_panic ?_ panic ?_ position, rfl⟩ <;> rw [role] <;> rfl
  · exact nomatch error

namespace FireError.Tells

variable {v : Visit π} {e : FireError}

theorem of_fail {f : Failure} (fail : v.settled.verdict = .fail f)
    (ends : f.text.toList <:+ e.message.toList)
    (rejected : v.call.role = .edgeGuard → e.sources = f.texts)
    (failed : v.call.role ≠ .edgeGuard →
      ∃ ctx c position, e = .chain ctx c ∧ e.sources = c.message :: f.texts ∧
        ((∃ side, v.call.role = .operation side ∧ c = .operation position v.call.label f) ∨
          ∃ cause, v.call.role = .handler cause ∧ c = .handler position v.call.label f)) :
    e.Tells v where
  ends := ⟨f.text, by rw [fail]; rfl, ends⟩
  rejected f' fail' := Verdict.fail.inj (fail.symm.trans fail') ▸ rejected
  failed f' fail' := Verdict.fail.inj (fail.symm.trans fail') ▸ failed
  panicked _ panic := nomatch fail.symm.trans panic

theorem of_panic {r : Raised} {p : PanicError} (report : p.Reports v r)
    (message : p.message.toList <:+ e.message.toList) (sources : e.sources = [p.message])
    (is : e = .guardPanicked p ∨ ∃ ctx, e = .chain ctx (.panic p)) : e.Tells v where
  ends := ⟨r.payload.text, by rw [report.panicked]; rfl, report.text_suffix.trans message⟩
  rejected _ fail := nomatch report.panicked.symm.trans fail
  failed _ fail := nomatch report.panicked.symm.trans fail
  panicked r' panic := by
    obtain rfl := Verdict.panic.inj (report.panicked.symm.trans panic)
    exact ⟨p, report, sources, is⟩

end FireError.Tells

theorem Visit.Blames.tells {v : Visit π} {e : FireError} (h : v.Blames e) : e.Tells v := by
  cases h with
  | rejected role fail =>
    exact .of_fail fail (suffix_append _ _) (fun _ => rfl) fun other => absurd role other
  | @panicked r role panic =>
    have report : PanicError.Reports ⟨v.call.context, 0, v.call.label, r.payload⟩ v r :=
      .of_panic (by rw [role]; rfl) panic (by rw [role]; rfl) 0
    exact .of_panic report (suffix_append _ _) rfl (.inl rfl)
  | @stopped ctx position c error =>
    have outer : c.message.toList <:+ (FireError.chain ctx c).message.toList := suffix_append _ _
    rcases v.error_cases error with ⟨r, p, -, report, rfl⟩ | ⟨f, fail, cases⟩
    · exact .of_panic report outer rfl (.inr ⟨ctx, rfl⟩)
    · have inner : f.text.toList <:+ c.message.toList := by
        rcases cases with ⟨_, -, rfl⟩ | ⟨_, -, rfl⟩ <;> exact suffix_append _ _
      have sources : (FireError.chain ctx c).sources = c.message :: f.texts := by
        rcases cases with ⟨_, -, rfl⟩ | ⟨_, -, rfl⟩ <;> rfl
      refine .of_fail fail (inner.trans outer) (fun role => ?_) fun _ =>
        ⟨ctx, c, position, rfl, sources, cases⟩
      rcases cases with ⟨_, other, -⟩ | ⟨_, other, -⟩ <;> exact nomatch other.symm.trans role

/-! ## Where errors come from -/

/-- The error that a fire answers with, if it does. -/
def Outcome.error? : Outcome → Option FireError
  | answered (.error e) => some e
  | _ => none

theorem Outcome.eq_of_error? {out : Outcome} {e : FireError} (h : out.error? = some e) :
    out = .answered (.error e) := by
  unfold error? at h
  split at h
  · rw [Option.some.inj h]
  · exact nomatch h

/-- Where an error comes from, if these are the callbacks that were called meanwhile. -/
inductive FireError.Origin (e : FireError) (vs : List (Visit π)) : Prop
  /-- The trigger finds no way. Nobody is called, and nothing stands behind the error. -/
  | lost (missing : (∃ s, e = .stateNotFound s) ∨ ∃ s t, e = .triggerNotFound s t)
      (none : vs = []) (sources : e.sources = [])
  /-- The built-in guard rejects the trigger. Nobody is called, and what it says stands behind the
  error. -/
  | builtIn {s t : String} {state : State} {trigger : Trigger}
      (rejected : e = .guardRejected state trigger s (.plain t)) (none : vs = [])
      (sources : e.sources = [t]) (ends : t.toList <:+ e.message.toList)
  /-- A callback has gone wrong, and none of those after it. -/
  | called {before after} (v : Visit π) (split : vs = before ++ v :: after)
      (calm : ∀ w ∈ after, w.Calm) (tells : e.Tells v)

theorem Edge.Admits.origin {edge : Edge π ν} {payload : π} {ctx : Context}
    {hs : List (Happening host)} {e : FireError}
    (h : edge.Admits host payload ctx hs (.error e)) : e.Origin (visitsOf hs) := by
  have called {t : Turn host} {code : Code π ν} {g : Guard π ν} {e : FireError}
      (of : t.Of ⟨.edgeGuard, g.label, ctx, payload⟩ code) (blames : t.visit.Blames e) :
      e.Origin [t.visit] :=
    .called t.visit (List.nil_append _).symm (fun _ hw => nomatch hw) blames.tells
  cases h with
  | @rejected g _ f _ answer =>
    rw [visitsOf_append, visitsOf_event, visitsOf_nil, List.append_nil]
    rcases answer.builtIn_or_asked with ⟨rfl, none | ⟨text, fail⟩⟩ | ⟨t, code, rfl, of, fail⟩
    · exact nomatch none
    · obtain rfl := Verdict.fail.inj fail
      exact .builtIn rfl rfl rfl (suffix_append _ _)
    · have blames : t.visit.Blames (.guardRejected t.call.context.source t.call.context.trigger
          t.call.label f) := .rejected (congrArg Call.role of.1) fail
      rw [of.1] at blames
      exact called of blames
  | @panicked g _ v _ answer =>
    rw [visitsOf_append, visitsOf_event, visitsOf_nil, List.append_nil]
    rcases answer.builtIn_or_asked with ⟨rfl, none | ⟨text, fail⟩⟩ | ⟨t, code, rfl, of, panic⟩
    · exact nomatch none
    · exact nomatch fail
    · have blames : t.visit.Blames (.guardPanicked ⟨t.call.context, 0, t.call.label, v.payload⟩) :=
        .panicked (congrArg Call.role of.1) panic
      rw [of.1] at blames
      exact called of blames

namespace Machine

/-- The error of lists of callbacks is due to the last one that has gone wrong: a handler, or the
step for which the handlers were run. -/
theorem Outline.origin {ctx c : Context} {payload : π} {hs : List (Happening host)}
    {out : π × Outcome} {e : ChainError} (h : Outline ctx payload hs out)
    (failed : out.2 = .answered (.error (.chain c e))) :
    (FireError.chain c e).Origin (visitsOf hs) := by
  cases h with
  | refused _ _ error =>
    have same := Except.error.inj (Outcome.answered.inj failed)
    rcases error with ⟨_, _, rfl⟩ | ⟨_, _, rfl⟩ <;> exact nomatch same
  | escaped => exact nomatch failed
  | completed => exact nomatch failed
  | @recovered hs hs' hs'' left cause out escape? stretch mended between =>
    cases escape? with
    | some value => exact nomatch failed
    | none =>
      obtain ⟨rfl, rfl⟩ := FireError.chain.inj (Except.error.inj (Outcome.answered.inj failed))
      have calm : ∀ w ∈ visitsOf hs'', w.Calm := between.ends
      have ends := mended.ends
      rw [visitsOf_append, visitsOf_append]
      cases result : out.result with
      | ok =>
        rw [result] at ends
        obtain ⟨before, last, split, -, position, error⟩ := stretch.ends
        have same : out.error cause = cause := by rw [Recovered.error, result]
        have split' : visitsOf hs ++ (visitsOf hs' ++ visitsOf hs'') =
            before ++ last :: (visitsOf hs' ++ visitsOf hs'') := by
          simp [split]
        rw [same]
        exact .called last split' (List.forall_mem_append.2 ⟨ends, calm⟩)
          (Visit.Blames.stopped error).tells
      | error superseding =>
        rw [result] at ends
        obtain ⟨before, last, split, -, position, error⟩ := ends
        have same : out.error cause = superseding := by rw [Recovered.error, result]
        have split' : visitsOf hs ++ (visitsOf hs' ++ visitsOf hs'') =
            (visitsOf hs ++ before) ++ last :: visitsOf hs'' := by
          simp [split]
        rw [same]
        exact .called last split' calm (Visit.Blames.stopped error).tells

end Machine

/-- What is known of an error that is answered: the sources that it lists are found one behind the
other, every message of the machine ends with the one behind it, and the callbacks that were called
tell where it comes from. -/
structure FireError.Traced (e : FireError) (vs : List (Visit π)) : Prop where
  linked : ∃ links, (Link.fire e).Sources links ∧ links.map Link.message = e.sources ∧
    ∀ l ∈ .fire e :: links, ∀ s, l.source? = some s → l.isFailure = false →
      s.message.toList <:+ l.message.toList
  origin : e.Origin vs

theorem FireError.Origin.traced {e : FireError} {vs : List (Visit π)} (h : e.Origin vs) :
    e.Traced vs := by
  obtain ⟨links, sources, messages⟩ := Link.exists_sources e
  exact ⟨⟨links, sources, messages, fun l _ s => l.message_suffix⟩, h⟩

namespace Machine

variable [Payload π] {m : Machine π ν} {depth n : Nat} {payload : π} {trigger : Trigger}
  {e : FireError}

theorem origin_of_lost (lost : m.resolve payload trigger = .error e) :
    e.Origin ([] : List (Visit π)) := by
  rcases resolve_eq_error lost with ⟨-, rfl⟩ | ⟨_, -, -, rfl⟩
  · exact .lost (.inl ⟨_, rfl⟩) rfl rfl
  · exact .lost (.inr ⟨_, _, rfl⟩) rfl rfl

theorem origin_of_fire {ran : Ran (Entry π ν) (π × Outcome)}
    (h : m.fire depth payload trigger n = some ran) (failed : ran.value.2 = .answered (.error e)) :
    e.Origin (ownVisits n ran.log) := by
  rcases m.way payload trigger with ⟨e', lost⟩ | ⟨node, edge, found, none⟩ |
    ⟨source, edge, destination, leads⟩
  · rw [fire_of_lost lost] at h
    obtain rfl := Option.some.inj h
    obtain rfl : e' = e := Except.error.inj (Outcome.answered.inj failed)
    exact origin_of_lost lost
  · rw [fire_of_nowhere found none] at h
    obtain rfl := Option.some.inj h
    obtain rfl := Except.error.inj (Outcome.answered.inj failed)
    exact .lost (.inl ⟨_, rfl⟩) rfl rfl
  · obtain ⟨hs, course, accounts⟩ := course_of_fire leads h
    rw [accounts.visits_eq]
    cases e with
    | chain c error => exact course.outline.origin failed
    | _ =>
      obtain ⟨⟨left, outcome⟩, next, log⟩ := ran
      obtain rfl : outcome = _ := failed
      exact (course.admits_of_refuses rfl).2.origin

theorem origin_of_canFire {ran : Ran (Entry π ν) (Except FireError Unit)}
    (h : m.canFire depth payload trigger n = some ran) (failed : ran.value = .error e) :
    e.Origin (ownVisits n ran.log) := by
  obtain ⟨result, next, log⟩ := ran
  obtain rfl : result = .error e := failed
  obtain ⟨hs, unf⟩ := m.plays_canFireOn payload trigger ⟨n, _, h⟩
  have hlog : logOf hs = log := unf.log_eq
  have answers : m.Answers (m.host depth) (.canFire payload trigger) hs (.canFire (.error e)) :=
    unf.rel
  have visits := (answers.accounts unf.spans).visits_eq
  rw [hlog] at visits
  rw [visits]
  cases answers with
  | unresolved lost => exact origin_of_lost lost
  | guarded _ _ _ guard => exact guard.origin

/-- No cause is lost in an error that a fire answers with, nor in one that the question answers with
whether a trigger could be fired. -/
theorem causes_kept (m : Machine π ν) (depth : Nat) (payload : π) (trigger : Trigger) (n : Nat)
    (e : FireError) :
    (∀ ran, m.fire depth payload trigger n = some ran → ran.value.2 = .answered (.error e) →
      e.Traced (ownVisits n ran.log)) ∧
    ∀ ran, m.canFire depth payload trigger n = some ran → ran.value = .error e →
      e.Traced (ownVisits n ran.log) :=
  ⟨fun _ h failed => (origin_of_fire h failed).traced,
    fun _ h failed => (origin_of_canFire h failed).traced⟩

/-- A ferry that cannot sail without wind, and not be rowed either. Nobody swims at night. -/
def ferry : Machine Subject Remark where
  definition := .build [
    .configure ⟨"shore"⟩ .plain
      [.permit ⟨"cross"⟩ ⟨"island"⟩ none,
        .permit ⟨"swim"⟩ ⟨"island"⟩ (some (.predicate "tide"
          (Script.predicate (.stop (.fail ⟨"high tide", ["full moon", "night"]⟩))))),
        .onExit none (some "sail") (Script.operation (.stop (.fail ⟨"no wind", ["calm sea"]⟩))),
        .onError (some "row")
          (Script.handler (.stop (.panic (.boxed ⟨"oar broke", ["rotten wood"]⟩))))],
    .configure ⟨"island"⟩ .plain []]
  stopwatch _ _ := 0
  sound := Definition.sound_build _

/-- The panic of the handler takes the place of the failure, and what it carries is not among the
sources. The failure of the guard is there with both its causes. -/
theorem ferry_causes_kept :
    (∃ ran e, ferry.fire 0 ⟨⟨"shore"⟩, [], []⟩ ⟨"cross"⟩ 0 = some ran ∧
      ran.value.2 = .answered (.error e) ∧ e.Traced (ownVisits 0 ran.log) ∧
      e.sources = ["callback 'row' panicked at step 0 during 'cross' from 'shore': oar broke"]) ∧
    ∃ ran e, ferry.canFire 0 ⟨⟨"shore"⟩, [], []⟩ ⟨"swim"⟩ 0 = some ran ∧ ran.value = .error e ∧
      e.Traced (ownVisits 0 ran.log) ∧ e.sources = ["high tide", "full moon", "night"] := by
  constructor
  · have answered : (ferry.fire 0 ⟨⟨"shore"⟩, [], []⟩ ⟨"cross"⟩ 0).map (fun r => r.value.2.error?) =
        some (some (.chain ⟨0, ⟨"shore"⟩, ⟨"island"⟩, ⟨"cross"⟩⟩
          (.panic ⟨⟨0, ⟨"shore"⟩, ⟨"island"⟩, ⟨"cross"⟩⟩, 0, "row",
            .failure ⟨"oar broke", ["rotten wood"]⟩⟩))) := by decide +kernel
    obtain ⟨ran, h, failed⟩ := Option.map_eq_some_iff.1 answered
    have failed := Outcome.eq_of_error? failed
    exact ⟨ran, _, h, failed, (causes_kept ferry 0 _ _ 0 _).1 ran h failed, by decide +kernel⟩
  · have answered : (ferry.canFire 0 ⟨⟨"shore"⟩, [], []⟩ ⟨"swim"⟩ 0).map Ran.value =
        some (.error (.guardRejected ⟨"shore"⟩ ⟨"swim"⟩ "tide"
          ⟨"high tide", ["full moon", "night"]⟩)) := by rfl
    obtain ⟨ran, h, failed⟩ := Option.map_eq_some_iff.1 answered
    exact ⟨ran, _, h, failed, (causes_kept ferry 0 _ _ 0 _).2 ran h failed, rfl⟩

end Machine

end StateMachine
