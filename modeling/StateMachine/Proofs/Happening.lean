import StateMachine.Machine

/-!
# What happens during a run

The log of a run is flat. This file gives it back its structure: a finished run is a list of
happenings, and every happening accounts for a stretch of the log and for the identities drawn
meanwhile.

* `Question`, `Answer`, `Host.ask`: what callbacks ask a host, in one function.
* `Finished`: a run that finished. `Turn`: a callback that was called, with the run of its code.
* `Happening`: a transition begins, an event is reported, a callback has its turn; and, within a
  turn, a remark, another destination, a question with its answer.
* `logOf`, `Spans`: the log that happenings leave and the identities between which they happen.
* `Plays host x R`: every finished run of `x` is a list of happenings that stands in `R` to its
  value. There is one rule for each way of putting runs together (`Plays.bind` is the main one).
* `Code.Path`, `Code.plays_run`: what happens when the code of a callback is run.
-/

namespace StateMachine

variable {π ν α β : Type}

/-! ## Questions -/

/-- What a machine may be asked. -/
inductive Question (π : Type) where
  | triggers (payload : π)
  | canFire (payload : π) (trigger : Trigger)
  | fire (payload : π) (trigger : Trigger)

/-- What a machine may answer. -/
inductive Answer (π : Type) where
  | triggers (result : Except FireError (List Trigger))
  | canFire (result : Except FireError Unit)
  | fire (left : π) (outcome : Outcome)

/-- Puts a question to a host. -/
def Host.ask (host : Host π ν) : Question π → Run (Entry π ν) (Answer π)
  | .triggers payload => pure (.triggers (host.triggers payload))
  | .canFire payload trigger => Answer.canFire <$> host.canFire payload trigger
  | .fire payload trigger => (fun x => Answer.fire x.1 x.2) <$> host.fire payload trigger

/-! ## Happenings -/

/-- A finished run: the next unused identity when it began, and what it left. -/
structure Finished {ε : Type} (x : Run ε α) where
  first : Nat
  ran : Ran ε α
  run_eq : x first = some ran

/-- A host that gives up has answered nothing but which triggers there are. -/
theorem Finished.of_exhausted {triggers : π → Except FireError (List Trigger)} {q : Question π}
    (f : Finished ((Host.exhausted triggers : Host π ν).ask q)) :
    ∃ result, f.ran = ⟨.triggers result, f.first, []⟩ := by
  obtain ⟨n, ran, hran⟩ := f
  cases q with
  | triggers payload => exact ⟨triggers payload, (Option.some.inj hran).symm⟩
  | canFire payload trigger => exact nomatch hran
  | fire payload trigger => exact nomatch hran

/-- A callback that was called on a host: the call, its code, and the run of the code. -/
structure Turn (host : Host π ν) where
  call : Call π
  code : Code π ν
  run : Finished (code.run host call.context)

/-- Something that happens during a run. -/
inductive Happening (host : Host π ν) where
  /-- A transition gets its context. -/
  | begun (ctx : Context)
  /-- The machine reports something. -/
  | event (e : Event)
  /-- A callback is called and ends. -/
  | turn (t : Turn host)
  /-- The callback whose turn it is makes a remark. -/
  | remark (r : ν)
  /-- The callback whose turn it is reports another destination. -/
  | retarget (destination : State)
  /-- The callback whose turn it is puts a question to the host. -/
  | asked (question : Question π) (run : Finished (host.ask question))

variable {host : Host π ν}

namespace Turn

/-- What the callback left. -/
def settled (t : Turn host) : Settled π := t.run.ran.value

/-- How the callback ended. -/
def verdict (t : Turn host) : Verdict := t.settled.verdict

/-- Whether a turn is the call of the given code. -/
def Of (t : Turn host) (call : Call π) (code : Code π ν) : Prop := t.call = call ∧ t.code = code

end Turn

namespace Happening

/-- The stretch of the log that a happening leaves. -/
def log : Happening host → List (Entry π ν)
  | begun _ => []
  | event e => [.event e]
  | turn t => .call t.call :: (t.run.ran.log ++ [.settled t.call t.settled])
  | remark r => [.remark r]
  | retarget _ => []
  | asked _ run => run.ran.log

/-- Between which identities something happens: the next unused one before and afterwards. -/
def Spans : Happening host → Nat → Nat → Prop
  | begun ctx, n, k => ctx.id = n ∧ k = n + 1
  | event _, n, k => k = n
  | turn t, n, k => t.run.first = n ∧ k = t.run.ran.next
  | remark _, n, k => k = n
  | retarget _, n, k => k = n
  | asked _ run, n, k => run.first = n ∧ k = run.ran.next

end Happening

/-- The log that happenings leave. -/
def logOf (hs : List (Happening host)) : List (Entry π ν) := hs.flatMap Happening.log

/-- The turns among happenings, those within other turns or questions aside. -/
def turns (hs : List (Happening host)) : List (Turn host) :=
  hs.filterMap fun
    | .turn t => some t
    | _ => none

/-- Between which identities happenings happen one after the other. -/
def Spans : List (Happening host) → Nat → Nat → Prop
  | [], n, k => k = n
  | h :: hs, n, k => ∃ j, h.Spans n j ∧ Spans hs j k

@[simp] theorem logOf_nil : logOf ([] : List (Happening host)) = [] := rfl

@[simp] theorem logOf_cons (h : Happening host) (hs : List (Happening host)) :
    logOf (h :: hs) = h.log ++ logOf hs :=
  List.flatMap_cons

@[simp] theorem logOf_append (hs hs' : List (Happening host)) :
    logOf (hs ++ hs') = logOf hs ++ logOf hs' :=
  List.flatMap_append

@[simp] theorem turns_nil : turns ([] : List (Happening host)) = [] := rfl

@[simp] theorem turns_begun (ctx : Context) (hs : List (Happening host)) :
    turns (.begun ctx :: hs) = turns hs := rfl

@[simp] theorem turns_event (e : Event) (hs : List (Happening host)) :
    turns (.event e :: hs) = turns hs := rfl

@[simp] theorem turns_turn (t : Turn host) (hs : List (Happening host)) :
    turns (.turn t :: hs) = t :: turns hs := rfl

@[simp] theorem turns_append (hs hs' : List (Happening host)) :
    turns (hs ++ hs') = turns hs ++ turns hs' :=
  List.filterMap_append

theorem mem_turns {t : Turn host} {hs : List (Happening host)} :
    t ∈ turns hs ↔ .turn t ∈ hs := by
  refine List.mem_filterMap.trans ⟨?_, fun ht => ⟨_, ht, rfl⟩⟩
  rintro ⟨h, hh, heq⟩
  cases h with
  | turn _ => exact Option.some.inj heq ▸ hh
  | _ => simp at heq

theorem spans_append {hs hs' : List (Happening host)} {n k : Nat} :
    Spans (hs ++ hs') n k ↔ ∃ j, Spans hs n j ∧ Spans hs' j k := by
  induction hs generalizing n with
  | nil => simp [Spans]
  | cons h hs ih =>
    simp only [List.cons_append, Spans, ih]
    constructor
    · rintro ⟨i, hi, j, hj, hk⟩
      exact ⟨j, ⟨i, hi, hj⟩, hk⟩
    · rintro ⟨j, ⟨i, hi, hj⟩, hk⟩
      exact ⟨i, hi, j, hj, hk⟩

/-! ## Generic rules for `Plays` -/

/-- The happenings of a finished run: they leave its log, draw its identities, and stand in `R` to
its value. -/
structure Finished.Unfolds {x : Run (Entry π ν) α} (f : Finished x)
    (R : List (Happening host) → α → Prop) (hs : List (Happening host)) : Prop where
  spans : Spans hs f.first f.ran.next
  log_eq : logOf hs = f.ran.log
  rel : R hs f.ran.value

/-- Whatever `x` leaves when it finishes, a list of happenings on the host stands in `R` to it. -/
def Plays (host : Host π ν) (x : Run (Entry π ν) α)
    (R : List (Happening host) → α → Prop) : Prop :=
  ∀ f : Finished x, ∃ hs, f.Unfolds R hs

section Generic

variable {x : Run (Entry π ν) α} {R S : List (Happening host) → α → Prop}

theorem Plays.mono (h : Plays host x R) (hRS : ∀ hs a, R hs a → S hs a) : Plays host x S := by
  intro f
  obtain ⟨hs, hf⟩ := h f
  exact ⟨hs, hf.spans, hf.log_eq, hRS _ _ hf.rel⟩

theorem Plays.pure {a : α} (h : R [] a) : Plays host (pure a) R := by
  rintro ⟨n, ran, hran⟩
  obtain rfl : ⟨a, n, []⟩ = ran := Option.some.inj hran
  exact ⟨[], rfl, rfl, h⟩

theorem Plays.exhausted : Plays host (Run.exhausted : Run (Entry π ν) α) R :=
  fun f => nomatch f.run_eq

/-- A run in two parts: what stands in `R` to the value of the whole may be shown for the second
part alone, once the happenings of the first part are known. -/
theorem Plays.bind {y : α → Run (Entry π ν) β} {T : List (Happening host) → β → Prop}
    (hx : Plays host x R)
    (hy : ∀ a hs, R hs a → Plays host (y a) fun hs' b => T (hs ++ hs') b) :
    Plays host (x >>= y) T := by
  rintro ⟨n, ran, hran⟩
  obtain ⟨r, s, hr, hs, rfl⟩ := Run.bind_eq_some_iff.1 hran
  obtain ⟨hs₁, h₁⟩ := hx ⟨n, r, hr⟩
  obtain ⟨hs₂, h₂⟩ := hy _ _ h₁.rel ⟨r.next, s, hs⟩
  exact ⟨hs₁ ++ hs₂, spans_append.2 ⟨_, h₁.spans, h₂.spans⟩,
    by rw [logOf_append, h₁.log_eq, h₂.log_eq], h₂.rel⟩

theorem Plays.map {g : α → β} {T : List (Happening host) → β → Prop}
    (hx : Plays host x fun hs a => T hs (g a)) : Plays host (g <$> x) T := by
  rw [← bind_pure_comp]
  exact hx.bind fun a hs h => .pure (by simpa using h)

theorem plays_event (e : Event) :
    Plays host (Run.emit (.event e)) fun hs _ => hs = [.event e] := by
  rintro ⟨n, ran, hran⟩
  obtain rfl : ⟨(), n, [.event e]⟩ = ran := Option.some.inj hran
  exact ⟨[.event e], ⟨n, rfl, rfl⟩, rfl, rfl⟩

theorem plays_remark (r : ν) :
    Plays host (Run.emit (.remark r)) fun hs _ => hs = [.remark r] := by
  rintro ⟨n, ran, hran⟩
  obtain rfl : ⟨(), n, [.remark r]⟩ = ran := Option.some.inj hran
  exact ⟨[.remark r], ⟨n, rfl, rfl⟩, rfl, rfl⟩

theorem plays_create (source destination : State) (trigger : Trigger) :
    Plays host (Context.create source destination trigger) fun hs ctx =>
      hs = [.begun ctx] ∧ ctx = ⟨ctx.id, source, destination, trigger⟩ := by
  rintro ⟨n, ran, hran⟩
  obtain rfl : ⟨⟨n, source, destination, trigger⟩, n + 1, []⟩ = ran := Option.some.inj hran
  exact ⟨[.begun _], ⟨n + 1, ⟨rfl, rfl⟩, rfl⟩, rfl, rfl, rfl⟩

/-- A happening that takes no time and leaves no log may be put in front. -/
theorem Plays.after {h : Nat → Happening host} (hspans : ∀ n, (h n).Spans n n)
    (hlog : ∀ n, (h n).log = []) (hx : Plays host x fun hs a => ∀ n, R (h n :: hs) a) :
    Plays host x R := by
  intro f
  obtain ⟨hs, hf⟩ := hx f
  refine ⟨h f.first :: hs, ⟨f.first, hspans _, hf.spans⟩, ?_, hf.rel _⟩
  rw [logOf_cons, hlog, List.nil_append, hf.log_eq]

/-- The happenings of a run, with the run itself. -/
theorem Plays.with_run (h : Plays host x R) :
    Plays host x fun hs a => R hs a ∧ ∃ f : Finished x, f.ran.value = a ∧ f.ran.log = logOf hs := by
  intro f
  obtain ⟨hs, hf⟩ := h f
  exact ⟨hs, hf.spans, hf.log_eq, hf.rel, f, rfl, hf.log_eq.symm⟩

end Generic

/-! ## Callbacks -/

theorem plays_call (call : Call π) (code : Code π ν) :
    Plays host (call.run host code) fun hs s =>
      ∃ t : Turn host, t.Of call code ∧ hs = [.turn t] ∧ s = t.settled := by
  rintro ⟨n, ran, hran⟩
  obtain ⟨_, _, h₁, hrest, rfl⟩ := Run.bind_eq_some_iff.1 hran
  obtain rfl := Option.some.inj h₁
  obtain ⟨r, _, hr, hlast, rfl⟩ := Run.bind_eq_some_iff.1 hrest
  obtain ⟨_, _, h₂, h₃, rfl⟩ := Run.bind_eq_some_iff.1 hlast
  obtain rfl := Option.some.inj h₂
  obtain rfl := Option.some.inj h₃
  refine ⟨[.turn ⟨call, code, n, r, hr⟩], ⟨r.next, ⟨rfl, rfl⟩, rfl⟩, ?_, _, ⟨rfl, rfl⟩, rfl, rfl⟩
  simp [Happening.log, Turn.settled]

theorem plays_report (ctx : Context) (step : Nat) (label : String) (value : Raised) :
    Plays host (PanicError.report ctx step label value) fun hs e =>
      e = ⟨ctx, step, label, value.payload⟩ ∧ hs = [.event (.panicked e)] :=
  (plays_event _).bind fun _ _ h => .pure (by simp [h])

theorem plays_canFire (payload : π) (trigger : Trigger) :
    Plays host (host.canFire payload trigger) fun hs result =>
      ∃ f : Finished (host.ask (.canFire payload trigger)),
        hs = [.asked _ f] ∧ f.ran.value = .canFire result := by
  rintro ⟨n, ran, hran⟩
  have hask : host.ask (.canFire payload trigger) n =
      some ⟨.canFire ran.value, ran.next, ran.log⟩ := by
    rw [Host.ask, ← bind_pure_comp, Run.bind_eq_some_iff]
    exact ⟨ran, _, hran, rfl, by simp⟩
  refine ⟨[.asked _ ⟨n, _, hask⟩], ⟨_, ⟨rfl, rfl⟩, rfl⟩, ?_, _, rfl, rfl⟩
  simp [Happening.log]

theorem plays_fire (payload : π) (trigger : Trigger) :
    Plays host (host.fire payload trigger) fun hs x =>
      ∃ f : Finished (host.ask (.fire payload trigger)),
        hs = [.asked _ f] ∧ f.ran.value = .fire x.1 x.2 := by
  rintro ⟨n, ran, hran⟩
  have hask : host.ask (.fire payload trigger) n =
      some ⟨.fire ran.value.1 ran.value.2, ran.next, ran.log⟩ := by
    rw [Host.ask, ← bind_pure_comp, Run.bind_eq_some_iff]
    exact ⟨ran, _, hran, rfl, by simp⟩
  refine ⟨[.asked _ ⟨n, _, hask⟩], ⟨_, ⟨rfl, rfl⟩, rfl⟩, ?_, _, rfl, rfl⟩
  simp [Happening.log]

/-- What happens when code is run for a transition, and what it leaves. A panic that escapes from
a fire is the last thing that happens. -/
inductive Code.Path (host : Host π ν) :
    Code π ν → Context → List (Happening host) → Settled π → Prop
  | finish {payload verdict ctx} :
      Path host (.finish payload verdict) ctx [] ⟨payload, ctx, verdict⟩
  | remark {r next ctx hs s} (rest : Path host next ctx hs s) :
      Path host (.remark r next) ctx (.remark r :: hs) s
  | retarget {destination next ctx hs s} (rest : Path host next (ctx.retarget destination) hs s) :
      Path host (.retarget destination next) ctx (.retarget destination :: hs) s
  | triggers {payload next ctx result hs s} (f : Finished (host.ask (.triggers payload)))
      (answer : f.ran.value = .triggers result) (rest : Path host (next result) ctx hs s) :
      Path host (.triggers payload next) ctx (.asked _ f :: hs) s
  | canFire {payload trigger next ctx result hs s}
      (f : Finished (host.ask (.canFire payload trigger)))
      (answer : f.ran.value = .canFire result) (rest : Path host (next result) ctx hs s) :
      Path host (.canFire payload trigger next) ctx (.asked _ f :: hs) s
  | fire {payload trigger next ctx left result hs s}
      (f : Finished (host.ask (.fire payload trigger)))
      (answer : f.ran.value = .fire left (.answered result))
      (rest : Path host (next left result) ctx hs s) :
      Path host (.fire payload trigger next) ctx (.asked _ f :: hs) s
  | escape {payload trigger next ctx left value}
      (f : Finished (host.ask (.fire payload trigger)))
      (answer : f.ran.value = .fire left (.escaped value)) :
      Path host (.fire payload trigger next) ctx [.asked _ f] ⟨left, ctx, .panic value⟩

theorem Code.plays_run (host : Host π ν) (code : Code π ν) (ctx : Context) :
    Plays host (code.run host ctx) (code.Path host ctx) := by
  induction code generalizing ctx with
  | finish payload verdict => exact .pure .finish
  | remark r next ih =>
    refine (plays_remark r).bind ?_
    rintro _ _ rfl
    exact (ih ctx).mono fun _ _ h => .remark h
  | retarget destination next ih =>
    refine Plays.after (h := fun _ => .retarget destination) (fun _ => rfl) (fun _ => rfl) ?_
    exact (ih _).mono fun _ _ h _ => .retarget h
  | triggers payload next ih =>
    refine Plays.after (h := fun n => .asked (.triggers payload) ⟨n, _, rfl⟩)
      (fun _ => ⟨rfl, rfl⟩) (fun _ => rfl) ?_
    exact (ih _ ctx).mono fun _ _ h _ => .triggers _ rfl h
  | canFire payload trigger next ih =>
    refine (plays_canFire payload trigger).bind ?_
    rintro result _ ⟨f, rfl, hf⟩
    exact (ih result ctx).mono fun _ _ h => .canFire f hf h
  | fire payload trigger next ih =>
    rw [Code.run]
    refine (plays_fire payload trigger).bind ?_
    rintro ⟨left, outcome⟩ _ ⟨f, rfl, hf⟩
    cases outcome with
    | answered result => exact (ih left result ctx).mono fun _ _ h => .fire f hf h
    | escaped value => exact .pure (.escape f hf)

end StateMachine
