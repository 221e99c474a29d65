import StateMachine.Proofs.Keeping

/-!
# Clean machines

A payload is driven by a machine, question after question. If the definition has no errors and the
callbacks keep to configured states, the machine never loses the payload.

* `Host.drive`: puts questions about one payload; `Host.Drives`: what happens meanwhile.
* `Machine.Safe`: that the payload is in a configured state all the time, and never missed.
* `Machine.safe_of_clean`: machines without errors are safe.
* `Script.tame`: a check for scripts; tame scripts keep to configured states (`Script.keeps_code`).
-/

namespace StateMachine

variable {π ν : Type}

/-! ## Sequences of questions -/

/-- What may be asked of a machine about the payload at hand. -/
inductive Inquiry
  | triggers
  | canFire (trigger : Trigger)
  | fire (trigger : Trigger)

/-- The question that is put about a payload. -/
def Inquiry.on (payload : π) : Inquiry → Question π
  | triggers => .triggers payload
  | canFire trigger => .canFire payload trigger
  | fire trigger => .fire payload trigger

@[simp] theorem Inquiry.payload_on (payload : π) (i : Inquiry) :
    (i.on payload).payload = payload := by
  cases i <;> rfl

/-- Puts questions to a host about one payload, each about the payload as the one before has left
it; the payload after each of them, and the answers. -/
def Host.drive (host : Host π ν) : π → List Inquiry → Run (Entry π ν) (List (π × Answer π))
  | _, [] => pure []
  | payload, i :: rest => do
    let answer ← host.ask (i.on payload)
    let more ← drive host (answer.left payload) rest
    pure ((answer.left payload, answer) :: more)

/-- What happens while a payload is driven, and the payloads and answers. -/
inductive Host.Drives (host : Host π ν) :
    π → List Inquiry → List (Happening host) → List (π × Answer π) → Prop
  | nil {payload} : Drives host payload [] [] []
  | cons {payload i rest hs results} (f : Finished (host.ask (i.on payload)))
      (more : Drives host (f.ran.value.left payload) rest hs results) :
      Drives host payload (i :: rest) (.asked _ f :: hs)
        ((f.ran.value.left payload, f.ran.value) :: results)

theorem plays_drive (host : Host π ν) (payload : π) (inquiries : List Inquiry) :
    Plays host (host.drive payload inquiries) (host.Drives payload inquiries) := by
  induction inquiries generalizing payload with
  | nil => exact .pure .nil
  | cons i rest ih =>
    rw [Host.drive]
    refine (plays_question (i.on payload)).bind ?_
    rintro _ _ ⟨f, rfl, rfl⟩
    refine (ih _).bind fun results hs more => .pure ?_
    rw [List.append_nil]
    exact .cons f more

theorem Host.Drives.turns_eq {host : Host π ν} {payload : π} {inquiries : List Inquiry}
    {hs : List (Happening host)} {results : List (π × Answer π)}
    (h : host.Drives payload inquiries hs results) : turns hs = [] := by
  induction h with
  | nil => rfl
  | cons _ _ ih => exact ih

variable [Payload π] {d : Definition π ν} {host : Host π ν}

/-- On a host that keeps to configured states, a payload goes from one to the next. -/
theorem Host.Drives.satisfies (kept : host.Keeps d) {payload : π} {inquiries : List Inquiry}
    {hs : List (Happening host)} {results : List (π × Answer π)}
    (h : host.Drives payload inquiries hs results)
    (start : d.contains (Payload.state payload) = true) :
    (∀ x ∈ results, d.contains (Payload.state x.1) = true ∧ ∀ s, ¬x.2.Misses s) ∧
      ∀ q f, .asked q f ∈ hs → d.contains (Payload.state q.payload) = true := by
  induction h with
  | nil => simp
  | @cons payload i rest hs results f more ih =>
    have satisfied := (kept _ f (by simpa using start)).1
    have left : d.contains (Payload.state (f.ran.value.left payload)) = true := by
      simpa using satisfied.left
    obtain ⟨answers, asked⟩ := ih left
    refine ⟨List.forall_mem_cons.2 ⟨⟨left, satisfied.found⟩, answers⟩, ?_⟩
    simp only [List.mem_cons, Happening.asked.injEq]
    rintro q f' (⟨rfl, -⟩ | mem)
    · simpa using start
    · exact asked q f' mem

namespace Machine

variable {m : Machine π ν}

/-- Whether whatever happens in a run keeps to configured states. -/
structure Safe (m : Machine π ν) (depth : Nat) (payload : π) (inquiries : List Inquiry)
    (n : Nat) (ran : Ran (Entry π ν) (List (π × Answer π))) : Prop where
  /-- After each question, the payload is in a configured state, and no answer is that a state is
  missing. -/
  answers : ∀ x ∈ ran.value, m.definition.contains (Payload.state x.1) = true ∧
    ∀ s, ¬x.2.Misses s
  /-- After each callback, however deep, the payload is in a configured state. -/
  callbacks : ∀ v ∈ visits ran.log, m.definition.contains (Payload.state v.left) = true
  /-- Questions are put within the run about payloads in configured states only. They leave such and
  tell of no others; however deep, no answer is that a state is missing. -/
  questions : ∃ hs : List (Happening (m.host depth)),
    Spans hs n ran.next ∧ logOf hs = ran.log ∧
      (m.host depth).Drives payload inquiries hs ran.value ∧
      ∀ level q f, m.Within depth hs level q f →
        m.definition.contains (Payload.state q.payload) = true ∧
          m.definition.Satisfies q f.ran.value

/-- A machine without errors never loses its payload. -/
theorem safe_of_clean (free : m.definition.hasErrors = false) (keeps : m.Keeps) {depth n : Nat}
    {payload : π} {inquiries : List Inquiry} {ran : Ran (Entry π ν) (List (π × Answer π))}
    (start : m.definition.contains (Payload.state payload) = true)
    (h : (m.host depth).drive payload inquiries n = some ran) :
    m.Safe depth payload inquiries n ran := by
  have kept := keeps_host free keeps depth
  obtain ⟨hs, unf⟩ := plays_drive (m.host depth) payload inquiries ⟨n, ran, h⟩
  have drives : (m.host depth).Drives payload inquiries hs ran.value := unf.rel
  obtain ⟨answers, asked⟩ := drives.satisfies kept start
  have fine : m.Fine hs :=
    ⟨by simp [drives.turns_eq], by simp [drives.turns_eq], asked⟩
  have log : logOf hs = ran.log := unf.log_eq
  exact {
    answers := answers
    callbacks := log ▸ fine.visits keeps kept
    questions := ⟨hs, unf.spans, log, drives, fun level q f within =>
      within.satisfies free keeps fine⟩ }

end Machine

/-! ## Scripts -/

/-- Whether a script sets states and reports destinations that are configured only; it may enter the
destination in any case. -/
def Script.tame (d : Definition Subject Remark) : Script → Bool
  | done => true
  | act (.move state) rest => d.contains state && rest.tame d
  | act (.retarget state) rest => d.contains state && rest.tame d
  | act _ rest => rest.tame d
  | stop _ => true
  | .when _ body rest => body.tame d && rest.tame d

namespace Script

variable {d : Definition Subject Remark} {role : Role} {grant : Grant} {ctx : Context} {s : Subject}

theorem keeps_codeThen {script : Script} (tame : script.tame d = true) {known : List State}
    {next : Subject → Context → Code Subject Remark} (state : d.Knows known s.state)
    (destination : d.Knows known ctx.destination)
    (rest : ∀ known s ctx, d.Knows known s.state → d.Knows known ctx.destination →
      (next s ctx).Keeps d role known) :
    (script.codeThen grant ctx s next).Keeps d role known := by
  induction script generalizing known ctx s next with
  | done => exact rest known s ctx state destination
  | stop verdict => exact fun _ => state
  | when condition body more ihBody ihMore =>
    simp only [Script.tame, Bool.and_eq_true] at tame
    rw [codeThen]
    split
    · exact ihBody tame.1 state destination fun known s ctx state destination =>
        ihMore tame.2 state destination rest
    · exact ihMore tame.2 state destination rest
  | act action more ih =>
    cases action with
    | log value => exact ih tame state destination rest
    | canFire trigger =>
      exact ⟨state, fun _ => ih tame (state.append _) (destination.append _) rest⟩
    | fire tolerant trigger =>
      rw [codeThen, Action.code]
      split
      · refine ⟨state, fun left result => ?_⟩
        have state : d.Knows ((Answer.fire left (.answered result)).states ++ known) left.state :=
          .inl (List.mem_append_left _ List.mem_cons_self)
        have destination := destination.append (Answer.fire left (.answered result)).states
        cases result with
        | ok => exact ih tame state destination rest
        | error e =>
          cases tolerant with
          | true => exact ih tame state destination rest
          | false => exact fun _ => state
      · exact ih tame state destination rest
    | retarget destination' =>
      simp only [Script.tame, Bool.and_eq_true] at tame
      cases grant with
      | recover cause =>
        exact ⟨fun _ => .inr tame.1, ih tame.2 state (.inr tame.1) rest⟩
      | _ => exact ih tame.2 state destination rest
    | quote => cases grant <;> exact ih tame state destination rest
    | move state' =>
      simp only [Script.tame, Bool.and_eq_true] at tame
      refine ih tame.2 ?_ destination rest
      split
      · exact .inr tame.1
      · exact state
    | enter =>
      refine ih tame ?_ destination rest
      split
      · exact destination
      · exact state
    | _ =>
      refine ih tame ?_ destination rest
      split <;> exact state

/-- A tame script keeps to configured states, wherever it stands. -/
theorem keeps_code {script : Script} (tame : script.tame d = true) (call : Call Subject) :
    (script.code grant call.context call.payload).Keeps d call.role call.states :=
  keeps_codeThen tame (.inl List.mem_cons_self) (.inl call.destination_mem_states)
    fun _ _ _ state _ _ => state

end Script

namespace Machine

theorem parcel_guards :
    parcel.definition.nodes.flatMap (fun node => node.edges.filterMap Edge.guard) =
      [.predicate "ready" (Script.predicate .done)] := rfl

theorem mem_parcel_steps {node : Node Subject Remark} {side : Side} {step : Step Subject Remark}
    (mem : node ∈ parcel.definition.nodes) (step_mem : step ∈ node.steps side) :
    step = ⟨some (.triggerIs ⟨"send"⟩), "stamp",
        Script.operation (.act (.set "stamps" 1) .done)⟩ ∨
      step = ⟨none, "travel",
        Script.operation (.act .enter (.act (.fire true ⟨"arrive"⟩) .done))⟩ ∨
      step = ⟨none, "unpack", Script.operation (.act .enter .done)⟩ := by
  have listed : step ∈
      parcel.definition.nodes.flatMap (fun node => node.exit.steps ++ node.entry.steps) :=
    List.mem_flatMap.2 ⟨node, mem, Node.mem_of_steps step_mem⟩
  have steps : parcel.definition.nodes.flatMap (fun node => node.exit.steps ++ node.entry.steps) =
      [⟨some (.triggerIs ⟨"send"⟩), "stamp", Script.operation (.act (.set "stamps" 1) .done)⟩,
        ⟨none, "travel", Script.operation (.act .enter (.act (.fire true ⟨"arrive"⟩) .done))⟩,
        ⟨none, "unpack", Script.operation (.act .enter .done)⟩] := rfl
  simpa [steps] using listed

theorem parcel_handlers :
    parcel.definition.nodes.flatMap (fun node => node.recovery.handlers) =
      [⟨"redirect", Script.handler (.act (.retarget ⟨"lost"⟩) .done)⟩] := rfl

theorem parcel_keeps : parcel.Keeps := by
  intro call code calls
  cases calls with
  | @edgeGuard node edge label code _ _ mem edge_mem some =>
    have listed : Guard.predicate label code ∈
        parcel.definition.nodes.flatMap (fun node => node.edges.filterMap Edge.guard) :=
      List.mem_flatMap.2 ⟨node, mem, List.mem_filterMap.2 ⟨edge, edge_mem, some⟩⟩
    rw [parcel_guards, List.mem_singleton] at listed
    obtain ⟨rfl, rfl⟩ := Guard.predicate.inj listed
    exact Script.keeps_code rfl _
  | @stepGuard node _ step _ _ _ _ mem step_mem some =>
    rcases mem_parcel_steps mem step_mem with rfl | rfl | rfl <;> exact nomatch some
  | @operation node _ step _ _ mem step_mem =>
    rcases mem_parcel_steps mem step_mem with rfl | rfl | rfl <;> exact Script.keeps_code rfl _
  | @handler node handler _ _ _ mem handler_mem =>
    have listed : handler ∈
        parcel.definition.nodes.flatMap (fun node => node.recovery.handlers) :=
      List.mem_flatMap.2 ⟨node, mem, handler_mem⟩
    rw [parcel_handlers, List.mem_singleton] at listed
    obtain rfl := listed
    exact Script.keeps_code rfl _
  | effect effect_mem =>
    obtain rfl := List.mem_singleton.1 effect_mem
    exact Script.keeps_code rfl _

/-- A parcel is sent, and arrives meanwhile; sending it once more is refused. It is never lost. -/
theorem parcel_safe : ∃ ran,
    (parcel.host 2).drive packed [.fire ⟨"send"⟩, .canFire ⟨"send"⟩, .triggers, .fire ⟨"send"⟩] 0 =
        some ran ∧
      parcel.Safe 2 packed [.fire ⟨"send"⟩, .canFire ⟨"send"⟩, .triggers, .fire ⟨"send"⟩] 0 ran ∧
      ran.value.map (fun x => x.1.state) = [⟨"home"⟩, ⟨"home"⟩, ⟨"home"⟩, ⟨"home"⟩] := by
  have finished : ((parcel.host 2).drive packed
      [.fire ⟨"send"⟩, .canFire ⟨"send"⟩, .triggers, .fire ⟨"send"⟩] 0).map (fun ran =>
        ran.value.map fun x => x.1.state) = some [⟨"home"⟩, ⟨"home"⟩, ⟨"home"⟩, ⟨"home"⟩] := by
    decide +kernel
  obtain ⟨ran, h, states⟩ := Option.map_eq_some_iff.1 finished
  have free : parcel.definition.hasErrors = false := by decide +kernel
  have start : parcel.definition.contains (Payload.state packed) = true := by decide +kernel
  exact ⟨ran, h, safe_of_clean free parcel_keeps start h, states⟩

end Machine

end StateMachine
