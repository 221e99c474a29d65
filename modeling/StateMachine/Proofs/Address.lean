import StateMachine.Proofs.Representation

/-!
# Addresses

Every declaration is addressed to one state or to the side effects. It looks at nothing else and it
changes nothing else, so of a list of declarations a state has seen those that were addressed to it.

* `Declaration.address`, `addressed`: whom a declaration is for, and the declarations for someone.
* `Definition.AgreeAt`: two definitions hold the same at an address.
* `Definition.agreeAt_declare_of_ne`: a declaration leaves alone what it is not addressed to.
* `Definition.declare_agreeAt`: where two definitions agree, they answer a declaration alike and go
  on agreeing.
* `Definition.extend_addressed`: an address holds what the declarations addressed to it leave.
* `Definition.build_agreeAt`: so two lists of declarations may be compared address by address.

The captions of states are left out of all this, and so are the positions of states: a position is
drawn from a counter that all states share.
-/

namespace StateMachine

variable {π ν : Type}

/-- What a declaration is addressed to: a state, or else the side effects. -/
def Declaration.address : Declaration π ν → Option State
  | configure state _ _ => some state
  | reopen state _ => some state
  | effect .. => none

/-- A declaration without the caption of its state. -/
def Declaration.uncaptioned : Declaration π ν → Declaration π ν
  | configure state _ clauses => configure state .plain clauses
  | declaration => declaration

theorem Declaration.address_uncaptioned (x : Declaration π ν) :
    x.uncaptioned.address = x.address := by
  cases x <;> rfl

/-- The declarations for an address, in order and without captions. -/
def addressed (address : Option State) (declarations : List (Declaration π ν)) :
    List (Declaration π ν) :=
  (declarations.filter fun x => x.address = address).map Declaration.uncaptioned

/-- An answer that does not tell where a state stands. -/
def Declared.placeless : Declared → Declared
  | state _ s clauses => state 0 s clauses
  | answer => answer

namespace Node

/-- A state without its caption. -/
def uncaptioned (node : Node π ν) : Node π ν := { node with caption := .plain }

theorem uncaptioned_inj {node node' : Node π ν} :
    node.uncaptioned = node'.uncaptioned ↔
      node.state = node'.state ∧ node.edges = node'.edges ∧ node.index = node'.index ∧
        node.entry = node'.entry ∧ node.exit = node'.exit ∧ node.recovery = node'.recovery := by
  simp [uncaptioned]

theorem extend_uncaptioned (node : Node π ν) (clause : Clause π ν) :
    node.uncaptioned.extend clause = (node.extend clause).map uncaptioned := by
  have permitted (edge : Edge π ν) :
      node.uncaptioned.permit edge = (node.permit edge).map uncaptioned := by
    unfold permit
    by_cases held : node.index.contains edge.trigger = true
    · simp [uncaptioned, held, Except.map]
    · simp [uncaptioned, held, Except.map]
  cases clause with
  | permit trigger destination guard => exact permitted _
  | permitIf trigger destination code => exact permitted _
  | _ => rfl

theorem extend_agree {node node' : Node π ν} (agree : node.uncaptioned = node'.uncaptioned)
    (clause : Clause π ν) :
    (∃ e, node.extend clause = .error e ∧ node'.extend clause = .error e) ∨
    ∃ extended extended', node.extend clause = .ok extended ∧
      node'.extend clause = .ok extended' ∧ extended.uncaptioned = extended'.uncaptioned := by
  have same : (node.extend clause).map uncaptioned = (node'.extend clause).map uncaptioned := by
    rw [← extend_uncaptioned, agree, extend_uncaptioned]
  cases h : node.extend clause with
  | error e =>
    cases h' : node'.extend clause with
    | error e' =>
      rw [h, h'] at same
      exact .inl ⟨e, rfl, congrArg _ (Except.error.inj same).symm⟩
    | ok extended' =>
      rw [h, h'] at same
      exact nomatch same
  | ok extended =>
    cases h' : node'.extend clause with
    | error e' =>
      rw [h, h'] at same
      exact nomatch same
    | ok extended' =>
      rw [h, h'] at same
      exact .inr ⟨extended, extended', rfl, rfl, Except.ok.inj same⟩

end Node

namespace Definition

variable {d d' e : Definition π ν} {state : State} {position : Nat}

/-- What further declarations leave of a definition. -/
def extend (d : Definition π ν) (declarations : List (Declaration π ν)) : Definition π ν :=
  declarations.foldl (fun d declaration => (d.declare declaration).1) d

/-- The answers to the declarations for an address. -/
def answersAt (address : Option State) : Definition π ν → List (Declaration π ν) → List Declared
  | _, [] => []
  | d, x :: rest =>
    if x.address = address then
      (d.declare x).2.placeless :: answersAt address (d.declare x).1 rest
    else answersAt address (d.declare x).1 rest

/-- Whether two definitions hold the same at an address; captions do not count. -/
def AgreeAt (d d' : Definition π ν) : Option State → Prop
  | some state => (d.node? state).map Node.uncaptioned = (d'.node? state).map Node.uncaptioned
  | none => d.effects = d'.effects

/-- Whether two answers are the same, positions aside, and leave definitions that agree. -/
def SameReply (address : Option State) (r r' : Definition π ν × Declared) : Prop :=
  r.2.placeless = r'.2.placeless ∧ r.1.AgreeAt r'.1 address

theorem AgreeAt.symm {address : Option State} (h : d.AgreeAt d' address) :
    d'.AgreeAt d address := by
  cases address with
  | none => exact Eq.symm h
  | some state => exact Eq.symm h

theorem AgreeAt.trans {address : Option State} (h : d.AgreeAt d' address)
    (h' : d'.AgreeAt e address) : d.AgreeAt e address := by
  cases address with
  | none => exact Eq.trans h h'
  | some state => exact Eq.trans h h'

theorem Sound.extend (sound : d.Sound) (declarations : List (Declaration π ν)) :
    (d.extend declarations).Sound := by
  induction declarations generalizing d with
  | nil => exact sound
  | cons declaration rest ih => exact ih (sound.declare declaration)

/-! ## What a declaration changes -/

theorem node?_eq_of_position? (found : d.position? state = some position) :
    d.node? state = d.nodes[position]? := by
  rw [node?, found, Option.bind_some]

theorem position?_eq_none_iff (sound : d.Sound) :
    d.position? state = none ↔ d.node? state = none := by
  rw [← contains_eq_false_iff, sound.node?_eq_none_iff]

theorem node?_replace (sound : d.Sound) (found : d.position? state = some position)
    (node : Node π ν) (other : State) :
    (d.replace position node).node? other = if other = state then some node else d.node? other := by
  have inside : position < d.nodes.length := by
    simpa [states] using sound.index.lt_length found
  by_cases same : other = state
  · subst other
    rw [if_pos rfl, node?_eq_of_position? (d := d.replace position node) found, replace,
      List.getElem?_set_self inside]
  · rw [if_neg same, node?, node?]
    refine Option.bind_congr fun i at_ => ?_
    have apart : position ≠ i := by
      rintro rfl
      have first := (sound.index state position).1 found
      have second := (sound.index other position).1 at_
      exact same (Option.some.inj (second.symm.trans first))
    exact List.getElem?_set_ne apart

theorem node?_addState (sound : d.Sound) (state : State) (caption : Caption) (other : State) :
    (d.addState state caption).node? other =
      if other = state then some (.bare state caption) else d.node? other := by
  by_cases same : other = state
  · subst other
    rw [if_pos rfl, node?_eq_of_position? (d.position?_addState state caption), addState, length,
      List.getElem?_concat_length]
  · have kept : (d.addState state caption).position? other = d.position? other := by
      rw [position?, addState, Index.find?_insert, if_neg same, position?]
    rw [if_neg same, node?, node?, kept]
    refine Option.bind_congr fun i at_ => ?_
    have inside : i < d.nodes.length := by
      simpa [states] using sound.index.lt_length at_
    exact List.getElem?_append_left inside

theorem node?_addClause (sound : d.Sound) (found : d.position? state = some position)
    {node : Node π ν} {clause : Clause π ν} (hd : d.addClause position node clause = .ok d') :
    d'.effects = d.effects ∧ d'.position? state = some position ∧
      ∃ extended, node.extend clause = .ok extended ∧
        ∀ other, d'.node? other = if other = state then some extended else d.node? other := by
  obtain ⟨extended, hext, rfl⟩ := addClause_eq_ok hd
  exact ⟨rfl, found, extended, hext, node?_replace sound found extended⟩

theorem addClauses_frame (sound : d.Sound) (found : d.position? state = some position)
    (added : Nat) (clauses : List (Clause π ν)) :
    (addClauses state position added d clauses).1.effects = d.effects ∧
      ∀ other, other ≠ state →
        (addClauses state position added d clauses).1.node? other = d.node? other := by
  induction clauses generalizing d added with
  | nil => exact ⟨rfl, fun _ _ => rfl⟩
  | cons clause rest ih =>
    rw [addClauses]
    split
    · exact ⟨rfl, fun _ _ => rfl⟩
    · next node stands =>
      split
      · exact ⟨rfl, fun _ _ => rfl⟩
      · next d' hd =>
        obtain ⟨effects', found', extended, -, nodes'⟩ := node?_addClause sound found hd
        obtain ⟨effects, others⟩ := ih (sound.addClause stands hd) found' (added + 1)
        refine ⟨effects.trans effects', fun other apart => ?_⟩
        rw [others other apart, nodes', if_neg apart]

/-- A declaration leaves alone every state that it is not addressed to. -/
theorem node?_declare_of_ne (sound : d.Sound) {x : Declaration π ν}
    (apart : x.address ≠ some state) : (d.declare x).1.node? state = d.node? state := by
  cases x with
  | configure s caption clauses =>
    have ne : state ≠ s := fun same => apart (same ▸ rfl)
    rw [declare]
    split
    · rfl
    · next new =>
      have sound' := sound.addState (Bool.eq_false_iff.2 new) caption
      have found := d.position?_addState s caption
      rw [(addClauses_frame sound' found 0 clauses).2 state ne, node?_addState sound, if_neg ne]
  | reopen s clauses =>
    have ne : state ≠ s := fun same => apart (same ▸ rfl)
    rw [declare]
    split
    · rfl
    · next position found => exact (addClauses_frame sound found 0 clauses).2 state ne
  | effect filter label callback => rfl

theorem effects_declare_of_ne (sound : d.Sound) {x : Declaration π ν} (apart : x.address ≠ none) :
    (d.declare x).1.effects = d.effects := by
  cases x with
  | configure s caption clauses =>
    rw [declare]
    split
    · rfl
    · next new =>
      have sound' := sound.addState (Bool.eq_false_iff.2 new) caption
      exact (addClauses_frame sound' (d.position?_addState s caption) 0 clauses).1
  | reopen s clauses =>
    rw [declare]
    split
    · rfl
    · next position found => exact (addClauses_frame sound found 0 clauses).1
  | effect filter label callback => exact absurd rfl apart

theorem agreeAt_declare_of_ne (sound : d.Sound) {x : Declaration π ν} {address : Option State}
    (apart : x.address ≠ address) : (d.declare x).1.AgreeAt d address := by
  cases address with
  | none => exact effects_declare_of_ne sound apart
  | some state => exact congrArg _ (node?_declare_of_ne sound apart)

/-! ## What a declaration looks at -/

theorem exists_node_of_position? (sound : d.Sound) (found : d.position? state = some position) :
    ∃ node, d.nodes[position]? = some node ∧ d.node? state = some node := by
  have inside : position < d.nodes.length := by
    simpa [states] using sound.index.lt_length found
  have stands := List.getElem?_eq_getElem inside
  exact ⟨_, stands, (node?_eq_of_position? found).trans stands⟩

theorem exists_addClause (d : Definition π ν) (position : Nat) {node extended : Node π ν}
    {clause : Clause π ν} (h : node.extend clause = .ok extended) :
    ∃ e, d.addClause position node clause = .ok e :=
  ⟨_, by rw [addClause, h]⟩

/-- Clauses for a state that two definitions agree about are answered alike. -/
theorem addClauses_agreeAt (sound : d.Sound) (sound' : d'.Sound) {position' : Nat}
    (found : d.position? state = some position) (found' : d'.position? state = some position')
    (agree : d.AgreeAt d' (some state)) (added : Nat) (clauses : List (Clause π ν)) :
    SameReply (some state) (addClauses state position added d clauses)
      (addClauses state position' added d' clauses) := by
  induction clauses generalizing d d' added with
  | nil => exact ⟨rfl, agree⟩
  | cons clause rest ih =>
    -- the state may stand at different positions, with different captions
    obtain ⟨node, stands, hnode⟩ := exists_node_of_position? sound found
    obtain ⟨node', stands', hnode'⟩ := exists_node_of_position? sound' found'
    have alike : node.uncaptioned = node'.uncaptioned := by
      rw [AgreeAt, hnode, hnode'] at agree
      exact Option.some.inj agree
    rw [addClauses, addClauses, stands, stands']
    obtain ⟨e, h, h'⟩ | ⟨extended, extended', h, h', alike'⟩ := Node.extend_agree alike clause
    · simp only [(addClause_eq_error_iff d position).2 h,
        (addClause_eq_error_iff d' position').2 h']
      exact ⟨rfl, agree⟩
    · obtain ⟨e, he⟩ := exists_addClause d position h
      obtain ⟨e', he'⟩ := exists_addClause d' position' h'
      obtain ⟨-, next, _, hext, nodes⟩ := node?_addClause sound found he
      obtain ⟨-, next', _, hext', nodes'⟩ := node?_addClause sound' found' he'
      obtain rfl := Except.ok.inj (h.symm.trans hext)
      obtain rfl := Except.ok.inj (h'.symm.trans hext')
      simp only [he, he']
      refine ih (sound.addClause stands he) (sound'.addClause stands' he') next next' ?_ (added + 1)
      rw [AgreeAt, nodes, nodes', if_pos rfl, if_pos rfl]
      exact congrArg some alike'

theorem AgreeAt.position?_eq_none_iff (sound : d.Sound) (sound' : d'.Sound)
    (agree : d.AgreeAt d' (some state)) : d.position? state = none ↔ d'.position? state = none := by
  rw [Definition.position?_eq_none_iff sound, Definition.position?_eq_none_iff sound',
    ← Option.map_eq_none_iff, agree, Option.map_eq_none_iff]

/-- Where two definitions agree, they answer a declaration alike and go on agreeing. -/
theorem declare_agreeAt (sound : d.Sound) (sound' : d'.Sound) {x : Declaration π ν}
    (agree : d.AgreeAt d' x.address) :
    SameReply x.address (d.declare x) (d'.declare x.uncaptioned) := by
  cases x with
  | configure state caption clauses =>
    have places := agree.position?_eq_none_iff sound sound'
    rw [← contains_eq_false_iff, ← contains_eq_false_iff] at places
    show SameReply (some state) _ (d'.declare (.configure state .plain clauses))
    cases held : d.contains state with
    | true =>
      have held' : d'.contains state = true := by
        rw [← Bool.not_eq_false, ← places, held]
        exact Bool.noConfusion
      rw [declare, declare, if_pos held, if_pos held']
      exact ⟨rfl, agree⟩
    | false =>
      have held' := places.1 held
      rw [declare, declare, if_neg (Bool.eq_false_iff.1 held), if_neg (Bool.eq_false_iff.1 held')]
      refine addClauses_agreeAt (sound.addState held caption) (sound'.addState held' .plain)
        (d.position?_addState state caption) (d'.position?_addState state .plain) ?_ 0 clauses
      rw [AgreeAt, node?_addState sound, node?_addState sound', if_pos rfl, if_pos rfl]
      rfl
  | reopen state clauses =>
    have places := agree.position?_eq_none_iff sound sound'
    show SameReply (some state) _ (d'.declare (.reopen state clauses))
    rw [declare, declare]
    cases found : d.position? state with
    | none =>
      rw [places.1 found]
      exact ⟨rfl, agree⟩
    | some position =>
      cases found' : d'.position? state with
      | none => cases found.symm.trans (places.2 found')
      | some position' => exact addClauses_agreeAt sound sound' found found' agree 0 clauses
  | effect filter label callback =>
    have same : d.effects = d'.effects := agree
    show SameReply none _ (d'.declare (.effect filter label callback))
    rw [declare, declare, addEffect, addEffect, same]
    exact ⟨rfl, rfl⟩

/-- An address holds what the declarations for it leave, and these are answered as if there were no
others. -/
theorem extend_addressed (sound : d.Sound) (sound' : d'.Sound) {address : Option State}
    (agree : d.AgreeAt d' address) (declarations : List (Declaration π ν)) :
    d.answersAt address declarations = d'.answersAt address (addressed address declarations) ∧
      (d.extend declarations).AgreeAt (d'.extend (addressed address declarations)) address := by
  induction declarations generalizing d d' with
  | nil => exact ⟨rfl, agree⟩
  | cons x rest ih =>
    by_cases here : x.address = address
    · have seen : addressed address (x :: rest) = x.uncaptioned :: addressed address rest := by
        simp [addressed, here]
      obtain ⟨reply, agree'⟩ := declare_agreeAt sound sound' (here ▸ agree)
      obtain ⟨replies, left⟩ := ih (sound.declare x) (sound'.declare _) (here ▸ agree')
      rw [seen, answersAt, answersAt, if_pos here, if_pos (x.address_uncaptioned.trans here), reply,
        replies]
      exact ⟨rfl, left⟩
    · have skipped : addressed address (x :: rest) = addressed address rest := by
        simp [addressed, here]
      rw [answersAt, if_neg here, skipped]
      exact ih (sound.declare x) sound' ((agreeAt_declare_of_ne sound here).trans agree)

/-- Two lists of declarations are the same for an address if they hold the same declarations for it
in the same order: these are answered alike, and what they leave is the same. -/
theorem build_agreeAt {declarations declarations' : List (Declaration π ν)}
    {address : Option State}
    (same : addressed address declarations = addressed address declarations') :
    empty.answersAt address declarations = empty.answersAt address declarations' ∧
      (build declarations).AgreeAt (build declarations') address := by
  have refl : (empty : Definition π ν).AgreeAt empty address := by
    cases address <;> rfl
  obtain ⟨replies, left⟩ := extend_addressed sound_empty sound_empty refl declarations
  obtain ⟨replies', left'⟩ := extend_addressed sound_empty sound_empty refl declarations'
  rw [same] at replies left
  exact ⟨replies.trans replies'.symm, left.trans left'.symm⟩

end Definition

end StateMachine
