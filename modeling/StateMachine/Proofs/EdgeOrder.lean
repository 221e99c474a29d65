import Mathlib.Data.List.Nodup
import StateMachine.Proofs.DeadSpots

/-!
# The order of edges

A definition keeps its edges twice: state by state beside the callbacks, and in the graph as they
were registered. As soon as a state is reopened after another one was configured, the two are in
different orders. Going through the edges state by state is going through the graph after it was
sorted by the states, without moving arrows of the same state past each other.

* `StablySorts`: what it means that a list is another one, stably sorted by a key. There is at most
  one such list (`StablySorts.unique`), and merge sort finds it (`stablySorts_mergeSort`).
* `Graph.place`, `Graph.byState`: the position of a state, and the arrows sorted by the positions of
  their sources.
* `Definition.Sound.filter_arrows`: one state has the same arrows, in the same order, in both.
* `Definition.Visits`, `Definition.visits_build`: what going through the edges of a definition
  visits, whatever was declared.
-/

namespace StateMachine

/-! ## Stable sorting -/

section Sorting

variable {α : Type} {key : α → Nat} {l l' l'' : List α}

/-- Whether `l'` is `l` after it was stably sorted: keys never descend, and what has the same key
stands in the order in which it stood. -/
structure StablySorts (key : α → Nat) (l l' : List α) : Prop where
  ascending : l'.Pairwise fun a b => key a ≤ key b
  stable : ∀ k, l'.filter (fun a => key a = k) = l.filter fun a => key a = k

theorem key_le_of_ascending {a x : α} (asc : (a :: l).Pairwise fun a b => key a ≤ key b)
    (mem : x ∈ a :: l) : key a ≤ key x := by
  rcases List.mem_cons.1 mem with rfl | mem
  · exact Nat.le_refl _
  · exact List.rel_of_pairwise_cons asc mem

theorem mem_iff_of_filter_eq
    (same : ∀ k, l.filter (fun a => key a = k) = l'.filter fun a => key a = k) (x : α) :
    x ∈ l ↔ x ∈ l' := by
  have here := congrArg (x ∈ ·) (same (key x))
  simpa using here

/-- Lists whose keys ascend are equal if they hold the same for each key. The induction is on the
first list: both heads have the least key, and so each of them is the first of what has this key. -/
theorem eq_of_ascending (asc : l.Pairwise fun a b => key a ≤ key b)
    (asc' : l'.Pairwise fun a b => key a ≤ key b)
    (same : ∀ k, l.filter (fun a => key a = k) = l'.filter fun a => key a = k) : l = l' := by
  have mem_iff := mem_iff_of_filter_eq same
  induction l generalizing l' with
  | nil => exact (List.eq_nil_iff_forall_not_mem.2 fun x hx => nomatch (mem_iff x).2 hx).symm
  | cons a l ih =>
    cases l' with
    | nil => exact nomatch (mem_iff a).1 List.mem_cons_self
    | cons b l' =>
      have least : key a = key b := Nat.le_antisymm
        (key_le_of_ascending asc ((mem_iff b).2 List.mem_cons_self))
        (key_le_of_ascending asc' ((mem_iff a).1 List.mem_cons_self))
      have firsts := same (key a)
      rw [List.filter_cons_of_pos (by simp), List.filter_cons_of_pos (by simp [least])] at firsts
      obtain ⟨rfl, tails⟩ := List.cons.inj firsts
      have same' (k : Nat) :
          l.filter (fun a => key a = k) = l'.filter fun a => key a = k := by
        by_cases hk : key a = k
        · exact hk ▸ tails
        · have others := same k
          rwa [List.filter_cons_of_neg (by simp [hk]),
            List.filter_cons_of_neg (by simp [hk])] at others
      rw [ih asc.of_cons asc'.of_cons same' (mem_iff_of_filter_eq same')]

theorem StablySorts.unique (h : StablySorts key l l') (h' : StablySorts key l l'') : l' = l'' :=
  eq_of_ascending h.ascending h'.ascending fun k => (h.stable k).trans (h'.stable k).symm

/-- Merge sort is stable. -/
theorem stablySorts_mergeSort (key : α → Nat) (l : List α) :
    StablySorts key l (l.mergeSort fun a b => key a ≤ key b) := by
  have trans (a b c : α) (hab : decide (key a ≤ key b) = true)
      (hbc : decide (key b ≤ key c) = true) : decide (key a ≤ key c) = true := by
    simp only [decide_eq_true_eq] at hab hbc ⊢
    omega
  have total (a b : α) : (decide (key a ≤ key b) || decide (key b ≤ key a)) = true := by
    simp only [Bool.or_eq_true, decide_eq_true_eq]
    omega
  refine ⟨(List.pairwise_mergeSort trans total l).imp of_decide_eq_true, fun k => ?_⟩
  -- what has the key `k` is sorted already, so it stays in its order
  have sorted : (l.filter fun a => key a = k).Pairwise fun a b => decide (key a ≤ key b) = true := by
    refine List.pairwise_of_forall_mem_list fun a ha b hb => ?_
    have := (List.mem_filter.1 ha).2
    have := (List.mem_filter.1 hb).2
    simp only [decide_eq_true_eq] at *
    omega
  have kept := (List.sublist_mergeSort trans total sorted List.filter_sublist).filter
    fun a => decide (key a = k)
  rw [List.filter_filter] at kept
  simp only [Bool.and_self] at kept
  exact (kept.eq_of_length (((List.mergeSort_perm l _).filter _).length_eq).symm).symm

end Sorting

/-! ## The arrows of a graph, state by state -/

namespace Graph

/-- The position of a state in the order of configuration. -/
def place (g : Graph) (state : State) : Nat := g.states.idxOf state

/-- The arrows sorted by the positions of their sources; those of one state stay in their order. -/
def byState (g : Graph) : List Arrow :=
  g.arrows.mergeSort fun a b => g.place a.source ≤ g.place b.source

end Graph

variable {π ν : Type}

namespace Definition

variable {d : Definition π ν} {state : State}

theorem source_of_mem_arrows {node : Node π ν} {a : Arrow} (ha : a ∈ node.arrows) :
    a.source = node.state := by
  obtain ⟨edge, -, rfl⟩ := List.mem_map.1 ha
  rfl

theorem filter_arrows_eq_nil {nodes : List (Node π ν)} (other : state ∉ nodes.map Node.state) :
    (nodes.flatMap Node.arrows).filter (fun a => a.source = state) = [] := by
  refine List.filter_eq_nil_iff.2 fun a ha here => other ?_
  obtain ⟨node, mem, ha⟩ := List.mem_flatMap.1 ha
  rw [← of_decide_eq_true here, source_of_mem_arrows ha]
  exact List.mem_map_of_mem mem

namespace Sound

theorem filter_arrows (sound : d.Sound) (state : State) :
    d.arrows.filter (fun a => a.source = state) =
      d.graph.arrows.filter fun a => a.source = state := by
  by_cases configured : state ∈ d.states
  · obtain ⟨node, mem, rfl⟩ := List.mem_map.1 configured
    obtain ⟨before, after, split⟩ := List.append_of_mem mem
    have nodup := sound.index.nodup
    rw [Definition.states, split, List.map_append, List.map_cons, List.nodup_middle, List.nodup_cons,
      List.mem_append, not_or] at nodup
    obtain ⟨⟨hbefore, hafter⟩, -⟩ := nodup
    have own : node.arrows.filter (fun a => a.source = node.state) = node.arrows :=
      List.filter_eq_self.2 fun a ha => by simp [source_of_mem_arrows ha]
    rw [sound.arrows node mem, Definition.arrows, split, List.flatMap_append, List.flatMap_cons,
      List.filter_append, List.filter_append, filter_arrows_eq_nil hbefore, own,
      filter_arrows_eq_nil hafter, List.nil_append, List.append_nil]
  · rw [Definition.arrows, filter_arrows_eq_nil configured, eq_comm, List.filter_eq_nil_iff]
    intro a ha here
    exact configured (of_decide_eq_true here ▸ sound.sources a ha)

theorem place_eq_iff (sound : d.Sound) (configured : state ∈ d.states) {k : Nat} :
    d.graph.place state = k ↔ d.states[k]? = some state := by
  rw [Graph.place, sound.states]
  constructor
  · rintro rfl
    exact List.getElem?_eq_some_iff.2
      ⟨List.idxOf_lt_length_of_mem configured, List.getElem_idxOf _⟩
  · intro stands
    obtain ⟨inside, rfl⟩ := List.getElem?_eq_some_iff.1 stands
    exact sound.index.nodup.idxOf_getElem k inside

theorem source_mem_states {a : Arrow} (ha : a ∈ d.arrows) : a.source ∈ d.states := by
  obtain ⟨node, mem, ha⟩ := List.mem_flatMap.1 ha
  exact source_of_mem_arrows ha ▸ List.mem_map_of_mem mem

/-- State by state, the places of the sources never descend. -/
theorem ascending_arrows (sound : d.Sound) :
    d.arrows.Pairwise fun a b => d.graph.place a.source ≤ d.graph.place b.source := by
  have stands {k : Nat} (inside : k < d.nodes.length) :
      d.graph.place d.nodes[k].state = k := by
    refine (sound.place_eq_iff (List.mem_map_of_mem (List.getElem_mem inside))).2 ?_
    simp [Definition.states, inside]
  rw [Definition.arrows, List.pairwise_flatMap]
  constructor
  · intro node mem
    refine List.pairwise_of_forall_mem_list fun a ha b hb => ?_
    exact Nat.le_of_eq (by rw [source_of_mem_arrows ha, source_of_mem_arrows hb])
  · refine List.pairwise_iff_getElem.2 fun i j hi hj hij a ha b hb => ?_
    rw [source_of_mem_arrows ha, source_of_mem_arrows hb, stands hi, stands hj]
    exact Nat.le_of_lt hij

/-- Going through the edges state by state is going through the graph, stably sorted by the places
of the sources. -/
theorem stablySorts_arrows (sound : d.Sound) :
    StablySorts (fun a => d.graph.place a.source) d.graph.arrows d.arrows := by
  refine ⟨sound.ascending_arrows, fun k => ?_⟩
  have congr {l : List Arrow} (sources : ∀ a ∈ l, a.source ∈ d.states) :
      l.filter (fun a => d.graph.place a.source = k) =
        l.filter fun a => d.states[k]? = some a.source :=
    List.filter_congr fun a ha => decide_eq_decide.2 (sound.place_eq_iff (sources a ha))
  rw [congr fun a => source_mem_states, congr sound.sources]
  cases d.states[k]? with
  | none => rw [List.filter_eq_nil_iff.2 (by simp), List.filter_eq_nil_iff.2 (by simp)]
  | some state => simpa [eq_comm] using sound.filter_arrows state

theorem nodup_arrows (sound : d.Sound) : d.graph.arrows.Nodup :=
  List.Nodup.of_map _ sound.nodup_ways

end Sound

/-- What going through the edges of a definition visits, compared with the arrows of a graph: the
same arrows, each once, and stably sorted by the positions of their sources. -/
structure Visits (d : Definition π ν) (g : Graph) : Prop where
  /-- The graph of the definition is the given one. -/
  graph : d.graph = g
  /-- Every arrow is visited, and no other. -/
  perm : d.arrows.Perm g.arrows
  /-- None is visited twice. -/
  once : d.arrows.Nodup
  /-- What is visited is stably sorted. -/
  sorted : d.arrows = g.byState
  /-- States come in the order of configuration. -/
  states : d.arrows.Pairwise fun a b => g.place a.source ≤ g.place b.source
  /-- Within one state, arrows come in the order of registration. -/
  within : ∀ state,
    d.arrows.filter (fun a => a.source = state) = g.arrows.filter fun a => a.source = state

theorem Sound.visits (sound : d.Sound) : d.Visits d.graph := by
  have sorted : d.arrows = d.graph.byState :=
    sound.stablySorts_arrows.unique (stablySorts_mergeSort _ _)
  have perm : d.arrows.Perm d.graph.arrows := sorted ▸ List.mergeSort_perm _ _
  exact ⟨rfl, perm, perm.nodup_iff.2 sound.nodup_arrows, sorted, sound.ascending_arrows,
    sound.filter_arrows⟩

/-- Whatever is declared, going through the edges visits what was registered, stably sorted by the
order in which the states were configured. -/
theorem visits_build (declarations : List (Declaration π ν)) :
    (build declarations).Visits (empty.registered declarations) :=
  graph_build declarations ▸ (sound_build declarations).visits

/-- A state that is reopened after another one was configured has its new edge visited before the
edges of the other one. -/
example :
    let d : Definition Unit Unit := .build [
      .configure ⟨"idle"⟩ .plain [.permit ⟨"go"⟩ ⟨"busy"⟩ none],
      .configure ⟨"busy"⟩ .plain [.permit ⟨"stop"⟩ ⟨"idle"⟩ none],
      .reopen ⟨"idle"⟩ [.permit ⟨"quit"⟩ ⟨"done"⟩ none]]
    d.graph.arrows.map Arrow.trigger = [⟨"go"⟩, ⟨"stop"⟩, ⟨"quit"⟩] ∧
      d.arrows.map Arrow.trigger = [⟨"go"⟩, ⟨"quit"⟩, ⟨"stop"⟩] := by
  decide +kernel

end Definition

end StateMachine
