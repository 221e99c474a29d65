import StateMachine.Soundness

/-!
# Edges and arrows

Every edge of a definition was permitted, so the graph shows it.

* `Definition.Recorded`: all edges are arrows of the graph.
* `Definition.recorded_build`: whatever is declared, all edges are recorded.
-/

namespace StateMachine

variable {π ν : Type}

namespace Definition

variable {d : Definition π ν}

/-- Whether the graph shows every edge as an arrow. -/
def Recorded (d : Definition π ν) : Prop := ∀ node ∈ d.nodes, ∀ a ∈ node.arrows, a ∈ d.graph.arrows

theorem Sound.recorded (sound : d.Sound) : d.Recorded := fun node hn _ ha =>
  (List.mem_filter.1 (sound.arrows node hn ▸ ha)).1

/-- All edges of a definition are recorded, whatever was declared. -/
theorem recorded_build (declarations : List (Declaration π ν)) :
    (build declarations).Recorded :=
  (sound_build declarations).recorded

end Definition

end StateMachine
