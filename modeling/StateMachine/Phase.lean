/-!
# Phases and filters

A transition passes three phases, and a filter chooses among them. A filter is a byte: one bit
for each phase (1, 2 and 4), and five more that choose nothing but are kept.

* `Phase`, `Phase.name`.
* `Filter`, its constants, and union `f ||| g`.
* `Filter.allows`: whether a filter chooses a phase; a union chooses what one of its parts chooses.
-/

namespace StateMachine

/-- The three moments of a transition that side effects are told of. -/
inductive Phase
  | beforeTransition
  | betweenStates
  | afterTransition
deriving DecidableEq

/-- The name of a phase. -/
def Phase.name : Phase → String
  | .beforeTransition => "BeforeTransition"
  | .betweenStates => "BetweenStates"
  | .afterTransition => "AfterTransition"

/-- A choice of phases. -/
structure Filter where
  bits : UInt8
deriving DecidableEq

namespace Filter

/-- Chooses no phase. -/
def none : Filter := ⟨0⟩

/-- Chooses `Phase.beforeTransition`. -/
def beforeTransition : Filter := ⟨1⟩

/-- Chooses `Phase.betweenStates`. -/
def betweenStates : Filter := ⟨2⟩

/-- Chooses `Phase.afterTransition`. -/
def afterTransition : Filter := ⟨4⟩

/-- The filter that chooses what either filter chooses. -/
def union (f g : Filter) : Filter := ⟨f.bits ||| g.bits⟩

instance : OrOp Filter := ⟨union⟩

/-- Chooses every phase. -/
def all : Filter := beforeTransition ||| betweenStates ||| afterTransition

/-- The union of a list of filters. -/
def unions (filters : List Filter) : Filter := filters.foldl (· ||| ·) none

/-- The filter that chooses one phase. -/
def ofPhase : Phase → Filter
  | .beforeTransition => beforeTransition
  | .betweenStates => betweenStates
  | .afterTransition => afterTransition

/-- Whether a filter chooses a phase. -/
def allows (f : Filter) (phase : Phase) : Bool := f.bits &&& (ofPhase phase).bits != 0

/-- The filter with the given constant's name. -/
def named? : String → Option Filter
  | "NONE" => some none
  | "BEFORE_TRANSITION" => some beforeTransition
  | "BETWEEN_STATES" => some betweenStates
  | "AFTER_TRANSITION" => some afterTransition
  | "ALL" => some all
  | _ => .none

@[simp] theorem bits_union (f g : Filter) : (f ||| g).bits = f.bits ||| g.bits := rfl

theorem allows_none (phase : Phase) : none.allows phase = false := by
  cases phase <;> decide

theorem allows_all (phase : Phase) : all.allows phase = true := by
  cases phase <;> decide

theorem allows_ofPhase (p q : Phase) : (ofPhase p).allows q = decide (p = q) := by
  cases p <;> cases q <;> decide

theorem or_and_distrib (a b c : UInt8) : (a ||| b) &&& c = a &&& c ||| b &&& c := by
  apply UInt8.toBitVec_inj.1
  simp only [UInt8.toBitVec_and, UInt8.toBitVec_or]
  ext i hi
  simp [Bool.and_or_distrib_right]

/-- A union chooses what either filter chooses, whatever bits are set besides. -/
theorem allows_union (f g : Filter) (phase : Phase) :
    (f ||| g).allows phase = (f.allows phase || g.allows phase) := by
  rw [Bool.eq_iff_iff, Bool.or_eq_true]
  simp only [allows, bits_union, or_and_distrib, bne_iff_ne, ne_eq, UInt8.or_eq_zero_iff]
  exact Decidable.not_and_iff_or_not

theorem allows_foldl (filters : List Filter) (f : Filter) (phase : Phase) :
    (filters.foldl (· ||| ·) f).allows phase =
      (f.allows phase || filters.any fun g => g.allows phase) := by
  induction filters generalizing f with
  | nil => simp
  | cons g rest ih => rw [List.foldl_cons, ih, allows_union, List.any_cons, Bool.or_assoc]

theorem allows_unions (filters : List Filter) (phase : Phase) :
    (unions filters).allows phase = filters.any fun f => f.allows phase := by
  rw [unions, allows_foldl, allows_none, Bool.false_or]

end Filter

end StateMachine
