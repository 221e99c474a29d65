/-!
# Indexes

An index finds by name what stands in a list. It is kept beside the list, and holds nothing but the
positions of the names.

* `Index`: names with positions; `Index.find?`, `Index.contains`, `Index.insert`.
* `Index.Locates`: whether an index finds exactly the names of a list, each where it stands. Then
  no name stands there twice (`Locates.nodup`), and no position lies outside (`Locates.lt_length`).
* `Locates.insert`: a new name may be added at the end.
-/

namespace StateMachine

/-- Names with positions. -/
structure Index (κ : Type) where
  entries : List (κ × Nat)

namespace Index

variable {κ : Type}

/-- The index without names. -/
def empty : Index κ := ⟨[]⟩

/-- Gives a name a position, whatever position it had before. -/
def insert (index : Index κ) (name : κ) (position : Nat) : Index κ :=
  ⟨(name, position) :: index.entries⟩

variable [DecidableEq κ]

/-- The position of a name. -/
def find? (index : Index κ) (name : κ) : Option Nat := index.entries.lookup name

/-- Whether a name has a position. -/
def contains (index : Index κ) (name : κ) : Bool := (index.find? name).isSome

variable {index : Index κ} {names : List κ} {name : κ} {position : Nat}

@[simp] theorem find?_empty : (empty : Index κ).find? name = none := rfl

theorem find?_insert (other : κ) :
    (index.insert name position).find? other =
      if other = name then some position else index.find? other := by
  unfold find? insert
  split
  · next same => rw [same, List.lookup_cons_self]
  · next differ => rw [List.lookup_cons, beq_false_of_ne differ]

/-- Whether an index finds exactly the names of a list, each at the position where it stands. -/
def Locates (index : Index κ) (names : List κ) : Prop :=
  ∀ name position, index.find? name = some position ↔ names[position]? = some name

theorem locates_empty : (empty : Index κ).Locates [] := by simp [Locates]

namespace Locates

theorem contains_iff (h : index.Locates names) : index.contains name = true ↔ name ∈ names := by
  rw [contains, Option.isSome_iff_exists, List.mem_iff_getElem?]
  exact exists_congr fun position => h name position

theorem lt_length (h : index.Locates names) (found : index.find? name = some position) :
    position < names.length :=
  (List.getElem?_eq_some_iff.1 ((h name position).1 found)).1

/-- A name has one position. -/
theorem nodup (h : index.Locates names) : names.Nodup := by
  refine List.pairwise_iff_getElem.2 fun i j hi hj hij same => ?_
  have first := (h _ i).2 (List.getElem?_eq_getElem hi)
  have second := (h _ j).2 (List.getElem?_eq_getElem hj)
  rw [← same] at second
  exact Nat.ne_of_lt hij (Option.some.inj (first.symm.trans second))

/-- A new name is found where it is added, and no other name has moved. -/
theorem insert (h : index.Locates names) (new : index.contains name = false) :
    (index.insert name names.length).Locates (names ++ [name]) := by
  have absent : name ∉ names := fun mem => Bool.false_ne_true (new ▸ h.contains_iff.2 mem)
  intro other i
  rw [find?_insert, List.getElem?_append]
  split
  · next same =>
    subst same
    split
    · next inside =>
      refine ⟨fun e => ?_, fun stands => absurd (List.mem_of_getElem? stands) absent⟩
      exact absurd inside (by simp [Option.some.inj e])
    · next outside =>
      rw [List.getElem?_singleton, Option.some.injEq]
      constructor
      · rintro rfl
        simp
      · intro stands
        have : i - names.length = 0 := by simpa using stands
        omega
  · next differ =>
    rw [h other i]
    split
    · exact Iff.rfl
    · next outside =>
      refine ⟨fun stands => absurd (List.getElem?_eq_some_iff.1 stands).1 outside, fun stands => ?_⟩
      exact absurd (List.mem_singleton.1 (List.mem_of_getElem? stands)) differ

end Locates

end Index

end StateMachine
