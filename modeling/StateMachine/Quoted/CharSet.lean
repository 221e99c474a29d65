/-!
# Sets of characters

A set of characters is kept as closed ranges of code points, which ascend and do not touch each
other. Tables of a standard have this form.

* `CharSet`: the sets, with `CharSet.size`, the number of code points.
* `CharSet.contains`: membership. The search stops at the first range that lies behind the
  character, and `CharSet.contains_iff` says that nothing is missed.
-/

namespace StateMachine.Quoted

/-- Whether closed ranges ascend: none is empty, and between two of them there is a gap. -/
def ascends : List (Nat × Nat) → Bool
  | [] => true
  | [r] => r.1 ≤ r.2
  | r :: s :: rest => r.1 ≤ r.2 && r.2 + 1 < s.1 && ascends (s :: rest)

/-- Whether a number lies in one of some ascending ranges. -/
def covers : List (Nat × Nat) → Nat → Bool
  | [], _ => false
  | r :: rest, n => r.1 ≤ n && (n ≤ r.2 || covers rest n)

theorem ascends_tail {r : Nat × Nat} {rest : List (Nat × Nat)} (h : ascends (r :: rest) = true) :
    ascends rest = true := by
  cases rest with
  | nil => rfl
  | cons s rest =>
    simp only [ascends, Bool.and_eq_true] at h
    exact h.2

/-- A range lies before all that follow it. -/
theorem lt_of_ascends {r : Nat × Nat} {rest : List (Nat × Nat)} (h : ascends (r :: rest) = true)
    {t : Nat × Nat} (ht : t ∈ rest) : r.2 < t.1 := by
  induction rest generalizing r with
  | nil => cases ht
  | cons s rest ih =>
    have later := ascends_tail h
    simp only [ascends, Bool.and_eq_true, decide_eq_true_eq] at h
    rcases List.mem_cons.1 ht with rfl | ht
    · omega
    · have after := ih later ht
      have full : s.1 ≤ s.2 := by
        cases rest with
        | nil => simpa [ascends] using later
        | cons u rest =>
          simp only [ascends, Bool.and_eq_true, decide_eq_true_eq] at later
          exact later.1.1
      omega

theorem covers_iff {ranges : List (Nat × Nat)} (h : ascends ranges = true) {n : Nat} :
    covers ranges n = true ↔ ∃ r ∈ ranges, r.1 ≤ n ∧ n ≤ r.2 := by
  induction ranges with
  | nil => simp [covers]
  | cons r rest ih =>
    rw [covers, Bool.and_eq_true, Bool.or_eq_true, decide_eq_true_eq, decide_eq_true_eq,
      ih (ascends_tail h)]
    constructor
    · rintro ⟨first, last | ⟨t, ht, inside⟩⟩
      · exact ⟨r, List.mem_cons_self, first, last⟩
      · exact ⟨t, List.mem_cons_of_mem r ht, inside⟩
    · rintro ⟨t, ht, inside⟩
      rcases List.mem_cons.1 ht with rfl | ht
      · exact ⟨inside.1, Or.inl inside.2⟩
      · have before := lt_of_ascends h ht
        by_cases last : n ≤ r.2
        · omega
        · refine ⟨?_, Or.inr ⟨t, ht, inside⟩⟩
          cases rest with
          | nil => cases ht
          | cons s rest =>
            simp only [ascends, Bool.and_eq_true, decide_eq_true_eq] at h
            omega

/-- A set of characters, as ascending closed ranges of code points. -/
structure CharSet where
  ranges : List (Nat × Nat)
  ascending : ascends ranges = true

namespace CharSet

/-- Whether a character is in a set. -/
def contains (s : CharSet) (c : Char) : Bool := covers s.ranges c.toNat

/-- The number of code points of a set. -/
def size (s : CharSet) : Nat := s.ranges.foldl (fun n r => n + (r.2 + 1 - r.1)) 0

theorem contains_iff {s : CharSet} {c : Char} :
    s.contains c = true ↔ ∃ r ∈ s.ranges, r.1 ≤ c.toNat ∧ c.toNat ≤ r.2 :=
  covers_iff s.ascending

end CharSet

end StateMachine.Quoted
