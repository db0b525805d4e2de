import SerumDex.Proofs.CheckedQueue

/-! The bounds of the walk over a ring. A step past the last slot is meant to find no place, but it is
not compared with the capacity: the walk goes on around the ring until the head, the count and the
capacity are used up. What it finds there are the places of the ring once more. -/
namespace SerumDex

section Steps

variable {head count capacity i : Nat}

theorem slotIndex?_eq_none_iff :
    slotIndex? head count capacity i = none ↔ capacity = 0 ∨ head + count + capacity ≤ i := by
  rw [Option.eq_none_iff_forall_ne_some]
  constructor
  · intro hnone
    by_contra hsteps
    exact hnone _ (slotIndex?_eq_some_iff.mpr ⟨by omega, by omega, rfl⟩)
  · intro hsteps k hk
    obtain ⟨hcapacity, hi, _⟩ := slotIndex?_eq_some_iff.mp hk
    omega

theorem slotIndex?_lt {k : Nat} (hk : slotIndex? head count capacity i = some k) :
    k < capacity := by
  obtain ⟨hcapacity, _, hplace⟩ := slotIndex?_eq_some_iff.mp hk
  rw [← hplace]
  exact Nat.mod_lt _ hcapacity

theorem ringPlace_mod (hi : i < head + count + capacity) :
    ringPlace head count capacity (i % capacity) = ringPlace head count capacity i := by
  let turns := i / capacity
  have hsplit : capacity * turns + i % capacity = i := Nat.div_add_mod _ _
  have hback : head + count + capacity - 1 - i % capacity =
      head + count + capacity - 1 - i + capacity * turns := by
    omega
  exact ringPlace_of_turns hback

theorem slotIndex?_mod {k : Nat} (hk : slotIndex? head count capacity i = some k) :
    slotIndex? head count capacity (i % capacity) = some k := by
  obtain ⟨hcapacity, hi, hplace⟩ := slotIndex?_eq_some_iff.mp hk
  rw [slotIndex?_of_lt _ _ _ _ (Nat.mod_lt i hcapacity), ringPlace_mod hi, hplace]

end Steps

/-- Steps of a ring whose sums are words. The lookup ends without overflow. It finds nothing exactly
in a ring without slots, or once the steps have used up the head, the count and the capacity. What
it finds lies in the ring, and is what the step found a number of turns before. So the steps past
the last slot all find nothing, as they should, only if the ring has no slots or its head and count
are zero. -/
theorem slotIndex?_bounds {head count : UInt32} {capacity : Nat}
    (hwords : head.toNat + count.toNat + capacity < UInt64.size) :
    let found := slotIndex? head.toNat count.toNat capacity
    (∀ i, 1 + i < UInt64.size →
      Checked.place head count capacity i = .ok (found i) ∧
      (found i = none ↔ capacity = 0 ∨ head.toNat + count.toNat + capacity ≤ i) ∧
      ∀ k, found i = some k → k < capacity ∧ found (i % capacity) = some k) ∧
    ((∀ i, 1 + i < UInt64.size → (found i = none ↔ capacity = 0 ∨ capacity ≤ i)) ↔
      capacity = 0 ∨ head.toNat + count.toNat = 0) := by
  intro found
  constructor
  · intro i hi
    refine ⟨Checked.place_eq_slotIndex? hwords hi, slotIndex?_eq_none_iff, ?_⟩
    intro k hk
    exact ⟨slotIndex?_lt hk, slotIndex?_mod hk⟩
  · constructor
    · intro hlaw
      by_contra hring
      -- The first step past the last slot finds the newest entry again.
      have hpast : found capacity = none := (hlaw capacity (by omega)).mpr (Or.inr le_rfl)
      have hused := slotIndex?_eq_none_iff.mp hpast
      omega
    · intro hring i _
      rw [slotIndex?_eq_none_iff]
      omega

/-- The head has passed the end of a ring of four slots many times, so there are many steps past the
last slot that find a place. -/
theorem slotIndex?_bounds_of_turned_head :
    let found := slotIndex? 4294967295 2 4
    (0xffffffff : UInt32).toNat + (2 : UInt32).toNat + 4 < UInt64.size ∧
    found 4294967300 = found 0 ∧ found 4294967301 = none ∧
    ¬ ∀ i, 1 + i < UInt64.size → (found i = none ↔ 4 = 0 ∨ 4 ≤ i) := by
  intro found
  have hwords : (0xffffffff : UInt32).toNat + (2 : UInt32).toNat + 4 < UInt64.size := by decide
  obtain ⟨hsteps, hlaw⟩ := slotIndex?_bounds hwords
  obtain ⟨_, _, hplace⟩ := hsteps 4294967300 (by decide)
  obtain ⟨_, hnone, _⟩ := hsteps 4294967301 (by decide)
  refine ⟨hwords, ?_, hnone.mpr (by decide), ?_⟩
  · have hlast : found 4294967300 = some 0 := by decide
    exact hlast.trans (hplace 0 hlast).2.symm
  · intro h
    exact absurd (hlaw.mp h) (by decide)

/-- The first step past the last slot of a ring of four slots finds a place. -/
theorem slotIndex?_past_last_slot :
    (2 : UInt32).toNat + (2 : UInt32).toNat + 4 < UInt64.size ∧ 1 + 4 < UInt64.size ∧
    Checked.place 2 2 4 4 = .ok (some 3) ∧
    ¬ (slotIndex? (2 : UInt32).toNat (2 : UInt32).toNat 4 4 = none ↔ (4 : Nat) = 0 ∨ 4 ≤ 4) := by
  refine ⟨by decide, by decide, rfl, ?_⟩
  decide

end SerumDex
