import Mathlib.Data.List.Chain
import Mathlib.Data.List.Range
import SerumDex.Proofs.CheckedQueue

namespace SerumDex

/-- The places of the live slots of a ring, from the oldest to the newest. -/
def liveSlots (head count capacity : Nat) : List Nat :=
  (List.range count).map fun k => (head + k) % capacity

theorem map_slotIndex?_range (head count capacity : Nat) :
    (List.range capacity).map (slotIndex? head count capacity) =
      (visitOrder head count capacity).map some := by
  rw [visitOrder_eq_map, List.map_map]
  apply List.map_congr_left
  intro i hi
  exact slotIndex?_of_lt head count capacity i (List.mem_range.mp hi)

theorem length_visitOrder (head count capacity : Nat) :
    (visitOrder head count capacity).length = capacity := by
  rw [visitOrder_eq_map, List.length_map, List.length_range]

theorem visitOrder_nodup (head count capacity : Nat) : (visitOrder head count capacity).Nodup :=
  (visitOrder_perm head count capacity).nodup_iff.mpr List.nodup_range

theorem ringPlace_succ {head count capacity i : Nat} (hi : i + 1 < capacity) :
    (ringPlace head count capacity (i + 1) : Int) =
      ((ringPlace head count capacity i : Int) - 1) % capacity := by
  have hback : ((head + count + capacity - 1 - (i + 1) : Nat) : Int) =
      ((head + count + capacity - 1 - i : Nat) : Int) - 1 := by
    omega
  unfold ringPlace
  rw [Int.natCast_emod, Int.natCast_emod, Int.emod_sub_emod, hback]

theorem visitOrder_isChain (head count capacity : Nat) :
    (visitOrder head count capacity).IsChain fun k next : Nat =>
      (next : Int) = ((k : Int) - 1) % capacity := by
  rw [visitOrder_eq_map, List.isChain_map, List.isChain_range]
  intro i hi
  exact ringPlace_succ (by omega)

theorem ringPlace_of_live {head count capacity i : Nat} (hi : i < count) :
    ringPlace head count capacity i = (head + (count - 1 - i)) % capacity := by
  have hback : head + count + capacity - 1 - i = head + (count - 1 - i) + capacity * 1 := by omega
  exact ringPlace_of_turns hback

section Live

variable {head count capacity : Nat} (hcount : count ≤ capacity)
include hcount

theorem take_visitOrder :
    (visitOrder head count capacity).take count = (liveSlots head count capacity).reverse := by
  apply List.ext_getElem
  · simp only [liveSlots, List.length_take, length_visitOrder, List.length_reverse,
      List.length_map, List.length_range]
    omega
  · intro i h _
    have hi : i < count := by
      rw [List.length_take] at h
      omega
    simp only [visitOrder_eq_map, liveSlots, List.getElem_take, List.getElem_map,
      List.getElem_range, List.getElem_reverse, List.length_map, List.length_range]
    exact ringPlace_of_live hi

theorem drop_visitOrder :
    ((visitOrder head count capacity).drop count).Perm
      ((List.range capacity).filter (· ∉ liveSlots head count capacity)) := by
  have hperm := visitOrder_perm head count capacity
  have hnodup := visitOrder_nodup head count capacity
  have hparts := List.take_append_drop count (visitOrder head count capacity)
  rw [take_visitOrder hcount] at hparts
  rw [← hparts] at hperm hnodup
  obtain ⟨_, hrest, hapart⟩ := List.nodup_append.mp hnodup
  -- Every place is in one of the two parts, and no place is in both.
  apply (List.perm_ext_iff_of_nodup hrest (List.nodup_range.filter _)).mpr
  intro k
  have hmem := hperm.mem_iff (a := k)
  rw [List.mem_append, List.mem_reverse] at hmem
  rw [List.mem_filter, decide_eq_true_iff, ← hmem]
  constructor
  · intro h
    exact ⟨Or.inr h, fun hlive => hapart k (List.mem_reverse.mpr hlive) k h rfl⟩
  · rintro ⟨hlive | h, hdead⟩
    · exact absurd hlive hdead
    · exact h

end Live

/-- The walk over a ring that is large enough for its count finds a place at every step, with sums
that are words. It meets every place once, each being the one before the place it comes from. First
come the live slots, the newest one first, and after them the places that are not live. -/
theorem visitOrder_live_first (head count : UInt32) (capacity : Nat)
    (hcount : count.toNat ≤ capacity)
    (hwords : head.toNat + count.toNat + capacity < UInt64.size) :
    let walk := visitOrder head.toNat count.toNat capacity
    let live := liveSlots head.toNat count.toNat capacity
    (∀ i < capacity, Checked.place head count capacity i =
      .ok (slotIndex? head.toNat count.toNat capacity i)) ∧
    (List.range capacity).map (slotIndex? head.toNat count.toNat capacity) = walk.map some ∧
    walk.Perm (List.range capacity) ∧
    (walk.IsChain fun k next : Nat => (next : Int) = ((k : Int) - 1) % capacity) ∧
    walk.take count.toNat = live.reverse ∧
    (walk.drop count.toNat).Perm ((List.range capacity).filter (· ∉ live)) := by
  refine ⟨?_, ?_, ?_, ?_, ?_, ?_⟩
  · intro i hi
    exact Checked.place_eq_slotIndex? hwords (by omega)
  · exact map_slotIndex?_range _ _ _
  · exact visitOrder_perm _ _ _
  · exact visitOrder_isChain _ _ _
  · exact take_visitOrder hcount
  · exact drop_visitOrder hcount

/-- The head has passed the end of the ring many times, and the live slots lie on both sides of the
end. -/
theorem visitOrder_live_first_of_wrapped :
    (2 : UInt32).toNat ≤ 4 ∧ (0xffffffff : UInt32).toNat + (2 : UInt32).toNat + 4 < UInt64.size ∧
    (visitOrder 4294967295 2 4).take 2 = [0, 3] ∧
    ((visitOrder 4294967295 2 4).drop 2).Perm [1, 2] := by
  have hcount : (2 : UInt32).toNat ≤ 4 := by decide
  have hwords : (0xffffffff : UInt32).toNat + (2 : UInt32).toNat + 4 < UInt64.size := by decide
  obtain ⟨_, _, _, _, hlive, hrest⟩ := visitOrder_live_first 0xffffffff 2 4 hcount hwords
  exact ⟨hcount, hwords, hlive, hrest⟩

end SerumDex
