import Mathlib.Data.List.Rotate
import SerumDex.EventQueue

namespace SerumDex

/-- The place of the ring that lies `i` steps back from its newest entry. -/
def ringPlace (head count capacity i : Nat) : Nat := (head + count + capacity - 1 - i) % capacity

theorem ringPlace_lt (head count capacity i : Nat) (hi : i < capacity) :
    ringPlace head count capacity i < capacity := by
  apply Nat.mod_lt
  omega

/-- Whole turns of the ring lead back to the same place. -/
theorem ringPlace_of_turns {head count capacity i k turns : Nat}
    (h : head + count + capacity - 1 - i = k + capacity * turns) :
    ringPlace head count capacity i = k % capacity := by
  unfold ringPlace
  rw [h, Nat.add_mul_mod_self_left]

/-- Going back from the newest entry of a ring is going forward in the reversed ring, from the
place that makes up for the turns of the head. -/
theorem ringPlace_eq_reverse (head count capacity i : Nat) (hi : i < capacity) :
    ringPlace head count capacity i =
      capacity - 1 - (i + (capacity - (head + count) % capacity)) % capacity := by
  let r := (head + count) % capacity
  let turns := (head + count) / capacity
  have hr : r < capacity := Nat.mod_lt _ (by omega)
  have hsplit : capacity * turns + r = head + count := Nat.div_add_mod _ _
  have hback : head + count + capacity - 1 - i =
      r + (capacity - 1 - i) + capacity * turns := by
    omega
  rw [ringPlace_of_turns hback]
  change _ = capacity - 1 - (i + (capacity - r)) % capacity
  -- The walk has passed the first slot of the ring as soon as it made `r` steps.
  by_cases hpassed : r ≤ i
  · have hforward : i + (capacity - r) = i - r + capacity := by omega
    rw [hforward, Nat.add_mod_right, Nat.mod_eq_of_lt (show i - r < capacity by omega),
      Nat.mod_eq_of_lt (show r + (capacity - 1 - i) < capacity by omega)]
    omega
  · have hbehind : r + (capacity - 1 - i) = r - 1 - i + capacity := by omega
    rw [hbehind, Nat.add_mod_right, Nat.mod_eq_of_lt (show r - 1 - i < capacity by omega),
      Nat.mod_eq_of_lt (show i + (capacity - r) < capacity by omega)]
    omega

/-- The lookup of a place does not ask whether the step is one of the ring: it finds a place as long
as the head, the count and the capacity together are more than the steps made. -/
theorem slotIndex?_eq_some_iff {head count capacity i k : Nat} :
    slotIndex? head count capacity i = some k ↔
      0 < capacity ∧ i < head + count + capacity ∧ ringPlace head count capacity i = k := by
  have hsub : head + count + capacity - (1 + i) = head + count + capacity - 1 - i := by omega
  unfold slotIndex? ringPlace
  rw [hsub]
  split
  · next hnone =>
    refine iff_of_false (Option.some_ne_none k).symm ?_
    rintro ⟨hcapacity, hi, _⟩
    omega
  · next hsome =>
    rw [Option.some_inj]
    constructor
    · intro hk
      exact ⟨by omega, by omega, hk⟩
    · rintro ⟨_, _, hk⟩
      exact hk

theorem slotIndex?_of_lt (head count capacity i : Nat) (hi : i < capacity) :
    slotIndex? head count capacity i = some (ringPlace head count capacity i) :=
  slotIndex?_eq_some_iff.mpr ⟨by omega, by omega, rfl⟩

theorem visitOrder_eq_map (head count capacity : Nat) :
    visitOrder head count capacity = (List.range capacity).map (ringPlace head count capacity) := by
  unfold visitOrder
  rw [← List.filterMap_eq_map]
  apply List.filterMap_congr
  intro i hi
  exact slotIndex?_of_lt head count capacity i (List.mem_range.mp hi)

section Walk

variable {α β : Type}

/-- The slots in the order of the walk. -/
def ringWalk (head count : Nat) (slots : List α) : List α :=
  List.ofFn fun i : Fin slots.length =>
    slots.get ⟨(head + count + slots.length - 1 - i) % slots.length, Nat.mod_lt _ i.pos⟩

theorem map_some_ringWalk (head count : Nat) (slots : List α) :
    (ringWalk head count slots).map some =
      (visitOrder head count slots.length).map fun i => slots[i]? := by
  rw [visitOrder_eq_map, List.map_map]
  apply List.ext_getElem
  · simp only [ringWalk, List.length_map, List.length_ofFn, List.length_range]
  · intro i h _
    have hi : i < slots.length := by
      simpa only [ringWalk, List.length_map, List.length_ofFn] using h
    have hp := ringPlace_lt head count slots.length i hi
    simp only [ringWalk, List.getElem_map, List.getElem_ofFn, List.getElem_range,
      Function.comp_apply, List.get_eq_getElem, List.getElem?_eq_getElem hp]
    rfl

theorem ringWalk_eq_rotate (head count : Nat) (slots : List α) :
    ringWalk head count slots =
      slots.reverse.rotate (slots.length - (head + count) % slots.length) := by
  apply List.ext_getElem
  · simp only [ringWalk, List.length_ofFn, List.length_rotate, List.length_reverse]
  · intro i h _
    have hi : i < slots.length := by simpa only [ringWalk, List.length_ofFn] using h
    have hplace := ringPlace_eq_reverse head count slots.length i hi
    simp only [ringWalk, List.getElem_ofFn, List.get_eq_getElem, List.getElem_rotate,
      List.getElem_reverse, List.length_reverse]
    exact getElem_congr_idx hplace

theorem ringWalk_isRotated (head count : Nat) (slots : List α) :
    (ringWalk head count slots).IsRotated slots.reverse := by
  rw [ringWalk_eq_rotate]
  exact List.IsRotated.forall _ _

/-- No slot is left out by the walk, and none is met twice. -/
theorem ringWalk_perm (head count : Nat) (slots : List α) :
    (ringWalk head count slots).Perm slots :=
  (ringWalk_isRotated head count slots).perm.trans (List.reverse_perm slots)

theorem ringWalk_map (f : α → β) (head count : Nat) (slots : List α) :
    ringWalk head count (slots.map f) = (ringWalk head count slots).map f := by
  apply List.ext_getElem
  · simp only [ringWalk, List.length_map, List.length_ofFn]
  · intro i _ _
    -- The lengths come last: they also bound the indices.
    simp only [ringWalk, List.getElem_ofFn, List.get_eq_getElem, List.getElem_map]
    simp only [List.length_map]

end Walk

/-- The walk meets every place of the ring once. -/
theorem visitOrder_perm (head count capacity : Nat) :
    (visitOrder head count capacity).Perm (List.range capacity) := by
  have hplaces : visitOrder head count capacity = ringWalk head count (List.range capacity) := by
    rw [visitOrder_eq_map]
    apply List.ext_getElem
    · simp only [ringWalk, List.length_map, List.length_ofFn, List.length_range]
    · intro i _ _
      simp only [ringWalk, List.getElem_map, List.getElem_ofFn, List.get_eq_getElem,
        List.getElem_range]
      simp only [List.length_range]
      rfl
  rw [hplaces]
  exact ringWalk_perm head count (List.range capacity)

/-- The trades of a ring are those of its slots in the order of the walk. -/
theorem tradesOf_eq_filterMap (slots : List EventSlot) (head count : Nat) (scale : Scale) :
    tradesOf slots head count scale =
      (ringWalk head count slots).filterMap fun s => s.trade? scale := by
  have hwalk : (ringWalk head count slots).filterMap (fun s => s.trade? scale) =
      ((ringWalk head count slots).map some).filterMap fun s => s.bind fun s => s.trade? scale := by
    rw [List.filterMap_map]
    rfl
  rw [hwalk, map_some_ringWalk, List.filterMap_map]
  unfold tradesOf
  simp only [List.size_toArray, List.getElem?_toArray]
  rfl

end SerumDex
