import SerumDex.Proofs.Base58Text
import SerumDex.Proofs.QueueTrades

namespace SerumDex

/-- Addresses under their texts, each text once and in order. -/
structure ByText (l : List (String × Address)) : Prop where
  sorted : l.Pairwise fun p r => p.1 < r.1
  named : ∀ p ∈ l, p.1 = p.2.text

section Insertion

variable {l : List (String × Address)} (a : Address)

theorem mem_insertByText (hl : ∀ p ∈ l, p.1 = p.2.text) (p : String × Address) :
    p ∈ insertByText a.text a l ↔ p = (a.text, a) ∨ p ∈ l := by
  induction l with
  | nil => exact List.mem_cons
  | cons r rest ih =>
    obtain ⟨hr, hrest⟩ := List.forall_mem_cons.mp hl
    unfold insertByText
    split_ifs with hlt heq
    · exact List.mem_cons
    · -- The address with this text is the one that is there already.
      have hsame : r = (a.text, a) := by
        have hb : r.2 = a := Address.text_injective (hr.symm.trans heq.symm)
        rw [heq, ← hb]
      change p ∈ r :: rest ↔ p = (a.text, a) ∨ p ∈ r :: rest
      rw [← hsame, List.mem_cons]
      tauto
    · change p ∈ r :: insertByText a.text a rest ↔ p = (a.text, a) ∨ p ∈ r :: rest
      rw [List.mem_cons, List.mem_cons, ih hrest]
      tauto

theorem ByText.insert (h : ByText l) : ByText (insertByText a.text a l) := by
  have hnamed : ∀ p ∈ insertByText a.text a l, p.1 = p.2.text := by
    intro p hp
    rcases (mem_insertByText a h.named p).mp hp with rfl | hp
    · rfl
    · exact h.named p hp
  refine ⟨?_, hnamed⟩
  obtain ⟨hsorted, hl⟩ := h
  clear hnamed
  induction l with
  | nil => exact List.pairwise_singleton _ _
  | cons r rest ih =>
    obtain ⟨hfirst, hsorted⟩ := List.pairwise_cons.mp hsorted
    obtain ⟨hr, hrest⟩ := List.forall_mem_cons.mp hl
    unfold insertByText
    split_ifs with hlt heq
    · refine List.pairwise_cons.mpr ⟨?_, List.pairwise_cons.mpr ⟨hfirst, hsorted⟩⟩
      intro p hp
      rcases List.mem_cons.mp hp with rfl | hp
      · exact hlt
      · exact String.lt_trans hlt (hfirst p hp)
    · exact List.pairwise_cons.mpr ⟨hfirst, hsorted⟩
    · have hafter : r.1 < a.text := Std.lt_of_le_of_ne (String.not_lt.mp hlt) (Ne.symm heq)
      refine List.pairwise_cons.mpr ⟨?_, ih hsorted hrest⟩
      intro p hp
      rcases (mem_insertByText a hrest p).mp hp with rfl | hp
      · exact hafter
      · exact hfirst p hp

end Insertion

section Owners

/-- What is listed after some trades is sorted, and holds the owners of these trades. -/
theorem byText_foldr (events : List TradeEvent) :
    ByText (events.foldr (fun e l => insertByText e.openOrders.text e.openOrders l) []) ∧
      ∀ p, p ∈ events.foldr (fun e l => insertByText e.openOrders.text e.openOrders l) [] ↔
        ∃ e ∈ events, p = (e.openOrders.text, e.openOrders) := by
  induction events with
  | nil => exact ⟨⟨.nil, fun _ h => nomatch h⟩, fun p => by simp⟩
  | cons e events ih =>
    obtain ⟨hsorted, hmem⟩ := ih
    refine ⟨hsorted.insert e.openOrders, ?_⟩
    intro p
    rw [List.foldr_cons, mem_insertByText e.openOrders hsorted.named, hmem]
    simp only [List.mem_cons, exists_eq_or_imp]

variable (events : List TradeEvent)

theorem ownersOf_sorted : (ownersOf events).Pairwise fun a b => a.text < b.text := by
  obtain ⟨hlisted, _⟩ := byText_foldr events
  unfold ownersOf
  rw [List.pairwise_map]
  apply hlisted.sorted.imp_of_mem
  intro p r hp hr hlt
  rwa [← hlisted.named p hp, ← hlisted.named r hr]

theorem mem_ownersOf_iff (a : Address) : a ∈ ownersOf events ↔ ∃ e ∈ events, e.openOrders = a := by
  obtain ⟨_, hmem⟩ := byText_foldr events
  unfold ownersOf
  rw [List.mem_map]
  constructor
  · rintro ⟨p, hp, rfl⟩
    obtain ⟨e, he, rfl⟩ := (hmem p).mp hp
    exact ⟨e, he, rfl⟩
  · rintro ⟨e, he, rfl⟩
    exact ⟨_, (hmem _).mpr ⟨e, he, rfl⟩, rfl⟩

theorem ownersOf_nodup : (ownersOf events).Nodup := by
  apply (ownersOf_sorted events).imp
  intro a b hlt heq
  rw [heq] at hlt
  exact String.lt_irrefl _ hlt

variable {events} in
/-- The owners do not depend on the order of the trades. -/
theorem ownersOf_eq_of_perm {events' : List TradeEvent} (h : events.Perm events') :
    ownersOf events = ownersOf events' := by
  have hsame : (ownersOf events).Perm (ownersOf events') := by
    apply (List.perm_ext_iff_of_nodup (ownersOf_nodup _) (ownersOf_nodup _)).mpr
    intro a
    simp only [mem_ownersOf_iff, h.mem_iff]
  apply hsame.eq_of_pairwise _ (ownersOf_sorted events) (ownersOf_sorted events')
  intro a b _ _ hab hba
  exact absurd (String.lt_trans hab hba) (String.lt_irrefl _)

end Owners

/-- A list is put together again from the parts that some distinct keys cut out of it, if every
element has one of the keys. -/
theorem flatMap_filter_perm {α κ : Type} [DecidableEq κ] (key : α → κ) {keys : List κ}
    (hkeys : keys.Nodup) {xs : List α} (hxs : ∀ x ∈ xs, key x ∈ keys) :
    (keys.flatMap fun k => xs.filter fun x => key x = k).Perm xs := by
  induction keys generalizing xs with
  | nil =>
    have hnil : xs = [] := List.eq_nil_iff_forall_not_mem.mpr fun x hx => nomatch hxs x hx
    rw [hnil]
    exact List.Perm.refl _
  | cons k keys ih =>
    obtain ⟨hk, hkeys⟩ := List.nodup_cons.mp hkeys
    let others := xs.filter fun x => !decide (key x = k)
    have hothers : ∀ x ∈ others, key x ∈ keys := by
      intro x hx
      obtain ⟨hx, hne⟩ := List.mem_filter.mp hx
      have hne : key x ≠ k := by simpa using hne
      exact (List.mem_cons.mp (hxs x hx)).resolve_left hne
    -- The later keys cut the same parts out of what the first one leaves.
    have hlater : (keys.flatMap fun k' => xs.filter fun x => key x = k') =
        keys.flatMap fun k' => others.filter fun x => key x = k' := by
      apply List.flatMap_congr
      intro k' hk'
      have hne : k' ≠ k := fun h => hk (h ▸ hk')
      rw [List.filter_filter]
      apply List.filter_congr
      intro x _
      by_cases hx : key x = k'
      · simp [hx, hne]
      · simp [hx]
    rw [List.flatMap_cons, hlater]
    calc
      (xs.filter fun x => key x = k) ++ keys.flatMap (fun k' => others.filter fun x => key x = k')
          |>.Perm ((xs.filter fun x => key x = k) ++ others) := (ih hkeys hothers).append_left _
      _ |>.Perm xs := List.filter_append_perm _ xs

/-- How the listed owners divide the trades of a queue. -/
structure EventQueue.Divided (q : EventQueue) : Prop where
  increasing : q.owners.Pairwise fun a b => textBytes a.text < textBytes b.text
  distinct : q.owners.Nodup
  listed : ∀ a, a ∈ q.owners ↔ ∃ e ∈ q.events, e.openOrders = a
  owned : ∀ a e, e ∈ q.eventsForOwner a ↔ e ∈ q.events ∧ e.openOrders = a
  one : ∀ e ∈ q.events, ∃! a, a ∈ q.owners ∧ e ∈ q.eventsForOwner a
  nonempty : ∀ a ∈ q.owners, q.eventsForOwner a ≠ []
  inOrder : ∀ a, (q.eventsForOwner a).Sublist q.events
  /-- Together the parts are all trades, each as often as it occurs. -/
  union : (q.owners.flatMap q.eventsForOwner).Perm q.events
  unlisted : ∀ a, a ∉ q.owners → q.eventsForOwner a = []

theorem mem_eventsForOwner_iff (q : EventQueue) (a : Address) (e : TradeEvent) :
    e ∈ q.eventsForOwner a ↔ e ∈ q.events ∧ e.openOrders = a := by
  rw [EventQueue.eventsForOwner, List.mem_filter, decide_eq_true_iff]

/-- The owners of a decoded queue are listed in the order of their texts, and they divide the
trades: every trade belongs to one of them, and each has trades, in the order of the queue. -/
theorem divided_of_decodeEventQueue {data : Bytes} {scale : Scale} {q : EventQueue}
    (h : decodeEventQueue data scale = .ok q) : q.Divided := by
  have howners : q.owners = ownersOf q.events := (readFrom_of_decodeEventQueue h).owners
  have hlisted (a : Address) : a ∈ q.owners ↔ ∃ e ∈ q.events, e.openOrders = a := by
    rw [howners, mem_ownersOf_iff]
  have hdistinct : q.owners.Nodup := howners ▸ ownersOf_nodup q.events
  constructor
  · rw [howners]
    exact (ownersOf_sorted q.events).imp Address.textBytes_lt_of_text_lt
  · exact hdistinct
  · exact hlisted
  · exact mem_eventsForOwner_iff q
  · intro e he
    refine ⟨e.openOrders, ⟨(hlisted _).mpr ⟨e, he, rfl⟩, ?_⟩, ?_⟩
    · exact (mem_eventsForOwner_iff q _ e).mpr ⟨he, rfl⟩
    · rintro a ⟨_, hmem⟩
      exact ((mem_eventsForOwner_iff q a e).mp hmem).2.symm
  · intro a ha
    obtain ⟨e, he, howner⟩ := (hlisted a).mp ha
    exact List.ne_nil_of_mem ((mem_eventsForOwner_iff q a e).mpr ⟨he, howner⟩)
  · intro a
    exact List.filter_sublist
  · exact flatMap_filter_perm TradeEvent.openOrders hdistinct
      fun e he => (hlisted _).mpr ⟨e, he, rfl⟩
  · intro a ha
    apply List.eq_nil_iff_forall_not_mem.mpr
    intro e he
    exact ha ((hlisted a).mpr ⟨e, (mem_eventsForOwner_iff q a e).mp he⟩)

section Sample

/-- A slot with a paid fill of the owner whose bytes are all the same. -/
def ownedSlot (owner : UInt8) : Block 88 :=
  ⟨1 :: List.replicate 15 0 ++ 5 :: List.replicate 31 0 ++ List.replicate 32 owner ++
    List.replicate 8 0, rfl⟩

/-- Four fills of three owners, whose texts are in another order than their bytes. -/
def ownedQueue : QueueAccount :=
  { sampleQueue with
    slots := [ownedSlot 9, ownedSlot 1, ownedSlot 60, ownedSlot 1]
    count_le := by decide }

theorem divided_of_ownedQueue :
    ∃ q, decodeEventQueue ownedQueue.bytes ⟨6, 6, 10, 1⟩ = .ok q ∧ q.Divided ∧
      (slotOf (ownedSlot 60)).openOrders ∈ q.owners ∧
      q.eventsForOwner (slotOf (ownedSlot 2)).openOrders = [] := by
  obtain ⟨q, hdecode⟩ := ownedQueue.exists_decode ⟨6, 6, 10, 1⟩
  have hdivided := divided_of_decodeEventQueue hdecode
  have hread := readFrom_of_decodeEventQueue hdecode
  have howner (a : Address) : a ∈ q.owners ↔
      ∃ slot ∈ ownedQueue.slots.map slotOf, slot.isTrade = true ∧ slot.openOrders = a := by
    rw [hdivided.listed, ← ownedQueue.queueSlots_bytes]
    constructor
    · rintro ⟨e, he, rfl⟩
      obtain ⟨slot, hslot, his, rfl⟩ := (hread.mem_events_iff e).mp he
      exact ⟨slot, hslot, his, rfl⟩
    · rintro ⟨slot, hslot, his, rfl⟩
      exact ⟨_, (hread.mem_events_iff _).mpr ⟨slot, hslot, his, rfl⟩, rfl⟩
  refine ⟨q, hdecode, hdivided, ?_, hdivided.unlisted _ ?_⟩
  · rw [howner]
    decide +kernel
  · rw [howner]
    decide +kernel

end Sample

end SerumDex
