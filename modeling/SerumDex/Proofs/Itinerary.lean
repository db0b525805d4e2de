import SerumDex.Proofs.AnswerOrder

namespace SerumDex

variable {σ : Type} {source : Source σ}
  {answer answer' : Address → Except FetchError Bytes}

/-- From here on a source answers by address, and the answers are the given ones. -/
def Answers (source : Source σ) (s : σ) (answer : Address → Except FetchError Bytes) : Prop :=
  ∀ asked address, (source address (sourceAfter source asked s)).1 = answer address

theorem Steady.answers {s : σ} (h : Steady source s) :
    Answers source s fun address => (source address s).1 := h

namespace Answers

variable {s : σ}

theorem now (h : Answers source s answer) (address : Address) :
    (source address s).1 = answer address := h [] address

theorem next (h : Answers source s answer) (address : Address) :
    Answers source (source address s).2 answer := fun asked => h (address :: asked)

end Answers

theorem frame_answers (source : Source σ) (answer : Address → Except FetchError Bytes) :
    Frame source fun w w' => Answers source w.source answer → Answers source w'.source answer where
  refl _ h := h
  trans huv hvw h := hvw (huv h)
  emit _ _ h := h
  ask _ address _ _ h := h.next address
  lookup mint w h := by
    have hrun := lookupDecimals_run source mint w
    generalize (lookupDecimals source mint).run w = out at hrun
    cases hrun with
    | wrappedSol => exact h
    | cached => exact h
    | failed => exact h.next mint
    | learned => exact h.next mint

section Stops

/-- A mint whose decimals have to be fetched: it is not wrapped SOL, and none are known for it. -/
def DecimalsCache.Lacks (c : DecimalsCache) (mint : Address) : Prop :=
  mint ≠ Address.wrappedSol ∧ c.get? mint = none

instance (c : DecimalsCache) : DecidablePred c.Lacks :=
  fun mint => inferInstanceAs (Decidable (mint ≠ Address.wrappedSol ∧ c.get? mint = none))

/-- Whether the answer for a mint is the account of a mint. -/
def bringsMint (answer : Address → Except FetchError Bytes) (mint : Address) : Bool :=
  (Fetch.decimals? ⟨.decimals, mint, answer mint⟩).isSome

/-- What the requests of a snapshot fetch. A quote mint that is the base mint is fetched too, unless
the fetch for the base side has just brought it. -/
def MarketRecord.stops (m : MarketRecord) (o : SnapshotOptions) (cache : DecimalsCache)
    (answer : Address → Except FetchError Bytes) : List Address :=
  (if cache.Lacks m.baseMint then [m.baseMint] else []) ++
  (if cache.Lacks m.quoteMint ∧ ¬ (m.quoteMint = m.baseMint ∧ bringsMint answer m.baseMint = true)
    then [m.quoteMint] else []) ++
  o.parts.map fun p => p.address m

namespace SnapshotBuilder

/-- The market account that a call goes on with: the pinned bytes, or else what is answered. -/
def account (b : SnapshotBuilder) (answer : Address → Except FetchError Bytes) :
    Except FetchError Bytes :=
  match b.pinned with
  | some data => .ok data
  | none => answer b.address

/-- The market for which a call makes requests: the account was obtained and decodes, and some option
is set. -/
def requested? (b : SnapshotBuilder) (answer : Address → Except FetchError Bytes) : Option Market :=
  if b.options.needsDecimals then
    (valueOf? (b.account answer)).bind fun data => valueOf? (decodeMarket data)
  else none

/-- The addresses that one call fetches, in order. -/
def itinerary (b : SnapshotBuilder) (cache : DecimalsCache)
    (answer : Address → Except FetchError Bytes) : List Address :=
  (if b.pinned = none then [b.address] else []) ++
    (b.requested? answer).elim [] fun m => m.stops b.options cache answer

end SnapshotBuilder

end Stops

section Members

variable {m : MarketRecord} {o : SnapshotOptions} {cache : DecimalsCache} {b : SnapshotBuilder}

theorem base_mem_stops (h : cache.Lacks m.baseMint) : m.baseMint ∈ m.stops o cache answer := by
  rw [MarketRecord.stops, if_pos h]
  simp

theorem quote_mem_stops (h : cache.Lacks m.quoteMint)
    (hnew : ¬ (m.quoteMint = m.baseMint ∧ bringsMint answer m.baseMint = true)) :
    m.quoteMint ∈ m.stops o cache answer := by
  have hmem : m.quoteMint ∈ [m.quoteMint] := List.mem_singleton_self _
  rw [MarketRecord.stops, if_pos (And.intro h hnew)]
  exact List.mem_append_left _ (List.mem_append_right _ hmem)

theorem mem_parts_iff (p : LivePart) : p ∈ o.parts ↔ o.wants p = true := by
  unfold SnapshotOptions.parts SnapshotOptions.wants
  cases o.orderBooks <;> cases o.eventQueue <;> cases p <;> simp [LivePart.choose]

theorem part_mem_stops {p : LivePart} (h : o.wants p = true) :
    p.address m ∈ m.stops o cache answer :=
  List.mem_append_right _ (List.mem_map_of_mem ((mem_parts_iff p).mpr h))

theorem address_mem_itinerary (hp : b.pinned = none) : b.address ∈ b.itinerary cache answer := by
  rw [SnapshotBuilder.itinerary, if_pos hp]
  exact List.mem_append_left _ (List.mem_singleton_self _)

theorem mem_itinerary_of_stops {m : Market} (hm : b.requested? answer = some m) {a : Address}
    (ha : a ∈ m.stops b.options cache answer) : a ∈ b.itinerary cache answer := by
  rw [SnapshotBuilder.itinerary, hm]
  exact List.mem_append_right _ ha

end Members

section Comparison

variable {b : SnapshotBuilder} {cache : DecimalsCache}

theorem requested?_congr (hmarket : b.pinned = none → answer' b.address = answer b.address) :
    b.requested? answer' = b.requested? answer := by
  have haccount : b.account answer' = b.account answer := by
    unfold SnapshotBuilder.account
    cases hp : b.pinned with
    | some data => rfl
    | none => exact hmarket hp
  rw [SnapshotBuilder.requested?, haccount]
  rfl

/-- Where the mint of the base side does not come, there may be one stop more. -/
theorem stops_sublist (m : MarketRecord) (o : SnapshotOptions)
    (hbrings : bringsMint answer' m.baseMint = true → bringsMint answer m.baseMint = true) :
    (m.stops o cache answer).Sublist (m.stops o cache answer') := by
  refine ((List.Sublist.refl _).append ?_).append (List.Sublist.refl _)
  by_cases hstop : cache.Lacks m.quoteMint ∧
      ¬ (m.quoteMint = m.baseMint ∧ bringsMint answer m.baseMint = true)
  · have hstop' : cache.Lacks m.quoteMint ∧
        ¬ (m.quoteMint = m.baseMint ∧ bringsMint answer' m.baseMint = true) :=
      ⟨hstop.1, fun h => hstop.2 ⟨h.1, hbrings h.2⟩⟩
    rw [if_pos hstop, if_pos hstop']
  · rw [if_neg hstop]
    exact List.nil_sublist _

theorem stops_congr {m : MarketRecord} {o : SnapshotOptions}
    (hagree : ∀ a ∈ m.stops o cache answer, answer' a = answer a) :
    m.stops o cache answer' = m.stops o cache answer := by
  -- If the mints are one and it is unknown, the base mint is a stop.
  have hbrings : cache.Lacks m.quoteMint → m.quoteMint = m.baseMint →
      bringsMint answer' m.baseMint = bringsMint answer m.baseMint := by
    intro hlacks hsame
    rw [bringsMint, hagree _ (base_mem_stops (hsame ▸ hlacks))]
    rfl
  have hstop : (cache.Lacks m.quoteMint ∧
        ¬ (m.quoteMint = m.baseMint ∧ bringsMint answer' m.baseMint = true)) ↔
      (cache.Lacks m.quoteMint ∧
        ¬ (m.quoteMint = m.baseMint ∧ bringsMint answer m.baseMint = true)) := by
    refine and_congr_right fun hlacks => not_congr (and_congr_right fun hsame => ?_)
    rw [hbrings hlacks hsame]
  simp only [MarketRecord.stops, hstop]

theorem itinerary_sublist (hmarket : b.pinned = none → answer' b.address = answer b.address)
    (hfails : ∀ a, answer' a = answer a ∨ bringsMint answer' a = false) :
    (b.itinerary cache answer).Sublist (b.itinerary cache answer') := by
  unfold SnapshotBuilder.itinerary
  rw [requested?_congr hmarket]
  refine (List.Sublist.refl _).append ?_
  cases b.requested? answer with
  | none => exact List.Sublist.refl _
  | some m =>
    apply stops_sublist
    intro hbrings
    rcases hfails m.baseMint with hsame | hfailed
    · rwa [bringsMint, hsame] at hbrings
    · exact nomatch hfailed.symm.trans hbrings

theorem itinerary_congr (hagree : ∀ a ∈ b.itinerary cache answer, answer' a = answer a) :
    b.itinerary cache answer' = b.itinerary cache answer := by
  have hrequested := requested?_congr fun hp => hagree _ (address_mem_itinerary hp)
  unfold SnapshotBuilder.itinerary
  rw [hrequested]
  congr 1
  cases hm : b.requested? answer with
  | none => rfl
  | some m => exact stops_congr fun a ha => hagree a (mem_itinerary_of_stops hm ha)

end Comparison

end SerumDex
