import SerumDex.Proofs.MarketCodec
import SerumDex.Proofs.QueueAccount

namespace SerumDex

/-- The head of an account of a kind: the tag, and a flags word whose seven low bits are all clear
but bit 0, which says that the account is initialized, and the bit of the kind. -/
structure HeadOf (kind : AccountKind) (data : Bytes) : Prop where
  tag : data.take 5 = accountTag
  reaches : 13 ≤ data.length
  bits : ∀ i < 7, (leAt data 5 8).testBit i = true ↔ i = 0 ∨ i = kind.bit

/-- Byte strings that differ in the bits 7 to 63 of the flags word at most. -/
structure EqUpToHighFlags (data data' : Bytes) : Prop where
  length : data.length = data'.length
  tag : data.take 5 = data'.take 5
  bits : ∀ i < 7, (leAt data 5 8).testBit i = (leAt data' 5 8).testBit i
  rest : data.drop 13 = data'.drop 13

/-- An account is accepted as one of a kind if the decoder of that kind reads it, for some address
and some scale. Open-orders accounts and request queues have no decoder. -/
def AcceptedAs (data : Bytes) : AccountKind → Prop
  | .market => ∃ m, decodeMarket data = .ok m
  | .eventQueue => ∃ scale q, decodeEventQueue data scale = .ok q
  | .bids => ∃ address scale book, decodeOrderBookSide address .bid data scale = .ok book
  | .asks => ∃ address scale book, decodeOrderBookSide address .ask data scale = .ok book
  | .openOrders | .requestQueue => False

theorem lowBits_injective {kind kind' : AccountKind} (h : kind.lowBits = kind'.lowBits) :
    kind = kind' := by
  cases kind <;> cases kind' <;> first | rfl | exact absurd h (by decide)

theorem HeadOf.unique {kind kind' : AccountKind} {data : Bytes} (h : HeadOf kind data)
    (h' : HeadOf kind' data) : kind = kind' := by
  have hlow : leAt data 5 8 % 128 = kind.lowBits := (low_eq_lowBits_iff _ _).mpr h.bits
  have hlow' : leAt data 5 8 % 128 = kind'.lowBits := (low_eq_lowBits_iff _ _).mpr h'.bits
  exact lowBits_injective (hlow.symm.trans hlow')

section Heads

variable {data : Bytes}

theorem checkTag_eq_ok_iff : checkTag data = .ok () ↔ data.take 5 = accountTag := by
  unfold checkTag
  split
  · next hshort =>
    -- A string that is too short for the tag does not start with it.
    have hne : data.take 5 ≠ accountTag := by
      intro h
      have hlength : (data.take 5).length = accountTag.length := congrArg List.length h
      rw [List.length_take] at hlength
      omega
    exact iff_of_false nofun hne
  · split
    · next htag => exact iff_of_true rfl htag
    · next htag => exact iff_of_false nofun htag

theorem toNat_of_readAt?_word64 {offset : Nat} {word : UInt64}
    (h : Layout.word64.readAt? offset data = some word) : word.toNat = leAt data offset 8 := by
  have hwrite : leBytes 8 word.toNat = (data.drop offset).take 8 :=
    (Layout.word64.write_of_readAt? h).2
  rw [leAt, ← hwrite, leNat_leBytes 8 _ word.toNat_lt]

theorem eq_writtenHead {word : UInt64} (htag : data.take 5 = accountTag)
    (hword : Layout.word64.readAt? 5 data = some word) :
    data = writtenHead word ++ data.drop 13 := by
  have hwrite : leBytes 8 word.toNat = (data.drop 5).take 8 :=
    (Layout.word64.write_of_readAt? hword).2
  have hrest : data.drop 13 = (data.drop 5).drop 8 := by rw [List.drop_drop]
  rw [writtenHead, hwrite, hrest, List.append_assoc, List.take_append_drop, ← htag,
    List.take_append_drop]

theorem exists_decodeHead_iff {kind : AccountKind} :
    (∃ flags, decodeHead kind data = .ok flags) ↔ HeadOf kind data := by
  constructor
  · rintro ⟨flags, h⟩
    obtain ⟨read, hread, hkind⟩ := ok_of_bind h
    obtain ⟨_, htag, hread⟩ := ok_of_bind hread
    cases hword : Layout.word64.readAt? accountTag.length data with
    | none =>
      rw [hword] at hread
      exact nomatch hread
    | some word =>
      rw [hword] at hread
      rw [← Except.ok.inj hread, AccountFlags.expectKind, isKind_ofBits,
        toNat_of_readAt?_word64 hword] at hkind
      split at hkind
      · next hlow =>
        exact ⟨checkTag_eq_ok_iff.mp htag, (Layout.word64.write_of_readAt? hword).1,
          (low_eq_lowBits_iff _ _).mp (of_decide_eq_true hlow)⟩
      · exact nomatch hkind
  · intro h
    obtain ⟨word, hword⟩ := Layout.word64.exists_readAt? 5 h.reaches
    have hlow : word.toNat % 128 = kind.lowBits := by
      rw [toNat_of_readAt?_word64 hword]
      exact (low_eq_lowBits_iff _ _).mpr h.bits
    rw [eq_writtenHead h.tag hword]
    exact ⟨_, decodeHead_written kind word _ hlow⟩

end Heads

section Acceptance

variable {data : Bytes}

theorem exists_decodeMarket_iff :
    (∃ m, decodeMarket data = .ok m) ↔ HeadOf .market data ∧ 381 ≤ data.length := by
  constructor
  · rintro ⟨m, h⟩
    obtain ⟨flags, record, hhead, hrecord, _⟩ := decodeMarket_eq_ok_iff.mp h
    exact ⟨exists_decodeHead_iff.mp ⟨flags, hhead⟩,
      (MarketRecord.layout.write_of_readAt? hrecord).1⟩
  · rintro ⟨hmarket, hlength⟩
    obtain ⟨flags, hhead⟩ := exists_decodeHead_iff.mpr hmarket
    obtain ⟨record, hrecord⟩ := MarketRecord.layout.exists_readAt? accountHeadSize hlength
    exact ⟨_, decodeMarket_eq_ok_iff.mpr ⟨flags, record, hhead, hrecord, rfl⟩⟩

theorem exists_decodeOrderBookSide_iff {address : Address} {side : Side} {scale : Scale} :
    (∃ book, decodeOrderBookSide address side data scale = .ok book) ↔
      HeadOf side.accountKind data := by
  rw [← exists_decodeHead_iff]
  constructor
  · rintro ⟨book, h⟩
    obtain ⟨flags, hhead, _⟩ := ok_of_bind h
    exact ⟨flags, hhead⟩
  · rintro ⟨flags, hhead⟩
    rw [decodeOrderBookSide, hhead]
    exact ⟨_, rfl⟩

theorem AcceptedAs.headOf {kind : AccountKind} (h : AcceptedAs data kind) : HeadOf kind data := by
  cases kind with
  | market => exact (exists_decodeMarket_iff.mp h).1
  | openOrders => exact h.elim
  | requestQueue => exact h.elim
  | eventQueue =>
    obtain ⟨scale, q, h⟩ := h
    obtain ⟨flags, hhead, _⟩ := ok_of_bind h
    exact exists_decodeHead_iff.mp ⟨flags, hhead⟩
  | bids =>
    obtain ⟨address, scale, hbook⟩ := h
    exact exists_decodeOrderBookSide_iff.mp hbook
  | asks =>
    obtain ⟨address, scale, hbook⟩ := h
    exact exists_decodeOrderBookSide_iff.mp hbook

end Acceptance

namespace EqUpToHighFlags

variable {data data' : Bytes} (h : EqUpToHighFlags data data')
include h

theorem readAt?_eq {α : Type} (A : Layout α) :
    A.readAt? accountHeadSize data = A.readAt? accountHeadSize data' :=
  A.readAt?_congr h.length h.rest

theorem decodeAccountFlags_eq : decodeAccountFlags data = decodeAccountFlags data' := by
  have htag : checkTag data = checkTag data' := by
    have htake : data.take accountTag.length = data'.take accountTag.length := h.tag
    rw [checkTag, checkTag, h.length, htake]
  have hsize : accountTag.length + Layout.word64.size = 13 := rfl
  unfold decodeAccountFlags
  rw [htag]
  by_cases hreaches : 13 ≤ data.length
  · -- The two words may differ, but not in the bits that the flags are read from.
    obtain ⟨word, hword⟩ := Layout.word64.exists_readAt? 5 hreaches
    obtain ⟨word', hword'⟩ := Layout.word64.exists_readAt? 5 (h.length ▸ hreaches)
    have hlow : word.toNat % 128 = word'.toNat % 128 := by
      rw [low_eq_low_iff, toNat_of_readAt?_word64 hword, toNat_of_readAt?_word64 hword']
      exact h.bits
    have hflags : AccountFlags.ofBits word = AccountFlags.ofBits word' := by
      rw [← ofBits_low word, hlow, ofBits_low]
    have hread : Layout.word64.readAt? accountTag.length data = some word := hword
    have hread' : Layout.word64.readAt? accountTag.length data' = some word' := hword'
    rw [hread, hread']
    simp only [hflags]
  · -- Neither word is complete, and the error names the length, which is the same.
    have hnone : Layout.word64.readAt? accountTag.length data = none := by
      rw [Layout.readAt?_eq_none_iff]
      omega
    have hnone' : Layout.word64.readAt? accountTag.length data' = none := by
      rw [Layout.readAt?_eq_none_iff, ← h.length]
      omega
    rw [hnone, hnone', h.length]

theorem decodeHead_eq (kind : AccountKind) : decodeHead kind data = decodeHead kind data' := by
  rw [decodeHead, decodeHead, h.decodeAccountFlags_eq]

theorem decodeMarket_eq : decodeMarket data = decodeMarket data' := by
  rw [decodeMarket, decodeMarket, h.decodeHead_eq, h.readAt?_eq, h.length]

theorem decodeOrderBookSide_eq (address : Address) (side : Side) (scale : Scale) :
    decodeOrderBookSide address side data scale = decodeOrderBookSide address side data' scale := by
  have hslab : data.drop accountHeadSize = data'.drop accountHeadSize := h.rest
  rw [decodeOrderBookSide, decodeOrderBookSide, h.decodeHead_eq, hslab]

theorem queueSlots_eq : queueSlots data = queueSlots data' := by
  have hbody : data.drop queueHeaderSize = data'.drop queueHeaderSize := by
    have hsplit : queueHeaderSize = 13 + 24 := rfl
    rw [hsplit, ← List.drop_drop, ← List.drop_drop, h.rest]
  exact queueSlots_congr hbody

theorem decodeEventQueue_eq (scale : Scale) :
    decodeEventQueue data scale = decodeEventQueue data' scale := by
  have hcounters : readCounters data = readCounters data' := by
    rw [readCounters, readCounters, h.readAt?_eq, h.length]
  rw [decodeEventQueue, decodeEventQueue, h.decodeHead_eq, h.length, hcounters, h.queueSlots_eq]

end EqUpToHighFlags

/-- No byte string is accepted as two kinds of account. A market is accepted for its head and for
the room of its fields, and a side of an order book for its head alone, with the rest as its slab.
The bits of the flags word above the seven low ones change nothing, be it a value or an error. -/
theorem decoders_tell_kinds_apart :
    (∀ data kind kind', AcceptedAs data kind → AcceptedAs data kind' → kind = kind') ∧
    (∀ data, (∃ m, decodeMarket data = .ok m) ↔ HeadOf .market data ∧ 381 ≤ data.length) ∧
    (∀ data address side scale, (∃ book, decodeOrderBookSide address side data scale = .ok book) ↔
      HeadOf side.accountKind data) ∧
    (∀ data address side scale book, decodeOrderBookSide address side data scale = .ok book →
      data = data.take 13 ++ book.slab) ∧
    (∀ data data', EqUpToHighFlags data data' → decodeMarket data = decodeMarket data' ∧
      (∀ scale, decodeEventQueue data scale = decodeEventQueue data' scale) ∧
      ∀ address side scale, decodeOrderBookSide address side data scale =
        decodeOrderBookSide address side data' scale) := by
  refine ⟨?_, ?_, ?_, ?_, ?_⟩
  · intro data kind kind' h h'
    exact h.headOf.unique h'.headOf
  · intro data
    exact exists_decodeMarket_iff
  · intro data address side scale
    exact exists_decodeOrderBookSide_iff
  · intro data address side scale book h
    obtain ⟨flags, _, hbook⟩ := ok_of_bind h
    rw [← Except.ok.inj hbook]
    exact (List.take_append_drop 13 data).symm
  · intro data data' h
    exact ⟨h.decodeMarket_eq, h.decodeEventQueue_eq, h.decodeOrderBookSide_eq⟩

section Bids

/-- A side of bids with three bytes of slab. -/
def bidsAccount (word : UInt64) : Bytes := writtenHead word ++ [7, 8, 9]

theorem decoders_tell_kinds_apart_of_bids :
    ∃ book,
      decodeOrderBookSide (sampleAddress 1) .bid (bidsAccount 0xe000000000000021) ⟨6, 6, 1, 1⟩ =
        .ok book ∧
      decodeOrderBookSide (sampleAddress 1) .bid (bidsAccount 33) ⟨6, 6, 1, 1⟩ = .ok book ∧
      book.slab = [7, 8, 9] ∧ ¬ AcceptedAs (bidsAccount 33) .asks ∧
      ¬ ∃ m, decodeMarket ((paddedAccount sampleRecord).bytes.take 380) = .ok m := by
  obtain ⟨hone, hmarket, hside, hslab, hhigh⟩ := decoders_tell_kinds_apart
  have hhead : HeadOf .bids (bidsAccount 33) := ⟨by decide, by decide, by decide +kernel⟩
  have hequal : EqUpToHighFlags (bidsAccount 0xe000000000000021) (bidsAccount 33) :=
    ⟨by decide, by decide, by decide +kernel, by decide⟩
  obtain ⟨book, hbook⟩ := (hside _ (sampleAddress 1) .bid ⟨6, 6, 1, 1⟩).mpr hhead
  have hparts : bidsAccount 33 = (bidsAccount 33).take 13 ++ book.slab := hslab _ _ _ _ _ hbook
  have hmarked : decodeOrderBookSide (sampleAddress 1) .bid (bidsAccount 0xe000000000000021)
      ⟨6, 6, 1, 1⟩ = .ok book := by
    rw [(hhigh _ _ hequal).2.2, hbook]
  have hasks : ¬ AcceptedAs (bidsAccount 33) .asks := by
    intro h
    exact absurd (hone _ .bids .asks ⟨_, _, book, hbook⟩ h) (by decide)
  have hshort : ¬ ∃ m, decodeMarket ((paddedAccount sampleRecord).bytes.take 380) = .ok m := by
    intro h
    have hlength := ((hmarket _).mp h).2
    rw [List.length_take] at hlength
    omega
  exact ⟨book, hmarked, hbook, (List.append_cancel_left hparts).symm, hasks, hshort⟩

end Bids

end SerumDex
