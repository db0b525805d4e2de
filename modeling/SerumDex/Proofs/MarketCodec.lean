import SerumDex.Bytes.Fields
import SerumDex.Proofs.Desk

namespace SerumDex

/-- Where the fields of a market lie in its account, and the bytes that stand for them there. -/
def MarketRecord.fields (r : MarketRecord) : List (Nat × Bytes) :=
  [(13, r.ownAddress.bytes), (45, leBytes 8 r.vaultSignerNonce.toNat), (53, r.baseMint.bytes),
    (85, r.quoteMint.bytes), (117, r.baseVault.bytes), (149, leBytes 8 r.baseDepositsTotal.toNat),
    (157, leBytes 8 r.baseFeesAccrued.toNat), (165, r.quoteVault.bytes),
    (197, leBytes 8 r.quoteDepositsTotal.toNat), (205, leBytes 8 r.quoteFeesAccrued.toNat),
    (213, leBytes 8 r.quoteDustThreshold.toNat), (221, r.requestQueue.bytes),
    (253, r.eventQueue.bytes), (285, r.bids.bytes), (317, r.asks.bytes),
    (349, leBytes 8 r.baseLotSize.toNat), (357, leBytes 8 r.quoteLotSize.toNat),
    (365, leBytes 8 r.feeRateBps.toNat), (373, leBytes 8 r.referrerRebatesAccrued.toNat)]

/-- The content of a market account. The seven low bits of the flags word are `initialized` and
`market`, and anything may follow the fields. -/
structure MarketAccount where
  flagsWord : UInt64
  record : MarketRecord
  tail : Bytes
  flags_low : flagsWord.toNat % 128 = 3

/-- The account with every field written at its offset behind the tag. -/
def MarketAccount.bytes (a : MarketAccount) : Bytes :=
  putFields (accountTag ++ List.replicate 376 0)
    ((5, leBytes 8 a.flagsWord.toNat) :: a.record.fields) ++ a.tail

namespace MarketRecord

variable (r : MarketRecord)

theorem sideBySide_fields : SideBySide 13 r.fields := by
  simp only [fields, SideBySide, Address.length_bytes, length_leBytes, and_self]

/-- The fields are written in the order of the layout. -/
theorem flatMap_fields : r.fields.flatMap Prod.snd = layout.write r := by
  simp only [fields, List.flatMap_cons, List.flatMap_nil, List.append_nil]
  rfl

theorem length_flatMap_fields : (r.fields.flatMap Prod.snd).length = 368 := by
  rw [flatMap_fields, layout.length_write, size_layout]

/-- Into any account the fields are written between its head and its tail. -/
theorem putFields_fields {buffer : Bytes} (h : 381 ≤ buffer.length) :
    putFields buffer r.fields = buffer.take 13 ++ layout.write r ++ buffer.drop 381 := by
  have hfront : (buffer.take 13).length = 13 := by
    rw [List.length_take]
    omega
  have hgap : ((buffer.drop 13).take 368).length = (r.fields.flatMap Prod.snd).length := by
    rw [length_flatMap_fields, List.length_take, List.length_drop]
    omega
  have hsplit : buffer = buffer.take 13 ++ (buffer.drop 13).take 368 ++ buffer.drop 381 := by
    have hdrop : buffer.drop 381 = (buffer.drop 13).drop 368 := by rw [List.drop_drop]
    rw [List.append_assoc, hdrop, List.take_append_drop, List.take_append_drop]
  have hfields : SideBySide (buffer.take 13).length r.fields := by
    rw [hfront]
    exact r.sideBySide_fields
  have hput := putFields_append r.fields _ _ (buffer.drop 381) hfields hgap
  rwa [← hsplit, flatMap_fields] at hput

end MarketRecord

theorem MarketAccount.bytes_eq (a : MarketAccount) :
    a.bytes = writtenHead a.flagsWord ++ MarketRecord.layout.write a.record ++ a.tail := by
  have hfields : SideBySide accountTag.length
      ((5, leBytes 8 a.flagsWord.toNat) :: a.record.fields) := by
    refine ⟨rfl, ?_⟩
    rw [length_leBytes]
    exact a.record.sideBySide_fields
  have hgap : (List.replicate 376 (0 : UInt8)).length =
      (((5, leBytes 8 a.flagsWord.toNat) :: a.record.fields).flatMap Prod.snd).length := by
    rw [List.flatMap_cons, List.length_append, a.record.length_flatMap_fields, length_leBytes,
      List.length_replicate]
  have hput := putFields_append _ accountTag (List.replicate 376 0) [] hfields hgap
  rw [List.append_nil, List.append_nil, List.flatMap_cons, a.record.flatMap_fields,
    ← List.append_assoc] at hput
  rw [bytes, hput]
  rfl

/-- The flags of a market account, whatever the bits above the low seven. -/
def marketFlags : AccountFlags := ⟨true, true, false, false, false, false, false⟩

theorem ofBits_of_market {word : UInt64} (h : word.toNat % 128 = 3) :
    AccountFlags.ofBits word = marketFlags := by
  rw [← ofBits_low, h]
  decide

/-- The fields of a market that was decoded are the bytes between the head and the tail. -/
theorem write_record_of_decodeMarket {data : Bytes} {m : Market} (h : decodeMarket data = .ok m) :
    MarketRecord.layout.write m.toMarketRecord = (data.drop 13).take 368 := by
  obtain ⟨flags, record, _, hrecord, rfl⟩ := decodeMarket_eq_ok_iff.mp h
  exact (MarketRecord.layout.write_of_readAt? hrecord).2

/-- An account that is written field by field at the documented offsets is decoded to just these
fields. The fields of a decoded market, written into any account, put the bytes 13 to 380 that they
were read from in their place and touch nothing else. So accounts that differ there are decoded to
different markets. -/
theorem decodeMarket_bytes :
    (∀ a : MarketAccount, decodeMarket a.bytes = .ok (a.record.toMarket marketFlags)) ∧
    (∀ data m, decodeMarket data = .ok m → ∀ buffer : Bytes, 381 ≤ buffer.length →
      putFields buffer m.fields = buffer.take 13 ++ (data.drop 13).take 368 ++ buffer.drop 381) ∧
    (∀ data data' m m', decodeMarket data = .ok m → decodeMarket data' = .ok m' →
      ∀ i, 13 ≤ i → i < 381 → data[i]? ≠ data'[i]? → m.toMarketRecord ≠ m'.toMarketRecord) := by
  refine ⟨?_, ?_, ?_⟩
  · intro a
    rw [a.bytes_eq, decodeMarket_written a.flagsWord a.record a.tail a.flags_low,
      ofBits_of_market a.flags_low]
  · intro data m h buffer hbuffer
    rw [m.toMarketRecord.putFields_fields hbuffer, write_record_of_decodeMarket h]
  · -- Equal records are written alike, so the accounts agree in every byte of the fields.
    intro data data' m m' h h' i hi hi' hne hrecord
    have hslice : (data.drop 13).take 368 = (data'.drop 13).take 368 := by
      rw [← write_record_of_decodeMarket h, ← write_record_of_decodeMarket h', hrecord]
    have hbyte (bs : Bytes) : ((bs.drop 13).take 368)[i - 13]? = bs[i]? := by
      rw [List.getElem?_take_of_lt (by omega), List.getElem?_drop, Nat.add_sub_cancel' hi]
    apply hne
    rw [← hbyte data, ← hbyte data', hslice]

section Padded

/-- The sample market with the tail that live accounts have, and bits above the low seven. -/
def paddedAccount (r : MarketRecord) : MarketAccount where
  flagsWord := 0xff00000000000083
  record := r
  tail := [112, 97, 100, 100, 105, 110, 103]
  flags_low := by decide

def swappedVaults : MarketRecord :=
  { sampleRecord with baseVault := sampleRecord.quoteVault, quoteVault := sampleRecord.baseVault }

theorem decodeMarket_bytes_of_padded :
    ∃ m m', decodeMarket (paddedAccount sampleRecord).bytes = .ok m ∧
      decodeMarket (paddedAccount swappedVaults).bytes = .ok m' ∧
      m.baseVault = sampleAddress 4 ∧ m.quoteVault = sampleAddress 5 ∧
      putFields (List.replicate 388 1) m.fields = List.replicate 13 1 ++
        ((paddedAccount sampleRecord).bytes.drop 13).take 368 ++ List.replicate 7 1 ∧
      m.toMarketRecord ≠ m'.toMarketRecord := by
  obtain ⟨hwritten, hback, hdiffer⟩ := decodeMarket_bytes
  have hm := hwritten (paddedAccount sampleRecord)
  have hm' := hwritten (paddedAccount swappedVaults)
  -- The first byte of the base vault.
  have hvault :
      (paddedAccount sampleRecord).bytes[117]? ≠ (paddedAccount swappedVaults).bytes[117]? := by
    decide +kernel
  have hbuffer : 381 ≤ (List.replicate 388 (1 : UInt8)).length := by
    rw [List.length_replicate]
    decide
  have hput := hback _ _ hm _ hbuffer
  rw [List.take_replicate, List.drop_replicate] at hput
  exact ⟨_, _, hm, hm', rfl, rfl, hput,
    hdiffer _ _ _ _ hm hm' 117 (by decide) (by decide) hvault⟩

end Padded

end SerumDex
