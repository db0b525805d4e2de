import SerumDex.Market
import SerumDex.Proofs.FlagsWord

namespace SerumDex

/-- A market as its account has it, without decimals and without live parts. -/
def MarketRecord.toMarket (r : MarketRecord) (flags : AccountFlags) : Market where
  toMarketRecord := r
  flags := flags
  baseDecimals := 0
  quoteDecimals := 0
  bidBook := none
  askBook := none
  decodedQueue := none

/-- A market is decoded from the flags of its head and from the record behind. -/
theorem decodeMarket_eq_ok_iff {data : Bytes} {m : Market} :
    decodeMarket data = .ok m ↔ ∃ flags record, decodeHead .market data = .ok flags ∧
      MarketRecord.layout.readAt? accountHeadSize data = some record ∧
      record.toMarket flags = m := by
  constructor
  · intro h
    unfold decodeMarket at h
    cases hhead : decodeHead .market data with
    | error e =>
      rw [hhead] at h
      exact nomatch h
    | ok flags =>
      rw [hhead] at h
      cases hrecord : MarketRecord.layout.readAt? accountHeadSize data with
      | none =>
        rw [hrecord] at h
        exact nomatch h
      | some record =>
        rw [hrecord] at h
        exact ⟨flags, record, rfl, rfl, Except.ok.inj h⟩
  · rintro ⟨flags, record, hhead, hrecord, rfl⟩
    unfold decodeMarket
    rw [hhead, hrecord]
    rfl

theorem decodeMarket_written (word : UInt64) (r : MarketRecord) (rest : Bytes)
    (hword : word.toNat % 128 = AccountKind.market.lowBits) :
    decodeMarket (writtenHead word ++ MarketRecord.layout.write r ++ rest) =
      .ok (r.toMarket (AccountFlags.ofBits word)) := by
  have hhead : decodeHead .market (writtenHead word ++ MarketRecord.layout.write r ++ rest) =
      .ok (AccountFlags.ofBits word) := by
    rw [List.append_assoc]
    exact decodeHead_written .market word _ hword
  have hrecord : MarketRecord.layout.readAt? accountHeadSize
      (writtenHead word ++ MarketRecord.layout.write r ++ rest) = some r := by
    rw [← length_writtenHead word]
    exact MarketRecord.layout.readAt?_write (writtenHead word) rest r
  exact decodeMarket_eq_ok_iff.mpr ⟨_, r, hhead, hrecord, rfl⟩

end SerumDex
