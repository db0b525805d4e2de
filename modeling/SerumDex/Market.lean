import SerumDex.EventQueue
import SerumDex.OrderBook

namespace SerumDex

/-- The fields behind the head of a market account. -/
structure MarketRecord where
  ownAddress : Address
  vaultSignerNonce : UInt64
  baseMint : Address
  quoteMint : Address
  baseVault : Address
  baseDepositsTotal : UInt64
  baseFeesAccrued : UInt64
  quoteVault : Address
  quoteDepositsTotal : UInt64
  quoteFeesAccrued : UInt64
  quoteDustThreshold : UInt64
  requestQueue : Address
  eventQueue : Address
  bids : Address
  asks : Address
  baseLotSize : UInt64
  quoteLotSize : UInt64
  feeRateBps : UInt64
  referrerRebatesAccrued : UInt64
  deriving DecidableEq

/-- The 368 bytes of the record. -/
def MarketRecord.layout : Layout MarketRecord :=
  (Address.layout.seq <| Layout.word64.seq <| Address.layout.seq <| Address.layout.seq <|
    Address.layout.seq <| Layout.word64.seq <| Layout.word64.seq <| Address.layout.seq <|
    Layout.word64.seq <| Layout.word64.seq <| Layout.word64.seq <| Address.layout.seq <|
    Address.layout.seq <| Address.layout.seq <| Address.layout.seq <| Layout.word64.seq <|
    Layout.word64.seq <| Layout.word64.seq Layout.word64).via
    (fun (ownAddress, vaultSignerNonce, baseMint, quoteMint, baseVault, baseDepositsTotal,
        baseFeesAccrued, quoteVault, quoteDepositsTotal, quoteFeesAccrued, quoteDustThreshold,
        requestQueue, eventQueue, bids, asks, baseLotSize, quoteLotSize, feeRateBps,
        referrerRebatesAccrued) =>
      ⟨ownAddress, vaultSignerNonce, baseMint, quoteMint, baseVault, baseDepositsTotal,
        baseFeesAccrued, quoteVault, quoteDepositsTotal, quoteFeesAccrued, quoteDustThreshold,
        requestQueue, eventQueue, bids, asks, baseLotSize, quoteLotSize, feeRateBps,
        referrerRebatesAccrued⟩)
    (fun m => (m.ownAddress, m.vaultSignerNonce, m.baseMint, m.quoteMint, m.baseVault,
      m.baseDepositsTotal, m.baseFeesAccrued, m.quoteVault, m.quoteDepositsTotal,
      m.quoteFeesAccrued, m.quoteDustThreshold, m.requestQueue, m.eventQueue, m.bids, m.asks,
      m.baseLotSize, m.quoteLotSize, m.feeRateBps, m.referrerRebatesAccrued))
    (fun _ => rfl) (fun _ => rfl)

theorem MarketRecord.size_layout : MarketRecord.layout.size = 368 := rfl

/-- A market. Its decimals are zero until they are looked up, and its live parts are absent until
they are fetched. -/
structure Market extends MarketRecord where
  flags : AccountFlags
  baseDecimals : UInt8
  quoteDecimals : UInt8
  bidBook : Option OrderBookSide
  askBook : Option OrderBookSide
  decodedQueue : Option EventQueue

namespace Market

def scale (m : Market) : Scale where
  baseDecimals := m.baseDecimals
  quoteDecimals := m.quoteDecimals
  baseLotSize := m.baseLotSize
  quoteLotSize := m.quoteLotSize

/-- The fee of a taker as a fraction: 22 basis points are `0.0022`. -/
def feeRate (m : Market) : Float := m.feeRateBps.toFloat / 10000

/-- Takes over the parts of a market that move: its books and its queue. -/
def replaceLive (m fresh : Market) : Market :=
  { m with
    bidBook := fresh.bidBook
    askBook := fresh.askBook
    decodedQueue := fresh.decodedQueue }

end Market

/-- Where the last field of a market account ends. -/
def marketSize : Nat := accountHeadSize + MarketRecord.layout.size

def decodeMarket (data : Bytes) : Except DecodeError Market := do
  let flags ← decodeHead .market data
  match MarketRecord.layout.readAt? accountHeadSize data with
  | none => throw (.truncated "compte Market" marketSize data.length)
  | some record => return {
      toMarketRecord := record
      flags := flags
      baseDecimals := 0
      quoteDecimals := 0
      bidBook := none
      askBook := none
      decodedQueue := none }

end SerumDex
