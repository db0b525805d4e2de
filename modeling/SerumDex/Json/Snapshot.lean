import SerumDex.Decimal.Notation
import SerumDex.Json.Printer
import SerumDex.Json.Record
import SerumDex.Market

namespace SerumDex

/-- Addresses are arrays of their 32 bytes. -/
def Address.toJson (a : Address) : Json := .array (a.bytes.map fun b => .nat b.toNat)

/-- Single-precision numbers have their shortest decimals; an infinity or a NaN is null. -/
def Json.single (x : Float32) : Json :=
  match Decimal.singleText? x with
  | some literal => .number literal
  | none => .null

/-- An absent part is null. -/
def Json.ofOption {α : Type} (f : α → Json) : Option α → Json
  | some a => f a
  | none => .null

namespace Scale

def fieldNames : List String := ["base_decimals", "quote_decimals", "base_lot_size", "quote_lot_size"]

def toJson (s : Scale) : Json :=
  .object (fieldNames.zip [.nat s.baseDecimals.toNat, .nat s.quoteDecimals.toNat,
    .nat s.baseLotSize.toNat, .nat s.quoteLotSize.toNat])

def ofJson? (v : Json) : Option Scale := do
  match ← v.fields? fieldNames with
  | [baseDecimals, quoteDecimals, baseLotSize, quoteLotSize] =>
    return {
      baseDecimals := ← baseDecimals.word8?
      quoteDecimals := ← quoteDecimals.word8?
      baseLotSize := ← baseLotSize.word64?
      quoteLotSize := ← quoteLotSize.word64? }
  | _ => none

def text (s : Scale) : String := s.toJson.compact

def ofText? (s : String) : Option Scale := Json.parse? s >>= ofJson?

end Scale

namespace AccountFlags

def fieldNames : List String :=
  ["initialized", "market", "open_orders", "request_queue", "event_queue", "bids", "asks"]

def toJson (f : AccountFlags) : Json := .object (f.named.map fun p => (p.1, .bool p.2))

def ofJson? (v : Json) : Option AccountFlags := do
  match ← (← v.fields? fieldNames).mapM Json.asBool? with
  | [initialized, market, openOrders, requestQueue, eventQueue, bids, asks] =>
    return ⟨initialized, market, openOrders, requestQueue, eventQueue, bids, asks⟩
  | _ => none

def ofText? (s : String) : Option AccountFlags := Json.parse? s >>= ofJson?

end AccountFlags

def EventFlags.toJson (f : EventFlags) : Json :=
  .object [("fill", .bool f.fill), ("out", .bool f.out), ("bid", .bool f.bid),
    ("maker", .bool f.maker)]

def TradeEvent.toJson (e : TradeEvent) : Json :=
  .object [
    ("event_flags", e.flags.toJson),
    ("open_orders_slot", .nat e.openOrdersSlot.toNat),
    ("fee_tier", .nat e.feeTier.toNat),
    ("native_quantity_released", .nat e.released.toNat),
    ("native_quantity_paid", .nat e.paid.toNat),
    ("native_fee_or_rebate", .nat e.feeOrRebate.toNat),
    ("order_id", .nat e.orderId.toNat),
    ("open_orders", e.openOrders.toJson),
    ("client_order_id", .nat e.clientOrderId.toNat),
    ("price", .single e.price),
    ("quantity", .single e.quantity)]

def QueueHeader.toJson (h : QueueHeader) : Json :=
  .object [
    ("account_flags", h.flags.toJson),
    ("head", .nat h.head.toNat),
    ("count", .nat h.count.toNat),
    ("seq_num", .nat h.seqNum.toNat)]

def EventQueue.toJson (q : EventQueue) : Json :=
  .object [
    ("header", q.header.toJson),
    ("capacity", .nat q.capacity),
    ("scale", q.scale.toJson),
    ("events", .array (q.events.map TradeEvent.toJson)),
    ("open_orders_accounts", .array (q.owners.map Address.toJson))]

/-- The bytes of the slab are left out. -/
def OrderBookSide.toJson (b : OrderBookSide) : Json :=
  .object [
    ("address", b.address.toJson),
    ("side", .text b.side.name),
    ("account_flags", b.flags.toJson),
    ("scale", b.scale.toJson)]

def Market.toJson (m : Market) : Json :=
  .object [
    ("account_flags", m.flags.toJson),
    ("own_address", m.ownAddress.toJson),
    ("vault_signer_nonce", .nat m.vaultSignerNonce.toNat),
    ("base_mint", m.baseMint.toJson),
    ("quote_mint", m.quoteMint.toJson),
    ("base_vault", m.baseVault.toJson),
    ("base_deposits_total", .nat m.baseDepositsTotal.toNat),
    ("base_fees_accrued", .nat m.baseFeesAccrued.toNat),
    ("quote_vault", m.quoteVault.toJson),
    ("quote_deposits_total", .nat m.quoteDepositsTotal.toNat),
    ("quote_fees_accrued", .nat m.quoteFeesAccrued.toNat),
    ("quote_dust_threshold", .nat m.quoteDustThreshold.toNat),
    ("request_queue", m.requestQueue.toJson),
    ("event_queue", m.eventQueue.toJson),
    ("bids", m.bids.toJson),
    ("asks", m.asks.toJson),
    ("base_lot_size", .nat m.baseLotSize.toNat),
    ("quote_lot_size", .nat m.quoteLotSize.toNat),
    ("fee_rate_bps", .nat m.feeRateBps.toNat),
    ("referrer_rebates_accrued", .nat m.referrerRebatesAccrued.toNat),
    ("base_decimals", .nat m.baseDecimals.toNat),
    ("quote_decimals", .nat m.quoteDecimals.toNat),
    ("bid_order_book", .ofOption OrderBookSide.toJson m.bidBook),
    ("ask_order_book", .ofOption OrderBookSide.toJson m.askBook),
    ("decoded_event_queue", .ofOption EventQueue.toJson m.decodedQueue)]

end SerumDex
