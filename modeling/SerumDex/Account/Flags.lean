import SerumDex.Account.Error

namespace SerumDex

inductive AccountKind where
  | market
  | openOrders
  | requestQueue
  | eventQueue
  | bids
  | asks
  deriving DecidableEq

namespace AccountKind

def all : List AccountKind := [market, openOrders, requestQueue, eventQueue, bids, asks]

def name : AccountKind → String
  | market => "Market"
  | openOrders => "OpenOrders"
  | requestQueue => "RequestQueue"
  | eventQueue => "EventQueue"
  | bids => "Bids"
  | asks => "Asks"

end AccountKind

structure AccountFlags where
  initialized : Bool
  market : Bool
  openOrders : Bool
  requestQueue : Bool
  eventQueue : Bool
  bids : Bool
  asks : Bool
  deriving DecidableEq

namespace AccountFlags

def ofBits (bits : UInt64) : AccountFlags where
  initialized := bits.toNat.testBit 0
  market := bits.toNat.testBit 1
  openOrders := bits.toNat.testBit 2
  requestQueue := bits.toNat.testBit 3
  eventQueue := bits.toNat.testBit 4
  bids := bits.toNat.testBit 5
  asks := bits.toNat.testBit 6

/-- Whether the flag of a kind is set. -/
def has (f : AccountFlags) : AccountKind → Bool
  | .market => f.market
  | .openOrders => f.openOrders
  | .requestQueue => f.requestQueue
  | .eventQueue => f.eventQueue
  | .bids => f.bids
  | .asks => f.asks

/-- An account is of a kind if it is initialized and carries the flag of that kind alone. -/
def isKind (f : AccountFlags) (kind : AccountKind) : Bool :=
  f.initialized && AccountKind.all.all fun k => f.has k == (k == kind)

/-- The flags by their names, in bit order. -/
def named (f : AccountFlags) : List (String × Bool) :=
  [("initialized", f.initialized), ("market", f.market), ("open_orders", f.openOrders),
    ("request_queue", f.requestQueue), ("event_queue", f.eventQueue), ("bids", f.bids),
    ("asks", f.asks)]

/-- The names of the set flags, in brackets. -/
def text (f : AccountFlags) : String :=
  "[" ++ ", ".intercalate (f.named.filterMap fun p => if p.2 then some p.1 else none) ++ "]"

def expectKind (f : AccountFlags) (kind : AccountKind) : Except DecodeError AccountFlags :=
  if f.isKind kind then .ok f else .error (.unexpectedAccountFlags kind.name f.text)

end AccountFlags

/-- The tag of five bytes that opens every account, `serum`. -/
def accountTag : Bytes := [115, 101, 114, 117, 109]

/-- The size of the tag and the flags word: the content proper to a kind of account follows. -/
def accountHeadSize : Nat := 13

def checkTag (data : Bytes) : Except DecodeError Unit :=
  if data.length < accountTag.length then
    .error (.truncated "préfixe serum" accountTag.length data.length)
  else if data.take accountTag.length = accountTag then .ok ()
  else .error (.invalidPrefix (data.take accountTag.length))

/-- Behind its tag an account says what it is, in the seven low bits of a word of 64. -/
def decodeAccountFlags (data : Bytes) : Except DecodeError AccountFlags := do
  checkTag data
  match Layout.word64.readAt? accountTag.length data with
  | some word => return AccountFlags.ofBits word
  | none => throw (.truncated "account flags" accountHeadSize data.length)

/-- The flags of an account that has to be of one kind. -/
def decodeHead (kind : AccountKind) (data : Bytes) : Except DecodeError AccountFlags := do
  let flags ← decodeAccountFlags data
  flags.expectKind kind

end SerumDex
