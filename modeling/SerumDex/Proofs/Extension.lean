import SerumDex.Proofs.AccountKinds

/-! Decoders on data with more bytes behind it. A decoder that reads from the front and stops at the
first length that it misses gives up no result when more bytes follow, and misses the same length
until it is reached. This holds of each of its stages, and so of the stages one after another. An
account that is accepted is cut short at each of the three lengths in turn. -/
namespace SerumDex

/-- A result other than that of data that is too short. -/
def Settled {α : Type} (result : Except DecodeError α) : Prop :=
  ∀ what needed actual, result ≠ .error (.truncated what needed actual)

/-- A decoder that reads from the front. -/
structure FrontDecoder {α : Type} (decode : Bytes → Except DecodeError α) : Prop where
  settled : ∀ data more, Settled (decode data) → decode (data ++ more) = decode data
  short : ∀ data what needed actual, decode data = .error (.truncated what needed actual) →
    actual = data.length ∧ data.length < needed
  persists : ∀ data more what needed actual,
    decode data = .error (.truncated what needed actual) → (data ++ more).length < needed →
      decode (data ++ more) = .error (.truncated what needed (data ++ more).length)

/-- What more bytes do to the result of a decoder. A truncation lasts as long as the length that it
names is not reached, and is over from there on. -/
structure ExtensionLaw {α : Type} (decode : Bytes → Except DecodeError α) : Prop
    extends FrontDecoder decode where
  resolved : ∀ data more what needed actual,
    decode data = .error (.truncated what needed actual) → needed ≤ (data ++ more).length →
      ∀ what' actual', decode (data ++ more) ≠ .error (.truncated what' needed actual')

theorem settled_ok {α : Type} (a : α) : Settled (.ok a) := nofun

namespace FrontDecoder

variable {α β : Type} {decode : Bytes → Except DecodeError α}

theorem extensionLaw (h : FrontDecoder decode) : ExtensionLaw decode := by
  refine ⟨h, ?_⟩
  intro data more what needed actual _ hreached what' actual' hagain
  -- A length that is named as missing is missing, so it is not named once it is reached.
  obtain ⟨_, hmissing⟩ := h.short _ _ _ _ hagain
  omega

theorem const {result : Except DecodeError α} (h : Settled result) :
    FrontDecoder fun _ => result where
  settled _ _ _ := rfl
  short _ what needed actual htruncated := absurd htruncated (h what needed actual)
  persists _ _ what needed actual htruncated := absurd htruncated (h what needed actual)

theorem bind {next : α → Bytes → Except DecodeError β} (h : FrontDecoder decode)
    (hnext : ∀ a, FrontDecoder (next a)) :
    FrontDecoder fun data => decode data >>= fun a => next a data := by
  let both (data : Bytes) : Except DecodeError β := decode data >>= fun a => next a data
  have hfails (data : Bytes) (e : DecodeError) (he : decode data = .error e) :
      both data = .error e := by
    change (decode data >>= _) = _
    rw [he]
    rfl
  have hpasses (data : Bytes) (a : α) (ha : decode data = .ok a) : both data = next a data := by
    change (decode data >>= _) = _
    rw [ha]
    rfl
  -- The second stage goes on from the value of the first one, which more bytes do not change.
  have hok (data more : Bytes) (a : α) (ha : decode data = .ok a) :
      decode (data ++ more) = .ok a := by
    rw [h.settled data more (ha ▸ settled_ok a), ha]
  -- A truncation of both stages is one of the first, or of the second on the value of the first.
  have hsource (data : Bytes) (what : String) (needed actual : Nat)
      (htruncated : both data = .error (.truncated what needed actual)) :
      decode data = .error (.truncated what needed actual) ∨
        ∃ a, decode data = .ok a ∧ next a data = .error (.truncated what needed actual) := by
    cases hfirst : decode data with
    | error e =>
      have he := Except.error.inj ((hfails data e hfirst).symm.trans htruncated)
      exact .inl (congrArg Except.error he)
    | ok a => exact .inr ⟨a, rfl, (hpasses data a hfirst).symm.trans htruncated⟩
  refine ⟨?_, ?_, ?_⟩
  · intro data more hsettled
    change both (data ++ more) = both data
    cases hfirst : decode data with
    | error e =>
      have hwhole := hfails data e hfirst
      have hstays : decode (data ++ more) = decode data := by
        apply h.settled
        intro what needed actual htruncated
        exact hsettled what needed actual (hfails data _ htruncated)
      rw [hwhole, hfails _ e (hstays.trans hfirst)]
    | ok a =>
      have hwhole := hpasses data a hfirst
      rw [hwhole, hpasses _ a (hok data more a hfirst)]
      exact (hnext a).settled data more (hwhole ▸ hsettled)
  · intro data what needed actual htruncated
    rcases hsource data what needed actual htruncated with hfirst | ⟨a, _, hsecond⟩
    · exact h.short data what needed actual hfirst
    · exact (hnext a).short data what needed actual hsecond
  · intro data more what needed actual htruncated hmissing
    change both (data ++ more) = _
    rcases hsource data what needed actual htruncated with hfirst | ⟨a, hfirst, hsecond⟩
    · exact hfails _ _ (h.persists data more what needed actual hfirst hmissing)
    · rw [hpasses _ a (hok data more a hfirst)]
      exact (hnext a).persists data more what needed actual hsecond hmissing

end FrontDecoder

section Stages

/-- A stage that asks for a length, and from there on looks at no later byte. -/
theorem frontDecoder_of_length {α : Type} {decode : Bytes → Except DecodeError α} (bound : Nat)
    (what : String)
    (hshort : ∀ data, data.length < bound →
      decode data = .error (.truncated what bound data.length))
    (hlong : ∀ data, bound ≤ data.length →
      Settled (decode data) ∧ ∀ more, decode (data ++ more) = decode data) :
    FrontDecoder decode := by
  -- A truncation is one of data below the length, and it names the length.
  have hnamed (data : Bytes) (what' : String) (needed actual : Nat)
      (h : decode data = .error (.truncated what' needed actual)) :
      data.length < bound ∧ what' = what ∧ needed = bound ∧ actual = data.length := by
    by_cases hlength : data.length < bound
    · injection Except.error.inj ((hshort data hlength).symm.trans h) with hwhat hneeded hactual
      exact ⟨hlength, hwhat.symm, hneeded.symm, hactual.symm⟩
    · obtain ⟨hsettled, _⟩ := hlong data (Nat.le_of_not_lt hlength)
      exact absurd h (hsettled what' needed actual)
  refine ⟨?_, ?_, ?_⟩
  · intro data more hsettled
    by_cases hlength : data.length < bound
    · exact absurd (hshort data hlength) (hsettled _ _ _)
    · exact (hlong data (Nat.le_of_not_lt hlength)).2 more
  · intro data what' needed actual h
    obtain ⟨hlength, _, rfl, rfl⟩ := hnamed data what' needed actual h
    exact ⟨rfl, hlength⟩
  · intro data more what' needed actual h hmissing
    obtain ⟨_, rfl, rfl, _⟩ := hnamed data what' needed actual h
    exact hshort _ hmissing

theorem frontDecoder_checkTag : FrontDecoder checkTag := by
  apply frontDecoder_of_length accountTag.length "préfixe serum"
  · intro data h
    exact if_pos h
  · intro data h
    have hchecked (data : Bytes) (h : accountTag.length ≤ data.length) :
        checkTag data = if data.take accountTag.length = accountTag then .ok ()
          else .error (.invalidPrefix (data.take accountTag.length)) := if_neg (Nat.not_lt.mpr h)
    -- The five bytes are there, and they stay the first five whatever follows.
    constructor
    · intro what needed actual htruncated
      rw [hchecked data h] at htruncated
      split at htruncated <;> exact nomatch htruncated
    · intro more
      have hmore : accountTag.length ≤ (data ++ more).length := by
        rw [List.length_append]
        omega
      rw [hchecked data h, hchecked _ hmore, List.take_append_of_le_length h]

/-- The stage that reads a record at an offset and names the place where the record would end. -/
theorem frontDecoder_of_readAt? {α β : Type} (A : Layout α) (offset : Nat) (what : String)
    (view : α → β) {decode : Bytes → Except DecodeError β}
    (hsome : ∀ data a, A.readAt? offset data = some a → decode data = .ok (view a))
    (hnone : ∀ data, A.readAt? offset data = none →
      decode data = .error (.truncated what (offset + A.size) data.length)) :
    FrontDecoder decode := by
  apply frontDecoder_of_length (offset + A.size) what
  · intro data h
    exact hnone data ((A.readAt?_eq_none_iff offset data).mpr h)
  · intro data h
    obtain ⟨a, ha⟩ := A.exists_readAt? offset h
    have hok : decode data = .ok (view a) := hsome data a ha
    refine ⟨hok ▸ settled_ok _, ?_⟩
    intro more
    rw [hok]
    exact hsome _ a ((A.readAt?_append more h).trans ha)

theorem settled_expectKind (flags : AccountFlags) (kind : AccountKind) :
    Settled (flags.expectKind kind) := by
  intro what needed actual h
  unfold AccountFlags.expectKind at h
  split at h <;> exact nomatch h

end Stages

theorem frontDecoder_decodeAccountFlags : FrontDecoder decodeAccountFlags := by
  apply frontDecoder_checkTag.bind
  intro _
  apply frontDecoder_of_readAt? Layout.word64 accountTag.length "account flags" AccountFlags.ofBits
  · intro data word h
    rw [h]
    rfl
  · intro data h
    rw [h]
    rfl

theorem frontDecoder_decodeHead (kind : AccountKind) : FrontDecoder (decodeHead kind) :=
  frontDecoder_decodeAccountFlags.bind fun flags => .const (settled_expectKind flags kind)

theorem frontDecoder_decodeMarket : FrontDecoder decodeMarket := by
  apply (frontDecoder_decodeHead .market).bind
  intro flags
  apply frontDecoder_of_readAt? MarketRecord.layout accountHeadSize "compte Market"
    fun record => record.toMarket flags
  · intro data record h
    rw [h]
    rfl
  · intro data h
    rw [h]
    rfl

section Prefixes

/-- The error of a market account that ends after `n` bytes. -/
def cutShort (n : Nat) : DecodeError :=
  if n < 5 then .truncated "préfixe serum" 5 n
  else if n < 13 then .truncated "account flags" 13 n
  else .truncated "compte Market" 381 n

variable {data : Bytes} {n : Nat} {flags : AccountFlags}

theorem checkTag_take (h : checkTag data = .ok ()) (hn : 5 ≤ n) :
    checkTag (data.take n) = .ok () := by
  rw [checkTag_eq_ok_iff] at h ⊢
  rw [List.take_take, Nat.min_eq_left hn, h]

theorem length_of_decodeAccountFlags (h : decodeAccountFlags data = .ok flags) :
    13 ≤ data.length := by
  obtain ⟨_, _, hread⟩ := ok_of_bind h
  cases hword : Layout.word64.readAt? accountTag.length data with
  | none =>
    rw [hword] at hread
    exact nomatch hread
  | some word => exact (Layout.word64.write_of_readAt? hword).1

theorem decodeAccountFlags_take_of_lt (h : decodeAccountFlags data = .ok flags) (hn : n < 13) :
    decodeAccountFlags (data.take n) = .error (cutShort n) := by
  have hdata := length_of_decodeAccountFlags h
  have hlength : (data.take n).length = n := by
    rw [List.length_take]
    omega
  obtain ⟨_, htag, _⟩ := ok_of_bind h
  unfold decodeAccountFlags cutShort
  by_cases hshort : n < 5
  · have hmissing : checkTag (data.take n) = .error (.truncated "préfixe serum" 5 n) := by
      rw [checkTag, if_pos (hlength.symm ▸ hshort), hlength]
      rfl
    rw [hmissing, if_pos hshort]
    rfl
  · -- The tag is still there, but the flags word is not complete.
    have hkept : checkTag (data.take n) = .ok () := checkTag_take htag (by omega)
    have hnone : Layout.word64.readAt? accountTag.length (data.take n) = none := by
      rw [Layout.readAt?_eq_none_iff, hlength]
      exact hn
    rw [hkept, hnone, if_neg hshort, if_pos hn, hlength]
    rfl

theorem decodeAccountFlags_take_of_le (h : decodeAccountFlags data = .ok flags) (hn : 13 ≤ n)
    (hdata : n ≤ data.length) : decodeAccountFlags (data.take n) = .ok flags := by
  have hlength : (data.take n).length = n := by
    rw [List.length_take]
    omega
  have hkept : checkTag (data.take n) = checkTag data := by
    obtain ⟨_, htag, _⟩ := ok_of_bind h
    rw [htag, checkTag_take htag (by omega)]
  have hread : Layout.word64.readAt? accountTag.length (data.take n) =
      Layout.word64.readAt? accountTag.length data := by
    have hroom : accountTag.length + Layout.word64.size ≤ (data.take n).length := by
      rw [hlength]
      exact hn
    rw [← Layout.word64.readAt?_append (data.drop n) hroom, List.take_append_drop]
  unfold decodeAccountFlags at h ⊢
  rw [hkept, hread]
  cases hword : Layout.word64.readAt? accountTag.length data with
  | none =>
    rw [hword] at h
    obtain ⟨_, _, hnone⟩ := ok_of_bind h
    exact nomatch hnone
  | some word =>
    rw [hword] at h
    exact h

theorem decodeMarket_take_of_lt {m : Market} (h : decodeMarket data = .ok m) (hn : n < 381) :
    decodeMarket (data.take n) = .error (cutShort n) := by
  obtain ⟨flags, record, hhead, hrecord, _⟩ := decodeMarket_eq_ok_iff.mp h
  obtain ⟨read, hflags, hkind⟩ := ok_of_bind hhead
  have hdata : 381 ≤ data.length := (MarketRecord.layout.write_of_readAt? hrecord).1
  by_cases hshort : n < 13
  · unfold decodeMarket decodeHead
    rw [decodeAccountFlags_take_of_lt hflags hshort]
    rfl
  · have hkept : decodeHead .market (data.take n) = .ok flags := by
      unfold decodeHead
      rw [decodeAccountFlags_take_of_le hflags (by omega) (by omega)]
      exact hkind
    have hlength : (data.take n).length = n := by
      rw [List.length_take]
      omega
    have hnone : MarketRecord.layout.readAt? accountHeadSize (data.take n) = none := by
      rw [Layout.readAt?_eq_none_iff, hlength]
      exact hn
    unfold decodeMarket cutShort
    rw [hkept, hnone, hlength, if_neg (by omega), if_neg hshort]
    rfl

end Prefixes

/-- More bytes behind a market account, or behind the head of any account, change no result but that
of data that is too short, and this one only when the length that it names is reached. The three
lengths that are named are those that an accepted account passes when it is cut short. -/
theorem extensionLaw_decodeMarket_decodeAccountFlags :
    ExtensionLaw decodeMarket ∧ ExtensionLaw decodeAccountFlags ∧
      (∀ data m, decodeMarket data = .ok m →
        ∀ n < 381, decodeMarket (data.take n) = .error (cutShort n)) ∧
      (∀ data flags, decodeAccountFlags data = .ok flags →
        ∀ n < 13, decodeAccountFlags (data.take n) = .error (cutShort n)) := by
  refine ⟨frontDecoder_decodeMarket.extensionLaw, frontDecoder_decodeAccountFlags.extensionLaw,
    ?_, ?_⟩
  · intro data m h n hn
    exact decodeMarket_take_of_lt h hn
  · intro data flags h n hn
    exact decodeAccountFlags_take_of_lt h hn

end SerumDex
