import SerumDex.Proofs.AccountKinds
import SerumDex.Proofs.CheckedQueue

namespace SerumDex

/-- A check of some data, and the error that its failure is answered with. -/
structure Check where
  passes : Bool
  failure : DecodeError

/-- The error of the first check that does not pass. -/
def firstFailure (checks : List Check) : Option DecodeError :=
  checks.findSome? fun c => if c.passes then none else some c.failure

/-- A result fails as the first failing check says, and is a value if all checks pass. -/
def Guarded {α : Type} (checks : List Check) (result : Except DecodeError α) : Prop :=
  ∀ e, result = .error e ↔ firstFailure checks = some e

section Guards

variable {α β : Type} {checks later : List Check} {c : Check}

theorem firstFailure_cons_of_passes (h : c.passes = true) :
    firstFailure (c :: checks) = firstFailure checks := by
  rw [firstFailure, List.findSome?_cons, if_pos h]
  rfl

theorem firstFailure_cons_of_fails (h : c.passes = false) :
    firstFailure (c :: checks) = some c.failure := by
  rw [firstFailure, List.findSome?_cons, h]
  rfl

theorem firstFailure_eq_none_iff :
    firstFailure checks = none ↔ ∀ c ∈ checks, c.passes = true := by
  rw [firstFailure, List.findSome?_eq_none_iff]
  refine forall₂_congr fun c _ => ?_
  cases c.passes <;> simp

theorem guarded_ok {a : α} : Guarded [] (.ok a) := by
  intro e
  exact ⟨nofun, nofun⟩

/-- One more check in front, where its failure is the error of the result. -/
theorem Guarded.check {passed : Prop} [Decidable passed] {failure : DecodeError}
    {result : Except DecodeError α} (hfails : ¬ passed → result = .error failure)
    (h : passed → Guarded checks result) : Guarded (⟨passed, failure⟩ :: checks) result := by
  intro e
  by_cases hp : passed
  · rw [firstFailure_cons_of_passes (decide_eq_true hp)]
    exact h hp e
  · rw [hfails hp, firstFailure_cons_of_fails (decide_eq_false hp), Except.error.injEq,
      Option.some.injEq]

theorem Guarded.firstFailure_eq_none {result : Except DecodeError α} (h : Guarded checks result)
    {a : α} (ha : result = .ok a) : firstFailure checks = none := by
  apply Option.eq_none_iff_forall_ne_some.mpr
  intro e he
  exact nomatch ha.symm.trans ((h e).mpr he)

/-- What follows a result is guarded by the checks of both. -/
theorem Guarded.bind {result : Except DecodeError α} {f : α → Except DecodeError β}
    (h : Guarded checks result) (hf : ∀ a, result = .ok a → Guarded later (f a)) :
    Guarded (checks ++ later) (result >>= f) := by
  intro e
  have happend : firstFailure (checks ++ later) =
      (firstFailure checks).or (firstFailure later) := List.findSome?_append
  rw [happend]
  cases hresult : result with
  | error e' =>
    rw [(h e').mp hresult]
    change Except.error e' = Except.error e ↔ some e' = some e
    rw [Except.error.injEq, Option.some.injEq]
  | ok a =>
    rw [h.firstFailure_eq_none hresult]
    exact hf a hresult e

theorem Guarded.exists_ok_iff {result : Except DecodeError α} (h : Guarded checks result) :
    (∃ a, result = .ok a) ↔ ∀ c ∈ checks, c.passes = true := by
  rw [← firstFailure_eq_none_iff]
  cases result with
  | error e =>
    have hsome := (h e).mp rfl
    rw [hsome]
    exact iff_of_false (fun ⟨_, ha⟩ => nomatch ha) nofun
  | ok a =>
    exact iff_of_true ⟨a, rfl⟩ (h.firstFailure_eq_none rfl)

end Guards

section Order

variable (data : Bytes)

def tagChecks : List Check :=
  [⟨5 ≤ data.length, .truncated "préfixe serum" 5 data.length⟩,
    ⟨data.take 5 = accountTag, .invalidPrefix (data.take 5)⟩]

def wordChecks : List Check := [⟨13 ≤ data.length, .truncated "account flags" 13 data.length⟩]

/-- Of the seven low bits of the flags word, bit 0 and the bit of the kind are set. -/
def kindChecks (kind : AccountKind) : List Check :=
  [⟨decide (∀ i : Nat, i < 7 → ((leAt data 5 8).testBit i = true ↔ i = 0 ∨ i = kind.bit)),
    .unexpectedAccountFlags kind.name
      (AccountFlags.ofBits (UInt64.ofNat (leAt data 5 8))).text⟩]

def sizeChecks : List Check :=
  [⟨37 ≤ data.length, .truncated "en-tête Event Queue" 37 data.length⟩,
    ⟨(data.length - 37) % 88 = 0, .invalidQueueLength data.length 37 88⟩]

def countChecks : List Check :=
  [⟨leAt data 21 4 ≤ (data.length - 37) / 88,
    .countExceedsCapacity (leAt data 21 4) ((data.length - 37) / 88)⟩]

/-- The checks on the data of an event queue, in their order. -/
def queueChecks : List Check :=
  tagChecks data ++ wordChecks data ++ kindChecks data .eventQueue ++ sizeChecks data ++
    countChecks data

/-- The data of an event queue: the tag, a flags word whose seven low bits are all clear but those
of `initialized` and `event_queue`, whole slots behind the header, and no more live entries than
slots. -/
structure QueueData : Prop where
  tag : data.take 5 = accountTag
  bits : ∀ i < 7, (leAt data 5 8).testBit i = true ↔ i = 0 ∨ i = 4
  slots : ∃ c, data.length = 37 + 88 * c ∧ leAt data 21 4 ≤ c

theorem guarded_checkTag : Guarded (tagChecks data) (checkTag data) := by
  have htag : accountTag.length = 5 := rfl
  unfold checkTag
  rw [htag]
  apply Guarded.check
  · intro hshort
    rw [if_pos (Nat.lt_of_not_le hshort)]
  · intro hlong
    rw [if_neg (Nat.not_lt.mpr hlong)]
    apply Guarded.check
    · intro hne
      rw [if_neg hne]
    · intro heq
      rw [if_pos heq]
      exact guarded_ok

theorem guarded_decodeAccountFlags :
    Guarded (tagChecks data ++ wordChecks data) (decodeAccountFlags data) := by
  apply (guarded_checkTag data).bind
  intro _ _
  -- The word is there exactly if the data reach behind it.
  apply Guarded.check
  · intro hshort
    have hnone : Layout.word64.readAt? accountTag.length data = none :=
      (Layout.word64.readAt?_eq_none_iff _ _).mpr (Nat.lt_of_not_le hshort)
    rw [hnone]
    rfl
  · intro hlong
    obtain ⟨word, hword⟩ := Layout.word64.exists_readAt? accountTag.length hlong
    rw [hword]
    exact guarded_ok

variable {data}

theorem flags_of_decodeAccountFlags {flags : AccountFlags}
    (h : decodeAccountFlags data = .ok flags) :
    flags = AccountFlags.ofBits (UInt64.ofNat (leAt data 5 8)) := by
  obtain ⟨_, _, hread⟩ := ok_of_bind h
  cases hword : Layout.word64.readAt? accountTag.length data with
  | none =>
    rw [hword] at hread
    exact nomatch hread
  | some word =>
    rw [hword] at hread
    have hvalue : word.toNat = leAt data 5 8 := toNat_of_readAt?_word64 hword
    rw [← Except.ok.inj hread, ← hvalue, UInt64.ofNat_toNat]

theorem leAt_lt (bs : Bytes) (offset width : Nat) : leAt bs offset width < Nat.pow 256 width := by
  have hlt := leNat_lt ((bs.drop offset).take width)
  have hwidth : ((bs.drop offset).take width).length ≤ width := List.length_take_le _ _
  exact Nat.lt_of_lt_of_le hlt (Nat.pow_le_pow_right (by decide) hwidth)

theorem guarded_decodeHead (kind : AccountKind) :
    Guarded (tagChecks data ++ wordChecks data ++ kindChecks data kind) (decodeHead kind data) := by
  apply (guarded_decodeAccountFlags data).bind
  intro flags hflags
  rw [flags_of_decodeAccountFlags hflags]
  -- Eight bytes spell a word, so that the number and its flags say the same.
  have hword : (UInt64.ofNat (leAt data 5 8)).toNat = leAt data 5 8 :=
    UInt64.toNat_ofNat_of_lt (leAt_lt data 5 8)
  have hkind := isKind_ofBits (UInt64.ofNat (leAt data 5 8)) kind
  rw [hword] at hkind
  unfold AccountFlags.expectKind kindChecks
  rw [hkind]
  apply Guarded.check
  · intro hbits
    rw [if_neg]
    rwa [decide_eq_true_iff, low_eq_lowBits_iff]
  · intro hbits
    rw [if_pos (decide_eq_true ((low_eq_lowBits_iff _ _).mpr hbits))]
    exact guarded_ok

theorem guarded_queueCapacity : Guarded (sizeChecks data) (queueCapacity data.length) := by
  have hheader : queueHeaderSize = 37 := rfl
  have hslot : eventSlotSize = 88 := rfl
  unfold queueCapacity
  rw [hheader, hslot]
  apply Guarded.check
  · intro hshort
    rw [if_pos (Nat.lt_of_not_le hshort)]
  · intro hlong
    rw [if_neg (Nat.not_lt.mpr hlong)]
    apply Guarded.check
    · intro hrest
      rw [if_pos hrest]
    · intro hwhole
      rw [if_neg (not_not.mpr hwhole)]
      exact guarded_ok

theorem toNat_count {counters : QueueCounters}
    (h : QueueCounters.layout.readAt? accountHeadSize data = some counters) :
    counters.count.toNat = leAt data 21 4 := by
  -- The head and its padding stand before the count.
  let front := leBytes 4 counters.head.toNat ++ counters.headPadding.bytes
  let back := counters.countPadding.bytes ++
    (leBytes 4 counters.seqNum.toNat ++ counters.seqNumPadding.bytes)
  have hfront : front.length = 8 := by
    rw [List.length_append, length_leBytes, counters.headPadding.length_bytes]
  have hwrite : front ++ (leBytes 4 counters.count.toNat ++ back) = (data.drop 13).take 24 := by
    rw [List.append_assoc]
    exact (QueueCounters.layout.write_of_readAt? h).2
  have hspelled : leBytes 4 counters.count.toNat = (data.drop 21).take 4 := by
    calc
      leBytes 4 counters.count.toNat =
          ((front ++ (leBytes 4 counters.count.toNat ++ back)).drop 8).take 4 := by
        rw [List.drop_left' hfront, List.take_left' (length_leBytes _ _)]
      _ = (((data.drop 13).take 24).drop 8).take 4 := by rw [hwrite]
      _ = (data.drop 21).take 4 := by rw [List.drop_take, List.drop_drop, List.take_take]; rfl
  rw [leAt, ← hspelled, leNat_leBytes 4 _ counters.count.toNat_lt]

theorem guarded_decodeEventQueue (scale : Scale) :
    Guarded (queueChecks data) (decodeEventQueue data scale) := by
  have hchecks : queueChecks data =
      (tagChecks data ++ wordChecks data ++ kindChecks data .eventQueue) ++
        (sizeChecks data ++ countChecks data) := by
    unfold queueChecks
    rw [List.append_assoc _ (sizeChecks data)]
  rw [hchecks]
  apply (guarded_decodeHead .eventQueue).bind
  intro flags _
  apply guarded_queueCapacity.bind
  intro capacity hcapacity
  have hlength : data.length = 37 + capacity * 88 := queueCapacity_eq_ok_iff.mp hcapacity
  have hslots : (data.length - 37) / 88 = capacity := by
    rw [hlength, Nat.add_sub_cancel_left, Nat.mul_div_cancel _ (by decide)]
  -- The header is there, so the counters are read without another check.
  obtain ⟨counters, hread⟩ := QueueCounters.layout.exists_readAt? accountHeadSize
    (show 37 ≤ data.length by omega)
  have hcounters : readCounters data = .ok counters := by rw [readCounters, hread]
  have hcount := toNat_count hread
  rw [hcounters]
  unfold countChecks
  rw [hslots, ← hcount]
  change Guarded _ (if capacity < counters.count.toNat then _ else _)
  apply Guarded.check
  · intro hmore
    rw [if_pos (Nat.lt_of_not_le hmore)]
    rfl
  · intro hle
    rw [if_neg (Nat.not_lt.mpr hle)]
    exact guarded_ok

/-- The checks pass on the data of an event queue, and on no other data. -/
theorem queueChecks_pass_iff : (∀ c ∈ queueChecks data, c.passes = true) ↔ QueueData data := by
  simp only [queueChecks, tagChecks, wordChecks, kindChecks, sizeChecks, countChecks,
    List.cons_append, List.nil_append, List.forall_mem_cons, decide_eq_true_iff]
  constructor
  · rintro ⟨_, htag, _, hbits, hheader, hwhole, hcount, _⟩
    refine ⟨htag, hbits, (data.length - 37) / 88, ?_, hcount⟩
    omega
  -- The length says that the header is there, and with it the tag and the word.
  · rintro ⟨htag, hbits, c, hlength, hcount⟩
    refine ⟨?_, htag, ?_, hbits, ?_, ?_, ?_, nofun⟩ <;> omega

end Order

/-- On data of less than `2 ^ 63` bytes no step of the reading goes wrong. A queue is decoded from
the data of an event queue and from no other data, and any other data are refused with the error of
the first check that they do not pass. -/
theorem decodeEventQueue_faultless (data : Bytes) (scale : Scale)
    (hlength : data.length < Nat.pow 2 63) :
    Checked.readQueue data scale = .ok (decodeEventQueue data scale) ∧
      ((∃ q, decodeEventQueue data scale = .ok q) ↔ QueueData data) ∧
      ∀ e, decodeEventQueue data scale = .error e ↔ firstFailure (queueChecks data) = some e := by
  have hguarded : Guarded (queueChecks data) (decodeEventQueue data scale) :=
    guarded_decodeEventQueue scale
  refine ⟨Checked.readQueue_eq hlength, ?_, hguarded⟩
  rw [hguarded.exists_ok_iff, queueChecks_pass_iff]

/-- A queue that has lost its last byte. -/
theorem decodeEventQueue_faultless_of_cut :
    Checked.readQueue sampleQueue.bytes.dropLast ⟨6, 6, 10, 1⟩ =
        .ok (.error (.invalidQueueLength 300 37 88)) ∧
      ∃ q, Checked.readQueue sampleQueue.bytes ⟨6, 6, 10, 1⟩ = .ok (.ok q) := by
  obtain ⟨hcut, _, herror⟩ := decodeEventQueue_faultless sampleQueue.bytes.dropLast
    ⟨6, 6, 10, 1⟩ (by decide +kernel)
  obtain ⟨hwhole, hok, _⟩ := decodeEventQueue_faultless sampleQueue.bytes ⟨6, 6, 10, 1⟩
    (by decide +kernel)
  have hfailure : firstFailure (queueChecks sampleQueue.bytes.dropLast) =
      some (.invalidQueueLength 300 37 88) := by decide +kernel
  have hdata : QueueData sampleQueue.bytes :=
    ⟨by decide +kernel, by decide +kernel, 3, by decide +kernel, by decide +kernel⟩
  obtain ⟨q, hq⟩ := hok.mpr hdata
  rw [hcut, (herror _).mpr hfailure, hwhole, hq]
  exact ⟨rfl, q, rfl⟩

end SerumDex
