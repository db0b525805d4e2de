import SerumDex.Account.Flags

namespace SerumDex

/-- The seven low bits of the flags word of an account of a kind: bit 0, and the bit of the kind. -/
def AccountKind.lowBits : AccountKind → Nat
  | market => 3
  | openOrders => 5
  | requestQueue => 9
  | eventQueue => 17
  | bids => 33
  | asks => 65

theorem testBit_low (n i : Nat) (hi : i < 7) : (n % 128).testBit i = n.testBit i := by
  have h := Nat.testBit_mod_two_pow n 7 i
  rw [decide_eq_true hi, Bool.true_and] at h
  exact h

/-- Numbers agree in their seven low bits if they leave the same remainder. -/
theorem low_eq_low_iff (m n : Nat) :
    m % 128 = n % 128 ↔ ∀ i < 7, m.testBit i = n.testBit i := by
  constructor
  · intro h i hi
    rw [← testBit_low m i hi, h, testBit_low n i hi]
  · intro h
    apply Nat.eq_of_testBit_eq
    intro i
    by_cases hi : i < 7
    · rw [testBit_low m i hi, testBit_low n i hi, h i hi]
    · -- Neither remainder has a bit from the seventh on.
      have hnone (k : Nat) : (k % 128).testBit i = false := by
        have hmod := Nat.testBit_mod_two_pow k 7 i
        rwa [decide_eq_false hi, Bool.false_and] at hmod
      rw [hnone, hnone]

/-- The bit of the flags word that stands for a kind. Bit 0 stands for `initialized`. -/
def AccountKind.bit : AccountKind → Nat
  | market => 1
  | openOrders => 2
  | requestQueue => 3
  | eventQueue => 4
  | bids => 5
  | asks => 6

theorem testBit_lowBits (kind : AccountKind) (i : Fin 7) :
    kind.lowBits.testBit i = true ↔ i.val = 0 ∨ i.val = kind.bit := by
  cases kind <;> revert i <;> decide

/-- Bit 0 and the bit of the kind are the only ones set among the seven low bits. -/
theorem low_eq_lowBits_iff (n : Nat) (kind : AccountKind) :
    n % 128 = kind.lowBits ↔ ∀ i < 7, n.testBit i = true ↔ i = 0 ∨ i = kind.bit := by
  have hlow : kind.lowBits % 128 = kind.lowBits := by cases kind <;> rfl
  rw [← hlow, low_eq_low_iff]
  apply forall_congr'
  intro i
  apply forall_congr'
  intro hi
  rw [← testBit_lowBits kind ⟨i, hi⟩, Bool.eq_iff_iff]

theorem ofBits_low (word : UInt64) :
    AccountFlags.ofBits (UInt64.ofNat (word.toNat % 128)) = AccountFlags.ofBits word := by
  have hlt : word.toNat % 128 < UInt64.size :=
    Nat.lt_of_lt_of_le (Nat.mod_lt _ (by decide)) (by decide)
  have hn : (UInt64.ofNat (word.toNat % 128)).toNat = word.toNat % 128 :=
    UInt64.toNat_ofNat_of_lt hlt
  simp only [AccountFlags.ofBits, hn, testBit_low _ _ (show 0 < 7 by decide),
    testBit_low _ _ (show 1 < 7 by decide), testBit_low _ _ (show 2 < 7 by decide),
    testBit_low _ _ (show 3 < 7 by decide), testBit_low _ _ (show 4 < 7 by decide),
    testBit_low _ _ (show 5 < 7 by decide), testBit_low _ _ (show 6 < 7 by decide)]

theorem isKind_ofBits_small (kind : AccountKind) (n : Fin 128) :
    (AccountFlags.ofBits (UInt64.ofNat n)).isKind kind = decide (n.val = kind.lowBits) := by
  cases kind <;> revert n <;> decide

theorem isKind_ofBits (word : UInt64) (kind : AccountKind) :
    (AccountFlags.ofBits word).isKind kind = decide (word.toNat % 128 = kind.lowBits) := by
  rw [← ofBits_low]
  exact isKind_ofBits_small kind ⟨word.toNat % 128, Nat.mod_lt _ (by decide)⟩

/-- The head that opens every account: the tag and the flags word. -/
def writtenHead (word : UInt64) : Bytes := accountTag ++ leBytes 8 word.toNat

theorem length_writtenHead (word : UInt64) : (writtenHead word).length = accountHeadSize := by
  rw [writtenHead, List.length_append, length_leBytes]
  rfl

theorem decodeAccountFlags_written (word : UInt64) (rest : Bytes) :
    decodeAccountFlags (writtenHead word ++ rest) = .ok (AccountFlags.ofBits word) := by
  have htake : (writtenHead word ++ rest).take accountTag.length = accountTag := by
    rw [writtenHead, List.append_assoc, List.take_left' rfl]
  have hlen : ¬ (writtenHead word ++ rest).length < accountTag.length := by
    rw [List.length_append, length_writtenHead]
    have : accountTag.length ≤ accountHeadSize := by decide
    omega
  have htag : checkTag (writtenHead word ++ rest) = .ok () := by
    unfold checkTag
    rw [if_neg hlen, if_pos htake]
  have hword : Layout.word64.readAt? accountTag.length (writtenHead word ++ rest) = some word :=
    Layout.word64.readAt?_write accountTag rest word
  unfold decodeAccountFlags
  rw [htag, hword]
  rfl

/-- An account is read as one of a kind if the low bits of its word say so. -/
theorem decodeHead_written (kind : AccountKind) (word : UInt64) (rest : Bytes)
    (hword : word.toNat % 128 = kind.lowBits) :
    decodeHead kind (writtenHead word ++ rest) = .ok (AccountFlags.ofBits word) := by
  unfold decodeHead
  rw [decodeAccountFlags_written]
  change (AccountFlags.ofBits word).expectKind kind = _
  unfold AccountFlags.expectKind
  rw [isKind_ofBits, if_pos (decide_eq_true hword)]

end SerumDex
