namespace SerumDex

abbrev Bytes := List UInt8

/-- The number whose base-256 digits are the bytes, least significant first. -/
def leNat : Bytes → Nat
  | [] => 0
  | b :: bs => b.toNat + 256 * leNat bs

/-- The `k` low base-256 digits of a number, least significant first. -/
def leBytes : Nat → Nat → Bytes
  | 0, _ => []
  | k + 1, n => UInt8.ofNat n :: leBytes k (n / 256)

@[simp]
theorem length_leBytes (k n : Nat) : (leBytes k n).length = k := by
  induction k generalizing n with
  | zero => rfl
  | succ k ih => simp [leBytes, ih]

theorem leNat_leBytes (k n : Nat) (h : n < Nat.pow 256 k) : leNat (leBytes k n) = n := by
  induction k generalizing n with
  | zero =>
    have h0 : n = 0 := Nat.lt_one_iff.mp h
    simp [leBytes, leNat, h0]
  | succ k ih =>
    have hq : n / 256 < Nat.pow 256 k := (Nat.div_lt_iff_lt_mul (by decide)).mpr h
    simp only [leBytes, leNat, ih _ hq, UInt8.toNat_ofNat']
    omega

theorem leNat_lt (bs : Bytes) : leNat bs < Nat.pow 256 bs.length := by
  induction bs with
  | nil => exact Nat.one_pos
  | cons b bs ih =>
    have hb := b.toNat_lt
    show b.toNat + 256 * leNat bs < Nat.pow 256 bs.length * 256
    omega

theorem leBytes_leNat (bs : Bytes) : leBytes bs.length (leNat bs) = bs := by
  induction bs with
  | nil => rfl
  | cons b bs ih =>
    have hb := b.toNat_lt
    have hq : (b.toNat + 256 * leNat bs) / 256 = leNat bs := by omega
    have hr : UInt8.ofNat (b.toNat + 256 * leNat bs) = b := by
      apply UInt8.toNat_inj.mp
      rw [UInt8.toNat_ofNat']
      omega
    simp only [List.length_cons, leNat, leBytes, hq, hr, ih]

end SerumDex
