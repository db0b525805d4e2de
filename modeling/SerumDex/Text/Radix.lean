namespace SerumDex.Radix

def value (base : Nat) : List Nat → Nat
  | [] => 0
  | d :: ds => d + base * value base ds

/-- The `k` low digits of a number. -/
def digits (base : Nat) : Nat → Nat → List Nat
  | 0, _ => []
  | k + 1, n => n % base :: digits base k (n / base)

theorem value_digits (base k n : Nat) (h : n < Nat.pow base k) :
    value base (digits base k n) = n := by
  induction k generalizing n with
  | zero =>
    have h0 : n = 0 := Nat.lt_one_iff.mp h
    simp [digits, value, h0]
  | succ k ih =>
    have hb : 0 < base := by
      rcases Nat.eq_zero_or_pos base with h0 | h0
      · simp [h0, Nat.pow] at h
      · exact h0
    have hq : n / base < Nat.pow base k := (Nat.div_lt_iff_lt_mul hb).mpr h
    simp only [digits, value, ih _ hq, Nat.mod_add_div]

end SerumDex.Radix
