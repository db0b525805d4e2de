import SerumDex.Bytes.Basic

namespace SerumDex

/-- A fixed-size binary layout. It matches the values of a type one to one with the byte strings of
its size. -/
structure Layout (α : Type) where
  size : Nat
  write : α → Bytes
  read : (bs : Bytes) → bs.length = size → α
  length_write : ∀ a, (write a).length = size
  read_write : ∀ a, read (write a) (length_write a) = a
  write_read : ∀ bs h, write (read bs h) = bs

/-- A run of bytes that is kept as it is. -/
structure Block (n : Nat) where
  bytes : Bytes
  length_bytes : bytes.length = n
  deriving DecidableEq

namespace Layout

variable {α β : Type}

theorem read_congr (L : Layout α) {bs cs : Bytes} (h : bs = cs) (hb : bs.length = L.size)
    (hc : cs.length = L.size) : L.read bs hb = L.read cs hc := by
  subst h
  rfl

theorem read_eq_of_write (L : Layout α) (a : α) {bs : Bytes} (h : bs = L.write a)
    (hb : bs.length = L.size) : L.read bs hb = a := by
  rw [L.read_congr h hb (L.length_write a), L.read_write]

def word8 : Layout UInt8 where
  size := 1
  write b := leBytes 1 b.toNat
  read bs _ := UInt8.ofNat (leNat bs)
  length_write _ := length_leBytes _ _
  read_write b := by rw [leNat_leBytes _ _ b.toNat_lt, UInt8.ofNat_toNat]
  write_read bs h := by
    have hl := leNat_lt bs
    rw [h] at hl
    rw [UInt8.toNat_ofNat', Nat.mod_eq_of_lt hl, ← h, leBytes_leNat]

def word32 : Layout UInt32 where
  size := 4
  write w := leBytes 4 w.toNat
  read bs _ := UInt32.ofNat (leNat bs)
  length_write _ := length_leBytes _ _
  read_write w := by rw [leNat_leBytes _ _ w.toNat_lt, UInt32.ofNat_toNat]
  write_read bs h := by
    have hl := leNat_lt bs
    rw [h] at hl
    rw [UInt32.toNat_ofNat', Nat.mod_eq_of_lt hl, ← h, leBytes_leNat]

def word64 : Layout UInt64 where
  size := 8
  write w := leBytes 8 w.toNat
  read bs _ := UInt64.ofNat (leNat bs)
  length_write _ := length_leBytes _ _
  read_write w := by rw [leNat_leBytes _ _ w.toNat_lt, UInt64.ofNat_toNat]
  write_read bs h := by
    have hl := leNat_lt bs
    rw [h] at hl
    rw [UInt64.toNat_ofNat', Nat.mod_eq_of_lt hl, ← h, leBytes_leNat]

def word128 : Layout (BitVec 128) where
  size := 16
  write w := leBytes 16 w.toNat
  read bs _ := BitVec.ofNat 128 (leNat bs)
  length_write _ := length_leBytes _ _
  read_write w := by rw [leNat_leBytes _ _ w.isLt, BitVec.ofNat_toNat, BitVec.setWidth_eq]
  write_read bs h := by
    have hl := leNat_lt bs
    rw [h] at hl
    rw [BitVec.toNat_ofNat, Nat.mod_eq_of_lt hl, ← h, leBytes_leNat]

def block (n : Nat) : Layout (Block n) where
  size := n
  write b := b.bytes
  read bs h := ⟨bs, h⟩
  length_write b := b.length_bytes
  read_write _ := rfl
  write_read _ _ := rfl

/-- One layout directly after another. -/
def seq (A : Layout α) (B : Layout β) : Layout (α × β) where
  size := A.size + B.size
  write p := A.write p.1 ++ B.write p.2
  read bs h :=
    (A.read (bs.take A.size) (by rw [List.length_take]; omega),
      B.read (bs.drop A.size) (by rw [List.length_drop]; omega))
  length_write p := by rw [List.length_append, A.length_write, B.length_write]
  read_write p := by
    have hA := A.length_write p.1
    apply Prod.ext
    · exact A.read_eq_of_write _ (List.take_left' hA) _
    · exact B.read_eq_of_write _ (List.drop_left' hA) _
  write_read bs h := by rw [A.write_read, B.write_read, List.take_append_drop]

/-- The same bytes under another name for the values. -/
def via (A : Layout α) (view : α → β) (back : β → α) (view_back : ∀ b, view (back b) = b)
    (back_view : ∀ a, back (view a) = a) : Layout β where
  size := A.size
  write b := A.write (back b)
  read bs h := view (A.read bs h)
  length_write b := A.length_write (back b)
  read_write b := by rw [A.read_write, view_back]
  write_read bs h := by rw [back_view, A.write_read]

/-- The value at an offset of a byte string, if the string reaches far enough. -/
def readAt? (A : Layout α) (offset : Nat) (bs : Bytes) : Option α :=
  if h : offset + A.size ≤ bs.length then
    some (A.read ((bs.drop offset).take A.size) (by rw [List.length_take, List.length_drop]; omega))
  else none

theorem readAt?_eq_none_iff (A : Layout α) (offset : Nat) (bs : Bytes) :
    A.readAt? offset bs = none ↔ bs.length < offset + A.size := by
  unfold readAt?
  split <;> simp <;> omega

theorem exists_readAt? (A : Layout α) (offset : Nat) {bs : Bytes}
    (h : offset + A.size ≤ bs.length) : ∃ a, A.readAt? offset bs = some a :=
  ⟨_, dif_pos h⟩

theorem readAt?_congr (A : Layout α) {offset : Nat} {bs cs : Bytes}
    (hlength : bs.length = cs.length) (hdrop : bs.drop offset = cs.drop offset) :
    A.readAt? offset bs = A.readAt? offset cs := by
  unfold readAt?
  simp only [hlength, hdrop]

/-- What is found depends on the bytes that stand there. -/
theorem readAt?_eq_of_bytes (A : Layout α) {bs cs : Bytes} {offset place : Nat}
    (hoffset : offset + A.size ≤ bs.length) (hplace : place + A.size ≤ cs.length)
    (hbytes : (bs.drop offset).take A.size = (cs.drop place).take A.size) :
    A.readAt? offset bs = A.readAt? place cs := by
  unfold readAt?
  rw [dif_pos hoffset, dif_pos hplace, A.read_congr hbytes]

theorem readAt?_append (A : Layout α) {offset : Nat} {bs : Bytes} (more : Bytes)
    (h : offset + A.size ≤ bs.length) : A.readAt? offset (bs ++ more) = A.readAt? offset bs := by
  apply A.readAt?_eq_of_bytes
  · rw [List.length_append]
    omega
  · exact h
  · have hrest : A.size ≤ (bs.drop offset).length := by
      rw [List.length_drop]
      omega
    rw [List.drop_append_of_le_length (by omega), List.take_append_of_le_length hrest]

/-- What is found at an offset spells the bytes that stand there. -/
theorem write_of_readAt? (A : Layout α) {offset : Nat} {bs : Bytes} {a : α}
    (h : A.readAt? offset bs = some a) :
    offset + A.size ≤ bs.length ∧ A.write a = (bs.drop offset).take A.size := by
  unfold readAt? at h
  split at h
  · next hlength =>
    rw [← Option.some.inj h]
    exact ⟨hlength, A.write_read _ _⟩
  · exact nomatch h

/-- Behind the first of two values stands the second. -/
theorem readAt?_seq_snd (A : Layout α) (B : Layout β) {data : Bytes} {offset : Nat}
    {a : α} {b : β} (h : (A.seq B).readAt? offset data = some (a, b)) :
    B.readAt? (offset + A.size) data = some b := by
  obtain ⟨hreaches, hwrite⟩ := (A.seq B).write_of_readAt? h
  have hsize : (A.seq B).size = A.size + B.size := rfl
  have hsecond : B.write b = (data.drop (offset + A.size)).take B.size := by
    have hboth : A.write a ++ B.write b = (data.drop offset).take (A.size + B.size) := hwrite
    have hrest : (A.write a ++ B.write b).drop A.size = B.write b :=
      List.drop_left' (A.length_write a)
    rw [← hrest, hboth, List.drop_take, List.drop_drop, Nat.add_sub_cancel_left]
  unfold readAt?
  rw [dif_pos (by omega), B.read_eq_of_write b hsecond.symm]

/-- A value is found behind whatever was written before it. -/
theorem readAt?_write (A : Layout α) (front back : Bytes) (a : α) :
    A.readAt? front.length (front ++ A.write a ++ back) = some a := by
  have hw := A.length_write a
  unfold readAt?
  split
  · rw [A.read_eq_of_write a]
    rw [List.append_assoc, List.drop_left' rfl, List.take_left' hw]
  · simp only [List.length_append] at *
    omega

/-- The values written one after another in a byte string of `n` of them. -/
def readMany (A : Layout α) : (n : Nat) → (bs : Bytes) → bs.length = n * A.size → List α
  | 0, _, _ => []
  | n + 1, bs, h =>
    have hs : (n + 1) * A.size = n * A.size + A.size := Nat.succ_mul _ _
    A.read (bs.take A.size) (by rw [List.length_take]; omega) ::
      A.readMany n (bs.drop A.size) (by rw [List.length_drop]; omega)

def writeMany (A : Layout α) (as : List α) : Bytes := as.flatMap A.write

theorem length_writeMany (A : Layout α) (as : List α) :
    (A.writeMany as).length = as.length * A.size := by
  induction as with
  | nil => simp [writeMany]
  | cons a as ih =>
    have hw : A.writeMany (a :: as) = A.write a ++ A.writeMany as := rfl
    rw [hw, List.length_append, ih, A.length_write, List.length_cons, Nat.succ_mul, Nat.add_comm]

@[simp]
theorem length_readMany (A : Layout α) (n : Nat) (bs : Bytes) (h : bs.length = n * A.size) :
    (A.readMany n bs h).length = n := by
  induction n generalizing bs with
  | zero => rfl
  | succ n ih => simp [readMany, ih]

theorem getElem?_readMany (A : Layout α) {n : Nat} {bs : Bytes}
    (h : bs.length = n * A.size) {k : Nat} (hk : k < n) :
    (A.readMany n bs h)[k]? = A.readAt? (k * A.size) bs := by
  induction n generalizing bs k with
  | zero => exact absurd hk (Nat.not_lt_zero k)
  | succ n ih =>
    have hsize : (n + 1) * A.size = n * A.size + A.size := Nat.succ_mul _ _
    cases k with
    | zero =>
      rw [Nat.zero_mul, readAt?, dif_pos (by omega)]
      rfl
    | succ k =>
      have hplace : (k + 1) * A.size = k * A.size + A.size := Nat.succ_mul _ _
      have hfits : (k + 1) * A.size ≤ n * A.size :=
        Nat.mul_le_mul_right _ (Nat.le_of_lt_succ hk)
      rw [readMany, List.getElem?_cons_succ, ih _ (Nat.lt_of_succ_lt_succ hk)]
      apply readAt?_eq_of_bytes
      · rw [List.length_drop]
        omega
      · omega
      · rw [List.drop_drop, hplace, Nat.add_comm]

theorem readMany_writeMany (A : Layout α) (as : List α) (bs : Bytes) (n : Nat)
    (hb : bs = A.writeMany as) (hn : as.length = n) (h : bs.length = n * A.size) :
    A.readMany n bs h = as := by
  induction as generalizing bs n with
  | nil =>
    subst hn
    rfl
  | cons a as ih =>
    subst hn
    have hw : bs = A.write a ++ A.writeMany as := hb
    have hA := A.length_write a
    simp only [List.length_cons, readMany]
    congr 1
    · exact A.read_eq_of_write _ (by rw [hw, List.take_left' hA]) _
    · exact ih _ _ (by rw [hw, List.drop_left' hA]) rfl _

end Layout

end SerumDex
