import SerumDex.Account.Address

namespace SerumDex

/-- The decimals of mints that are already known. An entry is never replaced: the first value that is
put under a mint stays. -/
structure DecimalsCache where
  entries : List (Address × UInt8)

namespace DecimalsCache

def empty : DecimalsCache := ⟨[]⟩

def get? (c : DecimalsCache) (mint : Address) : Option UInt8 := c.entries.lookup mint

/-- The value kept under the mint, and the cache after the insertion. -/
def insert (c : DecimalsCache) (mint : Address) (decimals : UInt8) : UInt8 × DecimalsCache :=
  match c.get? mint with
  | some kept => (kept, c)
  | none => (decimals, ⟨c.entries ++ [(mint, decimals)]⟩)

def size (c : DecimalsCache) : Nat := c.entries.length

def isEmpty (c : DecimalsCache) : Bool := c.size == 0

theorem get?_insert (c : DecimalsCache) (mint other : Address) (decimals : UInt8) :
    (c.insert mint decimals).2.get? other =
      if other = mint then some (c.insert mint decimals).1 else c.get? other := by
  unfold insert
  cases hm : c.get? mint with
  | some kept =>
    by_cases ho : other = mint
    · simp [ho, hm]
    · simp [ho]
  | none =>
    simp only [get?, List.lookup_append, List.lookup_cons, List.lookup_nil] at *
    by_cases ho : other = mint
    · simp [ho, hm]
    · have hb : (other == mint) = false := by simp [ho]
      simp [ho, hb]

/-- An insertion keeps every entry that was there. -/
theorem get?_insert_of_some (c : DecimalsCache) (mint other : Address) (decimals kept : UInt8)
    (h : c.get? other = some kept) : (c.insert mint decimals).2.get? other = some kept := by
  rw [get?_insert]
  by_cases ho : other = mint
  · subst ho
    simp [insert, h]
  · simp [ho, h]

end DecimalsCache

end SerumDex
