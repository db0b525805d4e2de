import SerumDex.Url.Punycode

/-! Domain names in the ASCII form under which they are looked up. Letters are lowered, and labels
beyond ASCII are written in ASCII. Capitals are known of the Latin, Greek, Cyrillic and Armenian scripts,
and letters are taken as composed already. -/
namespace SerumDex.Url

/-- A run of code points, every `step`-th of which is a capital that lies `shift` below its small letter. -/
structure CapitalRun where
  first : Nat
  last : Nat
  step : Nat
  shift : Nat

def capitalRuns : List CapitalRun := [
  ⟨0x41, 0x5a, 1, 32⟩,
  ⟨0xc0, 0xd6, 1, 32⟩, ⟨0xd8, 0xde, 1, 32⟩,
  ⟨0x100, 0x12e, 2, 1⟩, ⟨0x134, 0x136, 2, 1⟩, ⟨0x139, 0x13d, 2, 1⟩, ⟨0x141, 0x147, 2, 1⟩,
  ⟨0x14a, 0x176, 2, 1⟩, ⟨0x179, 0x17d, 2, 1⟩, ⟨0x1cd, 0x1db, 2, 1⟩, ⟨0x1de, 0x1ee, 2, 1⟩,
  ⟨0x1f8, 0x21e, 2, 1⟩, ⟨0x222, 0x232, 2, 1⟩, ⟨0x246, 0x24e, 2, 1⟩,
  ⟨0x386, 0x386, 1, 38⟩, ⟨0x388, 0x38a, 1, 37⟩, ⟨0x38c, 0x38c, 1, 64⟩, ⟨0x38e, 0x38f, 1, 63⟩,
  ⟨0x391, 0x3a1, 1, 32⟩, ⟨0x3a3, 0x3ab, 1, 32⟩, ⟨0x3d8, 0x3ee, 2, 1⟩,
  ⟨0x400, 0x40f, 1, 80⟩, ⟨0x410, 0x42f, 1, 32⟩, ⟨0x460, 0x480, 2, 1⟩, ⟨0x48a, 0x4be, 2, 1⟩,
  ⟨0x4c1, 0x4cd, 2, 1⟩, ⟨0x4d0, 0x52e, 2, 1⟩,
  ⟨0x531, 0x556, 1, 48⟩,
  ⟨0x1e00, 0x1e94, 2, 1⟩, ⟨0x1ea0, 0x1efe, 2, 1⟩]

def CapitalRun.small? (r : CapitalRun) (code : Nat) : Option Nat :=
  if r.first ≤ code ∧ code ≤ r.last ∧ (code - r.first) % r.step = 0 then some (code + r.shift)
  else none

def lower (c : Char) : Char :=
  match capitalRuns.findSome? fun r => r.small? c.toNat with
  | some code => Char.ofNat code
  | none => c

/-- The characters that a character of a domain name stands for: full stops of other scripts are full
stops, wide characters are narrow ones, and soft hyphens and joiners of words are nothing. -/
def domainChar (c : Char) : List Char :=
  let code := c.toNat
  if code = 0x3002 ∨ code = 0xff61 then ['.']
  else if 0xff01 ≤ code ∧ code ≤ 0xff5e then [lower (Char.ofNat (code - 0xfee0))]
  else if code = 0xad ∨ code = 0x200b ∨ code = 0x2060 ∨ code = 0xfeff
      ∨ 0xfe00 ≤ code ∧ code ≤ 0xfe0f then []
  else if code = 0x178 then ['\u00ff']
  else if code = 0x1e9e then ['\u00df']
  else [lower c]

/-- Controls, blanks, marks of direction, code points for private use and those that are no characters. -/
def unnamedRuns : List (Nat × Nat) := [
  (0x80, 0xa0), (0x2000, 0x200f), (0x2028, 0x202f), (0x205f, 0x206f), (0x3000, 0x3000),
  (0xe000, 0xf8ff), (0xfdd0, 0xfdef), (0xfff9, 0xffff), (0xe0000, 0x10ffff)]

/-- The characters that no domain name holds. -/
def isForbiddenInDomain (c : Char) : Bool :=
  c.toNat ≤ 32 || c.toNat = 127 || "#/:<>?@[\\]^|%".toList.contains c
    || unnamedRuns.any fun r => r.1 ≤ c.toNat && c.toNat ≤ r.2

/-- What labels in the ASCII form of other text start with. -/
def encodedLabelStart : List Char := "xn--".toList

/-- The ASCII form of a label. An encoded label has to be the form of some text beyond ASCII. -/
def asciiLabel? (label : List Char) : Option (List Char) :=
  let isPlain := label.all fun c => c.toNat < 128
  if encodedLabelStart.isPrefixOf label then
    if isPlain then do
      let rest := label.drop encodedLabelStart.length
      let text ← Punycode.decode? rest
      if text.any (fun c => 128 ≤ c.toNat) ∧ Punycode.encode text = rest
          ∧ text.flatMap domainChar = text ∧ !text.any isForbiddenInDomain then some label
      else none
    else none
  else if isPlain then some label
  else some (encodedLabelStart ++ Punycode.encode label)

/-- The ASCII form of a domain name. -/
def asciiDomain? (name : List Char) : Option (List Char) := do
  let name := name.flatMap domainChar
  if name.any isForbiddenInDomain then none
  let labels := (String.ofList name).splitOn "."
  return List.intercalate ['.'] (← labels.mapM fun label => asciiLabel? label.toList)

end SerumDex.Url
