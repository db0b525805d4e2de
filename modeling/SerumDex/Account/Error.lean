import SerumDex.Account.Address

namespace SerumDex

inductive DecodeError where
  | invalidPrefix (found : Bytes)
  | truncated (what : String) (needed actual : Nat)
  | unexpectedAccountFlags (expected found : String)
  | invalidQueueLength (len header slot : Nat)
  | countExceedsCapacity (count capacity : Nat)
  | invalidMint (mint : Address) (reason : String)
  deriving DecidableEq

/-- Byte values in decimal, in brackets. -/
def byteListText (bs : Bytes) : String :=
  "[" ++ ", ".intercalate (bs.map fun b => Nat.repr b.toNat) ++ "]"

def DecodeError.message : DecodeError → String
  | invalidPrefix found =>
    "Préfixe invalide : attendu \"serum\", trouvé " ++ byteListText found
  | truncated what needed actual =>
    "Données tronquées : " ++ needed.repr ++ " octets requis pour " ++ what ++ ", " ++ actual.repr
      ++ " disponibles"
  | unexpectedAccountFlags expected found =>
    "Flags de compte inattendus pour " ++ expected ++ " : " ++ found
  | invalidQueueLength len header slot =>
    "Longueur d'Event Queue invalide : (" ++ len.repr ++ " - " ++ header.repr
      ++ ") n'est pas un multiple de " ++ slot.repr
  | countExceedsCapacity count capacity =>
    "Event Queue incohérente : count " ++ count.repr ++ " > capacité " ++ capacity.repr
  | invalidMint mint reason =>
    "Impossible de décoder le mint " ++ mint.text ++ " : " ++ reason

end SerumDex
