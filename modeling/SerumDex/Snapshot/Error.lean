import SerumDex.Account.Error

namespace SerumDex

/-- Why the bytes of an account could not be had. -/
inductive FetchError where
  | notFound (address : Address)
  | transport (address : Address) (reason : String)
  | rpc (address : Address) (reason : String)
  deriving DecidableEq

def FetchError.message : FetchError → String
  | notFound address => "Compte " ++ address.text ++ " introuvable"
  | transport address reason => "Erreur réseau pour " ++ address.text ++ " : " ++ reason
  | rpc address reason => "Erreur RPC pour " ++ address.text ++ " : " ++ reason

inductive SnapshotError where
  | fetch (source : FetchError)
  | decode (account : String) (address : Address) (source : DecodeError)
  | lookup (mint : Address) (reason : String)
  | aggregate (errors : List SnapshotError)

namespace SnapshotError

mutual

def message : SnapshotError → String
  | fetch source => source.message
  | decode account address source =>
    "Décodage de " ++ account ++ " (" ++ address.text ++ ") échoué : " ++ source.message
  | lookup mint reason =>
    "Décimales introuvables pour le mint " ++ mint.text ++ " : " ++ reason
  | aggregate errors =>
    errors.length.repr ++ " sous-requêtes ont échoué : " ++ "; ".intercalate (messages errors)

def messages : List SnapshotError → List String
  | [] => []
  | e :: es => e.message :: messages es

end

/-- Several errors as one: none for no error, the error itself if it is alone. -/
def ofList? : List SnapshotError → Option SnapshotError
  | [] => none
  | [e] => some e
  | es => some (aggregate es)

theorem ofList?_eq_none_iff {es : List SnapshotError} : ofList? es = none ↔ es = [] := by
  match es with
  | [] => exact ⟨fun _ => rfl, fun _ => rfl⟩
  | [_] => exact ⟨nofun, nofun⟩
  | _ :: _ :: _ => exact ⟨nofun, nofun⟩

theorem ofList?_eq_some {es : List SnapshotError} {e : SnapshotError} (h : ofList? es = some e) :
    es = [e] ∨ e = aggregate es := by
  match es, h with
  | [_], h => exact .inl (congrArg (fun e => [e]) (Option.some.inj h))
  | _ :: _ :: _, h => exact .inr (Option.some.inj h).symm

/-- The messages from an error down to what caused it. A fetch error speaks for itself, so only a
failed decoding has a cause below it. -/
def chain : SnapshotError → List String
  | e@(decode _ _ source) => [e.message, source.message]
  | e => [e.message]

end SnapshotError

end SerumDex
