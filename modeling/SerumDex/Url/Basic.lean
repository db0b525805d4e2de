import SerumDex.Url.Host

namespace SerumDex

/-- The part of an address that says where its scheme is served. -/
structure Authority where
  /-- Encoded, as the password is. -/
  username : List Char
  password : List Char
  host : Option Url.Host
  port : Option Nat

/-- An address whose parts are encoded. -/
structure Url where
  scheme : String
  authority : Option Authority
  path : List Char
  query : Option (List Char)
  fragment : Option (List Char)

namespace Authority

def hasCredentials (a : Authority) : Bool := !a.username.isEmpty || !a.password.isEmpty

def credentialsText (a : Authority) : String :=
  if a.hasCredentials then
    String.ofList a.username
      ++ (if a.password.isEmpty then "" else ":" ++ String.ofList a.password) ++ "@"
  else ""

/-- The host with its port. -/
def placeText (a : Authority) : String :=
  (a.host.map Url.Host.text).getD "" ++ (a.port.map fun port => ":" ++ port.repr).getD ""

def text (a : Authority) : String := a.credentialsText ++ a.placeText

/-- Without the name of a user and the password, if they are texts at all. -/
def withoutCredentials (a : Authority) : Authority :=
  if (Url.decode? a.username).isSome
      && (!a.username.isEmpty || (Url.decode? a.password).isSome) then
    { a with username := [], password := [] }
  else a

end Authority

namespace Url

def host? (url : Url) : Option Host := url.authority.bind Authority.host

/-- The query behind its question mark. -/
def queryText (url : Url) : String := (url.query.map fun q => "?" ++ String.ofList q).getD ""

/-- The path, so that it cannot be taken for a host. -/
def pathText (url : Url) : String :=
  match url.authority, url.path with
  | none, '/' :: '/' :: _ => "/." ++ String.ofList url.path
  | _, path => String.ofList path

def text (url : Url) : String :=
  url.scheme ++ ":" ++ (url.authority.map fun a => "//" ++ a.text).getD "" ++ url.pathText
    ++ url.queryText ++ (url.fragment.map fun f => "#" ++ String.ofList f).getD ""

def withoutCredentials (url : Url) : Url :=
  { url with authority := url.authority.map Authority.withoutCredentials }

end Url

end SerumDex
