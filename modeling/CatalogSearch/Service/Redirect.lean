import CatalogSearch.Failure

/-!
# Redirects

A path that is served without the slashes at its end is redirected there. The address to go to is
that which was asked for, with the other path. Its host is taken as the client wrote it if that is a
plain host; if not, host and port are put together anew, which asks for a scheme with a usual port.
There the port is written even if none was given.

* `Url.redirection`: where an address is redirected.
-/

namespace CatalogSearch.Url

open Text

/-- Characters of names, whether they are percent-encoded or not. -/
def isNameChar (c : Char) : Bool :=
  c.isAlphanum || "-._~!$&'()*+,;=%".toList.contains c

/-- Characters of numeric addresses in groups, but for their zones. -/
def isGroupChar (c : Char) : Bool :=
  (hexValue? c).isSome || c == ':' || c == '.'

/-- Whether host and port are written in the plain way. -/
def hasPlainHost (u : Url) : Bool :=
  u.host.all (if u.host.contains ':' then isGroupChar else isNameChar) && u.port.all (0 ≤ ·)

/-- The schemes that a service is asked with. -/
def serviceSchemes : List String := ["http", "https", "ws", "wss"]

/-- Host and port put together anew. -/
def fullLocation (u : Url) : List Char :=
  let port := match u.port with
    | some n => toString n
    | none => "None"
  { u with port := none }.location ++ ':' :: port.toList

/-- Characters that an address is sent with. -/
def isSendable (c : Char) : Bool :=
  c.isAlphanum || "_.-~:/%#?=@[]!$&'()*+,;".toList.contains c

/-- **The address with another path**, as it is sent to the client. -/
def redirection (u : Url) (path : String) : Except Failure String := do
  let scheme := String.ofList u.scheme
  let location ←
    if u.hasPlainHost then .ok u.location
    else if serviceSchemes.contains scheme then .ok u.fullLocation
    else .error (.unknownPort scheme)
  let query := match u.query with
    | none | some [] => []
    | some q => '?' :: q
  let written := u.scheme ++ "://".toList ++ location ++ path.toList ++ query
  return String.ofList (percentEncode isSendable written)

end CatalogSearch.Url
