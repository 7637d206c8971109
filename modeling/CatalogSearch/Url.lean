import CatalogSearch.HostName
import CatalogSearch.Number.Whole
import CatalogSearch.Text.Octets
import CatalogSearch.Url.Address

/-!
# Addresses on the web

An address has a scheme, an authority (who asks, the host, the port), a path, a query and a
fragment, of which most may be missing. Reading brings it into one form: scheme and host in lower
case, the usual port of a scheme left out, `.` and `..` taken out of the path, and every part
percent-encoded.

* `Url.read`: the address that a text writes, or why it writes none.
* `Url.text`: the text of an address.
* `Url.isAbsolute`, `Url.requestLine`: whether an address says whom to ask, and what to ask for.
* `Url.checkHost`: whether the host can be asked.
-/

namespace CatalogSearch

open Text

structure Url where
  scheme : List Char
  userinfo : List Char
  host : List Char
  port : Option Int
  path : List Char
  query : Option (List Char)
  fragment : Option (List Char)
deriving Repr

/-- Why a text is no address. -/
inductive UrlRefusal where
  | tooLong
  /-- A part has grown too long by being encoded. -/
  | longPart (name : String)
  | control (c : Char) (position : Nat)
  /-- A control in a part that is put into an address. -/
  | controlIn (name : String) (c : Char) (position : Nat)
  | badV4 (host : String)
  | badV6 (host : String)
  | badName (host : String)
  | badPort (text : String)
  /-- Without a scheme or an authority, the path begins with what would be read as one. -/
  | doubleSlash
  | colon
deriving DecidableEq, Repr

def UrlRefusal.message : UrlRefusal → String
  | tooLong => "URL too long"
  | longPart name => "URL component '" ++ name ++ "' too long"
  | control c i =>
    "Invalid non-printable ASCII character in URL, " ++ quoted (String.ofList [c]) ++
      " at position " ++ toString i ++ "."
  | controlIn name c i =>
    "Invalid non-printable ASCII character in URL " ++ name ++ " component, " ++
      quoted (String.ofList [c]) ++ " at position " ++ toString i ++ "."
  | badV4 h => "Invalid IPv4 address: " ++ quoted h
  | badV6 h => "Invalid IPv6 address: " ++ quoted h
  | badName h => "Invalid IDNA hostname: " ++ quoted h
  | badPort p => "Invalid port: " ++ quoted p
  | doubleSlash => "Relative URLs cannot have a path starting with '//'"
  | colon => "Relative URLs cannot have a path starting with ':'"

/-- Why a host cannot be asked. -/
inductive HostRefusal where
  | badName (why : HostName.NameRefusal)
  /-- There are characters beyond ASCII; these are the first ones. -/
  | notAscii (run : List Char) (position : Nat)
deriving DecidableEq, Repr

def HostRefusal.message : HostRefusal → String
  | badName why => why.message
  | notAscii run i =>
    let what :=
      match run with
      | [c] => " '" ++ String.ofList (codeEscape c.toNat) ++ "' in position " ++ toString i
      | _ => "s in position " ++ toString i ++ "-" ++ toString (i + run.length - 1)
    "'ascii' codec can't encode character" ++ what ++ ": ordinal not in range(128)"

namespace Url

/-- The longest text that is read as an address. -/
def lengthLimit : Nat := 65536

/-- Graphic ASCII characters but the ones given. -/
def graphicBut (others : List Char) (c : Char) : Bool :=
  ' ' < c && c ≤ '~' && !others.contains c

def isFragmentSafe : Char → Bool := graphicBut ['"', '<', '>', '\x60']

def isQuerySafe : Char → Bool := graphicBut ['"', '#', '<', '>']

def isPathSafe : Char → Bool := graphicBut ['"', '#', '<', '>', '?', '\x60', '\x7b', '\x7d']

def isUserinfoSafe (c : Char) : Bool :=
  isPathSafe c && !("/;=@[\\]^|".toList.contains c)

def isHostSafe (c : Char) : Bool :=
  c.isAlphanum || "-._~!$&'()*+,;=\"`\x7b\x7d%|\\".toList.contains c

/-- The parts of a text before they are brought into form. -/
structure Draft where
  scheme : List Char
  authority : List Char
  path : List Char
  query : Option (List Char)
  fragment : Option (List Char)

/-- Splits off what stands behind the first `sep`, if there is one. -/
def cut (sep : Char) (cs : List Char) : List Char × Option (List Char) :=
  (before sep cs, if cs.contains sep then some (after sep cs) else none)

/-- Splits off the scheme: a letter and letters, digits, `+`, `-` and `.`, or nothing, before a
colon. -/
def cutScheme (cs : List Char) : List Char × List Char :=
  let name := before ':' cs
  let isScheme :=
    match name with
    | [] => true
    | c :: r => c.isAlpha && r.all fun c => c.isAlphanum || c == '+' || c == '-' || c == '.'
  if isScheme && cs.contains ':' then (name, after ':' cs) else ([], cs)

/-- Cuts a text at its marks. -/
def draft (cs : List Char) : Draft :=
  let (cs, fragment) := cut '#' cs
  let (cs, query) := cut '?' cs
  let (scheme, rest) := cutScheme cs
  match rest with
  | '/' :: '/' :: r => ⟨scheme, before '/' r, r.dropWhile (· ≠ '/'), query, fragment⟩
  | path => ⟨scheme, [], path, query, fragment⟩

/-- Cuts an authority: what stands before the last `@`, the host, and what stands behind it. A host
in brackets goes to the last bracket, any other to the first colon. -/
def cutAuthority (cs : List Char) : List Char × List Char × List Char :=
  let rest := (cs.reverse.takeWhile (· ≠ '@')).reverse
  let userinfo := if cs.contains '@' then cs.take (cs.length - rest.length - 1) else []
  let hostLength :=
    if rest.head? = some '[' ∧ rest.contains ']' then
      rest.length - (rest.reverse.takeWhile (· ≠ ']')).length
    else (before ':' rest).length
  let behind := rest.drop hostLength
  (userinfo, rest.take hostLength, if behind.head? = some ':' then behind.drop 1 else behind)

/-- The host in its form: a numeric address is checked, a name is in lower case and in ASCII. -/
def readHost (cs : List Char) : Except UrlRefusal (List Char) :=
  if Address.isFourPart cs then
    if Address.isV4 cs then .ok cs else .error (.badV4 (String.ofList cs))
  else if cs.head? = some '[' ∧ cs.getLast? = some ']' then
    let inner := (cs.drop 1).dropLast
    if Address.isV6 inner then .ok inner else .error (.badV6 (String.ofList cs))
  else if cs.all (·.toNat < 0x80) then .ok (percentEncode isHostSafe (cs.map Char.toLower))
  else
    match HostName.inAscii cs with
    | .ok name => .ok name
    | .error _ => .error (.badName (String.ofList cs))

/-- The usual port of a scheme. -/
def usualPort? (scheme : List Char) : Option Int :=
  match String.ofList scheme with
  | "ftp" => some 21
  | "http" | "ws" => some 80
  | "https" | "wss" => some 443
  | _ => none

/-- The port, if there is one and it is not the usual one. -/
def readPort (scheme cs : List Char) : Except UrlRefusal (Option Int) :=
  if cs = [] then .ok none
  else
    match readWhole (String.ofList cs) with
    | .ok n => .ok (if usualPort? scheme = some n then none else some n)
    | .error _ => .error (.badPort (String.ofList cs))

/-- Takes `.` out of a path, and `..` with the part before it. -/
def withoutDots (path : List Char) : List Char :=
  let step := fun (done : List (List Char)) part =>
    if part = ['.'] then done
    else if part = ['.', '.'] then if done = [[]] then done else done.dropLast
    else done ++ [part]
  List.intercalate ['/'] ((pieces '/' path).foldl step [])

/-- The address of parts, each brought into form. -/
def ofDraft (d : Draft) : Except UrlRefusal Url := do
  let (userinfo, host, port) := cutAuthority d.authority
  let host ← readHost host
  let port ← readPort d.scheme port
  let isNamed := d.scheme ≠ [] ∨ userinfo ≠ [] ∨ host ≠ [] ∨ port.isSome
  if !isNamed ∧ d.path.take 2 = ['/', '/'] then .error .doubleSlash
  else if !isNamed ∧ d.path.head? = some ':' then .error .colon
  else
    return {
      scheme := d.scheme.map Char.toLower
      userinfo := percentEncode isUserinfoSafe userinfo
      host := host
      port := port
      path := percentEncode isPathSafe (if isNamed then withoutDots d.path else d.path)
      query := d.query.map (percentEncode isQuerySafe)
      fragment := d.fragment.map (percentEncode isFragmentSafe)
    }

/-- Whether a character is an ASCII control. -/
def isControl (c : Char) : Bool := c < ' ' || c == '\x7f'

/-- Refuses a part that is put into an address. -/
def checkPart (name : String) (cs : List Char) : Except UrlRefusal Unit :=
  if lengthLimit < cs.length then .error (.longPart name)
  else
    match cs.find? isControl with
    | some c => .error (.controlIn name c (cs.takeWhile (!isControl ·)).length)
    | none => .ok ()

/-- **Reads an address.** -/
def read (s : String) : Except UrlRefusal Url :=
  let cs := s.toList
  if lengthLimit < cs.length then .error .tooLong
  else
    match cs.find? isControl with
    | some c => .error (.control c (cs.takeWhile (!isControl ·)).length)
    | none => ofDraft (draft cs)

/-- Host and port as they are written; a host with a colon in it stands in brackets. -/
def location (u : Url) : List Char :=
  (if u.host.contains ':' then '[' :: u.host ++ [']'] else u.host) ++
    match u.port with
    | none => []
    | some n => ':' :: (toString n).toList

/-- The authority as it is written. -/
def authority (u : Url) : List Char :=
  (if u.userinfo = [] then [] else u.userinfo ++ ['@']) ++ u.location

/-- **The text of an address.** -/
def text (u : Url) : String :=
  String.ofList
    ((if u.scheme = [] then [] else u.scheme ++ [':']) ++
      (if u.authority = [] then [] else '/' :: '/' :: u.authority) ++
      u.path ++ (u.query.map ('?' :: ·)).getD [] ++ (u.fragment.map ('#' :: ·)).getD [])

/-- Whether an address names a scheme and a host. -/
def isAbsolute (u : Url) : Bool :=
  !u.scheme.isEmpty && !u.host.isEmpty

/-- What is asked of the host: path and query. -/
def requestLine (u : Url) : List Char :=
  (if u.path = [] then ['/'] else u.path) ++ (u.query.map ('?' :: ·)).getD []

/-- **The address to send a request to.** One that is not absolute is taken to lie below a base,
whatever else than path and query it has. -/
def below (base : Draft) (u : Url) : Except UrlRefusal Url :=
  if u.isAbsolute then .ok u
  else do
    let (path, query) := cut '?' (u.requestLine.dropWhile (· = '/'))
    checkPart "path" ('/' :: path)
    checkPart "query" (query.getD [])
    ofDraft { base with path := '/' :: path, query := query }

/-- **Refuses a host that cannot be asked**: a name that stands for one beyond ASCII has to stand
for a good one, and all that is written of the host has to be ASCII. -/
def checkHost (u : Url) : Except HostRefusal Unit :=
  match if HostName.isMarked u.host then HostName.labels u.host else .ok [] with
  | .error why => .error (.badName why)
  | .ok _ =>
    let isAscii := fun (c : Char) => c.toNat < 0x80
    match u.location.dropWhile isAscii with
    | [] => .ok ()
    | rest =>
      .error (.notAscii (rest.takeWhile (!isAscii ·)) (u.location.takeWhile isAscii).length)

/-- The two parts of what stands before the host, decoded; none if both are empty. -/
def credentials? (u : Url) : Option (String × String) :=
  let name := percentDecode (before ':' u.userinfo)
  let word := percentDecode (after ':' u.userinfo)
  if name = "" ∧ word = "" then none else some (name, word)

end Url

end CatalogSearch
