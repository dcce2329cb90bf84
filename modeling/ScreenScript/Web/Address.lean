import ScreenScript.Text.Integer
import ScreenScript.Text.Literal
import ScreenScript.Text.LowerCase
import ScreenScript.Text.Blank
import ScreenScript.Web.HostName.Label
import ScreenScript.Web.Numeric
import ScreenScript.Web.Quoting

/-!
# Web addresses

A web address is read once and brought to one form: scheme and host in lower case, no default port,
no dots for folders, and all characters that do not belong quoted. What it is sent to is its written
form.

* `Address.ofText` — the address of a text, or what is wrong with it
* `Address.toText` — its written form
* `Address.isAbsolute` — whether it says where to send something to
-/

namespace ScreenScript

/-- What is wrong with a web address. -/
inductive AddressFlaw
  /-- it is too long -/
  | overlong
  /-- it holds a control character -/
  | control (c : Char) (index : Nat)
  /-- its host looks like four numbers, but is not four octets -/
  | quad (host : Text)
  /-- its host stands in brackets, but is not eight groups -/
  | grouped (host : Text)
  /-- its host is no name -/
  | name (host : Text)
  /-- its port is no number -/
  | port (written : Text)
  /-- its path, behind a host, starts with no slash -/
  | detachedPath
  /-- its path, behind neither a scheme nor a host, starts with two slashes -/
  | hostlike
  /-- its path, behind neither a scheme nor a host, starts with a colon -/
  | portlike
  deriving DecidableEq, Repr

/-- The flaw in words. -/
def AddressFlaw.message : AddressFlaw → Text
  | overlong => "URL too long".toList
  | control c index =>
    "Invalid non-printable ASCII character in URL, ".toList ++ Text.literal [c] ++
      " at position ".toList ++ Text.ofNat index ++ ['.']
  | quad host => "Invalid IPv4 address: ".toList ++ Text.literal host
  | grouped host => "Invalid IPv6 address: ".toList ++ Text.literal host
  | name host => "Invalid IDNA hostname: ".toList ++ Text.literal host
  | port written => "Invalid port: ".toList ++ Text.literal written
  | detachedPath => "For absolute URLs, path must be empty or begin with '/'".toList
  | hostlike => "Relative URLs cannot have a path starting with '//'".toList
  | portlike => "Relative URLs cannot have a path starting with ':'".toList

/-- A web address. -/
structure Address where
  /-- how to send something -/
  scheme : Text
  /-- as whom to send it -/
  user : Text
  /-- where to send it -/
  host : Text
  /-- to which port, if not to the one of the scheme -/
  port : Option Int
  /-- to which resource there -/
  path : Text
  /-- with which query -/
  query : Option Text
  /-- the part of the resource that is meant -/
  fragment : Option Text
  deriving DecidableEq, Repr

namespace Address

/-! ## Components -/

/-- Whether a character may stand in a scheme. -/
def isSchemeChar (c : Char) : Bool := c.isAlphanum || c = '+' || c = '.' || c = '-'

/-- A text cut behind its scheme: a letter and more characters before a colon, or nothing before
one. -/
def cutScheme (t : Text) : Text × Text :=
  let scheme := t.takeWhile isSchemeChar
  match t.drop scheme.length with
  | ':' :: rest => if scheme.head?.all Char.isAlpha then (scheme, rest) else ([], t)
  | _ => ([], t)

/-- A text cut before the first of some characters. -/
def cutBefore (marks : Text) (t : Text) : Text × Text :=
  let front := t.takeWhile fun c => !marks.elem c
  (front, t.drop front.length)

/-- What stands behind a mark at the start of a text, up to the first of some characters. -/
def cutBehind (mark : Char) (marks : Text) : Text → Option Text × Text
  | [] => (none, [])
  | c :: rest =>
    if c = mark then (some (cutBefore marks rest).1, (cutBefore marks rest).2) else (none, c :: rest)

/-- A text cut behind what stands between two slashes at its start and the path. -/
def cutAuthority : Text → Text × Text
  | '/' :: '/' :: rest => cutBefore "/?#".toList rest
  | t => ([], t)

/-- A host and a port, cut apart. A host may stand in brackets and hold colons there. -/
def cutPort (t : Text) : Text × Text :=
  let host :=
    match if t.head? = some '[' then t.cutLast? ']' else none with
    | some (front, _) => front ++ [']']
    | none => t.takeWhile (· ≠ ':')
  let rest := t.drop host.length
  (host, if rest.head? = some ':' then rest.drop 1 else rest)

/-! ## One form for each component -/

/-- The ports that need not be said. -/
def defaultPorts : List (Text × Int) := [
  ("ftp".toList, 21), ("http".toList, 80), ("https".toList, 443), ("ws".toList, 80),
  ("wss".toList, 443)]

/-- The port of a scheme in lower case that a text stands for, if it has to be said. -/
def readPort (scheme t : Text) : Except AddressFlaw (Option Int) :=
  if t = [] then
    .ok none
  else
    match Text.readInt? t.trim with
    | some port => .ok (if defaultPorts.lookup scheme = some port then none else some port)
    | none => .error (.port t)

/-- The host that a text stands for. -/
def readHost (t : Text) : Except AddressFlaw Text :=
  if Numeric.looksLikeQuad t then
    if Numeric.isQuad t then .ok t else .error (.quad t)
  else if t.head? = some '[' && t.getLast? = some ']' then
    if Numeric.isGrouped (t.drop 1).dropLast then .ok (t.drop 1).dropLast else .error (.grouped t)
  else if t.isAscii then
    .ok (Component.host.quote t.lower)
  else
    match HostName.encode? t.lower with
    | some name => .ok name
    | none => .error (.name t)

/-- The folders of a path without dots, behind those of `kept`, the last one first: one dot stands
for the folder itself, two for the one above it. Above the topmost one there is none. -/
def withoutDots (kept : List Text) : List Text → List Text
  | [] => kept.reverse
  | folder :: rest =>
    if folder = ['.'] then withoutDots kept rest
    else if folder = ['.', '.'] then withoutDots (if kept = [[]] then kept else kept.drop 1) rest
    else withoutDots (folder :: kept) rest

/-- The path without dots for folders. -/
def plainPath (t : Text) : Text := ['/'].intercalate (withoutDots [] (t.fields '/'))

/-- The greatest length of an address. -/
def maxLength : Nat := 65536

/-- A control character of ASCII. -/
def isControl (c : Char) : Bool := c.toNat < 0x20 || c.toNat = 0x7F

/-- The flaw of a text as a whole. -/
def textFlaw? (t : Text) : Option AddressFlaw :=
  if maxLength < t.length then
    some .overlong
  else
    match t.find? isControl with
    | some c => some (.control c (t.takeWhile fun d => !isControl d).length)
    | none => none

/-- The address that a text stands for, or its first flaw. -/
def ofText (t : Text) : Except AddressFlaw Address := do
  if let some flaw := textFlaw? t then
    throw flaw
  let (scheme, rest) := cutScheme t
  let (authority, rest) := cutAuthority rest
  let (path, rest) := cutBefore "?#".toList rest
  let (query, rest) := cutBehind '?' "#".toList rest
  let (fragment, _) := cutBehind '#' [] rest
  let (user, place) := (authority.cutLast? '@').getD ([], authority)
  let (host, written) := cutPort place
  let user := Component.user.quote user
  let host ← readHost host
  let port ← readPort scheme written
  let isRelative := scheme = [] && user = [] && host = [] && port = none
  if isRelative && path.take 2 = ['/', '/'] then
    throw .hostlike
  if isRelative && path.head? = some ':' then
    throw .portlike
  return {
    scheme := scheme.lower
    user
    host
    port
    path := Component.path.quote (if isRelative then path else plainPath path)
    query := query.map Component.query.quote
    fragment := fragment.map Component.fragment.quote }

/-! ## Written forms -/

/-- User, host and port. -/
def authority (a : Address) : Text :=
  (if a.user = [] then [] else a.user ++ ['@']) ++
    (if a.host.elem ':' then '[' :: a.host ++ [']'] else a.host) ++
    match a.port with
    | some port => ':' :: Text.ofInt port
    | none => []

/-- The query behind its mark. -/
def queryText (a : Address) : Text :=
  match a.query with
  | some query => '?' :: query
  | none => []

/-- The written form of an address. -/
def toText (a : Address) : Text :=
  (if a.scheme = [] then [] else a.scheme ++ [':']) ++
    (if a.authority = [] then [] else '/' :: '/' :: a.authority) ++ a.path ++ a.queryText ++
    match a.fragment with
    | some fragment => '#' :: fragment
    | none => []

/-- Whether an address says where to send something to, and how. -/
def isAbsolute (a : Address) : Bool := a.scheme ≠ [] && a.host ≠ []

/-- What an address asks for where it does not say from whom: its path and query, behind one
slash. -/
def target (a : Address) : Text :=
  '/' :: ((if a.path = [] then ['/'] else a.path) ++ a.queryText).dropWhile (· = '/')

/-- What a request to an address is sent to. -/
def sent (a : Address) : Text := if a.isAbsolute then a.toText else a.target

/-- What an address with a scheme and without a host, which takes the host of another one, lacks. -/
def completionFlaw? (a : Address) : Option AddressFlaw :=
  if a.scheme ≠ [] && a.host = [] && a.path ≠ [] && a.path.head? ≠ some '/' then
    some .detachedPath
  else
    none

end Address

end ScreenScript
