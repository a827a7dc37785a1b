import ODataBrowser.Fault
import ODataBrowser.Gateway.Host
import ODataBrowser.Query.Component

/-!
# Targets of requests

A target is a path of the gateway, or the address of any host with a path, which leads to the gateway all the
same. A path is read as it arrives: without dot segments, and with its percent escapes decoded, by the sender and
by the receiver.
-/

namespace ODataBrowser

open Text

/-! ### Paths -/

/-- The parts of a path without dot segments, where `kept` holds the parts before, nearest first. -/
def settle (kept : List (List Char)) : List (List Char) → List (List Char)
  | [] => kept.reverse
  | part :: rest =>
    if part = ['.'] then settle kept rest
    else if part = ['.', '.'] then settle (if kept = [[]] then kept else kept.tail) rest
    else settle (part :: kept) rest

/-- The path without dot segments. -/
def settledPath (path : List Char) : List Char :=
  joinWith ['/'] (settle [] (splitAtEach '/' path))

/-- The path that arrives where a path is sent. -/
def arrivingPath (path : List Char) : List Char :=
  Query.decodeComponent (Query.decodeComponent path)

/-- A path as it is sent: its parts are encoded. -/
def encodePath (path : List Char) : List Char :=
  joinWith ['/'] ((splitAtEach '/' path).map Query.encodeComponent)

/-! ### Targets -/

/-- What a request is sent to. -/
structure Target where
  /-- The scheme in lower case, empty where there is none. -/
  scheme : List Char
  host : List Char
  /-- The path without dot segments, if the target holds more than a path. -/
  path : List Char
  /-- The query string. -/
  query : List Char
deriving DecidableEq, Repr

namespace Target

/-- Whether the character may stand in a target: any but the control characters of ASCII. -/
def isTargetChar (c : Char) : Bool :=
  ' ' ≤ c && c != '\x7f'

/-- The greatest length of a target. -/
def maxLength : Nat := 65536

/-- Whether the character may stand in a scheme, which a letter starts. -/
def isSchemeChar (c : Char) : Bool :=
  c.isAlphanum || "+.-".toList.contains c

/-- Splits off a scheme, which may be empty, with the colon behind it. -/
def splitScheme (cs : List Char) : List Char × List Char :=
  match splitWhile isSchemeChar cs with
  | (scheme, ':' :: rest) =>
    if (scheme.headD 'a').isAlpha then (scheme.map Char.toLower, rest) else ([], cs)
  | _ => ([], cs)

/-- Splits off an authority. -/
def splitAuthority : List Char → List Char × List Char
  | '/' :: '/' :: rest => splitWhile (fun c => c != '/' && c != '?') rest
  | cs => ([], cs)

/-- An authority: whether it names a user, the host, and what stands behind the colon. -/
structure Authority where
  hasUser : Bool
  host : List Char
  behind : List Char

/-- The length of the text through its last closing bracket, zero where it has none. -/
def lengthInBrackets (cs : List Char) : Nat :=
  (cs.reverse.dropWhile (· != ']')).length

/-- Splits an authority into its parts. -/
def Authority.split (cs : List Char) : Authority :=
  let (user, rest) := match splitWhile (· != '@') cs with
    | (user, '@' :: rest) => (user, rest)
    | _ => ([], cs)
  let length :=
    if rest.head? = some '[' ∧ lengthInBrackets rest ≠ 0 then lengthInBrackets rest
    else (rest.takeWhile fun c => c != ':' && c != '@').length
  let behind := rest.drop length
  ⟨!user.isEmpty, rest.take length, if behind.head? = some ':' then behind.tail else behind⟩

/-- The number behind the colon of an authority, none where it says nothing new about the scheme. -/
def Authority.number (scheme : List Char) (a : Authority) : Except Fault (Option Int) :=
  if a.behind.isEmpty then .ok none
  else
    match Numeral.readInt a.behind with
    | none => .error .badTarget
    | some n =>
      let standard := [("ftp", 21), ("http", 80), ("https", 443), ("ws", 80), ("wss", 443)]
      .ok (if standard.lookup (String.ofList scheme) = some n then none else some n)

/-- Whether a path may stand on its own. -/
def isLonePath : List Char → Bool
  | '/' :: '/' :: _ => false
  | ':' :: _ => false
  | _ => true

/-- Reads a target, if a request can be sent to it. What follows a number sign is not sent. -/
def read (cs : List Char) : Except Fault Target := do
  if cs.length > maxLength || !cs.all isTargetChar then throw .badTarget
  let (scheme, rest) := splitScheme (cs.takeWhile (· != '#'))
  let (authority, rest) := splitAuthority rest
  let (path, query) := splitWhile (· != '?') rest
  let a := Authority.split authority
  if !Host.isValid a.host then throw .badTarget
  let number ← a.number scheme
  if a.hasUser || !a.host.isEmpty || number.isSome || !scheme.isEmpty then
    return ⟨scheme, a.host, settledPath path, query.tail⟩
  else if isLonePath path then return ⟨scheme, a.host, path, query.tail⟩
  else throw .badTarget

/-- Whether the target is the address of a host. -/
def isAddress (t : Target) : Bool :=
  !t.scheme.isEmpty && !t.host.isEmpty

/-- Checks that requests to the target can be carried out: not to a host of an unknown scheme, to one whose
address has colons, or to a socket. -/
def checkScheme (t : Target) : Except Fault Unit :=
  let isAmong (schemes : List String) : Bool := schemes.any fun s => s.toList = t.scheme
  if !t.isAddress then .ok ()
  else if !isAmong ["http", "https", "ws", "wss"] then .error .noSuchKey
  else if Host.isBracketed t.host then .error .unreadable
  else if isAmong ["ws", "wss"] then .error .socketTarget
  else .ok ()

/-- The path that arrives. -/
def arriving (t : Target) : List Char :=
  if t.isAddress then arrivingPath (if t.path.isEmpty then ['/'] else t.path)
  else arrivingPath (settledPath ('/' :: t.path.dropWhile (· == '/')))

end Target

end ODataBrowser
