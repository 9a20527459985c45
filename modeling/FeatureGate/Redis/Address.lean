import FeatureGate.Error
import FeatureGate.Text.Digits

/-!
# Addresses of servers

A server is named by a URL. It stands for an address: a host and the number of
a socket there, or the path of a local socket. There are URLs for encrypted
connections too, but no such connections, so these name no server.

A network is known by the addresses at which a server listens. Connecting fails
when the URL stands for no address, and when nobody listens there.
-/

namespace FeatureGate.Redis

/-- **Where a server listens.** -/
inductive Address where
  /-- A numbered socket of a host. -/
  | host (name : String) (number : Nat)
  /-- A socket in the file system. -/
  | socket (path : String)
deriving DecidableEq, Repr

namespace Address

/-- The schemes of servers on a network. -/
def networkSchemes : List String := ["redis", "valkey"]

/-- The schemes of local sockets. -/
def socketSchemes : List String := ["unix", "redis+unix", "valkey+unix"]

/-- The number of the socket of a server whose URL names none. -/
def standardNumber : Nat := 6379

/-- The number of a socket, which may follow a host: one of sixteen bits. -/
def number? : List Char → Option Nat
  | [] | [':'] => some standardNumber
  | ':' :: digits =>
    if digits.all Char.isDigit && Text.value digits < UInt16.size then
      some (Text.value digits)
    else none
  | _ => none

/-- Whether a host may not hold a character. -/
def isForbidden (c : Char) : Bool :=
  c.toNat < 0x20 || c.toNat = 0x7f
    || c ∈ [' ', '<', '>', '[', ']', '^', '|', '\\', '%']

/-- The address of an authority, the part of a URL between the slashes: a host,
after the name of a user if there is one. Brackets stand around a host given by
a number with colons. -/
def ofAuthority? (chars : List Char) : Option Address := do
  let place := (chars.reverse.takeWhile (· ≠ '@')).reverse
  if place.head? = some '[' then
    let name := place.tail.takeWhile (· ≠ ']')
    let rest := place.tail.drop name.length
    guard (!name.isEmpty && rest.head? = some ']'
      && name.all fun c => (Text.digit? c).isSome || c = ':' || c = '.')
    return host (String.ofList name) (← number? rest.tail)
  else
    let name := place.takeWhile (· ≠ ':')
    guard (!name.isEmpty && !name.any isForbidden)
    return host (String.ofList name).toLower (← number? (place.drop name.length))

/-- The value of a parameter of a query; of repeated ones the last counts. -/
def parameter? (query : String) (name : String) : Option String :=
  ((query.splitOn "&").filterMap fun pair =>
    match pair.splitOn "=" with
    | [] => none
    | key :: value => if key = name then some ("=".intercalate value) else none).getLast?

/-- Whether the parameters name a version of the protocol there is, or none. -/
def isSpoken (query : String) : Bool :=
  (parameter? query "protocol").all (· ∈ ["2", "resp2", "3", "resp3"])

/-- Whether a text is the number of a database, or empty. -/
def isDatabase (chars : List Char) : Bool :=
  chars.isEmpty || (Text.signed? chars).isSome

/-- The address of the part of a URL after the scheme of a server on a network:
the path names a database. -/
def ofNetworkUrl? (chars : List Char) : Option Address := do
  guard ("://".toList.isPrefixOf chars)
  let rest := chars.drop 3
  let authority := rest.takeWhile fun c => c ∉ ['/', '?', '#']
  let target := (rest.drop authority.length).takeWhile (· ≠ '#')
  let path := target.takeWhile (· ≠ '?')
  let database := ((path.dropWhile (· = '/')).reverse.dropWhile (· = '/')).reverse
  guard (isDatabase database && isSpoken (String.ofList (target.drop (path.length + 1))))
  ofAuthority? authority

/-- The address of the part of a URL after the scheme of a local socket: a path
from the root, on this host. -/
def ofSocketUrl? (chars : List Char) : Option Address := do
  let target := (chars.drop 1).takeWhile (· ≠ '#')
  let place := target.takeWhile (· ≠ '?')
  let query := String.ofList (target.drop (place.length + 1))
  let path := if "//localhost".toList.isPrefixOf place then place.drop 11
    else if "//".toList.isPrefixOf place then place.drop 2
    else place
  guard (path.head? = some '/' && isSpoken query
    && (parameter? query "db").all fun text => isDatabase text.toList)
  return socket (String.ofList path)

/-- **The address of a URL.** -/
def ofUrl? (url : String) : Option Address :=
  let chars := url.toList
  let scheme := chars.takeWhile (· ≠ ':')
  let name := (String.ofList scheme).toLower
  if name ∈ networkSchemes then ofNetworkUrl? (chars.drop scheme.length)
  else if name ∈ socketSchemes then ofSocketUrl? (chars.drop scheme.length)
  else none

end Address

/-- **A network**: whether a server listens at an address. -/
abbrev Network := Address → Bool

/-- The network without servers. -/
def Network.empty : Network := fun _ => false

/-- The network with one server, which a URL names. -/
def Network.serving (url : String) : Network := fun address =>
  Address.ofUrl? url = some address

/-- **Connect to the server of a URL**: its address. -/
def connect (network : Network) (url : String) : Except StoreError Address :=
  match Address.ofUrl? url with
  | none => .error (.server "the URL names no server")
  | some address =>
    if network address then .ok address else .error (.server "no server listens there")

end FeatureGate.Redis
