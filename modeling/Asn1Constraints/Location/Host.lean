import Asn1Constraints.Location.Address
import Asn1Constraints.Location.Basic
import Asn1Constraints.Location.DomainName

/-!
What stands between the double slash and the path: a user, a host, and the number
of a service. The host is a domain name or an address where the scheme is one that
browsers know, and any text without certain marks elsewhere.
-/

namespace Asn1Constraints.Location

def isSpecial (scheme : String) : Bool :=
  ["file", "ftp", "http", "https", "ws", "wss"].contains scheme

def usualService? : String → Option Nat
  | "ftp" => some 21
  | "http" | "ws" => some 80
  | "https" | "wss" => some 443
  | _ => none

/-! Hosts. -/

def isForbiddenInHost (c : Char) : Bool :=
  ['\x00', '\t', '\n', '\r', ' ', '#', '/', ':', '<', '>', '?', '@', '[', '\\', ']', '^',
    '|'].contains c

/-- A name in ASCII letters, or the address that a name of numbers stands for. -/
def readDomain (host : List Char) : Except LocationFault String :=
  match DomainName.toAscii? (Percent.decode host) with
  | none => .error .badName
  | some [] => .error .emptyHost
  | some name =>
    if Address.endsInNumber name then
      match Address.shortBytes? name with
      | some bytes => .ok (Address.bytesText bytes)
      | none => .error .badShortAddress
    else .ok (String.ofList name)

def readHost (scheme : String) (host : List Char) : Except LocationFault String :=
  match host with
  | '[' :: rest =>
    match if rest.getLast? = some ']' then Address.groups? rest.dropLast else none with
    | some groups => .ok ("[" ++ Address.groupsText groups ++ "]")
    | none => .error .badLongAddress
  | _ =>
    if isSpecial scheme then readDomain host
    else if host.any isForbiddenInHost then .error .badHostCharacter
    else .ok (Percent.encode Percent.isControl host)

/-! Services. -/

/-- The colon and the service number, where it is not the one the scheme uses anyway,
and what follows a backslash behind the number. -/
def readService (scheme : String) (chars : List Char) :
    Except LocationFault (String × List Char) :=
  let digits := chars.takeWhile (· != '\\')
  let service := Address.decimal digits
  if !digits.all Char.isDigit || 65535 < service then .error .badService
  else
    let isUsual := digits = [] || usualService? scheme = some service
    .ok (if isUsual then "" else s!":{service}", chars.drop digits.length)

/-- The host ends at the first colon that is not inside brackets. -/
def hostLength (inBrackets : Bool) : List Char → Nat
  | [] => 0
  | ':' :: rest => if inBrackets then hostLength inBrackets rest + 1 else 0
  | '[' :: rest => hostLength true rest + 1
  | ']' :: rest => hostLength false rest + 1
  | _ :: rest => hostLength inBrackets rest + 1

/-- Host and service as one text, and what follows them. -/
def readAddress (scheme : String) (chars : List Char) :
    Except LocationFault (String × List Char) :=
  let length := hostLength false chars
  let host := chars.take length
  match chars.drop length with
  | ':' :: service => do
    if host = [] then .error .emptyHost
    else
      let name ← readHost scheme host
      let (service, rest) ← readService scheme service
      return (name ++ service, rest)
  | _ =>
    if host = [] then (if isSpecial scheme then .error .emptyHost else .ok ("", []))
    else return (← readHost scheme host, [])

/-! Users. -/

def userText (user : List Char) : String :=
  let (name, secret) := Text.cut (· == ':') user
  let encoded (part : List Char) : String := Percent.encode Percent.encodedInUser part
  let shown :=
    match secret with
    | none | some [] => encoded name
    | some secret => encoded name ++ ":" ++ encoded secret
  if shown = "" then "" else shown ++ "@"

/-- What stands before the last at-sign, if there is one, and what follows it. -/
def splitUser (chars : List Char) : Option (List Char) × List Char :=
  match Text.pieces (· == '@') chars with
  | [] | [_] => (none, chars)
  | pieces => (some (['@'].intercalate pieces.dropLast), pieces.getLast?.getD [])

/-- All that stands before the path, and what is left over. An at-sign alone is no
user, but needs a host behind it where anything follows. -/
def readAuthority (scheme : String) (chars : List Char) (isFollowed : Bool) :
    Except LocationFault (String × List Char) := do
  let (user?, rest) := splitUser chars
  if user? = some [] && rest = [] && isFollowed then .error .emptyHost
  else
    let user := userText (user?.getD [])
    let (address, rest) ← readAddress scheme rest
    if address = "" && user != "" then .error .emptyHost else return (user ++ address, rest)

end Asn1Constraints.Location
