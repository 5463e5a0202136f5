import Asn1Constraints.JsonSchema.Dialect
import Asn1Constraints.Location.Reader
import Asn1Constraints.Pattern.Ecma

/-!
The formats of texts that schemas can name. A name that is not listed for the
version in use does not constrain anything.
-/

namespace Asn1Constraints

inductive Format where
  | date
  | dateTime
  | email
  | hostname
  | idnEmail
  | idnHostname
  | ipv4
  | ipv6
  | iri
  | iriReference
  | jsonPointer
  | regex
  | relativeJsonPointer
  | time
  | uri
  | uriReference
  | uriTemplate
deriving DecidableEq, Repr

namespace Format

def name : Format → String
  | .date => "date"
  | .dateTime => "date-time"
  | .email => "email"
  | .hostname => "hostname"
  | .idnEmail => "idn-email"
  | .idnHostname => "idn-hostname"
  | .ipv4 => "ipv4"
  | .ipv6 => "ipv6"
  | .iri => "iri"
  | .iriReference => "iri-reference"
  | .jsonPointer => "json-pointer"
  | .regex => "regex"
  | .relativeJsonPointer => "relative-json-pointer"
  | .time => "time"
  | .uri => "uri"
  | .uriReference => "uri-reference"
  | .uriTemplate => "uri-template"

/-- Known in every version. -/
def early : List Format :=
  [.date, .dateTime, .email, .hostname, .idnEmail, .ipv4, .ipv6, .regex, .time, .uri]

def later : List Format := early ++ [.jsonPointer, .uriReference, .uriTemplate]

def latest : List Format :=
  later ++ [.idnHostname, .iri, .iriReference, .relativeJsonPointer]

def known : Dialect → List Format
  | .draft4 => early
  | .draft6 => later
  | .draft7 => latest

def ofName? (dialect : Dialect) (name : String) : Option Format :=
  (known dialect).find? fun format => format.name == name

/-! Days and times. -/

def isLeapYear (year : Nat) : Bool := year % 4 == 0 && (year % 100 != 0 || year % 400 == 0)

def monthLength (year month : Nat) : Nat :=
  if month = 2 then (if isLeapYear year then 29 else 28)
  else if [4, 6, 9, 11].contains month then 30 else 31

def number? (digits : List Char) : Option Nat :=
  if digits.all Char.isDigit then some (Address.decimal digits) else none

/-- Year, month and day. -/
def day? : List Char → Option (Nat × Nat × Nat)
  | [a, b, c, d, '-', e, f, '-', g, h] => do
    let year ← number? [a, b, c, d]
    let month ← number? [e, f]
    let day ← number? [g, h]
    if 1 ≤ month && month ≤ 12 && 1 ≤ day && day ≤ monthLength year month then
      return (year, month, day)
    else none
  | _ => none

/-- Hour, minute and second, and what follows them. -/
def clock? : List Char → Option ((Nat × Nat × Nat) × List Char)
  | a :: b :: ':' :: c :: d :: ':' :: e :: f :: rest => do
    let hour ← number? [a, b]
    let minute ← number? [c, d]
    let second ← number? [e, f]
    if hour ≤ 23 && minute ≤ 59 && second ≤ 60 then return ((hour, minute, second), rest)
    else none
  | _ => none

def dropFraction? : List Char → Option (List Char)
  | '.' :: rest =>
    if rest.head?.any Char.isDigit then some (rest.dropWhile Char.isDigit) else none
  | rest => some rest

/-- Minutes ahead of universal time. -/
def zone? : List Char → Option Int
  | ['Z'] | ['z'] => some 0
  | [sign, a, b, ':', c, d] => do
    let hour ← number? [a, b]
    let minute ← number? [c, d]
    if 23 < hour || 59 < minute then none
    else if sign = '+' then return hour * 60 + minute
    else if sign = '-' then return -(hour * 60 + minute : Int)
    else none
  | _ => none

/-- A leap second ends the last day of a month in universal time. -/
def endsMonth (year month day : Nat) (minutes : Int) : Bool :=
  let length := monthLength year month
  (minutes == 1439 && day == length) || (minutes == -1 && day == 1)
    || (minutes == 2879 && day + 1 == length)

def isDateTime (chars : List Char) : Bool :=
  let found? : Option Bool := do
    let (year, month, day) ← day? (chars.take 10)
    let separator ← chars[10]?
    let ((hour, minute, second), rest) ← clock? (chars.drop 11)
    let rest ← dropFraction? rest
    let ahead ← zone? rest
    return separator.toNat < 0x80
      && (second < 60 || endsMonth year month day ((hour * 60 + minute : Int) - ahead))
  found?.getD false

/-! Mail addresses and hosts. -/

/-- An at-sign behind a name without leading, trailing or doubled dots. -/
def hasMailName : List Char → Bool
  | a :: b :: rest =>
    if a == '.' && (b == '.' || b == '@') then false
    else b == '@' || hasMailName (b :: rest)
  | _ => false

def isMailAddress (chars : List Char) : Bool := chars.head? != some '.' && hasMailName chars

def isLetterOrDigit (c : Char) : Bool :=
  if c.toNat < 0x80 then c.isAlphanum else CodePoints.alphanumeric.has c

/-- Letters, digits, dots and inner hyphens. -/
def isHostName (chars : List Char) : Bool :=
  chars != [] && chars.head? != some '-' && chars.getLast? != some '-' && chars.length ≤ 255
    && chars.all (fun c => isLetterOrDigit c || c == '-' || c == '.')
    && (Text.pieces (· == '.') chars).all (·.length ≤ 63)

/-! References. -/

def isBlank (c : Char) : Bool :=
  let n := c.toNat
  (0x9 ≤ n && n ≤ 0xd) || n == 0x20 || n == 0x85 || n == 0xa0 || n == 0x1680
    || (0x2000 ≤ n && n ≤ 0x200a) || n == 0x2028 || n == 0x2029 || n == 0x202f
    || n == 0x205f || n == 0x3000

def isReference (chars : List Char) : Bool := chars.all fun c => !isBlank c && c != '\\'

def matchesText (source text : String) : Bool :=
  (Search.ofText? source).any fun search => search.isFoundIn text

def timeSource : String :=
  "^([01][0-9]|2[0-3]):([0-5][0-9]):([0-5][0-9])(\\.[0-9]\x7b6\x7d)?"
    ++ "(([Zz])|([+|\\-]([01][0-9]|2[0-3]):[0-5][0-9]))\\z"

def pointerSource : String := "^(/(([^/~])|(~[01]))*)*\\z"

def relativePointerSource : String := "^(?:0|[1-9][0-9]*)(?:#|(?:/(?:[^~/]|~0|~1)*)*)\\z"

/-- One variable of a template, with the length or the star behind it. -/
def variableSource : String :=
  "(?:[a-z0-9_]|%[0-9a-f]\x7b2\x7d)+(?::[1-9][0-9]\x7b0,3\x7d|\\*)?"

def templateSource : String :=
  "^(?:(?:[^\\x00-\\x20\"\x27<>%\\\\^\x60\x7b|\x7d]|%[0-9a-f]\x7b2\x7d)"
    ++ "|\\\x7b[+#./;?&=,!@|]?" ++ variableSource ++ "(?:," ++ variableSource
    ++ ")*\x7d)*\\z"

def accepts (format : Format) (text : String) : Bool :=
  let chars := text.toList
  match format with
  | .date => (day? chars).isSome
  | .dateTime => isDateTime chars
  | .email | .idnEmail => isMailAddress chars
  | .hostname | .idnHostname => isHostName chars
  | .ipv4 => (Address.bytes? chars).any fun bytes => bytes.head? != some 0
  | .ipv6 => (Address.groups? chars).isSome
  | .uri | .iri => (Location.ofText? text).isSome
  | .uriReference | .iriReference => isReference chars
  | .jsonPointer => matchesText pointerSource text
  | .relativeJsonPointer => matchesText relativePointerSource text
  | .time => matchesText timeSource text
  | .uriTemplate => matchesText templateSource text
  | .regex => (Ecma.search? text).isSome

end Format

end Asn1Constraints
