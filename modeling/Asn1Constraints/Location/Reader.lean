import Asn1Constraints.Location.Host

/-!
Reading a location, alone or against the location of the document it stands in.
A reference may leave out the scheme, the host, or leading steps of the path;
what it leaves out is taken over. Steps `.` and `..` are resolved while reading.
Schemes that browsers know always have a host, take a backslash for a slash and
leave out the service they use by default. The path of a file may start with the
letter of a drive, and has no host then.
-/

namespace Asn1Constraints.Location

def isSlash (scheme : String) (c : Char) : Bool := c == '/' || (isSpecial scheme && c == '\\')

def isEitherSlash (c : Char) : Bool := c == '/' || c == '\\'

/-! Schemes. -/

def isSchemeChar (c : Char) : Bool := c.isAlphanum || c == '+' || c == '-' || c == '.'

/-- The scheme in front, in lower case, and what follows the colon. -/
def scheme? (chars : List Char) : Option (String × List Char) :=
  match chars.takeWhile isSchemeChar, chars.dropWhile isSchemeChar with
  | first :: name, ':' :: rest =>
    if first.isAlpha then some (String.ofList ((first :: name).map Char.toLower), rest) else none
  | _, _ => none

/-! What is read: the part before the query, and the parts behind the marks. -/

structure Parts where
  front : List Char
  query : Option (List Char)
  fragment : Option (List Char)

namespace Parts

def isBlankEnd (c : Char) : Bool := c.toNat ≤ 0x20
def isLineMark (c : Char) : Bool := c == '\t' || c == '\n' || c == '\r'

/-- The text without surrounding blanks and without tabs and line breaks. -/
def trimmed (text : String) : List Char :=
  (Text.trimEnd isBlankEnd (text.toList.dropWhile isBlankEnd)).filter fun c => !isLineMark c

def ofText (text : String) : Parts :=
  let (body, fragment) := Text.cut (· == '#') (trimmed text)
  let (front, query) := Text.cut (· == '?') body
  ⟨front, query, fragment⟩

def hasMore (parts : Parts) : Bool := parts.query.isSome || parts.fragment.isSome

def queryText (scheme : String) (parts : Parts) : Option String :=
  let encoded := if isSpecial scheme then Percent.encodedInSpecialQuery
    else Percent.encodedInQuery
  parts.query.map (Percent.encode encoded)

def fragmentText (parts : Parts) : Option String :=
  parts.fragment.map (Percent.encode Percent.encodedInFragment)

/-- The location made of a start, a path and what follows the front. -/
def location (parts : Parts) (scheme : String) (authority : Option String)
    (path : LocationPath) : Location :=
  ⟨scheme, authority, path, parts.queryText scheme, parts.fragmentText⟩

end Parts

/-! Paths. -/

/-- A dot, plain or percent encoded, at the front. -/
def dropDot? : List Char → Option (List Char)
  | '.' :: rest => some rest
  | '%' :: '2' :: 'e' :: rest | '%' :: '2' :: 'E' :: rest => some rest
  | _ => none

def isHere (step : List Char) : Bool := dropDot? step = some []
def isAbove (step : List Char) : Bool := (dropDot? step).any isHere

/-- The letter of a drive with a colon or, before it is put right, a bar. -/
def driveLetter? : List Char → Option Char
  | [letter, mark] => if letter.isAlpha && (mark == ':' || mark == '|') then some letter else none
  | _ => none

def isDrive (step : String) : Bool := (driveLetter? step.toList).isSome

def isFileDrive (scheme step : String) : Bool :=
  scheme == "file" && isDrive step && step.toList.getLast? == some ':'

/-- A path while it is read: the steps that are closed by a slash, and what has been
taken over of the step that is still open. -/
structure Trail where
  closed : List String
  begun : String

namespace Trail

def start : Trail := ⟨[], ""⟩

/-- Close the step that is open, if anything of it is there. -/
def closeBegun (trail : Trail) : Trail :=
  if trail.begun = "" then trail else ⟨trail.closed ++ [trail.begun], ""⟩

/-- Take the last step back; the letter of a drive stays. -/
def back (scheme : String) (trail : Trail) : Trail :=
  if trail.begun != "" then
    if isFileDrive scheme trail.begun then trail else { trail with begun := "" }
  else
    match trail.closed.getLast? with
    | some step => if isDrive step then trail else ⟨trail.closed.dropLast, ""⟩
    | none => trail

/-- The first step of a file may be the letter of a drive. -/
def stepText (scheme : String) (trail : Trail) (step : List Char) : String :=
  match driveLetter? step with
  | some letter =>
    if scheme = "file" && trail.closed = [] && trail.begun = "" then
      String.ofList [letter, ':']
    else Percent.encode Percent.encodedInPath step
  | none => Percent.encode Percent.encodedInPath step

/-- Go on from a drive alone with a step of its own. -/
def beforeStep (scheme : String) (trail : Trail) (step : List Char) : Trail :=
  if trail.closed = [] && isFileDrive scheme trail.begun && step != [] then trail.closeBegun
  else trail

/-- All the steps of a path. A path that ends in `.` or `..` ends in a slash. -/
def walk (scheme : String) (trail : Trail) : List (List Char) → List String
  | [] => trail.closed ++ [trail.begun]
  | step :: rest =>
    let isLast := rest.isEmpty
    let before := trail.beforeStep scheme step
    if isAbove step then
      let place := before.back scheme
      walk scheme (if isLast then place else place.closeBegun) rest
    else if isHere step then walk scheme before.closeBegun rest
    else
      let reached := before.begun ++ before.stepText scheme step
      walk scheme
        (if isLast then ⟨before.closed, reached⟩ else ⟨before.closed ++ [reached], ""⟩) rest

end Trail

/-- A file has no empty steps in front. -/
def settledSteps (scheme : String) (steps : List String) : List String :=
  if scheme = "file" then
    match steps.dropWhile (· == "") with
    | [] => [""]
    | rest => rest
  else steps

/-- The steps between slashes, walked from a place. -/
def walked (scheme : String) (trail : Trail) (chars : List Char) : List String :=
  trail.walk scheme (Text.pieces (isSlash scheme) chars)

def stepsFrom (scheme : String) (trail : Trail) (chars : List Char) : LocationPath :=
  .steps (settledSteps scheme (walked scheme trail chars))

/-- The path behind a slash. -/
def steps (scheme : String) (chars : List Char) : LocationPath := stepsFrom scheme .start chars

/-- The path after a host: empty, or slashes and steps. -/
def rooted (scheme : String) : List Char → LocationPath
  | [] => if isSpecial scheme then .steps [""] else .steps []
  | c :: rest => steps scheme (if isSlash scheme c then rest else c :: rest)

def stepsOf (location : Location) : List String :=
  match location.path with
  | .plain _ => []
  | .steps list => list

/-- Where relative steps start: the last step is taken back. -/
def trailOf (location : Location) : Trail :=
  let steps := location.stepsOf
  let last := steps.getLast?.getD ""
  ⟨steps.dropLast, if isFileDrive location.scheme last then last else ""⟩

/-! Hosts and files. -/

/-- What follows the double slash. -/
def hosted (scheme : String) (parts : Parts) (chars : List Char) :
    Except LocationFault Location := do
  let inside := chars.takeWhile fun c => !isSlash scheme c
  let (authority, rest) ← readAuthority scheme inside
    (!(chars.length == inside.length && !parts.hasMore))
  return parts.location scheme (some authority)
    (rooted scheme (rest ++ chars.drop inside.length))

/-- The letter of a drive as the first step. -/
def startsWithDrive (chars : List Char) : Bool :=
  (driveLetter? (chars.takeWhile fun c => !isEitherSlash c)).isSome

/-- What follows the double slash of a file. A drive is no host, and a host gives way
to a drive. -/
def fileHosted (parts : Parts) (chars : List Char) : Except LocationFault Location := do
  let host := chars.takeWhile fun c => !isEitherSlash c
  if (driveLetter? host).isSome then
    return parts.location "file" (some "") (steps "file" chars)
  else
    let name ← if host = [] then .ok "" else readHost "file" host
    let inside := walked "file" .start (chars.drop (host.length + 1))
    let onDrive := inside.head?.any (isFileDrive "file")
    let known := if name = "localhost" || onDrive then "" else name
    return parts.location "file" (some known) (.steps (settledSteps "file" inside))

/-- A file, against the location of another one or alone. -/
def file (base? : Option Location) (parts : Parts) : Except LocationFault Location :=
  let alone := parts.location "file" (some "")
  match parts.front, base? with
  | c :: rest, _ =>
    if isEitherSlash c && rest.head?.any isEitherSlash then fileHosted parts (rest.drop 1)
    else
      match base? with
      | none => .ok (alone (steps "file" (if isEitherSlash c then rest else c :: rest)))
      | some base =>
        if isEitherSlash c then
          if startsWithDrive rest then .ok (alone (steps "file" rest))
          else
            match base.stepsOf with
            | first :: _ =>
              if isFileDrive "file" first then
                .ok (alone (stepsFrom "file" ⟨[first], ""⟩ rest))
              else .ok (parts.location "file" base.authority (steps "file" rest))
            | [] => .ok (parts.location "file" base.authority (steps "file" rest))
        else if startsWithDrive (c :: rest) then .ok (alone (steps "file" (c :: rest)))
        else .ok (parts.location "file" base.authority (stepsFrom "file" base.trailOf (c :: rest)))
  | [], some base =>
    let query := if parts.query.isNone then base.query else parts.queryText "file"
    .ok { base with query, fragment := parts.fragmentText }
  | [], none => .ok (alone (.steps [""]))

/-! References. -/

def startsWithSlashes : List Char → Bool
  | c :: d :: _ => isEitherSlash c && isEitherSlash d
  | _ => false

/-- A reference without scheme, against a location that is no file. -/
def relative (base : Location) (parts : Parts) : Except LocationFault Location :=
  let scheme := base.scheme
  match parts.front with
  | [] =>
    let query := if parts.query.isNone then base.query else parts.queryText scheme
    .ok { base with query, fragment := parts.fragmentText }
  | '/' :: '/' :: rest => hosted scheme parts rest
  | c :: rest =>
    if startsWithSlashes (c :: rest) then hosted scheme parts (rest.dropWhile isEitherSlash)
    else
      let path := if isEitherSlash c then steps scheme rest
        else stepsFrom scheme base.trailOf (c :: rest)
      .ok (parts.location scheme base.authority path)

/-- What follows the scheme and the colon. -/
def absolute (base? : Option Location) (scheme : String) (parts : Parts) :
    Except LocationFault Location :=
  let sibling? := base?.filter fun base => base.scheme = scheme
  if scheme = "file" then file sibling? parts
  else if isSpecial scheme then
    match sibling?, startsWithSlashes parts.front with
    | some base, false => relative base parts
    | _, _ => hosted scheme parts (parts.front.dropWhile isEitherSlash)
  else
    match parts.front with
    | '/' :: '/' :: rest => hosted scheme parts rest
    | '/' :: rest => .ok (parts.location scheme none (steps scheme rest))
    | chars => .ok (parts.location scheme none (.plain (Percent.encode Percent.isControl chars)))

/-- Read a text, as a reference in a document if there is one. -/
def read (base? : Option Location) (text : String) : Except LocationFault Location :=
  let parts := Parts.ofText text
  match scheme? parts.front, base? with
  | some (scheme, front), _ => absolute base? scheme { parts with front }
  | none, none => .error .noBase
  | none, some base =>
    match base.path with
    | .plain _ =>
      if parts.front.isEmpty && parts.query.isNone && parts.fragment.isSome then
        .ok { base with fragment := parts.fragmentText }
      else .error .steplessBase
    | .steps _ => if base.scheme = "file" then file base? parts else relative base parts

def ofText (text : String) : Except LocationFault Location := read none text

def ofText? (text : String) : Option Location := (ofText text).toOption

/-- What a reference means in a document. -/
def join (base : Location) (reference : String) : Except LocationFault Location :=
  read (some base) reference

end Asn1Constraints.Location
