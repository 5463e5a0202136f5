import Asn1Constraints.Pattern.Basic
import Asn1Constraints.Text.Hex

/-!
The written form of patterns. Comments stand between `(?#` and the next closing
parenthesis; in one mood blanks and the ends of lines are passed over too. A brace
that starts no count is an ordinary character. Moods switched on inside a group
last beyond it, unless the group is one that names moods itself.
-/

namespace Asn1Constraints

namespace Pattern

structure Mood extends PlainPattern.Mood where
  /-- Blanks and what follows a number sign mean nothing. -/
  spaced : Bool

def Mood.plain : Mood := ⟨.plain, false⟩

/-- What is still to be read, and what is known of the groups so far. -/
structure ReadingState where
  rest : List Char
  mood : Mood
  /-- How many groups have been opened. -/
  opened : Nat
  /-- The latest group of each name first. -/
  names : List (String × Nat)
  referred : List Nat
  /-- Whether a group has been referred to by its number. -/
  byNumber : Bool
  /-- Half the size of the whole text; numbers of groups are smaller. -/
  numberLimit : Nat

abbrev PatternReader := StateT ReadingState Option

namespace PatternReader

def refuse {α : Type} : PatternReader α := fun _ => none

def demand (holds : Bool) : PatternReader Unit := if holds then return () else refuse

def give {α : Type} (found : Option α) : PatternReader α := StateT.lift found

def peek : PatternReader (List Char) := return (← get).rest

def moveTo (rest : List Char) : PatternReader Unit := modify fun state => { state with rest }

def mood : PatternReader Mood := return (← get).mood

def setMood (mood : Mood) : PatternReader Unit := modify fun state => { state with mood }

/-- What is being passed over. -/
inductive Passing where
  | nothing
  | line
  | comment

/-- The text after blanks and comments; a comment has to be closed. -/
def passed? (spaced : Bool) : Passing → List Char → Option (List Char)
  | .comment, [] => none
  | _, [] => some []
  | .line, c :: rest => passed? spaced (if c = '\n' then .nothing else .line) rest
  | .comment, ')' :: rest => passed? spaced .nothing rest
  | .comment, '\\' :: _ :: rest => passed? spaced .comment rest
  | .comment, _ :: rest => passed? spaced .comment rest
  | .nothing, '(' :: '?' :: '#' :: rest => passed? spaced .comment rest
  | .nothing, c :: rest =>
    if spaced && c == '#' then passed? spaced .line rest
    else if spaced && [' ', '\r', '\n', '\t'].contains c then passed? spaced .nothing rest
    else some (c :: rest)

def pass : PatternReader Unit := do
  moveTo (← give (passed? (← mood).spaced .nothing (← peek)))

/-- Pass over a closing parenthesis. -/
def close : PatternReader Unit := do
  pass
  match ← peek with
  | ')' :: rest => moveTo rest
  | _ => refuse

/-! Counts. -/

def greatestNumber : Nat := 0xffffffffffffffff

def readNumber? (chars : List Char) : Option (Nat × List Char) :=
  let digits := chars.takeWhile Char.isDigit
  let value := PlainPattern.decimal digits
  if digits != [] && value ≤ greatestNumber then some (value, chars.drop digits.length) else none

/-- The upper count, which is the lower one where no comma stands. -/
def readMost? (spaced : Bool) (least : Nat) (chars : List Char) :
    Option (Option Nat × List Char) :=
  match chars with
  | ',' :: rest =>
    (passed? spaced .nothing rest).map fun rest =>
      match readNumber? rest with
      | some (most, rest) => (if most = greatestNumber then none else some most, rest)
      | none => (none, rest)
  | rest => some (some least, rest)

/-- Counts in braces, after the opening one, with blanks passed over; a count that
is left out is zero before the comma and unlimited after it. -/
def readCounts? (spaced : Bool) (chars : List Char) :
    Option (Nat × Option Nat × List Char) := do
  let chars ← passed? spaced .nothing chars
  let (least, chars) ← if chars.head? = some ',' then some (0, chars) else readNumber? chars
  let chars ← passed? spaced .nothing chars
  let (most, chars) ← readMost? spaced least chars
  match ← passed? spaced .nothing chars with
  | '\x7d' :: rest => return (least, most, rest)
  | _ => none

/-- How often what stands before is repeated, if a mark for that follows. -/
def repetition? (spaced : Bool) : List Char → Option (Nat × Option Nat × List Char)
  | '*' :: rest => some (0, none, rest)
  | '+' :: rest => some (1, none, rest)
  | '?' :: rest => some (0, some 1, rest)
  | '\x7b' :: rest => readCounts? spaced rest
  | _ => none

/-! References to groups. -/

def referTo (number : Nat) : PatternReader Nat := do
  let state ← get
  if state.opened < number then refuse
  else
    set { state with referred := number :: state.referred }
    return number

/-- A group by its number. -/
def readNumbered : PatternReader Nat := do
  let (number, rest) ← give (readNumber? (← peek))
  demand (number < (← get).numberLimit)
  modify fun state => { state with rest, byNumber := true }
  referTo number

def isNameChar (c : Char) : Bool :=
  if c.toNat < 0x80 then c.isAlphanum || c == '_' else CodePoints.alphanumeric.has c

/-- A name, or a negative number, and what follows it. -/
def readName? (chars : List Char) : Option (List Char × List Char) :=
  let name :=
    match chars with
    | '-' :: rest =>
      let digits := rest.takeWhile Char.isDigit
      if digits = [] then [] else '-' :: digits
    | rest => rest.takeWhile isNameChar
  if name = [] then none else some (name, chars.drop name.length)

/-- A name closed by a mark. -/
def readNameTo (mark : Char) : PatternReader (List Char) := do
  let (name, rest) ← give (readName? (← peek))
  match rest with
  | c :: rest => if c = mark then moveTo rest; return name else refuse
  | [] => refuse

/-- The group that a name or a number stands for; a negative number counts back from
the group opened last. -/
def groupOf? (state : ReadingState) (name : List Char) : Option Nat :=
  match state.names.lookup (String.ofList name) with
  | some number => some number
  | none =>
    match name with
    | '-' :: digits =>
      let back := PlainPattern.decimal digits
      if back = 0 then some 0
      else if back ≤ state.opened + 1 then some (state.opened + 1 - back) else none
    | digits => if digits.all Char.isDigit then some (PlainPattern.decimal digits) else none

def readNamed (mark : Char) : PatternReader Nat := do
  let name ← readNameTo mark
  referTo (← give (groupOf? (← get) name))

/-! Escapes. -/

def hexadecimal? (digits : List Char) : Option Nat :=
  digits.foldlM (fun n c => (Hex.digitOf? c).map fun digit => n * 16 + digit) 0

/-- A character by its code. -/
def charOfCode? (digits : List Char) : Option Char :=
  match hexadecimal? digits with
  | some code => if code.isValidChar then some (Char.ofNat code) else none
  | none => none

/-- A code with a fixed number of digits, or in braces with up to eight. -/
def readCode? (width : Nat) (chars : List Char) : Option (Char × List Char) :=
  let digits := chars.take width
  if digits.length = width && (hexadecimal? digits).isSome then
    (charOfCode? digits).map fun c => (c, chars.drop width)
  else
    match chars with
    | '\x7b' :: rest =>
      match Text.cut (· == '\x7d') rest with
      | (digits, some rest) =>
        if digits != [] && digits.length ≤ 8 then
          (charOfCode? digits).map fun c => (c, rest)
        else none
      | _ => none
    | _ => none

/-- A property with its backslash, after the letter that announces it. -/
def readProperty? (letter : Char) : List Char → Option (List Char × List Char)
  | '\x7b' :: rest =>
    match Text.cut (· == '\x7d') rest with
    | (inside, some rest) => some (['\\', letter, '\x7b'] ++ inside ++ ['\x7d'], rest)
    | _ => none
  | c :: rest => some (['\\', letter, c], rest)
  | [] => none

/-- The end of the text, or the line breaks that end it. -/
def lastLineEnd : Pattern := .ahead true (.part "\\n*$".toList 0 false)

def hexDigits (inverted : Bool) : Pattern :=
  .part (if inverted then "[^0-9A-Fa-f]" else "[0-9A-Fa-f]").toList 1 false

/-- Letters behind a backslash that stand for one character. -/
def controlOf? : Char → Option Char
  | 'a' => some '\x07'
  | 'b' => some '\x08'
  | 'e' => some '\x1b'
  | 'f' => some '\x0c'
  | 'n' => some '\n'
  | 'r' => some '\r'
  | 't' => some '\t'
  | 'v' => some '\x0b'
  | _ => none

/-- Questions about a place; a brace after the first two is kept for later use. -/
def placeOf? : List Char → Option Pattern
  | 'b' :: rest => if rest.head? = some '\x7b' then none else some (.edge .wordEdge)
  | 'B' :: rest => if rest.head? = some '\x7b' then none else some (.edge .noWordEdge)
  | 'A' :: _ => some (.edge .textStart)
  | 'z' :: _ => some (.edge .textEnd)
  | 'Z' :: _ => some lastLineEnd
  | '<' :: _ => some (.edge .wordStart)
  | '>' :: _ => some (.edge .wordEnd)
  | 'K' :: _ => some .keep
  | 'G' :: _ => some .searchStart
  | _ => none

def isPlaceLetter (c : Char) : Bool := ['b', 'B', 'A', 'z', 'Z', '<', '>', 'K', 'G'].contains c

/-- What stands behind a backslash. In a class, letters that ask about a place
elsewhere stand for themselves. -/
def readEscape (inClass : Bool) : PatternReader Pattern := do
  let ignoresCase := (← mood).ignoresCase
  match ← peek with
  | [] => refuse
  | c :: rest =>
    if c.isDigit then return .again (← readNumbered)
    else if c = 'k' && !inClass then
      match rest with
      | '<' :: rest =>
        moveTo rest
        return .again (← readNamed '>')
      | _ => refuse
    else if isPlaceLetter c && !inClass then
      moveTo rest
      give (placeOf? (c :: rest))
    else if ['d', 'D', 's', 'S', 'w', 'W'].contains c then
      moveTo rest
      return .part ['\\', c] 1 ignoresCase
    else if c = 'h' || c = 'H' then
      moveTo rest
      return hexDigits (c == 'H')
    else if c = 'x' || c = 'u' || c = 'U' then
      let width := if c = 'x' then 2 else if c = 'u' then 4 else 8
      let (coded, rest) ← give (readCode? width rest)
      moveTo rest
      return .char coded ignoresCase
    else if c = 'p' || c = 'P' then
      let (source, rest) ← give (readProperty? c rest)
      moveTo rest
      return .part source 1 ignoresCase
    else
      moveTo rest
      match controlOf? c with
      | some control => return .char control false
      | none =>
        demand (!c.isAlpha || ['k', 'A', 'z', 'B', 'K', 'G'].contains c)
        return .char c false

/-! Classes. -/

/-- A member of a class in plain writing. -/
def quotedMember (c : Char) : List Char := if CharClass.isMark c then ['\\', c] else [c]

/-- The rest of a class in plain writing, up to where its brackets are closed; the
text so far comes last character first. -/
def readClassRest : Nat → Nat → List Char → PatternReader (List Char)
  | 0, _, _ => refuse
  | budget + 1, depth, before => do
    match ← peek with
    | [] => refuse
    | '\\' :: rest =>
      moveTo rest
      match ← readEscape true with
      | .char c _ => readClassRest budget depth ((quotedMember c).reverse ++ before)
      | .part source _ _ => readClassRest budget depth (source.reverse ++ before)
      | _ => refuse
    | ']' :: rest =>
      moveTo rest
      match depth with
      | 0 => return (']' :: before).reverse
      | depth + 1 => readClassRest budget depth (']' :: before)
    | c :: rest =>
      moveTo rest
      readClassRest budget (if c = '[' then depth + 1 else depth) (c :: before)

/-- A class, after its opening bracket; a closing bracket in front is a member. -/
def readClass : PatternReader Pattern := do
  let ignoresCase := (← mood).ignoresCase
  let chars ← peek
  let begun :=
    match chars with
    | '^' :: ']' :: _ => ['^', ']']
    | '^' :: _ => ['^']
    | ']' :: _ => [']']
    | _ => []
  moveTo (chars.drop begun.length)
  let source ← readClassRest (chars.length + 1) 0 (begun.reverse ++ ['['])
  return .part source 1 ignoresCase

/-! Moods. -/

/-- Letters that switch moods on, or off behind a minus sign, up to a colon or a
closing parenthesis; whether it is a colon. -/
def readMoods : Nat → Bool → Bool → PatternReader Bool
  | 0, _, _ => refuse
  | budget + 1, isFirst, on => do
    pass
    let mood ← mood
    match ← peek with
    | [] => refuse
    | c :: rest =>
      moveTo rest
      let set (mood : Mood) : PatternReader Bool := do
        setMood mood
        readMoods budget false on
      match c with
      | 'i' => set { mood with ignoresCase := on }
      | 'm' => set { mood with everyLine := on }
      | 's' => set { mood with dotTakesAll := on }
      | 'U' => set { mood with reluctant := on }
      | 'x' => set { mood with spaced := on }
      | 'u' => if on then readMoods budget false on else refuse
      | '-' =>
        match on, isFirst, rest with
        | false, _, _ => refuse
        | true, true, ':' :: _ | true, true, ')' :: _ => refuse
        | true, _, _ => readMoods budget false false
      | ')' => if isFirst then refuse else return false
      | ':' => return true
      | _ => refuse

/-! Groups and alternatives. -/

/-- Groups inside groups, up to this depth. -/
def greatestDepth : Nat := 63

/-- How the inside of a group counts. -/
inductive Grouping where
  | captured (number : Nat)
  | ahead (wanted : Bool)
  | behind (wanted : Bool)
  | atomic

def Grouping.around : Grouping → Pattern → Pattern
  | .captured number, body => .group number body
  | .ahead wanted, body => .ahead wanted body
  | .behind wanted, body => .behind wanted body
  | .atomic, body => .atomic body

def openGroup : PatternReader Nat := do
  modify fun state => { state with opened := state.opened + 1 }
  return (← get).opened

def openNamed : PatternReader Grouping := do
  let number ← openGroup
  let name ← readNameTo '>'
  modify fun state => { state with names := (String.ofList name, number) :: state.names }
  return .captured number

/-- What a condition asks: a reference asks whether the group has matched. -/
def asked : Pattern → Pattern
  | .again number => .isSet number
  | other => other

/-- A condition with what to match if it holds and if it does not. -/
def conditional (condition branches : Pattern) : Pattern :=
  let (positive, negative) :=
    match branches with
    | .choice (positive :: [negative]) => (positive, negative)
    | .choice (positive :: others) => (positive, .choice others)
    | positive => (positive, .empty)
  if positive.isEmpty && negative.isEmpty then asked condition
  else .conditional (asked condition) positive negative

mutual

/-- Alternatives, up to the end of the text or of the group. Groups with names and
references by number do not go together, where there is one alternative. -/
def readChoice : Nat → Nat → PatternReader Pattern
  | 0, _ => refuse
  | budget + 1, depth => do
    let first ← readBranch budget depth []
    pass
    match ← peek with
    | '|' :: _ => return .choice (first :: (← readOthers budget depth))
    | _ =>
      let state ← get
      demand (!(state.byNumber && !state.names.isEmpty))
      return first

def readOthers : Nat → Nat → PatternReader (List Pattern)
  | 0, _ => refuse
  | budget + 1, depth => do
    match ← peek with
    | '|' :: rest =>
      moveTo rest
      let branch ← readBranch budget depth []
      pass
      return branch :: (← readOthers budget depth)
    | _ => return []

/-- The pieces of an alternative, those before in reverse. -/
def readBranch : Nat → Nat → List Pattern → PatternReader Pattern
  | 0, _, _ => refuse
  | budget + 1, depth, before => do
    match ← peek with
    | [] | '|' :: _ | ')' :: _ =>
      match before with
      | [] => return .empty
      | [piece] => return piece
      | pieces => return .sequence pieces.reverse
    | _ =>
      let piece ← readPiece budget depth
      readBranch budget depth (if piece.isEmpty then before else piece :: before)

/-- An atom and how often it is repeated. A plus sign behind that makes the first
match the only one. -/
def readPiece : Nat → Nat → PatternReader Pattern
  | 0, _ => refuse
  | budget + 1, depth => do
    let atom ← readAtom budget depth
    pass
    let mood ← mood
    match repetition? mood.spaced (← peek) with
    | none => return atom
    | some (least, most, rest) =>
      demand atom.isRepeatable
      moveTo rest
      pass
      let repeated (reluctant : Bool) : Pattern :=
        .repeated least most (reluctant == mood.reluctant) atom
      let piece ←
        match ← peek with
        | '?' :: rest => do
          moveTo rest
          pure (repeated true)
        | _ => pure (repeated false)
      match ← peek with
      | '+' :: rest =>
        moveTo rest
        return .atomic piece
      | _ => return piece

def readAtom : Nat → Nat → PatternReader Pattern
  | 0, _ => refuse
  | budget + 1, depth => do
    pass
    let mood ← mood
    match ← peek with
    | [] => return .empty
    | c :: rest =>
      match c with
      | '+' | '*' | '?' | '|' | ')' => return .empty
      | '.' =>
        moveTo rest
        return .any mood.dotTakesAll
      | '^' =>
        moveTo rest
        return .edge (if mood.everyLine then .lineStart else .textStart)
      | '$' =>
        moveTo rest
        return .edge (if mood.everyLine then .lineEnd else .textEnd)
      | '(' =>
        moveTo rest
        readGroup budget (depth + 1)
      | '\\' =>
        moveTo rest
        readEscape false
      | '[' =>
        moveTo rest
        readClass
      | c =>
        moveTo rest
        return .char c mood.ignoresCase

/-- A group, after its opening parenthesis. -/
def readGroup : Nat → Nat → PatternReader Pattern
  | 0, _ => refuse
  | budget + 1, depth => do
    demand (depth ≤ greatestDepth)
    pass
    let inside (grouping : Grouping) : PatternReader Pattern := do
      let body ← readChoice budget depth
      close
      return grouping.around body
    match ← peek with
    | '?' :: '=' :: rest =>
      moveTo rest
      inside (.ahead true)
    | '?' :: '!' :: rest =>
      moveTo rest
      inside (.ahead false)
    | '?' :: '<' :: '=' :: rest =>
      moveTo rest
      inside (.behind true)
    | '?' :: '<' :: '!' :: rest =>
      moveTo rest
      inside (.behind false)
    | '?' :: '<' :: rest | '?' :: 'P' :: '<' :: rest =>
      moveTo rest
      inside (← openNamed)
    | '?' :: 'P' :: '=' :: rest =>
      moveTo rest
      return .again (← readNamed ')')
    | '?' :: '>' :: rest =>
      moveTo rest
      inside .atomic
    | '?' :: '(' :: rest =>
      moveTo rest
      readConditional budget depth
    | '?' :: rest =>
      moveTo rest
      let outside ← mood
      if ← readMoods budget true true then
        let body ← readChoice budget depth
        close
        setMood outside
        return body
      else return .empty
    | _ => inside (.captured (← openGroup))

/-- A condition and its branches, after the parenthesis that opens the condition. -/
def readConditional : Nat → Nat → PatternReader Pattern
  | 0, _ => refuse
  | budget + 1, depth => do
    let condition ←
      match ← peek with
      | '\x27' :: rest => do
        moveTo rest
        pure (Pattern.again (← readNamed '\x27'))
      | '<' :: rest => do
        moveTo rest
        pure (Pattern.again (← readNamed '>'))
      | c :: _ =>
        if c.isDigit then pure (Pattern.again (← readNumbered)) else readChoice budget depth
      | [] => refuse
    close
    let before ← peek
    let branches ← readChoice budget depth
    let isReference :=
      match condition with
      | .again _ => true
      | _ => false
    demand (isReference || (← peek).length < before.length)
    close
    return conditional condition branches

end

end PatternReader

/-- A pattern with the groups that are referred to and the number of groups, the
whole match being one of them. -/
structure Reading where
  pattern : Pattern
  referred : List Nat
  groups : Nat

/-- Whether the pattern is easy decides how it is searched for. -/
def read? (text : List Char) : Option Reading :=
  let budget := 8 * (text.length + 2)
  let size := (String.ofList text).utf8ByteSize
  match (PatternReader.readChoice budget 0).run ⟨text, .plain, 0, [], [], false, size / 2⟩ with
  | some (pattern, state) =>
    if state.rest.isEmpty then some ⟨pattern, state.referred, state.opened + 1⟩ else none
  | none => none

end Pattern

end Asn1Constraints
