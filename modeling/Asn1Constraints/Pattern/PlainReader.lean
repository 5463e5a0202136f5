import Asn1Constraints.Pattern.CharClass
import Asn1Constraints.Pattern.Space

/-!
The written form of plain patterns. Marks stand for themselves behind a
backslash; moods are switched on and off at the start of a group or for the rest
of the group they stand in.
-/

namespace Asn1Constraints

namespace PlainPattern

structure Mood where
  ignoresCase : Bool
  everyLine : Bool
  dotTakesAll : Bool
  reluctant : Bool
deriving DecidableEq, Repr

namespace Mood

def plain : Mood := ⟨false, false, false, false⟩

/-- Letters that switch a mood on, or off behind a minus sign. -/
def change (mood : Mood) (on : Bool) : List Char → Option Mood
  | [] => some mood
  | '-' :: rest => if on && !rest.isEmpty then change mood false rest else none
  | 'i' :: rest => change { mood with ignoresCase := on } on rest
  | 'm' :: rest => change { mood with everyLine := on } on rest
  | 's' :: rest => change { mood with dotTakesAll := on } on rest
  | 'U' :: rest => change { mood with reluctant := on } on rest
  | 'u' :: rest => if on then change mood on rest else none
  | _ => none

end Mood

/-! Repetition. -/

/-- The greatest count that can be written. -/
def greatestCount : Nat := 0xffffffff

def decimal (digits : List Char) : Nat :=
  digits.foldl (fun n c => n * 10 + (c.toNat - 48)) 0

def count? (digits : List Char) : Option Nat :=
  let value := decimal digits
  if digits != [] && digits.all Char.isDigit && value ≤ greatestCount then some value else none

/-- Counts in braces, after the opening one. -/
def readCounts (chars : List Char) : Option (Nat × Option Nat × List Char) :=
  match Text.cut (· == '\x7d') chars with
  | (inside, some rest) =>
    let (low, high) := Text.cut (· == ',') inside
    match count? low, high with
    | some least, none => some (least, some least, rest)
    | some least, some [] => some (least, none, rest)
    | some least, some high =>
      match count? high with
      | some most => if least ≤ most then some (least, some most, rest) else none
      | none => none
    | none, _ => none
  | _ => none

/-- How often what stands before may be repeated; nothing when no mark follows. -/
def readRepetition : List Char → Option (Option (Nat × Option Nat × List Char))
  | '*' :: rest => some (some (0, none, rest))
  | '+' :: rest => some (some (1, none, rest))
  | '?' :: rest => some (some (0, some 1, rest))
  | '\x7b' :: rest => (readCounts rest).map some
  | _ => some none

def withRepetition (mood : Mood) (atom : PlainPattern) (chars : List Char) :
    Option (PlainPattern × List Char) := do
  match ← readRepetition chars with
  | none => return (atom, chars)
  | some (least, most, rest) =>
    match rest with
    | '?' :: rest => return (.repeated least most mood.reluctant atom, rest)
    | rest => return (.repeated least most (!mood.reluctant) atom, rest)

/-! Groups and alternatives. -/

/-- What follows an opening parenthesis: a group, or a change of mood for the
rest of the group it stands in. -/
inductive Opening where
  | group (isCaptured : Bool) (mood : Mood) (rest : List Char)
  | change (mood : Mood) (rest : List Char)

def readOpening (mood : Mood) : List Char → Option Opening
  | '?' :: rest =>
    match Text.cut (fun c => c == ':' || c == ')') rest with
    | (letters, some after) => do
      let changed ← mood.change true letters
      if rest[letters.length]? = some ':' then return .group false changed after
      else if letters = [] then none
      else return .change changed after
    | _ => none
  | rest => some (.group true mood rest)

/-- One character, class or edge; groups are read elsewhere. -/
def readAtom (mood : Mood) : List Char → Option (PlainPattern × List Char)
  | [] => none
  | '.' :: rest =>
    some (.one (if mood.dotTakesAll then .all else (CodePoints.single '\n').other), rest)
  | '^' :: rest => some (.edge (if mood.everyLine then .lineStart else .textStart), rest)
  | '$' :: rest => some (.edge (if mood.everyLine then .lineEnd else .textEnd), rest)
  | '[' :: rest =>
    (CharClass.read mood.ignoresCase rest).map fun (set, rest) => (.one set, rest)
  | '\\' :: rest =>
    (CharClass.readEscape mood.ignoresCase rest).map fun (escape, rest) =>
      match escape with
      | .char c => (.one (CharClass.folded mood.ignoresCase (.single c)), rest)
      | .set set => (.one set, rest)
  | c :: rest =>
    if ['*', '+', '?', '\x7b'].contains c then none
    else some (.one (CharClass.folded mood.ignoresCase (.single c)), rest)

/-- A group that is still open, with the mood outside, what stands before it, and the
alternatives that the pattern around it has had so far. -/
structure OpenGroup where
  isCaptured : Bool
  mood : Mood
  earlier : Option PlainPattern
  before : PlainPattern

/-- The alternatives of a group, the last one included. -/
def alternatives (earlier : Option PlainPattern) (current : PlainPattern) : PlainPattern :=
  match earlier with
  | some pattern => .choice pattern current
  | none => current

def OpenGroup.around (group : OpenGroup) (body : PlainPattern) : PlainPattern :=
  if group.isCaptured then .captured body else body

/-- Read on, with the enclosing groups in a list, innermost first. -/
def readRest : Nat → List OpenGroup → Mood → Option PlainPattern → PlainPattern → List Char →
    Option PlainPattern
  | 0, _, _, _, _, _ => none
  | budget + 1, outer, mood, earlier, current, chars =>
    match chars with
    | [] => if outer.isEmpty then some (alternatives earlier current) else none
    | '|' :: rest =>
      readRest budget outer mood (some (alternatives earlier current)) .empty rest
    | ')' :: rest =>
      match outer with
      | [] => none
      | group :: outer =>
        let body := group.around (alternatives earlier current)
        match withRepetition group.mood body rest with
        | some (piece, rest) =>
          readRest budget outer group.mood group.earlier (.sequence group.before piece) rest
        | none => none
    | '(' :: rest =>
      match readOpening mood rest with
      | some (.group isCaptured inner rest) =>
        let group : OpenGroup := ⟨isCaptured, mood, earlier, current⟩
        readRest budget (group :: outer) inner none .empty rest
      | some (.change mood rest) => readRest budget outer mood earlier current rest
      | none => none
    | chars =>
      match (readAtom mood chars).bind fun (atom, rest) => withRepetition mood atom rest with
      | some (piece, rest) => readRest budget outer mood earlier (.sequence current piece) rest
      | none => none

/-- Nothing for a text that is no plain pattern, or one that takes too much space. -/
def ofChars? (chars : List Char) : Option PlainPattern :=
  (readRest (chars.length + 1) [] .plain none .empty chars).filter fits

end PlainPattern

end Asn1Constraints
