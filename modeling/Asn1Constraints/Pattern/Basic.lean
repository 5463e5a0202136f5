import Asn1Constraints.Pattern.PlainReader

/-!
Patterns with groups that can be referred to, looks ahead and behind, and parts
that are not tried again. A pattern that uses none of these is easy: it can be
written as a plain pattern. Inside other patterns the easy parts stay plain.
-/

namespace Asn1Constraints

inductive Pattern where
  | empty
  | any (lineBreaks : Bool)
  | char (c : Char) (ignoresCase : Bool)
  /-- A class or a property in plain writing, taken to have a certain size. -/
  | part (source : List Char) (size : Nat) (ignoresCase : Bool)
  | edge (place : Edge)
  | sequence (pieces : List Pattern)
  | choice (branches : List Pattern)
  | group (number : Nat) (body : Pattern)
  | repeated (least : Nat) (most : Option Nat) (greedy : Bool) (body : Pattern)
  /-- Whether the body matches from here on, as wanted. -/
  | ahead (wanted : Bool) (body : Pattern)
  /-- Whether the body matches up to here, as wanted. -/
  | behind (wanted : Bool) (body : Pattern)
  /-- What a group has matched, once more. -/
  | again (group : Nat)
  | isSet (group : Nat)
  /-- The first match of the body and no other. -/
  | atomic (body : Pattern)
  | conditional (condition positive negative : Pattern)
  /-- Forget that what comes before belongs to the match. -/
  | keep
  | searchStart
deriving Repr

/-- How many characters a pattern takes at least, and whether it never takes more. -/
structure Extent where
  least : Nat
  isFixed : Bool
deriving DecidableEq, Repr

namespace Extent

def nothing : Extent := ⟨0, true⟩
def unknown : Extent := ⟨0, false⟩

def andThen (first second : Extent) : Extent :=
  ⟨first.least + second.least, first.isFixed && second.isFixed⟩

/-- Of an alternative and the ones before it. -/
def either (first second : Extent) : Extent :=
  ⟨min first.least second.least,
    first.isFixed && second.isFixed && first.least == second.least⟩

end Extent

namespace Pattern

def isEmpty : Pattern → Bool
  | .empty => true
  | _ => false

/-- Questions about a place cannot be repeated. -/
def isRepeatable : Pattern → Bool
  | .empty | .edge _ | .ahead _ _ | .behind _ _ => false
  | _ => true

mutual

def extent : Pattern → Extent
  | .empty | .edge _ | .ahead _ _ | .behind _ _ | .isSet _ | .keep | .searchStart => .nothing
  | .any _ | .char _ _ => ⟨1, true⟩
  | .part _ size _ => ⟨size, true⟩
  | .sequence pieces => extentOfAll pieces
  | .choice branches => extentOfAny branches
  | .group _ body | .atomic body => body.extent
  | .repeated least most _ body =>
    ⟨body.extent.least * least, body.extent.isFixed && most == some least⟩
  | .again _ => .unknown
  | .conditional condition positive negative =>
    let condition := condition.extent
    let positive := positive.extent
    let negative := negative.extent
    ⟨condition.least + min positive.least negative.least,
      condition.isFixed && positive.isFixed && negative.isFixed
        && condition.least + positive.least == negative.least⟩

def extentOfAll : List Pattern → Extent
  | [] => .nothing
  | pattern :: rest => pattern.extent.andThen (extentOfAll rest)

def extentOfAny : List Pattern → Extent
  | [] => .nothing
  | [pattern] => pattern.extent
  | pattern :: rest => pattern.extent.either (extentOfAny rest)

/-- Whether a pattern cannot be plain, by the groups that are referred to. -/
def isHard (referred : List Nat) : Pattern → Bool
  | .empty | .any _ | .char _ _ | .part _ _ _ => false
  | .edge place => [.wordStart, .wordEnd, .wordEdge, .noWordEdge].contains place
  | .sequence pieces => isAnyHard referred pieces
  | .choice branches => isAnyHard referred branches
  | .group number body => referred.contains number || body.isHard referred
  | .repeated _ _ _ body => body.isHard referred
  | .ahead _ _ | .behind _ _ | .again _ | .isSet _ | .atomic _ | .conditional _ _ _ | .keep
    | .searchStart => true

def isAnyHard (referred : List Nat) : List Pattern → Bool
  | [] => false
  | pattern :: rest => pattern.isHard referred || isAnyHard referred rest

end

/-! Easy patterns in plain writing. -/

def quoted (c : Char) : List Char :=
  if ['\\', '.', '+', '*', '?', '(', ')', '|', '[', ']', '\x7b', '\x7d', '^', '$', '#'].contains c
  then ['\\', c] else [c]

def enclosed (needed : Bool) (text : List Char) : List Char :=
  if needed then "(?:".toList ++ text ++ [')'] else text

def withMood (ignoresCase : Bool) (text : List Char) : List Char :=
  if ignoresCase then "(?i:".toList ++ text ++ [')'] else text

def digits (n : Nat) : List Char := Nat.toDigits 10 n

def repetition (least : Nat) (most : Option Nat) : List Char :=
  match least, most with
  | 0, some 1 => ['?']
  | 0, none => ['*']
  | 1, none => ['+']
  | least, none => ['\x7b'] ++ digits least ++ [',', '\x7d']
  | least, some most =>
    let upTo := if least = most then [] else ',' :: digits most
    ['\x7b'] ++ digits least ++ upTo ++ ['\x7d']

mutual

/-- What stands around a pattern decides whether it needs a group of its own:
nothing, alternatives, a sequence or a repetition. -/
def written (around : Nat) : Pattern → List Char
  | .empty => []
  | .any lineBreaks => if lineBreaks then "(?s:.)".toList else ['.']
  | .char c ignoresCase => withMood ignoresCase (quoted c)
  | .part source _ ignoresCase => withMood ignoresCase source
  | .edge .textStart => ['^']
  | .edge .textEnd => ['$']
  | .edge .lineStart => "(?m:^)".toList
  | .edge .lineEnd => "(?m:$)".toList
  | .sequence pieces => enclosed (1 < around) (writtenInRow pieces)
  | .choice branches => enclosed (0 < around) (writtenInTurn branches)
  | .group _ body => ['('] ++ body.written 0 ++ [')']
  | .repeated least most greedy body =>
    enclosed (2 < around)
      (body.written 3 ++ repetition least most ++ if greedy then [] else ['?'])
  | _ => []

def writtenInRow : List Pattern → List Char
  | [] => []
  | pattern :: rest => pattern.written 2 ++ writtenInRow rest

def writtenInTurn : List Pattern → List Char
  | [] => []
  | [pattern] => pattern.written 1
  | pattern :: rest => pattern.written 1 ++ '|' :: writtenInTurn rest

end

mutual

/-- The text that is all a pattern matches, if there is just one. -/
def literal? : Pattern → Option (List Char)
  | .char c false => some [c]
  | .sequence pieces => literals? pieces
  | _ => none

def literals? : List Pattern → Option (List Char)
  | [] => some []
  | pattern :: rest =>
    match pattern.literal?, literals? rest with
    | some first, some others => some (first ++ others)
    | _, _ => none

end

/-- Easy patterns, one after the other, as one plain pattern. -/
def plain? (pieces : List Pattern) : Option PlainPattern :=
  PlainPattern.ofChars? (pieces.flatMap (written 1))

end Pattern

end Asn1Constraints
