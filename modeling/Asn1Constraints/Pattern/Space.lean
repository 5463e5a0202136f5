import Asn1Constraints.Pattern.Plain

/-!
The space that an automaton for a plain pattern takes, in bytes. It has states for
the bytes of characters, and a counted repetition is spelled out, so that counts
multiply. A pattern whose automaton would take too much space is refused.
-/

namespace Asn1Constraints

namespace Automaton

def spaceOfState : Nat := 32
def spaceOfArrow : Nat := 4

/-- For a range of bytes beside others in one state. -/
def spaceOfRange : Nat := 8

/-- A state with two ways on. -/
def spaceOfFork : Nat := spaceOfState + 2 * spaceOfArrow

def greatestSpace : Nat := 10 * 1024 * 1024

/-- What every automaton has: the search for a start, the match and its ends. -/
def leastSpace : Nat := 3 * spaceOfState + spaceOfState + spaceOfFork

end Automaton

namespace CodePoints

open Automaton

/-- Code points whose characters have the same number of bytes: that number, the
first of them and the last. -/
def widths : List (Nat × Nat × Nat) :=
  [(1, 0, 0x7f), (2, 0x80, 0x7ff), (3, 0x800, 0xd7ff), (3, 0xe000, 0xffff),
    (4, 0x10000, 0x10ffff)]

/-- A run cut into whole blocks of a size and what is left at its ends. -/
def cutAtBlocks (size : Nat) (run : Nat × Nat) : List (Nat × Nat) :=
  let (first, last) := run
  if first / size = last / size then [run]
  else
    let head := if first % size = 0 then first else (first / size + 1) * size
    let tail := if last % size = size - 1 then last + 1 else last / size * size
    [(first, head), (head, tail), (tail, last + 1)].filterMap fun (start, stop) =>
      if start < stop then some (start, stop - 1) else none

/-- A run of code points of one width, cut where the bytes behind the first begin anew. -/
def cutAtWidth (width : Nat) (run : Nat × Nat) : List (Nat × Nat) :=
  (List.range (width - 1)).foldl
    (fun runs behind => runs.flatMap (cutAtBlocks (Nat.pow 64 (behind + 1)))) [run]

/-- Code points of one width in whose characters each byte varies by itself. -/
structure Piece where
  width : Nat
  first : Nat
  last : Nat

namespace Piece

/-- How many ranges of bytes two pieces have in common at the front. -/
def shared (left right : Piece) : Nat :=
  if left.width != right.width then 0
  else
    ((List.range right.width).filter fun behind =>
      let size := Nat.pow 64 (behind + 1)
      behind + 1 < right.width && left.first / size == right.first / size
        && left.last / size == right.last / size).length

/-- The states for pieces in ascending order, where those in front are shared. -/
def states (previous : Option Piece) : List Piece → Nat
  | [] => 0
  | piece :: rest =>
    piece.width - ((previous.map fun other => other.shared piece).getD 0)
      + states (some piece) rest

end Piece

def pieces (set : CodePoints) : List Piece :=
  set.runs.flatMap fun (first, last) =>
    widths.flatMap fun (width, low, high) =>
      if max first low ≤ min last high then
        let runs := cutAtWidth width (max first low, min last high)
        runs.map fun (first, last) => ⟨width, first, last⟩
      else []

def isSingle (set : CodePoints) : Bool :=
  match set.runs with
  | [(first, last)] => first == last
  | _ => false

/-- The space for one character of a set. Characters of one byte share a state. -/
def space (set : CodePoints) : Nat :=
  let pieces := set.pieces
  let states := Piece.states none pieces
  if pieces.isEmpty then spaceOfState
  else if set.isSingle then states * spaceOfState
  else if pieces.all (·.width == 1) then 2 * spaceOfState + spaceOfRange * set.runs.length
  else (2 + states) * spaceOfState + spaceOfArrow * pieces.length

end CodePoints

namespace PlainPattern

open Automaton

/-- Whether every match is at one place. -/
def takesNothing : PlainPattern → Bool
  | .empty | .edge _ => true
  | .one _ => false
  | .captured body => body.takesNothing
  | .sequence first second => first.takesNothing && second.takesNothing
  | .choice left right => left.takesNothing && right.takesNothing
  | .repeated _ most _ body => most == some 0 || body.takesNothing

/-- The alternatives of a choice, from left to right. -/
def branches : PlainPattern → List PlainPattern
  | .choice left right => left.branches ++ [right]
  | pattern => [pattern]

/-- The set that a pattern consists of. -/
def set? : PlainPattern → Option CodePoints
  | .one set => some set
  | .sequence .empty pattern => pattern.set?
  | _ => none

/-- The set that alternatives amount to when all are single characters, or none is. -/
def joinedSet? (branches : List PlainPattern) : Option CodePoints :=
  match branches.mapM set? with
  | some sets =>
    if sets.all (·.isSingle) || !sets.any (·.isSingle) then some (.unions sets) else none
  | none => none

def spaceOfRepetition (least : Nat) (most : Option Nat) (body : Nat) : Nat :=
  match least, most with
  | _, some 0 => 0
  | least, none => max least 1 * body + spaceOfFork
  | least, some most =>
    if least = most then most * body
    else most * body + (most - least) * spaceOfFork + spaceOfState

/-- The space for a pattern, which may be one of several alternatives. -/
def space (isBranch : Bool) : PlainPattern → Nat
  | .empty => if isBranch then spaceOfState + spaceOfArrow else 0
  | .choice left right =>
    let apart := left.space true + right.space true
    if isBranch then apart
    else
      match joinedSet? (PlainPattern.choice left right).branches with
      | some set => set.space
      | none => apart + 2 * spaceOfState
  | pattern =>
    let alone :=
      match pattern with
      | .one set => set.space
      | .captured body => body.space false + 2 * spaceOfState
      | .sequence first second => first.space false + second.space false
      | .repeated least most _ body =>
        if body.takesNothing then
          spaceOfRepetition (min least 1) (some (min (most.getD 1) 1)) (body.space false)
        else spaceOfRepetition least most (body.space false)
      | _ => spaceOfState
    if isBranch then alone + spaceOfArrow else alone

def fits (pattern : PlainPattern) : Bool :=
  pattern.space false + leastSpace ≤ greatestSpace

end PlainPattern

end Asn1Constraints
