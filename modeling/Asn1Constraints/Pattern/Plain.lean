import Asn1Constraints.Unicode.Trait

/-!
Plain patterns: characters, edges, alternatives and repetition. Whether one
matches in a text is decided with sets of places, so that no text takes long.
Where one end has to be chosen, it is the end that comes first when alternatives
are tried from left to right, more repetitions before fewer or fewer before more.
-/

namespace Asn1Constraints

/-- What can be asked of a place between two characters. -/
inductive Edge where
  | textStart
  | textEnd
  | lineStart
  | lineEnd
  | wordStart
  | wordEnd
  | wordEdge
  | noWordEdge
deriving DecidableEq, Repr

namespace Edge

def words : CodePoints := CodePoints.words

def isWordChar (c : Char) : Bool :=
  if c.toNat < 0x80 then c.isAlphanum || c == '_' else words.has c

def holds (before after : Option Char) : Edge → Bool
  | .textStart => before.isNone
  | .textEnd => after.isNone
  | .lineStart => before.all (· == '\n')
  | .lineEnd => after.all (· == '\n')
  | .wordStart => !before.any isWordChar && after.any isWordChar
  | .wordEnd => before.any isWordChar && !after.any isWordChar
  | .wordEdge => before.any isWordChar != after.any isWordChar
  | .noWordEdge => before.any isWordChar == after.any isWordChar

end Edge

inductive PlainPattern where
  | empty
  | one (set : CodePoints)
  | edge (place : Edge)
  | sequence (first second : PlainPattern)
  | choice (left right : PlainPattern)
  /-- A group whose ends could be asked for. -/
  | captured (body : PlainPattern)
  | repeated (least : Nat) (most : Option Nat) (greedy : Bool) (body : PlainPattern)
deriving Repr

/-- One flag per place of a text, the end included. -/
abbrev Places := List Bool

namespace Places

def either (left right : Places) : Places := left.zipWith (· || ·) right
def minus (left right : Places) : Places := left.zipWith (fun l r => l && !r) right
def isNone (places : Places) : Bool := !places.any id

def everywhere (text : List Char) : Places := true :: text.map fun _ => true

end Places

namespace PlainPattern

/-! Whether a pattern matches. -/

def neighbours (before : Option Char) : List Char → List (Option Char × Option Char)
  | [] => [(before, none)]
  | c :: rest => (before, some c) :: neighbours (some c) rest

/-- The places reached in exactly so many steps; nothing leads on from nowhere. -/
def after (step : Places → Places) : Nat → Places → Places
  | 0, places => places
  | count + 1, places => if places.isNone then places else after step count (step places)

/-- The places reached in at most so many further steps; only places that are
new lead on. -/
def within (step : Places → Places) : Nat → Places → Places → Places
  | 0, reached, _ => reached
  | count + 1, reached, fresh =>
    let next := (step fresh).minus reached
    if next.isNone then reached else within step count (reached.either next) next

/-- Where matches end that start at the given places. -/
def ends (text : List Char) : PlainPattern → Places → Places
  | .empty, starts => starts
  | .one set, starts => false :: starts.zipWith (fun start c => start && set.has c) text
  | .edge place, starts =>
    starts.zipWith (fun start (before, after) => start && place.holds before after)
      (neighbours none text)
  | .sequence first second, starts => second.ends text (first.ends text starts)
  | .choice left right, starts => (left.ends text starts).either (right.ends text starts)
  | .captured body, starts => body.ends text starts
  | .repeated least most _ body, starts =>
    let begun := after (body.ends text) least starts
    let more := (most.map (· - least)).getD (text.length + 1)
    within (body.ends text) more begun begun

/-- Whether the pattern matches somewhere in the text. -/
def isFoundIn (pattern : PlainPattern) (text : List Char) : Bool :=
  !(pattern.ends text (Places.everywhere text)).isNone

/-! The end that is chosen. -/

/-- Places in the order in which they were found, each of them once. -/
structure Found where
  /-- The latest first. -/
  places : List Nat
  seen : Array Bool

namespace Found

def nothing (size : Nat) : Found := ⟨[], Array.replicate (size + 1) false⟩

def add (found : Found) (place : Nat) : Found :=
  if found.seen[place]?.getD true then found
  else ⟨place :: found.places, found.seen.setIfInBounds place true⟩

def all (found : Found) : List Nat := found.places.reverse

def ofLists (size : Nat) (lists : List (List Nat)) : List Nat :=
  (lists.foldl (fun found list => list.foldl add found) (nothing size)).all

end Found

/-- What has been found on the way, and where further repetitions have begun:
one more than how many were still allowed, or zero for none. -/
structure Repetitions where
  found : Found
  begun : Array Nat

namespace Repetitions

/-- As many repetitions as no text has room for stand for any number of them. -/
def rank (size : Nat) (left : Option Nat) : Nat := left.getD (size + 1) + 1

/-- Go on from each place, as long as repetitions are left. No place is left twice
unless more repetitions are allowed than before. -/
def walk (greedy : Bool) (size : Nat) (step : Nat → List Nat) :
    Nat → Option Nat → List Nat → Repetitions → Repetitions
  | 0, _, _, done => done
  | _, _, [], done => done
  | budget + 1, left, place :: rest, done =>
    let before := if greedy then done else { done with found := done.found.add place }
    let rank := rank size left
    let onwards :=
      if left = some 0 || rank ≤ (before.begun[place]?.getD rank) then before
      else
        walk greedy size step budget (left.map (· - 1)) (step place)
          { before with begun := before.begun.setIfInBounds place rank }
    walk greedy size step budget left rest
      { onwards with found := onwards.found.add place }

end Repetitions

/-- The places after exactly so many repetitions. -/
def exactly (size : Nat) (step : Nat → List Nat) : Nat → List Nat → List Nat
  | 0, places => places
  | count + 1, places =>
    if places.isEmpty then [] else exactly size step count (Found.ofLists size (places.map step))

/-- Where matches end that start at one place, in the order of choice. -/
def orderedEnds (text : Array Char) : PlainPattern → Nat → List Nat
  | .empty, place => [place]
  | .one set, place => if text[place]?.any set.has then [place + 1] else []
  | .edge wanted, place =>
    let before := if place = 0 then none else text[place - 1]?
    if wanted.holds before text[place]? then [place] else []
  | .sequence first second, place =>
    Found.ofLists text.size ((first.orderedEnds text place).map (second.orderedEnds text))
  | .choice left right, place =>
    Found.ofLists text.size [left.orderedEnds text place, right.orderedEnds text place]
  | .captured body, place => body.orderedEnds text place
  | .repeated least most greedy body, place =>
    let size := text.size
    let step := body.orderedEnds text
    let budget := (size + 2) * (size + 2)
    (Repetitions.walk greedy size step budget (most.map (· - least))
      (exactly size step least [place])
      ⟨Found.nothing size, Array.replicate (size + 1) 0⟩).found.all

/-- The end of the match that starts at a place. -/
def firstEnd? (pattern : PlainPattern) (text : Array Char) (place : Nat) : Option Nat :=
  (pattern.orderedEnds text place).head?

end PlainPattern

end Asn1Constraints
