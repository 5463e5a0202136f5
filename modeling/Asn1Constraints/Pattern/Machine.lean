import Asn1Constraints.Pattern.Program

/-!
Running a program on a text. A fork leaves an alternative behind, with all that
was known when it was left; a failure returns to the latest alternative. Both
the number of alternatives left behind and the number of returns are limited.
-/

namespace Asn1Constraints

/-- Why a search is given up. -/
inductive Exhaustion where
  | alternatives
  | returns
deriving DecidableEq, Repr

/-- What is known on the way: the place in the text, places and counts in slots,
and how many alternatives were left at each mark that is still open. -/
structure Moment where
  place : Nat
  slots : Array (Option Nat)
  marks : List Nat
deriving Repr

structure Machine where
  next : Nat
  moment : Moment
  /-- Where to go on after a failure, the latest first. -/
  left : List (Nat × Moment)
  height : Nat
  returns : Nat

inductive MachineStep where
  | further (machine : Machine)
  | ended (found : Bool)
  | exhausted (reason : Exhaustion)

namespace Machine

def greatestHeight : Nat := 1000000
def greatestReturns : Nat := 1000000

def start (program : Program) : Machine :=
  ⟨0, ⟨0, Array.replicate program.slots none, []⟩, [], 0, 0⟩

def slot (machine : Machine) (index : Nat) : Option Nat :=
  (machine.moment.slots[index]?).getD none

/-- With another value in a slot. -/
def withSlot (machine : Machine) (index : Nat) (value : Nat) : Machine :=
  let moment := machine.moment
  { machine with moment :=
    { moment with slots := moment.slots.setIfInBounds index (some value) } }

def withMarks (machine : Machine) (marks : List Nat) : Machine :=
  { machine with moment := { machine.moment with marks } }

def goTo (machine : Machine) (next : Nat) : MachineStep := .further { machine with next }

def goOn (machine : Machine) : MachineStep := machine.goTo (machine.next + 1)

def goOnAt (machine : Machine) (place : Nat) : MachineStep :=
  { machine with moment := { machine.moment with place } }.goOn

def fail (machine : Machine) : MachineStep :=
  match machine.left with
  | [] => .ended false
  | (next, moment) :: left =>
    if machine.returns = greatestReturns then .exhausted .returns
    else .further ⟨next, moment, left, machine.height - 1, machine.returns + 1⟩

def goOnIf (machine : Machine) (holds : Bool) : MachineStep :=
  if holds then machine.goOn else machine.fail

/-- Go on at one instruction and leave another for later. -/
def fork (machine : Machine) (first second : Nat) : MachineStep :=
  if machine.height = greatestHeight then .exhausted .alternatives
  else
    .further { machine with
      next := first, left := (second, machine.moment) :: machine.left,
      height := machine.height + 1 }

/-- Keep only the oldest alternatives. -/
def cutTo (machine : Machine) (height : Nat) : Machine :=
  { machine with
    left := machine.left.drop (machine.height - height), height := min machine.height height }

/-- Drop the alternatives up to the one that goes on at an instruction, and that one. -/
def cutThrough (machine : Machine) (target : Nat) : Machine :=
  let kept := (machine.left.dropWhile fun entry => entry.1 != target).drop 1
  { machine with left := kept, height := kept.length }

/-- The place after a text that stands at a place. -/
def textEnd? (text : Array Char) : Nat → List Char → Option Nat
  | place, [] => some place
  | place, c :: rest => if text[place]? = some c then textEnd? text (place + 1) rest else none

/-- What stands between two places; nothing when they are the wrong way round. -/
def between (text : Array Char) (first last : Nat) : List Char :=
  (text.extract first last).toList

def countStep (machine : Machine) (greedy : Bool) (least : Nat) (most : Option Nat)
    (exit slot : Nat) : MachineStep :=
  let count := (machine.slot slot).getD 0
  if most = some count then machine.goTo exit
  else
    let counted := machine.withSlot slot (count + 1)
    if count < least then counted.goOn
    else if greedy then counted.fork (machine.next + 1) exit
    else counted.fork exit (machine.next + 1)

def countOnwardsStep (machine : Machine) (greedy : Bool) (least exit slot since : Nat) :
    MachineStep :=
  let count := (machine.slot slot).getD 0
  let place := machine.moment.place
  if least < count && machine.slot since = some place then machine.fail
  else
    let counted := machine.withSlot slot (count + 1)
    if count < least then counted.goOn
    else
      let noted := counted.withSlot since place
      if greedy then noted.fork (machine.next + 1) exit
      else noted.fork exit (machine.next + 1)

def step (program : Program) (text : Array Char) (machine : Machine) : MachineStep :=
  let place := machine.moment.place
  match program.instructions[machine.next]? with
  | none | some .finish => .ended true
  | some (.any lineBreaks) =>
    match text[place]? with
    | some c => if lineBreaks || c != '\n' then machine.goOnAt (place + 1) else machine.fail
    | none => machine.fail
  | some (.text chars) =>
    match textEnd? text place chars with
    | some last => machine.goOnAt last
    | none => machine.fail
  | some (.plain pattern) =>
    match pattern.firstEnd? text place with
    | some last => machine.goOnAt last
    | none => machine.fail
  | some (.edge edge) =>
    let before := if place = 0 then none else text[place - 1]?
    machine.goOnIf (edge.holds before text[place]?)
  | some .searchStart => machine.goOnIf (place == 0)
  | some (.fork first second) => machine.fork first second
  | some (.jump target) => machine.goTo target
  | some (.save slot) => (machine.withSlot slot place).goOn
  | some (.clear slot) => (machine.withSlot slot 0).goOn
  | some (.restore slot) => machine.goOnAt ((machine.slot slot).getD 0)
  | some (.count greedy least most exit slot) =>
    machine.countStep greedy least most exit slot
  | some (.countOnwards greedy least exit slot since) =>
    machine.countOnwardsStep greedy least exit slot since
  | some (.back count) => if count ≤ place then machine.goOnAt (place - count) else machine.fail
  | some .refuse => (machine.cutThrough (machine.next + 1)).fail
  | some (.again group) =>
    match machine.slot (2 * group), machine.slot (2 * group + 1) with
    | some first, some last =>
      match textEnd? text place (between text first last) with
      | some reached => machine.goOnAt reached
      | none => machine.fail
    | _, _ => machine.fail
  | some (.isSet group) => machine.goOnIf (machine.slot (2 * group)).isSome
  | some .mark => (machine.withMarks (machine.height :: machine.moment.marks)).goOn
  | some .commit =>
    match machine.moment.marks with
    | height :: marks => ((machine.withMarks marks).cutTo height).goOn
    | [] => machine.goOn

/-- Run on for at most so many steps. -/
def run (program : Program) (text : Array Char) : Nat → Machine → Except Exhaustion Bool
  | 0, _ => .error .returns
  | budget + 1, machine =>
    match machine.step program text with
    | .further machine => run program text budget machine
    | .ended found => .ok found
    | .exhausted reason => .error reason

/-- A search that takes more steps than this is given up as well. -/
def budget : Nat := 1000000000000

end Machine

/-- Whether the program finds its pattern in a text. -/
def Program.isFoundIn (program : Program) (text : List Char) : Except Exhaustion Bool :=
  Machine.run program text.toArray Machine.budget (.start program)

end Asn1Constraints
