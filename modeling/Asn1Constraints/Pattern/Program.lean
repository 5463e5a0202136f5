import Asn1Constraints.Pattern.Basic

/-!
Patterns as programs for a machine that tries alternatives in order and returns
to the latest one left when a trial fails. Easy parts become single instructions
where nothing after them can ask for another match of theirs.
-/

namespace Asn1Constraints

inductive Instruction where
  | finish
  | any (lineBreaks : Bool)
  | text (chars : List Char)
  | plain (pattern : PlainPattern)
  | edge (place : Edge)
  | searchStart
  /-- Go on at the first instruction, and leave the second for later. -/
  | fork (first second : Nat)
  | jump (target : Nat)
  | save (slot : Nat)
  /-- Begin counting. -/
  | clear (slot : Nat)
  | restore (slot : Nat)
  /-- Once more, or on to the exit, by the count in a slot. -/
  | count (greedy : Bool) (least : Nat) (most : Option Nat) (exit slot : Nat)
  /-- The same without an upper bound, for a body that may match nothing: once more
  than needed only where something has been matched since. -/
  | countOnwards (greedy : Bool) (least exit slot since : Nat)
  /-- So many characters back. -/
  | back (count : Nat)
  /-- Fail together with the question that asked for this place not to be reached. -/
  | refuse
  | again (group : Nat)
  | isSet (group : Nat)
  /-- Remember how many alternatives are left. -/
  | mark
  /-- Drop the alternatives left since the last mark. -/
  | commit
deriving Repr

/-- Writing instructions may take new slots, and fails on a part that is no plain
pattern after all. -/
abbrev ProgramWriter := StateT Nat Option

namespace ProgramWriter

def newSlot : ProgramWriter Nat := fun next => some (next, next + 1)

def plain (pieces : List Pattern) : ProgramWriter (List Instruction) :=
  if pieces.isEmpty then return []
  else
    match Pattern.literals? pieces with
    | some chars => return [.text chars]
    | none => do
      let pattern ← StateT.lift (Pattern.plain? pieces)
      return [.plain pattern]

/-- The first of two instructions is tried first if wanted. -/
def forkTo (inOrder : Bool) (first second : Nat) : Instruction :=
  if inOrder then .fork first second else .fork second first

/-- Repetition of a body that is written from some place on. -/
def repeated (start : Nat) (least : Nat) (most : Option Nat) (greedy : Bool) (size : Nat)
    (body : Nat → ProgramWriter (List Instruction)) : ProgramWriter (List Instruction) := do
  if least = 0 && most = some 1 then
    let inner ← body (start + 1)
    return forkTo greedy (start + 1) (start + 1 + inner.length) :: inner
  else if most.isNone && size = 0 then
    let slot ← newSlot
    let since ← newSlot
    let inner ← body (start + 2)
    let exit := start + 3 + inner.length
    return [.clear slot, .countOnwards greedy least exit slot since] ++ inner
      ++ [.jump (start + 1)]
  else if least = 0 && most.isNone then
    let inner ← body (start + 1)
    return forkTo greedy (start + 1) (start + 2 + inner.length) :: inner ++ [.jump start]
  else if least = 1 && most.isNone then
    let inner ← body start
    return inner ++ [forkTo greedy start (start + inner.length + 1)]
  else
    let slot ← newSlot
    let inner ← body (start + 2)
    let exit := start + 3 + inner.length
    return [.clear slot, .count greedy least most exit slot] ++ inner ++ [.jump (start + 1)]

/-- Ask whether a body matches at a place, and go on from where it was asked. -/
def look (start : Nat) (wanted : Bool) (steps : List Instruction)
    (body : Nat → ProgramWriter (List Instruction)) : ProgramWriter (List Instruction) := do
  if wanted then
    let slot ← newSlot
    let inner ← body (start + 1 + steps.length)
    return .save slot :: steps ++ inner ++ [.restore slot]
  else
    let inner ← body (start + 1 + steps.length)
    let exit := start + 2 + steps.length + inner.length
    return .fork (start + 1) exit :: steps ++ inner ++ [.refuse]

end ProgramWriter

namespace Pattern

open ProgramWriter

/-- The alternatives of a choice whose extent is not fixed can be looked back over
one by one. -/
def loosely : Pattern → List Pattern
  | .choice branches => if (extentOfAny branches).isFixed then [] else branches
  | _ => []

/-- How far to go back for a pattern, if that is known. -/
def stepsBack (pattern : Pattern) : ProgramWriter (List Instruction) :=
  if pattern.extent.isFixed then return [.back pattern.extent.least] else fun _ => none

/-- How many pieces at the front can be matched in one way at most. -/
def settledFront (referred : List Nat) (pieces : List Pattern) : Nat :=
  (pieces.takeWhile fun piece => piece.extent.isFixed && !piece.isHard referred).length

/-- How many pieces at the end need not be tried again. -/
def settledEnd (referred : List Nat) (retried : Bool) (pieces : List Pattern) : Nat :=
  if retried then settledFront referred pieces.reverse
  else (pieces.reverse.takeWhile fun piece => !piece.isHard referred).length

mutual

/-- The instructions for a pattern, from a place on; whether what comes after it can
ask for another match makes a difference for easy patterns. -/
def code (referred : List Nat) (retried : Bool) (start : Nat) :
    Pattern → ProgramWriter (List Instruction)
  | .empty => if retried then return [] else ProgramWriter.plain [.empty]
  | .any lineBreaks =>
    if retried then return [.any lineBreaks] else ProgramWriter.plain [.any lineBreaks]
  | .char c ignoresCase => ProgramWriter.plain [.char c ignoresCase]
  | .part source size ignoresCase => ProgramWriter.plain [.part source size ignoresCase]
  | .edge place =>
    if retried || isHard referred (.edge place) then return [.edge place]
    else ProgramWriter.plain [.edge place]
  | .sequence pieces =>
    if !retried && !isAnyHard referred pieces then ProgramWriter.plain [.sequence pieces]
    else do
      let front := settledFront referred pieces
      let last := settledEnd referred retried (pieces.drop front)
      let first ← ProgramWriter.plain (pieces.take front)
      let middle ← codeOfSome referred (start + first.length) front
        (pieces.length - front - last) pieces
      let final ← ProgramWriter.plain (pieces.drop (pieces.length - last))
      return first ++ middle ++ final
  | .choice branches =>
    if !retried && !isAnyHard referred branches then ProgramWriter.plain [.choice branches]
    else codeOfBranches referred retried start branches
  | .group number body =>
    if !retried && !isHard referred (.group number body) then
      ProgramWriter.plain [.group number body]
    else do
      let inner ← body.code referred retried (start + 1)
      return .save (2 * number) :: inner ++ [.save (2 * number + 1)]
  | .repeated least most greedy body =>
    if !retried && !body.isHard referred then
      ProgramWriter.plain [.repeated least most greedy body]
    else
      let size := body.extent.least
      let counted := !(least = 0 && most = some 1)
      ProgramWriter.repeated start least most greedy size fun place =>
        body.code referred (retried || (counted && body.isHard referred)) place
  | .ahead wanted body =>
    ProgramWriter.look start wanted [] fun place => body.code referred false place
  | .behind wanted (.choice branches) =>
    if (extentOfAny branches).isFixed then
      ProgramWriter.look start wanted [.back (extentOfAny branches).least] fun place =>
        (Pattern.choice branches).code referred false place
    else if wanted then codeBehindAny referred start branches
    else codeBehindNone referred start branches
  | .behind wanted body => do
    let steps ← body.stepsBack
    ProgramWriter.look start wanted steps fun place => body.code referred false place
  | .again number => return [.again number]
  | .isSet number => return [.isSet number]
  | .atomic body => do
    let inner ← body.code referred false (start + 1)
    return .mark :: inner ++ [.commit]
  | .conditional condition positive negative => do
    let asked ← condition.code referred retried (start + 2)
    let thenStart := start + 3 + asked.length
    let thenCode ← positive.code referred retried thenStart
    let elseStart := thenStart + thenCode.length + 1
    let elseCode ← negative.code referred retried elseStart
    return [.mark, .fork (start + 2) elseStart] ++ asked ++ [.commit] ++ thenCode
      ++ [.jump (elseStart + elseCode.length)] ++ elseCode
  | .keep => return [.save 0]
  | .searchStart => return [.searchStart]

/-- The pieces of a sequence between those that are left out and the ones after. -/
def codeOfSome (referred : List Nat) (start leftOut count : Nat) :
    List Pattern → ProgramWriter (List Instruction)
  | [] => return []
  | piece :: rest =>
    match leftOut, count with
    | leftOut + 1, count => codeOfSome referred start leftOut count rest
    | 0, 0 => return []
    | 0, count + 1 => do
      let first ← piece.code referred true start
      let others ← codeOfSome referred (start + first.length) 0 count rest
      return first ++ others

def codeOfBranches (referred : List Nat) (retried : Bool) (start : Nat) :
    List Pattern → ProgramWriter (List Instruction)
  | [] => return []
  | [branch] => branch.code referred retried start
  | branch :: rest => do
    let first ← branch.code referred retried (start + 1)
    let next := start + 2 + first.length
    let others ← codeOfBranches referred retried next rest
    return .fork (start + 1) next :: first ++ [.jump (next + others.length)] ++ others

/-- Look back over each alternative in turn. -/
def codeBehindAny (referred : List Nat) (start : Nat) :
    List Pattern → ProgramWriter (List Instruction)
  | [] => return []
  | [branch] => do
    let steps ← branch.stepsBack
    ProgramWriter.look start true steps fun place => branch.code referred false place
  | branch :: rest => do
    let steps ← branch.stepsBack
    let first ← ProgramWriter.look (start + 1) true steps fun place =>
      branch.code referred false place
    let next := start + 2 + first.length
    let others ← codeBehindAny referred next rest
    return .fork (start + 1) next :: first ++ [.jump (next + others.length)] ++ others

/-- No alternative may match up to here. -/
def codeBehindNone (referred : List Nat) (start : Nat) :
    List Pattern → ProgramWriter (List Instruction)
  | [] => return []
  | branch :: rest => do
    let steps ← branch.stepsBack
    let first ← ProgramWriter.look start false steps fun place =>
      branch.code referred false place
    let others ← codeBehindNone referred (start + first.length) rest
    return first ++ others

end

end Pattern

/-- Instructions, with the number of slots they use. -/
structure Program where
  instructions : Array Instruction
  slots : Nat
deriving Repr

namespace Program

/-- A search: the pattern is tried at each place of the text in turn. The whole match
is group number zero; `groups` counts the others too. -/
def ofPattern? (referred : List Nat) (groups : Nat) (pattern : Pattern) : Option Program := do
  let (body, slots) ← (pattern.code referred true 4).run (2 * groups)
  let search : List Instruction := [.fork 3 1, .any true, .jump 0, .save 0]
  let closing : List Instruction := [.save 1, .finish]
  return ⟨(search ++ body ++ closing).toArray, slots⟩

end Program

end Asn1Constraints
