/-!
Sets of characters, as runs of code points in ascending order that neither
overlap nor touch. Tables of characters are written compactly: the gap before a
run and then what follows its first member, in turn, each a number in base 32.
The last digit of a number is a capital letter or one of 0 to 5, the digits
before it are small letters, 6 to 9, plus or minus.
-/

namespace Asn1Constraints

/-- Runs of code points, each with its first and its last member. -/
structure CodePoints where
  runs : List (Nat × Nat)
deriving DecidableEq, Repr

namespace CodePoints

def greatest : Nat := 0x10ffff

def nothing : CodePoints := ⟨[]⟩
def all : CodePoints := ⟨[(0, greatest)]⟩
def range (first last : Nat) : CodePoints := ⟨if first ≤ last then [(first, last)] else []⟩
def single (c : Char) : CodePoints := range c.toNat c.toNat

def hasIn (n : Nat) : List (Nat × Nat) → Bool
  | [] => false
  | (first, last) :: rest => if n < first then false else n ≤ last || hasIn n rest

def has (set : CodePoints) (c : Char) : Bool := hasIn c.toNat set.runs

/-- The code points from a place on that are in no run. -/
def gaps (start : Nat) : List (Nat × Nat) → List (Nat × Nat)
  | [] => if start ≤ greatest then [(start, greatest)] else []
  | (first, last) :: rest =>
    if start < first then (start, first - 1) :: gaps (last + 1) rest else gaps (last + 1) rest

def other (set : CodePoints) : CodePoints := ⟨gaps 0 set.runs⟩

/-- A run in front of runs that start no earlier. -/
def attach (first last : Nat) : List (Nat × Nat) → List (Nat × Nat)
  | [] => [(first, last)]
  | (next, final) :: rest =>
    if next ≤ last + 1 then attach first (max last final) rest
    else (first, last) :: (next, final) :: rest

def insertRun (first last : Nat) : List (Nat × Nat) → List (Nat × Nat)
  | [] => [(first, last)]
  | (next, final) :: rest =>
    if first ≤ next then attach first last ((next, final) :: rest)
    else if first ≤ final + 1 then attach next (max last final) rest
    else (next, final) :: insertRun first last rest

/-- Two sorted lists of runs as one. -/
def mergeRuns : Nat → List (Nat × Nat) → List (Nat × Nat) → List (Nat × Nat)
  | 0, left, _ => left
  | _, [], right => right
  | _, left, [] => left
  | budget + 1, (first, last) :: left, (start, final) :: right =>
    if first ≤ start then (first, last) :: mergeRuns budget left ((start, final) :: right)
    else (start, final) :: mergeRuns budget ((first, last) :: left) right

/-- Sorted runs, with those that touch made one. -/
def joined : List (Nat × Nat) → List (Nat × Nat)
  | [] => []
  | (first, last) :: rest => attach first last (joined rest)

def union (left right : CodePoints) : CodePoints :=
  match left.runs, right.runs with
  | [], _ => right
  | _, [] => left
  | [(first, last)], runs => ⟨insertRun first last runs⟩
  | runs, [(first, last)] => ⟨insertRun first last runs⟩
  | left, right => ⟨joined (mergeRuns (left.length + right.length) left right)⟩

def both (left right : CodePoints) : CodePoints := (left.other.union right.other).other
def minus (left right : CodePoints) : CodePoints := left.both right.other

/-- What is in exactly one of two sets. -/
def oneOf (left right : CodePoints) : CodePoints := (left.union right).minus (left.both right)

def unions (sets : List CodePoints) : CodePoints := sets.foldl union nothing

def ofRuns (runs : List (Nat × Nat)) : CodePoints :=
  unions (runs.map fun run => range run.1 run.2)

def ofChars (chars : List Char) : CodePoints := unions (chars.map single)

/-! Compact tables. -/

/-- A digit, and whether a number ends with it. -/
def digit (c : Char) : Nat × Bool :=
  if c.isUpper then (c.toNat - 65, true)
  else if '0' ≤ c && c ≤ '5' then (c.toNat - 48 + 26, true)
  else if c.isLower then (c.toNat - 97, false)
  else if '6' ≤ c && c ≤ '9' then (c.toNat - 54 + 26, false)
  else if c = '+' then (30, false) else (31, false)

/-- The numbers of a text, after the digits of one that has begun. -/
def numbersFrom (begun : Nat) : List Char → List Nat
  | [] => []
  | c :: rest =>
    let (value, ends) := digit c
    if ends then (begun * 32 + value) :: numbersFrom 0 rest
    else numbersFrom (begun * 32 + value) rest

def numbers (lines : List String) : List Nat := numbersFrom 0 (String.join lines).toList

/-- Gaps and lengths in turn as runs, from a place on. -/
def runsFrom (start : Nat) : List Nat → List (Nat × Nat)
  | gap :: more :: rest =>
    (start + gap, start + gap + more) :: runsFrom (start + gap + more + 1) rest
  | _ => []

def ofLines (lines : List String) : CodePoints := ⟨runsFrom 0 (numbers lines)⟩

end CodePoints

end Asn1Constraints
