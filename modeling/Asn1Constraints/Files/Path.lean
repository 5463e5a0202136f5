/-!
Paths of files as they are given on the command line. Names are separated by
slashes. Whoever follows a path goes through all of its parts, single dots
included; as a text it has a directory and a file name, and there a dot counts
only at the very front.
-/

namespace Asn1Constraints

structure FilePath where
  text : String
deriving DecidableEq, Repr

namespace FilePath

def namesOf (name : List Char) : List Char → List (List Char)
  | [] => [name.reverse]
  | c :: rest => if c = '/' then name.reverse :: namesOf [] rest else namesOf (c :: name) rest

/-- What stands between the slashes, dots included. -/
def parts (path : FilePath) : List String :=
  ((namesOf [] path.text.toList).map String.ofList).filter (· ≠ "")

def isAbsolute (path : FilePath) : Bool := path.text.toList.head? = some '/'

/-- Such a path can only be that of a directory. -/
def endsInSlash (path : FilePath) : Bool := path.text.toList.getLast? = some '/'

def startsAtDot (path : FilePath) : Bool := !path.isAbsolute && path.parts.head? = some "."

/-- The parts that are no single dots. -/
def steps (path : FilePath) : List String := path.parts.filter (· ≠ ".")

/-- The last step, unless it leads to another directory. -/
def fileName? (path : FilePath) : Option String :=
  match path.steps.getLast? with
  | some ".." => none
  | found => found

/-- The path that starts as this one does and takes other steps. -/
def withSteps (path : FilePath) (steps : List String) : FilePath :=
  let root := if path.isAbsolute then "/" else ""
  let front := if path.startsAtDot then ["."] else []
  ⟨root ++ String.intercalate "/" (front ++ steps)⟩

/-- The path without its last step; a start that takes no steps has none. -/
def directory? (path : FilePath) : Option FilePath :=
  if path.steps.isEmpty then (if path.startsAtDot then some ⟨""⟩ else none)
  else some (path.withSteps path.steps.dropLast)

/-- A path in the same directory. -/
def sibling (path : FilePath) (name : String) : FilePath :=
  path.withSteps (path.steps.dropLast ++ [name])

/-- The path and the directories on the way to it, from the longest to the
shortest, without the one where it starts. -/
def ancestors (path : FilePath) : List FilePath :=
  let front := if path.startsAtDot then [path.withSteps []] else []
  (List.range path.steps.length).map (fun dropped =>
    path.withSteps (path.steps.take (path.steps.length - dropped))) ++ front

end FilePath

end Asn1Constraints
