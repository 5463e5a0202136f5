/-!
Lists of names. A set of names is an ascending list without repeats; names are
ordered by their code points.
-/

namespace Asn1Constraints

/-- The first name that is among those seen or occurs for the second time. -/
def repeatedName? : List String → List String → Option String
  | _, [] => none
  | seen, name :: rest =>
    if seen.contains name then some name else repeatedName? (name :: seen) rest

namespace NameSet

def insert (name : String) : List String → List String
  | [] => [name]
  | other :: rest =>
    if name < other then name :: other :: rest
    else if name = other then other :: rest
    else other :: insert name rest

def ofList (names : List String) : List String :=
  names.foldl (fun set name => insert name set) []

end NameSet

end Asn1Constraints
