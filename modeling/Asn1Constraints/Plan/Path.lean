/-!
Where a check applies, relative to the value a plan is run on: named components,
selected alternatives, and every element of a collection. In text a path starts
with `$` and has `.name`, `::name` and `[*]` for its segments; a name in text
ends at the next `.`, `:` or `[` and is never empty.
-/

namespace Asn1Constraints

inductive PathSegment where
  | component (name : String)
  | alternative (name : String)
  | element
deriving DecidableEq, Repr

structure FieldPath where
  segments : List PathSegment
deriving DecidableEq, Repr

namespace PathSegment

def chars : PathSegment → List Char
  | .component name => '.' :: name.toList
  | .alternative name => ':' :: ':' :: name.toList
  | .element => ['[', '*', ']']

end PathSegment

namespace FieldPath

inductive Error where
  | noRoot (text : String)
  | unexpectedSegment (text : String)
  | emptyName (text : String)
deriving DecidableEq, Repr

def Error.message : Error → String
  | .noRoot text => s!"path must start with '$': {text}"
  | .unexpectedSegment text => s!"unexpected path segment in {text}"
  | .emptyName text => s!"empty path segment in {text}"

def root : FieldPath := ⟨[]⟩

def isRoot (path : FieldPath) : Bool := path.segments.isEmpty

def push (path : FieldPath) (segment : PathSegment) : FieldPath := ⟨path.segments ++ [segment]⟩

/-- The last segment and the path without it. -/
def pop (path : FieldPath) : Option PathSegment × FieldPath :=
  (path.segments.getLast?, ⟨path.segments.dropLast⟩)

def chars (path : FieldPath) : List Char := '$' :: path.segments.flatMap PathSegment.chars

def text (path : FieldPath) : String := String.ofList path.chars

/-! Reading. -/

def endsName (c : Char) : Bool := c = '.' || c = ':' || c = '['

/-- What a segment with a name starts with, and what follows that. -/
def nameStart? : List Char → Option ((String → PathSegment) × List Char)
  | ':' :: ':' :: rest => some (.alternative, rest)
  | '.' :: rest => some (.component, rest)
  | _ => none

/-- The segments of `chars`, which is a part of `text`. Every segment takes at
least one character, so its length is budget enough. -/
def readSegments (text : String) : Nat → List Char → Except Error (List PathSegment)
  | _, [] => .ok []
  | 0, _ :: _ => .error (.unexpectedSegment text)
  | budget + 1, '[' :: '*' :: ']' :: rest =>
    (readSegments text budget rest).map (.element :: ·)
  | budget + 1, chars =>
    match nameStart? chars with
    | none => .error (.unexpectedSegment text)
    | some (segment, rest) =>
      let name := rest.takeWhile (!endsName ·)
      if name = [] then .error (.emptyName text)
      else
        (readSegments text budget (rest.dropWhile (!endsName ·))).map
          (segment (String.ofList name) :: ·)

def parse (text : String) : Except Error FieldPath :=
  match text.toList with
  | '$' :: rest => (readSegments text rest.length rest).map FieldPath.mk
  | _ => .error (.noRoot text)

end FieldPath

end Asn1Constraints
