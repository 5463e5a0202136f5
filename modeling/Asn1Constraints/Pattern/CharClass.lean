import Asn1Constraints.Text.Split
import Asn1Constraints.Unicode.Folding
import Asn1Constraints.Unicode.Property

/-!
Classes of characters in plain patterns: classes behind a backslash, properties,
and brackets with ranges, classes inside classes, and operators between them.
Where case is ignored a class first takes in what is the same as its members and
is turned around after that.
-/

namespace Asn1Constraints

namespace CodePoints

def ofClassName? : String → Option CodePoints
  | "alnum" => some (ofRuns [(0x30, 0x39), (0x41, 0x5a), (0x61, 0x7a)])
  | "alpha" => some (ofRuns [(0x41, 0x5a), (0x61, 0x7a)])
  | "ascii" => some (range 0 0x7f)
  | "blank" => some (ofChars ['\t', ' '])
  | "cntrl" => some (ofRuns [(0, 0x1f), (0x7f, 0x7f)])
  | "digit" => some (range 0x30 0x39)
  | "graph" => some (range 0x21 0x7e)
  | "lower" => some (range 0x61 0x7a)
  | "print" => some (range 0x20 0x7e)
  | "punct" => some (ofRuns [(0x21, 0x2f), (0x3a, 0x40), (0x5b, 0x60), (0x7b, 0x7e)])
  | "space" => some (ofRuns [(9, 13), (0x20, 0x20)])
  | "upper" => some (range 0x41 0x5a)
  | "word" => some (ofRuns [(0x30, 0x39), (0x41, 0x5a), (0x5f, 0x5f), (0x61, 0x7a)])
  | "xdigit" => some (ofRuns [(0x30, 0x39), (0x41, 0x46), (0x61, 0x66)])
  | _ => none

end CodePoints

namespace CharClass

def folded (ignoresCase : Bool) (set : CodePoints) : CodePoints :=
  if ignoresCase then set.ignoringCase else set

def turned (inverted : Bool) (set : CodePoints) : CodePoints :=
  if inverted then set.other else set

/-- Where the first occurrence of two characters in a row splits a text. -/
def cutAtBoth (first second : Char) : List Char → Option (List Char × List Char)
  | c :: d :: rest =>
    if c = first && d = second then some ([], rest)
    else (cutAtBoth first second (d :: rest)).map fun (before, after) => (c :: before, after)
  | _ => none

/-- What a property in braces stands for. The sign between its name and a value
says nothing about which characters are meant. -/
def property? (inside : List Char) : Option CodePoints :=
  match cutAtBoth '!' '=' inside with
  | some (name, value) => CodePoints.ofValue? name value
  | none =>
    match Text.cut (· == ':') inside with
    | (name, some value) => CodePoints.ofValue? name value
    | _ =>
      match Text.cut (· == '=') inside with
      | (name, some value) => CodePoints.ofValue? name value
      | _ => CodePoints.ofName? inside

/-- A property, after the letter that announces it. -/
def readProperty : List Char → Option (CodePoints × List Char)
  | '\x7b' :: rest =>
    match Text.cut (· == '\x7d') rest with
    | (inside, some rest) => (property? inside).map fun set => (set, rest)
    | _ => none
  | '\\' :: _ => none
  | c :: rest => (CodePoints.ofName? [c]).map fun set => (set, rest)
  | [] => none

/-- Characters that mean something in a plain pattern unless they stand behind a
backslash. -/
def isMark (c : Char) : Bool :=
  ['\\', '.', '+', '*', '?', '(', ')', '|', '[', ']', '\x7b', '\x7d', '^', '$', '#', '&', '-',
    '~'].contains c

/-- What a backslash and the characters after it stand for. -/
inductive Escape where
  | char (c : Char)
  | set (set : CodePoints)

def readEscape (ignoresCase : Bool) : List Char → Option (Escape × List Char)
  | [] => none
  | 'd' :: rest => some (.set CodePoints.digits, rest)
  | 'D' :: rest => some (.set CodePoints.digits.other, rest)
  | 's' :: rest => some (.set CodePoints.blanks, rest)
  | 'S' :: rest => some (.set CodePoints.blanks.other, rest)
  | 'w' :: rest => some (.set CodePoints.words, rest)
  | 'W' :: rest => some (.set CodePoints.words.other, rest)
  | 'p' :: rest =>
    (readProperty rest).map fun (set, rest) => (.set (folded ignoresCase set), rest)
  | 'P' :: rest =>
    (readProperty rest).map fun (set, rest) => (.set (folded ignoresCase set).other, rest)
  | c :: rest => if isMark c then some (.char c, rest) else none

/-- How the part of a class before an operator is joined to the part after it. -/
inductive Joining where
  | first
  | both (left : CodePoints)
  | minus (left : CodePoints)
  | oneOf (left : CodePoints)

def Joining.finish (ignoresCase : Bool) (joining : Joining) (right : CodePoints) :
    CodePoints :=
  let folded := folded ignoresCase
  match joining with
  | .first => right
  | .both left => (folded left).both (folded right)
  | .minus left => (folded left).minus (folded right)
  | .oneOf left => (folded left).oneOf (folded right)

/-- A name between colons, closed by a colon and a bracket. -/
def readClassName (ignoresCase : Bool) (chars : List Char) :
    Option (CodePoints × List Char) :=
  let (inverted, chars) :=
    match chars with
    | '^' :: rest => (true, rest)
    | rest => (false, rest)
  match Text.cut (· == ':') chars with
  | (name, some (']' :: rest)) =>
    (CodePoints.ofClassName? (String.ofList name)).map fun set =>
      (turned inverted (folded ignoresCase set), rest)
  | _ => none

def readMember (ignoresCase : Bool) : List Char → Option (Escape × List Char)
  | '\\' :: rest => readEscape ignoresCase rest
  | c :: rest => some (.char c, rest)
  | [] => none

/-- One character, a range of characters, or a class behind a backslash. A hyphen
makes a range unless the class ends or another hyphen follows. -/
def readItem (ignoresCase : Bool) (chars : List Char) : Option (CodePoints × List Char) := do
  let (first, rest) ← readMember ignoresCase chars
  let ranged :=
    match rest with
    | '-' :: next :: _ => next != ']' && next != '-'
    | _ => false
  match first, ranged with
  | .set set, false => return (set, rest)
  | .char c, false => return (.single c, rest)
  | .set _, true => none
  | .char c, true =>
    match ← readMember ignoresCase (rest.drop 1) with
    | (.char last, rest) =>
      if c ≤ last then return (.range c.toNat last.toNat, rest) else none
    | (.set _, _) => none

/-- The start of a class after its bracket: leading hyphens, or else a closing
bracket, are members. -/
def openClass (chars : List Char) : Bool × CodePoints × List Char :=
  let (inverted, chars) :=
    match chars with
    | '^' :: rest => (true, rest)
    | rest => (false, rest)
  match chars with
  | '-' :: rest => (inverted, .single '-', rest.dropWhile (· == '-'))
  | ']' :: rest => (inverted, .single ']', rest)
  | rest => (inverted, .nothing, rest)

/-- A class that is still open. -/
structure OpenClass where
  inverted : Bool
  joining : Joining
  set : CodePoints

namespace OpenClass

def add (current : OpenClass) (set : CodePoints) : OpenClass :=
  { current with set := current.set.union set }

def joinBy (ignoresCase : Bool) (current : OpenClass) (joining : CodePoints → Joining) :
    OpenClass :=
  ⟨current.inverted, joining (current.joining.finish ignoresCase current.set), .nothing⟩

def close (ignoresCase : Bool) (current : OpenClass) : CodePoints :=
  turned current.inverted
    (folded ignoresCase (current.joining.finish ignoresCase current.set))

end OpenClass

/-- So many classes may be open at a time. -/
def greatestDepth : Nat := 250

/-- The rest of a class: the enclosing classes wait in a list, innermost first. -/
def readRest (ignoresCase : Bool) : Nat → List OpenClass → OpenClass → List Char →
    Option (CodePoints × List Char)
  | 0, _, _, _ => none
  | budget + 1, outer, current, chars =>
    let next := readRest ignoresCase budget
    match chars with
    | [] => none
    | ']' :: rest =>
      let closed := current.close ignoresCase
      match outer with
      | [] => some (closed, rest)
      | enclosing :: outer => next outer (enclosing.add closed) rest
    | '&' :: '&' :: rest => next outer (current.joinBy ignoresCase .both) rest
    | '-' :: '-' :: rest => next outer (current.joinBy ignoresCase .minus) rest
    | '~' :: '~' :: rest => next outer (current.joinBy ignoresCase .oneOf) rest
    | '[' :: rest =>
      let named? :=
        match rest with
        | ':' :: name => readClassName ignoresCase name
        | _ => none
      match named? with
      | some (named, rest) => next outer (current.add named) rest
      | none =>
        let (inverted, set, rest) := openClass rest
        if outer.length + 2 ≤ greatestDepth then
          next (current :: outer) ⟨inverted, .first, set⟩ rest
        else none
    | chars =>
      match readItem ignoresCase chars with
      | some (item, rest) => next outer (current.add item) rest
      | none => none

/-- A class, after its opening bracket. -/
def read (ignoresCase : Bool) (chars : List Char) : Option (CodePoints × List Char) :=
  let (inverted, set, rest) := openClass chars
  readRest ignoresCase (chars.length + 1) [] ⟨inverted, .first, set⟩ rest

end CharClass

end Asn1Constraints
