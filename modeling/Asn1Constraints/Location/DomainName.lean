import Asn1Constraints.Text.Punycode
import Asn1Constraints.Unicode.Direction
import Asn1Constraints.Unicode.Joining
import Asn1Constraints.Unicode.NameForm

/-!
Names of hosts, as UTS 46 reads them. A name is a row of labels between dots. Its
characters take the form that names have, and each label with other characters than
ASCII ones is written in ASCII behind `xn--`. A label that is written so already has to
be the way it would be written.
-/

namespace Asn1Constraints.DomainName

/-- ASCII characters that are in no name. -/
def isForbidden (c : Char) : Bool :=
  c.toNat ≤ 0x20 || c.toNat == 0x7f
    || ['%', '#', '/', ':', '<', '>', '?', '@', '[', '\\', ']', '^', '|'].contains c

def isPlain (chars : List Char) : Bool := chars.all fun c => c.toNat < 0x80

/-- What follows the mark of an encoded label. -/
def encoded? : List Char → Option (List Char)
  | 'x' :: 'n' :: '-' :: '-' :: rest => some rest
  | _ => none

/-- The longest labels that are encoded and decoded. -/
def greatestEncoded : Nat := 1000
def greatestDecoded : Nat := 2000

/-- Characters that are parts of the one before. -/
def marks : CodePoints := CodePoints.ofCodes ["Mc", "Me", "Mn"]

def isWellFormed (label : List Char) : Bool :=
  !label.head?.any marks.has && Joining.areAllowed label

/-- A label that was encoded has to have the form of names already. -/
def hasNameForm (label : List Char) : Bool :=
  label.all (fun c => NameForm.form? c == some [c]) && Composition.composed label == label

/-- A label, its characters in the form of names, without encoding. -/
def decodedLabel? (label : List Char) : Option (List Char) :=
  match encoded? label with
  | none => if isWellFormed label then some label else none
  | some text =>
    if !isPlain text || greatestDecoded < text.length then none
    else
      match Punycode.decode? text with
      | some decoded =>
        if !isPlain decoded && hasNameForm decoded && isWellFormed decoded then some decoded
        else none
      | none => none

def encodedLabel? (label : List Char) : Option (List Char) :=
  if isPlain label then some label
  else if greatestEncoded < label.length then none
  else some ("xn--".toList ++ Punycode.encode label)

/-- Texts of both directions stand together only where each can stand between others. -/
def areSettled (labels : List (List Char)) : Bool :=
  !labels.any (fun label => label.any Direction.isFromRight) || labels.all Direction.isSettled

/-- A name in ASCII whose labels may be encoded. -/
def encodedName? (chars : List Char) : Option (List Char) := do
  let forms ← chars.mapM NameForm.form?
  let labels ← (Text.pieces (· == '.') (Composition.composed forms.flatten)).mapM decodedLabel?
  if areSettled labels then
    let written ← labels.mapM encodedLabel?
    return ['.'].intercalate written
  else none

/-- A name of nothing but ASCII characters and without encoded labels is its own form,
in small letters. -/
def isItself (chars : List Char) : Bool :=
  isPlain chars && !(Text.pieces (· == '.') chars).any fun label => (encoded? label).isSome

/-- The bytes of a name as the name in ASCII. -/
def toAscii? (bytes : List UInt8) : Option (List Char) := do
  let text ← String.fromUTF8? ⟨bytes.toArray⟩
  let small := text.toList.map Char.toLower
  let name ← if isItself small then some small else encodedName? small
  if name.any isForbidden then none else return name

end Asn1Constraints.DomainName
