import Asn1Constraints.Unicode.Category
import Asn1Constraints.Unicode.Composition

/-!
Letters that are written together. Two invisible characters ask for joining or
against it; they mean something only next to letters that can be joined.
-/

namespace Asn1Constraints.Joining

/-- Letters that can be joined to the one after them. -/
def joiningOnwards : CodePoints := .ofLines [
  "brAAFABABEEMBGBBbDBJOSbFBBJABABBbICCASCFDBIBABABB5KDOCDBACCCFcKbAcWECABJBAKABDCA3ACEBAQJFBCFB",
  "Odz4AYcYObBBAbd8VbSysNEIAFJBCKDeRABADCBBBACA2BkRbBBAm5BBBdICBQMC2DCLbOABBEACBBBBACAFBbwkWbB"]

/-- Letters that can be joined to the one before them. -/
def joiningBack : CodePoints := .ofLines [
  "brAAB3BJbDBBCFc0BAYBKCCAQAB33bScKbAcVYHABDB1DACGQMB0dz4AYcYObBBAbd8VbRysOFBABBDIBJCAGEeQRXFkS",
  "bCm4CBBdIUMD1RbOABEBHBDEBbwkXbB"]

/-- Marks that do not come between joined letters. -/
def transparent : CodePoints :=
  ((CodePoints.ofCodes ["Cf", "Me", "Mn"]).minus (CodePoints.range 0x200c 0x200d)).union
    (CodePoints.range 0x1e94b 0x1e94b)

/-- The class of marks that join letters without a vowel between them. -/
def joiningClass : Nat := 9

/-- Whether the first character of a kind that a search comes to is in a set. -/
def leadsTo (set : CodePoints) (chars : List Char) : Bool :=
  (chars.dropWhile transparent.has).head?.any set.has

def isJoinedByMark (before : List Char) : Bool :=
  before.head?.any fun c => Composition.classOf c == joiningClass

/-- Whether a joiner or the mark against joining may stand between what is before it,
last character first, and what is after it. -/
def isAllowed (c : Char) (before after : List Char) : Bool :=
  if c = '\u200d' then isJoinedByMark before
  else if c = '\u200c' then
    isJoinedByMark before || (leadsTo joiningOnwards before && leadsTo joiningBack after)
  else true

def areAllowedFrom (before : List Char) : List Char → Bool
  | [] => true
  | c :: rest => isAllowed c before rest && areAllowedFrom (c :: before) rest

/-- Whether all joiners in a text have something to join. -/
def areAllowed (chars : List Char) : Bool := areAllowedFrom [] chars

end Asn1Constraints.Joining
