import Asn1Constraints.Unicode.CodePoints

/-!
The direction of characters. Only characters that names of hosts can have are told
apart; the tables run on over the others.
-/

namespace Asn1Constraints

namespace CodePoints

/-- Letters of scripts written from right to left. -/
def rightward : CodePoints := .ofLines [
  "bn4ABACACAJbETACABANbPbCCBdEPBHBKWB33cYLbZJBEADXEAJADAHbIFbRQbJb8xIQvQAcmMi1EhAPbFKfEGcKKpDbG",
  "F4bBhQbJD0bYcFLbQEdQbwaJgPcSbBH-S"]

/-- Digits that make a text run from right to left. -/
def arabicDigits : CodePoints := .ofLines [
  "btAJBBcbwDJjG4"]

/-- Digits of either direction. -/
def europeanDigits : CodePoints := .ofLines [
  "bQJbvWJb+-H0csEJ"]

/-- Marks that take the direction of what they stand on. -/
def attachedMarks : CodePoints := .ofLines [
  "yAdPiTGiHbMBABBBBBAcIKbQUQAdFGCFCBBDbDA40c1Kb0IJAYDBIBCBEbLCb1IbKbYbXABAEHEADGKB3Ab0AEDIAUB0E",
  "bZAEQ4BDALBbZAEHEAUBWHb0ACABDIJLB4Ab3AMAbSADAbXABCFQLB3Ab0APBUB2BbZBEDIAUB3AcIAHEc0ACGMHdCACI",
  "LGcJB1ABABAbXNBEBBFbPJAdGDBFBBCBZBECQDNACBGAPAv5C9SC3B4B4BcDGIACKJAfHBbCAdWCEBJAGCg1BCAb0ABIB",
  "ACHGMbQcTbQABEBAFAbIIMBbADCBBCbYABBDABCb0HCBeYCBMBGEAGADBgGb5wQbAc-4CeNAdA5rKDdLB9oUDBJbABcQB",
  "iQADAEAZBFAeXB0RNAbGHZKbOCbQACDCBbHAcDFCBCBMAIAbPAbTABCCBFBBAbKBIAhOACAEAtzQAyBP+NAhCAeVEbuGO",
  "bIHfFBr3DcBEj3BcNFcGKbRDd1AbWObJACBKCbRDCBHAb3CbEEBHb4AMBbUIKDCAc5CCABBGACAe3ADHVBbZBDAbFOcGF",
  "NABABAOBcVHCCBAXAcUFBAEBBBhODGBBB1BcVHCABBdKABACFBAdFCCDBEiDIBBiABBAEAeQHEAbAFCBbIFCDIAJFCCbO",
  "MBBgGABCBAgJNcUVCGBBBBd0UBAcIBDABAk1BLBbUEFABAXAfhFAGOlgILDCcoAEb1GbaYAb5DcRAtfYBetBcGrACRHCG",
  "4DeUCb91bWEbRIAOAWUbkQePfAGlXAb3Dp2Dh4BhTACAHBFAo0GdNG"]

/-- Characters without direction. -/
def undirected : CodePoints := .ofLines [
  "AbPKbG0c25AoBBHNC1BQdVAeAAmTFdWBBBBABBc0AdTAKAiMDpYBHAhVAiBHd3GoAAh0DbcSJdGAu0Bj4AU0jVFeYbBkO",
  "BbPAbeMfVcCcJb2nLcFZByVBkSiAx5hFFOGiAqEDYPAGAFCdAAc0AgEbFg+0b5vuQbWkGCdDAKBeAbBdGAe5DMBb0DxSB",
  "ucXr2cFBv0Ab4cMDQb74AqZG8QIlZT7OEuHMblUA-T2tl1CtSAxa3xQxYcYDAf0cWd9IAx5AchQr5b3Cb3AfScm0"]

end CodePoints

inductive Direction where
  | leftToRight
  | rightToLeft
  | arabicDigit
  | digit
  | attached
  | neutral
deriving DecidableEq, Repr

namespace Direction

def ofChar (c : Char) : Direction :=
  if CodePoints.rightward.has c then .rightToLeft
  else if CodePoints.arabicDigits.has c then .arabicDigit
  else if CodePoints.europeanDigits.has c then .digit
  else if CodePoints.attachedMarks.has c then .attached
  else if CodePoints.undirected.has c then .neutral
  else .leftToRight

def isFromRight (c : Char) : Bool :=
  match ofChar c with
  | .rightToLeft | .arabicDigit => true
  | _ => false

/-- What a text ends with, marks at its end apart. -/
def last? (directions : List Direction) : Option Direction :=
  directions.reverse.find? (· != .attached)

/-- Whether a text can be shown between texts of the other direction. -/
def isSettled (chars : List Char) : Bool :=
  let directions := chars.map ofChar
  match directions.head?, last? directions with
  | none, _ => true
  | some .leftToRight, some last =>
    !directions.any (fun direction => [.rightToLeft, .arabicDigit].contains direction)
      && [.leftToRight, .digit].contains last
  | some .rightToLeft, some last =>
    !directions.contains .leftToRight
      && !(directions.contains .digit && directions.contains .arabicDigit)
      && [.rightToLeft, .digit, .arabicDigit].contains last
  | _, _ => false

end Direction

end Asn1Constraints
