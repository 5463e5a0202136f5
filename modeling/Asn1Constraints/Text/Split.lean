/-!
Text cut at marks: at the first one, at all of them, or where only marks follow.
-/

namespace Asn1Constraints.Text

/-- What stands before the first mark, and what follows it if there is one. -/
def cut (isMark : Char → Bool) : List Char → List Char × Option (List Char)
  | [] => ([], none)
  | c :: rest =>
    if isMark c then ([], some rest)
    else
      let (before, after) := cut isMark rest
      (c :: before, after)

/-- The pieces between the marks; a text without marks is one piece. -/
def pieces (isMark : Char → Bool) : List Char → List (List Char)
  | [] => [[]]
  | c :: rest =>
    match pieces isMark rest with
    | [] => [[c]]
    | piece :: others => if isMark c then [] :: piece :: others else (c :: piece) :: others

/-- What stands before the first pair of marks, and what follows the pair. -/
def cutAtPair (mark : Char) : List Char → List Char × Option (List Char)
  | [] => ([], none)
  | [c] => ([c], none)
  | c :: d :: rest =>
    if c == mark && d == mark then ([], some rest)
    else
      let (before, after) := cutAtPair mark (d :: rest)
      (c :: before, after)

/-- The text without the marks at its end. -/
def trimEnd (isMark : Char → Bool) (chars : List Char) : List Char :=
  (chars.reverse.dropWhile isMark).reverse

end Asn1Constraints.Text
