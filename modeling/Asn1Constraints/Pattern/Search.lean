import Asn1Constraints.Pattern.Machine
import Asn1Constraints.Pattern.Reader

/-!
Patterns made ready to be searched for in texts. An easy pattern is searched for
as one plain pattern, which always comes to an end; any other one by a program,
which may have to give up.
-/

namespace Asn1Constraints

inductive Search where
  | plain (pattern : PlainPattern)
  | program (program : Program)
deriving Repr

def Exhaustion.message : Exhaustion → String
  | .alternatives => "Error executing regex: Max stack size exceeded for backtracking"
  | .returns => "Error executing regex: Max limit for backtracking count exceeded"

namespace Search

/-- Nothing for a text that is no pattern. -/
def ofChars? (chars : List Char) : Option Search := do
  let reading ← Pattern.read? chars
  if reading.pattern.isHard reading.referred then
    return .program (← Program.ofPattern? reading.referred reading.groups reading.pattern)
  else return .plain (← PlainPattern.ofChars? (reading.pattern.written 0))

def ofText? (source : String) : Option Search := ofChars? source.toList

def run (search : Search) (text : String) : Except Exhaustion Bool :=
  match search with
  | .plain easy => .ok (easy.isFoundIn text.toList)
  | .program written => written.isFoundIn text.toList

/-- A search that is given up finds nothing. -/
def isFoundIn (search : Search) (text : String) : Bool :=
  match search.run text with
  | .ok found => found
  | .error _ => false

end Search

end Asn1Constraints
