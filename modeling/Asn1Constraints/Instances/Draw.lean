import Asn1Constraints.Binary64.Arithmetic
import Asn1Constraints.Instances.Default
import Asn1Constraints.Instances.Options

/-!
Random instances. A source answers a few kinds of question, each with its next
state; what the answers are is no concern of the drawing. Bounds that leave one
value are not asked about.
-/

namespace Asn1Constraints

structure RandomSource (σ : Type) where
  /-- True with the given probability. -/
  chance : Binary64 → StateM σ Bool
  integerWithin : Int64 → Int64 → StateM σ Int64
  lengthWithin : UInt64 → UInt64 → StateM σ UInt64
  realWithin : Binary64 → Binary64 → StateM σ Binary64
  /-- A position below the given count. -/
  position : Nat → StateM σ Nat
  octet : StateM σ UInt8
  octetWithin : UInt8 → UInt8 → StateM σ UInt8

/-- A draw that may fail; the state of the source is kept either way. -/
abbrev Draw (σ : Type) := ExceptT Error (StateM σ)

namespace Draw

variable {σ : Type}

def ask {α : Type} (question : StateM σ α) : Draw σ α := ExceptT.lift question

def give {α : Type} (result : Except Error α) : Draw σ α := ExceptT.mk (pure result)

def refuse {α : Type} (cause : Malformation) : Draw σ α := give (.error (.malformed cause))

def manyWith {α : Type} (one : Draw σ α) : Nat → List α → Draw σ (List α)
  | 0, drawn => pure drawn.reverse
  | count + 1, drawn => do
    let next ← one
    manyWith one count (next :: drawn)

/-- As many draws as asked for, in order. -/
def many {α : Type} (count : Nat) (one : Draw σ α) : Draw σ (List α) := manyWith one count []

end Draw

section

variable {σ : Type}

namespace RandomSource

variable (source : RandomSource σ) (options : TestCaseOptions)

/-- One of two equally likely values. -/
def either {α : Type} (first second : α) : StateM σ α := do
  let takesFirst ← source.chance Binary64.half
  return if takesFirst then first else second

def drawInteger (bounds : IntegerBounds) : StateM σ Int64 := do
  if bounds.min = bounds.max then return bounds.min
  let atBoundary ← source.chance options.boundaryBias
  if atBoundary then source.either bounds.min bounds.max
  else source.integerWithin bounds.min bounds.max

/-- Within finite bounds whose span is not finite, a fraction of one half. -/
def drawWide (bounds : RealBounds) : StateM σ Binary64 := do
  let fraction ← source.realWithin Binary64.zero Binary64.one
  let half ← source.either bounds.min bounds.max
  return half.mul fraction

def drawReal (bounds : RealBounds) : StateM σ Binary64 := do
  if bounds.min.sameNumber bounds.max then return bounds.min
  let atBoundary ← source.chance options.boundaryBias
  if atBoundary then source.either bounds.min bounds.max
  else if (bounds.max.sub bounds.min).isFinite then
    source.realWithin bounds.min bounds.max
  else source.drawWide bounds

/-- The longest length worth drawing. -/
def longest (size : SizeBounds) : UInt64 :=
  min size.maxSize (max size.minSize options.maxCollectionLen)

def drawSize (size : SizeBounds) : StateM σ UInt64 := do
  let upper := longest options size
  if size.minSize = upper then return size.minSize
  let atBoundary ← source.chance options.boundaryBias
  if atBoundary then source.either size.minSize upper
  else source.lengthWithin size.minSize upper

def drawLength (size : SizeBounds) : Draw σ Nat := do
  let length ← Draw.ask (source.drawSize options size)
  Draw.give (instanceLength length)

/-- A printable character of the seven-bit set. -/
def drawCharacter : StateM σ Char := do
  let code ← source.octetWithin 0x20 0x7e
  return Char.ofNat code.toNat

def drawItem (items : List EnumItem) : Draw σ Value := do
  match items with
  | [] => Draw.refuse .noItems
  | first :: _ =>
    let position ← Draw.ask (source.position items.length)
    return .enumerated (items[position]?.getD first).value

end RandomSource

mutual

def TypeTree.draw (source : RandomSource σ) (options : TestCaseOptions) (module : String) :
    TypeTree → Draw σ Value
  | .dangling cause => Draw.give (.error (cause.error module))
  | .shaped _ shape => drawShape source options module shape

def drawShape (source : RandomSource σ) (options : TestCaseOptions) (module : String) :
    Shape Branch → Draw σ Value
  | .integer bounds => do
    return .integer (← Draw.ask (source.drawInteger options bounds))
  | .real bounds => do
    return .real (← Draw.ask (source.drawReal options bounds))
  | .boolean => do
    return .boolean (← Draw.ask (source.chance Binary64.half))
  | .null => pure .null
  | .enumerated items => source.drawItem items
  | .octetString size => do
    let length ← source.drawLength options size
    return .octetString (← Draw.many length (Draw.ask source.octet))
  | .bitString size => do
    let length ← source.drawLength options size
    return .bitString (← Draw.many length (Draw.ask (source.chance Binary64.half)))
  | .ia5String size => do
    let length ← source.drawLength options size
    let characters ← Draw.many length (Draw.ask source.drawCharacter)
    return .ia5String (String.ofList characters)
  | .sequenceOf size element => do
    let length ← source.drawLength options size
    return .sequenceOf (← Draw.many length ((element ()).draw source options module))
  | .sequence components => do
    return .sequence (← drawComponents source options module components)
  | .choice alternatives => do
    if alternatives.isEmpty then Draw.refuse .noAlternatives
    else
      let position ← Draw.ask (source.position alternatives.length)
      drawAlternative source options module position alternatives

def drawComponents (source : RandomSource σ) (options : TestCaseOptions) (module : String) :
    List (Component Branch) → Draw σ (List (String × Value))
  | [] => pure []
  | ⟨name, optional, type⟩ :: rest => do
    let present ←
      if optional then Draw.ask (source.chance options.optionalPresence) else pure true
    if present then
      let value ← (type ()).draw source options module
      let values ← drawComponents source options module rest
      return (name, value) :: values
    else drawComponents source options module rest

/-- Draw the alternative at a position, the last one if there are fewer. -/
def drawAlternative (source : RandomSource σ) (options : TestCaseOptions) (module : String)
    (position : Nat) : List (Alternative Branch) → Draw σ Value
  | [] => Draw.refuse .noAlternatives
  | ⟨name, type⟩ :: rest =>
    if position = 0 || rest.isEmpty then do
      return .choice name (← (type ()).draw source options module)
    else drawAlternative source options module (position - 1) rest

end

/-- One instance of a node, with the state of the source after it. -/
def TypeModule.drawInstance (module : TypeModule) (source : RandomSource σ)
    (options : TestCaseOptions) (node : TypeNode) (state : σ) : Except Error Value × σ :=
  ((module.unfold node).draw source options module.name).run.run state

end

end Asn1Constraints
