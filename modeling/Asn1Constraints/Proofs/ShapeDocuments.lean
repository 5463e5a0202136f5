import Asn1Constraints.Proofs.Conformance
import Asn1Constraints.Proofs.NestingLevels
import Mathlib

/-!
What a shape has to say about its documents. A value is written only if it is
of the kind of the shape, and a document is read only if it has the form that
the shape asks for, so there is one case for each kind. What is known of writing
and reading is shown from these cases, and not from the code.
-/

namespace Asn1Constraints

namespace EnumItem

variable {items : List EnumItem}

theorem exists_byValue? {n : Int64} (declared : n ∈ items.map (·.value)) :
    ∃ item, byValue? items n = some item := by
  apply Option.isSome_iff_exists.mp
  simpa [byValue?] using declared

/-- Where no name repeats, the item of a value is also the item of its name. -/
theorem byName?_of_byValue? (distinct : (items.map (·.name)).Nodup) {n : Int64} {item : EnumItem}
    (found : byValue? items n = some item) : byName? items item.name = some item ∧ item.value = n := by
  have declared := List.mem_of_find?_eq_some found
  obtain ⟨other, named⟩ : ∃ other, byName? items item.name = some other := by
    apply Option.isSome_iff_exists.mp
    simpa [byName?] using ⟨item, declared, rfl⟩
  have same : other.name = item.name := by simpa using List.find?_some named
  obtain rfl := List.inj_on_of_nodup_map distinct (List.mem_of_find?_eq_some named) declared same
  exact ⟨named, by simpa using List.find?_some found⟩

end EnumItem

namespace Alternative

variable {Node : Type} {alternatives : List (Alternative Node)}

theorem declared_of_byName? {name : String} {alternative : Alternative Node}
    (found : byName? alternatives name = some alternative) :
    alternative ∈ alternatives ∧ alternative.name = name :=
  ⟨List.mem_of_find?_eq_some found, by simpa using List.find?_some found⟩

theorem exists_byName? {name : String} (selected : name ∈ alternatives.map (·.name)) :
    ∃ alternative, byName? alternatives name = some alternative := by
  apply Option.isSome_iff_exists.mp
  simpa [byName?] using selected

/-- Each alternative is the one of its name. -/
theorem byName?_of_mem (distinct : (alternatives.map (·.name)).Nodup)
    {alternative : Alternative Node} (declared : alternative ∈ alternatives) :
    byName? alternatives alternative.name = some alternative := by
  obtain ⟨other, found⟩ := exists_byName? (List.mem_map_of_mem declared)
  obtain ⟨among, same⟩ := declared_of_byName? found
  rw [found, List.inj_on_of_nodup_map distinct among declared same]

end Alternative

namespace Json

theorem boolean?_eq_some_iff {json : Json} {value : Bool} :
    json.boolean? = some value ↔ json = .boolean value := by
  cases json <;> simp [boolean?]

theorem string?_eq_some_iff {json : Json} {text : String} :
    json.string? = some text ↔ json = .string text := by
  cases json <;> simp [string?]

theorem array?_eq_some_iff {json : Json} {items : List Json} :
    json.array? = some items ↔ json = .array items := by
  cases json <;> simp [array?]

theorem object?_eq_some_iff {json : Json} {members : Members} :
    json.object? = some members ↔ json = .object members := by
  cases json <;> simp [object?]

end Json

namespace Value

/-- The documents that a shape has for values, when `part` writes the parts. -/
inductive WrittenAs (part : PartWriter) (place : String) :
    Shape TypeNode → Value → Json → Prop where
  | integer {bounds} (n : Int64) : WrittenAs part place (.integer bounds) (.integer n) (.ofInt64 n)
  | real {bounds} (x : Binary64) (finite : x.isFinite = true) :
      WrittenAs part place (.real bounds) (.real x) (.real ⟨x, finite⟩)
  | boolean (b : Bool) : WrittenAs part place .boolean (.boolean b) (.boolean b)
  | null : WrittenAs part place .null .null .null
  | enumerated {items n item} : EnumItem.byValue? items n = some item →
      WrittenAs part place (.enumerated items) (.enumerated n) (.string item.name)
  | octetString {size} (bytes : List UInt8) :
      WrittenAs part place (.octetString size) (.octetString bytes) (.string (Hex.encode bytes))
  | bitString {size} (bits : List Bool) :
      WrittenAs part place (.bitString size) (.bitString bits)
        (.string (String.ofList (bits.map fun bit => if bit then '1' else '0')))
  | ia5String {size} (text : String) :
      WrittenAs part place (.ia5String size) (.ia5String text) (.string text)
  | sequenceOf {size element items documents} :
      writeElements part place element 0 items = .ok documents →
      WrittenAs part place (.sequenceOf size element) (.sequenceOf items) (.array documents)
  | sequence {components values members} :
      writeComponents part place values components = .ok members →
      WrittenAs part place (.sequence components) (.sequence values)
        (.object (Json.settleMembers members))
  | choice {alternatives name alternative content document} :
      Alternative.byName? alternatives name = some alternative →
      part s!"{place}.{name}" alternative.type content = .ok document →
      WrittenAs part place (.choice alternatives) (.choice name content) (.object [(name, document)])

section

variable {part : PartWriter} {place : String} {shape : Shape TypeNode} {value : Value} {json : Json}

theorem WrittenAs.of_ok (written : writeShape part place shape value = .ok json) :
    WrittenAs part place shape value json := by
  -- One case for each kind, and the last for a value of another kind than the shape.
  unfold writeShape at written
  split at written
  · cases written
    exact .integer _
  · rename_i bounds x
    rw [Json.ofReal?] at written
    by_cases finite : x.isFinite = true
    · rw [dif_pos finite] at written
      cases written
      exact .real x finite
    · rw [dif_neg finite] at written
      cases written
  · cases written
    exact .boolean _
  · cases written
    exact .null
  · split at written <;> cases written
    exact .enumerated ‹_›
  · cases written
    exact .octetString _
  · cases written
    exact .bitString _
  · cases written
    exact .ia5String _
  · obtain ⟨documents, listed, rfl⟩ := map_ok_iff.mp written
    exact .sequenceOf listed
  · obtain ⟨members, listed, rfl⟩ := map_ok_iff.mp written
    exact .sequence listed
  · rw [writeAlternative] at written
    split at written
    · cases written
    · obtain ⟨document, first, result⟩ := bind_ok_iff.mp written
      cases result
      exact .choice ‹_› first
  · cases written

theorem WrittenAs.ok (written : WrittenAs part place shape value json) :
    writeShape part place shape value = .ok json := by
  cases written with
  | real x finite => simp [writeShape, Json.ofReal?, finite]
  | enumerated found => simp [writeShape, found]
  | sequenceOf listed => exact map_ok_iff.mpr ⟨_, listed, rfl⟩
  | sequence listed => exact map_ok_iff.mpr ⟨_, listed, rfl⟩
  | choice selected first =>
      rw [writeShape, writeAlternative, selected]
      exact bind_ok_iff.mpr ⟨_, first, rfl⟩
  | _ => rfl

theorem writeShape_ok_iff :
    writeShape part place shape value = .ok json ↔ WrittenAs part place shape value json :=
  ⟨.of_ok, WrittenAs.ok⟩

end

theorem expecting_ok_iff {α : Type} {place expected : String} {json : Json} {given? : Option α}
    {given : α} : expecting place expected json given? = .ok given ↔ given? = some given := by
  cases given? <;> simp [expecting, invalid]

/-- The documents that a shape reads values from, when `part` reads the parts. -/
inductive ReadAs (part : PartReader) (place : String) :
    Shape TypeNode → Json → Value → Prop where
  | integer {bounds json n} : json.int64? = some n →
      ReadAs part place (.integer bounds) json (.integer n)
  | real {bounds json x} : json.real? = some x → ReadAs part place (.real bounds) json (.real x)
  | boolean (b : Bool) : ReadAs part place .boolean (.boolean b) (.boolean b)
  | null : ReadAs part place .null .null .null
  | enumerated {items name item} : EnumItem.byName? items name = some item →
      ReadAs part place (.enumerated items) (.string name) (.enumerated item.value)
  | octetString {size text bytes} : Hex.decode text = .ok bytes →
      ReadAs part place (.octetString size) (.string text) (.octetString bytes)
  | bitString {size text bits} : text.toList.mapM (bitOf place) = .ok bits →
      ReadAs part place (.bitString size) (.string text) (.bitString bits)
  | ia5String {size} (text : String) :
      ReadAs part place (.ia5String size) (.string text) (.ia5String text)
  | sequenceOf {size element items values} :
      readElements part place element 0 items = .ok values →
      ReadAs part place (.sequenceOf size element) (.array items) (.sequenceOf values)
  | sequence {components members values} : undeclared? components members = none →
      readComponents part place members components = .ok values →
      ReadAs part place (.sequence components) (.object members) (.sequence values)
  | choice {alternatives name alternative content value} :
      Alternative.byName? alternatives name = some alternative →
      part s!"{place}.{name}" alternative.type content = .ok value →
      ReadAs part place (.choice alternatives) (.object [(name, content)]) (.choice name value)

section

variable {part : PartReader} {place : String} {shape : Shape TypeNode} {json : Json} {value : Value}

theorem ReadAs.of_ok (read : readShape part place shape json = .ok value) :
    ReadAs part place shape json value := by
  cases shape with
  | integer bounds =>
      obtain ⟨n, given, rfl⟩ := map_ok_iff.mp read
      exact .integer (expecting_ok_iff.mp given)
  | real bounds =>
      obtain ⟨x, given, rfl⟩ := map_ok_iff.mp read
      exact .real (expecting_ok_iff.mp given)
  | boolean =>
      obtain ⟨b, given, rfl⟩ := map_ok_iff.mp read
      obtain rfl := Json.boolean?_eq_some_iff.mp (expecting_ok_iff.mp given)
      exact .boolean b
  | null =>
      cases json <;> cases read
      exact .null
  | enumerated items =>
      obtain ⟨name, given, named⟩ := bind_ok_iff.mp read
      obtain rfl := Json.string?_eq_some_iff.mp (expecting_ok_iff.mp given)
      rw [itemNamed] at named
      split at named <;> cases named
      exact .enumerated ‹_›
  | octetString size =>
      obtain ⟨text, given, octets⟩ := bind_ok_iff.mp read
      obtain rfl := Json.string?_eq_some_iff.mp (expecting_ok_iff.mp given)
      rw [octetsOf] at octets
      split at octets <;> cases octets
      exact .octetString ‹_›
  | bitString size =>
      obtain ⟨text, given, after⟩ := bind_ok_iff.mp read
      obtain rfl := Json.string?_eq_some_iff.mp (expecting_ok_iff.mp given)
      obtain ⟨bits, each, result⟩ := bind_ok_iff.mp after
      cases result
      exact .bitString each
  | ia5String size =>
      obtain ⟨text, given, rfl⟩ := map_ok_iff.mp read
      obtain rfl := Json.string?_eq_some_iff.mp (expecting_ok_iff.mp given)
      exact .ia5String text
  | sequenceOf size element =>
      obtain ⟨items, given, after⟩ := bind_ok_iff.mp read
      obtain rfl := Json.array?_eq_some_iff.mp (expecting_ok_iff.mp given)
      obtain ⟨values, elements, result⟩ := bind_ok_iff.mp after
      cases result
      exact .sequenceOf elements
  | sequence components =>
      obtain ⟨members, given, after⟩ := bind_ok_iff.mp read
      obtain rfl := Json.object?_eq_some_iff.mp (expecting_ok_iff.mp given)
      split at after
      · cases after
      · obtain ⟨values, listed, result⟩ := bind_ok_iff.mp after
        cases result
        exact .sequence ‹_› listed
  | choice alternatives =>
      obtain ⟨members, given, after⟩ := bind_ok_iff.mp read
      obtain rfl := Json.object?_eq_some_iff.mp (expecting_ok_iff.mp given)
      split at after
      · rw [readAlternative] at after
        split at after
        · cases after
        · obtain ⟨content, inside, result⟩ := bind_ok_iff.mp after
          cases result
          exact .choice ‹_› inside
      · cases after

theorem ReadAs.ok (read : ReadAs part place shape json value) :
    readShape part place shape json = .ok value := by
  cases read with
  | integer given => exact map_ok_iff.mpr ⟨_, expecting_ok_iff.mpr given, rfl⟩
  | real given => exact map_ok_iff.mpr ⟨_, expecting_ok_iff.mpr given, rfl⟩
  | enumerated named =>
      refine bind_ok_iff.mpr ⟨_, rfl, ?_⟩
      rw [itemNamed, named]
  | octetString decoded =>
      refine bind_ok_iff.mpr ⟨_, rfl, ?_⟩
      rw [octetsOf, decoded]
  | bitString each => exact bind_ok_iff.mpr ⟨_, rfl, bind_ok_iff.mpr ⟨_, each, rfl⟩⟩
  | sequenceOf elements => exact bind_ok_iff.mpr ⟨_, rfl, bind_ok_iff.mpr ⟨_, elements, rfl⟩⟩
  | sequence declared listed =>
      rw [readShape_components, declared]
      exact map_ok_iff.mpr ⟨_, listed, rfl⟩
  | choice selected inside =>
      rw [readShape_alternative, readAlternative, selected]
      exact bind_ok_iff.mpr ⟨_, inside, rfl⟩
  | _ => rfl

theorem readShape_ok_iff :
    readShape part place shape json = .ok value ↔ ReadAs part place shape json value :=
  ⟨.of_ok, ReadAs.ok⟩

end

end Value

end Asn1Constraints
