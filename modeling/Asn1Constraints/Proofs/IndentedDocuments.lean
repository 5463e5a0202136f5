import Asn1Constraints.Proofs.PrintedDocuments
import Mathlib

/-!
Indented text reads back. On every level it is laid out with line feeds and
spaces that the reader skips, so it is read as the compact text is; the line
feed that ends a printed document is skipped too.
-/

namespace Asn1Constraints.Json

theorem newline_blank (level : ℕ) : Blank (newline level) := by
  intro c member
  rcases List.mem_cons.mp member with rfl | space
  · rfl
  · rw [List.eq_of_mem_replicate space]
    rfl

namespace Spacing

/-- The layout of the parts of a document at a level. -/
def indented (level : ℕ) : Spacing where
  before := newline (level + 1)
  closing := newline level
  colon := [' ']
  blankBefore := newline_blank (level + 1)
  blankClosing := newline_blank level
  blankColon c member := by
    obtain rfl := List.mem_singleton.mp member
    rfl

end Spacing

theorem indentedItems_eq (level : ℕ) (items : List Json) : indentedItems level items =
    (Spacing.indented level).listed ']' (items.map (indentedChars (level + 1))) := by
  induction items with
  | nil => rfl
  | cons item rest ih => simp [indentedItems, Spacing.listed, Spacing.indented, ih]

theorem indentedMembers_eq (level : ℕ) (members : Members) : indentedMembers level members =
    (Spacing.indented level).listed '\x7d'
      (members.map ((Spacing.indented level).memberChars (indentedChars (level + 1)))) := by
  induction members with
  | nil => rfl
  | cons member rest ih =>
      simp [indentedMembers, Spacing.listed, Spacing.indented, Spacing.memberChars, ih]

theorem indentedChars_array (level : ℕ) (items : List Json) : indentedChars level (.array items) =
    (Spacing.indented level).arrayChars (indentedChars (level + 1)) items := by
  cases items <;>
    simp [indentedChars, Spacing.arrayChars, Spacing.indented, indentedItems_eq]

theorem indentedChars_object (level : ℕ) (members : Members) :
    indentedChars level (.object members) =
      (Spacing.indented level).objectChars (indentedChars (level + 1)) members := by
  cases members <;>
    simp [indentedChars, Spacing.objectChars, Spacing.indented, Spacing.memberChars,
      indentedMembers_eq]

/-- A document without parts has no layout. -/
theorem scalar_reads_indented (level budget : ℕ) (json : Json) (flat : json.depth = 0) :
    Reads budget (json.indentedChars level) json := by
  have same : json.indentedChars level = json.compactChars := by
    cases json with
    | array items => cases flat
    | object members => cases flat
    | _ => rfl
  rw [same]
  exact scalar_reads budget json flat

/-- As for compact text, the length is budget enough; the level grows with each
step inwards. -/
theorem indented_reads (json : Json) :
    ∀ level budget, (json.indentedChars level).length ≤ budget →
      Reads budget (json.indentedChars level) json := by
  induction json using byParts with
  | array items ih =>
      intro level budget enough
      rw [indentedChars_array] at enough ⊢
      refine (Spacing.indented level).array_reads_of_length items (fun item member => ?_) enough
      exact ih item member (level + 1)
  | object members ih =>
      intro level budget enough
      rw [indentedChars_object] at enough ⊢
      refine (Spacing.indented level).object_reads_of_length members (fun entry member => ?_) enough
      exact ih entry member (level + 1)
  | null => exact fun level budget _ => scalar_reads_indented level budget _ rfl
  | boolean value => exact fun level budget _ => scalar_reads_indented level budget _ rfl
  | integer n => exact fun level budget _ => scalar_reads_indented level budget _ rfl
  | real x => exact fun level budget _ => scalar_reads_indented level budget _ rfl
  | string text => exact fun level budget _ => scalar_reads_indented level budget _ rfl

/-- A printed line reads back as the document settled. -/
theorem parse_indentedLine (json : Json) : parse (json.indentedText ++ "\n") =
    if json.depth ≤ levelLimit then .ok json.settled else .error .unreadable := by
  have reads := json.indented_reads 0 ([] ++ (json.indentedChars 0 ++ ['\n'])).length (by simp)
  have parsed := reads.parsed (by simp [Blank]) (newline_blank 0)
  rw [List.nil_append] at parsed
  rw [parse, indentedText, String.toList_append, String.toList_ofList]
  exact parsed

end Asn1Constraints.Json
