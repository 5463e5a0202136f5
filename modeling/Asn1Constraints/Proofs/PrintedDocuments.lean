import Asn1Constraints.Proofs.NestingLevels
import Asn1Constraints.Proofs.PrintedNumbers
import Mathlib

/-!
Printed documents read back. Whatever blanks stand between the parts, the text
of a document is scanned to the document itself if it nests no deeper than the
reader allows, and to nothing if it does. Compact text has no blanks and holds
no control characters, so there a document is one line.
-/

namespace Asn1Constraints.Json

/-! Strings. -/

theorem codeUnit?_control : ∀ n < 32,
    codeUnit? '0' '0' (Nat.digitChar (n / 16)) (Nat.digitChar (n % 16)) = some n := by decide

/-- What stands for a character is read as the character. -/
theorem scanText_escaped (c : Char) (following : List Char) :
    scanText true (escapeChar c ++ following) = pushChar c (scanText true following) := by
  unfold escapeChar
  -- Seven characters have escapes of their own, the other control characters are numbered.
  iterate 7
    split
    · subst_vars
      rfl
  split
  · rename_i control
    have unit := codeUnit?_control c.toNat control
    have single : trailsPair c.toNat = false ∧ leadsPair c.toNat = false := by
      simp [trailsPair, leadsPair]
      omega
    simp [scanText, unit, single]
  · rename_i quote slash _ _ _ _ _ shown
    rw [List.singleton_append, scanText, if_neg shown]
    · exact quote
    · exact fun _ _ _ _ _ same => absurd same slash
    · exact fun _ _ same => absurd same slash

theorem scanText_string (text rest : List Char) :
    scanText true (text.flatMap escapeChar ++ '"' :: rest) = some (text, rest) := by
  induction text with
  | nil => rfl
  | cons c tail ih =>
      rw [List.flatMap_cons, List.append_assoc, scanText_escaped, ih]
      rfl

theorem scanString_string (text : String) (rest : List Char) :
    scanString true (text.toList.flatMap escapeChar ++ '"' :: rest) = .ok (text, rest) := by
  rw [scanString, scanText_string]
  simp

/-! Documents by their parts. -/

theorem byParts {motive : Json → Prop} (null : motive .null)
    (boolean : ∀ value, motive (.boolean value)) (integer : ∀ value, motive (.integer value))
    (real : ∀ value, motive (.real value)) (string : ∀ text, motive (.string text))
    (array : ∀ items, (∀ item ∈ items, motive item) → motive (.array items))
    (object : ∀ members, (∀ member ∈ members, motive member.2) → motive (.object members))
    (json : Json) : motive json := by
  -- An item or a member is less deep than the document around it.
  induction levels : json.depth using Nat.strongRecOn generalizing json with
  | ind levels ih =>
      subst levels
      cases json with
      | array items =>
          exact array items fun item member =>
            ih _ (Nat.lt_succ_of_le (item_depth_le member)) item rfl
      | object members =>
          exact object members fun entry member =>
            ih _ (Nat.lt_succ_of_le (member_depth_le member)) entry.2 rfl
      | null => exact null
      | boolean value => exact boolean value
      | integer value => exact integer value
      | real value => exact real value
      | string text => exact string text

/-! The first character. -/

/-- A character a document may start with; it tells blanks and closing brackets apart. -/
def Opens (c : Char) : Prop := 0x20 < c.toNat ∧ c.toNat < 0x80 ∧ c ≠ ']'

theorem opens_of_isDigit {c : Char} (isDigit : c.isDigit = true) : Opens c := by
  have bounds : 48 ≤ c.toNat ∧ c.toNat ≤ 57 := by
    simpa [Char.isDigit, UInt32.le_iff_toNat_le] using isDigit
  refine ⟨by omega, by omega, ?_⟩
  rintro rfl
  simp at bounds

theorem Spelling.begins {chars whole : List Char} {fraction : Option (List Char)}
    {exponent : Option Int} (spelling : Spelling chars whole fraction exponent) (negative : Bool) :
    ∃ c tail, signed negative chars = c :: tail ∧ (c = '-' ∨ c.isDigit = true) := by
  have part := spelling.wholePart
  obtain ⟨c, digits, rfl⟩ := List.exists_cons_of_ne_nil part.nonempty
  have digit := part.isDigit c List.mem_cons_self
  cases negative with
  | true => exact ⟨'-', chars, rfl, .inl rfl⟩
  | false => cases spelling <;> exact ⟨c, _, rfl, .inr digit⟩

theorem wholeChars_begins (n : WholeNumber) :
    ∃ c tail, wholeChars n.val = c :: tail ∧ (c = '-' ∨ c.isDigit = true) := by
  rw [wholeChars_eq]
  exact (Spelling.whole (toDigits_wholePart _)).begins _

theorem realChars_begins (x : FiniteNumber) :
    ∃ c tail, Layout.json.chars x.val = c :: tail ∧ (c = '-' ∨ c.isDigit = true) := by
  obtain ⟨chars, printed, _, _, _, spelling, _⟩ := finiteChars_spells x.val x.finite
  rw [printed]
  exact spelling.begins _

theorem compactChars_opens (json : Json) :
    ∃ c tail, json.compactChars = c :: tail ∧ Opens c := by
  have number : ∀ c, c = '-' ∨ c.isDigit = true → Opens c := by
    rintro c (rfl | digit)
    · exact ⟨by decide, by decide, by decide⟩
    · exact opens_of_isDigit digit
  cases json with
  | null => exact ⟨'n', _, rfl, by decide, by decide, by decide⟩
  | boolean value =>
      cases value with
      | true => exact ⟨'t', _, rfl, by decide, by decide, by decide⟩
      | false => exact ⟨'f', _, rfl, by decide, by decide, by decide⟩
  | integer n =>
      obtain ⟨c, tail, printed, first⟩ := wholeChars_begins n
      exact ⟨c, tail, printed, number c first⟩
  | real x =>
      obtain ⟨c, tail, printed, first⟩ := realChars_begins x
      exact ⟨c, tail, printed, number c first⟩
  | string text => exact ⟨'"', _, rfl, by decide, by decide, by decide⟩
  | array items => cases items <;> exact ⟨'[', _, rfl, by decide, by decide, by decide⟩
  | object members => cases members <;> exact ⟨'\x7b', _, rfl, by decide, by decide, by decide⟩

theorem skipBlanks_cons {c : Char} {tail : List Char} (shown : isBlank c = false) :
    skipBlanks (c :: tail) = c :: tail := by
  simp [skipBlanks, shown]

theorem Opens.not_blank {c : Char} (opens : Opens c) : isBlank c = false := by
  obtain ⟨above, _, _⟩ := opens
  simp only [isBlank, Bool.or_eq_false_iff, decide_eq_false_iff_not]
  refine ⟨⟨⟨?_, ?_⟩, ?_⟩, ?_⟩ <;> (rintro rfl; revert above; decide)

theorem skipBlanks_compact (json : Json) (rest : List Char) :
    skipBlanks (json.compactChars ++ rest) = json.compactChars ++ rest := by
  obtain ⟨c, tail, printed, opens⟩ := compactChars_opens json
  rw [printed, List.cons_append, skipBlanks_cons opens.not_blank]

/-! Scalars. -/

theorem scanDocument_scalar (exact : Bool) (budget levels : ℕ) {c : Char} {tail : List Char}
    (noArray : c ≠ '[') (noObject : c ≠ '\x7b') :
    scanDocument exact budget levels (c :: tail) = scanScalar exact (c :: tail) := by
  cases levels with
  | zero =>
      rw [scanDocument]
      · exact fun _ same => noArray (List.cons.inj same).1
      · exact fun _ same => noObject (List.cons.inj same).1
  | succ levels =>
      rw [scanDocument]
      · exact fun _ same => noArray (List.cons.inj same).1
      · exact fun _ same => noObject (List.cons.inj same).1

theorem scanDocument_number (exact : Bool) (budget levels : ℕ) {c : Char} {tail : List Char}
    (first : c = '-' ∨ c.isDigit = true) :
    scanDocument exact budget levels (c :: tail) = scanNumber exact (c :: tail) := by
  have apart : ∀ other : Char, other ≠ '-' → other.isDigit = false → c ≠ other := by
    rintro other noSign noDigit rfl
    rcases first with sign | digit
    · exact noSign sign
    · exact absurd digit (by simp [noDigit])
  rw [scanDocument_scalar _ _ _ (apart '[' (by decide) rfl) (apart '\x7b' (by decide) rfl),
    scanScalar]
  · exact fun _ same => apart 'n' (by decide) rfl (List.cons.inj same).1
  · exact fun _ same => apart 't' (by decide) rfl (List.cons.inj same).1
  · exact fun _ same => apart 'f' (by decide) rfl (List.cons.inj same).1
  · exact fun _ same => apart '"' (by decide) rfl (List.cons.inj same).1

/-! Documents as far as they are kept. -/

/-- What is kept of a document where that many levels are allowed. -/
def keptWithin (levels : ℕ) (json : Json) (rest : List Char) : Scanned Json :=
  if json.depth ≤ levels then .ok (json, rest) else .error .unreadable

/-- The characters are scanned to the document, with a budget for the loops. The
first of them tells that a document starts. -/
structure Reads (budget : ℕ) (chars : List Char) (json : Json) : Prop where
  opens : ∃ c tail, chars = c :: tail ∧ Opens c
  scanned : ∀ levels rest, EndsNumber rest →
    scanDocument true budget levels (chars ++ rest) = keptWithin levels json rest

/-- The compact text of the document is scanned with a budget for its loops. -/
def Scans (budget : ℕ) (json : Json) : Prop :=
  ∀ levels rest, EndsNumber rest →
    scanDocument true budget levels (json.compactChars ++ rest) = keptWithin levels json rest

/-- A document nests one level above the parts it is closed around. -/
theorem keptWithin_closed {α : Type} {parts : α} {close : α × List Char → Json × List Char}
    {json : Json} {rest : List Char} {inner : ℕ} (levels : ℕ)
    (closed : close (parts, rest) = (json, rest)) (nested : json.depth = inner + 1) :
    (if inner ≤ levels then .ok (parts, rest) else .error .unreadable : Scanned α).map close =
      keptWithin (levels + 1) json rest := by
  rw [keptWithin, nested]
  by_cases within : inner ≤ levels
  · rw [if_pos within, if_pos (Nat.succ_le_succ within), ← closed]
    rfl
  · rw [if_neg within, if_neg fun deep => within (Nat.le_of_succ_le_succ deep)]
    rfl

theorem endsNumber_cons {c : Char} {rest : List Char}
    (outside : (c.isDigit || c == '.' || c == 'e' || c == 'E') = false) : EndsNumber (c :: rest) :=
  stopsBefore_cons outside

/-! Blanks between the parts. -/

def Blank (gap : List Char) : Prop := ∀ c ∈ gap, isBlank c = true

theorem skipBlanks_gap {gap : List Char} (blank : Blank gap) {c : Char} {tail : List Char}
    (shown : isBlank c = false) : skipBlanks (gap ++ c :: tail) = c :: tail := by
  rw [skipBlanks, List.dropWhile_append_of_pos blank]
  exact skipBlanks_cons shown

theorem Reads.skipBlanks_gap {budget : ℕ} {chars : List Char} {json : Json}
    (reads : Reads budget chars json) {gap : List Char} (blank : Blank gap) (rest : List Char) :
    skipBlanks (gap ++ (chars ++ rest)) = chars ++ rest := by
  obtain ⟨c, tail, rfl, opens⟩ := reads.opens
  exact Json.skipBlanks_gap blank opens.not_blank

theorem endsNumber_gap {gap : List Char} (blank : Blank gap) {rest : List Char}
    (ends : EndsNumber rest) : EndsNumber (gap ++ rest) := by
  cases gap with
  | nil => exact ends
  | cons c gap =>
      have shown := blank c List.mem_cons_self
      simp only [isBlank, Bool.or_eq_true, decide_eq_true_eq] at shown
      rcases shown with ((rfl | rfl) | rfl) | rfl <;> exact endsNumber_cons rfl

/-- The blanks of a layout: before each part of a list, before the bracket that
closes it, and behind the colon of a member. -/
structure Spacing where
  before : List Char
  closing : List Char
  colon : List Char
  blankBefore : Blank before
  blankClosing : Blank closing
  blankColon : Blank colon

namespace Spacing

def compact : Spacing := ⟨[], [], [], nofun, nofun, nofun⟩

variable (spacing : Spacing)

/-- The texts after the first, and the bracket that closes the list. -/
def listed (bracket : Char) : List (List Char) → List Char
  | [] => spacing.closing ++ [bracket]
  | text :: rest => ',' :: (spacing.before ++ (text ++ listed bracket rest))

def memberChars (print : Json → List Char) (member : String × Json) : List Char :=
  stringChars member.1 ++ ':' :: (spacing.colon ++ print member.2)

def arrayChars (print : Json → List Char) : List Json → List Char
  | [] => ['[', ']']
  | item :: rest =>
    '[' :: (spacing.before ++ (print item ++ spacing.listed ']' (rest.map print)))

def objectChars (print : Json → List Char) : Members → List Char
  | [] => ['\x7b', '\x7d']
  | member :: rest =>
    '\x7b' :: (spacing.before ++ (spacing.memberChars print member ++
      spacing.listed '\x7d' (rest.map (spacing.memberChars print))))

variable {spacing}

theorem endsNumber_listed {bracket : Char}
    (outside : (bracket.isDigit || bracket == '.' || bracket == 'e' || bracket == 'E') = false)
    (texts : List (List Char)) (rest : List Char) :
    EndsNumber (spacing.listed bracket texts ++ rest) := by
  cases texts with
  | nil =>
      rw [listed, List.append_assoc]
      exact endsNumber_gap spacing.blankClosing (endsNumber_cons outside)
  | cons text texts => exact endsNumber_cons rfl

theorem skipBlanks_closing {bracket : Char} (shown : isBlank bracket = false) (rest : List Char) :
    skipBlanks (spacing.listed bracket [] ++ rest) = bracket :: rest := by
  rw [listed, List.append_assoc]
  exact skipBlanks_gap spacing.blankClosing shown

theorem skipBlanks_next {bracket : Char} (text : List Char) (texts : List (List Char))
    (rest : List Char) : skipBlanks (spacing.listed bracket (text :: texts) ++ rest) =
      ',' :: (spacing.before ++ (text ++ (spacing.listed bracket texts ++ rest))) := by
  rw [listed, List.cons_append, skipBlanks_cons rfl, List.append_assoc, List.append_assoc]

/-- A list has fewer texts than characters. -/
theorem length_listed (bracket : Char) (texts : List (List Char)) :
    texts.length < (spacing.listed bracket texts).length := by
  induction texts with
  | nil => simp [listed]
  | cons text texts ih =>
      simp only [listed, List.length_cons, List.length_append]
      omega

theorem length_le_listed (bracket : Char) {texts : List (List Char)} {text : List Char}
    (member : text ∈ texts) : text.length ≤ (spacing.listed bracket texts).length := by
  induction texts with
  | nil => cases member
  | cons first rest ih =>
      simp only [listed, List.length_cons, List.length_append]
      rcases List.mem_cons.mp member with rfl | later
      · omega
      · have := ih later
        omega

/-- The text of an array is longer than the array, and than the text of each item. -/
theorem length_arrayChars (print : Json → List Char) (items : List Json) :
    items.length ≤ (spacing.arrayChars print items).length ∧
      ∀ item ∈ items, (print item).length ≤ (spacing.arrayChars print items).length := by
  cases items with
  | nil => exact ⟨Nat.zero_le _, nofun⟩
  | cons first rest =>
      have counted := spacing.length_listed ']' (rest.map print)
      simp only [arrayChars, List.length_cons, List.length_append, List.length_map] at counted ⊢
      refine ⟨by omega, fun item member => ?_⟩
      rcases List.mem_cons.mp member with rfl | later
      · omega
      · have : (print item).length ≤ _ := spacing.length_le_listed ']' (List.mem_map_of_mem later)
        omega

theorem length_le_memberChars (print : Json → List Char) (member : String × Json) :
    (print member.2).length ≤ (spacing.memberChars print member).length := by
  simp only [memberChars, List.length_append, List.length_cons]
  omega

theorem length_objectChars (print : Json → List Char) (members : Members) :
    members.length ≤ (spacing.objectChars print members).length ∧
      ∀ member ∈ members,
        (print member.2).length ≤ (spacing.objectChars print members).length := by
  cases members with
  | nil => exact ⟨Nat.zero_le _, nofun⟩
  | cons first rest =>
      have counted := spacing.length_listed '\x7d' (rest.map (spacing.memberChars print))
      simp only [objectChars, List.length_cons, List.length_append, List.length_map] at counted ⊢
      refine ⟨by omega, fun member listed => ?_⟩
      have own := spacing.length_le_memberChars print member
      rcases List.mem_cons.mp listed with rfl | later
      · omega
      · have : (spacing.memberChars print member).length ≤ _ :=
          spacing.length_le_listed '\x7d' (List.mem_map_of_mem later)
        omega

end Spacing

/-! Arrays and objects. -/

/-- An item put before those scanned so far. -/
def scanItem (budget levels : ℕ) (items : List Json) (text : List Char) : Scanned (List Json) :=
  (scanDocument true budget levels text).map fun scanned => (scanned.1 :: items, scanned.2)

/-- A member put before those scanned so far. -/
def scanMember (budget levels : ℕ) (members : Members) (key : String) (text : List Char) :
    Scanned Members :=
  (scanDocument true budget levels text).map fun scanned => ((key, scanned.1) :: members, scanned.2)

/-- One round of a loop over members, up to the value. -/
theorem foldMembers_key {σ : Type} {isTaken : σ → String → Bool}
    (member : σ → String → List Char → Scanned σ) (loops : ℕ) {state : σ} {key : String}
    (free : isTaken state key = false) (rest : List Char) :
    foldMembers true isTaken member (loops + 1) state (stringChars key ++ ':' :: rest) =
      match member state key (skipBlanks rest) with
      | .error error => .error error
      | .ok (state, afterValue) =>
        match skipBlanks afterValue with
        | ',' :: following => foldMembers true isTaken member loops state following
        | '\x7d' :: following => .ok (state, following)
        | _ => .error .unreadable := by
  have opened : stringChars key ++ ':' :: rest =
      '"' :: (key.toList.flatMap escapeChar ++ '"' :: ':' :: rest) := by
    simp [stringChars]
  rw [opened, foldMembers, skipBlanks_cons rfl]
  simp only [scanString_string, free, Bool.false_eq_true, if_false]
  -- The colon is no blank, and behind it the two sides are the same.
  rfl

/-- Blanks before a key make no difference to a loop over members. -/
theorem foldMembers_gap {σ : Type} {isTaken : σ → String → Bool}
    (member : σ → String → List Char → Scanned σ) (loops : ℕ) (state : σ) {gap : List Char}
    (blank : Blank gap) (key : String) (rest : List Char) :
    foldMembers true isTaken member loops state (gap ++ (stringChars key ++ rest)) =
      foldMembers true isTaken member loops state (stringChars key ++ rest) := by
  cases loops with
  | zero => rfl
  | succ loops =>
      have opened : stringChars key ++ rest =
          '"' :: (key.toList.flatMap escapeChar ++ '"' :: rest) := by
        simp [stringChars]
      rw [opened, foldMembers, foldMembers, skipBlanks_gap blank rfl, skipBlanks_cons rfl]

section

variable (spacing : Spacing) {print : Json → List Char} {budget : ℕ}

theorem Reads.scanItem {item : Json} (reads : Reads budget (print item) item) {gap : List Char}
    (blank : Blank gap) (levels : ℕ) (before : List Json) (rest : List Char)
    (ends : EndsNumber rest) :
    Json.scanItem budget levels before (skipBlanks (gap ++ (print item ++ rest))) =
      if item.depth ≤ levels then .ok (item :: before, rest) else .error .unreadable := by
  rw [reads.skipBlanks_gap blank, Json.scanItem, reads.scanned levels rest ends, keptWithin]
  split <;> rfl

theorem foldItems_reads (levels : ℕ) (items : List Json) :
    ∀ first gap loops before rest, Blank gap →
      (∀ item ∈ first :: items, Reads budget (print item) item) → items.length < loops →
      foldItems (scanItem budget levels) loops before
          (gap ++ (print first ++ (spacing.listed ']' (items.map print) ++ rest))) =
        if itemsDepth (first :: items) ≤ levels then .ok ((first :: items).reverse ++ before, rest)
        else .error .unreadable := by
  -- Over the items after the first: a round takes one document and the comma behind it.
  induction items with
  | nil =>
      intro first gap loops before rest blank each enough
      obtain ⟨loops, rfl⟩ : ∃ fewer, loops = fewer + 1 := ⟨loops - 1, by omega⟩
      rw [foldItems, (each first List.mem_cons_self).scanItem blank _ _ _
        (Spacing.endsNumber_listed rfl _ _)]
      by_cases shallow : first.depth ≤ levels
      · simp [shallow, itemsDepth, spacing.skipBlanks_closing (show isBlank ']' = false from rfl)]
      · simp [shallow, itemsDepth]
  | cons second items ih =>
      intro first gap loops before rest blank each enough
      obtain ⟨loops, rfl⟩ : ∃ fewer, loops = fewer + 1 := ⟨loops - 1, by omega⟩
      obtain ⟨own, others⟩ := List.forall_mem_cons.mp each
      have after := ih second spacing.before loops (first :: before) rest spacing.blankBefore others
        (by simpa using enough)
      rw [foldItems, own.scanItem blank _ _ _ (Spacing.endsNumber_listed rfl _ _)]
      by_cases shallow : first.depth ≤ levels
      · simp [shallow, spacing.skipBlanks_next, after, itemsDepth]
      · simp [shallow, itemsDepth]

theorem Spacing.array_reads (items : List Json)
    (each : ∀ item ∈ items, Reads budget (print item) item) (enough : items.length ≤ budget) :
    Reads budget (spacing.arrayChars print items) (.array items) where
  opens := by cases items <;> exact ⟨'[', _, rfl, by decide, by decide, by decide⟩
  scanned levels rest ends := by
    cases levels with
    | zero => cases items <;> simp [arrayChars, scanDocument, keptWithin, depth]
    | succ levels =>
        cases items with
        | nil => simp [arrayChars, scanDocument, scanItems, keptWithin, depth, itemsDepth,
            skipBlanks_cons (show isBlank ']' = false from rfl), Except.map]
        | cons first items =>
            have folded := foldItems_reads spacing levels items first [] budget []
              rest nofun each enough
            have own := each first List.mem_cons_self
            obtain ⟨c, tail, printed, opens⟩ := own.opens
            -- No document starts with a closing bracket, so the loop is entered.
            have entered : scanItems budget (scanItem budget levels) []
                (spacing.before ++
                  (print first ++ (spacing.listed ']' (items.map print) ++ rest))) =
                foldItems (scanItem budget levels) budget []
                  (print first ++ (spacing.listed ']' (items.map print) ++ rest)) := by
              rw [scanItems, own.skipBlanks_gap spacing.blankBefore]
              rw [printed, List.cons_append]
              split
              · rename_i same
                exact absurd (List.cons.inj same).1 opens.2.2
              · rfl
            rw [arrayChars, List.cons_append, List.append_assoc, List.append_assoc, scanDocument]
            change (scanItems budget (scanItem budget levels) [] (spacing.before ++
              (print first ++ (spacing.listed ']' (items.map print) ++ rest)))).map _ = _
            rw [entered]
            rw [List.nil_append] at folded
            rw [folded]
            exact keptWithin_closed levels (by simp) rfl

theorem Reads.scanMember {value : Json} (reads : Reads budget (print value) value)
    {gap : List Char} (blank : Blank gap) (levels : ℕ) (before : Members) (key : String)
    (rest : List Char) (ends : EndsNumber rest) :
    Json.scanMember budget levels before key (skipBlanks (gap ++ (print value ++ rest))) =
      if value.depth ≤ levels then .ok ((key, value) :: before, rest) else .error .unreadable := by
  rw [reads.skipBlanks_gap blank, Json.scanMember, reads.scanned levels rest ends, keptWithin]
  split <;> rfl

theorem foldMembers_reads (levels : ℕ) (members : Members) :
    ∀ first gap loops before rest, Blank gap →
      (∀ member ∈ first :: members, Reads budget (print member.2) member.2) →
      members.length < loops →
      foldMembers true noneTaken (scanMember budget levels) loops before
          (gap ++ (spacing.memberChars print first ++
            (spacing.listed '\x7d' (members.map (spacing.memberChars print)) ++ rest))) =
        if membersDepth (first :: members) ≤ levels then
          .ok ((first :: members).reverse ++ before, rest)
        else .error .unreadable := by
  induction members with
  | nil =>
      intro first gap loops before rest blank each enough
      obtain ⟨key, value⟩ := first
      obtain ⟨loops, rfl⟩ : ∃ fewer, loops = fewer + 1 := ⟨loops - 1, by omega⟩
      have own : Reads budget (print value) value := each _ List.mem_cons_self
      rw [Spacing.memberChars, List.append_assoc, foldMembers_gap _ _ _ blank, List.cons_append,
        List.append_assoc, foldMembers_key _ _ rfl,
        own.scanMember spacing.blankColon _ _ _ _ (Spacing.endsNumber_listed rfl _ _)]
      by_cases shallow : value.depth ≤ levels
      · simp [shallow, membersDepth,
          spacing.skipBlanks_closing (show isBlank '\x7d' = false from rfl)]
      · simp [shallow, membersDepth]
  | cons second members ih =>
      intro first gap loops before rest blank each enough
      obtain ⟨key, value⟩ := first
      obtain ⟨loops, rfl⟩ : ∃ fewer, loops = fewer + 1 := ⟨loops - 1, by omega⟩
      obtain ⟨own, others⟩ := List.forall_mem_cons.mp each
      -- Members are put before those read earlier, so they come out in reverse.
      have after := ih second spacing.before loops ((key, value) :: before) rest
        spacing.blankBefore others (by simpa using enough)
      rw [Spacing.memberChars, List.append_assoc, foldMembers_gap _ _ _ blank, List.cons_append,
        List.append_assoc, foldMembers_key _ _ rfl,
        own.scanMember spacing.blankColon _ _ _ _ (Spacing.endsNumber_listed rfl _ _)]
      by_cases shallow : value.depth ≤ levels
      · simp [shallow, spacing.skipBlanks_next, after, membersDepth]
      · simp [shallow, membersDepth]

theorem Spacing.object_reads (members : Members)
    (each : ∀ member ∈ members, Reads budget (print member.2) member.2)
    (enough : members.length ≤ budget) :
    Reads budget (spacing.objectChars print members) (.object members) where
  opens := by cases members <;> exact ⟨'\x7b', _, rfl, by decide, by decide, by decide⟩
  scanned levels rest ends := by
    cases levels with
    | zero => cases members <;> simp [objectChars, scanDocument, keptWithin, depth]
    | succ levels =>
        cases members with
        | nil => simp [objectChars, scanDocument, scanMembers, keptWithin, depth, membersDepth,
            skipBlanks_cons (show isBlank '\x7d' = false from rfl), Except.map]
        | cons first members =>
            have folded := foldMembers_reads spacing levels members first [] budget []
              rest nofun each enough
            -- The gap before the first key is skipped on entering the object, not by the loop.
            have entered : ∀ text, scanMembers true budget noneTaken (scanMember budget levels) []
                (spacing.before ++ (spacing.memberChars print first ++ text)) =
                foldMembers true noneTaken (scanMember budget levels) budget []
                  (spacing.memberChars print first ++ text) := by
              intro text
              rw [scanMembers, memberChars, stringChars, List.cons_append, List.cons_append,
                skipBlanks_gap spacing.blankBefore rfl]
              rfl
            rw [objectChars, List.cons_append, List.append_assoc, List.append_assoc, scanDocument]
            change (scanMembers true budget noneTaken (scanMember budget levels) []
              (spacing.before ++ (spacing.memberChars print first ++
                (spacing.listed '\x7d' (members.map (spacing.memberChars print)) ++
                  rest)))).map _ = _
            rw [entered]
            rw [List.nil_append] at folded
            rw [folded]
            exact keptWithin_closed levels (by simp) rfl

/-- The budget bounds the rounds of every loop alike. -/
theorem Spacing.array_reads_of_length (items : List Json)
    (each : ∀ item ∈ items, ∀ budget, (print item).length ≤ budget →
      Reads budget (print item) item)
    (enough : (spacing.arrayChars print items).length ≤ budget) :
    Reads budget (spacing.arrayChars print items) (.array items) := by
  obtain ⟨counted, shorter⟩ := spacing.length_arrayChars print items
  refine spacing.array_reads items (fun item member => ?_) (counted.trans enough)
  exact each item member budget ((shorter item member).trans enough)

theorem Spacing.object_reads_of_length (members : Members)
    (each : ∀ member ∈ members, ∀ budget, (print member.2).length ≤ budget →
      Reads budget (print member.2) member.2)
    (enough : (spacing.objectChars print members).length ≤ budget) :
    Reads budget (spacing.objectChars print members) (.object members) := by
  obtain ⟨counted, shorter⟩ := spacing.length_objectChars print members
  refine spacing.object_reads members (fun member listed => ?_) (counted.trans enough)
  exact each member listed budget ((shorter member listed).trans enough)

end

/-! Whole documents. -/

/-- A document without parts is read in every layout. -/
theorem scalar_reads (budget : ℕ) (json : Json) (flat : json.depth = 0) :
    Reads budget json.compactChars json := by
  refine ⟨compactChars_opens json, fun levels rest ends => ?_⟩
  cases json with
  | null => cases levels <;> rfl
  | boolean value => cases value <;> cases levels <;> rfl
  | integer n =>
      obtain ⟨c, tail, printed, first⟩ := wholeChars_begins n
      have scanned := scanNumber_wholeChars n rest ends
      change scanDocument true budget levels (wholeChars n.val ++ rest) = _
      rw [printed, List.cons_append] at *
      rw [scanDocument_number _ _ _ first, scanned]
      exact (if_pos (Nat.zero_le _)).symm
  | real x =>
      obtain ⟨c, tail, printed, first⟩ := realChars_begins x
      have scanned := scanNumber_realChars x rest ends
      change scanDocument true budget levels (Layout.json.chars x.val ++ rest) = _
      rw [printed, List.cons_append] at *
      rw [scanDocument_number _ _ _ first, scanned]
      exact (if_pos (Nat.zero_le _)).symm
  | string text =>
      have opened : stringChars text ++ rest =
          '"' :: (text.toList.flatMap escapeChar ++ '"' :: rest) := by
        simp [stringChars]
      change scanDocument true budget levels (stringChars text ++ rest) = _
      rw [opened, scanDocument_scalar _ _ _ (by decide) (by decide), scanScalar, scanString_string]
      rfl
  | array items => cases flat
  | object members => cases flat

/-- Compact text has no blanks. -/
theorem compactItems_eq (items : List Json) :
    compactItems items = Spacing.compact.listed ']' (items.map compactChars) := by
  induction items with
  | nil => rfl
  | cons item rest ih => simp [compactItems, Spacing.listed, Spacing.compact, ih]

theorem compactMembers_eq (members : Members) : compactMembers members =
    Spacing.compact.listed '\x7d' (members.map (Spacing.compact.memberChars compactChars)) := by
  induction members with
  | nil => rfl
  | cons member rest ih =>
      simp [compactMembers, Spacing.listed, Spacing.compact, Spacing.memberChars, ih]

theorem endsNumber_items (items : List Json) (rest : List Char) :
    EndsNumber (compactItems items ++ rest) :=
  compactItems_eq items ▸ Spacing.endsNumber_listed rfl _ _

theorem endsNumber_members (members : List (String × Json)) (rest : List Char) :
    EndsNumber (compactMembers members ++ rest) :=
  compactMembers_eq members ▸ Spacing.endsNumber_listed rfl _ _

theorem length_compactItems (items : List Json) : items.length < (compactItems items).length := by
  simpa [compactItems_eq] using Spacing.compact.length_listed ']' (items.map compactChars)

theorem length_compactMembers (members : Members) :
    members.length < (compactMembers members).length := by
  simpa [compactMembers_eq] using Spacing.compact.length_listed '\x7d'
    (members.map (Spacing.compact.memberChars compactChars))

theorem length_item_le {items : List Json} {item : Json} (member : item ∈ items) :
    item.compactChars.length ≤ (compactItems items).length :=
  compactItems_eq items ▸ Spacing.length_le_listed ']' (List.mem_map_of_mem member)

theorem length_member_le {members : Members} {entry : String × Json} (member : entry ∈ members) :
    entry.2.compactChars.length ≤ (compactMembers members).length := by
  have listed : (Spacing.compact.memberChars compactChars entry).length ≤ _ :=
    compactMembers_eq members ▸ Spacing.length_le_listed '\x7d' (List.mem_map_of_mem member)
  simp only [Spacing.memberChars, List.length_append, List.length_cons] at listed
  omega

theorem length_array (items : List Json) :
    (compactItems items).length ≤ (compactChars (.array items)).length := by
  cases items <;> simp [compactChars, compactItems]

theorem length_object (members : Members) :
    (compactMembers members).length ≤ (compactChars (.object members)).length := by
  cases members <;> simp [compactChars, compactMembers]

theorem compactChars_array (items : List Json) :
    compactChars (.array items) = Spacing.compact.arrayChars compactChars items := by
  cases items <;> simp [compactChars, Spacing.arrayChars, Spacing.compact, compactItems_eq]

theorem compactChars_object (members : Members) :
    compactChars (.object members) = Spacing.compact.objectChars compactChars members := by
  cases members <;> simp [compactChars, Spacing.objectChars, Spacing.compact, Spacing.memberChars,
    compactMembers_eq]

/-- The length of the text is budget enough for a document of any depth. -/
theorem compact_reads (json : Json) :
    ∀ budget, json.compactChars.length ≤ budget → Reads budget json.compactChars json := by
  induction json using byParts with
  | array items ih =>
      intro budget enough
      rw [compactChars_array] at enough ⊢
      exact Spacing.compact.array_reads_of_length items ih enough
  | object members ih =>
      intro budget enough
      rw [compactChars_object] at enough ⊢
      exact Spacing.compact.object_reads_of_length members ih enough
  | null => exact fun budget _ => scalar_reads budget _ rfl
  | boolean value => exact fun budget _ => scalar_reads budget _ rfl
  | integer n => exact fun budget _ => scalar_reads budget _ rfl
  | real x => exact fun budget _ => scalar_reads budget _ rfl
  | string text => exact fun budget _ => scalar_reads budget _ rfl

theorem scans_of_length (json : Json) (budget : ℕ) (enough : json.compactChars.length ≤ budget) :
    Scans budget json :=
  (compact_reads json budget enough).scanned

/-- Text with blanks around a document reads back as the document settled,
unless it nests deeper than the reader allows. -/
theorem Reads.parsed {chars before after : List Char} {json : Json}
    (reads : Reads (before ++ (chars ++ after)).length chars json) (blankBefore : Blank before)
    (blankAfter : Blank after) : parseChars (before ++ (chars ++ after)) =
      if json.depth ≤ levelLimit then .ok json.settled else .error .unreadable := by
  have ends : EndsNumber (after ++ []) := endsNumber_gap blankAfter nofun
  rw [List.append_nil] at ends
  have nothing : skipBlanks after = [] := List.dropWhile_eq_nil_iff.mpr blankAfter
  rw [parseChars, reads.skipBlanks_gap blankBefore, reads.scanned _ _ ends, keptWithin]
  split
  · simp [finish, nothing, Except.map]
  · rfl

theorem parse_text (json : Json) :
    parse json.text = if json.depth ≤ levelLimit then .ok json.settled else .error .unreadable := by
  have reads := compact_reads json ([] ++ (json.compactChars ++ [])).length (by simp)
  have parsed := reads.parsed nofun nofun
  rw [List.nil_append, List.append_nil] at parsed
  rw [parse, text, String.toList_ofList, parsed]

/-! Printed characters. The compact text holds no control characters. -/

def Printed (chars : List Char) : Prop := ∀ c ∈ chars, 0x20 ≤ c.toNat

theorem printed_nil : Printed [] := nofun

theorem printed_cons {c : Char} {rest : List Char} :
    Printed (c :: rest) ↔ 0x20 ≤ c.toNat ∧ Printed rest := List.forall_mem_cons

theorem printed_append {first second : List Char} :
    Printed (first ++ second) ↔ Printed first ∧ Printed second := List.forall_mem_append

theorem printed_of_isDigit {digits : List Char} (isDigit : ∀ c ∈ digits, c.isDigit = true) :
    Printed digits :=
  fun c member => le_of_lt (opens_of_isDigit (isDigit c member)).1

theorem escapeChar_printed (c : Char) : Printed (escapeChar c) := by
  have digits : ∀ n < 32, 0x20 ≤ (Nat.digitChar (n / 16)).toNat ∧
      0x20 ≤ (Nat.digitChar (n % 16)).toNat := by decide
  unfold escapeChar
  iterate 7
    split
    · simp [Printed]
  split
  · rename_i control
    have := digits _ control
    simpa [Printed]
  · exact printed_cons.mpr ⟨by omega, printed_nil⟩

theorem stringChars_printed (text : String) : Printed (stringChars text) := by
  have content : Printed (text.toList.flatMap escapeChar) := fun c member => by
    obtain ⟨source, _, shown⟩ := List.mem_flatMap.mp member
    exact escapeChar_printed source c shown
  simp [stringChars, printed_cons, printed_append, content, printed_nil]

theorem exponentChars_printed (exponent : Int) : Printed (Layout.json.exponentChars exponent) := by
  have digits := printed_of_isDigit (toDigits_isDigit exponent.natAbs)
  unfold Layout.exponentChars
  simp only
  split <;> simp [Layout.json, printed_cons, digits]

theorem Spelling.printed {chars whole : List Char} {fraction : Option (List Char)}
    {exponent : Option Int} (spelling : Spelling chars whole fraction exponent) (negative : Bool) :
    Printed (signed negative chars) := by
  have plain : Printed chars := by
    have digits := printed_of_isDigit spelling.wholePart.isDigit
    cases spelling with
    | whole part => exact digits
    | fraction part places some =>
        simp [printed_append, printed_cons, digits, printed_of_isDigit places]
    | exponent power part => simp [printed_append, digits, exponentChars_printed]
    | scientific power part places some =>
        simp [printed_append, printed_cons, digits, printed_of_isDigit places,
          exponentChars_printed]
  cases negative with
  | true => exact printed_cons.mpr ⟨by decide, plain⟩
  | false => exact plain

theorem compactItems_printed (items : List Json)
    (each : ∀ item ∈ items, Printed item.compactChars) : Printed (compactItems items) := by
  induction items with
  | nil => simp [compactItems, Printed]
  | cons item rest ih =>
      obtain ⟨own, others⟩ := List.forall_mem_cons.mp each
      simp [compactItems, printed_cons, printed_append, own, ih others]

theorem compactMembers_printed (members : Members)
    (each : ∀ member ∈ members, Printed member.2.compactChars) :
    Printed (compactMembers members) := by
  induction members with
  | nil => simp [compactMembers, Printed]
  | cons member rest ih =>
      obtain ⟨own, others⟩ := List.forall_mem_cons.mp each
      simp [compactMembers, printed_cons, printed_append, stringChars_printed, own, ih others]

theorem compactChars_printed (json : Json) : Printed json.compactChars := by
  induction json using byParts with
  | null => simp [compactChars, scalarChars, Printed]
  | boolean value => cases value <;> simp [compactChars, scalarChars, Printed]
  | integer n =>
      change Printed (wholeChars n.val)
      rw [wholeChars_eq]
      exact (Spelling.whole (toDigits_wholePart _)).printed _
  | real x =>
      obtain ⟨chars, shown, _, _, _, spelling, _⟩ := finiteChars_spells x.val x.finite
      change Printed (Layout.json.chars x.val)
      rw [shown]
      exact spelling.printed _
  | string text => exact stringChars_printed text
  | array items ih =>
      cases items with
      | nil => simp [compactChars, Printed]
      | cons item rest =>
          obtain ⟨own, others⟩ := List.forall_mem_cons.mp ih
          simp [compactChars, printed_cons, printed_append, own, compactItems_printed rest others]
  | object members ih =>
      cases members with
      | nil => simp [compactChars, Printed]
      | cons member rest =>
          obtain ⟨own, others⟩ := List.forall_mem_cons.mp ih
          simp [compactChars, printed_cons, printed_append, stringChars_printed, own,
            compactMembers_printed rest others]

end Asn1Constraints.Json
