import Asn1Constraints.Proofs.JsonRoundTrip
import Asn1Constraints.Proofs.PrintedNumbers
import Mathlib

/-!
Texts of paths. Names stand in the text of a path as they are, so a name that is
empty or holds a character that ends names is not found again. The paths that
are read are those without such names, and each is read from its own text alone.
Any other text gets stuck, and where it does decides what is said of it.
-/

namespace Asn1Constraints

open Json (StopsBefore stopsBefore_cons takeWhile_run)

/-- A name that ends nowhere before its end. -/
def PlainName (name : String) : Prop :=
  name ≠ "" ∧ ∀ c ∈ name.toList, FieldPath.endsName c = false

def PathSegment.Plain : PathSegment → Prop
  | .component name => PlainName name
  | .alternative name => PlainName name
  | .element => True

/-- What follows the segment leaves it as it is: a name is not carried on. -/
def PathSegment.ClosedBy (rest : List Char) : PathSegment → Prop
  | .component _ => StopsBefore (!FieldPath.endsName ·) rest
  | .alternative _ => StopsBefore (!FieldPath.endsName ·) rest
  | .element => True

theorem PathSegment.closedBy_nil (segment : PathSegment) : segment.ClosedBy [] := by
  cases segment with
  | element => trivial
  | _ => exact fun c first => nomatch first

namespace FieldPath

def Plain (path : FieldPath) : Prop := ∀ segment ∈ path.segments, segment.Plain

/-- How a text is stuck at some point: a name is to come and does not, or there is
something that no segment starts with. -/
inductive Stuck (text : String) : List Char → Error → Prop where
  | emptyName {mark rest} : mark = ['.'] ∨ mark = [':', ':'] →
      StopsBefore (!endsName ·) rest → Stuck text (mark ++ rest) (.emptyName text)
  | unexpected {rest} : rest ≠ [] →
      (∀ mark ∈ [['.'], [':', ':'], ['[', '*', ']']], ¬ mark <+: rest) →
      Stuck text rest (.unexpectedSegment text)

/-- A text that is refused does not start with the root, or it is stuck behind
the text of a plain path. -/
inductive Refused (text : String) : Error → Prop where
  | noRoot : text.toList.head? ≠ some '$' → Refused text (.noRoot text)
  | stuck {path : FieldPath} {rest error} : path.Plain →
      (∀ segment ∈ path.segments.getLast?, segment.ClosedBy rest) →
      text.toList = path.chars ++ rest → Stuck text rest error → Refused text error

/-- The segment that `nameStart?` makes of a name stands for that name. -/
theorem nameStart?_some {chars rest : List Char} {segment : String → PathSegment}
    (starts : nameStart? chars = some (segment, rest)) :
    ∃ mark, (mark = ['.'] ∨ mark = [':', ':']) ∧ chars = mark ++ rest ∧
      ∀ name, (segment name).chars = mark ++ name.toList ∧
        ((segment name).Plain ↔ PlainName name) ∧
        ∀ after, (segment name).ClosedBy after ↔ StopsBefore (!endsName ·) after := by
  unfold nameStart? at starts
  split at starts <;> cases starts
  · exact ⟨[':', ':'], .inr rfl, rfl, fun _ => ⟨rfl, .rfl, fun _ => .rfl⟩⟩
  · exact ⟨['.'], .inl rfl, rfl, fun _ => ⟨rfl, .rfl, fun _ => .rfl⟩⟩

theorem nameStart?_none {chars : List Char} (none : nameStart? chars = .none) :
    ¬ ['.'] <+: chars ∧ ¬ [':', ':'] <+: chars := by
  constructor <;>
    · rintro ⟨rest, rfl⟩
      cases none

theorem plainName_ofList (chars : List Char) :
    PlainName (String.ofList chars) ↔ chars ≠ [] ∧ ∀ c ∈ chars, endsName c = false := by
  rw [PlainName, String.toList_ofList, ne_eq, ← String.toList_inj, String.toList_ofList]
  exact .rfl

theorem stops_dropWhile (belongs : Char → Bool) (chars : List Char) :
    StopsBefore belongs (chars.dropWhile belongs) := by
  intro c first
  have outside := List.head?_dropWhile_not belongs chars
  rw [first] at outside
  simpa using outside

/-- One round of reading: nothing is left, the text is stuck, or a plain segment
is taken from the front. -/
theorem readSegments_cases (text : String) (budget : ℕ) (chars : List Char) :
    (chars = [] ∧ readSegments text (budget + 1) chars = .ok []) ∨
      (∃ error, Stuck text chars error ∧ readSegments text (budget + 1) chars = .error error) ∨
      ∃ segment rest, segment.Plain ∧ segment.ClosedBy rest ∧ chars = segment.chars ++ rest ∧
        readSegments text (budget + 1) chars =
          (readSegments text budget rest).map (segment :: ·) := by
  -- Only the first round is opened here; what it comes to speaks of the rounds that follow.
  generalize count : budget + 1 = rounds
  generalize outcome : readSegments text rounds chars = result
  unfold readSegments at outcome
  split at outcome
  · exact .inl ⟨rfl, outcome.symm⟩
  · cases count
  · rename_i fewer rest
    obtain rfl : budget = fewer := Nat.succ.inj count
    exact .inr (.inr ⟨.element, rest, trivial, trivial, rfl, outcome.symm⟩)
  · rename_i fewer nonempty noElement
    obtain rfl : budget = fewer := Nat.succ.inj count
    cases starts : nameStart? chars with
    | none =>
        rw [starts] at outcome
        obtain ⟨noComponent, noAlternative⟩ := nameStart?_none starts
        refine .inr (.inl ⟨_, .unexpected nonempty ?_, outcome.symm⟩)
        simp only [List.forall_mem_cons, List.not_mem_nil, false_imp_iff, implies_true, and_true]
        exact ⟨noComponent, noAlternative, fun ⟨rest, same⟩ => noElement rest same.symm⟩
    | some entry =>
        obtain ⟨segment, rest⟩ := entry
        rw [starts] at outcome
        obtain ⟨mark, isMark, rfl, named⟩ := nameStart?_some starts
        have stops := stops_dropWhile (!endsName ·) rest
        by_cases empty : rest.takeWhile (!endsName ·) = []
        · have same := List.takeWhile_append_dropWhile (p := (!endsName ·)) (l := rest)
          rw [empty, List.nil_append] at same
          rw [same] at stops
          exact .inr (.inl ⟨_, .emptyName isMark stops, by simpa [empty] using outcome.symm⟩)
        · obtain ⟨shown, plain, closed⟩ := named (String.ofList (rest.takeWhile (!endsName ·)))
          refine .inr (.inr ⟨_, rest.dropWhile (!endsName ·), plain.mpr ?_, (closed _).mpr stops, ?_,
            by simpa [empty] using outcome.symm⟩)
          · refine (plainName_ofList _).mpr ⟨empty, fun c member => ?_⟩
            simpa using List.mem_takeWhile_imp member
          · rw [shown, String.toList_ofList, List.append_assoc, List.takeWhile_append_dropWhile]

theorem Stuck.ne_nil {text : String} {chars : List Char} {error : Error}
    (stuck : Stuck text chars error) : chars ≠ [] := by
  cases stuck with
  | emptyName isMark _ => rcases isMark with rfl | rfl <;> exact List.cons_ne_nil _ _
  | unexpected nonempty _ => exact nonempty

/-- Reading stops where the text is stuck. -/
theorem readSegments_stuck {text : String} {chars : List Char} {error : Error}
    (stuck : Stuck text chars error) (budget : ℕ) :
    readSegments text (budget + 1) chars = .error error := by
  cases stuck with
  | emptyName isMark stops =>
      rename_i mark rest
      have nothing : rest.takeWhile (!endsName ·) = [] := by
        cases rest with
        | nil => rfl
        | cons c tail => simp [stops c rfl]
      rcases isMark with rfl | rfl <;> simp [readSegments, nameStart?, nothing]
  | unexpected nonempty noMark =>
      simp only [List.forall_mem_cons, List.not_mem_nil, false_imp_iff, implies_true,
        and_true] at noMark
      obtain ⟨noComponent, noAlternative, noElement⟩ := noMark
      have noName : nameStart? chars = none := by
        unfold nameStart?
        split
        · exact absurd ⟨_, rfl⟩ noAlternative
        · exact absurd ⟨_, rfl⟩ noComponent
        · rfl
      rw [readSegments, noName]
      · exact fun empty => nonempty empty
      · rintro rest rfl
        exact noElement ⟨rest, rfl⟩

/-- A plain segment is read off the front of what it is closed by. -/
theorem readSegments_segment (text : String) (budget : ℕ) {segment : PathSegment}
    (plain : segment.Plain) {rest : List Char} (closed : segment.ClosedBy rest) :
    readSegments text (budget + 1) (segment.chars ++ rest) =
      (readSegments text budget rest).map (segment :: ·) := by
  have named : ∀ name, PlainName name → StopsBefore (!endsName ·) rest →
      (name.toList ++ rest).takeWhile (!endsName ·) = name.toList ∧
        (name.toList ++ rest).dropWhile (!endsName ·) = rest ∧ name.toList ≠ [] := by
    intro name plain stops
    obtain ⟨taken, left⟩ := takeWhile_run name.toList (fun c member => by simp [plain.2 c member])
      rest stops
    exact ⟨taken, left, fun empty => plain.1 (String.toList_eq_nil_iff.mp empty)⟩
  cases segment with
  | component name =>
      obtain ⟨taken, left, nonempty⟩ := named name plain closed
      simp [PathSegment.chars, readSegments, nameStart?, taken, left, nonempty]
  | alternative name =>
      obtain ⟨taken, left, nonempty⟩ := named name plain closed
      simp [PathSegment.chars, readSegments, nameStart?, taken, left, nonempty]
  | element => simp [PathSegment.chars, readSegments]

theorem closed_by_segments (segment next : PathSegment) (others : List PathSegment)
    (rest : List Char) : segment.ClosedBy ((next :: others).flatMap PathSegment.chars ++ rest) := by
  cases segment with
  | element => trivial
  | _ => cases next <;> exact stopsBefore_cons rfl

/-- Plain segments are read one by one, and reading goes on behind them. -/
theorem readSegments_segments (text : String) (segments : List PathSegment)
    (plain : ∀ segment ∈ segments, segment.Plain) (rest : List Char)
    (closed : ∀ segment ∈ segments.getLast?, segment.ClosedBy rest) (budget : ℕ) :
    readSegments text (budget + segments.length) (segments.flatMap PathSegment.chars ++ rest) =
      (readSegments text budget rest).map (segments ++ ·) := by
  induction segments with
  | nil =>
      change readSegments text budget rest = _
      cases readSegments text budget rest <;> rfl
  | cons segment others ih =>
      obtain ⟨own, later⟩ := List.forall_mem_cons.mp plain
      have closedHere : segment.ClosedBy (others.flatMap PathSegment.chars ++ rest) := by
        cases others with
        | nil => exact closed segment rfl
        | cons next further => exact closed_by_segments segment next further rest
      have closedLater : ∀ last ∈ others.getLast?, last.ClosedBy rest :=
        fun last isLast => closed last (by rw [List.getLast?_cons, isLast]; rfl)
      rw [List.flatMap_cons, List.append_assoc, List.length_cons, ← Nat.add_assoc,
        readSegments_segment text _ own closedHere, ih later closedLater]
      cases readSegments text budget rest <;> rfl

theorem length_le_chars (segments : List PathSegment) :
    segments.length ≤ (segments.flatMap PathSegment.chars).length := by
  induction segments with
  | nil => exact Nat.le_refl 0
  | cons segment others ih =>
      have taken : 0 < segment.chars.length := by cases segment <;> simp [PathSegment.chars]
      rw [List.flatMap_cons, List.length_append, List.length_cons]
      omega

/-- What reading comes to is there in the text: plain segments to the end of it,
or up to where it is stuck. -/
def Reads (text : String) (chars : List Char) : Except Error (List PathSegment) → Prop
  | .ok segments => segments.flatMap PathSegment.chars = chars ∧ ∀ segment ∈ segments, segment.Plain
  | .error error => ∃ (segments : List PathSegment) (rest : List Char),
      (∀ segment ∈ segments, segment.Plain) ∧
      (∀ segment ∈ segments.getLast?, segment.ClosedBy rest) ∧
      chars = segments.flatMap PathSegment.chars ++ rest ∧ Stuck text rest error

theorem Reads.cons {text : String} {rest : List Char} {segment : PathSegment}
    (plain : segment.Plain) (closed : segment.ClosedBy rest)
    {result : Except Error (List PathSegment)} (reads : Reads text rest result) :
    Reads text (segment.chars ++ rest) (result.map (segment :: ·)) := by
  cases result with
  | ok segments =>
      obtain ⟨shown, others⟩ := reads
      exact ⟨by rw [List.flatMap_cons, shown], List.forall_mem_cons.mpr ⟨plain, others⟩⟩
  | error error =>
      obtain ⟨segments, after, others, closedLater, split, stuck⟩ := reads
      refine ⟨segment :: segments, after, List.forall_mem_cons.mpr ⟨plain, others⟩, ?_, ?_, stuck⟩
      · cases segments with
        | nil =>
            rintro _ ⟨⟩
            rwa [split] at closed
        | cons next further =>
            exact fun last isLast => closedLater last (by rwa [List.getLast?_cons_cons] at isLast)
      · rw [split, List.flatMap_cons, List.append_assoc]

theorem readSegments_reads (text : String) (budget : ℕ) (chars : List Char)
    (enough : chars.length ≤ budget) : Reads text chars (readSegments text budget chars) := by
  induction budget generalizing chars with
  | zero =>
      obtain rfl := List.length_eq_zero_iff.mp (Nat.le_zero.mp enough)
      exact ⟨rfl, nofun⟩
  | succ budget ih =>
      rcases readSegments_cases text budget chars with
        ⟨rfl, read⟩ | ⟨error, stuck, read⟩ | ⟨segment, rest, plain, closed, rfl, read⟩
      · rw [read]
        exact ⟨rfl, nofun⟩
      · rw [read]
        exact ⟨[], chars, nofun, nofun, rfl, stuck⟩
      -- A segment takes at least one character, so the budget lasts.
      · have shorter : rest.length ≤ budget := by
          have taken := length_le_chars [segment]
          simp only [List.length_singleton, List.flatMap_singleton] at taken
          rw [List.length_append] at enough
          omega
        rw [read]
        exact (ih rest shorter).cons plain closed

/-- Reading behind the root gets through plain segments to what follows them. -/
theorem parse_segments {text : String} {segments : List PathSegment} {rest : List Char}
    (plain : ∀ segment ∈ segments, segment.Plain)
    (closed : ∀ segment ∈ segments.getLast?, segment.ClosedBy rest)
    (opened : text.toList = '$' :: (segments.flatMap PathSegment.chars ++ rest)) :
    ∃ budget, rest.length ≤ budget ∧ parse text =
      ((readSegments text budget rest).map (segments ++ ·)).map FieldPath.mk := by
  have shorter := length_le_chars segments
  obtain ⟨budget, counted⟩ : ∃ budget,
      (segments.flatMap PathSegment.chars ++ rest).length = budget + segments.length :=
    ⟨(segments.flatMap PathSegment.chars ++ rest).length - segments.length, by
      rw [List.length_append]
      omega⟩
  refine ⟨budget, ?_, ?_⟩
  · rw [List.length_append] at counted
    omega
  · unfold parse
    rw [opened]
    simp only
    rw [counted, readSegments_segments text segments plain rest closed budget]

/-- A text is read as the path it is the text of, if the names in that path are
plain, and as no other path. -/
theorem parse_ok_iff (text : String) (path : FieldPath) :
    parse text = .ok path ↔ path.text = text ∧ path.Plain := by
  constructor
  · intro read
    unfold parse at read
    split at read
    · rename_i rest opened
      obtain ⟨segments, listed, rfl⟩ := map_ok_iff.mp read
      obtain ⟨shown, plain⟩ := listed ▸ readSegments_reads text rest.length rest (Nat.le_refl _)
      refine ⟨?_, plain⟩
      rw [FieldPath.text, chars, shown, ← opened, String.ofList_toList]
    · cases read
  · rintro ⟨rfl, plain⟩
    have opened : path.text.toList = '$' :: (path.segments.flatMap PathSegment.chars ++ []) := by
      rw [FieldPath.text, String.toList_ofList, chars, List.append_nil]
    obtain ⟨budget, _, read⟩ := parse_segments plain
      (fun segment _ => segment.closedBy_nil) opened
    rw [read]
    cases budget <;> simp [readSegments, Except.map]

/-- A text is refused for what it gets stuck at. -/
theorem parse_error_iff (text : String) (error : Error) :
    parse text = .error error ↔ Refused text error := by
  constructor
  · intro read
    unfold parse at read
    split at read
    · rename_i rest opened
      cases listed : readSegments text rest.length rest with
      | ok segments =>
          rw [listed] at read
          cases read
      | error cause =>
          rw [listed] at read
          cases read
          obtain ⟨segments, after, plain, closed, split, stuck⟩ :=
            listed ▸ readSegments_reads text rest.length rest (Nat.le_refl _)
          have plainPath : (FieldPath.mk segments).Plain := plain
          exact .stuck plainPath closed (by rw [opened, split, chars]; rfl) stuck
    · rename_i noRoot
      cases read
      refine .noRoot fun root => ?_
      obtain ⟨rest, opened⟩ := List.head?_eq_some_iff.mp root
      exact noRoot rest opened
  · intro refused
    cases refused with
    | noRoot outside =>
        unfold parse
        split
        · rename_i rest opened
          rw [opened] at outside
          exact absurd rfl outside
        · rfl
    | stuck plain closed opened stuck =>
        obtain ⟨budget, enough, read⟩ := parse_segments plain closed opened
        -- A text that is stuck has a character left, and so has the budget.
        cases budget with
        | zero =>
            exact absurd (List.length_eq_zero_iff.mp (Nat.le_zero.mp enough)) stuck.ne_nil
        | succ budget =>
            rw [read, readSegments_stuck stuck budget]
            rfl

/-- Reading paths undoes printing them. Of each plain path exactly its own text
is read, and a text of none is refused for where it gets stuck. -/
theorem parse_inverts_text (text : String) :
    (∀ path, parse text = .ok path ↔ path.text = text ∧ path.Plain) ∧
      (∀ path, parse text = .ok path → ∀ other, parse other = .ok path → other = text) ∧
      ∀ error, parse text = .error error ↔ Refused text error := by
  refine ⟨parse_ok_iff text, fun path read other also => ?_, parse_error_iff text⟩
  obtain ⟨shown, _⟩ := (parse_ok_iff text path).mp read
  obtain ⟨alsoShown, _⟩ := (parse_ok_iff other path).mp also
  exact alsoShown.symm.trans shown

theorem odd_names_read :
    parse "$.a]*$[*]::β" = .ok ⟨[.component "a]*$", .element, .alternative "β"]⟩ ∧
      (∀ other, parse other = .ok ⟨[.component "a]*$", .element, .alternative "β"]⟩ →
        other = "$.a]*$[*]::β") ∧
      Refused "$.a:b" (.unexpectedSegment "$.a:b") ∧ Refused "$.a::[*]" (.emptyName "$.a::[*]") := by
  obtain ⟨_, once, _⟩ := parse_inverts_text "$.a]*$[*]::β"
  obtain ⟨_, _, single⟩ := parse_inverts_text "$.a:b"
  obtain ⟨_, _, nameless⟩ := parse_inverts_text "$.a::[*]"
  exact ⟨rfl, once _ rfl, (single _).mp rfl, (nameless _).mp rfl⟩

end FieldPath

end Asn1Constraints
