import Asn1Constraints.Codec.JsonLines
import Asn1Constraints.Proofs.PrintedDocuments
import Asn1Constraints.Proofs.SettledDocuments
import Mathlib

/-!
JSON lines as a queue of documents. What is unread are blanks and then the lines
of the documents that were written and not read yet, the oldest first. Every
call keeps it so: a document is one line without a line feed of its own, the
line starts with no blank, and it reads back as the document it was written
from, since written documents are settled.
-/

namespace Asn1Constraints

namespace JsonLines

/-! Lines. -/

def lineBytes (json : Json) : List UInt8 := json.text.toUTF8.toList

theorem lineBytes_eq (json : Json) :
    lineBytes json = json.compactChars.flatMap String.utf8EncodeChar := by
  rw [lineBytes, byteList_eq, Json.text, String.toUTF8, String.toByteArray_ofList, List.utf8Encode,
    List.toList_data_toByteArray]

/-- Bytes of longer sequences are beyond the seven-bit range. -/
theorem utf8_printed {c : Char} (printed : 0x20 ≤ c.toNat) :
    ∀ byte ∈ String.utf8EncodeChar c, 0x20 ≤ byte.toNat := by
  have value : c.val.toNat = c.toNat := rfl
  intro byte member
  unfold String.utf8EncodeChar at member
  simp only at member
  split at member
  · obtain rfl := List.mem_singleton.mp member
    simp only [UInt8.toNat_ofNat']
    omega
  · split at member
    · simp only [List.mem_cons, List.not_mem_nil, or_false] at member
      rcases member with rfl | rfl <;> simp only [UInt8.toNat_ofNat'] <;> omega
    · split at member
      · simp only [List.mem_cons, List.not_mem_nil, or_false] at member
        rcases member with rfl | rfl | rfl <;> simp only [UInt8.toNat_ofNat'] <;> omega
      · simp only [List.mem_cons, List.not_mem_nil, or_false] at member
        rcases member with rfl | rfl | rfl | rfl <;> simp only [UInt8.toNat_ofNat'] <;> omega

theorem lineBytes_noFeed (json : Json) : ∀ byte ∈ lineBytes json, byte ≠ lineFeed := by
  rw [lineBytes_eq]
  rintro byte member rfl
  obtain ⟨c, inside, encoded⟩ := List.mem_flatMap.mp member
  exact absurd (utf8_printed (json.compactChars_printed c inside) _ encoded) (by decide)

theorem lineBytes_begins (json : Json) :
    ∃ byte tail, lineBytes json = byte :: tail ∧ isBlank byte = false := by
  obtain ⟨c, tail, printed, above, sevenBit, _⟩ := json.compactChars_opens
  refine ⟨UInt8.ofNat c.toNat, tail.flatMap String.utf8EncodeChar, ?_, ?_⟩
  · rw [lineBytes_eq, printed, List.flatMap_cons, utf8_single sevenBit]
    rfl
  · have small : (UInt8.ofNat c.toNat).toNat = c.toNat := by
      rw [UInt8.toNat_ofNat']
      omega
    have apart : ∀ blank : UInt8, blank.toNat ≤ 0x20 → UInt8.ofNat c.toNat ≠ blank := by
      rintro blank low same
      rw [same] at small
      omega
    simp [isBlank, apart]

theorem textOf?_lineBytes (json : Json) : textOf? (lineBytes json) = some json.text := by
  have bytes : (⟨(lineBytes json).toArray⟩ : ByteArray) = json.text.toByteArray := by
    rw [lineBytes, byteList_eq, String.toUTF8]
  rw [textOf?, bytes, String.fromUTF8?, dif_pos json.text.isValidUTF8]
  rfl

theorem documentOf?_lineBytes (json : Json) :
    documentOf? (lineBytes json) =
      if json.depth ≤ Json.levelLimit then some json.settled else none := by
  rw [documentOf?, textOf?_lineBytes]
  simp only [Json.parse_text]
  split <;> rfl

/-! The queue. -/

/-- The documents are what the lines have unread, the oldest first. -/
structure Holds (lines : JsonLines) (documents : List Json) : Prop where
  within : lines.cursor ≤ lines.bytes.length
  settled : ∀ json ∈ documents, json.settled = json
  queued : ∃ blanks, (∀ byte ∈ blanks, isBlank byte = true) ∧
    lines.unread = blanks ++ documents.flatMap fun json => lineBytes json ++ [lineFeed]

theorem holds_empty : Holds empty [] where
  within := Nat.le_refl 0
  settled := nofun
  queued := ⟨[], nofun, rfl⟩

theorem Holds.append {lines : JsonLines} {documents : List Json} (holds : Holds lines documents)
    {json : Json} (settled : json.settled = json) :
    Holds (lines.append json) (documents ++ [json]) where
  within := by
    have := holds.within
    simp only [JsonLines.append, List.length_append]
    omega
  settled := by
    simpa [or_imp, forall_and, settled] using holds.settled
  queued := by
    obtain ⟨blanks, blank, unread⟩ := holds.queued
    refine ⟨blanks, blank, ?_⟩
    rw [JsonLines.unread, JsonLines.append, List.append_assoc,
      List.drop_append_of_le_length holds.within, ← JsonLines.unread, unread]
    simp [lineBytes]

theorem dropWhile_blanks {blanks rest : List UInt8} (blank : ∀ byte ∈ blanks, isBlank byte = true) :
    (blanks ++ rest).dropWhile isBlank = rest.dropWhile isBlank := by
  rw [List.dropWhile_append_of_pos blank]

theorem Holds.nextLine?_nil {lines : JsonLines} (holds : Holds lines []) :
    lines.nextLine? = none := by
  obtain ⟨blanks, blank, unread⟩ := holds.queued
  have none : lines.unread.dropWhile isBlank = [] := by
    rw [unread, dropWhile_blanks blank]
    rfl
  rw [nextLine?]
  simp only [none]

/-- Lines hold no documents where nothing but blanks is unread. -/
theorem holds_nil_iff (lines : JsonLines) :
    Holds lines [] ↔ lines.cursor ≤ lines.bytes.length ∧ lines.nextLine? = none := by
  constructor
  · exact fun holds => ⟨holds.within, holds.nextLine?_nil⟩
  · rintro ⟨within, nothing⟩
    have none : lines.unread.dropWhile isBlank = [] := by
      rw [nextLine?] at nothing
      split at nothing
      · assumption
      · cases nothing
    refine ⟨within, nofun, lines.unread, ?_, by simp⟩
    simpa [List.dropWhile_eq_nil_iff] using none

theorem Holds.nextLine?_cons {lines : JsonLines} {json : Json} {rest : List Json}
    (holds : Holds lines (json :: rest)) :
    ∃ cursor, lines.nextLine? = some (lineBytes json, cursor) ∧
      Holds { lines with cursor } rest := by
  obtain ⟨blanks, blank, unread⟩ := holds.queued
  obtain ⟨byte, tail, begins, shown⟩ := lineBytes_begins json
  -- What follows the line in the buffer starts with its line feed.
  obtain ⟨after, following⟩ : ∃ after, after = lineFeed ::
      rest.flatMap fun json => lineBytes json ++ [lineFeed] := ⟨_, rfl⟩
  have split : lines.unread = blanks ++ (lineBytes json ++ after) := by
    rw [unread, following]
    simp
  have skipped : lines.unread.takeWhile isBlank = blanks := by
    rw [split, List.takeWhile_append_of_pos blank, begins]
    simp [shown]
  have start : lines.unread.dropWhile isBlank = byte :: (tail ++ after) := by
    rw [split, dropWhile_blanks blank, begins]
    simp [shown]
  have line : (byte :: (tail ++ after)).takeWhile (· ≠ lineFeed) = lineBytes json := by
    rw [← List.cons_append, ← begins,
      List.takeWhile_append_of_pos (by simpa using lineBytes_noFeed json), following]
    simp
  refine ⟨lines.cursor + blanks.length + (lineBytes json).length, ?_, ?_, ?_, ?_⟩
  · rw [nextLine?]
    simp only [start, skipped, line]
  · have := holds.within
    have size := congrArg List.length split
    simp only [JsonLines.unread, List.length_drop, List.length_append] at size
    simp only
    omega
  · exact fun other member => holds.settled other (List.mem_cons_of_mem _ member)
  · refine ⟨[lineFeed], by simp [isBlank, lineFeed], ?_⟩
    have dropped : lines.unread.drop (blanks.length + (lineBytes json).length) = after := by
      rw [split, ← List.append_assoc, List.drop_left' (by simp)]
    rw [following] at dropped
    rw [JsonLines.unread, Nat.add_assoc, ← List.drop_drop]
    exact dropped

/-! Single calls. -/

section

variable {module : TypeModule} {node : TypeNode} {lines : JsonLines} {json : Json}
  {rest : List Json}

theorem encode_of_written {value : Value} (written : value.toJson module node = .ok json)
    (lines : JsonLines) : encode module node value lines = (.ok (), lines.append json) := by
  simp only [encode, ExceptT.mk, written]

theorem encode_of_refused {value : Value} {error : Asn1Constraints.Error}
    (refused : value.toJson module node = .error error) (lines : JsonLines) :
    encode module node value lines = (.error (.model error), lines) := by
  simp only [encode, ExceptT.mk, refused]

theorem decode_eq (module : TypeModule) (node : TypeNode) (lines : JsonLines) :
    decode module node lines =
      match lines.nextLine? with
      | none => (.error .exhausted, lines)
      | some (line, cursor) =>
        match documentOf? line with
        | none => (.error .json, lines)
        | some json => ((Value.ofJson module node json).mapError .model, { lines with cursor }) :=
  rfl

theorem Holds.decode_nil (holds : Holds lines []) :
    decode module node lines = (.error .exhausted, lines) := by
  rw [decode_eq, holds.nextLine?_nil]

/-- The oldest document is taken whatever it is read as. -/
theorem Holds.decode_cons (holds : Holds lines (json :: rest)) (module : TypeModule)
    (node : TypeNode) (shallow : json.depth ≤ Json.levelLimit) :
    ∃ after, decode module node lines = ((Value.ofJson module node json).mapError .model, after) ∧
      Holds after rest := by
  obtain ⟨cursor, next, later⟩ := holds.nextLine?_cons
  have settled := holds.settled json List.mem_cons_self
  refine ⟨_, ?_, later⟩
  rw [decode_eq, next]
  simp only [documentOf?_lineBytes, if_pos shallow, settled]

/-- A document too deep to be read stays where it is. -/
theorem Holds.decode_deep (holds : Holds lines (json :: rest))
    (deep : Json.levelLimit < json.depth) :
    decode module node lines = (.error .json, lines) := by
  obtain ⟨cursor, next, _⟩ := holds.nextLine?_cons
  rw [decode_eq, next]
  simp only [documentOf?_lineBytes, if_neg (Nat.not_le.mpr deep)]

theorem nextLine?_within {line : List UInt8} {cursor : Nat}
    (within : lines.cursor ≤ lines.bytes.length) (next : lines.nextLine? = some (line, cursor)) :
    cursor ≤ lines.bytes.length := by
  have size : lines.unread.length = lines.bytes.length - lines.cursor := List.length_drop
  have parts :=
    congrArg List.length (List.takeWhile_append_dropWhile (p := isBlank) (l := lines.unread))
  rw [nextLine?] at next
  split at next
  · cases next
  · obtain ⟨rfl, rfl⟩ := Prod.mk.inj (Option.some.inj next)
    have line :=
      (List.takeWhile_sublist (l := lines.unread.dropWhile isBlank) (· ≠ lineFeed)).length_le
    simp only [List.length_append] at parts
    omega

end

/-! Runs of calls. -/

/-- A call of the codec; the seed of a decode is the caller's. -/
inductive Call where
  | encode (module : TypeModule) (node : TypeNode) (value : Value)
  | decode (module : TypeModule) (node : TypeNode) (seed : Value)

inductive Reply where
  | encoded (result : Except Error Unit)
  | decoded (result : Except Error Value)

/-- What the codec replies, and the lines after the call. -/
def Call.atLines : Call → JsonLines → Reply × JsonLines
  | .encode module node value, lines =>
    Prod.map .encoded id ((codec.encode module node value).run.run lines)
  | .decode module node seed, lines =>
    Prod.map .decoded id ((codec.decode module node seed).run.run lines)

/-- What a queue of documents replies, the oldest first. -/
def Call.atQueue : Call → List Json → Reply × List Json
  | .encode module node value, queue =>
    match value.toJson module node with
    | .error error => (.encoded (.error (.model error)), queue)
    | .ok json => (.encoded (.ok ()), queue ++ [json])
  | .decode _ _ _, [] => (.decoded (.error .exhausted), [])
  | .decode module node _, json :: rest =>
    (.decoded ((Value.ofJson module node json).mapError .model), rest)

/-- The document that is written, if there is one, nests no deeper than can be read. -/
def Call.Shallow : Call → Prop
  | .encode module node value =>
    ∀ json, value.toJson module node = .ok json → json.depth ≤ Json.levelLimit
  | .decode _ _ _ => True

/-- The replies to the calls, one after the other, and the state at the end. -/
def answers {σ : Type} (answer : Call → σ → Reply × σ) : List Call → σ → List Reply × σ
  | [], state => ([], state)
  | call :: rest, state =>
    let (reply, next) := answer call state
    let (replies, last) := answers answer rest next
    (reply :: replies, last)

/-- One call is answered as the queue answers it. -/
theorem Holds.call {lines : JsonLines} {queue : List Json} (holds : Holds lines queue)
    (readable : ∀ json ∈ queue, json.depth ≤ Json.levelLimit) (call : Call)
    (shallow : call.Shallow) :
    (call.atLines lines).1 = (call.atQueue queue).1 ∧
      Holds (call.atLines lines).2 (call.atQueue queue).2 ∧
        ∀ json ∈ (call.atQueue queue).2, json.depth ≤ Json.levelLimit := by
  cases call with
  | encode module node value =>
      change (Reply.encoded (encode module node value lines).1 = _) ∧
        Holds (encode module node value lines).2 _ ∧ _
      rw [Call.atQueue]
      cases written : value.toJson module node with
      | error error =>
          rw [encode_of_refused written]
          exact ⟨rfl, holds, readable⟩
      | ok json =>
          rw [encode_of_written written]
          refine ⟨rfl, holds.append (Value.toJson_settled written), fun other member => ?_⟩
          rcases List.mem_append.mp member with before | own
          · exact readable other before
          · obtain rfl := List.mem_singleton.mp own
            exact shallow other written
  | decode module node seed =>
      change (Reply.decoded (decode module node lines).1 = _) ∧
        Holds (decode module node lines).2 _ ∧ _
      cases queue with
      | nil =>
          rw [holds.decode_nil]
          exact ⟨rfl, holds, readable⟩
      | cons json rest =>
          obtain ⟨own, others⟩ := List.forall_mem_cons.mp readable
          obtain ⟨after, taken, later⟩ := holds.decode_cons module node own
          rw [taken]
          exact ⟨rfl, later, others⟩

/-- Lines change only where the queue does. -/
theorem Holds.unchanged {lines : JsonLines} {queue : List Json} (holds : Holds lines queue)
    (call : Call) (same : (call.atQueue queue).2 = queue) : (call.atLines lines).2 = lines := by
  cases call with
  | encode module node value =>
      change (encode module node value lines).2 = lines
      rw [Call.atQueue] at same
      cases written : value.toJson module node with
      | error error => rw [encode_of_refused written]
      | ok json =>
          rw [written] at same
          simp at same
  | decode module node seed =>
      change (decode module node lines).2 = lines
      cases queue with
      | nil => rw [holds.decode_nil]
      | cons json rest =>
          rw [Call.atQueue] at same
          simp at same

theorem Holds.answers {lines : JsonLines} {queue : List Json} (holds : Holds lines queue)
    (readable : ∀ json ∈ queue, json.depth ≤ Json.levelLimit) (calls : List Call)
    (shallow : ∀ call ∈ calls, call.Shallow) :
    (JsonLines.answers Call.atLines calls lines).1 =
        (JsonLines.answers Call.atQueue calls queue).1 ∧
      Holds (JsonLines.answers Call.atLines calls lines).2
        (JsonLines.answers Call.atQueue calls queue).2 := by
  induction calls generalizing lines queue with
  | nil => exact ⟨rfl, holds⟩
  | cons call rest ih =>
      obtain ⟨own, others⟩ := List.forall_mem_cons.mp shallow
      obtain ⟨reply, after, kept⟩ := holds.call readable call own
      obtain ⟨replies, final⟩ := ih after kept others
      exact ⟨congrArg₂ List.cons reply replies, final⟩

theorem atLines_within (call : Call) {lines : JsonLines}
    (within : lines.cursor ≤ lines.bytes.length) :
    (call.atLines lines).2.cursor ≤ (call.atLines lines).2.bytes.length := by
  cases call with
  | encode module node value =>
      change (encode module node value lines).2.cursor ≤
        (encode module node value lines).2.bytes.length
      cases written : value.toJson module node with
      | error error => rwa [encode_of_refused written]
      | ok json =>
          rw [encode_of_written written]
          simp only [JsonLines.append, List.length_append]
          omega
  | decode module node seed =>
      change (decode module node lines).2.cursor ≤ (decode module node lines).2.bytes.length
      rw [decode_eq]
      split
      · exact within
      · rename_i line cursor next
        split
        · exact within
        · have behind : cursor ≤ lines.bytes.length := nextLine?_within within next
          exact behind

theorem answers_within (calls : List Call) {lines : JsonLines}
    (within : lines.cursor ≤ lines.bytes.length) :
    (answers Call.atLines calls lines).2.cursor ≤
      (answers Call.atLines calls lines).2.bytes.length := by
  induction calls generalizing lines with
  | nil => exact within
  | cons call rest ih => exact ih (atLines_within call within)

/-- Lines that start empty are a queue of documents: the calls are answered in
the order of writing, and a call changes nothing where the queue stays the same,
be it a value that cannot be written or a queue with nothing left. From any
bytes the cursor stays within them. -/
theorem calls_answered_in_order :
    (∀ calls : List Call, (∀ call ∈ calls, call.Shallow) →
      ∃ replies lines queue, answers Call.atLines calls empty = (replies, lines) ∧
        answers Call.atQueue calls [] = (replies, queue) ∧ Holds lines queue ∧
          ∀ call : Call, (call.atQueue queue).2 = queue → (call.atLines lines).2 = lines) ∧
    ∀ bytes calls, ∀ lines, (answers Call.atLines calls (ofBytes bytes)).2 = lines →
      lines.cursor ≤ lines.bytes.length := by
  constructor
  · intro calls shallow
    obtain ⟨same, holds⟩ := holds_empty.answers nofun calls shallow
    exact ⟨_, _, _, rfl, Prod.ext same.symm rfl, holds, fun call => holds.unchanged call⟩
  · rintro bytes calls lines rfl
    exact answers_within calls (Nat.zero_le _)

/-- Of three values the second cannot be written; the first is read as something
it is not, and taken all the same. -/
def exchange : List Call :=
  let module : TypeModule := ⟨modelVersion, "Notes", []⟩
  let note : TypeNode := .shaped 1 (.sequence [⟨"two\nlines", false, .shaped 0 .boolean⟩])
  [.encode module note (.sequence [("two\nlines", .boolean true)]),
    .encode module note (.integer 3),
    .encode module (.shaped 0 .null) .null,
    .decode module (.shaped 0 .boolean) .null,
    .decode module (.shaped 0 .null) .null,
    .decode module note .null]

theorem exchange_answered :
    (∀ call ∈ exchange, call.Shallow) ∧
      (answers Call.atLines exchange empty).1 =
        [.encoded (.ok ()),
          .encoded (.error (.model (.invalidValue "$" (.kind "sequence" "integer")))),
          .encoded (.ok ()),
          .decoded (.error (.model (.invalidValue "$"
            (.document "a boolean" (.object [("two\nlines", .boolean true)]))))),
          .decoded (.ok .null),
          .decoded (.error .exhausted)] := by
  have shallow : ∀ call ∈ exchange, call.Shallow := by
    simp only [exchange, List.forall_mem_cons]
    refine ⟨?_, ?_, ?_, trivial, trivial, trivial, nofun⟩
    all_goals
      intro json written
      cases written
    all_goals decide
  obtain ⟨replies, lines, queue, atLines, atQueue, _⟩ := calls_answered_in_order.1 exchange shallow
  refine ⟨shallow, ?_⟩
  rw [atLines]
  exact (congrArg Prod.fst atQueue).symm.trans rfl

end JsonLines

end Asn1Constraints
