import Asn1Constraints.Proofs.HexDigits
import Mathlib

/-!
The order of names by code points is the order of their bytes: a longer
sequence begins with a larger byte, and sequences of one length differ in the
digits of their code points.
-/

namespace Asn1Constraints

/-- The bytes of the name come first in the order of byte strings. -/
def BytesBefore (name other : String) : Prop := name.toUTF8.toList < other.toUTF8.toList

theorem cons_lt_of_digit {digit other : Nat} {bytes others : List UInt8} (small : other < 256)
    (le : digit ≤ other) (further : digit = other → bytes < others) :
    UInt8.ofNat digit :: bytes < UInt8.ofNat other :: others := by
  rw [List.cons_lt_cons_iff]
  rcases le.lt_or_eq with smaller | same
  · refine Or.inl (UInt8.lt_iff_toNat_lt.mpr ?_)
    rwa [UInt8.toNat_ofNat_of_lt' small, UInt8.toNat_ofNat_of_lt' (smaller.trans small)]
  · exact Or.inr ⟨same ▸ rfl, further same⟩

theorem utf8EncodeChar_lt {c d : Char} (smaller : c < d) (bytes others : List UInt8) :
    String.utf8EncodeChar c ++ bytes < String.utf8EncodeChar d ++ others := by
  have below : c.val.toNat < d.val.toNat := smaller
  have bound : d.val.toNat < 0x110000 := by
    have valid : d.val.toNat < 0xd800 ∨ 0xdfff < d.val.toNat ∧ d.val.toNat < 0x110000 := d.valid
    omega
  unfold String.utf8EncodeChar
  generalize c.val.toNat = low at below
  generalize d.val.toNat = high at below bound
  dsimp only
  split_ifs <;> simp only [List.cons_append, List.nil_append]
  -- Digit by digit; equal digits all along would mean equal code points.
  all_goals
    repeat first
      | (exfalso; omega)
      | refine cons_lt_of_digit (by omega) (by omega) fun same => ?_

theorem encoded_lt {characters others : List Char} (smaller : characters < others) :
    characters.flatMap String.utf8EncodeChar < others.flatMap String.utf8EncodeChar := by
  induction smaller with
  | @nil c rest =>
      obtain ⟨first, bytes, encoded⟩ : ∃ first bytes, String.utf8EncodeChar c = first :: bytes :=
        List.exists_cons_of_ne_nil String.utf8EncodeChar_ne_nil
      rw [List.flatMap_nil, List.flatMap_cons, encoded]
      exact List.nil_lt_cons _ _
  | rel first => exact utf8EncodeChar_lt first _ _
  | cons rest ih => exact List.Lex.append_left _ ih _

/-- Names are in the order of their bytes. -/
theorem lt_iff_bytesBefore (name other : String) : name < other ↔ BytesBefore name other := by
  have bytes : ∀ text : String, text.toUTF8.toList = text.toList.flatMap String.utf8EncodeChar := by
    intro text
    conv_lhs => rw [← String.ofList_toList (s := text)]
    rw [byteList_eq, String.toUTF8, String.toByteArray_ofList, List.utf8Encode,
      List.toList_data_toByteArray]
  rw [BytesBefore, bytes, bytes, String.lt_iff_toList_lt]
  constructor
  · exact encoded_lt
  · intro smaller
    rcases lt_trichotomy name.toList other.toList with less | same | more
    · exact less
    · exact absurd (same ▸ smaller) (List.lt_irrefl _)
    · exact absurd smaller (List.lt_asymm (encoded_lt more))

end Asn1Constraints
