import Asn1Constraints.Text.Hex
import Mathlib

/-!
Bytes written as hexadecimal digits read back as the same bytes. The reader
works on the encoded text, where each digit is one byte.
-/

namespace Asn1Constraints

/-! The bytes of a text of seven-bit characters. -/

theorem byteList_loop (bytes : ByteArray) (index : Nat) (before : List UInt8) :
    ByteArray.toList.loop bytes index before = before.reverse ++ bytes.data.toList.drop index := by
  induction index, before using ByteArray.toList.loop.induct bytes with
  | case1 index before inside ih =>
      have bound : index < bytes.data.toList.length := by rwa [Array.length_toList]
      have current : bytes.get! index = bytes.data.toList[index] := by
        rw [Array.getElem_toList]
        exact getElem!_pos bytes.data index inside
      rw [ByteArray.toList.loop, if_pos inside, ih, List.drop_eq_getElem_cons bound, current]
      simp
  | case2 index before outside =>
      have past : bytes.data.toList.length ≤ index := by
        rw [Array.length_toList]
        exact Nat.not_lt.mp outside
      rw [ByteArray.toList.loop, if_neg outside, List.drop_eq_nil_of_le past, List.append_nil]

theorem byteList_eq (bytes : ByteArray) : bytes.toList = bytes.data.toList := by
  rw [ByteArray.toList, byteList_loop]
  rfl

theorem utf8_single {c : Char} (sevenBit : c.toNat < 0x80) :
    String.utf8EncodeChar c = [UInt8.ofNat c.toNat] := by
  have small : c.val.toNat ≤ 127 := Nat.lt_succ_iff.mp sevenBit
  rw [String.utf8EncodeChar, if_pos small]
  rfl

theorem utf8_of_sevenBit (characters : List Char) (sevenBit : ∀ c ∈ characters, c.toNat < 0x80) :
    (String.ofList characters).toUTF8.toList = characters.map fun c => UInt8.ofNat c.toNat := by
  rw [byteList_eq, String.toUTF8, String.toByteArray_ofList, List.utf8Encode,
    List.toList_data_toByteArray]
  induction characters with
  | nil => rfl
  | cons c rest ih =>
      obtain ⟨first, others⟩ := List.forall_mem_cons.mp sevenBit
      rw [List.flatMap_cons, utf8_single first, ih others]
      rfl

namespace Hex

theorem digitChar_sevenBit : ∀ n < 16, (digitChar n).toNat < 0x80 := by decide

theorem digitValue?_digitChar : ∀ n < 16,
    digitValue? (UInt8.ofNat (digitChar n).toNat) = some n := by decide

/-- The two digits of a byte, as the reader meets them. -/
def digitBytes (byte : UInt8) : List UInt8 :=
  (encodeByte byte).map fun c => UInt8.ofNat c.toNat

theorem digits_small (byte : UInt8) : byte.toNat / 16 < 16 ∧ byte.toNat % 16 < 16 := by
  have bound := byte.toNat_lt
  omega

theorem decodePairs_digits (position : Nat) (bytes : List UInt8) :
    decodePairs position (bytes.flatMap digitBytes) = .ok bytes := by
  induction bytes generalizing position with
  | nil => rfl
  | cons byte rest ih =>
      obtain ⟨high, low⟩ := digits_small byte
      -- Each byte is read off two digits, which are its quotient and remainder by sixteen.
      have whole : 16 * (byte.toNat / 16) + byte.toNat % 16 = byte.toNat := Nat.div_add_mod _ 16
      have upper : digitValue (UInt8.ofNat (digitChar (byte.toNat / 16)).toNat) position =
          .ok (byte.toNat / 16) := by
        rw [digitValue, digitValue?_digitChar _ high]
      have lower : digitValue (UInt8.ofNat (digitChar (byte.toNat % 16)).toNat) (position + 1) =
          .ok (byte.toNat % 16) := by
        rw [digitValue, digitValue?_digitChar _ low]
      calc decodePairs position ((byte :: rest).flatMap digitBytes)
          = (do
              let upper ← digitValue (UInt8.ofNat (digitChar (byte.toNat / 16)).toNat) position
              let lower ← digitValue (UInt8.ofNat (digitChar (byte.toNat % 16)).toNat) (position + 1)
              let bytes ← decodePairs (position + 2) (rest.flatMap digitBytes)
              return UInt8.ofNat (16 * upper + lower) :: bytes) := rfl
        _ = .ok (UInt8.ofNat (16 * (byte.toNat / 16) + byte.toNat % 16) :: rest) := by
              rw [upper, lower, ih]
              rfl
        _ = .ok (byte :: rest) := by rw [whole, UInt8.ofNat_toNat]

theorem encode_utf8 (bytes : List UInt8) :
    (encode bytes).toUTF8.toList = bytes.flatMap digitBytes := by
  rw [encode, utf8_of_sevenBit, List.map_flatMap]
  · rfl
  · intro c member
    obtain ⟨byte, _, digit⟩ := List.mem_flatMap.mp member
    obtain ⟨high, low⟩ := digits_small byte
    rcases List.mem_pair.mp digit with rfl | rfl
    · exact digitChar_sevenBit _ high
    · exact digitChar_sevenBit _ low

theorem decode_encode (bytes : List UInt8) : decode (encode bytes) = .ok bytes := by
  have even : (bytes.flatMap digitBytes).length % 2 = 0 := by
    induction bytes with
    | nil => rfl
    | cons byte rest ih =>
        rw [List.flatMap_cons, List.length_append]
        simp only [digitBytes, encodeByte, List.map_cons, List.map_nil, List.length_cons,
          List.length_nil] at ih ⊢
        omega
  rw [decode, encode_utf8, decodeBytes, if_neg (by omega), decodePairs_digits]

end Hex

end Asn1Constraints
