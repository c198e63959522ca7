import Mathlib.Tactic.Common
import SeedVault.Bytes.Basic

/-!
# Texts as bytes

The bytes of a text spell that text (`Bytes.toString?_ofString`). A text of ASCII characters has one
byte for each (`Bytes.ofString_ascii`).
-/

namespace SeedVault.Bytes

/-- The loop that lists the bytes of an array puts those from an index on behind the ones listed. -/
lemma toList_loop (bs : ByteArray) (i r) :
    ByteArray.toList.loop bs i r = r.reverse ++ bs.data.toList.drop i := by
  fun_induction ByteArray.toList.loop bs i r with
  | case1 i r lt ih =>
    have lt' : i < bs.data.toList.length := lt
    have head : bs.get! i = bs.data.toList[i] := by
      rw [Array.getElem_toList]
      exact getElem!_pos bs.data i lt
    rw [ih, List.reverse_cons, List.append_assoc, head, List.singleton_append,
      List.getElem_cons_drop]
  | case2 i r ge =>
    have ge' : bs.data.toList.length ≤ i := Nat.le_of_not_lt ge
    rw [List.drop_eq_nil_of_le ge', List.append_nil]

/-- The bytes of an array are those that it was made of. -/
lemma toList_eq_data (bs : ByteArray) : bs.toList = bs.data.toList :=
  toList_loop bs 0 []

/-- The bytes of a text spell it. -/
lemma toString?_ofString (s) : toString? (ofString s) = some s := by
  have bytes : (⟨(ofString s).toArray⟩ : ByteArray) = s.toUTF8 := by
    rw [ofString, toList_eq_data, Array.toArray_toList]
  rw [toString?, bytes]
  exact dif_pos s.isValidUTF8

/-- An ASCII character is one byte. -/
lemma utf8EncodeChar_ascii {c : Char} (ascii : c.toNat < 128) :
    String.utf8EncodeChar c = [UInt8.ofNat c.toNat] := by
  have small : c.val ≤ 127 := UInt32.le_iff_toNat_le.2 (Nat.le_of_lt_succ ascii)
  rw [String.utf8EncodeChar_eq_singleton (Char.utf8Size_eq_one_iff.2 small)]
  rfl

/-- The bytes of a text are those of its characters, one after the other. -/
lemma ofString_ofList (cs) : ofString (String.ofList cs) = cs.flatMap String.utf8EncodeChar := by
  rw [ofString, toList_eq_data]
  exact List.toList_data_toByteArray

/-- An ASCII text has one byte for each character, its code. -/
lemma ofString_ascii {cs : List Char} (ascii : ∀ c ∈ cs, c.toNat < 128) :
    ofString (String.ofList cs) = cs.map fun c => UInt8.ofNat c.toNat := by
  have each : cs.map String.utf8EncodeChar = cs.map fun c => [UInt8.ofNat c.toNat] :=
    List.map_congr_left fun c mem => utf8EncodeChar_ascii (ascii c mem)
  rw [ofString_ofList, List.flatMap_def, each, ← List.flatMap_def, List.map_eq_flatMap]

end SeedVault.Bytes
