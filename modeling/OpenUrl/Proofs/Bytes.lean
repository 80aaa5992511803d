import Mathlib.Tactic.Common
import OpenUrl.Sink

/-!
# The bytes of a text

A text is written character by character. The bytes of a character that is not a control are no
controls either, so a line can be told by its bytes.
-/
namespace OpenUrl

theorem toList_loop_eq (bytes : ByteArray) (i : Nat) (taken : List UInt8) :
    ByteArray.toList.loop bytes i taken = taken.reverse ++ bytes.data.toList.drop i := by
  fun_induction ByteArray.toList.loop bytes i taken with
  | case1 i taken h ih =>
    have hi : i < bytes.data.toList.length := by simpa using h
    have hget : bytes.get! i = bytes.data.toList[i] := by
      simp [ByteArray.get!, h]
    rw [ih, List.drop_eq_getElem_cons hi, hget, List.reverse_cons, List.append_assoc]
    rfl
  | case2 i taken h =>
    rw [List.drop_eq_nil_of_le (by simpa using Nat.le_of_not_lt h), List.append_nil]

theorem textBytes_eq (s : String) : textBytes s = s.toList.flatMap String.utf8EncodeChar := by
  have hlist (bytes : ByteArray) : bytes.toList = bytes.data.toList := by
    rw [ByteArray.toList, toList_loop_eq]
    rfl
  have hbytes : s.toUTF8 = (s.toList.flatMap String.utf8EncodeChar).toByteArray := by
    conv => lhs; rw [← String.ofList_toList (s := s)]
    rfl
  rw [textBytes, hbytes, hlist, List.toList_data_toByteArray]

@[simp] theorem textBytes_append (s t : String) :
    textBytes (s ++ t) = textBytes s ++ textBytes t := by
  rw [textBytes_eq, textBytes_eq, textBytes_eq, String.toList_append, List.flatMap_append]

/-- A control byte only comes from a control. -/
theorem le_of_mem_utf8EncodeChar {c : Char} (hc : 0x20 ≤ c.toNat) {b : UInt8}
    (hb : b ∈ String.utf8EncodeChar c) : 0x20 ≤ b.toNat := by
  have hval : c.val.toNat = c.toNat := rfl
  have hofNat (n : Nat) : (UInt8.ofNat n).toNat = n % 256 := UInt8.toNat_ofNat'
  simp only [String.utf8EncodeChar, hval] at hb
  split_ifs at hb <;> simp only [List.mem_cons, List.not_mem_nil, or_false] at hb
  · rw [hb, hofNat]
    omega
  · rcases hb with rfl | rfl <;> rw [hofNat] <;> omega
  · rcases hb with rfl | rfl | rfl <;> rw [hofNat] <;> omega
  · rcases hb with rfl | rfl | rfl | rfl <;> rw [hofNat] <;> omega

/-- None of the characters is a control below space. -/
def NoControls (cs : List Char) : Prop := ∀ c ∈ cs, 0x20 ≤ c.toNat

instance (cs : List Char) : Decidable (NoControls cs) :=
  List.decidableBAll (fun c : Char => 0x20 ≤ c.toNat) cs

namespace NoControls

variable {c : Char} {cs ds : List Char}

theorem nil : NoControls [] := by simp [NoControls]

theorem cons (hc : 0x20 ≤ c.toNat) (h : NoControls cs) : NoControls (c :: cs) :=
  List.forall_mem_cons.mpr ⟨hc, h⟩

theorem append (hc : NoControls cs) (hd : NoControls ds) : NoControls (cs ++ ds) :=
  List.forall_mem_append.mpr ⟨hc, hd⟩

end NoControls

/-- Neither a line feed nor a carriage return is among the bytes. -/
def OneLine (s : String) : Prop := ∀ b ∈ textBytes s, b ≠ 0x0A ∧ b ≠ 0x0D

theorem NoControls.oneLine {cs : List Char} (h : NoControls cs) : OneLine (String.ofList cs) := by
  intro b hb
  rw [textBytes_eq, String.toList_ofList] at hb
  obtain ⟨c, hc, hmem⟩ := List.mem_flatMap.mp hb
  have hle := le_of_mem_utf8EncodeChar (h c hc) hmem
  constructor
  · rintro rfl
    exact absurd hle (by decide)
  · rintro rfl
    exact absurd hle (by decide)

end OpenUrl
