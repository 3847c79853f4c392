/-!
# Texts as bytes

An array of bytes lists the bytes that it holds. Exactly the UTF-8 forms of texts are read as texts,
each as the one that it is the form of.
-/

namespace UiSchema.Text

set_option autoImplicit false

/-- The listing of an array of bytes from a place on, behind what was listed before. -/
theorem toList_loop (bytes : ByteArray) (i : Nat) (front : List UInt8) :
    ByteArray.toList.loop bytes i front = front.reverse ++ bytes.data.toList.drop i := by
  induction hleft : bytes.size - i generalizing i front with
  | zero =>
    have hend : bytes.data.toList.length ≤ i := Nat.le_of_sub_eq_zero hleft
    rw [ByteArray.toList.loop.eq_def, if_neg (by omega), List.drop_eq_nil_of_le hend,
      List.append_nil]
  | succ n ih =>
    have hi : i < bytes.size := by omega
    have hi' : i < bytes.data.toList.length := hi
    have hget : bytes.get! i = bytes.data.toList[i] := getElem!_pos bytes.data i hi
    rw [ByteArray.toList.loop.eq_def, if_pos hi, ih _ _ (by omega), hget, List.reverse_cons,
      List.append_assoc, List.drop_eq_getElem_cons hi']
    rfl

theorem toList_bytes (bytes : ByteArray) : bytes.toList = bytes.data.toList := by
  rw [ByteArray.toList, toList_loop]
  rfl

theorem fromUTF8?_eq_some_iff {bytes : ByteArray} {s : String} :
    String.fromUTF8? bytes = some s ↔ bytes = s.toUTF8 := by
  unfold String.fromUTF8?
  constructor
  · intro h
    split at h
    · cases h
      rfl
    · cases h
  · rintro rfl
    exact dif_pos s.isValidUTF8

end UiSchema.Text
