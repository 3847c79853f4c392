import UiSchema.Proofs.Text.Dotted
import UiSchema.Proofs.Text.Octets
import UiSchema.Url.FormEncoding

/-!
# Reading form-encoded parameters

Parameters stand between ampersands, each with its name and value around its first equals sign. In
either of them a plus stands for a space, and percent escapes for bytes of the UTF-8 form. What is
form-encoded consists of characters without a meaning for this reading, pluses and escapes, so a
pair that is written is the one that is read.
-/

namespace UiSchema.Url

set_option autoImplicit false

/-- A character that stands for itself in a form encoding. -/
def IsPlain (c : Char) : Prop := c.isAlphanum = true ∨ c ∈ ['*', '-', '.', '_']

instance : DecidablePred IsPlain := fun _ => inferInstanceAs (Decidable (_ ∨ _))

def IsHexDigit (c : Char) : Prop := c ∈ "0123456789ABCDEF".toList

instance : DecidablePred IsHexDigit := fun _ => inferInstanceAs (Decidable (_ ∈ _))

/-- A text of plain characters, pluses and percent escapes. -/
inductive FormText : List Char → Prop
  | nil : FormText []
  | plain {c : Char} {rest : List Char} (hc : IsPlain c) (hrest : FormText rest) :
      FormText (c :: rest)
  | plus {rest : List Char} (hrest : FormText rest) : FormText ('+' :: rest)
  | escape {high low : Char} {rest : List Char} (hhigh : IsHexDigit high) (hlow : IsHexDigit low)
      (hrest : FormText rest) : FormText ('%' :: high :: low :: rest)

def plusAsSpace (c : Char) : Char := if c = '+' then ' ' else c

/-- The name or value that a text writes, if its bytes are UTF-8. -/
def formDecode? (text : List Char) : Option String := decode? (text.map plusAsSpace)

/-- The name and the value of a parameter; without an equals sign the value is empty. -/
def formParameter? (text : List Char) : Option (String × String) := do
  let (name, value) := (Text.cutOnce '=' text).getD (text, [])
  let name ← formDecode? name
  let value ← formDecode? value
  some (name, value)

/-- The parameters of a text. Nothing between two ampersands is no parameter. -/
def formParameters? (text : List Char) : Option (List (String × String)) :=
  ((Text.pieces '&' text).filter (!·.isEmpty)).mapM formParameter?

section Bytes

theorem utf8_eq_data (s : String) : utf8 s = s.toByteArray.data.toList := Text.toList_bytes _

theorem fromUTF8?_utf8 (s : String) : String.fromUTF8? ⟨(utf8 s).toArray⟩ = some s := by
  rw [Text.fromUTF8?_eq_some_iff, utf8_eq_data]
  rfl

/-- The UTF-8 form of an ASCII character is its code. -/
theorem utf8_singleton {b : UInt8} (h : b.toNat < 128) :
    utf8 (String.singleton (Char.ofNat b.toNat)) = [b] := by
  have hvalid : b.toNat.isValidChar := Or.inl (by omega)
  have hcode : (Char.ofNat b.toNat).toNat = b.toNat := by
    rw [Char.ofNat, dif_pos hvalid]
    rfl
  have hsize : (Char.ofNat b.toNat).utf8Size = 1 := by
    have hle : (Char.ofNat b.toNat).toNat ≤ 127 := by omega
    rw [Char.utf8Size_eq_one_iff, UInt32.le_iff_toNat_le]
    exact hle
  have hbyte : (Char.ofNat b.toNat).val.toUInt8 = b := by
    rw [← UInt8.toNat_inj, UInt32.toNat_toUInt8]
    exact (congrArg (· % 2 ^ 8) hcode).trans (Nat.mod_eq_of_lt b.toNat_lt)
  rw [utf8_eq_data, String.toByteArray_singleton, List.utf8Encode_singleton,
    List.toList_data_toByteArray, String.utf8EncodeChar_eq_singleton hsize, hbyte]

end Bytes

section Escapes

theorem hexValue?_upperHex : ∀ n < 16, Text.hexValue? (upperHex n) = some n := by decide

theorem isHexDigit_upperHex : ∀ n < 16, IsHexDigit (upperHex n) := by decide

variable {c high low : Char} {b : UInt8} {rest : List Char}

theorem hexByte?_upperHex (b : UInt8) :
    hexByte? (upperHex (b.toNat / 16)) (upperHex (b.toNat % 16)) = some b := by
  have hbound := b.toNat_lt
  have hsum : 16 * (b.toNat / 16) + b.toNat % 16 = b.toNat := Nat.div_add_mod b.toNat 16
  have hbyte : UInt8.ofNat (16 * (b.toNat / 16) + b.toNat % 16) = b := by
    rw [hsum, UInt8.ofNat_toNat]
  rw [hexByte?, hexValue?_upperHex _ (by omega), hexValue?_upperHex _ (by omega)]
  exact congrArg some hbyte

theorem decodeBytes_plain (h : c ≠ '%') :
    decodeBytes (c :: rest) = utf8 (String.singleton c) ++ decodeBytes rest := by
  rw [decodeBytes]
  exact fun _ _ _ hc => absurd hc h

theorem decodeBytes_escape (h : hexByte? high low = some b) :
    decodeBytes ('%' :: high :: low :: rest) = b :: decodeBytes rest := by
  rw [decodeBytes, h]

theorem isPlain_of_isUnreserved (h : isUnreserved b = true) :
    b.toNat < 128 ∧ IsPlain (Char.ofNat b.toNat) := by
  simpa [isUnreserved, IsPlain, or_assoc] using h

/-- The characters that part a URL with a query. -/
def separators : List Char := ['=', '&', '?', '#']

/-- The characters with a meaning in a query. -/
def specials : List Char := '+' :: '%' :: separators

theorem IsPlain.not_special (h : IsPlain c) : c ∉ specials := by
  have hnone : ∀ d ∈ specials, ¬IsPlain d := by simp [specials, separators, IsPlain]
  exact fun hc => hnone c hc h

theorem IsHexDigit.not_special (h : IsHexDigit c) : c ∉ specials := by
  have hnone : ∀ d ∈ specials, ¬IsHexDigit d := by simp [specials, separators, IsHexDigit]
  exact fun hc => hnone c hc h

end Escapes

section Texts

variable {text : List Char} {c : Char}

theorem FormText.append {front back : List Char} (hfront : FormText front)
    (hback : FormText back) : FormText (front ++ back) := by
  induction hfront with
  | nil => exact hback
  | plain hc _ ih => exact .plain hc ih
  | plus _ ih => exact .plus ih
  | escape hhigh hlow _ ih => exact .escape hhigh hlow ih

theorem formText_formByte (b : UInt8) : FormText (formByte b) := by
  have hbound := b.toNat_lt
  unfold formByte
  split
  · rename_i hplain
    exact .plain (isPlain_of_isUnreserved hplain).2 .nil
  · split
    · exact .plus .nil
    · exact .escape (isHexDigit_upperHex _ (by omega)) (isHexDigit_upperHex _ (by omega)) .nil

theorem formText_formEncode (s : String) : FormText (formEncode s) := by
  unfold formEncode
  induction utf8 s with
  | nil => exact .nil
  | cons b rest ih =>
    rw [List.flatMap_cons]
    exact (formText_formByte b).append ih

/-- Of the special characters a form encoding holds only pluses and percent signs. -/
theorem FormText.not_mem (h : FormText text) (hc : c ∈ separators) : c ∉ text := by
  have hspecial : c ∈ specials := List.mem_cons_of_mem _ (List.mem_cons_of_mem _ hc)
  have hplus : c ≠ '+' := by
    rintro rfl
    exact absurd hc (by decide)
  have hpercent : c ≠ '%' := by
    rintro rfl
    exact absurd hc (by decide)
  induction h with
  | nil => exact List.not_mem_nil
  | plain hplain _ ih =>
    exact List.not_mem_cons_of_ne_of_not_mem (fun heq => hplain.not_special (heq ▸ hspecial)) ih
  | plus _ ih => exact List.not_mem_cons_of_ne_of_not_mem hplus ih
  | escape hhigh hlow _ ih =>
    refine List.not_mem_cons_of_ne_of_not_mem hpercent ?_
    refine List.not_mem_cons_of_ne_of_not_mem (fun heq => hhigh.not_special (heq ▸ hspecial)) ?_
    exact List.not_mem_cons_of_ne_of_not_mem (fun heq => hlow.not_special (heq ▸ hspecial)) ih

theorem plusAsSpace_of_ne (h : c ≠ '+') : plusAsSpace c = c := if_neg h

/-- What is written for a byte is read back as that byte, whatever follows. -/
theorem decodeBytes_formByte (b : UInt8) (rest : List Char) :
    decodeBytes ((formByte b ++ rest).map plusAsSpace) =
      b :: decodeBytes (rest.map plusAsSpace) := by
  have hbound := b.toNat_lt
  unfold formByte
  split
  · rename_i hunreserved
    obtain ⟨hascii, hplain⟩ := isPlain_of_isUnreserved hunreserved
    obtain ⟨hplus, hrest⟩ := not_or.mp (mt List.mem_cons.mpr hplain.not_special)
    obtain ⟨hpercent, _⟩ := not_or.mp (mt List.mem_cons.mpr hrest)
    rw [List.singleton_append, List.map_cons, plusAsSpace_of_ne hplus, decodeBytes_plain hpercent,
      utf8_singleton hascii, List.singleton_append]
  · split
    · rename_i hspace
      have hchar : Char.ofNat b.toNat = ' ' := by
        rw [hspace]
        decide
      have hbytes : utf8 (String.singleton ' ') = [b] := hchar ▸ utf8_singleton (by simp [hspace])
      rw [List.singleton_append, List.map_cons, plusAsSpace, if_pos rfl,
        decodeBytes_plain (by decide), hbytes, List.singleton_append]
    · have hhigh := isHexDigit_upperHex (b.toNat / 16) (by omega)
      have hlow := isHexDigit_upperHex (b.toNat % 16) (by omega)
      have hplus {d : Char} (hd : IsHexDigit d) : plusAsSpace d = d :=
        plusAsSpace_of_ne (fun heq => hd.not_special (heq ▸ List.mem_cons_self))
      rw [percentByte, List.cons_append, List.cons_append, List.singleton_append, List.map_cons,
        List.map_cons, List.map_cons, hplus hhigh, hplus hlow, plusAsSpace_of_ne (by decide),
        decodeBytes_escape (hexByte?_upperHex b)]

theorem formDecode?_formEncode (s : String) : formDecode? (formEncode s) = some s := by
  have hbytes : decodeBytes ((formEncode s).map plusAsSpace) = utf8 s := by
    unfold formEncode
    induction utf8 s with
    | nil => rfl
    | cons b rest ih => rw [List.flatMap_cons, decodeBytes_formByte, ih]
  rw [formDecode?, decode?, hbytes, fromUTF8?_utf8]

theorem formParameter?_formPair (name value : String) :
    formParameter? (formPair name value) = some (name, value) := by
  have hcut : Text.cutOnce '=' (formPair name value) =
      some (formEncode name, formEncode value) :=
    Text.cutOnce_eq_some.mpr ⟨rfl, (formText_formEncode name).not_mem (by decide)⟩
  simp only [formParameter?, hcut, Option.getD_some, formDecode?_formEncode]
  rfl

theorem not_mem_formPair (name value : String) (hc : c ∈ ['&', '?', '#']) :
    c ∉ formPair name value := by
  have hseparator : c ∈ separators := List.mem_cons_of_mem _ hc
  have hequals : c ≠ '=' := by
    rintro rfl
    exact absurd hc (by decide)
  rw [formPair, List.mem_append, not_or]
  exact ⟨(formText_formEncode name).not_mem hseparator,
    List.not_mem_cons_of_ne_of_not_mem hequals ((formText_formEncode value).not_mem hseparator)⟩

theorem count_equals_formPair (name value : String) : (formPair name value).count '=' = 1 := by
  have hname := (formText_formEncode name).not_mem (c := '=') (by decide)
  have hvalue := (formText_formEncode value).not_mem (c := '=') (by decide)
  rw [formPair, List.count_append, List.count_cons_self, List.count_eq_zero_of_not_mem hname,
    List.count_eq_zero_of_not_mem hvalue]

/-- A written pair is the only parameter that is read. -/
theorem formParameters?_formPair (name value : String) :
    formParameters? (formPair name value) = some [(name, value)] := by
  have hne : (formPair name value).isEmpty = false := by simp [formPair]
  have hamp : '&' ∉ formPair name value := not_mem_formPair name value (by decide)
  rw [formParameters?, Text.pieces_of_not_mem hamp]
  simp [hne, formParameter?_formPair]

end Texts

end UiSchema.Url
