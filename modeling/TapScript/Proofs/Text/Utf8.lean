import TapScript.Text.Utf8

/-! # Texts and their bytes

A text is read back from the bytes that write it. The bytes of a character are told apart by the
first of them, and what is checked of the others holds of every character that there is.
-/

namespace TapScript.Text

variable {b n : Nat}

theorem ofNat_eq_iff (hb : b < 256) (hn : n < 256) : UInt8.ofNat b = UInt8.ofNat n ↔ b = n := by
  rw [← UInt8.toNat_inj, UInt8.toNat_ofNat', UInt8.toNat_ofNat', Nat.mod_eq_of_lt hb,
    Nat.mod_eq_of_lt hn]

theorem byteCount?_ofNat (h : b < 256) : byteCount? (.ofNat b) =
    if b < 0x80 then some 1 else if b < 0xc2 then none else if b < 0xe0 then some 2
    else if b < 0xf0 then some 3 else if b < 0xf5 then some 4 else none := by
  simp [byteCount?, UInt8.lt_iff_toNat_lt, Nat.mod_eq_of_lt h]

theorem isSecond_ofNat (hb : b < 256) (hn : n < 256) : isSecond (.ofNat b) (.ofNat n) = true ↔
    (if b = 0xe0 then 0xa0 else if b = 0xf0 then 0x90 else 0x80) ≤ n ∧
      n ≤ (if b = 0xed then 0x9f else if b = 0xf4 then 0x8f else 0xbf) := by
  have first : ∀ k < 256, (UInt8.ofNat b = UInt8.ofNat k ↔ b = k) :=
    fun _ hk => ofNat_eq_iff hb hk
  have h₁ : UInt8.ofNat b = 0xe0 ↔ b = 0xe0 := first _ (by decide)
  have h₂ : UInt8.ofNat b = 0xf0 ↔ b = 0xf0 := first _ (by decide)
  have h₃ : UInt8.ofNat b = 0xed ↔ b = 0xed := first _ (by decide)
  have h₄ : UInt8.ofNat b = 0xf4 ↔ b = 0xf4 := first _ (by decide)
  simp only [isSecond, UInt8.le_iff_toNat_le, Bool.and_eq_true, decide_eq_true_eq, h₁, h₂, h₃, h₄,
    apply_ite UInt8.toNat, UInt8.toNat_ofNat', Nat.mod_eq_of_lt hn]
  rfl

theorem isLater_ofNat (hn : n < 256) : isLater (.ofNat n) = true ↔ 0x80 ≤ n ∧ n ≤ 0xbf := by
  simp [isLater, UInt8.le_iff_toNat_le, Nat.mod_eq_of_lt hn]

theorem lowBits_ofNat (hn : n < 256) : lowBits (.ofNat n) = n % 64 := by
  simp [lowBits, Nat.mod_eq_of_lt hn]

section Bytes

variable {b c d e : UInt8} {rest : List UInt8} {position : Nat}

theorem decodeChar_one (hb : byteCount? b = some 1) :
    decodeChar (b :: rest) position = .ok (Char.ofNat b.toNat, 1) := by
  simp [decodeChar, hb]

theorem decodeChar_two (hb : byteCount? b = some 2) (hc : isSecond b c = true) :
    decodeChar (b :: c :: rest) position =
      .ok (Char.ofNat (b.toNat % 32 * 64 + lowBits c), 2) := by
  simp [decodeChar, hb, hc]

theorem decodeChar_three (hb : byteCount? b = some 3) (hc : isSecond b c = true)
    (hd : isLater d = true) : decodeChar (b :: c :: d :: rest) position =
      .ok (Char.ofNat ((b.toNat % 16 * 64 + lowBits c) * 64 + lowBits d), 3) := by
  simp [decodeChar, hb, hc, hd]

theorem decodeChar_four (hb : byteCount? b = some 4) (hc : isSecond b c = true)
    (hd : isLater d = true) (he : isLater e = true) :
    decodeChar (b :: c :: d :: e :: rest) position =
      .ok (Char.ofNat (((b.toNat % 8 * 64 + lowBits c) * 64 + lowBits d) * 64 + lowBits e), 4) := by
  simp [decodeChar, hb, hc, hd, he]

end Bytes

/-- A character is read back from its bytes, whatever follows them. -/
theorem decodeChar_encodeChar (c : Char) (rest : List UInt8) (position : Nat) :
    decodeChar (String.utf8EncodeChar c ++ rest) position =
      .ok (c, (String.utf8EncodeChar c).length) := by
  have hv : c.val.toNat < 0xd800 ∨ 0xdfff < c.val.toNat ∧ c.val.toNat < 0x110000 := c.valid
  have read : ∀ n k, n = c.val.toNat →
      (.ok (Char.ofNat n, k) : Except DecodeError (Char × Nat)) = .ok (c, k) := by
    rintro n k rfl
    exact congrArg (fun c => Except.ok (c, k)) c.ofNat_toNat
  unfold String.utf8EncodeChar
  generalize c.val.toNat = v at hv read
  dsimp only
  split
  · have hb : byteCount? (.ofNat v) = some 1 := by
      rw [byteCount?_ofNat (by omega), if_pos (by omega)]
    refine (decodeChar_one hb).trans (read _ _ ?_)
    rw [UInt8.toNat_ofNat']
    omega
  split
  · have hb : byteCount? (.ofNat (v / 64 % 32 + 192)) = some 2 := by
      rw [byteCount?_ofNat (by omega), if_neg (by omega), if_neg (by omega), if_pos (by omega)]
    have hs : isSecond (.ofNat (v / 64 % 32 + 192)) (.ofNat (v % 64 + 128)) = true := by
      rw [isSecond_ofNat (by omega) (by omega)]
      constructor <;> repeat' split
      all_goals omega
    refine (decodeChar_two hb hs).trans (read _ _ ?_)
    rw [UInt8.toNat_ofNat', lowBits_ofNat (by omega)]
    omega
  split
  · have hb : byteCount? (.ofNat (v / 4096 % 16 + 224)) = some 3 := by
      rw [byteCount?_ofNat (by omega), if_neg (by omega), if_neg (by omega), if_neg (by omega),
        if_pos (by omega)]
    have hs : isSecond (.ofNat (v / 4096 % 16 + 224)) (.ofNat (v / 64 % 64 + 128)) = true := by
      rw [isSecond_ofNat (by omega) (by omega)]
      constructor <;> repeat' split
      all_goals omega
    have hl : isLater (.ofNat (v % 64 + 128)) = true :=
      (isLater_ofNat (by omega)).mpr (by omega)
    refine (decodeChar_three hb hs hl).trans (read _ _ ?_)
    rw [UInt8.toNat_ofNat', lowBits_ofNat (by omega), lowBits_ofNat (by omega)]
    omega
  · have hb : byteCount? (.ofNat (v / 262144 % 8 + 240)) = some 4 := by
      rw [byteCount?_ofNat (by omega), if_neg (by omega), if_neg (by omega), if_neg (by omega),
        if_neg (by omega), if_pos (by omega)]
    have hs : isSecond (.ofNat (v / 262144 % 8 + 240)) (.ofNat (v / 4096 % 64 + 128)) = true := by
      rw [isSecond_ofNat (by omega) (by omega)]
      constructor <;> repeat' split
      all_goals omega
    have hd : isLater (.ofNat (v / 64 % 64 + 128)) = true :=
      (isLater_ofNat (by omega)).mpr (by omega)
    have he : isLater (.ofNat (v % 64 + 128)) = true :=
      (isLater_ofNat (by omega)).mpr (by omega)
    refine (decodeChar_four hb hs hd he).trans (read _ _ ?_)
    rw [UInt8.toNat_ofNat', lowBits_ofNat (by omega), lowBits_ofNat (by omega),
      lowBits_ofNat (by omega)]
    omega

theorem length_encodeChar_pos (c : Char) : 0 < (String.utf8EncodeChar c).length := by
  rw [String.length_utf8EncodeChar]
  exact c.utf8Size_pos

theorem decodeChars_encode (cs : List Char) : ∀ (fuel position : Nat),
    (cs.flatMap String.utf8EncodeChar).length ≤ fuel →
      decodeChars fuel (cs.flatMap String.utf8EncodeChar) position = .ok cs := by
  induction cs with
  | nil =>
    intro fuel position _
    cases fuel <;> rfl
  | cons c cs ih =>
    intro fuel position hf
    have hl := length_encodeChar_pos c
    rw [List.flatMap_cons, List.length_append] at hf
    cases fuel with
    | zero => omega
    | succ fuel =>
      have hne : (String.utf8EncodeChar c ++ cs.flatMap String.utf8EncodeChar).isEmpty = false := by
        rw [List.isEmpty_eq_false_iff]
        exact List.append_ne_nil_of_left_ne_nil (List.ne_nil_of_length_pos hl) _
      rw [List.flatMap_cons, decodeChars, hne, if_neg Bool.false_ne_true, decodeChar_encodeChar]
      simp only [bind, Except.bind, List.drop_left]
      rw [ih fuel _ (by omega)]
      rfl

theorem toList_loop_eq (bs : ByteArray) (i : Nat) (acc : List UInt8) :
    ByteArray.toList.loop bs i acc = acc.reverse ++ bs.data.toList.drop i := by
  fun_induction ByteArray.toList.loop bs i acc with
  | case1 i acc hi ih =>
    have hl : i < bs.data.toList.length := hi
    have hget : bs.get! i = bs.data.toList[i] := getElem!_pos bs.data i hi
    rw [ih, List.drop_eq_getElem_cons hl, hget, List.reverse_cons, List.append_assoc,
      List.singleton_append]
  | case2 i acc hi =>
    have hl : bs.data.toList.length ≤ i := Nat.le_of_not_lt hi
    rw [List.drop_eq_nil_of_le hl, List.append_nil]

theorem toArray_encode (s : String) : (⟨(encode s).toArray⟩ : ByteArray) = s.toUTF8 := by
  rw [encode, ByteArray.toList, toList_loop_eq, List.reverse_nil, List.nil_append, List.drop_zero,
    Array.toArray_toList]

theorem encode_eq (s : String) : encode s = s.toList.flatMap String.utf8EncodeChar := by
  rw [encode, ByteArray.toList, toList_loop_eq, List.reverse_nil, List.nil_append, List.drop_zero,
    String.toUTF8_eq_toByteArray, ← String.utf8Encode_toList, List.utf8Encode]
  simp

/-- A text is read back from its bytes. -/
theorem decode_encode (s : String) : decode (encode s) = .ok s.toList := by
  rw [decode, encode_eq]
  exact decodeChars_encode _ _ _ (Nat.le_refl _)

end TapScript.Text
