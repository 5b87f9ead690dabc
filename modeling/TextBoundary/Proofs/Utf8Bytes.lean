import TextBoundary.Text
import TextBoundary.Utf8

namespace TextBoundary.Utf8

variable {position n m k lead : Nat} {rest : List UInt8} {c : Char}

theorem toNat_ofNat (h : n < 256) : (UInt8.ofNat n).toNat = n := by
  rw [UInt8.toNat_ofNat', Nat.mod_eq_of_lt h]

theorem isContinuation_ofNat (h : n < 64) : isContinuation (UInt8.ofNat (n + 128)) := by
  have hn : (UInt8.ofNat (n + 128)).toNat = n + 128 := toNat_ofNat (by omega)
  simp only [isContinuation, UInt8.le_iff_toNat_le, hn, UInt8.reduceToNat, Bool.and_eq_true,
    decide_eq_true_eq]
  omega

theorem join_cons (lead : Nat) (h : n < 64) :
    join lead (UInt8.ofNat (n + 128) :: rest) = join (lead * 64 + n) rest := by
  have hn : (UInt8.ofNat (n + 128)).toNat - 0x80 = n := by
    rw [toNat_ofNat (by omega), Nat.add_sub_cancel]
  rw [join, List.foldl_cons, hn, join]

theorem not_ascii (h : n < 256) (hn : 128 ≤ n) : ¬UInt8.ofNat n < (0x80 : UInt8) := by
  rw [UInt8.lt_iff_toNat_lt, toNat_ofNat h]
  exact Nat.not_lt.mpr hn

theorem decodeFrom_one (h : n < 128) : decodeFrom position (UInt8.ofNat n :: rest)
    = (decodeFrom (position + 1) rest).map (Char.ofNat n :: ·) := by
  have hascii : UInt8.ofNat n < (0x80 : UInt8) := by
    rw [UInt8.lt_iff_toNat_lt, toNat_ofNat (by omega)]
    exact h
  rw [decodeFrom.eq_def]
  dsimp only
  rw [if_pos hascii, toNat_ofNat (by omega)]

theorem decodeFrom_two (hlo : 2 ≤ lead) (hhi : lead < 32) (h : n < 64) :
    decodeFrom position (UInt8.ofNat (lead + 192) :: UInt8.ofNat (n + 128) :: rest)
      = (decodeFrom (position + 2) rest).map (Char.ofNat (lead * 64 + n) :: ·) := by
  have hlead : (UInt8.ofNat (lead + 192)).toNat = lead + 192 := toNat_ofNat (by omega)
  have htwo : (0xC2 ≤ UInt8.ofNat (lead + 192) && UInt8.ofNat (lead + 192) ≤ 0xDF
      && isContinuation (UInt8.ofNat (n + 128))) = true := by
    simp only [UInt8.le_iff_toNat_le, hlead, UInt8.reduceToNat, isContinuation_ofNat h, Bool.and_true,
      Bool.and_eq_true, decide_eq_true_eq]
    omega
  rw [decodeFrom.eq_def]
  dsimp only
  rw [if_neg (not_ascii (by omega) (by omega)), if_pos htwo, join_cons _ h, hlead, Nat.add_sub_cancel]
  rfl

theorem not_two {b : UInt8} (h : n < 256) (hn : 224 ≤ n) :
    ¬(0xC2 ≤ UInt8.ofNat n && UInt8.ofNat n ≤ 0xDF && isContinuation b) = true := by
  simp only [UInt8.le_iff_toNat_le, toNat_ofNat h, UInt8.reduceToNat, Bool.and_eq_true, decide_eq_true_eq]
  omega

theorem decodeFrom_three (hlead : lead < 16) (hm : m < 64) (hn : n < 64)
    (hlo : lead = 0 → 32 ≤ m) (hsurrogate : lead = 13 → m < 32) :
    decodeFrom position
        (UInt8.ofNat (lead + 224) :: UInt8.ofNat (m + 128) :: UInt8.ofNat (n + 128) :: rest)
      = (decodeFrom (position + 3) rest).map (Char.ofNat ((lead * 64 + m) * 64 + n) :: ·) := by
  have hfirst : (UInt8.ofNat (lead + 224)).toNat = lead + 224 := toNat_ofNat (by omega)
  have hsecond : (UInt8.ofNat (m + 128)).toNat = m + 128 := toNat_ofNat (by omega)
  have hthree : (0xE0 ≤ UInt8.ofNat (lead + 224) && UInt8.ofNat (lead + 224) ≤ 0xEF
      && isSecondOfThree (UInt8.ofNat (lead + 224)) (UInt8.ofNat (m + 128))
      && isContinuation (UInt8.ofNat (n + 128))) = true := by
    simp only [isSecondOfThree, UInt8.le_iff_toNat_le, bne_iff_ne, ne_eq, ← UInt8.toNat_inj, hfirst, hsecond,
      UInt8.reduceToNat, isContinuation_ofNat hm, isContinuation_ofNat hn, Bool.and_true, Bool.true_and,
      Bool.and_eq_true, Bool.or_eq_true, decide_eq_true_eq]
    omega
  rw [decodeFrom.eq_def]
  dsimp only
  rw [if_neg (not_ascii (by omega) (by omega)), if_neg (not_two (by omega) (by omega)), if_pos hthree,
    join_cons _ hm, join_cons _ hn, hfirst, Nat.add_sub_cancel]
  rfl

theorem not_three {b c : UInt8} (h : n < 256) (hn : 240 ≤ n) :
    ¬(0xE0 ≤ UInt8.ofNat n && UInt8.ofNat n ≤ 0xEF && isSecondOfThree (UInt8.ofNat n) b
      && isContinuation c) = true := by
  simp only [UInt8.le_iff_toNat_le, toNat_ofNat h, UInt8.reduceToNat, Bool.and_eq_true, decide_eq_true_eq]
  omega

theorem decodeFrom_four (hlead : lead < 5) (hk : k < 64) (hm : m < 64) (hn : n < 64)
    (hlo : lead = 0 → 16 ≤ k) (hhi : lead = 4 → k < 16) :
    decodeFrom position (UInt8.ofNat (lead + 240) :: UInt8.ofNat (k + 128) :: UInt8.ofNat (m + 128)
        :: UInt8.ofNat (n + 128) :: rest)
      = (decodeFrom (position + 4) rest).map (Char.ofNat (((lead * 64 + k) * 64 + m) * 64 + n) :: ·) := by
  have hfirst : (UInt8.ofNat (lead + 240)).toNat = lead + 240 := toNat_ofNat (by omega)
  have hsecond : (UInt8.ofNat (k + 128)).toNat = k + 128 := toNat_ofNat (by omega)
  have hfour : (0xF0 ≤ UInt8.ofNat (lead + 240) && UInt8.ofNat (lead + 240) ≤ 0xF4
      && isSecondOfFour (UInt8.ofNat (lead + 240)) (UInt8.ofNat (k + 128))
      && isContinuation (UInt8.ofNat (m + 128)) && isContinuation (UInt8.ofNat (n + 128))) = true := by
    simp only [isSecondOfFour, UInt8.le_iff_toNat_le, bne_iff_ne, ne_eq, ← UInt8.toNat_inj, hfirst, hsecond,
      UInt8.reduceToNat, isContinuation_ofNat hk, isContinuation_ofNat hm, isContinuation_ofNat hn,
      Bool.and_true, Bool.true_and, Bool.and_eq_true, Bool.or_eq_true, decide_eq_true_eq]
    omega
  rw [decodeFrom.eq_def]
  dsimp only
  rw [if_neg (not_ascii (by omega) (by omega)), if_neg (not_two (by omega) (by omega)),
    if_neg (not_three (by omega) (by omega)), if_pos hfour, join_cons _ hk, join_cons _ hm, join_cons _ hn,
    hfirst, Nat.add_sub_cancel]
  rfl

theorem decodeFrom_char (c : Char) : decodeFrom position (String.utf8EncodeChar c ++ rest)
    = (decodeFrom (position + c.utf8Size) rest).map (c :: ·) := by
  have hvalid : c.toNat < 0xD800 ∨ 0xDFFF < c.toNat ∧ c.toNat < 0x110000 := c.valid
  have hc : Char.ofNat c.toNat = c := Char.ofNat_toNat c
  by_cases h1 : c.toNat ≤ 127
  · have hsize : c.utf8Size = 1 := Char.utf8Size_eq_one_iff.mpr h1
    have hbytes : String.utf8EncodeChar c = [UInt8.ofNat c.toNat] := if_pos h1
    rw [hsize, hbytes, List.singleton_append, decodeFrom_one (by omega), hc]
  by_cases h2 : c.toNat ≤ 2047
  · have hsize : c.utf8Size = 2 := Char.utf8Size_eq_two_iff.mpr ⟨Nat.lt_of_not_le h1, h2⟩
    have hbytes : String.utf8EncodeChar c
        = [UInt8.ofNat (c.toNat / 64 % 32 + 192), UInt8.ofNat (c.toNat % 64 + 128)] := by
      rw [String.utf8EncodeChar]
      exact (if_neg h1).trans (if_pos h2)
    have hjoin : c.toNat / 64 % 32 * 64 + c.toNat % 64 = c.toNat := by omega
    rw [hsize, hbytes, List.cons_append, List.singleton_append,
      decodeFrom_two (by omega) (by omega) (by omega), hjoin, hc]
  by_cases h3 : c.toNat ≤ 65535
  · have hsize : c.utf8Size = 3 := Char.utf8Size_eq_three_iff.mpr ⟨Nat.lt_of_not_le h2, h3⟩
    have hbytes : String.utf8EncodeChar c
        = [UInt8.ofNat (c.toNat / 4096 % 16 + 224), UInt8.ofNat (c.toNat / 64 % 64 + 128),
          UInt8.ofNat (c.toNat % 64 + 128)] := by
      rw [String.utf8EncodeChar]
      exact (if_neg h1).trans ((if_neg h2).trans (if_pos h3))
    have hjoin : (c.toNat / 4096 % 16 * 64 + c.toNat / 64 % 64) * 64 + c.toNat % 64 = c.toNat := by omega
    rw [hsize, hbytes, List.cons_append, List.cons_append, List.singleton_append,
      decodeFrom_three (by omega) (by omega) (by omega) (by omega) (by omega), hjoin, hc]
  · have hsize : c.utf8Size = 4 := Char.utf8Size_eq_four_iff.mpr (Nat.lt_of_not_le h3)
    have hbytes : String.utf8EncodeChar c
        = [UInt8.ofNat (c.toNat / 262144 % 8 + 240), UInt8.ofNat (c.toNat / 4096 % 64 + 128),
          UInt8.ofNat (c.toNat / 64 % 64 + 128), UInt8.ofNat (c.toNat % 64 + 128)] := by
      rw [String.utf8EncodeChar]
      exact (if_neg h1).trans ((if_neg h2).trans (if_neg h3))
    have hjoin : ((c.toNat / 262144 % 8 * 64 + c.toNat / 4096 % 64) * 64 + c.toNat / 64 % 64) * 64
        + c.toNat % 64 = c.toNat := by omega
    rw [hsize, hbytes, List.cons_append, List.cons_append, List.cons_append, List.singleton_append,
      decodeFrom_four (by omega) (by omega) (by omega) (by omega) (by omega) (by omega), hjoin, hc]

theorem decodeFrom_chars (chars : List Char) :
    decodeFrom position (chars.flatMap String.utf8EncodeChar) = .ok chars := by
  induction chars generalizing position with
  | nil => rfl
  | cons c chars ih =>
    rw [List.flatMap_cons, decodeFrom_char, ih]
    rfl

theorem toList_loop (bytes : ByteArray) (i : Nat) (back : List UInt8) :
    ByteArray.toList.loop bytes i back = back.reverse ++ bytes.data.toList.drop i := by
  fun_induction ByteArray.toList.loop bytes i back with
  | case1 i back h ih =>
    have hi : i < bytes.data.toList.length := h
    have hget : bytes.get! i = bytes.data.toList[i] := by
      rw [ByteArray.get!]
      exact getElem!_pos bytes.data i h
    rw [ih, List.drop_eq_getElem_cons hi, List.reverse_cons, List.append_assoc, hget]
    rfl
  | case2 i back h =>
    have hi : bytes.data.toList.length ≤ i := Nat.le_of_not_lt h
    rw [List.drop_eq_nil_of_le hi, List.append_nil]

theorem encode_eq (text : String) : encode text = text.toList.flatMap String.utf8EncodeChar := by
  have hbytes : text.toUTF8 = (text.toList.flatMap String.utf8EncodeChar).toByteArray := by
    rw [String.toUTF8_eq_toByteArray, ← String.utf8Encode_toList, List.utf8Encode]
  rw [encode, hbytes, ByteArray.toList, toList_loop, List.toList_data_toByteArray]
  rfl

/-- The bytes of a text are read as the text. -/
theorem decode_encode (text : String) : decode (encode text) = .ok text := by
  rw [decode, encode_eq, decodeFrom_chars]
  exact congrArg Except.ok String.ofList_toList

theorem encode_inj {text other : String} (h : encode text = encode other) : text = other :=
  Except.ok.inj (by rw [← decode_encode, h, decode_encode])

theorem exists_encode {bytes : List UInt8} (h : bytes.toByteArray.IsValidUTF8) :
    ∃ text, encode text = bytes := by
  obtain ⟨chars, hchars⟩ := h
  refine ⟨String.ofList chars, ?_⟩
  have hdata := congrArg (fun b => b.data.toList) hchars
  simp only [List.utf8Encode, List.toList_data_toByteArray] at hdata
  rw [encode_eq, String.toList_ofList, hdata]

theorem length_flatMap (chars : List Char) :
    (chars.flatMap String.utf8EncodeChar).length = Units.bytes.length chars := by
  induction chars with
  | nil => rfl
  | cons c chars ih =>
    rw [List.flatMap_cons, List.length_append, ih, String.length_utf8EncodeChar]
    rfl

theorem length_encode (text : String) : (encode text).length = Units.bytes.length text.toList := by
  rw [encode_eq, length_flatMap]

theorem slice_encode {text : String} {front run back : List Char}
    (h : text.toList = front ++ (run ++ back)) :
    ((encode text).drop (Units.bytes.length front)).take (Units.bytes.length run)
      = encode (String.ofList run) := by
  rw [encode_eq, encode_eq, String.toList_ofList, h, List.flatMap_append, List.flatMap_append,
    List.drop_left' (length_flatMap front), List.take_left' (length_flatMap run)]

end TextBoundary.Utf8
