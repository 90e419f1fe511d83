import Mathlib
import Timeline.Proofs.BufferedLines
/-!
# The lines of an encoded text

A text handed to a scan is the UTF-8 encoding of its characters. This module
shows that the reader gets those characters back, line by line.

* Bytes. `toList_toUTF8` spells the bytes of a string as the encodings of its
  characters.
* Decoding. `decodeOne_utf8EncodeChar` reads one encoded character back from
  the front of any byte list, so `decodeUtf8_flatMap` decodes an encoded text to
  its characters and finds it valid. An ASCII byte occurs in an encoding only as
  the character it codes (`mem_utf8EncodeChar_of_ascii`).
* Lines. `cutLines_encoded` cuts an encoded text at the encodings of its line
  feeds, and `pieceLine_encoded` reads each piece as its characters, a carriage
  return before the line feed dropped.

The main statement, `splitLines_encoded`, gives the lines of an encoded text
that does not open with U+FEFF: its lines ended by a line feed, then the rest
when it is not empty, valid and numbered from 1.
-/

namespace Timeline

/-! ## The bytes of a string -/

theorem ByteArray.toList_loop (bs : ByteArray) (i : Nat) (acc : List UInt8) :
    ByteArray.toList.loop bs i acc = acc.reverse ++ bs.data.toList.drop i := by
  fun_induction ByteArray.toList.loop bs i acc with
  | case1 i acc hi ih =>
    have hdrop : bs.data.toList.drop i = bs.data.toList.get ⟨i, by simpa using hi⟩ ::
        bs.data.toList.drop (i + 1) := List.drop_eq_getElem_cons _
    rw [ih, hdrop]
    simp [ByteArray.get!, hi]
  | case2 i acc hi =>
    rw [List.drop_eq_nil_of_le (by simpa using Nat.le_of_not_lt hi)]
    simp

theorem toList_toUTF8 (s : String) : s.toUTF8.toList = s.toList.flatMap String.utf8EncodeChar := by
  rw [String.toUTF8_eq_toByteArray, ← String.utf8Encode_toList, List.utf8Encode, ByteArray.toList,
    ByteArray.toList_loop, List.toList_data_toByteArray]
  simp

end Timeline

namespace Timeline.Text


theorem sequenceShape_eq (b : UInt8) :
    sequenceShape b =
      if 0xC2 ≤ b.toNat ∧ b.toNat ≤ 0xDF then some (0x80, 0xBF, 1)
      else if b.toNat = 0xE0 then some (0xA0, 0xBF, 2)
      else if (0xE1 ≤ b.toNat ∧ b.toNat ≤ 0xEC) ∨ (0xEE ≤ b.toNat ∧ b.toNat ≤ 0xEF) then
        some (0x80, 0xBF, 2)
      else if b.toNat = 0xED then some (0x80, 0x9F, 2)
      else if b.toNat = 0xF0 then some (0x90, 0xBF, 3)
      else if 0xF1 ≤ b.toNat ∧ b.toNat ≤ 0xF3 then some (0x80, 0xBF, 3)
      else if b.toNat = 0xF4 then some (0x80, 0x8F, 3)
      else none := by
  simp only [sequenceShape, inByteRange, UInt8.le_iff_toNat_le, beq_iff_eq, ← UInt8.toNat_inj,
    Bool.and_eq_true, Bool.or_eq_true, decide_eq_true_eq, UInt8.reduceToNat]

theorem inByteRange_iff (lo hi b : UInt8) :
    inByteRange lo hi b = true ↔ lo.toNat ≤ b.toNat ∧ b.toNat ≤ hi.toNat := by
  simp [inByteRange, UInt8.le_iff_toNat_le]

/-- A lead byte of its shape, continuation bytes in range, whose value is the
code point of `c`: the character `c`. -/
theorem decodeOne_of_shape {b0 b1 lo hi : UInt8} {n : Nat} {tail : List UInt8} {c : Char}
    (rest : List UInt8) (hlead : 0x80 ≤ b0.toNat) (hshape : sequenceShape b0 = some (lo, hi, n))
    (hb1 : lo.toNat ≤ b1.toNat ∧ b1.toNat ≤ hi.toNat) (htail : tail.length = n - 1)
    (hcont : ∀ b ∈ tail, 0x80 ≤ b.toNat ∧ b.toNat ≤ 0xBF)
    (hvalue : sequenceValue b0 (b1 :: tail) = c.toNat) :
    decodeOne (b0 :: b1 :: (tail ++ rest)) = (some c, n + 1) := by
  have hb0 : ¬b0 < 0x80 := by rw [UInt8.lt_iff_toNat_lt]; simp only [UInt8.reduceToNat]; omega
  have hin : inByteRange lo hi b1 = true := (inByteRange_iff _ _ _).mpr hb1
  have htake : (tail ++ rest).take (n - 1) = tail := by rw [← htail, List.take_left]
  have hgood : (tail.takeWhile (inByteRange 0x80 0xBF)).length = n - 1 := by
    rw [List.takeWhile_eq_self_iff.mpr fun b hb => (inByteRange_iff 0x80 0xBF b).mpr (hcont b hb), htail]
  simp [decodeOne, hb0, hshape, hin, htake, hgood, hvalue, Char.ofNat_toNat]

/-- The lead byte of a three-byte encoding admits the byte that the encoding
puts after it: the narrower ranges after `0xE0` and `0xED` leave out only the
overlong forms and the surrogates, which no character is encoded to. -/
theorem sequenceShape_lead_three {x : Nat} (hlo : 0x7ff < x) (hhi : x ≤ 0xffff)
    (hsur : x < 0xD800 ∨ 0xDFFF < x) :
    ∃ lo hi, sequenceShape (UInt8.ofNat (x / 4096 % 16 + 0xe0)) = some (lo, hi, 2) ∧
      lo.toNat ≤ x / 64 % 64 + 0x80 ∧ x / 64 % 64 + 0x80 ≤ hi.toNat := by
  have hb0 := UInt8.toNat_ofNat_of_lt' (show x / 4096 % 16 + 0xe0 < 256 by omega)
  rw [sequenceShape_eq, hb0]
  rcases (by omega : x / 4096 = 0 ∨ x / 4096 = 13 ∨ (x / 4096 ≠ 0 ∧ x / 4096 ≠ 13)) with h | h | h
  · -- lead `0xE0`: past `0x7FF`, the second byte is at least `0xA0`
    rw [if_neg (by omega), if_pos (by omega)]
    exact ⟨_, _, rfl, by simp only [UInt8.reduceToNat]; omega⟩
  · -- lead `0xED`: below the surrogates, the second byte is at most `0x9F`
    rw [if_neg (by omega), if_neg (by omega), if_neg (by omega), if_pos (by omega)]
    exact ⟨_, _, rfl, by simp only [UInt8.reduceToNat]; omega⟩
  · rw [if_neg (by omega), if_neg (by omega), if_pos (by omega)]
    exact ⟨_, _, rfl, by simp only [UInt8.reduceToNat]; omega⟩

/-- The lead byte of a four-byte encoding admits the byte that the encoding
puts after it: the narrower ranges after `0xF0` and `0xF4` leave out only the
overlong forms and the code points past `U+10FFFF`. -/
theorem sequenceShape_lead_four {x : Nat} (hlo : 0xffff < x) (hhi : x < 0x110000) :
    ∃ lo hi, sequenceShape (UInt8.ofNat (x / 262144 % 8 + 0xf0)) = some (lo, hi, 3) ∧
      lo.toNat ≤ x / 4096 % 64 + 0x80 ∧ x / 4096 % 64 + 0x80 ≤ hi.toNat := by
  have hb0 := UInt8.toNat_ofNat_of_lt' (show x / 262144 % 8 + 0xf0 < 256 by omega)
  rw [sequenceShape_eq, hb0]
  rcases (by omega : x / 262144 = 0 ∨ x / 262144 = 4 ∨ (1 ≤ x / 262144 ∧ x / 262144 ≤ 3))
    with h | h | h
  · -- lead `0xF0`: past `0xFFFF`, the second byte is at least `0x90`
    rw [if_neg (by omega), if_neg (by omega), if_neg (by omega), if_neg (by omega),
      if_pos (by omega)]
    exact ⟨_, _, rfl, by simp only [UInt8.reduceToNat]; omega⟩
  · -- lead `0xF4`: below `0x110000`, the second byte is at most `0x8F`
    rw [if_neg (by omega), if_neg (by omega), if_neg (by omega), if_neg (by omega),
      if_neg (by omega), if_neg (by omega), if_pos (by omega)]
    exact ⟨_, _, rfl, by simp only [UInt8.reduceToNat]; omega⟩
  · rw [if_neg (by omega), if_neg (by omega), if_neg (by omega), if_neg (by omega),
      if_neg (by omega), if_pos (by omega)]
    exact ⟨_, _, rfl, by simp only [UInt8.reduceToNat]; omega⟩

/-- The code point of a character lies outside the surrogates and below `0x110000`. -/
theorem toNat_valid (c : Char) : c.toNat < 0xD800 ∨ (0xDFFF < c.toNat ∧ c.toNat < 0x110000) := by
  have := c.valid
  simp only [UInt32.isValidChar, Nat.isValidChar] at this
  exact this

theorem utf8Size_eq (c : Char) :
    c.utf8Size = if c.toNat ≤ 0x7f then 1 else if c.toNat ≤ 0x7ff then 2
      else if c.toNat ≤ 0xffff then 3 else 4 := by
  simp only [Char.utf8Size, UInt32.le_iff_toNat_le, UInt32.toNat_ofNatLT]
  rfl

/-- The decoder reads the encoding of a character back as that character, by
the length of the encoding: the lead byte's shape admits the second byte, and
the continuation bytes give back the code point six bits at a time. -/
theorem decodeOne_utf8EncodeChar (c : Char) (rest : List UInt8) :
    decodeOne (String.utf8EncodeChar c ++ rest) = (some c, c.utf8Size) := by
  have hv := toNat_valid c
  have hval : c.val.toNat = c.toNat := rfl
  by_cases h1 : c.toNat ≤ 0x7f
  · -- one byte
    have hlt : UInt8.ofNat c.toNat < 0x80 := by
      rw [UInt8.lt_iff_toNat_lt, UInt8.toNat_ofNat_of_lt' (show _ < 256 by omega)]; simp only [UInt8.reduceToNat]; omega
    simp [String.utf8EncodeChar, hval, h1, decodeOne, hlt, UInt8.toNat_ofNat_of_lt' (show c.toNat < 256 by omega),
      utf8Size_eq]
  by_cases h2 : c.toNat ≤ 0x7ff
  · -- two bytes
    have hb0 := UInt8.toNat_ofNat_of_lt' (show c.toNat / 64 % 32 + 0xc0 < 256 by omega)
    have hb1 := UInt8.toNat_ofNat_of_lt' (show c.toNat % 64 + 0x80 < 256 by omega)
    have henc : String.utf8EncodeChar c ++ rest =
        UInt8.ofNat (c.toNat / 64 % 32 + 0xc0) :: UInt8.ofNat (c.toNat % 64 + 0x80) :: ([] ++ rest) := by
      simp [String.utf8EncodeChar, hval, h1, h2]
    have hshape : sequenceShape (UInt8.ofNat (c.toNat / 64 % 32 + 0xc0)) = some (0x80, 0xBF, 1) := by
      rw [sequenceShape_eq, hb0, if_pos (by omega)]
    have hvalue : sequenceValue (UInt8.ofNat (c.toNat / 64 % 32 + 0xc0))
        [UInt8.ofNat (c.toNat % 64 + 0x80)] = c.toNat := by
      simp only [sequenceValue, hb0, hb1, List.length_singleton, List.foldl_cons, List.foldl_nil]
      simp
      omega
    rw [henc, decodeOne_of_shape rest (by omega) hshape
      (by simp only [hb1, UInt8.reduceToNat]; omega) rfl (by simp) hvalue,
      utf8Size_eq, if_neg h1, if_pos h2]
  by_cases h3 : c.toNat ≤ 0xffff
  · -- three bytes
    have hb0 := UInt8.toNat_ofNat_of_lt' (show c.toNat / 4096 % 16 + 0xe0 < 256 by omega)
    have hb1 := UInt8.toNat_ofNat_of_lt' (show c.toNat / 64 % 64 + 0x80 < 256 by omega)
    have hb2 := UInt8.toNat_ofNat_of_lt' (show c.toNat % 64 + 0x80 < 256 by omega)
    have henc : String.utf8EncodeChar c ++ rest =
        UInt8.ofNat (c.toNat / 4096 % 16 + 0xe0) :: UInt8.ofNat (c.toNat / 64 % 64 + 0x80) ::
          ([UInt8.ofNat (c.toNat % 64 + 0x80)] ++ rest) := by
      simp [String.utf8EncodeChar, hval, h1, h2, h3]
    obtain ⟨lo, hi, hshape, hrange⟩ := sequenceShape_lead_three (by omega) h3 (by omega)
    have hvalue : sequenceValue (UInt8.ofNat (c.toNat / 4096 % 16 + 0xe0))
        [UInt8.ofNat (c.toNat / 64 % 64 + 0x80), UInt8.ofNat (c.toNat % 64 + 0x80)] = c.toNat := by
      simp only [sequenceValue, hb0, hb1, hb2, List.foldl_cons, List.foldl_nil]
      simp
      omega
    rw [henc, decodeOne_of_shape rest (by omega) hshape (by rwa [hb1]) rfl
      (by simp only [List.forall_mem_cons, hb2]; simp; omega) hvalue, utf8Size_eq, if_neg h1, if_neg h2, if_pos h3]
  · -- four bytes
    have hb0 := UInt8.toNat_ofNat_of_lt' (show c.toNat / 262144 % 8 + 0xf0 < 256 by omega)
    have hb1 := UInt8.toNat_ofNat_of_lt' (show c.toNat / 4096 % 64 + 0x80 < 256 by omega)
    have hb2 := UInt8.toNat_ofNat_of_lt' (show c.toNat / 64 % 64 + 0x80 < 256 by omega)
    have hb3 := UInt8.toNat_ofNat_of_lt' (show c.toNat % 64 + 0x80 < 256 by omega)
    have henc : String.utf8EncodeChar c ++ rest =
        UInt8.ofNat (c.toNat / 262144 % 8 + 0xf0) :: UInt8.ofNat (c.toNat / 4096 % 64 + 0x80) ::
          ([UInt8.ofNat (c.toNat / 64 % 64 + 0x80), UInt8.ofNat (c.toNat % 64 + 0x80)] ++ rest) := by
      simp [String.utf8EncodeChar, hval, h1, h2, h3]
    obtain ⟨lo, hi, hshape, hrange⟩ := sequenceShape_lead_four (x := c.toNat) (by omega) (by omega)
    have hvalue : sequenceValue (UInt8.ofNat (c.toNat / 262144 % 8 + 0xf0))
        [UInt8.ofNat (c.toNat / 4096 % 64 + 0x80), UInt8.ofNat (c.toNat / 64 % 64 + 0x80),
          UInt8.ofNat (c.toNat % 64 + 0x80)] = c.toNat := by
      simp only [sequenceValue, hb0, hb1, hb2, hb3, List.foldl_cons, List.foldl_nil]
      simp
      omega
    rw [henc, decodeOne_of_shape rest (by omega) hshape (by rwa [hb1]) rfl
      (by simp only [List.forall_mem_cons, hb2, hb3]; simp; omega) hvalue, utf8Size_eq, if_neg h1, if_neg h2, if_neg h3]

theorem decodeUtf8_utf8EncodeChar_append (c : Char) (rest : List UInt8) :
    decodeUtf8 (String.utf8EncodeChar c ++ rest) = (c :: (decodeUtf8 rest).1, (decodeUtf8 rest).2) := by
  obtain ⟨b, bs, hbs⟩ : ∃ b bs, String.utf8EncodeChar c = b :: bs := by
    cases h : String.utf8EncodeChar c with
    | nil => have := String.length_utf8EncodeChar c; rw [h] at this; have := c.utf8Size_pos; simp_all
    | cons b bs => exact ⟨b, bs, rfl⟩
  have hlen : (b :: bs).length = c.utf8Size := by rw [← hbs, String.length_utf8EncodeChar]
  have hone := decodeOne_utf8EncodeChar c rest
  rw [hbs] at hone ⊢
  simp only [List.cons_append] at hone ⊢
  have hdrop : (b :: (bs ++ rest)).drop (max c.utf8Size 1) = rest := by
    rw [← hlen, Nat.max_eq_left (by simp), ← List.cons_append, List.drop_left]
  rw [decodeUtf8.eq_def]
  simp only [hone, hdrop]

/-- Valid UTF-8, the encoding of some characters, decodes to them. -/
theorem decodeUtf8_flatMap (cs : List Char) :
    decodeUtf8 (cs.flatMap String.utf8EncodeChar) = (cs, true) := by
  induction cs with
  | nil => simp [decodeUtf8]
  | cons c cs ih => rw [List.flatMap_cons, decodeUtf8_utf8EncodeChar_append, ih]

/-- Three bytes that open with the byte order mark decode to it. -/
theorem decodeOne_byteOrderMark (rest : List UInt8) :
    decodeOne (0xEF :: 0xBB :: 0xBF :: rest) = (some '\uFEFF', 3) := by
  simp [decodeOne, sequenceShape, inByteRange, sequenceValue]

/-- An ASCII character is encoded as its code. -/
theorem utf8EncodeChar_of_ascii {c : Char} (h : c.toNat ≤ 0x7f) :
    String.utf8EncodeChar c = [UInt8.ofNat c.toNat] := by
  have hval : c.val.toNat = c.toNat := rfl
  simp [String.utf8EncodeChar, hval, h]

/-- Every byte of a character past ASCII is at least `0x80`. -/
theorem le_of_mem_utf8EncodeChar {c : Char} {b : UInt8} (h : 0x7f < c.toNat)
    (hb : b ∈ String.utf8EncodeChar c) : 0x80 ≤ b.toNat := by
  have hv := toNat_valid c
  have hval : c.val.toNat = c.toNat := rfl
  simp only [String.utf8EncodeChar, hval, if_neg (show ¬c.toNat ≤ 0x7f by omega)] at hb
  split_ifs at hb <;> simp only [List.mem_cons, List.not_mem_nil, or_false] at hb <;>
    rcases hb with rfl | rfl | rfl | rfl <;> rw [UInt8.toNat_ofNat_of_lt' (show _ < 256 by omega)] <;> omega

/-- An ASCII byte occurs in the encoding of a character only as that character. -/
theorem mem_utf8EncodeChar_of_ascii {c : Char} {b : UInt8} (hb : b.toNat ≤ 0x7f) :
    b ∈ String.utf8EncodeChar c ↔ c.toNat = b.toNat := by
  by_cases h : c.toNat ≤ 0x7f
  · rw [utf8EncodeChar_of_ascii h, List.mem_singleton, ← UInt8.toNat_inj,
      UInt8.toNat_ofNat_of_lt' (show _ < 256 by omega)]
    exact eq_comm
  · constructor
    · intro hm
      have := le_of_mem_utf8EncodeChar (by omega) hm
      omega
    · intro he
      omega

end Timeline.Text

namespace Timeline

open Text

/-- The characters of a line without a carriage return at its end. -/
def dropFinalCR (cs : List Char) : List Char :=
  if cs.getLast? = some '\r' then cs.dropLast else cs

theorem lineFeed_mem_utf8EncodeChar (c : Char) : lineFeed ∈ String.utf8EncodeChar c ↔ c = '\n' := by
  rw [mem_utf8EncodeChar_of_ascii (by decide)]
  constructor
  · intro h
    exact Char.toNat_inj.mp h
  · rintro rfl
    rfl

theorem lineFeed_not_mem_flatMap {cs : List Char} (h : '\n' ∉ cs) :
    lineFeed ∉ cs.flatMap String.utf8EncodeChar := by
  simp only [List.mem_flatMap, lineFeed_mem_utf8EncodeChar, not_exists, not_and]
  rintro c hc rfl
  exact h hc

theorem flatMap_utf8EncodeChar_eq_nil {cs : List Char} :
    cs.flatMap String.utf8EncodeChar = [] ↔ cs = [] := by
  constructor
  · intro h
    cases cs with
    | nil => rfl
    | cons c cs =>
      have hlen := congrArg List.length h
      simp only [List.flatMap_cons, List.length_append, String.length_utf8EncodeChar,
        List.length_nil] at hlen
      have := c.utf8Size_pos
      omega
  · rintro rfl
    rfl

/-- The pieces of an encoded text are the encodings of its lines: those ended by
a line feed, then the rest when it is not empty. -/
theorem cutLines_encoded (init : List (List Char)) (last : List Char) (hinit : ∀ l ∈ init, '\n' ∉ l)
    (hlast : '\n' ∉ last) :
    cutLines ((init.flatMap (· ++ ['\n']) ++ last).flatMap String.utf8EncodeChar) =
      init.map (fun l => (l.flatMap String.utf8EncodeChar, true)) ++
        (if last = [] then [] else [(last.flatMap String.utf8EncodeChar, false)]) := by
  induction init with
  | nil =>
    rw [List.flatMap_nil, List.nil_append,
      cutLines_of_no_lineFeed fun b hb hlf => lineFeed_not_mem_flatMap hlast (hlf ▸ hb)]
    by_cases hl : last = []
    · simp [hl]
    · simp only [flatMap_utf8EncodeChar_eq_nil, hl, if_false, List.map_nil, List.nil_append]
  | cons l init ih =>
    have hl := hinit l List.mem_cons_self
    have henc : ((l :: init).flatMap (· ++ ['\n']) ++ last).flatMap String.utf8EncodeChar =
        l.flatMap String.utf8EncodeChar ++ lineFeed ::
          (init.flatMap (· ++ ['\n']) ++ last).flatMap String.utf8EncodeChar := by
      simp [List.flatMap_append]
      rfl
    rw [henc, cutLines_append_lineFeed _ fun b hb hlf => lineFeed_not_mem_flatMap hl (hlf ▸ hb),
      ih (fun l' hl' => hinit l' (List.mem_cons_of_mem _ hl'))]
    simp

theorem head?_dropFinalCR (l : List Char) : (dropFinalCR l).head? = none ∨ (dropFinalCR l).head? = l.head? := by
  unfold dropFinalCR
  split
  · rw [List.head?_dropLast]
    split
    · exact .inr rfl
    · exact .inl rfl
  · exact .inr rfl

/-- Dropping the carriage return at the end of a line's bytes is dropping it from its characters. -/
theorem encoded_dropFinalCR (l : List Char) :
    (if (l.flatMap String.utf8EncodeChar).getLast? == some 13 then
        (l.flatMap String.utf8EncodeChar).dropLast
      else l.flatMap String.utf8EncodeChar) = (dropFinalCR l).flatMap String.utf8EncodeChar := by
  rcases List.eq_nil_or_concat l with rfl | ⟨l', c, rfl⟩
  · rfl
  · by_cases hc : c = '\r'
    · subst hc
      have hcr : String.utf8EncodeChar '\r' = [13] := rfl
      simp [hcr, dropFinalCR, List.flatMap_append]
    · have hnot : (String.utf8EncodeChar c).getLast? ≠ some 13 := by
        intro h
        have hmem := (mem_utf8EncodeChar_of_ascii (c := c) (b := 13) (by decide)).mp
          (List.mem_of_getLast? h)
        exact hc (Char.toNat_inj.mp hmem)
      simp [hnot, dropFinalCR, hc]

/-- A text that does not open with U+FEFF does not open with the byte order mark. -/
theorem not_byteOrderMark_isPrefixOf {cs : List Char} (h : cs.head? ≠ some '\uFEFF') :
    byteOrderMark.isPrefixOf (cs.flatMap String.utf8EncodeChar) = false := by
  cases cs with
  | nil => rfl
  | cons c cs =>
    rw [Bool.eq_false_iff]
    intro hp
    obtain ⟨rest, hrest⟩ := List.isPrefixOf_iff_prefix.mp hp
    have hdecode := decodeOne_utf8EncodeChar c (cs.flatMap String.utf8EncodeChar)
    rw [← List.flatMap_cons, ← hrest, byteOrderMark] at hdecode
    simp only [List.cons_append, List.nil_append, decodeOne_byteOrderMark, Prod.mk.injEq,
      Option.some.injEq] at hdecode
    exact h (by rw [List.head?_cons, hdecode.1])

/-- The line of an encoded piece: its characters, without a carriage return at the
end when a line feed ended it. -/
theorem pieceLine_encoded (n : Nat) (l : List Char) (t : Bool)
    (hbom : n = 1 → l.head? ≠ some '\uFEFF') :
    pieceLine n (l.flatMap String.utf8EncodeChar, t) =
      ⟨n, String.ofList (if t then dropFinalCR l else l), true⟩ := by
  have hbody : (if t && (l.flatMap String.utf8EncodeChar).getLast? == some 13 then
      (l.flatMap String.utf8EncodeChar).dropLast else l.flatMap String.utf8EncodeChar) =
      (if t then dropFinalCR l else l).flatMap String.utf8EncodeChar := by
    cases t
    · simp
    · simpa using encoded_dropFinalCR l
  -- the byte order mark is looked for on line 1 only
  have hmark : (n == 1 && byteOrderMark.isPrefixOf
      ((if t then dropFinalCR l else l).flatMap String.utf8EncodeChar)) = false := by
    by_cases hn : n = 1
    · have hhead : (if t then dropFinalCR l else l).head? ≠ some '\uFEFF' := by
        cases t
        · exact hbom hn
        · rcases head?_dropFinalCR l with h | h <;> simp [h, hbom hn]
      rw [not_byteOrderMark_isPrefixOf hhead, Bool.and_false]
    · simp [hn]
  simp only [pieceLine, hbody, hmark, Bool.false_eq_true, if_false, decodeUtf8_flatMap]

/-- Valid lines of the given texts, numbered from `first`. -/
def textLines (first : Nat) : List String → List Line
  | [] => []
  | t :: ts => ⟨first, t, true⟩ :: textLines (first + 1) ts

theorem textLines_append (first : Nat) (ts us : List String) :
    textLines first (ts ++ us) = textLines first ts ++ textLines (first + ts.length) us := by
  induction ts generalizing first with
  | nil => rfl
  | cons t ts ih =>
    rw [List.cons_append, textLines, textLines, ih, List.length_cons, Nat.add_right_comm,
      Nat.add_assoc, List.cons_append]

/-- Encoded pieces are numbered as the lines of their characters. -/
theorem numberLines_encoded {first : Nat} (hfirst : 1 ≤ first) (pieces : List (List Char × Bool))
    (hbom : first = 1 → ∀ p ∈ pieces.head?, p.1.head? ≠ some '\uFEFF') :
    numberLines first (pieces.map fun p => (p.1.flatMap String.utf8EncodeChar, p.2)) =
      textLines first (pieces.map fun p => String.ofList (if p.2 then dropFinalCR p.1 else p.1)) := by
  induction pieces generalizing first with
  | nil => rfl
  | cons p pieces ih =>
    simp only [List.map_cons, numberLines, textLines]
    rw [pieceLine_encoded first p.1 p.2 (fun h => hbom h p rfl), ih (by omega) (fun h => absurd h (by omega))]

/-- The lines of an encoded text: its lines ended by a line feed, without a
carriage return at their end, then the rest when it is not empty, numbered from 1. -/
theorem splitLines_encoded (init : List (List Char)) (last : List Char)
    (hinit : ∀ l ∈ init, '\n' ∉ l) (hlast : '\n' ∉ last)
    (hbom : (init.flatMap (· ++ ['\n']) ++ last).head? ≠ some '\uFEFF') :
    splitLines ((init.flatMap (· ++ ['\n']) ++ last).flatMap String.utf8EncodeChar) =
      textLines 1 (init.map (String.ofList ∘ dropFinalCR) ++
        (if last = [] then [] else [String.ofList last])) := by
  have hpieces : init.map (fun l => (l.flatMap String.utf8EncodeChar, true)) ++
      (if last = [] then [] else [(last.flatMap String.utf8EncodeChar, false)]) =
      (init.map (·, true) ++ (if last = [] then [] else [(last, false)])).map
        fun p => (p.1.flatMap String.utf8EncodeChar, p.2) := by
    split <;> simp
  rw [splitLines, cutLines_encoded init last hinit hlast, hpieces, numberLines_encoded (Nat.le_refl 1)]
  · split <;> simp [Function.comp_def]
  · -- the first line opens the text
    intro _ p hp
    cases init with
    | nil =>
      split at hp
      · cases hp
      · cases hp
        simpa using hbom
    | cons l init =>
      cases hp
      cases hl : l with
      | nil => simp
      | cons c cs => simpa [hl] using hbom

end Timeline
