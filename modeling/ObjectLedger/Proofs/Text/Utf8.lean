/-
**Texts are read back from their bytes.**

* `toList_toUTF8`: the bytes of a text are those of its characters, one after the other.
* `lossyChars_shape`: the reading of a character of several bytes, by the shape of its first byte.
* **`ofUtf8Lossy_toUTF8`**: the bytes of a text have no malformed piece, so the text is read back.
-/
import Mathlib.Data.List.Basic
import Mathlib.Data.List.TakeWhile
import ObjectLedger.Proofs.Codec.RoundTrip
import ObjectLedger.Text.Utf8

namespace ObjectLedger.Text

/-! ### Bytes of texts -/

theorem toList_toByteArray (bytes : List UInt8) : bytes.toByteArray.toList = bytes := by
  rw [ByteArray.toList, Codec.toList_loop]
  simp

theorem toList_toUTF8 (text : String) :
    text.toUTF8.toList = text.toList.flatMap String.utf8EncodeChar := by
  rw [String.toUTF8_eq_toByteArray, ← String.utf8Encode_toList]
  exact toList_toByteArray _

/-! ### Characters -/

/-- A byte of a character after the first one, which gives six bits of it. -/
def laterByte (bits : Nat) : UInt8 :=
  UInt8.ofNat (bits + 128)

theorem toNat_laterByte {bits : Nat} (few : bits < 64) : (laterByte bits).toNat = bits + 128 :=
  UInt8.toNat_ofNat_of_lt' (by show bits + 128 < 256; omega)

theorem isContinuation_laterByte {bits : Nat} (few : bits < 64) :
    isContinuation (laterByte bits) = true := by
  unfold isContinuation
  simp only [Bool.and_eq_true, decide_eq_true_eq, UInt8.le_iff_toNat_le, toNat_laterByte few]
  exact ⟨Nat.le_add_left _ _, by show bits + 128 ≤ 191; omega⟩

/-- The bits of later bytes are put behind those of the first one. -/
theorem foldl_laterByte {groups : List Nat} (few : ∀ bits ∈ groups, bits < 64) (start : Nat) :
    (groups.map laterByte).foldl (fun value byte => value * 64 + byte.toNat % 64) start =
      groups.foldl (fun value bits => value * 64 + bits) start := by
  rw [List.foldl_map]
  refine List.foldl_ext _ _ _ fun value bits member => ?_
  have small := few bits member
  rw [toNat_laterByte small]
  omega

/-- A character of several bytes is read if its second byte is within the bounds of the first
one. -/
theorem lossyChars_shape {count : Nat} {first low high : UInt8} (second : Nat) (others : List Nat)
    (several : ¬ first < 0x80) (shape : sequenceShape first = some (count, low, high))
    (few : ∀ bits ∈ second :: others, bits < 64) (length : others.length + 2 = count)
    (above : low.toNat ≤ second + 128) (below : second + 128 ≤ high.toNat) (fuel : Nat)
    (rest : List UInt8) :
    lossyChars (fuel + 1) (first :: (second :: others).map laterByte ++ rest) =
      Char.ofNat ((second :: others).foldl (fun value bits => value * 64 + bits)
        (leadingBits count first)) :: lossyChars fuel rest := by
  have small := few second List.mem_cons_self
  have taken : (others.map laterByte ++ rest).take (count - 2) = others.map laterByte :=
    List.take_left' (by rw [List.length_map]; omega)
  have continued : (others.map laterByte).takeWhile isContinuation = others.map laterByte := by
    rw [List.takeWhile_eq_self_iff]
    intro byte member
    obtain ⟨bits, inside, rfl⟩ := List.mem_map.mp member
    exact isContinuation_laterByte (few bits (List.mem_cons_of_mem _ inside))
  have above : low ≤ laterByte second := by
    rw [UInt8.le_iff_toNat_le, toNat_laterByte small]
    exact above
  have below : laterByte second ≤ high := by
    rw [UInt8.le_iff_toNat_le, toNat_laterByte small]
    exact below
  have fitting : fittingBytes count low high (laterByte second :: (others.map laterByte ++ rest)) =
      (second :: others).length := by
    simp only [fittingBytes, taken, continued, above, below, decide_true, Bool.and_self, if_true,
      List.length_map, List.length_cons]
    omega
  have whole : (second :: others).length + 1 = count := length
  rw [← foldl_laterByte few]
  simp only [List.map_cons, List.cons_append, lossyChars, if_neg several, shape, fitting,
    if_pos whole]
  simp

/-- The first byte of a character of two bytes, which gives five bits of it. -/
theorem leading_two : ∀ lead < 32, 2 ≤ lead → ¬ UInt8.ofNat (lead + 192) < 0x80 ∧
    sequenceShape (UInt8.ofNat (lead + 192)) = some (2, 0x80, 0xBF) ∧
    leadingBits 2 (UInt8.ofNat (lead + 192)) = lead := by
  decide

/-- The first byte of a character of three bytes, which gives four bits of it. Small numbers take
fewer bytes, and the numbers of halves of pairs name no character. -/
theorem leading_three : ∀ lead < 16, ¬ UInt8.ofNat (lead + 224) < 0x80 ∧
    sequenceShape (UInt8.ofNat (lead + 224)) =
      some (3, if lead = 0 then 0xA0 else 0x80, if lead = 13 then 0x9F else 0xBF) ∧
    leadingBits 3 (UInt8.ofNat (lead + 224)) = lead := by
  decide

/-- The first byte of a character of four bytes, which gives three bits of it. Small numbers take
fewer bytes, and great ones name no character. -/
theorem leading_four : ∀ lead < 5, ¬ UInt8.ofNat (lead + 240) < 0x80 ∧
    sequenceShape (UInt8.ofNat (lead + 240)) =
      some (4, if lead = 0 then 0x90 else 0x80, if lead = 4 then 0x8F else 0xBF) ∧
    leadingBits 4 (UInt8.ofNat (lead + 240)) = lead := by
  decide

section Widths

variable {number : Nat} (fuel : Nat) (rest : List UInt8)

theorem lossyChars_one (small : number < 0x80) :
    lossyChars (fuel + 1) (UInt8.ofNat number :: rest) =
      Char.ofNat number :: lossyChars fuel rest := by
  have exact : (UInt8.ofNat number).toNat = number :=
    UInt8.toNat_ofNat_of_lt' (by show number < 256; omega)
  have ascii : UInt8.ofNat number < 0x80 := by
    rw [UInt8.lt_iff_toNat_lt, exact]
    exact small
  rw [lossyChars, if_pos ascii, exact]

theorem lossyChars_two (great : 0x80 ≤ number) (small : number < 0x800) :
    lossyChars (fuel + 1)
        (UInt8.ofNat (number / 64 % 32 + 192) :: [number % 64].map laterByte ++ rest) =
      Char.ofNat number :: lossyChars fuel rest := by
  obtain ⟨several, shape, bits⟩ := leading_two (number / 64 % 32) (by omega) (by omega)
  have whole : number / 64 % 32 * 64 + number % 64 = number := by omega
  rw [lossyChars_shape (number % 64) [] several shape (by simp [Nat.mod_lt]) rfl
    (Nat.le_add_left _ _) (by show _ ≤ 191; omega) fuel rest, bits]
  simp only [List.foldl_cons, List.foldl_nil, whole]

theorem lossyChars_three (great : 0x800 ≤ number) (small : number < 0x10000)
    (valid : number < 0xD800 ∨ 0xDFFF < number) :
    lossyChars (fuel + 1) (UInt8.ofNat (number / 4096 % 16 + 224) ::
        [number / 64 % 64, number % 64].map laterByte ++ rest) =
      Char.ofNat number :: lossyChars fuel rest := by
  obtain ⟨several, shape, bits⟩ := leading_three (number / 4096 % 16) (by omega)
  have whole : (number / 4096 % 16 * 64 + number / 64 % 64) * 64 + number % 64 = number := by
    omega
  rw [lossyChars_shape (number / 64 % 64) [number % 64] several shape (by simp [Nat.mod_lt]) rfl
    ?above ?below fuel rest, bits]
  · simp only [List.foldl_cons, List.foldl_nil, whole]
  case above =>
    split_ifs
    · show 160 ≤ _
      omega
    · exact Nat.le_add_left _ _
  case below =>
    split_ifs
    · show _ ≤ 159
      omega
    · show _ ≤ 191
      omega

theorem lossyChars_four (great : 0x10000 ≤ number) (small : number < 0x110000) :
    lossyChars (fuel + 1) (UInt8.ofNat (number / 262144 % 8 + 240) ::
        [number / 4096 % 64, number / 64 % 64, number % 64].map laterByte ++ rest) =
      Char.ofNat number :: lossyChars fuel rest := by
  obtain ⟨several, shape, bits⟩ := leading_four (number / 262144 % 8) (by omega)
  have whole : ((number / 262144 % 8 * 64 + number / 4096 % 64) * 64 + number / 64 % 64) * 64 +
      number % 64 = number := by omega
  rw [lossyChars_shape (number / 4096 % 64) [number / 64 % 64, number % 64] several shape
    (by simp [Nat.mod_lt]) rfl ?above ?below fuel rest, bits]
  · simp only [List.foldl_cons, List.foldl_nil, whole]
  case above =>
    split_ifs
    · show 144 ≤ _
      omega
    · exact Nat.le_add_left _ _
  case below =>
    split_ifs
    · show _ ≤ 143
      omega
    · show _ ≤ 191
      omega

end Widths

/-- The bytes of a character are read as the character. -/
theorem lossyChars_utf8EncodeChar (character : Char) (fuel : Nat) (rest : List UInt8) :
    lossyChars (fuel + 1) (String.utf8EncodeChar character ++ rest) =
      character :: lossyChars fuel rest := by
  have back : Char.ofNat character.val.toNat = character := Char.ofNat_toNat character
  have valid : character.val.toNat < 0xD800 ∨
    0xDFFF < character.val.toNat ∧ character.val.toNat < 0x110000 := character.valid
  unfold String.utf8EncodeChar
  generalize character.val.toNat = number at *
  subst back
  simp only []
  split_ifs with one two three
  · exact lossyChars_one fuel rest (by omega)
  · exact lossyChars_two fuel rest (by omega) (by omega)
  · exact lossyChars_three fuel rest (by omega) (by omega) (valid.imp_right And.left)
  · exact lossyChars_four fuel rest (by omega) (by omega)

theorem lossyChars_flatMap (characters : List Char) (fuel : Nat) (enough : characters.length ≤ fuel) :
    lossyChars fuel (characters.flatMap String.utf8EncodeChar) = characters := by
  induction characters generalizing fuel with
  | nil => cases fuel <;> rfl
  | cons character rest ih =>
    obtain ⟨fuel, rfl⟩ := Nat.exists_eq_add_of_le' (Nat.le_trans (Nat.succ_pos _) enough)
    rw [List.flatMap_cons, lossyChars_utf8EncodeChar, ih fuel (Nat.le_of_succ_le_succ enough)]

/-- No character takes less than a byte. -/
theorem length_le_flatMap (characters : List Char) :
    characters.length ≤ (characters.flatMap String.utf8EncodeChar).length := by
  induction characters with
  | nil => exact Nat.le_refl _
  | cons character rest ih =>
    have positive := character.utf8Size_pos
    rw [List.flatMap_cons, List.length_append, List.length_cons, String.length_utf8EncodeChar]
    omega

/-- **The bytes of a text have no malformed piece, so the text is read back.** -/
theorem ofUtf8Lossy_toUTF8 (text : String) : ofUtf8Lossy text.toUTF8.toList = text := by
  unfold ofUtf8Lossy
  rw [toList_toUTF8, lossyChars_flatMap _ _ (length_le_flatMap _), String.ofList_toList]

end ObjectLedger.Text
