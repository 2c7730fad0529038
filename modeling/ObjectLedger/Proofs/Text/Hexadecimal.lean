/-
**References are read back from their hexadecimal digits.**

* `readDigits_toDigits`: the digits of a number, read from the left, give the number.
* **`TransactionRef.parse_toText`**: a transaction reference is read back from its text, so different
  references have different texts.
* `ObjectRef.fileName_injective`: different objects have different file names.
-/
import Mathlib.Data.List.Basic
import Mathlib.Data.Nat.Basic
import ObjectLedger.Reference

namespace ObjectLedger

namespace Text

/-! ### Digits -/

theorem digitOfBase_digitChar : ∀ digit < 16, digitOfBase 16 digit.digitChar = some digit := by
  decide

theorem mem_toDigits {value : Nat} {character : Char} (member : character ∈ Nat.toDigits 16 value) :
    ∃ digit < 16, character = digit.digitChar := by
  induction value using Nat.strongRecOn with
  | ind value ih =>
    by_cases small : value < 16
    · rw [Nat.toDigits_of_lt_base small, List.mem_singleton] at member
      exact ⟨value, small, member⟩
    · rw [Nat.toDigits_of_base_le (by decide) (by omega)] at member
      rcases List.mem_append.mp member with member | member
      · exact ih (value / 16) (by omega) member
      · exact ⟨value % 16, by omega, List.mem_singleton.mp member⟩

theorem readDigits_append {base limit : Nat} {overflow : IntegerError} (value : Nat)
    (first second : List Char) :
    readDigits base limit overflow value (first ++ second) =
      (readDigits base limit overflow value first).bind fun value =>
        readDigits base limit overflow value second := by
  induction first generalizing value with
  | nil => rfl
  | cons character rest ih =>
    simp only [List.cons_append, readDigits]
    split
    · rfl
    · split
      · exact ih _
      · rfl

/-- One more digit. -/
theorem readDigits_digitChar {limit value digit : Nat} {overflow : IntegerError} (small : digit < 16)
    (bound : value * 16 + digit ≤ limit) :
    readDigits 16 limit overflow value [digit.digitChar] = .ok (value * 16 + digit) := by
  simp only [readDigits, digitOfBase_digitChar digit small]
  exact if_pos bound

theorem readDigits_toDigits {limit value : Nat} {overflow : IntegerError} (bound : value ≤ limit) :
    readDigits 16 limit overflow 0 (Nat.toDigits 16 value) = .ok value := by
  induction value using Nat.strongRecOn with
  | ind value ih =>
    by_cases small : value < 16
    · rw [Nat.toDigits_of_lt_base small, readDigits_digitChar small (by omega)]
      congr 1
      omega
    · rw [Nat.toDigits_of_base_le (by decide) (by omega), readDigits_append,
        ih (value / 16) (by omega) (by omega)]
      show readDigits 16 limit overflow (value / 16) [(value % 16).digitChar] = _
      rw [readDigits_digitChar (by omega) (by omega)]
      congr 1
      omega

/-- Leading zeros do not matter. -/
theorem readDigits_zeros {limit : Nat} {overflow : IntegerError} (count : Nat)
    (rest : List Char) :
    readDigits 16 limit overflow 0 (List.replicate count '0' ++ rest) =
      readDigits 16 limit overflow 0 rest := by
  induction count with
  | zero => rfl
  | succ count ih =>
    rw [List.replicate_succ, List.cons_append, ← ih, readDigits,
      show digitOfBase 16 '0' = some 0 from rfl]
    exact if_pos (Nat.zero_le _)

/-- A text that starts with a digit has no sign. -/
theorem readNatural_of_digit {limit digit : Nat} {text : String} {rest : List Char}
    (shape : text.toList = digit.digitChar :: rest) (small : digit < 16) :
    readNatural 16 limit text = readDigits 16 limit .tooLarge 0 (digit.digitChar :: rest) := by
  have unsigned : ∀ digit < 16, Nat.digitChar digit ≠ '+' := by decide
  unfold readNatural
  rw [shape]
  split
  · rename_i empty
    cases empty
  · rename_i sign
    exact absurd (List.cons.inj sign).1 (unsigned digit small)
  · rename_i sign
    exact absurd (List.cons.inj sign).1 (unsigned digit small)
  · rfl

/-- The digits of a padded number. -/
theorem toList_hexadecimalPadded (width value : Nat) :
    (hexadecimalPadded width value).toList =
      List.replicate (width - (Nat.toDigits 16 value).length) '0' ++ Nat.toDigits 16 value :=
  String.toList_ofList

theorem mem_hexadecimalPadded {width value : Nat} {character : Char}
    (member : character ∈ (hexadecimalPadded width value).toList) :
    ∃ digit < 16, character = digit.digitChar := by
  rw [toList_hexadecimalPadded] at member
  rcases List.mem_append.mp member with member | member
  · exact ⟨0, by decide, List.eq_of_mem_replicate member⟩
  · exact mem_toDigits member

theorem readUInt64_hexadecimalPadded (width : Nat) (value : UInt64) :
    readUInt64 16 (hexadecimalPadded width value.toNat) = .ok value := by
  have bound : value.toNat ≤ 0xFFFFFFFFFFFFFFFF := by
    have := value.toNat_lt
    omega
  have read : readDigits 16 0xFFFFFFFFFFFFFFFF .tooLarge 0
      (hexadecimalPadded width value.toNat).toList = .ok value.toNat := by
    rw [toList_hexadecimalPadded, readDigits_zeros, readDigits_toDigits bound]
  cases shape : (hexadecimalPadded width value.toNat).toList with
  | nil =>
    rw [toList_hexadecimalPadded] at shape
    exact absurd (List.append_eq_nil_iff.mp shape).2 Nat.toDigits_ne_nil
  | cons character rest =>
    obtain ⟨digit, small, rfl⟩ := mem_hexadecimalPadded
      (show character ∈ (hexadecimalPadded width value.toNat).toList by simp [shape])
    unfold readUInt64
    rw [readNatural_of_digit shape small, ← shape, read]
    simp [Except.map]

theorem hexadecimal_injective {first second : UInt64}
    (same : hexadecimal first.toNat = hexadecimal second.toNat) : first = second := by
  have padded (value : UInt64) : hexadecimalPadded 0 value.toNat = hexadecimal value.toNat := by
    simp [hexadecimalPadded, hexadecimal]
  have read := readUInt64_hexadecimalPadded 0 first
  rw [padded, same, ← padded, readUInt64_hexadecimalPadded] at read
  exact (Except.ok.inj read).symm

end Text

/-! ### References -/

theorem withoutHexMark_toText (reference : TransactionRef) :
    withoutHexMark reference.toText = reference.toText := by
  unfold withoutHexMark
  split
  · rename_i rest mark
    have member : 'x' ∈ reference.toText.toList := by simp [mark]
    obtain ⟨digit, small, same⟩ := Text.mem_hexadecimalPadded member
    have noDigit : ∀ digit < 16, 'x' ≠ Nat.digitChar digit := by decide
    exact absurd same (noDigit digit small)
  · rfl

/-- **A transaction reference is read back from its text.** -/
theorem TransactionRef.parse_toText (reference : TransactionRef) :
    parse reference.toText = .ok reference := by
  unfold parse
  simp only [withoutHexMark_toText]
  rw [show Text.readUInt64 16 reference.toText = .ok reference.value from
    Text.readUInt64_hexadecimalPadded 16 reference.value]

theorem TransactionRef.toText_injective : Function.Injective TransactionRef.toText := by
  intro first second same
  have read := first.parse_toText
  rw [same, second.parse_toText] at read
  exact (Except.ok.inj read).symm

theorem ObjectRef.fileName_injective : Function.Injective ObjectRef.fileName := by
  rintro ⟨first, one⟩ ⟨second, other⟩ same
  have noDigit : ∀ digit < 16, '_' ≠ Nat.digitChar digit := by decide
  have freeBefore : '_' ∉ first.toText.toList := by
    intro member
    obtain ⟨digit, small, same⟩ := Text.mem_hexadecimalPadded member
    exact noDigit digit small same
  have freeAfter : '_' ∉ (Text.hexadecimal one.toNat).toList := by
    intro member
    rw [Text.hexadecimal, String.toList_ofList] at member
    obtain ⟨digit, small, same⟩ := Text.mem_toDigits member
    exact noDigit digit small same
  have split := congrArg String.toList same
  have mark : "_".toList = ['_'] := rfl
  simp only [fileName, String.toList_append, List.append_assoc, mark, List.singleton_append]
    at split
  rw [List.append_cons_inj_of_notMem freeBefore freeAfter] at split
  obtain ⟨transactions, -, positions⟩ := split
  rw [TransactionRef.toText_injective (String.toList_injective transactions),
    Text.hexadecimal_injective (String.toList_injective positions)]

end ObjectLedger
