/-
**What is written can be read back.**

* `Codec.RoundTrips`: the reader of a codec gives back what its writer wrote, and what followed it,
  for every value in which no text or sequence is too long.
* One lemma for each combinator: `fixed_roundTrips`, `string_roundTrips`, `list_roundTrips`,
  `option_roundTrips`, `pair_roundTrips`, `imap_roundTrips`, `union_roundTrips`.
* **`Codec.decodeRecord_encodeRecord`**: a record that could be written is read back.
-/
import Mathlib.Data.Nat.Basic
import Mathlib.Tactic.Ring
import ObjectLedger.Codec.Code

namespace ObjectLedger.Codec

/-- The reader gives back what the writer wrote, and what followed it. -/
def RoundTrips {α : Type} (codec : Codec α) : Prop :=
  ∀ value rest, codec.oversize? value = none →
    codec.decode (codec.encode value ++ rest) = .ok (value, rest)

/-! ### Words -/

theorem readWord_wordBytes (width value : Nat) (rest : List UInt8) :
    readWord width (wordBytes width value ++ rest) = .ok (value % 256 ^ width, rest) := by
  induction width generalizing value with
  | zero => simp [readWord, wordBytes, Nat.mod_one]
  | succ width ih =>
    have digits : value % 256 ^ (width + 1) = value % 256 + 256 * (value / 256 % 256 ^ width) := by
      rw [Nat.pow_succ', Nat.mod_mul]
    simp only [wordBytes, List.cons_append, readWord, ih, digits]
    simp [bind, Except.bind, pure, Except.pure]

theorem fixed_roundTrips {α : Type} {width : Nat} {toNat : α → Nat} {ofNat : Nat → α}
    (bound : ∀ value, toNat value < 256 ^ width) (inverse : ∀ value, ofNat (toNat value) = value) :
    (fixed width toNat ofNat).RoundTrips := by
  intro value rest _
  show readWord width (wordBytes width (toNat value) ++ rest) >>= _ = _
  rw [readWord_wordBytes, Nat.mod_eq_of_lt (bound value)]
  simp [bind, Except.bind, pure, Except.pure, inverse]

theorem byte_roundTrips : byte.RoundTrips :=
  fixed_roundTrips (fun value => value.toNat_lt) fun value => by simp

theorem word16_roundTrips : word16.RoundTrips :=
  fixed_roundTrips (fun value => value.toNat_lt) fun value => by simp

theorem word32_roundTrips : word32.RoundTrips :=
  fixed_roundTrips (fun value => value.toNat_lt) fun value => by simp

theorem word64_roundTrips : word64.RoundTrips :=
  fixed_roundTrips (fun value => value.toNat_lt) fun value => by simp

theorem int64_roundTrips : int64.RoundTrips :=
  fixed_roundTrips (fun value => value.toUInt64.toNat_lt) fun value => by simp

theorem amount_roundTrips : amount.RoundTrips :=
  fixed_roundTrips (fun value => value.isLt) fun value => by simp

theorem boolean_roundTrips : boolean.RoundTrips := by
  intro value rest _
  cases value <;> rfl

/-! ### Lengths -/

theorem toNat_ofNat_byte {value : Nat} (small : value < 256) :
    (UInt8.ofNat value).toNat = value :=
  UInt8.toNat_ofNat_of_lt' small

/-- A number below 128 is its own last digit, which is zero only if no other digit came before. -/
theorem readDigits_last (count : Nat) {value : Nat} {seen : Bool} (rest : List UInt8)
    (small : value < 128) (minimal : seen = true → value ≠ 0) :
    readDigits (count + 1) seen (UInt8.ofNat value :: rest) = .ok (value, rest) := by
  have exact : (UInt8.ofNat value).toNat = value := toNat_ofNat_byte (by omega)
  have low : UInt8.ofNat value < 128 := by
    rw [UInt8.lt_iff_toNat_lt, exact]
    exact small
  have needed : (seen && UInt8.ofNat value == 0) = false := by
    cases seen with
    | false => rfl
    | true =>
      rw [Bool.true_and, beq_eq_false_iff_ne]
      intro zero
      exact minimal rfl (by rw [← exact, zero]; rfl)
  rw [readDigits, if_pos low, needed, exact]
  rfl

/-- Digits are read back if there is room for them and no other digit came before a lone zero. -/
theorem readDigits_digitBytes (count value : Nat) (seen : Bool) (rest : List UInt8)
    (room : value < 128 ^ (count + 1)) (minimal : seen = true → value ≠ 0) :
    readDigits (count + 1) seen (digitBytes value ++ rest) = .ok (value, rest) := by
  induction count generalizing value seen with
  | zero =>
    have small : value < 128 := by simpa using room
    rw [digitBytes, if_pos small]
    exact readDigits_last 0 rest small minimal
  | succ count ih =>
    rw [digitBytes]
    split
    · rename_i small
      exact readDigits_last _ rest small minimal
    · rename_i large
      have exact : (UInt8.ofNat (value % 128 + 128)).toNat = value % 128 + 128 :=
        toNat_ofNat_byte (by omega)
      have high : ¬ UInt8.ofNat (value % 128 + 128) < 128 := by
        rw [UInt8.lt_iff_toNat_lt, exact]
        show ¬ value % 128 + 128 < 128
        omega
      have tail := ih (value / 128) true
        (Nat.div_lt_of_lt_mul (by rw [← Nat.pow_succ']; exact room)) fun _ => by omega
      rw [List.cons_append, readDigits, if_neg high, tail]
      show Except.ok ((UInt8.ofNat (value % 128 + 128)).toNat - 128 + 128 * (value / 128), rest)
        = _
      rw [exact, Nat.add_sub_cancel, Nat.mod_add_div]

theorem readNumber_digitBytes {value : Nat} (rest : List UInt8) (fits : value < 2 ^ 32) :
    readNumber (digitBytes value ++ rest) = .ok (value, rest) := by
  have room : value < 128 ^ 5 := by omega
  unfold readNumber
  rw [readDigits_digitBytes 4 value false rest room nofun]
  exact if_pos fits

theorem readLength_digitBytes {length : Nat} (rest : List UInt8)
    (fits : beyondMaximum? length = none) :
    readLength (digitBytes length ++ rest) = .ok (length, rest) := by
  have bound : length ≤ maxLength := by
    unfold beyondMaximum? at fits
    split at fits
    · assumption
    · cases fits
  unfold readLength
  rw [readNumber_digitBytes rest (by unfold maxLength at bound; omega)]
  exact if_pos bound

/-! ### Texts and sequences -/

theorem toList_loop (bytes : ByteArray) (start : Nat) (seen : List UInt8) :
    ByteArray.toList.loop bytes start seen = seen.reverse ++ bytes.data.toList.drop start := by
  fun_induction ByteArray.toList.loop bytes start seen with
  | case1 start seen inside ih =>
    have bound : start < bytes.data.toList.length := by simpa using inside
    have item : bytes.get! start = bytes.data.toList[start] := by
      show bytes.data[start]! = _
      rw [getElem!_pos bytes.data start (by simpa using bound), Array.getElem_toList]
    rw [ih, List.drop_eq_getElem_cons bound, item]
    simp
  | case2 start seen outside =>
    rw [List.drop_eq_nil_of_le (by simpa using Nat.le_of_not_lt outside), List.append_nil]

theorem mk_toArray_toList (bytes : ByteArray) : ByteArray.mk bytes.toList.toArray = bytes := by
  rw [ByteArray.toList, toList_loop]
  rfl

theorem fromUTF8?_toUTF8 (text : String) : String.fromUTF8? text.toUTF8 = some text := by
  unfold String.fromUTF8?
  rw [dif_pos (show text.toUTF8.IsValidUTF8 from text.isValidUTF8)]
  rfl

theorem string_roundTrips : string.RoundTrips := by
  intro text rest fits
  simp only [string, List.append_assoc] at fits ⊢
  rw [readLength_digitBytes _ fits]
  simp only [bind, Except.bind]
  rw [if_neg (by simp), List.take_left, List.drop_left, mk_toArray_toList, fromUTF8?_toUTF8]

theorem readMany_flatMap {α : Type} {item : Codec α} (roundTrips : item.RoundTrips)
    (values : List α) (rest : List UInt8) (fits : values.findSome? item.oversize? = none) :
    readMany item.decode values.length (values.flatMap item.encode ++ rest) =
      .ok (values, rest) := by
  induction values with
  | nil => rfl
  | cons value others ih =>
    rw [List.findSome?_eq_none_iff] at fits
    have head := roundTrips value (others.flatMap item.encode ++ rest)
      (fits value List.mem_cons_self)
    have tail := ih (List.findSome?_eq_none_iff.mpr fun other member =>
      fits other (List.mem_cons_of_mem _ member))
    rw [List.flatMap_cons, List.append_assoc, List.length_cons, readMany, head]
    simp only [bind, Except.bind]
    rw [tail]
    rfl

theorem orElse_eq_none {α : Type} {first second : Option α} :
    (first <|> second) = none ↔ first = none ∧ second = none := by
  cases first <;> simp

theorem list_roundTrips {α : Type} {item : Codec α} (roundTrips : item.RoundTrips) :
    (list item).RoundTrips := by
  intro values rest fits
  obtain ⟨short, each⟩ := orElse_eq_none.mp fits
  simp only [list, List.append_assoc]
  rw [readLength_digitBytes _ short]
  exact readMany_flatMap roundTrips values rest each

theorem bytes_roundTrips : bytes.RoundTrips :=
  list_roundTrips byte_roundTrips

theorem option_roundTrips {α : Type} {item : Codec α} (roundTrips : item.RoundTrips) :
    (option item).RoundTrips := by
  intro value rest fits
  cases value with
  | none => rfl
  | some value =>
    have content := roundTrips value rest fits
    show item.decode (item.encode value ++ rest) >>= _ = _
    rw [content]
    rfl

/-! ### Records and unions -/

theorem unit_roundTrips : unit.RoundTrips := fun _ _ _ => rfl

theorem pair_roundTrips {α β : Type} {first : Codec α} {second : Codec β}
    (left : first.RoundTrips) (right : second.RoundTrips) : (pair first second).RoundTrips := by
  rintro ⟨one, other⟩ rest fits
  obtain ⟨fitsLeft, fitsRight⟩ := orElse_eq_none.mp fits
  simp only [pair, List.append_assoc]
  rw [left one _ fitsLeft]
  simp only [bind, Except.bind]
  rw [right other rest fitsRight]
  rfl

theorem imap_roundTrips {α β : Type} {content : Codec α} {build : α → β} {parts : β → α}
    (roundTrips : content.RoundTrips) (inverse : ∀ value, build (parts value) = value) :
    (imap content build parts).RoundTrips := by
  intro value rest fits
  simp only [imap]
  rw [roundTrips (parts value) rest fits]
  show Except.ok (build (parts value), rest) = _
  rw [inverse]

/-- The content of an alternative is read back, and makes up the value that it was taken from. -/
structure Alternative.RoundTrips {α : Type} (alternative : Alternative α) : Prop where
  content : alternative.codec.RoundTrips
  build_eq : ∀ value content, alternative.content? value = some content →
    alternative.build content = value

theorem case_roundTrips {α β : Type} {codec : Codec β} {build : β → α} {content? : α → Option β}
    (roundTrips : codec.RoundTrips)
    (build_eq : ∀ value content, content? value = some content → build content = value) :
    (case codec build content?).RoundTrips :=
  ⟨roundTrips, build_eq⟩

theorem constant_roundTrips {α : Type} [DecidableEq α] (value : α) :
    (constant value).RoundTrips where
  content := unit_roundTrips
  build_eq candidate content found := by
    change (if candidate = value then some () else none) = some content at found
    split at found
    · rename_i same
      exact same.symm
    · cases found

/-- What is written for a union is the number of an alternative that covers the value. -/
theorem encodeFirst_eq {α : Type} (value : α) (index : Nat) (alternatives : List (Alternative α))
    (covered : ∃ alternative ∈ alternatives, (alternative.content? value).isSome) :
    ∃ place alternative content, alternatives[place]? = some alternative ∧
      alternative.content? value = some content ∧
      encodeFirst value index alternatives =
        digitBytes (index + place) ++ alternative.codec.encode content ∧
      oversizeFirst? value alternatives = alternative.codec.oversize? content := by
  induction alternatives generalizing index with
  | nil =>
    obtain ⟨_, member, _⟩ := covered
    cases member
  | cons first rest ih =>
    cases found : first.content? value with
    | some content =>
      refine ⟨0, first, content, rfl, found, ?_, ?_⟩
      · rw [encodeFirst, found]
        rfl
      · rw [oversizeFirst?, found]
    | none =>
      obtain ⟨other, member, covers⟩ := covered
      have later : other ∈ rest := by
        rcases List.mem_cons.mp member with rfl | later
        · rw [found] at covers
          cases covers
        · exact later
      obtain ⟨place, alternative, content, at_, holds, written, size⟩ :=
        ih (index + 1) ⟨other, later, covers⟩
      refine ⟨place + 1, alternative, content, at_, holds, ?_, ?_⟩
      · rw [encodeFirst, found, written, Nat.add_assoc, Nat.add_comm 1]
      · rw [oversizeFirst?, found, size]

theorem union_roundTrips {α : Type} {alternatives : List (Alternative α)}
    (each : ∀ alternative ∈ alternatives, alternative.RoundTrips)
    (covers : ∀ value, ∃ alternative ∈ alternatives, (alternative.content? value).isSome)
    (few : alternatives.length < 2 ^ 32) : (union alternatives).RoundTrips := by
  intro value rest fits
  obtain ⟨place, alternative, content, at_, holds, written, size⟩ :=
    encodeFirst_eq value 0 alternatives (covers value)
  obtain ⟨roundTrips, build_eq⟩ := each alternative (List.mem_of_getElem? at_)
  obtain ⟨inside, _⟩ := List.getElem?_eq_some_iff.mp at_
  have read := roundTrips content rest (size.symm.trans fits)
  simp only [union, written, Nat.zero_add, List.append_assoc]
  rw [readNumber_digitBytes _ (by omega)]
  simp only [bind, Except.bind, at_]
  rw [read]
  show Except.ok (alternative.build content, rest) = _
  rw [build_eq value content holds]

/-! ### Whole records -/

theorem decodeAll_encode {α : Type} {codec : Codec α} (roundTrips : codec.RoundTrips) {value : α}
    (fits : codec.oversize? value = none) : codec.decodeAll (codec.encode value) = .ok value := by
  have read := roundTrips value [] fits
  rw [List.append_nil] at read
  unfold decodeAll
  rw [read]
  rfl

/-- **A record that could be written is read back.** -/
theorem decodeRecord_encodeRecord {α : Type} {codec : Codec α} (roundTrips : codec.RoundTrips)
    {value : α} {written : List UInt8} (context : String)
    (encoded : codec.encodeRecord value = .ok written) :
    codec.decodeRecord context written = .ok value := by
  unfold encodeRecord at encoded
  split at encoded
  · rename_i fits
    cases encoded
    rw [decodeRecord, decodeAll_encode roundTrips fits]
    rfl
  · cases encoded

end ObjectLedger.Codec
