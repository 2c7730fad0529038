/-
**What is read is what would be written.**

* `Codec.Canonical`: whatever the reader of a codec accepts is what its writer writes for the value,
  and what followed it; no text or sequence in the value is too long.
* One lemma for each combinator: `fixed_canonical`, `string_canonical`, `list_canonical`,
  `option_canonical`, `pair_canonical`, `imap_canonical`, `union_canonical`.
* `Codec.Splits`: every value is covered by exactly one alternative of a union.
* `Codec.Exact`: a record has one representation. **`Codec.exact_of_canonical`**: so it is with a
  codec that round-trips and is canonical.
-/
import ObjectLedger.Proofs.Codec.RoundTrip
import ObjectLedger.Proofs.Except

namespace ObjectLedger.Codec

/-- Whatever the reader accepts is what the writer writes for the value, and what followed it. -/
def Canonical {α : Type} (codec : Codec α) : Prop :=
  ∀ bytes value rest, codec.decode bytes = .ok (value, rest) →
    bytes = codec.encode value ++ rest ∧ codec.oversize? value = none

/-! ### Words -/

theorem readWord_eq_ok {width value : Nat} {bytes rest : List UInt8}
    (read : readWord width bytes = .ok (value, rest)) :
    value < 256 ^ width ∧ bytes = wordBytes width value ++ rest := by
  induction width generalizing bytes value with
  | zero =>
    cases read
    exact ⟨Nat.one_pos, rfl⟩
  | succ width ih =>
    cases bytes with
    | nil => cases read
    | cons byte bytes =>
      obtain ⟨⟨high, later⟩, inner, same⟩ := bind_eq_ok.mp read
      cases same
      obtain ⟨bound, rfl⟩ := ih inner
      have small := byte.toNat_lt
      have digit : UInt8.ofNat (byte.toNat + 256 * high) = byte := by
        apply UInt8.toNat_inj.mp
        rw [UInt8.toNat_ofNat']
        omega
      have others : (byte.toNat + 256 * high) / 256 = high := by omega
      refine ⟨?_, ?_⟩
      · rw [Nat.pow_succ']
        omega
      · rw [wordBytes, digit, others, List.cons_append]

theorem fixed_canonical {α : Type} {width : Nat} {toNat : α → Nat} {ofNat : Nat → α}
    (inverse : ∀ number, number < 256 ^ width → toNat (ofNat number) = number) :
    (fixed width toNat ofNat).Canonical := by
  intro bytes value rest read
  obtain ⟨⟨number, later⟩, inner, same⟩ := bind_eq_ok.mp read
  cases same
  obtain ⟨bound, written⟩ := readWord_eq_ok inner
  refine ⟨?_, rfl⟩
  show bytes = wordBytes width (toNat (ofNat number)) ++ rest
  rw [inverse number bound, written]

theorem byte_canonical : byte.Canonical :=
  fixed_canonical fun _ small => UInt8.toNat_ofNat_of_lt' small

theorem word16_canonical : word16.Canonical :=
  fixed_canonical fun _ small => UInt16.toNat_ofNat_of_lt' small

theorem word32_canonical : word32.Canonical :=
  fixed_canonical fun _ small => UInt32.toNat_ofNat_of_lt' small

theorem word64_canonical : word64.Canonical :=
  fixed_canonical fun _ small => UInt64.toNat_ofNat_of_lt' small

theorem int64_canonical : int64.Canonical :=
  fixed_canonical fun number small => by
    rw [UInt64.toUInt64_toInt64, UInt64.toNat_ofNat_of_lt' small]

theorem amount_canonical : amount.Canonical :=
  fixed_canonical fun _ small => by
    exact (BitVec.toNat_ofNat ..).trans (Nat.mod_eq_of_lt small)

theorem boolean_canonical : boolean.Canonical := by
  intro bytes value rest read
  unfold boolean at read
  simp only [] at read
  split at read
  · cases read
  · cases read
    exact ⟨rfl, rfl⟩
  · cases read
    exact ⟨rfl, rfl⟩
  · cases read

/-! ### Lengths -/

/-- Digits that are read have no superfluous zero: a number after other digits is not zero. -/
theorem readDigits_eq_ok {count value : Nat} {seen : Bool} {bytes rest : List UInt8}
    (read : readDigits count seen bytes = .ok (value, rest)) :
    bytes = digitBytes value ++ rest ∧ (seen = true → value ≠ 0) := by
  induction count generalizing seen bytes value with
  | zero => cases read
  | succ count ih =>
    cases bytes with
    | nil => cases read
    | cons byte bytes =>
      rw [readDigits] at read
      split at read
      · rename_i low
        have small : byte.toNat < 128 := UInt8.lt_iff_toNat_lt.mp low
        split at read
        · cases read
        · rename_i needed
          cases read
          refine ⟨?_, ?_⟩
          · rw [digitBytes, if_pos small, UInt8.ofNat_toNat]
            rfl
          · rintro rfl zero
            exact needed (by
              have : byte = 0 := UInt8.toNat_inj.mp zero
              simp [this])
      · rename_i high
        have large : 128 ≤ byte.toNat :=
          Nat.not_lt.mp fun less => high (UInt8.lt_iff_toNat_lt.mpr less)
        have bound := byte.toNat_lt
        obtain ⟨⟨others, later⟩, inner, same⟩ := bind_eq_ok.mp read
        cases same
        obtain ⟨rfl, nonzero⟩ := ih inner
        have positive := nonzero rfl
        have digit : UInt8.ofNat ((byte.toNat - 128 + 128 * others) % 128 + 128) = byte := by
          apply UInt8.toNat_inj.mp
          rw [UInt8.toNat_ofNat']
          omega
        have quotient : (byte.toNat - 128 + 128 * others) / 128 = others := by omega
        refine ⟨?_, fun _ => by omega⟩
        show _ = digitBytes (byte.toNat - 128 + 128 * others) ++ rest
        rw [digitBytes.eq_def (byte.toNat - 128 + 128 * others), if_neg (by omega), digit, quotient,
          List.cons_append]

theorem readNumber_eq_ok {value : Nat} {bytes rest : List UInt8}
    (read : readNumber bytes = .ok (value, rest)) : bytes = digitBytes value ++ rest := by
  obtain ⟨⟨number, later⟩, inner, same⟩ := bind_eq_ok.mp read
  simp only [] at same
  split at same
  · cases same
    exact (readDigits_eq_ok inner).1
  · cases same

theorem readLength_eq_ok {length : Nat} {bytes rest : List UInt8}
    (read : readLength bytes = .ok (length, rest)) :
    bytes = digitBytes length ++ rest ∧ beyondMaximum? length = none := by
  obtain ⟨⟨number, later⟩, inner, same⟩ := bind_eq_ok.mp read
  simp only [] at same
  split at same
  · rename_i short
    cases same
    exact ⟨readNumber_eq_ok inner, if_pos short⟩
  · cases same

/-! ### Texts and sequences -/

theorem toUTF8_of_fromUTF8? {bytes : ByteArray} {text : String}
    (read : String.fromUTF8? bytes = some text) : text.toUTF8 = bytes := by
  unfold String.fromUTF8? at read
  split at read
  · cases read
    rfl
  · cases read

theorem toList_mk (bytes : List UInt8) : (ByteArray.mk bytes.toArray).toList = bytes := by
  rw [ByteArray.toList, toList_loop]
  rfl

theorem string_canonical : string.Canonical := by
  intro bytes text rest read
  obtain ⟨⟨length, later⟩, inner, same⟩ := bind_eq_ok.mp read
  obtain ⟨rfl, short⟩ := readLength_eq_ok inner
  simp only [] at same
  split at same
  · cases same
  · rename_i enough
    split at same
    · rename_i decoded
      cases same
      have content : text.toUTF8.toList = later.take length := by
        rw [toUTF8_of_fromUTF8? decoded, toList_mk]
      have size : text.toUTF8.toList.length = length := by
        rw [content, List.length_take]
        omega
      refine ⟨?_, ?_⟩
      · show _ = (digitBytes text.toUTF8.toList.length ++ text.toUTF8.toList) ++ _
        rw [size, content, List.append_assoc, List.take_append_drop]
      · show beyondMaximum? text.toUTF8.toList.length = none
        rw [size]
        exact short
    · cases same

theorem readMany_eq_ok {α : Type} {item : Codec α} (canonical : item.Canonical) {count : Nat}
    {values : List α} {bytes rest : List UInt8}
    (read : readMany item.decode count bytes = .ok (values, rest)) :
    values.length = count ∧ bytes = values.flatMap item.encode ++ rest ∧
      values.findSome? item.oversize? = none := by
  induction count generalizing bytes values with
  | zero =>
    cases read
    exact ⟨rfl, rfl, rfl⟩
  | succ count ih =>
    obtain ⟨⟨first, between⟩, head, same⟩ := bind_eq_ok.mp read
    obtain ⟨⟨others, later⟩, tail, same⟩ := bind_eq_ok.mp same
    cases same
    obtain ⟨rfl, fits⟩ := canonical _ _ _ head
    obtain ⟨rfl, rfl, all⟩ := ih tail
    refine ⟨rfl, ?_, ?_⟩
    · rw [List.flatMap_cons, List.append_assoc]
    · rw [List.findSome?_cons, fits, all]

theorem list_canonical {α : Type} {item : Codec α} (canonical : item.Canonical) :
    (list item).Canonical := by
  intro bytes values rest read
  obtain ⟨⟨length, later⟩, inner, same⟩ := bind_eq_ok.mp read
  obtain ⟨rfl, short⟩ := readLength_eq_ok inner
  obtain ⟨rfl, rfl, each⟩ := readMany_eq_ok canonical same
  exact ⟨(List.append_assoc ..).symm, orElse_eq_none.mpr ⟨short, each⟩⟩

theorem bytes_canonical : bytes.Canonical :=
  list_canonical byte_canonical

theorem option_canonical {α : Type} {item : Codec α} (canonical : item.Canonical) :
    (option item).Canonical := by
  intro bytes value rest read
  unfold option at read
  simp only [] at read
  split at read
  · cases read
  · cases read
    exact ⟨rfl, rfl⟩
  · obtain ⟨⟨content, later⟩, inner, same⟩ := bind_eq_ok.mp read
    cases same
    obtain ⟨rfl, fits⟩ := canonical _ _ _ inner
    exact ⟨rfl, fits⟩
  · cases read

/-! ### Records and unions -/

theorem pair_canonical {α β : Type} {first : Codec α} {second : Codec β}
    (left : first.Canonical) (right : second.Canonical) : (pair first second).Canonical := by
  intro bytes value rest read
  obtain ⟨⟨one, between⟩, head, same⟩ := bind_eq_ok.mp read
  obtain ⟨⟨other, later⟩, tail, same⟩ := bind_eq_ok.mp same
  cases same
  obtain ⟨rfl, fitsLeft⟩ := left _ _ _ head
  obtain ⟨rfl, fitsRight⟩ := right _ _ _ tail
  exact ⟨(List.append_assoc ..).symm, orElse_eq_none.mpr ⟨fitsLeft, fitsRight⟩⟩

theorem imap_canonical {α β : Type} {content : Codec α} {build : α → β} {parts : β → α}
    (canonical : content.Canonical) (inverse : ∀ value, parts (build value) = value) :
    (imap content build parts).Canonical := by
  intro bytes value rest read
  obtain ⟨⟨inside, later⟩, inner, same⟩ := bind_eq_ok.mp read
  cases same
  obtain ⟨written, fits⟩ := canonical _ _ _ inner
  refine ⟨?_, ?_⟩
  · show bytes = content.encode (parts (build inside)) ++ rest
    rw [inverse, written]
  · show content.oversize? (parts (build inside)) = none
    rw [inverse, fits]

theorem unit_canonical : unit.Canonical := by
  intro bytes value rest read
  cases read
  exact ⟨rfl, rfl⟩

/-- The content of an alternative is canonical, and found again in the value that it makes up. -/
structure Alternative.Canonical {α : Type} (alternative : Alternative α) : Prop where
  content : alternative.codec.Canonical
  content?_eq : ∀ content, alternative.content? (alternative.build content) = some content

/-- Every value is covered by exactly one of the alternatives. -/
def Splits {α : Type} (alternatives : List (Alternative α)) : Prop :=
  ∀ value, alternatives.countP (fun alternative => (alternative.content? value).isSome) = 1

/-- Where one alternative covers a value and no other one does, it is the one that is written. -/
theorem encodeFirst_of_countP {α : Type} {value : α} {alternatives : List (Alternative α)}
    (single : alternatives.countP (fun alternative => (alternative.content? value).isSome) = 1)
    {place : Nat} {alternative : Alternative α} {content : alternative.Content}
    (found : alternatives[place]? = some alternative)
    (covers : alternative.content? value = some content) (index : Nat) :
    encodeFirst value index alternatives =
        digitBytes (index + place) ++ alternative.codec.encode content ∧
      oversizeFirst? value alternatives = alternative.codec.oversize? content := by
  induction alternatives generalizing index place with
  | nil => cases found
  | cons first rest ih =>
    cases place with
    | zero =>
      cases found
      rw [encodeFirst, oversizeFirst?, covers]
      exact ⟨rfl, rfl⟩
    | succ place =>
      have later : 0 < rest.countP fun alternative => (alternative.content? value).isSome :=
        List.countP_pos_iff.mpr ⟨alternative, List.mem_of_getElem? found, by rw [covers]; rfl⟩
      rw [List.countP_cons] at single
      have missed : first.content? value = none := by
        by_contra covered
        rw [if_pos (Option.isSome_iff_ne_none.mpr covered)] at single
        omega
      rw [missed] at single
      obtain ⟨written, size⟩ := ih single found (index + 1)
      rw [encodeFirst, oversizeFirst?, missed]
      exact ⟨by rw [written, Nat.add_assoc, Nat.add_comm 1], size⟩

theorem union_canonical {α : Type} {alternatives : List (Alternative α)}
    (each : ∀ alternative ∈ alternatives, alternative.Canonical) (splits : Splits alternatives) :
    (union alternatives).Canonical := by
  intro bytes value rest read
  obtain ⟨⟨place, later⟩, inner, same⟩ := bind_eq_ok.mp read
  obtain rfl := readNumber_eq_ok inner
  simp only [] at same
  split at same
  · cases same
  · rename_i alternative found
    obtain ⟨⟨content, last⟩, inside, same⟩ := bind_eq_ok.mp same
    cases same
    obtain ⟨canonical, covers⟩ := each alternative (List.mem_of_getElem? found)
    obtain ⟨rfl, fits⟩ := canonical _ _ _ inside
    obtain ⟨written, size⟩ := encodeFirst_of_countP (splits _) found (covers content) 0
    refine ⟨?_, size.trans fits⟩
    show _ = encodeFirst (alternative.build content) 0 alternatives ++ _
    rw [written, Nat.zero_add, List.append_assoc]

/-- There is an alternative for every value. -/
theorem Splits.covers {α : Type} {alternatives : List (Alternative α)}
    (splits : Splits alternatives) (value : α) :
    ∃ alternative ∈ alternatives, (alternative.content? value).isSome :=
  List.countP_pos_iff.mp (splits value ▸ Nat.one_pos)

theorem case_canonical {α β : Type} {codec : Codec β} {build : β → α} {content? : α → Option β}
    (canonical : codec.Canonical)
    (content?_eq : ∀ content, content? (build content) = some content) :
    (case codec build content?).Canonical :=
  ⟨canonical, content?_eq⟩

theorem constant_canonical {α : Type} [DecidableEq α] (value : α) :
    (constant value).Canonical where
  content := unit_canonical
  content?_eq _ := if_pos rfl

/-! ### Whole records -/

/-- A record has one representation: what can be written is read back, and whatever is read is what
is written for the value. -/
structure Exact {α : Type} (codec : Codec α) : Prop where
  decode_encode (context : String) (value : α) (fits : codec.oversize? value = none) :
    codec.decodeRecord context (codec.encode value) = .ok value
  encode_decode (context : String) (bytes : List UInt8) (value : α)
    (read : codec.decodeRecord context bytes = .ok value) : codec.encodeRecord value = .ok bytes

/-- **A codec that round-trips and is canonical has one representation of each record.** -/
theorem exact_of_canonical {α : Type} {codec : Codec α} (roundTrips : codec.RoundTrips)
    (canonical : codec.Canonical) : codec.Exact where
  decode_encode context value fits := by
    rw [decodeRecord, decodeAll_encode roundTrips fits]
    rfl
  encode_decode context bytes value read := by
    unfold decodeRecord decodeAll at read
    cases decoded : codec.decode bytes with
    | error cause =>
      rw [decoded] at read
      cases read
    | ok result =>
      obtain ⟨found, rest⟩ := result
      obtain ⟨written, fits⟩ := canonical bytes found rest decoded
      rw [decoded] at read
      cases rest with
      | nil =>
        cases read
        rw [encodeRecord, fits, written, List.append_nil]
      | cons byte rest => cases read

end ObjectLedger.Codec
