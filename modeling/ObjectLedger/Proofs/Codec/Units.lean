/-
**Records and code units have one representation.**

One lemma for each codec of the ledger, in the order in which they are put together: the records
that are kept, and the code units in jars, which are also read back.

* **`Codec.exact_records`**: code units, requests, responses and histories have one representation.
-/
import ObjectLedger.Proofs.Codec.Canonical
import ObjectLedger.Proofs.Codec.Records

namespace ObjectLedger.Codec

/-! ### References -/

theorem transactionRef_canonical : transactionRef.Canonical :=
  imap_canonical word64_canonical fun _ => rfl

theorem objectRef_canonical : objectRef.Canonical :=
  imap_canonical (pair_canonical transactionRef_canonical word64_canonical) fun _ => rfl

theorem classpath_canonical : classpath.Canonical :=
  imap_canonical (pair_canonical transactionRef_canonical boolean_canonical) fun _ => rfl

theorem history_canonical : history.Canonical :=
  list_canonical transactionRef_canonical

/-! ### Values and signatures -/

theorem valueType_canonical : valueType.Canonical := by
  refine union_canonical ?_ ?_
  · simp only [List.forall_mem_cons]
    exact ⟨constant_canonical _, constant_canonical _, constant_canonical _, constant_canonical _,
      case_canonical string_canonical fun _ => rfl, nofun⟩
  · rintro ⟨⟩ <;> rfl

theorem value_canonical : value.Canonical := by
  refine union_canonical ?_ ?_
  · simp only [List.forall_mem_cons]
    exact ⟨constant_canonical _, case_canonical boolean_canonical fun _ => rfl,
      case_canonical int64_canonical fun _ => rfl, case_canonical amount_canonical fun _ => rfl,
      case_canonical string_canonical fun _ => rfl, case_canonical objectRef_canonical fun _ => rfl,
      nofun⟩
  · rintro ⟨⟩ <;> rfl

theorem fieldSignature_canonical : fieldSignature.Canonical :=
  imap_canonical
    (pair_canonical string_canonical (pair_canonical string_canonical valueType_canonical))
    fun _ => rfl

theorem constructorSignature_canonical : constructorSignature.Canonical :=
  imap_canonical (pair_canonical string_canonical (list_canonical valueType_canonical))
    fun _ => rfl

theorem methodSignature_canonical : methodSignature.Canonical :=
  imap_canonical
    (pair_canonical string_canonical (pair_canonical string_canonical
      (pair_canonical (list_canonical valueType_canonical)
        (option_canonical valueType_canonical))))
    fun _ => rfl

/-! ### Updates -/

theorem update_canonical : update.Canonical := by
  refine union_canonical ?_ ?_
  · simp only [List.forall_mem_cons]
    exact ⟨case_canonical (pair_canonical objectRef_canonical
        (pair_canonical string_canonical transactionRef_canonical)) fun _ => rfl,
      case_canonical (pair_canonical objectRef_canonical
        (pair_canonical fieldSignature_canonical value_canonical)) fun _ => rfl, nofun⟩
  · rintro ⟨⟩ <;> rfl

/-! ### Requests -/

theorem header_canonical : header.Canonical :=
  imap_canonical
    (pair_canonical objectRef_canonical (pair_canonical amount_canonical
      (pair_canonical string_canonical (pair_canonical word64_canonical
        (pair_canonical word64_canonical
          (pair_canonical classpath_canonical bytes_canonical))))))
    fun _ => rfl

theorem request_canonical : request.Canonical := by
  have classpaths := list_canonical classpath_canonical
  have values := list_canonical value_canonical
  refine union_canonical ?_ ?_
  · simp only [List.forall_mem_cons]
    exact ⟨case_canonical (pair_canonical bytes_canonical classpaths) fun _ => rfl,
      case_canonical (pair_canonical classpath_canonical
        (pair_canonical amount_canonical string_canonical)) fun _ => rfl,
      case_canonical (pair_canonical classpath_canonical objectRef_canonical) fun _ => rfl,
      case_canonical (pair_canonical header_canonical
        (pair_canonical bytes_canonical classpaths)) fun _ => rfl,
      case_canonical (pair_canonical header_canonical
        (pair_canonical constructorSignature_canonical values)) fun _ => rfl,
      case_canonical (pair_canonical header_canonical
        (pair_canonical methodSignature_canonical
          (pair_canonical objectRef_canonical values))) fun _ => rfl,
      case_canonical (pair_canonical header_canonical
        (pair_canonical methodSignature_canonical values)) fun _ => rfl, nofun⟩
  · rintro (_ | _ | _ | ⟨_, ⟨⟩⟩) <;> rfl

/-! ### Responses -/

theorem gasConsumed_canonical : gasConsumed.Canonical :=
  imap_canonical
    (pair_canonical word64_canonical (pair_canonical word64_canonical word64_canonical))
    fun _ => rfl

theorem cause_canonical : cause.Canonical :=
  imap_canonical (pair_canonical string_canonical string_canonical) fun _ => rfl

theorem effects_canonical : effects.Canonical :=
  imap_canonical
    (pair_canonical (list_canonical update_canonical)
      (pair_canonical (list_canonical objectRef_canonical) gasConsumed_canonical))
    fun _ => rfl

theorem failure_canonical : failure.Canonical :=
  imap_canonical
    (pair_canonical (list_canonical update_canonical) (pair_canonical gasConsumed_canonical
      (pair_canonical word64_canonical cause_canonical)))
    fun _ => rfl

theorem jarOutcome_canonical : jarOutcome.Canonical := by
  refine union_canonical ?_ ?_
  · simp only [List.forall_mem_cons]
    exact ⟨case_canonical (pair_canonical bytes_canonical
        (pair_canonical (list_canonical classpath_canonical)
          (pair_canonical (list_canonical update_canonical) gasConsumed_canonical))) fun _ => rfl,
      case_canonical failure_canonical fun _ => rfl, nofun⟩
  · rintro ⟨⟩ <;> rfl

theorem constructorOutcome_canonical : constructorOutcome.Canonical := by
  refine union_canonical ?_ ?_
  · simp only [List.forall_mem_cons]
    exact ⟨case_canonical (pair_canonical objectRef_canonical effects_canonical) fun _ => rfl,
      case_canonical (pair_canonical cause_canonical effects_canonical) fun _ => rfl,
      case_canonical failure_canonical fun _ => rfl, nofun⟩
  · rintro ⟨⟩ <;> rfl

theorem methodOutcome_canonical : methodOutcome.Canonical := by
  refine union_canonical ?_ ?_
  · simp only [List.forall_mem_cons]
    exact ⟨case_canonical (pair_canonical value_canonical effects_canonical) fun _ => rfl,
      case_canonical effects_canonical fun _ => rfl,
      case_canonical (pair_canonical cause_canonical effects_canonical) fun _ => rfl,
      case_canonical failure_canonical fun _ => rfl, nofun⟩
  · rintro (⟨⟨⟩, _⟩ | _ | _) <;> rfl

theorem response_canonical : response.Canonical := by
  have updates := list_canonical update_canonical
  refine union_canonical ?_ ?_
  · simp only [List.forall_mem_cons]
    exact ⟨case_canonical (pair_canonical bytes_canonical
        (list_canonical classpath_canonical)) fun _ => rfl,
      case_canonical (pair_canonical updates objectRef_canonical) fun _ => rfl,
      constant_canonical _, case_canonical jarOutcome_canonical fun _ => rfl,
      case_canonical constructorOutcome_canonical fun _ => rfl,
      case_canonical methodOutcome_canonical fun _ => rfl, nofun⟩
  · rintro ⟨⟩ <;> rfl

/-! ### Instructions -/

theorem annotations_roundTrips : annotations.RoundTrips :=
  imap_roundTrips
    (pair_roundTrips boolean_roundTrips (pair_roundTrips boolean_roundTrips
      (pair_roundTrips boolean_roundTrips boolean_roundTrips)))
    fun _ => rfl

theorem annotations_canonical : annotations.Canonical :=
  imap_canonical
    (pair_canonical boolean_canonical (pair_canonical boolean_canonical
      (pair_canonical boolean_canonical boolean_canonical)))
    fun _ => rfl

theorem dispatch_roundTrips : dispatch.RoundTrips := by
  refine union_roundTrips ?_ (Splits.covers ?_) (by decide)
  · simp only [List.forall_mem_cons]
    exact ⟨constant_roundTrips _, constant_roundTrips _, nofun⟩
  · rintro ⟨⟩ <;> rfl

theorem dispatch_canonical : dispatch.Canonical := by
  refine union_canonical ?_ ?_
  · simp only [List.forall_mem_cons]
    exact ⟨constant_canonical _, constant_canonical _, nofun⟩
  · rintro ⟨⟩ <;> rfl

theorem instruction_roundTrips : instruction.RoundTrips := by
  have calls := pair_roundTrips methodSignature_roundTrips dispatch_roundTrips
  refine union_roundTrips ?_ (Splits.covers ?_) (by decide)
  · simp only [List.forall_mem_cons]
    refine ⟨case_roundTrips value_roundTrips ?_, case_roundTrips word16_roundTrips ?_,
      case_roundTrips word16_roundTrips ?_, constant_roundTrips _, constant_roundTrips _,
      case_roundTrips constructorSignature_roundTrips ?_,
      case_roundTrips fieldSignature_roundTrips ?_, case_roundTrips fieldSignature_roundTrips ?_,
      case_roundTrips calls ?_, case_roundTrips calls ?_,
      case_roundTrips (pair_roundTrips string_roundTrips byte_roundTrips) ?_,
      constant_roundTrips _, constant_roundTrips _, constant_roundTrips _, constant_roundTrips _,
      constant_roundTrips _, constant_roundTrips _, constant_roundTrips _, constant_roundTrips _,
      case_roundTrips word32_roundTrips ?_, case_roundTrips word32_roundTrips ?_,
      constant_roundTrips _,
      case_roundTrips (pair_roundTrips string_roundTrips boolean_roundTrips) ?_, nofun⟩
    all_goals
      rintro ⟨⟩ _ found <;> cases found
      rfl
  · rintro (_ | _ | _ | _ | _ | _ | _ | _ | _ | _ | _ | ⟨⟨⟩⟩ | _) <;> rfl

theorem instruction_canonical : instruction.Canonical := by
  have calls := pair_canonical methodSignature_canonical dispatch_canonical
  refine union_canonical ?_ ?_
  · simp only [List.forall_mem_cons]
    exact ⟨case_canonical value_canonical fun _ => rfl,
      case_canonical word16_canonical fun _ => rfl, case_canonical word16_canonical fun _ => rfl,
      constant_canonical _, constant_canonical _,
      case_canonical constructorSignature_canonical fun _ => rfl,
      case_canonical fieldSignature_canonical fun _ => rfl,
      case_canonical fieldSignature_canonical fun _ => rfl,
      case_canonical calls fun _ => rfl, case_canonical calls fun _ => rfl,
      case_canonical (pair_canonical string_canonical byte_canonical) fun _ => rfl,
      constant_canonical _, constant_canonical _, constant_canonical _, constant_canonical _,
      constant_canonical _, constant_canonical _, constant_canonical _, constant_canonical _,
      case_canonical word32_canonical fun _ => rfl, case_canonical word32_canonical fun _ => rfl,
      constant_canonical _,
      case_canonical (pair_canonical string_canonical boolean_canonical) fun _ => rfl, nofun⟩
  · rintro (_ | _ | _ | _ | _ | _ | _ | _ | _ | _ | _ | ⟨⟨⟩⟩ | _) <;> rfl

/-! ### Code units -/

theorem fieldDefinition_roundTrips : fieldDefinition.RoundTrips :=
  imap_roundTrips (pair_roundTrips string_roundTrips valueType_roundTrips) fun _ => rfl

theorem fieldDefinition_canonical : fieldDefinition.Canonical :=
  imap_canonical (pair_canonical string_canonical valueType_canonical) fun _ => rfl

theorem constructorDefinition_roundTrips : constructorDefinition.RoundTrips :=
  imap_roundTrips
    (pair_roundTrips (list_roundTrips valueType_roundTrips)
      (pair_roundTrips annotations_roundTrips
        (pair_roundTrips word16_roundTrips (list_roundTrips instruction_roundTrips))))
    fun _ => rfl

theorem constructorDefinition_canonical : constructorDefinition.Canonical :=
  imap_canonical
    (pair_canonical (list_canonical valueType_canonical)
      (pair_canonical annotations_canonical
        (pair_canonical word16_canonical (list_canonical instruction_canonical))))
    fun _ => rfl

theorem methodDefinition_roundTrips : methodDefinition.RoundTrips :=
  imap_roundTrips
    (pair_roundTrips string_roundTrips (pair_roundTrips (list_roundTrips valueType_roundTrips)
      (pair_roundTrips (option_roundTrips valueType_roundTrips) (pair_roundTrips boolean_roundTrips
        (pair_roundTrips annotations_roundTrips
          (pair_roundTrips word16_roundTrips (list_roundTrips instruction_roundTrips)))))))
    fun _ => rfl

theorem methodDefinition_canonical : methodDefinition.Canonical :=
  imap_canonical
    (pair_canonical string_canonical (pair_canonical (list_canonical valueType_canonical)
      (pair_canonical (option_canonical valueType_canonical) (pair_canonical boolean_canonical
        (pair_canonical annotations_canonical
          (pair_canonical word16_canonical (list_canonical instruction_canonical)))))))
    fun _ => rfl

theorem classDefinition_roundTrips : classDefinition.RoundTrips :=
  imap_roundTrips
    (pair_roundTrips string_roundTrips (pair_roundTrips (option_roundTrips string_roundTrips)
      (pair_roundTrips (list_roundTrips fieldDefinition_roundTrips)
        (pair_roundTrips (list_roundTrips constructorDefinition_roundTrips)
          (list_roundTrips methodDefinition_roundTrips)))))
    fun _ => rfl

theorem classDefinition_canonical : classDefinition.Canonical :=
  imap_canonical
    (pair_canonical string_canonical (pair_canonical (option_canonical string_canonical)
      (pair_canonical (list_canonical fieldDefinition_canonical)
        (pair_canonical (list_canonical constructorDefinition_canonical)
          (list_canonical methodDefinition_canonical)))))
    fun _ => rfl

theorem codeUnit_roundTrips : codeUnit.RoundTrips :=
  imap_roundTrips (list_roundTrips classDefinition_roundTrips) fun _ => rfl

theorem codeUnit_canonical : codeUnit.Canonical :=
  imap_canonical (list_canonical classDefinition_canonical) fun _ => rfl

/-! ### Representations -/

/-- **Code units, requests, responses and histories have one representation.** What can be written
of them is read back, and bytes that can be read are the ones that are written for the value. -/
theorem exact_records : codeUnit.Exact ∧ request.Exact ∧ response.Exact ∧ history.Exact :=
  ⟨exact_of_canonical codeUnit_roundTrips codeUnit_canonical,
    exact_of_canonical request_roundTrips request_canonical,
    exact_of_canonical response_roundTrips response_canonical,
    exact_of_canonical history_roundTrips history_canonical⟩

end ObjectLedger.Codec
