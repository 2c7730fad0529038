/-
**The records of the ledger can be read back.**

One lemma for each codec of the ledger, in the order in which they are put together; at the end
`history_roundTrips`, `request_roundTrips` and `response_roundTrips`, the records that are kept.
-/
import ObjectLedger.Proofs.Codec.RoundTrip

namespace ObjectLedger.Codec

/-! ### References -/

theorem transactionRef_roundTrips : transactionRef.RoundTrips :=
  imap_roundTrips word64_roundTrips fun _ => rfl

theorem objectRef_roundTrips : objectRef.RoundTrips :=
  imap_roundTrips (pair_roundTrips transactionRef_roundTrips word64_roundTrips) fun _ => rfl

theorem classpath_roundTrips : classpath.RoundTrips :=
  imap_roundTrips (pair_roundTrips transactionRef_roundTrips boolean_roundTrips) fun _ => rfl

theorem history_roundTrips : history.RoundTrips :=
  list_roundTrips transactionRef_roundTrips

/-! ### Values and signatures -/

theorem valueType_roundTrips : valueType.RoundTrips := by
  refine union_roundTrips ?_ ?_ (by decide)
  · simp only [List.forall_mem_cons]
    refine ⟨constant_roundTrips _, constant_roundTrips _, constant_roundTrips _,
      constant_roundTrips _, case_roundTrips string_roundTrips ?_, nofun⟩
    rintro ⟨⟩ _ found <;> cases found
    rfl
  · intro type
    cases type <;> simp [case, constant]

theorem value_roundTrips : value.RoundTrips := by
  refine union_roundTrips ?_ ?_ (by decide)
  · simp only [List.forall_mem_cons]
    refine ⟨constant_roundTrips _, case_roundTrips boolean_roundTrips ?_,
      case_roundTrips int64_roundTrips ?_, case_roundTrips amount_roundTrips ?_,
      case_roundTrips string_roundTrips ?_, case_roundTrips objectRef_roundTrips ?_, nofun⟩
    all_goals
      rintro ⟨⟩ _ found <;> cases found
      rfl
  · intro value
    cases value <;> simp [case, constant, Value.boolean?, Value.int?, Value.bigInteger?,
      Value.string?, Value.reference?]

theorem fieldSignature_roundTrips : fieldSignature.RoundTrips :=
  imap_roundTrips
    (pair_roundTrips string_roundTrips (pair_roundTrips string_roundTrips valueType_roundTrips))
    fun _ => rfl

theorem constructorSignature_roundTrips : constructorSignature.RoundTrips :=
  imap_roundTrips (pair_roundTrips string_roundTrips (list_roundTrips valueType_roundTrips))
    fun _ => rfl

theorem methodSignature_roundTrips : methodSignature.RoundTrips :=
  imap_roundTrips
    (pair_roundTrips string_roundTrips (pair_roundTrips string_roundTrips
      (pair_roundTrips (list_roundTrips valueType_roundTrips)
        (option_roundTrips valueType_roundTrips))))
    fun _ => rfl

/-! ### Updates -/

theorem update_roundTrips : update.RoundTrips := by
  refine union_roundTrips ?_ ?_ (by decide)
  · simp only [List.forall_mem_cons]
    refine ⟨case_roundTrips (pair_roundTrips objectRef_roundTrips
        (pair_roundTrips string_roundTrips transactionRef_roundTrips)) ?_,
      case_roundTrips (pair_roundTrips objectRef_roundTrips
        (pair_roundTrips fieldSignature_roundTrips value_roundTrips)) ?_, nofun⟩
    all_goals
      rintro ⟨⟩ _ found <;> cases found
      rfl
  · intro update
    cases update <;> simp [case]

/-! ### Requests -/

theorem header_roundTrips : header.RoundTrips :=
  imap_roundTrips
    (pair_roundTrips objectRef_roundTrips (pair_roundTrips amount_roundTrips
      (pair_roundTrips string_roundTrips (pair_roundTrips word64_roundTrips
        (pair_roundTrips word64_roundTrips
          (pair_roundTrips classpath_roundTrips bytes_roundTrips))))))
    fun _ => rfl

theorem request_roundTrips : request.RoundTrips := by
  have classpaths := list_roundTrips classpath_roundTrips
  have values := list_roundTrips value_roundTrips
  refine union_roundTrips ?_ ?_ (by decide)
  · simp only [List.forall_mem_cons]
    refine ⟨case_roundTrips (pair_roundTrips bytes_roundTrips classpaths) ?_,
      case_roundTrips (pair_roundTrips classpath_roundTrips
        (pair_roundTrips amount_roundTrips string_roundTrips)) ?_,
      case_roundTrips (pair_roundTrips classpath_roundTrips objectRef_roundTrips) ?_,
      case_roundTrips (pair_roundTrips header_roundTrips
        (pair_roundTrips bytes_roundTrips classpaths)) ?_,
      case_roundTrips (pair_roundTrips header_roundTrips
        (pair_roundTrips constructorSignature_roundTrips values)) ?_,
      case_roundTrips (pair_roundTrips header_roundTrips
        (pair_roundTrips methodSignature_roundTrips
          (pair_roundTrips objectRef_roundTrips values))) ?_,
      case_roundTrips (pair_roundTrips header_roundTrips
        (pair_roundTrips methodSignature_roundTrips values)) ?_, nofun⟩
    all_goals
      rintro (_ | _ | _ | ⟨_, ⟨⟩⟩) _ found <;> cases found
      rfl
  · rintro (_ | _ | _ | ⟨_, ⟨⟩⟩) <;> simp [case]

/-! ### Responses -/

theorem gasConsumed_roundTrips : gasConsumed.RoundTrips :=
  imap_roundTrips
    (pair_roundTrips word64_roundTrips (pair_roundTrips word64_roundTrips word64_roundTrips))
    fun _ => rfl

theorem cause_roundTrips : cause.RoundTrips :=
  imap_roundTrips (pair_roundTrips string_roundTrips string_roundTrips) fun _ => rfl

theorem effects_roundTrips : effects.RoundTrips :=
  imap_roundTrips
    (pair_roundTrips (list_roundTrips update_roundTrips)
      (pair_roundTrips (list_roundTrips objectRef_roundTrips) gasConsumed_roundTrips))
    fun _ => rfl

theorem failure_roundTrips : failure.RoundTrips :=
  imap_roundTrips
    (pair_roundTrips (list_roundTrips update_roundTrips) (pair_roundTrips gasConsumed_roundTrips
      (pair_roundTrips word64_roundTrips cause_roundTrips)))
    fun _ => rfl

theorem jarOutcome_roundTrips : jarOutcome.RoundTrips := by
  refine union_roundTrips ?_ ?_ (by decide)
  · simp only [List.forall_mem_cons]
    refine ⟨case_roundTrips (pair_roundTrips bytes_roundTrips
        (pair_roundTrips (list_roundTrips classpath_roundTrips)
          (pair_roundTrips (list_roundTrips update_roundTrips) gasConsumed_roundTrips))) ?_,
      case_roundTrips failure_roundTrips ?_, nofun⟩
    all_goals
      rintro ⟨⟩ _ found <;> cases found
      rfl
  · intro outcome
    cases outcome <;> simp [case, JarOutcome.failure?]

theorem constructorOutcome_roundTrips : constructorOutcome.RoundTrips := by
  refine union_roundTrips ?_ ?_ (by decide)
  · simp only [List.forall_mem_cons]
    refine ⟨case_roundTrips (pair_roundTrips objectRef_roundTrips effects_roundTrips) ?_,
      case_roundTrips (pair_roundTrips cause_roundTrips effects_roundTrips) ?_,
      case_roundTrips failure_roundTrips ?_, nofun⟩
    all_goals
      rintro ⟨⟩ _ found <;> cases found
      rfl
  · intro outcome
    cases outcome <;> simp [case, exceptionOf, failureOf]

theorem methodOutcome_roundTrips : methodOutcome.RoundTrips := by
  refine union_roundTrips ?_ ?_ (by decide)
  · simp only [List.forall_mem_cons]
    refine ⟨case_roundTrips (pair_roundTrips value_roundTrips effects_roundTrips) ?_,
      case_roundTrips effects_roundTrips ?_,
      case_roundTrips (pair_roundTrips cause_roundTrips effects_roundTrips) ?_,
      case_roundTrips failure_roundTrips ?_, nofun⟩
    all_goals
      rintro (⟨⟨⟩, _⟩ | _ | _) _ found <;> cases found
      rfl
  · rintro (⟨⟨⟩, _⟩ | _ | _) <;> simp [case, exceptionOf, failureOf]

theorem response_roundTrips : response.RoundTrips := by
  have updates := list_roundTrips update_roundTrips
  refine union_roundTrips ?_ ?_ (by decide)
  · simp only [List.forall_mem_cons]
    refine ⟨case_roundTrips (pair_roundTrips bytes_roundTrips
        (list_roundTrips classpath_roundTrips)) ?_,
      case_roundTrips (pair_roundTrips updates objectRef_roundTrips) ?_,
      constant_roundTrips _, case_roundTrips jarOutcome_roundTrips ?_,
      case_roundTrips constructorOutcome_roundTrips ?_,
      case_roundTrips methodOutcome_roundTrips ?_, nofun⟩
    all_goals
      rintro ⟨⟩ _ found <;> cases found
      rfl
  · intro response
    cases response <;> simp [case, constant]

end ObjectLedger.Codec
