/-
**What cannot be written is too long.**

* `Codec.Measures`: whatever a codec finds too long is beyond the greatest length of a text or a
  sequence; one lemma for each combinator and each record.
* **`Codec.request_measures`**, **`Codec.response_measures`**: it is so for requests and responses.
* `Codec.SameSize`: two values take the same room. `Codec.update_sameSize`: updates that differ in an
  amount do. **`Codec.methodCall_sameSize`** and others: so do responses whose effects differ in
  amounts and in gas alone.
-/
import Mathlib.Data.List.Forall2
import Mathlib.Data.Option.Basic
import ObjectLedger.Codec.Record

namespace ObjectLedger.Codec

variable {α β : Type}

/-- Whatever is found too long is beyond the greatest length of a text or a sequence. -/
def Measures (codec : Codec α) : Prop :=
  ∀ value length, codec.oversize? value = some length → maxLength < length

/-! ### Combinators -/

theorem lt_of_beyondMaximum? {length found : Nat} (beyond : beyondMaximum? length = some found) :
    maxLength < found := by
  unfold beyondMaximum? at beyond
  split at beyond
  · cases beyond
  · rename_i long
    cases beyond
    exact Nat.lt_of_not_le long

theorem fixed_measures {width : Nat} {toNat : α → Nat} {ofNat : Nat → α} :
    (fixed width toNat ofNat).Measures :=
  fun _ _ found => by cases found

theorem word64_measures : word64.Measures := fixed_measures

theorem int64_measures : int64.Measures := fixed_measures

theorem amount_measures : amount.Measures := fixed_measures

theorem boolean_measures : boolean.Measures := fun _ _ found => by cases found

theorem unit_measures : unit.Measures := fun _ _ found => by cases found

theorem string_measures : string.Measures := fun _ _ found => lt_of_beyondMaximum? found

theorem list_measures {item : Codec α} (measures : item.Measures) : (list item).Measures := by
  intro values length found
  rcases (Option.orElse_eq_some _ _ _).mp found with whole | ⟨-, inside⟩
  · exact lt_of_beyondMaximum? whole
  · obtain ⟨value, -, found⟩ := List.exists_of_findSome?_eq_some inside
    exact measures value length found

theorem bytes_measures : bytes.Measures := list_measures fixed_measures

theorem option_measures {item : Codec α} (measures : item.Measures) : (option item).Measures := by
  intro value length found
  cases value with
  | none => cases found
  | some value => exact measures value length found

theorem pair_measures {first : Codec α} {second : Codec β} (left : first.Measures)
    (right : second.Measures) : (pair first second).Measures := by
  intro value length found
  rcases (Option.orElse_eq_some _ _ _).mp found with one | ⟨-, other⟩
  · exact left value.1 length one
  · exact right value.2 length other

theorem imap_measures {content : Codec α} {build : α → β} {parts : β → α}
    (measures : content.Measures) : (imap content build parts).Measures :=
  fun value length found => measures (parts value) length found

theorem union_measures {alternatives : List (Alternative α)}
    (each : ∀ alternative ∈ alternatives, alternative.codec.Measures) :
    (union alternatives).Measures := by
  intro value length found
  have found : oversizeFirst? value alternatives = some length := found
  induction alternatives with
  | nil => cases found
  | cons alternative rest ih =>
    rw [oversizeFirst?] at found
    split at found
    · exact each alternative List.mem_cons_self _ length found
    · rename_i uncovered
      exact ih (fun other member => each other (List.mem_cons_of_mem _ member)) found found

/-! ### References, values and signatures -/

theorem transactionRef_measures : transactionRef.Measures := imap_measures word64_measures

theorem objectRef_measures : objectRef.Measures :=
  imap_measures (pair_measures transactionRef_measures word64_measures)

theorem classpath_measures : classpath.Measures :=
  imap_measures (pair_measures transactionRef_measures boolean_measures)

theorem valueType_measures : valueType.Measures := by
  refine union_measures ?_
  simp only [List.forall_mem_cons]
  exact ⟨unit_measures, unit_measures, unit_measures, unit_measures, string_measures, nofun⟩

theorem value_measures : value.Measures := by
  refine union_measures ?_
  simp only [List.forall_mem_cons]
  exact ⟨unit_measures, boolean_measures, int64_measures, amount_measures, string_measures,
    objectRef_measures, nofun⟩

theorem fieldSignature_measures : fieldSignature.Measures :=
  imap_measures (pair_measures string_measures (pair_measures string_measures valueType_measures))

theorem constructorSignature_measures : constructorSignature.Measures :=
  imap_measures (pair_measures string_measures (list_measures valueType_measures))

theorem methodSignature_measures : methodSignature.Measures :=
  imap_measures (pair_measures string_measures (pair_measures string_measures
    (pair_measures (list_measures valueType_measures) (option_measures valueType_measures))))

theorem update_measures : update.Measures := by
  refine union_measures ?_
  simp only [List.forall_mem_cons]
  exact ⟨pair_measures objectRef_measures (pair_measures string_measures transactionRef_measures),
    pair_measures objectRef_measures (pair_measures fieldSignature_measures value_measures), nofun⟩

/-! ### Requests -/

theorem header_measures : header.Measures :=
  imap_measures (pair_measures objectRef_measures (pair_measures amount_measures
    (pair_measures string_measures (pair_measures word64_measures (pair_measures word64_measures
      (pair_measures classpath_measures bytes_measures))))))

/-- **What cannot be written of a request is too long.** -/
theorem request_measures : request.Measures := by
  have classpaths := list_measures classpath_measures
  have values := list_measures value_measures
  refine union_measures ?_
  simp only [List.forall_mem_cons]
  exact ⟨pair_measures bytes_measures classpaths,
    pair_measures classpath_measures (pair_measures amount_measures string_measures),
    pair_measures classpath_measures objectRef_measures,
    pair_measures header_measures (pair_measures bytes_measures classpaths),
    pair_measures header_measures (pair_measures constructorSignature_measures values),
    pair_measures header_measures (pair_measures methodSignature_measures
      (pair_measures objectRef_measures values)),
    pair_measures header_measures (pair_measures methodSignature_measures values), nofun⟩

/-! ### Responses -/

theorem gasConsumed_measures : gasConsumed.Measures :=
  imap_measures (pair_measures word64_measures (pair_measures word64_measures word64_measures))

theorem cause_measures : cause.Measures :=
  imap_measures (pair_measures string_measures string_measures)

theorem effects_measures : effects.Measures :=
  imap_measures (pair_measures (list_measures update_measures)
    (pair_measures (list_measures objectRef_measures) gasConsumed_measures))

theorem failure_measures : failure.Measures :=
  imap_measures (pair_measures (list_measures update_measures)
    (pair_measures gasConsumed_measures (pair_measures word64_measures cause_measures)))

theorem jarOutcome_measures : jarOutcome.Measures := by
  refine union_measures ?_
  simp only [List.forall_mem_cons]
  exact ⟨pair_measures bytes_measures (pair_measures (list_measures classpath_measures)
    (pair_measures (list_measures update_measures) gasConsumed_measures)), failure_measures, nofun⟩

theorem constructorOutcome_measures : constructorOutcome.Measures := by
  refine union_measures ?_
  simp only [List.forall_mem_cons]
  exact ⟨pair_measures objectRef_measures effects_measures,
    pair_measures cause_measures effects_measures, failure_measures, nofun⟩

theorem methodOutcome_measures : methodOutcome.Measures := by
  refine union_measures ?_
  simp only [List.forall_mem_cons]
  exact ⟨pair_measures value_measures effects_measures, effects_measures,
    pair_measures cause_measures effects_measures, failure_measures, nofun⟩

/-- **What cannot be written of a response is too long.** -/
theorem response_measures : response.Measures := by
  refine union_measures ?_
  simp only [List.forall_mem_cons]
  exact ⟨pair_measures bytes_measures (list_measures classpath_measures),
    pair_measures (list_measures update_measures) objectRef_measures, unit_measures,
    jarOutcome_measures, constructorOutcome_measures, methodOutcome_measures, nofun⟩

/-! ### Values of the same size -/

/-- Two values take the same room, and the same is too long in them. -/
structure SameSize (codec : Codec α) (first second : α) : Prop where
  length_eq : (codec.encode second).length = (codec.encode first).length
  oversize_eq : codec.oversize? second = codec.oversize? first

theorem SameSize.refl (codec : Codec α) (value : α) : codec.SameSize value value := ⟨rfl, rfl⟩

theorem length_wordBytes (width value : Nat) : (wordBytes width value).length = width := by
  induction width generalizing value with
  | zero => rfl
  | succ width ih => exact congrArg (· + 1) (ih _)

theorem fixed_sameSize {width : Nat} {toNat : α → Nat} {ofNat : Nat → α} (value other : α) :
    (fixed width toNat ofNat).SameSize value other :=
  ⟨(length_wordBytes width _).trans (length_wordBytes width _).symm, rfl⟩

theorem imap_sameSize {content : Codec α} {build : α → β} {parts : β → α} {value other : β}
    (same : content.SameSize (parts value) (parts other)) :
    (imap content build parts).SameSize value other :=
  ⟨same.length_eq, same.oversize_eq⟩

/-- Two values of one alternative take the same room if their contents do. -/
theorem SameSize.tagged {codec : Codec α} {content : Codec β} {value other : α} {inner outer : β}
    (same : content.SameSize inner outer) (index : Nat)
    (form : codec.encode value = digitBytes index ++ content.encode inner)
    (formToo : codec.encode other = digitBytes index ++ content.encode outer)
    (oversize : codec.oversize? value = content.oversize? inner)
    (oversizeToo : codec.oversize? other = content.oversize? outer) :
    codec.SameSize value other where
  length_eq := by rw [form, formToo, List.length_append, List.length_append, same.length_eq]
  oversize_eq := by rw [oversize, oversizeToo, same.oversize_eq]

theorem pair_sameSize {first : Codec α} {second : Codec β} {value other : α × β}
    (left : first.SameSize value.1 other.1) (right : second.SameSize value.2 other.2) :
    (pair first second).SameSize value other where
  length_eq := by
    show (first.encode _ ++ second.encode _).length = (first.encode _ ++ second.encode _).length
    rw [List.length_append, List.length_append, left.length_eq, right.length_eq]
  oversize_eq := by
    show (first.oversize? _ <|> second.oversize? _) = (first.oversize? _ <|> second.oversize? _)
    rw [left.oversize_eq, right.oversize_eq]

theorem list_sameSize {item : Codec α} {values others : List α}
    (same : List.Forall₂ item.SameSize values others) : (list item).SameSize values others := by
  have room : (others.flatMap item.encode).length = (values.flatMap item.encode).length ∧
      others.findSome? item.oversize? = values.findSome? item.oversize? := by
    induction same with
    | nil => exact ⟨rfl, rfl⟩
    | cons first _ ih =>
      simp only [List.flatMap_cons, List.length_append, List.findSome?_cons, first.length_eq,
        first.oversize_eq, ih.1, ih.2, and_self]
  refine ⟨?_, ?_⟩
  · show (digitBytes _ ++ _).length = (digitBytes _ ++ _).length
    rw [List.length_append, List.length_append, room.1, same.length_eq]
  · show (beyondMaximum? _ <|> _) = (beyondMaximum? _ <|> _)
    rw [room.2, same.length_eq]

/-- All amounts take the same room. -/
theorem update_sameSize (object : ObjectRef) (field : FieldSignature) (amount other : Amount) :
    update.SameSize (.field object field (.bigInteger amount))
      (.field object field (.bigInteger other)) where
  length_eq := by
    have form : ∀ amount : Amount, update.encode (.field object field (.bigInteger amount)) =
        digitBytes 1 ++ (objectRef.encode object ++ (fieldSignature.encode field ++
          (digitBytes 3 ++ wordBytes 16 amount.toNat))) := fun _ => rfl
    simp only [form, List.length_append, length_wordBytes]
  oversize_eq := rfl

/-- All amounts of gas take the same room. -/
theorem gasConsumed_sameSize (gas other : GasConsumed) : gasConsumed.SameSize gas other :=
  imap_sameSize (pair_sameSize (fixed_sameSize _ _)
    (pair_sameSize (fixed_sameSize _ _) (fixed_sameSize _ _)))

section

variable {updates others : List Update} (same : List.Forall₂ update.SameSize updates others)

include same

theorem effects_sameSize (events : List ObjectRef) (gas other : GasConsumed) :
    effects.SameSize ⟨updates, events, gas⟩ ⟨others, events, other⟩ :=
  imap_sameSize (pair_sameSize (list_sameSize same)
    (pair_sameSize (.refl _ _) (gasConsumed_sameSize gas other)))

/-- **Responses to the installation of a jar take the same room.** -/
theorem jar_sameSize (jar : List UInt8) (dependencies : List Classpath) (gas other : GasConsumed) :
    response.SameSize (.jar (.successful jar dependencies updates gas))
      (.jar (.successful jar dependencies others other)) := by
  have outcome : jarOutcome.SameSize (.successful jar dependencies updates gas)
      (.successful jar dependencies others other) :=
    (pair_sameSize (.refl bytes jar) (pair_sameSize (.refl (list classpath) dependencies)
      (pair_sameSize (list_sameSize same) (gasConsumed_sameSize gas other)))).tagged 0 rfl rfl rfl rfl
  exact outcome.tagged 3 rfl rfl rfl rfl

end

section

variable {first second : Effects} (same : effects.SameSize first second)

include same

/-- **Responses to a constructor take the same room.** -/
theorem constructorCall_sameSize (object : ObjectRef) :
    response.SameSize (.constructorCall (.successful object first))
      (.constructorCall (.successful object second)) := by
  have outcome : constructorOutcome.SameSize (.successful object first)
      (.successful object second) :=
    (pair_sameSize (.refl objectRef object) same).tagged 0 rfl rfl rfl rfl
  exact outcome.tagged 4 rfl rfl rfl rfl

/-- **Responses to a method take the same room.** -/
theorem methodCall_sameSize (result : Option Value) :
    response.SameSize (.methodCall (.successful result first))
      (.methodCall (.successful result second)) := by
  have outcome : methodOutcome.SameSize (.successful result first) (.successful result second) := by
    cases result with
    | none => exact same.tagged 1 rfl rfl rfl rfl
    | some result => exact (pair_sameSize (.refl value result) same).tagged 0 rfl rfl rfl rfl
  exact outcome.tagged 5 rfl rfl rfl rfl

/-- **Responses that tell an exception take the same room.** -/
theorem exception_sameSize (thrown : Cause) :
    response.SameSize (.constructorCall (.exception thrown first))
        (.constructorCall (.exception thrown second)) ∧
      response.SameSize (.methodCall (.exception thrown first))
        (.methodCall (.exception thrown second)) := by
  have content : (pair cause effects).SameSize (thrown, first) (thrown, second) :=
    pair_sameSize (.refl _ _) same
  have made : constructorOutcome.SameSize (.exception thrown first) (.exception thrown second) :=
    content.tagged 1 rfl rfl rfl rfl
  have called : methodOutcome.SameSize (.exception thrown first) (.exception thrown second) :=
    content.tagged 2 rfl rfl rfl rfl
  exact ⟨made.tagged 4 rfl rfl rfl rfl, called.tagged 5 rfl rfl rfl rfl⟩

end

end ObjectLedger.Codec
