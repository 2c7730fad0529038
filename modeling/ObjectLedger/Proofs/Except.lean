/-
**Computations that may stop, one part after the other.**

* `bind_eq_ok`, `ok_of_bind`: when a sequence ends with a result. `cases_of_bind_eq_error`,
  `error_of_bind`: where it stops.
  `bind_of_ok`, `bind_of_error`: how it goes on.
* `resultOf?`: the result of a part, none if it stops.
* `stateAfter`: the state that a part leaves, whether it ends or stops. `Maintains`: what held before
  a part holds of the state that it leaves; closed under sequence.
* `FailsOnly`, `StopsOnly`: wherever a part stops, the error is an allowed one; closed under
  sequence.
* `resultOf`, `SameEnd`: how a part ends. `Alongside`: from related states a part ends in the same way
  and leaves related states; closed under sequence.
* `foldlM_keeps`: what each part of a loop keeps, or the error it ends with; `foldlM_alongside`: a
  loop beside another one. `forM_eq_ok`: a loop of checks.
-/

namespace ObjectLedger

variable {ε α β : Type}

theorem bind_eq_ok {first : Except ε α} {next : α → Except ε β} {result : β} :
    first >>= next = .ok result ↔ ∃ value, first = .ok value ∧ next value = .ok result := by
  cases first with
  | error cause => exact ⟨fun same => (by cases same), fun ⟨_, same, _⟩ => (by cases same)⟩
  | ok value =>
    exact ⟨fun same => ⟨value, rfl, same⟩, fun ⟨_, same, rest⟩ => (by cases same; exact rest)⟩

theorem mapError_eq_ok {ε' : Type} {part : Except ε α} {change : ε → ε'} {result : α} :
    part.mapError change = .ok result ↔ part = .ok result := by
  cases part with
  | error cause => exact ⟨fun same => (by cases same), fun same => (by cases same)⟩
  | ok value => exact ⟨fun same => (by cases same; rfl), fun same => (by cases same; rfl)⟩

/-- Where a sequence stops. -/
theorem cases_of_bind_eq_error {first : Except ε α} {next : α → Except ε β} {cause : ε}
    (stopped : first >>= next = .error cause) :
    first = .error cause ∨ ∃ value, first = .ok value ∧ next value = .error cause := by
  cases first with
  | error other =>
    cases stopped
    exact Or.inl rfl
  | ok value => exact Or.inr ⟨value, rfl, stopped⟩

/-- The parts of a sequence with a state that ends with a result. -/
theorem ok_of_bind {σ : Type} {first : EStateM ε σ α} {next : α → EStateM ε σ β} {result : β}
    {state after : σ} (ran : (first >>= next) state = .ok result after) :
    ∃ value middle, first state = .ok value middle ∧ next value middle = .ok result after := by
  have ran : EStateM.bind first next state = .ok result after := ran
  unfold EStateM.bind at ran
  cases ended : first state with
  | ok value middle =>
    rw [ended] at ran
    exact ⟨value, middle, rfl, ran⟩
  | error cause middle =>
    rw [ended] at ran
    cases ran

/-- The part of a sequence with a state that stops. -/
theorem error_of_bind {σ : Type} {first : EStateM ε σ α} {next : α → EStateM ε σ β} {cause : ε}
    {state after : σ} (ran : (first >>= next) state = .error cause after) :
    first state = .error cause after ∨
      ∃ value middle, first state = .ok value middle ∧ next value middle = .error cause after := by
  have ran : EStateM.bind first next state = .error cause after := ran
  unfold EStateM.bind at ran
  cases ended : first state with
  | ok value middle =>
    rw [ended] at ran
    exact Or.inr ⟨value, middle, rfl, ran⟩
  | error other middle =>
    rw [ended] at ran
    cases ran
    exact Or.inl rfl

/-- A sequence goes on where its first part ends. -/
theorem bind_of_ok {σ : Type} {first : EStateM ε σ α} {next : α → EStateM ε σ β} {state middle : σ}
    {value : α} (ran : first state = .ok value middle) :
    (first >>= next) state = next value middle := by
  show EStateM.bind first next state = _
  unfold EStateM.bind
  rw [ran]

/-- A sequence stops where its first part does. -/
theorem bind_of_error {σ : Type} {first : EStateM ε σ α} {next : α → EStateM ε σ β}
    {state middle : σ} {cause : ε} (ran : first state = .error cause middle) :
    (first >>= next) state = .error cause middle := by
  show EStateM.bind first next state = _
  unfold EStateM.bind
  rw [ran]

/-- The result of a part, none if it stops. -/
def resultOf? {σ : Type} (part : EStateM ε σ α) (state : σ) : Option α :=
  match part state with
  | .ok result _ => some result
  | .error _ _ => none

theorem ok_of_resultOf? {σ : Type} {part : EStateM ε σ α} {state : σ} {result : α}
    (ended : resultOf? part state = some result) : ∃ after, part state = .ok result after := by
  unfold resultOf? at ended
  split at ended
  · rename_i after ran
    cases ended
    exact ⟨after, ran⟩
  · cases ended

/-- The state that a part leaves, whether it ends or stops. -/
def stateAfter {σ : Type} (part : EStateM ε σ α) (state : σ) : σ :=
  match part state with
  | .ok _ after => after
  | .error _ after => after

theorem stateAfter_ok {σ : Type} {part : EStateM ε σ α} {state after : σ} {result : α}
    (ran : part state = .ok result after) : stateAfter part state = after := by
  rw [stateAfter, ran]

theorem stateAfter_error {σ : Type} {part : EStateM ε σ α} {state after : σ} {cause : ε}
    (ran : part state = .error cause after) : stateAfter part state = after := by
  rw [stateAfter, ran]

theorem stateAfter_bind_of_ok {σ : Type} {first : EStateM ε σ α} {next : α → EStateM ε σ β}
    {state middle : σ} {value : α} (ran : first state = .ok value middle) :
    stateAfter (first >>= next) state = stateAfter (next value) middle := by
  rw [stateAfter, bind_of_ok ran, stateAfter]

theorem stateAfter_bind_of_error {σ : Type} {first : EStateM ε σ α} {next : α → EStateM ε σ β}
    {state middle : σ} {cause : ε} (ran : first state = .error cause middle) :
    stateAfter (first >>= next) state = middle := by
  rw [stateAfter, bind_of_error ran]

/-- What leaves the state as it is can be left out. -/
theorem stateAfter_bind_of_still {σ : Type} {first : EStateM ε σ α} {next : α → EStateM ε σ β}
    {state : σ} (still : ∀ value after, stateAfter (next value) after = after) :
    stateAfter (first >>= next) state = stateAfter first state := by
  cases ran : first state with
  | ok value middle => rw [stateAfter_bind_of_ok ran, stateAfter_ok ran, still]
  | error cause middle => rw [stateAfter_bind_of_error ran, stateAfter_error ran]

/-- Giving back a result leaves the state as it is. -/
theorem stateAfter_bind_pure {σ : Type} {first : EStateM ε σ α} {state : σ} (result : α → β) :
    stateAfter (first >>= fun value => pure (result value)) state = stateAfter first state :=
  stateAfter_bind_of_still fun _ _ => rfl

/-- What held before the part holds of the state that it leaves. -/
def Maintains {σ : Type} (kept : σ → Prop) (part : EStateM ε σ α) : Prop :=
  ∀ state, kept state → kept (stateAfter part state)

theorem Maintains.bind {σ : Type} {kept : σ → Prop} {part : EStateM ε σ α}
    {next : α → EStateM ε σ β} (first : Maintains kept part)
    (rest : ∀ value, Maintains kept (next value)) : Maintains kept (part >>= next) := by
  intro state holds
  have left := first state holds
  cases ran : part state with
  | ok value middle =>
    rw [stateAfter_ok ran] at left
    rw [stateAfter_bind_of_ok ran]
    exact rest value middle left
  | error cause middle =>
    rw [stateAfter_error ran] at left
    rw [stateAfter_bind_of_error ran]
    exact left

theorem maintains_throw {σ : Type} {kept : σ → Prop} (cause : ε) :
    Maintains kept (throw cause : EStateM ε σ α) :=
  fun _ holds => holds

/-! ### Errors -/

/-- Wherever the computation stops, the error is one of these. -/
def FailsOnly (allowed : ε → Prop) (part : Except ε α) : Prop :=
  ∀ cause, part = .error cause → allowed cause

theorem FailsOnly.bind {allowed : ε → Prop} {part : Except ε α} {next : α → Except ε β}
    (first : FailsOnly allowed part)
    (rest : ∀ value, part = .ok value → FailsOnly allowed (next value)) :
    FailsOnly allowed (part >>= next) := by
  cases part with
  | ok value => exact rest value rfl
  | error cause =>
    intro other failed
    cases failed
    exact first cause rfl

theorem failsOnly_ok {allowed : ε → Prop} (value : α) :
    FailsOnly allowed (.ok value : Except ε α) :=
  fun _ failed => by cases failed

theorem failsOnly_error {allowed : ε → Prop} {cause : ε} (holds : allowed cause) :
    FailsOnly allowed (.error cause : Except ε α) := by
  intro other failed
  cases failed
  exact holds

theorem FailsOnly.map {allowed : ε → Prop} {part : Except ε α} (fails : FailsOnly allowed part)
    (change : α → β) : FailsOnly allowed (part.map change) := by
  cases part with
  | ok value => exact failsOnly_ok _
  | error cause => exact failsOnly_error (fails cause rfl)

/-- Wherever the part with a state stops, the error is one of these. -/
def StopsOnly {σ : Type} (allowed : ε → Prop) (part : EStateM ε σ α) (state : σ) : Prop :=
  ∀ cause after, part state = .error cause after → allowed cause

theorem StopsOnly.bind {σ : Type} {allowed : ε → Prop} {part : EStateM ε σ α}
    {next : α → EStateM ε σ β} {state : σ} (first : StopsOnly allowed part state)
    (rest : ∀ value after, part state = .ok value after → StopsOnly allowed (next value) after) :
    StopsOnly allowed (part >>= next) state := by
  intro cause after stopped
  rcases error_of_bind stopped with stopped | ⟨value, middle, ran, stopped⟩
  · exact first cause after stopped
  · exact rest value middle ran cause after stopped

theorem stopsOnly_pure {σ : Type} {allowed : ε → Prop} (value : α) (state : σ) :
    StopsOnly allowed (pure value : EStateM ε σ α) state :=
  fun _ _ stopped => by cases stopped

theorem stopsOnly_throw {σ : Type} {allowed : ε → Prop} {cause : ε} (holds : allowed cause)
    (state : σ) : StopsOnly allowed (throw cause : EStateM ε σ α) state := by
  intro other after stopped
  cases stopped
  exact holds

theorem StopsOnly.first {σ : Type} {allowed : ε → Prop} {part : EStateM ε σ α}
    {next : α → EStateM ε σ β} {state : σ} (whole : StopsOnly allowed (part >>= next) state) :
    StopsOnly allowed part state :=
  fun cause after stopped => whole cause after (bind_of_error stopped)

theorem StopsOnly.rest {σ : Type} {allowed : ε → Prop} {part : EStateM ε σ α}
    {next : α → EStateM ε σ β} {state middle : σ} {value : α}
    (whole : StopsOnly allowed (part >>= next) state) (ran : part state = .ok value middle) :
    StopsOnly allowed (next value) middle :=
  fun cause after stopped => whole cause after ((bind_of_ok ran).trans stopped)

/-! ### Two runs -/

/-- The result of a part, or why it stops. -/
def resultOf {σ : Type} (part : EStateM ε σ α) (state : σ) : Except ε α :=
  match part state with
  | .ok result _ => .ok result
  | .error cause _ => .error cause

theorem error_of_resultOf {σ : Type} {part : EStateM ε σ α} {state : σ} {cause : ε}
    (stopped : resultOf part state = .error cause) :
    part state = .error cause (stateAfter part state) := by
  unfold resultOf at stopped
  split at stopped
  · cases stopped
  · rename_i after ran
    cases stopped
    rw [ran, stateAfter_error ran]

/-- Two runs end with the same result or stop for the same reason, and leave related states. -/
inductive SameEnd {σ : Type} (related : σ → σ → Prop) :
    EStateM.Result ε σ α → EStateM.Result ε σ α → Prop
  | ok {result : α} {state other : σ} (relates : related state other) :
      SameEnd related (.ok result state) (.ok result other)
  | error {cause : ε} {state other : σ} (relates : related state other) :
      SameEnd related (.error cause state) (.error cause other)

section Alongside

variable {σ : Type} {related : σ → σ → Prop} {allowed : ε → Prop} {part : EStateM ε σ α}

theorem SameEnd.resultOf_eq {state other : σ} (same : SameEnd related (part state) (part other)) :
    resultOf part state = resultOf part other := by
  unfold resultOf
  generalize part state = left at same ⊢
  generalize part other = right at same ⊢
  cases same <;> rfl

theorem SameEnd.stateAfter {state other : σ} (same : SameEnd related (part state) (part other)) :
    related (stateAfter part state) (stateAfter part other) := by
  unfold ObjectLedger.stateAfter
  generalize part state = left at same ⊢
  generalize part other = right at same ⊢
  cases same <;> assumption

theorem SameEnd.imp {wider : σ → σ → Prop} {first second : EStateM.Result ε σ α}
    (same : SameEnd related first second)
    (weaken : ∀ state other, related state other → wider state other) :
    SameEnd wider first second := by
  cases same with
  | ok relates => exact .ok (weaken _ _ relates)
  | error relates => exact .error (weaken _ _ relates)

/-- From related states the part ends in the same way and leaves related states, as long as the first
run stops only for an allowed reason. -/
def Alongside (related : σ → σ → Prop) (allowed : ε → Prop) (part : EStateM ε σ α) : Prop :=
  ∀ state other, related state other → StopsOnly allowed part state →
    SameEnd related (part state) (part other)

theorem SameEnd.bind {beside : EStateM ε σ α} {next : α → EStateM ε σ β} {state other : σ}
    (first : SameEnd related (part state) (beside other))
    (rest : ∀ value after last, part state = .ok value after → related after last →
      SameEnd related (next value after) (next value last)) :
    SameEnd related ((part >>= next) state) ((beside >>= next) other) := by
  generalize ran : part state = left at first rest
  generalize ranToo : beside other = right at first
  cases first with
  | ok relates =>
    rw [bind_of_ok ran, bind_of_ok ranToo]
    exact rest _ _ _ rfl relates
  | error relates =>
    rw [bind_of_error ran, bind_of_error ranToo]
    exact .error relates

theorem Alongside.bind {next : α → EStateM ε σ β} (first : Alongside related allowed part)
    (rest : ∀ value, Alongside related allowed (next value)) :
    Alongside related allowed (part >>= next) :=
  fun state other relates stops => (first state other relates stops.first).bind
    fun value after last ran relates => rest value after last relates (stops.rest ran)

theorem alongside_pure (value : α) : Alongside related allowed (pure value) :=
  fun _ _ relates _ => .ok relates

theorem alongside_throw (cause : ε) :
    Alongside related allowed (throw cause : EStateM ε σ α) :=
  fun _ _ relates _ => .error relates

/-- What a part maintains two runs of it have in common. -/
theorem Maintains.alongside {kept : σ → Prop} (maintains : Maintains kept part) :
    Alongside (fun state other => state = other ∧ kept state) allowed part := by
  rintro state _ ⟨rfl, holds⟩ -
  have left := maintains state holds
  cases ran : part state with
  | ok value after => exact .ok ⟨rfl, stateAfter_ok ran ▸ left⟩
  | error cause after => exact .error ⟨rfl, stateAfter_error ran ▸ left⟩

theorem Alongside.maintains {kept : σ → Prop}
    (alongside : Alongside (fun state other => state = other ∧ kept state) (fun _ => True) part) :
    Maintains kept part :=
  fun state holds => (alongside state state ⟨rfl, holds⟩ fun _ _ _ => trivial).stateAfter.2

end Alongside

/-! ### Loops -/

/-- A loop keeps what each of its parts keeps, or ends with an error of one of them. -/
theorem foldlM_keeps {next : β → α → Except ε β} {kept : β → Prop} {stops : ε → Prop}
    (step : ∀ state item, kept state →
      (∃ after, next state item = .ok after ∧ kept after) ∨
        ∃ cause, next state item = .error cause ∧ stops cause)
    (items : List α) {state : β} (start : kept state) :
    (∃ after, items.foldlM next state = .ok after ∧ kept after) ∨
      ∃ cause, items.foldlM next state = .error cause ∧ stops cause := by
  induction items generalizing state with
  | nil => exact Or.inl ⟨state, rfl, start⟩
  | cons item rest ih =>
    rw [List.foldlM_cons]
    rcases step state item start with ⟨after, same, holds⟩ | ⟨cause, same, stop⟩
    · rw [same]
      exact ih holds
    · rw [same]
      exact Or.inr ⟨cause, rfl, stop⟩

/-- A loop that succeeds keeps what each of its parts keeps when it succeeds. -/
theorem foldlM_ok_keeps {next : β → α → Except ε β} {kept : β → Prop}
    (step : ∀ state item after, kept state → next state item = .ok after → kept after)
    (items : List α) {state after : β} (start : kept state)
    (ran : items.foldlM next state = .ok after) : kept after := by
  induction items generalizing state with
  | nil =>
    cases ran
    exact start
  | cons item rest ih =>
    rw [List.foldlM_cons] at ran
    obtain ⟨middle, first, others⟩ := bind_eq_ok.mp ran
    exact ih (step state item middle start first) others

/-- Loops are the same where their parts are, as long as something is kept. -/
theorem foldlM_congr_of_keeps {next other : β → α → Except ε β} {kept : β → Prop}
    (same : ∀ state item, kept state → next state item = other state item)
    (keeps : ∀ state item after, kept state → other state item = .ok after → kept after)
    (items : List α) {state : β} (start : kept state) :
    items.foldlM next state = items.foldlM other state := by
  induction items generalizing state with
  | nil => rfl
  | cons item rest ih =>
    rw [List.foldlM_cons, List.foldlM_cons, same state item start]
    cases ran : other state item with
    | error cause => rfl
    | ok after => exact ih (keeps state item after start ran)

theorem forM_eq_ok {check : α → Except ε Unit} {items : List α} :
    items.forM check = .ok () ↔ ∀ item ∈ items, check item = .ok () := by
  induction items with
  | nil => exact iff_of_true rfl fun _ member => (nomatch member)
  | cons item rest ih =>
    show (check item >>= fun _ => rest.forM check) = .ok () ↔ _
    rw [bind_eq_ok, List.forall_mem_cons, ← ih]
    exact ⟨fun ⟨⟨⟩, first, others⟩ => ⟨first, others⟩, fun ⟨first, others⟩ => ⟨(), first, others⟩⟩

theorem exists_of_forM_eq_error {check : α → Except ε Unit} {items : List α} {cause : ε}
    (stopped : items.forM check = .error cause) : ∃ item ∈ items, check item = .error cause := by
  induction items with
  | nil => cases stopped
  | cons item rest ih =>
    rcases cases_of_bind_eq_error stopped with failed | ⟨_, _, failed⟩
    · exact ⟨item, List.mem_cons_self, failed⟩
    · obtain ⟨other, member, failed⟩ := ih failed
      exact ⟨other, List.mem_cons_of_mem _ member, failed⟩

/-- A loop goes alongside another one that succeeds, if each of its parts does. -/
theorem foldlM_alongside {γ : Type} {next : β → α → Except ε β} {other : γ → α → Except ε γ}
    (related : β → γ → Prop)
    (step : ∀ state beside item after, related state beside → next state item = .ok after →
      ∃ last, other beside item = .ok last ∧ related after last)
    (items : List α) {state after : β} {beside : γ} (start : related state beside)
    (ran : items.foldlM next state = .ok after) :
    ∃ last, items.foldlM other beside = .ok last ∧ related after last := by
  induction items generalizing state beside with
  | nil =>
    cases ran
    exact ⟨beside, rfl, start⟩
  | cons item rest ih =>
    rw [List.foldlM_cons] at ran
    obtain ⟨middle, first, others⟩ := bind_eq_ok.mp ran
    obtain ⟨reached, same, holds⟩ := step state beside item middle start first
    rw [List.foldlM_cons, same]
    exact ih holds others

end ObjectLedger
