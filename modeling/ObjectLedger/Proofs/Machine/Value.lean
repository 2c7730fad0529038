/-
**What the fields of objects hold, whatever was loaded.**

* `LedgerView.value`: what a field holds in the store, or the default of its type.
* `LedgerView.valueAfter`: what it holds once a response is recorded.
* `Heap.value`: what a field holds in a running transaction: what the heap knows, or else what the
  store says. Loading an object and making one do not change it.
* `Heap.get?_eagerFields`, `Heap.get?_defaults`: the fields of loaded and of new objects.
* `Heap.setField_eq_bind`: to set a field is to check it, to check what a reference refers to and to
  store. What holds of the three holds of the whole.
-/
import ObjectLedger.Machine.Heap
import ObjectLedger.Proofs.Table

namespace ObjectLedger

/-! ### The store -/

namespace LedgerView

variable {view : LedgerView} {object : ObjectRef} {field : FieldSignature}

/-- What a field holds in the store, or the default of its type. -/
def value (view : LedgerView) (object : ObjectRef) (field : FieldSignature) : Value :=
  match view.field? object field with
  | .ok (some value) => value
  | _ => field.type.default

/-- What a field holds once a response is recorded. -/
def valueAfter (view : LedgerView) (response : Response) (object : ObjectRef)
    (field : FieldSignature) : Value :=
  ((response.updatesOf object).findSome? (valueOf? field)).getD (view.value object field)

theorem value_of_field? {found : Option Value} (read : view.field? object field = .ok found) :
    view.value object field = found.getD field.type.default := by
  unfold value
  rw [read]
  cases found <;> rfl

/-- Along entries, the first one that gives a value counts. -/
theorem fieldAlong_cons {entry : TransactionRef} {response : Response} (rest : List TransactionRef)
    (found : view.responseOf object entry = .ok response) :
    view.fieldAlong object field (entry :: rest) =
      ((response.updatesOf object).findSome? (valueOf? field)).elim
        (view.fieldAlong object field rest) fun value => .ok (some value) := by
  rw [fieldAlong, found]
  cases known : (response.updatesOf object).findSome? (valueOf? field) <;>
    simp [bind, Except.bind, pure, Except.pure, known]

/-- Updates that can be read along entries tell the fields. -/
theorem fieldAlong_of_updatesAlong {entries : List TransactionRef} {updates : List Update}
    (read : view.updatesAlong object entries = .ok updates) (field : FieldSignature) :
    view.fieldAlong object field entries = .ok (updates.findSome? (valueOf? field)) := by
  induction entries generalizing updates with
  | nil =>
    cases read
    rfl
  | cons entry rest ih =>
    rw [updatesAlong] at read
    cases found : view.responseOf object entry with
    | error cause =>
      rw [found] at read
      cases read
    | ok response =>
      rw [found] at read
      cases others : view.updatesAlong object rest with
      | error cause =>
        rw [others] at read
        cases read
      | ok older =>
        rw [others] at read
        cases read
        rw [List.findSome?_append, fieldAlong_cons rest found]
        cases (response.updatesOf object).findSome? (valueOf? field) with
        | some value => rfl
        | none => exact ih others

theorem field?_of_updatesAlong {history : List TransactionRef} {updates : List Update}
    (known : view.history object = .ok history)
    (read : view.updatesAlong object history = .ok updates) (field : FieldSignature) :
    view.field? object field = .ok (updates.findSome? (valueOf? field)) := by
  unfold field?
  rw [known]
  exact fieldAlong_of_updatesAlong read field

/-- An object without a history holds defaults. -/
theorem value_of_no_history (none : view.history object = .ok []) (field : FieldSignature) :
    view.value object field = field.type.default := by
  have read : view.field? object field = .ok .none := by
    unfold field?
    rw [none]
    rfl
  exact value_of_field? read

end LedgerView

namespace Heap

/-! ### Tables of fields -/

/-- The fields of a new object. -/
def defaults (fields : List FieldSignature) : Table FieldSignature Value :=
  fields.foldl (fun fields field => fields.insert field field.type.default) Table.empty

theorem get?_foldl_insert_default (fields : List FieldSignature)
    (table : Table FieldSignature Value) (field : FieldSignature) :
    (fields.foldl (fun fields field => fields.insert field field.type.default) table).get? field =
      if field ∈ fields then some field.type.default else table.get? field := by
  induction fields generalizing table with
  | nil => rfl
  | cons first rest ih =>
    rw [List.foldl_cons, ih, Table.get?_insert]
    by_cases member : field ∈ rest
    · simp [member]
    · by_cases same : field = first <;> simp [member, same]

theorem get?_defaults (fields : List FieldSignature) (field : FieldSignature) :
    (defaults fields).get? field = if field ∈ fields then some field.type.default else none :=
  get?_foldl_insert_default fields Table.empty field

theorem proper_foldl {α : Type} {next : Table FieldSignature Value → α → Table FieldSignature Value}
    (kept : ∀ table item, table.Proper → (next table item).Proper) (items : List α)
    {table : Table FieldSignature Value} (proper : table.Proper) :
    (items.foldl next table).Proper := by
  induction items generalizing table with
  | nil => exact proper
  | cons item rest ih => exact ih (kept table item proper)

theorem proper_defaults (fields : List FieldSignature) : (defaults fields).Proper :=
  proper_foldl (fun _ field proper => proper.insert field field.type.default) fields
    Table.proper_empty

/-- Where the first update of an eager field is kept, it is the one that counts. -/
theorem get?_foldl_given {next : Table FieldSignature Value → Update → Table FieldSignature Value}
    (skips : ∀ table object className jar, next table (.classTag object className jar) = table)
    (keeps : ∀ table object field value, next table (.field object field value) =
      if field.type.isEager && !table.contains field then table.insert field value else table)
    (updates : List Update) (table : Table FieldSignature Value) (field : FieldSignature) :
    (updates.foldl next table).get? field =
      if field.type.isEager then
        (table.get? field).or (updates.findSome? (LedgerView.valueOf? field))
      else table.get? field := by
  induction updates generalizing table with
  | nil => simp
  | cons update rest ih =>
    rw [List.foldl_cons, ih, List.findSome?_cons]
    cases update with
    | classTag object className jar =>
      rw [skips]
      rfl
    | field object other value =>
      rw [keeps]
      by_cases same : other = field
      · subst same
        by_cases eager : other.type.isEager = true
        · cases known : table.get? other with
          | none => simp [eager, known, Table.contains, LedgerView.valueOf?]
          | some earlier => simp [eager, known, Table.contains]
        · simp [eager]
      · have apart : (if other.type.isEager && !table.contains other then table.insert other value
            else table).get? field = table.get? field := by
          split
          · exact Table.get?_insert_of_ne _ _ fun h => same h.symm
          · rfl
        simp only [apart, LedgerView.valueOf?, if_neg same]

theorem get?_foldl_missing (fields : List FieldSignature) (table : Table FieldSignature Value)
    (field : FieldSignature) :
    (fields.foldl (fun table field =>
      if field.type.isEager && !table.contains field then table.insert field field.type.default
      else table) table).get? field =
      if field.type.isEager then
        (table.get? field).or (if field ∈ fields then some field.type.default else none)
      else table.get? field := by
  induction fields generalizing table with
  | nil => simp
  | cons first rest ih =>
    rw [List.foldl_cons, ih]
    by_cases same : field = first
    · subst same
      by_cases eager : field.type.isEager = true
      · cases known : table.get? field with
        | none => simp [eager, known, Table.contains]
        | some earlier => simp [eager, known, Table.contains]
      · simp [eager]
    · have apart : (if first.type.isEager && !table.contains first then
          table.insert first first.type.default else table).get? field = table.get? field := by
        split
        · exact Table.get?_insert_of_ne _ _ same
        · rfl
      simp only [apart, List.mem_cons, same, false_or]

/-- A loaded object has its eager fields: those that were updated, and those of its class. -/
theorem get?_eagerFields (updates : List Update) (fields : List FieldSignature)
    (field : FieldSignature) :
    (eagerFields updates fields).get? field =
      if field.type.isEager then
        (updates.findSome? (LedgerView.valueOf? field)).or
          (if field ∈ fields then some field.type.default else none)
      else none := by
  unfold eagerFields
  rw [get?_foldl_missing, get?_foldl_given (fun _ _ _ _ => rfl) (fun _ _ _ _ => rfl)]
  by_cases eager : field.type.isEager = true <;> simp [eager]

theorem proper_eagerFields (updates : List Update) (fields : List FieldSignature) :
    (eagerFields updates fields).Proper := by
  refine proper_foldl (fun table field proper => ?_) fields
    (proper_foldl (fun table update proper => ?_) updates Table.proper_empty)
  · split
    · exact proper.insert _ _
    · exact proper
  · split
    · split
      · exact proper.insert _ _
      · exact proper
    · exact proper

/-! ### The heap -/

/-- What a field holds in a running transaction. -/
def value (heap : Heap) (view : LedgerView) (object : ObjectRef) (field : FieldSignature) :
    Value :=
  ((heap.objects.get? object).bind fun loaded => loaded.fields.get? field).getD
    (view.value object field)

/-- The heap with another state of an object. -/
def put (heap : Heap) (object : ObjectRef) (loaded : HeapObject) : Heap :=
  { heap with objects := heap.objects.insert object loaded }

variable {heap : Heap} {view : LedgerView} {object other : ObjectRef} {loaded : HeapObject}
  {field : FieldSignature}

@[simp] theorem get?_put_self (heap : Heap) (object : ObjectRef) (loaded : HeapObject) :
    (heap.put object loaded).objects.get? object = some loaded :=
  Table.get?_insert_self ..

theorem get?_put_of_ne (heap : Heap) (loaded : HeapObject) (different : other ≠ object) :
    (heap.put object loaded).objects.get? other = heap.objects.get? other :=
  Table.get?_insert_of_ne _ _ different

theorem value_of_absent (absent : heap.objects.get? object = none) (field : FieldSignature) :
    heap.value view object field = view.value object field := by
  simp [value, absent]

theorem value_of_present (present : heap.objects.get? object = some loaded)
    (field : FieldSignature) :
    heap.value view object field =
      (loaded.fields.get? field).getD (view.value object field) := by
  simp [value, present]

theorem value_put_self (heap : Heap) (object : ObjectRef) (loaded : HeapObject)
    (field : FieldSignature) :
    (heap.put object loaded).value view object field =
      (loaded.fields.get? field).getD (view.value object field) :=
  value_of_present (get?_put_self ..) field

theorem value_put_of_ne (heap : Heap) (loaded : HeapObject) (different : other ≠ object)
    (field : FieldSignature) :
    (heap.put object loaded).value view other field = heap.value view other field := by
  unfold value
  rw [get?_put_of_ne _ _ different]

/-! ### How a field is set -/

/-- The check of a reference that is to be stored. -/
def checkTarget (context : Context) : Value → ValueType → Run Unit
  | .reference target, .object expected => do
    if !(← isInstance context target expected) then
      Run.fail (.classCast (target.toText ++ " is not a " ++ expected))
  | _, _ => pure ()

/-- The write itself; a field that is read late is read before. -/
def storeField (context : Context) (object : ObjectRef) (field : FieldSignature) (value : Value) :
    Run Unit := do
  if !field.type.isEager then
    discard (getField context object field)
  modifyObject context object fun loaded =>
    { loaded with fields := loaded.fields.insert field value }

theorem setField_eq_bind (context : Context) (object : ObjectRef) (field : FieldSignature)
    (value : Value) :
    setField context object field value = checkField context object field >>= fun _ =>
      if value.fits field.type = true then
        checkTarget context value field.type >>= fun _ => storeField context object field value
      else Run.fail (.classCast (value.toText ++ " cannot be stored into " ++ field.toText)) := by
  unfold setField
  refine bind_congr fun _ => ?_
  cases value.fits field.type with
  | false => rfl
  | true =>
    unfold storeField
    generalize field.type = type
    cases value with
    | reference target =>
      cases type with
      | object expected =>
        refine Eq.trans (bind_congr fun answer => ?_) (bind_assoc ..).symm
        cases answer <;> rfl
      | _ => rfl
    | _ => rfl

end Heap

end ObjectLedger
