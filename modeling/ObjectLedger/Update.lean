/-
**Updates: facts about the state of objects.**

* `Update`: an object starts with a class tag and one update for each field; later transactions
  record the fields that they changed.
* `Update.key`: what an update is about. Of two updates of one object with the same key the newer
  one counts.
* `Update.order`: by object, then key with the class tag first, then content.
* `normalize`: values, such as updates, in increasing order, each of them once.
-/
import ObjectLedger.Signature

namespace ObjectLedger

/-- A fact about the state of an object. -/
inductive Update where
  /-- The class of the object and the transaction that installed the class. -/
  | classTag (object : ObjectRef) (className : String) (jar : TransactionRef)
  /-- A field of the object took a value. -/
  | field (object : ObjectRef) (field : FieldSignature) (value : Value)
  deriving DecidableEq, Repr, Inhabited

/-- What an update is about, whatever it says. -/
inductive UpdateKey where
  | classTag
  | field (field : FieldSignature)
  deriving DecidableEq, Repr, Inhabited

/-- The class tag first, then the fields in their order. -/
def UpdateKey.order : UpdateKey → UpdateKey → Ordering
  | classTag, classTag => .eq
  | classTag, field _ => .lt
  | field _, classTag => .gt
  | field first, field second => compare first second

instance : Ord UpdateKey := ⟨UpdateKey.order⟩

namespace Update

/-- The object that the update is about. -/
def object : Update → ObjectRef
  | classTag object _ _ => object
  | field object _ _ => object

/-- What the update is about, apart from the object. -/
def key : Update → UpdateKey
  | classTag _ _ _ => .classTag
  | field _ signature _ => .field signature

/-- The update is read together with its object. -/
def isEager : Update → Bool
  | classTag _ _ _ => true
  | field _ signature _ => signature.type.isEager

/-- The update tells the class of its object. -/
def isClassTag : Update → Bool
  | classTag _ _ _ => true
  | field _ _ _ => false

/-- Tags by class name and then jar, fields by value. Only updates with one key are compared. -/
def contentOrder : Update → Update → Ordering
  | classTag _ first firstJar, classTag _ second secondJar =>
    (compare first second).then (compare firstJar secondJar)
  | field _ _ first, field _ _ second => compare first second
  | _, _ => .eq

/-- By object, then key, then content. -/
def order : Update → Update → Ordering :=
  compareLex (compareOn object) (compareLex (compareOn key) contentOrder)

instance : Ord Update := ⟨order⟩

end Update

/-! ### Normal forms -/

variable {α : Type} [Ord α]

/-- Puts a value at its place among increasing ones, unless it is there already. -/
def insertOrdered (value : α) : List α → List α
  | [] => [value]
  | first :: rest =>
    match compare value first with
    | .lt => value :: first :: rest
    | .eq => first :: rest
    | .gt => first :: insertOrdered value rest

/-- The values in increasing order, each of them once. -/
def normalize (values : List α) : List α :=
  values.foldr insertOrdered []

end ObjectLedger
