/-
**The costs of a transaction, in units of gas.**

* `CostModel`: the parameters. More bytes, steps or slots never cost less, and a cost that does
  not fit a word is the greatest word.
* `CostModel.perUnit`: a fixed cost and one unit for so many bytes; a unit of no bytes is free.
-/
import ObjectLedger.Saturating

namespace ObjectLedger

/-- The parameters of all costs. -/
structure CostModel where
  /-- The fixed CPU cost of a transaction. -/
  baseCpu : UInt64 := 10
  /-- The storage cost of each byte of an encoded request or response. -/
  storagePerByte : UInt64 := 1
  /-- The CPU cost of fetching a response. -/
  responseCpu : UInt64 := 10
  /-- The CPU cost of an instruction. -/
  instructionCpu : UInt64 := 1
  /-- The CPU cost of reading or writing a field. -/
  fieldAccessCpu : UInt64 := 2
  /-- The CPU cost of calling a constructor or a method. -/
  invokeCpu : UInt64 := 10
  /-- The CPU cost of making an object. -/
  allocationCpu : UInt64 := 10
  /-- The CPU cost of calling a primitive. -/
  nativeCpu : UInt64 := 5
  /-- The RAM cost of an object without fields. -/
  objectRam : UInt64 := 4
  /-- The RAM cost of each field of a new object. -/
  fieldRam : UInt64 := 1
  /-- The RAM cost of an activation without locals. -/
  activationRam : UInt64 := 10
  /-- The RAM cost of each local of an activation. -/
  slotRam : UInt64 := 1
  /-- The bytes of a new text for one unit of RAM. -/
  stringBytesPerRam : UInt64 := 8
  /-- The fixed CPU cost of loading a code unit. -/
  loadingCpu : UInt64 := 10
  /-- The bytes of a loaded unit for one unit of CPU. -/
  loadingBytesPerCpu : UInt64 := 200
  /-- The fixed RAM cost of loading a code unit. -/
  loadingRam : UInt64 := 10
  /-- The bytes of a loaded unit for one unit of RAM. -/
  loadingBytesPerRam : UInt64 := 40
  /-- The fixed CPU cost of installing a code unit. -/
  installingCpu : UInt64 := 100
  /-- The bytes of an installed unit for one unit of CPU. -/
  installingBytesPerCpu : UInt64 := 400
  /-- The fixed RAM cost of installing a code unit. -/
  installingRam : UInt64 := 10
  /-- The bytes of an installed unit for one unit of RAM. -/
  installingBytesPerRam : UInt64 := 40
  deriving DecidableEq, Repr, Inhabited

namespace CostModel

/-- A fixed cost and one unit for so many bytes; bytes are free if a unit covers none. -/
def perUnit (fixed length bytesPerUnit : UInt64) : UInt64 :=
  if bytesPerUnit = 0 then fixed else saturatingAdd fixed (length / bytesPerUnit)

/-- The storage cost of encoded data. -/
def storageOfBytes (costs : CostModel) (bytes : UInt64) : UInt64 :=
  saturatingMul bytes costs.storagePerByte

/-- The RAM cost of an object with so many fields. -/
def ramOfObject (costs : CostModel) (fields : UInt64) : UInt64 :=
  saturatingAdd costs.objectRam (saturatingMul fields costs.fieldRam)

/-- The RAM cost of an activation with so many locals. -/
def ramOfActivation (costs : CostModel) (slots : UInt64) : UInt64 :=
  saturatingAdd costs.activationRam (saturatingMul slots costs.slotRam)

/-- The RAM cost of a new text, rounded up. -/
def ramOfString (costs : CostModel) (bytes : UInt64) : UInt64 :=
  if costs.stringBytesPerRam = 0 then 0
  else bytes / costs.stringBytesPerRam + if bytes % costs.stringBytesPerRam = 0 then 0 else 1

/-- The CPU cost of loading a code unit. -/
def cpuOfLoading (costs : CostModel) (length : UInt64) : UInt64 :=
  perUnit costs.loadingCpu length costs.loadingBytesPerCpu

/-- The RAM cost of loading a code unit. -/
def ramOfLoading (costs : CostModel) (length : UInt64) : UInt64 :=
  perUnit costs.loadingRam length costs.loadingBytesPerRam

/-- The CPU cost of installing a code unit. -/
def cpuOfInstalling (costs : CostModel) (length : UInt64) : UInt64 :=
  perUnit costs.installingCpu length costs.installingBytesPerCpu

/-- The RAM cost of installing a code unit. -/
def ramOfInstalling (costs : CostModel) (length : UInt64) : UInt64 :=
  perUnit costs.installingRam length costs.installingBytesPerRam

end CostModel

end ObjectLedger
