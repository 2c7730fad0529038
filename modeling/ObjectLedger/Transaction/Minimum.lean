/-
**The least gas that lets a paid transaction start.**

* `minimalGas`: the base cost, the storage of the request and of a failed response, the loading of
  the classpath, and what the kind of transaction needs beyond that.
-/
import ObjectLedger.Code.Linking
import ObjectLedger.Codec.Record
import ObjectLedger.Gas.Cost

namespace ObjectLedger

/-- The response of a failed action. -/
def Action.failed : Action → Failure → Response
  | .installJar _ _, failure => .jar (.failed failure)
  | .construct _ _, failure => .constructorCall (.failed failure)
  | .invoke _ _ _, failure => .methodCall (.failed failure)
  | .invokeStatic _ _, failure => .methodCall (.failed failure)

namespace CostModel

/-- The CPU cost of loading a classpath: each unit, and the look-up of the transaction that
installed it. -/
def cpuOfClasspath (costs : CostModel) (classes : LinkedClasspath) : UInt64 :=
  let loading := classes.lengths.foldl
    (fun total length => saturatingAdd total (costs.cpuOfLoading length)) 0
  classes.transactions.foldl (fun total _ => saturatingAdd total costs.responseCpu) loading

/-- The RAM cost of loading a classpath. -/
def ramOfClasspath (costs : CostModel) (classes : LinkedClasspath) : UInt64 :=
  classes.lengths.foldl (fun total length => saturatingAdd total (costs.ramOfLoading length)) 0

end CostModel

/-- A failed response as large as that of a transaction with the given gas limit can be before it
is known what it says. -/
def placeholder (action : Action) (gasLimit : UInt64) : Response :=
  action.failed
    { updates := []
      gas := ⟨gasLimit, gasLimit, gasLimit⟩
      penalty := gasLimit
      cause := ⟨"placeholder", "placeholder"⟩ }

/-- The least gas that lets a transaction start; `extra` is what its kind needs beyond the rest. -/
def minimalGas (costs : CostModel) (request : Request) (action : Action) (gasLimit : UInt64)
    (classes : LinkedClasspath) (extra : UInt64) : UInt64 :=
  [costs.storageOfBytes request.size, costs.storageOfBytes (placeholder action gasLimit).size,
    costs.cpuOfClasspath classes, costs.ramOfClasspath classes, extra].foldl
      saturatingAdd costs.baseCpu

end ObjectLedger
