/-
**The configuration of a node.**

* `NodeConfig`: the settings, each with a default.
* `NodeConfig.read`: the settings in a JSON file; missing ones take their default.
  `NodeConfig.Error.report`: why there are none; `NodeConfig.report_names_path`: and of which file.
* `NodeConfig.withEnvironment`: the settings that environment variables override.
-/
import ObjectLedger.Crypto.Signature
import ObjectLedger.Gas.Cost
import ObjectLedger.Json.Parser
import ObjectLedger.Node.Environment

namespace ObjectLedger

/-- The settings of a node. -/
structure NodeConfig where
  /-- The name of the chain that paid requests must carry. -/
  chainId : String := ""
  /-- The greatest number of code units of a classpath. -/
  maxDependencies : UInt64 := 20
  /-- The greatest size of all code units of a classpath, in bytes. -/
  maxDependenciesSize : UInt64 := 1000000
  /-- The greatest number of nested calls. -/
  maxCallDepth : UInt64 := 64
  /-- The greatest gas limit of a view. -/
  maxGasPerView : UInt64 := 1000000
  /-- The number of linked classpaths that are kept; none at all for zero. -/
  loaderCacheSize : UInt64 := 64
  /-- How the signatures of requests are checked. -/
  signature : SignatureAlgorithm := .empty
  /-- Commit after every transaction. -/
  autoCommit : Bool := true
  /-- The directory of the store, if it is kept in files. -/
  storeDir : Option String := none
  /-- The costs of transactions. -/
  gas : CostModel := {}
  deriving DecidableEq, Repr, Inhabited

namespace CostModel

/-- The parameters by the names they have in files, in order. -/
def named (costs : CostModel) : List (String × UInt64) :=
  [("cpu_base_transaction_cost", costs.baseCpu),
    ("storage_cost_per_byte", costs.storagePerByte),
    ("cpu_cost_for_getting_response", costs.responseCpu),
    ("cpu_cost_of_instruction", costs.instructionCpu),
    ("cpu_cost_of_field_access", costs.fieldAccessCpu),
    ("cpu_cost_of_invoke", costs.invokeCpu),
    ("cpu_cost_of_allocation", costs.allocationCpu),
    ("cpu_cost_of_native", costs.nativeCpu),
    ("ram_cost_of_object", costs.objectRam),
    ("ram_cost_of_field", costs.fieldRam),
    ("ram_cost_of_activation_record", costs.activationRam),
    ("ram_cost_of_activation_slot", costs.slotRam),
    ("ram_bytes_per_string_unit", costs.stringBytesPerRam),
    ("cpu_cost_for_loading_jar", costs.loadingCpu),
    ("cpu_bytes_per_loading_unit", costs.loadingBytesPerCpu),
    ("ram_cost_for_loading_jar", costs.loadingRam),
    ("ram_bytes_per_loading_unit", costs.loadingBytesPerRam),
    ("cpu_cost_for_installing_jar", costs.installingCpu),
    ("cpu_bytes_per_installing_unit", costs.installingBytesPerCpu),
    ("ram_cost_for_installing_jar", costs.installingRam),
    ("ram_bytes_per_installing_unit", costs.installingBytesPerRam)]

/-- The model whose parameters are given by name. -/
def ofLookup (value : String → UInt64 → UInt64) : CostModel :=
  let standard : CostModel := {}
  { baseCpu := value "cpu_base_transaction_cost" standard.baseCpu
    storagePerByte := value "storage_cost_per_byte" standard.storagePerByte
    responseCpu := value "cpu_cost_for_getting_response" standard.responseCpu
    instructionCpu := value "cpu_cost_of_instruction" standard.instructionCpu
    fieldAccessCpu := value "cpu_cost_of_field_access" standard.fieldAccessCpu
    invokeCpu := value "cpu_cost_of_invoke" standard.invokeCpu
    allocationCpu := value "cpu_cost_of_allocation" standard.allocationCpu
    nativeCpu := value "cpu_cost_of_native" standard.nativeCpu
    objectRam := value "ram_cost_of_object" standard.objectRam
    fieldRam := value "ram_cost_of_field" standard.fieldRam
    activationRam := value "ram_cost_of_activation_record" standard.activationRam
    slotRam := value "ram_cost_of_activation_slot" standard.slotRam
    stringBytesPerRam := value "ram_bytes_per_string_unit" standard.stringBytesPerRam
    loadingCpu := value "cpu_cost_for_loading_jar" standard.loadingCpu
    loadingBytesPerCpu := value "cpu_bytes_per_loading_unit" standard.loadingBytesPerCpu
    loadingRam := value "ram_cost_for_loading_jar" standard.loadingRam
    loadingBytesPerRam := value "ram_bytes_per_loading_unit" standard.loadingBytesPerRam
    installingCpu := value "cpu_cost_for_installing_jar" standard.installingCpu
    installingBytesPerCpu := value "cpu_bytes_per_installing_unit" standard.installingBytesPerCpu
    installingRam := value "ram_cost_for_installing_jar" standard.installingRam
    installingBytesPerRam := value "ram_bytes_per_installing_unit" standard.installingBytesPerRam }

/-- The model in a JSON value; missing parameters take their default. -/
def ofJson? (json : Json) : Option CostModel := do
  let names := (named {}).map Prod.fst
  let fields ← json.fields? names
  let values ← fields.mapM fun (name, value) => value.word?.map fun word => (name, word)
  return ofLookup fun name standard => (values.lookup name).getD standard

end CostModel

namespace NodeConfig

/-- The signature algorithm of a JSON value: its name, or an object from its name to null. -/
def algorithmOfJson? : Json → Option SignatureAlgorithm
  | .string name => name.bind SignatureAlgorithm.ofName?
  | .object [(name, .null)] => name.bind SignatureAlgorithm.ofName?
  | _ => none

/-- The directory of a JSON value, which may be null. -/
def directoryOfJson? : Json → Option (Option String)
  | .null => some none
  | .string directory => directory.map some
  | _ => none

/-- The names of the settings in files, in order. -/
def settingNames : List String :=
  ["chain_id", "max_dependencies", "max_dependencies_size", "max_call_depth", "max_gas_per_view",
    "loader_cache_size", "signature", "auto_commit", "store_dir", "gas"]

/-- The value of a setting; one that is missing keeps its value. -/
def setting {α : Type} (fields : List (String × Json)) (name : String) (read : Json → Option α)
    (present : α) : Option α :=
  match fields.lookup name with
  | none => some present
  | some value => read value

/-- The configuration with the settings in a JSON value in the place of its own. -/
def overridden? (config : NodeConfig) (json : Json) : Option NodeConfig := do
  let fields ← json.fields? settingNames
  return {
    chainId := ← setting fields "chain_id" Json.string? config.chainId
    maxDependencies := ← setting fields "max_dependencies" Json.word? config.maxDependencies
    maxDependenciesSize :=
      ← setting fields "max_dependencies_size" Json.word? config.maxDependenciesSize
    maxCallDepth := ← setting fields "max_call_depth" Json.word? config.maxCallDepth
    maxGasPerView := ← setting fields "max_gas_per_view" Json.word? config.maxGasPerView
    loaderCacheSize := ← setting fields "loader_cache_size" Json.word? config.loaderCacheSize
    signature := ← setting fields "signature" algorithmOfJson? config.signature
    autoCommit := ← setting fields "auto_commit" Json.boolean? config.autoCommit
    storeDir := ← setting fields "store_dir" directoryOfJson? config.storeDir
    gas := ← setting fields "gas" CostModel.ofJson? config.gas }

/-- The configuration in a JSON value; missing settings take their default. -/
def ofJson? (json : Json) : Option NodeConfig :=
  overridden? {} json

/-- Why there is no configuration in a file. -/
inductive Error where
  | unreadable (path : String)
  | malformed (path : String)
  deriving DecidableEq, Repr

/-- What could not be done; with this the report begins. -/
def Error.message : Error → String
  | unreadable path => "Failed to read config file " ++ path
  | malformed _ => "Failed to parse config file"

/-- The wording of a configuration that cannot be had, with what the system or the parser says of the
file. -/
def Error.report (detail : String) (error : Error) : String :=
  match error with
  | unreadable _ => error.message ++ ": " ++ detail
  | malformed path => error.message ++ " " ++ path ++ ": " ++ detail

/-- The configuration in a file whose contents are given, none if there is no such file. -/
def read (path : String) (contents : Option String) : Except Error NodeConfig :=
  match contents with
  | none => .error (.unreadable path)
  | some text =>
    match (Json.parse? text.toUTF8.toList).bind ofJson? with
    | some config => .ok config
    | none => .error (.malformed path)

/-- Whatever keeps a configuration from being read, the report names the file. -/
theorem report_names_path {path : String} {contents : Option String} {error : Error}
    (refused : read path contents = .error error) (detail : String) :
    ∃ before after, error.report detail = before ++ path ++ after := by
  unfold read at refused
  split at refused
  · cases refused
    exact ⟨"Failed to read config file ", ": " ++ detail, String.append_assoc ..⟩
  · split at refused
    · cases refused
    · cases refused
      exact ⟨"Failed to parse config file ", ": " ++ detail, String.append_assoc ..⟩

/-- The configuration with the settings of environment variables in the place of its own. -/
def withEnvironment (config : NodeConfig) (environment : Environment) : NodeConfig :=
  { config with
    chainId := (Environment.text? (environment "LEDGER_CHAIN_ID")).getD config.chainId
    maxDependencies :=
      (Environment.word? (environment "LEDGER_MAX_DEPENDENCIES")).getD config.maxDependencies
    maxDependenciesSize :=
      (Environment.word? (environment "LEDGER_MAX_DEPENDENCIES_SIZE")).getD
        config.maxDependenciesSize
    maxCallDepth :=
      (Environment.word? (environment "LEDGER_MAX_CALL_DEPTH")).getD config.maxCallDepth
    maxGasPerView :=
      (Environment.word? (environment "LEDGER_MAX_GAS_PER_VIEW")).getD config.maxGasPerView
    autoCommit := (Environment.flag? (environment "LEDGER_AUTO_COMMIT")).getD config.autoCommit
    storeDir := match Environment.text? (environment "LEDGER_STORE_DIR") with
      | some directory => some directory
      | none => config.storeDir }

end NodeConfig

end ObjectLedger
