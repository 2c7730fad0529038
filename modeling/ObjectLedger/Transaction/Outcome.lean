/-
**What becomes of a request.**

* `Outcome`: a response to record, after success, exception or failure, or a rejection.
* `Stop`, `Build`: a part of building an outcome; it ends early with a rejection or because the
  store cannot be used, and it may add to the linked classpaths that are kept.
-/
import ObjectLedger.Code.Cache
import ObjectLedger.Code.Linking
import ObjectLedger.Machine.Throwable
import ObjectLedger.Node.Config

namespace ObjectLedger

/-- Faults that no request is to blame for. -/
inductive InternalError where
  | store (cause : StoreError)
  /-- The store of a directory cannot be opened. -/
  | openStore (directory : String) (cause : StoreError)
  /-- Something was thrown where nothing can be thrown. -/
  | unexpectedThrowable (throwable : Throwable)
  /-- The response is not of the kind that its request leads to. -/
  | unexpectedResponse (reference : TransactionRef) (ending : Ending)
  | tooDeepDependencies
  /-- A text or a sequence is too long to be written. -/
  | unencodable (what : String) (cause : DecodeError)
  | unfinished
  deriving DecidableEq, Repr

/-- The name of an ending. -/
def Ending.toText : Ending → String
  | successful => "Successful"
  | exception => "Exception"
  | failed => "Failed"

/-- The wording of an internal fault. -/
def InternalError.message : InternalError → String
  | store cause => cause.message
  | openStore directory cause => "Failed to open store at " ++ directory ++ ": " ++ cause.message
  | unexpectedThrowable throwable => "unexpected throwable: " ++ throwable.cause.toText
  | unexpectedResponse reference ending =>
    "unexpected response at " ++ reference.toText ++ ": " ++ ending.toText
  | tooDeepDependencies => LinkError.tooDeep.message
  | unencodable what cause => "Failed to encode " ++ what ++ ": " ++ cause.message
  | unfinished => "the code did not end"

/-- What becomes of a request. -/
inductive Outcome where
  /-- The transaction succeeded, or ended with an exception. -/
  | completed (response : Response)
  /-- The transaction failed, and the caller paid for it. -/
  | failed (response : Response)
  /-- Nothing happened. -/
  | rejected (reason : String)
  deriving DecidableEq, Repr

/-- The wording of a rejection. -/
def rejectionText (reason : String) : String :=
  "transaction rejected: " ++ reason

/-- Why an outcome is not built any further. -/
inductive Stop where
  | rejected (reason : String)
  | internal (cause : InternalError)
  deriving DecidableEq, Repr

/-- The linked classpaths that are kept. -/
abbrev ClasspathCache := Cache (List Classpath) LinkedClasspath

/-- A part of building an outcome. -/
abbrev Build := EStateM Stop ClasspathCache

namespace Build

/-- Ends with a rejection. -/
def reject {α : Type} (reason : String) : Build α :=
  throw (.rejected reason)

/-- A computation that may stop. -/
def ofExcept {α : Type} : Except Stop α → Build α
  | .ok value => pure value
  | .error stop => throw stop

/-- A look into the store. -/
def ofStore {α : Type} : Except StoreError α → Build α
  | .ok value => pure value
  | .error cause => throw (.internal (.store cause))

/-- A check of a classpath. -/
def ofClasspath {α : Type} : Except ClasspathError α → Build α
  | .ok value => pure value
  | .error cause => reject cause.message

/-- The limits on the classpath of a request. -/
def limits (config : NodeConfig) : ClasspathLimits :=
  ⟨config.maxDependencies, config.maxDependenciesSize⟩

/-- Why linking stops the building of an outcome: a wrong classpath is a rejection. -/
def stopOfLink : LinkError → Stop
  | .classpath cause => .rejected cause.message
  | .store cause => .internal (.store cause)
  | .tooDeep => .internal .tooDeepDependencies

/-- Links classpaths, unless they are kept already. -/
def link (config : NodeConfig) (view : LedgerView) (classpaths : List Classpath) :
    Build LinkedClasspath := fun cache =>
  match cache.fetch classpaths (fun _ =>
      LinkedClasspath.link view classpaths (limits config)) with
  | (.ok linked, cache) => .ok linked cache
  | (.error cause, cache) => .error (stopOfLink cause) cache

/-- The outcome, or why there is none; a rejection is an outcome. -/
def settle (build : Build Outcome) (cache : ClasspathCache) :
    Except InternalError Outcome × ClasspathCache :=
  match build cache with
  | .ok outcome cache => (.ok outcome, cache)
  | .error (.rejected reason) cache => (.ok (.rejected reason), cache)
  | .error (.internal cause) cache => (.error cause, cache)

end Build

end ObjectLedger
