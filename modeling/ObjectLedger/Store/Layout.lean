/-
**Where the records of a store are kept among files.**

One folder for each transaction holds its request, its response (in binary and as a text for
people) and the reason of its rejection; there is one file for the history of each object, and one
for the manifest.
-/
import ObjectLedger.Reference
import ObjectLedger.Store.Directory

namespace ObjectLedger.Layout

/-- The folder of all transactions. -/
def transactions : FilePath := ["transactions"]

/-- The folder of a transaction. -/
def transaction (reference : TransactionRef) : FilePath :=
  transactions ++ [reference.toText]

/-- The request of a transaction. -/
def request (reference : TransactionRef) : FilePath :=
  transaction reference ++ ["request.bcs"]

/-- The response of a transaction. -/
def response (reference : TransactionRef) : FilePath :=
  transaction reference ++ ["response.bcs"]

/-- The response of a transaction as a text. -/
def responseText (reference : TransactionRef) : FilePath :=
  transaction reference ++ ["response.txt"]

/-- The reason of a rejection. -/
def error (reference : TransactionRef) : FilePath :=
  transaction reference ++ ["error.txt"]

/-- The history of an object. -/
def history (object : ObjectRef) : FilePath :=
  ["histories", object.fileName ++ ".bcs"]

/-- The manifest. -/
def manifest : FilePath := ["manifest.json"]

/-- The path under which a file is written before it takes its place. -/
def temporary (path : FilePath) : FilePath :=
  path.dropLast ++ (path.getLast?.map (· ++ ".tmp")).toList

/-- A path with one more name; no separator follows an empty path or another separator. -/
def join (path name : String) : String :=
  if path.isEmpty || path.toList.getLast? = some '/' then path ++ name else path ++ "/" ++ name

/-- The path below a root, as a text. -/
def toText (root : String) (path : FilePath) : String :=
  path.foldl join root

end ObjectLedger.Layout
