import ObjectLedger.Argument
import ObjectLedger.Base64
import ObjectLedger.Code.BaseLibrary
import ObjectLedger.Code.Cache
import ObjectLedger.Code.Instruction
import ObjectLedger.Code.Linking
import ObjectLedger.Codec.Basic
import ObjectLedger.Codec.Code
import ObjectLedger.Codec.Record
import ObjectLedger.Crypto.Digest
import ObjectLedger.Crypto.Ed25519
import ObjectLedger.Crypto.Sha2
import ObjectLedger.Crypto.Signature
import ObjectLedger.Gas.Charger
import ObjectLedger.Gas.Cost
import ObjectLedger.Hexadecimal
import ObjectLedger.Json.Basic
import ObjectLedger.Json.Parser
import ObjectLedger.Json.Rendering
import ObjectLedger.Machine.Arithmetic
import ObjectLedger.Machine.Frame
import ObjectLedger.Machine.Heap
import ObjectLedger.Machine.Primitive
import ObjectLedger.Machine.Step
import ObjectLedger.Machine.Throwable
import ObjectLedger.Node.Basic
import ObjectLedger.Node.Bootstrap
import ObjectLedger.Node.Config
import ObjectLedger.Node.Environment
import ObjectLedger.Node.Error
import ObjectLedger.Proofs.Code.Classes
import ObjectLedger.Proofs.Code.Closure
import ObjectLedger.Proofs.Code.Fields
import ObjectLedger.Proofs.Code.Hierarchy
import ObjectLedger.Proofs.Code.Linking
import ObjectLedger.Proofs.Code.Loading
import ObjectLedger.Proofs.Code.Overriding
import ObjectLedger.Proofs.Code.Relinking
import ObjectLedger.Proofs.Code.Writing
import ObjectLedger.Proofs.Codec.Canonical
import ObjectLedger.Proofs.Codec.Length
import ObjectLedger.Proofs.Codec.Records
import ObjectLedger.Proofs.Codec.RoundTrip
import ObjectLedger.Proofs.Codec.Signing
import ObjectLedger.Proofs.Codec.Units
import ObjectLedger.Proofs.Except
import ObjectLedger.Proofs.Gas.Accounts
import ObjectLedger.Proofs.Grouping
import ObjectLedger.Proofs.Json.Manifest
import ObjectLedger.Proofs.Machine.Calling
import ObjectLedger.Proofs.Machine.Closed
import ObjectLedger.Proofs.Machine.Composing
import ObjectLedger.Proofs.Machine.Course
import ObjectLedger.Proofs.Machine.Ending
import ObjectLedger.Proofs.Machine.Executing
import ObjectLedger.Proofs.Machine.Expression
import ObjectLedger.Proofs.Machine.Fields
import ObjectLedger.Proofs.Machine.Free
import ObjectLedger.Proofs.Machine.Halting
import ObjectLedger.Proofs.Machine.Hidden
import ObjectLedger.Proofs.Machine.Kept
import ObjectLedger.Proofs.Machine.Metering
import ObjectLedger.Proofs.Machine.Move
import ObjectLedger.Proofs.Machine.Operands
import ObjectLedger.Proofs.Machine.Paying
import ObjectLedger.Proofs.Machine.Reading
import ObjectLedger.Proofs.Machine.Recording
import ObjectLedger.Proofs.Machine.Richer
import ObjectLedger.Proofs.Machine.Running
import ObjectLedger.Proofs.Machine.Saving
import ObjectLedger.Proofs.Machine.Spending
import ObjectLedger.Proofs.Machine.Storage
import ObjectLedger.Proofs.Machine.Throwing
import ObjectLedger.Proofs.Machine.Value
import ObjectLedger.Proofs.Node.Atomicity
import ObjectLedger.Proofs.Node.Classes
import ObjectLedger.Proofs.Node.Coins
import ObjectLedger.Proofs.Node.Delivery
import ObjectLedger.Proofs.Node.Gas
import ObjectLedger.Proofs.Node.Installation
import ObjectLedger.Proofs.Node.Internal
import ObjectLedger.Proofs.Node.Memory
import ObjectLedger.Proofs.Node.Nonces
import ObjectLedger.Proofs.Node.Numbering
import ObjectLedger.Proofs.Node.Operating
import ObjectLedger.Proofs.Node.Readers
import ObjectLedger.Proofs.Node.Redelivery
import ObjectLedger.Proofs.Node.References
import ObjectLedger.Proofs.Node.Reloading
import ObjectLedger.Proofs.Node.Repair
import ObjectLedger.Proofs.Node.Responses
import ObjectLedger.Proofs.Node.Serving
import ObjectLedger.Proofs.Node.SetUp
import ObjectLedger.Proofs.Node.Submission
import ObjectLedger.Proofs.Node.Unobserved
import ObjectLedger.Proofs.Node.Viewing
import ObjectLedger.Proofs.Order
import ObjectLedger.Proofs.Store.Acceptance
import ObjectLedger.Proofs.Store.Agreement
import ObjectLedger.Proofs.Store.Arising
import ObjectLedger.Proofs.Store.Calls
import ObjectLedger.Proofs.Store.Catching
import ObjectLedger.Proofs.Store.Contents
import ObjectLedger.Proofs.Store.Counters
import ObjectLedger.Proofs.Store.Crash
import ObjectLedger.Proofs.Store.Directory
import ObjectLedger.Proofs.Store.Disk
import ObjectLedger.Proofs.Store.Extension
import ObjectLedger.Proofs.Store.Files
import ObjectLedger.Proofs.Store.Histories
import ObjectLedger.Proofs.Store.Live
import ObjectLedger.Proofs.Store.Log
import ObjectLedger.Proofs.Store.Mirror
import ObjectLedger.Proofs.Store.Naming
import ObjectLedger.Proofs.Store.Numbering
import ObjectLedger.Proofs.Store.Opening
import ObjectLedger.Proofs.Store.Pushing
import ObjectLedger.Proofs.Store.Redelivery
import ObjectLedger.Proofs.Store.Refusal
import ObjectLedger.Proofs.Store.Replay
import ObjectLedger.Proofs.Store.Requests
import ObjectLedger.Proofs.Store.Retry
import ObjectLedger.Proofs.Store.Shelf
import ObjectLedger.Proofs.Store.Tree
import ObjectLedger.Proofs.Store.Uncommitted
import ObjectLedger.Proofs.Table
import ObjectLedger.Proofs.Text.Hexadecimal
import ObjectLedger.Proofs.Text.Utf8
import ObjectLedger.Proofs.Transaction.Account
import ObjectLedger.Proofs.Transaction.Accounting
import ObjectLedger.Proofs.Transaction.Annotations
import ObjectLedger.Proofs.Transaction.Answers
import ObjectLedger.Proofs.Transaction.Budget
import ObjectLedger.Proofs.Transaction.Caching
import ObjectLedger.Proofs.Transaction.Calls
import ObjectLedger.Proofs.Transaction.Candidate
import ObjectLedger.Proofs.Transaction.Closed
import ObjectLedger.Proofs.Transaction.Custody
import ObjectLedger.Proofs.Transaction.Execution
import ObjectLedger.Proofs.Transaction.Faults
import ObjectLedger.Proofs.Transaction.Grounding
import ObjectLedger.Proofs.Transaction.Initial
import ObjectLedger.Proofs.Transaction.Installing
import ObjectLedger.Proofs.Transaction.Minimum
import ObjectLedger.Proofs.Transaction.Normal
import ObjectLedger.Proofs.Transaction.Purchase
import ObjectLedger.Proofs.Transaction.Rejection
import ObjectLedger.Proofs.Transaction.Settlement
import ObjectLedger.Proofs.Transaction.Viewing
import ObjectLedger.Reference
import ObjectLedger.Request
import ObjectLedger.Response
import ObjectLedger.Saturating
import ObjectLedger.Signature
import ObjectLedger.Store.Backend
import ObjectLedger.Store.Directory
import ObjectLedger.Store.Disk
import ObjectLedger.Store.Error
import ObjectLedger.Store.History
import ObjectLedger.Store.Layout
import ObjectLedger.Store.Ledger
import ObjectLedger.Store.Medium
import ObjectLedger.Store.Memory
import ObjectLedger.Store.Metrics
import ObjectLedger.Store.ObjectState
import ObjectLedger.Table
import ObjectLedger.Text.Blank
import ObjectLedger.Text.FixedPoint
import ObjectLedger.Text.Integer
import ObjectLedger.Text.Printable
import ObjectLedger.Text.Quoted
import ObjectLedger.Text.Utf8
import ObjectLedger.Transaction.Build
import ObjectLedger.Transaction.Initial
import ObjectLedger.Transaction.Minimum
import ObjectLedger.Transaction.Outcome
import ObjectLedger.Transaction.Paid
import ObjectLedger.Update
import ObjectLedger.Value
