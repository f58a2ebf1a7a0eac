import EverTrace.Lib.Guard
/-!
# Store errors and projection rows (`evertrace-store/src/command.rs`, `objects.rs`)

A projection is persisted as object rows: one row carries one payload and a few
columns derived from it, which are checked again when the row is read back.
The payload is kept decoded.
-/
namespace EverTrace.L2.Store

/-- The store errors the ledgers and the proposal maps can answer with.
mirrors evertrace-store/src/command.rs:2060-2096 -/
inductive StoreError where
  | invalidInput
  | idempotencyConflict
  | storeCorrupt
  | serialization
  deriving DecidableEq, Repr

/-- mirrors evertrace-store/src/objects.rs:11-14 -/
inductive ObjectRowKind where
  | data
  | checkpoint
  deriving DecidableEq, Repr

/-- mirrors evertrace-store/src/objects.rs:34-38 -/
inductive ObjectRowClass where
  | object
  | runtime
  | projection
  deriving DecidableEq, Repr

/-- A row with the columns its readers check, and its decoded payload.
mirrors evertrace-store/src/objects.rs:256-278 -/
structure ObjectRow (ρ : Type) where
  rowId : String
  rowKind : ObjectRowKind
  rowClass : Option ObjectRowClass
  objectFamily : Option String
  objectKind : Option String
  objectId : Option String
  currentRevisionId : Option String
  lifecycle : Option String
  authority : Option String
  repositoryId : Option String
  payload : ρ
  sourceEventSeq : Nat
  projectionGeneration : Nat

end EverTrace.L2.Store
