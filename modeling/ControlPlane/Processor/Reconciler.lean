import ControlPlane.Ledger.Storage
import ControlPlane.Processor.Accounting

/-! `Reconciler.Reconcile` (`internal/processor/processor.go`) as a program over its two
repositories. Nothing is said here about how the calls are answered. -/
namespace ControlPlane.Processor
open Go Ledger Effect Effect.Program

abbrev Reconciling := Program RepositoryCall.Reply (Except Error Unit)

-- The methods of `ledger.TransactionRepository` and `ledger.ReconciledStateRepository`.
def insertCall (txn : Transaction) : Program RepositoryCall.Reply (Except Error Transaction) :=
  perform (RepositoryCall.insert txn)

def getByEventIDCall (eventID : UUID) : Program RepositoryCall.Reply (Except Error Transaction) :=
  perform (RepositoryCall.getByEventID eventID)

def getStateCall (tenantID instrument : Bytes) : Program RepositoryCall.Reply (Except Error ReconciledState) :=
  perform (RepositoryCall.getState tenantID instrument)

def upsertCall (state : ReconciledState) : Program RepositoryCall.Reply (Except Error Unit) :=
  perform (RepositoryCall.upsert state)

-- The watermark of the state has already reached the transaction.
def alreadyFolded (state : ReconciledState) (inserted : Transaction) : Bool :=
  match state.lastTransactionID with
  | some last => last ≥ inserted.id
  | none => false

def afterUpsert : Except Error Unit → Reconciling
  | .ok () => return .ok ()
  | .error err =>
    if err.is errStaleReconciledState then return .ok ()
    else return .error (.wrap "reconcile: upsert reconciled state: %w" [] err)

def upsertFolded (updated : ReconciledState) : Reconciling := do afterUpsert (← upsertCall updated)

def foldInserted (inserted : Transaction) (state : ReconciledState) : Reconciling :=
  if alreadyFolded state inserted then return .ok ()
  else match applyTransaction state inserted with
    | .ok updated => upsertFolded updated
    | .error err => return .error (.wrap "reconcile: apply transaction %s: %w" [.bytes inserted.eventID.toList] err)

def afterGetState (inserted : Transaction) : Except Error ReconciledState → Reconciling
  | .ok state => foldInserted inserted state
  | .error err =>
    if err.is errNotFound then foldInserted inserted (.zero inserted.tenantID inserted.instrument)
    else return .error (.wrap "reconcile: get reconciled state: %w" [] err)

def reconcileInserted (inserted : Transaction) : Reconciling := do
  afterGetState inserted (← getStateCall inserted.tenantID inserted.instrument)

def afterGetByEventID : Except Error Transaction → Reconciling
  | .ok inserted => reconcileInserted inserted
  | .error err => return .error (.wrap "reconcile: get duplicate transaction: %w" [] err)

def reconcileDuplicate (txn : Transaction) : Reconciling := do
  afterGetByEventID (← getByEventIDCall txn.eventID)

def afterInsert (txn : Transaction) : Except Error Transaction → Reconciling
  | .ok inserted => reconcileInserted inserted
  | .error err =>
    if err.is errDuplicateEvent then reconcileDuplicate txn
    else return .error (.wrap "reconcile: insert transaction: %w" [] err)

def reconcile (txn : Transaction) : Reconciling := do afterInsert txn (← insertCall txn)

theorem reconcile_eq (txn : Transaction) : reconcile txn = .call (.insert txn) (afterInsert txn) := rfl

theorem reconcileDuplicate_eq (txn : Transaction) :
    reconcileDuplicate txn = .call (.getByEventID txn.eventID) afterGetByEventID := rfl

theorem reconcileInserted_eq (inserted : Transaction) : reconcileInserted inserted =
    .call (.getState inserted.tenantID inserted.instrument) (afterGetState inserted) := rfl

theorem upsertFolded_eq (updated : ReconciledState) :
    upsertFolded updated = .call (.upsert updated) afterUpsert := rfl

end ControlPlane.Processor
