import ControlPlane.Ledger.Types
import ControlPlane.Effect.Program

/-! The Postgres repositories (`internal/ledger/storage`) as operations on the two tables
of the migrations. Each repository call is one statement, hence one atomic step. The
`BIGSERIAL` sequence is never rolled back: every attempted insert draws a value, also one
that a constraint then rejects. -/
namespace ControlPlane.Ledger
open Go

-- `transactions`: the primary key, the unique event id and the sequence are carried by the type.
structure TransactionTable where
  rows : List Transaction
  sequence : Nat
  increasing : rows.Pairwise (fun earlier later => earlier.id.toInt < later.id.toInt)
  issued : ∀ row ∈ rows, row.id.toInt ≤ sequence
  unique : (rows.map (·.eventID)).Nodup

-- `reconciled_state`, keyed by (tenant_id, instrument).
structure Database where
  transactions : TransactionTable
  reconciledState : Bytes → Bytes → Option ReconciledState

def TransactionTable.empty : TransactionTable := ⟨[],0,.nil,by simp,.nil⟩

def Database.empty : Database := ⟨.empty,fun _ _ => none⟩

-- The CHECK constraints of 0001_create_transactions.up.sql.
def CheckConstraints (txn : Transaction) : Prop :=
  (txn.side = sideBuy ∨ txn.side = sideSell) ∧ 0 < txn.quantity ∧ 0 < txn.price

instance (txn : Transaction) : Decidable (CheckConstraints txn) := inferInstanceAs (Decidable (_ ∧ _))

-- Failures of the server, known by their SQLSTATE.
def pgSequenceLimit : Error := .new "SQLSTATE 2200H"

def pgCheckViolation : Error := .new "SQLSTATE 23514"

def pgForeignKeyViolation : Error := .new "SQLSTATE 23503"

namespace TransactionTable

def advance (table : TransactionTable) : TransactionTable :=
  {table with
    sequence := table.sequence + 1
    issued := fun row member => by have := table.issued row member; omega}

def nextID (table : TransactionTable) : Int64 := Int64.ofInt (table.sequence + 1)

theorem nextID_value (table : TransactionTable) (room : table.sequence + 1 < 2^63) :
    table.nextID.toInt = table.sequence + 1 :=
  ofInt64_value _ (by unfold FitsInt64; omega)

def append (table : TransactionTable) (txn : Transaction) (room : table.sequence + 1 < 2^63)
    (fresh : txn.eventID ∉ table.rows.map (·.eventID)) : TransactionTable where
  rows := table.rows ++ [{txn with id := table.nextID}]
  sequence := table.sequence + 1
  increasing := by
    refine List.pairwise_append.mpr ⟨table.increasing,by simp,?_⟩
    intro earlier member later last
    rw [List.mem_singleton.mp last,table.nextID_value room]
    have := table.issued earlier member
    omega
  issued := by
    intro row member
    rcases List.mem_append.mp member with old | last
    · have := table.issued row old
      omega
    · rw [List.mem_singleton.mp last,table.nextID_value room]
      omega
  unique := by
    rw [List.map_append]
    exact List.nodup_append.mpr ⟨table.unique,by simp,by
      intro event old other last
      rw [List.map_singleton,List.mem_singleton] at last
      rintro rfl
      exact fresh (last ▸ old)⟩

-- nextval, the CHECK constraints, then the unique index on event_id.
def insert (table : TransactionTable) (txn : Transaction) : Except Error Transaction × TransactionTable :=
  if room : table.sequence + 1 < 2^63 then
    if CheckConstraints txn then
      if fresh : txn.eventID ∉ table.rows.map (·.eventID) then
        (.ok {txn with id := table.nextID},table.append txn room fresh)
      else (.error errDuplicateEvent,table.advance)
    else (.error (.wrap "insert transaction: %w" [] pgCheckViolation),table.advance)
  else (.error (.wrap "insert transaction: %w" [] pgSequenceLimit),table)

def getByEventID (table : TransactionTable) (eventID : UUID) : Except Error Transaction :=
  match table.rows.find? (fun row => row.eventID = eventID) with
  | some row => .ok row
  | none => .error errNotFound

end TransactionTable

-- The WHERE clause of the upsert's conflict action; a NULL on its right never compares.
def advances : Option ReconciledState → Option Int64 → Bool
  | none,_ => true
  | some row,last => match row.lastTransactionID,last with
    | none,_ => true
    | some old,some new => old < new
    | some _,none => false

def references (table : TransactionTable) : Option Int64 → Bool
  | none => true
  | some id => table.rows.any (·.id = id)

namespace Database

def get (db : Database) (tenantID instrument : Bytes) : Except Error ReconciledState :=
  match db.reconciledState tenantID instrument with
  | some state => .ok state
  | none => .error errNotFound

def write (db : Database) (state : ReconciledState) : Database :=
  {db with reconciledState := fun tenantID instrument =>
    if tenantID = state.tenantID ∧ instrument = state.instrument then some state
    else db.reconciledState tenantID instrument}

theorem write_self (db : Database) (state : ReconciledState) :
    (db.write state).reconciledState state.tenantID state.instrument = some state := if_pos ⟨rfl,rfl⟩

theorem write_other (db : Database) {state : ReconciledState} {tenantID instrument : Bytes}
    (other : ¬(tenantID = state.tenantID ∧ instrument = state.instrument)) :
    (db.write state).reconciledState tenantID instrument = db.reconciledState tenantID instrument := if_neg other

def upsert (db : Database) (state : ReconciledState) : Except Error Unit × Database :=
  if advances (db.reconciledState state.tenantID state.instrument) state.lastTransactionID then
    if references db.transactions state.lastTransactionID then (.ok (),db.write state)
    else (.error (.wrap "upsert reconciled state: %w" [] pgForeignKeyViolation),db)
  else (.error errStaleReconciledState,db)

end Database

inductive RepositoryCall where
  | insert (txn : Transaction)
  | getByEventID (eventID : UUID)
  | getState (tenantID instrument : Bytes)
  | upsert (state : ReconciledState)

namespace RepositoryCall

def Reply : RepositoryCall → Type
  | .insert _ => Except Error Transaction
  | .getByEventID _ => Except Error Transaction
  | .getState _ _ => Except Error ReconciledState
  | .upsert _ => Except Error Unit

def fail (err : Error) : (op : RepositoryCall) → op.Reply
  | .insert _ => Except.error err
  | .getByEventID _ => Except.error err
  | .getState _ _ => Except.error err
  | .upsert _ => Except.error err

def execute (db : Database) : (op : RepositoryCall) → op.Reply × Database
  | .insert txn => ((db.transactions.insert txn).1,{db with transactions := (db.transactions.insert txn).2})
  | .getByEventID eventID => (db.transactions.getByEventID eventID,db)
  | .getState tenantID instrument => (db.get tenantID instrument,db)
  | .upsert state => db.upsert state

end RepositoryCall

-- An error that no caller tells apart: the connection, the server, the deadline.
def Infrastructure (err : Error) : Prop :=
  err.is errNotFound = false ∧ err.is errDuplicateEvent = false ∧ err.is errStaleReconciledState = false

/-- What a repository call may answer: the statement's own result, or an error that
strikes before or after the statement has taken effect. -/
inductive Answers (db : Database) : (op : RepositoryCall) → op.Reply → Database → Prop
  | served (op : RepositoryCall) : Answers db op (op.execute db).1 (op.execute db).2
  | failed (op : RepositoryCall) (err : Error) (infrastructure : Infrastructure err) :
      Answers db op (op.fail err) db
  | lost (op : RepositoryCall) (err : Error) (infrastructure : Infrastructure err) :
      Answers db op (op.fail err) (op.execute db).2

theorem insert_cases (table : TransactionTable) (txn : Transaction) :
    (∃ row, (table.insert txn).1 = .ok row ∧ row = {txn with id := row.id} ∧
      (table.insert txn).2.rows = table.rows ++ [row] ∧ txn.eventID ∉ table.rows.map (·.eventID)) ∨
    (∃ err, (table.insert txn).1 = .error err ∧ (table.insert txn).2.rows = table.rows ∧
      (err.is errDuplicateEvent = true → txn.eventID ∈ table.rows.map (·.eventID))) := by
  unfold TransactionTable.insert
  split
  · split
    · split
      · rename_i fresh
        exact Or.inl ⟨_,rfl,rfl,rfl,fresh⟩
      · rename_i stored
        exact Or.inr ⟨_,rfl,rfl,fun _ => not_not.mp stored⟩
    · exact Or.inr ⟨_,rfl,rfl,fun duplicate => absurd duplicate (by decide)⟩
  · exact Or.inr ⟨_,rfl,rfl,fun duplicate => absurd duplicate (by decide)⟩

theorem getByEventID_found (table : TransactionTable) (eventID : UUID) (row : Transaction)
    (found : table.getByEventID eventID = .ok row) : row ∈ table.rows ∧ row.eventID = eventID := by
  unfold TransactionTable.getByEventID at found
  split at found
  · rename_i row' located
    rw [← Except.ok.inj found]
    exact ⟨List.mem_of_find?_eq_some located,by simpa using List.find?_some located⟩
  · contradiction

theorem get_cases (db : Database) (tenantID instrument : Bytes) :
    (∃ state, db.reconciledState tenantID instrument = some state ∧ db.get tenantID instrument = .ok state) ∨
    (db.reconciledState tenantID instrument = none ∧ db.get tenantID instrument = .error errNotFound) := by
  unfold Database.get
  cases stored : db.reconciledState tenantID instrument with
  | some state => exact Or.inl ⟨state,rfl,rfl⟩
  | none => exact Or.inr ⟨rfl,rfl⟩

theorem upsert_cases (db : Database) (state : ReconciledState) :
    (db.upsert state = (.ok (),db.write state) ∧
      advances (db.reconciledState state.tenantID state.instrument) state.lastTransactionID = true) ∨
    (∃ err, db.upsert state = (.error err,db) ∧ (err.is errStaleReconciledState = true →
      advances (db.reconciledState state.tenantID state.instrument) state.lastTransactionID = false)) := by
  unfold Database.upsert
  split
  · rename_i advancing
    split
    · exact Or.inl ⟨rfl,advancing⟩
    · exact Or.inr ⟨_,rfl,fun stale => absurd stale (by decide)⟩
  · rename_i stale
    exact Or.inr ⟨_,rfl,fun _ => by simpa using stale⟩

end ControlPlane.Ledger
