import ControlPlane.Go.Values

/-! The ledger's domain model (`internal/ledger`). Amounts are `int64` values scaled by
`amountScale`. The columns filled by the database clock, `received_at` and `updated_at`,
are left out: no function of the services reads them. -/
namespace ControlPlane.Ledger
open Go

abbrev UUID := Vector UInt8 16

/-- An instant, in nanoseconds, and the zone offset it is displayed with. -/
structure Time where
  instant : Int
  zone : Int
  deriving DecidableEq, Repr

/-- `type Side string`: any text can be carried, two texts have a meaning. -/
structure Side where
  name : Bytes
  deriving DecidableEq, Repr

def sideBuy : Side := ⟨text "BUY"⟩

def sideSell : Side := ⟨text "SELL"⟩

structure Transaction where
  id : Int64
  eventID : UUID
  tenantID : Bytes
  schemaVersion : Int16
  instrument : Bytes
  side : Side
  quantity : Int64
  price : Int64
  currency : Bytes
  occurredAt : Time
  deriving DecidableEq, Repr

structure ReconciledState where
  tenantID : Bytes
  instrument : Bytes
  position : Int64
  averageCost : Int64
  realizedPnL : Int64
  lastTransactionID : Option Int64
  deriving DecidableEq, Repr

/-- The state of a key that has no row yet. -/
def ReconciledState.zero (tenantID instrument : Bytes) : ReconciledState :=
  ⟨tenantID,instrument,0,0,0,none⟩

/-- The trades of the examples, all of one instrument. -/
def sampleTrade (tenant : String) (tag : UInt8) (side : Side) (quantity price : Int64) : Transaction where
  id := 0
  eventID := Vector.replicate 16 tag
  tenantID := text tenant
  schemaVersion := 1
  instrument := text "BTC-USD"
  side
  quantity
  price
  currency := text "USD"
  occurredAt := ⟨0,0⟩

def errNotFound : Error := .new "ledger: not found"

def errDuplicateEvent : Error := .new "ledger: duplicate event id"

def errStaleReconciledState : Error := .new "ledger: reconciled state upsert is stale"

end ControlPlane.Ledger
