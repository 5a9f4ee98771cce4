import ControlPlane.Ledger.Types

/-! The domain model of the ingestion service (`internal/ingestion/ingestion.go`). -/
namespace ControlPlane.Ingestion
open Go Ledger

def currentSchemaVersion : Int16 := 1

structure Event where
  eventID : UUID
  tenantID : Bytes
  schemaVersion : Int16
  instrument : Bytes
  side : Side
  quantity : Int64
  price : Int64
  currency : Bytes
  occurredAt : Time
  deriving DecidableEq, Repr

end ControlPlane.Ingestion
