import ControlPlane.Corebreaker.Machine
import ControlPlane.Effect.Layers
import ControlPlane.Ledger.Storage

/-! The circuit breakers around the two repositories (`internal/ledger/breaker.go`), as a layer
over the repository calls. `Allow` and `Record` are one atomic step each, and between them the
call is passed on; the deadline that `ProbeContext` gives a probe shows as a failure of the call.
The decorators of a missing repository, which their constructors refuse, are left out. -/
namespace ControlPlane.Ledger
open Go Corebreaker Effect Effect.Program

def errCircuitOpen : Error := errOpen

/-- The breakers of one processor (`cmd/processor`). -/
inductive Breaker where
  | transactions
  | reconciledStates
  deriving DecidableEq, Repr

inductive BreakerOp where
  | allow (breaker : Breaker)
  | record (breaker : Breaker) (err : Option Error)

def BreakerOp.Reply : BreakerOp → Type
  | .allow _ => Bool × Bool
  | .record _ _ => Unit

abbrev Guarding (α : Type) := Program (Extended RepositoryCall.Reply BreakerOp.Reply) α

def ignoredForBreaker (err : Error) (sentinels : List Error) : Bool := sentinels.any err.is

-- What `recordResult` hands to the machine.
def reported (err : Option Error) (ignored : List Error) : Option Error :=
  err.filter fun err => !ignoredForBreaker err ignored

/-- The error of a reply. -/
def RepositoryCall.failure : (op : RepositoryCall) → op.Reply → Option Error
  | .insert _,.error err => some err
  | .getByEventID _,.error err => some err
  | .getState _ _,.error err => some err
  | .upsert _,.error err => some err
  | .insert _,.ok _ | .getByEventID _,.ok _ | .getState _ _,.ok _ | .upsert _,.ok _ => none

def allowCall (breaker : Breaker) : Guarding (Bool × Bool) := .call (.inr (.allow breaker)) .done

def passCall (op : RepositoryCall) : Guarding op.Reply := .call (.inl op) .done

def recordResult (breaker : Breaker) (err : Option Error) (ignored : List Error) : Guarding Unit :=
  .call (.inr (.record breaker (reported err ignored))) .done

def guarded (breaker : Breaker) (ignored : List Error) (op : RepositoryCall) : Guarding op.Reply := do
  let (allowed,_) ← allowCall breaker
  if allowed then
    let reply ← passCall op
    recordResult breaker (op.failure reply) ignored
    return reply
  else return op.fail errCircuitOpen

namespace TransactionRepositoryBreaker

def insert (txn : Transaction) : Guarding (Except Error Transaction) :=
  guarded .transactions [errDuplicateEvent] (.insert txn)

def getByEventID (eventID : UUID) : Guarding (Except Error Transaction) :=
  guarded .transactions [errNotFound] (.getByEventID eventID)

end TransactionRepositoryBreaker

namespace ReconciledStateRepositoryBreaker

def upsert (state : ReconciledState) : Guarding (Except Error Unit) :=
  guarded .reconciledStates [errStaleReconciledState] (.upsert state)

def get (tenantID instrument : Bytes) : Guarding (Except Error ReconciledState) :=
  guarded .reconciledStates [errNotFound] (.getState tenantID instrument)

end ReconciledStateRepositoryBreaker

/-- The layer that the two decorators are. -/
def guard : (op : RepositoryCall) → Guarding op.Reply
  | .insert txn => TransactionRepositoryBreaker.insert txn
  | .getByEventID eventID => TransactionRepositoryBreaker.getByEventID eventID
  | .getState tenantID instrument => ReconciledStateRepositoryBreaker.get tenantID instrument
  | .upsert state => ReconciledStateRepositoryBreaker.upsert state

namespace RepositoryCall

def breaker : RepositoryCall → Breaker
  | .insert _ | .getByEventID _ => .transactions
  | .getState _ _ | .upsert _ => .reconciledStates

/-- The outcomes of a call that its breaker does not count as failures. -/
def ignored : RepositoryCall → List Error
  | .insert _ => [errDuplicateEvent]
  | .getByEventID _ => [errNotFound]
  | .getState _ _ => [errNotFound]
  | .upsert _ => [errStaleReconciledState]

/-- What the breaker is told after the call. -/
def outcome (op : RepositoryCall) (reply : op.Reply) : Option Error := reported (op.failure reply) op.ignored

end RepositoryCall

theorem guard_eq (op : RepositoryCall) : guard op = guarded op.breaker op.ignored op := by
  cases op <;> rfl

def Refusal (op : RepositoryCall) (reply : op.Reply) : Prop := reply = op.fail errCircuitOpen

/-- Once the breaker has let the call through. -/
def admitted (op : RepositoryCall) : Guarding op.Reply :=
  .call (.inl op) fun reply => .call (.inr (.record op.breaker (op.outcome reply))) fun _ => .done reply

theorem guard_call (op : RepositoryCall) : guard op = .call (.inr (.allow op.breaker)) fun answer =>
    if answer.1 then admitted op else .done (op.fail errCircuitOpen) := by
  rw [guard_eq]
  unfold guarded
  refine congrArg (Program.call (Sum.inr (BreakerOp.allow op.breaker))) (funext fun answer => ?_)
  obtain ⟨allowed,isProbe⟩ := answer
  cases allowed <;> rfl

theorem admitted_waits (op : RepositoryCall) : Waiting Refusal op (admitted op) :=
  .pass _ fun _ => .own _ _ fun _ => .done

theorem guard_layered : Layered Refusal guard := by
  intro op
  refine ⟨_,_,guard_call op,.own _ _ ?_⟩
  rintro ⟨allowed,isProbe⟩
  cases allowed with
  | true => exact admitted_waits op
  | false => exact .refused _ rfl

theorem errCircuitOpen_infrastructure : Infrastructure errCircuitOpen :=
  ⟨by decide,by decide,by decide⟩

end ControlPlane.Ledger
