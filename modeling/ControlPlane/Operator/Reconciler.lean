import ControlPlane.Operator.DedicatedPool
import ControlPlane.Operator.PartitionMap

/-! `TradingTenantReconciler.Reconcile` (`operator/internal/controller/tradingtenant_controller.go`)
as a program over the API server, the metrics store and the event recorder. A pass shares one
deadline, which shows in `rounds`. The duration metrics are left out. -/
namespace ControlPlane.Operator
open Go Effect Effect.Fallible

def reasonDedicatedPoolCreated : String := "DedicatedPoolCreated"

def reasonDedicatedPoolProvisioned : String := "DedicatedPoolProvisioned"

def reasonDedicatedPoolTornDown : String := "DedicatedPoolTornDown"

def defaultTenantLabelName : String := "tenant"

def defaultRequeueInterval : Int64 := 30000000000

structure Result where
  requeueAfter : Int64
  deriving DecidableEq, Repr

def eventTypeForState : TradingTenantState → EventType
  | .isolated | .degraded => .warning
  | .stable | .scaling => .normal

-- The text of `%s` for a namespaced name.
def NamespacedName.operand (key : NamespacedName) : Operand := .bytes (text (key.ns ++ "/" ++ key.name))

section
variable (key : NamespacedName) {α : Type}

def reconciling (step : String) (action : Reconciling α) : Reconciling α :=
  context (.wrap ("reconciling tradingtenant %s: " ++ step ++ ": %w") [key.operand]) action

end

section signals
variable (tenant : TradingTenant)

def poolSignal (reason format : String) : Signal :=
  ⟨tenant.key,.normal,reason,format,[.bytes (text tenant.spec.tenantID)]⟩

def createdSignal : Signal := poolSignal tenant reasonDedicatedPoolCreated "Tenant %s moved to a dedicated node pool"

def provisionedSignal : Signal :=
  poolSignal tenant reasonDedicatedPoolProvisioned "Dedicated node pool resources provisioned for tenant %s"

def tornDownSignal : Signal :=
  poolSignal tenant reasonDedicatedPoolTornDown "Dedicated node pool resources torn down for tenant %s"

def stateName : Option TradingTenantState → String
  | none => ""
  | some state => state.name

def stateSignal (oldState : Option TradingTenantState) (state : TradingTenantState) : Signal :=
  ⟨tenant.key,eventTypeForState state,state.name,"Tenant %s transitioned from %q to %q",
    [.bytes (text tenant.spec.tenantID),.bytes (text (stateName oldState)),.bytes (text state.name)]⟩

end signals

def recordTransition (signal : Signal) : Reconciling Unit := api (.record signal)

variable (json : MappingJson) (rec : TradingTenantReconciler) (rounds : Nat)

def TradingTenantReconciler.label (tenant : TradingTenant) : TenantLabel :=
  ⟨if rec.tenantLabelName = "" then defaultTenantLabelName else rec.tenantLabelName,tenant.spec.tenantID⟩

def updateIsolation (tenant : TradingTenant) : Reconciling TradingTenant :=
  api (.updateTenant (tenant.withIsolation true))

-- The isolation flag is written before anything else.
def flagIsolation (tenant : TradingTenant) (decision : ReconcileDecision) : Reconciling TradingTenant :=
  if decision.setDedicatedNodePool && !tenant.isolated then do
    let tenant ← reconciling tenant.key "updating isolation spec" (updateIsolation tenant)
    recordTransition (createdSignal tenant)
    return tenant
  else return tenant

def provision (tenant : TradingTenant) (partitionCount replicas : Int32) : Reconciling Unit := do
  let partitionStart ← reconciling tenant.key "observed partition start"
    (api (.observedPartitionStart (rec.label tenant)))
  let created ← reconciling tenant.key "ensuring dedicated pool"
    (ensureDedicatedPool rec tenant partitionStart partitionCount replicas)
  if created then recordTransition (provisionedSignal tenant)
  reconciling tenant.key "publishing tenant partition map entry"
    (ensureTenantPartitionMapEntry json tenant.key.ns tenant.spec.tenantID rounds partitionStart partitionCount)

def tearDown (tenant : TradingTenant) : Reconciling Unit := do
  let tornDown ← reconciling tenant.key "tearing down dedicated pool" (tearDownDedicatedPool tenant)
  if tornDown then recordTransition (tornDownSignal tenant)
  reconciling tenant.key "removing tenant partition map entry"
    (removeTenantPartitionMapEntry json tenant.key.ns tenant.spec.tenantID rounds)

def settledStatus (decision : ReconcileDecision) (lag : Int64) (p99Ms partitionCount : Int32) (now : Int) :
    TradingTenantStatus :=
  ⟨decision.replicas,some decision.state,lag,p99Ms,partitionCount,some now⟩

def publishStatus (tenant : TradingTenant) (oldState : Option TradingTenantState) (decision : ReconcileDecision)
    (status : TradingTenantStatus) : Reconciling Unit := do
  reconciling tenant.key "updating status" (api (.updateStatus (tenant.withStatus status)))
  if some decision.state ≠ oldState then recordTransition (stateSignal tenant oldState decision.state)

def reconcileTenant (now : Int) (tenant : TradingTenant) : Reconciling Result := do
  let lag ← reconciling tenant.key "observed kafka lag" (api (.observedKafkaLag (rec.label tenant)))
  let p99Ms ← reconciling tenant.key "observed p99 latency" (api (.observedP99Ms (rec.label tenant)))
  let partitionCount ← reconciling tenant.key "observed partition count"
    (api (.observedPartitionCount (rec.label tenant)))
  let decision := decisionFor tenant lag p99Ms partitionCount
  let oldState := tenant.status.state
  let tenant ← flagIsolation tenant decision
  if tenant.isolated then provision json rec rounds tenant partitionCount decision.replicas
  else tearDown json rounds tenant
  publishStatus tenant oldState decision (settledStatus decision lag p99Ms partitionCount now)
  return ⟨if rec.requeueInterval ≤ 0 then defaultRequeueInterval else rec.requeueInterval⟩

-- `client.IgnoreNotFound`: an object that is gone needs nothing.
def getTenant (key : NamespacedName) : Reconciling (Option TradingTenant) :=
  tryCatch (some <$> api (.getTenant key)) fun err =>
    if err.is apiNotFound then return none else throw err

def reconcile (now : Int) (key : NamespacedName) : Reconciling Result := do
  match ← getTenant key with
  | none => return ⟨0⟩
  | some tenant => reconcileTenant json rec rounds now tenant

end ControlPlane.Operator
