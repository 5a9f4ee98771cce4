import ControlPlane.Go.Values

/-! The `TradingTenant` resource (`operator/api/v1alpha1`) and the decision table that the
reconciler classifies it by. Strings that Kubernetes stores are valid UTF-8. The per-pod
resource requests are left out: no function of the operator reads them. -/
namespace ControlPlane.Operator
open Go

inductive TradingTenantState where
  | stable
  | scaling
  | isolated
  | degraded
  deriving DecidableEq, Repr

def TradingTenantState.name : TradingTenantState → String
  | .stable => "Stable"
  | .scaling => "Scaling"
  | .isolated => "Isolated"
  | .degraded => "Degraded"

structure ScalingPolicy where
  kafkaLagThreshold : Int64
  p99LatencyThresholdMs : Int32
  deriving DecidableEq, Repr

structure IsolationPolicy where
  dedicatedNodePool : Bool
  deriving DecidableEq, Repr

structure TradingTenantSpec where
  tenantID : String
  minReplicas : Int32
  maxReplicas : Int32
  scaling : ScalingPolicy
  isolation : IsolationPolicy
  deriving DecidableEq, Repr

-- The state is absent until the first pass.
structure TradingTenantStatus where
  currentReplicas : Int32
  state : Option TradingTenantState
  observedKafkaLag : Int64
  observedP99Ms : Int32
  observedPartitionCount : Int32
  lastReconcileTime : Option Int
  deriving DecidableEq, Repr

structure NamespacedName where
  ns : String
  name : String
  deriving DecidableEq, Repr

structure TradingTenant where
  key : NamespacedName
  uid : String
  spec : TradingTenantSpec
  status : TradingTenantStatus
  deriving DecidableEq, Repr

def TradingTenant.isolated (tenant : TradingTenant) : Bool := tenant.spec.isolation.dedicatedNodePool

def TradingTenant.withIsolation (tenant : TradingTenant) (flag : Bool) : TradingTenant :=
  {tenant with spec := {tenant.spec with isolation := ⟨flag⟩}}

def TradingTenant.withStatus (tenant : TradingTenant) (status : TradingTenantStatus) : TradingTenant :=
  {tenant with status}

structure ReconcileDecision where
  state : TradingTenantState
  replicas : Int32
  setDedicatedNodePool : Bool
  deriving DecidableEq, Repr

def clampReplicas (value minimum maximum : Int32) : Int32 :=
  if value < minimum then minimum else if value > maximum then maximum else value

section
variable (spec : TradingTenantSpec) (baseline : Int32) (alreadyIsolated : Bool) (lag : Int64)
  (p99Ms partitionCount : Int32)

def lagHigh : Bool := lag > spec.scaling.kafkaLagThreshold

def latencyHigh : Bool := p99Ms > spec.scaling.p99LatencyThresholdMs

def classify : ReconcileDecision :=
  if lagHigh spec lag ∧ latencyHigh spec p99Ms then ⟨.scaling,spec.maxReplicas,false⟩
  else if lagHigh spec lag ∧ ¬latencyHigh spec p99Ms ∧ baseline < partitionCount then
    let target := if partitionCount < spec.maxReplicas then partitionCount else spec.maxReplicas
    ⟨.scaling,clampReplicas target spec.minReplicas spec.maxReplicas,false⟩
  else if lagHigh spec lag ∧ ¬latencyHigh spec p99Ms then ⟨.isolated,baseline,true⟩
  else if ¬lagHigh spec lag ∧ latencyHigh spec p99Ms then ⟨.degraded,baseline,false⟩
  else ⟨if alreadyIsolated then .isolated else .stable,baseline,false⟩

end

-- What the observer reads for the tenant during one pass.
structure Observation where
  lag : Int64
  p99Ms : Int32
  partitionCount : Int32
  partitionStart : Int32
  deriving DecidableEq, Repr

def TradingTenant.baseline (tenant : TradingTenant) : Int32 :=
  if tenant.status.currentReplicas < tenant.spec.minReplicas then tenant.spec.minReplicas
  else tenant.status.currentReplicas

-- The decision of `Reconcile` for a tenant and what is observed of it.
def decisionFor (tenant : TradingTenant) (lag : Int64) (p99Ms partitionCount : Int32) : ReconcileDecision :=
  classify tenant.spec tenant.baseline tenant.isolated lag p99Ms partitionCount

end ControlPlane.Operator
