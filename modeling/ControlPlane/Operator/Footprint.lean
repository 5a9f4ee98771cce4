import ControlPlane.Effect.Script
import ControlPlane.Operator.Reconciler

/-! What a reconcile pass for one tenant reads and writes, and the script of such a pass: the
isolation flag first, then the dedicated resources and the entry of the shared map, and the
status last. -/
namespace ControlPlane.Operator
open Go Effect Effect.Script

inductive Slot where
  | configMap
  | ingestion
  | processor
  | service
  deriving DecidableEq, Repr

namespace Slot

def kind : Slot → Kind
  | .configMap => .configMap
  | .ingestion => .deployment
  | .processor => .deployment
  | .service => .service

def key (tenant : TradingTenant) : Slot → NamespacedName
  | .configMap => dedicatedConfigMapName tenant
  | .ingestion => dedicatedIngestionName tenant
  | .processor => dedicatedProcessorName tenant
  | .service => dedicatedServiceName tenant

theorem key_congr {tenant other : TradingTenant} (same : tenant.key = other.key) (slot : Slot) :
    slot.key tenant = slot.key other := by
  cases slot <;> simp only [key,dedicatedConfigMapName,dedicatedIngestionName,dedicatedProcessorName,
    dedicatedServiceName,
    dedicatedName,same]

theorem apart (tenant : TradingTenant) {slot other : Slot} (different : slot ≠ other) :
    slot.kind ≠ other.kind ∨ slot.key tenant ≠ other.key tenant := by
  have named : dedicatedIngestionName tenant ≠ dedicatedProcessorName tenant := by
    intro same
    have names := congrArg NamespacedName.name same
    exact absurd ((String.append_right_inj _).mp names) (by decide)
  cases slot <;> cases other <;> simp_all [kind,key,eq_comm]

def suffix : Slot → String
  | .configMap => "-dedicated-partitions"
  | .ingestion => "-dedicated-ingestion"
  | .processor => "-dedicated-processor"
  | .service => "-dedicated"

def nameFor (key : NamespacedName) (slot : Slot) : NamespacedName := ⟨key.ns,key.name ++ slot.suffix⟩

theorem key_eq (tenant : TradingTenant) (slot : Slot) : slot.key tenant = slot.nameFor tenant.key := by
  cases slot <;> rfl

/-- No dedicated object is the shared map: the suffix of a tenant's ConfigMap alone is longer than its name. -/
theorem apart_shared (slot : Slot) (key : NamespacedName) (ns : String) :
    slot.kind ≠ .configMap ∨ slot.nameFor key ≠ sharedKey ns := by
  by_cases same : slot = .configMap
  · subst same
    refine Or.inr fun same => ?_
    have lengths := congrArg (fun name : NamespacedName => name.name.length) same
    simp only [nameFor,suffix,sharedKey,String.length_append] at lengths
    have own : "-dedicated-partitions".length = 21 := by decide
    have shared : tenantPartitionMapName.length = 20 := by decide
    omega
  · left
    cases slot <;> simp [kind] at same ⊢

end Slot

structure Footprint where
  tenant : TradingTenant
  objects : (slot : Slot) → Option slot.kind.Object
  mapping : Option (Except Error Mapping)

section represents
variable (json : MappingJson)

/-- The shared map of a namespace, as `decodeTenantPartitionMap` reads it. -/
def sharedMapping (cluster : Cluster) (ns : String) : Option (Except Error Mapping) :=
  (cluster.objects .configMap (sharedKey ns)).map fun stored => decodeTenantPartitionMap json (rawMapping stored.object)

/-- The entries of a shared map; there are none in a map that is absent. -/
def publishedOf : Option (Except Error Mapping) → Mapping
  | some (.ok mapping) => mapping
  | _ => ∅

def published (cluster : Cluster) (ns : String) : Mapping := publishedOf (sharedMapping json cluster ns)

/-- The tenant's part of a cluster that came from `origin` with these signals and no other tenant changed. -/
structure Represents (origin cluster : Cluster) (footprint : Footprint) (announced : List Signal) : Prop where
  tenant : cluster.tenants footprint.tenant.key = some footprint.tenant
  objects : ∀ slot : Slot, (cluster.objects slot.kind (slot.key footprint.tenant)).map Stored.object =
    footprint.objects slot
  mapping : sharedMapping json cluster footprint.tenant.key.ns = footprint.mapping
  signals : cluster.signals = origin.signals ++ announced
  others : ∀ key, key ≠ footprint.tenant.key → cluster.tenants key = origin.tenants key

def footprint (cluster : Cluster) (tenant : TradingTenant) : Footprint where
  tenant := tenant
  objects slot := (cluster.objects slot.kind (slot.key tenant)).map Stored.object
  mapping := sharedMapping json cluster tenant.key.ns

theorem represents_footprint {cluster : Cluster} {tenant : TradingTenant}
    (found : cluster.tenants tenant.key = some tenant) :
    Represents json cluster cluster (footprint json cluster tenant) [] :=
  ⟨found,fun _ => rfl,rfl,(List.append_nil _).symm,fun _ _ => rfl⟩

end represents

section cells

def flagCell : Cell Footprint Bool where
  get footprint := footprint.tenant.isolated
  set flag footprint := {footprint with tenant := footprint.tenant.withIsolation flag}
  get_set _ _ := rfl
  set_set _ _ _ := rfl

def statusCell : Cell Footprint TradingTenantStatus where
  get footprint := footprint.tenant.status
  set status footprint := {footprint with tenant := footprint.tenant.withStatus status}
  get_set _ _ := rfl
  set_set _ _ _ := rfl

def slotCell (slot : Slot) : Cell Footprint (Option slot.kind.Object) where
  get footprint := footprint.objects slot
  set object footprint := {footprint with objects := Function.update footprint.objects slot object}
  get_set _ _ := by simp
  set_set _ _ _ := by simp

def entryCell : Cell Footprint (Option (Except Error Mapping)) where
  get footprint := footprint.mapping
  set mapping footprint := {footprint with mapping}
  get_set _ _ := rfl
  set_set _ _ _ := rfl

theorem flag_apart_slot (slot : Slot) : flagCell.Apart (slotCell slot) := ⟨fun _ _ => rfl,fun _ _ _ => rfl⟩

theorem flag_apart_entry : flagCell.Apart entryCell := ⟨fun _ _ => rfl,fun _ _ _ => rfl⟩

theorem slot_apart_entry (slot : Slot) : (slotCell slot).Apart entryCell := ⟨fun _ _ => rfl,fun _ _ _ => rfl⟩

theorem slot_apart_slot {slot other : Slot} (different : slot ≠ other) : (slotCell slot).Apart (slotCell other) := by
  constructor
  · intro value footprint
    exact Function.update_of_ne different _ _
  · intro value written footprint
    simp only [slotCell,Function.update_comm different]

end cells

section writes

def changeMapping (mutate : Mapping → Mapping) : Option (Except Error Mapping) →
    Except Error (Option (Except Error Mapping))
  | none => .ok (if mutate ∅ = ∅ then none else some (.ok (mutate ∅)))
  | some (.error err) => .error err
  | some (.ok mapping) => .ok (some (.ok (mutate mapping)))

theorem changeMapping_idempotent {mutate : Mapping → Mapping}
    (once : ∀ mapping, mutate (mutate mapping) = mutate mapping)
    (value next : Option (Except Error Mapping)) (changed : changeMapping mutate value = .ok next) :
    changeMapping mutate next = .ok next := by
  cases value with
  | none =>
    cases changed
    split
    · rename_i empty
      simp [changeMapping,empty]
    · simp [changeMapping,once]
  | some read =>
    cases read with
    | error err => cases changed
    | ok mapping =>
      cases changed
      simp [changeMapping,once]

def entryWrite (mutate : Mapping → Mapping) : Write Error Footprint := entryCell.modify (changeMapping mutate)

def flagWrite (decision : ReconcileDecision) : Write Error Footprint :=
  flagCell.modify fun flag => .ok (flag || decision.setDedicatedNodePool)

def statusWrite (status : TradingTenantStatus) : Write Error Footprint := statusCell.modify fun _ => .ok status

end writes

section script
variable (rec : TradingTenantReconciler) (tenant : TradingTenant) (obs : Observation) (replicas : Int32)

def dedicated : (slot : Slot) → slot.kind.Object → Except Error slot.kind.Object
  | .configMap => dedicatedConfigMap tenant rec obs.partitionStart obs.partitionCount
  | .ingestion => dedicatedIngestionDeployment tenant rec replicas
  | .processor => dedicatedProcessorDeployment tenant rec replicas
  | .service => dedicatedService tenant rec

/-- The order in which the resources are written where the tenant is isolated, and deleted where it is not. -/
def slotOrder : Bool → List Slot
  | true => [.configMap,.ingestion,.processor,.service]
  | false => [.ingestion,.processor,.service,.configMap]

def settleSlot : Bool → (slot : Slot) → Option slot.kind.Object → Except Error (Option slot.kind.Object)
  | true,slot,object => some <$> dedicated rec tenant obs replicas slot (object.getD slot.kind.blank)
  | false,_,_ => .ok none

def settleMapping : Bool → Mapping → Mapping
  | true,mapping => mapping.insert tenant.spec.tenantID ⟨obs.partitionStart,obs.partitionCount⟩
  | false,mapping => mapping.erase tenant.spec.tenantID

def settleSignal : Bool → Signal
  | true => provisionedSignal tenant
  | false => tornDownSignal tenant

/-- Whether an object has still to be created, or to be deleted. -/
def unsettled {α : Type} : Bool → Option α → Bool
  | true,object => object.isNone
  | false,object => object.isSome

def Footprint.pending (footprint : Footprint) (isolating : Bool) : Bool :=
  (slotOrder isolating).any fun slot => unsettled isolating (footprint.objects slot)

abbrev PassScript := List (Item Error Footprint Signal)

def announceIf (condition : Bool) (signal : Signal) : PassScript := if condition then [.announce signal] else []

@[simp] theorem writes_announceIf (condition : Bool) (signal : Signal) : writes (announceIf condition signal) = [] := by
  cases condition <;> rfl

@[simp] theorem signals_announceIf (condition : Bool) (signal : Signal) :
    signals (announceIf condition signal) = if condition then [signal] else [] := by
  cases condition <;> rfl

def flagScript (decision : ReconcileDecision) : PassScript :=
  .write (flagWrite decision) :: announceIf (decision.setDedicatedNodePool && !tenant.isolated) (createdSignal tenant)

def slotWrite (isolating : Bool) (slot : Slot) : Write Error Footprint :=
  (slotCell slot).modify (settleSlot rec tenant obs replicas isolating slot)

def slotScript (isolating : Bool) : PassScript :=
  (slotOrder isolating).map fun slot => .write (slotWrite rec tenant obs replicas isolating slot)

def resourceScript (isolating pending : Bool) : PassScript :=
  slotScript rec tenant obs replicas isolating ++ (announceIf pending (settleSignal tenant isolating) ++
    [.write (entryWrite (settleMapping tenant obs isolating))])

def statusScript (decision : ReconcileDecision) (now : Int) : PassScript :=
  .write (statusWrite (settledStatus decision obs.lag obs.p99Ms obs.partitionCount now)) ::
    announceIf (some decision.state ≠ tenant.status.state) (stateSignal tenant tenant.status.state decision.state)

end script

/-- Whether a pass leaves the tenant isolated. -/
def TradingTenant.settlesIsolated (tenant : TradingTenant) (decision : ReconcileDecision) : Bool :=
  tenant.isolated || decision.setDedicatedNodePool

def TradingTenant.decision (tenant : TradingTenant) (obs : Observation) : ReconcileDecision :=
  decisionFor tenant obs.lag obs.p99Ms obs.partitionCount

/-- The script of a pass that finds the footprint as it is. -/
def passScript (rec : TradingTenantReconciler) (obs : Observation) (now : Int) (footprint : Footprint) : PassScript :=
  let tenant := footprint.tenant
  let decision := tenant.decision obs
  let isolating := tenant.settlesIsolated decision
  flagScript tenant decision ++
    (resourceScript rec tenant obs decision.replicas isolating (footprint.pending isolating) ++
      statusScript tenant obs decision now)

section tenant
variable {rec : TradingTenantReconciler} {tenant : TradingTenant} {obs : Observation} {replicas : Int32}
  {isolating : Bool} {footprint reached : Footprint}

theorem slots_keep_tenant {slots : List Slot}
    (applied : applyAll (slots.map (slotWrite rec tenant obs replicas isolating)) footprint = .ok reached) :
    reached.tenant = footprint.tenant := by
  refine applyAll_keeps (fun state => state.tenant = footprint.tenant) ?_ applied rfl
  intro change member state next same changed
  obtain ⟨slot,_,rfl⟩ := List.mem_map.mp member
  obtain ⟨value,_,rfl⟩ := Cell.modify_ok.mp changed
  exact same

theorem entry_keeps_tenant {mutate : Mapping → Mapping} (changed : entryWrite mutate footprint = .ok reached) :
    reached.tenant = footprint.tenant := by
  obtain ⟨value,_,rfl⟩ := Cell.modify_ok.mp changed
  rfl

theorem writes_slotScript :
    writes (slotScript rec tenant obs replicas isolating) =
      (slotOrder isolating).map (slotWrite rec tenant obs replicas isolating) := writes_map _ _

theorem writes_resourceScript (pending : Bool) :
    writes (resourceScript rec tenant obs replicas isolating pending) =
      (slotOrder isolating).map (slotWrite rec tenant obs replicas isolating) ++
        [entryWrite (settleMapping tenant obs isolating)] := by
  simp only [resourceScript,writes_append,writes_announceIf,writes_slotScript,List.nil_append]
  rfl

theorem resources_keep_tenant {pending : Bool}
    (applied : applyAll (writes (resourceScript rec tenant obs replicas isolating pending)) footprint = .ok reached) :
    reached.tenant = footprint.tenant := by
  rw [writes_resourceScript] at applied
  obtain ⟨middle,slots,entry⟩ := applyAll_append_ok.mp applied
  obtain ⟨last,changed,same⟩ := applyAll_cons_ok.mp entry
  cases same
  rw [entry_keeps_tenant changed,slots_keep_tenant slots]

end tenant

end ControlPlane.Operator
