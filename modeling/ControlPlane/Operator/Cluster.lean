import ControlPlane.Effect.Fallible
import ControlPlane.Operator.Types
import Mathlib.Data.Finmap

/-! The cluster as the operator sees it: the `TradingTenant` objects, the objects that the
operator writes, and the transitions it has reported. `serve` is what the API server and the
metrics store answer to a call; every call is atomic, and one that fails has no effect. Of a
stored object the fields that the operator writes are kept, without what the server derives
from them; its resource version is the revision of the store that wrote it. -/
namespace ControlPlane.Operator
open Go Effect

abbrev StringMap := Finmap fun _ : String => String

structure OwnerReference where
  kind : String
  name : String
  uid : String
  deriving DecidableEq, Repr

structure ConfigMap where
  controller : Option OwnerReference
  labels : StringMap
  data : StringMap
  deriving DecidableEq

inductive EnvFromSource where
  | configMapRef (name : String)
  | secretRef (name : String)
  deriving DecidableEq, Repr

structure Toleration where
  key : String
  operator : String
  value : String
  effect : String
  deriving DecidableEq, Repr

structure EnvVar where
  name : String
  value : String
  deriving DecidableEq, Repr

structure Volume where
  name : String
  configMap : String
  optional : Bool
  deriving DecidableEq, Repr

structure VolumeMount where
  name : String
  mountPath : String
  readOnly : Bool
  deriving DecidableEq, Repr

structure ContainerPort where
  name : String
  containerPort : Int32
  deriving DecidableEq, Repr

structure Container where
  name : String
  image : String
  envFrom : List EnvFromSource
  env : List EnvVar
  volumeMounts : List VolumeMount
  ports : List ContainerPort
  deriving DecidableEq, Repr

structure PodTemplate where
  labels : StringMap
  nodeSelector : StringMap
  tolerations : List Toleration
  volumes : List Volume
  containers : List Container
  deriving DecidableEq

structure Deployment where
  controller : Option OwnerReference
  labels : StringMap
  selector : Option StringMap
  replicas : Option Int32
  template : PodTemplate
  deriving DecidableEq

structure ServicePort where
  name : String
  port : Int32
  targetPort : Int32
  deriving DecidableEq, Repr

structure Service where
  controller : Option OwnerReference
  labels : StringMap
  selector : StringMap
  ports : List ServicePort
  deriving DecidableEq

inductive Kind where
  | configMap
  | deployment
  | service
  deriving DecidableEq, Repr

def Kind.Object : Kind → Type
  | .configMap => ConfigMap
  | .deployment => Deployment
  | .service => Service

instance (kind : Kind) : DecidableEq kind.Object :=
  match kind with
  | .configMap => inferInstanceAs (DecidableEq ConfigMap)
  | .deployment => inferInstanceAs (DecidableEq Deployment)
  | .service => inferInstanceAs (DecidableEq Service)

-- The text of `%T`.
def Kind.typeName : Kind → String
  | .configMap => "*v1.ConfigMap"
  | .deployment => "*v1.Deployment"
  | .service => "*v1.Service"

-- The object that `CreateOrUpdate` fills when there is none yet.
def Kind.blank : (kind : Kind) → kind.Object
  | .configMap => ConfigMap.mk none ∅ ∅
  | .deployment => Deployment.mk none ∅ none none ⟨∅,∅,[],[],[]⟩
  | .service => Service.mk none ∅ ∅ []

structure Stored (α : Type) where
  object : α
  resourceVersion : Nat
  deriving DecidableEq

inductive EventType where
  | normal
  | warning
  deriving DecidableEq, Repr

-- A Kubernetes Event, with which the transition counter of its reason goes up by one.
structure Signal where
  tenant : NamespacedName
  eventType : EventType
  reason : String
  format : String
  operands : List Operand
  deriving DecidableEq, Repr

structure Cluster where
  tenants : NamespacedName → Option TradingTenant
  objects : (kind : Kind) → NamespacedName → Option (Stored kind.Object)
  revision : Nat
  signals : List Signal
  named : ∀ key tenant, tenants key = some tenant → tenant.key = key

namespace Cluster

def empty : Cluster := ⟨fun _ => none,fun _ _ => none,0,[],nofun⟩

def putTenant (cluster : Cluster) (tenant : TradingTenant) : Cluster :=
  {cluster with
    tenants := fun key => if key = tenant.key then some tenant else cluster.tenants key
    named := by
      intro key found
      split
      · rename_i same
        rintro ⟨⟩
        exact same.symm
      · exact cluster.named key found}

def putObject (cluster : Cluster) (kind : Kind) (key : NamespacedName) (object : Option kind.Object) : Cluster :=
  {cluster with
    revision := cluster.revision + 1
    objects := Function.update cluster.objects kind
      (Function.update (cluster.objects kind) key (object.map (⟨·,cluster.revision + 1⟩)))}

def emit (cluster : Cluster) (signal : Signal) : Cluster := {cluster with signals := cluster.signals ++ [signal]}

end Cluster

-- The reasons of the API server's errors that the operator asks for.
def apiNotFound : Error := .new "NotFound"

def apiAlreadyExists : Error := .new "AlreadyExists"

def apiConflict : Error := .new "Conflict"

inductive OperationResult where
  | none
  | created
  | updated
  deriving DecidableEq, Repr

structure TenantLabel where
  name : String
  value : String
  deriving DecidableEq, Repr

inductive ApiCall where
  | getTenant (key : NamespacedName)
  | observedKafkaLag (label : TenantLabel)
  | observedP99Ms (label : TenantLabel)
  | observedPartitionCount (label : TenantLabel)
  | observedPartitionStart (label : TenantLabel)
  | updateTenant (tenant : TradingTenant)
  | updateStatus (tenant : TradingTenant)
  | createOrUpdate (kind : Kind) (key : NamespacedName) (mutate : kind.Object → Except Error kind.Object)
  | delete (kind : Kind) (key : NamespacedName)
  | get (kind : Kind) (key : NamespacedName)
  | create (kind : Kind) (key : NamespacedName) (object : kind.Object)
  | update (kind : Kind) (key : NamespacedName) (stored : Stored kind.Object)
  | record (signal : Signal)

def ApiCall.Value : ApiCall → Type
  | .getTenant _ => TradingTenant
  | .observedKafkaLag _ => Int64
  | .observedP99Ms _ => Int32
  | .observedPartitionCount _ => Int32
  | .observedPartitionStart _ => Int32
  | .updateTenant _ => TradingTenant
  | .updateStatus _ => Unit
  | .createOrUpdate _ _ _ => OperationResult
  | .delete _ _ => Unit
  | .get kind _ => Stored kind.Object
  | .create _ _ _ => Unit
  | .update _ _ _ => Unit
  | .record _ => Unit

namespace Cluster
variable (cluster : Cluster)

-- The spec is what an update of the main resource writes, the status what one of the subresource writes.
def updateTenant (tenant : TradingTenant) : Except Error TradingTenant × Cluster :=
  match cluster.tenants tenant.key with
  | none => (.error apiNotFound,cluster)
  | some current =>
    let next := {current with spec := tenant.spec}
    (.ok next,cluster.putTenant next)

def updateStatus (tenant : TradingTenant) : Except Error Unit × Cluster :=
  match cluster.tenants tenant.key with
  | none => (.error apiNotFound,cluster)
  | some current => (.ok (),cluster.putTenant {current with status := tenant.status})

-- `controllerutil.CreateOrUpdate`.
def createOrUpdate (kind : Kind) (key : NamespacedName) (mutate : kind.Object → Except Error kind.Object) :
    Except Error OperationResult × Cluster :=
  match cluster.objects kind key with
  | none => match mutate kind.blank with
    | .error err => (.error err,cluster)
    | .ok object => (.ok .created,cluster.putObject kind key (some object))
  | some stored => match mutate stored.object with
    | .error err => (.error err,cluster)
    | .ok object =>
      if object = stored.object then (.ok .none,cluster)
      else (.ok .updated,cluster.putObject kind key (some object))

def delete (kind : Kind) (key : NamespacedName) : Except Error Unit × Cluster :=
  match cluster.objects kind key with
  | none => (.error apiNotFound,cluster)
  | some _ => (.ok (),cluster.putObject kind key none)

def create (kind : Kind) (key : NamespacedName) (object : kind.Object) : Except Error Unit × Cluster :=
  match cluster.objects kind key with
  | none => (.ok (),cluster.putObject kind key (some object))
  | some _ => (.error apiAlreadyExists,cluster)

def update (kind : Kind) (key : NamespacedName) (stored : Stored kind.Object) : Except Error Unit × Cluster :=
  match cluster.objects kind key with
  | none => (.error apiNotFound,cluster)
  | some current =>
    if current.resourceVersion = stored.resourceVersion then
      (.ok (),cluster.putObject kind key (some stored.object))
    else (.error apiConflict,cluster)

def found {α : Type} : Option α → Except Error α
  | some value => .ok value
  | none => .error apiNotFound

def serve (obs : Observation) : (op : ApiCall) → Except Error op.Value × Cluster
  | .getTenant key => (found (cluster.tenants key),cluster)
  | .observedKafkaLag _ => (.ok obs.lag,cluster)
  | .observedP99Ms _ => (.ok obs.p99Ms,cluster)
  | .observedPartitionCount _ => (.ok obs.partitionCount,cluster)
  | .observedPartitionStart _ => (.ok obs.partitionStart,cluster)
  | .updateTenant tenant => cluster.updateTenant tenant
  | .updateStatus tenant => cluster.updateStatus tenant
  | .createOrUpdate kind key mutate => cluster.createOrUpdate kind key mutate
  | .delete kind key => cluster.delete kind key
  | .get kind key => (found (cluster.objects kind key),cluster)
  | .create kind key object => cluster.create kind key object
  | .update kind key stored => cluster.update kind key stored
  | .record signal => (.ok (),cluster.emit signal)

end Cluster

def ApiCall.Fallible : ApiCall → Prop
  | .record _ => False
  | _ => True

-- An error that says nothing about what is stored.
def Transport (err : Error) : Prop := err.is apiNotFound = false ∧ err.is apiAlreadyExists = false

/-- What a call may be answered while the observer reads `obs`; where there are `faults`, a call may fail. -/
inductive Answers (obs : Observation) (faults : Prop) (cluster : Cluster) :
    (op : ApiCall) → Except Error op.Value → Cluster → Prop
  | served (op : ApiCall) : Answers obs faults cluster op (cluster.serve obs op).1 (cluster.serve obs op).2
  | failed (op : ApiCall) (err : Error) (faulty : faults) (fallible : op.Fallible) (transport : Transport err) :
      Answers obs faults cluster op (.error err) cluster

abbrev Reconciling (α : Type) := Fallible Error ApiCall.Value α

def api (op : ApiCall) : Reconciling op.Value := Fallible.request op

abbrev Yields {α : Type} (obs : Observation) (faults : Prop) (cluster : Cluster) (action : Reconciling α)
    (result : Except Error α) (final : Cluster) : Prop := Fallible.Yields (Answers obs faults) cluster
  action result final

end ControlPlane.Operator
