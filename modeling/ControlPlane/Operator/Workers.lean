import ControlPlane.Effect.Protocols
import ControlPlane.Operator.Lifecycle

/-! The workers of the controller: each runs the passes for one `TradingTenant` one after the
other, and any number of them run at the same time. What a pass does to the cluster is put as a
protocol: which objects it writes, that it holds the state it has read until it writes the next
one, and that it owes a report once it has written a different one. -/
namespace ControlPlane.Operator
open Go Effect Effect.Protocol

/-- The deadline and the clock of one pass. -/
structure PassTime where
  rounds : Nat
  now : Int
  deriving DecidableEq, Repr

/-- The passes over one name, whatever comes of each. -/
def passesOver (json : MappingJson) (rec : TradingTenantReconciler) (key : NamespacedName) :
    List PassTime → Program (fun op : ApiCall => Except Error op.Value) Unit
  | [] => .done ()
  | time::later => do
    let _ ← (reconcile json rec time.rounds time.now key).run
    passesOver json rec key later

/-- What a call is answered while any number of passes and other clients are at work. Any call may
fail; one that may be `lost` may also have been carried out when its answer is an error. -/
inductive Serves (lost : ApiCall → Prop) (cluster : Cluster) : (op : ApiCall) → Except Error op.Value → Cluster → Prop
  | answered (obs : Observation) (op : ApiCall) (reply : Except Error op.Value) (after : Cluster)
      (answers : Answers obs True cluster op reply after) : Serves lost cluster op reply after
  | lost (obs : Observation) (op : ApiCall) (err : Error) (allowed : lost op) (fallible : op.Fallible)
      (transport : Transport err) : Serves lost cluster op (.error err) (cluster.serve obs op).2

/-- What happens to the cluster without the operator. An object is created with an empty status and
its tenant ID is not edited; dedicated objects may be removed at any time, and where there are
`deletions` so may `TradingTenant` objects. -/
inductive Administered (ids : NamespacedName → String) (deletions : Prop) (cluster : Cluster) : Cluster → Prop
  | created (tenant : TradingTenant) (fresh : cluster.tenants tenant.key = none)
      (named : tenant.spec.tenantID = ids tenant.key) (unreported : tenant.status.state = none) :
      Administered ids deletions cluster (cluster.putTenant tenant)
  | edited (tenant : TradingTenant) (spec : TradingTenantSpec) (found : cluster.tenants tenant.key = some tenant)
      (same : spec.tenantID = tenant.spec.tenantID) :
      Administered ids deletions cluster (cluster.putTenant {tenant with spec})
  | deleted (key : NamespacedName) (allowed : deletions) : Administered ids deletions cluster (cluster.dropTenant key)
  | removed (kind : Kind) (name : NamespacedName) : Administered ids deletions cluster
      (cluster.putObject kind name none)

namespace Slot

/-- No two tenants have a dedicated object of one kind and name. -/
theorem nameFor_injective {key other : NamespacedName} {slot slot' : Slot} (kinds : slot.kind = slot'.kind)
    (names : slot.nameFor key = slot'.nameFor other) : key = other ∧ slot = slot' := by
  have spaces := congrArg NamespacedName.ns names
  have texts := congrArg NamespacedName.name names
  simp only [nameFor] at spaces texts
  have slots : slot = slot' := by
    have ends := congrArg (fun name : String => name.toList.reverse.take 8) texts
    cases slot <;> cases slot' <;> simp [kind,suffix] at kinds ends ⊢
  subst slots
  obtain ⟨ns,name⟩ := key
  obtain ⟨ns',name'⟩ := other
  simp only [String.append_left_inj] at texts
  simp_all

end Slot

/-- A dedicated object as a pass for the tenant of that name writes it. -/
def Conforms (id : String) (key : NamespacedName) : (slot : Slot) → slot.kind.Object → Prop
  | .configMap,(configMap : ConfigMap) => configMap.data.lookup "TENANT_ID" = some id
  | .ingestion,(deployment : Deployment) => deployment.template.labels = poolLabels id componentIngestion ∧
      deployment.selector = some (poolLabels id componentIngestion)
  | .processor,(deployment : Deployment) => deployment.template.labels = poolLabels id componentProcessor ∧
      deployment.selector = some (poolLabels id componentProcessor) ∧
      ∀ container ∈ deployment.template.containers,
        container.envFrom.getLast? = some (.configMapRef (Slot.configMap.nameFor key).name)
  | .service,(service : Service) => service.selector = poolLabels id componentIngestion

def poolReasons : List String := [reasonDedicatedPoolCreated,reasonDedicatedPoolProvisioned,reasonDedicatedPoolTornDown]

inductive PassPhase where
  | idle
  | holding (state : Option TradingTenantState)
  | owing (old : Option TradingTenantState) (new : TradingTenantState)

namespace PassPhase

def Settled : PassPhase → Prop
  | .owing _ _ => False
  | _ => True

def wrote : PassPhase → Option TradingTenantState → PassPhase
  | .holding old,some new => if some new = old then .holding old else .owing old new
  | phase,_ => phase

def reported : PassPhase → PassPhase
  | .owing _ new => .holding (some new)
  | phase => phase

def next (phase : PassPhase) : (op : ApiCall) → Except Error op.Value → PassPhase
  | .getTenant _,.ok tenant => .holding (TradingTenant.status tenant).state
  | .updateStatus tenant,.ok _ => phase.wrote tenant.status.state
  | .record _,_ => phase.reported
  | _,_ => phase

end PassPhase

/-- A call that is not about a `TradingTenant` object, nor a report. -/
def ApiCall.OnObjects : ApiCall → Prop
  | .updateTenant _ | .updateStatus _ | .record _ => False
  | _ => True

theorem serve_onObjects (cluster : Cluster) (obs : Observation) {op : ApiCall} (objects : op.OnObjects) :
    (cluster.serve obs op).2.tenants = cluster.tenants ∧ (cluster.serve obs op).2.signals = cluster.signals := by
  cases op with
  | updateTenant | updateStatus | record => exact objects.elim
  | createOrUpdate kind name mutate =>
    rcases createOrUpdate_cases cluster kind name mutate rfl with ⟨_,_,same⟩ | ⟨_,_,_,_,same | ⟨same,_⟩⟩ <;>
      simp [Cluster.serve,same,Cluster.putObject]
  | delete kind name =>
    simp only [Cluster.serve,Cluster.delete]
    split <;> exact ⟨rfl,rfl⟩
  | create kind name object =>
    simp only [Cluster.serve,Cluster.create]
    split <;> exact ⟨rfl,rfl⟩
  | update kind name stored =>
    simp only [Cluster.serve,Cluster.update]
    split
    · exact ⟨rfl,rfl⟩
    · split <;> exact ⟨rfl,rfl⟩
  | _ => exact ⟨rfl,rfl⟩

def ApiCall.Reads : ApiCall → Prop
  | .observedKafkaLag _ | .observedP99Ms _ | .observedPartitionCount _ | .observedPartitionStart _ | .get _ _ => True
  | _ => False

theorem ApiCall.Reads.onObjects {op : ApiCall} (reads : op.Reads) : op.OnObjects := by
  cases op <;> first | exact reads.elim | exact trivial

section protocol
variable (ids : NamespacedName → String) (key : NamespacedName)

/-- The calls that a pass over the name makes, where `ids` gives the tenant ID of each name. -/
inductive Permitted : PassPhase → ApiCall → Prop
  | getTenant (phase : PassPhase) (settled : phase.Settled) : Permitted phase (.getTenant key)
  | reads (state : Option TradingTenantState) (op : ApiCall) (reads : op.Reads) : Permitted (.holding state) op
  | updateTenant (state : Option TradingTenantState) (tenant : TradingTenant) (own : tenant.key = key)
      (named : tenant.spec.tenantID = ids key) : Permitted (.holding state) (.updateTenant tenant)
  | updateStatus (state : Option TradingTenantState) (new : TradingTenantState) (tenant : TradingTenant)
      (own : tenant.key = key) (decided : tenant.status.state = some new) :
      Permitted (.holding state) (.updateStatus tenant)
  | ensure (state : Option TradingTenantState) (slot : Slot) (mutate : slot.kind.Object → Except Error slot.kind.Object)
      (adapts : ∀ object result, object = slot.kind.blank ∨ Conforms (ids key) key slot object →
        mutate object = .ok result →
        Conforms (ids key) key slot result) :
      Permitted (.holding state) (.createOrUpdate slot.kind (slot.nameFor key) mutate)
  | delete (state : Option TradingTenantState) (slot : Slot) :
      Permitted (.holding state) (.delete slot.kind (slot.nameFor key))
  | createShared (state : Option TradingTenantState) (configMap : ConfigMap) :
      Permitted (.holding state) (.create .configMap (sharedKey key.ns) configMap)
  | updateShared (state : Option TradingTenantState) (stored : Stored ConfigMap) :
      Permitted (.holding state) (.update .configMap (sharedKey key.ns) stored)
  | announce (state : Option TradingTenantState) (signal : Signal) (pool : signal.reason ∈ poolReasons) :
      Permitted (.holding state) (.record signal)
  | report (old : Option TradingTenantState) (new : TradingTenantState) (tenant : TradingTenant)
      (own : tenant.key = key) :
      Permitted (.owing old new) (.record (stateSignal tenant old new))

/-- What a pass counts on: the tenant it is given has the name and the ID it asked for. -/
def Expected : (op : ApiCall) → Except Error op.Value → Prop
  | .getTenant name,.ok tenant => TradingTenant.key tenant = name ∧ tenant.spec.tenantID = ids name
  | .updateTenant tenant,.ok next => TradingTenant.key next = tenant.key ∧ next.spec.tenantID = tenant.spec.tenantID
  | _,_ => True

def passProtocol : Protocol PassPhase fun op : ApiCall => Except Error op.Value where
  allows := Permitted ids key
  expects _ := Expected ids
  next := PassPhase.next

end protocol

/-- What a call of a pass may do to the objects: nothing, a change to one of its own, or a new shared map. -/
inductive Writes (ids : NamespacedName → String) (key : NamespacedName) (cluster after : Cluster) : Prop
  | nothing (same : after.objects = cluster.objects)
  | own (slot : Slot) (object : Option slot.kind.Object)
      (written : after.objects = (cluster.putObject slot.kind (slot.nameFor key) object).objects)
      (fits : (∀ stored, cluster.objects slot.kind (slot.nameFor key) = some stored →
        Conforms (ids key) key slot stored.object) → ∀ value, object = some value → Conforms (ids key) key slot value)
  | shared (configMap : ConfigMap)
      (written : after.objects = (cluster.putObject .configMap (sharedKey key.ns) (some configMap)).objects)

theorem Permitted.writes {ids : NamespacedName → String} {key : NamespacedName} {phase : PassPhase} {op : ApiCall}
    (permitted : Permitted ids key phase op) (cluster : Cluster) (obs : Observation) :
    Writes ids key cluster (cluster.serve obs op).2 := by
  cases permitted with
  | getTenant => exact .nothing rfl
  | reads state op reads => cases op <;> first | exact reads.elim | exact .nothing rfl
  | updateTenant state tenant =>
    simp only [Cluster.serve,Cluster.updateTenant]
    split <;> exact .nothing rfl
  | updateStatus state new tenant =>
    simp only [Cluster.serve,Cluster.updateStatus]
    split <;> exact .nothing rfl
  | ensure state slot mutate adapts =>
    rcases createOrUpdate_cases cluster slot.kind (slot.nameFor key) mutate rfl with ⟨err,_,same⟩ |
      ⟨next,done,made,_,same | ⟨same,_⟩⟩ <;> simp only [Cluster.serve,same]
    · exact .nothing rfl
    · refine .own slot (some next) rfl ?_
      rintro conforms _ ⟨⟩
      apply adapts _ next ?_ made
      cases found : cluster.objects slot.kind (slot.nameFor key) with
      | none => exact Or.inl rfl
      | some stored => exact Or.inr (conforms stored found)
    · exact .nothing rfl
  | delete state slot =>
    simp only [Cluster.serve,Cluster.delete]
    split
    · exact .nothing rfl
    · refine .own slot none rfl ?_
      rintro _ _ ⟨⟩
  | createShared state configMap =>
    simp only [Cluster.serve,Cluster.create]
    split
    · exact .shared configMap rfl
    · exact .nothing rfl
  | updateShared state stored =>
    simp only [Cluster.serve,Cluster.update]
    split
    · exact .nothing rfl
    · split
      · exact .shared stored.object rfl
      · exact .nothing rfl
  | announce => exact .nothing rfl
  | report => exact .nothing rfl

/-- A pass leaves the dedicated objects of other names as they are. -/
theorem Writes.elsewhere {ids : NamespacedName → String} {key other : NamespacedName} {cluster after : Cluster}
    (writes : Writes ids key cluster after) (different : other ≠ key) (slot : Slot) :
    after.objects slot.kind (slot.nameFor other) = cluster.objects slot.kind (slot.nameFor other) := by
  cases writes with
  | nothing same => rw [same]
  | own slot' object written =>
    rw [written]
    apply Cluster.putObject_other
    rw [← not_and_or]
    rintro ⟨kinds,names⟩
    exact different (Slot.nameFor_injective kinds names).1
  | shared configMap written =>
    rw [written]
    exact Cluster.putObject_other (slot.apart_shared other _)

/-- Every tenant has the ID of its name. -/
def Named (ids : NamespacedName → String) (cluster : Cluster) : Prop :=
  ∀ key tenant, cluster.tenants key = some tenant → tenant.spec.tenantID = ids key

section named
variable {ids : NamespacedName → String} {cluster : Cluster}

theorem next_error (phase : PassPhase) {op : ApiCall} (fallible : op.Fallible) (err : Error) :
    phase.next op (.error err) = phase := by
  cases op <;> first | exact fallible.elim | rfl

theorem expected_error (op : ApiCall) (err : Error) : Expected ids op (.error err) := by
  cases op <;> exact trivial

variable (named : Named ids cluster)
include named

theorem Named.expected (obs : Observation) (op : ApiCall) : Expected ids op (cluster.serve obs op).1 := by
  cases op with
  | getTenant key =>
    simp only [Cluster.serve,Cluster.found]
    cases found : cluster.tenants key with
    | none => exact trivial
    | some tenant => exact ⟨cluster.named key tenant found,named key tenant found⟩
  | updateTenant tenant =>
    simp only [Cluster.serve,Cluster.updateTenant]
    cases found : cluster.tenants tenant.key with
    | none => exact trivial
    | some current =>
      have keys : current.key = tenant.key := cluster.named _ _ found
      exact ⟨keys,rfl⟩
  | _ => exact trivial

theorem Named.same {after : Cluster} (same : after.tenants = cluster.tenants) : Named ids after := by
  intro key tenant found
  rw [same] at found
  exact named key tenant found

theorem Named.putTenant {tenant : TradingTenant} (own : tenant.spec.tenantID = ids tenant.key) :
    Named ids (cluster.putTenant tenant) := by
  intro key other stored
  by_cases same : key = tenant.key
  · subst same
    rw [Cluster.putTenant_self] at stored
    cases stored
    exact own
  · rw [Cluster.putTenant_other same] at stored
    exact named key other stored

theorem Named.dropTenant (name : NamespacedName) : Named ids (cluster.dropTenant name) := by
  intro key tenant found
  by_cases same : key = name
  · subst same
    rw [Cluster.dropTenant_self] at found
    cases found
  · rw [Cluster.dropTenant_other same] at found
    exact named key tenant found

theorem Named.administered {deletions : Prop} {after : Cluster} (changed : Administered ids deletions cluster after) :
    Named ids after := by
  cases changed with
  | created tenant _ own => exact named.putTenant own
  | edited tenant spec found same => exact named.putTenant (same.trans (named _ _ found))
  | deleted key => exact named.dropTenant key
  | removed => exact named

theorem Named.served {key : NamespacedName} {phase : PassPhase} {op : ApiCall} (obs : Observation)
    (permitted : Permitted ids key phase op) : Named ids (cluster.serve obs op).2 := by
  cases permitted with
  | updateTenant state tenant own id =>
    simp only [Cluster.serve,Cluster.updateTenant]
    cases found : cluster.tenants tenant.key with
    | none => exact named
    | some current =>
      have keys : current.key = tenant.key := cluster.named _ _ found
      apply named.putTenant
      change tenant.spec.tenantID = ids current.key
      rw [keys,own,id]
  | updateStatus state new tenant =>
    simp only [Cluster.serve,Cluster.updateStatus]
    cases found : cluster.tenants tenant.key with
    | none => exact named
    | some current =>
      have keys : current.key = tenant.key := cluster.named _ _ found
      apply named.putTenant
      change current.spec.tenantID = ids current.key
      rw [keys]
      exact named _ _ found
  | announce => exact named
  | report => exact named
  | reads state op reads => exact named.same (serve_onObjects cluster obs reads.onObjects).1
  | _ => exact named.same (serve_onObjects cluster obs (by trivial)).1

end named

section walk
variable {ids : NamespacedName → String} {key : NamespacedName} {state : Option TradingTenantState} {α β : Type}

/-- An action in the middle of a pass, which holds on to the state that was read. -/
abbrev Stays (ids : NamespacedName → String) (key : NamespacedName) (state : Option TradingTenantState)
    (good : α → Prop) (action : Reconciling α) : Prop :=
  (passProtocol ids key).Keeps (fun phase value => phase = .holding state ∧ good value) (· = .holding state)
    (.holding state) action

theorem stays_api {op : ApiCall} {good : op.Value → Prop} (permitted : Permitted ids key (.holding state) op)
    (quiet : ∀ reply, PassPhase.next (.holding state) op reply = .holding state)
    (answered : ∀ value, Expected ids op (.ok value) → good value) : Stays ids key state good (api op) := by
  apply keeps_request permitted
  intro reply expected
  cases reply with
  | error err => exact quiet _
  | ok value => exact ⟨quiet _,answered value expected⟩

theorem Stays.bind {good : α → Prop} {fine : PassPhase → β → Prop} {bad : PassPhase → Prop} {first : Reconciling α}
    {next : α → Reconciling β} (head : Stays ids key state good first) (failing : bad (.holding state))
    (tail : ∀ value, good value → (passProtocol ids key).Keeps fine bad (.holding state) (next value)) :
    (passProtocol ids key).Keeps fine bad (.holding state) (first >>= next) := by
  apply Obeys.sequence head
  intro phase result ended
  cases result with
  | error err =>
    cases ended
    exact failing
  | ok value =>
    obtain ⟨rfl,fits⟩ := ended
    exact tail value fits

theorem stays_read (op : ApiCall) (reads : op.Reads) : Stays ids key state (fun _ => True) (api op) := by
  refine stays_api (.reads state op reads) ?_ fun _ _ => trivial
  intro reply
  cases op <;> first | exact reads.elim | rfl

theorem stays_announce {signal : Signal} (pool : signal.reason ∈ poolReasons) :
    Stays ids key state (fun _ => True) (recordTransition signal) :=
  stays_api (.announce state signal pool) (fun _ => rfl) fun _ _ => trivial

/-- A call of which one failure is handled and any other handed on. -/
theorem stays_handled {op : ApiCall} {change : op.Value → α} {known : Error → Bool} {value : α} {wrap : Error → Error}
    (permitted : Permitted ids key (.holding state) op)
    (quiet : ∀ reply, PassPhase.next (.holding state) op reply = .holding state) :
    Stays ids key state (fun _ => True)
      (tryCatch (change <$> api op) fun err => if known err then return value else throw (wrap err)) := by
  have called : Stays ids key state (fun _ => True) (api op) := stays_api permitted quiet fun _ _ => trivial
  have changed : Stays ids key state (fun _ => True) (change <$> api op) := called.map fun _ _ ended => ended
  apply changed.tryCatch
  intro phase err ended
  cases ended
  split
  · exact keeps_pure ⟨rfl,trivial⟩
  · exact keeps_throw rfl

theorem stays_delete (slot : Slot) : Stays ids key state (fun _ => True)
    (deleteIfPresent slot.kind (slot.nameFor key)) :=
  stays_handled (.delete state slot) fun _ => rfl

section objects
variable {tenant : TradingTenant} (named : tenant.spec.tenantID = ids key)
include named

theorem configMap_adapts {rec : TradingTenantReconciler} {start count : Int32} {object result : ConfigMap}
    (made : dedicatedConfigMap tenant rec start count object = .ok result) :
    Conforms (ids key) key .configMap result := by
  obtain ⟨controller,_,same⟩ := (bind_ok _ _ _).mp made
  cases same
  simp [Conforms,← named]

theorem deployment_adapts {rec : TradingTenantReconciler} {replicas : Int32} {component : String}
    {container : Container} {object result : Deployment}
    (before : object.selector = none ∨ object.selector = some (poolLabels (ids key) component))
    (made : dedicatedDeployment tenant rec replicas component container object = .ok result) :
    result.template.labels = poolLabels (ids key) component ∧ result.selector = some (poolLabels (ids key) component) ∧
      result.template.containers = [container] := by
  obtain ⟨controller,_,same⟩ := (bind_ok _ _ _).mp made
  cases same
  rw [← named] at before ⊢
  rcases before with unset | set
  · simp [unset,dedicatedLabels]
  · simp [set,dedicatedLabels]

theorem service_adapts {rec : TradingTenantReconciler} {object result : Service}
    (made : dedicatedService tenant rec object = .ok result) : Conforms (ids key) key .service result := by
  obtain ⟨controller,_,same⟩ := (bind_ok _ _ _).mp made
  cases same
  simp [Conforms,← named,dedicatedLabels]

variable (own : tenant.key = key)
include own

theorem dedicated_adapts (rec : TradingTenantReconciler) (obs : Observation) (replicas : Int32) (slot : Slot)
    (object result : slot.kind.Object) (before : object = slot.kind.blank ∨ Conforms (ids key) key slot object)
    (made : dedicated rec tenant obs replicas slot object = .ok result) : Conforms (ids key) key slot result := by
  cases slot with
  | configMap => exact configMap_adapts named made
  | ingestion =>
    obtain ⟨labels,selector,_⟩ := deployment_adapts named (before.imp (fun blank => by rw [blank]; rfl) And.right) made
    exact ⟨labels,selector⟩
  | processor =>
    obtain ⟨labels,selector,containers⟩ :=
      deployment_adapts named (before.imp (fun blank => by rw [blank]; rfl) fun conforms => conforms.2.1) made
    refine ⟨labels,selector,?_⟩
    rw [containers,← own]
    simp [dedicatedConfigMapName,dedicatedName,Slot.nameFor,Slot.suffix]
  | service => exact service_adapts named made

theorem stays_dedicated (rec : TradingTenantReconciler) (obs : Observation) (replicas : Int32) (slot : Slot) :
    Stays ids key state (fun _ => True)
      (api (.createOrUpdate slot.kind (slot.key tenant) (dedicated rec tenant obs replicas slot))) := by
  rw [Slot.key_eq,own]
  exact stays_api (.ensure state slot _ (dedicated_adapts named own rec obs replicas slot)) (fun _ => rfl)
    fun _ _ => trivial

theorem ensureDedicatedPool_stays (rec : TradingTenantReconciler) (start count replicas : Int32) :
    Stays ids key state (fun _ => True) (ensureDedicatedPool rec tenant start count replicas) := by
  have slots (slot : Slot) : Stays ids key state _ _ := stays_dedicated named own rec ⟨0,0,count,start⟩ replicas slot
  refine Stays.bind (slots .configMap).context rfl fun _ _ => ?_
  refine Stays.bind (slots .ingestion).context rfl fun _ _ => ?_
  refine Stays.bind (slots .processor).context rfl fun _ _ => ?_
  refine Stays.bind (slots .service).context rfl fun _ _ => ?_
  exact keeps_pure ⟨rfl,trivial⟩

omit named in
theorem tearDownDedicatedPool_stays : Stays ids key state (fun _ => True) (tearDownDedicatedPool tenant) := by
  subst own
  refine Stays.bind (stays_delete .ingestion) rfl fun _ _ => ?_
  refine Stays.bind (stays_delete .processor) rfl fun _ _ => ?_
  refine Stays.bind (stays_delete .service) rfl fun _ _ => ?_
  refine Stays.bind (stays_delete .configMap) rfl fun _ _ => ?_
  exact keeps_pure ⟨rfl,trivial⟩

end objects

theorem getSharedMap_stays (ns : String) : Stays ids key state (fun _ => True) (getSharedMap ns) :=
  stays_handled (.reads state _ trivial) fun _ => rfl

theorem createSharedMap_stays (configMap : ConfigMap) :
    Stays ids key state (fun _ => True) (createSharedMap key.ns configMap) :=
  stays_handled (.createShared state configMap) fun _ => rfl

theorem mutateTenantPartitionMap_stays (json : MappingJson) (mutate : Mapping → Mapping) (rounds : Nat) :
    Stays ids key state (fun _ => True) (mutateTenantPartitionMap json key.ns mutate rounds) := by
  induction rounds with
  | zero => exact keeps_throw rfl
  | succ rounds ih =>
    refine Stays.bind (getSharedMap_stays _) rfl fun found _ => ?_
    have decoded (raw : String) : Stays ids key state (fun _ => True)
      (Fallible.pureResult (decodeTenantPartitionMap json raw)) :=
      keeps_pureResult (fun _ _ => ⟨rfl,trivial⟩) rfl
    refine Stays.bind (decoded _).context rfl fun mapping _ => ?_
    unfold writeBack
    split
    · exact keeps_pure ⟨rfl,trivial⟩
    · exact (stays_api (.updateShared state _) (fun _ => rfl) fun _ _ => trivial).context
    · refine Stays.bind (createSharedMap_stays _) rfl fun created _ => ?_
      split
      · exact keeps_pure ⟨rfl,trivial⟩
      · exact ih

theorem announceIf_stays {condition : Bool} {signal : Signal} {good : α → Prop} {rest : Reconciling α}
    (pool : signal.reason ∈ poolReasons) (following : Stays ids key state good rest) :
    Stays ids key state good (if condition = true then recordTransition signal >>= fun _ => rest else rest) := by
  cases condition with
  | false => exact following
  | true => exact Stays.bind (stays_announce pool) rfl fun _ _ => following

section tenant
variable {tenant : TradingTenant} (own : tenant.key = key) (named : tenant.spec.tenantID = ids key)
include own named

theorem flagIsolation_stays (decision : ReconcileDecision) :
    Stays ids key state (fun next => next.key = key ∧ next.spec.tenantID = ids key)
      (flagIsolation tenant decision) := by
  unfold flagIsolation
  split
  · have updated : Stays ids key state (fun next => next.key = key ∧ next.spec.tenantID = ids key)
      (updateIsolation tenant) := by
      refine stays_api (.updateTenant state _ own named) (fun _ => rfl) ?_
      intro next same
      exact ⟨same.1.trans own,same.2.trans named⟩
    refine Stays.bind updated.context rfl fun next same => ?_
    refine Stays.bind (stays_announce (show reasonDedicatedPoolCreated ∈ poolReasons by decide)) rfl fun _ _ => ?_
    exact keeps_pure ⟨rfl,same⟩
  · exact keeps_pure ⟨rfl,own,named⟩

theorem provision_stays (json : MappingJson) (rec : TradingTenantReconciler) (rounds : Nat)
    (partitionCount replicas : Int32) :
    Stays ids key state (fun _ => True) (provision json rec rounds tenant partitionCount replicas) := by
  refine Stays.bind (stays_read (.observedPartitionStart _) trivial).context rfl fun start _ => ?_
  refine Stays.bind (ensureDedicatedPool_stays named own rec start _ replicas).context rfl fun created _ => ?_
  apply announceIf_stays (show reasonDedicatedPoolProvisioned ∈ poolReasons by decide)
  subst own
  exact (mutateTenantPartitionMap_stays json _ rounds).context

omit named in
theorem tearDown_stays (json : MappingJson) (rounds : Nat) :
    Stays ids key state (fun _ => True) (tearDown json rounds tenant) := by
  refine Stays.bind (tearDownDedicatedPool_stays own).context rfl fun tornDown _ => ?_
  apply announceIf_stays (show reasonDedicatedPoolTornDown ∈ poolReasons by decide)
  subst own
  exact (mutateTenantPartitionMap_stays json _ rounds).context

theorem resources_stay (json : MappingJson) (rec : TradingTenantReconciler) (rounds : Nat) (isolated : Bool)
    (partitionCount replicas : Int32) : Stays ids key state (fun _ => True)
      (if isolated then provision json rec rounds tenant partitionCount replicas else tearDown json rounds tenant) := by
  cases isolated with
  | false => exact tearDown_stays own json rounds
  | true => exact provision_stays own named json rec rounds partitionCount replicas

omit named in
/-- A status with another state is written first and reported then. -/
theorem publishStatus_keeps (decision : ReconcileDecision) (status : TradingTenantStatus)
    (decided : status.state = some decision.state) :
    (passProtocol ids key).Keeps (fun phase _ => phase.Settled) PassPhase.Settled (.holding state)
      (publishStatus tenant state decision status) := by
  let wrote := PassPhase.wrote (.holding state) (some decision.state)
  have written : (passProtocol ids key).Keeps (fun phase _ => phase = wrote) PassPhase.Settled (.holding state)
      (api (.updateStatus (tenant.withStatus status))) := by
    refine keeps_request (.updateStatus state decision.state _ own decided) ?_
    intro reply _
    cases reply with
    | error err => exact trivial
    | ok value => exact congrArg (PassPhase.wrote (.holding state)) decided
  refine Keeps.bind written.context ?_
  rintro phase _ rfl
  by_cases same : some decision.state = state
  · have kept : wrote = .holding state := if_pos same
    rw [if_neg (not_not.mpr same),kept]
    exact keeps_pure trivial
  · have owed : wrote = .owing state decision.state := if_neg same
    rw [if_pos same,owed]
    refine keeps_request (.report state decision.state tenant own) ?_
    intro reply _
    cases reply with
    | error err => exact trivial
    | ok value => exact trivial

end tenant

theorem reconcileTenant_keeps (json : MappingJson) (rec : TradingTenantReconciler) (rounds : Nat) (now : Int)
    {tenant : TradingTenant} (own : tenant.key = key) (named : tenant.spec.tenantID = ids key) :
    (passProtocol ids key).Keeps (fun phase _ => phase.Settled) PassPhase.Settled (.holding tenant.status.state)
      (reconcileTenant json rec rounds now tenant) := by
  refine Stays.bind (stays_read (.observedKafkaLag _) trivial).context trivial fun lag _ => ?_
  refine Stays.bind (stays_read (.observedP99Ms _) trivial).context trivial fun p99Ms _ => ?_
  refine Stays.bind (stays_read (.observedPartitionCount _) trivial).context trivial fun partitionCount _ => ?_
  refine Stays.bind (flagIsolation_stays own named _) trivial fun flagged kept => ?_
  have ending (result : Result) : (passProtocol ids key).Keeps (fun phase _ => phase.Settled) PassPhase.Settled
      (.holding tenant.status.state)
        (publishStatus flagged tenant.status.state (decisionFor tenant lag p99Ms partitionCount)
        (settledStatus (decisionFor tenant lag p99Ms partitionCount) lag p99Ms partitionCount now) >>=
          fun _ => pure result) :=
    Keeps.bind (publishStatus_keeps kept.1 _ _ rfl) fun _ _ settled => keeps_pure settled
  apply Fallible.join (P := (passProtocol ids key).Keeps _ _ _)
  refine Stays.bind (resources_stay kept.1 kept.2 json rec rounds flagged.isolated _ _) trivial fun _ _ => ending _

theorem reconcile_keeps (json : MappingJson) (rec : TradingTenantReconciler) (rounds : Nat) (now : Int)
    {phase : PassPhase} (settled : phase.Settled) :
    (passProtocol ids key).Keeps (fun phase _ => phase.Settled) PassPhase.Settled phase
      (reconcile json rec rounds now key) := by
  have got : (passProtocol ids key).Keeps (fun phase found => phase.Settled ∧ ∀ tenant, found = some tenant →
      phase = .holding tenant.status.state ∧ tenant.key = key ∧ tenant.spec.tenantID = ids key) PassPhase.Settled phase
      (getTenant key) := by
    have asked : (passProtocol ids key).Keeps
      (fun phase tenant => phase = .holding (TradingTenant.status tenant).state ∧
        tenant.key = key ∧ tenant.spec.tenantID = ids key) PassPhase.Settled phase (api (.getTenant key)) := by
      refine keeps_request (.getTenant phase settled) ?_
      intro reply expected
      cases reply with
      | error err => exact settled
      | ok tenant => exact ⟨rfl,expected⟩
    refine Keeps.tryCatch (asked.map ?_) ?_
    · rintro _ found ⟨rfl,same⟩
      refine ⟨trivial,?_⟩
      rintro tenant ⟨⟩
      exact ⟨rfl,same⟩
    · intro phase err settled
      split
      · exact keeps_pure ⟨settled,nofun⟩
      · exact keeps_throw settled
  refine Keeps.bind got ?_
  rintro phase found ⟨settled,read⟩
  cases found with
  | none => exact keeps_pure settled
  | some tenant =>
    obtain ⟨rfl,own,named⟩ := read tenant rfl
    exact reconcileTenant_keeps json rec rounds now own named

/-- Between its passes a worker owes no report. -/
theorem passesOver_obeys (json : MappingJson) (rec : TradingTenantReconciler) (times : List PassTime)
    {phase : PassPhase} (settled : phase.Settled) :
    (passProtocol ids key).Obeys (fun phase _ => phase.Settled) phase (passesOver json rec key times) := by
  induction times generalizing phase with
  | nil => exact settled
  | cons time later ih =>
    apply Obeys.sequence (reconcile_keeps json rec time.rounds time.now settled)
    intro phase result ended
    cases result with
    | error err => exact ih ended
    | ok value => exact ih ended

theorem pass_elsewhere {json : MappingJson} {rec : TradingTenantReconciler} {rounds : Nat} {now : Int}
    {obs : Observation} {cluster final : Cluster} {result : Except Error Result} (named : Named ids cluster)
    (pass : Yields obs True cluster (reconcile json rec rounds now key) result final) :
    Named ids final ∧ ∀ other, other ≠ key → ∀ slot : Slot,
      final.objects slot.kind (slot.nameFor other) = cluster.objects slot.kind (slot.nameFor other) := by
  let known (after : Cluster) (_ : PassPhase) : Prop := Named ids after ∧ ∀ other, other ≠ key → ∀ slot : Slot,
    after.objects slot.kind (slot.nameFor other) = cluster.objects slot.kind (slot.nameFor other)
  have kept (state : Cluster) (phase : PassPhase) (op : ApiCall) (reply : Except Error op.Value) (after : Cluster)
      (holds : known state phase) (permitted : Permitted ids key phase op)
        (answered : Answers obs True state op reply after) :
      Expected ids op reply ∧ known after (phase.next op reply) := by
    obtain ⟨named,same⟩ := holds
    cases answered with
    | served =>
      refine ⟨named.expected obs op,named.served obs permitted,?_⟩
      intro other different slot
      exact ((permitted.writes state obs).elsewhere different slot).trans (same other different slot)
    | failed err => exact ⟨expected_error op err,named,same⟩
  have keeps : (passProtocol ids key).Keeps _ _ .idle (reconcile json rec rounds now key) :=
    reconcile_keeps json rec rounds now trivial
  obtain ⟨_,known,_⟩ := keeps.runs kept ⟨named,fun _ _ _ => rfl⟩ pass
  exact known

end walk

section sample

/-- What a pass leaves of the view of another tenant in the namespace: all but the shared map. -/
theorem Represents.beside {json : MappingJson} {rec : TradingTenantReconciler} {rounds : Nat} {now : Int}
    {obs : Observation} {origin cluster final : Cluster} {v w settled : Footprint} {announced before : List Signal}
    {result : Except Error Result} {ids : NamespacedName → String} (named : Named ids cluster)
    (shown : Represents json origin cluster w before)
    (pass : Yields obs True cluster (reconcile json rec rounds now v.tenant.key) result final)
    (after : Represents json cluster final settled announced) (own : settled.tenant.key = v.tenant.key)
    (near : w.tenant.key.ns = v.tenant.key.ns) (different : w.tenant.key ≠ v.tenant.key) :
    Represents json final final {w with mapping := settled.mapping} [] := by
  refine ⟨?_,?_,?_,(List.append_nil _).symm,fun _ _ => rfl⟩
  · exact (after.others w.tenant.key (own ▸ different)).trans shown.tenant
  · intro slot
    have kept := (pass_elsewhere named pass).2 _ different slot
    rw [← Slot.key_eq] at kept
    change (final.objects slot.kind (slot.key w.tenant)).map Stored.object = w.objects slot
    rw [kept]
    exact shown.objects slot
  · have shared := after.mapping
    rw [own,← near] at shared
    exact shared

theorem Represents.present {json : MappingJson} {origin cluster : Cluster} {v : Footprint} {announced : List Signal}
    (represented : Represents json origin cluster v announced) (slot : Slot) (there : (v.objects slot).isSome) :
    (cluster.objects slot.kind (slot.nameFor v.tenant.key)).isSome := by
  rwa [← represented.objects slot,Option.isSome_map,Slot.key_eq] at there

theorem pass_advances {json : MappingJson} {rec : TradingTenantReconciler} {key : NamespacedName} {obs : Observation}
    {cluster final : Cluster} {result : Except Error Result} (lost : ApiCall → Prop) (time : PassTime)
    (later : List PassTime)
    (pass : Yields obs True cluster (reconcile json rec time.rounds time.now key) result final) :
    ∃ calls, Effect.Advances (Serves lost) cluster (passesOver json rec key (time::later)) calls final
      (passesOver json rec key later) :=
  (Program.Runs.mono (fun _ op reply after => .answered obs op reply after) pass).advances fun _ =>
    passesOver json rec key later

def neighbour : TradingTenant := ⟨⟨"trading","globex"⟩,"51d0",⟨"globex",1,10,⟨100,50⟩,⟨false⟩⟩,⟨1,none,0,0,0,none⟩⟩

def pairCluster : Cluster := sampleCluster.putTenant neighbour

def pairKeys : Bool → NamespacedName
  | false => sampleTenant.key
  | true => neighbour.key

theorem pairKeys_injective : Function.Injective pairKeys := by decide

def pairTimes : Bool → List PassTime
  | false => [⟨1,0⟩,⟨1,30⟩]
  | true => [⟨1,10⟩]

def pairSignals : List (NamespacedName × String) :=
  (pairKeys false,"Scaling")::[reasonDedicatedPoolCreated,reasonDedicatedPoolProvisioned,"Isolated"].map
    (pairKeys true,·) ++
    [reasonDedicatedPoolCreated,reasonDedicatedPoolProvisioned,"Isolated"].map (pairKeys false,·)

theorem pair_named : Named NamespacedName.name pairCluster := by
  have none : Named NamespacedName.name Cluster.empty := nofun
  exact (none.putTenant rfl).putTenant rfl

open Interleaving in
/-- The tenant is scaled by a first pass and isolated by a second; in between its neighbour is isolated. -/
theorem pair_run (lost : ApiCall → Prop) (outside : Cluster → Cluster → Prop) : ∃ history system,
    Run (Serves lost) outside (fun i => passesOver MappingText.json sampleReconciler (pairKeys i) (pairTimes i))
      (.initial pairCluster) history system ∧ (∀ i, system.threads i = .returned ()) ∧
    (∀ i, (system.shared.tenants (pairKeys i)).map (·.status.state) = some (some .isolated) ∧
      ∀ slot : Slot, (system.shared.objects slot.kind (slot.nameFor (pairKeys i))).isSome) ∧
    system.shared.signals.map (fun signal => (signal.tenant,signal.reason)) = pairSignals := by
  have own₀ : Represents MappingText.json pairCluster pairCluster ⟨sampleTenant,fun _ => none,none⟩ [] :=
    represents_footprint MappingText.json (Cluster.putTenant_other (by decide))
  have near₀ : Represents MappingText.json pairCluster pairCluster ⟨neighbour,fun _ => none,none⟩ [] :=
    represents_footprint MappingText.json (Cluster.putTenant_self neighbour)
  obtain ⟨_,cluster₁,pass₁,own₁⟩ := pass_exists sampleReconciler ⟨500,10,6,0⟩ 0 True own₀ rfl
  have near₁ := near₀.beside pair_named pass₁ own₁ rfl rfl (by decide)
  have named₁ := (pass_elsewhere pair_named pass₁).1
  obtain ⟨_,cluster₂,pass₂,near₂⟩ := pass_exists sampleReconciler backlog 10 True near₁ rfl
  have own₂ := own₁.beside named₁ pass₂ near₂ rfl rfl (by decide)
  have named₂ := (pass_elsewhere named₁ pass₂).1
  obtain ⟨_,cluster₃,pass₃,own₃⟩ := pass_exists sampleReconciler ⟨500,10,6,0⟩ 30 True own₂ rfl
  have near₃ := near₂.beside named₂ pass₃ own₃ rfl rfl (by decide)
  obtain ⟨calls₁,scaled⟩ := pass_advances lost ⟨1,0⟩ [⟨1,30⟩] pass₁
  obtain ⟨calls₂,isolated⟩ := pass_advances lost ⟨1,10⟩ [] pass₂
  obtain ⟨calls₃,again⟩ := pass_advances lost ⟨1,30⟩ [] pass₃
  have begun : Run (Serves lost) outside
    (fun i => passesOver MappingText.json sampleReconciler (pairKeys i) (pairTimes i))
      (.initial pairCluster) [] (.initial pairCluster) := .start
  obtain ⟨s₁,run₁,shared₁,running₁,others₁⟩ := begun.invoke false rfl
  obtain ⟨s₂,run₂,shared₂,running₂,others₂⟩ := run₁.advances false scaled shared₁ running₁
  obtain ⟨s₃,run₃,shared₃,returned₃,others₃⟩ := run₂.whole true isolated shared₂
    ((others₂ true nofun).trans (others₁ true nofun))
  obtain ⟨s₄,run₄,shared₄,returned₄,others₄⟩ := run₃.returns false again shared₃ ((others₃ false nofun).trans running₂)
  refine ⟨_,s₄,run₄,?_,?_,?_⟩
  · intro i
    cases i
    · exact returned₄
    · exact (others₄ true nofun).trans returned₃
  · intro i
    rw [shared₄]
    cases i
    · exact ⟨congrArg (Option.map _) own₃.tenant,fun slot => own₃.present slot (by cases slot <;> rfl)⟩
    · exact ⟨congrArg (Option.map _) near₃.tenant,fun slot => near₃.present slot (by cases slot <;> rfl)⟩
  · rw [shared₄,own₃.signals,near₂.signals,own₁.signals]
    rfl

end sample

end ControlPlane.Operator
