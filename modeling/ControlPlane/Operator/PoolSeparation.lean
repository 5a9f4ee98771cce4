import ControlPlane.Operator.Workers

/-! The pools of isolated tenants stay apart: at any moment, while any number of passes are under
way, a tenant's Service selects the pods of its own ingestion Deployment and no others, a
Deployment manages its own pods only, and a processor is configured for its own tenant. -/
namespace ControlPlane.Operator
open Go Effect Effect.Protocol Effect.Interleaving

/-- A label selector selects the pods that have all its labels. -/
def Selects (selector labels : StringMap) : Prop :=
  ∀ name value, selector.lookup name = some value → labels.lookup name = some value

section labels
variable {id id' component component' : String}

theorem poolLabels_tenant : (poolLabels id component).lookup labelTenant = some id := by
  unfold poolLabels
  split <;> simp [Finmap.lookup_insert_of_ne,labelTenant,labelDedicated,labelComponent]

theorem poolLabels_component (given : component ≠ "") : (poolLabels id component).lookup labelComponent =
    some component := by
  simp [poolLabels,given]

theorem poolLabels_selects (given : component ≠ "") (given' : component' ≠ "") :
    Selects (poolLabels id component) (poolLabels id' component') ↔ id = id' ∧ component = component' := by
  constructor
  · intro selects
    have tenants := selects labelTenant id poolLabels_tenant
    have components := selects labelComponent component (poolLabels_component given)
    rw [poolLabels_tenant] at tenants
    rw [poolLabels_component given'] at components
    exact ⟨(Option.some.inj tenants).symm,(Option.some.inj components).symm⟩
  · rintro ⟨rfl,rfl⟩ name value found
    exact found

end labels

/-- Every dedicated object is as a pass for its tenant's name writes it. -/
def Conforming (ids : NamespacedName → String) (cluster : Cluster) : Prop :=
  ∀ key (slot : Slot) stored, cluster.objects slot.kind (slot.nameFor key) = some stored →
    Conforms (ids key) key slot stored.object

section conforming
variable {ids : NamespacedName → String} {cluster : Cluster} (conforming : Conforming ids cluster)
include conforming

theorem Conforming.putSlot {key : NamespacedName} {slot : Slot} {object : slot.kind.Object}
    (fits : Conforms (ids key) key slot object) :
    Conforming ids (cluster.putObject slot.kind (slot.nameFor key) (some object)) := by
  intro other slot' stored found
  by_cases same : slot'.kind = slot.kind ∧ slot'.nameFor other = slot.nameFor key
  · obtain ⟨rfl,rfl⟩ := Slot.nameFor_injective same.1 same.2
    rw [Cluster.putObject_same] at found
    cases found
    exact fits
  · rw [Cluster.putObject_other (not_and_or.mp same)] at found
    exact conforming other slot' stored found

theorem Conforming.remove (kind : Kind) (name : NamespacedName) :
    Conforming ids (cluster.putObject kind name none) := by
  intro key slot stored found
  by_cases same : slot.kind = kind ∧ slot.nameFor key = name
  · obtain ⟨rfl,rfl⟩ := same
    rw [Cluster.putObject_same] at found
    cases found
  · rw [Cluster.putObject_other (not_and_or.mp same)] at found
    exact conforming key slot stored found

theorem Conforming.putShared (ns : String) (configMap : ConfigMap) :
    Conforming ids (cluster.putObject .configMap (sharedKey ns) (some configMap)) := by
  intro key slot stored found
  rw [Cluster.putObject_other (slot.apart_shared key ns)] at found
  exact conforming key slot stored found

omit conforming in
theorem Conforming.same {after : Cluster} (conforming : Conforming ids cluster)
    (same : after.objects = cluster.objects) :
    Conforming ids after := by
  intro key slot stored found
  rw [same] at found
  exact conforming key slot stored found

/-- What a call of a pass writes keeps the objects as they should be. -/
theorem Conforming.writes {key : NamespacedName} {after : Cluster} (writes : Writes ids key cluster after) :
    Conforming ids after := by
  cases writes with
  | nothing same => exact conforming.same same
  | own slot object written fits =>
    refine Conforming.same ?_ written
    cases object with
    | none => exact conforming.remove slot.kind _
    | some object => exact conforming.putSlot (fits (conforming key slot) object rfl)
  | shared configMap written => exact Conforming.same (conforming.putShared _ configMap) written

theorem Conforming.administered {deletions : Prop} {after : Cluster}
    (changed : Administered ids deletions cluster after) :
    Conforming ids after := by
  cases changed with
  | removed kind name => exact conforming.remove kind name
  | _ => exact conforming

end conforming

/-- Whatever a call is answered, it was carried out or left the cluster as it was. -/
theorem serves_cases {lost : ApiCall → Prop} {cluster after : Cluster} {op : ApiCall} {reply : Except Error op.Value}
    (served : Serves lost cluster op reply after) :
    (∃ obs, after = (cluster.serve obs op).2 ∧ (reply = (cluster.serve obs op).1 ∨ ∃ err, reply = .error err)) ∨
      after = cluster ∧ ∃ err, reply = .error err := by
  cases served with
  | answered obs _ _ _ answers =>
    cases answers with
    | served => exact Or.inl ⟨obs,rfl,Or.inl rfl⟩
    | failed err => exact Or.inr ⟨rfl,err,rfl⟩
  | lost obs _ err => exact Or.inl ⟨obs,rfl,Or.inr ⟨err,rfl⟩⟩

theorem conforming_guaranteed {ι : Type} [DecidableEq ι] (ids : NamespacedName → String) (deletions : Prop)
    (lost : ApiCall → Prop) (keys : ι → NamespacedName) :
    Guarantees (Serves lost) (Administered ids deletions) (fun i => passProtocol ids (keys i))
      fun cluster _ => Named ids cluster ∧ Conforming ids cluster := by
  constructor
  · rintro cluster phases i op reply after ⟨named,conforming⟩ permitted served
    rcases serves_cases served with ⟨obs,rfl,answer⟩ | ⟨rfl,err,rfl⟩
    · refine ⟨?_,named.served obs permitted,conforming.writes (permitted.writes cluster obs)⟩
      rcases answer with rfl | ⟨err,rfl⟩
      · exact named.expected obs op
      · exact expected_error op err
    · exact ⟨expected_error op err,named,conforming⟩
  · rintro cluster phases after ⟨named,conforming⟩ changed
    exact ⟨named.administered changed,conforming.administered changed⟩

inductive Component where
  | ingestion
  | processor
  deriving DecidableEq, Repr

def Component.name : Component → String
  | .ingestion => componentIngestion
  | .processor => componentProcessor

section pools
variable (cluster : Cluster) (key : NamespacedName)

def serviceOf : Option Service := (cluster.objects .service (Slot.service.nameFor key)).map Stored.object

def ingestionOf : Option Deployment := (cluster.objects .deployment (Slot.ingestion.nameFor key)).map Stored.object

def processorOf : Option Deployment := (cluster.objects .deployment (Slot.processor.nameFor key)).map Stored.object

def configMapOf : Option ConfigMap := (cluster.objects .configMap (Slot.configMap.nameFor key)).map Stored.object

def deploymentOf : Component → Option Deployment
  | .ingestion => ingestionOf cluster key
  | .processor => processorOf cluster key

end pools

/-- What keeps the pools of the tenants in a namespace apart. -/
structure Separated (ids : NamespacedName → String) (cluster : Cluster) : Prop where
  routed : ∀ key other component service deployment, key.ns = other.ns → serviceOf cluster key = some service →
    deploymentOf cluster other component = some deployment →
    (Selects service.selector deployment.template.labels ↔ key = other ∧ component = .ingestion)
  managed : ∀ key other component component' deployment deployment', key.ns = other.ns →
    deploymentOf cluster key component = some deployment → deploymentOf cluster other component' = some deployment' →
    ∃ selector, deployment.selector = some selector ∧
      (Selects selector deployment'.template.labels ↔ key = other ∧ component = component')
  configured : ∀ key deployment container, processorOf cluster key = some deployment →
    container ∈ deployment.template.containers →
    container.envFrom.getLast? = some (.configMapRef (Slot.configMap.nameFor key).name) ∧
      ∀ configMap, configMapOf cluster key = some configMap → configMap.data.lookup "TENANT_ID" = some (ids key)

section separated
variable {ids : NamespacedName → String} {cluster : Cluster} {key : NamespacedName}
  (conforming : Conforming ids cluster)
include conforming

theorem Conforming.service {service : Service} (found : serviceOf cluster key = some service) :
    service.selector = poolLabels (ids key) Component.ingestion.name := by
  obtain ⟨stored,there,rfl⟩ := Option.map_eq_some_iff.mp found
  exact conforming key .service stored there

theorem Conforming.deployment {component : Component} {deployment : Deployment}
    (found : deploymentOf cluster key component = some deployment) :
    deployment.template.labels = poolLabels (ids key) component.name ∧
      deployment.selector = some (poolLabels (ids key) component.name) := by
  cases component with
  | ingestion =>
    obtain ⟨stored,there,rfl⟩ := Option.map_eq_some_iff.mp found
    exact conforming key .ingestion stored there
  | processor =>
    obtain ⟨stored,there,rfl⟩ := Option.map_eq_some_iff.mp found
    exact (conforming key .processor stored there).imp id And.left

theorem Conforming.separated (distinct : ∀ key other, key.ns = other.ns → ids key = ids other → key = other) :
    Separated ids cluster := by
  have given (component : Component) : component.name ≠ "" := by cases component <;> decide
  have names {component component' : Component} : component.name = component'.name ↔ component = component' := by
    cases component <;> cases component' <;> simp [Component.name,componentIngestion,componentProcessor]
  have same {key other : NamespacedName} (inside : key.ns = other.ns) : ids key = ids other ↔ key = other :=
    ⟨distinct key other inside,congrArg ids⟩
  refine ⟨?_,?_,?_⟩
  · intro key other component service deployment inside fronts found
    rw [conforming.service fronts,(conforming.deployment found).1,poolLabels_selects (given .ingestion)
      (given component),
      same inside]
    exact and_congr_right' (names.trans eq_comm)
  · intro key other component component' deployment deployment' inside found found'
    refine ⟨_,(conforming.deployment found).2,?_⟩
    rw [(conforming.deployment found').1,poolLabels_selects (given component) (given component'),same inside,names]
  · intro key deployment container found member
    obtain ⟨stored,there,rfl⟩ := Option.map_eq_some_iff.mp found
    refine ⟨(conforming key .processor stored there).2.2 container member,?_⟩
    intro configMap read
    obtain ⟨data,kept,rfl⟩ := Option.map_eq_some_iff.mp read
    exact conforming key .configMap data kept

end separated

/-- In every interleaving of the workers' passes with each other and with what else happens in the
cluster, and at every moment, the pools of tenants with different IDs are separated. Any call may
fail, whether it was carried out or not. -/
theorem dedicated_pools_separated {ι : Type} [DecidableEq ι] (json : MappingJson) (rec : TradingTenantReconciler)
    (keys : ι → NamespacedName) (times : ι → List PassTime) (ids : NamespacedName → String)
    (distinct : ∀ key other, key.ns = other.ns → ids key = ids other → key = other) (initial : Cluster)
    (named : Named ids initial)
    (unprovisioned : ∀ key (slot : Slot), initial.objects slot.kind (slot.nameFor key) = none)
    (history : List (Event ι (fun op : ApiCall => Except Error op.Value) Unit))
    (system : System Cluster ι (fun op : ApiCall => Except Error op.Value) Unit)
    (run : Run (Serves fun _ => True) (Administered ids True) (fun i => passesOver json rec (keys i) (times i))
      (.initial initial) history system) : Separated ids system.shared := by
  have initially : Conforming ids initial := by
    intro key slot stored found
    cases (unprovisioned key slot).symm.trans found
  have obeys (i : ι) : (passProtocol ids (keys i)).Obeys _ .idle (passesOver json rec (keys i) (times i)) :=
    passesOver_obeys json rec (times i) trivial
  obtain ⟨⟨_,conforming⟩,_⟩ := run_obeys (conforming_guaranteed ids True _ keys) obeys ⟨named,initially⟩ run
  exact conforming.separated distinct

/-- Both tenants are isolated, and each Service selects the pods of its own tenant. -/
theorem pair_separated : ∃ history system,
    Run (Serves fun _ => True) (Administered NamespacedName.name True)
      (fun i => passesOver MappingText.json sampleReconciler (pairKeys i) (pairTimes i)) (.initial pairCluster) history
      system ∧
    ∀ i k, ∃ service deployment, serviceOf system.shared (pairKeys i) = some service ∧
      deploymentOf system.shared (pairKeys k) .ingestion = some deployment ∧
      (Selects service.selector deployment.template.labels ↔ i = k) := by
  obtain ⟨history,system,run,_,settled,_⟩ := pair_run (fun _ => True) (Administered NamespacedName.name True)
  have separated := dedicated_pools_separated _ _ _ _ NamespacedName.name
    (fun key other inside same => by cases key; cases other; simp_all) pairCluster pair_named (fun _ _ => rfl)
    history system run
  refine ⟨history,system,run,fun i k => ?_⟩
  obtain ⟨service,fronts⟩ := Option.isSome_iff_exists.mp ((settled i).2 .service)
  obtain ⟨deployment,found⟩ := Option.isSome_iff_exists.mp ((settled k).2 .ingestion)
  have fronted : serviceOf system.shared (pairKeys i) = some service.object := congrArg (Option.map _) fronts
  have deployed : deploymentOf system.shared (pairKeys k) .ingestion = some deployment.object :=
    congrArg (Option.map _) found
  refine ⟨_,_,fronted,deployed,(separated.routed _ _ _ _ _ ?_ fronted deployed).trans ?_⟩
  · cases i <;> cases k <;> rfl
  · rw [pairKeys_injective.eq_iff]
    exact and_iff_left rfl

end ControlPlane.Operator
