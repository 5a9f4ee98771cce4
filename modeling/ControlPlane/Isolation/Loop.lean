import ControlPlane.Ingestion.Kafka.Routing
import ControlPlane.Operator.Lifecycle
import ControlPlane.Processor.Kafka.Reload

/-! The isolation loop. Ingestion reports the range it gives a tenant, the operator copies the
range of an isolated tenant into the shared map, and ingestion and the tenant's dedicated
processor read that map back from a mounted file. The file may lag behind the map: a reload reads
any text that the map has had. The three services decode it with the same library, each into a
map of its own. -/
namespace ControlPlane.Isolation
open Go Operator Ingestion.Kafka Processor.Kafka Relation

section mounted

def mountedEntries {α : Type} (convert : TenantPartitionEntry → α) (mapping : Mapping) : List (Bytes × α) :=
  (MappingText.entries mapping).map fun member => (text member.1,convert member.2)

theorem mountedEntries_distinct {α : Type} (convert : TenantPartitionEntry → α) (mapping : Mapping) :
    ((mountedEntries convert mapping).map (·.1)).Nodup := by
  have keys : (mountedEntries convert mapping).map (·.1) = ((MappingText.entries mapping).map (·.1)).map text := by
    unfold mountedEntries
    rw [List.map_map,List.map_map]
    rfl
  rw [keys]
  exact (MappingText.entries_distinct mapping).map fun _ _ same => text_injective same

theorem lookup_mountedEntries {α : Type} (convert : TenantPartitionEntry → α) (mapping : Mapping) (id : String) :
    (mountedEntries convert mapping).lookup (text id) = (mapping.lookup id).map convert := by
  cases found : mapping.lookup id with
  | some entry =>
    refine Allocation.lookup_of_mem (mountedEntries_distinct convert mapping) ?_
    exact List.mem_map.mpr ⟨(id,entry),MappingText.mem_entries.mpr found,rfl⟩
  | none =>
    refine List.lookup_eq_none_iff.mpr ?_
    intro entry member
    obtain ⟨listed,among,rfl⟩ := List.mem_map.mp member
    simp only [bne_iff_ne,ne_eq]
    intro same
    have stored := MappingText.mem_entries.mp among
    rw [← text_injective same,found] at stored
    cases stored

def ingestionMap (mapping : Mapping) : Ingestion.Kafka.TenantPartitionMap :=
  ⟨mountedEntries (fun entry => ⟨entry.start,entry.count⟩) mapping,mountedEntries_distinct _ mapping⟩

def processorMap (mapping : Mapping) : Processor.Kafka.TenantPartitionMap :=
  ⟨mountedEntries (fun entry => ⟨entry.start,entry.count⟩) mapping,mountedEntries_distinct _ mapping⟩

theorem lookup_processorMap (mapping : Mapping) (id : String) :
    (processorMap mapping).entries.lookup (text id) = (mapping.lookup id).map fun entry => ⟨entry.start,entry.count⟩ :=
  lookup_mountedEntries (fun entry => Processor.Kafka.TenantPartitionMapEntry.mk entry.start entry.count) mapping id

end mounted

structure Settings where
  json : MappingJson
  reconciler : TradingTenantReconciler
  ns : String
  path : Bytes
  topic : Bytes
  totalPartitions : Int32
  defaultSize : Int32
  positive : 1 ≤ totalPartitions.toInt

namespace Settings
variable (settings : Settings)

def loadCounts (file : Except Error String) : Except Error TenantPartitionConfig :=
  Ingestion.Kafka.load settings.path (file.map text) fun raw => (settings.json.unmarshal raw).map ingestionMap

def loadEntries (file : Except Error String) : Except Error Processor.Kafka.TenantPartitionMap :=
  Processor.Kafka.load settings.path (file.map text) fun raw => (settings.json.unmarshal raw).map processorMap

def reloader (id : String) : TenantPartitionReloader := ⟨text id,settings.topic⟩

end Settings

/-- A tenant's dedicated processor and the text it has loaded last. -/
structure Dedicated where
  con : Assigned
  loaded : Option String

/-- `texts` are those that the shared map has had, `ingested` the one that ingestion has loaded last. -/
structure Loop where
  cluster : Cluster
  router : Router
  gauges : Bytes → Option PartitionRange
  texts : List String
  ingested : Option String
  processors : String → Option Dedicated

/-- The gauges after a record has been routed; the ranges of the table in use have been reported. -/
def report (router : Router) (gauges : Bytes → Option PartitionRange) : Bytes → Option PartitionRange :=
  match router.part.built with
  | none => gauges
  | some (_,table) => fun tenantID => (table.explicit.lookup tenantID).or
      ((table.pool.lookup tenantID).or (gauges tenantID))

def sharedTexts (cluster : Cluster) (ns : String) : List String :=
  ((cluster.objects .configMap (sharedKey ns)).map fun stored => rawMapping stored.object).toList

theorem published_text {json : MappingJson} {cluster : Cluster} {ns : String} {mapping : Mapping}
    (shown : published json cluster ns = mapping) (nonempty : mapping ≠ ∅) :
    ∃ raw ∈ sharedTexts cluster ns, json.unmarshal (text raw) = .ok mapping := by
  subst shown
  cases found : cluster.objects .configMap (sharedKey ns) with
  | none =>
    refine absurd ?_ nonempty
    unfold published sharedMapping
    rw [found]
    rfl
  | some stored =>
    have shape : published json cluster ns = publishedOf
      (some (decodeTenantPartitionMap json (rawMapping stored.object))) := by
      unfold published sharedMapping
      rw [found]
      rfl
    rw [shape] at nonempty ⊢
    refine ⟨rawMapping stored.object,?_,?_⟩
    · unfold sharedTexts
      rw [found]
      exact List.mem_singleton.mpr rfl
    · unfold decodeTenantPartitionMap at nonempty ⊢
      split at nonempty
      · exact absurd rfl nonempty
      · rename_i written
        rw [if_neg written]
        cases decoded : json.unmarshal (text (rawMapping stored.object)) with
        | error err =>
          rw [decoded] at nonempty
          exact absurd rfl nonempty
        | ok mapping => rfl

def Loop.initial (settings : Settings) (cluster : Cluster) (reserved : TenantPartitionConfig) : Loop where
  cluster := cluster
  router := .start reserved settings.defaultSize
  gauges _ := none
  texts := sharedTexts cluster settings.ns
  ingested := none
  processors _ := none

/-- One step of the loop. Tenant objects are changed by hand at any time; a pass over a tenant sees
the range that ingestion has reported for it. -/
inductive Step (settings : Settings) : Loop → Loop → Prop
  | administered (loop : Loop) (cluster : Cluster) (kept : cluster.objects = loop.cluster.objects) :
      Step settings loop {loop with cluster}
  | routed (loop : Loop) (key : Bytes) (routed : List Routed) (router : Router)
      (stepped : loop.router.step settings.defaultSize (.partition key settings.totalPartitions) =
        some (routed,router)) :
      Step settings loop {loop with router,gauges := report router loop.gauges}
  | reconciled (loop : Loop) (tenant : TradingTenant) (obs : Observation) (rounds : Nat) (now : Int)
      (result : Except Error Result) (cluster : Cluster) (found : loop.cluster.tenants tenant.key = some tenant)
      (observed : loop.gauges (text tenant.spec.tenantID) = some ⟨obs.partitionStart,obs.partitionCount⟩)
      (run : Yields obs True loop.cluster (reconcile settings.json settings.reconciler rounds now tenant.key)
        result cluster) :
      Step settings loop {loop with cluster,texts := sharedTexts cluster settings.ns ++ loop.texts}
  | ingestionReloaded (loop : Loop) (file : Except Error String) (mounted : ∀ raw, file = .ok raw → raw ∈ loop.texts) :
      Step settings loop {loop with
        router := {loop.router with
          shared := Ingestion.Kafka.reloadOnce loop.router.shared settings.defaultSize (settings.loadCounts file)}
        ingested := if (settings.loadCounts file).isOk then file.toOption else loop.ingested}
  | processorStarted (loop : Loop) (id : String) (manualPartitions : List Int32) (manual : manualPartitions ≠ []) :
      Step settings loop {loop with
        processors := Function.update loop.processors id (some ⟨newConsumer manualPartitions,none⟩)}
  | processorReloaded (loop : Loop) (id : String) (dedicated : Dedicated)
      (running : loop.processors id = some dedicated)
      (file : Except Error String) (mounted : ∀ raw, file = .ok raw → raw ∈ loop.texts) :
      Step settings loop {loop with
        processors := Function.update loop.processors id (some
          ⟨Processor.Kafka.reloadOnce (settings.reloader id) dedicated.con (settings.loadEntries file),
            if (validEntry (text id) (settings.loadEntries file)).isSome then file.toOption else dedicated.loaded⟩)}

section invariant
variable (settings : Settings)

/-- What a processor holds comes from the text it has loaded. -/
structure Follows (id : String) (dedicated : Dedicated) : Prop where
  tracks : ∃ target, Tracks (settings.reloader id) dedicated.con target
  loaded : ∀ raw, dedicated.loaded = some raw → ∃ mapping entry, settings.json.unmarshal (text raw) = .ok mapping ∧
    mapping.lookup id = some entry ∧ 1 ≤ entry.count ∧
    dedicated.con.assignment = TenantPartitionMapEntry.partitions ⟨entry.start,entry.count⟩

structure Inv (loop : Loop) : Prop where
  valid : loop.router.Valid
  ingested : ∀ raw, loop.ingested = some raw → ∃ mapping, settings.json.unmarshal (text raw) = .ok mapping ∧
    loop.router.shared.reserved = (ingestionMap mapping).counts
  processors : ∀ id dedicated, loop.processors id = some dedicated → Follows settings id dedicated

variable {settings}

theorem map_success {α β : Type} {change : α → β} {result : Except Error α} {value : β}
    (success : result.map change = .ok value) : ∃ inner, result = .ok inner ∧ value = change inner := by
  cases result with
  | error err => cases success
  | ok inner =>
    cases success
    exact ⟨inner,rfl,rfl⟩

theorem loadCounts_loaded {file : Except Error String} {reserved : TenantPartitionConfig}
    (loaded : settings.loadCounts file = .ok reserved) : ∃ raw mapping, file = .ok raw ∧
      settings.json.unmarshal (text raw) = .ok mapping ∧ reserved = (ingestionMap mapping).counts := by
  obtain ⟨raw,read,rest⟩ := bind_success _ _ _ loaded
  obtain ⟨literal,rfl,rfl⟩ := map_success ((mapError_ok _ _ _).mp read)
  obtain ⟨decoded,parsed,rest⟩ := bind_success _ _ _ rest
  obtain ⟨mapping,unmarshalled,rfl⟩ := map_success ((mapError_ok _ _ _).mp parsed)
  split at rest
  · cases rest
  · cases rest
    exact ⟨literal,mapping,rfl,unmarshalled,rfl⟩

theorem loadEntries_loaded {file : Except Error String} {decoded : Processor.Kafka.TenantPartitionMap}
    (loaded : settings.loadEntries file = .ok decoded) : ∃ raw mapping, file = .ok raw ∧
      settings.json.unmarshal (text raw) = .ok mapping ∧ decoded = processorMap mapping := by
  obtain ⟨raw,read,parsed⟩ := bind_success _ _ _ loaded
  obtain ⟨literal,rfl,rfl⟩ := map_success ((mapError_ok _ _ _).mp read)
  obtain ⟨mapping,unmarshalled,rfl⟩ := map_success ((mapError_ok _ _ _).mp parsed)
  exact ⟨literal,mapping,rfl,unmarshalled,rfl⟩

theorem loadCounts_ok {raw : String} {mapping : Mapping}
    (unmarshalled : settings.json.unmarshal (text raw) = .ok mapping)
    (positive : ∀ id entry, mapping.lookup id = some entry → 1 ≤ entry.count) :
    settings.loadCounts (.ok raw) = .ok (ingestionMap mapping).counts := by
  have clean : (ingestionMap mapping).entries.find? (fun entry => entry.2.count < 1) = none := by
    refine List.find?_eq_none.mpr ?_
    intro entry member
    obtain ⟨listed,among,rfl⟩ := List.mem_map.mp member
    have large := positive listed.1 listed.2 (MappingText.mem_entries.mp among)
    simpa using Int32.not_lt.mpr large
  unfold Settings.loadCounts Ingestion.Kafka.load
  simp only [Except.map,Except.mapError,bind,Except.bind,unmarshalled,clean]

theorem loadEntries_ok {raw : String} {mapping : Mapping}
    (unmarshalled : settings.json.unmarshal (text raw) = .ok mapping) :
    settings.loadEntries (.ok raw) = .ok (processorMap mapping) := by
  unfold Settings.loadEntries Processor.Kafka.load
  simp only [Except.map,Except.mapError,bind,Except.bind,unmarshalled]

theorem validEntry_loaded {file : Except Error String} {id : String} {entry : Processor.Kafka.TenantPartitionMapEntry}
    (usable : validEntry (text id) (settings.loadEntries file) = some entry) : ∃ raw mapping published, file = .ok raw ∧
      settings.json.unmarshal (text raw) = .ok mapping ∧ mapping.lookup id = some published ∧ 1 ≤ published.count ∧
      entry = ⟨published.start,published.count⟩ := by
  cases loaded : settings.loadEntries file with
  | error err =>
    rw [loaded] at usable
    cases usable
  | ok decoded =>
    obtain ⟨raw,mapping,rfl,unmarshalled,rfl⟩ := loadEntries_loaded loaded
    have shape : validEntry (text id) (.ok (processorMap mapping)) =
        ((processorMap mapping).entries.lookup (text id)).filter fun entry => 1 ≤ entry.count := rfl
    rw [loaded,shape,lookup_processorMap] at usable
    obtain ⟨found,positive⟩ := Option.filter_eq_some_iff.mp usable
    obtain ⟨published,stored,rfl⟩ := Option.map_eq_some_iff.mp found
    exact ⟨raw,mapping,published,rfl,unmarshalled,stored,by simpa using positive,rfl⟩

theorem initial_inv (cluster : Cluster) (reserved : TenantPartitionConfig) :
    Inv settings (.initial settings cluster reserved) := ⟨Router.start_valid reserved settings.defaultSize,nofun,nofun⟩

theorem follows_started (id : String) {manualPartitions : List Int32} (manual : manualPartitions ≠ []) :
    Follows settings id ⟨newConsumer manualPartitions,none⟩ :=
  ⟨⟨_,newConsumer_tracks (settings.reloader id) manual⟩,nofun⟩

theorem Follows.reloaded {id : String} {dedicated : Dedicated} (follows : Follows settings id dedicated)
    (file : Except Error String) : Follows settings id
      ⟨Processor.Kafka.reloadOnce (settings.reloader id) dedicated.con (settings.loadEntries file),
        if (validEntry (text id) (settings.loadEntries file)).isSome then file.toOption else dedicated.loaded⟩ := by
  obtain ⟨target,tracks⟩ := follows.tracks
  refine ⟨⟨_,tracks.reload (settings.loadEntries file)⟩,?_⟩
  cases usable : validEntry (text id) (settings.loadEntries file) with
  | none =>
    rw [reload_failed (settings.reloader id) dedicated.con usable]
    exact follows.loaded
  | some entry =>
    obtain ⟨_,applied⟩ := reload_applied (settings.reloader id) dedicated.con usable
    obtain ⟨raw,mapping,published,rfl,unmarshalled,stored,positive,rfl⟩ := validEntry_loaded usable
    intro loaded same
    cases same
    rw [applied]
    exact ⟨mapping,published,unmarshalled,stored,positive,rfl⟩

theorem Inv.replaced {loop : Loop} (inv : Inv settings loop) {id : String} {dedicated : Dedicated}
    (follows : Follows settings id dedicated) :
    Inv settings {loop with processors := Function.update loop.processors id (some dedicated)} := by
  refine ⟨inv.valid,inv.ingested,?_⟩
  intro other running found
  change Function.update loop.processors id (some dedicated) other = some running at found
  by_cases same : other = id
  · subst same
    rw [Function.update_self] at found
    cases found
    exact follows
  · rw [Function.update_of_ne same] at found
    exact inv.processors other running found

theorem step_inv {loop next : Loop} (step : Step settings loop next) (inv : Inv settings loop) : Inv settings next := by
  cases step with
  | administered cluster kept => exact ⟨inv.valid,inv.ingested,inv.processors⟩
  | routed key routed router stepped =>
    have same : router.shared = loop.router.shared := by
      obtain ⟨partition,table,_,_,rfl⟩ := (Router.step_partition settings.defaultSize).mp stepped
      rfl
    refine ⟨?_,?_,inv.processors⟩
    · refine Router.step_valid settings.defaultSize _ ?_ inv.valid stepped
      intro _ _ action
      cases action
      exact settings.positive
    · change ∀ raw, loop.ingested = some raw → ∃ mapping, _ ∧ router.shared.reserved = _
      rw [same]
      exact inv.ingested
  | reconciled tenant obs rounds now result cluster found observed run => exact ⟨inv.valid,inv.ingested,inv.processors⟩
  | ingestionReloaded file mounted =>
    refine ⟨?_,?_,inv.processors⟩
    · exact Router.step_valid settings.defaultSize (.reload (settings.loadCounts file)) nofun inv.valid rfl
    · dsimp only
      cases loaded : settings.loadCounts file with
      | error err => exact inv.ingested
      | ok reserved =>
        obtain ⟨raw,mapping,rfl,unmarshalled,rfl⟩ := loadCounts_loaded loaded
        intro other same
        cases same
        exact ⟨mapping,unmarshalled,rfl⟩
  | processorStarted id manualPartitions manual => exact inv.replaced (follows_started id manual)
  | processorReloaded id dedicated running file mounted =>
    exact inv.replaced ((inv.processors id dedicated running).reloaded file)

theorem reachable_inv {first loop : Loop} (run : ReflTransGen (Step settings) first loop) (inv : Inv settings first) :
    Inv settings loop := by
  induction run with
  | refl => exact inv
  | tail _ step ih => exact step_inv step ih

end invariant

end ControlPlane.Isolation
