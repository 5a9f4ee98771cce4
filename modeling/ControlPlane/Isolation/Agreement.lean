import ControlPlane.Isolation.Loop

/-! Where the isolation loop leaves a tenant: the partitions that ingestion routes it to and those
that its dedicated processor consumes, once both have loaded one published map. -/
namespace ControlPlane.Isolation
open Go Operator Ingestion.Kafka Processor.Kafka Relation

section partitions

theorem ofNat_zero_iff {number : Nat} (small : number < 2^32) : Int32.ofNat number = 0 ↔ number = 0 := by
  constructor
  · intro zero
    have bits := congrArg Int32.toBitVec zero
    change BitVec.ofNat 32 number = BitVec.ofNat 32 0 at bits
    have values := congrArg BitVec.toNat bits
    rw [BitVec.toNat_ofNat,BitVec.toNat_ofNat,Nat.mod_eq_of_lt small] at values
    exact values
  · intro zero
    rw [zero]
    rfl

theorem mem_partitions {start count partition : Int32} : partition ∈ TenantPartitionMapEntry.partitions ⟨start,count⟩ ↔
    ∃ index < count.toInt.toNat, start + Int32.ofNat index = partition := by
  simp [TenantPartitionMapEntry.partitions]

/-- The partitions of an entry, past the largest `int32` as the machine counts, are not the whole
circle, so they have one start. -/
theorem partitions_inj {start other count : Int32} (positive : 1 ≤ count) :
    TenantPartitionMapEntry.partitions ⟨start,count⟩ = TenantPartitionMapEntry.partitions ⟨other,count⟩ ↔
      start = other := by
  have one : (1 : Int32).toInt = 1 := by decide
  rw [Int32.le_iff_toInt_le,one] at positive
  have range := fits_toInt32 count
  unfold FitsInt32 at range
  have first (value : Int32) : value ∈ TenantPartitionMapEntry.partitions ⟨value,count⟩ :=
    mem_partitions.mpr ⟨0,by omega,Int32.add_zero value⟩
  constructor
  · intro same
    have inside := first start
    have outside := first other
    rw [same] at inside
    rw [← same] at outside
    obtain ⟨ahead,small,reaches⟩ := mem_partitions.mp inside
    obtain ⟨back,smaller,returns⟩ := mem_partitions.mp outside
    have round : Int32.ofNat (ahead + back) = 0 := by
      rw [Int32.ofNat_add]
      grind
    have none := (ofNat_zero_iff (by omega)).mp round
    have still : ahead = 0 := by omega
    rw [still] at reaches
    exact reaches.symm.trans (Int32.add_zero other)
  · intro same
    rw [same]

end partitions

section agreement
variable (settings : Settings)

def Loop.routedRange (loop : Loop) (id : String) : Option PartitionRange :=
  ((loop.router.part.current loop.router.shared settings.totalPartitions).rangeFor (text id)).map (·.1)

/-- The processor consumes the partitions to which ingestion routes the tenant. -/
def Agrees (loop : Loop) (id : String) (dedicated : Dedicated) : Prop :=
  (loop.routedRange settings id).map (fun rng => TenantPartitionMapEntry.partitions ⟨rng.start,rng.size⟩) =
    some (dedicated.con.clientPartitions settings.topic [])

/-- Every tenant of the map gets an explicit range of the size it asks for. -/
def Unclipped (mapping : Mapping) : Prop :=
  ∀ id entry, mapping.lookup id = some entry →
    ((newReservationTable (ingestionMap mapping).counts settings.defaultSize settings.totalPartitions).explicit.lookup
      (text id)).map (·.size) = some entry.count

/-- What the tenants of the map with smaller ids have reserved together. -/
def countsBefore (mapping : Mapping) (id : String) : Int32 :=
  Int32.ofNat (reservedBelow (ingestionMap mapping).counts (text id))

variable {settings}

theorem routed_range {loop : Loop} {mapping : Mapping} (valid : loop.router.Valid)
    (loaded : loop.router.shared.reserved = (ingestionMap mapping).counts) (whole : Unclipped settings mapping)
    {id : String} {entry : TenantPartitionEntry} (listed : mapping.lookup id = some entry) :
    loop.routedRange settings id = some ⟨countsBefore mapping id,entry.count⟩ := by
  have reached := Router.current_reached valid settings.totalPartitions
  have explicit := reached_explicit reached
  obtain ⟨rng,found,size⟩ := Option.map_eq_some_iff.mp (whole id entry listed)
  obtain ⟨carved,shape⟩ := (lookup_explicit _ _ _ settings.positive _ _).mp found
  have same : (loop.router.part.current loop.router.shared settings.totalPartitions).explicit.lookup (text id) =
    some rng := by
    rw [explicit,loaded]
    exact (lookup_explicit _ _ _ settings.positive _ _).mpr ⟨carved,shape⟩
  unfold Loop.routedRange ReservationTable.rangeFor
  rw [same]
  rw [shape] at size
  rw [shape,Option.map_some]
  dsimp only at size ⊢
  rw [size]
  rfl

/-- What each side holds once both have loaded the same text. -/
theorem both_loaded {first loop : Loop} (run : ReflTransGen (Step settings) first loop) (start : Inv settings first)
    {id raw : String} {dedicated : Dedicated} (running : loop.processors id = some dedicated)
    (consumed : dedicated.loaded = some raw) (ingested : loop.ingested = some raw) :
    ∃ mapping entry, settings.json.unmarshal (text raw) = .ok mapping ∧ mapping.lookup id = some entry ∧
      1 ≤ entry.count ∧
      dedicated.con.clientPartitions settings.topic [] = TenantPartitionMapEntry.partitions ⟨entry.start,entry.count⟩ ∧
      (Unclipped settings mapping → loop.routedRange settings id = some ⟨countsBefore mapping id,entry.count⟩) := by
  have inv := reachable_inv run start
  obtain ⟨⟨_,tracks⟩,follows⟩ := inv.processors id dedicated running
  obtain ⟨mapping,entry,unmarshalled,listed,positive,assigned⟩ := follows raw consumed
  obtain ⟨other,again,loaded⟩ := inv.ingested raw ingested
  cases unmarshalled.symm.trans again
  exact ⟨mapping,entry,unmarshalled,listed,positive,tracks.client.trans assigned,
    fun whole => routed_range inv.valid loaded whole listed⟩

end agreement

/-- The two agree exactly when the start that the operator has published is the sum of the counts
before it, which is where ingestion puts the tenant. -/
theorem processor_agrees_iff (settings : Settings) (cluster : Cluster) (reserved : TenantPartitionConfig) (loop : Loop)
    (run : ReflTransGen (Step settings) (.initial settings cluster reserved) loop) (id raw : String)
    (dedicated : Dedicated) (running : loop.processors id = some dedicated) (consumed : dedicated.loaded = some raw)
    (ingested : loop.ingested = some raw) :
    ∃ mapping entry, settings.json.unmarshal (text raw) = .ok mapping ∧ mapping.lookup id = some entry ∧
      (Unclipped settings mapping → (Agrees settings loop id dedicated ↔ entry.start = countsBefore mapping id)) := by
  obtain ⟨mapping,entry,unmarshalled,listed,positive,client,routed⟩ :=
    both_loaded run (initial_inv cluster reserved) running consumed ingested
  refine ⟨mapping,entry,unmarshalled,listed,?_⟩
  intro whole
  unfold Agrees
  rw [routed whole,client,Option.map_some,Option.some_inj,partitions_inj positive]
  exact eq_comm

section sample

def sampleSettings : Settings where
  json := MappingText.json
  reconciler := sampleReconciler
  ns := "trading"
  path := text "/etc/tenant-partition-map/mapping.json"
  topic := text "transaction-events"
  totalPartitions := 4
  defaultSize := 1
  positive := by decide

def record (tenantID : String) : Bytes := partitionKey (text tenantID) (text "EURUSD")

def heldBy (pool : List (Bytes × PartitionRange)) (poolNext : Int32) : Router :=
  ⟨newTenantPartitioner noneReserved 1,⟨some (0,{newReservationTable noneReserved 1 4 with poolNext,pool})⟩⟩

theorem acme_first : (Router.start noneReserved 1).step 1 (.partition (record "acme") 4) =
    some ([⟨record "acme",4,0⟩],heldBy [(text "acme",⟨0,1⟩)] 1) := by
  rfl

theorem aaa_first : (Router.start noneReserved 1).step 1 (.partition (record "aaa") 4) =
    some ([⟨record "aaa",4,0⟩],heldBy [(text "aaa",⟨0,1⟩)] 1) := by
  rfl

theorem acme_second : (heldBy [(text "aaa",⟨0,1⟩)] 1).step 1 (.partition (record "acme") 4) =
    some ([⟨record "acme",4,1⟩],heldBy [(text "acme",⟨1,1⟩),(text "aaa",⟨0,1⟩)] 2) := by
  rfl

def onlyAcme (start : Int32) : Mapping := (∅ : Mapping).insert "acme" ⟨start,1⟩

theorem onlyAcme_nonempty (start : Int32) : onlyAcme start ≠ ∅ := by
  intro empty
  have lookups := congrArg (Finmap.lookup "acme") empty
  rw [onlyAcme,Finmap.lookup_insert,Finmap.lookup_empty] at lookups
  cases lookups

/-- A pass isolates the tenant and publishes the range it observes. -/
theorem acme_published {loop : Loop} {start : Int32} (untouched : loop.cluster = sampleCluster)
    (observed : loop.gauges (text "acme") = some ⟨start,1⟩) : ∃ next raw, Step sampleSettings loop next ∧
      raw ∈ next.texts ∧ MappingText.json.unmarshal (text raw) = .ok (onlyAcme start) := by
  have represented : Represents MappingText.json _ sampleCluster ⟨sampleTenant,fun _ => none,none⟩ [] :=
    represents_footprint MappingText.json sample_found
  obtain ⟨result,cluster,run,_⟩ := pass_exists sampleReconciler ⟨500,10,1,start⟩ 0 True represented rfl
  obtain ⟨_,_,entries⟩ := successful_pass_effect sample_found run
  have shown : published MappingText.json cluster "trading" = onlyAcme start := entries
  obtain ⟨raw,listed,unmarshalled⟩ := published_text shown (onlyAcme_nonempty start)
  refine ⟨_,raw,.reconciled loop sampleTenant ⟨500,10,1,start⟩ 1 0 (.ok result) cluster ?_ observed ?_,
    List.mem_append_left _ listed,unmarshalled⟩
  · rw [untouched]
    exact sample_found
  · rw [untouched]
    exact run

theorem onlyAcme_lookup {start : Int32} {id : String} {entry : TenantPartitionEntry}
    (listed : (onlyAcme start).lookup id = some entry) : id = "acme" ∧ entry = ⟨start,1⟩ := by
  by_cases same : id = "acme"
  · subst same
    rw [onlyAcme,Finmap.lookup_insert] at listed
    exact ⟨rfl,(Option.some.inj listed).symm⟩
  · rw [onlyAcme,Finmap.lookup_insert_of_ne _ same,Finmap.lookup_empty] at listed
    cases listed

theorem ingestion_loads {settings : Settings} {loop : Loop} {raw : String} {reserved : TenantPartitionConfig}
    (listed : raw ∈ loop.texts) (loaded : settings.loadCounts (.ok raw) = .ok reserved) :
    ∃ next, Step settings loop next ∧
      next.ingested = some raw ∧ next.texts = loop.texts := by
  refine ⟨_,.ingestionReloaded loop (.ok raw) ?_,?_,rfl⟩
  · intro other same
    cases same
    exact listed
  · dsimp only
    rw [loaded]
    rfl

theorem processor_loads {settings : Settings} {loop : Loop} {id raw : String}
    {entry : Processor.Kafka.TenantPartitionMapEntry} (listed : raw ∈ loop.texts)
    (usable : validEntry (text id) (settings.loadEntries (.ok raw)) = some entry) :
    ∃ next dedicated, ReflTransGen (Step settings) loop next ∧ next.processors id = some dedicated ∧
      dedicated.loaded = some raw ∧ next.ingested = loop.ingested := by
  have started : Step settings loop _ := .processorStarted loop id [0] (by simp)
  have running : Function.update loop.processors id (some ⟨newConsumer [0],none⟩) id = some ⟨newConsumer [0],none⟩ :=
    Function.update_self id _ _
  refine ⟨_,_,(ReflTransGen.single started).tail (.processorReloaded _ id _ running (.ok raw) ?_),
    Function.update_self id _ _,?_,rfl⟩
  · intro other same
    cases same
    exact listed
  · dsimp only
    rw [usable]
    rfl

theorem acme_loaded {loop : Loop} {start : Int32} (untouched : loop.cluster = sampleCluster)
    (observed : loop.gauges (text "acme") = some ⟨start,1⟩) : ∃ final dedicated raw,
      ReflTransGen (Step sampleSettings) loop final ∧ final.processors "acme" = some dedicated ∧
      dedicated.loaded = some raw ∧ final.ingested = some raw ∧ MappingText.json.unmarshal (text raw) =
      .ok (onlyAcme start) := by
  obtain ⟨next,raw,published,listed,unmarshalled⟩ := acme_published untouched observed
  have counts : sampleSettings.loadCounts (.ok raw) = .ok (ingestionMap (onlyAcme start)).counts := by
    refine loadCounts_ok unmarshalled ?_
    intro id entry among
    rw [(onlyAcme_lookup among).2]
    exact Int32.le_refl 1
  have usable : validEntry (text "acme") (sampleSettings.loadEntries (.ok raw)) = some ⟨start,1⟩ := by
    rw [loadEntries_ok unmarshalled]
    change ((processorMap (onlyAcme start)).entries.lookup (text "acme")).filter _ = _
    rw [lookup_processorMap,onlyAcme,Finmap.lookup_insert]
    rfl
  obtain ⟨middle,ingests,ingested,texts⟩ := ingestion_loads listed counts
  rw [← texts] at listed
  obtain ⟨final,dedicated,run,running,loaded,kept⟩ := processor_loads listed usable
  exact ⟨final,dedicated,raw,((ReflTransGen.single published).tail ingests).trans run,running,loaded,
    kept.trans ingested,
    unmarshalled⟩

theorem onlyAcme_entries (start : Int32) : MappingText.entries (onlyAcme start) = [("acme",⟨start,1⟩)] := by
  have single : (MappingText.entries (onlyAcme start)).Perm [("acme",⟨start,1⟩)] := by
    refine (List.perm_ext_iff_of_nodup ((MappingText.entries_distinct _).of_map _) (List.nodup_singleton _)).mpr ?_
    intro member
    rw [List.mem_singleton,MappingText.mem_entries]
    constructor
    · intro listed
      obtain ⟨name,entry⟩ := onlyAcme_lookup listed
      exact Prod.ext name entry
    · intro same
      rw [same,onlyAcme,Finmap.lookup_insert]
  exact List.perm_singleton.mp single

theorem onlyAcme_counts (start : Int32) : (ingestionMap (onlyAcme start)).counts = ⟨[(text "acme",1)],by decide⟩ := by
  unfold TenantPartitionMap.counts ingestionMap mountedEntries
  simp only [onlyAcme_entries]
  rfl

theorem onlyAcme_unclipped (start : Int32) : Unclipped sampleSettings (onlyAcme start) := by
  intro id entry listed
  obtain ⟨rfl,rfl⟩ := onlyAcme_lookup listed
  rw [onlyAcme_counts]
  change _ = some (1 : Int32)
  decide

theorem acme_before (start : Int32) : countsBefore (onlyAcme start) "acme" = 0 := by
  rw [countsBefore,onlyAcme_counts]
  decide

def firstLoop : Loop := .initial sampleSettings sampleCluster noneReserved

def arrived (router : Router) (before : Loop) : Loop := {before with router,gauges := report router before.gauges}

def acmeAlone : Loop := arrived (heldBy [(text "acme",⟨0,1⟩)] 1) firstLoop

def acmeAfterAaa : Loop :=
  arrived (heldBy [(text "acme",⟨1,1⟩),(text "aaa",⟨0,1⟩)] 2) (arrived (heldBy [(text "aaa",⟨0,1⟩)] 1) firstLoop)

theorem acmeAlone_reached : ReflTransGen (Step sampleSettings) firstLoop acmeAlone :=
  .single (.routed firstLoop (record "acme") _ _ acme_first)

theorem acmeAfterAaa_reached : ReflTransGen (Step sampleSettings) firstLoop acmeAfterAaa :=
  (ReflTransGen.single (.routed firstLoop (record "aaa") _ _ aaa_first)).tail
    (.routed _ (record "acme") _ _ acme_second)

theorem acme_agrees : ∃ loop dedicated raw, ReflTransGen (Step sampleSettings) firstLoop loop ∧
    loop.processors "acme" = some dedicated ∧ dedicated.loaded = some raw ∧ loop.ingested = some raw ∧
    Agrees sampleSettings loop "acme" dedicated := by
  have observed : acmeAlone.gauges (text "acme") = some ⟨0,1⟩ := rfl
  obtain ⟨loop,dedicated,raw,run,running,consumed,ingested,unmarshalled⟩ := acme_loaded rfl observed
  have reached := acmeAlone_reached.trans run
  obtain ⟨mapping,entry,again,listed,agrees⟩ :=
    processor_agrees_iff sampleSettings sampleCluster noneReserved loop reached
    "acme" raw dedicated running consumed ingested
  cases unmarshalled.symm.trans again
  obtain ⟨_,rfl⟩ := onlyAcme_lookup listed
  exact ⟨loop,dedicated,raw,reached,running,consumed,ingested,
    (agrees (onlyAcme_unclipped 0)).mpr (acme_before 0).symm⟩

-- Another tenant has the first block of the pool; once acme is isolated, ingestion moves it there.
theorem acme_disagrees : ∃ loop dedicated raw mapping, ReflTransGen (Step sampleSettings) firstLoop loop ∧
    loop.processors "acme" = some dedicated ∧ dedicated.loaded = some raw ∧ loop.ingested = some raw ∧
    MappingText.json.unmarshal (text raw) = .ok mapping ∧ Unclipped sampleSettings mapping ∧
    loop.routedRange sampleSettings "acme" = some ⟨0,1⟩ ∧
    dedicated.con.clientPartitions sampleSettings.topic [] = {1} ∧ ¬Agrees sampleSettings loop "acme" dedicated := by
  have observed : acmeAfterAaa.gauges (text "acme") = some ⟨1,1⟩ := rfl
  obtain ⟨loop,dedicated,raw,run,running,consumed,ingested,unmarshalled⟩ := acme_loaded rfl observed
  have reached := acmeAfterAaa_reached.trans run
  obtain ⟨mapping,entry,again,listed,_,client,routed⟩ :=
    both_loaded reached (initial_inv sampleCluster noneReserved) running consumed ingested
  cases unmarshalled.symm.trans again
  obtain ⟨_,rfl⟩ := onlyAcme_lookup listed
  have whole := onlyAcme_unclipped 1
  have range := routed whole
  rw [acme_before] at range
  refine ⟨loop,dedicated,raw,_,reached,running,consumed,ingested,unmarshalled,whole,range,client.trans (by decide),?_⟩
  unfold Agrees
  rw [range,client]
  decide

end sample

end ControlPlane.Isolation
