import ControlPlane.Operator.Footprint

/-! A reconcile pass carries out its script: `reconcile_follows`. Each call is compared with the
write it makes in the tenant's footprint, and the calls are put together by the rules for scripts. -/
namespace ControlPlane.Operator
open Go Effect Effect.Fallible Effect.Script

section cluster
variable {cluster : Cluster} {kind : Kind} {key : NamespacedName} {object : Option kind.Object}

theorem Cluster.putObject_same :
    (cluster.putObject kind key object).objects kind key = object.map (⟨·,cluster.revision + 1⟩) := by
  simp [Cluster.putObject]

theorem Cluster.putObject_other {other : Kind} {name : NamespacedName} (different : other ≠ kind ∨ name ≠ key) :
    (cluster.putObject kind key object).objects other name = cluster.objects other name := by
  unfold Cluster.putObject
  by_cases same : other = kind
  · subst same
    have names : name ≠ key := by simpa using different
    simp [names]
  · simp [same]

theorem Cluster.putObject_shows :
    ((cluster.putObject kind key object).objects kind key).map Stored.object = object := by
  rw [Cluster.putObject_same]
  cases object <;> rfl

theorem Cluster.putTenant_self (tenant : TradingTenant) : (cluster.putTenant tenant).tenants tenant.key = some tenant :=
  if_pos rfl

theorem Cluster.putTenant_other {tenant : TradingTenant} {name : NamespacedName} (different : name ≠ tenant.key) :
    (cluster.putTenant tenant).tenants name = cluster.tenants name := if_neg different

end cluster

theorem api_cases {obs : Observation} {faults : Prop} {cluster final : Cluster} {op : ApiCall}
    {result : Except Error op.Value} (run : Yields obs faults cluster (api op) result final) :
    (result = (cluster.serve obs op).1 ∧ final = (cluster.serve obs op).2) ∨
      (faults ∧ op.Fallible ∧ final = cluster ∧ ∃ err, result = .error err ∧ Transport err) := by
  have answered := yields_request run
  cases answered with
  | served => exact Or.inl ⟨rfl,rfl⟩
  | failed err faulty fallible transport => exact Or.inr ⟨faulty,fallible,rfl,err,rfl,transport⟩

/-- A call with one error that is not a failure. -/
theorem handled_cases {α : Type} {obs : Observation} {faults : Prop} {cluster final : Cluster} {op : ApiCall}
    {known : Error} {change : op.Value → α} {otherwise : α} {wrap : Error → Error} {result : Except Error α}
    (foreign : ∀ err, Transport err → err.is known = false)
    (run : Yields obs faults cluster (tryCatch (change <$> api op) fun err =>
      if err.is known = true then pure otherwise else throw (wrap err)) result final) :
    (∃ value, cluster.serve obs op = (.ok value,final) ∧ result = .ok (change value)) ∨
      (∃ err, cluster.serve obs op = (.error err,final) ∧
        result = if err.is known = true then .ok otherwise else .error (wrap err)) ∨
      (faults ∧ final = cluster ∧ ∃ err, result = .error err) := by
  have handler {err : Error} {middle : Cluster}
      (ran : Yields obs faults middle (if err.is known = true then pure otherwise else throw (wrap err)) result final) :
      final = middle ∧ result = if err.is known = true then .ok otherwise else .error (wrap err) := by
    split at ran
    · rename_i same
      obtain ⟨rfl,rfl⟩ := yields_pure ran
      exact ⟨rfl,by rw [if_pos same]⟩
    · rename_i other
      obtain ⟨rfl,rfl⟩ := yields_throw ran
      exact ⟨rfl,by rw [if_neg other]⟩
  rcases yields_tryCatch run with ⟨value,rfl,mapped⟩ | ⟨err,middle,mapped,ran⟩
  · obtain ⟨inner,called,same⟩ := yields_map mapped
    rcases api_cases called with ⟨rfl,rfl⟩ | ⟨_,_,_,err,rfl,_⟩
    · cases served : (cluster.serve obs op).1 with
      | error err =>
        rw [served] at same
        cases same
      | ok reply =>
        rw [served] at same
        cases same
        exact Or.inl ⟨reply,Prod.ext served rfl,rfl⟩
    · cases same
  · obtain ⟨rfl,answer⟩ := handler ran
    obtain ⟨inner,called,same⟩ := yields_map mapped
    rcases api_cases called with ⟨rfl,rfl⟩ | ⟨faulty,_,rfl,cause,rfl,transport⟩
    · cases served : (cluster.serve obs op).1 with
      | error cause =>
        rw [served] at same
        cases same
        exact Or.inr (Or.inl ⟨err,Prod.ext served rfl,answer⟩)
      | ok reply =>
        rw [served] at same
        cases same
    · cases same
      rw [foreign err transport] at answer
      exact Or.inr (Or.inr ⟨faulty,rfl,wrap err,answer⟩)

section shared
variable {obs : Observation} {faults : Prop} {cluster final : Cluster} {ns : String}

theorem getSharedMap_cases {result : Except Error (Option (Stored ConfigMap))}
    (run : Yields obs faults cluster (getSharedMap ns) result final) :
    final = cluster ∧ (result = .ok (cluster.objects .configMap (sharedKey ns)) ∨ faults ∧
      ∃ err, result = .error err) := by
  rcases handled_cases (fun _ transport => transport.1) run with
    ⟨value,served,rfl⟩ | ⟨err,served,rfl⟩ | ⟨faulty,rfl,err,rfl⟩
  · cases stored : cluster.objects .configMap (sharedKey ns) with
    | none =>
      simp only [Cluster.serve,stored,Cluster.found] at served
      cases served
    | some object =>
      simp only [Cluster.serve,stored,Cluster.found] at served
      cases served
      exact ⟨rfl,Or.inl rfl⟩
  · cases stored : cluster.objects .configMap (sharedKey ns) with
    | none =>
      simp only [Cluster.serve,stored,Cluster.found] at served
      cases served
      exact ⟨rfl,Or.inl rfl⟩
    | some object =>
      simp only [Cluster.serve,stored,Cluster.found] at served
      cases served
  · exact ⟨rfl,Or.inr ⟨faulty,err,rfl⟩⟩

theorem createSharedMap_cases {configMap : ConfigMap} {result : Except Error Bool}
    (absent : cluster.objects .configMap (sharedKey ns) = none)
    (run : Yields obs faults cluster (createSharedMap ns configMap) result final) :
    (result = .ok true ∧ final = cluster.putObject .configMap (sharedKey ns) (some configMap)) ∨
      (faults ∧ final = cluster ∧ ∃ err, result = .error err) := by
  have served : cluster.serve obs (.create .configMap (sharedKey ns) configMap) =
      (.ok (),cluster.putObject .configMap (sharedKey ns) (some configMap)) := by
    simp only [Cluster.serve,Cluster.create,absent]
    rfl
  rcases handled_cases (fun _ transport => transport.2) run with
    ⟨value,answered,rfl⟩ | ⟨err,answered,rfl⟩ | ⟨faulty,rfl,err,rfl⟩
  · cases served.symm.trans answered
    exact Or.inl ⟨rfl,rfl⟩
  · cases served.symm.trans answered
  · exact Or.inr ⟨faulty,rfl,err,rfl⟩

theorem updateSharedMap_cases {configMap : ConfigMap} {stored : Stored ConfigMap} {result : Except Error Unit}
    (present : cluster.objects .configMap (sharedKey ns) = some stored)
    (run : Yields obs faults cluster (updateSharedMap ns ⟨configMap,stored.resourceVersion⟩) result final) :
    (result = .ok () ∧ final = cluster.putObject .configMap (sharedKey ns) (some configMap)) ∨
      (faults ∧ final = cluster ∧ ∃ err, result = .error err) := by
  have served : cluster.serve obs (.update .configMap (sharedKey ns) ⟨configMap,stored.resourceVersion⟩) =
      (.ok (),cluster.putObject .configMap (sharedKey ns) (some configMap)) := by
    simp only [Cluster.serve,Cluster.update,present,if_pos]
    rfl
  obtain ⟨inner,within,rfl⟩ := yields_context run
  rcases api_cases within with ⟨rfl,rfl⟩ | ⟨faulty,_,rfl,err,rfl,_⟩
  · exact Or.inl ⟨congrArg (Except.mapError _) (congrArg Prod.fst served),congrArg Prod.snd served⟩
  · exact Or.inr ⟨faulty,rfl,_,rfl⟩

theorem decode_cases {json : MappingJson} {raw : String} {result : Except Error Mapping}
    (run : Yields obs faults cluster (context (.wrap "decode tenant partition map: %w" [])
      (pureResult (decodeTenantPartitionMap json raw))) result final) :
    final = cluster ∧ ((∃ mapping, decodeTenantPartitionMap json raw = .ok mapping ∧ result = .ok mapping) ∨
      ∃ err cause, decodeTenantPartitionMap json raw = .error cause ∧ result = .error err) := by
  obtain ⟨inner,within,rfl⟩ := yields_context run
  obtain ⟨rfl,rfl⟩ := yields_pureResult within
  cases decodeTenantPartitionMap json raw with
  | error cause => exact ⟨rfl,Or.inr ⟨_,cause,rfl,rfl⟩⟩
  | ok mapping => exact ⟨rfl,Or.inl ⟨mapping,rfl,rfl⟩⟩

-- With nobody else writing there is no lost race, so no retry.
theorem writeBack_cases {json : MappingJson} {mapping : Mapping} {retry : Reconciling Unit} {result : Except Error Unit}
    (run : Yields obs faults cluster
      (writeBack json ns (cluster.objects .configMap (sharedKey ns)) mapping retry) result final) :
    (faults ∧ final = cluster ∧ ∃ err, result = .error err) ∨
      (result = .ok () ∧ final = match pendingWrite json (cluster.objects .configMap (sharedKey ns)) mapping with
        | none => cluster
        | some configMap => cluster.putObject .configMap (sharedKey ns) (some configMap)) := by
  unfold writeBack at run
  cases pending : pendingWrite json (cluster.objects .configMap (sharedKey ns)) mapping with
  | none =>
    rw [pending] at run
    obtain ⟨rfl,rfl⟩ := yields_pure run
    exact Or.inr ⟨rfl,rfl⟩
  | some configMap =>
    rw [pending] at run
    cases stored : cluster.objects .configMap (sharedKey ns) with
    | none =>
      rw [stored] at run
      rcases yields_bind run with ⟨err,rfl,create⟩ | ⟨created,middle,create,rest⟩
      · rcases createSharedMap_cases stored create with ⟨impossible,_⟩ | ⟨faulty,rfl,_⟩
        · cases impossible
        · exact Or.inl ⟨faulty,rfl,err,rfl⟩
      · rcases createSharedMap_cases stored create with ⟨same,rfl⟩ | ⟨_,_,_,impossible⟩
        · cases same
          obtain ⟨rfl,rfl⟩ := yields_pure rest
          exact Or.inr ⟨rfl,rfl⟩
        · cases impossible
    | some object =>
      rw [stored] at run
      rcases updateSharedMap_cases stored run with ⟨rfl,rfl⟩ | ⟨faulty,rfl,err,rfl⟩
      · exact Or.inr ⟨rfl,rfl⟩
      · exact Or.inl ⟨faulty,rfl,err,rfl⟩

end shared

section represents
variable {json : MappingJson} {origin cluster : Cluster} {v : Footprint} {announced : List Signal}
  (represented : Represents json origin cluster v announced)
include represented

theorem Represents.putSlot (slot : Slot) (object : Option slot.kind.Object) :
    Represents json origin (cluster.putObject slot.kind (slot.key v.tenant) object) ((slotCell slot).set object v)
      announced := by
  refine ⟨represented.tenant,?_,?_,represented.signals,represented.others⟩
  · intro other
    by_cases same : other = slot
    · subst same
      simp only [slotCell,Function.update_self]
      exact Cluster.putObject_shows
    · simp only [slotCell,Function.update_of_ne same]
      rw [Cluster.putObject_other (Slot.apart v.tenant same)]
      exact represented.objects other
  · change sharedMapping json _ v.tenant.key.ns = v.mapping
    rw [← represented.mapping]
    unfold sharedMapping
    rw [Slot.key_eq,Cluster.putObject_other]
    exact (Slot.apart_shared slot v.tenant.key _).imp Ne.symm Ne.symm

theorem Represents.putShared {configMap : ConfigMap} {read : Except Error Mapping}
    (decoded : decodeTenantPartitionMap json (rawMapping configMap) = read) :
    Represents json origin (cluster.putObject .configMap (sharedKey v.tenant.key.ns) (some configMap))
      (entryCell.set (some read) v) announced := by
  refine ⟨represented.tenant,?_,?_,represented.signals,represented.others⟩
  · intro slot
    rw [Cluster.putObject_other]
    · exact represented.objects slot
    · rw [Slot.key_eq]
      exact Slot.apart_shared slot v.tenant.key _
  · change sharedMapping json _ v.tenant.key.ns = _
    unfold sharedMapping
    rw [Cluster.putObject_same,← decoded]
    rfl

theorem Represents.putTenant {tenant : TradingTenant} (same : tenant.key = v.tenant.key) :
    Represents json origin (cluster.putTenant tenant) {v with tenant := tenant} announced := by
  refine ⟨Cluster.putTenant_self tenant,?_,?_,represented.signals,?_⟩
  · intro slot
    change (cluster.objects slot.kind (slot.key tenant)).map _ = _
    rw [Slot.key_congr same]
    exact represented.objects slot
  · change sharedMapping json cluster tenant.key.ns = v.mapping
    rw [same]
    exact represented.mapping
  · intro key different
    change key ≠ tenant.key at different
    rw [Cluster.putTenant_other different]
    exact represented.others key (same ▸ different)

theorem Represents.emit (signal : Signal) : Represents json origin (cluster.emit signal) v (announced ++ [signal]) := by
  refine ⟨represented.tenant,represented.objects,represented.mapping,?_,represented.others⟩
  simp [Cluster.emit,represented.signals]

end represents

section follows
variable {json : MappingJson} {origin : Cluster} {obs : Observation} {faults : Prop} {v : Footprint} {α : Type}

/-- The action carries out the script in every cluster whose part of the tenant is `v`. -/
abbrev CarriesOut (json : MappingJson) (origin : Cluster) (obs : Observation) (faults : Prop) (v : Footprint)
    (action : Reconciling α) (script : PassScript) (good : α → Prop) : Prop :=
  Follows (Answers obs faults) (Represents json origin) faults action script v good

theorem record_follows (signal : Signal) :
    CarriesOut json origin obs faults v (recordTransition signal) [.announce signal] fun _ => True := by
  intro start announced result final represented run
  rcases api_cases run with ⟨rfl,rfl⟩ | ⟨_,impossible,_⟩
  · exact Or.inr ⟨(),rfl,trivial,v,rfl,represented.emit signal⟩
  · exact impossible.elim

theorem announceIf_follows {condition : Bool} {signal : Signal} {rest : Reconciling α} {script : PassScript}
    {good : α → Prop} (follows : CarriesOut json origin obs faults v rest script good) :
    CarriesOut json origin obs faults v (if condition = true then recordTransition signal >>= fun _ => rest else rest)
      (announceIf condition signal ++ script) good := by
  cases condition with
  | false => exact follows
  | true =>
    refine Follows.bind (record_follows signal) ?_
    intro _ reached _ applied
    cases applied
    exact follows

theorem observe_reads {op : ApiCall} {value : op.Value} {key : NamespacedName} {step : String}
    (reads : ∀ cluster : Cluster, cluster.serve obs op = (.ok value,cluster)) (start : Cluster)
    (announced : List Signal) (result : Except Error op.Value) (final : Cluster)
    (_ : Represents json origin start v announced)
    (run : Yields obs faults start (reconciling key step (api op)) result final) :
    final = start ∧ (result = .ok value ∨ faults ∧ ∃ err, result = .error err) := by
  obtain ⟨inner,within,rfl⟩ := yields_context run
  rcases api_cases within with ⟨rfl,rfl⟩ | ⟨faulty,_,rfl,err,rfl,_⟩
  · rw [reads start]
    exact ⟨rfl,Or.inl rfl⟩
  · exact ⟨rfl,Or.inr ⟨faulty,_,rfl⟩⟩

theorem createOrUpdate_cases (cluster : Cluster) (kind : Kind) (key : NamespacedName)
    (mutate : kind.Object → Except Error kind.Object) {present : Option kind.Object}
    (shown : (cluster.objects kind key).map Stored.object = present) :
    (∃ err, mutate (present.getD kind.blank) = .error err ∧
      cluster.createOrUpdate kind key mutate = (.error err,cluster)) ∨
    ∃ next done, mutate (present.getD kind.blank) = .ok next ∧ decide (done = .created) = present.isNone ∧
      (cluster.createOrUpdate kind key mutate = (.ok done,cluster.putObject kind key (some next)) ∨
        cluster.createOrUpdate kind key mutate = (.ok done,cluster) ∧ present = some next) := by
  subst shown
  unfold Cluster.createOrUpdate
  cases cluster.objects kind key with
  | none =>
    cases made : mutate kind.blank with
    | error err => exact Or.inl ⟨err,made,by simp⟩
    | ok next => exact Or.inr ⟨next,.created,made,rfl,Or.inl (by simp)⟩
  | some stored =>
    cases made : mutate stored.object with
    | error err => exact Or.inl ⟨err,made,by simp [made]⟩
    | ok next =>
      by_cases same : next = stored.object
      · exact Or.inr ⟨next,.none,made,rfl,Or.inr ⟨by simp [made,same],by simp [same]⟩⟩
      · exact Or.inr ⟨next,.updated,made,rfl,Or.inl (by simp [made,same])⟩

theorem ensure_follows (rec : TradingTenantReconciler) (tenant : TradingTenant) (replicas : Int32) (slot : Slot)
    (key : NamespacedName) (named : key = slot.key v.tenant) :
    CarriesOut json origin obs faults v (api (.createOrUpdate slot.kind key (dedicated rec tenant obs replicas slot)))
      [.write (slotWrite rec tenant obs replicas true slot)]
      fun result : OperationResult => decide (result = .created) = unsettled true (v.objects slot) := by
  subst named
  apply Follows.write
  intro start announced result final represented run
  rcases api_cases run with ⟨rfl,rfl⟩ | ⟨faulty,_,rfl,err,rfl,_⟩
  · rcases createOrUpdate_cases start slot.kind (slot.key v.tenant) (dedicated rec tenant obs replicas slot)
      (represented.objects slot) with ⟨err,refused,served⟩ | ⟨next,done,made,created,written⟩
    · refine Or.inl ⟨err,?_⟩
      simp only [Cluster.serve,served]
      refine ⟨rfl,represented,Or.inr ⟨err,?_⟩⟩
      simp [slotWrite,Cell.modify,slotCell,settleSlot,refused]
    · have changed : slotWrite rec tenant obs replicas true slot v = .ok ((slotCell slot).set (some next) v) :=
        Cell.modify_ok.mpr ⟨some next,by simp [slotCell,settleSlot,made],rfl⟩
      refine Or.inr ⟨done,_,?_,created,changed,?_⟩
      · rcases written with served | ⟨served,_⟩
        · exact congrArg Prod.fst served
        · exact congrArg Prod.fst served
      · rcases written with served | ⟨served,same⟩
        · simp only [Cluster.serve,served]
          exact represented.putSlot slot (some next)
        · simp only [Cluster.serve,served,← same]
          rw [show (slotCell slot).set (v.objects slot) v = v by simp [slotCell]]
          exact represented
  · exact Or.inl ⟨err,rfl,represented,Or.inl faulty⟩

-- A write to one slot is not seen in the others.
theorem slot_then {β : Type} {slot : Slot} {change : Option slot.kind.Object → Except Error (Option slot.kind.Object)}
    {action : Reconciling α} {good : α → Prop} {next : α → Reconciling β} {later : PassScript} {fine : β → Prop}
    (first : CarriesOut json origin obs faults v action [.write ((slotCell slot).modify change)] good)
    (continues : ∀ value reached, good value → reached.tenant = v.tenant →
      (∀ other, other ≠ slot → reached.objects other = v.objects other) →
      CarriesOut json origin obs faults reached (next value) later fine) :
    CarriesOut json origin obs faults v (action >>= next) (.write ((slotCell slot).modify change)::later) fine := by
  refine Follows.bind first ?_
  intro value reached kept applied
  obtain ⟨middle,changed,same⟩ := applyAll_cons_ok.mp applied
  cases same
  obtain ⟨written,_,rfl⟩ := Cell.modify_ok.mp changed
  exact continues value _ kept rfl fun other different => Function.update_of_ne different _ _

theorem ensureDedicatedPool_follows (rec : TradingTenantReconciler) (tenant : TradingTenant) (replicas : Int32)
    (own : v.tenant = tenant) :
    CarriesOut json origin obs faults v
      (ensureDedicatedPool rec tenant obs.partitionStart obs.partitionCount replicas)
      (slotScript rec tenant obs replicas true) (· = v.pending true) := by
  subst own
  refine slot_then (Follows.context _ (ensure_follows rec v.tenant replicas .configMap _ rfl)) ?_
  intro configMapResult v₁ madeConfigMap own₁ kept₁
  refine slot_then (Follows.context _ (ensure_follows rec v.tenant replicas .ingestion _ (by rw [own₁]; rfl))) ?_
  intro ingestionResult v₂ madeIngestion own₂ kept₂
  refine slot_then (Follows.context _ (ensure_follows rec v.tenant replicas .processor _ (by rw [own₂,own₁]; rfl))) ?_
  intro processorResult v₃ madeProcessor own₃ kept₃
  refine slot_then (Follows.context _ (ensure_follows rec v.tenant replicas .service _
    (by rw [own₃,own₂,own₁]; rfl))) ?_
  intro serviceResult v₄ madeService own₄ kept₄
  rw [kept₁ _ (by decide)] at madeIngestion
  rw [kept₂ _ (by decide),kept₁ _ (by decide)] at madeProcessor
  rw [kept₃ _ (by decide),kept₂ _ (by decide),kept₁ _ (by decide)] at madeService
  have created : v.pending true = (decide (configMapResult = .created) || decide (ingestionResult = .created) ||
      decide (processorResult = .created) || decide (serviceResult = .created)) := by
    simp [Footprint.pending,slotOrder,madeConfigMap,madeIngestion,madeProcessor,madeService,Bool.or_assoc]
  rw [created]
  exact Follows.pure rfl

theorem delete_follows (rec : TradingTenantReconciler) (tenant : TradingTenant) (replicas : Int32) (slot : Slot)
    (key : NamespacedName) (named : key = slot.key v.tenant) :
    CarriesOut json origin obs faults v (deleteIfPresent slot.kind key)
      [.write (slotWrite rec tenant obs replicas false slot)]
      (· = unsettled false (v.objects slot)) := by
  subst named
  have removed : slotWrite rec tenant obs replicas false slot v = .ok ((slotCell slot).set none v) := rfl
  apply Follows.write
  intro start announced result final represented run
  have shown := represented.objects slot
  rcases handled_cases (fun _ transport => transport.1) run with
    ⟨value,served,rfl⟩ | ⟨err,served,rfl⟩ | ⟨faulty,rfl,err,rfl⟩
  · cases stored : start.objects slot.kind (slot.key v.tenant) with
    | none =>
      simp only [Cluster.serve,Cluster.delete,stored] at served
      cases served
    | some object =>
      simp only [Cluster.serve,Cluster.delete,stored] at served
      cases served
      refine Or.inr ⟨true,_,rfl,?_,removed,represented.putSlot slot none⟩
      rw [← shown,stored]
      rfl
  · cases stored : start.objects slot.kind (slot.key v.tenant) with
    | none =>
      simp only [Cluster.serve,Cluster.delete,stored] at served
      cases served
      rw [stored] at shown
      refine Or.inr ⟨false,_,rfl,?_,removed,?_⟩
      · rw [← shown]
        rfl
      · rw [show (slotCell slot).set none v = v by rw [show none = v.objects slot from shown]; simp [slotCell]]
        exact represented
    | some object =>
      simp only [Cluster.serve,Cluster.delete,stored] at served
      cases served
  · exact Or.inl ⟨err,rfl,represented,Or.inl faulty⟩

theorem tearDownDedicatedPool_follows (rec : TradingTenantReconciler) (tenant : TradingTenant) (replicas : Int32)
    (own : v.tenant = tenant) :
    CarriesOut json origin obs faults v (tearDownDedicatedPool tenant) (slotScript rec tenant obs replicas false)
      (· = v.pending false) := by
  subst own
  refine slot_then (delete_follows rec v.tenant replicas .ingestion _ rfl) ?_
  intro ingestion v₁ deletedIngestion own₁ kept₁
  refine slot_then (delete_follows rec v.tenant replicas .processor _ (by rw [own₁]; rfl)) ?_
  intro processor v₂ deletedProcessor own₂ kept₂
  refine slot_then (delete_follows rec v.tenant replicas .service _ (by rw [own₂,own₁]; rfl)) ?_
  intro service v₃ deletedService own₃ kept₃
  refine slot_then (delete_follows rec v.tenant replicas .configMap _ (by rw [own₃,own₂,own₁]; rfl)) ?_
  intro configMap v₄ deletedConfigMap own₄ kept₄
  rw [kept₁ _ (by decide)] at deletedProcessor
  rw [kept₂ _ (by decide),kept₁ _ (by decide)] at deletedService
  rw [kept₃ _ (by decide),kept₂ _ (by decide),kept₁ _ (by decide)] at deletedConfigMap
  have deleted : v.pending false = (ingestion || processor || service || configMap) := by
    simp [Footprint.pending,slotOrder,deletedIngestion,deletedProcessor,deletedService,deletedConfigMap,Bool.or_assoc]
  rw [deleted]
  exact Follows.pure rfl

/-- What is pending once the map has been read and changed is the write to the entry. -/
theorem Represents.writeBack {cluster : Cluster} {announced : List Signal} {mapping : Mapping}
    (mutate : Mapping → Mapping) (represented : Represents json origin cluster v announced)
    (decoded : decodeTenantPartitionMap json
      (((cluster.objects .configMap (sharedKey v.tenant.key.ns)).map fun stored => rawMapping stored.object).getD "") =
        .ok mapping) :
    ∃ reached, entryWrite mutate v = .ok reached ∧ Represents json origin
      (match pendingWrite json (cluster.objects .configMap (sharedKey v.tenant.key.ns)) (mutate mapping) with
        | none => cluster
        | some configMap => cluster.putObject .configMap (sharedKey v.tenant.key.ns)
          (some configMap)) reached announced := by
  have shown := represented.mapping
  unfold sharedMapping at shown
  have made {next : Option (Except Error Mapping)} (changed : changeMapping mutate v.mapping = .ok next) :
      entryWrite mutate v = .ok (entryCell.set next v) := Cell.modify_ok.mpr ⟨next,changed,rfl⟩
  have unchanged {next : Option (Except Error Mapping)} (same : v.mapping = next) : entryCell.set next v = v := by
    subst same
    rfl
  have written (configMap : ConfigMap) :
      decodeTenantPartitionMap json (rawMapping (withMapping configMap (json.marshal (mutate mapping)))) =
        .ok (mutate mapping) := by
    rw [rawMapping_withMapping,decode_marshal]
  cases stored : cluster.objects .configMap (sharedKey v.tenant.key.ns) with
  | none =>
    rw [stored] at decoded shown
    cases decoded
    by_cases blank : mutate ∅ = ∅
    · refine ⟨_,made (by rw [← shown]; rfl),?_⟩
      rw [unchanged (by rw [← shown,if_pos blank]; rfl)]
      simpa [pendingWrite,blank] using represented
    · refine ⟨_,made (by rw [← shown]; rfl),?_⟩
      simp only [pendingWrite,if_neg blank]
      exact represented.putShared (written _)
  | some object =>
    rw [stored] at decoded shown
    change decodeTenantPartitionMap json (rawMapping object.object) = .ok mapping at decoded
    rw [Option.map_some,decoded] at shown
    refine ⟨_,made (by rw [← shown]; rfl),?_⟩
    by_cases same : rawMapping object.object = json.marshal (mutate mapping)
    · have fixed : mutate mapping = mapping := by
        rw [same,decode_marshal] at decoded
        exact Except.ok.inj decoded
      rw [unchanged (by rw [← shown,fixed])]
      simpa only [pendingWrite,if_pos same] using represented
    · simp only [pendingWrite,if_neg same]
      exact represented.putShared (written _)

theorem Represents.undecodable {cluster : Cluster} {announced : List Signal} {cause : Error}
    (mutate : Mapping → Mapping) (represented : Represents json origin cluster v announced)
    (undecodable : decodeTenantPartitionMap json
      (((cluster.objects .configMap (sharedKey v.tenant.key.ns)).map fun stored => rawMapping stored.object).getD "") =
        .error cause) : entryWrite mutate v = .error cause := by
  have shown := represented.mapping
  unfold sharedMapping at shown
  cases stored : cluster.objects .configMap (sharedKey v.tenant.key.ns) with
  | none =>
    rw [stored] at undecodable
    cases undecodable
  | some object =>
    rw [stored] at undecodable shown
    change decodeTenantPartitionMap json (rawMapping object.object) = .error cause at undecodable
    rw [Option.map_some,undecodable] at shown
    simp only [entryWrite,Cell.modify,entryCell,← shown]
    rfl

theorem mutateTenantPartitionMap_follows (mutate : Mapping → Mapping) (rounds : Nat) (enough : faults ∨ 0 < rounds) :
    CarriesOut json origin obs faults v (mutateTenantPartitionMap json v.tenant.key.ns mutate rounds)
      [.write (entryWrite mutate)] fun _ => True := by
  apply Follows.write
  intro start announced result final represented run
  cases rounds with
  | zero =>
    obtain ⟨rfl,rfl⟩ := yields_throw run
    exact Or.inl ⟨_,rfl,represented,Or.inl (enough.resolve_right (lt_irrefl 0))⟩
  | succ rounds =>
    rcases yields_bind run with ⟨err,rfl,head⟩ | ⟨found,middle,head,tail⟩
    · obtain ⟨rfl,impossible | ⟨faulty,_⟩⟩ := getSharedMap_cases head
      · cases impossible
      · exact Or.inl ⟨err,rfl,represented,Or.inl faulty⟩
    obtain ⟨rfl,read | ⟨_,_,impossible⟩⟩ := getSharedMap_cases head
    swap
    · cases impossible
    cases read
    rcases yields_bind tail with ⟨err,rfl,decoding⟩ | ⟨mapping,after,decoding,rest⟩
    · obtain ⟨rfl,⟨_,_,impossible⟩ | ⟨_,cause,undecodable,_⟩⟩ := decode_cases decoding
      · cases impossible
      · exact Or.inl ⟨err,rfl,represented,Or.inr ⟨cause,represented.undecodable mutate undecodable⟩⟩
    · obtain ⟨rfl,⟨mapping,decoded,same⟩ | ⟨_,_,_,impossible⟩⟩ := decode_cases decoding
      swap
      · cases impossible
      cases same
      obtain ⟨reached,changed,shown⟩ := represented.writeBack mutate decoded
      rcases writeBack_cases rest with ⟨faulty,rfl,err,rfl⟩ | ⟨rfl,rfl⟩
      · exact Or.inl ⟨err,rfl,represented,Or.inl faulty⟩
      · exact Or.inr ⟨(),reached,rfl,trivial,changed,shown⟩

theorem updateIsolation_follows {decision : ReconcileDecision} (set : decision.setDedicatedNodePool = true) :
    CarriesOut json origin obs faults v (updateIsolation v.tenant) [.write (flagWrite decision)]
      (· = v.tenant.withIsolation true) := by
  apply Follows.write
  intro start announced result final represented run
  rcases api_cases run with ⟨rfl,rfl⟩ | ⟨faulty,_,rfl,err,rfl,_⟩
  · have served : start.updateTenant (v.tenant.withIsolation true) =
        (.ok (v.tenant.withIsolation true),start.putTenant (v.tenant.withIsolation true)) := by
      unfold Cluster.updateTenant
      rw [show start.tenants (v.tenant.withIsolation true).key = some v.tenant from represented.tenant]
      rfl
    refine Or.inr ⟨_,flagCell.set true v,congrArg Prod.fst served,rfl,?_,?_⟩
    · exact Cell.modify_ok.mpr ⟨true,by rw [set,Bool.or_true],rfl⟩
    · rw [show (start.serve obs (.updateTenant (v.tenant.withIsolation true))).2 = _ from congrArg Prod.snd served]
      exact represented.putTenant rfl
  · exact Or.inl ⟨err,rfl,represented,Or.inl faulty⟩

theorem flagIsolation_follows (decision : ReconcileDecision) :
    CarriesOut json origin obs faults v (flagIsolation v.tenant decision) (flagScript v.tenant decision)
      (· = v.tenant.withIsolation (v.tenant.settlesIsolated decision)) := by
  unfold flagIsolation flagScript TradingTenant.settlesIsolated
  by_cases flips : (decision.setDedicatedNodePool && !v.tenant.isolated) = true
  · have set : decision.setDedicatedNodePool = true := ((Bool.and_eq_true _ _).mp flips).1
    rw [if_pos flips,flips,set,Bool.or_true]
    refine Follows.bind (Follows.context _ (updateIsolation_follows set)) ?_
    intro tenant reached same applied
    subst same
    refine Follows.bind (record_follows _) ?_
    intro _ again _ unchanged
    exact Follows.pure rfl
  · have kept : (v.tenant.isolated || decision.setDedicatedNodePool) = v.tenant.isolated := by
      revert flips
      cases v.tenant.isolated <;> cases decision.setDedicatedNodePool <;> simp
    rw [if_neg flips,Bool.eq_false_iff.mpr flips,kept]
    apply Follows.write
    intro start announced result final represented run
    obtain ⟨rfl,rfl⟩ := yields_pure run
    exact Or.inr ⟨_,v,rfl,rfl,Cell.modify_ok.mpr ⟨v.tenant.isolated,by rw [← kept]; rfl,rfl⟩,represented⟩

theorem provision_follows (rec : TradingTenantReconciler) (rounds : Nat) (replicas : Int32)
    (enough : faults ∨ 0 < rounds) :
    CarriesOut json origin obs faults v (provision json rec rounds v.tenant obs.partitionCount replicas)
      (resourceScript rec v.tenant obs replicas true (v.pending true)) fun _ => True := by
  refine Follows.read (observe_reads fun _ => rfl) ?_
  refine Follows.bind (Follows.context _ (ensureDedicatedPool_follows rec v.tenant replicas rfl)) ?_
  intro created reached same applied
  subst same
  apply announceIf_follows
  rw [writes_slotScript] at applied
  rw [← slots_keep_tenant applied]
  exact Follows.context _ (mutateTenantPartitionMap_follows _ rounds enough)

theorem tearDown_follows (rec : TradingTenantReconciler) (rounds : Nat) (replicas : Int32)
    (enough : faults ∨ 0 < rounds) :
    CarriesOut json origin obs faults v (tearDown json rounds v.tenant)
      (resourceScript rec v.tenant obs replicas false (v.pending false)) fun _ => True := by
  refine Follows.bind (Follows.context _ (tearDownDedicatedPool_follows rec v.tenant replicas rfl)) ?_
  intro tornDown reached same applied
  subst same
  apply announceIf_follows
  rw [writes_slotScript] at applied
  rw [← slots_keep_tenant applied]
  exact Follows.context _ (mutateTenantPartitionMap_follows _ rounds enough)

theorem publishStatus_follows (oldState : Option TradingTenantState) (decision : ReconcileDecision)
    (status : TradingTenantStatus) :
    CarriesOut json origin obs faults v (publishStatus v.tenant oldState decision status)
      (.write (statusWrite status) :: announceIf (some decision.state ≠ oldState)
        (stateSignal v.tenant oldState decision.state)) fun _ => True := by
  have update : CarriesOut json origin obs faults v (api (.updateStatus (v.tenant.withStatus status)))
      [.write (statusWrite status)] fun _ => True := by
    apply Follows.write
    intro start announced result final represented run
    rcases api_cases run with ⟨rfl,rfl⟩ | ⟨faulty,_,rfl,err,rfl,_⟩
    · have served : start.updateStatus (v.tenant.withStatus status) =
        (.ok (),start.putTenant (v.tenant.withStatus status)) := by
        unfold Cluster.updateStatus
        rw [show start.tenants (v.tenant.withStatus status).key = some v.tenant from represented.tenant]
        rfl
      refine Or.inr ⟨_,statusCell.set status v,congrArg Prod.fst served,trivial,rfl,?_⟩
      rw [show (start.serve obs (.updateStatus (v.tenant.withStatus status))).2 = _ from congrArg Prod.snd served]
      exact represented.putTenant rfl
    · exact Or.inl ⟨err,rfl,represented,Or.inl faulty⟩
  refine Follows.bind (Follows.context _ update) ?_
  intro _ reached _ _
  by_cases moved : some decision.state ≠ oldState
  · rw [if_pos moved,decide_eq_true moved]
    exact record_follows _
  · rw [if_neg moved,decide_eq_false moved]
    exact Follows.pure trivial

theorem flag_applied {decision : ReconcileDecision} {reached : Footprint}
    (applied : applyAll (writes (flagScript v.tenant decision)) v = .ok reached) :
    reached = flagCell.set (v.tenant.settlesIsolated decision) v := by
  unfold flagScript at applied
  simp only [writes,writes_announceIf] at applied
  obtain ⟨middle,changed,same⟩ := applyAll_cons_ok.mp applied
  cases same
  cases changed
  rfl

theorem resources_follow (rec : TradingTenantReconciler) (rounds : Nat) (replicas : Int32) (isolating : Bool)
    (enough : faults ∨ 0 < rounds) :
    CarriesOut json origin obs faults v
      (if isolating then provision json rec rounds v.tenant obs.partitionCount replicas else
        tearDown json rounds v.tenant)
      (resourceScript rec v.tenant obs replicas isolating (v.pending isolating)) fun _ => True := by
  cases isolating with
  | false => exact tearDown_follows rec rounds replicas enough
  | true => exact provision_follows rec rounds replicas enough

theorem reconcileTenant_follows (rec : TradingTenantReconciler) (rounds : Nat) (now : Int)
    (enough : faults ∨ 0 < rounds) :
    CarriesOut json origin obs faults v (reconcileTenant json rec rounds now v.tenant) (passScript rec obs now v)
      fun _ => True := by
  refine Follows.read (observe_reads fun _ => rfl) ?_
  refine Follows.read (observe_reads fun _ => rfl) ?_
  refine Follows.read (observe_reads fun _ => rfl) ?_
  refine Follows.bind (flagIsolation_follows _) ?_
  intro tenant flagged same applied
  cases flag_applied applied
  subst same
  apply join (P := fun action => CarriesOut json origin obs faults _ action _ _)
  refine Follows.bind (resources_follow rec rounds _ _ enough) ?_
  intro _ settled _ resources
  have publish : CarriesOut json origin obs faults settled _ _ _ := publishStatus_follows v.tenant.status.state
    (v.tenant.decision obs) (settledStatus (v.tenant.decision obs) obs.lag obs.p99Ms obs.partitionCount now)
  rw [resources_keep_tenant resources] at publish
  rw [← List.append_nil (statusScript _ _ _ _)]
  refine Follows.bind publish ?_
  intro _ _ _ _
  exact Follows.pure trivial

theorem getTenant_reads (start : Cluster) (announced : List Signal) (result : Except Error (Option TradingTenant))
    (final : Cluster) (represented : Represents json origin start v announced)
    (run : Yields obs faults start (getTenant v.tenant.key) result final) :
    final = start ∧ (result = .ok (some v.tenant) ∨ faults ∧ ∃ err, result = .error err) := by
  have served : start.serve obs (.getTenant v.tenant.key) = (.ok v.tenant,start) := by
    simp only [Cluster.serve,represented.tenant]
    rfl
  rcases handled_cases (fun _ transport => transport.1) run with
    ⟨value,answered,rfl⟩ | ⟨err,answered,rfl⟩ | ⟨faulty,rfl,err,rfl⟩
  · cases served.symm.trans answered
    exact ⟨rfl,Or.inl rfl⟩
  · cases served.symm.trans answered
  · exact ⟨rfl,Or.inr ⟨faulty,err,rfl⟩⟩

theorem reconcile_follows (rec : TradingTenantReconciler) (rounds : Nat) (now : Int) (enough : faults ∨ 0 < rounds) :
    CarriesOut json origin obs faults v (reconcile json rec rounds now v.tenant.key) (passScript rec obs now v)
      fun _ => True :=
  Follows.read getTenant_reads (reconcileTenant_follows rec rounds now enough)

end follows

theorem served_run {α : Type} (obs : Observation) (cluster : Cluster) (action : Reconciling α) :
    ∃ result final, Yields obs False cluster action result final :=
  ⟨_,_,Program.Runs.of_execute (fun cluster op => cluster.serve obs op) (fun _ op => .served op) action.run cluster⟩

/-- A pass whose calls are all served succeeds if none of its writes fails. -/
theorem served_pass_succeeds {json : MappingJson} {rec : TradingTenantReconciler} {obs : Observation}
    {rounds : Nat} {now : Int} {origin cluster final : Cluster} {v settled : Footprint} {announced : List Signal}
    {result : Except Error Result} (enough : 0 < rounds) (represented : Represents json origin cluster v announced)
    (applied : applyAll (writes (passScript rec obs now v)) v = .ok settled)
    (run : Yields obs False cluster (reconcile json rec rounds now v.tenant.key) result final) :
    ∃ value, result = .ok value := by
  rcases reconcile_follows rec rounds now (Or.inr enough) _ _ _ _ represented run with ⟨_,_,stopped⟩ | ⟨value,same,_⟩
  · exact absurd applied (stopped.fails settled)
  · exact ⟨value,same⟩

theorem pass_exists {json : MappingJson} (rec : TradingTenantReconciler) (obs : Observation) (now : Int) (faults : Prop)
    {origin cluster : Cluster} {v settled : Footprint} {announced : List Signal}
    (represented : Represents json origin cluster v announced)
    (applied : applyAll (writes (passScript rec obs now v)) v = .ok settled) :
    ∃ result final, Yields obs faults cluster (reconcile json rec 1 now v.tenant.key) (.ok result) final ∧
      Represents json origin final settled (announced ++ signals (passScript rec obs now v)) := by
  obtain ⟨result,final,run⟩ := served_run obs cluster (reconcile json rec 1 now v.tenant.key)
  obtain ⟨value,rfl⟩ := served_pass_succeeds (Nat.one_pos) represented applied run
  obtain ⟨reached,made,shown⟩ := (reconcile_follows rec 1 now (Or.inr Nat.one_pos)).completed represented run
  rw [applied] at made
  cases made
  refine ⟨value,final,Program.Runs.mono ?_ run,shown⟩
  intro state op reply middle answered
  cases answered with
  | served => exact .served op
  | failed err impossible => exact impossible.elim

end ControlPlane.Operator
