import ControlPlane.Operator.Retry
import Mathlib.Logic.Relation

/-! The shared map over whole histories of the tenants of one namespace: objects are created,
edited by hand and deleted, and passes over them succeed or stop early. -/
namespace ControlPlane.Operator
open Go Effect Effect.Script Relation

section published

theorem publishedOf_changed {mutate : Mapping → Mapping} {mapping next : Option (Except Error Mapping)}
    (changed : changeMapping mutate mapping = .ok next) : publishedOf next = mutate (publishedOf mapping) := by
  cases mapping with
  | none =>
    cases changed
    by_cases blank : mutate ∅ = ∅
    · rw [if_pos blank]
      exact blank.symm
    · rw [if_neg blank]
      rfl
  | some read =>
    cases read with
    | error err => cases changed
    | ok mapping =>
      cases changed
      rfl

variable {tenant : TradingTenant} {obs : Observation} {isolating : Bool} {mapping : Mapping}

theorem settleMapping_own : (settleMapping tenant obs isolating mapping).lookup tenant.spec.tenantID =
    if isolating then some ⟨obs.partitionStart,obs.partitionCount⟩ else none := by
  cases isolating with
  | false => exact Finmap.lookup_erase _ _
  | true => exact Finmap.lookup_insert _

theorem settleMapping_other {id : String} (other : id ≠ tenant.spec.tenantID) :
    (settleMapping tenant obs isolating mapping).lookup id = mapping.lookup id := by
  cases isolating with
  | false => exact Finmap.lookup_erase_ne other
  | true => exact Finmap.lookup_insert_of_ne _ other

end published

section effect
variable {json : MappingJson} {rec : TradingTenantReconciler} {obs : Observation} {rounds : Nat} {now : Int}
  {cluster final : Cluster} {tenant : TradingTenant} {result : Except Error Result}

theorem slots_keep_mapping {replicas : Int32} {isolating : Bool} {slots : List Slot} {v reached : Footprint}
    (applied : applyAll (slots.map (slotWrite rec tenant obs replicas isolating)) v = .ok reached) :
    reached.mapping = v.mapping := by
  refine applyAll_keeps (fun state => state.mapping = v.mapping) ?_ applied rfl
  intro change member state next same changed
  obtain ⟨slot,_,rfl⟩ := List.mem_map.mp member
  obtain ⟨value,_,rfl⟩ := Cell.modify_ok.mp changed
  exact same

theorem entryWrite_mapping {mutate : Mapping → Mapping} {v reached : Footprint}
    (changed : entryWrite mutate v = .ok reached) :
    publishedOf reached.mapping = mutate (publishedOf v.mapping) := by
  obtain ⟨value,made,rfl⟩ := Cell.modify_ok.mp changed
  exact publishedOf_changed made

/-- What a pass over an existing tenant does to the objects and the map, whether it succeeds or not. -/
structure PassEffect (json : MappingJson) (obs : Observation) (cluster final : Cluster) (tenant : TradingTenant) :
    Prop where
  others : ∀ key, key ≠ tenant.key → final.tenants key = cluster.tenants key
  object : ∃ next, final.tenants tenant.key = some next ∧ next.spec.tenantID = tenant.spec.tenantID
  entries : published json final tenant.key.ns = published json cluster tenant.key.ns ∨
    published json final tenant.key.ns = settleMapping tenant obs (tenant.settlesIsolated (tenant.decision obs))
      (published json cluster tenant.key.ns)

theorem passEffect_of_represents {v : Footprint} {announced : List Signal}
    (represented : Represents json cluster final v announced)
    (own : v.tenant = tenant ∨ v.tenant = tenant.flagged obs)
    (entries : publishedOf v.mapping = published json cluster tenant.key.ns ∨
      publishedOf v.mapping = settleMapping tenant obs (tenant.settlesIsolated (tenant.decision obs))
        (published json cluster tenant.key.ns)) : PassEffect json obs cluster final tenant := by
  have key : v.tenant.key = tenant.key := by
    rcases own with same | same <;> rw [same]
    rfl
  have id : v.tenant.spec.tenantID = tenant.spec.tenantID := by
    rcases own with same | same <;> rw [same]
    rfl
  refine ⟨?_,⟨v.tenant,key ▸ represented.tenant,id⟩,?_⟩
  · intro other different
    exact represented.others other (key.symm ▸ different)
  · unfold published at entries ⊢
    rw [← key,represented.mapping,key]
    exact entries

theorem failed_pass_effect (found : cluster.tenants tenant.key = some tenant) {err : Error}
    (run : Yields obs True cluster (reconcile json rec rounds now tenant.key) (.error err) final) :
    PassEffect json obs cluster final tenant := by
  have stopped := (reconcile_follows rec rounds now (Or.inl trivial)).stopped (represents_footprint json found) run
  rcases pass_stops stopped rfl rfl with nothing | ⟨done,slot,todo,reached,parts,applied,represented⟩ |
    ⟨reached,last,applied,entry,represented⟩
  · exact passEffect_of_represents nothing (Or.inl rfl) (Or.inl rfl)
  · refine passEffect_of_represents represented (Or.inr (slots_keep_tenant applied)) (Or.inl ?_)
    rw [slots_keep_mapping applied]
    rfl
  · rcases entry with rfl | changed
    · refine passEffect_of_represents represented (Or.inr (slots_keep_tenant applied)) (Or.inl ?_)
      rw [slots_keep_mapping applied]
      rfl
    · refine passEffect_of_represents represented
        (Or.inr ((entry_keeps_tenant changed).trans (slots_keep_tenant applied))) (Or.inr ?_)
      rw [entryWrite_mapping changed,slots_keep_mapping applied]
      rfl

theorem passWrites_mapping {v settled : Footprint} (applied : applyAll (passWrites rec obs v.tenant) v = .ok settled) :
    publishedOf settled.mapping =
      settleMapping v.tenant obs (v.tenant.settlesIsolated (v.tenant.decision obs)) (publishedOf v.mapping) := by
  obtain ⟨reached,slots,changed⟩ := passWrites_parts applied
  rw [entryWrite_mapping changed,slots_keep_mapping slots]
  rfl

theorem successful_pass_effect (found : cluster.tenants tenant.key = some tenant) {result : Result}
    (run : Yields obs True cluster (reconcile json rec rounds now tenant.key) (.ok result) final) :
    (∀ key, key ≠ tenant.key → final.tenants key = cluster.tenants key) ∧
      final.tenants tenant.key = some (tenant.settled obs now) ∧
      published json final tenant.key.ns =
        settleMapping tenant obs (tenant.settlesIsolated (tenant.decision obs))
        (published json cluster tenant.key.ns) := by
  have start := represents_footprint json found
  obtain ⟨settled,emitted,applied,represented,_⟩ :=
    pass_completes (Or.inl trivial) start (Resumes.refl rec obs _) run
  have key : settled.tenant.key = tenant.key := by
    rw [passWrites_settle applied]
    rfl
  refine ⟨?_,reconcile_settles found run,?_⟩
  · intro other different
    apply represented.others
    change other ≠ settled.tenant.key
    rwa [key]
  · have shown : sharedMapping json final settled.tenant.key.ns = settled.mapping := represented.mapping
    unfold published
    rw [← key,shown,key]
    exact passWrites_mapping applied

/-- A pass over a name without an object changes nothing. -/
theorem missing_pass_effect {key : NamespacedName} (missing : cluster.tenants key = none)
    (run : Yields obs True cluster (reconcile json rec rounds now key) result final) : final = cluster := by
  have served : cluster.serve obs (.getTenant key) = (.error apiNotFound,cluster) := by
    simp only [Cluster.serve,missing]
    rfl
  have reads {answer : Except Error (Option TradingTenant)} {middle : Cluster}
      (get : Yields obs True cluster (getTenant key) answer middle) :
      middle = cluster ∧ (answer = .ok none ∨ ∃ err, answer = .error err) := by
    rcases handled_cases (fun _ transport => transport.1) get with
      ⟨value,answered,rfl⟩ | ⟨err,answered,rfl⟩ | ⟨_,rfl,err,rfl⟩
    · cases served.symm.trans answered
    · cases served.symm.trans answered
      exact ⟨rfl,Or.inl rfl⟩
    · exact ⟨rfl,Or.inr ⟨err,rfl⟩⟩
  rcases Fallible.yields_bind run with ⟨err,rfl,get⟩ | ⟨answer,middle,get,rest⟩
  · exact (reads get).1
  · obtain ⟨rfl,same | ⟨_,impossible⟩⟩ := reads get
    · cases same
      exact (Fallible.yields_pure rest).2
    · cases impossible

end effect

section lifecycle

/-- A cluster with its history: the names that were changed since the last successful pass over
them, and what that pass observed. -/
structure Operations where
  cluster : Cluster
  changed : NamespacedName → Prop
  observed : NamespacedName → Option Observation

def Cluster.dropTenant (cluster : Cluster) (key : NamespacedName) : Cluster :=
  {cluster with
    tenants := fun name => if name = key then none else cluster.tenants name
    named := by
      intro name tenant found
      split at found
      · cases found
      · exact cluster.named name tenant found}

theorem Cluster.dropTenant_self (cluster : Cluster) (key : NamespacedName) :
    (cluster.dropTenant key).tenants key = none :=
  if_pos rfl

theorem Cluster.dropTenant_other {cluster : Cluster} {key name : NamespacedName} (different : name ≠ key) :
    (cluster.dropTenant key).tenants name = cluster.tenants name := if_neg different

/-- One event in the namespace. A tenant object may be deleted where `mayDelete` allows it; a
manual edit leaves the tenant's ID as it is. -/
inductive Lifecycle (json : MappingJson) (rec : TradingTenantReconciler) (ns : String)
    (mayDelete : Cluster → TradingTenant → Prop) : Operations → Operations → Prop
  | created (state : Operations) (tenant : TradingTenant) (within : tenant.key.ns = ns)
      (fresh : state.cluster.tenants tenant.key = none)
      (distinct : ∀ key other, key.ns = ns → state.cluster.tenants key = some other →
        other.spec.tenantID ≠ tenant.spec.tenantID) :
      Lifecycle json rec ns mayDelete state
        ⟨state.cluster.putTenant tenant,Function.update state.changed tenant.key True,state.observed⟩
  | edited (state : Operations) (tenant : TradingTenant) (spec : TradingTenantSpec) (within : tenant.key.ns = ns)
      (found : state.cluster.tenants tenant.key = some tenant) (same : spec.tenantID = tenant.spec.tenantID) :
      Lifecycle json rec ns mayDelete state
        ⟨state.cluster.putTenant {tenant with spec},Function.update state.changed tenant.key True,state.observed⟩
  | deleted (state : Operations) (tenant : TradingTenant) (within : tenant.key.ns = ns)
      (found : state.cluster.tenants tenant.key = some tenant) (allowed : mayDelete state.cluster tenant) :
      Lifecycle json rec ns mayDelete state
        ⟨state.cluster.dropTenant tenant.key,Function.update state.changed tenant.key True,state.observed⟩
  | reconciled (state : Operations) (key : NamespacedName) (obs : Observation) (rounds : Nat) (now : Int)
      (result : Result)
      (final : Cluster) (within : key.ns = ns)
      (run : Yields obs True state.cluster (reconcile json rec rounds now key) (.ok result) final) :
      Lifecycle json rec ns mayDelete state
        ⟨final,Function.update state.changed key False,Function.update state.observed key (some obs)⟩
  | interrupted (state : Operations) (key : NamespacedName) (obs : Observation) (rounds : Nat) (now : Int) (err : Error)
      (final : Cluster) (within : key.ns = ns)
      (run : Yields obs True state.cluster (reconcile json rec rounds now key) (.error err) final) :
      Lifecycle json rec ns mayDelete state
        ⟨final,Function.update state.changed key (state.changed key ∨ final ≠ state.cluster),state.observed⟩

/-- The map lists the isolated tenants and nothing else, each with the range last observed for it. -/
def ListsIsolated (json : MappingJson) (ns : String) (state : Operations) : Prop :=
  ∀ id entry, (published json state.cluster ns).lookup id = some entry ↔
    ∃ key tenant obs, key.ns = ns ∧ state.cluster.tenants key = some tenant ∧ tenant.isolated = true ∧
      tenant.spec.tenantID = id ∧ state.observed key = some obs ∧ entry = ⟨obs.partitionStart,obs.partitionCount⟩

structure Tracked (json : MappingJson) (ns : String) (state : Operations) : Prop where
  distinct : ∀ key other tenant tenant', key.ns = ns → other.ns = ns → state.cluster.tenants key = some tenant →
    state.cluster.tenants other = some tenant' → tenant.spec.tenantID = tenant'.spec.tenantID → key = other
  owned : ∀ id entry, (published json state.cluster ns).lookup id = some entry →
    ∃ key tenant, key.ns = ns ∧ state.cluster.tenants key = some tenant ∧ tenant.spec.tenantID = id
  current : ∀ key tenant, key.ns = ns → state.cluster.tenants key = some tenant → ¬state.changed key →
    ∃ obs, state.observed key = some obs ∧ (published json state.cluster ns).lookup tenant.spec.tenantID =
      if tenant.isolated then some ⟨obs.partitionStart,obs.partitionCount⟩ else none

variable {json : MappingJson} {rec : TradingTenantReconciler} {ns : String} {state : Operations}

/-- What an event about one name must keep, and what it must establish about that name. -/
theorem Tracked.step {next : Operations} (tracked : Tracked json ns state) (key : NamespacedName) (id : String)
    (within : key.ns = ns)
    (others : ∀ name, name ≠ key → next.cluster.tenants name = state.cluster.tenants name ∧
      (next.changed name ↔ state.changed name) ∧ next.observed name = state.observed name)
    (former : ∀ tenant, state.cluster.tenants key = some tenant → tenant.spec.tenantID = id)
    (present : ∀ tenant, next.cluster.tenants key = some tenant → tenant.spec.tenantID = id)
    (unshared : ∀ name tenant, name.ns = ns → name ≠ key → state.cluster.tenants name = some tenant →
      tenant.spec.tenantID ≠ id)
    (entries : ∀ other, other ≠ id →
      (published json next.cluster ns).lookup other = (published json state.cluster ns).lookup other)
    (owned : ∀ entry, (published json next.cluster ns).lookup id = some entry →
      ∃ tenant, next.cluster.tenants key = some tenant)
    (current : ∀ tenant, next.cluster.tenants key = some tenant → ¬next.changed key →
      ∃ obs, next.observed key = some obs ∧ (published json next.cluster ns).lookup id =
        if tenant.isolated then some ⟨obs.partitionStart,obs.partitionCount⟩ else none) :
    Tracked json ns next := by
  have elsewhere {name : NamespacedName} {tenant : TradingTenant} (inside : name.ns = ns) (different : name ≠ key)
      (found : next.cluster.tenants name = some tenant) :
      state.cluster.tenants name = some tenant ∧ tenant.spec.tenantID ≠ id := by
    rw [(others name different).1] at found
    exact ⟨found,unshared name tenant inside different found⟩
  refine ⟨?_,?_,?_⟩
  · intro name other tenant tenant' inside inside' found found' same
    by_cases first : name = key
    · by_cases second : other = key
      · rw [first,second]
      · rw [first] at found
        exact absurd (same ▸ present tenant found) (elsewhere inside' second found').2
    · by_cases second : other = key
      · rw [second] at found'
        exact absurd (same.symm ▸ present tenant' found') (elsewhere inside first found).2
      · exact tracked.distinct name other tenant tenant' inside inside' (elsewhere inside first found).1
          (elsewhere inside' second found').1 same
  · intro listed entry found
    by_cases same : listed = id
    · subst same
      obtain ⟨tenant,there⟩ := owned entry found
      exact ⟨key,tenant,within,there,present tenant there⟩
    · rw [entries listed same] at found
      obtain ⟨name,tenant,inside,there,named⟩ := tracked.owned listed entry found
      have different : name ≠ key := by
        rintro rfl
        exact same (named.symm.trans (former tenant there))
      exact ⟨name,tenant,inside,(others name different).1.trans there,named⟩
  · intro name tenant inside found settled
    by_cases self : name = key
    · subst self
      rw [present tenant found]
      exact current tenant found settled
    · obtain ⟨there,other⟩ := elsewhere inside self found
      obtain ⟨_,changed,observed⟩ := others name self
      rw [entries _ other,observed]
      exact tracked.current name tenant inside there (changed.not.mp settled)

theorem Tracked.unshared (tracked : Tracked json ns state) {tenant : TradingTenant} (within : tenant.key.ns = ns)
    (found : state.cluster.tenants tenant.key = some tenant) (name : NamespacedName) (other : TradingTenant)
    (inside : name.ns = ns) (different : name ≠ tenant.key) (there : state.cluster.tenants name = some other) :
    other.spec.tenantID ≠ tenant.spec.tenantID :=
  fun same => different (tracked.distinct name tenant.key other tenant inside within there found same)

-- An object that is written by hand counts as changed until the next pass.
theorem Tracked.put (tracked : Tracked json ns state) {tenant : TradingTenant} (within : tenant.key.ns = ns)
    (former : ∀ before, state.cluster.tenants tenant.key = some before → before.spec.tenantID = tenant.spec.tenantID)
    (unshared : ∀ name other, name.ns = ns → name ≠ tenant.key → state.cluster.tenants name = some other →
      other.spec.tenantID ≠ tenant.spec.tenantID) :
    Tracked json ns ⟨state.cluster.putTenant tenant,Function.update state.changed tenant.key True,state.observed⟩ := by
  have stored : (state.cluster.putTenant tenant).tenants tenant.key = some tenant := Cluster.putTenant_self tenant
  refine tracked.step tenant.key tenant.spec.tenantID within ?_ former ?_ unshared (fun _ _ => rfl)
    (fun _ _ => ⟨tenant,stored⟩) ?_
  · intro name different
    refine ⟨Cluster.putTenant_other different,?_,rfl⟩
    change Function.update state.changed tenant.key True name ↔ _
    rw [Function.update_of_ne different]
  · intro after found
    cases stored.symm.trans found
    rfl
  · intro after _ unchanged
    refine absurd ?_ unchanged
    change Function.update state.changed tenant.key True tenant.key
    rw [Function.update_self]
    trivial

theorem Tracked.drop (tracked : Tracked json ns state) {tenant : TradingTenant} (within : tenant.key.ns = ns)
    (found : state.cluster.tenants tenant.key = some tenant)
    (unlisted : (published json state.cluster ns).lookup tenant.spec.tenantID = none) :
    Tracked json ns ⟨state.cluster.dropTenant tenant.key,Function.update state.changed tenant.key True,
      state.observed⟩ := by
  have gone := state.cluster.dropTenant_self tenant.key
  refine tracked.step tenant.key tenant.spec.tenantID within ?_ ?_ ?_ (tracked.unshared within found)
    (fun _ _ => rfl) ?_ ?_
  · intro name different
    refine ⟨Cluster.dropTenant_other different,?_,rfl⟩
    change Function.update state.changed tenant.key True name ↔ _
    rw [Function.update_of_ne different]
  · intro before there
    cases found.symm.trans there
    rfl
  · intro after there
    cases gone.symm.trans there
  · intro entry listed
    cases unlisted.symm.trans listed
  · intro after there
    cases gone.symm.trans there

theorem Tracked.pass (tracked : Tracked json ns state) {tenant : TradingTenant} (within : tenant.key.ns = ns)
    (found : state.cluster.tenants tenant.key = some tenant) {obs : Observation} {final : Cluster} {changed : Prop}
    {observed : Option Observation} (effect : PassEffect json obs state.cluster final tenant)
    (current : ∀ after, final.tenants tenant.key = some after → ¬changed →
      ∃ obs, observed = some obs ∧ (published json final ns).lookup tenant.spec.tenantID =
        if after.isolated then some ⟨obs.partitionStart,obs.partitionCount⟩ else none) :
    Tracked json ns ⟨final,Function.update state.changed tenant.key changed,
      Function.update state.observed tenant.key observed⟩ := by
  obtain ⟨next,stored,same⟩ := effect.object
  refine tracked.step tenant.key tenant.spec.tenantID within ?_ ?_ ?_ (tracked.unshared within found) ?_
    (fun _ _ => ⟨next,stored⟩) ?_
  · intro name different
    refine ⟨effect.others name different,?_,Function.update_of_ne different _ _⟩
    change Function.update state.changed tenant.key changed name ↔ _
    rw [Function.update_of_ne different]
  · intro before there
    cases found.symm.trans there
    rfl
  · intro after there
    cases stored.symm.trans there
    exact same
  · intro id other
    subst within
    rcases effect.entries with kept | settled
    · rw [kept]
    · rw [settled,settleMapping_other other]
  · intro after there unchanged
    change ¬Function.update state.changed tenant.key changed tenant.key at unchanged
    change ∃ obs, Function.update state.observed tenant.key observed tenant.key = _ ∧ _
    rw [Function.update_self] at unchanged ⊢
    exact current after there unchanged

theorem Tracked.missing (tracked : Tracked json ns state) {key : NamespacedName}
    (absent : state.cluster.tenants key = none) (changed : Prop) (observed : Option Observation) :
    Tracked json ns ⟨state.cluster,Function.update state.changed key changed,Function.update state.observed key
      observed⟩ := by
  refine ⟨tracked.distinct,tracked.owned,?_⟩
  intro name tenant inside found
  have different : name ≠ key := by
    rintro rfl
    cases absent.symm.trans found
  change ¬Function.update state.changed key changed name →
    ∃ obs, Function.update state.observed key observed name = some obs ∧ _
  rw [Function.update_of_ne different,Function.update_of_ne different]
  exact tracked.current name tenant inside found

/-- Deletions that leave no entry behind keep the map tracked. -/
theorem lifecycle_tracked {next : Operations}
    (step : Lifecycle json rec ns (fun cluster tenant => (published json cluster ns).lookup tenant.spec.tenantID = none)
      state next) (tracked : Tracked json ns state) : Tracked json ns next := by
  cases step with
  | created tenant within fresh distinct =>
    refine tracked.put within ?_ fun name other inside _ there => distinct name other inside there
    intro before there
    cases fresh.symm.trans there
  | edited tenant spec within found same =>
    refine tracked.put within ?_ ?_
    · intro before there
      cases found.symm.trans there
      exact same.symm
    · intro name other inside different there
      exact same.symm ▸ tracked.unshared within found name other inside different there
  | deleted tenant within found allowed => exact tracked.drop within found allowed
  | reconciled key obs rounds now result final within run =>
    cases found : state.cluster.tenants key with
    | none =>
      cases missing_pass_effect found run
      exact tracked.missing found False (some obs)
    | some tenant =>
      obtain rfl := state.cluster.named key tenant found
      obtain ⟨others,settled,entries⟩ := successful_pass_effect found run
      refine tracked.pass within found ⟨others,⟨_,settled,rfl⟩,Or.inr entries⟩ ?_
      intro after there _
      cases settled.symm.trans there
      subst within
      rw [entries,settleMapping_own]
      exact ⟨obs,rfl,rfl⟩
  | interrupted key obs rounds now err final within run =>
    have same := Function.update_eq_self key state.observed
    cases found : state.cluster.tenants key with
    | none =>
      cases missing_pass_effect found run
      have kept := tracked.missing found (state.changed key ∨ state.cluster ≠ state.cluster) (state.observed key)
      rwa [same] at kept
    | some tenant =>
      obtain rfl := state.cluster.named key tenant found
      rw [← same]
      refine tracked.pass within found (failed_pass_effect found run) ?_
      intro after there unchanged
      obtain ⟨quiet,idle⟩ := not_or.mp unchanged
      have unmoved : final = state.cluster := not_not.mp idle
      subst unmoved
      cases found.symm.trans there
      exact tracked.current tenant.key tenant within found quiet

/-- No tenant in the namespace yet, and no entry in its map. -/
structure Unused (json : MappingJson) (ns : String) (state : Operations) : Prop where
  tenants : ∀ key, key.ns = ns → state.cluster.tenants key = none
  mapping : sharedMapping json state.cluster ns = none ∨ sharedMapping json state.cluster ns = some (.ok ∅)

theorem Unused.tracked (unused : Unused json ns state) : Tracked json ns state := by
  have empty : published json state.cluster ns = ∅ := by
    rcases unused.mapping with absent | blank
    · simp only [published,absent,publishedOf]
    · simp only [published,blank,publishedOf]
  refine ⟨?_,?_,?_⟩
  · intro key _ tenant _ inside _ found
    cases (unused.tenants key inside).symm.trans found
  · intro id entry listed
    rw [empty,Finmap.lookup_empty] at listed
    cases listed
  · intro key tenant inside found
    cases (unused.tenants key inside).symm.trans found

theorem run_tracked {final : Operations}
    (run : ReflTransGen (Lifecycle json rec ns fun cluster tenant =>
      (published json cluster ns).lookup tenant.spec.tenantID = none) state final)
    (tracked : Tracked json ns state) : Tracked json ns final := by
  induction run with
  | refl => exact tracked
  | tail _ step ih => exact lifecycle_tracked step ih

end lifecycle

/-- Where no tenant is deleted while the map lists it, the map lists exactly the isolated tenants
once a successful pass has followed every change. -/
theorem map_lists_isolated (json : MappingJson) (rec : TradingTenantReconciler) (ns : String)
    (initial final : Operations) (unused : Unused json ns initial)
    (run : ReflTransGen (Lifecycle json rec ns fun cluster tenant =>
      (published json cluster ns).lookup tenant.spec.tenantID = none) initial final)
    (settled : ∀ key, key.ns = ns → ¬final.changed key) : ListsIsolated json ns final := by
  have tracked := run_tracked run unused.tracked
  intro id entry
  constructor
  · intro listed
    obtain ⟨key,tenant,inside,found,same⟩ := tracked.owned id entry listed
    obtain ⟨obs,observed,current⟩ := tracked.current key tenant inside found (settled key inside)
    rw [same,listed] at current
    split at current
    · rename_i isolated
      exact ⟨key,tenant,obs,inside,found,isolated,same,observed,Option.some_inj.mp current⟩
    · cases current
  · rintro ⟨key,tenant,obs,inside,found,isolated,rfl,observed,rfl⟩
    obtain ⟨obs',observed',current⟩ := tracked.current key tenant inside found (settled key inside)
    cases observed.symm.trans observed'
    rw [current,if_pos isolated]

section sample

def emptyOperations : Operations where
  cluster := .empty
  changed _ := False
  observed _ := none

theorem emptyOperations_unused : Unused MappingText.json "trading" emptyOperations := ⟨fun _ _ => rfl,Or.inl rfl⟩

theorem missing_pass_exists {json : MappingJson} {rec : TradingTenantReconciler} {obs : Observation} {cluster : Cluster}
    {key : NamespacedName} (missing : cluster.tenants key = none) :
    Yields obs True cluster (reconcile json rec 1 0 key) (.ok ⟨0⟩) cluster := by
  have answered : Answers obs True cluster (.getTenant key) _ _ := .served (.getTenant key)
  simp only [Cluster.serve,missing] at answered
  have get : Yields obs True cluster (getTenant key) (.ok none) cluster := by
    refine Fallible.Yields.caught (Fallible.Yields.map_error (Fallible.Yields.of_answer answered)) ?_
    rw [if_pos (Error.is_self _)]
    exact Fallible.Yields.pure none
  exact Fallible.Yields.bind get (Fallible.Yields.pure _)

theorem settled_everywhere {changed : NamespacedName → Prop} (key : NamespacedName)
    (before : ∀ name, name ≠ key → ¬changed name)
    (name : NamespacedName) : ¬Function.update changed key False name := by
  by_cases same : name = key
  · simp [same]
  · rw [Function.update_of_ne same]
    exact before name same

/-- The sample tenant is created, and a pass isolates it. -/
theorem sample_isolated (mayDelete : Cluster → TradingTenant → Prop) : ∃ state,
    ReflTransGen (Lifecycle MappingText.json sampleReconciler "trading" mayDelete) emptyOperations state ∧
    (∀ key, ¬state.changed key) ∧ (∀ key, key ≠ sampleTenant.key → state.cluster.tenants key = none) ∧
    state.cluster.tenants sampleTenant.key = some (sampleTenant.settled backlog 0) ∧
    (published MappingText.json state.cluster "trading").lookup "acme" = some ⟨2,1⟩ := by
  have found : (emptyOperations.cluster.putTenant sampleTenant).tenants sampleTenant.key = some sampleTenant :=
    Cluster.putTenant_self sampleTenant
  have represented : Represents MappingText.json _ (emptyOperations.cluster.putTenant sampleTenant)
      ⟨sampleTenant,fun _ => none,none⟩ [] := represents_footprint MappingText.json found
  obtain ⟨result,final,run,_⟩ := pass_exists sampleReconciler backlog 0 True represented rfl
  obtain ⟨others,settled,entries⟩ := successful_pass_effect found run
  refine ⟨_,(ReflTransGen.single (.created emptyOperations sampleTenant rfl rfl nofun)).tail
    (.reconciled _ sampleTenant.key backlog 1 0 result final rfl run),?_,?_,settled,?_⟩
  · refine settled_everywhere sampleTenant.key ?_
    intro name different
    change ¬Function.update emptyOperations.changed sampleTenant.key True name
    rw [Function.update_of_ne different]
    exact id
  · intro key different
    exact (others key different).trans (Cluster.putTenant_other different)
  · change (published MappingText.json final sampleTenant.key.ns).lookup sampleTenant.spec.tenantID = _
    rw [entries,settleMapping_own]
    decide

theorem isolated_tenant_listed : ∃ state,
    ReflTransGen (Lifecycle MappingText.json sampleReconciler "trading" fun cluster tenant =>
      (published MappingText.json cluster "trading").lookup tenant.spec.tenantID = none) emptyOperations state ∧
    ListsIsolated MappingText.json "trading" state ∧
    (published MappingText.json state.cluster "trading").lookup "acme" = some ⟨2,1⟩ := by
  obtain ⟨state,run,settled,_,_,listed⟩ := sample_isolated _
  exact ⟨state,run,map_lists_isolated _ _ _ _ _ emptyOperations_unused run fun key _ => settled key,listed⟩

-- The object is deleted while it is isolated; the pass that follows finds nothing and succeeds.
theorem deleted_tenant_listed : ∃ state,
    ReflTransGen (Lifecycle MappingText.json sampleReconciler "trading" fun _ _ => True) emptyOperations state ∧
    (∀ key, ¬state.changed key) ∧ state.cluster.tenants sampleTenant.key = none ∧
    (published MappingText.json state.cluster "trading").lookup "acme" = some ⟨2,1⟩ ∧
    ¬ListsIsolated MappingText.json "trading" state := by
  obtain ⟨state,run,settled,alone,found,listed⟩ := sample_isolated fun _ _ => True
  have gone := state.cluster.dropTenant_self sampleTenant.key
  refine ⟨_,(run.tail (.deleted state (sampleTenant.settled backlog 0) rfl found trivial)).tail
    (.reconciled _ sampleTenant.key backlog 1 0 ⟨0⟩ _ rfl (missing_pass_exists gone)),?_,gone,listed,?_⟩
  · refine settled_everywhere sampleTenant.key ?_
    intro name different
    change ¬Function.update state.changed sampleTenant.key True name
    rw [Function.update_of_ne different]
    exact settled name
  · intro exactly
    obtain ⟨key,tenant,_,_,there,_⟩ := (exactly "acme" ⟨2,1⟩).mp listed
    by_cases same : key = sampleTenant.key
    · rw [same] at there
      cases gone.symm.trans there
    · have absent := (Cluster.dropTenant_other same).trans (alone key same)
      cases absent.symm.trans there

end sample

end ControlPlane.Operator
