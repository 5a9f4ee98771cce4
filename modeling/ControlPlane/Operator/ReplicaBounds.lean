import ControlPlane.Operator.Retry
import Mathlib.Logic.Relation

/-! The bounds of a tenant's replicas while its spec is edited. No decision goes below the
minimum of the spec that the pass read, and one that scales does not go above its maximum. The
others keep the replicas that they find, so a maximum that is lowered below them is exceeded
until a pass scales the tenant again. -/
namespace ControlPlane.Operator
open Go Effect Effect.Script Relation

/-- The limits that the resource definition sets for a spec. -/
structure TradingTenantSpec.Valid (spec : TradingTenantSpec) : Prop where
  replicas : 1 ≤ spec.minReplicas
  bounds : spec.minReplicas ≤ spec.maxReplicas
  lagThreshold : 1 ≤ spec.scaling.kafkaLagThreshold
  latencyThreshold : 1 ≤ spec.scaling.p99LatencyThresholdMs

def TradingTenantStatus.empty : TradingTenantStatus := ⟨0,none,0,0,0,none⟩

section decisions
variable {tenant : TradingTenant} {obs : Observation}

theorem baseline_le_iff (bounds : tenant.spec.minReplicas ≤ tenant.spec.maxReplicas) :
    tenant.baseline ≤ tenant.spec.maxReplicas ↔ tenant.status.currentReplicas ≤ tenant.spec.maxReplicas := by
  unfold TradingTenant.baseline
  grind

theorem clampReplicas_within {value minimum maximum : Int32} (bounds : minimum ≤ maximum) :
    minimum ≤ clampReplicas value minimum maximum ∧ clampReplicas value minimum maximum ≤ maximum := by
  unfold clampReplicas
  grind

/-- A decision either scales the tenant within its bounds or keeps the baseline. -/
theorem decision_scales_or_keeps (obs : Observation) (bounds : tenant.spec.minReplicas ≤ tenant.spec.maxReplicas) :
    ((tenant.decision obs).state = .scaling ∧ tenant.spec.minReplicas ≤ (tenant.decision obs).replicas ∧
        (tenant.decision obs).replicas ≤ tenant.spec.maxReplicas) ∨
      ((tenant.decision obs).state ≠ .scaling ∧ (tenant.decision obs).replicas = tenant.baseline) := by
  unfold TradingTenant.decision decisionFor classify
  split_ifs
  · exact Or.inl ⟨rfl,bounds,Int32.le_refl _⟩
  · exact Or.inl ⟨rfl,clampReplicas_within bounds⟩
  · exact Or.inl ⟨rfl,clampReplicas_within bounds⟩
  all_goals exact Or.inr ⟨nofun,rfl⟩

theorem minReplicas_le_decision (obs : Observation) (bounds : tenant.spec.minReplicas ≤ tenant.spec.maxReplicas) :
    tenant.spec.minReplicas ≤ (tenant.decision obs).replicas := by
  rcases decision_scales_or_keeps obs bounds with ⟨_,above,_⟩ | ⟨_,kept⟩
  · exact above
  · rw [kept]
    exact minReplicas_le_baseline tenant

theorem decision_le_iff (obs : Observation) (bounds : tenant.spec.minReplicas ≤ tenant.spec.maxReplicas) :
    (tenant.decision obs).replicas ≤ tenant.spec.maxReplicas ↔
      (tenant.decision obs).state = .scaling ∨ tenant.status.currentReplicas ≤ tenant.spec.maxReplicas := by
  rcases decision_scales_or_keeps obs bounds with ⟨scales,_,below⟩ | ⟨rests,kept⟩
  · exact ⟨fun _ => Or.inl scales,fun _ => below⟩
  · rw [kept,baseline_le_iff bounds]
    exact ⟨Or.inr,fun either => either.resolve_left rests⟩

theorem decision_above (obs : Observation) (bounds : tenant.spec.minReplicas ≤ tenant.spec.maxReplicas)
    (above : ¬(tenant.decision obs).replicas ≤ tenant.spec.maxReplicas) :
    (tenant.decision obs).replicas = tenant.status.currentReplicas := by
  rcases decision_scales_or_keeps obs bounds with ⟨_,_,below⟩ | ⟨_,kept⟩
  · exact absurd below above
  rw [kept] at above ⊢
  unfold TradingTenant.baseline at above ⊢
  grind

end decisions

section pass
variable {json : MappingJson} {rec : TradingTenantReconciler} {obs : Observation} {rounds : Nat} {now : Int}
  {cluster final : Cluster} {tenant : TradingTenant} {result : Result}

/-- The replicas of the tenant's two dedicated Deployments. -/
def Cluster.DeploysReplicas (cluster : Cluster) (tenant : TradingTenant) (replicas : Int32) : Prop :=
  (cluster.objects .deployment (dedicatedIngestionName tenant)).map (fun stored => Deployment.replicas stored.object) =
      some (some replicas) ∧
    (cluster.objects .deployment (dedicatedProcessorName tenant)).map
      (fun stored => Deployment.replicas stored.object) =
      some (some replicas)

theorem dedicatedDeployment_replicas {replicas : Int32} {component : String} {container : Container}
    {before written : Deployment}
    (made : dedicatedDeployment tenant rec replicas component container before = .ok written) :
    written.replicas = some replicas := by
  unfold dedicatedDeployment at made
  obtain ⟨controller,_,same⟩ := bind_success _ _ _ made
  cases same
  rfl

theorem pass_settles_slot (found : cluster.tenants tenant.key = some tenant)
    (run : Yields obs True cluster (reconcile json rec rounds now tenant.key) (.ok result) final)
    (isolating : tenant.settlesIsolated (tenant.decision obs) = true) (slot : Slot) :
    ∃ object, settleSlot rec tenant obs (tenant.decision obs).replicas true slot object =
      .ok ((final.objects slot.kind (slot.key tenant)).map Stored.object) := by
  obtain ⟨settled,emitted,applied,represented,_⟩ :=
    pass_completes (Or.inl trivial) (represents_footprint json found) (Resumes.refl rec obs _) run
  have own : settled.tenant.key = tenant.key := by
    rw [passWrites_settle applied]
    rfl
  obtain ⟨reached,slots,entry⟩ := passWrites_parts applied
  obtain ⟨value,_,rfl⟩ := Cell.modify_ok.mp entry
  simp only [footprint,isolating] at slots
  have written := slots_written slots slot
  rw [if_pos (by cases slot <;> decide)] at written
  have stored := represented.objects slot
  change (final.objects slot.kind (slot.key (entryCell.set value reached).tenant)).map Stored.object =
    reached.objects slot
    at stored
  rwa [← Slot.key_congr own,stored]

theorem pass_deploys (found : cluster.tenants tenant.key = some tenant)
    (run : Yields obs True cluster (reconcile json rec rounds now tenant.key) (.ok result) final)
    (isolating : tenant.settlesIsolated (tenant.decision obs) = true) :
    final.DeploysReplicas tenant (tenant.decision obs).replicas := by
  obtain ⟨_,ingestion⟩ := pass_settles_slot found run isolating .ingestion
  obtain ⟨_,processor⟩ := pass_settles_slot found run isolating .processor
  obtain ⟨written,made,stored⟩ := settleSlot_isolating ingestion
  obtain ⟨written',made',stored'⟩ := settleSlot_isolating processor
  refine ⟨(Option.map_map _ _ _).symm.trans ?_,(Option.map_map _ _ _).symm.trans ?_⟩
  · exact (congrArg _ stored).trans (congrArg some (dedicatedDeployment_replicas made))
  · exact (congrArg _ stored').trans (congrArg some (dedicatedDeployment_replicas made'))

/-- A pass leaves the tenant settled if it succeeds, and otherwise as it was but for the isolation flag. -/
theorem pass_tenant {result : Except Error Result} (found : cluster.tenants tenant.key = some tenant)
    (run : Yields obs True cluster (reconcile json rec rounds now tenant.key) result final) :
    final.tenants tenant.key = some (tenant.settled obs now) ∨ final.tenants tenant.key = some tenant ∨
      final.tenants tenant.key = some (tenant.flagged obs) := by
  cases result with
  | ok value => exact Or.inl (reconcile_settles found run)
  | error err =>
    have stopped := (reconcile_follows rec rounds now (Or.inl trivial)).stopped (represents_footprint json found) run
    obtain ⟨reached,emitted,resumes,represented⟩ := resumes_of_stop stopped
    have stored := represented.tenant
    rw [resumes.same_key] at stored
    rcases resumes.tenant with same | same
    · rw [same] at stored
      exact Or.inr (Or.inl stored)
    · rw [same] at stored
      exact Or.inr (Or.inr stored)

end pass

section histories
variable (json : MappingJson) (rec : TradingTenantReconciler) (key : NamespacedName) (room : Int32 → Int32 → Prop)

/-- One event in the life of the tenant of that name. Its spec is edited, to a maximum with
`room` for the replicas of the moment; a pass over it succeeds or stops early; or something
else happens in the cluster. -/
inductive Tended : Cluster → Cluster → Prop
  | edited (cluster : Cluster) (tenant : TradingTenant) (spec : TradingTenantSpec)
      (found : cluster.tenants key = some tenant) (valid : spec.Valid)
      (allowed : room tenant.status.currentReplicas spec.maxReplicas) :
        Tended cluster (cluster.putTenant {tenant with spec})
  | reconciled (cluster final : Cluster) (obs : Observation) (rounds : Nat) (now : Int) (result : Except Error Result)
      (run : Yields obs True cluster (reconcile json rec rounds now key) result final) : Tended cluster final
  | elsewhere (cluster next : Cluster) (kept : next.tenants key = cluster.tenants key) : Tended cluster next

/-- The tenant of that name is there, with a valid spec that has room for its replicas. -/
def Accommodated (cluster : Cluster) : Prop :=
  ∃ tenant, cluster.tenants key = some tenant ∧ tenant.spec.Valid ∧
    room tenant.status.currentReplicas tenant.spec.maxReplicas

/-- No pass takes more room than there is. -/
def KeptByPasses : Prop := ∀ (tenant : TradingTenant) (obs : Observation), tenant.spec.Valid →
  room tenant.status.currentReplicas tenant.spec.maxReplicas → room (tenant.decision obs).replicas
    tenant.spec.maxReplicas

theorem any_keptByPasses : KeptByPasses fun _ _ => True := fun _ _ _ _ => trivial

theorem le_keptByPasses : KeptByPasses (· ≤ ·) := fun _ obs valid within =>
  (decision_le_iff obs valid.bounds).mpr (Or.inr within)

variable {json rec key room} {cluster final : Cluster}

theorem Tended.accommodates (kept : KeptByPasses room) (step : Tended json rec key room cluster final)
    (before : Accommodated key room cluster) : Accommodated key room final := by
  obtain ⟨tenant,found,valid,within⟩ := before
  obtain rfl := cluster.named key tenant found
  cases step with
  | edited edited spec there admitted allowed =>
    cases found.symm.trans there
    exact ⟨{tenant with spec},Cluster.putTenant_self _,admitted,allowed⟩
  | reconciled final obs rounds now result run =>
    rcases pass_tenant found run with settled | same | flagged
    · exact ⟨_,settled,⟨valid.1,valid.2,valid.3,valid.4⟩,kept tenant obs valid within⟩
    · exact ⟨_,same,valid,within⟩
    · exact ⟨_,flagged,⟨valid.1,valid.2,valid.3,valid.4⟩,within⟩
  | elsewhere next same => exact ⟨tenant,same.trans found,valid,within⟩

theorem history_accommodates (kept : KeptByPasses room)
    (history : ReflTransGen (Tended json rec key room) cluster final)
    (before : Accommodated key room cluster) : Accommodated key room final := by
  induction history with
  | refl => exact before
  | tail _ step ih => exact step.accommodates kept ih

end histories

section sample

def newTenant : TradingTenant := sampleTenant.withStatus .empty

def newCluster : Cluster := sampleCluster.putTenant newTenant

theorem new_found : newCluster.tenants newTenant.key = some newTenant := Cluster.putTenant_self _

-- Lag and latency above their thresholds, then lag alone; six partitions.
def surge : Observation := ⟨500,90,6,0⟩

def lagAlone : Observation := ⟨500,10,6,0⟩

def newSpec (maximum : Int32) : TradingTenantSpec := {newTenant.spec with maxReplicas := maximum}

def editedTenant (maximum : Int32) : TradingTenant := {newTenant.settled surge 0 with spec := newSpec maximum}

def editedFootprint (maximum : Int32) : Footprint := ⟨editedTenant maximum,fun _ => none,none⟩

/-- A surge takes the new tenant to ten replicas; its maximum is edited; the next pass finds lag alone. -/
def EditedAfterSurge (maximum : Int32) (once final : Cluster) : Prop :=
  ∃ result result', Yields surge True newCluster (reconcile MappingText.json sampleReconciler 1 0 newTenant.key)
      (.ok result) once ∧
    once.tenants newTenant.key = some (newTenant.settled surge 0) ∧
    Yields lagAlone True (once.putTenant (editedTenant maximum))
      (reconcile MappingText.json sampleReconciler 1 60 newTenant.key) (.ok result') final

theorem editedAfterSurge_exists (maximum : Int32) {last : Footprint}
    (applied : applyAll (writes (passScript sampleReconciler lagAlone 60 (editedFootprint maximum)))
      (editedFootprint maximum) = .ok last) : ∃ once final, EditedAfterSurge maximum once final := by
  have represented : Represents MappingText.json newCluster newCluster ⟨newTenant,fun _ => none,none⟩ [] :=
    represents_footprint MappingText.json new_found
  obtain ⟨result,once,first,shown⟩ := pass_exists sampleReconciler surge 0 True represented rfl
  have cleared : Represents MappingText.json newCluster once ⟨newTenant.settled surge 0,fun _ => none,none⟩ _ :=
    ⟨shown.tenant,fun slot => (shown.objects slot).trans (by cases slot <;> rfl),shown.mapping.trans rfl,shown.signals,
      shown.others⟩
  have edited : Represents _ _ (once.putTenant (editedTenant maximum)) (editedFootprint maximum) _ :=
    cleared.putTenant rfl
  obtain ⟨result',final,run,_⟩ := pass_exists sampleReconciler lagAlone 60 True edited applied
  exact ⟨once,final,result,result',first,reconcile_settles new_found first,run⟩

end sample

/-- After every successful pass of every history that begins with an empty status: the replicas
are not below the minimum of the spec that the pass read, and not above its maximum exactly
when the pass scales or found them so; a count above the maximum is the one it found. Where
every edit had room for the replicas of its moment, they are within the bounds. -/
theorem replicas_bounded_until_lowered (json : MappingJson) (rec : TradingTenantReconciler) (key : NamespacedName)
    (initial cluster final : Cluster) (first tenant : TradingTenant) (created : initial.tenants key = some first)
    (valid : first.spec.Valid) (blank : first.status = .empty)
    (history : ReflTransGen (Tended json rec key fun _ _ => True) initial cluster)
    (found : cluster.tenants key = some tenant) (obs : Observation) (rounds : Nat) (now : Int) (result : Result)
    (run : Yields obs True cluster (reconcile json rec rounds now key) (.ok result) final) :
    ∃ after, final.tenants key = some after ∧
      (after.isolated = true → final.DeploysReplicas after after.status.currentReplicas) ∧
      tenant.spec.minReplicas ≤ after.status.currentReplicas ∧
      (after.status.currentReplicas ≤ tenant.spec.maxReplicas ↔
        after.status.state = some .scaling ∨ tenant.status.currentReplicas ≤ tenant.spec.maxReplicas) ∧
      (¬after.status.currentReplicas ≤ tenant.spec.maxReplicas →
        after.status.currentReplicas = tenant.status.currentReplicas) ∧
      (ReflTransGen (Tended json rec key (· ≤ ·)) initial cluster →
        after.status.currentReplicas ≤ tenant.spec.maxReplicas) := by
  obtain ⟨same,there,admitted,_⟩ := history_accommodates any_keptByPasses history ⟨first,created,valid,trivial⟩
  cases found.symm.trans there
  obtain rfl := cluster.named key tenant found
  have bounds := admitted.bounds
  refine ⟨_,reconcile_settles found run,pass_deploys found run,minReplicas_le_decision obs bounds,?_,
    decision_above obs bounds,?_⟩
  · change (tenant.decision obs).replicas ≤ _ ↔ some (tenant.decision obs).state = some .scaling ∨ _
    rw [Option.some_inj]
    exact decision_le_iff obs bounds
  · intro roomy
    have start : first.status.currentReplicas ≤ first.spec.maxReplicas := by
      rw [blank]
      exact Int32.le_trans (by decide) (Int32.le_trans valid.replicas valid.bounds)
    obtain ⟨same,there,_,within⟩ := history_accommodates le_keptByPasses roomy ⟨first,created,valid,start⟩
    cases found.symm.trans there
    exact le_keptByPasses tenant obs admitted within

-- From at most ten replicas to at most twenty: the ten that the tenant has are kept.
theorem replicas_bounded_after_raise : ∃ (once final : Cluster) (after : TradingTenant),
    EditedAfterSurge 20 once final ∧ final.tenants newTenant.key = some after ∧
    final.DeploysReplicas after after.status.currentReplicas ∧
    (newSpec 20).minReplicas ≤ after.status.currentReplicas ∧ after.status.currentReplicas ≤
      (newSpec 20).maxReplicas := by
  have valid : (newSpec 20).Valid := by constructor <;> decide
  obtain ⟨once,final,sample⟩ := editedAfterSurge_exists 20 rfl
  obtain ⟨result,result',first,found,run⟩ := id sample
  have history (room : Int32 → Int32 → Prop) (allowed : room 10 20) : ReflTransGen
      (Tended MappingText.json sampleReconciler newTenant.key room) newCluster (once.putTenant (editedTenant 20)) :=
    (ReflTransGen.single (.reconciled _ once _ _ _ _ first)).tail (.edited once _ (newSpec 20) found valid allowed)
  obtain ⟨after,there,deployed,above,_,_,below⟩ := replicas_bounded_until_lowered _ _ _ _ _ _ _ _ new_found
    (by constructor <;> decide) rfl (history _ trivial) (Cluster.putTenant_self (editedTenant 20)) _ _ _ _ run
  cases (reconcile_settles (Cluster.putTenant_self (editedTenant 20)) run).symm.trans there
  exact ⟨once,final,_,sample,there,deployed rfl,above,below (history _ (by decide))⟩

/-- A maximum that is lowered from ten to five: the pass after it deploys ten replicas all the same. -/
theorem lowered_maximum_exceeded : newTenant.spec.Valid ∧ newTenant.status = .empty ∧
    (newSpec 5).Valid ∧ (newSpec 5).maxReplicas = 5 ∧ ∃ once final, EditedAfterSurge 5 once final ∧
    (final.tenants newTenant.key).map (fun after => (after.isolated,after.status.currentReplicas)) = some (true,10) ∧
    final.DeploysReplicas newTenant 10 := by
  obtain ⟨once,final,sample⟩ := editedAfterSurge_exists 5 rfl
  obtain ⟨result,result',first,found,run⟩ := id sample
  have edited : (once.putTenant (editedTenant 5)).tenants (editedTenant 5).key = some (editedTenant 5) :=
    Cluster.putTenant_self _
  refine ⟨by constructor <;> decide,rfl,by constructor <;> decide,rfl,once,final,sample,?_,pass_deploys edited run rfl⟩
  have settled : final.tenants newTenant.key = some ((editedTenant 5).settled lagAlone 60) :=
    reconcile_settles edited run
  rw [settled]
  rfl

end ControlPlane.Operator
