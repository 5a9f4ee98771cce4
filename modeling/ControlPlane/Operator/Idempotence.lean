import ControlPlane.Operator.MappingText
import ControlPlane.Operator.Pass

/-! What a successful pass leaves in the tenant object, and when a second pass under the same
observation changes it again: the replicas written by the first are the baseline of the second. -/
namespace ControlPlane.Operator
open Go Effect Effect.Script

/-- The tenant object after a successful pass. -/
def TradingTenant.settled (tenant : TradingTenant) (obs : Observation) (now : Int) : TradingTenant :=
  (tenant.withIsolation (tenant.settlesIsolated (tenant.decision obs))).withStatus
    (settledStatus (tenant.decision obs) obs.lag obs.p99Ms obs.partitionCount now)

/-- The isolation flag and the status without the time of the pass. -/
def TradingTenant.outcome (tenant : TradingTenant) : Bool × TradingTenantStatus :=
  (tenant.isolated,{tenant.status with lastReconcileTime := none})

theorem passScript_settles {rec : TradingTenantReconciler} {obs : Observation} {now : Int} {v reached : Footprint}
    (applied : applyAll (writes (passScript rec obs now v)) v = .ok reached) :
    reached.tenant = v.tenant.settled obs now := by
  simp only [passScript,writes_append] at applied
  obtain ⟨flagged,flag,rest⟩ := applyAll_append_ok.mp applied
  obtain ⟨provided,resources,status⟩ := applyAll_append_ok.mp rest
  cases flag_applied flag
  have kept := resources_keep_tenant resources
  simp only [statusScript,writes,writes_announceIf] at status
  obtain ⟨last,written,same⟩ := applyAll_cons_ok.mp status
  cases same
  obtain ⟨value,set,rfl⟩ := Cell.modify_ok.mp written
  cases set
  change provided.tenant.withStatus _ = _
  rw [kept]
  rfl

theorem reconcile_settles {json : MappingJson} {rec : TradingTenantReconciler} {obs : Observation}
    {rounds : Nat} {now : Int} {cluster final : Cluster} {key : NamespacedName} {tenant : TradingTenant}
    {result : Result} (found : cluster.tenants key = some tenant)
    (run : Yields obs True cluster (reconcile json rec rounds now key) (.ok result) final) :
    final.tenants key = some (tenant.settled obs now) := by
  obtain rfl := cluster.named key tenant found
  obtain ⟨reached,applied,represented⟩ :=
    (reconcile_follows rec rounds now (Or.inl trivial)).completed (represents_footprint json found) run
  have settled := passScript_settles applied
  have stored := represented.tenant
  rw [settled] at stored
  exact stored

section decisions
variable {spec : TradingTenantSpec} {baseline : Int32} {isolated : Bool} {lag : Int64} {p99Ms partitionCount : Int32}

theorem clampReplicas_of_within {value minimum maximum : Int32} (above : minimum ≤ value) (below : value ≤ maximum) :
    clampReplicas value minimum maximum = value := by
  unfold clampReplicas
  rw [if_neg (Int32.not_lt.mpr above),if_neg (Int32.not_lt.mpr below)]

theorem classify_surge (lagging : lagHigh spec lag = true) (slow : latencyHigh spec p99Ms = true) :
    classify spec baseline isolated lag p99Ms partitionCount = ⟨.scaling,spec.maxReplicas,false⟩ := by
  simp [classify,lagging,slow]

theorem classify_parity (lagging : lagHigh spec lag = true) (prompt : latencyHigh spec p99Ms = false)
    (room : baseline < partitionCount) (within : partitionCount ≤ spec.maxReplicas)
    (floor : spec.minReplicas ≤ baseline) :
    classify spec baseline isolated lag p99Ms partitionCount = ⟨.scaling,partitionCount,false⟩ := by
  have target : (if partitionCount < spec.maxReplicas then partitionCount else spec.maxReplicas) = partitionCount := by
    grind
  have above : spec.minReplicas ≤ partitionCount := by grind
  simp [classify,lagging,prompt,room,target,clampReplicas_of_within above within]

theorem classify_capped (lagging : lagHigh spec lag = true) (prompt : latencyHigh spec p99Ms = false)
    (room : baseline < partitionCount) (beyond : spec.maxReplicas < partitionCount)
    (bounds : spec.minReplicas ≤ spec.maxReplicas) :
    classify spec baseline isolated lag p99Ms partitionCount = ⟨.scaling,spec.maxReplicas,false⟩ := by
  have target : ¬partitionCount < spec.maxReplicas := by grind
  simp [classify,lagging,prompt,room,target,clampReplicas_of_within bounds (Int32.le_refl _)]

theorem classify_isolates (lagging : lagHigh spec lag = true) (prompt : latencyHigh spec p99Ms = false)
    (full : ¬baseline < partitionCount) :
    classify spec baseline isolated lag p99Ms partitionCount = ⟨.isolated,baseline,true⟩ := by
  simp [classify,lagging,prompt,full]

theorem classify_degrades (keepsUp : lagHigh spec lag = false) (slow : latencyHigh spec p99Ms = true) :
    classify spec baseline isolated lag p99Ms partitionCount = ⟨.degraded,baseline,false⟩ := by
  simp [classify,keepsUp,slow]

theorem classify_rests (keepsUp : lagHigh spec lag = false) (prompt : latencyHigh spec p99Ms = false) :
    classify spec baseline isolated lag p99Ms partitionCount =
      ⟨if isolated then .isolated else .stable,baseline,false⟩ := by
  simp [classify,keepsUp,prompt]

end decisions

section again
variable {tenant : TradingTenant} {obs : Observation} {now : Int}

/-- Lag without latency, and a partition for every replica that may still be added. -/
def TradingTenant.ScalesToParity (tenant : TradingTenant) (obs : Observation) : Prop :=
  lagHigh tenant.spec obs.lag = true ∧ latencyHigh tenant.spec obs.p99Ms = false ∧
    tenant.baseline < obs.partitionCount ∧ obs.partitionCount ≤ tenant.spec.maxReplicas

theorem minReplicas_le_baseline (tenant : TradingTenant) : tenant.spec.minReplicas ≤ tenant.baseline := by
  unfold TradingTenant.baseline
  split
  · exact Int32.le_refl _
  · rename_i above
    exact Int32.not_lt.mp above

theorem baseline_settled (enough : tenant.spec.minReplicas ≤ (tenant.decision obs).replicas) :
    (tenant.settled obs now).baseline = (tenant.decision obs).replicas := if_neg (Int32.not_lt.mpr enough)

/-- The second decision, from the replicas that the first one wrote. -/
theorem decision_settled {decision : ReconcileDecision} (first : tenant.decision obs = decision)
    (enough : tenant.spec.minReplicas ≤ decision.replicas) :
    (tenant.settled obs now).decision obs = classify tenant.spec decision.replicas (tenant.settlesIsolated decision)
      obs.lag obs.p99Ms obs.partitionCount := by
  subst first
  rw [← baseline_settled enough]
  rfl

theorem decides_again (bounds : tenant.spec.minReplicas ≤ tenant.spec.maxReplicas) (calm : ¬tenant.ScalesToParity obs) :
    (tenant.settled obs now).decision obs = tenant.decision obs := by
  have floor := minReplicas_le_baseline tenant
  cases lagging : lagHigh tenant.spec obs.lag with
  | true =>
    cases slow : latencyHigh tenant.spec obs.p99Ms with
    | true =>
      have first : tenant.decision obs = _ := classify_surge lagging slow
      rw [decision_settled first bounds,first]
      exact classify_surge lagging slow
    | false =>
      by_cases room : tenant.baseline < obs.partitionCount
      · have beyond : tenant.spec.maxReplicas < obs.partitionCount :=
          Int32.not_le.mp fun within => calm ⟨lagging,slow,room,within⟩
        have first : tenant.decision obs = _ := classify_capped lagging slow room beyond bounds
        rw [decision_settled first bounds,first]
        exact classify_capped lagging slow beyond beyond bounds
      · have first : tenant.decision obs = _ := classify_isolates lagging slow room
        rw [decision_settled first floor,first]
        exact classify_isolates lagging slow room
  | false =>
    cases slow : latencyHigh tenant.spec obs.p99Ms with
    | true =>
      have first : tenant.decision obs = _ := classify_degrades lagging slow
      rw [decision_settled first floor,first]
      exact classify_degrades lagging slow
    | false =>
      have first : tenant.decision obs = _ := classify_rests lagging slow
      rw [decision_settled first floor,first,classify_rests lagging slow]
      simp [TradingTenant.settlesIsolated]

theorem isolates_after_parity (now : Int) (parity : tenant.ScalesToParity obs) :
    (tenant.decision obs).state = .scaling ∧ ((tenant.settled obs now).decision obs).state = .isolated := by
  obtain ⟨lagging,prompt,room,within⟩ := parity
  have floor := minReplicas_le_baseline tenant
  have first : tenant.decision obs = _ := classify_parity lagging prompt room within floor
  have enough : tenant.spec.minReplicas ≤ obs.partitionCount := by grind
  rw [decision_settled first enough,first,classify_isolates lagging prompt Int32.lt_irrefl]
  exact ⟨rfl,rfl⟩

theorem outcome_settled (tenant : TradingTenant) (obs : Observation) (now : Int) :
    (tenant.settled obs now).outcome = (tenant.settlesIsolated (tenant.decision obs),
      ⟨(tenant.decision obs).replicas,some (tenant.decision obs).state,obs.lag,obs.p99Ms,obs.partitionCount,
        none⟩) := rfl

theorem outcome_again_iff (bounds : tenant.spec.minReplicas ≤ tenant.spec.maxReplicas) (later : Int) :
    ((tenant.settled obs now).settled obs later).outcome = (tenant.settled obs now).outcome ↔
      ¬tenant.ScalesToParity obs := by
  rw [outcome_settled,outcome_settled]
  constructor
  · intro same parity
    have states := congrArg (fun outcome => outcome.2.state) same
    obtain ⟨scales,isolates⟩ := isolates_after_parity now parity
    change some _ = some _ at states
    rw [scales,isolates] at states
    cases states
  · intro calm
    have flag : (tenant.settled obs now).settlesIsolated (tenant.decision obs) =
        tenant.settlesIsolated (tenant.decision obs) := by
      change ((tenant.isolated || (tenant.decision obs).setDedicatedNodePool) ||
        (tenant.decision obs).setDedicatedNodePool) = (tenant.isolated || (tenant.decision obs).setDedicatedNodePool)
      rw [Bool.or_assoc,Bool.or_self]
    rw [decides_again bounds calm,flag]

end again

/-- Two successful passes under one observation: the second leaves the isolation flag and the
status as they are unless the first one scaled the tenant to partition parity. -/
theorem second_pass_unchanged_iff (json : MappingJson) (rec : TradingTenantReconciler) (obs : Observation)
    (cluster once twice : Cluster) (key : NamespacedName) (tenant : TradingTenant)
    (found : cluster.tenants key = some tenant) (bounds : tenant.spec.minReplicas ≤ tenant.spec.maxReplicas)
    (rounds rounds' : Nat) (now later : Int) (result result' : Result)
    (first : Yields obs True cluster (reconcile json rec rounds now key) (.ok result) once)
    (second : Yields obs True once (reconcile json rec rounds' later key) (.ok result') twice) :
    (twice.tenants key).map TradingTenant.outcome = (once.tenants key).map TradingTenant.outcome ↔
      ¬tenant.ScalesToParity obs := by
  have settled := reconcile_settles found first
  rw [reconcile_settles settled second,settled,Option.map_some,Option.map_some,Option.some_inj]
  exact outcome_again_iff bounds later

section sample

def sampleTenant : TradingTenant where
  key := ⟨"trading","acme"⟩
  uid := "9f1c"
  spec := ⟨"acme",1,10,⟨100,50⟩,⟨false⟩⟩
  status := ⟨1,none,0,0,0,none⟩

def alreadyOwned : Error := .new "object is already owned by another controller"

-- An object without a controller is taken, and one of the same name.
def sampleScheme : Scheme where
  setControllerReference owner uid controller :=
    if controller.all (·.name = owner.name) then .ok (some ⟨"TradingTenant",owner.name,uid⟩) else .error alreadyOwned
  again owner uid controller next made := by
    split at made
    · cases made
      simp
    · cases made

def sampleReconciler : TradingTenantReconciler := ⟨sampleScheme,"",0,"ingestion:1","processor:1",[],[],∅,[]⟩

-- One tenant, and nothing else.
def sampleCluster : Cluster := Cluster.empty.putTenant sampleTenant

theorem sample_found : sampleCluster.tenants sampleTenant.key = some sampleTenant :=
  Cluster.putTenant_self sampleTenant

theorem sample_represented :
    Represents MappingText.json sampleCluster sampleCluster ⟨sampleTenant,fun _ => none,none⟩ [] :=
  represents_footprint MappingText.json sample_found

/-- Two passes over the sample, one after the other. -/
def TwoPasses (obs : Observation) (once twice : Cluster) : Prop :=
  ∃ result result', Yields obs True sampleCluster
      (reconcile MappingText.json sampleReconciler 1 0 sampleTenant.key) (.ok result) once ∧
    Yields obs True once (reconcile MappingText.json sampleReconciler 1 30 sampleTenant.key) (.ok result') twice

theorem twoPasses_exist (obs : Observation) {first second : Footprint}
    (one : applyAll (writes (passScript sampleReconciler obs 0 ⟨sampleTenant,fun _ => none,none⟩))
      ⟨sampleTenant,fun _ => none,none⟩ = .ok first)
    (two : applyAll (writes (passScript sampleReconciler obs 30 first)) first = .ok second)
    (named : first.tenant.key = sampleTenant.key) : ∃ once twice, TwoPasses obs once twice := by
  obtain ⟨result,once,run,shown⟩ := pass_exists sampleReconciler obs 0 True sample_represented one
  obtain ⟨result',twice,run',_⟩ := pass_exists sampleReconciler obs 30 True shown two
  rw [named] at run'
  exact ⟨once,twice,result,result',run,run'⟩

theorem calm_passes_agree : ∃ once twice, TwoPasses ⟨0,10,6,0⟩ once twice ∧
    (twice.tenants sampleTenant.key).map TradingTenant.outcome =
      (once.tenants sampleTenant.key).map TradingTenant.outcome := by
  obtain ⟨once,twice,result,result',first,second⟩ := twoPasses_exist ⟨0,10,6,0⟩ rfl rfl rfl
  refine ⟨once,twice,⟨result,result',first,second⟩,?_⟩
  exact (second_pass_unchanged_iff _ _ _ _ _ _ _ _ sample_found (by decide) _ _ _ _ _ _ first second).mpr
    fun parity => absurd parity.1 (by decide)

-- Six partitions and at most ten replicas: scaled to six, and isolated half a minute later.
theorem scaled_then_isolated : ∃ once twice, TwoPasses ⟨500,10,6,0⟩ once twice ∧
    (once.tenants sampleTenant.key).map TradingTenant.outcome = some (false,⟨6,some .scaling,500,10,6,none⟩) ∧
    (twice.tenants sampleTenant.key).map TradingTenant.outcome = some (true,⟨6,some .isolated,500,10,6,none⟩) := by
  obtain ⟨once,twice,result,result',first,second⟩ := twoPasses_exist ⟨500,10,6,0⟩ rfl rfl rfl
  have settled := reconcile_settles sample_found first
  refine ⟨once,twice,⟨result,result',first,second⟩,?_,?_⟩
  · rw [settled]
    decide
  · rw [reconcile_settles settled second]
    decide

end sample

end ControlPlane.Operator
