import ControlPlane.Effect.Interleaving
import ControlPlane.Operator.MappingText
import ControlPlane.Operator.Pass

/-! Passes of several tenants that change the shared map at the same time, one API call at a
time. What a pass holds between its calls is the object it has read, and the server refuses an
update of any other version. -/
namespace ControlPlane.Operator
open Go Effect Effect.Fallible Effect.Interleaving

inductive MapMutation where
  | ensure (tenantID : String) (start count : Int32)
  | remove (tenantID : String)
  deriving DecidableEq, Repr

namespace MapMutation

def apply : MapMutation → Mapping → Mapping
  | .ensure tenantID start count,mapping => mapping.insert tenantID ⟨start,count⟩
  | .remove tenantID,mapping => mapping.erase tenantID

def operation (json : MappingJson) (ns : String) (rounds : Nat) : MapMutation → Reconciling Unit
  | .ensure tenantID start count => ensureTenantPartitionMapEntry json ns tenantID rounds start count
  | .remove tenantID => removeTenantPartitionMapEntry json ns tenantID rounds

theorem operation_eq (json : MappingJson) (ns : String) (rounds : Nat) (mutation : MapMutation) :
    mutation.operation json ns rounds = mutateTenantPartitionMap json ns mutation.apply rounds := by
  cases mutation <;> rfl

end MapMutation

section rounds
variable (json : MappingJson) (ns : String) (mutate : Mapping → Mapping) (rounds : Nat)

abbrev MapProgram := Program (fun op : ApiCall => Except Error op.Value) (Except Error Unit)

-- The rest of a round once the object has been read, and after each of the answers.
def afterRead (found : Option (Stored ConfigMap)) : Reconciling Unit := do
  let raw := (found.map fun stored => rawMapping stored.object).getD ""
  let mapping ← context (.wrap "decode tenant partition map: %w" []) (pureResult (decodeTenantPartitionMap json raw))
  writeBack json ns found (mutate mapping) (mutateTenantPartitionMap json ns mutate rounds)

def afterGet : Except Error (Stored ConfigMap) → MapProgram
  | .ok stored => (afterRead json ns mutate rounds (some stored)).run
  | .error err =>
    if err.is apiNotFound then (afterRead json ns mutate rounds none).run
    else .done (.error (.wrap "get tenant partition map: %w" [] err))

def afterCreate : Except Error Unit → MapProgram
  | .ok _ => .done (.ok ())
  | .error err =>
    if err.is apiAlreadyExists then (mutateTenantPartitionMap json ns mutate rounds).run
    else .done (.error (.wrap "create tenant partition map: %w" [] err))

def afterUpdate : Except Error Unit → MapProgram
  | .ok _ => .done (.ok ())
  | .error err => .done (.error (.wrap "update tenant partition map: %w" [] err))

theorem mutate_calls : (mutateTenantPartitionMap json ns mutate (rounds+1)).run =
    .call (.get .configMap (sharedKey ns)) (afterGet json ns mutate rounds) := by
  change Program.call _ _ = _
  congr 1
  funext reply
  cases reply with
  | ok stored => rfl
  | error err =>
    change Program.bind (if err.is apiNotFound then pure none else throw _ : Reconciling
      (Option (Stored ConfigMap))) _ =
      if err.is apiNotFound then _ else _
    by_cases missing : err.is apiNotFound
    · rw [if_pos missing,if_pos missing]
      rfl
    · rw [if_neg missing,if_neg missing]
      rfl

variable {json ns mutate rounds}

theorem afterRead_decoded (found : Option (Stored ConfigMap)) {mapping : Mapping}
    (decoded : decodeTenantPartitionMap json ((found.map fun stored => rawMapping stored.object).getD "") =
      .ok mapping) :
    afterRead json ns mutate rounds found =
      writeBack json ns found (mutate mapping) (mutateTenantPartitionMap json ns mutate rounds) := by
  unfold afterRead
  dsimp only
  rw [decoded]
  rfl

theorem afterGet_missing : afterGet json ns mutate rounds (.error apiNotFound) =
    (afterRead json ns mutate rounds none).run := by
  rw [afterGet,if_pos (Error.is_self _)]

theorem afterCreate_lost : afterCreate json ns mutate rounds (.error apiAlreadyExists) =
    (mutateTenantPartitionMap json ns mutate rounds).run := by
  rw [afterCreate,if_pos (Error.is_self _)]

theorem afterRead_absent : afterRead json ns mutate rounds none =
    writeBack json ns none (mutate ∅) (mutateTenantPartitionMap json ns mutate rounds) :=
  afterRead_decoded none (if_pos rfl)

theorem afterRead_absent_same (same : mutate ∅ = ∅) : (afterRead json ns mutate rounds none).run = .done (.ok ()) := by
  have nothing : pendingWrite json none (mutate ∅) = none := if_pos same
  rw [afterRead_absent]
  unfold writeBack
  rw [nothing]
  rfl

theorem afterRead_absent_creates (changes : mutate ∅ ≠ ∅) : (afterRead json ns mutate rounds none).run =
    .call (.create .configMap (sharedKey ns) (withMapping Kind.configMap.blank (json.marshal (mutate ∅))))
      (afterCreate json ns mutate rounds) := by
  have pending : pendingWrite json none (mutate ∅) =
    some (withMapping Kind.configMap.blank (json.marshal (mutate ∅))) :=
    if_neg changes
  rw [afterRead_absent]
  unfold writeBack
  rw [pending]
  change Program.call _ _ = _
  congr 1
  funext reply
  cases reply with
  | ok => rfl
  | error err =>
    change Program.bind (if err.is apiAlreadyExists then pure false else throw _ : Reconciling Bool) _ =
      if err.is apiAlreadyExists then _ else _
    by_cases lost : err.is apiAlreadyExists
    · rw [if_pos lost,if_pos lost]
      rfl
    · rw [if_neg lost,if_neg lost]
      rfl

section present
variable {stored : Stored ConfigMap} {mapping : Mapping} (written : rawMapping stored.object = json.marshal mapping)
include written

theorem afterRead_present : afterRead json ns mutate rounds (some stored) =
    writeBack json ns (some stored) (mutate mapping) (mutateTenantPartitionMap json ns mutate rounds) := by
  refine afterRead_decoded _ ?_
  change decodeTenantPartitionMap json (rawMapping stored.object) = _
  rw [written,decode_marshal]

theorem afterRead_present_same (same : mutate mapping = mapping) :
    (afterRead json ns mutate rounds (some stored)).run = .done (.ok ()) := by
  have nothing : pendingWrite json (some stored) (mutate mapping) = none := by
    rw [same]
    exact if_pos written
  rw [afterRead_present written]
  unfold writeBack
  rw [nothing]
  rfl

-- The text is different whenever the mapping is, so a change is always written.
theorem afterRead_present_updates (changes : mutate mapping ≠ mapping) :
    (afterRead json ns mutate rounds (some stored)).run =
      .call (.update .configMap (sharedKey ns) ⟨withMapping stored.object (json.marshal (mutate mapping)),
        stored.resourceVersion⟩)
        afterUpdate := by
  have pending : pendingWrite json (some stored) (mutate mapping) =
      some (withMapping stored.object (json.marshal (mutate mapping))) := by
    refine if_neg ?_
    intro same
    exact changes (json.marshal_injective (same.symm.trans written))
  rw [afterRead_present written]
  unfold writeBack
  rw [pending]
  change Program.call _ _ = _
  congr 1
  funext reply
  cases reply <;> rfl

end present

end rounds

section phases
variable (json : MappingJson) (ns : String)

/-- The map is absent or was last written by these operations; versions come from past revisions. -/
def WrittenByPasses (cluster : Cluster) : Prop :=
  ∀ stored, cluster.objects .configMap (sharedKey ns) = some stored →
    stored.resourceVersion ≤ cluster.revision ∧ ∃ mapping, rawMapping stored.object = json.marshal mapping

/-- Where an operation stands. One that is about to update has read the object it changes, and an
object of that version is still the one it has read. -/
inductive Phase (mutate : Mapping → Mapping) (cluster : Cluster) : MapProgram → Prop
  | reading (rounds : Nat) : Phase mutate cluster
      (.call (.get .configMap (sharedKey ns)) (afterGet json ns mutate rounds))
  | creating (rounds : Nat) (changes : mutate ∅ ≠ ∅) :
      Phase mutate cluster (.call (.create .configMap (sharedKey ns)
        (withMapping Kind.configMap.blank (json.marshal (mutate ∅)))) (afterCreate json ns mutate rounds))
  | updating (stored : Stored ConfigMap) (mapping : Mapping) (written : rawMapping stored.object = json.marshal mapping)
      (changes : mutate mapping ≠ mapping) (past : stored.resourceVersion ≤ cluster.revision)
      (unchanged : ∀ now, cluster.objects .configMap (sharedKey ns) = some now →
        now.resourceVersion = stored.resourceVersion → now = stored) :
      Phase mutate cluster (.call (.update .configMap (sharedKey ns)
        ⟨withMapping stored.object (json.marshal (mutate mapping)),stored.resourceVersion⟩) afterUpdate)
  | ended (result : Except Error Unit) : Phase mutate cluster (.done result)

/-- The shared map stays as it is, or is written under a version that nobody has read yet. -/
def Advances (cluster next : Cluster) : Prop :=
  cluster.revision ≤ next.revision ∧
    (next.objects .configMap (sharedKey ns) = cluster.objects .configMap (sharedKey ns) ∨
      ∃ stored, next.objects .configMap (sharedKey ns) = some stored ∧ cluster.revision < stored.resourceVersion)

variable {json ns} {mutate : Mapping → Mapping} {cluster next : Cluster} {program : MapProgram}

theorem Phase.stable (phase : Phase json ns mutate cluster program) (advances : Advances ns cluster next) :
    Phase json ns mutate next program := by
  cases phase with
  | reading rounds => exact .reading rounds
  | creating rounds changes => exact .creating rounds changes
  | updating stored mapping written changes past unchanged =>
    obtain ⟨grows,kept⟩ := advances
    refine .updating stored mapping written changes (past.trans grows) ?_
    rcases kept with same | ⟨fresh,found,newer⟩
    · rw [same]
      exact unchanged
    · intro now current version
      cases found.symm.trans current
      omega
  | ended result => exact .ended result

theorem phase_started (rounds : Nat) : Phase json ns mutate cluster
    (mutateTenantPartitionMap json ns mutate rounds).run := by
  cases rounds with
  | zero => exact .ended _
  | succ rounds =>
    rw [mutate_calls]
    exact .reading rounds

theorem published_absent (absent : cluster.objects .configMap (sharedKey ns) = none) :
    published json cluster ns = ∅ := by
  unfold published sharedMapping
  rw [absent]
  rfl

theorem published_written {stored : Stored ConfigMap} {mapping : Mapping}
    (found : cluster.objects .configMap (sharedKey ns) = some stored)
    (written : rawMapping stored.object = json.marshal mapping) : published json cluster ns = mapping := by
  unfold published sharedMapping
  rw [found]
  change publishedOf (some (decodeTenantPartitionMap json (rawMapping stored.object))) = mapping
  rw [written,decode_marshal]
  rfl

/-- What a call of an operation can come to: it changes nothing and the operation goes on or fails,
it ends the operation where there is nothing to change, or it writes the change and ends it. -/
inductive Outcome (json : MappingJson) (ns : String) (mutate : Mapping → Mapping) (cluster : Cluster) :
    MapProgram → Cluster → Prop
  | goesOn {program : MapProgram} (phase : Phase json ns mutate cluster program)
      (unfinished : program ≠ .done (.ok ())) :
      Outcome json ns mutate cluster program cluster
  | reflected (same : mutate (published json cluster ns) = published json cluster ns) :
      Outcome json ns mutate cluster (.done (.ok ())) cluster
  | written (configMap : ConfigMap) (changes : mutate (published json cluster ns) ≠ published json cluster ns)
      (encoded : rawMapping configMap = json.marshal (mutate (published json cluster ns))) :
      Outcome json ns mutate cluster (.done (.ok ())) (cluster.putObject .configMap (sharedKey ns) (some configMap))

theorem Outcome.failed (err : Error) : Outcome json ns mutate cluster (.done (.error err)) cluster :=
  .goesOn (.ended _) nofun

theorem read_reflected (rounds : Nat) (own : WrittenByPasses json ns cluster)
    (same : mutate (published json cluster ns) = published json cluster ns) :
    afterGet json ns mutate rounds (Cluster.found (cluster.objects .configMap (sharedKey ns))) = .done (.ok ()) := by
  cases current : cluster.objects .configMap (sharedKey ns) with
  | none =>
    rw [published_absent current] at same
    change afterGet json ns mutate rounds (.error apiNotFound) = _
    rw [afterGet_missing]
    exact afterRead_absent_same same
  | some stored =>
    obtain ⟨_,mapping,written⟩ := own stored current
    rw [published_written current written] at same
    exact afterRead_present_same written same

theorem read_changes (rounds : Nat) (own : WrittenByPasses json ns cluster)
    (changes : mutate (published json cluster ns) ≠ published json cluster ns) :
    Phase json ns mutate cluster
      (afterGet json ns mutate rounds (Cluster.found (cluster.objects .configMap (sharedKey ns)))) ∧
      afterGet json ns mutate rounds (Cluster.found (cluster.objects .configMap (sharedKey ns))) ≠ .done (.ok ()) := by
  cases current : cluster.objects .configMap (sharedKey ns) with
  | none =>
    rw [published_absent current] at changes
    change Phase json ns mutate cluster (afterGet json ns mutate rounds (.error apiNotFound)) ∧
      afterGet json ns mutate rounds (.error apiNotFound) ≠ _
    rw [afterGet_missing,afterRead_absent_creates changes]
    exact ⟨.creating rounds changes,nofun⟩
  | some stored =>
    obtain ⟨past,mapping,written⟩ := own stored current
    rw [published_written current written] at changes
    change Phase json ns mutate cluster (afterRead json ns mutate rounds (some stored)).run ∧
      (afterRead json ns mutate rounds (some stored)).run ≠ _
    rw [afterRead_present_updates written changes]
    refine ⟨.updating stored mapping written changes past ?_,nofun⟩
    intro now found _
    exact Option.some.inj (found.symm.trans current)

theorem read_outcome (rounds : Nat) (own : WrittenByPasses json ns cluster) : Outcome json ns mutate cluster
    (afterGet json ns mutate rounds (Cluster.found (cluster.objects .configMap (sharedKey ns)))) cluster := by
  by_cases same : mutate (published json cluster ns) = published json cluster ns
  · rw [read_reflected rounds own same]
    exact .reflected same
  · obtain ⟨phase,unfinished⟩ := read_changes rounds own same
    exact .goesOn phase unfinished

theorem create_outcome (rounds : Nat) (changes : mutate ∅ ≠ ∅) : Outcome json ns mutate cluster
    (afterCreate json ns mutate rounds (cluster.create .configMap (sharedKey ns)
      (withMapping Kind.configMap.blank (json.marshal (mutate ∅)))).1)
    (cluster.create .configMap (sharedKey ns) (withMapping Kind.configMap.blank (json.marshal (mutate ∅)))).2 := by
  unfold Cluster.create
  cases current : cluster.objects .configMap (sharedKey ns) with
  | none =>
    have empty : published json cluster ns = ∅ := published_absent current
    refine .written _ ?_ ?_
    · rw [empty]
      exact changes
    · rw [empty]
      exact rawMapping_withMapping _ _
  | some stored =>
    change Outcome json ns mutate cluster (afterCreate json ns mutate rounds (.error apiAlreadyExists)) cluster
    rw [afterCreate_lost]
    refine .goesOn (phase_started rounds) ?_
    cases rounds with
    | zero => exact nofun
    | succ rounds =>
      rw [mutate_calls]
      exact nofun

theorem update_outcome {stored : Stored ConfigMap} {mapping : Mapping}
    (written : rawMapping stored.object = json.marshal mapping) (changes : mutate mapping ≠ mapping)
    (unchanged : ∀ now, cluster.objects .configMap (sharedKey ns) = some now →
      now.resourceVersion = stored.resourceVersion → now = stored) : Outcome json ns mutate cluster
    (afterUpdate (cluster.update .configMap (sharedKey ns)
      ⟨withMapping stored.object (json.marshal (mutate mapping)),stored.resourceVersion⟩).1)
    (cluster.update .configMap (sharedKey ns)
      ⟨withMapping stored.object (json.marshal (mutate mapping)),stored.resourceVersion⟩).2 := by
  unfold Cluster.update
  cases current : cluster.objects .configMap (sharedKey ns) with
  | none => exact .failed _
  | some now =>
    dsimp only
    by_cases version : now.resourceVersion = stored.resourceVersion
    · obtain rfl := unchanged now current version
      have shown : published json cluster ns = mapping := published_written current written
      rw [if_pos rfl]
      refine .written _ ?_ ?_
      · rw [shown]
        exact changes
      · rw [shown,rawMapping_withMapping]
    · rw [if_neg version]
      exact .failed _

theorem Phase.answered {obs : Observation} {op : ApiCall} {rest : Except Error op.Value → MapProgram}
    {reply : Except Error op.Value} (own : WrittenByPasses json ns cluster)
    (phase : Phase json ns mutate cluster (.call op rest)) (answered : Answers obs True cluster op reply next) :
    Outcome json ns mutate cluster (rest reply) next := by
  cases phase with
  | reading rounds =>
    cases answered with
    | served => exact read_outcome rounds own
    | failed err faulty fallible transport =>
      change Outcome json ns mutate cluster (if err.is apiNotFound then _ else _) cluster
      rw [transport.1]
      exact .failed _
  | creating rounds changes =>
    cases answered with
    | served => exact create_outcome rounds changes
    | failed err faulty fallible transport =>
      change Outcome json ns mutate cluster (if err.is apiAlreadyExists then _ else _) cluster
      rw [transport.2]
      exact .failed _
  | updating stored mapping written changes past unchanged =>
    cases answered with
    | served => exact update_outcome written changes unchanged
    | failed err faulty fallible transport => exact .failed _

theorem Outcome.advances (outcome : Outcome json ns mutate cluster program next) : Advances ns cluster next := by
  cases outcome with
  | goesOn phase unfinished => exact ⟨Nat.le_refl _,Or.inl rfl⟩
  | reflected same => exact ⟨Nat.le_refl _,Or.inl rfl⟩
  | written configMap changes encoded =>
    exact ⟨Nat.le_succ _,Or.inr ⟨_,Cluster.putObject_same,Nat.lt_succ_self _⟩⟩

theorem Outcome.own (outcome : Outcome json ns mutate cluster program next) (own : WrittenByPasses json ns cluster) :
    WrittenByPasses json ns next := by
  cases outcome with
  | goesOn phase unfinished => exact own
  | reflected same => exact own
  | written configMap changes encoded =>
    intro stored found
    cases Cluster.putObject_same.symm.trans found
    exact ⟨Nat.le_refl _,_,encoded⟩

theorem Outcome.phase (outcome : Outcome json ns mutate cluster program next) : Phase json ns mutate next program := by
  cases outcome with
  | goesOn phase unfinished => exact phase
  | reflected same => exact .ended _
  | written configMap changes encoded => exact .ended _

/-- The change is made by the call that ends the operation with success, or not at all. -/
theorem Outcome.view (outcome : Outcome json ns mutate cluster program next) :
    (next = cluster ∧ program ≠ .done (.ok ())) ∨
      (published json next ns = mutate (published json cluster ns) ∧ program = .done (.ok ())) := by
  cases outcome with
  | goesOn phase unfinished => exact Or.inl ⟨rfl,unfinished⟩
  | reflected same => exact Or.inr ⟨same.symm,rfl⟩
  | written configMap changes encoded => exact Or.inr ⟨published_written Cluster.putObject_same encoded,rfl⟩

theorem Outcome.unchanged (outcome : Outcome json ns mutate cluster program next)
    (reflected : mutate (published json cluster ns) = published json cluster ns) : next = cluster := by
  cases outcome with
  | goesOn phase unfinished => rfl
  | reflected same => rfl
  | written configMap changes encoded => exact absurd reflected changes

end phases

section passes
variable {ι : Type} (json : MappingJson) (ns : String) (passes : ι → MapMutation) (rounds : ι → Nat)

def mapPrograms (i : ι) : MapProgram := ((passes i).operation json ns (rounds i)).run

/-- What the rest of the cluster does: it leaves the shared map alone. -/
def Elsewhere (cluster next : Cluster) : Prop :=
  next.objects .configMap (sharedKey ns) = cluster.objects .configMap (sharedKey ns) ∧ cluster.revision ≤ next.revision

theorem passes_effect_at_end (obs : Observation) :
    EffectAtEnd (Answers obs True) (Elsewhere ns) (mapPrograms json ns passes rounds) (WrittenByPasses json ns)
      (fun cluster => published json cluster ns) (fun i => (passes i).apply) (fun result => result = .ok ())
      (fun i => Phase json ns (passes i).apply) := by
  refine ⟨?_,?_,?_,?_,?_⟩
  · intro i cluster _
    unfold mapPrograms
    rw [MapMutation.operation_eq]
    exact phase_started (rounds i)
  · intro i value ended
    unfold mapPrograms at ended
    rw [MapMutation.operation_eq] at ended
    cases count : rounds i with
    | zero =>
      rw [count] at ended
      cases ended
      exact nofun
    | succ rest =>
      rw [count,mutate_calls] at ended
      cases ended
  · intro i cluster op rest reply next own phase answered
    have outcome := phase.answered own answered
    refine ⟨outcome.own own,outcome.phase,?_⟩
    rcases outcome.view with ⟨rfl,unfinished⟩ | ⟨applied,ended⟩
    · refine Or.inl ⟨rfl,?_⟩
      rintro value ended rfl
      exact unfinished ended
    · exact Or.inr ⟨applied,_,ended,rfl⟩
  · intro i j cluster op rest reply next program own phase answered other
    exact other.stable (phase.answered own answered).advances
  · intro cluster next own apart
    obtain ⟨same,grows⟩ := apart
    refine ⟨?_,?_,?_⟩
    · intro stored found
      obtain ⟨past,written⟩ := own stored (same.symm.trans found)
      exact ⟨past.trans grows,written⟩
    · unfold published sharedMapping
      rw [same]
    · intro i program phase
      exact phase.stable ⟨grows,Or.inl same⟩

variable {json ns passes rounds} [DecidableEq ι] {obs : Observation}
  {system next : System Cluster ι (fun op : ApiCall => Except Error op.Value) (Except Error Unit)} {i : ι}
  (own : WrittenByPasses json ns system.shared)
  (held : ∀ program, system.threads i = .running program → Phase json ns (passes i).apply system.shared program)
include own held

theorem called_outcome {op : ApiCall} {reply : Except Error op.Value}
    (step : Step (Answers obs True) (Elsewhere ns) (mapPrograms json ns passes rounds) system
      (.called i op reply) next) :
    ∃ program, next.threads i = .running program ∧ Outcome json ns (passes i).apply system.shared program
      next.shared := by
  cases step with
  | called _ _ rest _ shared running answered =>
    exact ⟨rest reply,System.set_self system i _,(held _ running).answered own answered⟩

theorem get_reflected (same : (passes i).apply (published json system.shared ns) = published json system.shared ns)
    (step : Step (Answers obs True) (Elsewhere ns) (mapPrograms json ns passes rounds) system
      (.called i (.get .configMap (sharedKey ns)) (system.shared.serve obs (.get .configMap (sharedKey ns))).1) next) :
    next.threads i = .running (.done (.ok ())) := by
  cases step with
  | called _ _ rest _ shared running answered =>
    have phase := held _ running
    cases phase with
    | reading rounds =>
      refine (System.set_self system i _).trans ?_
      exact congrArg Thread.running (read_reflected rounds own same)

end passes

/-- Passes that change the shared map at the same time change it as if one after the other, in an order
that agrees with real time; only an operation that returns nil writes, and none writes a change that
the map already has. -/
theorem no_lost_update {ι : Type} [DecidableEq ι] (json : MappingJson) (ns : String) (obs : Observation)
    (passes : ι → MapMutation) (rounds : ι → Nat) (cluster : Cluster) (own : WrittenByPasses json ns cluster)
    (history : List (Event ι (fun op : ApiCall => Except Error op.Value) (Except Error Unit)))
    (system : System Cluster ι (fun op : ApiCall => Except Error op.Value) (Except Error Unit))
    (run : Run (Answers obs True) (Elsewhere ns) (mapPrograms json ns passes rounds) (.initial cluster)
      history system) :
    (∃ order : List ι, order.Nodup ∧
      (∀ i, i ∈ order ↔ .returned i (.ok ()) ∈ history ∨ system.threads i = .running (.done (.ok ()))) ∧
      (order.Pairwise fun i j => ¬Precedes history j i) ∧
      published json system.shared ns =
        order.foldl (fun mapping i => (passes i).apply mapping) (published json cluster ns)) ∧
    (∀ i op reply next, Step (Answers obs True) (Elsewhere ns) (mapPrograms json ns passes rounds) system
      (.called i op reply) next → next.shared ≠ system.shared → next.threads i = .running (.done (.ok ()))) ∧
    (∀ i, (passes i).apply (published json system.shared ns) = published json system.shared ns →
      (∀ op reply next, Step (Answers obs True) (Elsewhere ns) (mapPrograms json ns passes rounds) system
        (.called i op reply) next → next.shared = system.shared) ∧
      ∀ next, Step (Answers obs True) (Elsewhere ns) (mapPrograms json ns passes rounds) system
        (.called i (.get .configMap (sharedKey ns)) (system.shared.serve obs (.get .configMap (sharedKey ns))).1) next →
        next.threads i = .running (.done (.ok ()))) := by
  obtain ⟨order,linearized⟩ := run_linearized (passes_effect_at_end json ns passes rounds obs) own run
  refine ⟨⟨order,linearized.nodup,?_,linearized.timely,linearized.view⟩,?_,?_⟩
  · intro i
    rw [linearized.members,linearized.returned]
    constructor
    · intro succeeded
      obtain ⟨_,rfl,running | returned⟩ := succeeded
      · exact Or.inr running
      · exact Or.inl returned
    · intro finished
      rcases finished with returned | running
      · exact ⟨_,rfl,Or.inr returned⟩
      · exact ⟨_,rfl,Or.inl running⟩
  · intro i op reply next step changed
    obtain ⟨program,running,outcome⟩ := called_outcome linearized.good (linearized.held i) step
    rcases outcome.view with ⟨same,_⟩ | ⟨_,ended⟩
    · exact absurd same changed
    · rw [running,ended]
  · intro i reflected
    constructor
    · intro op reply next step
      obtain ⟨program,_,outcome⟩ := called_outcome linearized.good (linearized.held i) step
      exact outcome.unchanged reflected
    · intro next step
      exact get_reflected linearized.good (linearized.held i) reflected step

section sample

def racers : Bool → MapMutation
  | true => .ensure "acme" 0 1
  | false => .ensure "tenant-b" 1 2

def acmeMap : ConfigMap := withMapping Kind.configMap.blank (MappingText.json.marshal ((racers true).apply ∅))

abbrev Race (history : List (Event Bool (fun op : ApiCall => Except Error op.Value) (Except Error Unit)))
    (system : System Cluster Bool (fun op : ApiCall => Except Error op.Value) (Except Error Unit)) : Prop :=
  Run (Answers ⟨0,0,0,0⟩ True) (Elsewhere "trading") (mapPrograms MappingText.json "trading" racers fun _ => 2)
    (.initial Cluster.empty) history system

-- Both find no map; the second loses the race to create it, reads it and updates it.
theorem race_exists : ∃ history system, Race history system ∧
    .returned true (.ok ()) ∈ history ∧ .returned false (.ok ()) ∈ history := by
  have begins (i : Bool) : mapPrograms MappingText.json "trading" racers (fun _ => 2) i =
      .call (.get .configMap (sharedKey "trading")) (afterGet MappingText.json "trading" (racers i).apply 1) := by
    unfold mapPrograms
    rw [MapMutation.operation_eq,mutate_calls]
  have begun : Race [] (.initial Cluster.empty) := .start
  obtain ⟨s₁,run₁,shared₁,acme₁,others₁⟩ := begun.invoke true rfl
  obtain ⟨s₂,run₂,shared₂,second₂,others₂⟩ := run₁.invoke false (others₁ false (by decide))
  rw [begins] at acme₁ second₂
  have vacant : s₂.shared = Cluster.empty := shared₂.trans shared₁
  obtain ⟨s₃,run₃,shared₃,acme₃,others₃⟩ := run₂.call true ((others₂ true (by decide)).trans acme₁) (.served _)
  obtain ⟨s₄,run₄,shared₄,second₄,others₄⟩ := run₃.call false ((others₃ false (by decide)).trans second₂) (.served _)
  rw [vacant] at acme₃ shared₃
  change s₃.shared = Cluster.empty at shared₃
  rw [shared₃] at second₄ shared₄
  change s₃.threads true = .running (afterGet _ _ _ _ (.error apiNotFound)) at acme₃
  change s₄.threads false = .running (afterGet _ _ _ _ (.error apiNotFound)) at second₄
  change s₄.shared = Cluster.empty at shared₄
  rw [afterGet_missing,afterRead_absent_creates (by decide)] at acme₃ second₄
  obtain ⟨s₅,run₅,shared₅,acme₅,others₅⟩ := run₄.call true ((others₄ true (by decide)).trans acme₃) (.served _)
  rw [shared₄] at acme₅ shared₅
  obtain ⟨s₆,run₆,shared₆,second₆,others₆⟩ := run₅.call false ((others₅ false (by decide)).trans second₄) (.served _)
  rw [shared₅] at second₆ shared₆
  change s₆.threads false = .running (afterCreate _ _ _ _ (.error apiAlreadyExists)) at second₆
  rw [afterCreate_lost,mutate_calls] at second₆
  obtain ⟨s₇,run₇,shared₇,second₇,others₇⟩ := run₆.call false second₆ (.served _)
  rw [shared₆] at second₇ shared₇
  have updates : (afterRead MappingText.json "trading" (racers false).apply 0 (some ⟨acmeMap,1⟩)).run = _ :=
    afterRead_present_updates (rawMapping_withMapping _ _) (by decide)
  have ready := second₇.trans (congrArg Thread.running updates)
  obtain ⟨s₈,run₈,shared₈,second₈,others₈⟩ := run₇.call false ready (.served _)
  rw [shared₇] at second₈
  change s₈.threads false = .running (.done (.ok ())) at second₈
  have acme₈ : s₈.threads true = .running (.done (.ok ())) :=
    (others₈ true (by decide)).trans ((others₇ true (by decide)).trans ((others₆ true (by decide)).trans acme₅))
  obtain ⟨s₉,run₉,others₉⟩ := run₈.finish false second₈
  obtain ⟨_,run,_⟩ := run₉.finish true ((others₉ true (by decide)).trans acme₈)
  exact ⟨_,_,run,by simp,by simp⟩

theorem racing_passes_both_listed : ∃ history system, Race history system ∧
    .returned true (.ok ()) ∈ history ∧ .returned false (.ok ()) ∈ history ∧
    (published MappingText.json system.shared "trading").lookup "acme" = some ⟨0,1⟩ ∧
    (published MappingText.json system.shared "trading").lookup "tenant-b" = some ⟨1,2⟩ := by
  obtain ⟨history,system,run,first,second⟩ := race_exists
  obtain ⟨⟨order,nodup,members,_,mapping⟩,_⟩ := no_lost_update MappingText.json "trading" ⟨0,0,0,0⟩ racers (fun _ => 2)
    Cluster.empty nofun history system run
  have both : order.Perm [true,false] := by
    refine (List.perm_ext_iff_of_nodup nodup (by decide)).mpr ?_
    intro i
    refine iff_of_true ((members i).mpr (Or.inl ?_)) ?_
    · cases i
      · exact second
      · exact first
    · cases i <;> decide
  refine ⟨history,system,run,first,second,?_⟩
  rw [mapping,published_absent rfl]
  obtain ⟨i,j,rfl⟩ := List.length_eq_two.mp both.length_eq
  cases i <;> cases j
  · exact absurd nodup (by decide)
  · exact ⟨by decide,by decide⟩
  · exact ⟨by decide,by decide⟩
  · exact absurd nodup (by decide)

end sample

end ControlPlane.Operator
