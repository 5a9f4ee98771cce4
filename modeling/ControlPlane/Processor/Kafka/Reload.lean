import ControlPlane.Effect.Transitions
import ControlPlane.Go.Values
import Mathlib.Data.Finset.Card
import Mathlib.Data.Finset.Image

/-! Hot reload of a dedicated processor's partitions (`internal/processor/kafka/reload.go` and
the manual assignment of `NewConsumer`). A Go map with empty values is a finite set. What the
Kafka client holds is known only by the calls made to it; every partition is added at its
start. -/
namespace ControlPlane.Processor.Kafka
open Go Effect

structure TenantPartitionMapEntry where
  start : Int32
  count : Int32
  deriving DecidableEq, Repr

/-- A decoded mapping file: the JSON object's keys are distinct. -/
structure TenantPartitionMap where
  entries : List (Bytes × TenantPartitionMapEntry)
  distinct : (entries.map (·.1)).Nodup

/-- `FileTenantPartitionSource.Load`, given what the file read and `json.Unmarshal` answer. -/
def load (path : Bytes) (readFile : Except Error Bytes) (unmarshal : Bytes → Except Error TenantPartitionMap) :
    Except Error TenantPartitionMap := do
  let raw ← readFile.mapError (.wrap "read tenant partition map %q: %w" [.bytes path])
  (unmarshal raw).mapError (.wrap "parse tenant partition map %q: %w" [.bytes path])

def partitionsForEntry (entry : TenantPartitionMapEntry) : Except Error (Finset Int32) :=
  if entry.count < 1 then .error (.errorf "count %d must be >= 1" [.int entry.count.toInt])
  else .ok ((List.range entry.count.toInt.toNat).foldl
    (fun partitions index => insert (entry.start + Int32.ofNat index) partitions) ∅)

structure TenantPartitionReloader where
  tenantID : Bytes
  topic : Bytes

/-- The calls to the client; a partition that is added is read from its start. -/
inductive ClientCall where
  | addConsumePartitions (topic : Bytes) (partitions : Finset Int32)
  | removeConsumePartitions (topic : Bytes) (partitions : Finset Int32)

/-- A consumer's assignment, the partitions its client was made with and the calls made to it since. -/
structure Assigned where
  consumePartitions : Finset Int32
  assignment : Finset Int32
  calls : List ClientCall
  partitionReloadErrorsTotal : Nat

/-- The part of `NewConsumer` that assigns partitions by hand. -/
def newConsumer (manualPartitions : List Int32) : Assigned where
  consumePartitions := manualPartitions.foldl (fun partitionOffsets partition => insert partition partitionOffsets) ∅
  assignment := manualPartitions.foldl (fun assignment partition => insert partition assignment) ∅
  calls := []
  partitionReloadErrorsTotal := 0

def loadTarget (reloader : TenantPartitionReloader) (loaded : Except Error TenantPartitionMap) :
    Except Error (Finset Int32) := do
  let mapping ← loaded
  match mapping.entries.lookup reloader.tenantID with
  | none => .error (.errorf "tenant %q has no entry in tenant partition map" [.bytes reloader.tenantID])
  | some entry => (partitionsForEntry entry).mapError (.wrap "tenant %q: %w" [.bytes reloader.tenantID])

def applyAssignment (topic : Bytes) (assignment target : Finset Int32) : List ClientCall × Finset Int32 :=
  let added := target.filter (· ∉ assignment)
  let removed := assignment.filter (· ∉ target)
  if added.card = 0 ∧ removed.card = 0 then ([],assignment)
  else
    ((if added.card > 0 then [.addConsumePartitions topic added] else []) ++
      (if removed.card > 0 then [.removeConsumePartitions topic removed] else []),target)

def reloadOnce (reloader : TenantPartitionReloader) (con : Assigned) (loaded : Except Error TenantPartitionMap) :
    Assigned :=
  match loadTarget reloader loaded with
  | .error _ => {con with partitionReloadErrorsTotal := con.partitionReloadErrorsTotal + 1}
  | .ok target =>
    let (calls,assignment) := applyAssignment reloader.topic con.assignment target
    {con with assignment,calls := con.calls ++ calls}

section client

/-- The partitions of a topic that the client holds after one more call. -/
def held (topic : Bytes) (partitions : Finset Int32) : ClientCall → Finset Int32
  | .addConsumePartitions name added => if name = topic then partitions ∪ added else partitions
  | .removeConsumePartitions name removed => if name = topic then partitions \ removed else partitions

def clientPartitions (topic : Bytes) (initial : Finset Int32) (calls : List ClientCall) : Finset Int32 :=
  calls.foldl (held topic) initial

theorem clientPartitions_append (topic : Bytes) (initial : Finset Int32) (calls later : List ClientCall) :
    clientPartitions topic initial (calls ++ later) = clientPartitions topic (clientPartitions topic initial calls)
      later :=
  List.foldl_append

end client

section entries

/-- The entry of a load that names the tenant and can be used. -/
def validEntry (tenantID : Bytes) (loaded : Except Error TenantPartitionMap) : Option TenantPartitionMapEntry :=
  loaded.toOption.bind fun mapping => (mapping.entries.lookup tenantID).filter fun entry => 1 ≤ entry.count

/-- The partitions from `start` on, as many as `count`. -/
def TenantPartitionMapEntry.partitions (entry : TenantPartitionMapEntry) : Finset Int32 :=
  (Finset.range entry.count.toInt.toNat).image fun index => entry.start + Int32.ofNat index

theorem mem_inserted {α β : Type} [DecidableEq β] (value : α → β) (list : List α) (initial : Finset β) (x : β) :
    x ∈ list.foldl (fun collected a => insert (value a) collected) initial ↔ x ∈ initial ∨ ∃ a ∈ list, value a = x := by
  induction list generalizing initial with
  | nil => simp
  | cons a list ih =>
    rw [List.foldl_cons,ih,Finset.mem_insert]
    constructor
    · rintro ((rfl | earlier) | ⟨b,member,rfl⟩)
      · exact Or.inr ⟨a,List.mem_cons_self,rfl⟩
      · exact Or.inl earlier
      · exact Or.inr ⟨b,List.mem_cons_of_mem a member,rfl⟩
    · rintro (earlier | ⟨b,member,rfl⟩)
      · exact Or.inl (Or.inr earlier)
      · rcases List.mem_cons.mp member with rfl | later
        · exact Or.inl (Or.inl rfl)
        · exact Or.inr ⟨b,later,rfl⟩

theorem partitionsForEntry_ok {entry : TenantPartitionMapEntry} (positive : 1 ≤ entry.count) :
    partitionsForEntry entry = .ok entry.partitions := by
  unfold partitionsForEntry
  rw [if_neg (Int32.not_lt.mpr positive)]
  congr 1
  ext partition
  rw [mem_inserted]
  simp [TenantPartitionMapEntry.partitions]

theorem partitions_nonempty {entry : TenantPartitionMapEntry} (positive : 1 ≤ entry.count) :
    entry.partitions.Nonempty := by
  have one : (1 : Int32).toInt = 1 := by decide
  rw [Int32.le_iff_toInt_le,one] at positive
  apply Finset.Nonempty.image
  rw [Finset.nonempty_range_iff]
  omega

/-- A load gives the partitions of the tenant's entry, or an error where there is no entry to use. -/
theorem loadTarget_cases (reloader : TenantPartitionReloader) (loaded : Except Error TenantPartitionMap) :
    (validEntry reloader.tenantID loaded = none ∧ ∃ err, loadTarget reloader loaded = .error err) ∨
      ∃ entry, validEntry reloader.tenantID loaded = some entry ∧ entry.partitions.Nonempty ∧
        loadTarget reloader loaded = .ok entry.partitions := by
  cases loaded with
  | error err => exact Or.inl ⟨rfl,err,rfl⟩
  | ok mapping =>
    have valid : validEntry reloader.tenantID (.ok mapping) =
        (mapping.entries.lookup reloader.tenantID).filter fun entry => 1 ≤ entry.count := rfl
    cases found : mapping.entries.lookup reloader.tenantID with
    | none =>
      have missing : loadTarget reloader (.ok mapping) =
          .error (.errorf "tenant %q has no entry in tenant partition map" [.bytes reloader.tenantID]) := by
        simp only [loadTarget,bind,Except.bind,found]
      rw [valid,found]
      exact Or.inl ⟨rfl,_,missing⟩
    | some entry =>
      have target : loadTarget reloader (.ok mapping) =
          (partitionsForEntry entry).mapError (.wrap "tenant %q: %w" [.bytes reloader.tenantID]) := by
        simp only [loadTarget,bind,Except.bind,found]
      rw [valid,found,target]
      by_cases positive : 1 ≤ entry.count
      · rw [partitionsForEntry_ok positive]
        exact Or.inr ⟨entry,by simp [positive],partitions_nonempty positive,rfl⟩
      · unfold partitionsForEntry
        rw [if_pos (Int32.not_le.mp positive)]
        exact Or.inl ⟨by simpa using positive,_,rfl⟩

end entries

section assignment
variable (topic : Bytes) (assignment target : Finset Int32)

def additions : List ClientCall :=
  if (target \ assignment).Nonempty then [.addConsumePartitions topic (target \ assignment)] else []

def removals : List ClientCall :=
  if (assignment \ target).Nonempty then [.removeConsumePartitions topic (assignment \ target)] else []

theorem applyAssignment_eq : applyAssignment topic assignment target =
    (additions topic assignment target ++ removals topic assignment target,target) := by
  unfold applyAssignment additions removals
  simp only [← Finset.sdiff_eq_filter,gt_iff_lt,Finset.card_pos]
  split
  · rename_i unchanged
    obtain ⟨nothingAdded,nothingRemoved⟩ := unchanged
    rw [Finset.card_eq_zero] at nothingAdded nothingRemoved
    have same : assignment = target :=
      Finset.Subset.antisymm (Finset.sdiff_eq_empty_iff_subset.mp nothingRemoved)
        (Finset.sdiff_eq_empty_iff_subset.mp nothingAdded)
    subst same
    simp
  · rfl

variable {topic assignment target}

theorem additions_union : clientPartitions topic assignment (additions topic assignment target) =
    assignment ∪ target := by
  unfold additions
  split
  · change (if topic = topic then assignment ∪ (target \ assignment) else assignment) = _
    rw [if_pos rfl,Finset.union_sdiff_self_eq_union]
  · rename_i nothing
    rw [Finset.not_nonempty_iff_eq_empty,Finset.sdiff_eq_empty_iff_subset] at nothing
    exact (Finset.union_eq_left.mpr nothing).symm

theorem removals_target : clientPartitions topic (assignment ∪ target) (removals topic assignment target) = target := by
  have whole : (assignment ∪ target) \ (assignment \ target) = target := by
    ext partition
    simp only [Finset.mem_sdiff,Finset.mem_union]
    tauto
  unfold removals
  split
  · change (if topic = topic then (assignment ∪ target) \ (assignment \ target) else assignment ∪ target) = _
    rw [if_pos rfl,whole]
  · rename_i nothing
    rw [Finset.not_nonempty_iff_eq_empty,Finset.sdiff_eq_empty_iff_subset] at nothing
    exact Finset.union_eq_right.mpr nothing

theorem part_of_one {made : List ClientCall} {call : ClientCall} {needed : Prop} [Decidable needed]
    (part : made <+: if needed then [call] else []) : made = [] ∨ made = if needed then [call] else [] := by
  split at part
  · rename_i holds
    rw [if_pos holds]
    rcases List.prefix_cons_iff.mp part with rfl | ⟨rest,rfl,nothing⟩
    · exact Or.inl rfl
    · rw [List.prefix_nil.mp nothing]
      exact Or.inr rfl
  · exact Or.inl (List.prefix_nil.mp part)

/-- The calls go from the old assignment to both together and from there to the target. -/
theorem applyAssignment_passes {made : List ClientCall} (part : made <+: (applyAssignment topic assignment target).1) :
    clientPartitions topic assignment made = assignment ∨
      clientPartitions topic assignment made = assignment ∪ target ∨
      clientPartitions topic assignment made = target := by
  rw [applyAssignment_eq] at part
  obtain ⟨pending,parts⟩ := part
  rcases List.append_eq_append_iff.mp parts with ⟨rest,adds,_⟩ | ⟨rest,rfl,removes⟩
  · rcases part_of_one ⟨rest,adds.symm⟩ with rfl | whole
    · exact Or.inl rfl
    · rw [whole]
      exact Or.inr (Or.inl additions_union)
  · rw [clientPartitions_append,additions_union]
    rcases part_of_one ⟨pending,removes.symm⟩ with rfl | whole
    · exact Or.inr (Or.inl rfl)
    · rw [whole]
      exact Or.inr (Or.inr removals_target)

theorem applyAssignment_reaches : clientPartitions topic assignment (applyAssignment topic assignment target).1 =
    target := by
  rw [applyAssignment_eq,clientPartitions_append,additions_union,removals_target]

theorem applyAssignment_adds {name : Bytes} {added : Finset Int32}
    (call : .addConsumePartitions name added ∈ (applyAssignment topic assignment target).1) :
    name = topic ∧ added = target \ assignment := by
  rw [applyAssignment_eq] at call
  unfold additions removals at call
  rcases List.mem_append.mp call with adds | removes
  · split at adds
    · cases List.mem_singleton.mp adds
      exact ⟨rfl,rfl⟩
    · cases adds
  · split at removes
    · cases List.mem_singleton.mp removes
    · cases removes

end assignment

section runs

/-- The partitions of the last entry that could be used, or those the consumer started with. -/
def lastTarget (tenantID : Bytes) (initial : Finset Int32) (loads : List (Except Error TenantPartitionMap)) :
    Finset Int32 :=
  ((loads.reverse.findSome? (validEntry tenantID)).map TenantPartitionMapEntry.partitions).getD initial

def Assigned.clientPartitions (con : Assigned) (topic : Bytes) (made : List ClientCall) : Finset Int32 :=
  Kafka.clientPartitions topic con.consumePartitions (con.calls ++ made)

/-- What one reload does to a client that holds the consumer's assignment. -/
structure Gapless (reloader : TenantPartitionReloader) (con next : Assigned) (calls : List ClientCall) : Prop where
  appended : next.calls = con.calls ++ calls
  nonempty : ∀ made, made <+: calls → (con.clientPartitions reloader.topic made).Nonempty
  kept : ∀ made, made <+: calls → con.assignment ∩ next.assignment ⊆ con.clientPartitions reloader.topic made
  rewound : ∀ topic added, .addConsumePartitions topic added ∈ calls → Disjoint added (con.assignment ∩ next.assignment)

structure Tracks (reloader : TenantPartitionReloader) (con : Assigned) (target : Finset Int32) : Prop where
  target : con.assignment = target
  nonempty : con.assignment.Nonempty
  client : con.clientPartitions reloader.topic [] = con.assignment

variable {reloader : TenantPartitionReloader} {con : Assigned} {last : Finset Int32}

theorem reload_failed (reloader : TenantPartitionReloader) (con : Assigned)
    {loaded : Except Error TenantPartitionMap} (unusable : validEntry reloader.tenantID loaded = none) :
    reloadOnce reloader con loaded = {con with partitionReloadErrorsTotal := con.partitionReloadErrorsTotal + 1} := by
  unfold reloadOnce
  rcases loadTarget_cases reloader loaded with ⟨_,err,failed⟩ | ⟨entry,usable,_⟩
  · rw [failed]
  · cases unusable.symm.trans usable

theorem reload_applied (reloader : TenantPartitionReloader) (con : Assigned)
    {loaded : Except Error TenantPartitionMap} {entry : TenantPartitionMapEntry}
    (usable : validEntry reloader.tenantID loaded = some entry) :
    entry.partitions.Nonempty ∧ reloadOnce reloader con loaded =
      {con with
        assignment := entry.partitions
        calls := con.calls ++ (applyAssignment reloader.topic con.assignment entry.partitions).1} := by
  unfold reloadOnce
  rcases loadTarget_cases reloader loaded with ⟨unusable,_⟩ | ⟨other,same,nonempty,target⟩
  · cases unusable.symm.trans usable
  · cases usable.symm.trans same
    rw [target]
    dsimp only
    rw [applyAssignment_eq]
    exact ⟨nonempty,rfl⟩

theorem Tracks.gapless (tracks : Tracks reloader con last) (loaded : Except Error TenantPartitionMap) :
    ∃ calls, Gapless reloader con (reloadOnce reloader con loaded) calls ∧
      (validEntry reloader.tenantID loaded = none → calls = []) := by
  have holds (made : List ClientCall) :
      con.clientPartitions reloader.topic made = clientPartitions reloader.topic con.assignment made := by
    have client := tracks.client
    unfold Assigned.clientPartitions at client ⊢
    rw [List.append_nil] at client
    rw [clientPartitions_append,client]
  cases valid : validEntry reloader.tenantID loaded with
  | none =>
    rw [reload_failed reloader con valid]
    refine ⟨[],⟨(List.append_nil _).symm,?_,?_,nofun⟩,fun _ => rfl⟩
    · intro made part
      rw [List.prefix_nil.mp part,tracks.client]
      exact tracks.nonempty
    · intro made part
      rw [List.prefix_nil.mp part,tracks.client]
      exact Finset.inter_subset_left
  | some entry =>
    obtain ⟨nonempty,applied⟩ := reload_applied reloader con valid
    rw [applied]
    refine ⟨_,⟨rfl,?_,?_,?_⟩,nofun⟩
    · intro made part
      rw [holds]
      rcases applyAssignment_passes part with old | both | new
      · rw [old]
        exact tracks.nonempty
      · rw [both]
        exact tracks.nonempty.mono Finset.subset_union_left
      · rw [new]
        exact nonempty
    · intro made part
      rw [holds]
      rcases applyAssignment_passes part with old | both | new
      · rw [old]
        exact Finset.inter_subset_left
      · rw [both]
        exact Finset.inter_subset_left.trans Finset.subset_union_left
      · rw [new]
        exact Finset.inter_subset_right
    · intro topic added call
      rw [(applyAssignment_adds call).2]
      exact Finset.disjoint_of_subset_right Finset.inter_subset_left Finset.sdiff_disjoint

theorem Tracks.reload (tracks : Tracks reloader con last) (loaded : Except Error TenantPartitionMap) :
    Tracks reloader (reloadOnce reloader con loaded)
      (((validEntry reloader.tenantID loaded).map TenantPartitionMapEntry.partitions).getD last) := by
  cases valid : validEntry reloader.tenantID loaded with
  | none =>
    rw [reload_failed reloader con valid]
    exact ⟨tracks.target,tracks.nonempty,tracks.client⟩
  | some entry =>
    obtain ⟨nonempty,applied⟩ := reload_applied reloader con valid
    rw [applied]
    refine ⟨rfl,nonempty,?_⟩
    have client := tracks.client
    unfold Assigned.clientPartitions at client ⊢
    rw [List.append_nil] at client ⊢
    dsimp only
    rw [clientPartitions_append,client]
    exact applyAssignment_reaches

theorem lastTarget_snoc (tenantID : Bytes) (initial : Finset Int32) (loads : List (Except Error TenantPartitionMap))
    (loaded : Except Error TenantPartitionMap) : lastTarget tenantID initial (loads ++ [loaded]) =
      ((validEntry tenantID loaded).map TenantPartitionMapEntry.partitions).getD
      (lastTarget tenantID initial loads) := by
  unfold lastTarget
  rw [List.reverse_append,List.reverse_singleton,List.singleton_append,List.findSome?_cons]
  cases validEntry tenantID loaded <;> rfl

theorem newConsumer_tracks (reloader : TenantPartitionReloader) {manualPartitions : List Int32}
    (manual : manualPartitions ≠ []) :
    Tracks reloader (newConsumer manualPartitions) (newConsumer manualPartitions).consumePartitions := by
  obtain ⟨partition,rest,rfl⟩ := List.exists_cons_of_ne_nil manual
  refine ⟨rfl,⟨partition,?_⟩,rfl⟩
  exact (mem_inserted id (partition::rest) ∅ partition).mpr (Or.inr ⟨partition,List.mem_cons_self,rfl⟩)

theorem reloads_track (reloader : TenantPartitionReloader) {manualPartitions : List Int32}
    (manual : manualPartitions ≠ []) (loads : List (Except Error TenantPartitionMap)) :
    Tracks reloader (Transitions.run (reloadOnce reloader) (newConsumer manualPartitions) loads)
      (lastTarget reloader.tenantID (newConsumer manualPartitions).consumePartitions loads) := by
  induction loads using List.reverseRecOn with
  | nil => exact newConsumer_tracks reloader manual
  | append_singleton loads loaded ih =>
    rw [Transitions.run_snoc,lastTarget_snoc]
    exact ih.reload loaded

end runs

/-- After any loads the assignment is the last good entry's and the client holds just that; the next
reload has no gap, whatever it loads, and makes no call if it fails. -/
theorem assignment_tracks_mapping (reloader : TenantPartitionReloader) (manualPartitions : List Int32)
    (manual : manualPartitions ≠ []) (loads : List (Except Error TenantPartitionMap)) :
    let con := Transitions.run (reloadOnce reloader) (newConsumer manualPartitions) loads
    con.assignment = lastTarget reloader.tenantID (newConsumer manualPartitions).consumePartitions loads ∧
    con.clientPartitions reloader.topic [] = con.assignment ∧
    ∀ loaded, ∃ calls, Gapless reloader con (reloadOnce reloader con loaded) calls ∧
      (validEntry reloader.tenantID loaded = none → calls = []) := by
  have tracks := reloads_track reloader manual loads
  exact ⟨tracks.target,tracks.client,tracks.gapless⟩

section sample

def sampleReloader : TenantPartitionReloader := ⟨text "acme",text "transaction-events"⟩

def unlisted : TenantPartitionMap := ⟨[],List.nodup_nil⟩

def shifted : TenantPartitionMap := ⟨[(text "acme",⟨2,4⟩)],by decide⟩

-- The shift from [0,4) to [2,6) that the source describes, after a load without the tenant.
theorem shifted_range_tracked :
    (Transitions.run (reloadOnce sampleReloader) (newConsumer [0,1,2,3]) [.ok unlisted,.ok shifted]).assignment =
      {2,3,4,5} ∧
    (Transitions.run (reloadOnce sampleReloader) (newConsumer [0,1,2,3]) [.ok unlisted,.ok shifted]).clientPartitions
      (text "transaction-events") [] = {2,3,4,5} := by
  obtain ⟨target,client,_⟩ := assignment_tracks_mapping sampleReloader [0,1,2,3] (by decide) [.ok unlisted,.ok shifted]
  have partitions := target.trans (by decide : _ = ({2,3,4,5} : Finset Int32))
  exact ⟨partitions,client.trans partitions⟩

end sample

end ControlPlane.Processor.Kafka
