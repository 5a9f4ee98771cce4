import ControlPlane.Operator.DedicatedPool
import ControlPlane.Processor.Kafka.PartitionList

/-! The range of an isolated tenant reaches its processor in two forms: a list of partitions in
the tenant's own ConfigMap, read at the start, and an entry of the shared map, read at every
reload. Both stand for the same partitions. -/
namespace ControlPlane.Isolation
open Go Digits Operator Processor.Kafka Effect

section range
variable {start count : Int32} (nonnegative : 0 ≤ start.toInt)
  (fits : start.toInt + count.toInt - 1 ≤ Int32.maxValue.toInt)

-- The partitions from the start on, in order.
def listedPartitions (start count : Int32) : List Int32 :=
  (List.range count.toInt.toNat).map fun index => start + Int32.ofNat index

include nonnegative fits in
theorem partition_value {index : Nat} (within : index < count.toInt.toNat) :
    (start + Int32.ofNat index).toInt = start.toInt + index := by
  have limit : Int32.maxValue.toInt = 2^31 - 1 := by decide
  have small : (Int32.ofNat index).toInt = index := Int32.toInt_ofNat_of_lt (by omega)
  have sum := add32_cases start (Int32.ofNat index)
  rw [small] at sum
  omega

include nonnegative fits in
theorem listed_text : text (partitionListString start count) =
      [comma].intercalate ((listedPartitions start count).map fun partition => text (Nat.repr partition.toInt.toNat)) ∧
    ∀ partition ∈ listedPartitions start count, 0 ≤ partition.toInt := by
  have natural : ∀ partition ∈ listedPartitions start count, 0 ≤ partition.toInt := by
    intro partition member
    obtain ⟨index,within,rfl⟩ := List.mem_map.mp member
    rw [partition_value nonnegative fits (List.mem_range.mp within)]
    omega
  refine ⟨?_,natural⟩
  have written : partitionListString start count =
      ",".intercalate ((listedPartitions start count).map fun partition => toString partition.toInt) := by
    unfold partitionListString listedPartitions
    rw [List.map_map]
    rfl
  rw [written,text_join,List.map_map]
  congr 1
  apply List.map_congr_left
  intro partition member
  obtain ⟨number,same⟩ := Int.eq_ofNat_of_zero_le (natural partition member)
  simp only [Function.comp_apply,same]
  rfl

include nonnegative fits in
theorem listed_parsed (positive : 1 ≤ count.toInt) :
    parsePartitionList (text (partitionListString start count)) = .ok (listedPartitions start count) := by
  obtain ⟨written,natural⟩ := listed_text nonnegative fits
  have some : (listedPartitions start count).map (fun partition => text (Nat.repr partition.toInt.toNat)) ≠ [] := by
    unfold listedPartitions
    simp only [ne_eq,List.map_eq_nil_iff,List.range_eq_nil]
    omega
  rw [written,parsePartitionList_join some,List.map_map]
  · congr 1
    have read : ∀ partition ∈ listedPartitions start count,
        Int32.ofInt (value (text (Nat.repr partition.toInt.toNat))) = partition := by
      intro partition member
      rw [(text_repr _).2.2,Int.toNat_of_nonneg (natural partition member),Int32.ofInt_toInt]
    exact (List.map_congr_left read).trans (List.map_id _)
  · intro field member
    obtain ⟨partition,listed,rfl⟩ := List.mem_map.mp member
    obtain ⟨nonempty,digits,number⟩ := text_repr partition.toInt.toNat
    have bound := partition.toInt_lt
    exact ⟨nonempty,digits,by rw [number]; omega⟩

include nonnegative fits in
theorem listed_values : (listedPartitions start count).map Int32.toInt =
    (List.range count.toInt.toNat).map fun (index : Nat) => start.toInt + index := by
  unfold listedPartitions
  rw [List.map_map]
  apply List.map_congr_left
  intro index within
  exact partition_value nonnegative fits (List.mem_range.mp within)

end range

theorem listed_assignment (start count : Int32) :
    (newConsumer (listedPartitions start count)).assignment = TenantPartitionMapEntry.partitions ⟨start,count⟩ := by
  ext partition
  unfold newConsumer TenantPartitionMapEntry.partitions listedPartitions
  rw [mem_inserted (fun listed : Int32 => listed)]
  simp

/-- However often the same entry is loaded, no call is made. -/
theorem reloads_unchanged {start count : Int32} (positive : 1 ≤ count.toInt) (reloader : TenantPartitionReloader)
    (loads : List TenantPartitionMap)
    (listed : ∀ mapping ∈ loads, mapping.entries.lookup reloader.tenantID = some ⟨start,count⟩) :
    Transitions.run (reloadOnce reloader) (newConsumer (listedPartitions start count)) (loads.map .ok) =
      newConsumer (listedPartitions start count) := by
  have one : (1 : Int32).toInt = 1 := by decide
  induction loads using List.reverseRecOn with
  | nil => rfl
  | append_singleton loads mapping ih =>
    have usable : validEntry reloader.tenantID (.ok mapping) = some ⟨start,count⟩ := by
      change (mapping.entries.lookup reloader.tenantID).filter _ = _
      rw [listed mapping (by simp)]
      simp [Int32.le_iff_toInt_le,one,positive]
    rw [List.map_append,List.map_singleton,Transitions.run_snoc,
      ih fun earlier member => listed earlier (List.mem_append_left _ member)]
    exact reload_unchanged reloader _ usable (listed_assignment start count)

/-- The list written for a range is read as the range, in order; a processor that starts from it
has the partitions of the range's entry, and no reload of that entry makes a call. -/
theorem partition_list_agrees (start count : Int32) (nonnegative : 0 ≤ start.toInt) (positive : 1 ≤ count.toInt)
    (fits : start.toInt + count.toInt - 1 ≤ Int32.maxValue.toInt) :
    ∃ listed : List Int32,
      parsePartitionList (text (partitionListString start count)) = .ok listed ∧
      listed.map Int32.toInt = (List.range count.toInt.toNat).map (fun (index : Nat) => start.toInt + index) ∧
      partitionsForEntry ⟨start,count⟩ = .ok (newConsumer listed).assignment ∧
      ∀ tenant rec configMap written, dedicatedConfigMap tenant rec start count configMap = .ok written →
        ∃ raw, written.data.lookup "KAFKA_MANUAL_PARTITIONS" = some raw ∧
          manualPartitionsFromEnv (text raw) = .ok listed ∧
          ∀ (reloader : TenantPartitionReloader) (loads : List TenantPartitionMap),
            (∀ mapping ∈ loads, mapping.entries.lookup reloader.tenantID = some ⟨start,count⟩) →
            (Transitions.run (reloadOnce reloader) (newConsumer listed) (loads.map .ok)).calls = [] := by
  have one : (1 : Int32).toInt = 1 := by decide
  have parsed := listed_parsed nonnegative fits positive
  refine ⟨listedPartitions start count,parsed,listed_values nonnegative fits,?_,?_⟩
  · rw [listed_assignment]
    exact partitionsForEntry_ok (Int32.le_iff_toInt_le.mpr (by rw [one]; exact positive))
  · intro tenant rec configMap written ok
    obtain ⟨controller,-,ok⟩ := bind_success _ _ _ ok
    obtain rfl := Except.ok.inj ok
    refine ⟨partitionListString start count,Finmap.lookup_insert _,?_,?_⟩
    · have given : text (partitionListString start count) ≠ [] := by
        intro empty
        rw [empty] at parsed
        cases parsed
      unfold manualPartitionsFromEnv
      rw [if_pos given,parsed]
      rfl
    · intro reloader loads listed
      rw [reloads_unchanged positive reloader loads listed]
      rfl

/-- The last two partitions an `int32` can name. -/
theorem partition_list_agrees_at_limit :
    parsePartitionList (text (partitionListString 2147483646 2)) = .ok [2147483646,2147483647] := by
  obtain ⟨listed,parsed,values,-⟩ := partition_list_agrees 2147483646 2 (by decide) (by decide) (by decide)
  have same : listed = [2147483646,2147483647] :=
    List.map_injective_iff.mpr (fun _ _ => Int32.toInt_inj.mp) (values.trans (by decide))
  rw [parsed,same]

end ControlPlane.Isolation
