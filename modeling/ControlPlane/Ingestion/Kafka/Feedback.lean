import ControlPlane.Ingestion.Kafka.ReservedCounts

/-! What becomes of a reservation table when the sizes it has granted come back as reserved
counts. A granted size is never clipped a second time, and the tenants that were dropped come
after the point where the capacity was used up, whatever they ask for. -/
namespace ControlPlane.Ingestion.Kafka
open Go Allocation

/-- The counts of a mapping that was published from a table: the granted size for every tenant with
an explicit range, and any count for the tenants that were dropped. -/
structure Feedback (table : ReservationTable) (published : TenantPartitionConfig) : Prop where
  tenants : ∀ tenantID, tenantID ∈ published.tenantIDs ↔
    (table.explicit.lookup tenantID).isSome = true ∨ tenantID ∈ table.droppedTenants
  granted : ∀ tenantID rng, table.explicit.lookup tenantID = some rng → published.get tenantID = rng.size

section
variable (reserved published : TenantPartitionConfig) (capacity cursor : Int32)

/-- Every tenant is served or dropped, and those that are dropped are the last ones. -/
theorem carve_tenants (tenants : List Bytes) : (carve reserved capacity cursor tenants).explicit.map (·.1) ++
    (carve reserved capacity cursor tenants).droppedTenants = tenants := by
  induction tenants generalizing cursor with
  | nil => rfl
  | cons tenantID rest ih =>
    by_cases full : cursor ≥ capacity
    · rw [carve,if_pos full]
      rfl
    · rw [carve,if_neg full]
      exact congrArg (List.cons tenantID) (ih _)

/-- A granted size is granted again at the same cursor. -/
theorem grantedSize_again (tenantID : Bytes) (positive : 0 < capacity.toInt) (room : ¬cursor ≥ capacity)
    (same : published.get tenantID = grantedSize reserved capacity cursor tenantID) :
    grantedSize published capacity cursor tenantID = grantedSize reserved capacity cursor tenantID := by
  rw [ge_iff_le,Int32.le_iff_toInt_le,not_le] at room
  obtain ⟨large,within⟩ := grantedSize_positive reserved capacity cursor tenantID positive room
  have counted : ¬published.get tenantID < 1 := by
    rw [same,Int32.lt_iff_toInt_lt,one32]
    omega
  have fits : ¬cursor + published.get tenantID > capacity := by
    rw [same,gt_iff_lt,Int32.lt_iff_toInt_lt]
    omega
  rw [← same]
  unfold grantedSize
  dsimp only
  rw [if_neg counted,if_neg fits]

/-- The carving is repeated as long as the granted sizes are asked for. -/
theorem carve_again (tenants : List Bytes) (positive : 0 < capacity.toInt)
    (granted : ∀ entry ∈ (carve reserved capacity cursor tenants).explicit, published.get entry.1 = entry.2.size) :
    carve published capacity cursor tenants = carve reserved capacity cursor tenants := by
  induction tenants generalizing cursor with
  | nil => rfl
  | cons tenantID rest ih =>
    by_cases full : cursor ≥ capacity
    · rw [carve,carve,if_pos full,if_pos full]
    · rw [carve,if_neg full] at granted
      have first := granted _ List.mem_cons_self
      have size := grantedSize_again reserved published capacity cursor tenantID positive full first
      have later := ih _ fun entry member => granted entry (List.mem_cons_of_mem _ member)
      rw [carve,carve,if_neg full,if_neg full]
      dsimp only
      rw [size,later]

end

section
variable (reserved : TenantPartitionConfig) (defaultSize totalPartitions : Int32)

theorem carving_distinct : ((carving reserved totalPartitions).explicit.map (·.1)).Nodup :=
  (carve_keys reserved _ 0 _).nodup ((sortStrings_perm _).nodup_iff.mpr reserved.distinct)

theorem Feedback.same_tenants {published : TenantPartitionConfig} (positive : 1 ≤ totalPartitions.toInt)
    (feedback : Feedback (newReservationTable reserved defaultSize totalPartitions) published) :
    published.tenantIDs.Perm reserved.tenantIDs := by
  refine (List.perm_ext_iff_of_nodup published.distinct reserved.distinct).mpr ?_
  intro tenantID
  change tenantID ∈ published.tenantIDs ↔ tenantID ∈ reserved.tenantIDs
  have every : tenantID ∈ reserved.tenantIDs ↔ tenantID ∈ (carving reserved totalPartitions).explicit.map (·.1) ∨
      tenantID ∈ (carving reserved totalPartitions).droppedTenants := by
    unfold carving
    rw [← List.mem_append,carve_tenants]
    exact (sortStrings_perm _).mem_iff.symm
  rw [feedback.tenants,every,newReservationTable_eq reserved defaultSize totalPartitions positive]
  refine or_congr_left ?_
  rw [List.lookup_isSome_iff,List.mem_map]
  refine exists_congr fun entry => and_congr_right fun _ => ?_
  rw [beq_iff_eq,eq_comm]

end

/-- A reservation table is what its own granted sizes give again. -/
theorem granted_reservations_fixed (reserved published : TenantPartitionConfig) (defaultSize totalPartitions : Int32)
    (two : 2 ≤ totalPartitions.toInt)
    (feedback : Feedback (newReservationTable reserved defaultSize totalPartitions) published) :
    newReservationTable published defaultSize totalPartitions = newReservationTable reserved defaultSize
      totalPartitions := by
  have positive : 1 ≤ totalPartitions.toInt := by omega
  have capacity := explicitCapacity_positive totalPartitions positive
  have sorted := sortStrings_eq (feedback.same_tenants reserved defaultSize totalPartitions positive)
  have again : carving published totalPartitions = carving reserved totalPartitions := by
    unfold carving
    rw [sorted]
    refine carve_again reserved published _ 0 _ capacity ?_
    intro entry member
    apply feedback.granted
    rw [newReservationTable_eq reserved defaultSize totalPartitions positive]
    exact lookup_of_mem (carving_distinct reserved totalPartitions) member
  rw [newReservationTable_eq published defaultSize totalPartitions positive,
    newReservationTable_eq reserved defaultSize totalPartitions positive,again]

section sample

def oversubscribed : TenantPartitionConfig := ⟨[(text "acme",2),(text "tenant-b",4),(text "tenant-z",1)],by decide⟩

def returned : TenantPartitionConfig := ⟨[(text "acme",2),(text "tenant-b",1),(text "tenant-z",9)],by decide⟩

theorem oversubscribed_explicit : (newReservationTable oversubscribed 1 4).explicit =
    [(text "acme",⟨0,2⟩),(text "tenant-b",⟨2,1⟩)] := by decide

theorem oversubscribed_fixed : newReservationTable returned 1 4 = newReservationTable oversubscribed 1 4 ∧
    (newReservationTable oversubscribed 1 4).droppedTenants = [text "tenant-z"] := by
  have dropped : (newReservationTable oversubscribed 1 4).droppedTenants = [text "tenant-z"] := by decide
  refine ⟨granted_reservations_fixed oversubscribed returned 1 4 (by decide) ⟨?_,?_⟩,dropped⟩
  · intro tenantID
    have served : (List.lookup tenantID [(text "acme",(⟨0,2⟩ : PartitionRange)),(text "tenant-b",⟨2,1⟩)]).isSome =
      true ↔
        tenantID = text "acme" ∨ tenantID = text "tenant-b" := by
      rw [List.lookup_isSome_iff]
      simp only [List.mem_cons,List.not_mem_nil,or_false,exists_eq_or_imp,exists_eq_left,beq_iff_eq]
    rw [oversubscribed_explicit,dropped,served,List.mem_singleton,or_assoc]
    change tenantID ∈ [text "acme",text "tenant-b",text "tenant-z"] ↔ _
    rw [List.mem_cons,List.mem_cons,List.mem_singleton]
  · intro tenantID rng found
    have member := mem_of_lookup found
    rw [oversubscribed_explicit] at member
    rcases List.mem_cons.mp member with first | second
    · cases first
      decide
    · cases List.mem_singleton.mp second
      decide

end sample

end ControlPlane.Ingestion.Kafka
