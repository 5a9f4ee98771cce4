import ControlPlane.Ingestion.Kafka.ReservationLayout

/-! The layout of a reservation table in terms of the configuration: who holds an explicit
range and where it starts follow from the sums of the reserved counts, whatever order the
map's entries are listed in. -/
namespace ControlPlane.Ingestion.Kafka
open Go Allocation

def atLeastOne (count : Int32) : Nat := (max 1 count.toInt).toNat

section
variable (reserved : TenantPartitionConfig)

def reservedSum : Nat := (reserved.entries.map fun entry => atLeastOne entry.2).sum

/-- What the tenants before this one, in the order of their ids, have reserved. -/
def reservedBelow (tenantID : Bytes) : Nat :=
  ((reserved.entries.filter fun entry => entry.1 < tenantID).map fun entry => atLeastOne entry.2).sum

theorem sortStrings_sorted (strings : List Bytes) : (sortStrings strings).Pairwise (· ≤ ·) :=
  List.pairwise_insertionSort (· ≤ ·) strings

theorem sortStrings_perm (strings : List Bytes) : (sortStrings strings).Perm strings :=
  List.perm_insertionSort (· ≤ ·) strings

theorem sortStrings_eq {left right : List Bytes} (same : left.Perm right) : sortStrings left = sortStrings right := by
  refine List.Perm.eq_of_pairwise ?_ (sortStrings_sorted left) (sortStrings_sorted right)
    ((sortStrings_perm left).trans (same.trans (sortStrings_perm right).symm))
  intro one other _ _ below above
  exact Std.le_antisymm below above

theorem sorted_increasing : (sortStrings reserved.tenantIDs).Pairwise (· < ·) := by
  have distinct : (sortStrings reserved.tenantIDs).Nodup := (sortStrings_perm _).nodup_iff.mpr reserved.distinct
  refine ((sortStrings_sorted _).and (List.nodup_iff_pairwise_ne.mp distinct)).imp ?_
  rintro one other ⟨below,different⟩
  exact Std.lt_of_le_of_ne below different

theorem get_of_mem {entry : Bytes × Int32} (member : entry ∈ reserved.entries) : reserved.get entry.1 = entry.2 := by
  unfold TenantPartitionConfig.get
  rw [lookup_of_mem reserved.distinct member]
  rfl

theorem countOf_entry {entry : Bytes × Int32} (member : entry ∈ reserved.entries) :
    countOf reserved entry.1 = atLeastOne entry.2 := by
  unfold countOf atLeastOne
  rw [get_of_mem reserved member,← Int32.toNat_toInt]
  simp only [Int32.lt_iff_toInt_lt,one32]
  split
  · rw [one32]
    omega
  · omega

/-- The demand lists the entries in the order of their ids. -/
theorem demand_perm : (demand reserved).Perm (reserved.entries.map fun entry => (entry.1,atLeastOne entry.2)) := by
  unfold demand
  refine ((sortStrings_perm _).map _).trans (List.Perm.of_eq ?_)
  unfold TenantPartitionConfig.tenantIDs
  rw [List.map_map]
  refine List.map_congr_left ?_
  intro entry member
  exact congrArg (Prod.mk entry.1) (countOf_entry reserved member)

theorem demand_increasing : (demand reserved).Pairwise (fun earlier later => earlier.1 < later.1) :=
  List.pairwise_map.mpr (sorted_increasing reserved)

theorem demand_keys : (demand reserved).map (·.1) = sortStrings reserved.tenantIDs := by
  unfold demand
  rw [List.map_map]
  exact List.map_id _

theorem total_demand : total (demand reserved) = reservedSum reserved := by
  have values := ((demand_perm reserved).map (·.2)).sum_nat
  rw [List.map_map] at values
  exact values

theorem total_before {before after : List (Bytes × Nat)} {tenantID : Bytes} {count : Nat}
    (split : demand reserved = before ++ (tenantID,count)::after) : total before = reservedBelow reserved tenantID := by
  have order := demand_increasing reserved
  rw [split,List.pairwise_append,List.pairwise_cons] at order
  obtain ⟨-,⟨above,-⟩,below⟩ := order
  have kept : (demand reserved).filter (fun entry => entry.1 < tenantID) = before := by
    rw [split,List.filter_append,List.filter_cons_of_neg (by simp [List.lt_irrefl]),List.filter_eq_self.mpr,
      List.filter_eq_nil_iff.mpr,List.append_nil]
    · intro entry later
      simp [List.not_lt.mpr (Std.le_of_lt (above entry later))]
    · intro entry earlier
      simpa using below entry earlier _ List.mem_cons_self
  have values := (((demand_perm reserved).filter fun entry => entry.1 < tenantID).map (·.2)).sum_nat
  rw [kept,List.filter_map,List.map_map] at values
  exact values

theorem reserved_split {tenantID : Bytes} (member : tenantID ∈ reserved.tenantIDs) :
    ∃ before after, demand reserved = before ++ (tenantID,countOf reserved tenantID)::after := by
  have listed : (tenantID,countOf reserved tenantID) ∈ demand reserved :=
    List.mem_map_of_mem ((sortStrings_perm _).mem_iff.mpr member)
  exact List.append_of_mem listed

theorem noOverflow_of_sum (fits : reservedSum reserved < 2^31) (capacity : Nat) :
    NoOverflow capacity 0 (demand reserved) := by
  intro before tenantID count after split _
  have whole := total_demand reserved
  rw [split] at whole
  unfold total at whole ⊢
  rw [List.map_append,List.sum_append,List.map_cons,List.sum_cons] at whole
  omega

theorem layout_distinct (capacity : Nat) : ((layout capacity 0 (demand reserved)).map (·.1)).Nodup := by
  refine (layout_keys capacity 0 (demand reserved)).nodup ?_
  rw [demand_keys]
  exact (sortStrings_perm _).nodup_iff.mpr reserved.distinct

/-- Which tenants are laid out. -/
theorem laid_out_iff (capacity : Nat) (tenantID : Bytes) :
    (∃ block, (tenantID,block) ∈ layout capacity 0 (demand reserved)) ↔
      tenantID ∈ reserved.tenantIDs ∧ reservedBelow reserved tenantID < capacity := by
  simp only [mem_layout,Nat.zero_add]
  constructor
  · rintro ⟨_,before,count,after,split,room,-⟩
    rw [total_before reserved split] at room
    refine ⟨(sortStrings_perm _).mem_iff.mp ?_,room⟩
    rw [← demand_keys,split,List.map_append,List.map_cons]
    exact List.mem_append_right _ List.mem_cons_self
  · rintro ⟨member,room⟩
    obtain ⟨before,after,split⟩ := reserved_split reserved member
    rw [← total_before reserved split] at room
    exact ⟨_,before,_,after,split,room,rfl⟩

end

section
variable (reserved : TenantPartitionConfig) (defaultSize : Int32) (total : Nat)

/-- The tenants with an explicit range, where the counts do not overflow. -/
theorem explicit_iff (positive : 1 ≤ total) (fits : total < 2^31) (sum : reservedSum reserved < 2^31)
    (tenantID : Bytes) :
    ((newReservationTable reserved defaultSize (Int32.ofNat total)).explicit.lookup tenantID).isSome = true ↔
      tenantID ∈ reserved.tenantIDs ∧ reservedBelow reserved tenantID < capacityOf total := by
  obtain ⟨ranges,-,-⟩ :=
    table_layout reserved defaultSize total positive fits (noOverflow_of_sum reserved sum (capacityOf total))
  rw [ranges,← laid_out_iff,Option.isSome_iff_exists]
  constructor
  · rintro ⟨rng,found⟩
    obtain ⟨entry,member,same⟩ := List.mem_map.mp (mem_of_lookup found)
    obtain ⟨rfl,-⟩ := Prod.mk.inj same
    exact ⟨entry.2,member⟩
  · rintro ⟨block,member⟩
    refine ⟨rangeOf block,lookup_of_mem ?_ (List.mem_map.mpr ⟨_,member,rfl⟩)⟩
    rw [List.map_map]
    exact layout_distinct reserved (capacityOf total)

theorem poolSize_value (positive : 1 ≤ total) (fits : total < 2^31) (sum : reservedSum reserved < 2^31) :
    (newReservationTable reserved defaultSize (Int32.ofNat total)).poolSize =
      Int32.ofNat (total - min (capacityOf total) (reservedSum reserved)) := by
  obtain ⟨-,-,size⟩ :=
    table_layout reserved defaultSize total positive fits (noOverflow_of_sum reserved sum (capacityOf total))
  rw [size,total_demand]

end

section
variable (reserved : TenantPartitionConfig)

def countSum (tenants : List Bytes) : Nat := (tenants.map (countOf reserved)).sum

/-- Where the cursor stands after a tenant: at the end of its count, or at the capacity. -/
theorem cursor_after (capacity cursor : Int32) (tenantID : Bytes) :
    cursor + grantedSize reserved capacity cursor tenantID =
      if cursor + Int32.ofNat (countOf reserved tenantID) > capacity then capacity
      else cursor + Int32.ofNat (countOf reserved tenantID) := by
  unfold grantedSize
  rw [countOf_ofNat]
  generalize (if reserved.get tenantID < 1 then (1 : Int32) else reserved.get tenantID) = size
  simp only
  split
  · grind
  · rfl

theorem carve_full (capacity cursor : Int32) (tenants : List Bytes) (full : cursor ≥ capacity) :
    (carve reserved capacity cursor tenants).explicit = [] ∧ (carve reserved capacity cursor tenants).cursor =
      cursor := by
  cases tenants with
  | nil => exact ⟨rfl,rfl⟩
  | cons tenantID rest =>
    rw [carve,if_pos full]
    exact ⟨rfl,rfl⟩

/-- The cursor is below the capacity at each of these tenants, which are served in full, and
ends as `last` says. -/
def Climbs (capacity : Int32) (last : Int32 → Prop) : Int32 → List Bytes → Prop
  | cursor,[] => last cursor
  | cursor,tenantID::rest =>
    cursor < capacity ∧ Climbs capacity last (cursor + Int32.ofNat (countOf reserved tenantID)) rest

theorem sum_nil (cursor : Int32) : cursor + Int32.ofNat (countSum reserved []) = cursor := Int32.add_zero cursor

theorem sum_cons (cursor : Int32) (tenantID : Bytes) (rest : List Bytes) :
    cursor + Int32.ofNat (countSum reserved (tenantID::rest)) =
      cursor + Int32.ofNat (countOf reserved tenantID) + Int32.ofNat (countSum reserved rest) := by
  unfold countSum
  rw [List.map_cons,List.sum_cons,Int32.ofNat_add,Int32.add_assoc]

theorem climbs_iff (capacity : Int32) (last : Int32 → Prop) (cursor : Int32) (tenants : List Bytes) :
    Climbs reserved capacity last cursor tenants ↔
      (∀ before tenantID after, tenants = before ++ tenantID::after →
        cursor + Int32.ofNat (countSum reserved before) < capacity) ∧
      last (cursor + Int32.ofNat (countSum reserved tenants)) := by
  induction tenants generalizing cursor with
  | nil =>
    rw [Climbs,sum_nil]
    exact ⟨fun final => ⟨by simp,final⟩,And.right⟩
  | cons head rest ih =>
    rw [Climbs,ih,sum_cons]
    constructor
    · rintro ⟨room,further,final⟩
      refine ⟨?_,final⟩
      intro before tenantID after split
      cases before with
      | nil =>
        rw [sum_nil]
        exact room
      | cons other before =>
        obtain ⟨rfl,tail⟩ := List.cons.inj split
        rw [sum_cons]
        exact further before tenantID after tail
    · rintro ⟨all,final⟩
      refine ⟨sum_nil reserved cursor ▸ all [] head rest rfl,?_,final⟩
      intro before tenantID after split
      rw [← sum_cons]
      exact all (head::before) tenantID after (by rw [split,List.cons_append])

theorem Climbs.start {capacity cursor : Int32} {last : Int32 → Prop} {tenants : List Bytes}
    (climbs : Climbs reserved capacity last cursor tenants) (weaker : ∀ value, value < capacity → last value) :
    last cursor := by
  cases tenants with
  | nil => exact climbs
  | cons tenantID rest => exact weaker cursor climbs.1

/-- Overflows included: a tenant gets a range exactly when the cursor has been below the
capacity at it and at every tenant before it. -/
theorem mem_carve (capacity cursor : Int32) (tenants : List Bytes) (tenantID : Bytes) (rng : PartitionRange) :
    (tenantID,rng) ∈ (carve reserved capacity cursor tenants).explicit ↔
      ∃ before after, tenants = before ++ tenantID::after ∧ Climbs reserved capacity (· < capacity) cursor before ∧
        rng = ⟨cursor + Int32.ofNat (countSum reserved before),
          grantedSize reserved capacity (cursor + Int32.ofNat (countSum reserved before)) tenantID⟩ := by
  induction tenants generalizing cursor with
  | nil => simp [carve]
  | cons head rest ih =>
    by_cases full : cursor ≥ capacity
    · rw [(carve_full reserved capacity cursor _ full).1]
      constructor
      · intro member
        exact absurd member List.not_mem_nil
      · rintro ⟨before,after,-,climbs,-⟩
        exact absurd full (Int32.not_le.mpr (climbs.start _ fun _ => id))
    · rw [carve,if_neg full]
      simp only [List.mem_cons]
      rw [ih,cursor_after]
      constructor
      · rintro (first | ⟨before,after,split,climbs,shape⟩)
        · obtain ⟨rfl,rfl⟩ := Prod.mk.inj first
          exact ⟨[],rest,rfl,Int32.not_le.mp full,by rw [sum_nil]⟩
        · by_cases clipped : cursor + Int32.ofNat (countOf reserved head) > capacity
          · rw [if_pos clipped] at climbs
            exact absurd (climbs.start _ fun _ => id) Int32.lt_irrefl
          · rw [if_neg clipped] at climbs shape
            exact ⟨head::before,after,by rw [split,List.cons_append],⟨Int32.not_le.mp full,climbs⟩,
              by rw [sum_cons,shape]⟩
      · rintro ⟨before,after,split,climbs,shape⟩
        cases before with
        | nil =>
          obtain ⟨rfl,-⟩ := List.cons.inj split
          rw [sum_nil] at shape
          exact Or.inl (by rw [shape])
        | cons other before =>
          obtain ⟨rfl,tail⟩ := List.cons.inj split
          rw [if_neg (Int32.not_lt.mpr (Int32.le_of_lt (climbs.2.start _ fun _ => id)))]
          exact Or.inr ⟨before,after,tail,climbs.2,by rw [shape,sum_cons]⟩

/-- The cursor ends behind the last count, or at the capacity. -/
theorem carve_cursor (capacity cursor : Int32) (start : cursor ≤ capacity) (tenants : List Bytes) :
    (Climbs reserved capacity (· ≤ capacity) cursor tenants →
      (carve reserved capacity cursor tenants).cursor = cursor + Int32.ofNat (countSum reserved tenants)) ∧
    (¬Climbs reserved capacity (· ≤ capacity) cursor tenants →
      (carve reserved capacity cursor tenants).cursor = capacity) := by
  induction tenants generalizing cursor with
  | nil =>
    rw [sum_nil]
    exact ⟨fun _ => rfl,fun stuck => absurd start stuck⟩
  | cons head rest ih =>
    rw [Climbs,sum_cons]
    by_cases full : cursor ≥ capacity
    · rw [(carve_full reserved capacity cursor _ full).2]
      exact ⟨fun climbs => absurd full (Int32.not_le.mpr climbs.1),fun _ => Int32.le_antisymm start full⟩
    · rw [carve,if_neg full]
      simp only [cursor_after]
      by_cases clipped : cursor + Int32.ofNat (countOf reserved head) > capacity
      · rw [if_pos clipped,(carve_full reserved capacity capacity rest (Int32.le_refl _)).2]
        refine ⟨?_,fun _ => rfl⟩
        rintro ⟨-,climbs⟩
        exact absurd (climbs.start _ fun _ => Int32.le_of_lt) (Int32.not_le.mpr clipped)
      · rw [if_neg clipped]
        obtain ⟨behind,stopped⟩ := ih _ (Int32.not_lt.mp clipped)
        exact ⟨fun climbs => behind climbs.2,fun stuck => stopped fun climbs => stuck ⟨Int32.not_le.mp full,climbs⟩⟩

end

section
variable (reserved : TenantPartitionConfig)

theorem countSum_before {before after : List Bytes} {tenantID : Bytes}
    (split : sortStrings reserved.tenantIDs = before ++ tenantID::after) :
    countSum reserved before = reservedBelow reserved tenantID := by
  have items : demand reserved = (before.map fun other => (other,countOf reserved other)) ++
      (tenantID,countOf reserved tenantID)::(after.map fun other => (other,countOf reserved other)) := by
    unfold demand
    rw [split,List.map_append,List.map_cons]
  rw [← total_before reserved items]
  unfold total countSum
  rw [List.map_map]
  rfl

theorem countSum_sorted : countSum reserved (sortStrings reserved.tenantIDs) = reservedSum reserved := by
  rw [← total_demand]
  unfold total countSum demand
  rw [List.map_map]
  rfl

/-- The tenant is reserved, and neither at it nor at any tenant before it has the `int32`
sum of the counts reached the capacity. -/
def Carved (capacity : Int32) (tenantID : Bytes) : Prop :=
  tenantID ∈ reserved.tenantIDs ∧ ∀ other ∈ reserved.tenantIDs, other ≤ tenantID →
    Int32.ofNat (reservedBelow reserved other) < capacity

instance (capacity : Int32) (tenantID : Bytes) : Decidable (Carved reserved capacity tenantID) :=
  inferInstanceAs (Decidable (_ ∧ _))

/-- Where the explicit ranges end and the pool begins. -/
def carvedEnd (capacity : Int32) : Int32 :=
  if (∀ tenantID ∈ reserved.tenantIDs, Int32.ofNat (reservedBelow reserved tenantID) < capacity) ∧
      Int32.ofNat (reservedSum reserved) ≤ capacity then Int32.ofNat (reservedSum reserved)
  else capacity

theorem climbs_before {before after : List Bytes} {tenantID : Bytes} (capacity : Int32)
    (split : sortStrings reserved.tenantIDs = before ++ tenantID::after) :
    Climbs reserved capacity (· < capacity) 0 before ↔ ∀ other ∈ reserved.tenantIDs, other ≤ tenantID →
      Int32.ofNat (reservedBelow reserved other) < capacity := by
  have order := sorted_increasing reserved
  rw [split,List.pairwise_append,List.pairwise_cons] at order
  obtain ⟨-,⟨above,-⟩,below⟩ := order
  simp only [climbs_iff,Int32.zero_add,countSum_before reserved split]
  constructor
  · rintro ⟨earlier,here⟩ other member bound
    rw [← (sortStrings_perm _).mem_iff,split,List.mem_append,List.mem_cons] at member
    rcases member with first | rfl | second
    · obtain ⟨initial,later,cut⟩ := List.append_of_mem first
      have sum : countSum reserved initial = reservedBelow reserved other :=
        countSum_before reserved (by rw [split,cut,List.append_assoc,List.cons_append])
      rw [← sum]
      exact earlier initial other later cut
    · exact here
    · exact absurd bound (List.not_le.mpr (above other second))
  · intro all
    have listed : ∀ other, other ∈ before ++ tenantID::after → other ∈ reserved.tenantIDs := by
      intro other member
      rw [← split] at member
      exact (sortStrings_perm _).mem_iff.mp member
    refine ⟨?_,all tenantID (listed _ (List.mem_append_right _ List.mem_cons_self)) (List.le_refl _)⟩
    intro initial other later cut
    have sum : countSum reserved initial = reservedBelow reserved other :=
      countSum_before reserved (by rw [split,cut,List.append_assoc,List.cons_append])
    rw [sum]
    have member : other ∈ before := by
      rw [cut]
      exact List.mem_append_right _ List.mem_cons_self
    exact all other (listed other (List.mem_append_left _ member))
      (Std.le_of_lt (below other member tenantID List.mem_cons_self))

theorem mem_carving (totalPartitions : Int32) (tenantID : Bytes) (rng : PartitionRange) :
    (tenantID,rng) ∈ (carving reserved totalPartitions).explicit ↔
      Carved reserved (explicitCapacity totalPartitions) tenantID ∧
        rng = ⟨Int32.ofNat (reservedBelow reserved tenantID),grantedSize reserved (explicitCapacity totalPartitions)
          (Int32.ofNat (reservedBelow reserved tenantID)) tenantID⟩ := by
  unfold carving
  rw [mem_carve]
  simp only [Int32.zero_add]
  constructor
  · rintro ⟨before,after,split,climbs,shape⟩
    rw [countSum_before reserved split] at shape
    refine ⟨⟨(sortStrings_perm _).mem_iff.mp ?_,(climbs_before reserved _ split).mp climbs⟩,shape⟩
    rw [split]
    exact List.mem_append_right _ List.mem_cons_self
  · rintro ⟨⟨member,below⟩,shape⟩
    obtain ⟨before,after,split⟩ := List.append_of_mem ((sortStrings_perm _).mem_iff.mpr member)
    rw [← countSum_before reserved split] at shape
    exact ⟨before,after,split,(climbs_before reserved _ split).mpr below,shape⟩

theorem carving_cursor (totalPartitions : Int32) (positive : 1 ≤ totalPartitions.toInt) :
    (carving reserved totalPartitions).cursor = carvedEnd reserved (explicitCapacity totalPartitions) := by
  have start : 0 ≤ explicitCapacity totalPartitions :=
    Int32.le_iff_toInt_le.mpr (explicitCapacity_positive totalPartitions positive).le
  obtain ⟨behind,stopped⟩ := carve_cursor reserved _ 0 start (sortStrings reserved.tenantIDs)
  rw [climbs_iff,countSum_sorted,Int32.zero_add] at behind stopped
  have same : (∀ before tenantID after, sortStrings reserved.tenantIDs = before ++ tenantID::after →
      0 + Int32.ofNat (countSum reserved before) < explicitCapacity totalPartitions) ↔
      ∀ tenantID ∈ reserved.tenantIDs, Int32.ofNat (reservedBelow reserved tenantID) < explicitCapacity
        totalPartitions := by
    constructor
    · intro all tenantID member
      obtain ⟨before,after,split⟩ := List.append_of_mem ((sortStrings_perm _).mem_iff.mpr member)
      rw [← countSum_before reserved split,← Int32.zero_add (Int32.ofNat _)]
      exact all before tenantID after split
    · intro all before tenantID after split
      rw [Int32.zero_add,countSum_before reserved split]
      refine all tenantID ((sortStrings_perm _).mem_iff.mp ?_)
      rw [split]
      exact List.mem_append_right _ List.mem_cons_self
  rw [same] at behind stopped
  unfold carvedEnd
  split
  · rename_i climbs
    exact behind climbs
  · rename_i stuck
    exact stopped stuck

theorem carve_keys (capacity cursor : Int32) (tenants : List Bytes) :
    ((carve reserved capacity cursor tenants).explicit.map (·.1)).Sublist tenants := by
  induction tenants generalizing cursor with
  | nil => exact .slnil
  | cons tenantID rest ih =>
    by_cases full : cursor ≥ capacity
    · rw [(carve_full reserved capacity cursor _ full).1]
      exact List.nil_sublist _
    · rw [carve,if_neg full]
      exact (ih _).cons_cons tenantID

theorem lookup_explicit (defaultSize totalPartitions : Int32) (positive : 1 ≤ totalPartitions.toInt) (tenantID : Bytes)
    (rng : PartitionRange) :
    (newReservationTable reserved defaultSize totalPartitions).explicit.lookup tenantID = some rng ↔
      Carved reserved (explicitCapacity totalPartitions) tenantID ∧
        rng = ⟨Int32.ofNat (reservedBelow reserved tenantID),grantedSize reserved (explicitCapacity totalPartitions)
          (Int32.ofNat (reservedBelow reserved tenantID)) tenantID⟩ := by
  have distinct : ((carving reserved totalPartitions).explicit.map (·.1)).Nodup :=
    (carve_keys reserved _ 0 _).nodup ((sortStrings_perm _).nodup_iff.mpr reserved.distinct)
  rw [newReservationTable_eq reserved defaultSize totalPartitions positive,← mem_carving]
  exact ⟨mem_of_lookup,lookup_of_mem distinct⟩

end

theorem get_perm {left right : TenantPartitionConfig} (same : left.entries.Perm right.entries) :
    left.get = right.get := by
  funext tenantID
  unfold TenantPartitionConfig.get
  cases found : left.entries.lookup tenantID with
  | some count => rw [lookup_of_mem right.distinct (same.mem_iff.mp (mem_of_lookup found))]
  | none =>
    cases other : right.entries.lookup tenantID with
    | none => rfl
    | some count =>
      rw [lookup_of_mem left.distinct (same.mem_iff.mpr (mem_of_lookup other))] at found
      contradiction

theorem carve_congr {left right : TenantPartitionConfig} (same : left.get = right.get) (capacity cursor : Int32)
    (tenants : List Bytes) : carve left capacity cursor tenants = carve right capacity cursor tenants := by
  induction tenants generalizing cursor with
  | nil => rfl
  | cons tenantID rest ih =>
    have size : grantedSize left capacity cursor tenantID = grantedSize right capacity cursor tenantID := by
      unfold grantedSize
      rw [same]
    rw [carve,carve]
    simp only [size,ih]

/-- Equal maps give equal tables. -/
theorem newReservationTable_perm {left right : TenantPartitionConfig} (same : left.entries.Perm right.entries)
    (defaultSize totalPartitions : Int32) :
    newReservationTable left defaultSize totalPartitions = newReservationTable right defaultSize totalPartitions := by
  unfold newReservationTable
  rw [show sortStrings left.tenantIDs = sortStrings right.tenantIDs from sortStrings_eq (same.map _)]
  simp only [carve_congr (get_perm same)]

end ControlPlane.Ingestion.Kafka
