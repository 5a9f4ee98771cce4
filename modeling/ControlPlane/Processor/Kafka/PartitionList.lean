import ControlPlane.Go.Strings
import ControlPlane.Processor.Kafka.Reload

/-! The partitions a processor is started with (`parsePartitionList` and the part of
`ConfigFromEnv` that reads `KAFKA_MANUAL_PARTITIONS`, in `internal/processor/kafka/consumer.go`).
An `int` has 64 bits; its conversion to `int32` keeps the low 32. -/
namespace ControlPlane.Processor.Kafka
open Go Digits

def comma : UInt8 := 44

-- The body of the loop over the fields.
def parsePartition (field : Bytes) : Except Error Int32 := do
  let parsed ← (atoi (trimSpace field)).mapError (.wrap "parse partition %q: %w" [.bytes field])
  if parsed < 0 then .error (.errorf "partition %d must not be negative" [.int parsed.toInt])
  else return parsed.toInt32

def parsePartitionList (value : Bytes) : Except Error (List Int32) := (split value comma).mapM parsePartition

/-- The manual partitions that `ConfigFromEnv` takes from the variable; unset, it leaves them as in
`LocalConfig`, where there are none. -/
def manualPartitionsFromEnv (manualPartitions : Bytes) : Except Error (List Int32) :=
  if manualPartitions ≠ [] then
    (parsePartitionList manualPartitions).mapError
      (.wrap "%w: parse KAFKA_MANUAL_PARTITIONS: %w" [.bytes (text "invalid kafka consumer config")])
  else .ok []

/-- A field that writes the number in decimal, with an optional sign and white space around it. -/
def Writes (field : Bytes) (number : Int) : Prop :=
  (splitSign (trimSpace field)).2 ≠ [] ∧ (∀ char ∈ (splitSign (trimSpace field)).2, IsDigit char) ∧
    signedValue (trimSpace field) = number

/-- The partitions are the non-negative numbers that the fields write, one for each field. -/
def AsWritten (value : Bytes) (partitions : List Int32) : Prop :=
  List.Forall₂ (fun field partition => 0 ≤ partition.toInt ∧ Writes field partition.toInt)
    (split value comma) partitions

theorem toInt32_ofInt (number : Int) (fits : FitsInt64 number) : (Int64.ofInt number).toInt32 = Int32.ofInt number := by
  rw [← Int32.toInt_inj,Int64.toInt_toInt32,ofInt64_value number fits,Int32.toInt_ofInt]

/-- A field is accepted if its number is a non-negative `int`; of the number the low 32 bits are kept. -/
theorem parsePartition_ok (field : Bytes) (partition : Int32) :
    parsePartition field = .ok partition ↔
      ∃ number, Writes field number ∧ 0 ≤ number ∧ number < 2^63 ∧ partition = Int32.ofInt number := by
  unfold parsePartition
  rw [bind_ok]
  simp only [mapError_ok]
  constructor
  · rintro ⟨parsed,read,checked⟩
    obtain ⟨nonempty,digits,fits,rfl⟩ := (atoi_ok _ _).mp read
    split_ifs at checked with negative
    cases checked
    rw [Int64.lt_iff_toInt_lt,ofInt64_value _ fits,Int64.toInt_zero] at negative
    exact ⟨_,⟨nonempty,digits,rfl⟩,by omega,fits.2,toInt32_ofInt _ fits⟩
  · rintro ⟨number,⟨nonempty,digits,rfl⟩,nonnegative,small,rfl⟩
    have fits : FitsInt64 (signedValue (trimSpace field)) := by
      unfold FitsInt64
      omega
    refine ⟨_,(atoi_ok _ _).mpr ⟨nonempty,digits,fits,rfl⟩,?_⟩
    rw [if_neg (by rw [Int64.lt_iff_toInt_lt,ofInt64_value _ fits,Int64.toInt_zero]; omega)]
    exact congrArg Except.ok (toInt32_ofInt _ fits)

theorem writes_digits {field : Bytes} (nonempty : field ≠ []) (digits : ∀ char ∈ field, IsDigit char) :
    Writes field (value field) := by
  unfold Writes
  rw [trimSpace_digits digits,splitSign_digits digits,signedValue_digits digits]
  exact ⟨nonempty,digits,rfl⟩

theorem parsePartition_digits {field : Bytes} (nonempty : field ≠ []) (digits : ∀ char ∈ field, IsDigit char)
    (small : value field < 2^31) : parsePartition field = .ok (Int32.ofInt (value field)) :=
  (parsePartition_ok _ _).mpr ⟨value field,writes_digits nonempty digits,by omega,by omega,rfl⟩

/-- A joined list of decimal numbers is read as the numbers. -/
theorem parsePartitionList_join {fields : List Bytes} (some : fields ≠ [])
    (decimal : ∀ field ∈ fields, field ≠ [] ∧ (∀ char ∈ field, IsDigit char) ∧ value field < 2^31) :
    parsePartitionList ([comma].intercalate fields) = .ok (fields.map fun field => Int32.ofInt (value field)) := by
  have separated : ∀ field ∈ fields, comma ∉ field := by
    intro field member listed
    exact absurd ((decimal field member).2.1 comma listed) (by decide)
  unfold parsePartitionList split
  rw [List.splitOn_intercalate comma separated some,mapM_ok,List.forall₂_map_right_iff,List.forall₂_same]
  intro field member
  obtain ⟨nonempty,digits,small⟩ := decimal field member
  exact parsePartition_digits nonempty digits small

section accepted

/-- An accepted field is taken as written unless its number needs more than 32 bits. -/
theorem parsePartition_exact_iff {field : Bytes} {partition : Int32} (accepted : parsePartition field = .ok partition) :
    (0 ≤ partition.toInt ∧ Writes field partition.toInt) ↔ ∀ number, Writes field number →
      number ≤ Int32.maxValue.toInt := by
  have limit : Int32.maxValue.toInt = 2^31 - 1 := by decide
  have range := fits_toInt32 partition
  unfold FitsInt32 at range
  obtain ⟨number,writes,nonnegative,-,rfl⟩ := (parsePartition_ok _ _).mp accepted
  constructor
  · rintro ⟨-,taken⟩ other written
    rw [← written.2.2,taken.2.2]
    omega
  · intro bounded
    have small := bounded number writes
    rw [Int32.toInt_ofInt_of_le (by omega) (by omega)]
    exact ⟨nonnegative,writes⟩

/-- An accepted list is taken as written exactly if no index in it is above the largest `int32`. -/
theorem parsePartitionList_exact_iff (value : Bytes) (partitions : List Int32)
    (accepted : parsePartitionList value = .ok partitions) :
    AsWritten value partitions ↔
      ∀ field ∈ split value comma, ∀ number, Writes field number → number ≤ Int32.maxValue.toInt := by
  have fields := (mapM_ok _ _ _).mp accepted
  unfold AsWritten
  clear accepted
  generalize split value comma = written at fields ⊢
  induction fields with
  | nil => simp
  | cons first rest ih =>
    rw [List.forall₂_cons,List.forall_mem_cons]
    exact and_congr (parsePartition_exact_iff first) ih

theorem parsePartitionList_exact_at_limit :
    parsePartitionList (text " 0 ,+2147483647") = .ok [0,2147483647] ∧ AsWritten (text " 0 ,+2147483647")
      [0,2147483647] := by
  have accepted : parsePartitionList (text " 0 ,+2147483647") = .ok [0,2147483647] := by rfl
  refine ⟨accepted,(parsePartitionList_exact_iff _ _ accepted).mpr ?_⟩
  have bounded : ∀ field ∈ split (text " 0 ,+2147483647") comma,
      signedValue (trimSpace field) ≤ Int32.maxValue.toInt := by
    decide
  intro field member number writes
  rw [← writes.2.2]
  exact bounded field member

/-- Indices above the limit are accepted and wrap around, to a negative one or to another partition. -/
theorem parsePartitionList_wraps :
    parsePartitionList (text "2147483648,4294967297") = .ok [-2147483648,1] ∧
      ¬AsWritten (text "2147483648,4294967297") [-2147483648,1] := by
  refine ⟨rfl,?_⟩
  rintro (_ | ⟨⟨nonnegative,-⟩,-⟩)
  exact absurd nonnegative (by decide)

end accepted

/-- A reload that finds the partitions already assigned makes no call. -/
theorem reload_unchanged (reloader : TenantPartitionReloader) (con : Assigned)
    {loaded : Except Error TenantPartitionMap} {entry : TenantPartitionMapEntry}
    (usable : validEntry reloader.tenantID loaded = some entry)
    (same : con.assignment = entry.partitions) : reloadOnce reloader con loaded = con := by
  obtain ⟨-,applied⟩ := reload_applied reloader con usable
  rw [applied,← same,applyAssignment_eq]
  simp [additions,removals]

end ControlPlane.Processor.Kafka
