import ControlPlane.Promquery.Client

/-! The integers that the operator decides on. A comparison with a sample that is not a number
is false, and the limit of `int64` becomes 2^63 as a constant of type `float64`, so these samples
reach the conversion although the integer type has no value for them. -/
namespace ControlPlane.Promquery
open Go Float64

/-- The result is an error, or the integer to which the one sample that answered was rounded. -/
def Faithful {α : Type} (toInt : α → Int) (scale : Float64 → Float64) (answer : Except Error Value)
    (result : Except Error α) : Prop :=
  (∃ err, result = .error err) ∨ ∃ sample number, answer = .ok (.vector [sample]) ∧ result = .ok number ∧
    (scale sample).round.exact = some (toInt number : ℚ)

section observed
variable {α : Type} {client : Client} {context : String} {query : Bytes} {scale : Float64 → Float64} {least most : Int}
  {convert : Float64 → α}

theorem queryScalar_ok {sample : Float64} : client.queryScalar query = .ok sample ↔ client.query query =
    .ok (.vector [sample]) := by
  unfold Client.queryScalar
  split <;> simp_all

theorem observed_of_sample {sample : Float64} (answered : client.query query = .ok (.vector [sample])) :
    client.observed context query scale least most convert =
      if (ofInt most).lt (scale sample).round || (scale sample).round.lt (ofInt least) then
        .error (.errorf (context ++ ": value %v out of range") [.float64 sample.bits])
      else .ok (convert (scale sample).round) := by
  unfold Client.observed
  rw [queryScalar_ok.mpr answered]
  rfl

/-- An answer without exactly one sample is an error. -/
theorem observed_error (unanswered : ∀ sample, client.query query ≠ .ok (.vector [sample])) :
    ∃ err, client.observed context query scale least most convert = .error err := by
  rcases result : client.observed context query scale least most convert with err | number
  · exact ⟨err,rfl⟩
  · obtain ⟨sample,scalar,-⟩ := bind_success _ _ _ result
    exact absurd (queryScalar_ok.mp ((wrapping_ok _ _ _).mp scalar)) (unanswered sample)

theorem faithful_ok {toInt : α → Int} {sample : Float64} {number : α} :
    Faithful toInt scale (.ok (.vector [sample])) (.ok number) ↔ (scale sample).round.exact =
      some (toInt number : ℚ) := by
  simp [Faithful]

section limits
variable {toInt : α → Int} {Fits : Int → Prop} {low high : ℚ} (lower : (ofInt least).exact = some low)
  (upper : (ofInt most).exact = some high)
  (converted : ∀ (x : Float64) (number : Int), x.exact = some (number : ℚ) → (toInt (convert x) = number ↔ Fits number))
include lower upper converted

/-- Between the limits a sample is no number, or an integer after rounding; that integer is kept
if the type has it. -/
theorem faithful_sample {sample : Float64} (answered : client.query query = .ok (.vector [sample])) :
    Faithful toInt scale (client.query query) (client.observed context query scale least most convert) ↔
      (scale sample).isNaN = false ∧
        ∀ number : Int, (scale sample).round.exact = some (number : ℚ) → low ≤ number → number ≤ high →
        Fits number := by
  have accepted := accepted_iff (scale sample).round lower upper
  rw [observed_of_sample answered,answered]
  by_cases outside : ((ofInt most).lt (scale sample).round || (scale sample).round.lt (ofInt least)) = true
  · rw [if_pos outside]
    rw [outside,Bool.true_eq_false,false_iff,not_or,isNaN_round,Bool.not_eq_true] at accepted
    exact ⟨fun _ => ⟨accepted.1,fun number given least most => absurd ⟨number,given,least,most⟩ accepted.2⟩,
      fun _ => .inl ⟨_,rfl⟩⟩
  · rw [if_neg outside,faithful_ok]
    rcases accepted.mp (Bool.not_eq_true _ ▸ outside) with nan | ⟨v,given,least,most⟩
    · constructor
      · intro given
        rw [isNaN_of_exact given] at nan
        cases nan
      · rintro ⟨number,-⟩
        rw [isNaN_round,number] at nan
        cases nan
    · obtain ⟨number,rfl⟩ := round_integer given
      have kept := converted _ number given
      have some : (scale sample).isNaN = false := isNaN_round.symm.trans (isNaN_of_exact given)
      rw [given,Option.some.injEq,Int.cast_inj,eq_comm,kept]
      constructor
      · intro fits
        refine ⟨some,?_⟩
        intro other same _ _
        rw [Option.some.injEq,Int.cast_inj] at same
        exact same ▸ fits
      · rintro ⟨-,inside⟩
        exact inside number rfl least most

theorem faithful_iff : Faithful toInt scale (client.query query)
    (client.observed context query scale least most convert) ↔
    ∀ sample, client.query query = .ok (.vector [sample]) → (scale sample).isNaN = false ∧
      ∀ number : Int, (scale sample).round.exact = some (number : ℚ) → low ≤ number → number ≤ high → Fits number := by
  by_cases answers : ∃ sample, client.query query = .ok (.vector [sample])
  · obtain ⟨sample,answered⟩ := answers
    rw [faithful_sample lower upper converted answered]
    simp [answered]
  · have unanswered : ∀ sample, client.query query ≠ .ok (.vector [sample]) :=
      fun sample answered => answers ⟨sample,answered⟩
    exact ⟨fun _ sample answered => absurd answered (unanswered sample),fun _ => .inl (observed_error unanswered)⟩

end limits

end observed

section integers
variable (platform : Platform)

theorem toInt64_iff (x : Float64) (number : Int) (given : x.exact = some (number : ℚ)) :
    (x.toInt64 platform).toInt = number ↔ FitsInt64 number := by
  constructor
  · rintro rfl
    exact fits_toInt64 _
  · exact toInt64_exact platform given

theorem toInt32_iff (x : Float64) (number : Int) (given : x.exact = some (number : ℚ)) :
    (x.toInt32 platform).toInt = number ↔ FitsInt32 number := by
  constructor
  · rintro rfl
    exact fits_toInt32 _
  · exact toInt32_exact platform given

theorem exact_thousand : (ofInt 1000).exact = some (1000 : ℚ) := by
  have bits : ofInt 1000 = ⟨0x408F400000000000⟩ := rfl
  rw [bits,exact_fields .positive (1000 * 2^43) (-43) (by decide +kernel) rfl (by decide +kernel) (by decide +kernel)]
  norm_num [Float.Model.UnpackedFloat.Sign.apply]

/-- Every integer between the limits of `int32` is one. -/
theorem within_limits32 {number : Int} (low : (-2^31 : ℚ) ≤ number) (high : number ≤ (2^31 - 1 : ℚ)) :
    FitsInt32 number := by
  have low' : -2^31 ≤ number := by exact_mod_cast low
  have high' : number ≤ 2^31 - 1 := by exact_mod_cast high
  exact ⟨low',by omega⟩

/-- Of the integers between the limits of `int64` only 2^63 is none, and only the sample 2^63 is rounded to it. -/
theorem within_limits64 {sample : Float64} :
    (∀ number : Int, sample.round.exact = some (number : ℚ) → (-2^63 : ℚ) ≤ number →
    number ≤ (2^63 : ℚ) → FitsInt64 number) ↔ sample.exact ≠ some (2^63 : ℚ) := by
  constructor
  · intro inside given
    have same := round_large given (by norm_num)
    have fits := inside (2^63) (by rw [same,given]; norm_num) (by norm_num) (by norm_num)
    exact absurd fits.2 (by decide)
  · intro other number given low high
    have low' : -2^63 ≤ number := by exact_mod_cast low
    have high' : number ≤ 2^63 := by exact_mod_cast high
    refine ⟨low',lt_of_le_of_ne high' ?_⟩
    rintro rfl
    rcases unrounded : sample.exact with _ | v
    · rw [round_special unrounded,unrounded] at given
      cases given
    · rw [exact_round unrounded,Option.some.injEq,Int.cast_inj] at given
      have same := round_large unrounded (roundHalfAway_large given (by decide))
      have rounded := exact_round unrounded
      rw [same,unrounded,given] at rounded
      exact other (unrounded.trans (rounded.trans (by norm_num)))

end integers

section observations
variable (platform : Platform) (client : Client) (label : TenantLabel)

theorem faithful_iff32 (context : String) (query : Bytes) (scale : Float64 → Float64) :
    Faithful Int32.toInt scale (client.query query)
      (client.observed context query scale Int32.minValue.toInt Int32.maxValue.toInt (toInt32 platform)) ↔
    ∀ sample, client.query query = .ok (.vector [sample]) → (scale sample).isNaN = false := by
  rw [faithful_iff exact_minInt32 exact_maxInt32 (toInt32_iff platform)]
  constructor
  · intro faithful sample answered
    exact (faithful sample answered).1
  · intro numbers sample answered
    exact ⟨numbers sample answered,fun number _ low high => within_limits32 low high⟩

/-- The lag is the rounded sample unless the sample is NaN or 2^63, and the others unless it is NaN. -/
theorem observations_faithful_iff :
    (Faithful Int64.toInt id (client.query (kafkaLagQuery label)) (client.observedKafkaLag platform label) ↔
      ∀ sample, client.query (kafkaLagQuery label) = .ok (.vector [sample]) →
        sample.isNaN = false ∧ sample.exact ≠ some (2^63 : ℚ)) ∧
    (Faithful Int32.toInt (·.mul (ofInt 1000)) (client.query (p99Query label)) (client.observedP99Ms platform label) ↔
      ∀ sample, client.query (p99Query label) = .ok (.vector [sample]) → sample.isNaN = false) ∧
    (Faithful Int32.toInt id (client.query (partitionCountQuery label)) (client.observedPartitionCount platform label) ↔
      ∀ sample, client.query (partitionCountQuery label) = .ok (.vector [sample]) → sample.isNaN = false) ∧
    (Faithful Int32.toInt id (client.query (partitionStartQuery label)) (client.observedPartitionStart platform label) ↔
      ∀ sample, client.query (partitionStartQuery label) = .ok (.vector [sample]) → sample.isNaN = false) := by
  refine ⟨?_,?_,?_,?_⟩
  · unfold Client.observedKafkaLag
    rw [faithful_iff exact_minInt64 exact_maxInt64 (toInt64_iff platform)]
    simp only [id,within_limits64]
  · unfold Client.observedP99Ms
    rw [show Float64.ofInt latencySecondsToMillis = ofInt 1000 from rfl,faithful_iff32]
    simp only [isNaN_mul exact_thousand (by norm_num)]
  · exact faithful_iff32 platform client _ _ _
  · exact faithful_iff32 platform client _ _ _

end observations

/-- A conversion out of range on amd64 gives the smallest integer. -/
def amd64 : Platform where
  int64 _ := Int64.minValue
  int32 _ := Int32.minValue

/-- A store with one series. -/
def constantly (sample : Float64) : Client where
  query _ := .ok (.vector [sample])

/-- The largest sample below 2^63 is a lag, and 0.2505 seconds are 251 milliseconds. -/
theorem boundary_samples_faithful :
    let label : TenantLabel := ⟨text "tenant",text "acme"⟩
    let lag := constantly ⟨0x43DFFFFFFFFFFFFF⟩
    let latency := constantly ⟨0x3FD0083126E978D5⟩
    Faithful Int64.toInt id (lag.query (kafkaLagQuery label)) (lag.observedKafkaLag amd64 label) ∧
      lag.observedKafkaLag amd64 label = .ok 9223372036854774784 ∧
      Faithful Int32.toInt (·.mul (ofInt 1000)) (latency.query (p99Query label)) (latency.observedP99Ms amd64 label) ∧
      latency.observedP99Ms amd64 label = .ok 251 := by
  intro label lag latency
  refine ⟨(observations_faithful_iff amd64 lag label).1.mpr ?_,by decide +kernel,
    (observations_faithful_iff amd64 latency label).2.1.mpr ?_,by decide +kernel⟩
  · intro sample answered
    cases answered
    exact ⟨by decide +kernel,by decide +kernel⟩
  · intro sample answered
    cases answered
    decide +kernel

theorem not_faithful {α : Type} {toInt : α → Int} {scale : Float64 → Float64} {sample : Float64} {number : α}
    {result : Except Error α} (ok : result = .ok number)
    (wrong : (scale sample).round.exact ≠ some (toInt number : ℚ)) :
    ¬Faithful toInt scale (.ok (.vector [sample])) result := by
  rw [ok,faithful_ok]
  exact wrong

/-- Without traffic the quantile is NaN, and the operator sees a latency of -2147483648 ms; a lag of
2^63 messages becomes a negative one. -/
theorem corrupted_observations :
    let label : TenantLabel := ⟨text "tenant",text "acme"⟩
    let nan := constantly ⟨0x7FF8000000000001⟩
    let limit := constantly ⟨0x43E0000000000000⟩
    nan.observedKafkaLag amd64 label = .ok (-9223372036854775808) ∧ nan.observedP99Ms amd64 label = .ok (-2147483648) ∧
      nan.observedPartitionCount amd64 label = .ok (-2147483648) ∧ nan.observedPartitionStart amd64 label =
        .ok (-2147483648) ∧
      limit.observedKafkaLag amd64 label = .ok (-9223372036854775808) ∧
      ¬Faithful Int64.toInt id (nan.query (kafkaLagQuery label)) (nan.observedKafkaLag amd64 label) ∧
      ¬Faithful Int32.toInt (·.mul (ofInt 1000)) (nan.query (p99Query label)) (nan.observedP99Ms amd64 label) ∧
      ¬Faithful Int32.toInt id (nan.query (partitionCountQuery label)) (nan.observedPartitionCount amd64 label) ∧
      ¬Faithful Int32.toInt id (nan.query (partitionStartQuery label)) (nan.observedPartitionStart amd64 label) ∧
      ¬Faithful Int64.toInt id (limit.query (kafkaLagQuery label)) (limit.observedKafkaLag amd64 label) := by
  intro label nan limit
  have lag : nan.observedKafkaLag amd64 label = .ok (-9223372036854775808) := by decide +kernel
  have p99 : nan.observedP99Ms amd64 label = .ok (-2147483648) := by decide +kernel
  have count : nan.observedPartitionCount amd64 label = .ok (-2147483648) := by decide +kernel
  have start : nan.observedPartitionStart amd64 label = .ok (-2147483648) := by decide +kernel
  have wrapped : limit.observedKafkaLag amd64 label = .ok (-9223372036854775808) := by decide +kernel
  exact ⟨lag,p99,count,start,wrapped,not_faithful lag (by decide +kernel),not_faithful p99 (by decide +kernel),
    not_faithful count (by decide +kernel),not_faithful start (by decide +kernel),not_faithful wrapped
      (by decide +kernel)⟩

end ControlPlane.Promquery
