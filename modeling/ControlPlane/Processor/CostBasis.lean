import ControlPlane.Processor.ExactAccounting
import Mathlib.Algebra.Order.Field.Rat
import Mathlib.Tactic.FieldSimp
import Mathlib.Tactic.Positivity

/-! The cost basis along whole runs: it stays within the prices traded since the position was
last flat or changed sign, and close to the exact weighted average. A trade whose products and
sums are representable is therefore never refused for its quotient. -/
namespace ControlPlane.Processor
open Go Ledger

section average

/-- The average of a long position is the exact one, rounded down three times. -/
theorem long_average (position cost quantity price : Int) (long : 0 ≤ position) (buying : 0 < quantity)
    (nonneg : 0 ≤ cost) (positive : 0 < price) :
    let average := exactDiv (exactMul position cost + exactMul quantity price) (position + quantity)
    0 ≤ average ∧ average * (position + quantity) ≤ position * cost + quantity * price ∧
      position * cost + quantity * price < (average + 1) * (position + quantity) + 2 * amountScale.toInt := by
  intro average
  have scale : 0 < amountScale.toInt := by decide
  have existing : exactMul position cost = position * cost / amountScale.toInt :=
    Int.tdiv_eq_ediv_of_nonneg (mul_nonneg long nonneg)
  have added : exactMul quantity price = quantity * price / amountScale.toInt :=
    Int.tdiv_eq_ediv_of_nonneg (mul_nonneg buying.le positive.le)
  have total : 0 ≤ exactMul position cost + exactMul quantity price :=
    add_nonneg (exactMul_nonneg _ _ long nonneg) (exactMul_nonneg _ _ buying.le positive.le)
  have quotient : average = (exactMul position cost + exactMul quantity price) * amountScale.toInt /
    (position + quantity) :=
    Int.tdiv_eq_ediv_of_nonneg (mul_nonneg total scale.le)
  have low := Int.mul_ediv_self_le (x := position * cost) (k := amountScale.toInt) (by omega)
  have low' := Int.mul_ediv_self_le (x := quantity * price) (k := amountScale.toInt) (by omega)
  have high := Int.lt_mul_ediv_self_add (x := position * cost) scale
  have high' := Int.lt_mul_ediv_self_add (x := quantity * price) scale
  have low'' := Int.mul_ediv_self_le
    (x := (exactMul position cost + exactMul quantity price) * amountScale.toInt) (k := position + quantity) (by omega)
  have high'' := Int.lt_mul_ediv_self_add (x := (exactMul position cost + exactMul quantity price) * amountScale.toInt)
    (k := position + quantity) (by omega)
  rw [← quotient] at low'' high''
  rw [← existing] at low high
  rw [← added] at low' high'
  refine ⟨exactDiv_nonneg _ _ total (by omega),?_,?_⟩
  · linarith
  · linarith

/-- The short side is the long side with both signs turned. -/
theorem average_bounds (position cost quantity price : Int) (direction : position = 0 ∨ (position > 0 ↔ quantity > 0))
    (nonzero : quantity ≠ 0) (nonneg : 0 ≤ cost) (positive : 0 < price) :
    let average := exactDiv (exactMul position cost + exactMul quantity price) (position + quantity)
    0 ≤ average ∧ average * |position + quantity| ≤ |position| * cost + |quantity| * price ∧
      |position| * cost + |quantity| * price < (average + 1) * |position + quantity| + 2 * amountScale.toInt := by
  rcases lt_or_ge 0 quantity with buying | selling
  · have long : 0 ≤ position := by omega
    rw [abs_of_nonneg long,abs_of_pos buying,abs_of_pos (by omega : 0 < position + quantity)]
    exact long_average position cost quantity price long buying nonneg positive
  · have short : position ≤ 0 := by omega
    have turned := long_average (-position) cost (-quantity) price (by omega) (by omega) nonneg positive
    rw [exactMul_neg,exactMul_neg,← neg_add,← neg_add,exactDiv_neg_neg] at turned
    rw [abs_of_nonpos short,abs_of_nonpos selling,abs_of_nonpos (by omega : position + quantity ≤ 0)]
    exact turned

theorem abs_sum {position quantity : Int} (direction : position = 0 ∨ (position > 0 ↔ quantity > 0))
    (nonzero : quantity ≠ 0) :
    |position + quantity| = |position| + |quantity| := by
  rcases lt_or_ge 0 quantity with buying | selling
  · rw [abs_of_nonneg (by omega : 0 ≤ position),abs_of_pos buying,abs_of_pos (by omega : 0 < position + quantity)]
  · rw [abs_of_nonpos (by omega : position ≤ 0),abs_of_nonpos selling,
      abs_of_nonpos (by omega : position + quantity ≤ 0)]
    ring

theorem average_le (position cost quantity price bound : Int) (direction : position = 0 ∨ (position > 0 ↔ quantity > 0))
    (nonzero : quantity ≠ 0) (nonneg : 0 ≤ cost) (positive : 0 < price) (old : position ≠ 0 → cost ≤ bound)
    (new : price ≤ bound) :
    exactDiv (exactMul position cost + exactMul quantity price) (position + quantity) ≤ bound := by
  obtain ⟨-,below,-⟩ := average_bounds position cost quantity price direction nonzero nonneg positive
  have size := abs_sum direction nonzero
  have held : |position| * cost ≤ |position| * bound := by
    by_cases flat : position = 0
    · simp [flat]
    · exact mul_le_mul_of_nonneg_left (old flat) (abs_nonneg position)
  have traded : |quantity| * price ≤ |quantity| * bound := mul_le_mul_of_nonneg_left new (abs_nonneg quantity)
  have some : 0 < |quantity| := abs_pos.mpr nonzero
  have room : 0 < |position + quantity| := by
    rw [size]
    linarith [abs_nonneg position]
  refine le_of_mul_le_mul_right ?_ room
  calc _ ≤ |position| * cost + |quantity| * price := below
    _ ≤ |position| * bound + |quantity| * bound := add_le_add held traded
    _ = bound * |position + quantity| := by rw [size]; ring

/-- The weighted average that `AverageCost` stands for. -/
def weightedAverage (position cost quantity price : Int) : ℚ :=
  (position * cost + quantity * price) / (position + quantity)

theorem weightedAverage_abs {position cost quantity price : Int}
    (direction : position = 0 ∨ (position > 0 ↔ quantity > 0))
    (nonzero : quantity ≠ 0) : weightedAverage position cost quantity price * (|position + quantity| : Int) =
      ((|position| * cost + |quantity| * price : Int) : ℚ) := by
  unfold weightedAverage
  rcases lt_or_ge 0 quantity with buying | selling
  · have some : ((position : ℚ) + quantity) ≠ 0 := by exact_mod_cast (by omega : position + quantity ≠ 0)
    rw [abs_of_nonneg (by omega : 0 ≤ position),abs_of_pos buying,abs_of_pos (by omega : 0 < position + quantity)]
    push_cast
    field_simp
  · have some : ((position : ℚ) + quantity) ≠ 0 := by exact_mod_cast (by omega : position + quantity ≠ 0)
    rw [abs_of_nonpos (by omega : position ≤ 0),abs_of_nonpos selling,
      abs_of_nonpos (by omega : position + quantity ≤ 0)]
    push_cast
    field_simp
    ring

/-- How close the stored average is to the exact one. -/
theorem average_close (position cost quantity price : Int) (direction : position = 0 ∨ (position > 0 ↔ quantity > 0))
    (nonzero : quantity ≠ 0) (nonneg : 0 ≤ cost) (positive : 0 < price) :
    let average : ℚ := exactDiv (exactMul position cost + exactMul quantity price) (position + quantity)
    average ≤ weightedAverage position cost quantity price ∧
      weightedAverage position cost quantity price < average + 1 + 2 * amountScale.toInt / |(position : ℚ) +
        quantity| := by
  dsimp only
  obtain ⟨-,below,above⟩ := average_bounds position cost quantity price direction nonzero nonneg positive
  have whole : weightedAverage position cost quantity price * _ = _ := weightedAverage_abs direction nonzero
  have size := abs_sum direction nonzero
  have some : 0 < |quantity| := abs_pos.mpr nonzero
  have room : (0 : ℚ) < (|position + quantity| : Int) := by
    rw [size]
    exact_mod_cast (by linarith [abs_nonneg position] : 0 < |position| + |quantity|)
  have shown : |(position : ℚ) + quantity| = (|position + quantity| : Int) := by push_cast; rfl
  rw [shown]
  constructor
  · refine le_of_mul_le_mul_right ?_ room
    rw [whole]
    exact_mod_cast below
  · refine lt_of_mul_lt_mul_right ?_ room.le
    rw [whole,add_mul,div_mul_cancel₀ _ room.ne']
    exact_mod_cast above

end average

section step
variable {state : ReconciledState} {quantity price : Int64}

/-- A trade of the size that ingestion accepts, bought or sold. -/
structure Tradable (quantity price : Int64) : Prop where
  some : quantity.toInt ≠ 0
  quantity : |quantity.toInt| ≤ maxAmount.toInt
  positive : 0 < price.toInt
  price : price.toInt ≤ maxAmount.toInt

/-- The products of the trade are representable and, where it extends the position, so are its sums. -/
def StaysInRange (state : ReconciledState) (quantity price : Int64) : Prop :=
  if sameDirection state.position quantity then
    ∃ existing added, mulAmount state.position state.averageCost = .ok existing ∧ mulAmount quantity price = .ok added ∧
      FitsInt64 (existing.toInt + added.toInt) ∧ FitsInt64 (state.position.toInt + quantity.toInt)
  else ∃ realized, mulAmount (closingQuantity state.position quantity)
    (pnlPerUnit state.position state.averageCost price) = .ok realized

theorem maxAmount_fits {x : Int} (low : 0 ≤ x) (high : x ≤ maxAmount.toInt) : FitsInt64 x := by
  have limit : maxAmount.toInt = 1000000000000000000 := by decide
  unfold FitsInt64
  omega

theorem Tradable.turned (tradable : Tradable quantity price) : FitsInt64 (-quantity.toInt) := by
  have limit : maxAmount.toInt = 1000000000000000000 := by decide
  have bounds := abs_le.mp tradable.quantity
  unfold FitsInt64
  omega

/-- Whether an opposing trade flips the position. The smallest `int64` has no magnitude, and
no trade exceeds it. -/
theorem flipQuantity_positive (position quantity : Int64) (turned : FitsInt64 (-quantity.toInt)) :
    magnitude quantity - closingQuantity position quantity > 0 ↔ |position.toInt| < |quantity.toInt| := by
  have size := magnitude_value quantity turned
  have bound : |quantity.toInt| < 2^63 := by
    have range := fits_toInt64 quantity
    unfold FitsInt64 at range turned
    exact abs_lt.mpr ⟨by omega,by omega⟩
  have nonneg := abs_nonneg quantity.toInt
  rw [gt_iff_lt,Int64.lt_iff_toInt_lt,Int64.toInt_zero]
  by_cases least : position = Int64.minValue
  · have wrapped : magnitude position = Int64.minValue := by
      rw [least]
      decide
    have lowest : Int64.minValue.toInt = -2^63 := Int64.toInt_minValue
    have closing : closingQuantity position quantity = Int64.minValue := by
      unfold closingQuantity
      rw [wrapped,if_pos (Int64.lt_iff_toInt_lt.mpr (by omega))]
    rw [closing,Int64.toInt_sub,size,lowest,least,lowest]
    have turn : (|quantity.toInt| - -2^63).bmod (2^64) = |quantity.toInt| - 2^63 := by
      rw [show |quantity.toInt| - -2^63 = |quantity.toInt| - 2^63 + (2^64 : Nat) by push_cast; ring,Int.add_bmod_right]
      exact Int.bmod_eq_of_le (by omega) (by omega)
    have least : |(-2^63 : Int)| = 2^63 := by decide
    rw [turn,least]
    omega
  · rw [flipQuantity_value position quantity (fits_neg64 least) turned]
    rcases min_choice |quantity.toInt| |position.toInt| with left | right
    · have order := min_eq_left_iff.mp left
      omega
    · omega

/-- The prices traded since the position was last flat or changed sign, after one more trade. -/
def pricesAfter (position next price : Int) (prices : List Int) : List Int :=
  if next = 0 then [] else if 0 < position * next then prices ++ [price] else [price]

/-- What holds of the cost basis, given those prices. -/
structure CostBasis (state : ReconciledState) (prices : List Int) : Prop where
  flat : state.position.toInt = 0 → state.averageCost.toInt = 0
  nonneg : 0 ≤ state.averageCost.toInt
  bounded : state.position.toInt ≠ 0 → ∃ price ∈ prices, state.averageCost.toInt ≤ price
  traded : ∀ price ∈ prices, 0 < price ∧ price ≤ maxAmount.toInt

variable {prices : List Int}

theorem CostBasis.priced (basis : CostBasis state prices) (tradable : Tradable quantity price) (next : Int) :
    ∀ listed ∈ pricesAfter state.position.toInt next price.toInt prices, 0 < listed ∧ listed ≤ maxAmount.toInt := by
  intro listed member
  unfold pricesAfter at member
  split at member
  · cases member
  · split at member
    · rcases List.mem_append.mp member with old | new
      · exact basis.traded listed old
      · rw [List.mem_singleton.mp new]
        exact ⟨tradable.positive,tradable.price⟩
    · rw [List.mem_singleton.mp member]
      exact ⟨tradable.positive,tradable.price⟩

/-- The average of an extended position is within the prices. -/
theorem CostBasis.average_le (basis : CostBasis state prices) (tradable : Tradable quantity price)
    (direction : state.position.toInt = 0 ∨ (state.position.toInt > 0 ↔ quantity.toInt > 0)) :
    ∃ listed ∈ pricesAfter state.position.toInt (state.position.toInt + quantity.toInt) price.toInt prices,
      exactDiv (exactMul state.position.toInt state.averageCost.toInt + exactMul quantity.toInt price.toInt)
        (state.position.toInt + quantity.toInt) ≤ listed := by
  have nonzero := tradable.some
  have within := Processor.average_le state.position.toInt state.averageCost.toInt quantity.toInt price.toInt
  unfold pricesAfter
  rw [if_neg (by omega)]
  by_cases flat : state.position.toInt = 0
  · rw [if_neg (by simp [flat])]
    exact ⟨price.toInt,List.mem_singleton_self _,within _ direction nonzero basis.nonneg tradable.positive
      (fun open_ => absurd flat open_) le_rfl⟩
  · obtain ⟨highest,member,below⟩ := basis.bounded flat
    have same : 0 < state.position.toInt * (state.position.toInt + quantity.toInt) := by
      rcases lt_or_gt_of_ne flat with short | long
      · exact mul_pos_of_neg_of_neg short (by omega)
      · exact mul_pos long (by omega)
    rw [if_pos same]
    rcases le_total price.toInt highest with lower | higher
    · exact ⟨highest,List.mem_append_left _ member,within _ direction nonzero basis.nonneg tradable.positive
        (fun _ => below) lower⟩
    · exact ⟨price.toInt,List.mem_append_right _ (List.mem_singleton_self _),
        within _ direction nonzero basis.nonneg tradable.positive (fun _ => below.trans higher) le_rfl⟩

/-- A trade that extends the position is applied, and its average is within the prices and close to
the exact one. -/
theorem CostBasis.extend (basis : CostBasis state prices) (tradable : Tradable quantity price)
    (inRange : StaysInRange state quantity price) (same : sameDirection state.position quantity = true) :
    ∃ next, applyTrade state quantity price = .ok next ∧
      CostBasis next (pricesAfter state.position.toInt next.position.toInt price.toInt prices) ∧
      (next.averageCost.toInt : ℚ) ≤
        weightedAverage state.position.toInt state.averageCost.toInt quantity.toInt price.toInt ∧
      weightedAverage state.position.toInt state.averageCost.toInt quantity.toInt price.toInt <
        next.averageCost.toInt + 1 +
          2 * amountScale.toInt / |(state.position.toInt : ℚ) + quantity.toInt| := by
  have direction := (sameDirection_iff _ _).mp same
  have nonzero := tradable.some
  unfold StaysInRange at inRange
  rw [if_pos same] at inRange
  obtain ⟨existing,added,first,second,sum,moved⟩ := inRange
  obtain ⟨listed,member,within⟩ := basis.average_le tradable direction
  have low := (average_bounds state.position.toInt state.averageCost.toInt quantity.toInt price.toInt direction nonzero
    basis.nonneg tradable.positive).1
  have close := average_close state.position.toInt state.averageCost.toInt quantity.toInt price.toInt direction nonzero
    basis.nonneg tradable.positive
  have fits : FitsInt64 (exactDiv (existing + added).toInt (state.position + quantity).toInt) := by
    rw [add64 _ _ sum,add64 _ _ moved,mulAmount_value _ _ _ first,mulAmount_value _ _ _ second]
    exact maxAmount_fits low (within.trans (basis.priced tradable _ listed member).2)
  have divided := divAmount_fits (existing + added) (state.position + quantity) (by rw [add64 _ _ moved]; omega) fits
  have average : (Int64.ofInt (exactDiv (existing + added).toInt (state.position + quantity).toInt)).toInt =
      exactDiv (exactMul state.position.toInt state.averageCost.toInt + exactMul quantity.toInt price.toInt)
        (state.position.toInt + quantity.toInt) := by
    rw [ofInt64_value _ fits,add64 _ _ sum,add64 _ _ moved,mulAmount_value _ _ _ first,mulAmount_value _ _ _ second]
  refine ⟨_,applyTrade_extends same first second divided,⟨?_,?_,?_,?_⟩,?_,?_⟩ <;> dsimp only
  · rw [add64 _ _ moved]
    omega
  · rw [average]
    exact low
  · intro _
    rw [average,add64 _ _ moved]
    exact ⟨listed,member,within⟩
  · exact basis.priced tradable _
  · rw [average]
    exact close.1
  · rw [average]
    exact close.2

/-- An opposing trade that does not close the position keeps its sign unless it is the larger. -/
theorem keeps_sign_iff (opposing : sameDirection state.position quantity = false)
    (left : state.position.toInt + quantity.toInt ≠ 0) :
    0 < state.position.toInt * (state.position.toInt + quantity.toInt) ↔ ¬|state.position.toInt| <
      |quantity.toInt| := by
  rcases opposing_signs opposing with ⟨long,sold⟩ | ⟨short,bought⟩
  · rw [abs_of_pos long,abs_of_nonpos sold,mul_pos_iff_of_pos_left long]
    omega
  · rw [abs_of_neg short,abs_of_pos bought,← neg_mul_neg,mul_pos_iff_of_pos_left (neg_pos.mpr short)]
    omega

/-- A trade that opposes the position is applied, and leaves the cost basis, clears it or starts it
at the trade's price. -/
theorem CostBasis.close (basis : CostBasis state prices) (tradable : Tradable quantity price)
    (inRange : StaysInRange state quantity price) (opposing : sameDirection state.position quantity = false) :
    ∃ next, applyTrade state quantity price = .ok next ∧
      CostBasis next (pricesAfter state.position.toInt next.position.toInt price.toInt prices) := by
  have signs := opposing_signs opposing
  have moved := opposing_moved opposing
  unfold StaysInRange at inRange
  rw [if_neg (by simp [opposing])] at inRange
  obtain ⟨realized,product⟩ := inRange
  have flips := flipQuantity_positive state.position quantity tradable.turned
  obtain ⟨highest,member,below⟩ := basis.bounded (by omega)
  refine ⟨_,applyTrade_closes opposing product,?_⟩
  have priced := basis.priced tradable (state.position.toInt + quantity.toInt)
  rw [← moved] at priced
  by_cases closed : state.position + quantity = 0
  · -- The position is closed exactly.
    refine ⟨?_,?_,?_,priced⟩
    · intro _
      rw [if_pos closed,Int64.toInt_zero]
    · rw [if_pos closed,Int64.toInt_zero]
    · intro open_
      exact absurd (by rw [closed,Int64.toInt_zero]) open_
  have left : state.position.toInt + quantity.toInt ≠ 0 := by
    rwa [← Int64.toInt_inj,moved,Int64.toInt_zero] at closed
  by_cases flipped : |state.position.toInt| < |quantity.toInt|
  · have turned := mt (keeps_sign_iff opposing left).mp (not_not_intro flipped)
    refine ⟨?_,?_,?_,priced⟩
    · intro flat
      exact absurd (moved.symm.trans flat) left
    · rw [if_neg closed,if_pos (flips.mpr flipped)]
      exact tradable.positive.le
    · intro _
      rw [if_neg closed,if_pos (flips.mpr flipped),moved]
      unfold pricesAfter
      rw [if_neg left,if_neg turned]
      exact ⟨price.toInt,List.mem_singleton_self _,le_rfl⟩
  · have kept := (keeps_sign_iff opposing left).mpr flipped
    refine ⟨?_,?_,?_,priced⟩
    · intro flat
      exact absurd (moved.symm.trans flat) left
    · rw [if_neg closed,if_neg (mt flips.mp flipped)]
      exact basis.nonneg
    · intro _
      rw [if_neg closed,if_neg (mt flips.mp flipped),moved]
      unfold pricesAfter
      rw [if_neg left,if_pos kept]
      exact ⟨highest,List.mem_append_left _ member,below⟩

end step

section runs

/-- The states reached by trades that stay in range, each with the prices traded since its
position was last flat or changed sign. -/
inductive Reachable : ReconciledState → List Int → Prop
  | zero (tenantID instrument : Bytes) : Reachable (.zero tenantID instrument) []
  | trade {state next : ReconciledState} {prices : List Int} {quantity price : Int64} (reached : Reachable state prices)
      (tradable : Tradable quantity price) (inRange : StaysInRange state quantity price)
      (applied : applyTrade state quantity price = .ok next) :
      Reachable next (pricesAfter state.position.toInt next.position.toInt price.toInt prices)

theorem reachable_costBasis {state : ReconciledState} {prices : List Int} (reached : Reachable state prices) :
    CostBasis state prices := by
  induction reached with
  | zero tenantID instrument => exact ⟨fun _ => rfl,le_rfl,fun open_ => absurd rfl open_,by simp⟩
  | @trade state next prices quantity price _ tradable inRange applied basis =>
    cases same : sameDirection state.position quantity with
    | true =>
      obtain ⟨result,made,kept,-⟩ := basis.extend tradable inRange same
      rw [applied] at made
      rw [Except.ok.inj made]
      exact kept
    | false =>
      obtain ⟨result,made,kept⟩ := basis.close tradable inRange same
      rw [applied] at made
      rw [Except.ok.inj made]
      exact kept

/-- In every reachable state the cost basis is zero when flat and within the prices of the open
position; the next trade that stays in range is applied, and the average of an extended position is
below the exact one by less than a unit and the two roundings of its products. -/
theorem cost_basis_bounded {state : ReconciledState} {prices : List Int} (reached : Reachable state prices) :
    (state.position.toInt = 0 → state.averageCost.toInt = 0) ∧ 0 ≤ state.averageCost.toInt ∧
    (state.position.toInt ≠ 0 → ∃ price ∈ prices, state.averageCost.toInt ≤ price) ∧
    ∀ quantity price : Int64, Tradable quantity price → StaysInRange state quantity price →
      FitsInt64 (price.toInt - state.averageCost.toInt) ∧ FitsInt64 (state.averageCost.toInt - price.toInt) ∧
      ∃ next, applyTrade state quantity price = .ok next ∧
        (sameDirection state.position quantity = true →
          (next.averageCost.toInt : ℚ) ≤
            weightedAverage state.position.toInt state.averageCost.toInt quantity.toInt price.toInt ∧
          weightedAverage state.position.toInt state.averageCost.toInt quantity.toInt price.toInt <
            next.averageCost.toInt + 1 +
              2 * amountScale.toInt / |(state.position.toInt : ℚ) + quantity.toInt|) := by
  have basis := reachable_costBasis reached
  refine ⟨basis.flat,basis.nonneg,basis.bounded,?_⟩
  intro quantity price tradable inRange
  have low := basis.nonneg
  have high := state.averageCost.toInt_lt
  have positive := tradable.positive
  have top := price.toInt_lt
  refine ⟨by unfold FitsInt64; omega,by unfold FitsInt64; omega,?_⟩
  cases same : sameDirection state.position quantity with
  | true =>
    obtain ⟨next,applied,-,close⟩ := basis.extend tradable inRange same
    exact ⟨next,applied,fun _ => close⟩
  | false =>
    obtain ⟨next,applied,-⟩ := basis.close tradable inRange same
    exact ⟨next,applied,fun extending => absurd extending Bool.false_ne_true⟩

/-- A long position is extended at a price that its average is rounded at, then sold beyond flat, and
the short one is extended in its turn. -/
theorem cost_basis_bounded_after_flip : ∃ state prices next, Reachable state prices ∧
    state.position.toInt = -200000000 ∧ 0 ≤ state.averageCost.toInt ∧
    (∃ price ∈ prices, state.averageCost.toInt ≤ price) ∧
    FitsInt64 ((200000001 : Int64).toInt - state.averageCost.toInt) ∧
    FitsInt64 (state.averageCost.toInt - (200000001 : Int64).toInt) ∧
    applyTrade state (-100000000) 200000001 = .ok next ∧
    (next.averageCost.toInt : ℚ) ≤ weightedAverage state.position.toInt state.averageCost.toInt
      (-100000000 : Int64).toInt (200000001 : Int64).toInt ∧
    weightedAverage state.position.toInt state.averageCost.toInt (-100000000 : Int64).toInt (200000001 : Int64).toInt <
      next.averageCost.toInt + 1 +
        2 * amountScale.toInt / |(state.position.toInt : ℚ) + (-100000000 : Int64).toInt| := by
  have bought : Tradable 100000000 100000000 := ⟨by decide,by decide,by decide,by decide⟩
  have first := Reachable.trade (.zero (text "acme") (text "AAPL")) bought
    ⟨0,100000000,by decide,by decide,by decide,by decide⟩ rfl
  have added : Tradable 200000000 100000001 := ⟨by decide,by decide,by decide,by decide⟩
  have second := first.trade added ⟨100000000,200000002,by decide,by decide,by decide,by decide⟩ rfl
  have sold : Tradable (-500000000) 200000000 := ⟨by decide,by decide,by decide,by decide⟩
  have third := second.trade sold ⟨300000000,by decide⟩ rfl
  have extending : Tradable (-100000000) 200000001 := ⟨by decide,by decide,by decide,by decide⟩
  obtain ⟨_,nonneg,within,follows⟩ := cost_basis_bounded third
  obtain ⟨gain,loss,next,applied,close⟩ :=
    follows _ _ extending ⟨-400000000,-200000001,by decide,by decide,by decide,by decide⟩
  obtain ⟨low,high⟩ := close (by decide)
  exact ⟨_,_,next,third,by decide,nonneg,within (by decide),gain,loss,applied,low,high⟩

end runs

end ControlPlane.Processor
