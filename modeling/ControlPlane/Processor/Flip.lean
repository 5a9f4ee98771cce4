import ControlPlane.Processor.CostBasis

/-! A flip as one trade and as two. `applyTrade` opens the other side of a flip at the trade's
price; opening the same position from flat goes through the weighted average, which rounds the
cost of the trade. The two agree exactly where that cost is a whole amount. -/
namespace ControlPlane.Processor
open Go Ledger

section opening

theorem exactMul_flat (cost : Int) : exactMul 0 cost = 0 := by
  unfold exactMul
  rw [zero_mul,Int.zero_tdiv]

theorem long_opening_iff (quantity price : Int) (buying : 0 < quantity) (positive : 0 < price) :
    exactDiv (exactMul quantity price) quantity = price ↔ amountScale.toInt ∣ quantity * price := by
  have scale : 0 < amountScale.toInt := by decide
  have product : exactMul quantity price = quantity * price / amountScale.toInt :=
    Int.tdiv_eq_ediv_of_nonneg (mul_nonneg buying.le positive.le)
  have quotient : exactDiv (exactMul quantity price) quantity = exactMul quantity price *
    amountScale.toInt / quantity :=
    Int.tdiv_eq_ediv_of_nonneg (mul_nonneg (exactMul_nonneg _ _ buying.le positive.le) scale.le)
  have parts := Int.mul_ediv_add_emod (quantity * price) amountScale.toInt
  have remainder := Int.emod_nonneg (quantity * price) scale.ne'
  rw [quotient,product,Int.dvd_iff_emod_eq_zero]
  constructor
  · intro same
    have below := Int.mul_ediv_self_le (x := quantity * price / amountScale.toInt * amountScale.toInt) (k := quantity)
      buying.ne'
    rw [same] at below
    linarith
  · intro whole
    rw [whole,add_zero] at parts
    rw [mul_comm (quantity * price / amountScale.toInt),parts,Int.mul_ediv_cancel_left _ buying.ne']

/-- A position opened from flat carries the trade's price exactly when the cost of the trade is a
whole amount. -/
theorem opening_iff (quantity price : Int) (nonzero : quantity ≠ 0) (positive : 0 < price) :
    exactDiv (exactMul quantity price) quantity = price ↔ amountScale.toInt ∣ quantity * price := by
  rcases lt_or_gt_of_ne nonzero with selling | buying
  · have turned := long_opening_iff (-quantity) price (by omega) positive
    rwa [exactMul_neg,exactDiv_neg_neg,neg_mul,dvd_neg] at turned
  · exact long_opening_iff quantity price buying positive

theorem opens_from_flat (state : ReconciledState) (quantity price : Int64) (flat : state.position = 0)
    (nonzero : quantity.toInt ≠ 0) (positive : 0 < price.toInt)
    (cost : FitsInt64 (exactMul quantity.toInt price.toInt)) :
    ∃ opened, applyTrade state quantity price = .ok opened ∧ opened.position = quantity ∧
      opened.averageCost.toInt = exactDiv (exactMul quantity.toInt price.toInt) quantity.toInt ∧
      opened.realizedPnL = state.realizedPnL := by
  have direction : sameDirection state.position quantity = true := by simp [sameDirection,flat]
  have existing : mulAmount state.position state.averageCost = .ok 0 := by
    have product := mulAmount_fits state.position state.averageCost
    rw [flat,Int64.toInt_zero,exactMul_flat] at product
    rw [flat]
    exact product (by decide)
  have added := mulAmount_fits quantity price cost
  have value := ofInt64_value _ cost
  have bounds := average_bounds 0 0 quantity.toInt price.toInt (Or.inl rfl) nonzero le_rfl positive
  have within := average_le 0 0 quantity.toInt price.toInt price.toInt (Or.inl rfl) nonzero le_rfl positive
    (fun open_ => absurd rfl open_) le_rfl
  rw [exactMul_flat,zero_add,zero_add] at within bounds
  have top := price.toInt_lt
  have fits : FitsInt64 (exactDiv (exactMul quantity.toInt price.toInt) quantity.toInt) := by
    have low := bounds.1
    unfold FitsInt64
    omega
  have divided := divAmount_fits (Int64.ofInt (exactMul quantity.toInt price.toInt)) quantity nonzero (by rwa [value])
  rw [value] at divided
  have moved : state.position + quantity = quantity := by rw [flat,Int64.zero_add]
  have sum : 0 + Int64.ofInt (exactMul quantity.toInt price.toInt) = Int64.ofInt
    (exactMul quantity.toInt price.toInt) :=
    Int64.zero_add _
  refine ⟨_,applyTrade_extends direction existing added (by rw [sum,moved]; exact divided),moved,?_,rfl⟩
  exact ofInt64_value _ fits

end opening

section flip
variable {state : ReconciledState} {quantity price : Int64}

/-- No value of the flip, taken as one trade or as two, leaves its range. -/
structure FlipFits (state : ReconciledState) (quantity price : Int64) : Prop where
  turned : FitsInt64 (-quantity.toInt)
  profit : FitsInt64 (exactMul |state.position.toInt| (pnlPerUnit state.position state.averageCost price).toInt)
  cost : FitsInt64 (exactMul (quantity.toInt + state.position.toInt) price.toInt)

theorem FlipFits.position (fits : FlipFits state quantity price) (larger : |state.position.toInt| < |quantity.toInt|) :
    FitsInt64 (-state.position.toInt) := by
  have range := fits_toInt64 quantity
  have turned := fits.turned
  have own := fits_toInt64 state.position
  unfold FitsInt64 at range turned own ⊢
  have bound : |quantity.toInt| < 2^63 := abs_lt.mpr ⟨by omega,by omega⟩
  have inside := abs_lt.mp (larger.trans bound)
  omega

/-- The profit of closing the whole position. -/
def wholeProfit (state : ReconciledState) (price : Int64) : Int64 :=
  Int64.ofInt (exactMul |state.position.toInt| (pnlPerUnit state.position state.averageCost price).toInt)

/-- Closing exactly and flipping close the same quantity. -/
theorem closes_whole (turned : FitsInt64 (-quantity.toInt)) (above : FitsInt64 (-state.position.toInt))
    (larger : |state.position.toInt| ≤ |quantity.toInt|)
    (profit : FitsInt64 (exactMul |state.position.toInt| (pnlPerUnit state.position state.averageCost price).toInt)) :
    mulAmount (closingQuantity state.position quantity) (pnlPerUnit state.position state.averageCost price) =
      .ok (wholeProfit state price) := by
  have whole : (closingQuantity state.position quantity).toInt = |state.position.toInt| := by
    rw [closingQuantity_value state.position quantity above turned,min_eq_right larger]
  have product := mulAmount_fits (closingQuantity state.position quantity)
    (pnlPerUnit state.position state.averageCost price) (by rw [whole]; exact profit)
  rwa [whole] at product

theorem closes_exactly (above : FitsInt64 (-state.position.toInt)) (nonzero : state.position.toInt ≠ 0)
    (profit : FitsInt64 (exactMul |state.position.toInt| (pnlPerUnit state.position state.averageCost price).toInt)) :
    applyTrade state (-state.position) price = .ok {state with
      realizedPnL := state.realizedPnL + wholeProfit state price
      position := 0
      averageCost := 0} := by
  have back := neg64 _ above
  have opposing : sameDirection state.position (-state.position) = false := by
    rw [Bool.eq_false_iff]
    intro same
    rw [sameDirection_iff,back] at same
    omega
  have turned : FitsInt64 (-(-state.position).toInt) := by
    rw [back,neg_neg]
    exact fits_toInt64 state.position
  have flat : state.position + -state.position = 0 := by
    rw [← Int64.toInt_inj,add64 _ _ (by rw [back]; unfold FitsInt64; omega),back,Int64.toInt_zero]
    omega
  rw [applyTrade_closes opposing (closes_whole turned above (by rw [back,abs_neg]) profit),if_pos flat,flat]

theorem flips_at_price (opposing : sameDirection state.position quantity = false)
    (larger : |state.position.toInt| < |quantity.toInt|) (fits : FlipFits state quantity price) :
    applyTrade state quantity price = .ok {state with
      realizedPnL := state.realizedPnL + wholeProfit state price
      position := state.position + quantity
      averageCost := price} := by
  have nonzero : ¬state.position + quantity = 0 := by
    rw [← Int64.toInt_inj,opposing_moved opposing,Int64.toInt_zero]
    intro closed
    rw [show state.position.toInt = -quantity.toInt by omega,abs_neg] at larger
    exact lt_irrefl _ larger
  have flips := (flipQuantity_positive state.position quantity fits.turned).mpr larger
  rw [applyTrade_closes opposing (closes_whole fits.turned (fits.position larger) larger.le fits.profit),if_neg nonzero,
    if_pos flips]

/-- A flip in one trade has the same books as closing and opening exactly when the opened side's
cost is a whole amount. -/
theorem flip_splits_iff (state : ReconciledState) (quantity price : Int64)
    (opposing : sameDirection state.position quantity = false) (larger : |state.position.toInt| < |quantity.toInt|)
    (positive : 0 < price.toInt) (fits : FlipFits state quantity price) :
    ∃ flipped closed opened, applyTrade state quantity price = .ok flipped ∧
      applyTrade state (-state.position) price = .ok closed ∧
      applyTrade closed (quantity + state.position) price = .ok opened ∧
      (books opened = books flipped ↔
        amountScale.toInt ∣ (quantity.toInt + state.position.toInt) * price.toInt) := by
  have signs := opposing_signs opposing
  have rest : (quantity + state.position).toInt = quantity.toInt + state.position.toInt := by
    rw [Int64.add_comm,opposing_moved opposing,add_comm]
  have open_ : quantity.toInt + state.position.toInt ≠ 0 := by
    intro closed
    rw [show state.position.toInt = -quantity.toInt by omega,abs_neg] at larger
    exact lt_irrefl _ larger
  obtain ⟨opened,opens,position,cost,profit⟩ := opens_from_flat
    {state with realizedPnL := state.realizedPnL + wholeProfit state price,position := 0,averageCost := 0}
    (quantity + state.position) price rfl (by rwa [rest]) positive (by rw [rest]; exact fits.cost)
  refine ⟨_,_,opened,flips_at_price opposing larger fits,
    closes_exactly (fits.position larger) (by omega) fits.profit,opens,?_⟩
  rw [← opening_iff _ _ open_ positive]
  unfold books
  rw [position,profit,cost,rest,Int64.add_comm state.position,rest]
  simp only [Books.mk.injEq,and_true,true_and]

def sampleLong : ReconciledState :=
  {ReconciledState.zero (text "acme") (text "AAPL") with position := 100000000,averageCost := 100000000}

theorem flip_splits_at_whole_cost : ∃ flipped closed opened, applyTrade sampleLong (-300000000) 150000000 =
    .ok flipped ∧
    applyTrade sampleLong (-100000000) 150000000 = .ok closed ∧ applyTrade closed (-200000000) 150000000 = .ok opened ∧
    books opened = books flipped := by
  obtain ⟨flipped,closed,opened,first,second,third,same⟩ := flip_splits_iff sampleLong (-300000000) 150000000
    (by decide) (by decide) (by decide) ⟨by decide,by decide,by decide⟩
  exact ⟨flipped,closed,opened,first,second,third,same.mpr (by decide)⟩

-- One unit is closed and 0.00000001 opened at half a unit, at a cost that rounds to nothing.
theorem flip_below_unit_differs :
    ¬∀ (state : ReconciledState) (quantity price : Int64), sameDirection state.position quantity = false →
      |state.position.toInt| < |quantity.toInt| → 0 < price.toInt → FlipFits state quantity price →
      ∃ flipped closed opened, applyTrade state quantity price = .ok flipped ∧
        applyTrade state (-state.position) price = .ok closed ∧
        applyTrade closed (quantity + state.position) price = .ok opened ∧ books opened = books flipped := by
  intro claimed
  obtain ⟨flipped,closed,opened,first,second,third,same⟩ := claimed sampleLong (-100000001) 50000000
    (by decide) (by decide) (by decide) ⟨by decide,by decide,by decide⟩
  have flips : applyTrade sampleLong (-100000001) 50000000 =
      .ok {sampleLong with position := -1,averageCost := 50000000,realizedPnL := -50000000} := by decide
  have closes : applyTrade sampleLong (-sampleLong.position) 50000000 =
      .ok {sampleLong with position := 0,averageCost := 0,realizedPnL := -50000000} := by decide
  have opens : applyTrade {sampleLong with position := 0,averageCost := 0,realizedPnL := -50000000}
      (-100000001 + sampleLong.position) 50000000 =
      .ok {sampleLong with position := -1,averageCost := 0,realizedPnL := -50000000} := by decide
  obtain rfl := Except.ok.inj (flips.symm.trans first)
  obtain rfl := Except.ok.inj (closes.symm.trans second)
  obtain rfl := Except.ok.inj (opens.symm.trans third)
  exact absurd same (by decide)

end flip

end ControlPlane.Processor
