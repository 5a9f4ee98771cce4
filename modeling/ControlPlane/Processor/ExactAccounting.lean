import ControlPlane.Processor.Accounting

/-! When the `int64` accounting is the exact one. The condition speaks of the stored
state and the trade alone; it fails only where a plain sum or negation of `applyTrade`
leaves the range of `int64`. -/
namespace ControlPlane.Processor
open Go Ledger

def ExtendFits (state : ReconciledState) (signedQuantity price : Int64) : Prop :=
  match mulAmount state.position state.averageCost,mulAmount signedQuantity price with
  | .ok existingCost,.ok addedCost =>
    FitsInt64 (existingCost.toInt + addedCost.toInt) ∧ FitsInt64 (state.position.toInt + signedQuantity.toInt)
  | _,_ => True

def CloseFits (state : ReconciledState) (signedQuantity price : Int64) : Prop :=
  FitsInt64 (-state.position.toInt) ∧ FitsInt64 (-signedQuantity.toInt) ∧
    match mulAmount (closingQuantity state.position signedQuantity)
        (pnlPerUnit state.position state.averageCost price) with
    | .ok realized => FitsInt64 (state.realizedPnL.toInt + realized.toInt)
    | .error _ => True

def TradeFits (state : ReconciledState) (signedQuantity price : Int64) : Prop :=
  if sameDirection state.position signedQuantity then ExtendFits state signedQuantity price
  else CloseFits state signedQuantity price

theorem sameDirection_iff (position signedQuantity : Int64) :
    sameDirection position signedQuantity = true ↔
      position.toInt = 0 ∨ (position.toInt > 0 ↔ signedQuantity.toInt > 0) := by
  simp only [sameDirection,Bool.or_eq_true,beq_iff_eq,decide_eq_decide,gt_iff_lt,
    Int64.lt_iff_toInt_lt,Int64.toInt_zero,← Int64.toInt_inj]

theorem opposing_signs {position signedQuantity : Int64} (opposing : sameDirection position signedQuantity = false) :
    position.toInt > 0 ∧ signedQuantity.toInt ≤ 0 ∨ position.toInt < 0 ∧ signedQuantity.toInt > 0 := by
  have direction : ¬(position.toInt = 0 ∨ (position.toInt > 0 ↔ signedQuantity.toInt > 0)) := by
    rw [← sameDirection_iff,opposing]
    simp
  omega

/-- An opposing trade moves the position toward zero or past it, and never out of range. -/
theorem opposing_moved {position signedQuantity : Int64} (opposing : sameDirection position signedQuantity = false) :
    (position + signedQuantity).toInt = position.toInt + signedQuantity.toInt := by
  have signs := opposing_signs opposing
  have positionRange := fits_toInt64 position
  have quantityRange := fits_toInt64 signedQuantity
  unfold FitsInt64 at positionRange quantityRange
  exact add64 _ _ (by unfold FitsInt64; omega)

theorem magnitude_value (x : Int64) (fits : FitsInt64 (-x.toInt)) : (magnitude x).toInt = |x.toInt| := by
  unfold magnitude
  split <;> rename_i sign <;> rw [Int64.lt_iff_toInt_lt,Int64.toInt_zero] at sign
  · rw [neg64 x fits,abs_of_neg sign]
  · rw [abs_of_nonneg (by omega)]

theorem closingQuantity_value (position signedQuantity : Int64) (first : FitsInt64 (-position.toInt))
    (second : FitsInt64 (-signedQuantity.toInt)) :
    (closingQuantity position signedQuantity).toInt = min |signedQuantity.toInt| |position.toInt| := by
  unfold closingQuantity
  split <;> rename_i order <;>
    rw [Int64.lt_iff_toInt_lt,magnitude_value _ first,magnitude_value _ second] at order
  · rw [magnitude_value _ first,min_eq_right order.le]
  · rw [magnitude_value _ second,min_eq_left (by omega)]

theorem flipQuantity_value (position signedQuantity : Int64) (first : FitsInt64 (-position.toInt))
    (second : FitsInt64 (-signedQuantity.toInt)) :
    (magnitude signedQuantity - closingQuantity position signedQuantity).toInt =
      |signedQuantity.toInt| - min |signedQuantity.toInt| |position.toInt| := by
  have size := magnitude_value signedQuantity second
  have closing := closingQuantity_value position signedQuantity first second
  have lower := min_le_left |signedQuantity.toInt| |position.toInt|
  have upper : 0 ≤ min |signedQuantity.toInt| |position.toInt| := le_min (abs_nonneg _) (abs_nonneg _)
  have bound := fits_toInt64 (magnitude signedQuantity)
  rw [size] at bound
  unfold FitsInt64 at bound
  rw [sub64 _ _ (by rw [size,closing]; unfold FitsInt64; omega),size,closing]

theorem pnlPerUnit_value (position averageCost price : Int64) (cost : 0 ≤ averageCost.toInt)
    (positive : 0 < price.toInt) :
    (pnlPerUnit position averageCost price).toInt =
      if position.toInt > 0 then price.toInt - averageCost.toInt else averageCost.toInt - price.toInt := by
  have costRange := fits_toInt64 averageCost
  have priceRange := fits_toInt64 price
  unfold FitsInt64 at costRange priceRange
  simp only [pnlPerUnit,gt_iff_lt,Int64.lt_iff_toInt_lt,Int64.toInt_zero]
  split
  · exact sub64 _ _ (by unfold FitsInt64; omega)
  · exact sub64 _ _ (by unfold FitsInt64; omega)

theorem extendPosition_exact (state result : ReconciledState) (q p : Int64)
    (fits : ExtendFits state q p) (ok : extendPosition state q p = .ok result) :
    books result = exactExtend (books state) q.toInt p.toInt := by
  obtain ⟨existing,first,ok⟩ := bind_success _ _ _ ok
  obtain ⟨added,second,ok⟩ := bind_success _ _ _ ok
  obtain ⟨cost,third,ok⟩ := bind_success _ _ _ ok
  rw [wrapping_ok] at first second third
  simp only [ExtendFits,first,second] at fits
  simp only [pure,Except.pure,Except.ok.injEq] at ok
  subst result
  have quotient := divAmount_value _ _ _ third
  rw [add64 _ _ fits.1,add64 _ _ fits.2,mulAmount_value _ _ _ first,mulAmount_value _ _ _ second] at quotient
  simp only [books,exactExtend,quotient,add64 _ _ fits.2]

theorem closePosition_exact (state result : ReconciledState) (q p : Int64)
    (fits : CloseFits state q p) (cost : 0 ≤ state.averageCost.toInt) (positive : 0 < p.toInt)
    (opposing : sameDirection state.position q = false) (ok : closePosition state q p = .ok result) :
    books result = exactClose (books state) q.toInt p.toInt := by
  obtain ⟨first,second,sum⟩ := fits
  obtain ⟨realized,product,ok⟩ := bind_success _ _ _ ok
  rw [wrapping_ok] at product
  simp only [product] at sum
  simp only [pure,Except.pure,Except.ok.injEq] at ok
  subst result
  have closing := closingQuantity_value state.position q first second
  have profit := mulAmount_value _ _ _ product
  rw [closing,pnlPerUnit_value _ _ _ cost positive] at profit
  have moved := opposing_moved opposing
  have flip := flipQuantity_value state.position q first second
  simp only [books,exactClose,exactRealized,moved,add64 _ _ sum,profit,Books.mk.injEq,true_and]
  simp only [← Int64.toInt_inj,gt_iff_lt,Int64.lt_iff_toInt_lt,moved,flip,Int64.toInt_zero]
  split
  · exact ⟨rfl,trivial⟩
  · split <;> exact ⟨rfl,trivial⟩

theorem applyTrade_exact (state result : ReconciledState) (q p : Int64) (fits : TradeFits state q p)
    (cost : 0 ≤ state.averageCost.toInt) (positive : 0 < p.toInt) (ok : applyTrade state q p = .ok result) :
    books result = exactTrade (books state) q.toInt p.toInt := by
  have direction : sameDirection state.position q = true ↔
      (books state).position = 0 ∨ ((books state).position > 0 ↔ q.toInt > 0) :=
    sameDirection_iff state.position q
  unfold TradeFits at fits
  unfold applyTrade at ok
  unfold exactTrade
  cases same : sameDirection state.position q with
  | true =>
    simp only [same,if_true] at fits ok
    rw [if_pos (direction.mp same)]
    exact extendPosition_exact state result q p fits ok
  | false =>
    simp only [same,Bool.false_eq_true,if_false] at fits ok
    rw [if_neg (by rw [← direction,same]; simp)]
    exact closePosition_exact state result q p fits cost positive same ok

theorem exactMul_nonneg (a b : Int) (left : 0 ≤ a) (right : 0 ≤ b) : 0 ≤ exactMul a b :=
  Int.tdiv_nonneg (mul_nonneg left right) (by decide)

theorem exactMul_neg (a b : Int) : exactMul (-a) b = -exactMul a b := by
  unfold exactMul
  rw [neg_mul,Int.neg_tdiv]

theorem exactDiv_nonneg (a b : Int) (left : 0 ≤ a) (right : 0 ≤ b) : 0 ≤ exactDiv a b :=
  Int.tdiv_nonneg (mul_nonneg left (by decide)) right

theorem exactDiv_neg_neg (a b : Int) : exactDiv (-a) (-b) = exactDiv a b := by
  unfold exactDiv
  rw [neg_mul,Int.neg_tdiv,Int.tdiv_neg,neg_neg]

theorem exactExtend_cost_nonneg (b : Books) (q p : Int) (cost : 0 ≤ b.averageCost) (positive : 0 < p)
    (direction : b.position = 0 ∨ (b.position > 0 ↔ q > 0)) : 0 ≤ (exactExtend b q p).averageCost := by
  rcases lt_or_ge 0 q with buying | selling
  · have long : 0 ≤ b.position := by omega
    exact exactDiv_nonneg _ _ (add_nonneg (exactMul_nonneg _ _ long cost)
      (exactMul_nonneg _ _ buying.le positive.le)) (by omega)
  · -- The short side is the long side with both signs turned.
    have short : 0 ≤ -b.position := by omega
    have turned := exactDiv_nonneg (exactMul (-b.position) b.averageCost + exactMul (-q) p) (-(b.position + q))
      (add_nonneg (exactMul_nonneg _ _ short cost) (exactMul_nonneg _ _ (by omega) positive.le)) (by omega)
    rw [exactMul_neg,exactMul_neg,← neg_add,exactDiv_neg_neg] at turned
    exact turned

theorem exactTrade_cost_nonneg (b : Books) (q p : Int) (cost : 0 ≤ b.averageCost) (positive : 0 < p) :
    0 ≤ (exactTrade b q p).averageCost := by
  unfold exactTrade
  split
  · rename_i direction
    exact exactExtend_cost_nonneg b q p cost positive direction
  · unfold exactClose
    dsimp only
    split
    · exact le_rfl
    · split
      · exact positive.le
      · exact cost

def signedQuantity (txn : Transaction) : Int64 := if txn.side = sideBuy then txn.quantity else -txn.quantity

def exactTransaction (b : Books) (txn : Transaction) : Books :=
  exactTrade b (if txn.side = sideBuy then txn.quantity.toInt else -txn.quantity.toInt) txn.price.toInt

/-- The stored state after one attempt: an error leaves it as it was. -/
def afterStep (state : ReconciledState) (txn : Transaction) : ReconciledState :=
  match applyTransaction state txn with
  | .ok result => result
  | .error _ => state

def AtEveryStep (holds : ReconciledState → Transaction → Prop) : ReconciledState → List Transaction → Prop
  | _,[] => True
  | state,txn::rest => holds state txn ∧ AtEveryStep holds (afterStep state txn) rest

def Priced (txn : Transaction) : Prop :=
  0 < txn.quantity ∧ txn.quantity ≤ maxAmount ∧ 0 < txn.price ∧ txn.price ≤ maxAmount

def TransactionFits (state : ReconciledState) (txn : Transaction) : Prop :=
  TradeFits state (signedQuantity txn) txn.price

def StoresExactly (state : ReconciledState) (txn : Transaction) : Prop :=
  match applyTransaction state txn with
  | .ok result => books result = exactTransaction (books state) txn
  | .error _ => True

theorem applyTransaction_trade (state result : ReconciledState) (txn : Transaction)
    (ok : applyTransaction state txn = .ok result) :
    ∃ folded, applyTrade state (signedQuantity txn) txn.price = .ok folded ∧
      result = {folded with lastTransactionID := some txn.id} := by
  obtain ⟨folded,trade,ok⟩ := bind_success _ _ _ ok
  simp only [pure,Except.pure,Except.ok.injEq] at ok
  refine ⟨folded,?_,ok.symm⟩
  unfold applySide at trade
  unfold signedQuantity
  split at trade
  · rename_i buy
    rw [if_pos buy]
    exact trade
  · rename_i other
    rw [if_neg other]
    split at trade
    · exact trade
    · contradiction

theorem signedQuantity_value (txn : Transaction) (positive : 0 < txn.quantity) :
    (signedQuantity txn).toInt = if txn.side = sideBuy then txn.quantity.toInt else -txn.quantity.toInt := by
  have range := fits_toInt64 txn.quantity
  rw [Int64.lt_iff_toInt_lt,Int64.toInt_zero] at positive
  unfold FitsInt64 at range
  unfold signedQuantity
  split
  · rfl
  · exact neg64 _ (by unfold FitsInt64; omega)

theorem transaction_exact (state result : ReconciledState) (txn : Transaction) (priced : Priced txn)
    (cost : 0 ≤ state.averageCost.toInt) (fits : TransactionFits state txn)
    (ok : applyTransaction state txn = .ok result) : books result = exactTransaction (books state) txn := by
  obtain ⟨folded,trade,rfl⟩ := applyTransaction_trade state result txn ok
  have positive := priced.2.2.1
  rw [Int64.lt_iff_toInt_lt,Int64.toInt_zero] at positive
  have exact := applyTrade_exact state folded _ _ fits cost positive trade
  rw [signedQuantity_value txn priced.1] at exact
  exact exact

theorem run_exact_of_fits (txns : List Transaction) (state : ReconciledState)
    (priced : ∀ txn ∈ txns, Priced txn) (cost : 0 ≤ state.averageCost.toInt)
    (fits : AtEveryStep TransactionFits state txns) : AtEveryStep StoresExactly state txns := by
  induction txns generalizing state with
  | nil => trivial
  | cons txn rest ih =>
    have own := priced txn (by simp)
    have positive := own.2.2.1
    rw [Int64.lt_iff_toInt_lt,Int64.toInt_zero] at positive
    unfold AtEveryStep StoresExactly
    unfold AtEveryStep at fits
    unfold afterStep at fits ⊢
    cases applied : applyTransaction state txn with
    | error err =>
      simp only [applied] at fits ⊢
      exact ⟨trivial,ih state (fun t member => priced t (by simp [member])) cost fits.2⟩
    | ok result =>
      simp only [applied] at fits ⊢
      have exact := transaction_exact state result txn own cost fits.1 applied
      have next : 0 ≤ (books result).averageCost := by
        rw [exact]
        exact exactTrade_cost_nonneg _ _ _ cost positive
      exact ⟨exact,ih result (fun t member => priced t (by simp [member])) next fits.2⟩

/-- Folding from the zero state, every step is refused or exact, in every run whose
steps keep their sums in range. -/
theorem fold_exact_of_fits (tenantID instrument : Bytes) (txns : List Transaction)
    (priced : ∀ txn ∈ txns, Priced txn) (fits : AtEveryStep TransactionFits (.zero tenantID instrument) txns) :
    AtEveryStep StoresExactly (.zero tenantID instrument) txns :=
  run_exact_of_fits txns _ priced le_rfl fits

theorem fold_exact_through_flip :
    AtEveryStep StoresExactly (.zero (text "acme") (text "BTC-USD"))
      [sampleTrade "acme" 1 sideBuy 200000000 300000000,sampleTrade "acme" 1 sideSell 500000000 400000000] := by
  apply fold_exact_of_fits
  · intro txn member
    simp only [List.mem_cons,List.not_mem_nil,or_false] at member
    rcases member with rfl | rfl <;> exact ⟨by decide,by decide,by decide,by decide⟩
  · refine ⟨?_,?_,trivial⟩
    · show FitsInt64 _ ∧ FitsInt64 _
      decide
    · show FitsInt64 _ ∧ FitsInt64 _ ∧ FitsInt64 _
      decide

/-- Ten buys of the largest accepted quantity wrap the position, and no step errors. -/
theorem fold_wraps_after_ten_buys :
    ¬∀ (tenantID instrument : Bytes) (txns : List Transaction), (∀ txn ∈ txns, Priced txn) →
      AtEveryStep StoresExactly (.zero tenantID instrument) txns := by
  intro claimed
  have priced : ∀ txn ∈ List.replicate 10 (sampleTrade "acme" 1 sideBuy maxAmount 1), Priced txn := by
    intro txn member
    rw [List.eq_of_mem_replicate member]
    exact ⟨by decide,by decide,by decide,by decide⟩
  obtain ⟨-,-,-,-,-,-,-,-,-,tenth,-⟩ := claimed (text "acme") (text "BTC-USD") _ priced
  revert tenth
  show ¬(_ = _)
  decide

end ControlPlane.Processor
