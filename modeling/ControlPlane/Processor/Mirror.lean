import ControlPlane.Processor.ExactAccounting
import Mathlib.Data.List.Forall2

/-! Long and short are accounted alike. A run with buys and sells exchanged ends every step at the
opposite position and profit and the same cost, although the short side has sign tests and a profit
formula of its own. The smallest `int64` is its own negation, so no sum of the run may reach it. -/
namespace ControlPlane.Processor
open Go Ledger

section negation

theorem neg_of_toInt {x y : Int64} (opposite : y.toInt = -x.toInt) : y = -x := by
  have range := fits_toInt64 y
  rw [opposite] at range
  rw [← Int64.toInt_inj,neg64 x range,opposite]

theorem neg_sum (x y : Int64) : -x + -y = -(x + y) := by
  rw [Int64.neg_add,Int64.sub_eq_add_neg]

theorem mulAmount_neg_left {a b c d : Int64} (above : a ≠ Int64.minValue) (first : mulAmount a b = .ok c)
    (second : mulAmount (-a) b = .ok d) : d = -c := by
  apply neg_of_toInt
  rw [mulAmount_value _ _ _ second,mulAmount_value _ _ _ first,neg64 a (fits_neg64 above),exactMul_neg]

theorem mulAmount_neg_right {a b c d : Int64} (above : b ≠ Int64.minValue) (first : mulAmount a b = .ok c)
    (second : mulAmount a (-b) = .ok d) : d = -c := by
  apply neg_of_toInt
  rw [mulAmount_value _ _ _ second,mulAmount_value _ _ _ first,neg64 b (fits_neg64 above)]
  unfold exactMul
  rw [mul_neg,Int.neg_tdiv]

theorem divAmount_neg_neg {a b c d : Int64} (dividend : a ≠ Int64.minValue) (divisor : b ≠ Int64.minValue)
    (first : divAmount a b = .ok c) (second : divAmount (-a) (-b) = .ok d) : d = c := by
  rw [← Int64.toInt_inj,divAmount_value _ _ _ second,divAmount_value _ _ _ first,neg64 a (fits_neg64 dividend),
    neg64 b (fits_neg64 divisor),exactDiv_neg_neg]

variable {position quantity : Int64} (held : position ≠ Int64.minValue) (traded : quantity ≠ Int64.minValue)

include held in
theorem magnitude_neg : magnitude (-position) = magnitude position := by
  have above := fits_neg64 held
  have turned := neg64 position above
  have back : FitsInt64 (-(-position).toInt) := by
    rw [turned,neg_neg]
    exact fits_toInt64 position
  rw [← Int64.toInt_inj,magnitude_value _ back,magnitude_value _ above,turned,abs_neg]

include held traded in
theorem closingQuantity_neg : closingQuantity (-position) (-quantity) = closingQuantity position quantity := by
  unfold closingQuantity
  rw [magnitude_neg held,magnitude_neg traded]

include held traded in
theorem sameDirection_neg (nonzero : quantity.toInt ≠ 0) :
    sameDirection (-position) (-quantity) = sameDirection position quantity := by
  rw [Bool.eq_iff_iff,sameDirection_iff,sameDirection_iff,neg64 _ (fits_neg64 held),neg64 _ (fits_neg64 traded)]
  omega

include held in
theorem pnlPerUnit_neg (open_ : position.toInt ≠ 0) (cost price : Int64) :
    pnlPerUnit (-position) cost price = -pnlPerUnit position cost price := by
  unfold pnlPerUnit
  simp only [gt_iff_lt,Int64.lt_iff_toInt_lt,Int64.toInt_zero,neg64 _ (fits_neg64 held)]
  by_cases long : 0 < position.toInt
  · rw [if_pos long,if_neg (by omega),Int64.neg_sub]
  · rw [if_neg long,if_pos (by omega),Int64.neg_sub]

end negation

/-- The sums and differences of a trade that carry a sign. -/
def signedSums (state : ReconciledState) (signedQuantity price : Int64) : List Int64 :=
  if sameDirection state.position signedQuantity then
    match mulAmount state.position state.averageCost,mulAmount signedQuantity price with
    | .ok existingCost,.ok addedCost => [existingCost + addedCost,state.position + signedQuantity]
    | _,_ => []
  else
    match mulAmount (closingQuantity state.position signedQuantity)
        (pnlPerUnit state.position state.averageCost price) with
    | .ok realized => [pnlPerUnit state.position state.averageCost price,state.realizedPnL + realized,
        state.position + signedQuantity]
    | .error _ => []

structure Opposite (state other : ReconciledState) : Prop where
  position : other.position.toInt = -state.position.toInt
  averageCost : other.averageCost = state.averageCost
  realizedPnL : other.realizedPnL.toInt = -state.realizedPnL.toInt

section step
variable {state other next after : ReconciledState} {quantity price : Int64}

theorem above_of_opposite {x y : Int64} (opposite : y.toInt = -x.toInt) : x ≠ Int64.minValue := by
  have range := fits_toInt64 y
  rintro rfl
  rw [opposite,Int64.toInt_minValue] at range
  unfold FitsInt64 at range
  omega

theorem Opposite.extend (opposite : Opposite state other) (traded : quantity ≠ Int64.minValue)
    (above : ∀ value ∈ signedSums state quantity price, value ≠ Int64.minValue)
    (same : sameDirection state.position quantity = true) (same' : sameDirection other.position (-quantity) = true)
    (applied : applyTrade state quantity price = .ok next) (applied' : applyTrade other (-quantity) price = .ok after) :
    Opposite next after := by
  obtain ⟨existing,added,cost,first,second,third,rfl⟩ := applyTrade_extended same applied
  obtain ⟨existing',added',cost',first',second',third',rfl⟩ := applyTrade_extended same' applied'
  unfold signedSums at above
  simp only [same,if_true,first,second,List.mem_cons,List.not_mem_nil,or_false,forall_eq_or_imp,forall_eq] at above
  have held := above_of_opposite opposite.position
  rw [neg_of_toInt opposite.position,opposite.averageCost] at first'
  rw [neg_of_toInt opposite.position,mulAmount_neg_left held first first',mulAmount_neg_left traded second second',
    neg_sum,neg_sum] at third'
  refine ⟨?_,divAmount_neg_neg above.1 above.2 third third',opposite.realizedPnL⟩
  dsimp only
  rw [neg_of_toInt opposite.position,neg_sum,neg64 _ (fits_neg64 above.2)]

theorem Opposite.close (opposite : Opposite state other) (traded : quantity ≠ Int64.minValue)
    (above : ∀ value ∈ signedSums state quantity price, value ≠ Int64.minValue)
    (opposing : sameDirection state.position quantity = false)
    (opposing' : sameDirection other.position (-quantity) = false)
    (applied : applyTrade state quantity price = .ok next) (applied' : applyTrade other (-quantity) price = .ok after) :
    Opposite next after := by
  obtain ⟨realized,product,rfl⟩ := applyTrade_closed opposing applied
  obtain ⟨realized',product',rfl⟩ := applyTrade_closed opposing' applied'
  unfold signedSums at above
  simp only [opposing,Bool.false_eq_true,if_false,product,List.mem_cons,List.not_mem_nil,or_false,forall_eq_or_imp,
    forall_eq] at above
  have held := above_of_opposite opposite.position
  have signs := opposing_signs opposing
  rw [neg_of_toInt opposite.position,opposite.averageCost,closingQuantity_neg held traded,
    pnlPerUnit_neg held (by omega)] at product'
  have profit := mulAmount_neg_right above.1 product product'
  refine ⟨?_,?_,?_⟩ <;> dsimp only
  · rw [neg_of_toInt opposite.position,neg_sum,neg64 _ (fits_neg64 above.2.2)]
  · rw [neg_of_toInt opposite.position,neg_sum,closingQuantity_neg held traded,magnitude_neg traded,
      opposite.averageCost]
    have flat : -(state.position + quantity) = 0 ↔ state.position + quantity = 0 := by
      rw [← Int64.neg_zero,Int64.neg_inj,Int64.neg_zero]
    simp only [flat]
  · rw [neg_of_toInt opposite.realizedPnL,profit,neg_sum,neg64 _ (fits_neg64 above.2.1)]

theorem Opposite.trade (opposite : Opposite state other) (nonzero : quantity.toInt ≠ 0)
    (traded : quantity ≠ Int64.minValue) (above : ∀ value ∈ signedSums state quantity price, value ≠ Int64.minValue)
    (applied : applyTrade state quantity price = .ok next) (applied' : applyTrade other (-quantity) price = .ok after) :
    Opposite next after := by
  have direction : sameDirection other.position (-quantity) = sameDirection state.position quantity := by
    rw [neg_of_toInt opposite.position]
    exact sameDirection_neg (above_of_opposite opposite.position) traded nonzero
  cases same : sameDirection state.position quantity with
  | true => exact opposite.extend traded above same (direction.trans same) applied applied'
  | false => exact opposite.close traded above same (direction.trans same) applied applied'

end step

section runs

/-- The same transaction on the other side. -/
def exchanged (txn : Transaction) : Transaction :=
  {txn with side := if txn.side = sideBuy then sideSell else if txn.side = sideSell then sideBuy else txn.side}

/-- The states after each transaction of a fold that meets no error. -/
def transactionStates : ReconciledState → List Transaction → Except Error (List ReconciledState)
  | _,[] => .ok []
  | state,txn::rest => do
    let next ← applyTransaction state txn
    let states ← transactionStates next rest
    return next::states

theorem signedQuantity_exchanged {state next : ReconciledState} {txn : Transaction}
    (ok : applyTransaction state txn = .ok next) : signedQuantity (exchanged txn) = -signedQuantity txn := by
  obtain ⟨folded,side,-⟩ := bind_success _ _ _ ok
  have apart : sideSell ≠ sideBuy := by decide
  unfold applySide at side
  unfold signedQuantity exchanged
  dsimp only
  by_cases buy : txn.side = sideBuy
  · rw [if_pos buy,if_neg apart,if_pos buy]
  · rw [if_neg buy,if_neg buy]
    by_cases sell : txn.side = sideSell
    · rw [if_pos sell,if_pos rfl,Int64.neg_neg]
    · rw [if_neg buy,if_neg sell] at side
      contradiction

theorem Opposite.transaction {state other next after : ReconciledState} {txn : Transaction}
    (opposite : Opposite state other) (positive : 0 < txn.quantity)
    (above : ∀ value ∈ signedSums state (signedQuantity txn) txn.price, value ≠ Int64.minValue)
    (applied : applyTransaction state txn = .ok next) (applied' : applyTransaction other (exchanged txn) = .ok after) :
    Opposite next after := by
  have turned := signedQuantity_exchanged applied
  obtain ⟨folded,trade,rfl⟩ := applyTransaction_trade state next txn applied
  obtain ⟨folded',trade',rfl⟩ := applyTransaction_trade other after _ applied'
  have value := signedQuantity_value txn positive
  have range := fits_toInt64 txn.quantity
  rw [Int64.lt_iff_toInt_lt,Int64.toInt_zero] at positive
  unfold FitsInt64 at range
  have nonzero : (signedQuantity txn).toInt ≠ 0 := by
    rw [value]
    split <;> omega
  have traded : signedQuantity txn ≠ Int64.minValue := by
    rw [Ne,← Int64.toInt_inj,value,Int64.toInt_minValue]
    split <;> omega
  rw [turned] at trade'
  have result := opposite.trade nonzero traded above trade trade'
  exact ⟨result.position,result.averageCost,result.realizedPnL⟩

theorem run_opposite (txns : List Transaction) (state other : ReconciledState) (states mirrored : List ReconciledState)
    (opposite : Opposite state other) (positive : ∀ txn ∈ txns, 0 < txn.quantity)
    (folded : transactionStates state txns = .ok states)
    (folded' : transactionStates other (txns.map exchanged) = .ok mirrored)
    (above : AtEveryStep (fun state txn =>
      ∀ value ∈ signedSums state (signedQuantity txn) txn.price, value ≠ Int64.minValue) state txns) :
    List.Forall₂ Opposite states mirrored := by
  induction txns generalizing state other states mirrored with
  | nil =>
    obtain rfl := Except.ok.inj folded
    obtain rfl := Except.ok.inj folded'
    exact .nil
  | cons txn rest ih =>
    obtain ⟨next,applied,folded⟩ := bind_success _ _ _ folded
    obtain ⟨later,tail,folded⟩ := bind_success _ _ _ folded
    obtain ⟨after,applied',folded'⟩ := bind_success _ _ _ folded'
    obtain ⟨later',tail',folded'⟩ := bind_success _ _ _ folded'
    obtain rfl := Except.ok.inj folded
    obtain rfl := Except.ok.inj folded'
    obtain ⟨here,rest⟩ := above
    rw [afterStep,applied] at rest
    have step := opposite.transaction (positive txn List.mem_cons_self) here applied applied'
    exact .cons step (ih next after later later' step (fun t member => positive t (List.mem_cons_of_mem _ member))
      tail tail' rest)

/-- A run and the run with buys and sells exchanged have opposite positions and profits and equal
costs after every step. -/
theorem long_short_symmetric (tenantID instrument : Bytes) (txns : List Transaction)
    (states mirrored : List ReconciledState) (positive : ∀ txn ∈ txns, 0 < txn.quantity)
    (folded : transactionStates (.zero tenantID instrument) txns = .ok states)
    (folded' : transactionStates (.zero tenantID instrument) (txns.map exchanged) = .ok mirrored)
    (above : AtEveryStep (fun state txn =>
      ∀ value ∈ signedSums state (signedQuantity txn) txn.price, value ≠ Int64.minValue)
        (.zero tenantID instrument) txns) :
    List.Forall₂ Opposite states mirrored :=
  run_opposite txns _ _ states mirrored ⟨rfl,rfl,rfl⟩ positive folded folded' above

-- Open, extend, close in part, flip.
theorem long_short_symmetric_through_flip :
    let txns := [sampleTrade "acme" 1 sideBuy 200000000 300000000,sampleTrade "acme" 1 sideBuy 100000000 250000001,
      sampleTrade "acme" 1 sideSell 100000000 400000000,sampleTrade "acme" 1 sideSell 500000000 400000003]
    ∃ states mirrored, transactionStates (.zero (text "acme") (text "BTC-USD")) txns = .ok states ∧
      transactionStates (.zero (text "acme") (text "BTC-USD")) (txns.map exchanged) = .ok mirrored ∧
      List.Forall₂ Opposite states mirrored := by
  intro txns
  have positive : ∀ txn ∈ txns, 0 < txn.quantity := by
    simp only [txns,List.forall_mem_cons]
    refine ⟨?_,?_,?_,?_,nofun⟩ <;> decide
  refine ⟨_,_,rfl,rfl,long_short_symmetric (text "acme") (text "BTC-USD") txns _ _ positive rfl rfl ?_⟩
  refine ⟨?_,?_,?_,?_,trivial⟩ <;> exact List.forall_mem_ne'.mpr (by decide)

end runs

end ControlPlane.Processor
