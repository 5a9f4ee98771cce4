import ControlPlane.Ledger.Amount

/-! Weighted-average-cost accounting (`internal/processor/processor.go`). `applyTrade` is
the source's `int64` computation; `exactTrade` is the same formulas over unbounded
integers. The two agree on every trade whose sums stay in range. -/
namespace ControlPlane.Processor
open Go Ledger

/-- The trade extends the position: no position yet, or the same sign. -/
def sameDirection (position signedQuantity : Int64) : Bool :=
  position == 0 || decide (position > 0) == decide (signedQuantity > 0)

def magnitude (value : Int64) : Int64 := if value < 0 then -value else value

/-- The quantity of the existing position that an opposing trade closes. -/
def closingQuantity (position signedQuantity : Int64) : Int64 :=
  if magnitude position < magnitude signedQuantity then magnitude position else magnitude signedQuantity

def pnlPerUnit (position averageCost price : Int64) : Int64 :=
  if position > 0 then price - averageCost else averageCost - price

def extendPosition (state : ReconciledState) (signedQuantity price : Int64) :
    Except Error ReconciledState := do
  let existingCost ← wrapping "compute existing cost basis: %w" (mulAmount state.position state.averageCost)
  let addedCost ← wrapping "compute trade cost: %w" (mulAmount signedQuantity price)
  let newPosition := state.position + signedQuantity
  let averageCost ← wrapping "compute new average cost: %w" (divAmount (existingCost + addedCost) newPosition)
  return {state with averageCost := averageCost, position := newPosition}

def closePosition (state : ReconciledState) (signedQuantity price : Int64) :
    Except Error ReconciledState := do
  let closing := closingQuantity state.position signedQuantity
  let realized ← wrapping "compute realized pnl: %w"
    (mulAmount closing (pnlPerUnit state.position state.averageCost price))
  let flipQuantity := magnitude signedQuantity - closing
  let position := state.position + signedQuantity
  let averageCost :=
    if position = 0 then 0
    else if flipQuantity > 0 then price
    else state.averageCost
  return {state with realizedPnL := state.realizedPnL + realized, position, averageCost}

def applyTrade (state : ReconciledState) (signedQuantity price : Int64) : Except Error ReconciledState :=
  if sameDirection state.position signedQuantity then extendPosition state signedQuantity price
  else closePosition state signedQuantity price

section results
variable {state : ReconciledState} {signedQuantity price : Int64}

theorem applyTrade_extends {existingCost addedCost averageCost : Int64}
    (same : sameDirection state.position signedQuantity = true)
    (existing : mulAmount state.position state.averageCost = .ok existingCost)
    (added : mulAmount signedQuantity price = .ok addedCost)
    (divided : divAmount (existingCost + addedCost) (state.position + signedQuantity) = .ok averageCost) :
    applyTrade state signedQuantity price =
      .ok {state with averageCost,position := state.position + signedQuantity} := by
  unfold applyTrade extendPosition
  rw [if_pos same,existing,added]
  simp only [wrapping,Except.mapError,bind,Except.bind,divided,pure,Except.pure]

theorem applyTrade_closes {realized : Int64} (opposing : sameDirection state.position signedQuantity = false)
    (product : mulAmount (closingQuantity state.position signedQuantity)
      (pnlPerUnit state.position state.averageCost price) = .ok realized) :
    applyTrade state signedQuantity price = .ok {state with
      realizedPnL := state.realizedPnL + realized
      position := state.position + signedQuantity
      averageCost :=
        if state.position + signedQuantity = 0 then 0
        else if magnitude signedQuantity - closingQuantity state.position signedQuantity > 0 then price
        else state.averageCost} := by
  unfold applyTrade closePosition
  rw [opposing,if_neg Bool.false_ne_true]
  simp only [product,wrapping,Except.mapError,bind,Except.bind,pure,Except.pure]

theorem applyTrade_extended {result : ReconciledState} (same : sameDirection state.position signedQuantity = true)
    (ok : applyTrade state signedQuantity price = .ok result) :
    ∃ existingCost addedCost averageCost, mulAmount state.position state.averageCost = .ok existingCost ∧
      mulAmount signedQuantity price = .ok addedCost ∧
      divAmount (existingCost + addedCost) (state.position + signedQuantity) = .ok averageCost ∧
      result = {state with averageCost,position := state.position + signedQuantity} := by
  unfold applyTrade at ok
  rw [if_pos same] at ok
  obtain ⟨existingCost,existing,ok⟩ := bind_success _ _ _ ok
  obtain ⟨addedCost,added,ok⟩ := bind_success _ _ _ ok
  obtain ⟨averageCost,divided,ok⟩ := bind_success _ _ _ ok
  rw [wrapping_ok] at existing added divided
  exact ⟨existingCost,addedCost,averageCost,existing,added,divided,(Except.ok.inj ok).symm⟩

theorem applyTrade_closed {result : ReconciledState} (opposing : sameDirection state.position signedQuantity = false)
    (ok : applyTrade state signedQuantity price = .ok result) :
    ∃ realized, mulAmount (closingQuantity state.position signedQuantity)
        (pnlPerUnit state.position state.averageCost price) = .ok realized ∧
      result = {state with
        realizedPnL := state.realizedPnL + realized
        position := state.position + signedQuantity
        averageCost :=
          if state.position + signedQuantity = 0 then 0
          else if magnitude signedQuantity - closingQuantity state.position signedQuantity > 0 then price
          else state.averageCost} := by
  have attempt := ok
  unfold applyTrade at attempt
  rw [opposing,if_neg Bool.false_ne_true] at attempt
  obtain ⟨realized,product,-⟩ := bind_success _ _ _ attempt
  rw [wrapping_ok] at product
  rw [applyTrade_closes opposing product] at ok
  exact ⟨realized,product,(Except.ok.inj ok).symm⟩

end results

def applyBuy (state : ReconciledState) (txn : Transaction) : Except Error ReconciledState :=
  applyTrade state txn.quantity txn.price

def applySell (state : ReconciledState) (txn : Transaction) : Except Error ReconciledState :=
  applyTrade state (-txn.quantity) txn.price

/-- The switch of `applyTransaction` over the side. -/
def applySide (state : ReconciledState) (txn : Transaction) : Except Error ReconciledState :=
  if txn.side = sideBuy then applyBuy state txn
  else if txn.side = sideSell then applySell state txn
  else .error (.errorf "unknown transaction side %q" [.bytes txn.side.name])

def applyTransaction (state : ReconciledState) (txn : Transaction) : Except Error ReconciledState := do
  let folded ← applySide state txn
  return {folded with lastTransactionID := some txn.id}

/-- The amounts of a reconciled state, over unbounded integers. -/
structure Books where
  position : Int
  averageCost : Int
  realizedPnL : Int
  deriving DecidableEq, Repr

def books (state : ReconciledState) : Books :=
  ⟨state.position.toInt,state.averageCost.toInt,state.realizedPnL.toInt⟩

def exactExtend (b : Books) (signedQuantity price : Int) : Books :=
  ⟨b.position + signedQuantity,
    exactDiv (exactMul b.position b.averageCost + exactMul signedQuantity price) (b.position + signedQuantity),
    b.realizedPnL⟩

/-- The realized profit of an opposing trade. -/
def exactRealized (b : Books) (signedQuantity price : Int) : Int :=
  exactMul (min |signedQuantity| |b.position|)
    (if b.position > 0 then price - b.averageCost else b.averageCost - price)

def exactClose (b : Books) (signedQuantity price : Int) : Books :=
  ⟨b.position + signedQuantity,
    if b.position + signedQuantity = 0 then 0
      else if |signedQuantity| - min |signedQuantity| |b.position| > 0 then price
      else b.averageCost,
    b.realizedPnL + exactRealized b signedQuantity price⟩

/-- The formulas of `applyTrade` over unbounded integers. -/
def exactTrade (b : Books) (signedQuantity price : Int) : Books :=
  if b.position = 0 ∨ (b.position > 0 ↔ signedQuantity > 0) then exactExtend b signedQuantity price
  else exactClose b signedQuantity price

end ControlPlane.Processor
