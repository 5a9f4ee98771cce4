import ControlPlane.Processor.ExactAccounting

/-! Value conservation of the profit-and-loss ledger. Cash flow, cost basis and realized
profit balance after every trade up to the remainders of its truncating divisions: two
products rescaled by `amountScale` and, when the position is extended, one quotient by
the new position. -/
namespace ControlPlane.Processor
open Go Ledger

def scale : Int := amountScale.toInt

-- Realized profit less cost basis, in units of 1/scale.
def imbalance (b : Books) : Int := scale * b.realizedPnL - b.position * b.averageCost

theorem exactMul_error (a b : Int) : |a * b - scale * exactMul a b| < scale := by
  have bound := tdiv_error (a * b) scale (by decide)
  have value : |scale| = scale := abs_of_pos (by decide)
  rwa [value] at bound

theorem exactDiv_error (a b : Int) (nonzero : b ≠ 0) : |scale * a - b * exactDiv a b| < |b| := by
  have value : exactDiv a b = (scale * a).tdiv b := by
    unfold exactDiv scale
    rw [mul_comm]
  rw [value]
  exact tdiv_error (scale * a) b nonzero

theorem extend_balance (b : Books) (q p : Int) (nonzero : b.position + q ≠ 0) :
    |imbalance (exactExtend b q p) - imbalance b + q * p| ≤ 2 * scale + |b.position + q| := by
  have existing := abs_lt.mp (exactMul_error b.position b.averageCost)
  have added := abs_lt.mp (exactMul_error q p)
  have quotient := abs_lt.mp (exactDiv_error (exactMul b.position b.averageCost + exactMul q p) _ nonzero)
  rw [mul_add] at quotient
  rw [abs_le]
  simp only [imbalance,exactExtend]
  constructor <;> linarith

theorem exactRealized_error (b : Books) (q p : Int)
    (opposing : ¬(b.position = 0 ∨ (b.position > 0 ↔ q > 0))) :
    |(if |q| ≤ |b.position| then -q else b.position) * (p - b.averageCost) -
      scale * exactRealized b q p| < scale := by
  have bound := exactMul_error (min |q| |b.position|)
    (if b.position > 0 then p - b.averageCost else b.averageCost - p)
  have closed : min |q| |b.position| * (if b.position > 0 then p - b.averageCost else b.averageCost - p) =
      (if |q| ≤ |b.position| then -q else b.position) * (p - b.averageCost) := by
    rcases lt_or_ge 0 b.position with long | short
    · rw [if_pos long,abs_of_nonpos (by omega : q ≤ 0),abs_of_pos long]
      split
      · rw [min_eq_left (by omega)]
      · rw [min_eq_right (by omega)]
    · rw [if_neg (by omega),abs_of_pos (by omega : 0 < q),abs_of_nonpos short]
      split
      · rw [min_eq_left (by omega)]
        ring
      · rw [min_eq_right (by omega)]
        ring
  rwa [closed] at bound

theorem close_balance (b : Books) (q p : Int)
    (opposing : ¬(b.position = 0 ∨ (b.position > 0 ↔ q > 0))) :
    |imbalance (exactClose b q p) - imbalance b + q * p| ≤ 2 * scale + |b.position + q| := by
  have realized := abs_lt.mp (exactRealized_error b q p opposing)
  have size := abs_nonneg (b.position + q)
  have positive : 0 < scale := by decide
  -- What is left of the imbalance is the remainder of the realized profit alone.
  have balance : imbalance (exactClose b q p) - imbalance b + q * p =
      scale * exactRealized b q p -
        (if |q| ≤ |b.position| then -q else b.position) * (p - b.averageCost) := by
    simp only [imbalance,exactClose]
    rcases eq_or_ne (b.position + q) 0 with flat | open_
    · have opposite : q = -b.position := by omega
      subst opposite
      simp
      ring
    · rw [if_neg open_]
      by_cases partial_ : |q| ≤ |b.position|
      · rw [if_pos partial_,if_neg (by rw [min_eq_left partial_]; omega)]
        ring
      · rw [if_neg partial_,if_pos (by rw [min_eq_right (by omega)]; omega)]
        ring
  rw [balance,abs_le]
  constructor <;> linarith

theorem trade_balance (b : Books) (q p : Int) (nonzero : q ≠ 0) :
    |imbalance (exactTrade b q p) - imbalance b + q * p| ≤ 2 * scale + |(exactTrade b q p).position| := by
  unfold exactTrade
  split
  · rename_i direction
    exact extend_balance b q p (by omega)
  · rename_i opposing
    exact close_balance b q p opposing

theorem exactTrade_position (b : Books) (q p : Int) : (exactTrade b q p).position = b.position + q := by
  unfold exactTrade
  split <;> rfl

-- The states after each trade of a fold that meets no error.
def tradeStates : ReconciledState → List (Int64 × Int64) → Except Error (List ReconciledState)
  | _,[] => .ok []
  | state,(signedQuantity,price)::rest => do
    let next ← applyTrade state signedQuantity price
    let states ← tradeStates next rest
    return next::states

def TradesFit : ReconciledState → List (Int64 × Int64) → Prop
  | _,[] => True
  | state,(signedQuantity,price)::rest => TradeFits state signedQuantity price ∧
    match applyTrade state signedQuantity price with
    | .ok next => TradesFit next rest
    | .error _ => True

def cashFlow (trades : List (Int64 × Int64)) : Int := (trades.map fun trade => trade.1.toInt * trade.2.toInt).sum

def truncation (states : List ReconciledState) : Int := (states.map fun s => 2 * scale + |s.position.toInt|).sum

theorem run_balance (trades : List (Int64 × Int64)) (state : ReconciledState) (states : List ReconciledState)
    (valid : ∀ trade ∈ trades, trade.1 ≠ 0 ∧ 0 < trade.2) (cost : 0 ≤ state.averageCost.toInt)
    (folded : tradeStates state trades = .ok states) (fits : TradesFit state trades) :
    (states.getLastD state).position.toInt = state.position.toInt + (trades.map (·.1.toInt)).sum ∧
      |imbalance (books (states.getLastD state)) - imbalance (books state) + cashFlow trades| ≤
        truncation states := by
  induction trades generalizing state states with
  | nil =>
    have empty : states = [] := (Except.ok.inj folded).symm
    subst states
    simp [cashFlow,truncation]
  | cons trade rest ih =>
    obtain ⟨q,p⟩ := trade
    obtain ⟨next,applied,folded⟩ := bind_success _ _ _ folded
    obtain ⟨following,tail,folded⟩ := bind_success _ _ _ folded
    simp only [pure,Except.pure,Except.ok.injEq] at folded
    subst states
    obtain ⟨nonzero,positive⟩ := valid (q,p) (by simp)
    rw [Int64.lt_iff_toInt_lt,Int64.toInt_zero] at positive
    rw [Ne,← Int64.toInt_inj,Int64.toInt_zero] at nonzero
    simp only [TradesFit,applied] at fits
    have exact := applyTrade_exact state next q p fits.1 cost positive applied
    have moved : (books next).position = (books state).position + q.toInt := by
      rw [exact,exactTrade_position]
    have nextCost : 0 ≤ (books next).averageCost := by
      rw [exact]
      exact exactTrade_cost_nonneg _ _ _ cost positive
    have step := trade_balance (books state) q.toInt p.toInt nonzero
    rw [← exact] at step
    obtain ⟨position,balance⟩ := ih next following (fun t member => valid t (by simp [member])) nextCost tail fits.2
    simp only [List.getLastD_cons,List.map_cons,List.sum_cons,cashFlow,truncation] at position balance step ⊢
    rw [abs_le] at step balance ⊢
    simp only [books] at step balance moved ⊢
    refine ⟨by omega,?_⟩
    constructor <;> linarith

/-- Realized profit plus cost basis equals net cash flow up to the truncation of each
trade, through opens, extensions, partial and exact closes and flips, long and short. -/
theorem value_conservation (tenantID instrument : Bytes) (trades : List (Int64 × Int64))
    (states : List ReconciledState) (valid : ∀ trade ∈ trades, trade.1 ≠ 0 ∧ 0 < trade.2)
    (folded : tradeStates (.zero tenantID instrument) trades = .ok states)
    (fits : TradesFit (.zero tenantID instrument) trades) :
    let final := states.getLastD (.zero tenantID instrument)
    final.position.toInt = (trades.map (·.1.toInt)).sum ∧
      |amountScale.toInt * final.realizedPnL.toInt -
          (final.position.toInt * final.averageCost.toInt - (trades.map fun t => t.1.toInt * t.2.toInt).sum)| ≤
        (states.map fun s => 2 * amountScale.toInt + |s.position.toInt|).sum := by
  intro final
  obtain ⟨position,balance⟩ := run_balance trades _ states valid le_rfl folded fits
  have start : imbalance (books (.zero tenantID instrument)) = 0 := rfl
  have empty : (ReconciledState.zero tenantID instrument).position.toInt = 0 := rfl
  rw [start] at balance
  rw [empty,zero_add] at position
  refine ⟨position,?_⟩
  have same : amountScale.toInt * final.realizedPnL.toInt - (final.position.toInt * final.averageCost.toInt -
      (trades.map fun t => t.1.toInt * t.2.toInt).sum) =
      imbalance (books final) - 0 + cashFlow trades := by
    simp only [imbalance,books,cashFlow,scale]
    ring
  rw [same]
  exact balance

-- Open long, extend, close in part, flip short, cover exactly.
theorem value_conservation_round_trip :
    let trades : List (Int64 × Int64) := [(300000000,150000000),(100000000,170000001),
      (-200000000,160000003),(-500000000,140000000),(300000000,130000007)]
    ∃ states, tradeStates (.zero (text "acme") (text "AAPL")) trades = .ok states ∧
      (states.getLastD (.zero (text "acme") (text "AAPL"))).position.toInt = (trades.map (·.1.toInt)).sum := by
  intro trades
  refine ⟨_,rfl,?_⟩
  refine (value_conservation (text "acme") (text "AAPL") trades _ ?_ rfl ?_).1
  · simp [trades]
  · refine ⟨?_,?_,?_,?_,?_,trivial⟩
    · show FitsInt64 _ ∧ FitsInt64 _
      decide
    · show FitsInt64 _ ∧ FitsInt64 _
      decide
    · show FitsInt64 _ ∧ FitsInt64 _ ∧ FitsInt64 _
      decide
    · show FitsInt64 _ ∧ FitsInt64 _ ∧ FitsInt64 _
      decide
    · show FitsInt64 _ ∧ FitsInt64 _ ∧ FitsInt64 _
      decide

end ControlPlane.Processor
