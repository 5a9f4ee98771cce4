import ControlPlane.Data.Numeric
import ControlPlane.Ledger.Amount
import ControlPlane.Ledger.Storage

/-! The migration of the amounts from `NUMERIC` columns to `BIGINT` ones scaled by `amountScale`,
and the one back (`migrations/0003_amounts_to_bigint`). -/
namespace ControlPlane.Ledger
open Go Data.Numeric

-- A row of 0001_create_transactions.up.sql, which its CHECK constraints accept.
structure NumericTransaction where
  id : Int64
  eventID : UUID
  tenantID : Bytes
  schemaVersion : Int16
  instrument : Bytes
  side : Side
  quantity : Column 20 8
  price : Column 20 8
  currency : Bytes
  occurredAt : Time
  knownSide : side = sideBuy ∨ side = sideSell
  positiveQuantity : quantity.exceeds 0 = true
  positivePrice : price.exceeds 0 = true

-- A row of 0002_create_reconciled_state.up.sql.
structure NumericState where
  tenantID : Bytes
  instrument : Bytes
  position : Column 20 8
  averageCost : Column 20 8
  realizedPnL : Column 20 4
  lastTransactionID : Option Int64

structure NumericTables where
  transactions : List NumericTransaction
  reconciledState : List NumericState

/-- A row of `transactions` that its CHECK constraints accept. -/
abbrev CheckedTransaction := {txn : Transaction // CheckConstraints txn}

structure BigintTables where
  transactions : List CheckedTransaction
  reconciledState : List ReconciledState

def pgOutOfRange : Error := .new "SQLSTATE 22003"

def pgCannotConvert : Error := .new "SQLSTATE 0A000"

namespace Migration

-- The literal of the guard.
def bigintLimit : ℚ := 92233720368.54775807

-- `number::BIGINT`.
def toBigint (number : Decimal) : Except Error Int64 :=
  let rounded := (number.rescale 0).coefficient
  if FitsInt64 rounded then .ok (Int64.ofInt rounded) else .error pgOutOfRange

-- `(amount * 100000000)::BIGINT`.
def scaleUp {precision scale : Nat} (amount : Column precision scale) : Except Error Int64 :=
  match amount.decimal with
  | none => .error pgCannotConvert
  | some number => toBigint (number.mul (.ofInt 100000000))

-- `(amount / 100000000.0)::NUMERIC(precision, scale)`.
def scaleDown (precision scale : Nat) (amount : Int64) : Except Error (Column precision scale) :=
  match Column.cast precision scale ((Decimal.ofInt amount.toInt).div ⟨1000000000,1⟩) with
  | none => .error pgOutOfRange
  | some column => .ok column

def upTransaction (row : NumericTransaction) : Except Error CheckedTransaction := do
  let quantity ← scaleUp row.quantity
  let price ← scaleUp row.price
  let txn : Transaction := ⟨row.id,row.eventID,row.tenantID,row.schemaVersion,row.instrument,row.side,quantity,price,
    row.currency,row.occurredAt⟩
  if accepted : CheckConstraints txn then return ⟨txn,accepted⟩ else throw pgCheckViolation

def upState (row : NumericState) : Except Error ReconciledState := do
  return ⟨row.tenantID,row.instrument,← scaleUp row.position,← scaleUp row.averageCost,← scaleUp row.realizedPnL,
    row.lastTransactionID⟩

def largeTransaction (row : NumericTransaction) : Bool :=
  row.quantity.exceeds bigintLimit || row.price.exceeds bigintLimit

def largeState (row : NumericState) : Bool :=
  row.position.abs.exceeds bigintLimit || row.averageCost.abs.exceeds bigintLimit || row.realizedPnL.abs.exceeds
    bigintLimit

/-- 0003_amounts_to_bigint.up.sql. -/
def up (tables : NumericTables) : Except Error BigintTables := do
  if tables.transactions.any largeTransaction then
    throw (.new ("transactions contains a quantity or price too large to convert to BIGINT at 1e8 scale; " ++
      "audit/backfill offending rows before running this migration"))
  if tables.reconciledState.any largeState then
    throw (.new ("reconciled_state contains a position, average_cost, or realized_pnl too large to convert to " ++
      "BIGINT at 1e8 scale; audit/backfill offending rows before running this migration"))
  let transactions ← tables.transactions.mapM upTransaction
  let reconciledState ← tables.reconciledState.mapM upState
  return ⟨transactions,reconciledState⟩

def downTransaction (row : CheckedTransaction) : Except Error NumericTransaction := do
  let quantity ← scaleDown 20 8 row.1.quantity
  let price ← scaleDown 20 8 row.1.price
  if positive : quantity.exceeds 0 = true ∧ price.exceeds 0 = true then
    return ⟨row.1.id,row.1.eventID,row.1.tenantID,row.1.schemaVersion,row.1.instrument,row.1.side,quantity,price,
      row.1.currency,row.1.occurredAt,row.2.1,positive.1,positive.2⟩
  else throw pgCheckViolation

def downState (row : ReconciledState) : Except Error NumericState := do
  return ⟨row.tenantID,row.instrument,← scaleDown 20 8 row.position,← scaleDown 20 8 row.averageCost,
    ← scaleDown 20 4 row.realizedPnL,row.lastTransactionID⟩

/-- 0003_amounts_to_bigint.down.sql. -/
def down (tables : BigintTables) : Except Error NumericTables := do
  let transactions ← tables.transactions.mapM downTransaction
  let reconciledState ← tables.reconciledState.mapM downState
  return ⟨transactions,reconciledState⟩

/-- What an amount stands for. -/
def amountValue (amount : Int64) : ℚ := amount.toInt / amountScale.toInt

/-- An amount with some digits after the point. -/
def shown (scale : Nat) (amount : Int64) : ℚ := roundHalfAway (amountValue amount * 10^scale) / 10^scale

section amounts
variable {precision scale : Nat} {column other : Column precision scale} {amount : Int64}

theorem amountValue_eq (amount : Int64) : amountValue amount = amount.toInt / 10^8 := by
  rw [amountValue,amountScale_value]
  norm_num

theorem amountValue_injective {amount other : Int64} (same : amountValue amount = amountValue other) :
    amount = other := by
  simp only [amountValue_eq] at same
  rw [← Int64.toInt_inj]
  field_simp at same
  exact_mod_cast same

theorem column_injective {value : ℚ} (one : column.value = some value) (two : other.value = some value) :
    column = other := by
  cases column with
  | nan => simp [Column.value,Column.decimal] at one
  | finite coefficient fits =>
    cases other with
    | nan => simp [Column.value,Column.decimal] at two
    | finite coefficient' fits' =>
      simp only [Column.value,Column.decimal,Option.map_some,Option.some.injEq,Decimal.value] at one two
      rw [← two] at one
      field_simp at one
      congr 1
      exact_mod_cast one

/-- An amount is scaled up to the integer that stands for it. -/
theorem scaleUp_ok_iff (coarse : scale ≤ 8) : scaleUp column = .ok amount ↔
    column.value = some (amountValue amount) := by
  cases column with
  | nan => simp [scaleUp,Column.value,Column.decimal]
  | finite coefficient fits =>
    obtain ⟨more,digits⟩ := Nat.exists_eq_add_of_le coarse
    have power : (10 : ℚ)^8 = 10^scale * 10^more := by rw [digits,pow_add]
    have whole : ((⟨coefficient,scale⟩ : Decimal).mul (.ofInt 100000000)).value * 10^0 =
      ((coefficient * 10^more : ℤ) : ℚ) := by
      rw [Decimal.value_mul,Decimal.value_ofInt,show ((100000000 : ℤ) : ℚ) = 10^8 by norm_num,power,← mul_assoc,
        Decimal.value_mk]
      simp
    have scaled : scaleUp (.finite coefficient fits : Column precision scale) =
        if FitsInt64 (coefficient * 10^more) then .ok (Int64.ofInt (coefficient * 10^more)) else
          .error pgOutOfRange := by
      simp only [scaleUp,Column.decimal,toBigint,Decimal.rescale_exact whole]
    have same : (Column.finite coefficient fits : Column precision scale).value = some (amountValue amount) ↔
        coefficient * 10^more = amount.toInt := by
      simp only [Column.value,Column.decimal,Option.map_some,Option.some.injEq,Decimal.value,amountValue_eq,power]
      field_simp
      exact_mod_cast Iff.rfl
    rw [scaled,same]
    constructor
    · intro converted
      split at converted
      next inside =>
        cases converted
        rw [ofInt64_value _ inside]
      next => simp at converted
    · intro value
      rw [value,if_pos (fits_toInt64 amount),Int64.ofInt_toInt]

theorem abs_toInt_le (amount : Int64) : |amount.toInt| ≤ 2^63 := by
  obtain ⟨above,below⟩ := fits_toInt64 amount
  rw [abs_le]
  omega

/-- The quotient by the scale has at most eight digits after the point and is never rounded. -/
theorem quotient_exact (amount : Int64) :
    ((Decimal.ofInt amount.toInt).div ⟨1000000000,1⟩).value = amountValue amount := by
  have divisor : (⟨1000000000,1⟩ : Decimal).value = 10^8 := by norm_num [Decimal.value]
  have heavy : (⟨1000000000,1⟩ : Decimal).weight = 2 := by
    have power : |(10 : ℚ)^8| = ((10000 : ℕ) : ℚ)^(2 : ℤ) := by norm_num
    rw [Decimal.weight,divisor,power]
    exact Int.log_zpow (by norm_num) 2
  have light : (Decimal.ofInt amount.toInt).weight ≤ (4 : Nat) := by
    apply Decimal.weight_le
    rw [Decimal.value_ofInt,← Int.cast_abs]
    exact_mod_cast (abs_toInt_le amount).trans_lt (by norm_num)
  have whole : (Decimal.ofInt amount.toInt).value / (⟨1000000000,1⟩ : Decimal).value * 10^8 = (amount.toInt : ℚ) := by
    rw [Decimal.value_ofInt,divisor]
    field_simp
  rw [Decimal.div_exact whole (Decimal.divScale_enough (by omega)),Decimal.value_ofInt,divisor,amountValue_eq]

theorem shown_fits (amount : Int64) (coarse : scale ≤ 8) : (roundHalfAway (amountValue amount * 10^scale)).natAbs <
    10^20 := by
  have near := abs_le.mp (roundHalfAway_near (amountValue amount * 10^scale))
  have size : |amountValue amount * 10^scale| ≤ 2^63 := by
    have smaller : (10 : ℚ)^scale ≤ 10^8 := pow_le_pow_right₀ (by norm_num) coarse
    have whole : |(amount.toInt : ℚ)| ≤ 2^63 := by exact_mod_cast abs_toInt_le amount
    rw [amountValue_eq,abs_mul,abs_div,abs_of_pos (show (0 : ℚ) < 10^8 by norm_num),
      abs_of_pos (show (0 : ℚ) < 10^scale by positivity)]
    calc |(amount.toInt : ℚ)| / 10^8 * 10^scale ≤ |(amount.toInt : ℚ)| / 10^8 * 10^8 := by gcongr
      _ = |(amount.toInt : ℚ)| := by field_simp
      _ ≤ 2^63 := whole
  have bounds := abs_le.mp size
  have rounded : |(roundHalfAway (amountValue amount * 10^scale) : ℚ)| < 10^20 := by
    rw [abs_lt]
    constructor <;> linarith
  have inside : |roundHalfAway (amountValue amount * 10^scale)| < 10^20 := by exact_mod_cast rounded
  rw [Int.abs_eq_natAbs] at inside
  omega

theorem scaleDown_ok_iff {column : Column 20 scale} (coarse : scale ≤ 8) :
    scaleDown 20 scale amount = .ok column ↔ column.value = some (shown scale amount) := by
  have fits := shown_fits amount coarse
  have cast : scaleDown 20 scale amount = .ok (.finite (roundHalfAway (amountValue amount * 10^scale)) fits) := by
    rw [scaleDown,Column.cast_fits (quotient_exact amount) fits]
  have value : (Column.finite _ fits : Column 20 scale).value = some (shown scale amount) := rfl
  rw [cast,Except.ok.injEq]
  constructor
  · intro same
    rw [← same,value]
  · exact fun same => column_injective value same

theorem shown_eight (amount : Int64) : shown 8 amount = amountValue amount := by
  have whole : amountValue amount * 10^8 = ((amount.toInt : ℤ) : ℚ) := by
    rw [amountValue_eq]
    field_simp
  rw [shown,whole,roundHalfAway_intCast,amountValue_eq]

end amounts

/-- The two rows hold the same trade. -/
structure SameTransaction (old : NumericTransaction) (new : CheckedTransaction) : Prop where
  id : new.1.id = old.id
  eventID : new.1.eventID = old.eventID
  tenantID : new.1.tenantID = old.tenantID
  schemaVersion : new.1.schemaVersion = old.schemaVersion
  instrument : new.1.instrument = old.instrument
  side : new.1.side = old.side
  currency : new.1.currency = old.currency
  occurredAt : new.1.occurredAt = old.occurredAt
  quantity : old.quantity.value = some (amountValue new.1.quantity)
  price : old.price.value = some (amountValue new.1.price)

/-- The two rows hold the same position, with `pnl` for the realized P&L of the new one. -/
structure SameState (pnl : Int64 → ℚ) (old : NumericState) (new : ReconciledState) : Prop where
  tenantID : new.tenantID = old.tenantID
  instrument : new.instrument = old.instrument
  lastTransactionID : new.lastTransactionID = old.lastTransactionID
  position : old.position.value = some (amountValue new.position)
  averageCost : old.averageCost.value = some (amountValue new.averageCost)
  realizedPnL : old.realizedPnL.value = some (pnl new.realizedPnL)

section rows
variable {old : NumericTransaction} {new : CheckedTransaction} {state : NumericState} {state' : ReconciledState}

theorem exceeds_zero {column : Column 20 8} {amount : Int64} (same : column.value = some (amountValue amount)) :
    column.exceeds 0 = true ↔ 0 < amount := by
  rw [Int64.lt_iff_toInt_lt,Int64.toInt_zero,Column.exceeds_iff]
  simp [same,amountValue_eq]

theorem upTransaction_ok_iff : upTransaction old = .ok new ↔ SameTransaction old new := by
  simp only [upTransaction,bind_ok,scaleUp_ok_iff (show 8 ≤ 8 by omega)]
  constructor
  · rintro ⟨quantity,quantities,price,prices,accepted⟩
    split at accepted
    next =>
      cases accepted
      exact ⟨rfl,rfl,rfl,rfl,rfl,rfl,rfl,rfl,quantities,prices⟩
    next => cases accepted
  · intro same
    obtain ⟨⟨id,eventID,tenantID,schemaVersion,instrument,side,quantity,price,currency,occurredAt⟩,accepted⟩ := new
    obtain ⟨rfl,rfl,rfl,rfl,rfl,rfl,rfl,rfl,quantities,prices⟩ := same
    exact ⟨_,quantities,_,prices,dif_pos accepted⟩

theorem downTransaction_ok_iff : downTransaction new = .ok old ↔ SameTransaction old new := by
  simp only [downTransaction,bind_ok,scaleDown_ok_iff (show 8 ≤ 8 by omega),shown_eight]
  constructor
  · rintro ⟨quantity,quantities,price,prices,positive⟩
    split at positive
    next =>
      cases positive
      exact ⟨rfl,rfl,rfl,rfl,rfl,rfl,rfl,rfl,quantities,prices⟩
    next => cases positive
  · intro same
    obtain ⟨id,eventID,tenantID,schemaVersion,instrument,side,quantity,price,currency,occurredAt,known,positive,
      positive'⟩ := old
    obtain ⟨rfl,rfl,rfl,rfl,rfl,rfl,rfl,rfl,quantities,prices⟩ := same
    exact ⟨_,quantities,_,prices,dif_pos ⟨positive,positive'⟩⟩

theorem upState_ok_iff : upState state = .ok state' ↔ SameState amountValue state state' := by
  simp only [upState,bind_ok,scaleUp_ok_iff (show 8 ≤ 8 by omega),scaleUp_ok_iff (show 4 ≤ 8 by omega)]
  constructor
  · rintro ⟨position,positions,cost,costs,pnl,pnls,same⟩
    cases same
    exact ⟨rfl,rfl,rfl,positions,costs,pnls⟩
  · intro same
    obtain ⟨tenantID,instrument,position,averageCost,realizedPnL,last⟩ := state'
    obtain ⟨rfl,rfl,rfl,positions,costs,pnls⟩ := same
    exact ⟨_,positions,_,costs,_,pnls,rfl⟩

theorem downState_ok_iff : downState state' = .ok state ↔ SameState (shown 4) state state' := by
  simp only [downState,bind_ok,scaleDown_ok_iff (show 8 ≤ 8 by omega),scaleDown_ok_iff (show 4 ≤ 8 by omega),
    shown_eight]
  constructor
  · rintro ⟨position,positions,cost,costs,pnl,pnls,same⟩
    cases same
    exact ⟨rfl,rfl,rfl,positions,costs,pnls⟩
  · intro same
    obtain ⟨tenantID,instrument,position,averageCost,realizedPnL,last⟩ := state
    obtain ⟨rfl,rfl,rfl,positions,costs,pnls⟩ := same
    exact ⟨_,positions,_,costs,_,pnls,rfl⟩

/-- What a column holds has no more digits than the column. -/
theorem shown_column {precision scale : Nat} {column : Column precision scale} {amount : Int64}
    (same : column.value = some (amountValue amount)) : shown scale amount = amountValue amount := by
  cases column with
  | nan => simp [Column.value,Column.decimal] at same
  | finite coefficient fits =>
    simp only [Column.value,Column.decimal,Option.map_some,Option.some.injEq] at same
    rw [shown,← same,Decimal.value_mk,roundHalfAway_intCast,Decimal.value]

theorem SameState.shown_four (same : SameState amountValue state state') : SameState (shown 4) state state' :=
  {same with realizedPnL := by rw [shown_column same.realizedPnL,same.realizedPnL]}

/-- The amounts that the guard of the migration lets through. -/
def InRange {precision scale : Nat} (column : Column precision scale) : Prop :=
  ∃ value, column.value = some value ∧ |value| ≤ bigintLimit

section range
variable {precision scale : Nat} {column : Column precision scale}

theorem abs_exceeds_iff : column.abs.exceeds bigintLimit = false ↔ InRange column := by
  rw [Column.exceeds_eq_false,Column.value_abs]
  simp [InRange]

theorem positive_exceeds_iff (positive : column.exceeds 0 = true) : column.exceeds bigintLimit = false ↔
    InRange column := by
  rw [Column.exceeds_eq_false]
  apply exists_congr
  intro value
  apply and_congr_right
  intro same
  rw [abs_of_pos (Column.exceeds_iff.mp positive value same)]

theorem bigintLimit_eq : bigintLimit = (2^63 - 1) / 10^8 := by norm_num [bigintLimit]

theorem InRange.converted (inRange : InRange column) (coarse : scale ≤ 8) :
    ∃ amount, column.value = some (amountValue amount) := by
  obtain ⟨value,same,small⟩ := inRange
  cases column with
  | nan => simp [Column.value,Column.decimal] at same
  | finite coefficient fits =>
    simp only [Column.value,Column.decimal,Option.map_some,Option.some.injEq] at same
    obtain ⟨more,digits⟩ := Nat.exists_eq_add_of_le coarse
    have power : (10 : ℚ)^8 = 10^scale * 10^more := by rw [digits,pow_add]
    have scaled : ((coefficient * 10^more : ℤ) : ℚ) = value * 10^8 := by
      rw [← same,power,← mul_assoc,Decimal.value_mk]
      simp
    have inside : FitsInt64 (coefficient * 10^more) := by
      rw [bigintLimit_eq,le_div_iff₀ (by norm_num),← abs_of_pos (show (0 : ℚ) < 10^8 by norm_num),← abs_mul,← scaled,
        ← Int.cast_abs] at small
      have small' : |coefficient * 10^more| ≤ 2^63 - 1 := by exact_mod_cast small
      rw [abs_le] at small'
      exact ⟨by omega,by omega⟩
    refine ⟨Int64.ofInt (coefficient * 10^more),?_⟩
    rw [amountValue_eq,ofInt64_value _ inside,scaled]
    simp [Column.value,Column.decimal,same]

theorem inRange_iff {amount : Int64} (same : column.value = some (amountValue amount)) :
    InRange column ↔ amount ≠ Int64.minValue := by
  have scaled : InRange column ↔ |amount.toInt| ≤ 2^63 - 1 := by
    simp only [InRange,same,Option.some.injEq,exists_eq_left',bigintLimit_eq,amountValue_eq]
    rw [abs_div,abs_of_pos (show (0 : ℚ) < 10^8 by norm_num),div_le_div_iff_of_pos_right (by norm_num)]
    exact_mod_cast Iff.rfl
  have bounds := fits_toInt64 amount
  rw [scaled,abs_le,ne_eq,← Int64.toInt_inj,Int64.toInt_minValue]
  unfold FitsInt64 at bounds
  omega

end range

end rows

section tables
variable {tables : NumericTables} {after : BigintTables}

theorem up_ok_iff : up tables = .ok after ↔
    tables.transactions.any largeTransaction = false ∧ tables.reconciledState.any largeState = false ∧
      List.Forall₂ SameTransaction tables.transactions after.transactions ∧
      List.Forall₂ (SameState amountValue) tables.reconciledState after.reconciledState := by
  cases trades : tables.transactions.any largeTransaction with
  | true => simp [up,trades,throw,throwThe,MonadExceptOf.throw,Bind.bind,Except.bind]
  | false =>
    cases states : tables.reconciledState.any largeState with
    | true => simp [up,trades,states,throw,throwThe,MonadExceptOf.throw,Bind.bind,Except.bind]
    | false =>
      simp only [up,trades,states,Bool.false_eq_true,if_false,bind_ok,mapM_ok,upTransaction_ok_iff,upState_ok_iff]
      constructor
      · rintro ⟨transactions,sameTrades,reconciledState,sameStates,same⟩
        cases same
        exact ⟨trivial,trivial,sameTrades,sameStates⟩
      · rintro ⟨-,-,sameTrades,sameStates⟩
        exact ⟨_,sameTrades,_,sameStates,rfl⟩

theorem down_ok_iff : down after = .ok tables ↔
    List.Forall₂ (fun new old => SameTransaction old new) after.transactions tables.transactions ∧
      List.Forall₂ (fun new old => SameState (shown 4) old new) after.reconciledState tables.reconciledState := by
  simp only [down,bind_ok,mapM_ok,downTransaction_ok_iff,downState_ok_iff]
  constructor
  · rintro ⟨transactions,trades,states,positions,same⟩
    cases same
    exact ⟨trades,positions⟩
  · rintro ⟨trades,positions⟩
    exact ⟨_,trades,_,positions,rfl⟩

/-- Every amount of the tables is a number that the guard lets through. -/
structure Convertible (tables : NumericTables) : Prop where
  transactions : ∀ row ∈ tables.transactions, InRange row.quantity ∧ InRange row.price
  reconciledState : ∀ row ∈ tables.reconciledState, InRange row.position ∧ InRange row.averageCost ∧
    InRange row.realizedPnL

theorem guards_iff : tables.transactions.any largeTransaction = false ∧ tables.reconciledState.any largeState = false ↔
    Convertible tables := by
  have trade (row : NumericTransaction) : largeTransaction row = false ↔ InRange row.quantity ∧ InRange row.price := by
    rw [largeTransaction,Bool.or_eq_false_iff,positive_exceeds_iff row.positiveQuantity,
      positive_exceeds_iff row.positivePrice]
  have state (row : NumericState) : largeState row = false ↔
      InRange row.position ∧ InRange row.averageCost ∧ InRange row.realizedPnL := by
    rw [largeState,Bool.or_eq_false_iff,Bool.or_eq_false_iff,abs_exceeds_iff,abs_exceeds_iff,abs_exceeds_iff,and_assoc]
  simp only [List.any_eq_false,Bool.not_eq_true,trade,state]
  exact ⟨fun ⟨trades,states⟩ => ⟨trades,states⟩,fun convertible => ⟨convertible.transactions,
    convertible.reconciledState⟩⟩

theorem exists_forall₂ {α β : Type} {R : α → β → Prop} {rows : List α} (each : ∀ row ∈ rows, ∃ other, R row other) :
    ∃ others, List.Forall₂ R rows others := by
  induction rows with
  | nil => exact ⟨[],.nil⟩
  | cons row rows ih =>
    obtain ⟨other,same⟩ := each row List.mem_cons_self
    obtain ⟨others,rest⟩ := ih fun row member => each row (List.mem_cons_of_mem _ member)
    exact ⟨other::others,.cons same rest⟩

theorem transaction_converted (row : NumericTransaction) (quantity : InRange row.quantity) (price : InRange row.price) :
    ∃ new, SameTransaction row new := by
  obtain ⟨quantity,quantities⟩ := quantity.converted (by omega)
  obtain ⟨price,prices⟩ := price.converted (by omega)
  have accepted := And.intro row.knownSide (And.intro ((exceeds_zero quantities).mp row.positiveQuantity)
    ((exceeds_zero prices).mp row.positivePrice))
  exact ⟨⟨⟨row.id,row.eventID,row.tenantID,row.schemaVersion,row.instrument,row.side,quantity,price,row.currency,
    row.occurredAt⟩,
    accepted⟩,rfl,rfl,rfl,rfl,rfl,rfl,rfl,rfl,quantities,prices⟩

theorem state_converted (row : NumericState) (position : InRange row.position) (averageCost : InRange row.averageCost)
    (realizedPnL : InRange row.realizedPnL) : ∃ new, SameState amountValue row new := by
  obtain ⟨position,positions⟩ := position.converted (by omega)
  obtain ⟨cost,costs⟩ := averageCost.converted (by omega)
  obtain ⟨pnl,pnls⟩ := realizedPnL.converted (by omega)
  exact ⟨⟨row.tenantID,row.instrument,position,cost,pnl,row.lastTransactionID⟩,rfl,rfl,rfl,positions,costs,pnls⟩

/-- The migration fails exactly if an amount is no number or too large, keeps the value of every
amount and every other column, and is undone by the one back. -/
theorem bigint_migration_inverted (tables : NumericTables) : ((∃ after, up tables = .ok after) ↔ Convertible tables) ∧
    ∀ after, up tables = .ok after →
      List.Forall₂ SameTransaction tables.transactions after.transactions ∧
      List.Forall₂ (SameState amountValue) tables.reconciledState after.reconciledState ∧ down after = .ok tables := by
  constructor
  · constructor
    · rintro ⟨after,converted⟩
      obtain ⟨trades,states,-⟩ := up_ok_iff.mp converted
      exact guards_iff.mp ⟨trades,states⟩
    · intro convertible
      obtain ⟨trades,states⟩ := guards_iff.mpr convertible
      obtain ⟨transactions,sameTrades⟩ := exists_forall₂ fun row member =>
        transaction_converted row (convertible.transactions row member).1 (convertible.transactions row member).2
      obtain ⟨reconciledState,sameStates⟩ := exists_forall₂ fun row member =>
        have inRange := convertible.reconciledState row member
        state_converted row inRange.1 inRange.2.1 inRange.2.2
      exact ⟨⟨transactions,reconciledState⟩,up_ok_iff.mpr ⟨trades,states,sameTrades,sameStates⟩⟩
  · intro after converted
    obtain ⟨-,-,sameTrades,sameStates⟩ := up_ok_iff.mp converted
    refine ⟨sameTrades,sameStates,down_ok_iff.mpr ⟨sameTrades.flip,?_⟩⟩
    exact (sameStates.imp fun _ _ same => same.shown_four).flip

def sampleTables : NumericTables where
  transactions := [⟨1,.replicate 16 7,text "acme",1,text "AAPL",sideBuy,.finite 150000000 (by decide),
    .finite 1234500000 (by decide),
    text "USD",⟨0,0⟩,Or.inl rfl,by decide +kernel,by decide +kernel⟩]
  reconciledState := [⟨text "acme",text "AAPL",.finite 150000000 (by decide),.finite 1234500000 (by decide),
    .finite (-32500) (by decide),some 1⟩]

theorem sample_migration_inverted : ∃ after, up sampleTables = .ok after ∧ down after = .ok sampleTables := by
  have convertible : Convertible sampleTables := by
    rw [← guards_iff]
    decide +kernel
  obtain ⟨after,converted⟩ := (bigint_migration_inverted sampleTables).1.mpr convertible
  exact ⟨after,converted,((bigint_migration_inverted sampleTables).2 after converted).2.2⟩

end tables

section back
variable {row : NumericState} {state again : ReconciledState} {old : NumericTransaction}
  {new other : CheckedTransaction}

/-- Every amount has a value in a column with at most its digits. -/
theorem amount_shown (amount : Int64) {scale : Nat} (coarse : scale ≤ 8) :
    ∃ column : Column 20 scale, column.value = some (shown scale amount) := ⟨.finite _ (shown_fits amount coarse),rfl⟩

theorem transaction_shown (new : CheckedTransaction) : ∃ old, SameTransaction old new := by
  obtain ⟨quantity,quantities⟩ := amount_shown new.1.quantity (show 8 ≤ 8 by omega)
  obtain ⟨price,prices⟩ := amount_shown new.1.price (show 8 ≤ 8 by omega)
  rw [shown_eight] at quantities prices
  exact ⟨⟨new.1.id,new.1.eventID,new.1.tenantID,new.1.schemaVersion,new.1.instrument,new.1.side,quantity,price,
    new.1.currency,
    new.1.occurredAt,new.2.1,(exceeds_zero quantities).mpr new.2.2.1,(exceeds_zero prices).mpr new.2.2.2⟩,
    rfl,rfl,rfl,rfl,rfl,rfl,rfl,rfl,quantities,prices⟩

theorem state_shown (state : ReconciledState) : ∃ row, SameState (shown 4) row state := by
  obtain ⟨position,positions⟩ := amount_shown state.position (show 8 ≤ 8 by omega)
  obtain ⟨cost,costs⟩ := amount_shown state.averageCost (show 8 ≤ 8 by omega)
  obtain ⟨pnl,pnls⟩ := amount_shown state.realizedPnL (show 4 ≤ 8 by omega)
  rw [shown_eight] at positions costs
  exact ⟨⟨state.tenantID,state.instrument,position,cost,pnl,state.lastTransactionID⟩,rfl,rfl,rfl,positions,costs,pnls⟩

theorem SameTransaction.unique (one : SameTransaction old new) (two : SameTransaction old other) : new = other := by
  have quantity := amountValue_injective (Option.some.inj (one.quantity.symm.trans two.quantity))
  have price := amountValue_injective (Option.some.inj (one.price.symm.trans two.price))
  obtain ⟨⟨id,eventID,tenantID,schemaVersion,instrument,side,quantity,price,currency,occurredAt⟩,accepted⟩ := new
  obtain ⟨⟨id',eventID',tenantID',schemaVersion',instrument',side',quantity',price',currency',occurredAt'⟩,
    accepted'⟩ := other
  obtain ⟨rfl,rfl,rfl,rfl,rfl,rfl,rfl,rfl,-,-⟩ := one
  obtain ⟨rfl,rfl,rfl,rfl,rfl,rfl,rfl,rfl,-,-⟩ := two
  cases quantity
  cases price
  rfl

theorem same_rightUnique : Relator.RightUnique SameTransaction := fun _ _ _ one two => one.unique two

/-- The state that is left of one after both migrations: its realized P&L is rounded to ten-thousandths. -/
structure PnLRounded (state again : ReconciledState) : Prop where
  tenantID : again.tenantID = state.tenantID
  instrument : again.instrument = state.instrument
  position : again.position = state.position
  averageCost : again.averageCost = state.averageCost
  lastTransactionID : again.lastTransactionID = state.lastTransactionID
  whole : 10^4 ∣ again.realizedPnL.toInt
  near : |again.realizedPnL.toInt - state.realizedPnL.toInt| ≤ 5000

theorem scaled_four (amount : Int64) : amountValue amount * 10^4 = amount.toInt / 10^4 := by
  rw [amountValue_eq]
  field_simp

theorem shown_four_iff {amount : Int64} : shown 4 amount = amountValue amount ↔ 10^4 ∣ amount.toInt := by
  constructor
  · intro same
    refine ⟨roundHalfAway (amountValue amount * 10^4),?_⟩
    rw [shown,div_eq_iff (by norm_num),scaled_four,eq_div_iff (by norm_num)] at same
    rw [scaled_four,mul_comm]
    exact_mod_cast same.symm
  · rintro ⟨whole,same⟩
    have digits : amountValue amount * 10^4 = ((whole : ℤ) : ℚ) := by
      rw [scaled_four,same,div_eq_iff (by norm_num)]
      push_cast
      ring
    rw [shown,digits,roundHalfAway_intCast,← digits]
    field_simp

theorem pnl_rounded {pnl pnl' : Int64} (same : shown 4 pnl = amountValue pnl') :
    10^4 ∣ pnl'.toInt ∧ |pnl'.toInt - pnl.toInt| ≤ 5000 := by
  have rounded : pnl'.toInt = roundHalfAway (pnl.toInt / 10^4) * 10^4 := by
    rw [shown,scaled_four,div_eq_iff (by norm_num),scaled_four,eq_div_iff (by norm_num)] at same
    exact_mod_cast same.symm
  refine ⟨⟨_,by rw [rounded,mul_comm]⟩,?_⟩
  have near := abs_le.mp (roundHalfAway_near (pnl.toInt / 10^4))
  have bounds : |((pnl'.toInt - pnl.toInt : ℤ) : ℚ)| ≤ 5000 := by
    rw [rounded,abs_le]
    push_cast
    constructor <;> linarith
  exact_mod_cast bounds

theorem rounded_of_same (one : SameState (shown 4) row state) (two : SameState amountValue row again) :
    PnLRounded state again := by
  obtain ⟨whole,near⟩ := pnl_rounded (Option.some.inj (one.realizedPnL.symm.trans two.realizedPnL))
  exact {
    tenantID := two.tenantID.trans one.tenantID.symm
    instrument := two.instrument.trans one.instrument.symm
    position := amountValue_injective (Option.some.inj (two.position.symm.trans one.position))
    averageCost := amountValue_injective (Option.some.inj (two.averageCost.symm.trans one.averageCost))
    lastTransactionID := two.lastTransactionID.trans one.lastTransactionID.symm
    whole
    near }

/-- A state that both migrations together leave as it is. -/
structure Exact (state : ReconciledState) : Prop where
  realizedPnL : 10^4 ∣ state.realizedPnL.toInt
  position : state.position ≠ Int64.minValue
  averageCost : state.averageCost ≠ Int64.minValue

theorem exact_iff (same : SameState (shown 4) row state) :
    (InRange row.position ∧ InRange row.averageCost ∧ InRange row.realizedPnL) ∧ SameState amountValue row state ↔
      Exact state := by
  rw [inRange_iff same.position,inRange_iff same.averageCost]
  constructor
  · rintro ⟨⟨position,averageCost,-⟩,both⟩
    refine ⟨shown_four_iff.mp ?_,position,averageCost⟩
    exact Option.some.inj (same.realizedPnL.symm.trans both.realizedPnL)
  · rintro ⟨whole,position,averageCost⟩
    have pnl : row.realizedPnL.value = some (amountValue state.realizedPnL) := by
      rw [same.realizedPnL,shown_four_iff.mpr whole]
    refine ⟨⟨position,averageCost,(inRange_iff pnl).mpr ?_⟩,{same with realizedPnL := pnl}⟩
    intro least
    rw [least] at whole
    revert whole
    decide

theorem exact_states_iff {rows : List NumericState} {states : List ReconciledState}
    (same : List.Forall₂ (SameState (shown 4)) rows states) :
    ((∀ row ∈ rows, InRange row.position ∧ InRange row.averageCost ∧ InRange row.realizedPnL) ∧
      List.Forall₂ (SameState amountValue) rows states) ↔ ∀ state ∈ states, Exact state := by
  induction same with
  | nil => simp
  | cons head _ ih =>
    rw [List.forall_mem_cons,List.forall_mem_cons,List.forall₂_cons,← ih,← exact_iff head]
    tauto

theorem transactions_inRange {rows : List NumericTransaction} {news : List CheckedTransaction}
    (same : List.Forall₂ SameTransaction rows news) : ∀ row ∈ rows, InRange row.quantity ∧ InRange row.price := by
  have above {amount : Int64} (positive : 0 < amount) : amount ≠ Int64.minValue := by
    intro least
    rw [least] at positive
    revert positive
    decide
  induction same with
  | nil => simp
  | @cons _ new _ _ head _ ih =>
    refine List.forall_mem_cons.mpr ⟨⟨?_,?_⟩,ih⟩
    · exact (inRange_iff head.quantity).mpr (above new.2.2.1)
    · exact (inRange_iff head.price).mpr (above new.2.2.2)

theorem forall₂_meet {α β γ : Type} {R : α → β → Prop} {S : α → γ → Prop} {T : β → γ → Prop} {rows : List α}
    {ones : List β} {others : List γ} (meet : ∀ row one other, R row one → S row other → T one other)
    (left : List.Forall₂ R rows ones) (right : List.Forall₂ S rows others) : List.Forall₂ T ones others := by
  induction left generalizing others with
  | nil =>
    cases right
    exact .nil
  | cons head _ ih =>
    cases right with
    | cons head' tail => exact .cons (meet _ _ _ head head') (ih tail)

/-- The migration back never fails. Together with the one forth it leaves the trades as they are
and rounds realized P&L to ten-thousandths; the tables come back unchanged exactly if no realized
P&L has more digits and no position and no cost is the smallest integer. -/
theorem bigint_migration_back_iff (tables : BigintTables) : ∃ before, down tables = .ok before ∧
    (∀ again, up before = .ok again → again.transactions = tables.transactions ∧
      List.Forall₂ PnLRounded tables.reconciledState again.reconciledState) ∧
    (up before = .ok tables ↔ ∀ state ∈ tables.reconciledState, Exact state) := by
  obtain ⟨transactions,sameTrades⟩ := exists_forall₂ fun new (_ : new ∈ tables.transactions) => transaction_shown new
  obtain ⟨reconciledState,sameStates⟩ :=
    exists_forall₂ fun state (_ : state ∈ tables.reconciledState) => state_shown state
  have trades : List.Forall₂ SameTransaction transactions tables.transactions := sameTrades.flip
  have states : List.Forall₂ (SameState (shown 4)) reconciledState tables.reconciledState := sameStates.flip
  refine ⟨⟨transactions,reconciledState⟩,down_ok_iff.mpr ⟨sameTrades,sameStates⟩,?_,?_⟩
  · intro again converted
    obtain ⟨-,-,trades',states'⟩ := up_ok_iff.mp converted
    refine ⟨List.right_unique_forall₂' same_rightUnique trades' trades,?_⟩
    exact forall₂_meet (fun row state again => @rounded_of_same row state again) states states'
  · rw [up_ok_iff,← and_assoc,guards_iff,← exact_states_iff states]
    constructor
    · rintro ⟨convertible,-,same⟩
      exact ⟨convertible.reconciledState,same⟩
    · rintro ⟨inRange,same⟩
      exact ⟨⟨transactions_inRange trades,inRange⟩,trades,same⟩

/-- A realized P&L of a hundred-millionth is lost. -/
theorem sample_migration_rounds : ∃ before,
    down ⟨[],[⟨text "acme",text "AAPL",0,0,1,none⟩]⟩ = .ok before ∧
      up before ≠ .ok ⟨[],[⟨text "acme",text "AAPL",0,0,1,none⟩]⟩ := by
  obtain ⟨before,shown,-,same⟩ := bigint_migration_back_iff ⟨[],[⟨text "acme",text "AAPL",0,0,1,none⟩]⟩
  refine ⟨before,shown,?_⟩
  intro converted
  have digits := (same.mp converted _ List.mem_cons_self).realizedPnL
  revert digits
  decide

end back

end Migration

end ControlPlane.Ledger
