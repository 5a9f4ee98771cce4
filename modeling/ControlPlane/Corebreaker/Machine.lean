import ControlPlane.Go.Values

/-! The circuit breaker state machine (`internal/corebreaker`). `Allow` and `Record` hold the
mutex for the whole of their bodies, so each is one atomic step, given what the clock reads.
Instants are nanoseconds; a `time.Duration` is an `int64` of them. -/
namespace ControlPlane.Corebreaker
open Go

def errOpen : Error := .new "circuit breaker open"

def errInvalidConfig : Error := .new "invalid circuit breaker config"

inductive State where
  | closed
  | opened
  | halfOpen
  deriving DecidableEq, Repr

structure Config where
  failureThreshold : UInt32
  openTimeout : Int64
  probeTimeout : Int64
  deriving DecidableEq, Repr

def Config.validate (config : Config) : Except Error Unit :=
  if config.failureThreshold = 0 then
    .error (.wrap "%w: FailureThreshold must be positive" [] errInvalidConfig)
  else if config.openTimeout ≤ 0 then
    .error (.wrap "%w: OpenTimeout %s must be a positive duration" [.int config.openTimeout.toInt] errInvalidConfig)
  else if config.probeTimeout < 0 then
    .error (.wrap "%w: ProbeTimeout %s must not be negative" [.int config.probeTimeout.toInt] errInvalidConfig)
  else .ok ()

/-- `Time.Sub`: a difference out of range is the nearest duration. -/
def sub (time earlier : Int) : Int64 :=
  if time - earlier < -2^63 then Int64.minValue
  else if 2^63 ≤ time - earlier then Int64.maxValue
  else Int64.ofInt (time - earlier)

structure Machine where
  config : Config
  state : State
  consecutiveFailures : UInt32
  openedAt : Int
  deriving DecidableEq, Repr

/-- The zero `time.Time`, the first instant of year 1. -/
def zeroTime : Int := -62135596800 * 10^9

namespace Machine

def new (config : Config) : Except Error Machine := do
  config.validate
  return ⟨config,.closed,0,zeroTime⟩

/-- Whether the call may go ahead, and whether it is the half-open probe. -/
def allow (machine : Machine) (now : Int) : (Bool × Bool) × Machine :=
  match machine.state with
  | .closed => ((true,false),machine)
  | .halfOpen => ((false,false),machine)
  | .opened =>
    if sub now machine.openedAt < machine.config.openTimeout then ((false,false),machine)
    else ((true,true),{machine with state := .halfOpen})

def trip (machine : Machine) (now : Int) : Machine :=
  {machine with state := .opened,openedAt := now,consecutiveFailures := 0}

def record (machine : Machine) (err : Option Error) (now : Int) : Machine :=
  match machine.state with
  | .halfOpen =>
    if err.isSome then machine.trip now
    else {machine with state := .closed,consecutiveFailures := 0}
  | .closed =>
    if err.isSome then
      let failures := machine.consecutiveFailures + 1
      if failures ≥ machine.config.failureThreshold then machine.trip now
      else {machine with consecutiveFailures := failures}
    else {machine with consecutiveFailures := 0}
  | .opened => machine

end Machine

theorem validate_ok (config : Config) (valid : config.validate = .ok ()) :
    0 < config.failureThreshold.toNat ∧ 0 < config.openTimeout.toInt := by
  unfold Config.validate at valid
  split at valid
  · contradiction
  · rename_i threshold
    split at valid
    · contradiction
    · rename_i timeout
      rw [Int64.not_le,Int64.lt_iff_toInt_lt] at timeout
      refine ⟨Nat.pos_of_ne_zero ?_,timeout⟩
      intro zero
      exact threshold (UInt32.toNat_inj.mp zero)

theorem new_ok (config : Config) (machine : Machine) (created : Machine.new config = .ok machine) :
    config.validate = .ok () ∧ machine = ⟨config,.closed,0,zeroTime⟩ := by
  obtain ⟨_,valid,rest⟩ := bind_success _ _ _ created
  exact ⟨valid,(Except.ok.inj rest).symm⟩

/-- Comparing the clamped difference with a positive duration compares the instants. -/
theorem sub_lt_iff (now earlier : Int) (timeout : Int64) (positive : 0 < timeout.toInt) :
    sub now earlier < timeout ↔ now < earlier + timeout.toInt := by
  have range := fits_toInt64 timeout
  unfold FitsInt64 at range
  have least : (Int64.minValue).toInt = -2^63 := rfl
  have greatest : (Int64.maxValue).toInt = 2^63 - 1 := rfl
  unfold sub
  rw [Int64.lt_iff_toInt_lt]
  split
  · rw [least]
    omega
  · split
    · rw [greatest]
      omega
    · rw [ofInt64_value _ (by unfold FitsInt64; omega)]
      omega

namespace Machine
variable (machine : Machine) (err : Option Error) (now : Int)

/-- What `Allow` answers and leaves, by the state it finds. -/
theorem allow_cases (timeout : 0 < machine.config.openTimeout.toInt) :
    (machine.state = .closed ∧ machine.allow now = ((true,false),machine)) ∨
    (machine.state = .halfOpen ∧ machine.allow now = ((false,false),machine)) ∨
    (machine.state = .opened ∧ now < machine.openedAt + machine.config.openTimeout.toInt ∧
      machine.allow now = ((false,false),machine)) ∨
    (machine.state = .opened ∧ machine.openedAt + machine.config.openTimeout.toInt ≤ now ∧
      machine.allow now = ((true,true),{machine with state := .halfOpen})) := by
  unfold allow
  cases found : machine.state with
  | closed => exact Or.inl ⟨rfl,rfl⟩
  | halfOpen => exact Or.inr (Or.inl ⟨rfl,rfl⟩)
  | opened =>
    have elapsed := sub_lt_iff now machine.openedAt _ timeout
    by_cases early : sub now machine.openedAt < machine.config.openTimeout
    · exact Or.inr (Or.inr (Or.inl ⟨rfl,elapsed.mp early,if_pos early⟩))
    · exact Or.inr (Or.inr (Or.inr ⟨rfl,by rw [elapsed] at early; omega,if_neg early⟩))

/-- What `Allow` can answer, whatever the timeout. -/
theorem allow_answers :
    (machine.state = .closed ∧ machine.allow now = ((true,false),machine)) ∨
    machine.allow now = ((false,false),machine) ∨
    (machine.state = .opened ∧ machine.allow now = ((true,true),{machine with state := .halfOpen})) := by
  unfold allow
  cases found : machine.state with
  | closed => exact Or.inl ⟨rfl,rfl⟩
  | halfOpen => exact Or.inr (Or.inl rfl)
  | opened =>
    by_cases early : sub now machine.openedAt < machine.config.openTimeout
    · exact Or.inr (Or.inl (if_pos early))
    · exact Or.inr (Or.inr ⟨rfl,if_neg early⟩)

/-- What `Record` leaves, by the state it finds and the outcome it is given. -/
theorem record_cases :
    (machine.state = .halfOpen ∧ err ≠ none ∧ machine.record err now = machine.trip now) ∨
    (machine.state = .halfOpen ∧ err = none ∧
      machine.record err now = {machine with state := .closed,consecutiveFailures := 0}) ∨
    (machine.state = .closed ∧ err ≠ none ∧ machine.config.failureThreshold ≤ machine.consecutiveFailures + 1 ∧
      machine.record err now = machine.trip now) ∨
    (machine.state = .closed ∧ err ≠ none ∧ machine.consecutiveFailures + 1 < machine.config.failureThreshold ∧
      machine.record err now = {machine with consecutiveFailures := machine.consecutiveFailures + 1}) ∨
    (machine.state = .closed ∧ err = none ∧ machine.record err now = {machine with consecutiveFailures := 0}) ∨
    (machine.state = .opened ∧ machine.record err now = machine) := by
  unfold record
  cases found : machine.state with
  | opened => simp
  | halfOpen => cases err <;> simp
  | closed =>
    cases err with
    | none => simp
    | some err =>
      by_cases reached : machine.config.failureThreshold ≤ machine.consecutiveFailures + 1
      · simp [reached]
      · simp [reached,UInt32.not_le.mp reached]

end Machine

end ControlPlane.Corebreaker
