import ControlPlane.Ledger.Breaker
import Mathlib.Tactic.Linarith

/-! Runs through the two circuit breakers of one processor, which makes its repository calls one
after the other. While the repositories answer with successes and expected outcomes, the breakers
cannot be noticed; while every call fails, they bound how many calls get through. -/
namespace ControlPlane.Ledger
open Go Corebreaker Effect Effect.Program

/-- What a processor makes its calls against: the database, its breakers with the last instant
they read, and how many calls each of them has let through. -/
structure Backend where
  db : Database
  breakers : Breaker → Machine
  clock : Int
  calls : Breaker → Nat

namespace Backend
variable (s : Backend) (breaker : Breaker)

def setBreaker (machine : Machine) (now : Int) : Backend :=
  {s with breakers := Function.update s.breakers breaker machine,clock := now}

def count : Backend := {s with calls := Function.update s.calls breaker (s.calls breaker+1)}

end Backend

section
variable (answers : Environment Database RepositoryCall.Reply)

inductive GuardAnswers (s : Backend) : (op : RepositoryCall ⊕ BreakerOp) →
    Extended RepositoryCall.Reply BreakerOp.Reply op → Backend → Prop
  | pass (op : RepositoryCall) (reply : op.Reply) (db : Database) (answered : answers s.db op reply db) :
      GuardAnswers s (.inl op) reply {s.count op.breaker with db}
  | allow (breaker : Breaker) (now : Int) (later : s.clock ≤ now) :
      GuardAnswers s (.inr (.allow breaker)) ((s.breakers breaker).allow now).1
        (s.setBreaker breaker ((s.breakers breaker).allow now).2 now)
  | record (breaker : Breaker) (err : Option Error) (now : Int) (later : s.clock ≤ now) :
      GuardAnswers s (.inr (.record breaker err)) () (s.setBreaker breaker ((s.breakers breaker).record err now) now)

/-- A whole guarded call: refused, or let through and reported. -/
inductive GuardedCall (s : Backend) (op : RepositoryCall) : op.Reply → Backend → Prop
  | refused (now : Int) (later : s.clock ≤ now) (refuses : ((s.breakers op.breaker).allow now).1.1 = false) :
      GuardedCall s op (op.fail errCircuitOpen) (s.setBreaker op.breaker ((s.breakers op.breaker).allow now).2 now)
  | admitted (now done : Int) (reply : op.Reply) (db : Database) (later : s.clock ≤ now) (ended : now ≤ done)
      (admits : ((s.breakers op.breaker).allow now).1.1 = true) (answered : answers s.db op reply db) :
      GuardedCall s op reply {(s.count op.breaker).setBreaker op.breaker
        (((s.breakers op.breaker).allow now).2.record (op.outcome reply) done) done with db}

end

variable {answers : Environment Database RepositoryCall.Reply} {s t : Backend} {α : Type}

/-- What is left of a guarded call after `Allow`. -/
def afterAllow (op : RepositoryCall) (allowed : Bool) : Guarding op.Reply :=
  if allowed then admitted op else .done (op.fail errCircuitOpen)

theorem guard_runs_iff {op : RepositoryCall} {reply : op.Reply} :
    Runs (GuardAnswers answers) s (guard op) reply t ↔ GuardedCall answers s op reply t := by
  rw [guard_call]
  refine ⟨?_,?_⟩
  · intro runs
    cases runs with
    | call answer answered rest =>
      cases answered with
      | allow _ now later =>
        change Runs _ _ (afterAllow op ((s.breakers op.breaker).allow now).1.1) _ _ at rest
        cases admits : ((s.breakers op.breaker).allow now).1.1 with
        | false =>
          rw [admits] at rest
          cases rest
          exact .refused now later admits
        | true =>
          rw [admits] at rest
          cases rest with
          | call reply answered rest =>
            cases answered with
            | pass _ _ db answered =>
              cases rest with
              | call _ told rest =>
                cases told with
                | record _ _ done ended =>
                  cases rest
                  have whole := GuardedCall.admitted now done reply db later ended admits answered
                  simpa [Backend.setBreaker,Backend.count] using whole
  · intro call
    cases call with
    | refused now later refuses =>
      refine .call _ (.allow _ now later) ?_
      change Runs _ _ (afterAllow op ((s.breakers op.breaker).allow now).1.1) _ _
      rw [refuses]
      exact .done _ _
    | admitted now done reply db later ended admits answered =>
      refine .call _ (.allow _ now later) ?_
      change Runs _ _ (afterAllow op ((s.breakers op.breaker).allow now).1.1) _ _
      rw [admits]
      refine .call reply (.pass op reply db answered) ?_
      refine .call () (.record _ _ done ended) ?_
      have returned : Runs (GuardAnswers answers) _ (.done reply) reply {(s.count op.breaker).setBreaker op.breaker
        (((s.breakers op.breaker).allow now).2.record (op.outcome reply) done) done with db} := .done _ _
      simpa [Backend.setBreaker,Backend.count] using returned

theorem guarded_runs_iff {program : Program RepositoryCall.Reply α} {value : α} :
    Runs (GuardAnswers answers) s (program.interpret guard) value t ↔ Runs (GuardedCall answers) s program value t := by
  rw [runs_interpret]
  refine ⟨?_,?_⟩
  · exact Runs.mono fun _ _ _ _ => guard_runs_iff.mp
  · exact Runs.mono fun _ _ _ _ => guard_runs_iff.mpr

section healthy

def Backend.Closed (s : Backend) : Prop := ∀ breaker, (s.breakers breaker).state = .closed

/-- The repositories answer with successes and with outcomes that their breakers ignore. -/
def Healthy (answers : Environment Database RepositoryCall.Reply) : Prop :=
  ∀ db op reply after, answers db op reply after → op.outcome reply = none

theorem Backend.Closed.told (closed : s.Closed) (op : RepositoryCall) (now done : Int) :
    ((s.breakers op.breaker).allow now).1.1 = true ∧ ∀ db calls, Backend.Closed ⟨db,
      Function.update s.breakers op.breaker (((s.breakers op.breaker).allow now).2.record none done),done,calls⟩ := by
  have found := closed op.breaker
  have stays : (((s.breakers op.breaker).allow now).2.record none done).state = .closed := by
    simp [Machine.allow,Machine.record,found]
  refine ⟨by simp [Machine.allow,found],?_⟩
  intro db calls breaker
  by_cases itself : breaker = op.breaker
  · subst itself
    simpa using stays
  · simpa [itself] using closed breaker

theorem closed_step (healthy : Healthy answers) (closed : s.Closed) {op : RepositoryCall} {reply : op.Reply}
    (call : GuardedCall answers s op reply t) : answers s.db op reply t.db ∧ t.Closed := by
  cases call with
  | refused now later refuses =>
    rw [(closed.told op now now).1] at refuses
    cases refuses
  | admitted now done reply db later ended admits answered =>
    refine ⟨answered,?_⟩
    have after := (closed.told op now done).2
    rw [← healthy _ _ _ _ answered] at after
    exact after db _

theorem closed_call (closed : s.Closed) {op : RepositoryCall} {reply : op.Reply} {db : Database}
    (answered : answers s.db op reply db) : ∃ t, GuardedCall answers s op reply t ∧ t.db = db := by
  have admits := (closed.told op s.clock s.clock).1
  exact ⟨_,.admitted s.clock s.clock reply db (Int.le_refl _) (Int.le_refl _) admits answered,rfl⟩

theorem closed_runs (healthy : Healthy answers) {program : Program RepositoryCall.Reply α} {value : α}
    (closed : s.Closed)
    (runs : Runs (GuardedCall answers) s program value t) : Runs answers s.db program value t.db ∧ t.Closed := by
  induction runs with
  | done => exact ⟨.done _ _,closed⟩
  | call reply answered _ ih =>
    obtain ⟨passed,stays⟩ := closed_step healthy closed answered
    obtain ⟨rest,ends⟩ := ih stays
    exact ⟨.call reply passed rest,ends⟩

theorem runs_closed (healthy : Healthy answers) {program : Program RepositoryCall.Reply α} {value : α}
    {db after : Database} (runs : Runs answers db program value after) (s : Backend) (closed : s.Closed)
    (same : s.db = db) :
    ∃ t, Runs (GuardedCall answers) s program value t ∧ t.db = after := by
  induction runs generalizing s with
  | done => exact ⟨s,.done _ _,same⟩
  | call reply answered _ ih =>
    obtain ⟨t,call,arrived⟩ := closed_call closed (same ▸ answered)
    obtain ⟨u,rest,ends⟩ := ih t (closed_step healthy closed call).2 arrived
    exact ⟨u,.call reply call rest,ends⟩

/-- With closed breakers in front of healthy repositories, a program has exactly the runs that it
has without breakers, and they stay closed. -/
theorem guard_transparent (healthy : Healthy answers) (program : Program RepositoryCall.Reply α) (s : Backend)
    (closed : s.Closed) (value : α) :
    (∀ t, Runs (GuardAnswers answers) s (program.interpret guard) value t → t.Closed) ∧
      ∀ db, (∃ t, Runs (GuardAnswers answers) s (program.interpret guard) value t ∧ t.db = db) ↔
        Runs answers s.db program value db := by
  refine ⟨?_,?_⟩
  · intro t runs
    exact (closed_runs healthy closed (guarded_runs_iff.mp runs)).2
  · intro db
    refine ⟨?_,?_⟩
    · rintro ⟨t,runs,rfl⟩
      exact (closed_runs healthy closed (guarded_runs_iff.mp runs)).1
    · intro runs
      obtain ⟨t,guarded,arrived⟩ := runs_closed healthy runs s closed rfl
      exact ⟨t,guarded_runs_iff.mpr guarded,arrived⟩

/-- Postgres up, and rows that pass its constraints. -/
def expected : Environment Database RepositoryCall.Reply := fun db op reply after =>
  reply = (op.execute db).1 ∧ after = (op.execute db).2 ∧ op.outcome reply = none

def sampleBackend : Backend := ⟨.empty,fun _ => ⟨⟨5,30000000000,30000000000⟩,.closed,0,zeroTime⟩,0,fun _ => 0⟩

theorem lookup_through_breakers : (Healthy expected ∧ sampleBackend.Closed) ∧
    ∃ t, Runs (GuardAnswers expected) sampleBackend
      ((perform (RepositoryCall.getByEventID (.replicate 16 7))).interpret guard)
      (Except.error errNotFound) t ∧ t.db = .empty := by
  have healthy : Healthy expected := fun _ _ _ _ answered => answered.2.2
  have closed : sampleBackend.Closed := fun _ => rfl
  refine ⟨⟨healthy,closed⟩,?_⟩
  refine ((guard_transparent healthy (perform (RepositoryCall.getByEventID _)) sampleBackend closed _).2 .empty).mpr ?_
  exact .call _ ⟨rfl,rfl,by decide⟩ (.done _ _)

end healthy

section rested
variable {config : Config} {breaker : Breaker}

/-- A breaker between two calls: it has counted fewer failures than its threshold, or is open. -/
inductive Rested (config : Config) (machine : Machine) : Prop
  | closed (configured : machine.config = config) (state : machine.state = .closed)
      (few : machine.consecutiveFailures.toNat < config.failureThreshold.toNat)
  | opened (configured : machine.config = config) (state : machine.state = .opened)

theorem Rested.fresh {machine : Machine} (created : Machine.new config = .ok machine) : Rested config machine := by
  obtain ⟨valid,rfl⟩ := new_ok config _ created
  exact .closed rfl rfl (validate_ok config valid).1

/-- A call that is let through, whatever comes of it. -/
theorem Rested.told {machine : Machine} (positive : 0 < config.failureThreshold.toNat) (rested : Rested config machine)
    {now : Int} (admits : (machine.allow now).1.1 = true) (err : Option Error) (done : Int) :
    Rested config ((machine.allow now).2.record err done) := by
  cases rested with
  | closed configured state few =>
    have asked : machine.allow now = ((true,false),machine) := by simp [Machine.allow,state]
    rw [asked]
    rcases machine.record_cases err done with ⟨other,_⟩ | ⟨other,_⟩ | ⟨_,_,_,told⟩ | ⟨_,_,below,told⟩ |
      ⟨_,_,told⟩ | ⟨other,_⟩
    · cases state.symm.trans other
    · cases state.symm.trans other
    · exact told ▸ .opened configured rfl
    · rw [configured,UInt32.lt_iff_toNat_lt] at below
      exact told ▸ .closed configured state below
    · exact told ▸ .closed configured state positive
    · cases state.symm.trans other
  | opened configured state =>
    rcases machine.allow_answers now with ⟨other,_⟩ | asked | ⟨_,asked⟩
    · cases state.symm.trans other
    · rw [asked] at admits
      cases admits
    · rw [asked]
      cases err with
      | none => exact .closed configured rfl positive
      | some err => exact .opened configured rfl

theorem allow_refused {machine : Machine} {now : Int} (refuses : (machine.allow now).1.1 = false) :
    (machine.allow now).2 = machine := by
  rcases machine.allow_answers now with ⟨_,asked⟩ | asked | ⟨_,asked⟩
  · rw [asked] at refuses
    cases refuses
  · rw [asked]
  · rw [asked] at refuses
    cases refuses

end rested

section outage
variable {config : Config} {breaker : Breaker} {start : Int} {base : Nat}

/-- Every call fails, in a way that its breaker counts. -/
def Failing (answers : Environment Database RepositoryCall.Reply) : Prop :=
  ∀ db op reply after, answers db op reply after → op.outcome reply ≠ none

/-- A breaker between two calls of an outage that began at `start`, when it had let `base` calls
through: it counts the first failures, and then lets one call through for each timeout. It may have
counted failures, or have been open, before the outage. -/
inductive Throttled (config : Config) (start : Int) (base : Nat) (machine : Machine) (clock : Int) (calls : Nat) : Prop
  | counting (configured : machine.config = config) (state : machine.state = .closed)
      (counted : calls ≤ base+machine.consecutiveFailures.toNat)
      (few : machine.consecutiveFailures.toNat < config.failureThreshold.toNat) (begun : start ≤ clock)
  | found (configured : machine.config = config) (state : machine.state = .opened) (none : calls = base)
      (begun : start ≤ clock)
  | cooling (configured : machine.config = config) (state : machine.state = .opened) (past : machine.openedAt ≤ clock)
      (spaced : (calls - base - config.failureThreshold.toNat : Int) * config.openTimeout.toInt ≤
        machine.openedAt - start)

theorem Throttled.later {machine : Machine} {clock now : Int} {calls : Nat}
    (throttled : Throttled config start base machine clock calls) (later : clock ≤ now) :
    Throttled config start base machine now calls := by
  cases throttled with
  | counting configured state counted few begun => exact .counting configured state counted few (begun.trans later)
  | found configured state none begun => exact .found configured state none (begun.trans later)
  | cooling configured state past spaced => exact .cooling configured state (past.trans later) spaced

/-- While no more calls than the threshold have been let through, no time need have passed. -/
theorem few_calls {calls : Nat} (timeout : 0 < config.openTimeout.toInt)
    (few : calls ≤ base+config.failureThreshold.toNat) {elapsed : Int} (begun : 0 ≤ elapsed) :
    (calls - base - config.failureThreshold.toNat : Int) * config.openTimeout.toInt ≤ elapsed := by
  have negative : (calls - base - config.failureThreshold.toNat : Int) ≤ 0 := by omega
  exact (Int.mul_nonpos_of_nonpos_of_nonneg negative (Int.le_of_lt timeout)).trans begun

/-- An open breaker lets a call through as its probe, which fails. -/
theorem probe_failed {machine : Machine} {now : Int} (timeout : 0 < machine.config.openTimeout.toInt)
    (state : machine.state = .opened) (admits : (machine.allow now).1.1 = true) {err : Option Error}
    (fails : err ≠ none) (done : Int) : machine.openedAt + machine.config.openTimeout.toInt ≤ now ∧
      (machine.allow now).2.record err done = machine.trip done := by
  rcases machine.allow_cases now timeout with ⟨other,_⟩ | ⟨other,_⟩ | ⟨_,_,asked⟩ | ⟨_,cooled,asked⟩
  · cases state.symm.trans other
  · cases state.symm.trans other
  · rw [asked] at admits
    cases admits
  · refine ⟨cooled,?_⟩
    rw [asked]
    cases err with
    | none => exact absurd rfl fails
    | some err => rfl

/-- A call that is let through and fails. -/
theorem Throttled.failed {machine : Machine} {clock now done : Int} {calls : Nat}
    (timeout : 0 < config.openTimeout.toInt) (positive : 0 < config.failureThreshold.toNat)
    (throttled : Throttled config start base machine clock calls)
    (later : clock ≤ now) (ended : now ≤ done) (admits : (machine.allow now).1.1 = true) {err : Option Error}
    (fails : err ≠ none) : Throttled config start base ((machine.allow now).2.record err done) done (calls+1) := by
  cases throttled with
  | counting configured state counted few begun =>
    have asked : machine.allow now = ((true,false),machine) := by simp [Machine.allow,state]
    have bound := config.failureThreshold.toNat_lt
    have next : (machine.consecutiveFailures+1).toNat = machine.consecutiveFailures.toNat+1 := by
      rw [UInt32.toNat_add]
      simp
      omega
    rw [asked]
    rcases machine.record_cases err done with ⟨other,_⟩ | ⟨other,_⟩ | ⟨_,_,reached,told⟩ | ⟨_,_,below,told⟩ |
      ⟨_,fine,_⟩ | ⟨other,_⟩
    · cases state.symm.trans other
    · cases state.symm.trans other
    · rw [told]
      refine .cooling configured rfl (Int.le_refl _) (few_calls timeout (by omega) ?_)
      simp only [Machine.trip]
      omega
    · rw [told]
      rw [configured,UInt32.lt_iff_toNat_lt] at below
      exact .counting configured state (by rw [next]; omega) below (by omega)
    · exact absurd fine fails
    · cases state.symm.trans other
  | found configured state none begun =>
    -- The first call of the outage is the probe of a breaker that was open before.
    rw [(probe_failed (configured ▸ timeout) state admits fails done).2]
    refine .cooling configured rfl (Int.le_refl _) (few_calls timeout (by omega) ?_)
    simp only [Machine.trip]
    omega
  | cooling configured state past spaced =>
    obtain ⟨cooled,told⟩ := probe_failed (configured ▸ timeout) state admits fails done
    rw [told]
    refine .cooling configured rfl (Int.le_refl _) ?_
    rw [configured] at cooled
    simp only [Machine.trip]
    push_cast
    linarith

theorem Throttled.asked {machine : Machine} {clock now : Int} {calls : Nat}
    (throttled : Throttled config start base machine clock calls) (later : clock ≤ now)
    (refuses : (machine.allow now).1.1 = false) : Throttled config start base (machine.allow now).2 now calls := by
  rw [allow_refused refuses]
  exact throttled.later later

theorem Rested.throttled {machine : Machine} (rested : Rested config machine) (clock : Int) (calls : Nat) :
    Throttled config clock calls machine clock calls := by
  cases rested with
  | closed configured state few => exact .counting configured state (Nat.le_add_right _ _) few (Int.le_refl _)
  | opened configured state => exact .found configured state rfl (Int.le_refl _)

theorem Throttled.bound {machine : Machine} {clock : Int} {calls : Nat} (timeout : 0 < config.openTimeout.toInt)
    (throttled : Throttled config start base machine clock calls) :
    (calls - base - config.failureThreshold.toNat : Int) * config.openTimeout.toInt ≤ clock - start := by
  cases throttled with
  | counting _ _ counted few begun => exact few_calls timeout (by omega) (by omega)
  | found _ _ none begun => exact few_calls timeout (by omega) (by omega)
  | cooling _ _ past spaced => omega

end outage

section opened
variable {breaker : Breaker} {limit : Int}

/-- The breaker is open, and its timeout ends at the instant `limit`. -/
def Backend.Refusing (s : Backend) (breaker : Breaker) (limit : Int) : Prop :=
  0 < (s.breakers breaker).config.openTimeout.toInt ∧ (s.breakers breaker).state = .opened ∧
    limit = (s.breakers breaker).openedAt + (s.breakers breaker).config.openTimeout.toInt

theorem Backend.Refusing.allow (refusing : s.Refusing breaker limit) {now : Int} (early : now < limit) :
    (s.breakers breaker).allow now = ((false,false),s.breakers breaker) := by
  obtain ⟨timeout,opened,rfl⟩ := refusing
  rcases (s.breakers breaker).allow_cases now timeout with ⟨other,_⟩ | ⟨other,_⟩ | ⟨_,_,asked⟩ | ⟨_,cooled,_⟩
  · rw [opened] at other
    cases other
  · rw [opened] at other
    cases other
  · exact asked
  · omega

/-- Until then a call is refused and leaves everything but the clock as it was. -/
theorem Backend.Refusing.call {op : RepositoryCall} {reply : op.Reply} (refusing : s.Refusing breaker limit)
    (guards : op.breaker = breaker) (early : t.clock < limit) (call : GuardedCall answers s op reply t) :
    reply = op.fail errCircuitOpen ∧ t = {s with clock := t.clock} := by
  subst guards
  cases call with
  | refused now later refuses =>
    have asked : (s.breakers op.breaker).allow now = _ := refusing.allow early
    refine ⟨rfl,?_⟩
    simp [Backend.setBreaker,asked]
  | admitted now done reply db later ended admits answered =>
    have asked := refusing.allow (Int.lt_of_le_of_lt ended early)
    rw [asked] at admits
    cases admits

end opened

end ControlPlane.Ledger
