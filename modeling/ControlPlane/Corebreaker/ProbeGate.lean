import ControlPlane.Corebreaker.CoolDown
import Mathlib.Logic.Function.Basic

/-! Callers that share one breaker (`internal/ingestion/breaker.go`). Each asks `Allow` and,
if it is admitted, reports to `Record` once, at any later time and between any calls of the
others. `Record` does not say who reports, so a call admitted by the closed machine that ends
while a probe is out is taken for the probe. -/
namespace ControlPlane.Corebreaker
open Go Effect.Transitions

/-- Where a caller is: before `Allow`, between an `Allow` that admitted it and its `Record`,
or done. -/
inductive Caller where
  | idle
  | admitted (isProbe : Bool)
  | finished
  deriving DecidableEq, Repr

structure Shared where
  machine : Machine
  callers : Nat → Caller
  clock : Int

inductive Action where
  | allow (caller : Nat) (now : Int)
  | record (caller : Nat) (err : Option Error) (now : Int)

def Shared.start (machine : Machine) (clock : Int) : Shared := ⟨machine,fun _ => .idle,clock⟩

def Shared.Enabled (shared : Shared) : Action → Prop
  | .allow caller now => shared.callers caller = .idle ∧ shared.clock ≤ now
  | .record caller _ now => (∃ isProbe, shared.callers caller = .admitted isProbe) ∧ shared.clock ≤ now

instance (shared : Shared) (action : Action) : Decidable (shared.Enabled action) :=
  match action with
  | .allow _ _ => inferInstanceAs (Decidable (_ ∧ _))
  | .record caller _ now =>
    decidable_of_iff ((shared.callers caller = .admitted false ∨ shared.callers caller = .admitted true) ∧
      shared.clock ≤ now) (by simp [Shared.Enabled])

def Shared.perform (shared : Shared) : Action → Shared
  | .allow caller now =>
    let ((allowed,isProbe),machine) := shared.machine.allow now
    ⟨machine,Function.update shared.callers caller (if allowed then .admitted isProbe else .finished),now⟩
  | .record caller err now =>
    ⟨shared.machine.record err now,Function.update shared.callers caller .finished,now⟩

-- Every action is one that its caller may take when its turn comes.
def Legal (start : Shared) (actions : List Action) : Prop := Throughout Shared.perform Shared.Enabled start actions

instance (start : Shared) (actions : List Action) : Decidable (Legal start actions) :=
  decidableThroughout _ _ start actions

-- The caller was admitted as the probe and has not reported.
def Shared.Probing (shared : Shared) (caller : Nat) : Prop := shared.callers caller = .admitted true

instance (shared : Shared) (caller : Nat) : Decidable (shared.Probing caller) := inferInstanceAs (Decidable (_ = _))

def Shared.Gated (shared : Shared) : Prop :=
  (∀ caller other, shared.Probing caller → shared.Probing other → caller = other) ∧
    (shared.machine.state = .halfOpen ↔ ∃ caller, shared.Probing caller)

def Shared.EndedByProbe (shared : Shared) (action : Action) : Prop :=
  (shared.machine.state = .halfOpen → (shared.perform action).machine.state ≠ .halfOpen →
    ∃ caller err now, action = .record caller err now ∧ shared.Probing caller) ∧
  (shared.machine.state ≠ .closed → (shared.perform action).machine.state = .closed →
    ∃ caller now, action = .record caller none now ∧ shared.Probing caller)

/-- The single-probe gate over a whole run. -/
def SingleProbe (start : Shared) (actions : List Action) : Prop :=
  Always Shared.perform Shared.Gated start actions ∧ Throughout Shared.perform Shared.EndedByProbe start actions

-- While the machine is half-open, only the probe reports.
def Shared.ReportsAsProbe (shared : Shared) : Action → Prop
  | .allow _ _ => True
  | .record caller _ _ => shared.machine.state = .halfOpen → shared.Probing caller

instance (shared : Shared) (action : Action) : Decidable (shared.ReportsAsProbe action) :=
  match action with
  | .allow _ _ => isTrue trivial
  | .record caller _ _ =>
    inferInstanceAs (Decidable (shared.machine.state = .halfOpen → shared.Probing caller))

theorem record_not_halfOpen (machine : Machine) (err : Option Error) (now : Int) :
    (machine.record err now).state ≠ .halfOpen := by
  rcases machine.record_cases err now with ⟨_,_,same⟩ | ⟨_,_,same⟩ | ⟨_,_,_,same⟩ | ⟨state,_,_,same⟩ |
    ⟨state,_,same⟩ | ⟨state,same⟩
  all_goals rw [same]
  · exact nofun
  · exact nofun
  · exact nofun
  · simp [state]
  · simp [state]
  · simp [state]

theorem allow_gated (shared : Shared) (gated : shared.Gated) (caller : Nat) (now : Int)
    (idle : shared.callers caller = .idle) : (shared.perform (.allow caller now)).Gated := by
  have before : ¬shared.Probing caller := by simp [Shared.Probing,idle]
  -- A caller that is not admitted as the probe leaves the probes as they are.
  have unchanged : ∀ place, place ≠ Caller.admitted true →
      Shared.Gated ⟨shared.machine,Function.update shared.callers caller place,now⟩ := by
    intro place other
    have same : ∀ some, Shared.Probing ⟨shared.machine,Function.update shared.callers caller place,now⟩ some ↔
        shared.Probing some := by
      intro some
      by_cases itself : some = caller
      · subst itself
        simp only [Shared.Probing,Function.update_self]
        exact iff_of_false other before
      · simp [Shared.Probing,itself]
    unfold Shared.Gated
    simp only [same]
    exact gated
  rcases shared.machine.allow_answers now with ⟨_,answer⟩ | answer | ⟨state,answer⟩
  · simp only [Shared.perform,answer]
    exact unchanged _ (by simp)
  · simp only [Shared.perform,answer]
    exact unchanged _ (by simp)
  · have only : ∀ other,
        Shared.Probing ⟨{shared.machine with state := .halfOpen},Function.update shared.callers caller
          (.admitted true),now⟩
          other → other = caller := by
      intro other probing
      by_contra different
      have out : shared.Probing other := by simpa [Shared.Probing,different] using probing
      have halfOpen := gated.2.mpr ⟨other,out⟩
      simp [state] at halfOpen
    simp only [Shared.perform,answer]
    refine ⟨?_,fun _ => ⟨caller,by simp [Shared.Probing]⟩,fun _ => rfl⟩
    intro one other first second
    rw [only one first,only other second]

theorem record_gated (shared : Shared) (gated : shared.Gated) (caller : Nat) (err : Option Error) (now : Int)
    (probe : shared.machine.state = .halfOpen → shared.Probing caller) :
    (shared.perform (.record caller err now)).Gated := by
  have none : ∀ other, ¬(shared.perform (.record caller err now)).Probing other := by
    intro other probing
    by_cases itself : other = caller
    · simp [Shared.Probing,Shared.perform,itself] at probing
    · have out : shared.Probing other := by simpa [Shared.Probing,Shared.perform,itself] using probing
      exact itself (gated.1 other caller out (probe (gated.2.mpr ⟨other,out⟩)))
  refine ⟨fun one _ first _ => absurd first (none one),?_⟩
  exact iff_of_false (record_not_halfOpen _ err now) fun ⟨other,probing⟩ => none other probing

/-- Step lemma. -/
theorem perform_gated (shared : Shared) (action : Action) (gated : shared.Gated)
    (guarded : shared.Enabled action ∧ shared.ReportsAsProbe action) : (shared.perform action).Gated := by
  cases action with
  | allow caller now => exact allow_gated shared gated caller now guarded.1.1
  | record caller err now => exact record_gated shared gated caller err now guarded.2

theorem ended_by_probe (shared : Shared) (action : Action) (reports : shared.ReportsAsProbe action) :
    shared.EndedByProbe action := by
  cases action with
  | allow caller now =>
    simp only [Shared.EndedByProbe,Shared.perform]
    rcases shared.machine.allow_answers now with ⟨state,answer⟩ | answer | ⟨state,answer⟩
    · simp [answer,state]
    · simp only [answer]
      exact ⟨fun halfOpen other => absurd halfOpen other,fun other closed => absurd closed other⟩
    · simp [answer,state]
  | record caller err now =>
    refine ⟨fun halfOpen _ => ⟨caller,err,now,rfl,reports halfOpen⟩,?_⟩
    intro other closed
    change (shared.machine.record err now).state = .closed at closed
    rcases shared.machine.record_cases err now with ⟨_,_,same⟩ | ⟨halfOpen,success,_⟩ | ⟨state,_⟩ |
      ⟨state,_⟩ | ⟨state,_⟩ |
      ⟨state,same⟩
    · simp [same,Machine.trip] at closed
    · exact ⟨caller,now,by rw [success],reports halfOpen⟩
    · exact absurd state other
    · exact absurd state other
    · exact absurd state other
    · simp [same,state] at closed

/-- A report always ends the half-open state, so it has to be the probe's. -/
theorem reports_as_probe (shared : Shared) (action : Action) (ended : shared.EndedByProbe action) :
    shared.ReportsAsProbe action := by
  cases action with
  | allow => exact trivial
  | record caller err now =>
    intro halfOpen
    obtain ⟨_,_,_,same,probing⟩ := ended.1 halfOpen (record_not_halfOpen _ err now)
    cases same
    exact probing

/-- A run keeps the single-probe gate exactly when no other caller reports in the half-open
state. -/
theorem single_probe_iff (config : Config) (machine : Machine) (created : Machine.new config = .ok machine)
    (clock : Int) (actions : List Action) (legal : Legal (.start machine clock) actions) :
    SingleProbe (.start machine clock) actions ↔
      Throughout Shared.perform Shared.ReportsAsProbe (.start machine clock) actions := by
  constructor
  · intro gate
    exact Throughout.mono reports_as_probe gate.2
  · intro reports
    have initial : (Shared.start machine clock).Gated := by
      obtain ⟨_,rfl⟩ := new_ok config machine created
      exact ⟨fun _ _ probing => by simp [Shared.Probing,Shared.start] at probing,by simp [Shared.Probing,Shared.start]⟩
    refine ⟨always_keeps Shared.Gated perform_gated actions initial ?_,Throughout.mono ended_by_probe reports⟩
    exact Throughout.and legal reports

-- Two callers trip the machine; a minute later a third one probes and succeeds.
def recovery : List Action :=
  [.allow 0 0,.allow 1 0,.record 0 (some sampleError) 1,.record 1 (some sampleError) 2,.allow 2 60000000002,
    .record 2 none 60000000003]

theorem recovery_keeps_gate : Legal (.start sampleMachine 0) recovery ∧ SingleProbe (.start sampleMachine 0) recovery :=
  ⟨by decide +kernel,
    (single_probe_iff sampleConfig sampleMachine rfl 0 recovery (by decide +kernel)).mpr (by decide +kernel)⟩

-- Caller 2, admitted while the machine was closed, reports a success while the probe of caller 3 is out.
def lateReport : List Action :=
  [.allow 0 0,.allow 1 0,.allow 2 0,.record 0 (some sampleError) 1,.record 1 (some sampleError) 2,.allow 3 60000000002,
    .record 2 none 60000000003]

theorem late_report_breaks_gate : Machine.new sampleConfig = .ok sampleMachine ∧
    Legal (.start sampleMachine 0) lateReport ∧ ¬SingleProbe (.start sampleMachine 0) lateReport ∧
    (run Shared.perform (.start sampleMachine 0) lateReport).machine.state = .closed ∧
    (run Shared.perform (.start sampleMachine 0) lateReport).Probing 3 := by
  refine ⟨rfl,by decide +kernel,?_,by decide +kernel,by decide +kernel⟩
  intro gate
  have reports := Throughout.mono reports_as_probe gate.2
  exact absurd reports (by decide +kernel)

end ControlPlane.Corebreaker
