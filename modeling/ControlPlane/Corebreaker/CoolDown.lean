import ControlPlane.Corebreaker.Machine
import ControlPlane.Effect.Transitions

/-! When the breaker trips and how it recovers, over any sequence of calls of `Allow` and
`Record`: the failures that count are those since the machine was last reset, and an open
machine stays as it is until the first call after the timeout. -/
namespace ControlPlane.Corebreaker
open Go Effect

inductive Call where
  | allow
  | record (err : Option Error)
  deriving DecidableEq, Repr

structure Event where
  call : Call
  time : Int
  deriving DecidableEq, Repr

def Event.failing (event : Event) : Bool :=
  match event.call with
  | .record (some _) => true
  | _ => false

namespace Machine

def step (machine : Machine) (event : Event) : Machine :=
  match event.call with
  | .allow => (machine.allow event.time).2
  | .record err => machine.record err event.time

def run (machine : Machine) (events : List Event) : Machine := Transitions.run step machine events

theorem run_cons (machine : Machine) (event : Event) (later : List Event) :
    machine.run (event::later) = (machine.step event).run later := rfl

theorem run_append (machine : Machine) (events later : List Event) :
    machine.run (events ++ later) = (machine.run events).run later := Transitions.run_append events later

theorem run_snoc (machine : Machine) (events : List Event) (event : Event) :
    machine.run (events ++ [event]) = (machine.run events).step event := Transitions.run_snoc events event

theorem step_config (machine : Machine) (event : Event) : (machine.step event).config = machine.config := by
  unfold step
  split
  · unfold allow
    repeat' split
    all_goals rfl
  · rename_i err _
    rcases machine.record_cases err event.time with ⟨_,_,same⟩ | ⟨_,_,same⟩ | ⟨_,_,_,same⟩ | ⟨_,_,_,same⟩ | ⟨_,_,same⟩ |
      ⟨_,same⟩
    all_goals rw [same]
    all_goals rfl

theorem run_config (machine : Machine) (events : List Event) : (machine.run events).config = machine.config := by
  induction events generalizing machine with
  | nil => rfl
  | cons event events ih => rw [run_cons,ih,step_config]

/-- The call enters the closed state, or reports a success in it. -/
def Resets (machine : Machine) (event : Event) : Prop :=
  machine.state ≠ .closed ∧ (machine.step event).state = .closed ∨
    machine.state = .closed ∧ event.call = .record none

instance (machine : Machine) (event : Event) : Decidable (machine.Resets event) :=
  inferInstanceAs (Decidable (_ ∨ _))

def account (sofar : Machine × List Event) (event : Event) : Machine × List Event :=
  (sofar.1.step event,if sofar.1.Resets event then [] else sofar.2 ++ [event])

/-- The calls since the last reset, or since the machine was made. -/
def sinceReset (machine : Machine) (events : List Event) : List Event := (events.foldl account (machine,[])).2

theorem account_run (machine : Machine) (events : List Event) :
    events.foldl account (machine,[]) = (machine.run events,machine.sinceReset events) := by
  have first : (events.foldl account (machine,[])).1 = machine.run events := by
    induction events using List.reverseRecOn with
    | nil => rfl
    | append_singleton events event ih =>
      rw [List.foldl_append,run_snoc,← ih]
      rfl
  rw [← first]
  rfl

theorem sinceReset_snoc (machine : Machine) (events : List Event) (event : Event) :
    machine.sinceReset (events ++ [event]) =
      if (machine.run events).Resets event then [] else machine.sinceReset events ++ [event] := by
  unfold sinceReset
  rw [List.foldl_append,account_run]
  rfl

end Machine

/-- The counter of a closed machine is the number of failures since its last reset, and a
machine in another state has none. -/
structure Counted (machine : Machine) (since : List Event) : Prop where
  threshold : 0 < machine.config.failureThreshold.toNat
  timeout : 0 < machine.config.openTimeout.toInt
  below : machine.consecutiveFailures.toNat < machine.config.failureThreshold.toNat
  idle : machine.state ≠ .closed → machine.consecutiveFailures = 0
  failures : machine.state = .closed → machine.consecutiveFailures.toNat = since.countP Event.failing

theorem Counted.next_failure {machine : Machine} {since : List Event} (counted : Counted machine since) :
    (machine.consecutiveFailures + 1).toNat = machine.consecutiveFailures.toNat + 1 := by
  have below := counted.below
  have range := machine.config.failureThreshold.toNat_lt
  rw [UInt32.toNat_add,Nat.mod_eq_of_lt]
  · rfl
  · change machine.consecutiveFailures.toNat + 1 < 2^32
    omega

theorem Counted.cleared {machine next : Machine} {since later : List Event} (counted : Counted machine since)
    (config : next.config = machine.config) (zero : next.consecutiveFailures = 0)
    (fresh : next.state = .closed → later = []) : Counted next later := by
  refine ⟨config ▸ counted.threshold,config ▸ counted.timeout,?_,fun _ => zero,?_⟩
  · rw [zero,config]
    exact counted.threshold
  · intro closed
    rw [zero,fresh closed]
    rfl

theorem counted_allow (machine : Machine) (since : List Event) (counted : Counted machine since) (now : Int) :
    Counted (machine.allow now).2
      (if machine.Resets ⟨.allow,now⟩ then [] else since ++ [⟨.allow,now⟩]) := by
  obtain ⟨threshold,timeout,below,idle,failures⟩ := counted
  have stays : Counted machine (if machine.Resets ⟨.allow,now⟩ then [] else since ++ [⟨.allow,now⟩]) := by
    refine ⟨threshold,timeout,below,idle,?_⟩
    intro closed
    rw [if_neg (by simp [Machine.Resets,closed]),failures closed]
    simp [Event.failing]
  rcases machine.allow_cases now timeout with ⟨_,same⟩ | ⟨_,same⟩ | ⟨_,_,same⟩ | ⟨state,_,changed⟩
  · rw [same]
    exact stays
  · rw [same]
    exact stays
  · rw [same]
    exact stays
  · rw [changed]
    exact Counted.cleared stays rfl (idle (by simp [state])) nofun

theorem counted_record (machine : Machine) (since : List Event) (counted : Counted machine since) (err : Option Error)
    (now : Int) : Counted (machine.record err now)
      (if machine.Resets ⟨.record err,now⟩ then [] else since ++ [⟨.record err,now⟩]) := by
  have tripped : ∀ later, Counted (machine.trip now) later := fun later => counted.cleared rfl rfl nofun
  rcases machine.record_cases err now with ⟨_,_,same⟩ | ⟨state,_,same⟩ | ⟨_,_,_,same⟩ | ⟨state,failed,few,same⟩ |
    ⟨state,none,same⟩ | ⟨state,same⟩
  · rw [same]
    exact tripped _
  · have resets : machine.Resets ⟨.record err,now⟩ := Or.inl ⟨by simp [state],by simp [Machine.step,same]⟩
    rw [same,if_pos resets]
    exact counted.cleared rfl rfl fun _ => rfl
  · rw [same]
    exact tripped _
  · have goes : ¬machine.Resets ⟨.record err,now⟩ := by simp [Machine.Resets,state,failed]
    obtain ⟨err,rfl⟩ := Option.ne_none_iff_exists'.mp failed
    rw [UInt32.lt_iff_toNat_lt] at few
    rw [same,if_neg goes]
    refine ⟨counted.threshold,counted.timeout,few,fun other => absurd state other,?_⟩
    intro _
    change (machine.consecutiveFailures + 1).toNat = _
    rw [counted.next_failure,counted.failures state]
    simp [Event.failing]
  · have resets : machine.Resets ⟨.record err,now⟩ := Or.inr ⟨state,by rw [none]⟩
    rw [same,if_pos resets]
    exact counted.cleared rfl rfl fun _ => rfl
  · rw [same]
    exact counted.cleared rfl (counted.idle (by simp [state])) (by simp [state])

/-- Run lemma: a new machine keeps count over any sequence of calls. -/
theorem counted_run (config : Config) (machine : Machine) (created : Machine.new config = .ok machine)
    (events : List Event) : Counted (machine.run events) (machine.sinceReset events) := by
  obtain ⟨valid,rfl⟩ := new_ok config machine created
  obtain ⟨threshold,timeout⟩ := validate_ok config valid
  induction events using List.reverseRecOn with
  | nil => exact ⟨threshold,timeout,threshold,fun _ => rfl,fun _ => rfl⟩
  | append_singleton events event ih =>
    rw [Machine.run_snoc,Machine.sinceReset_snoc]
    obtain ⟨call,now⟩ := event
    cases call with
    | allow => exact counted_allow _ _ ih now
    | record err => exact counted_record _ _ ih err now

theorem Counted.trips_iff {machine : Machine} {since : List Event} (counted : Counted machine since)
    (closed : machine.state = .closed) (err : Option Error) (now : Int) :
    (machine.record err now).state = .opened ↔
      err ≠ none ∧ since.countP Event.failing + 1 = machine.config.failureThreshold.toNat := by
  have next := counted.next_failure
  have below := counted.below
  rw [← counted.failures closed]
  rcases machine.record_cases err now with ⟨state,_⟩ | ⟨state,_⟩ | ⟨_,failed,reached,result⟩ |
    ⟨_,_,few,result⟩ | ⟨_,success,result⟩ | ⟨state,_⟩
  · simp [closed] at state
  · simp [closed] at state
  · rw [UInt32.le_iff_toNat_le,next] at reached
    rw [result]
    exact ⟨fun _ => ⟨failed,by omega⟩,fun _ => rfl⟩
  · rw [UInt32.lt_iff_toNat_lt,next] at few
    rw [result]
    exact ⟨by simp [closed],fun both => by omega⟩
  · rw [result]
    exact ⟨by simp [closed],fun both => absurd success both.1⟩
  · simp [closed] at state

/-- No call of `Allow` among the events comes at or after the deadline. -/
def AllowsBefore (deadline : Int) (events : List Event) : Prop :=
  ∀ event ∈ events, event.call = .allow → event.time < deadline

def NoRecords (events : List Event) : Prop := ∀ event ∈ events, event.call = .allow

/-- An open machine is left as it is until the first call of `Allow` after the timeout. -/
theorem opened_run (machine : Machine) (timeout : 0 < machine.config.openTimeout.toInt)
    (state : machine.state = .opened) (events : List Event)
    (early : AllowsBefore (machine.openedAt + machine.config.openTimeout.toInt) events) :
    machine.run events = machine := by
  induction events with
  | nil => rfl
  | cons event events ih =>
    have stays : machine.step event = machine := by
      obtain ⟨call,now⟩ := event
      cases call with
      | allow =>
        have before := early ⟨.allow,now⟩ List.mem_cons_self rfl
        change (machine.allow now).2 = machine
        unfold Machine.allow
        simp only [state,if_pos ((sub_lt_iff now machine.openedAt _ timeout).mpr before)]
      | record err =>
        change machine.record err now = machine
        simp only [Machine.record,state]
    rw [Machine.run_cons,stays]
    exact ih fun later member => early later (List.mem_cons_of_mem _ member)

/-- A half-open machine refuses every call until something is recorded. -/
theorem halfOpen_run (machine : Machine) (state : machine.state = .halfOpen) (events : List Event)
    (silent : NoRecords events) : machine.run events = machine := by
  induction events with
  | nil => rfl
  | cons event events ih =>
    have stays : machine.step event = machine := by
      unfold Machine.step Machine.allow
      simp only [silent event List.mem_cons_self,state]
    rw [Machine.run_cons,stays]
    exact ih fun later member => silent later (List.mem_cons_of_mem _ member)

/-- Only `Record` opens the machine, and it notes the time. -/
theorem enters_opened (machine : Machine) (timeout : 0 < machine.config.openTimeout.toInt) (event : Event)
    (other : machine.state ≠ .opened) (opened : (machine.step event).state = .opened) :
    (machine.step event).openedAt = event.time ∧ (machine.step event).config = machine.config := by
  obtain ⟨call,now⟩ := event
  cases call with
  | allow =>
    change (machine.allow now).2.state = .opened at opened
    rcases machine.allow_cases now timeout with ⟨_,same⟩ | ⟨_,same⟩ | ⟨state,_,_⟩ | ⟨state,_,_⟩
    · rw [same] at opened
      contradiction
    · rw [same] at opened
      contradiction
    · contradiction
    · contradiction
  | record err =>
    change (machine.record err now).state = .opened at opened
    change (machine.record err now).openedAt = now ∧ (machine.record err now).config = machine.config
    rcases machine.record_cases err now with ⟨_,_,same⟩ | ⟨_,_,same⟩ | ⟨_,_,_,same⟩ | ⟨state,_,_,same⟩ |
      ⟨state,_,same⟩ | ⟨state,_⟩
    · exact same ▸ ⟨rfl,rfl⟩
    · simp [same] at opened
    · exact same ▸ ⟨rfl,rfl⟩
    · simp [same,state] at opened
    · simp [same,state] at opened
    · contradiction

/-- From the moment the machine is opened: calls before the deadline are refused, what is
recorded changes nothing, the first call at or after the deadline is the probe, and while
nothing is recorded no other call is admitted. -/
structure CoolsDown (machine : Machine) (deadline : Int) (later : List Event) : Prop where
  refused : ∀ before now after, later = before ++ ⟨.allow,now⟩::after → AllowsBefore deadline before →
    now < deadline → (machine.run before).allow now = ((false,false),machine.run before)
  stays : ∀ before err now after, later = before ++ ⟨.record err,now⟩::after → AllowsBefore deadline before →
    ((machine.run before).record err now).state = .opened
  probe : ∀ before now after, later = before ++ ⟨.allow,now⟩::after → AllowsBefore deadline before →
    deadline ≤ now → ((machine.run before).allow now).1 = (true,true)
  alone : ∀ before now waiting next after, later = before ++ ⟨.allow,now⟩::waiting ++ ⟨.allow,next⟩::after →
    AllowsBefore deadline before → deadline ≤ now → NoRecords waiting →
    ((machine.run (before ++ ⟨.allow,now⟩::waiting)).allow next).1 = (false,false)

theorem cools_down (machine : Machine) (timeout : 0 < machine.config.openTimeout.toInt)
    (state : machine.state = .opened) (later : List Event) :
    CoolsDown machine (machine.openedAt + machine.config.openTimeout.toInt) later := by
  have waits := opened_run machine timeout state
  have elapsed := fun now => sub_lt_iff now machine.openedAt _ timeout
  have admits : ∀ now, machine.openedAt + machine.config.openTimeout.toInt ≤ now →
      machine.allow now = ((true,true),{machine with state := .halfOpen}) := by
    intro now late
    simp only [Machine.allow,state,elapsed]
    rw [if_neg (not_lt.mpr late)]
  refine ⟨?_,?_,?_,?_⟩
  · intro before now after _ early soon
    rw [waits before early]
    simp only [Machine.allow,state,elapsed]
    rw [if_pos soon]
  · intro before err now after _ early
    rw [waits before early]
    simp only [Machine.record,state]
  · intro before now after _ early late
    rw [waits before early,admits now late]
  · intro before now waiting next after _ early late silent
    rw [Machine.run_append,waits before early,Machine.run_cons]
    change (((machine.allow now).2.run waiting).allow next).1 = (false,false)
    rw [admits now late,halfOpen_run _ rfl waiting silent]
    rfl

/-- The trip and cool-down contract of a breaker, after any calls whatever the clock reads. -/
theorem trips_and_cools_down (config : Config) (machine : Machine) (created : Machine.new config = .ok machine)
    (events : List Event) :
    ((machine.run events).consecutiveFailures < config.failureThreshold ∧
      ((machine.run events).state ≠ .closed → (machine.run events).consecutiveFailures = 0)) ∧
    ((machine.run events).state = .closed → ∀ err now, ((machine.run events).record err now).state = .opened ↔
      err ≠ none ∧ (machine.sinceReset events).countP Event.failing + 1 = config.failureThreshold.toNat) ∧
    (∀ earlier event later, events = earlier ++ event::later → (machine.run earlier).state ≠ .opened →
      (machine.run (earlier ++ [event])).state = .opened →
      CoolsDown (machine.run (earlier ++ [event])) (event.time + config.openTimeout.toInt) later) ∧
    ((machine.run events).state = .halfOpen → ∀ now,
      (∀ err, (machine.run events).record (some err) now = (machine.run events).trip now ∧
        ∀ later, CoolsDown ((machine.run events).trip now) (now + config.openTimeout.toInt) later) ∧
      ((machine.run events).record none now).state = .closed ∧
      ((machine.run events).record none now).consecutiveFailures = 0) := by
  have counted := counted_run config machine created
  obtain ⟨valid,shape⟩ := new_ok config machine created
  have same : ∀ events, (machine.run events).config = config := by
    intro events
    rw [Machine.run_config,shape]
  have timeout : ∀ events, 0 < (machine.run events).config.openTimeout.toInt := fun events => (counted events).timeout
  refine ⟨⟨?_,(counted events).idle⟩,?_,?_,?_⟩
  · have below := (counted events).below
    rw [same] at below
    exact below
  · intro closed err now
    rw [(counted events).trips_iff closed err now,same]
  · intro earlier event later _ other opened
    rw [Machine.run_snoc] at opened ⊢
    have entered := enters_opened _ (timeout earlier) event other opened
    have cooling := cools_down _ (by rw [entered.2]; exact timeout earlier) opened later
    rw [entered.1,entered.2,same] at cooling
    exact cooling
  · intro halfOpen now
    have cooling := cools_down ((machine.run events).trip now) (timeout events) rfl
    change ∀ later, CoolsDown _ (now + (machine.run events).config.openTimeout.toInt) later at cooling
    rw [same] at cooling
    exact ⟨fun err => ⟨by simp [Machine.record,halfOpen],cooling⟩,by simp [Machine.record,halfOpen],
      by simp [Machine.record,halfOpen]⟩

/-- Two failures in a row, and a minute before the probe. -/
def sampleConfig : Config := ⟨2,60000000000,0⟩

def sampleMachine : Machine := ⟨sampleConfig,.closed,0,zeroTime⟩

def sampleError : Error := .new "broker unavailable"

theorem second_failure_trips : Machine.new sampleConfig = .ok sampleMachine ∧
    ((sampleMachine.run [⟨.record (some sampleError),1⟩]).record (some sampleError) 2).state = .opened :=
  ⟨rfl,((trips_and_cools_down sampleConfig sampleMachine rfl [⟨.record (some sampleError),1⟩]).2.1 rfl _ _).mpr
    ⟨by simp,by decide⟩⟩

end ControlPlane.Corebreaker
