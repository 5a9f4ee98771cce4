import ControlPlane.Corebreaker.ProbeGate
import ControlPlane.Effect.Threads
import ControlPlane.Ingestion.Event
import Mathlib.Algebra.BigOperators.Group.Finset.Piecewise
import Mathlib.Algebra.Order.BigOperators.Group.List

/-! The publishers of the ingestion service around its Kafka client, in the order in which
`cmd/ingestion` wraps them: the circuit breaker (`internal/ingestion/breaker.go`), the bounded queue
of slots (`backpressure.go`) and the metrics (`metrics.go`). Every request calls `Publish` from a
goroutine of its own, so the calls of many requests interleave. Latencies and log lines are left out. -/
namespace ControlPlane.Ingestion
open Go Corebreaker Effect Effect.Program

def errCircuitOpen : Error := errOpen

def errPublishQueueFull : Error := .new "publish queue full"

def errInvalidBackpressureConfig : Error := .new "invalid backpressure config"

def maxBackpressureInFlight : Int64 := 100000

structure BackpressureConfig where
  maxInFlight : Int64
  deriving DecidableEq, Repr

def BackpressureConfig.validate (config : BackpressureConfig) : Except Error Unit :=
  if config.maxInFlight ≤ 0 then
    .error (.wrap "%w: MaxInFlight must be positive" [] errInvalidBackpressureConfig)
  else if config.maxInFlight > maxBackpressureInFlight then
    .error (.wrap "%w: MaxInFlight must not exceed %d" [.int maxBackpressureInFlight.toInt]
      errInvalidBackpressureConfig)
  else .ok ()

/-- The capacity of the channel of slots. -/
structure BackpressureLimiter where
  capacity : Nat
  deriving DecidableEq, Repr

def newBackpressureLimiter (config : BackpressureConfig) : Except Error BackpressureLimiter := do
  wrapping "new backpressure limiter: %w" config.validate
  return ⟨config.maxInFlight.toInt.toNat⟩

inductive PublishCall where
  | acquireSlot
  | releaseSlot
  | allow
  | publish (event : Event) (isProbe : Bool)
  | record (err : Option Error)
  | state
  | count (success : Bool)
  | setBreakerState (value : Nat)

def PublishCall.Reply : PublishCall → Type
  | .acquireSlot => Bool
  | .releaseSlot => Unit
  | .allow => Bool × Bool
  | .publish _ _ => Option Error
  | .record _ => Unit
  | .state => State
  | .count _ => Unit
  | .setBreakerState _ => Unit

abbrev Publishing (α : Type) := Program PublishCall.Reply α

-- From a context, of which only a probe's deadline is kept, and an event.
abbrev Publisher := Bool → Event → Publishing (Option Error)

def acquireSlot : Publishing Bool := perform PublishCall.acquireSlot

def releaseSlot : Publishing Unit := perform PublishCall.releaseSlot

def allow : Publishing (Bool × Bool) := perform PublishCall.allow

def record (err : Option Error) : Publishing Unit := perform (PublishCall.record err)

def breakerState : Publishing State := perform PublishCall.state

def count (success : Bool) : Publishing Unit := perform (PublishCall.count success)

def setBreakerState (value : Nat) : Publishing Unit := perform (PublishCall.setBreakerState value)

/-- The Kafka client's `Publish`. -/
def kafkaPublish : Publisher := fun isProbe event => perform (PublishCall.publish event isProbe)

def CircuitBreaker.publish (next : Publisher) : Publisher := fun ctx event => do
  let (allowed,isProbe) ← allow
  if allowed then
    let err ← next (ctx || isProbe) event
    record err
    return err
  else return some errCircuitOpen

def BackpressureLimiter.publish (next : Publisher) : Publisher := fun ctx event => do
  if ← acquireSlot then
    let err ← next ctx event
    releaseSlot
    return err
  else return some errPublishQueueFull

def breakerStateValue : State → Nat
  | .closed => 0
  | .opened => 2
  | .halfOpen => 1

def InstrumentedPublisher.publish (next : Publisher) : Publisher := fun ctx event => do
  let err ← next ctx event
  count err.isNone
  setBreakerState (breakerStateValue (← breakerState))
  return err

/-- What the two servers are given. -/
def publish : Publisher := InstrumentedPublisher.publish
  (BackpressureLimiter.publish (CircuitBreaker.publish kafkaPublish))

abbrev PublishEvent := (op : PublishCall) × op.Reply

/-- The reports that every call ends with. -/
def reports (success : Bool) (state : State) : List PublishEvent :=
  [⟨.count success,()⟩,⟨.state,state⟩,⟨.setBreakerState (breakerStateValue state),()⟩]

/-- The ways a call can go: no slot, refused by the breaker, or passed on to Kafka. -/
inductive Published (event : Event) : List PublishEvent → Option Error → Prop
  | full (state : State) : Published event (⟨.acquireSlot,false⟩::reports false state) (some errPublishQueueFull)
  | refused (isProbe : Bool) (state : State) :
      Published event (⟨.acquireSlot,true⟩::⟨.allow,(false,isProbe)⟩::⟨.releaseSlot,()⟩::reports false state)
        (some errCircuitOpen)
  | sent (isProbe : Bool) (err : Option Error) (state : State) :
      Published event (⟨.acquireSlot,true⟩::⟨.allow,(true,isProbe)⟩::⟨.publish event isProbe,err⟩::⟨.record err,()⟩::
        ⟨.releaseSlot,()⟩::reports err.isNone state) err

theorem reports_trace (err : Option Error) {result : Option Error} {events : List PublishEvent}
    (trace : Trace (count err.isNone >>= fun _ => breakerState >>= fun state =>
      setBreakerState (breakerStateValue state) >>= fun _ => pure err) events result) :
    ∃ state, events = reports err.isNone state ∧ result = err := by
  cases trace with
  | call _ rest =>
    cases rest with
    | call state rest =>
      cases rest with
      | call _ rest =>
        cases rest
        exact ⟨state,rfl,rfl⟩

theorem publish_traces {event : Event} {events : List PublishEvent} {result : Option Error}
    (trace : Trace (publish false event) events result) : Published event events result := by
  cases trace with
  | call granted rest =>
    cases granted with
    | false =>
      obtain ⟨state,rfl,rfl⟩ := reports_trace _ rest
      exact .full state
    | true =>
      cases rest with
      | call answer rest =>
        obtain ⟨allowed,isProbe⟩ := answer
        cases allowed with
        | false =>
          cases rest with
          | call _ rest =>
            obtain ⟨state,rfl,rfl⟩ := reports_trace _ rest
            exact .refused isProbe state
        | true =>
          cases rest with
          | call err rest =>
            cases rest with
            | call _ rest =>
              cases rest with
              | call _ rest =>
                obtain ⟨state,rfl,rfl⟩ := reports_trace _ rest
                exact .sent isProbe _ state

structure PublishState where
  slots : Nat
  machine : Machine
  clock : Int
  successes : Nat
  failures : Nat
  breakerState : Nat
  acknowledged : Nat

/-- How the channel, the breaker, the metrics and Kafka answer. A send on the channel of slots
succeeds while it has room; Kafka may fail any call. -/
inductive PublishAnswers (capacity : Nat) (s : PublishState) : (op : PublishCall) → op.Reply → PublishState → Prop
  | acquired (room : s.slots < capacity) : PublishAnswers capacity s .acquireSlot true {s with slots := s.slots+1}
  | full (taken : capacity ≤ s.slots) : PublishAnswers capacity s .acquireSlot false s
  | released (slots : Nat) (taken : s.slots = slots+1) : PublishAnswers capacity s .releaseSlot () {s with slots}
  | allowed (now : Int) (later : s.clock ≤ now) : PublishAnswers capacity s .allow (s.machine.allow now).1
      {s with machine := (s.machine.allow now).2,clock := now}
  | acknowledged (event : Event) (isProbe : Bool) :
      PublishAnswers capacity s (.publish event isProbe) none {s with acknowledged := s.acknowledged+1}
  | rejected (event : Event) (isProbe : Bool) (err : Error) : PublishAnswers capacity s (.publish event isProbe)
      (some err) s
  | recorded (err : Option Error) (now : Int) (later : s.clock ≤ now) : PublishAnswers capacity s (.record err) ()
      {s with machine := s.machine.record err now,clock := now}
  | state : PublishAnswers capacity s .state s.machine.state s
  | succeeded : PublishAnswers capacity s (.count true) () {s with successes := s.successes+1}
  | failed : PublishAnswers capacity s (.count false) () {s with failures := s.failures+1}
  | reported (value : Nat) : PublishAnswers capacity s (.setBreakerState value) () {s with breakerState := value}

section runs
variable {ι : Type} [DecidableEq ι] {limiter : BackpressureLimiter} {events : ι → Event} {initial : PublishState}
  {history : List (Interleaving.Event ι PublishCall.Reply (Option Error))}
  {system : Interleaving.System PublishState ι PublishCall.Reply (Option Error)}

/-- A run of any number of `Publish` calls, one of each event, in any order of their steps. -/
abbrev PublishRun (limiter : BackpressureLimiter) (events : ι → Event) (initial : PublishState)
    (history : List (Interleaving.Event ι PublishCall.Reply (Option Error)))
    (system : Interleaving.System PublishState ι PublishCall.Reply (Option Error)) : Prop :=
  Interleaving.Run (PublishAnswers limiter.capacity) (fun _ _ => False) (fun i => publish false (events i))
    (.initial initial) history system

section slots

/-- A slot is taken by a send that succeeds, and Kafka is called only by those who have one. -/
def slotBrackets : Interleaving.Brackets PublishCall.Reply where
  opens
    | .acquireSlot,granted => granted
    | _,_ => false
  closes
    | .releaseSlot => true
    | _ => false
  needs
    | .publish _ _ => true
    | _ => false

/-- An admitted call is reported. -/
def admissionBrackets : Interleaving.Brackets PublishCall.Reply where
  opens
    | .allow,answer => answer.1
    | _,_ => false
  closes
    | .record _ => true
    | _ => false
  needs
    | .publish _ _ => true
    | _ => false

theorem publish_balanced_slots (event : Event) : Interleaving.Balanced slotBrackets false (publish false event) := by
  have reporting (err : Option Error) : Interleaving.Balanced slotBrackets false (count err.isNone >>= fun _ =>
      breakerState >>= fun state => setBreakerState (breakerStateValue state) >>= fun _ => pure err) :=
    .other rfl (fun _ => rfl) nofun fun _ => .other rfl (fun _ => rfl) nofun fun _ =>
      .other rfl (fun _ => rfl) nofun fun _ => .done _
  refine .take rfl rfl fun granted => ?_
  cases granted with
  | false => exact reporting _
  | true =>
    refine .other rfl (fun _ => rfl) (fun _ => rfl) fun answer => ?_
    obtain ⟨allowed,isProbe⟩ := answer
    cases allowed with
    | false => exact .give rfl (fun _ => rfl) fun _ => reporting _
    | true =>
      exact .other rfl (fun _ => rfl) (fun _ => rfl) fun err => .other rfl (fun _ => rfl) (fun _ => rfl) fun _ =>
        .give rfl (fun _ => rfl) fun _ => reporting err

theorem publish_balanced_admission (event : Event) :
    Interleaving.Balanced admissionBrackets false (publish false event) := by
  have reporting (err : Option Error) : Interleaving.Balanced admissionBrackets false (count err.isNone >>= fun _ =>
      breakerState >>= fun state => setBreakerState (breakerStateValue state) >>= fun _ => pure err) :=
    .other rfl (fun _ => rfl) nofun fun _ => .other rfl (fun _ => rfl) nofun fun _ =>
      .other rfl (fun _ => rfl) nofun fun _ => .done _
  refine .other rfl (fun _ => rfl) nofun fun granted => ?_
  cases granted with
  | false => exact reporting _
  | true =>
    refine .take rfl rfl fun answer => ?_
    obtain ⟨allowed,isProbe⟩ := answer
    cases allowed with
    | false => exact .other rfl (fun _ => rfl) nofun fun _ => reporting _
    | true =>
      exact .other rfl (fun _ => rfl) (fun _ => rfl) fun err => .give rfl (fun _ => rfl) fun _ =>
        .other rfl (fun _ => rfl) nofun fun _ => reporting err

theorem slots_tracked (capacity : Nat) : Interleaving.Tracked (ι := ι) (α := Option Error) (PublishAnswers capacity)
    (fun _ _ => False) slotBrackets fun s holders => s.slots = holders.card ∧ s.slots ≤ capacity := by
  refine ⟨?_,nofun⟩
  rintro s op reply s' i holders ⟨counted,bounded⟩ answered closing opening
  cases answered with
  | acquired room =>
    have absent : i ∉ holders := opening rfl
    change s.slots+1 = (insert i holders).card ∧ s.slots+1 ≤ capacity
    rw [Finset.card_insert_of_notMem absent,counted]
    omega
  | released slots taken =>
    have present : i ∈ holders := closing rfl
    change slots = (holders.erase i).card ∧ slots ≤ capacity
    rw [Finset.card_erase_of_mem present]
    omega
  | _ => exact ⟨counted,bounded⟩

theorem run_slots (fresh : initial.slots = 0) (run : PublishRun limiter events initial history system) :
    ∃ holders : Finset ι, Interleaving.Held slotBrackets system holders ∧ system.shared.slots = holders.card ∧
      system.shared.slots ≤ limiter.capacity :=
  Interleaving.run_tracked (slots_tracked limiter.capacity) (fun i => publish_balanced_slots (events i))
    ⟨by simpa using fresh,by omega⟩ run

theorem newBackpressureLimiter_ok {config : BackpressureConfig} (built : newBackpressureLimiter config = .ok limiter) :
    (limiter.capacity : Int) = config.maxInFlight.toInt := by
  obtain ⟨_,valid,rest⟩ := bind_success _ _ _ built
  cases rest
  rw [wrapping_ok] at valid
  unfold BackpressureConfig.validate at valid
  split_ifs at valid with negative
  rw [Int64.not_le,Int64.lt_iff_toInt_lt] at negative
  exact Int.toNat_of_nonneg (Int.le_of_lt negative)

/-- A send fails only while the channel is full, with the slots of as many other calls. -/
theorem refused_slot (fresh : initial.slots = 0)
    {before : List (Interleaving.Event ι PublishCall.Reply (Option Error))} {i : ι}
    (run : PublishRun limiter events initial (before ++ [.called i .acquireSlot false]) system) :
    ∃ others : Finset ι, i ∉ others ∧ others.card = limiter.capacity ∧
      ∀ k ∈ others, ∃ program, system.threads k = .running program := by
  generalize whole : before ++ [Interleaving.Event.called i PublishCall.acquireSlot false] = history at run
  cases run with
  | start => simp at whole
  | @step earlier middle _ event run step =>
    obtain ⟨rfl,last⟩ := List.append_inj' whole rfl
    cases last
    obtain ⟨holders,held,counted,bounded⟩ := run_slots fresh run
    have after := Interleaving.step_held (fun i => publish_balanced_slots (events i)) held step
    cases step with
    | called _ _ rest _ shared running answered =>
      obtain ⟨_,_,opening,_⟩ := (held.balanced i _ running).call_cases
      have absent : i ∉ holders := by simpa using opening true rfl
      cases answered with
      | full taken => exact ⟨holders,absent,by omega,after.running⟩

/-- Whatever the order of their steps, at most `MaxInFlight` calls are in Kafka's `Publish` at a
time, a call is turned away only when that many others are running, and no slot is lost. -/
theorem publish_in_flight_bounded {config : BackpressureConfig} (built : newBackpressureLimiter config = .ok limiter)
    (fresh : initial.slots = 0) (run : PublishRun limiter events initial history system) :
    (∀ callers : Finset ι, (∀ i ∈ callers, ∃ event isProbe rest,
        system.threads i = .running (.call (.publish event isProbe) rest)) → callers.card ≤ config.maxInFlight.toInt) ∧
      (∀ before i, history = before ++ [.called i .acquireSlot false] →
        ∃ others : Finset ι, i ∉ others ∧ others.card = config.maxInFlight.toInt ∧
          ∀ k ∈ others, ∃ program, system.threads k = .running program) ∧
      ((∀ i program, system.threads i ≠ .running program) → system.shared.slots = 0) := by
  obtain ⟨holders,held,counted,bounded⟩ := run_slots fresh run
  have capacity := newBackpressureLimiter_ok built
  refine ⟨?_,?_,?_⟩
  · intro callers inside
    have subset : callers ⊆ holders := by
      intro i member
      obtain ⟨event,isProbe,rest,running⟩ := inside i member
      exact held.needed running rfl
    have fewer := Finset.card_le_card subset
    omega
  · rintro before i rfl
    obtain ⟨others,absent,all,running⟩ := refused_slot fresh run
    exact ⟨others,absent,by omega,running⟩
  · intro quiet
    rw [counted,Finset.card_eq_zero,Finset.eq_empty_iff_forall_notMem]
    intro i member
    obtain ⟨program,running⟩ := held.running i member
    exact quiet i program running

def sampleEvent : Event := ⟨.replicate 16 7,text "tenant-a",1,text "AAPL",Ledger.sideBuy,100,1000,text "USD",⟨0,0⟩⟩

-- A breaker that opens with the first failure.
def sampleConfig : Config := ⟨1,30000000000,30000000000⟩

def idle : PublishState := ⟨0,⟨sampleConfig,.closed,0,zeroTime⟩,0,0,0,0,0⟩

theorem second_caller_turned_away : newBackpressureLimiter ⟨1⟩ = .ok ⟨1⟩ ∧
    ∃ before system, PublishRun (ι := Bool) ⟨1⟩ (fun _ => sampleEvent) idle
        (before ++ [.called true .acquireSlot false]) system ∧
      ∃ others : Finset Bool, true ∉ others ∧ others.card = (1 : Int) ∧
        ∀ k ∈ others, ∃ program, system.threads k = .running program := by
  have built : newBackpressureLimiter ⟨1⟩ = .ok ⟨1⟩ := rfl
  have first : PublishRun (ι := Bool) ⟨1⟩ (fun _ => sampleEvent) idle [.invoked false] _ :=
    Interleaving.Run.start.step (.invoked _ false rfl)
  have taken : PublishRun (ι := Bool) ⟨1⟩ (fun _ => sampleEvent) idle _ _ :=
    first.step (.called _ false .acquireSlot _ true _ rfl (.acquired (by decide)))
  have second : PublishRun (ι := Bool) ⟨1⟩ (fun _ => sampleEvent) idle _ _ := taken.step (.invoked _ true rfl)
  have turned : PublishRun (ι := Bool) ⟨1⟩ (fun _ => sampleEvent) idle _ _ :=
    second.step (.called _ true .acquireSlot _ false _ rfl (.full (by decide)))
  exact ⟨built,_,_,turned,(publish_in_flight_bounded built rfl turned).2.1 _ true rfl⟩

end slots

section reports

theorem allow_config (machine : Machine) (now : Int) : (machine.allow now).2.config = machine.config :=
  machine.step_config ⟨.allow,now⟩

theorem record_config (machine : Machine) (err : Option Error) (now : Int) :
    (machine.record err now).config = machine.config := machine.step_config ⟨.record err,now⟩

/-- Where the breaker is half-open, some admitted call has not reported. -/
theorem admission_tracked (capacity : Nat) (config : Config) : Interleaving.Tracked (ι := ι) (α := Option Error)
    (PublishAnswers capacity) (fun _ _ => False) admissionBrackets fun s holders =>
      s.machine.config = config ∧ (s.machine.state = .halfOpen → holders.Nonempty) := by
  refine ⟨?_,nofun⟩
  rintro s op reply s' i holders ⟨configured,waited⟩ answered closing opening
  cases answered with
  | allowed now later =>
    refine ⟨(allow_config _ _).trans configured,?_⟩
    change _ → (if (s.machine.allow now).1.1 then insert i holders else holders).Nonempty
    rcases s.machine.allow_answers now with ⟨_,asked⟩ | asked | ⟨_,asked⟩
    · rw [asked]
      exact fun _ => Finset.insert_nonempty i holders
    · rw [asked]
      exact waited
    · rw [asked]
      exact fun _ => Finset.insert_nonempty i holders
  | recorded err now later =>
    exact ⟨(record_config _ _ _).trans configured,fun halfOpen => absurd halfOpen (record_not_halfOpen _ _ _)⟩
  | _ => exact ⟨configured,waited⟩

/-- While the breaker is half-open, some call in flight is bound to report to it; once no call is
in flight, it is closed, or open and lets the first call after its timeout through. -/
theorem half_open_breaker_reported {config : Config} (created : Machine.new config = .ok initial.machine)
    (run : PublishRun limiter events initial history system) :
    (system.shared.machine.state = .halfOpen → ∃ i program, system.threads i = .running program ∧
        ∀ calls result, Trace program calls result → ∃ err, ⟨.record err,()⟩ ∈ calls) ∧
      ((∀ i program, system.threads i ≠ .running program) → system.shared.machine.state ≠ .halfOpen ∧
        ∀ now, (system.shared.machine.state = .opened →
            system.shared.machine.openedAt + config.openTimeout.toInt ≤ now) →
          (system.shared.machine.allow now).1.1 = true) := by
  obtain ⟨valid,fresh⟩ := new_ok config _ created
  have initially : initial.machine.config = config ∧ (initial.machine.state = .halfOpen → (∅ : Finset ι).Nonempty) := by
    rw [fresh]
    exact ⟨rfl,nofun⟩
  obtain ⟨holders,held,configured,waited⟩ := Interleaving.run_tracked (admission_tracked limiter.capacity config)
    (fun i => publish_balanced_admission (events i)) initially run
  refine ⟨?_,?_⟩
  · intro halfOpen
    obtain ⟨i,member⟩ := waited halfOpen
    obtain ⟨program,running⟩ := held.running i member
    have balanced := held.balanced i program running
    rw [decide_eq_true member] at balanced
    refine ⟨i,program,running,?_⟩
    intro calls result trace
    obtain ⟨⟨op,reply⟩,made,closes⟩ := balanced.closed trace
    cases op with
    | record err => exact ⟨err,made⟩
    | _ => cases closes
  · intro quiet
    have settled : system.shared.machine.state ≠ .halfOpen := by
      intro halfOpen
      obtain ⟨i,member⟩ := waited halfOpen
      obtain ⟨program,running⟩ := held.running i member
      exact quiet i program running
    refine ⟨settled,?_⟩
    intro now cooled
    have timeout := (validate_ok config valid).2
    rw [← configured] at timeout cooled
    rcases system.shared.machine.allow_cases now timeout with ⟨_,asked⟩ | ⟨halfOpen,_⟩ | ⟨opened,early,_⟩ | ⟨_,_,asked⟩
    · rw [asked]
    · exact absurd halfOpen settled
    · exact absurd (cooled opened) (Int.not_le.mpr early)
    · rw [asked]

def sampleFailure : Error := .new "kafka server: request timed out"

-- The first call trips the breaker; half a minute later the second one is its probe, which fails
-- too, so that the breaker is open for another half minute once both have returned.
theorem probe_in_flight : Machine.new sampleConfig = .ok idle.machine ∧
    (∃ history system, PublishRun (ι := Bool) ⟨2⟩ (fun _ => sampleEvent) idle history system ∧
      system.shared.machine.state = .halfOpen ∧ ∃ i program, system.threads i = .running program ∧
        ∀ calls result, Trace program calls result → ∃ err, ⟨.record err,()⟩ ∈ calls) ∧
    ∃ history system, PublishRun (ι := Bool) ⟨2⟩ (fun _ => sampleEvent) idle history system ∧
      system.shared.machine.state = .opened ∧ ∀ now, 60000000000 ≤ now →
        (system.shared.machine.allow now).1.1 = true := by
  have created : Machine.new sampleConfig = .ok idle.machine := rfl
  have first : PublishRun (ι := Bool) ⟨2⟩ (fun _ => sampleEvent) idle _ _ :=
    (((((Interleaving.Run.start.step (.invoked _ false rfl)).step
      (.called _ false .acquireSlot _ true _ rfl (.acquired (by decide)))).step
      (.called _ false .allow _ (true,false) _ rfl (.allowed 0 (by decide)))).step
      (.called _ false (.publish sampleEvent false) _ (some sampleFailure) _ rfl (.rejected _ _ _))).step
      (.called _ false (.record (some sampleFailure)) _ () _ rfl (.recorded _ 0 (by decide))))
  have second : PublishRun (ι := Bool) ⟨2⟩ (fun _ => sampleEvent) idle _ _ :=
    ((first.step (.invoked _ true rfl)).step
      (.called _ true .acquireSlot _ true _ rfl (.acquired (by decide)))).step
      (.called _ true .allow _ (true,true) _ rfl (.allowed 30000000000 (by decide)))
  have failed : PublishRun (ι := Bool) ⟨2⟩ (fun _ => sampleEvent) idle _ _ :=
    ((((((second.step
      (.called _ true (.publish sampleEvent true) _ (some sampleFailure) _ rfl (.rejected _ _ _))).step
      (.called _ true (.record (some sampleFailure)) _ () _ rfl (.recorded _ 30000000000 (by decide)))).step
      (.called _ true .releaseSlot _ () _ rfl (.released 1 rfl))).step
      (.called _ true (.count false) _ () _ rfl .failed)).step
      (.called _ true .state _ State.opened _ rfl .state)).step
      (.called _ true (.setBreakerState 2) _ () _ rfl (.reported 2))).step
      (.returned _ true (some sampleFailure) rfl)
  have ended : PublishRun (ι := Bool) ⟨2⟩ (fun _ => sampleEvent) idle _ _ :=
    ((((failed.step
      (.called _ false .releaseSlot _ () _ rfl (.released 0 rfl))).step
      (.called _ false (.count false) _ () _ rfl .failed)).step
      (.called _ false .state _ State.opened _ rfl .state)).step
      (.called _ false (.setBreakerState 2) _ () _ rfl (.reported 2))).step
      (.returned _ false (some sampleFailure) rfl)
  refine ⟨created,⟨_,_,second,rfl,(half_open_breaker_reported created second).1 rfl⟩,_,_,ended,rfl,?_⟩
  intro now late
  exact ((half_open_breaker_reported created ended).2 (by rintro (_ | _) <;> exact nofun)).2 now fun _ => late

end reports

section accounts

def successWeight : PublishEvent → Nat
  | ⟨.count true,_⟩ => 1
  | _ => 0

def failureWeight : PublishEvent → Nat
  | ⟨.count false,_⟩ => 1
  | _ => 0

def acknowledgedWeight : PublishEvent → Nat
  | ⟨.publish _ _,none⟩ => 1
  | _ => 0

theorem Published.weights {event : Event} {calls : List PublishEvent} {result : Option Error}
    (published : Published event calls result) :
    (calls.map successWeight).sum = (if result.isNone then 1 else 0) ∧
      (calls.map failureWeight).sum = (if result.isSome then 1 else 0) ∧
      (calls.map acknowledgedWeight).sum = (if result.isNone then 1 else 0) := by
  cases published with
  | full state => exact ⟨rfl,rfl,rfl⟩
  | refused isProbe state => exact ⟨rfl,rfl,rfl⟩
  | sent isProbe _ state => cases result <;> exact ⟨rfl,rfl,rfl⟩

theorem Published.acknowledged_iff {event : Event} {calls : List PublishEvent} {result : Option Error}
    (published : Published event calls result) :
    result = none ↔ ∃ isProbe, ⟨.publish event isProbe,none⟩ ∈ calls := by
  refine ⟨?_,?_⟩
  · rintro rfl
    cases published with
    | sent isProbe _ state => exact ⟨isProbe,by simp⟩
  · rintro ⟨isProbe,member⟩
    have counted := List.le_sum_of_mem (List.mem_map_of_mem (f := acknowledgedWeight) member)
    rw [published.weights.2.2] at counted
    cases result with
    | none => rfl
    | some err => cases counted

theorem successes_counted (capacity : Nat) :
    Interleaving.Counts (PublishAnswers capacity) (fun _ _ => False) (·.successes) successWeight := by
  refine ⟨?_,nofun⟩
  intro s op reply s' answered
  cases answered <;> rfl

theorem failures_counted (capacity : Nat) :
    Interleaving.Counts (PublishAnswers capacity) (fun _ _ => False) (·.failures) failureWeight := by
  refine ⟨?_,nofun⟩
  intro s op reply s' answered
  cases answered <;> rfl

theorem acknowledged_counted (capacity : Nat) :
    Interleaving.Counts (PublishAnswers capacity) (fun _ _ => False) (·.acknowledged) acknowledgedWeight := by
  refine ⟨?_,nofun⟩
  intro s op reply s' answered
  cases answered <;> rfl

/-- A counter of which each finished call adds one or nothing, by its result. -/
theorem run_total {count : PublishState → Nat} {weight : PublishEvent → Nat} {counted : Option Error → Bool}
    (counts : Interleaving.Counts (PublishAnswers limiter.capacity) (fun _ _ => False) count weight)
    (weighs : ∀ event calls result, Published event calls result →
      (calls.map weight).sum = if counted result then 1 else 0)
    {callers : Finset ι} {results : ι → Option Error} (run : PublishRun limiter events initial history system)
    (returned : ∀ i ∈ callers, system.threads i = .returned (results i))
    (others : ∀ i, i ∉ callers → system.threads i = .waiting) :
    count system.shared = count initial + (callers.filter fun i => counted (results i)).card := by
  rw [Interleaving.run_counted counts callers run others,Finset.card_filter]
  refine congrArg (count initial + ·) (Finset.sum_congr rfl ?_)
  intro i member
  exact weighs _ _ _ (publish_traces (Interleaving.run_trace run (returned i member)))

/-- Once every caller has its answer, the two counters are the numbers of callers that were told of
a success and of a failure, and Kafka acknowledged exactly the events of the former, once each. -/
theorem publish_accounted (callers : Finset ι) (results : ι → Option Error)
    (run : PublishRun limiter events initial history system)
    (returned : ∀ i ∈ callers, system.threads i = .returned (results i))
    (others : ∀ i, i ∉ callers → system.threads i = .waiting) :
    system.shared.successes = initial.successes + (callers.filter fun i => (results i).isNone).card ∧
      system.shared.failures = initial.failures + (callers.filter fun i => (results i).isSome).card ∧
      system.shared.acknowledged = initial.acknowledged + (callers.filter fun i => (results i).isNone).card ∧
      ∀ i ∈ callers, results i = none ↔
        ∃ isProbe, ⟨.publish (events i) isProbe,none⟩ ∈ Interleaving.ownCalls i history := by
  refine ⟨run_total (successes_counted _) (fun _ _ _ published => published.weights.1) run returned others,
    run_total (failures_counted _) (fun _ _ _ published => published.weights.2.1) run returned others,
    run_total (acknowledged_counted _) (fun _ _ _ published => published.weights.2.2) run returned others,?_⟩
  intro i member
  exact (publish_traces (Interleaving.run_trace run (returned i member))).acknowledged_iff

-- The second caller finds the only slot taken and has its answer before the first.
theorem two_events_accounted :
    ∃ history system, PublishRun (ι := Bool) ⟨1⟩ (fun _ => sampleEvent) idle history system ∧
      system.threads false = .returned none ∧ system.threads true = .returned (some errPublishQueueFull) ∧
      system.shared.successes = 1 ∧ system.shared.failures = 1 ∧ system.shared.acknowledged = 1 ∧
      ∃ isProbe, ⟨.publish sampleEvent isProbe,none⟩ ∈ Interleaving.ownCalls false history := by
  have sending : PublishRun (ι := Bool) ⟨1⟩ (fun _ => sampleEvent) idle _ _ :=
    ((Interleaving.Run.start.step (.invoked _ false rfl)).step
      (.called _ false .acquireSlot _ true _ rfl (.acquired (by decide)))).step
      (.called _ false .allow _ (true,false) _ rfl (.allowed 0 (by decide)))
  have refused : PublishRun (ι := Bool) ⟨1⟩ (fun _ => sampleEvent) idle _ _ :=
    (((((sending.step (.invoked _ true rfl)).step
      (.called _ true .acquireSlot _ false _ rfl (.full (by decide)))).step
      (.called _ true (.count false) _ () _ rfl .failed)).step
      (.called _ true .state _ State.closed _ rfl .state)).step
      (.called _ true (.setBreakerState 0) _ () _ rfl (.reported 0))).step
      (.returned _ true (some errPublishQueueFull) rfl)
  have run : PublishRun (ι := Bool) ⟨1⟩ (fun _ => sampleEvent) idle _ _ :=
    ((((((refused.step
      (.called _ false (.publish sampleEvent false) _ none _ rfl (.acknowledged _ _))).step
      (.called _ false (.record none) _ () _ rfl (.recorded _ 0 (by decide)))).step
      (.called _ false .releaseSlot _ () _ rfl (.released 0 rfl))).step
      (.called _ false (.count true) _ () _ rfl .succeeded)).step
      (.called _ false .state _ State.closed _ rfl .state)).step
      (.called _ false (.setBreakerState 0) _ () _ rfl (.reported 0))).step
      (.returned _ false none rfl)
  obtain ⟨successes,failures,acknowledged,each⟩ := publish_accounted Finset.univ
    (fun caller => if caller then some errPublishQueueFull else none) run (by rintro (_ | _) _ <;> rfl)
    (fun caller absent => absurd (Finset.mem_univ caller) absent)
  exact ⟨_,_,run,rfl,rfl,successes,failures,acknowledged,(each false (Finset.mem_univ _)).mp rfl⟩

end accounts

end runs

end ControlPlane.Ingestion
