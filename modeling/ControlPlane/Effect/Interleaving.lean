import ControlPlane.Effect.Program
import Mathlib.Data.List.Basic

/-! Threads over one shared state, one call at a time. A history keeps the invocations, the
calls and the returns in the order in which they happen. The rule at the end is for threads
whose operation takes effect with its last call: what such threads do to the state, they do
as if one after the other, in an order that agrees with real time. -/
namespace Effect.Interleaving
open Program

variable {Op σ α ι ω : Type} {Reply : Op → Type}

inductive Thread {Op : Type} (Reply : Op → Type) (α : Type) where
  | waiting
  | running (program : Program Reply α)
  | returned (value : α)

structure System (σ ι : Type) {Op : Type} (Reply : Op → Type) (α : Type) where
  shared : σ
  threads : ι → Thread Reply α

inductive Event (ι : Type) {Op : Type} (Reply : Op → Type) (α : Type) where
  | invoked (thread : ι)
  | called (thread : ι) (op : Op) (reply : Reply op)
  | returned (thread : ι) (value : α)
  | outside

/-- No thread has started yet. -/
def System.initial (shared : σ) : System σ ι Reply α := ⟨shared,fun _ => .waiting⟩

/-- `i` returns before `j` is invoked. -/
def Precedes (history : List (Event ι Reply α)) (i j : ι) : Prop :=
  ∃ before after value, history = before ++ after ∧ .returned i value ∈ before ∧ .invoked j ∈ after

section semantics
variable [DecidableEq ι] (env : Environment σ Reply) (outside : σ → σ → Prop) (programs : ι → Program Reply α)

def System.set (system : System σ ι Reply α) (i : ι) (thread : Thread Reply α) : System σ ι Reply α :=
  {system with threads := Function.update system.threads i thread}

theorem System.set_self (system : System σ ι Reply α) (i : ι) (thread : Thread Reply α) :
    (system.set i thread).threads i = thread := by simp [System.set]

theorem System.set_other {system : System σ ι Reply α} {i k : ι} {thread : Thread Reply α} (different : k ≠ i) :
    (system.set i thread).threads k = system.threads k := by simp [System.set,different]

/-- What holds of the thread that is set and of the others as they were holds of all. -/
theorem System.forall_set {P : ι → Thread Reply α → Prop} {system : System σ ι Reply α} {i : ι}
    {thread : Thread Reply α} (self : P i thread) (others : ∀ k, k ≠ i → P k (system.threads k)) (k : ι) :
    P k ((system.set i thread).threads k) := by
  by_cases same : k = i
  · subst same
    rw [System.set_self]
    exact self
  · rw [System.set_other same]
    exact others k same

/-- One event; `outside` is what may happen to the state meanwhile without any of the threads. -/
inductive Step : System σ ι Reply α → Event ι Reply α → System σ ι Reply α → Prop
  | invoked (system : System σ ι Reply α) (i : ι) (waiting : system.threads i = .waiting) :
      Step system (.invoked i) (system.set i (.running (programs i)))
  | called (system : System σ ι Reply α) (i : ι) (op : Op) (next : Reply op → Program Reply α) (reply : Reply op)
      (shared : σ) (running : system.threads i = .running (.call op next))
        (answered : env system.shared op reply shared) :
      Step system (.called i op reply) {system.set i (.running (next reply)) with shared}
  | returned (system : System σ ι Reply α) (i : ι) (value : α) (ended : system.threads i = .running (.done value)) :
      Step system (.returned i value) (system.set i (.returned value))
  | outside (system : System σ ι Reply α) (shared : σ) (allowed : outside system.shared shared) :
      Step system .outside {system with shared}

inductive Run (first : System σ ι Reply α) : List (Event ι Reply α) → System σ ι Reply α → Prop
  | start : Run first [] first
  | step {history : List (Event ι Reply α)} {system next : System σ ι Reply α} {event : Event ι Reply α}
      (run : Run first history system) (step : Step env outside programs system event next) :
      Run first (history ++ [event]) next

variable {env outside programs} {first system : System σ ι Reply α} {history : List (Event ι Reply α)}
  (run : Run env outside programs first history system) (i : ι)
include run

theorem Run.invoke (waiting : system.threads i = .waiting) :
    ∃ next, Run env outside programs first (history ++ [.invoked i]) next ∧ next.shared = system.shared ∧
      next.threads i = .running (programs i) ∧ ∀ k, k ≠ i → next.threads k = system.threads k :=
  ⟨_,run.step (.invoked system i waiting),rfl,System.set_self system i _,fun _ => System.set_other⟩

theorem Run.call {op : Op} {rest : Reply op → Program Reply α} {reply : Reply op} {shared : σ}
    (running : system.threads i = .running (.call op rest)) (answered : env system.shared op reply shared) :
    ∃ next, Run env outside programs first (history ++ [.called i op reply]) next ∧ next.shared = shared ∧
      next.threads i = .running (rest reply) ∧ ∀ k, k ≠ i → next.threads k = system.threads k :=
  ⟨_,run.step (.called system i op rest reply shared running answered),rfl,System.set_self system i _,
    fun _ => System.set_other⟩

theorem Run.finish {value : α} (ended : system.threads i = .running (.done value)) :
    ∃ next, Run env outside programs first (history ++ [.returned i value]) next ∧
      ∀ k, k ≠ i → next.threads k = system.threads k :=
  ⟨_,run.step (.returned system i value ended),fun _ => System.set_other⟩

/-- Where every call has an answer, a thread that runs can be run to its end. -/
theorem Run.completes {program : Program Reply α} (total : ∀ state op, ∃ reply next, env state op reply next)
    (running : system.threads i = .running program) : ∃ later next value,
      Run env outside programs first (history ++ later) next ∧ .returned i value ∈ later ∧
        ∀ k, k ≠ i → next.threads k = system.threads k := by
  induction program generalizing history system with
  | done value =>
    obtain ⟨next,ended,others⟩ := run.finish i running
    exact ⟨_,next,value,ended,List.mem_cons_self,others⟩
  | call op rest ih =>
    obtain ⟨reply,shared,answered⟩ := total system.shared op
    obtain ⟨middle,called,_,goesOn,others⟩ := run.call i running answered
    obtain ⟨later,next,value,ended,returned,kept⟩ := ih reply called goesOn
    rw [List.append_assoc] at ended
    exact ⟨_,next,value,ended,List.mem_append_right _ returned,fun k different =>
      (kept k different).trans (others k different)⟩

omit i in
theorem Run.completes_all (total : ∀ state op, ∃ reply next, env state op reply next) {threads : List ι}
    (nodup : threads.Nodup) (waiting : ∀ i ∈ threads, system.threads i = .waiting) : ∃ later next,
      Run env outside programs first (history ++ later) next ∧ ∀ i ∈ threads, ∃ value, .returned i value ∈ later := by
  induction threads generalizing history system with
  | nil => exact ⟨[],system,by rwa [List.append_nil],nofun⟩
  | cons i threads ih =>
    obtain ⟨fresh,nodup⟩ := List.nodup_cons.mp nodup
    obtain ⟨started,invoked,_,running,before⟩ := run.invoke i (waiting i List.mem_cons_self)
    obtain ⟨own,middle,value,ended,returned,between⟩ := invoked.completes i total running
    have still (k : ι) (member : k ∈ threads) : middle.threads k = .waiting := by
      have different : k ≠ i := fun same => fresh (same ▸ member)
      rw [between k different,before k different]
      exact waiting k (List.mem_cons_of_mem _ member)
    obtain ⟨later,next,run,rest⟩ := ih ended nodup still
    simp only [List.append_assoc] at run
    refine ⟨_,next,run,?_⟩
    intro k member
    rcases List.mem_cons.mp member with rfl | member
    · exact ⟨value,by simp [returned]⟩
    · obtain ⟨other,returned⟩ := rest k member
      exact ⟨other,by simp [returned]⟩

end semantics

section history
variable {history : List (Event ι Reply α)} {i j : ι}

theorem precedes_snoc {event : Event ι Reply α} (later : Precedes (history ++ [event]) i j) :
    Precedes history i j ∨ event = .invoked j := by
  obtain ⟨before,after,value,parts,returned,invoked⟩ := later
  rcases List.eq_nil_or_concat after with rfl | ⟨rest,last,rfl⟩
  · cases invoked
  · rw [List.concat_eq_append,← List.append_assoc] at parts
    obtain ⟨rfl,same⟩ := List.append_inj' parts rfl
    rw [List.concat_eq_append] at invoked
    rcases List.mem_append.mp invoked with within | atEnd
    · exact Or.inl ⟨before,rest,value,rfl,returned,within⟩
    · rw [← same] at atEnd
      exact Or.inr (List.mem_singleton.mp atEnd).symm

theorem precedes_returned (order : Precedes history i j) : ∃ value, .returned i value ∈ history := by
  obtain ⟨before,after,value,rfl,returned,_⟩ := order
  exact ⟨value,List.mem_append_left after returned⟩

end history

/-- Each operation either leaves the view as it is and does not succeed, or applies its effect with
the call that ends it. `holds` is what is known of the state while a thread has the rest of its
program before it; no step of another thread undoes it. -/
structure EffectAtEnd (env : Environment σ Reply) (outside : σ → σ → Prop) (programs : ι → Program Reply α)
    (good : σ → Prop) (view : σ → ω) (effect : ι → ω → ω) (succeeded : α → Prop)
    (holds : ι → σ → Program Reply α → Prop) : Prop where
  started : ∀ i state, good state → holds i state (programs i)
  unstarted : ∀ i value, programs i = .done value → ¬succeeded value
  acts : ∀ i state op next reply state', good state → holds i state (.call op next) → env state op reply state' →
    good state' ∧ holds i state' (next reply) ∧
      ((view state' = view state ∧ ∀ value, next reply = .done value → ¬succeeded value) ∨
        (view state' = effect i (view state) ∧ ∃ value, next reply = .done value ∧ succeeded value))
  stable : ∀ i j state op next reply state' program, good state → holds j state (.call op next) →
    env state op reply state' → holds i state program → holds i state' program
  untouched : ∀ state state', good state → outside state state' →
    good state' ∧ view state' = view state ∧ ∀ i program, holds i state program → holds i state' program

section linearization
variable {env : Environment σ Reply} {outside : σ → σ → Prop} {programs : ι → Program Reply α}
  {good : σ → Prop} {view : σ → ω} {effect : ι → ω → ω} {succeeded : α → Prop}
  {holds : ι → σ → Program Reply α → Prop}

def Succeeded (succeeded : α → Prop) (thread : Thread Reply α) : Prop :=
  ∃ value, succeeded value ∧ (thread = .running (.done value) ∨ thread = .returned value)

structure Linearized (good : σ → Prop) (view : σ → ω) (effect : ι → ω → ω) (succeeded : α → Prop)
    (holds : ι → σ → Program Reply α → Prop) (initial : ω) (history : List (Event ι Reply α))
    (system : System σ ι Reply α) (order : List ι) : Prop where
  good : good system.shared
  held : ∀ i program, system.threads i = .running program → holds i system.shared program
  returned : ∀ i value, .returned i value ∈ history ↔ system.threads i = .returned value
  nodup : order.Nodup
  members : ∀ i, i ∈ order ↔ Succeeded succeeded (system.threads i)
  timely : order.Pairwise fun i j => ¬Precedes history j i
  view : view system.shared = order.foldl (fun state i => effect i state) initial

theorem not_succeeded_waiting : ¬Succeeded succeeded (Thread.waiting : Thread Reply α) := by
  rintro ⟨value,_,ended | ended⟩
  · cases ended
  · cases ended

theorem succeeded_running {program : Program Reply α} :
    Succeeded succeeded (.running program) ↔ ∃ value, succeeded value ∧ program = .done value := by
  constructor
  · rintro ⟨value,success,ended | ended⟩
    · cases ended
      exact ⟨value,success,rfl⟩
    · cases ended
  · rintro ⟨value,success,rfl⟩
    exact ⟨value,success,Or.inl rfl⟩

theorem succeeded_returned {value : α} : Succeeded succeeded (.returned value : Thread Reply α) ↔ succeeded value := by
  constructor
  · rintro ⟨_,success,ended | ended⟩
    · cases ended
    · cases ended
      exact success
  · intro success
    exact ⟨value,success,Or.inr rfl⟩

section step
variable {initial : ω} {history : List (Event ι Reply α)} {system : System σ ι Reply α} {order : List ι}
  (rules : EffectAtEnd env outside programs good view effect succeeded holds)
  (linearized : Linearized good view effect succeeded holds initial history system order)
include linearized

theorem Linearized.timely_snoc (event : Event ι Reply α) (fresh : ∀ i, event = .invoked i → i ∉ order) :
    order.Pairwise fun i j => ¬Precedes (history ++ [event]) j i := by
  refine linearized.timely.imp_of_mem ?_
  intro i j member _ untimely later
  rcases precedes_snoc later with earlier | now
  · exact untimely earlier
  · exact fresh i now member

theorem Linearized.not_returned {event : Event ι Reply α} {i j : ι} {program : Program Reply α}
    (running : system.threads i = .running program) (different : event ≠ .invoked j) :
    ¬Precedes (history ++ [event]) i j := by
  intro later
  rcases precedes_snoc later with earlier | now
  · obtain ⟨value,returned⟩ := precedes_returned earlier
    have ended := (linearized.returned i value).mp returned
    cases running.symm.trans ended
  · exact different now

variable [DecidableEq ι]
include rules

theorem Linearized.invoked {i : ι} (waiting : system.threads i = .waiting) :
    Linearized good view effect succeeded holds initial (history ++ [.invoked i])
      (system.set i (.running (programs i))) order := by
  have idle : i ∉ order := by
    rw [linearized.members,waiting]
    exact not_succeeded_waiting
  refine ⟨linearized.good,?_,?_,linearized.nodup,?_,linearized.timely_snoc _ ?_,linearized.view⟩
  · apply System.forall_set (P := fun k thread => ∀ program, thread = .running program → holds k system.shared program)
    · rintro _ ⟨⟩
      exact rules.started i system.shared linearized.good
    · exact fun k _ => linearized.held k
  · apply System.forall_set (P := fun k thread => ∀ value, Event.returned k value ∈ history ++ [Event.invoked i] ↔
      thread = .returned value)
    · intro value
      simp [linearized.returned,waiting]
    · intro k _ value
      simp [linearized.returned]
  · apply System.forall_set (P := fun k thread => k ∈ order ↔ Succeeded succeeded thread)
    · refine iff_of_false idle ?_
      rw [succeeded_running]
      rintro ⟨value,success,ended⟩
      exact rules.unstarted i value ended success
    · exact fun k _ => linearized.members k
  · rintro k ⟨⟩
    exact idle

theorem Linearized.held_called {i : ι} {op : Op} {next : Reply op → Program Reply α} {reply : Reply op} {shared : σ}
    (running : system.threads i = .running (.call op next)) (answered : env system.shared op reply shared)
    (after : holds i shared (next reply)) (k : ι) (program : Program Reply α)
    (still : (system.set i (.running (next reply))).threads k = .running program) : holds k shared program := by
  revert program
  apply System.forall_set (P := fun k thread => ∀ program, thread = .running program → holds k shared program)
  · rintro _ ⟨⟩
    exact after
  · intro k _ program still
    exact rules.stable k i _ op next reply shared program linearized.good (linearized.held i _ running) answered
      (linearized.held k program still)

omit rules in
theorem Linearized.returned_called {i : ι} {op : Op} {next : Reply op → Program Reply α}
    (running : system.threads i = .running (.call op next)) (reply : Reply op) (k : ι) (value : α) :
    .returned k value ∈ history ++ [Event.called i op reply] ↔
      (system.set i (.running (next reply))).threads k = .returned value := by
  revert value
  apply System.forall_set (P := fun k thread => ∀ value, Event.returned k value ∈ history ++ [Event.called i op reply] ↔
    thread = .returned value)
  · intro value
    simp [linearized.returned,running]
  · intro k _ value
    simp [linearized.returned]

/-- A call leaves the order as it is, or puts the operation that ends with it at the end. -/
theorem Linearized.called {i : ι} {op : Op} {next : Reply op → Program Reply α} {reply : Reply op} {shared : σ}
    (running : system.threads i = .running (.call op next)) (answered : env system.shared op reply shared) :
    ∃ order', Linearized good view effect succeeded holds initial (history ++ [.called i op reply])
      {system.set i (.running (next reply)) with shared} order' := by
  obtain ⟨good,after,outcome⟩ := rules.acts i _ op next reply shared linearized.good
    (linearized.held i _ running) answered
  have held := linearized.held_called rules running answered after
  have returned := linearized.returned_called running reply
  have timely := linearized.timely_snoc (.called i op reply) nofun
  have pending : i ∉ order := by
    rw [linearized.members,running,succeeded_running]
    rintro ⟨value,_,ended⟩
    cases ended
  rcases outcome with ⟨kept,unfinished⟩ | ⟨applied,value,ended,success⟩
  · refine ⟨order,good,held,returned,linearized.nodup,?_,timely,kept.trans linearized.view⟩
    apply System.forall_set (P := fun k thread => k ∈ order ↔ Succeeded succeeded thread)
    · refine iff_of_false pending ?_
      rw [succeeded_running]
      rintro ⟨value,success,ended⟩
      exact unfinished value ended success
    · exact fun k _ => linearized.members k
  · refine ⟨order ++ [i],good,held,returned,?_,?_,?_,?_⟩
    · refine List.pairwise_append.mpr ⟨linearized.nodup,List.pairwise_singleton _ i,?_⟩
      intro k member last isLast same
      rw [same,List.mem_singleton.mp isLast] at member
      exact pending member
    · apply System.forall_set (P := fun k thread => k ∈ order ++ [i] ↔ Succeeded succeeded thread)
      · exact iff_of_true (List.mem_append_right _ List.mem_cons_self) (succeeded_running.mpr ⟨value,success,ended⟩)
      · intro k different
        rw [List.mem_append,List.mem_singleton,or_iff_left different,linearized.members]
    · rw [List.pairwise_append]
      refine ⟨timely,List.pairwise_singleton _ _,?_⟩
      intro k _ last member
      rw [List.mem_singleton.mp member]
      exact linearized.not_returned running nofun
    · rw [List.foldl_append,← linearized.view]
      exact applied

omit rules in
theorem Linearized.ended {i : ι} {value : α} (ended : system.threads i = .running (.done value)) :
    Linearized good view effect succeeded holds initial (history ++ [.returned i value])
      (system.set i (.returned value)) order := by
  refine ⟨linearized.good,?_,?_,linearized.nodup,?_,linearized.timely_snoc _ nofun,linearized.view⟩
  · apply System.forall_set (P := fun k thread => ∀ program, thread = .running program → holds k system.shared program)
    · exact nofun
    · exact fun k _ => linearized.held k
  · apply System.forall_set (P := fun k thread => ∀ other, Event.returned k other ∈ history ++
      [Event.returned i value] ↔
      thread = .returned other)
    · intro other
      simp [linearized.returned,ended,eq_comm]
    · intro k different other
      simp [linearized.returned,different]
  · apply System.forall_set (P := fun k thread => k ∈ order ↔ Succeeded succeeded thread)
    · rw [linearized.members,ended,succeeded_running,succeeded_returned]
      simp
    · exact fun k _ => linearized.members k

theorem Linearized.step {event : Event ι Reply α} {next : System σ ι Reply α}
    (step : Step env outside programs system event next) :
    ∃ order', Linearized good view effect succeeded holds initial (history ++ [event]) next order' := by
  cases step with
  | invoked i waiting => exact ⟨order,linearized.invoked rules waiting⟩
  | called i op next reply shared running answered => exact linearized.called rules running answered
  | returned i value ended => exact ⟨order,linearized.ended ended⟩
  | outside shared allowed =>
    obtain ⟨good,same,kept⟩ := rules.untouched _ shared linearized.good allowed
    refine ⟨order,good,?_,?_,linearized.nodup,linearized.members,linearized.timely_snoc _ nofun,
      same.trans linearized.view⟩
    · intro k program running
      exact kept k program (linearized.held k program running)
    · intro k value
      rw [List.mem_append,linearized.returned,or_iff_left (by simp)]

end step

/-- Whatever the interleaving, the view is what the operations that succeeded make of it one at a time. -/
theorem run_linearized [DecidableEq ι] (rules : EffectAtEnd env outside programs good view effect succeeded holds)
    {state : σ} (initially : good state) {history : List (Event ι Reply α)} {system : System σ ι Reply α}
    (run : Run env outside programs (.initial state) history system) :
    ∃ order, Linearized good view effect succeeded holds (view state) history system order := by
  induction run with
  | start =>
    refine ⟨[],initially,nofun,?_,List.nodup_nil,?_,.nil,rfl⟩
    · intro i value
      simp [System.initial]
    · intro i
      exact iff_of_false List.not_mem_nil not_succeeded_waiting
  | step _ step ih =>
    obtain ⟨order,linearized⟩ := ih
    exact linearized.step rules step

end linearization

end Effect.Interleaving
