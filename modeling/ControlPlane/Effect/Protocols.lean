import ControlPlane.Effect.Fallible
import ControlPlane.Effect.Threads

/-! Programs that keep to a protocol: which calls they make in which phase, and what they may
count on in the answers. Threads that keep to their protocols keep whatever every permitted
call keeps, in every interleaving. -/
namespace Effect
open Program

variable {Op σ α β ε φ ι : Type}

/-- The calls that may be made in a phase, the answers that may be counted on, and the phase that
an answer leads to. -/
structure Protocol (φ : Type) {Op : Type} (Reply : Op → Type) where
  allows : φ → Op → Prop
  expects : φ → (op : Op) → Reply op → Prop
  next : φ → (op : Op) → Reply op → φ

namespace Protocol

section programs
variable {Reply : Op → Type}

/-- The phase that some calls lead to. -/
def after (protocol : Protocol φ Reply) (phase : φ) (calls : List (Σ op, Reply op)) : φ :=
  calls.foldl (fun phase call => protocol.next phase call.1 call.2) phase

/-- The program makes only calls that its phase allows, and where it ends its phase and value satisfy
`ends`. -/
def Obeys (protocol : Protocol φ Reply) (ends : φ → α → Prop) : φ → Program Reply α → Prop
  | phase,.done value => ends phase value
  | phase,.call op rest => protocol.allows phase op ∧
      ∀ reply, protocol.expects phase op reply → protocol.Obeys ends (protocol.next phase op reply) (rest reply)

variable {protocol : Protocol φ Reply} {phase : φ}

theorem Obeys.sequence {ends : φ → α → Prop} {later : φ → β → Prop} {first : Program Reply α}
    {next : α → Program Reply β} (head : protocol.Obeys ends phase first)
    (tail : ∀ phase value, ends phase value → protocol.Obeys later phase (next value)) :
    protocol.Obeys later phase (first >>= next) := by
  induction first generalizing phase with
  | done value => exact tail phase value head
  | call op rest ih => exact ⟨head.1,fun reply expected => ih reply (head.2 reply expected)⟩

theorem Obeys.mono {ends later : φ → α → Prop} {program : Program Reply α} (obeys : protocol.Obeys ends phase program)
    (weaker : ∀ phase value, ends phase value → later phase value) : protocol.Obeys later phase program := by
  induction program generalizing phase with
  | done value => exact weaker phase value obeys
  | call op rest ih => exact ⟨obeys.1,fun reply expected => ih reply (obeys.2 reply expected)⟩

/-- What every permitted call keeps, a run of the program keeps. -/
theorem Obeys.runs {env : Environment σ Reply} {holds : σ → φ → Prop} {ends : φ → α → Prop} {program : Program Reply α}
    {state final : σ} {value : α}
    (kept : ∀ state phase op reply after, holds state phase → protocol.allows phase op → env state op reply after →
      protocol.expects phase op reply ∧ holds after (protocol.next phase op reply))
    (obeys : protocol.Obeys ends phase program) (known : holds state phase)
    (runs : Runs env state program value final) :
    ∃ phase, holds final phase ∧ ends phase value := by
  induction runs generalizing phase with
  | done state value => exact ⟨phase,known,obeys⟩
  | call reply answered _ ih =>
    obtain ⟨expected,after⟩ := kept _ phase _ reply _ known obeys.1 answered
    exact ih (obeys.2 reply expected) after

end programs

section fallible
variable {Value : Op → Type} {protocol : Protocol φ fun op => Except ε (Value op)} {phase : φ}

/-- Where an action ends: in a phase that fits its value, or with a failure in a phase that fits that. -/
def Outcome (good : φ → α → Prop) (bad : φ → Prop) (phase : φ) : Except ε α → Prop
  | .ok value => good phase value
  | .error _ => bad phase

abbrev Keeps (protocol : Protocol φ fun op => Except ε (Value op)) (good : φ → α → Prop) (bad : φ → Prop) (phase : φ)
    (action : Fallible ε Value α) : Prop := protocol.Obeys (Outcome good bad) phase action.run

variable {good : φ → α → Prop} {bad : φ → Prop}

theorem keeps_request {op : Op} {good : φ → Value op → Prop} (allowed : protocol.allows phase op)
    (ends : ∀ reply, protocol.expects phase op reply → Outcome good bad (protocol.next phase op reply) reply) :
    protocol.Keeps good bad phase (Fallible.request op) := ⟨allowed,ends⟩

theorem keeps_pure {value : α} (fits : good phase value) : protocol.Keeps good bad phase (pure value) := fits

theorem keeps_throw {err : ε} (fits : bad phase) : protocol.Keeps good bad phase (throw err : Fallible ε Value α) :=
  fits

theorem keeps_pureResult {result : Except ε α} (fits : ∀ value, result = .ok value → good phase value)
    (failing : bad phase) :
    protocol.Keeps good bad phase (Fallible.pureResult result) := by
  cases result with
  | error err => exact failing
  | ok value => exact fits value rfl

theorem Keeps.bind {fine : φ → β → Prop} {first : Fallible ε Value α} {next : α → Fallible ε Value β}
    (head : protocol.Keeps good bad phase first)
    (tail : ∀ phase value, good phase value → protocol.Keeps fine bad phase (next value)) :
    protocol.Keeps fine bad phase (first >>= next) := by
  apply Obeys.sequence head
  intro phase result ended
  cases result with
  | error err => exact ended
  | ok value => exact tail phase value ended

theorem Keeps.context {wrap : ε → ε} {action : Fallible ε Value α} (keeps : protocol.Keeps good bad phase action) :
    protocol.Keeps good bad phase (Fallible.context wrap action) := by
  apply Obeys.sequence keeps
  intro phase result ended
  cases result with
  | error err => exact ended
  | ok value => exact ended

theorem Keeps.map {fine : φ → β → Prop} {change : α → β} {action : Fallible ε Value α}
    (keeps : protocol.Keeps good bad phase action)
    (fits : ∀ phase value, good phase value → fine phase (change value)) :
    protocol.Keeps fine bad phase (change <$> action) := by
  have ends : protocol.Keeps fine bad phase (action >>= fun value => pure (change value)) := keeps.bind fits
  exact ends

theorem Keeps.tryCatch {worse : φ → Prop} {action : Fallible ε Value α} {handler : ε → Fallible ε Value α}
    (keeps : protocol.Keeps good worse phase action)
    (handled : ∀ phase err, worse phase → protocol.Keeps good bad phase (handler err)) :
    protocol.Keeps good bad phase (tryCatch action handler) := by
  apply Obeys.sequence keeps
  intro phase result ended
  cases result with
  | error err => exact handled phase err ended
  | ok value => exact ended

end fallible

section threads
open Interleaving
variable [DecidableEq ι] {Reply : Op → Type} {env : Environment σ Reply} {outside : σ → σ → Prop}
  {programs : ι → Program Reply α} {protocol : ι → Protocol φ Reply} {holds : σ → (ι → φ) → Prop}

/-- What is known of the state and of the phases of all threads is kept by every call that a
protocol allows, and the answers are those that the protocol counts on. -/
structure Guarantees (env : Environment σ Reply) (outside : σ → σ → Prop) (protocol : ι → Protocol φ Reply)
    (holds : σ → (ι → φ) → Prop) : Prop where
  called : ∀ state phases i op reply after, holds state phases → (protocol i).allows (phases i) op →
    env state op reply after →
    (protocol i).expects (phases i) op reply ∧
      holds after (Function.update phases i ((protocol i).next (phases i) op reply))
  kept : ∀ state phases after, holds state phases → outside state after → holds after phases

/-- Where a thread is, measured by its phase. -/
def InPhase (protocol : Protocol φ Reply) (ends : φ → α → Prop) (start phase : φ) : Thread Reply α → Prop
  | .waiting => phase = start
  | .running program => protocol.Obeys ends phase program
  | .returned value => ends phase value

/-- The phases that the threads have come to in a history. -/
def phasesAt (protocol : ι → Protocol φ Reply) (start : ι → φ) (history : List (Event ι Reply α)) (i : ι) : φ :=
  (protocol i).after (start i) (ownCalls i history)

section phases
variable {start : ι → φ} {history : List (Event ι Reply α)}

theorem phasesAt_called (i : ι) (op : Op) (reply : Reply op) :
    phasesAt protocol start (history ++ [.called i op reply]) = Function.update (phasesAt protocol start history) i
      ((protocol i).next (phasesAt protocol start history i) op reply) := by
  funext k
  by_cases same : k = i
  · subst same
    simp [phasesAt,ownCalls_snoc,ownCall,after]
  · simp [phasesAt,ownCalls_snoc,ownCall,same,Ne.symm same]

theorem phasesAt_other {event : Event ι Reply α} (other : ∀ i, ownCall i event = none) :
    phasesAt protocol start (history ++ [event]) = phasesAt protocol start history := by
  funext k
  simp [phasesAt,ownCalls_snoc,other]

end phases

/-- Threads that keep to their protocols keep what every permitted call keeps, and each of them is in
the phase that its calls have led to. -/
theorem run_obeys {start : ι → φ} {ends : ι → φ → α → Prop} (guarantees : Guarantees env outside protocol holds)
    (obeys : ∀ i, (protocol i).Obeys (ends i) (start i) (programs i)) {initial : σ} (initially : holds initial start)
    {history : List (Event ι Reply α)} {system : System σ ι Reply α}
    (run : Run env outside programs (.initial initial) history system) :
    holds system.shared (phasesAt protocol start history) ∧
      ∀ i, InPhase (protocol i) (ends i) (start i) (phasesAt protocol start history i) (system.threads i) := by
  induction run with
  | start => exact ⟨initially,fun _ => rfl⟩
  | step _ step ih =>
    obtain ⟨known,threads⟩ := ih
    cases step with
    | invoked i waiting =>
      rw [phasesAt_other fun _ => rfl]
      refine ⟨known,System.forall_set ?_ fun k _ => threads k⟩
      have fresh := threads i
      rw [waiting] at fresh
      rw [fresh]
      exact obeys i
    | called i op rest reply shared running answered =>
      have here := threads i
      rw [running] at here
      obtain ⟨expected,after⟩ := guarantees.called _ _ i op reply shared known here.1 answered
      rw [phasesAt_called]
      refine ⟨after,System.forall_set ?_ ?_⟩
      · rw [Function.update_self]
        exact here.2 reply expected
      · intro k different
        rw [Function.update_of_ne different]
        exact threads k
    | returned i value ended =>
      rw [phasesAt_other fun _ => rfl]
      refine ⟨known,System.forall_set ?_ fun k _ => threads k⟩
      have here := threads i
      rw [ended] at here
      exact here
    | outside shared allowed =>
      rw [phasesAt_other fun _ => rfl]
      exact ⟨guarantees.kept _ _ shared known allowed,threads⟩

/-- The thread can go on: it has to be started, has come to its end, or is due an answer. -/
def Ready (due : σ → Op → Prop) (state : σ) : Thread Reply α → Prop
  | .waiting => True
  | .running (.done _) => True
  | .running (.call op _) => due state op
  | .returned _ => False

variable {due : σ → Op → Prop}

theorem Ready.steps (answered : ∀ state op, due state op → ∃ reply after, env state op reply after)
    {system : System σ ι Reply α} {i : ι} (ready : Ready due system.shared (system.threads i)) :
    ∃ event next, Step env outside programs system event next := by
  cases thread : system.threads i with
  | waiting => exact ⟨_,_,.invoked system i thread⟩
  | returned value =>
    rw [thread] at ready
    exact ready.elim
  | running program =>
    rw [thread] at ready
    cases program with
    | done value => exact ⟨_,_,.returned system i value thread⟩
    | call op rest =>
      obtain ⟨reply,after,answer⟩ := answered system.shared op ready
      exact ⟨_,_,.called system i op rest reply after thread answer⟩

/-- A thread that cannot go on has returned or waits in a call that its phase allows. -/
theorem InPhase.held {state : σ} {protocol : Protocol φ Reply} {ends : φ → α → Prop} {start phase : φ}
    {thread : Thread Reply α} (here : InPhase protocol ends start phase thread) (held : ¬Ready due state thread) :
    (∃ value, thread = .returned value ∧ ends phase value) ∨
      ∃ op rest, thread = .running (.call op rest) ∧ protocol.allows phase op ∧ ¬due state op := by
  cases thread with
  | waiting => exact (held trivial).elim
  | returned value => exact Or.inl ⟨value,rfl,here⟩
  | running program =>
    cases program with
    | done value => exact (held trivial).elim
    | call op rest => exact Or.inr ⟨op,rest,rfl,here.1,held⟩

end threads

end Protocol

/-- What is left of a program and of the state after some of its calls. -/
inductive Advances {Reply : Op → Type} (env : Environment σ Reply) :
    σ → Program Reply α → List (Σ op, Reply op) → σ → Program Reply α → Prop
  | start (state : σ) (program : Program Reply α) : Advances env state program [] state program
  | call {state middle final : σ} {op : Op} {next : Reply op → Program Reply α} {program : Program Reply α}
      {reply : Reply op}
      {events : List (Σ op, Reply op)} (answered : env state op reply middle)
      (rest : Advances env middle (next reply) events final program) :
      Advances env state (.call op next) (⟨op,reply⟩::events) final program

/-- The first part of a program is run, and the rest is left. -/
theorem Program.Runs.advances {Reply : Op → Type} {env : Environment σ Reply} {state final : σ}
    {program : Program Reply α} {value : α} (runs : Runs env state program value final)
    (next : α → Program Reply β) :
    ∃ events, Advances env state (program >>= next) events final (next value) := by
  induction runs with
  | done state value => exact ⟨[],.start state _⟩
  | call reply answered _ ih =>
    obtain ⟨events,rest⟩ := ih
    exact ⟨_,.call answered rest⟩

namespace Interleaving
variable [DecidableEq ι] {Reply : Op → Type} {env : Environment σ Reply} {outside : σ → σ → Prop}
  {programs : ι → Program Reply α} {first system : System σ ι Reply α} {history : List (Event ι Reply α)}
    {state final : σ}
  {events : List (Σ op, Reply op)}

/-- The calls of one program are what its thread may do next. -/
theorem Run.advances (run : Run env outside programs first history system) (i : ι) {program left : Program Reply α}
    (advances : Advances env state program events final left) (same : system.shared = state)
    (running : system.threads i = .running program) :
    ∃ next, Run env outside programs first (history ++ events.map fun event => .called i event.1 event.2) next ∧
      next.shared = final ∧ next.threads i = .running left ∧ ∀ k, k ≠ i → next.threads k = system.threads k := by
  induction advances generalizing history system with
  | start state program => exact ⟨system,by simpa using run,same,running,fun _ _ => rfl⟩
  | call answered _ ih =>
    subst same
    obtain ⟨middle,called,shared,goesOn,others⟩ := run.call i running answered
    obtain ⟨next,ended,final,last,kept⟩ := ih called shared goesOn
    rw [List.append_assoc] at ended
    exact ⟨next,ended,final,last,fun k different => (kept k different).trans (others k different)⟩

theorem Run.returns (run : Run env outside programs first history system) (i : ι) {program : Program Reply α}
    {value : α} (advances : Advances env state program events final (.done value)) (same : system.shared = state)
    (running : system.threads i = .running program) :
    ∃ next, Run env outside programs first
        (history ++ events.map (fun event => .called i event.1 event.2) ++ [.returned i value]) next ∧
      next.shared = final ∧ next.threads i = .returned value ∧ ∀ k, k ≠ i → next.threads k = system.threads k := by
  obtain ⟨middle,ended,shared,last,others⟩ := run.advances i advances same running
  exact ⟨_,ended.step (.returned middle i value last),shared,System.set_self middle i _,
    fun k different => (System.set_other different).trans (others k different)⟩

/-- A thread that has not started yet may run to its end. -/
theorem Run.whole (run : Run env outside programs first history system) (i : ι) {value : α}
    (advances : Advances env state (programs i) events final (.done value)) (same : system.shared = state)
    (waiting : system.threads i = .waiting) :
    ∃ next, Run env outside programs first
        (history ++ [.invoked i] ++ events.map (fun event => .called i event.1 event.2) ++ [.returned i value]) next ∧
      next.shared = final ∧ next.threads i = .returned value ∧ ∀ k, k ≠ i → next.threads k = system.threads k := by
  obtain ⟨started,invoked,shared,running,before⟩ := run.invoke i waiting
  obtain ⟨next,ended,final,last,others⟩ := invoked.returns i advances (shared.trans same) running
  exact ⟨next,ended,final,last,fun k different => (others k different).trans (before k different)⟩

end Interleaving

end Effect
