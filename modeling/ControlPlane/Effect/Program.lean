import Mathlib.Logic.Relation

/-! Programs that call an interface they do not control. A program is the tree of its
calls, each with a continuation for every reply, so one definition can be executed
against a state, against an environment that may fail, or one call at a time between
the calls of other programs. -/
namespace Effect

inductive Program {Op : Type} (Reply : Op → Type) (α : Type) where
  | done (value : α)
  | call (op : Op) (next : Reply op → Program Reply α)

namespace Program
variable {Op : Type} {Reply : Op → Type} {α β σ : Type}

def bind : Program Reply α → (α → Program Reply β) → Program Reply β
  | .done value,next => next value
  | .call op rest,next => .call op fun reply => (rest reply).bind next

instance : Monad (Program Reply) where
  pure := .done
  bind := bind

theorem bind_done (program : Program Reply α) : (program >>= Program.done) = program := by
  induction program with
  | done value => rfl
  | call op next ih => exact congrArg (Program.call op) (funext ih)

/-- The program that makes one call and returns its reply. -/
def perform (op : Op) : Program Reply (Reply op) := .call op .done

/-- What an environment may answer to a call in a state, and the state it leaves. -/
abbrev Environment (σ : Type) {Op : Type} (Reply : Op → Type) := σ → (op : Op) → Reply op → σ → Prop

/-- A complete execution: every call answered by the environment, in order. -/
inductive Runs (env : Environment σ Reply) : σ → Program Reply α → α → σ → Prop
  | done (state : σ) (value : α) : Runs env state (.done value) value state
  | call {state middle final : σ} {op : Op} {next : Reply op → Program Reply α} {value : α}
      (reply : Reply op) (answered : env state op reply middle)
      (rest : Runs env middle (next reply) value final) :
      Runs env state (.call op next) value final

/-- An execution of a sequence splits at the value of its first part. -/
theorem Runs.split {env : Environment σ Reply} (first : Program Reply α) (next : α → Program Reply β)
    (state final : σ) (value : β) (runs : Runs env state (first >>= next) value final) :
    ∃ middle result, Runs env state first result middle ∧ Runs env middle (next result) value final := by
  induction first generalizing state with
  | done result => exact ⟨state,result,.done state result,runs⟩
  | call op rest ih =>
    cases runs with
    | call reply answered following =>
      obtain ⟨middle,result,head,tail⟩ := ih reply _ following
      exact ⟨middle,result,.call reply answered head,tail⟩

theorem Runs.sequence {env : Environment σ Reply} {first : Program Reply α} {next : α → Program Reply β}
    {state middle final : σ} {result : α} {value : β} (head : Runs env state first result middle)
    (tail : Runs env middle (next result) value final) : Runs env state (first >>= next) value final := by
  induction head with
  | done => exact tail
  | call reply answered _ ih => exact .call reply answered (ih tail)

theorem Runs.mono {env wider : Environment σ Reply} (answers : ∀ state op reply middle, env state op reply middle →
    wider state op reply middle) {program : Program Reply α} {state final : σ} {value : α}
    (runs : Runs env state program value final) : Runs wider state program value final := by
  induction runs with
  | done state value => exact .done state value
  | call reply answered _ ih => exact .call reply (answers _ _ _ _ answered) ih

/-- The rule for assertions between calls: an assertion on the state and the rest of
the program that every answer preserves holds when the program returns. -/
theorem Runs.preserves {env : Environment σ Reply} (holds : σ → Program Reply α → Prop)
    (step : ∀ state op next reply middle, holds state (.call op next) →
      env state op reply middle → holds middle (next reply))
    (state final : σ) (program : Program Reply α) (value : α) (runs : Runs env state program value final)
    (initial : holds state program) :
    holds final (.done value) := by
  induction runs with
  | done => exact initial
  | call reply answered _ ih => exact ih (step _ _ _ _ _ initial answered)

/-- Execution against a handler that answers every call. -/
def execute (handler : σ → (op : Op) → Reply op × σ) : Program Reply α → σ → α × σ
  | .done value,state => (value,state)
  | .call op next,state => execute handler (next (handler state op).1) (handler state op).2

theorem Runs.of_execute {env : Environment σ Reply} (handler : σ → (op : Op) → Reply op × σ)
    (answers : ∀ state op, env state op (handler state op).1 (handler state op).2) (program : Program Reply α)
    (state : σ) : Runs env state program (program.execute handler state).1 (program.execute handler state).2 := by
  induction program generalizing state with
  | done value => exact .done state value
  | call op next ih => exact .call _ (answers state op) (ih _ _)

/-- A program whose loops are unrolled a number of times; `none` is a run that needs more. -/
abbrev Unrolled (Reply : Op → Type) (α : Type) := OptionT (Program Reply) α

def ask (op : Op) : Unrolled Reply (Reply op) := OptionT.lift (perform op)

def loop (body : σ → Unrolled Reply (σ ⊕ α)) : Nat → σ → Unrolled Reply α
  | 0,_ => failure
  | fuel+1,state => do
    match ← body state with
    | .inl next => loop body fuel next
    | .inr value => return value

/-- Every call the program can ever make is of an allowed kind. -/
def Calls (allowed : Op → Prop) : Program Reply α → Prop
  | .done _ => True
  | .call op next => allowed op ∧ ∀ reply, (next reply).Calls allowed

theorem Calls.sequence {allowed : Op → Prop} (first : Program Reply α) (next : α → Program Reply β)
    (head : first.Calls allowed) (tail : ∀ value, (next value).Calls allowed) : (first >>= next).Calls allowed := by
  induction first with
  | done value => exact tail value
  | call op rest ih => exact ⟨head.1,fun reply => ih reply (head.2 reply)⟩

theorem Calls.unrolled_bind {allowed : Op → Prop} (first : Unrolled Reply α) (next : α → Unrolled Reply β)
    (head : first.run.Calls allowed) (tail : ∀ value, (next value).run.Calls allowed) :
    (first >>= next).run.Calls allowed := by
  refine Calls.sequence _ _ head ?_
  intro value
  cases value with
  | none => exact trivial
  | some value => exact tail value

theorem Calls.unrolled_ask {allowed : Op → Prop} (op : Op) (next : Reply op → Unrolled Reply β) (permitted : allowed op)
    (tail : ∀ reply, (next reply).run.Calls allowed) : (ask op >>= next).run.Calls allowed :=
  ⟨permitted,tail⟩

theorem Calls.unrolled_loop {allowed : Op → Prop} (body : σ → Unrolled Reply (σ ⊕ α))
    (each : ∀ state, (body state).run.Calls allowed) (fuel : Nat) (state : σ) :
    (loop body fuel state).run.Calls allowed := by
  induction fuel generalizing state with
  | zero => exact trivial
  | succ fuel ih =>
    refine Calls.unrolled_bind _ _ (each state) ?_
    intro outcome
    cases outcome with
    | inl next => exact ih next
    | inr value => exact trivial

/-- What every allowed call preserves, a program of allowed calls preserves. -/
theorem Runs.invariant {env : Environment σ Reply} {allowed : Op → Prop} (holds : σ → Prop)
    (step : ∀ state op reply middle, allowed op → holds state → env state op reply middle → holds middle)
    (state final : σ) (program : Program Reply α) (value : α) (calls : program.Calls allowed)
    (runs : Runs env state program value final) (initial : holds state) : holds final := by
  induction runs with
  | done => exact initial
  | call reply answered _ ih => exact ih (calls.2 reply) (step _ _ _ _ calls.1 initial answered)

/-- The calls of one execution with the replies they got, whatever the environment. -/
inductive Trace : Program Reply α → List (Σ op, Reply op) → α → Prop
  | done (value : α) : Trace (.done value) [] value
  | call {op : Op} {next : Reply op → Program Reply α} {events : List (Σ op, Reply op)} {value : α}
      (reply : Reply op) (rest : Trace (next reply) events value) :
      Trace (.call op next) (⟨op,reply⟩::events) value

theorem Trace.split (first : Program Reply α) (next : α → Program Reply β) (events : List (Σ op, Reply op))
    (value : β) (trace : Trace (first >>= next) events value) :
    ∃ before after result, events = before ++ after ∧ Trace first before result ∧
      Trace (next result) after value := by
  induction first generalizing events with
  | done result => exact ⟨[],events,result,rfl,.done result,trace⟩
  | call op rest ih =>
    cases trace with
    | call reply following =>
      obtain ⟨before,after,result,parts,head,tail⟩ := ih reply _ following
      exact ⟨⟨op,reply⟩::before,after,result,by rw [parts,List.cons_append],.call reply head,tail⟩

theorem Trace.append {first : Program Reply α} {next : α → Program Reply β} {before after : List (Σ op, Reply op)}
    {result : α} {value : β} (head : Trace first before result) (tail : Trace (next result) after value) :
    Trace (first >>= next) (before ++ after) value := by
  induction head with
  | done => exact tail
  | call reply _ ih => exact .call reply (ih tail)

theorem Trace.unrolled_append {first : Unrolled Reply α} {next : α → Unrolled Reply β}
    {before after : List (Σ op, Reply op)} {value : α} {result : Option β}
    (head : Trace first.run before (some value)) (tail : Trace (next value).run after result) :
    Trace (first >>= next).run (before ++ after) result := Trace.append head tail

theorem Trace.asked {op : Op} {next : Reply op → Unrolled Reply β} {events : List (Σ op, Reply op)} {result : Option β}
    (reply : Reply op) (rest : Trace (next reply).run events result) :
    Trace (ask op >>= next).run (⟨op,reply⟩::events) result := .call reply rest

theorem Trace.unrolled_last {first : Unrolled Reply α} {next : α → Unrolled Reply β} {events : List (Σ op, Reply op)}
    {value : α} {result : Option β} (head : Trace first.run events (some value))
    (silent : Trace (next value).run [] result) : Trace (first >>= next).run events result := by
  have whole := Trace.unrolled_append head silent
  rwa [List.append_nil] at whole

theorem Trace.loop_ends {body : σ → Unrolled Reply (σ ⊕ α)} {fuel : Nat} {state : σ} {events : List (Σ op, Reply op)}
    {value : α} (last : Trace (body state).run events (some (.inr value))) :
    Trace (loop body (fuel+1) state).run events (some value) := Trace.unrolled_last last (.done _)

theorem Trace.loop_goes_on {body : σ → Unrolled Reply (σ ⊕ α)} {fuel : Nat} {state next : σ}
    {before after : List (Σ op, Reply op)} {result : Option α}
    (round : Trace (body state).run before (some (.inl next))) (rest : Trace (loop body fuel next).run after result) :
    Trace (loop body (fuel+1) state).run (before ++ after) result := Trace.append round rest

theorem Trace.unrolled_bind (first : Unrolled Reply α) (next : α → Unrolled Reply β)
    (events : List (Σ op, Reply op)) (result : Option β) (trace : Trace (first >>= next).run events result) :
    (result = none ∧ Trace first.run events none) ∨
      ∃ before after value, events = before ++ after ∧ Trace first.run before (some value) ∧
        Trace (next value).run after result := by
  obtain ⟨before,after,value,parts,head,tail⟩ := Trace.split _ _ _ _ trace
  cases value with
  | none =>
    cases tail with
    | done =>
      rw [List.append_nil] at parts
      exact Or.inl ⟨rfl,parts ▸ head⟩
  | some value => exact Or.inr ⟨before,after,value,parts,head,tail⟩

theorem Trace.unrolled_ask (op : Op) (next : Reply op → Unrolled Reply β) (events : List (Σ op, Reply op))
    (result : Option β) (trace : Trace (ask op >>= next).run events result) :
    ∃ reply rest, events = ⟨op,reply⟩::rest ∧ Trace (next reply).run rest result := by
  cases trace with
  | call reply rest => exact ⟨reply,_,rfl,rest⟩

end Program

end Effect
