import ControlPlane.Effect.Program

/-! Programs whose calls may fail and which stop at the first failure they do not handle.
`Yields` is a complete execution of one; the rules say what an execution of each construct
is made of. -/
namespace Effect
open Program

variable {Op σ α β ε : Type} {Value : Op → Type}

abbrev Fallible (ε : Type) {Op : Type} (Value : Op → Type) (α : Type) :=
  ExceptT ε (Program fun op => Except ε (Value op)) α

namespace Fallible

def request (op : Op) : Fallible ε Value (Value op) := ExceptT.mk (perform op)

/-- Adding context to a failure, and nothing to a success. -/
def context (wrap : ε → ε) (action : Fallible ε Value α) : Fallible ε Value α := ExceptT.adapt wrap action

/-- A computation that makes no call. -/
def pureResult (result : Except ε α) : Fallible ε Value α := ExceptT.mk (.done result)

abbrev Env (σ ε : Type) {Op : Type} (Value : Op → Type) := Environment σ fun op : Op => Except ε (Value op)

def Yields (env : Env σ ε Value) (state : σ) (action : Fallible ε Value α) (result : Except ε α) (final : σ) : Prop :=
  Runs env state action.run result final

variable {env : Env σ ε Value} {state final : σ}

theorem yields_request {op : Op} {result : Except ε (Value op)} (run : Yields env state (request op) result final) :
    env state op result final := by
  cases run with
  | call reply answered rest =>
    cases rest
    exact answered

theorem Yields.of_answer {op : Op} {result : Except ε (Value op)} (answered : env state op result final) :
    Yields env state (request op) result final := .call result answered (.done final result)

theorem yields_pure {value : α} {result : Except ε α} (run : Yields env state (pure value) result final) :
    result = .ok value ∧ final = state := by
  cases run
  exact ⟨rfl,rfl⟩

theorem Yields.pure (value : α) : Yields env state (pure value) (.ok value) state :=
  Runs.done state (Except.ok value)

theorem yields_pureResult {value result : Except ε α} (run : Yields env state (pureResult value) result final) :
    result = value ∧ final = state := by
  cases run
  exact ⟨rfl,rfl⟩

theorem yields_throw {err : ε} {result : Except ε α} (run : Yields env state (throw err) result final) :
    result = .error err ∧ final = state := by
  cases run
  exact ⟨rfl,rfl⟩

-- The branches of a conditional are followed by the same statements.
theorem join {P : Fallible ε Value β → Prop} {condition : Bool} {first second : Fallible ε Value α}
    {next : α → Fallible ε Value β} (holds : P ((if condition then first else second) >>= next)) :
    P (if condition then first >>= next else second >>= next) := by
  cases condition with
  | false => exact holds
  | true => exact holds

/-- A sequence stops with its first part, or goes on from where that part ends. -/
theorem yields_bind {first : Fallible ε Value α} {next : α → Fallible ε Value β} {result : Except ε β}
    (run : Yields env state (first >>= next) result final) :
    (∃ err, result = .error err ∧ Yields env state first (.error err) final) ∨
      ∃ value middle, Yields env state first (.ok value) middle ∧ Yields env middle (next value) result final := by
  obtain ⟨middle,inner,head,tail⟩ := Runs.split _ _ _ _ _ run
  cases inner with
  | error err =>
    cases tail
    exact Or.inl ⟨err,rfl,head⟩
  | ok value => exact Or.inr ⟨value,middle,head,tail⟩

theorem Yields.bind {middle : σ} {first : Fallible ε Value α} {next : α → Fallible ε Value β} {value : α}
    {result : Except ε β} (head : Yields env state first (.ok value) middle)
    (tail : Yields env middle (next value) result final) : Yields env state (first >>= next) result final :=
  Runs.sequence head tail

theorem yields_context {wrap : ε → ε} {action : Fallible ε Value α} {result : Except ε α}
    (run : Yields env state (context wrap action) result final) :
    ∃ inner, Yields env state action inner final ∧ result = inner.mapError wrap := by
  obtain ⟨middle,inner,head,tail⟩ := Runs.split _ _ _ _ _ run
  cases tail
  exact ⟨inner,head,rfl⟩

/-- A failure that is handled goes on with what the handler does. -/
theorem yields_tryCatch {action : Fallible ε Value α} {handler : ε → Fallible ε Value α} {result : Except ε α}
    (run : Yields env state (tryCatch action handler) result final) :
    (∃ value, result = .ok value ∧ Yields env state action (.ok value) final) ∨
      ∃ err middle, Yields env state action (.error err) middle ∧ Yields env middle (handler err) result final := by
  obtain ⟨middle,inner,head,tail⟩ := Runs.split _ _ _ _ _ run
  cases inner with
  | error err => exact Or.inr ⟨err,middle,head,tail⟩
  | ok value =>
    cases tail
    exact Or.inl ⟨value,rfl,head⟩

theorem Yields.caught {middle : σ} {action : Fallible ε Value α} {handler : ε → Fallible ε Value α} {err : ε}
    {result : Except ε α} (head : Yields env state action (.error err) middle)
    (tail : Yields env middle (handler err) result final) : Yields env state (tryCatch action handler) result final :=
  Runs.sequence head tail

theorem yields_map {change : α → β} {action : Fallible ε Value α} {result : Except ε β}
    (run : Yields env state (change <$> action) result final) :
    ∃ inner, Yields env state action inner final ∧ result = change <$> inner := by
  obtain ⟨middle,inner,head,tail⟩ := Runs.split _ _ _ _ _ run
  cases inner with
  | error err =>
    cases tail
    exact ⟨_,head,rfl⟩
  | ok value =>
    cases tail
    exact ⟨_,head,rfl⟩

theorem Yields.map_error {change : α → β} {action : Fallible ε Value α} {err : ε}
    (run : Yields env state action (.error err) final) : Yields env state (change <$> action) (.error err) final :=
  Runs.sequence run (.done final (Except.error err))

end Fallible

end Effect
