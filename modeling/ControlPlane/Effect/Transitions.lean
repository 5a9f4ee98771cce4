import Mathlib.Data.List.Induction

/-! Runs of a machine over a list of events: what holds of every event in the state it meets,
what holds of every state passed through, and the invariant rule that gives the latter. -/
namespace Effect.Transitions
variable {σ ε : Type} (step : σ → ε → σ)

def run (state : σ) (events : List ε) : σ := events.foldl step state

/-- Every event finds a state of which it is true. -/
def Throughout (holds : σ → ε → Prop) : σ → List ε → Prop
  | _,[] => True
  | state,event::events => holds state event ∧ Throughout holds (step state event) events

/-- The first state, the last and all those between. -/
def Always (holds : σ → Prop) : σ → List ε → Prop
  | state,[] => holds state
  | state,event::events => holds state ∧ Always holds (step state event) events

instance decidableThroughout (holds : σ → ε → Prop) [∀ state event, Decidable (holds state event)] (state : σ)
    (events : List ε) : Decidable (Throughout step holds state events) :=
  match events with
  | [] => isTrue trivial
  | event::events => @instDecidableAnd _ _ _ (decidableThroughout holds (step state event) events)

variable {step} {state : σ}

theorem run_append (events later : List ε) :
    run step state (events ++ later) = run step (run step state events) later := List.foldl_append

theorem run_snoc (events : List ε) (event : ε) :
    run step state (events ++ [event]) = step (run step state events) event := run_append events [event]

theorem Throughout.mono {guard holds : σ → ε → Prop} (implies : ∀ state event, guard state event → holds state event)
    {events : List ε} (guarded : Throughout step guard state events) : Throughout step holds state events := by
  induction events generalizing state with
  | nil => exact trivial
  | cons event events ih => exact ⟨implies _ _ guarded.1,ih guarded.2⟩

theorem Throughout.and {guard holds : σ → ε → Prop} {events : List ε} (guarded : Throughout step guard state events)
    (all : Throughout step holds state events) :
    Throughout step (fun state event => guard state event ∧ holds state event) state events := by
  induction events generalizing state with
  | nil => exact trivial
  | cons event events ih => exact ⟨⟨guarded.1,all.1⟩,ih guarded.2 all.2⟩

section invariant
variable {guard : σ → ε → Prop} (invariant : σ → Prop)
  (keeps : ∀ state event, invariant state → guard state event → invariant (step state event))
include keeps

theorem always_keeps (events : List ε) (initial : invariant state) (guarded : Throughout step guard state events) :
    Always step invariant state events := by
  induction events generalizing state with
  | nil => exact initial
  | cons event events ih => exact ⟨initial,ih (keeps _ _ initial guarded.1) guarded.2⟩

end invariant

end Effect.Transitions
