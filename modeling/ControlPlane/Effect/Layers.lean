import ControlPlane.Effect.Program

/-! Layers. A layer says for each call of an interface which program is run in its place: it may
make calls of its own, and pass the call on at most once. `Shadow` relates a program with what is
left of it below the layer, at any point between two calls, so that an execution of the lower
program can be followed by one of the upper. -/
namespace Effect.Program
variable {Op Own Op' α : Type} {Reply : Op → Type} {Reply' : Op' → Type} {OwnReply : Own → Type}

/-- The program with every call replaced by what the layer makes of it. -/
def interpret (layer : (op : Op) → Program Reply' (Reply op)) : Program Reply α → Program Reply' α
  | .done value => .done value
  | .call op next => layer op >>= fun reply => (next reply).interpret layer

/-- The replies of an interface to which a layer adds calls of its own. -/
abbrev Extended (Reply : Op → Type) (OwnReply : Own → Type) : Op ⊕ Own → Type := Sum.elim Reply OwnReply

section stages
variable (refusal : (op : Op) → Reply op → Prop)

/-- The call has been passed on; calls of the layer's own are left, and its reply is handed over. -/
inductive Answered (op : Op) (reply : Reply op) : Program (Extended Reply OwnReply) (Reply op) → Prop
  | own (call : Own) (next : OwnReply call → Program (Extended Reply OwnReply) (Reply op))
      (rest : ∀ answer, Answered op reply (next answer)) : Answered op reply (.call (.inr call) next)
  | done : Answered op reply (.done reply)

/-- The call has not been passed on yet; it may still be refused. -/
inductive Waiting (op : Op) : Program (Extended Reply OwnReply) (Reply op) → Prop
  | own (call : Own) (next : OwnReply call → Program (Extended Reply OwnReply) (Reply op))
      (rest : ∀ answer, Waiting op (next answer)) : Waiting op (.call (.inr call) next)
  | pass (next : Reply op → Program (Extended Reply OwnReply) (Reply op))
      (rest : ∀ reply, Answered op reply (next reply)) : Waiting op (.call (.inl op) next)
  | refused (reply : Reply op) (refuses : refusal op reply) : Waiting op (.done reply)

/-- What the layer makes of a call starts with some call and passes it on at most once. -/
def Layered (layer : (op : Op) → Program (Extended Reply OwnReply) (Reply op)) : Prop :=
  ∀ op, ∃ call next, layer op = .call call next ∧ Waiting refusal op (.call call next)

end stages

/-- The lower program is what is left of the upper one: both have ended, or the lower one is before
or after the point at which it passes the current call on. -/
inductive Shadow (refusal : (op : Op) → Reply op → Prop)
    (layer : (op : Op) → Program (Extended Reply OwnReply) (Reply op)) :
    Program Reply α → Program (Extended Reply OwnReply) α → Prop
  | done (value : α) : Shadow refusal layer (.done value) (.done value)
  | waiting (op : Op) (next : Reply op → Program Reply α) (call : Op ⊕ Own)
      (rest : Extended Reply OwnReply call → Program (Extended Reply OwnReply) (Reply op))
      (waits : Waiting refusal op (.call call rest)) :
      Shadow refusal layer (.call op next)
        (.call call fun answer => rest answer >>= fun reply => (next reply).interpret layer)
  | answered (op : Op) (reply : Reply op) (next : Reply op → Program Reply α) (call : Own)
      (rest : OwnReply call → Program (Extended Reply OwnReply) (Reply op))
      (served : Answered op reply (.call (.inr call) rest)) :
      Shadow refusal layer (next reply)
        (.call (.inr call) fun answer => rest answer >>= fun reply => (next reply).interpret layer)

section follow
variable {refusal : (op : Op) → Reply op → Prop} {layer : (op : Op) → Program (Extended Reply OwnReply) (Reply op)}
  (layered : Layered refusal layer)
include layered

theorem Shadow.start (program : Program Reply α) : Shadow refusal layer program (program.interpret layer) := by
  cases program with
  | done value => exact .done value
  | call op next =>
    obtain ⟨call,rest,same,waits⟩ := layered op
    unfold interpret
    rw [same]
    exact .waiting op next call rest waits

/-- After the last call of the layer's own, the upper program goes on with the reply. -/
theorem Shadow.after {op : Op} {reply : Reply op} (next : Reply op → Program Reply α)
    {rest : Program (Extended Reply OwnReply) (Reply op)} (served : Answered op reply rest) :
    Shadow refusal layer (next reply) (rest >>= fun reply => (next reply).interpret layer) := by
  cases served with
  | own call more following => exact .answered op reply next call more (.own call more following)
  | done => exact .start layered (next reply)

/-- A call that is still waiting can be refused at once. -/
theorem Shadow.before {op : Op} (next : Reply op → Program Reply α)
    {rest : Program (Extended Reply OwnReply) (Reply op)} (waits : Waiting refusal op rest) :
    Shadow refusal layer (.call op next) (rest >>= fun reply => (next reply).interpret layer) ∨
      ∃ reply, refusal op reply ∧ Shadow refusal layer (next reply)
      (rest >>= fun reply => (next reply).interpret layer) := by
  cases waits with
  | own call more following => exact Or.inl (.waiting op next (.inr call) more (.own call more following))
  | pass more following => exact Or.inl (.waiting op next (.inl op) more (.pass more following))
  | refused reply refuses => exact Or.inr ⟨reply,refuses,.start layered (next reply)⟩

/-- A call of the layer's own leaves the upper program where it is, or has it go on with a refusal. -/
theorem Shadow.own {upper : Program Reply α} {call : Own} {next : OwnReply call → Program (Extended Reply OwnReply) α}
    (shadow : Shadow refusal layer upper (.call (.inr call) next)) (answer : OwnReply call) :
    Shadow refusal layer upper (next answer) ∨
      ∃ op rest reply, upper = .call op rest ∧ refusal op reply ∧ Shadow refusal layer (rest reply) (next answer) := by
  cases shadow with
  | waiting op rest _ more waits =>
    cases waits with
    | own _ _ following =>
      rcases Shadow.before layered rest (following answer) with still | ⟨reply,refuses,goesOn⟩
      · exact Or.inl still
      · exact Or.inr ⟨op,rest,reply,rfl,refuses,goesOn⟩
  | answered op reply rest _ more served =>
    cases served with
    | own _ _ following => exact Or.inl (.after layered rest (following answer))

/-- The call that is passed on is the one that the upper program makes. -/
theorem Shadow.pass {upper : Program Reply α} {op : Op} {next : Reply op → Program (Extended Reply OwnReply) α}
    (shadow : Shadow refusal layer upper (.call (.inl op) next)) :
    ∃ rest, upper = .call op rest ∧ ∀ reply, Shadow refusal layer (rest reply) (next reply) := by
  cases shadow with
  | waiting _ rest _ more waits =>
    cases waits with
    | pass _ following => exact ⟨rest,rfl,fun reply => .after layered rest (following reply)⟩

omit layered in
theorem Shadow.ended {upper : Program Reply α} {value : α} (shadow : Shadow refusal layer upper (.done value)) :
    upper = .done value := by
  cases shadow
  rfl

end follow

section runs
variable {σ : Type}

/-- Below a layer a program runs as it does above it, each call answered by a run of the layer. -/
theorem runs_interpret {env : Environment σ Reply'} {layer : (op : Op) → Program Reply' (Reply op)}
    {program : Program Reply α} {state final : σ} {value : α} :
    Runs env state (program.interpret layer) value final ↔
      Runs (fun state op reply final => Runs env state (layer op) reply final) state program value final := by
  refine ⟨?_,?_⟩
  · intro runs
    induction program generalizing state with
    | done result =>
      cases runs
      exact .done _ _
    | call op next ih =>
      obtain ⟨middle,reply,head,tail⟩ := Runs.split _ _ _ _ _ runs
      exact .call reply head (ih reply tail)
  · intro runs
    induction runs with
    | done state value => exact .done state value
    | call reply answered _ ih => exact answered.sequence ih

/-- The states that an environment goes through as it gives the replies of a list of calls. -/
inductive Path (env : Environment σ Reply) : σ → List (Σ op, Reply op) → σ → Prop
  | nil (state : σ) : Path env state [] state
  | cons {state middle final : σ} {op : Op} {reply : Reply op} {events : List (Σ op, Reply op)}
      (answered : env state op reply middle) (rest : Path env middle events final) :
      Path env state (⟨op,reply⟩::events) final

theorem Path.append {env : Environment σ Reply} {state middle final : σ} {events more : List (Σ op, Reply op)}
    (path : Path env state events middle) (rest : Path env middle more final) :
    Path env state (events ++ more) final := by
  induction path with
  | nil => exact rest
  | cons answered _ ih => exact .cons answered (ih rest)

theorem Path.invariant {env : Environment σ Reply} (holds : σ → Prop)
    (step : ∀ state op reply middle, holds state → env state op reply middle → holds middle)
    {state final : σ} {events : List (Σ op, Reply op)} (path : Path env state events final) (initial : holds state) :
    holds final := by
  induction path with
  | nil => exact initial
  | cons answered _ ih => exact ih (step _ _ _ _ initial answered)

end runs

end Effect.Program
