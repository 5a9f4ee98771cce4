import ControlPlane.Effect.Fallible

/-! Programs that carry out a script: writes to an abstract state, made one after another until
one fails, with announcements between them. `Follows` says that a program carries out a script,
whatever its calls are answered; a program that stops early stops before a write. A script whose
writes can be repeated ends in the same state after any number of attempts that stopped early. -/
namespace Effect.Script
open Fallible

variable {σ τ ε : Type}

abbrev Write (ε σ : Type) := σ → Except ε σ

inductive Item (ε σ τ : Type) where
  | write (change : Write ε σ)
  | announce (signal : τ)

def writes : List (Item ε σ τ) → List (Write ε σ)
  | [] => []
  | .write change::rest => change::writes rest
  | .announce _::rest => writes rest

def signals : List (Item ε σ τ) → List τ
  | [] => []
  | .write _::rest => signals rest
  | .announce signal::rest => signal::signals rest

@[simp] theorem writes_append (script later : List (Item ε σ τ)) :
    writes (script ++ later) = writes script ++ writes later := by
  induction script with
  | nil => rfl
  | cons item rest ih => cases item <;> simp [writes,ih]

@[simp] theorem signals_append (script later : List (Item ε σ τ)) :
    signals (script ++ later) = signals script ++ signals later := by
  induction script with
  | nil => rfl
  | cons item rest ih => cases item <;> simp [signals,ih]

@[simp] theorem writes_map {ι : Type} (changes : ι → Write ε σ) (list : List ι) :
    writes (list.map fun index => (.write (changes index) : Item ε σ τ)) = list.map changes := by
  induction list with
  | nil => rfl
  | cons index rest ih => simp [writes,ih]

@[simp] theorem signals_map {ι : Type} (changes : ι → Write ε σ) (list : List ι) :
    signals (list.map fun index => (.write (changes index) : Item ε σ τ)) = [] := by
  induction list with
  | nil => rfl
  | cons index rest ih => simp [signals,ih]

def applyAll (changes : List (Write ε σ)) (state : σ) : Except ε σ :=
  changes.foldlM (fun state change => change state) state

@[simp] theorem applyAll_nil (state : σ) : applyAll ([] : List (Write ε σ)) state = .ok state := rfl

theorem applyAll_cons_ok {change : Write ε σ} {rest : List (Write ε σ)} {state final : σ} :
    applyAll (change::rest) state = .ok final ↔ ∃ middle, change state = .ok middle ∧ applyAll rest middle =
      .ok final := by
  unfold applyAll
  rw [List.foldlM_cons]
  cases change state <;> simp [bind,Except.bind]

theorem applyAll_append_ok {changes later : List (Write ε σ)} {state final : σ} :
    applyAll (changes ++ later) state = .ok final ↔
      ∃ middle, applyAll changes state = .ok middle ∧ applyAll later middle = .ok final := by
  induction changes generalizing state with
  | nil => simp
  | cons change rest ih =>
    simp only [List.cons_append,applyAll_cons_ok,ih]
    constructor
    · rintro ⟨first,changed,middle,before,after⟩
      exact ⟨middle,⟨first,changed,before⟩,after⟩
    · rintro ⟨middle,⟨first,changed,before⟩,after⟩
      exact ⟨first,changed,middle,before,after⟩

theorem applyAll_keeps {changes : List (Write ε σ)} (holds : σ → Prop)
    (keeps : ∀ change ∈ changes, ∀ state next, holds state → change state = .ok next → holds next)
    {state final : σ} (applied : applyAll changes state = .ok final) (initially : holds state) : holds final := by
  induction changes generalizing state with
  | nil =>
    cases applied
    exact initially
  | cons change rest ih =>
    obtain ⟨middle,changed,after⟩ := applyAll_cons_ok.mp applied
    exact ih (fun later member => keeps later (List.mem_cons_of_mem _ member)) after
      (keeps change List.mem_cons_self state middle initially changed)

section follows
variable {Op Γ α β : Type} {Value : Op → Type} (env : Env Γ ε Value) (represents : Γ → σ → List τ → Prop)
  (faults : Prop)

/-- The writes before `next` are made, and `next` is not. -/
def Stopped (script : List (Item ε σ τ)) (state : σ) (announced : List τ) (final : Γ) : Prop :=
  ∃ before next rest reached, script = before ++ .write next::rest ∧ applyAll (writes before) state = .ok reached ∧
    represents final reached (announced ++ signals before) ∧ (faults ∨ ∃ err, next reached = .error err)

def Completed (script : List (Item ε σ τ)) (state : σ) (announced : List τ) (final : Γ) : Prop :=
  ∃ reached, applyAll (writes script) state = .ok reached ∧ represents final reached (announced ++ signals script)

/-- Every execution from a state that represents `state` carries out the script or stops in it. -/
def Follows (action : Fallible ε Value α) (script : List (Item ε σ τ)) (state : σ) (good : α → Prop) : Prop :=
  ∀ start announced result final, represents start state announced → Yields env start action result final →
    (∃ err, result = .error err ∧ Stopped represents faults script state announced final) ∨
      ∃ value, result = .ok value ∧ good value ∧ Completed represents script state announced final

variable {env represents faults} {script later : List (Item ε σ τ)} {state : σ} {announced : List τ} {good : α → Prop}

theorem Follows.stopped {action : Fallible ε Value α} {start final : Γ} {err : ε}
    (follows : Follows env represents faults action script state good) (represented : represents start state announced)
    (run : Yields env start action (.error err) final) : Stopped represents faults script state announced final := by
  rcases follows start announced _ final represented run with ⟨_,_,stopped⟩ | ⟨_,impossible,_⟩
  · exact stopped
  · cases impossible

theorem Follows.completed {action : Fallible ε Value α} {start final : Γ} {value : α}
    (follows : Follows env represents faults action script state good) (represented : represents start state announced)
    (run : Yields env start action (.ok value) final) : Completed represents script state announced final := by
  rcases follows start announced _ final represented run with ⟨_,impossible,_⟩ | ⟨_,_,_,completed⟩
  · cases impossible
  · exact completed

theorem Follows.pure {value : α} (kept : good value) :
    Follows env represents faults (pure value) ([] : List (Item ε σ τ)) state good := by
  intro start announced result final represented run
  obtain ⟨rfl,rfl⟩ := yields_pure run
  exact Or.inr ⟨value,rfl,kept,state,rfl,by simpa [signals] using represented⟩

theorem Follows.context {action : Fallible ε Value α} (wrap : ε → ε)
    (follows : Follows env represents faults action script state good) :
    Follows env represents faults (context wrap action) script state good := by
  intro start announced result final represented run
  obtain ⟨inner,within,rfl⟩ := yields_context run
  rcases follows start announced inner final represented within with ⟨err,rfl,stopped⟩ | ⟨value,rfl,kept,completed⟩
  · exact Or.inl ⟨wrap err,rfl,stopped⟩
  · exact Or.inr ⟨value,rfl,kept,completed⟩

theorem Stopped.longer {final : Γ} (stopped : Stopped represents faults script state announced final) :
    Stopped represents faults (script ++ later) state announced final := by
  obtain ⟨before,next,rest,reached,parts,applied,represented,reason⟩ := stopped
  refine ⟨before,next,rest ++ later,reached,?_,applied,represented,reason⟩
  rw [parts,List.append_assoc,List.cons_append]

theorem Stopped.after {reached : σ} {final : Γ} (applied : applyAll (writes script) state = .ok reached)
    (stopped : Stopped represents faults later reached (announced ++ signals script) final) :
    Stopped represents faults (script ++ later) state announced final := by
  obtain ⟨before,next,rest,last,parts,more,represented,reason⟩ := stopped
  refine ⟨script ++ before,next,rest,last,?_,?_,?_,reason⟩
  · rw [parts,List.append_assoc]
  · rw [writes_append]
    exact applyAll_append_ok.mpr ⟨reached,applied,more⟩
  · rwa [signals_append,← List.append_assoc]

theorem Completed.after {reached : σ} {final : Γ} (applied : applyAll (writes script) state = .ok reached)
    (completed : Completed represents later reached (announced ++ signals script) final) :
    Completed represents (script ++ later) state announced final := by
  obtain ⟨last,more,represented⟩ := completed
  refine ⟨last,?_,?_⟩
  · rw [writes_append]
    exact applyAll_append_ok.mpr ⟨reached,applied,more⟩
  · rwa [signals_append,← List.append_assoc]

/-- A script stops in its first part, or in the second from where the first ends. -/
theorem Stopped.append_cases {final : Γ} (stopped : Stopped represents faults (script ++ later) state announced final) :
    Stopped represents faults script state announced final ∨
      ∃ reached, applyAll (writes script) state = .ok reached ∧
        Stopped represents faults later reached (announced ++ signals script) final := by
  obtain ⟨before,next,rest,reached,parts,applied,represented,reason⟩ := stopped
  rcases List.append_eq_append_iff.mp parts with ⟨middle,rfl,tail⟩ | ⟨middle,rfl,tail⟩
  · rw [writes_append] at applied
    obtain ⟨first,made,more⟩ := applyAll_append_ok.mp applied
    refine Or.inr ⟨first,made,middle,next,rest,reached,tail,more,?_,reason⟩
    rwa [signals_append,← List.append_assoc] at represented
  · cases middle with
    | nil =>
      refine Or.inr ⟨reached,by simpa using applied,[],next,rest,reached,by simpa using tail.symm,rfl,?_,reason⟩
      simpa [signals] using represented
    | cons item middle =>
      cases tail
      exact Or.inl ⟨before,next,middle,reached,rfl,applied,represented,reason⟩

theorem Stopped.of_write {final : Γ} {change : Write ε σ} (silent : writes later = [])
    (stopped : Stopped represents faults (.write change::later) state announced final) :
    represents final state announced ∧ (faults ∨ ∃ err, change state = .error err) := by
  obtain ⟨before,next,rest,reached,parts,applied,represented,reason⟩ := stopped
  cases before with
  | nil =>
    cases parts
    cases applied
    exact ⟨by simpa [signals] using represented,reason⟩
  | cons item before =>
    rw [(List.cons.inj parts).2] at silent
    exact absurd ((writes_append before _).symm.trans silent) (by simp [writes])

/-- Without faults a program stops only at a write that fails. -/
theorem Stopped.fails {final : Γ} (stopped : Stopped represents False script state announced final) (last : σ) :
    applyAll (writes script) state ≠ .ok last := by
  obtain ⟨before,next,rest,reached,rfl,applied,_,reason⟩ := stopped
  intro all
  rw [writes_append] at all
  obtain ⟨middle,made,more⟩ := applyAll_append_ok.mp all
  rw [applied] at made
  cases made
  obtain ⟨changed,written,_⟩ := applyAll_cons_ok.mp more
  obtain ⟨err,refused⟩ := reason.resolve_left id
  rw [refused] at written
  cases written

theorem Stopped.of_map {ι : Type} {final : Γ} {changes : ι → Write ε σ} {list : List ι}
    (stopped : Stopped represents faults (list.map fun index => .write (changes index)) state announced final) :
    ∃ before index rest reached, list = before ++ index::rest ∧ applyAll (before.map changes) state = .ok reached ∧
      represents final reached announced := by
  obtain ⟨before,next,rest,reached,parts,applied,represented,_⟩ := stopped
  obtain ⟨done,todo,rfl,rfl,remaining⟩ := List.map_eq_append_iff.mp parts
  cases todo with
  | nil => cases remaining
  | cons index todo =>
    refine ⟨done,index,todo,reached,rfl,by rwa [writes_map] at applied,?_⟩
    rwa [signals_map,List.append_nil] at represented

theorem not_stopped {final : Γ} (silent : writes later = []) :
    ¬Stopped represents faults later state announced final := by
  rintro ⟨before,next,rest,reached,rfl,_⟩
  rw [writes_append] at silent
  exact absurd silent (by simp [writes])

/-- The rule for sequences: the scripts one after the other. -/
theorem Follows.bind {action : Fallible ε Value α} {next : α → Fallible ε Value β} {fine : β → Prop}
    (first : Follows env represents faults action script state good)
    (second : ∀ value reached, good value → applyAll (writes script) state = .ok reached →
      Follows env represents faults (next value) later reached fine) :
    Follows env represents faults (action >>= next) (script ++ later) state fine := by
  intro start announced result final represented run
  rcases yields_bind run with ⟨err,rfl,head⟩ | ⟨value,middle,head,tail⟩
  · rcases first start announced _ final represented head with ⟨_,_,stopped⟩ | ⟨_,impossible,_⟩
    · exact Or.inl ⟨err,rfl,stopped.longer⟩
    · cases impossible
  · rcases first start announced _ middle represented head with ⟨_,impossible,_⟩ |
      ⟨value,same,kept,reached,applied,shown⟩
    · cases impossible
    · cases same
      rcases second value reached kept applied middle _ result final shown tail with
        ⟨err,rfl,stopped⟩ | ⟨last,rfl,fine,completed⟩
      · exact Or.inl ⟨err,rfl,stopped.after applied⟩
      · exact Or.inr ⟨last,rfl,fine,completed.after applied⟩

/-- The rule for an action that makes one write. -/
theorem Follows.write {action : Fallible ε Value α} {change : Write ε σ}
    (outcome : ∀ start announced result final, represents start state announced → Yields env start action result final →
      (∃ err, result = .error err ∧ represents final state announced ∧ (faults ∨ ∃ err, change state = .error err)) ∨
        ∃ value reached, result = .ok value ∧ good value ∧ change state = .ok reached ∧
          represents final reached announced) :
    Follows env represents faults action [.write change] state good := by
  intro start announced result final represented run
  rcases outcome start announced result final represented run with
    ⟨err,rfl,same,reason⟩ | ⟨value,reached,rfl,kept,changed,shown⟩
  · exact Or.inl ⟨err,rfl,[],change,[],state,rfl,rfl,by simpa [signals] using same,reason⟩
  · refine Or.inr ⟨value,rfl,kept,reached,?_,by simpa [signals] using shown⟩
    exact applyAll_cons_ok.mpr ⟨reached,changed,rfl⟩

/-- The rule for an action that only reads, before a write: its failure stops the program there. -/
theorem Follows.read {action : Fallible ε Value α} {value : α} {next : α → Fallible ε Value β} {change : Write ε σ}
    {rest : List (Item ε σ τ)} {fine : β → Prop}
    (outcome : ∀ start announced result final, represents start state announced → Yields env start action result final →
      final = start ∧ (result = .ok value ∨ faults ∧ ∃ err, result = .error err))
    (follows : Follows env represents faults (next value) (.write change::rest) state fine) :
    Follows env represents faults (action >>= next) (.write change::rest) state fine := by
  intro start announced result final represented run
  rcases yields_bind run with ⟨err,rfl,head⟩ | ⟨read,middle,head,tail⟩
  · obtain ⟨rfl,impossible | ⟨faulty,_⟩⟩ := outcome start announced _ final represented head
    · cases impossible
    · exact Or.inl ⟨err,rfl,[],change,rest,state,rfl,rfl,by simpa [signals] using represented,Or.inl faulty⟩
  · obtain ⟨rfl,same | ⟨_,_,impossible⟩⟩ := outcome start announced _ middle represented head
    · cases same
      exact follows middle announced result final represented tail
    · cases impossible

end follows

section replay

def Idempotent (change : Write ε σ) : Prop := ∀ state next, change state = .ok next → change next = .ok next

/-- What `first` has nothing to change in, `later` leaves so. -/
def Leaves (later first : Write ε σ) : Prop :=
  ∀ state next, first state = .ok state → later state = .ok next → first next = .ok next

structure Repeatable (changes : List (Write ε σ)) : Prop where
  idempotent : ∀ change ∈ changes, Idempotent change
  leaves : changes.Pairwise fun first later => Leaves later first

theorem Repeatable.tail {change : Write ε σ} {rest : List (Write ε σ)} (repeatable : Repeatable (change::rest)) :
    Repeatable rest :=
  ⟨fun later member => repeatable.idempotent later (List.mem_cons_of_mem _ member),repeatable.leaves.of_cons⟩

/-- What an attempt that stopped early has written, the next attempt finds done. -/
theorem Repeatable.resumed {before rest : List (Write ε σ)} {state stopped final : σ}
    (repeatable : Repeatable (before ++ rest)) (first : applyAll before state = .ok stopped)
    (again : applyAll (before ++ rest) stopped = .ok final) : applyAll (before ++ rest) state = .ok final := by
  induction before generalizing state with
  | nil =>
    cases first
    exact again
  | cons change before ih =>
    obtain ⟨changed,once,others⟩ := applyAll_cons_ok.mp first
    have done : change stopped = .ok stopped := by
      refine applyAll_keeps (fun state => change state = .ok state) ?_ others
        (repeatable.idempotent change List.mem_cons_self state changed once)
      intro later member state next done made
      exact (List.pairwise_cons.mp repeatable.leaves).1 later (List.mem_append_left _ member) state next done made
    obtain ⟨same,twice,onward⟩ := applyAll_cons_ok.mp again
    rw [done] at twice
    cases twice
    exact applyAll_cons_ok.mpr ⟨changed,once,ih repeatable.tail others onward⟩

end replay

section cells
variable {α β : Type}

/-- A part of the state that is written on its own. -/
structure Cell (σ α : Type) where
  get : σ → α
  set : α → σ → σ
  get_set : ∀ value state, get (set value state) = value
  set_set : ∀ value before state, set value (set before state) = set value state

def Cell.modify (cell : Cell σ α) (change : α → Except ε α) : Write ε σ := fun state =>
  (fun value => cell.set value state) <$> change (cell.get state)

structure Cell.Apart (cell : Cell σ α) (other : Cell σ β) : Prop where
  unread : ∀ value state, cell.get (other.set value state) = cell.get state
  commute : ∀ value written state, cell.set value (other.set written state) = other.set written (cell.set value state)

theorem Cell.modify_ok {cell : Cell σ α} {change : α → Except ε α} {state next : σ} :
    cell.modify change state = .ok next ↔ ∃ value, change (cell.get state) = .ok value ∧
      next = cell.set value state := by
  unfold Cell.modify
  cases change (cell.get state) <;> simp [Functor.map,Except.map,eq_comm]

theorem Cell.modify_idempotent {cell : Cell σ α} {change : α → Except ε α}
    (once : ∀ value next, change value = .ok next → change next = .ok next) : Idempotent (cell.modify change) := by
  intro state next changed
  obtain ⟨value,made,rfl⟩ := Cell.modify_ok.mp changed
  refine Cell.modify_ok.mpr ⟨value,?_,?_⟩
  · rw [cell.get_set]
    exact once _ _ made
  · rw [cell.set_set]

theorem Cell.Apart.leaves {cell : Cell σ α} {other : Cell σ β} (apart : cell.Apart other) (change : α → Except ε α)
    (change' : β → Except ε β) : Leaves (other.modify change') (cell.modify change) := by
  intro state next done changed
  obtain ⟨value,made,same⟩ := Cell.modify_ok.mp done
  obtain ⟨written,_,rfl⟩ := Cell.modify_ok.mp changed
  refine Cell.modify_ok.mpr ⟨value,?_,?_⟩
  · rw [apart.unread]
    exact made
  · rw [apart.commute,← same]

end cells

end Effect.Script
