import ControlPlane.Effect.Interleaving
import Mathlib.Algebra.BigOperators.Group.Finset.Basic
import Mathlib.Algebra.Order.Ring.Nat

/-! What threads over a shared state do one by one, and what that adds up to. The calls that one
thread makes in a history are an execution of its program; a counter of the state is the sum of
what the threads' calls add to it; and something that each thread takes and gives back is held by
as many threads as have it taken. -/
namespace Effect.Interleaving
open Program

variable {Op σ α ι : Type} {Reply : Op → Type} [DecidableEq ι] {env : Environment σ Reply} {outside : σ → σ → Prop}
  {programs : ι → Program Reply α} {initial : σ} {history : List (Event ι Reply α)} {system next : System σ ι Reply α}

section calls

def ownCall (i : ι) : Event ι Reply α → Option (Σ op, Reply op)
  | .called j op reply => if j = i then some ⟨op,reply⟩ else none
  | _ => none

/-- The calls of one thread, with their replies. -/
def ownCalls (i : ι) (history : List (Event ι Reply α)) : List (Σ op, Reply op) := history.filterMap (ownCall i)

theorem ownCalls_snoc (i : ι) (history : List (Event ι Reply α)) (event : Event ι Reply α) :
    ownCalls i (history ++ [event]) = ownCalls i history ++ (ownCall i event).toList := by
  unfold ownCalls
  rw [List.filterMap_append]
  cases own : ownCall i event <;> simp [own]

theorem ownCalls_append (i : ι) (history later : List (Event ι Reply α)) :
    ownCalls i (history ++ later) = ownCalls i history ++ ownCalls i later := List.filterMap_append

theorem ownCalls_calls (i k : ι) (calls : List (Σ op, Reply op)) :
    ownCalls i (calls.map fun call => (.called k call.1 call.2 : Event ι Reply α)) = if k = i then calls else [] := by
  induction calls with
  | nil => simp [ownCalls]
  | cons call calls ih =>
    rw [ownCalls] at ih ⊢
    rw [List.map_cons,List.filterMap_cons,ih]
    by_cases same : k = i <;> simp [ownCall,same]

/-- The calls of a history that one thread goes on with to its end. -/
theorem ownCalls_whole (i k : ι) (history : List (Event ι Reply α)) (calls : List (Σ op, Reply op)) (value : α) :
    ownCalls i (history ++ [.invoked k] ++ calls.map (fun call => .called k call.1 call.2) ++ [.returned k value]) =
      ownCalls i history ++ if k = i then calls else [] := by
  have starts : ownCalls i [(.invoked k : Event ι Reply α)] = [] := rfl
  have ends : ownCalls i [(.returned k value : Event ι Reply α)] = [] := rfl
  simp only [ownCalls_append,ownCalls_calls,starts,ends,List.append_nil]

/-- How far a thread has come in its program with the calls it has made. -/
def Progressed (program : Program Reply α) (calls : List (Σ op, Reply op)) : Thread Reply α → Prop
  | .waiting => calls = []
  | .running rest => ∀ later value, Trace rest later value → Trace program (calls ++ later) value
  | .returned value => Trace program calls value

theorem step_progressed {event : Event ι Reply α} (step : Step env outside programs system event next)
    (progressed : ∀ i, Progressed (programs i) (ownCalls i history) (system.threads i)) (i : ι) :
    Progressed (programs i) (ownCalls i (history ++ [event])) (next.threads i) := by
  rw [ownCalls_snoc]
  have before := progressed i
  cases step with
  | invoked k waiting =>
    by_cases same : i = k
    · subst same
      rw [waiting] at before
      rw [System.set_self,show ownCalls i history = [] from before]
      exact fun _ _ trace => trace
    · rw [System.set_other same]
      simpa [ownCall] using before
  | called k op rest reply shared running answered =>
    change Progressed _ _ ((system.set k (.running (rest reply))).threads i)
    by_cases same : i = k
    · subst same
      rw [running] at before
      rw [System.set_self]
      intro later value trace
      have whole := before _ value (.call reply trace)
      simpa [ownCall] using whole
    · rw [System.set_other same]
      simpa [ownCall,Ne.symm same] using before
  | returned k value ended =>
    by_cases same : i = k
    · subst same
      rw [ended] at before
      rw [System.set_self]
      have whole := before [] value (.done value)
      simpa [ownCall,Progressed] using whole
    · rw [System.set_other same]
      simpa [ownCall] using before
  | outside shared allowed => simpa [ownCall] using before

theorem run_progressed (run : Run env outside programs (.initial initial) history system) (i : ι) :
    Progressed (programs i) (ownCalls i history) (system.threads i) := by
  induction run generalizing i with
  | start => exact rfl
  | step _ step ih => exact step_progressed step ih i

/-- A thread that has returned has made the calls of an execution of its program. -/
theorem run_trace (run : Run env outside programs (.initial initial) history system) {i : ι} {value : α}
    (returned : system.threads i = .returned value) : Trace (programs i) (ownCalls i history) value := by
  have whole := run_progressed run i
  rwa [returned] at whole

end calls

section counters
variable {count : σ → Nat} {weight : (Σ op, Reply op) → Nat}

def eventWeight (weight : (Σ op, Reply op) → Nat) : Event ι Reply α → Nat
  | .called _ op reply => weight ⟨op,reply⟩
  | _ => 0

/-- The counter follows the calls, and nothing outside changes it. -/
structure Counts (env : Environment σ Reply) (outside : σ → σ → Prop) (count : σ → Nat)
    (weight : (Σ op, Reply op) → Nat) : Prop where
  grows : ∀ state op reply state', env state op reply state' → count state' = count state + weight ⟨op,reply⟩
  kept : ∀ state state', outside state state' → count state' = count state

theorem sum_own (threads : Finset ι) (event : Event ι Reply α)
    (within : ∀ i op reply, event = .called i op reply → i ∈ threads) :
    ∑ i ∈ threads, ((ownCall i event).toList.map weight).sum = eventWeight weight event := by
  cases event with
  | called k op reply =>
    rw [Finset.sum_eq_single k]
    · simp [ownCall,eventWeight]
    · intro i _ different
      simp [ownCall,Ne.symm different]
    · intro absent
      exact absurd (within k op reply rfl) absent
  | _ => simp [ownCall,eventWeight]

/-- The counter is what it was plus what each thread's calls have added. -/
theorem run_counted (counts : Counts env outside count weight) (threads : Finset ι)
    (run : Run env outside programs (.initial initial) history system)
    (others : ∀ i, i ∉ threads → system.threads i = .waiting) :
    count system.shared = count initial + ∑ i ∈ threads, ((ownCalls i history).map weight).sum := by
  induction run with
  | start => simp [System.initial,ownCalls]
  | @step history system next event run step ih =>
    have still : ∀ i, i ∉ threads → system.threads i = .waiting := by
      intro i outer
      have after := others i outer
      cases step with
      | invoked k waiting =>
        by_cases same : i = k
        · exact same ▸ waiting
        · rwa [System.set_other same] at after
      | called k =>
        change (system.set k _).threads i = _ at after
        by_cases same : i = k
        · subst same
          rw [System.set_self] at after
          cases after
        · rwa [System.set_other same] at after
      | returned k =>
        by_cases same : i = k
        · subst same
          rw [System.set_self] at after
          cases after
        · rwa [System.set_other same] at after
      | outside => exact after
    have within : ∀ i op reply, event = .called i op reply → i ∈ threads := by
      rintro i op reply rfl
      by_contra outer
      cases step with
      | called _ _ _ _ _ running =>
        rw [still i outer] at running
        cases running
    have moved : count next.shared = count system.shared + eventWeight weight event := by
      cases step with
      | called _ _ _ _ _ _ answered => exact counts.grows _ _ _ _ answered
      | outside _ allowed => exact counts.kept _ _ allowed
      | _ => rfl
    simp only [ownCalls_snoc,List.map_append,List.sum_append,Finset.sum_add_distrib]
    rw [moved,ih still,sum_own threads event within]
    omega

end counters

section brackets

/-- Calls by which a thread takes something, calls by which it gives it back, and the other calls
that it makes only while it has it. -/
structure Brackets {Op : Type} (Reply : Op → Type) where
  opens : (op : Op) → Reply op → Bool
  closes : Op → Bool
  needs : Op → Bool

variable {brackets : Brackets Reply}

def Brackets.after (brackets : Brackets Reply) (held : Bool) (op : Op) (reply : Reply op) : Bool :=
  brackets.opens op reply || held && !brackets.closes op

/-- What is taken is given back before the program ends, and never taken twice. -/
inductive Balanced (brackets : Brackets Reply) : Bool → Program Reply α → Prop
  | done (value : α) : Balanced brackets false (.done value)
  | call (held : Bool) (op : Op) (next : Reply op → Program Reply α)
      (closing : brackets.closes op = true → held = true) (needing : brackets.needs op = true → held = true)
      (opening : ∀ reply, brackets.opens op reply = true → held = false)
      (rest : ∀ reply, Balanced brackets (brackets.after held op reply) (next reply)) :
        Balanced brackets held (.call op next)

theorem Balanced.call_cases {held : Bool} {op : Op} {rest : Reply op → Program Reply α}
    (balanced : Balanced brackets held (.call op rest)) : (brackets.closes op = true → held = true) ∧
      (brackets.needs op = true → held = true) ∧ (∀ reply, brackets.opens op reply = true → held = false) ∧
      ∀ reply, Balanced brackets (brackets.after held op reply) (rest reply) := by
  cases balanced with
  | call _ _ _ closing needing opening rest => exact ⟨closing,needing,opening,rest⟩

theorem Balanced.done_cases {held : Bool} {value : α}
    (balanced : Balanced brackets held (.done value : Program Reply α)) :
    held = false := by
  cases balanced
  rfl

theorem Balanced.other {held : Bool} {op : Op} {rest : Reply op → Program Reply α} (keeps : brackets.closes op = false)
    (takesNot : ∀ reply, brackets.opens op reply = false) (needing : brackets.needs op = true → held = true)
    (following : ∀ reply, Balanced brackets held (rest reply)) : Balanced brackets held (.call op rest) := by
  refine .call held op rest (fun closing => ?_) needing (fun reply opening => ?_) (fun reply => ?_)
  · rw [keeps] at closing
    cases closing
  · rw [takesNot] at opening
    cases opening
  · simpa [Brackets.after,keeps,takesNot] using following reply

theorem Balanced.take {op : Op} {rest : Reply op → Program Reply α} (keeps : brackets.closes op = false)
    (free : brackets.needs op = false) (following : ∀ reply, Balanced brackets (brackets.opens op reply) (rest reply)) :
    Balanced brackets false (.call op rest) := by
  refine .call false op rest (fun closing => ?_) (fun needing => ?_) (fun _ _ => rfl) (fun reply => ?_)
  · rw [keeps] at closing
    cases closing
  · rw [free] at needing
    cases needing
  · simpa [Brackets.after] using following reply

theorem Balanced.give {op : Op} {rest : Reply op → Program Reply α} (closes : brackets.closes op = true)
    (takesNot : ∀ reply, brackets.opens op reply = false) (following : ∀ reply, Balanced brackets false (rest reply)) :
    Balanced brackets true (.call op rest) := by
  refine .call true op rest (fun _ => rfl) (fun _ => rfl) (fun reply opening => ?_) (fun reply => ?_)
  · rw [takesNot] at opening
    cases opening
  · simpa [Brackets.after,closes,takesNot] using following reply

/-- Whoever holds something gives it back on every way to the end of its program. -/
theorem Balanced.closed {program : Program Reply α} (balanced : Balanced brackets true program)
    {events : List (Σ op, Reply op)} {value : α} (trace : Trace program events value) :
    ∃ event ∈ events, brackets.closes event.1 = true := by
  induction trace with
  | done => cases balanced.done_cases
  | @call op rest events value reply _ ih =>
    obtain ⟨_,_,opening,following⟩ := balanced.call_cases
    cases closes : brackets.closes op with
    | true => exact ⟨_,List.mem_cons_self,closes⟩
    | false =>
      have still := following reply
      rw [show brackets.after true op reply = true by simp [Brackets.after,closes]] at still
      obtain ⟨event,member,closing⟩ := ih still
      exact ⟨event,List.mem_cons_of_mem _ member,closing⟩

/-- The threads that hold something are among those that run. -/
structure Held (brackets : Brackets Reply) (system : System σ ι Reply α) (holders : Finset ι) : Prop where
  balanced : ∀ i program, system.threads i = .running program → Balanced brackets (decide (i ∈ holders)) program
  running : ∀ i ∈ holders, ∃ program, system.threads i = .running program

def Brackets.holders (brackets : Brackets Reply) (holders : Finset ι) : Event ι Reply α → Finset ι
  | .called i op reply =>
    if brackets.opens op reply then insert i holders else if brackets.closes op then holders.erase i else holders
  | _ => holders

theorem mem_holders {holders : Finset ι} {i : ι} {op : Op} {reply : Reply op} :
    i ∈ brackets.holders holders (.called i op reply : Event ι Reply α) ↔
      brackets.after (decide (i ∈ holders)) op reply = true := by
  simp only [Brackets.holders,Brackets.after]
  cases brackets.opens op reply <;> cases brackets.closes op <;> simp

theorem mem_holders_other {holders : Finset ι} {i k : ι} {op : Op} {reply : Reply op} (different : k ≠ i) :
    k ∈ brackets.holders holders (.called i op reply : Event ι Reply α) ↔ k ∈ holders := by
  simp only [Brackets.holders]
  split_ifs <;> simp [different]

theorem step_held {holders : Finset ι} {event : Event ι Reply α} (balanced : ∀ i, Balanced brackets false (programs i))
    (held : Held brackets system holders) (step : Step env outside programs system event next) :
    Held brackets next (brackets.holders holders event) := by
  cases step with
  | invoked i waiting =>
    have idle : i ∉ holders := by
      intro member
      obtain ⟨program,running⟩ := held.running i member
      rw [waiting] at running
      cases running
    refine ⟨?_,?_⟩
    · apply System.forall_set (P := fun k thread => ∀ program, thread = .running program →
        Balanced brackets (decide (k ∈ holders)) program)
      · rintro _ ⟨⟩
        simpa [idle] using balanced i
      · exact fun k _ => held.balanced k
    · apply System.forall_set (P := fun k thread => k ∈ holders → ∃ program, thread = .running program)
      · exact fun _ => ⟨_,rfl⟩
      · exact fun k _ => held.running k
  | called i op rest reply shared running answered =>
    refine ⟨?_,?_⟩
    · apply System.forall_set (P := fun k thread => ∀ program, thread = .running program →
        Balanced brackets (decide (k ∈ brackets.holders holders (Event.called i op reply : Event ι Reply α))) program)
      · rintro _ ⟨⟩
        obtain ⟨_,_,_,following⟩ := (held.balanced i _ running).call_cases
        simpa [mem_holders] using following reply
      · intro k different
        simp only [mem_holders_other different]
        exact held.balanced k
    · apply System.forall_set (P := fun k thread =>
        k ∈ brackets.holders holders (Event.called i op reply : Event ι Reply α) → ∃ program, thread = .running program)
      · exact fun _ => ⟨_,rfl⟩
      · intro k different member
        exact held.running k ((mem_holders_other different).mp member)
  | returned i value ended =>
    have idle : i ∉ holders := by
      simpa using (held.balanced i _ ended).done_cases
    refine ⟨?_,?_⟩
    · apply System.forall_set (P := fun k thread => ∀ program, thread = .running program →
        Balanced brackets (decide (k ∈ holders)) program)
      · exact nofun
      · exact fun k _ => held.balanced k
    · apply System.forall_set (P := fun k thread => k ∈ holders → ∃ program, thread = .running program)
      · exact fun member => absurd member idle
      · exact fun k _ => held.running k
  | outside shared allowed => exact ⟨held.balanced,held.running⟩

theorem initial_held : Held brackets (.initial initial : System σ ι Reply α) ∅ :=
  ⟨nofun,by simp⟩

/-- A thread that is about to make a call that needs it holds something. -/
theorem Held.needed {holders : Finset ι} (held : Held brackets system holders) {i : ι} {op : Op}
    {rest : Reply op → Program Reply α} (running : system.threads i = .running (.call op rest))
    (needs : brackets.needs op = true) : i ∈ holders := by
  obtain ⟨_,needing,_⟩ := (held.balanced i _ running).call_cases
  simpa using needing needs

/-- What is known of the state and of the threads that hold something: it has to be kept by every
call, of which it may be assumed that it gives back only what is held and takes only what is not. -/
structure Tracked (env : Environment σ Reply) (outside : σ → σ → Prop) (brackets : Brackets Reply)
    (holds : σ → Finset ι → Prop) : Prop where
  called : ∀ state op reply state' i holders, holds state holders → env state op reply state' →
    (brackets.closes op = true → i ∈ holders) → (brackets.opens op reply = true → i ∉ holders) →
      holds state' (brackets.holders holders (.called i op reply : Event ι Reply α))
  kept : ∀ state state' holders, holds state holders → outside state state' → holds state' holders

theorem run_tracked {holds : σ → Finset ι → Prop} (tracked : Tracked (α := α) env outside brackets holds)
    (balanced : ∀ i, Balanced brackets false (programs i)) (initially : holds initial ∅)
    (run : Run env outside programs (.initial initial) history system) :
    ∃ holders, Held brackets system holders ∧ holds system.shared holders := by
  induction run with
  | start => exact ⟨∅,initial_held,initially⟩
  | step _ step ih =>
    obtain ⟨holders,held,known⟩ := ih
    refine ⟨_,step_held balanced held step,?_⟩
    cases step with
    | invoked => exact known
    | called i op rest reply shared running answered =>
      obtain ⟨closing,_,opening,_⟩ := (held.balanced i _ running).call_cases
      exact tracked.called _ op reply shared i holders known answered (by simpa using closing)
        (by simpa using opening reply)
    | returned => exact known
    | outside shared allowed => exact tracked.kept _ shared holders known allowed

end brackets

end Effect.Interleaving
