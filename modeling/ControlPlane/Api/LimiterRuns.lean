import ControlPlane.Api.RateLimiter
import ControlPlane.Effect.Interleaving

/-! Concurrent calls of rate limiters. A call takes effect when it draws from the bucket of its
key, or when it makes that bucket; in the order of these updates, the calls for one key are
answered as by one token bucket. -/
namespace ControlPlane.Api
open Go Effect Effect.Program Effect.Interleaving Data.TokenBucket

structure Call (τ : Type) where
  limiter : τ
  key : Bytes
  now : ℚ
  deriving DecidableEq

section tally
variable {τ ι α : Type}

/-- The update that a call makes, with its answer. -/
def update? : Event ι (LimiterOp.Reply : LimiterOp τ → Type) α → Option (ι × Bool)
  | .called i (.bucketAllow ..) allowed => some (i,allowed)
  | .called i (.lookupOrCreate ..) none => some (i,true)
  | _ => none

def updates (history : List (Event ι (LimiterOp.Reply : LimiterOp τ → Type) α)) : List (ι × Bool) :=
  history.filterMap update?

theorem updates_snoc (history : List (Event ι (LimiterOp.Reply : LimiterOp τ → Type) α))
    (event : Event ι (LimiterOp.Reply : LimiterOp τ → Type) α) :
    updates (history ++ [event]) = updates history ++ (update? event).toList := by
  unfold updates
  rw [List.filterMap_append]
  cases shape : update? event <;> simp [shape]

variable [DecidableEq τ] (calls : ι → Call τ) (made : List (ι × Bool))

/-- The answers for one key of one limiter, in the order of the updates. -/
def tally (limiter : τ) (key : Bytes) : List Verdict :=
  (made.filter fun update => (calls update.1).limiter = limiter ∧ (calls update.1).key = key).map fun update =>
    ⟨(calls update.1).now,update.2⟩

theorem tally_own (i : ι) (allowed : Bool) : tally calls (made ++ [(i,allowed)]) (calls i).limiter =
    record (tally calls made (calls i).limiter) (calls i).key ⟨(calls i).now,allowed⟩ := by
  funext key
  by_cases same : key = (calls i).key
  · subst same
    simp [tally,record]
  · rw [record,Function.update_of_ne same]
    simp [tally,Ne.symm same]

theorem tally_other {i : ι} {limiter : τ} (different : limiter ≠ (calls i).limiter) (allowed : Bool) :
    tally calls (made ++ [(i,allowed)]) limiter = tally calls made limiter := by
  funext key
  simp [tally,Ne.symm different]

end tally

section balance
variable {τ ι : Type} [DecidableEq τ] (rate burst : ℚ) (calls : ι → Call τ)

/-- Every answer is that of the token bucket. -/
def Conforms (verdicts : List Verdict) : Prop :=
  ∀ before verdict, before ++ [verdict] <+: verdicts →
    (verdict.allowed = true ↔ Affords rate burst (before.map Verdict.draw) verdict.time 1)

structure Balanced (memory : τ → RateLimiter) (made : List (ι × Bool)) : Prop where
  accounts : ∀ limiter, Accounts rate burst (memory limiter) (tally calls made limiter)
  conforms : ∀ limiter key, Conforms rate burst (tally calls made limiter key)

variable {rate burst calls} {memory : τ → RateLimiter} {made : List (ι × Bool)}

theorem Conforms.snoc {verdicts : List Verdict} {verdict : Verdict} (conforms : Conforms rate burst verdicts)
    (last : verdict.allowed = true ↔ Affords rate burst (verdicts.map Verdict.draw) verdict.time 1) :
    Conforms rate burst (verdicts ++ [verdict]) := by
  intro before other begins
  rcases List.prefix_concat_iff.mp begins with whole | earlier
  · obtain ⟨rfl,same⟩ := List.append_inj' whole rfl
    cases same
    exact last
  · exact conforms before other earlier

/-- One more update, of the bucket of the call's own key. -/
theorem Balanced.updated (balanced : Balanced rate burst calls memory made) {i : ι} {allowed : Bool}
    {next : RateLimiter}
    (accounts : Accounts rate burst next
      (record (tally calls made (calls i).limiter) (calls i).key ⟨(calls i).now,allowed⟩))
    (decides : allowed = true ↔
      Affords rate burst ((tally calls made (calls i).limiter (calls i).key).map Verdict.draw) (calls i).now 1) :
    Balanced rate burst calls (Function.update memory (calls i).limiter next) (made ++ [(i,allowed)]) := by
  constructor
  · intro limiter
    by_cases same : limiter = (calls i).limiter
    · subst same
      rw [Function.update_self,tally_own]
      exact accounts
    · rw [Function.update_of_ne same,tally_other calls made same]
      exact balanced.accounts limiter
  · intro limiter key
    by_cases same : limiter = (calls i).limiter
    · subst same
      rw [tally_own]
      by_cases own : key = (calls i).key
      · subst own
        rw [record,Function.update_self]
        exact (balanced.conforms _ _).snoc decides
      · rw [record,Function.update_of_ne own]
        exact balanced.conforms _ key
    · rw [tally_other calls made same]
      exact balanced.conforms limiter key

end balance

section counting
variable {rate burst : ℚ} {verdicts : List Verdict} {verdict first : Verdict} {k n : Nat}

theorem drawn_verdicts (verdicts : List Verdict) :
    drawn (verdicts.map Verdict.draw) = (verdicts.countP Verdict.allowed : ℚ) := by
  induction verdicts with
  | nil => rfl
  | cons verdict rest ih =>
    rw [List.map_cons,← List.singleton_append,drawn_append,drawn_singleton,ih,List.countP_cons,add_comm]
    cases shown : verdict.allowed <;> simp [Verdict.draw,shown]

theorem opening_verdicts (within : k ≤ n) (last : verdicts[n]? = some verdict) (opens : verdicts[k]? = some first) :
    opening (((verdicts.take n).drop k).map Verdict.draw) verdict.time = first.time := by
  unfold opening
  rw [List.head?_map,List.head?_drop,List.getElem?_take]
  rcases Nat.lt_or_eq_of_le within with before | rfl
  · rw [if_pos before,opens]
    rfl
  · rw [if_neg (Nat.lt_irrefl k)]
    cases last.symm.trans opens
    rfl

theorem allowed_before_le (verdicts : List Verdict) (k n : Nat) :
    ((verdicts.take n).drop k).countP Verdict.allowed ≤ n :=
  List.countP_le_length.trans ((List.drop_sublist k _).length_le.trans (List.length_take_le n verdicts))

/-- An answer by the number of calls that were allowed since each of the earlier ones. -/
theorem Conforms.allowed_iff (conforms : Conforms rate burst verdicts) (last : verdicts[n]? = some verdict) :
    verdict.allowed = true ↔ ∀ k first, k ≤ n → verdicts[k]? = some first →
      (((verdicts.take n).drop k).countP Verdict.allowed : ℚ) + 1 ≤ burst + rate * (verdict.time - first.time) := by
  obtain ⟨inside,_⟩ := List.getElem?_eq_some_iff.mp last
  have begins : verdicts.take n ++ [verdict] <+: verdicts := by
    have whole := List.take_prefix (n + 1) verdicts
    rwa [List.take_add_one,last] at whole
  rw [conforms _ _ begins]
  constructor
  · intro affords k first within opens
    have bound := affords (((verdicts.take n).drop k).map Verdict.draw) ((List.drop_suffix k _).map _)
    rwa [drawn_verdicts,opening_verdicts within last opens] at bound
  · intro bounds window suffix
    have length : (verdicts.take n).length = n := List.length_take_of_le (Nat.le_of_lt inside)
    obtain ⟨k,within,rfl⟩ : ∃ k ≤ n, window = ((verdicts.take n).drop k).map Verdict.draw := by
      refine ⟨n - window.length,Nat.sub_le _ _,?_⟩
      have tail := List.suffix_iff_eq_drop.mp suffix
      rwa [List.length_map,length,← List.map_drop] at tail
    have opens : verdicts[k]? = some (verdicts.get ⟨k,Nat.lt_of_le_of_lt within inside⟩) := List.getElem?_eq_getElem _
    rw [drawn_verdicts,opening_verdicts within last opens]
    exact bounds k _ within opens

end counting

section threads
variable {τ ι α : Type} (calls : ι → Call τ) (answers : ι → Bool → α) (programs : ι → Limiting τ α)

/-- A thread that calls the limiter and goes on with the answer. -/
def Call.program (call : Call τ) (answer : Bool → α) : Limiting τ α := do
  return answer (← allow call.limiter call.key call.now)

/-- Each thread makes its call, or returns at once. -/
def Limits : Prop := ∀ i, (∃ value, programs i = .done value) ∨ programs i = (calls i).program (answers i)

/-- How far a thread is, given the memory and the updates made so far. -/
inductive Stage (memory : τ → RateLimiter) (made : List (ι × Bool)) (i : ι) :
    Thread (LimiterOp.Reply : LimiterOp τ → Type) α → Prop
  | waiting (fresh : i ∉ made.map Prod.fst) : Stage memory made i .waiting
  | started (fresh : i ∉ made.map Prod.fst) : Stage memory made i (.running (programs i))
  | missed (fresh : i ∉ made.map Prod.fst) : Stage memory made i (.running do
      return answers i (← allowLocked (calls i).limiter (calls i).key (calls i).now))
  | found (pointer : Nat) (listed : (memory (calls i).limiter).lookup (calls i).key = some pointer)
      (fresh : i ∉ made.map Prod.fst) : Stage memory made i (.running do
      return answers i (← draw (calls i).limiter (calls i).now pointer))
  | decided (allowed : Bool) (update : (i,allowed) ∈ made) : Stage memory made i (.running (.done (answers i allowed)))
  | returned (allowed : Bool) (update : (i,allowed) ∈ made) : Stage memory made i (.returned (answers i allowed))
  | immediate (value : α) (same : programs i = .done value) : Stage memory made i (.returned value)

variable {calls answers programs} {memory next : τ → RateLimiter} {made extra : List (ι × Bool)} {i : ι}
  {thread : Thread (LimiterOp.Reply : LimiterOp τ → Type) α}

/-- No bucket is replaced. -/
def Grows (memory next : τ → RateLimiter) : Prop :=
  ∀ limiter key pointer, (memory limiter).lookup key = some pointer → (next limiter).lookup key = some pointer

/-- What other threads do takes a thread neither back nor forward. -/
theorem Stage.kept (stage : Stage calls answers programs memory made i thread) (grows : Grows memory next)
    (others : i ∉ extra.map Prod.fst) : Stage calls answers programs next (made ++ extra) i thread := by
  have fresh (before : i ∉ made.map Prod.fst) : i ∉ (made ++ extra).map Prod.fst := by
    rw [List.map_append,List.mem_append]
    exact not_or.mpr ⟨before,others⟩
  cases stage with
  | waiting before => exact .waiting (fresh before)
  | started before => exact .started (fresh before)
  | missed before => exact .missed (fresh before)
  | found pointer there before => exact .found pointer (grows _ _ _ there) (fresh before)
  | decided allowed update => exact .decided allowed (List.mem_append_left _ update)
  | returned allowed update => exact .returned allowed (List.mem_append_left _ update)
  | immediate value same => exact .immediate value same

variable [DecidableEq τ] {rate burst : ℚ}

theorem grows_create {limiter : τ} {key : Bytes} (missing : (memory limiter).lookup key = none) (now : ℚ) :
    Grows memory (Function.update memory limiter ((memory limiter).create key now)) := by
  intro other name pointer found
  by_cases same : other = limiter
  · subst same
    rw [Function.update_self,lookup_create,if_neg ?_]
    · exact found
    · rintro rfl
      cases missing.symm.trans found
  · rwa [Function.update_of_ne same]

theorem grows_same {limiter : τ} {changed : RateLimiter} (same : changed.lookup = (memory limiter).lookup) :
    Grows memory (Function.update memory limiter changed) := by
  intro other name pointer found
  by_cases own : other = limiter
  · subst own
    rwa [Function.update_self,same]
  · rwa [Function.update_of_ne own]

/-- What one call does: nothing but to look up the bucket, or the thread's only update. -/
structure Acted (rate burst : ℚ) (calls : ι → Call τ) (answers : ι → Bool → α) (programs : ι → Limiting τ α)
    (memory next : τ → RateLimiter) (made extra : List (ι × Bool)) (i : ι)
    (thread : Thread (LimiterOp.Reply : LimiterOp τ → Type) α) : Prop where
  balanced : Balanced rate burst calls next (made ++ extra)
  staged : Stage calls answers programs next (made ++ extra) i thread
  grows : Grows memory next
  own : extra = [] ∨ ∃ allowed, extra = [(i,allowed)]
  fresh : i ∉ made.map Prod.fst

theorem lookup_acts (balanced : Balanced rate burst calls memory made)
    (stage : Stage calls answers programs memory made i thread) (fresh : i ∉ made.map Prod.fst) :
    Acted rate burst calls answers programs memory memory made [] i thread := by
  refine ⟨?_,?_,fun _ _ _ found => found,Or.inl rfl,fresh⟩
  · rwa [List.append_nil]
  · rwa [List.append_nil]

theorem create_acts (enough : 1 ≤ burst) (balanced : Balanced rate burst calls memory made)
    (fresh : i ∉ made.map Prod.fst) (missing : (memory (calls i).limiter).lookup (calls i).key = none) :
    Acted rate burst calls answers programs memory
      (Function.update memory (calls i).limiter ((memory (calls i).limiter).create (calls i).key (calls i).now)) made
      [(i,true)] i (.running (.done (answers i true))) := by
  have accounts := (balanced.accounts (calls i).limiter).create missing (calls i).now
  refine ⟨balanced.updated accounts ?_,.decided true (List.mem_append_right _ List.mem_cons_self),
    grows_create missing _,Or.inr ⟨true,rfl⟩,fresh⟩
  rw [(balanced.accounts (calls i).limiter).unlisted _ missing]
  exact iff_of_true rfl (affords_nil.mpr enough)

theorem draw_acts (balanced : Balanced rate burst calls memory made) (fresh : i ∉ made.map Prod.fst) {pointer : Nat}
    (found : (memory (calls i).limiter).lookup (calls i).key = some pointer) :
    Acted rate burst calls answers programs memory
      (Function.update memory (calls i).limiter ((memory (calls i).limiter).bucketAllow pointer (calls i).now).2) made
      [(i,((memory (calls i).limiter).bucketAllow pointer (calls i).now).1)] i
      (.running (.done (answers i ((memory (calls i).limiter).bucketAllow pointer (calls i).now).1))) := by
  obtain ⟨accounts,decides,same⟩ := (balanced.accounts (calls i).limiter).bucketAllow found (calls i).now
  exact ⟨balanced.updated accounts decides,.decided _ (List.mem_append_right _ List.mem_cons_self),grows_same same,
    Or.inr ⟨_,rfl⟩,fresh⟩

theorem Stage.acts (limits : Limits calls answers programs) (enough : 1 ≤ burst)
    (balanced : Balanced rate burst calls memory made) {op : LimiterOp τ} {rest : op.Reply → Limiting τ α}
    {reply : op.Reply} (stage : Stage calls answers programs memory made i (.running (.call op rest)))
    (answered : Served memory op reply next) :
    Acted rate burst calls answers programs memory next made
      (update? (.called i op reply : Event ι (LimiterOp.Reply : LimiterOp τ → Type) α)).toList i
      (.running (rest reply)) := by
  generalize shape : (Thread.running (.call op rest) : Thread (LimiterOp.Reply : LimiterOp τ → Type) α) =
    thread at stage
  cases stage with
  | waiting fresh => cases shape
  | returned allowed update => cases shape
  | immediate value same => cases shape
  | decided allowed update => cases shape
  | started fresh =>
    rcases limits i with ⟨value,immediate⟩ | calling
    · rw [immediate] at shape
      cases shape
    · rw [calling] at shape
      cases shape
      cases found : (memory (calls i).limiter).lookup (calls i).key with
      | none =>
        simp only [Served,serve,found] at answered
        cases answered
        exact lookup_acts balanced (.missed fresh) fresh
      | some pointer =>
        simp only [Served,serve,found] at answered
        cases answered
        exact lookup_acts balanced (.found pointer found fresh) fresh
  | missed fresh =>
    cases shape
    cases found : (memory (calls i).limiter).lookup (calls i).key with
    | none =>
      simp only [Served,serve,found] at answered
      cases answered
      exact create_acts enough balanced fresh found
    | some pointer =>
      simp only [Served,serve,found] at answered
      cases answered
      exact lookup_acts balanced (.found pointer found fresh) fresh
  | found pointer listed fresh =>
    cases shape
    cases answered
    exact draw_acts balanced fresh listed

end threads

section runs
variable {τ ι α : Type} [DecidableEq τ]

/-- The state of a run: the buckets and the answers given agree, and every thread is at one of its stages. -/
structure Orderly (rate burst : ℚ) (calls : ι → Call τ) (answers : ι → Bool → α) (programs : ι → Limiting τ α)
    (history : List (Event ι (LimiterOp.Reply : LimiterOp τ → Type) α))
    (system : System (τ → RateLimiter) ι (LimiterOp.Reply : LimiterOp τ → Type) α) : Prop where
  balanced : Balanced rate burst calls system.shared (updates history)
  staged : ∀ i, Stage calls answers programs system.shared (updates history) i (system.threads i)
  once : ((updates history).map Prod.fst).Nodup
  ended : ∀ i value, .returned i value ∈ history → system.threads i = .returned value

variable {rate burst : ℚ} {calls : ι → Call τ} {answers : ι → Bool → α} {programs : ι → Limiting τ α}
  {history : List (Event ι (LimiterOp.Reply : LimiterOp τ → Type) α)}
  {system next : System (τ → RateLimiter) ι (LimiterOp.Reply : LimiterOp τ → Type) α}

/-- A thread that has returned has made its update, or never called. -/
theorem Orderly.answered (orderly : Orderly rate burst calls answers programs history system) {i : ι} {value : α}
    (ended : .returned i value ∈ history) :
    (∃ allowed, value = answers i allowed ∧ (i,allowed) ∈ updates history) ∨ programs i = .done value := by
  have stage := orderly.staged i
  rw [orderly.ended i value ended] at stage
  generalize shape : (Thread.returned value : Thread (LimiterOp.Reply : LimiterOp τ → Type) α) = thread at stage
  cases stage with
  | returned allowed update =>
    cases shape
    exact Or.inl ⟨allowed,rfl,update⟩
  | immediate other same =>
    cases shape
    exact Or.inr same
  | _ => cases shape

variable [DecidableEq ι]

theorem Orderly.still_ended (orderly : Orderly rate burst calls answers programs history system) {i k : ι} {value : α}
    (running : ∀ value, system.threads i ≠ .returned value) (before : .returned k value ∈ history)
    (thread : Thread (LimiterOp.Reply : LimiterOp τ → Type) α) : (system.set i thread).threads k = .returned value := by
  have ended := orderly.ended k value before
  have different : k ≠ i := by
    rintro rfl
    exact running value ended
  exact (System.set_other different).trans ended

/-- An event that is no update moves one thread and keeps the rest. -/
theorem Orderly.moved (orderly : Orderly rate burst calls answers programs history system) {i : ι}
    {event : Event ι (LimiterOp.Reply : LimiterOp τ → Type) α}
    {thread : Thread (LimiterOp.Reply : LimiterOp τ → Type) α} (silent : update? event = none)
    (stage : Stage calls answers programs system.shared (updates history) i thread)
    (ends : ∀ k value, event = .returned k value → k = i ∧ thread = .returned value)
    (running : ∀ value, system.threads i ≠ .returned value) :
    Orderly rate burst calls answers programs (history ++ [event]) (system.set i thread) := by
  have same : updates (history ++ [event]) = updates history := by
    rw [updates_snoc,silent]
    exact List.append_nil _
  refine ⟨?_,?_,?_,?_⟩
  · rw [same]
    exact orderly.balanced
  · rw [same]
    exact System.forall_set (P := Stage calls answers programs system.shared (updates history)) stage
      fun k _ => orderly.staged k
  · rw [same]
    exact orderly.once
  · intro k value returned
    rcases List.mem_append.mp returned with before | now
    · exact orderly.still_ended running before thread
    · obtain ⟨rfl,rfl⟩ := ends k value (List.mem_singleton.mp now).symm
      exact System.set_self system k _

theorem Orderly.called (limits : Limits calls answers programs) (enough : 1 ≤ burst)
    (orderly : Orderly rate burst calls answers programs history system) {i : ι} {op : LimiterOp τ}
    {rest : op.Reply → Limiting τ α} {reply : op.Reply} {shared : τ → RateLimiter}
    (running : system.threads i = .running (.call op rest)) (answered : Served system.shared op reply shared) :
    Orderly rate burst calls answers programs (history ++ [.called i op reply])
      {system.set i (.running (rest reply)) with shared} := by
  have stage := orderly.staged i
  rw [running] at stage
  have acted := stage.acts limits enough orderly.balanced answered
  have same := updates_snoc history (.called i op reply)
  refine ⟨?_,?_,?_,?_⟩
  · rw [same]
    exact acted.balanced
  · rw [same]
    refine System.forall_set (P := Stage calls answers programs shared _) acted.staged ?_
    intro k different
    refine (orderly.staged k).kept acted.grows ?_
    rcases acted.own with none | ⟨allowed,one⟩
    · simp [none]
    · simp [one,different]
  · rw [same,List.map_append]
    rcases acted.own with none | ⟨allowed,one⟩
    · simpa [none] using orderly.once
    · rw [one]
      refine List.nodup_append.mpr ⟨orderly.once,List.nodup_singleton _,?_⟩
      intro k member last isLast
      rw [List.mem_singleton.mp isLast]
      rintro rfl
      exact acted.fresh member
  · intro k value returned
    rcases List.mem_append.mp returned with before | now
    · refine orderly.still_ended ?_ before _
      intro value ended
      cases running.symm.trans ended
    · cases List.mem_singleton.mp now

theorem Orderly.step (limits : Limits calls answers programs) (enough : 1 ≤ burst)
    (orderly : Orderly rate burst calls answers programs history system)
    {event : Event ι (LimiterOp.Reply : LimiterOp τ → Type) α}
    (step : Step Served (fun _ _ => False) programs system event next) :
    Orderly rate burst calls answers programs (history ++ [event]) next := by
  cases step with
  | invoked i waiting =>
    have stage := orderly.staged i
    rw [waiting] at stage
    cases stage with
    | waiting fresh =>
      refine orderly.moved rfl (.started fresh) nofun ?_
      intro value returned
      cases waiting.symm.trans returned
  | called i op rest reply shared running answered => exact orderly.called limits enough running answered
  | returned i value ended =>
    have stage := orderly.staged i
    rw [ended] at stage
    generalize shape : (Thread.running (.done value) : Thread (LimiterOp.Reply : LimiterOp τ → Type) α) =
      thread at stage
    have last : Stage calls answers programs system.shared (updates history) i (.returned value) := by
      cases stage with
      | started fresh => exact .immediate value (Thread.running.inj shape).symm
      | decided allowed update =>
        cases shape
        exact .returned allowed update
      | _ => cases shape
    refine orderly.moved rfl last ?_ ?_
    · rintro k other ⟨⟩
      exact ⟨rfl,rfl⟩
    · intro other returned
      cases ended.symm.trans returned
  | outside shared allowed => exact allowed.elim

theorem run_orderly (limits : Limits calls answers programs) (enough : 1 ≤ burst) {memory : τ → RateLimiter}
    (blank : ∀ limiter, memory limiter = ⟨rate,burst,fun _ => ∅,[]⟩)
    (run : Run Served (fun _ _ => False) programs (.initial memory) history system) :
    Orderly rate burst calls answers programs history system := by
  induction run with
  | start =>
    refine ⟨⟨?_,?_⟩,fun i => .waiting List.not_mem_nil,List.nodup_nil,nofun⟩
    · intro limiter
      change Accounts rate burst (memory limiter) _
      rw [blank]
      exact new_accounts rate burst
    · intro limiter key before verdict begins
      have empty := List.prefix_nil.mp begins
      simp at empty
  | step run step ih => exact ih.step limits enough step

end runs

section sample

-- Two first calls for one key, at the same time.
def newcomers : Bool → Call Unit := fun _ => ⟨(),[107],0⟩

def newcomersBefore : Unit → RateLimiter := fun _ => ⟨1,1,fun _ => ∅,[]⟩

def newcomersAfter : Unit → RateLimiter := (serve newcomersBefore (.lookupOrCreate () [107] 0)).2

abbrev Newcomers (history : List (Event Bool (LimiterOp.Reply : LimiterOp Unit → Type) Bool))
    (system : System (Unit → RateLimiter) Bool (LimiterOp.Reply : LimiterOp Unit → Type) Bool) : Prop :=
  Run Served (fun _ _ => False) (fun i => allow (newcomers i).limiter (newcomers i).key (newcomers i).now)
    (.initial newcomersBefore) history system

theorem newcomers_refused : ∃ next, Served newcomersAfter (.bucketAllow () 0 0) false next := by
  have short : TokenBucket.allow (⟨1 - 1,0⟩ : Bucket ℚ) 1 1 0 = (false,⟨0,0⟩) := by decide +kernel
  refine ⟨_,Prod.ext ?_ rfl⟩
  change (TokenBucket.allow (⟨1 - 1,0⟩ : Bucket ℚ) 1 1 0).1 = false
  rw [short]

-- Neither finds a bucket; the first makes it, and the second finds it under the lock.
theorem newcomers_race : ∃ history system, Newcomers history system ∧ updates history = [(true,true),(false,false)] ∧
    .returned true true ∈ history ∧ .returned false false ∈ history := by
  have begun : Newcomers [] (.initial newcomersBefore) := .start
  have missed : Served newcomersBefore (.lookup () [107]) none newcomersBefore := rfl
  have made : Served newcomersBefore (.lookupOrCreate () [107] 0) none newcomersAfter := rfl
  have found : Served newcomersAfter (.lookupOrCreate () [107] 0) (some 0) newcomersAfter := rfl
  obtain ⟨drained,refused⟩ := newcomers_refused
  obtain ⟨s₁,run₁,shared₁,first₁,others₁⟩ := begun.invoke true rfl
  obtain ⟨s₂,run₂,shared₂,second₂,others₂⟩ := run₁.invoke false (others₁ false (by decide))
  change s₁.shared = newcomersBefore at shared₁
  rw [← shared₁,← shared₂] at missed
  obtain ⟨s₃,run₃,shared₃,first₃,others₃⟩ := run₂.call true ((others₂ true (by decide)).trans first₁) missed
  rw [← shared₃] at missed
  obtain ⟨s₄,run₄,shared₄,second₄,others₄⟩ := run₃.call false ((others₃ false (by decide)).trans second₂) missed
  rw [← shared₁,← shared₂,← shared₃,← shared₄] at made
  obtain ⟨s₅,run₅,shared₅,first₅,others₅⟩ := run₄.call true ((others₄ true (by decide)).trans first₃) made
  rw [← shared₅] at found
  obtain ⟨s₆,run₆,shared₆,second₆,others₆⟩ := run₅.call false ((others₅ false (by decide)).trans second₄) found
  rw [← shared₅,← shared₆] at refused
  obtain ⟨s₇,run₇,shared₇,second₇,others₇⟩ := run₆.call false second₆ refused
  obtain ⟨s₈,run₈,others₈⟩ := run₇.finish false second₇
  have first₈ := (others₈ true (by decide)).trans
    ((others₇ true (by decide)).trans ((others₆ true (by decide)).trans first₅))
  obtain ⟨s₉,run₉,_⟩ := run₈.finish true first₈
  exact ⟨_,s₉,run₉,rfl,by simp,by simp⟩

end sample

/-- Concurrent calls of any number of rate limiters, with any times. Every call that returns has
made one update, and its answer is that of the update. In the order of the updates, the n-th
call for a key is allowed exactly if, from each earlier call for the key on, the calls that were
allowed and this one are no more than the burst and the refill since then. -/
theorem limiter_is_token_bucket {τ ι : Type} [DecidableEq τ] [DecidableEq ι] (rate : ℚ) (burst : Int)
    (refills : 0 < rate) (enough : 1 ≤ burst)
    (calls : ι → Call τ) : ∃ limiter, newRateLimiter ⟨rate,burst⟩ = .ok limiter ∧
    ∀ history system, Run Served (fun _ _ => False) (fun i => allow (calls i).limiter (calls i).key (calls i).now)
        (.initial fun _ => limiter) history system →
      ((updates history).map Prod.fst).Nodup ∧
      (∀ i allowed, .returned i allowed ∈ history → (i,allowed) ∈ updates history) ∧
      ∀ name key n verdict, (tally calls (updates history) name key)[n]? = some verdict →
        (verdict.allowed = true ↔ ∀ k first, k ≤ n → (tally calls (updates history) name key)[k]? = some first →
          ((((tally calls (updates history) name key).take n).drop k).countP Verdict.allowed : ℚ) + 1 ≤
            burst + rate * (verdict.time - first.time)) := by
  refine ⟨_,newRateLimiter_ok.mpr ⟨refills,enough,rfl⟩,?_⟩
  intro history system run
  have limits : Limits calls (fun _ => id) fun i => allow (calls i).limiter (calls i).key (calls i).now := by
    intro i
    exact Or.inr (bind_done _).symm
  have orderly := run_orderly limits (by exact_mod_cast enough) (fun _ => rfl) run
  refine ⟨orderly.once,?_,?_⟩
  · intro i allowed returned
    rcases orderly.answered returned with ⟨_,rfl,update⟩ | immediate
    · exact update
    · cases immediate
  · intro name key n verdict last
    exact (orderly.balanced.conforms name key).allowed_iff last

theorem concurrent_first_calls_share : ∃ history system, Newcomers history system ∧
    .returned true true ∈ history ∧ .returned false false ∈ history ∧
    tally newcomers (updates history) () [107] = [⟨0,true⟩,⟨0,false⟩] ∧
    ∃ k first, k ≤ 1 ∧ ([⟨0,true⟩,⟨0,false⟩] : List Verdict)[k]? = some first ∧
      ¬(((([⟨0,true⟩,⟨0,false⟩] : List Verdict).take 1).drop k).countP Verdict.allowed : ℚ) + 1 ≤
        1 + 1 * (0 - first.time) := by
  obtain ⟨history,system,run,order,first,second⟩ := newcomers_race
  obtain ⟨limiter,made,runs⟩ := limiter_is_token_bucket 1 1 one_pos (le_refl 1) newcomers
  obtain ⟨_,_,rfl⟩ := newRateLimiter_ok.mp made
  simp only [Int.cast_one] at runs
  obtain ⟨_,_,decided⟩ := runs history system run
  have shown : tally newcomers (updates history) () [107] = [⟨0,true⟩,⟨0,false⟩] := by
    rw [order]
    rfl
  have refused := decided () [107] 1 ⟨0,false⟩ (by rw [shown]; rfl)
  rw [shown] at refused
  have exceeded := mt refused.mpr (by decide)
  push Not at exceeded
  obtain ⟨k,earlier,within,opens,short⟩ := exceeded
  exact ⟨history,system,run,first,second,shown,k,earlier,within,opens,not_le.mpr short⟩

end ControlPlane.Api
