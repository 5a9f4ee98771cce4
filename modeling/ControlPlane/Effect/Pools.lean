import ControlPlane.Effect.Layers
import ControlPlane.Effect.Threads

/-! Threads that borrow objects from shared pools. An object is taken from its pool, or made, and
put back when its contents are clean; the collector may drop what is in a pool. A thread that loads
and stores only what it has borrowed cannot notice the pools: what it does otherwise, it does as a
program without them. -/
namespace Effect.Pools
open Program Interleaving

inductive PoolOp {Kind : Type} (Content : Kind → Type) where
  | get (kind : Kind)
  | load (object : Kind × Nat)
  | store (object : Kind × Nat) (value : Content object.1)
  | put (object : Kind × Nat)

def PoolReply {Kind : Type} (Content : Kind → Type) : PoolOp Content → Type
  | .get _ => Nat
  | .load object => Content object.1
  | .store _ _ => Unit
  | .put _ => Unit

variable {Kind Op σ α β ι : Type} {Content : Kind → Type} {Reply : Op → Type}

abbrev Borrowing (Content : Kind → Type) (Reply : Op → Type) (α : Type) :=
  Program (Extended Reply (PoolReply Content)) α

structure Heap (Content : Kind → Type) where
  contents : (object : Kind × Nat) → Content object.1
  free : Set (Kind × Nat)
  used : Set (Kind × Nat)

variable [DecidableEq Kind]

section semantics
variable (fresh : (kind : Kind) → Content kind) (env : Environment σ Reply)

inductive Answers (s : σ × Heap Content) : (op : Op ⊕ PoolOp Content) →
    Extended Reply (PoolReply Content) op → σ × Heap Content → Prop
  | passed (op : Op) (reply : Reply op) (state : σ) (answered : env s.1 op reply state) :
    Answers s (.inl op) reply (state,s.2)
  | reused (kind : Kind) (ref : Nat) (pooled : (kind,ref) ∈ s.2.free) :
      Answers s (.inr (.get kind)) ref (s.1,{s.2 with free := s.2.free \ {(kind,ref)}})
  | made (kind : Kind) (ref : Nat) (unused : (kind,ref) ∉ s.2.used) :
      Answers s (.inr (.get kind)) ref
        (s.1,⟨Function.update s.2.contents (kind,ref) (fresh kind),s.2.free,insert (kind,ref) s.2.used⟩)
  | loaded (object : Kind × Nat) : Answers s (.inr (.load object)) (s.2.contents object) s
  | stored (object : Kind × Nat) (value : Content object.1) :
      Answers s (.inr (.store object value)) () (s.1,{s.2 with contents := Function.update s.2.contents object value})
  | put (object : Kind × Nat) : Answers s (.inr (.put object)) () (s.1,{s.2 with free := insert object s.2.free})

/-- The collector takes objects out of the pools. -/
def Collects (s t : σ × Heap Content) : Prop :=
  t.1 = s.1 ∧ t.2.contents = s.2.contents ∧ t.2.used = s.2.used ∧ t.2.free ⊆ s.2.free

end semantics

/-- What a thread has borrowed, with the contents. -/
abbrev Borrowed (Content : Kind → Type) := (object : Kind × Nat) → Option (Content object.1)

/-- With these objects borrowed, the program does what the plain one does, and ends with borrowed
objects as asked for. -/
inductive Simulates (clean : (kind : Kind) → Content kind → Prop) (ends : Borrowed Content → Prop) :
    Borrowed Content → Borrowing Content Reply α → Program Reply α → Prop
  | done {borrowed : Borrowed Content} (value : α) (ended : ends borrowed) : Simulates clean ends borrowed
      (.done value) (.done value)
  | passed {borrowed : Borrowed Content} (op : Op) (next : Reply op → Borrowing Content Reply α)
      (plain : Reply op → Program Reply α) (rest : ∀ reply, Simulates clean ends borrowed (next reply) (plain reply)) :
      Simulates clean ends borrowed (.call (.inl op) next) (.call op plain)
  | get {borrowed : Borrowed Content} {plain : Program Reply α} (kind : Kind) (next : Nat → Borrowing Content Reply α)
      (rest : ∀ ref value, borrowed (kind,ref) = none → clean kind value →
        Simulates clean ends (Function.update borrowed (kind,ref) (some value)) (next ref) plain) :
      Simulates clean ends borrowed (.call (.inr (.get kind)) next) plain
  | load {borrowed : Borrowed Content} {plain : Program Reply α} (object : Kind × Nat) (value : Content object.1)
      (next : Content object.1 → Borrowing Content Reply α) (own : borrowed object = some value)
      (rest : Simulates clean ends borrowed (next value) plain) :
      Simulates clean ends borrowed (.call (.inr (.load object)) next) plain
  | store {borrowed : Borrowed Content} {plain : Program Reply α} (object : Kind × Nat) (value old : Content object.1)
      (next : Unit → Borrowing Content Reply α) (own : borrowed object = some old)
      (rest : Simulates clean ends (Function.update borrowed object (some value)) (next ()) plain) :
      Simulates clean ends borrowed (.call (.inr (.store object value)) next) plain
  | put {borrowed : Borrowed Content} {plain : Program Reply α} (object : Kind × Nat) (value : Content object.1)
      (next : Unit → Borrowing Content Reply α) (own : borrowed object = some value) (cleaned : clean object.1 value)
      (rest : Simulates clean ends (Function.update borrowed object none) (next ()) plain) :
      Simulates clean ends borrowed (.call (.inr (.put object)) next) plain

section rules
variable {clean : (kind : Kind) → Content kind → Prop} {borrowed : Borrowed Content}

theorem Simulates.sequence {ends later : Borrowed Content → Prop} {program : Borrowing Content Reply α}
    {plain : Program Reply α} {next : α → Borrowing Content Reply β} {plainNext : α → Program Reply β}
    (first : Simulates clean ends borrowed program plain)
    (rest : ∀ borrowed value, ends borrowed → Simulates clean later borrowed (next value) (plainNext value)) :
    Simulates clean later borrowed (program >>= next) (plain >>= plainNext) := by
  induction first with
  | done value ended => exact rest _ value ended
  | passed op _ _ _ ih => exact .passed op _ _ ih
  | get kind _ _ ih => exact .get kind _ ih
  | load object value _ own _ ih => exact .load object value _ own ih
  | store object value old _ own _ ih => exact .store object value old _ own ih
  | put object value _ own clean _ ih => exact .put object value _ own clean ih

theorem Simulates.weaken {ends later : Borrowed Content → Prop} {program : Borrowing Content Reply α}
    {plain : Program Reply α} (simulates : Simulates clean ends borrowed program plain)
    (weaker : ∀ borrowed, ends borrowed → later borrowed) : Simulates clean later borrowed program plain := by
  induction simulates with
  | done value ended => exact .done value (weaker _ ended)
  | passed op _ _ _ ih => exact .passed op _ _ ih
  | get kind _ _ ih => exact .get kind _ ih
  | load object value _ own _ ih => exact .load object value _ own ih
  | store object value old _ own _ ih => exact .store object value old _ own ih
  | put object value _ own clean _ ih => exact .put object value _ own clean ih

def get (kind : Kind) : Borrowing Content Reply Nat := .call (.inr (.get kind)) .done

def load (object : Kind × Nat) : Borrowing Content Reply (Content object.1) := .call (.inr (.load object)) .done

def store (object : Kind × Nat) (value : Content object.1) : Borrowing Content Reply Unit :=
  .call (.inr (.store object value)) .done

def put (object : Kind × Nat) : Borrowing Content Reply Unit := .call (.inr (.put object)) .done

def pass (op : Op) : Borrowing Content Reply (Reply op) := .call (.inl op) .done

def giveBack (kind : Kind) (reset : Content kind → Content kind) (ref : Nat) (value : α) :
    Borrowing Content Reply α := do
  store (kind,ref) (reset (← load (kind,ref)))
  put (kind,ref)
  return value

/-- An object is borrowed, used, reset and put back. -/
def borrow (kind : Kind) (reset : Content kind → Content kind) (use : Nat → Borrowing Content Reply α) :
    Borrowing Content Reply α := do
  let ref ← get kind
  giveBack kind reset ref (← use ref)

theorem Simulates.giveBack {kind : Kind} {reset : Content kind → Content kind} {ref : Nat}
    (left : Content kind) (value : α) (resets : ∀ value, clean kind (reset value))
    (none : borrowed (kind,ref) = none) :
    Simulates clean (· = borrowed) (Function.update borrowed (kind,ref) (some left))
      (Pools.giveBack kind reset ref value) (.done value : Program Reply α) := by
  have own (value : Content kind) : Function.update borrowed (kind,ref) (some value) (kind,ref) = some value :=
    Function.update_self _ _ _
  refine .load (kind,ref) left _ (own left) ?_
  refine .store (kind,ref) (reset left) left _ (own left) ?_
  rw [Function.update_idem]
  refine .put (kind,ref) (reset left) _ (own _) (resets left) ?_
  rw [Function.update_idem,← none,Function.update_eq_self]
  exact .done value rfl

/-- The rule for a borrowed object: its use may change nothing else that is borrowed. -/
theorem Simulates.borrow {kind : Kind} {reset : Content kind → Content kind} {use : Nat → Borrowing Content Reply α}
    {plain : Program Reply α} (resets : ∀ value, clean kind (reset value))
    (used : ∀ ref value, borrowed (kind,ref) = none → clean kind value →
      Simulates clean (fun after => ∃ left : Content kind, after = Function.update borrowed (kind,ref) (some left))
        (Function.update borrowed (kind,ref) (some value)) (use ref) plain) :
    Simulates clean (· = borrowed) borrowed (Pools.borrow kind reset use) plain := by
  refine .get kind _ ?_
  intro ref value none clean
  rw [← bind_done plain]
  refine Simulates.sequence (used ref value none clean) ?_
  rintro _ result ⟨left,rfl⟩
  exact .giveBack left result resets none

/-- An object that is put back as it is left. -/
def borrowAsIs (kind : Kind) (use : Nat → Borrowing Content Reply α) : Borrowing Content Reply α := do
  let ref ← get kind
  let value ← use ref
  put (kind,ref)
  return value

theorem Simulates.borrowAsIs {kind : Kind} {use : Nat → Borrowing Content Reply α} {plain : Program Reply α}
    (any : ∀ value, clean kind value)
    (used : ∀ ref value, borrowed (kind,ref) = none →
      Simulates clean (fun after => ∃ left : Content kind, after = Function.update borrowed (kind,ref) (some left))
        (Function.update borrowed (kind,ref) (some value)) (use ref) plain) :
    Simulates clean (· = borrowed) borrowed (Pools.borrowAsIs kind use) plain := by
  refine .get kind _ ?_
  intro ref value none _
  rw [← bind_done plain]
  refine Simulates.sequence (used ref value none) ?_
  rintro _ result ⟨left,rfl⟩
  refine .put (kind,ref) left _ (Function.update_self _ _ _) (any left) ?_
  rw [Function.update_idem,← none,Function.update_eq_self]
  exact .done result rfl

end rules

def visible : List (Σ op, Extended Reply (PoolReply Content) op) → List (Σ op, Reply op) :=
  List.filterMap fun event => match event with
    | ⟨.inl op,reply⟩ => some ⟨op,reply⟩
    | ⟨.inr _,_⟩ => none

section threads
variable {clean : (kind : Kind) → Content kind → Prop} {ends : Borrowed Content → Prop}
  {fresh : (kind : Kind) → Content kind}
  {env : Environment σ Reply} {s t : σ × Heap Content} {locals : ι → Borrowed Content}

/-- No object is borrowed twice or in a pool while it is borrowed, and what is in a pool is clean. -/
structure Separate (clean : (kind : Kind) → Content kind → Prop) (heap : Heap Content) (locals : ι → Borrowed Content) :
    Prop where
  own : ∀ i object value, locals i object = some value →
    heap.contents object = value ∧ object ∈ heap.used ∧ object ∉ heap.free
  apart : ∀ i k object value other, locals i object = some value → locals k object = some other → i = k
  pooled : ∀ object ∈ heap.free, object ∈ heap.used ∧ clean object.1 (heap.contents object)

variable [DecidableEq ι] {i : ι}

omit [DecidableEq Kind] in
theorem update_cases {mine : Borrowed Content} {k : ι} {object : Kind × Nat} {value : Content object.1}
    (found : Function.update locals i mine k object = some value) :
    (k = i ∧ mine object = some value) ∨ (k ≠ i ∧ locals k object = some value) := by
  by_cases same : k = i
  · subst same
    rw [Function.update_self] at found
    exact Or.inl ⟨rfl,found⟩
  · rw [Function.update_of_ne same] at found
    exact Or.inr ⟨same,found⟩

theorem object_cases {borrowed : Borrowed Content} {object other : Kind × Nat} {entry : Option (Content object.1)}
    {value : Content other.1} (found : Function.update borrowed object entry other = some value) :
    (∃ same : other = object, entry = some (same ▸ value)) ∨ (other ≠ object ∧ borrowed other = some value) := by
  by_cases same : other = object
  · subst same
    rw [Function.update_self] at found
    exact Or.inl ⟨rfl,found⟩
  · rw [Function.update_of_ne same] at found
    exact Or.inr ⟨same,found⟩

/-- An operation on one object that no other thread has borrowed. -/
theorem Separate.change {heap after : Heap Content} {object : Kind × Nat} {entry : Option (Content object.1)}
    (separate : Separate clean heap locals) (mine : ∀ k, k ≠ i → locals k object = none)
    (contents : ∀ other, other ≠ object → after.contents other = heap.contents other) (used : heap.used ⊆ after.used)
    (free : ∀ other, other ≠ object → other ∈ after.free → other ∈ heap.free)
    (entered : ∀ value, entry = some value → after.contents object = value ∧ object ∈ after.used ∧ object ∉ after.free)
    (pooled : object ∈ after.free → object ∈ after.used ∧ clean object.1 (after.contents object)) :
    Separate clean after (Function.update locals i (Function.update (locals i) object entry)) := by
  have others (k : ι) (other : Kind × Nat) (value : Content other.1) (different : other ≠ object)
      (found : locals k other = some value) :
      after.contents other = value ∧ other ∈ after.used ∧ other ∉ after.free := by
    obtain ⟨same,inside,outside⟩ := separate.own k other value found
    exact ⟨(contents other different).trans same,used inside,fun back => outside (free other different back)⟩
  have elsewhere {k : ι} {other : Kind × Nat} {value : Content other.1} (different : k ≠ i)
      (found : locals k other = some value) : other ≠ object := by
    rintro rfl
    rw [mine k different] at found
    cases found
  refine ⟨?_,?_,?_⟩
  · intro k other value found
    rcases update_cases found with ⟨rfl,found⟩ | ⟨different,found⟩
    · rcases object_cases found with ⟨rfl,found⟩ | ⟨distinct,found⟩
      · exact entered value found
      · exact others k other value distinct found
    · exact others k other value (elsewhere different found) found
  · intro k l other value another first second
    rcases update_cases first with ⟨rfl,own⟩ | ⟨different,found⟩ <;>
      rcases update_cases second with ⟨rfl,own'⟩ | ⟨distinct,found'⟩
    · rfl
    · rcases object_cases own with ⟨rfl,_⟩ | ⟨_,kept⟩
      · exact absurd rfl (elsewhere distinct found')
      · exact separate.apart k l other value another kept found'
    · rcases object_cases own' with ⟨rfl,_⟩ | ⟨_,kept⟩
      · exact absurd rfl (elsewhere different found)
      · exact separate.apart k l other value another found kept
    · exact separate.apart k l other value another found found'
  · intro other member
    by_cases same : other = object
    · subst same
      exact pooled member
    · obtain ⟨inside,clean⟩ := separate.pooled other (free other same member)
      refine ⟨used inside,?_⟩
      rwa [contents other same]

omit [DecidableEq Kind] [DecidableEq ι] in
theorem Separate.unborrowed {heap : Heap Content} (separate : Separate clean heap locals) {object : Kind × Nat}
    (pooled : object ∈ heap.free ∨ object ∉ heap.used) (k : ι) : locals k object = none := by
  cases found : locals k object with
  | none => rfl
  | some value =>
    obtain ⟨_,inside,outside⟩ := separate.own k object value found
    exact (pooled.elim outside fun absent => absent inside).elim

omit [DecidableEq Kind] [DecidableEq ι] in
theorem Separate.others {heap : Heap Content} (separate : Separate clean heap locals) {object : Kind × Nat}
    {value : Content object.1} (own : locals i object = some value) (k : ι) (different : k ≠ i) :
    locals k object = none := by
  cases found : locals k object with
  | none => rfl
  | some other => exact absurd (separate.apart k i object other value found own) different

/-- Step lemma: a call of one thread keeps the threads apart, and the plain program follows it. -/
theorem separate_step (new : ∀ kind, clean kind (fresh kind)) (separate : Separate clean s.2 locals)
    {op : Op ⊕ PoolOp Content} {next : Extended Reply (PoolReply Content) op → Borrowing Content Reply α}
    {plain : Program Reply α} {reply : Extended Reply (PoolReply Content) op}
    (simulates : Simulates clean ends (locals i) (.call op next) plain) (answered : Answers fresh env s op reply t) :
    ∃ mine rest, Simulates clean ends mine (next reply) rest ∧ Separate clean t.2 (Function.update locals i mine) ∧
      ∀ later value, Trace rest later value → Trace plain (visible [⟨op,reply⟩] ++ later) value := by
  cases simulates with
  | passed op _ plain following =>
    cases answered with
    | passed _ _ state answered =>
      refine ⟨locals i,plain reply,following reply,?_,fun later value trace => ?_⟩
      · rwa [Function.update_eq_self]
      · exact @Trace.call Op Reply α op plain later value reply trace
  | get kind _ following =>
    cases answered with
    | reused _ _ pooled =>
      have absent := separate.unborrowed (Or.inl pooled)
      refine ⟨_,plain,following reply _ (absent i) (separate.pooled _ pooled).2,?_,fun _ _ trace => trace⟩
      refine separate.change (fun k _ => absent k) (fun _ _ => rfl) subset_rfl (fun _ _ member => member.1) ?_ ?_
      · rintro _ ⟨⟩
        exact ⟨rfl,(separate.pooled _ pooled).1,fun member => member.2 rfl⟩
      · exact fun member => absurd rfl member.2
    | made _ _ unused =>
      have absent := separate.unborrowed (Or.inr unused)
      refine ⟨_,plain,following reply _ (absent i) (new kind),?_,fun _ _ trace => trace⟩
      refine separate.change (fun k _ => absent k) (fun other different => Function.update_of_ne different _ _)
        (Set.subset_insert _ _) (fun _ _ member => member) ?_ ?_
      · rintro _ ⟨⟩
        exact ⟨Function.update_self _ _ _,Set.mem_insert _ _,fun member => unused (separate.pooled _ member).1⟩
      · exact fun member => absurd (separate.pooled _ member).1 unused
  | load object value _ own following =>
    cases answered with
    | loaded _ =>
      rw [(separate.own i object value own).1]
      refine ⟨locals i,plain,following,?_,fun _ _ trace => trace⟩
      rwa [Function.update_eq_self]
  | store object value old _ own following =>
    cases answered with
    | stored _ _ =>
      obtain ⟨_,inside,outside⟩ := separate.own i object old own
      refine ⟨_,plain,following,?_,fun _ _ trace => trace⟩
      refine separate.change (separate.others own) (fun other different => Function.update_of_ne different _ _)
        subset_rfl
        (fun _ _ member => member) ?_ (fun member => absurd member outside)
      rintro _ ⟨⟩
      exact ⟨Function.update_self _ _ _,inside,outside⟩
  | put object value _ own cleaned following =>
    cases answered with
    | put _ =>
      obtain ⟨same,inside,_⟩ := separate.own i object value own
      refine ⟨_,plain,following,?_,fun _ _ trace => trace⟩
      refine separate.change (separate.others own) (fun _ _ => rfl) subset_rfl
        (fun other different member => member.resolve_left different) nofun ?_
      intro _
      refine ⟨inside,?_⟩
      rw [same]
      exact cleaned

section runs
variable {programs : ι → Borrowing Content Reply α} {plains : ι → Program Reply α}
  {history : List (Event ι (Extended Reply (PoolReply Content)) α)}
  {system next : System (σ × Heap Content) ι (Extended Reply (PoolReply Content)) α}

/-- How far the plain program of a thread is when the thread has made its calls. -/
def Followed (clean : (kind : Kind) → Content kind → Prop) (ends : Borrowed Content → Prop) (plain : Program Reply α)
    (calls : List (Σ op, Extended Reply (PoolReply Content) op)) (borrowed : Borrowed Content) :
    Thread (Extended Reply (PoolReply Content)) α → Prop
  | .waiting => borrowed = (fun _ => none) ∧ calls = []
  | .running program => ∃ rest, Simulates clean ends borrowed program rest ∧
      ∀ later value, Trace rest later value → Trace plain (visible calls ++ later) value
  | .returned value => Trace plain (visible calls) value

omit [DecidableEq Kind] in
theorem visible_append (calls more : List (Σ op, Extended Reply (PoolReply Content) op)) :
    visible (calls ++ more) = visible calls ++ visible more := List.filterMap_append

theorem step_followed (new : ∀ kind, clean kind (fresh kind))
    (simulated : ∀ i, Simulates clean ends (fun _ => none) (programs i) (plains i))
    {event : Event ι (Extended Reply (PoolReply Content)) α} (separate : Separate clean system.shared.2 locals)
    (followed : ∀ i, Followed clean ends (plains i) (ownCalls i history) (locals i) (system.threads i))
    (step : Step (Answers fresh env) Collects programs system event next) :
    ∃ after, Separate clean next.shared.2 after ∧
      ∀ i, Followed clean ends (plains i) (ownCalls i (history ++ [event])) (after i) (next.threads i) := by
  simp only [ownCalls_snoc]
  cases step with
  | invoked k waiting =>
    refine ⟨locals,separate,?_⟩
    apply System.forall_set (P := fun i thread => Followed clean ends (plains i)
      (ownCalls i history ++ (ownCall i (.invoked k)).toList) (locals i) thread)
    · have before := followed k
      rw [waiting] at before
      obtain ⟨none,silent⟩ := before
      rw [silent,none]
      exact ⟨plains k,simulated k,fun _ _ trace => trace⟩
    · intro i _
      simpa [ownCall] using followed i
  | called k op rest reply shared running answered =>
    have before := followed k
    rw [running] at before
    obtain ⟨plain,simulates,traces⟩ := before
    obtain ⟨mine,left,goesOn,apart,steps⟩ := separate_step new separate simulates answered
    refine ⟨Function.update locals k mine,apart,?_⟩
    change ∀ i, Followed clean ends (plains i) (ownCalls i history ++ (ownCall i (.called k op reply)).toList)
      (Function.update locals k mine i) ((system.set k (.running (rest reply))).threads i)
    apply System.forall_set (P := fun i thread => Followed clean ends (plains i)
      (ownCalls i history ++ (ownCall i (.called k op reply)).toList) (Function.update locals k mine i) thread)
    · rw [Function.update_self]
      refine ⟨left,goesOn,?_⟩
      intro later value trace
      have whole := traces _ value (steps later value trace)
      simpa [ownCall,visible_append,List.append_assoc] using whole
    · intro i different
      rw [Function.update_of_ne different]
      simpa [ownCall,Ne.symm different] using followed i
  | returned k value ended =>
    refine ⟨locals,separate,?_⟩
    apply System.forall_set (P := fun i thread => Followed clean ends (plains i)
      (ownCalls i history ++ (ownCall i (.returned k value)).toList) (locals i) thread)
    · have before := followed k
      rw [ended] at before
      obtain ⟨plain,simulates,traces⟩ := before
      cases simulates with
      | done _ _ =>
        have whole := traces [] value (.done value)
        simpa [ownCall,Followed] using whole
    · intro i _
      simpa [ownCall] using followed i
  | outside shared collected =>
    obtain ⟨_,contents,used,free⟩ := collected
    refine ⟨locals,⟨?_,separate.apart,?_⟩,fun i => by simpa [ownCall] using followed i⟩
    · intro i object value found
      obtain ⟨same,inside,outside⟩ := separate.own i object value found
      exact ⟨contents ▸ same,used ▸ inside,fun member => outside (free member)⟩
    · intro object member
      obtain ⟨inside,cleaned⟩ := separate.pooled object (free member)
      exact ⟨used ▸ inside,contents ▸ cleaned⟩

/-- Run lemma: whatever the order of the threads' steps and whatever the collector takes, the
visible calls of a thread that has returned are an execution of its plain program. -/
theorem run_plain (new : ∀ kind, clean kind (fresh kind))
    (simulated : ∀ i, Simulates clean ends (fun _ => none) (programs i) (plains i)) {initial : σ × Heap Content}
    (pooled : ∀ object ∈ initial.2.free, object ∈ initial.2.used ∧ clean object.1 (initial.2.contents object))
    (run : Run (Answers fresh env) Collects programs (.initial initial) history system) {i : ι} {value : α}
    (returned : system.threads i = .returned value) : Trace (plains i) (visible (ownCalls i history)) value := by
  have followed : ∃ locals : ι → Borrowed Content, Separate clean system.shared.2 locals ∧
      ∀ i, Followed clean ends (plains i) (ownCalls i history) (locals i) (system.threads i) := by
    clear returned
    induction run with
    | start => exact ⟨fun _ _ => none,⟨nofun,nofun,pooled⟩,fun _ => ⟨rfl,rfl⟩⟩
    | step _ step ih =>
      obtain ⟨locals,separate,followed⟩ := ih
      exact step_followed new simulated separate followed step
  obtain ⟨locals,_,followed⟩ := followed
  have whole := followed i
  rwa [returned] at whole

end runs

end threads

end Effect.Pools
