import ControlPlane.Data.TokenBucket
import ControlPlane.Effect.Program
import ControlPlane.Go.Values
import Mathlib.Data.Finmap

/-! The rate limiter of `internal/api`: one token bucket for each API key, made with the first
request, in shards by the hash of the key. Rates, tokens and times are exact numbers here, in
seconds. A limiter is named by its owner, of type `τ`; what is done under one lock is one call. -/
namespace ControlPlane.Api
open Go Effect Effect.Program Data.TokenBucket

structure RateLimitConfig where
  requestsPerSecond : ℚ
  burst : Int
  deriving DecidableEq, Repr

abbrev TokenBucket := Bucket ℚ

def TokenBucket.allow (bucket : TokenBucket) (rate burst now : ℚ) : Bool × TokenBucket :=
  let elapsed := now - bucket.lastRefill
  let tokens := min burst (bucket.tokens + elapsed * rate)
  if tokens < 1 then (false,⟨tokens,now⟩) else (true,⟨tokens - 1,now⟩)

def fnv32a (key : Bytes) : UInt32 :=
  key.foldl (fun hash byte => (hash ^^^ byte.toUInt32) * 16777619) 2166136261

def rateLimiterShardCount : Nat := 64

theorem shard_lt (hash : UInt32) : (hash &&& 63).toNat < rateLimiterShardCount := by
  rw [UInt32.toNat_and]
  exact Nat.lt_of_le_of_lt Nat.and_le_right (by decide)

def shardOf (key : Bytes) : Fin rateLimiterShardCount := ⟨(fnv32a key &&& 63).toNat,shard_lt (fnv32a key)⟩

-- A bucket is stored where its pointer says, and the shards hold the pointers.
structure RateLimiter where
  rate : ℚ
  burst : ℚ
  shards : Fin rateLimiterShardCount → Finmap fun _ : Bytes => Nat
  heap : List TokenBucket

def newRateLimiter (cfg : RateLimitConfig) : Except Error RateLimiter :=
  if cfg.requestsPerSecond ≤ 0 then
    .error (.errorf "rate limit requests per second must be positive, got %v" [.float cfg.requestsPerSecond])
  else if cfg.burst ≤ 0 then .error (.errorf "rate limit burst must be positive, got %v" [.int cfg.burst])
  else .ok ⟨cfg.requestsPerSecond,cfg.burst,fun _ => ∅,[]⟩

namespace RateLimiter

def lookup (limiter : RateLimiter) (key : Bytes) : Option Nat := (limiter.shards (shardOf key)).lookup key

-- The bucket starts with its first token spent.
def create (limiter : RateLimiter) (key : Bytes) (now : ℚ) : RateLimiter :=
  {limiter with
    shards := Function.update limiter.shards (shardOf key)
      ((limiter.shards (shardOf key)).insert key limiter.heap.length)
    heap := limiter.heap ++ [⟨limiter.burst - 1,now⟩]}

-- No pointer of a shard is without its bucket.
def bucketAllow (limiter : RateLimiter) (pointer : Nat) (now : ℚ) : Bool × RateLimiter :=
  match limiter.heap[pointer]? with
  | none => (false,limiter)
  | some bucket =>
    let (allowed,next) := bucket.allow limiter.rate limiter.burst now
    (allowed,{limiter with heap := limiter.heap.set pointer next})

end RateLimiter

section calls
variable {τ : Type}

/-- The sections under a lock: of a shard for reading, of a shard for writing, and of a bucket. -/
inductive LimiterOp (τ : Type) where
  | lookup (limiter : τ) (key : Bytes)
  | lookupOrCreate (limiter : τ) (key : Bytes) (now : ℚ)
  | bucketAllow (limiter : τ) (pointer : Nat) (now : ℚ)

def LimiterOp.Reply : LimiterOp τ → Type
  | .lookup .. => Option Nat
  | .lookupOrCreate .. => Option Nat
  | .bucketAllow .. => Bool

abbrev Limiting (τ α : Type) := Program (LimiterOp.Reply : LimiterOp τ → Type) α

def draw (limiter : τ) (now : ℚ) (pointer : Nat) : Limiting τ Bool :=
  perform (LimiterOp.bucketAllow limiter pointer now)

def allowLocked (limiter : τ) (key : Bytes) (now : ℚ) : Limiting τ Bool := do
  let found : Option Nat ← perform (LimiterOp.lookupOrCreate limiter key now)
  match found with
  | some pointer => draw limiter now pointer
  | none => return true

/-- `rateLimiter.allow`, with the time that it reads first. -/
def allow (limiter : τ) (key : Bytes) (now : ℚ) : Limiting τ Bool := do
  let found : Option Nat ← perform (LimiterOp.lookup limiter key)
  match found with
  | some pointer => draw limiter now pointer
  | none => allowLocked limiter key now

variable [DecidableEq τ]

def serve (memory : τ → RateLimiter) : (op : LimiterOp τ) → op.Reply × (τ → RateLimiter)
  | .lookup limiter key => ((memory limiter).lookup key,memory)
  | .lookupOrCreate limiter key now =>
    match (memory limiter).lookup key with
    | some pointer => (some pointer,memory)
    | none => (none,Function.update memory limiter ((memory limiter).create key now))
  | .bucketAllow limiter pointer now =>
    let (allowed,next) := (memory limiter).bucketAllow pointer now
    (allowed,Function.update memory limiter next)

def Served : Environment (τ → RateLimiter) (LimiterOp.Reply : LimiterOp τ → Type) := fun memory op reply next =>
  serve memory op = (reply,next)

end calls

section buckets

/-- The answer to one call for a key, and the time that the call read. -/
structure Verdict where
  time : ℚ
  allowed : Bool
  deriving DecidableEq, Repr

def Verdict.draw (verdict : Verdict) : Draw ℚ := ⟨verdict.time,if verdict.allowed then 1 else 0⟩

theorem bucket_allow (bucket : TokenBucket) (rate burst now : ℚ) :
    ((bucket.allow rate burst now).1 = true ↔ 1 ≤ bucket.level rate burst now) ∧
      (bucket.allow rate burst now).2 =
        bucket.draw rate burst now (Verdict.draw ⟨now,(bucket.allow rate burst now).1⟩).amount := by
  by_cases short : bucket.level rate burst now < 1
  · have answer : bucket.allow rate burst now = (false,⟨bucket.level rate burst now,now⟩) := if_pos short
    rw [answer]
    refine ⟨⟨nofun,fun enough => absurd short (not_lt.mpr enough)⟩,?_⟩
    simp [Verdict.draw,Bucket.draw]
  · have answer : bucket.allow rate burst now = (true,⟨bucket.level rate burst now - 1,now⟩) := if_neg short
    rw [answer]
    exact ⟨⟨fun _ => not_lt.mp short,fun _ => rfl⟩,rfl⟩

end buckets

section accounts
variable {rate burst : ℚ} {limiter : RateLimiter} {tally : Bytes → List Verdict} {key : Bytes} {pointer : Nat}

theorem newRateLimiter_ok {cfg : RateLimitConfig} : newRateLimiter cfg = .ok limiter ↔
    0 < cfg.requestsPerSecond ∧ 0 < cfg.burst ∧ limiter = ⟨cfg.requestsPerSecond,cfg.burst,fun _ => ∅,[]⟩ := by
  unfold newRateLimiter
  split_ifs with still closed
  · exact ⟨nofun,fun positive => absurd positive.1 (not_lt.mpr still)⟩
  · exact ⟨nofun,fun positive => absurd positive.2.1 (not_lt.mpr closed)⟩
  · rw [Except.ok.injEq,eq_comm]
    exact ⟨fun same => ⟨not_le.mp still,not_le.mp closed,same⟩,fun positive => positive.2.2⟩

theorem lookup_create (limiter : RateLimiter) (key other : Bytes) (now : ℚ) :
    (limiter.create key now).lookup other = if other = key then some limiter.heap.length else limiter.lookup other := by
  unfold RateLimiter.lookup RateLimiter.create
  by_cases same : other = key
  · subst same
    simp
  · rw [if_neg same]
    by_cases shard : shardOf other = shardOf key
    · simp only [shard,Function.update_self]
      exact Finmap.lookup_insert_of_ne _ same
    · simp only [Function.update_of_ne shard]

/-- The buckets of a limiter hold what the answers given for each key have left. -/
structure Accounts (rate burst : ℚ) (limiter : RateLimiter) (tally : Bytes → List Verdict) : Prop where
  sameRate : limiter.rate = rate
  sameBurst : limiter.burst = burst
  listed : ∀ key pointer, limiter.lookup key = some pointer → ∃ bucket, limiter.heap[pointer]? = some bucket ∧
    Tracks rate burst bucket ((tally key).map Verdict.draw)
  unlisted : ∀ key, limiter.lookup key = none → tally key = []
  apart : ∀ key other pointer, limiter.lookup key = some pointer → limiter.lookup other = some pointer → key = other

def record (tally : Bytes → List Verdict) (key : Bytes) (verdict : Verdict) : Bytes → List Verdict :=
  Function.update tally key (tally key ++ [verdict])

theorem new_accounts (rate burst : ℚ) : Accounts rate burst ⟨rate,burst,fun _ => ∅,[]⟩ fun _ => [] := by
  have missing (key : Bytes) : RateLimiter.lookup ⟨rate,burst,fun _ => ∅,[]⟩ key = none := Finmap.lookup_empty key
  refine ⟨rfl,rfl,?_,fun _ _ => rfl,?_⟩
  · intro key pointer found
    cases (missing key).symm.trans found
  · intro key other pointer found
    cases (missing key).symm.trans found

theorem Accounts.create (accounts : Accounts rate burst limiter tally) (missing : limiter.lookup key = none) (now : ℚ) :
    Accounts rate burst (limiter.create key now) (record tally key ⟨now,true⟩) := by
  have bounded (other : Bytes) (pointer : Nat) (found : limiter.lookup other = some pointer) :
    pointer < limiter.heap.length := by
    obtain ⟨bucket,stored,_⟩ := accounts.listed other pointer found
    exact (List.getElem?_eq_some_iff.mp stored).1
  refine ⟨accounts.sameRate,accounts.sameBurst,?_,?_,?_⟩
  · intro other pointer found
    rw [lookup_create] at found
    split at found
    · rename_i same
      cases found
      subst same
      refine ⟨⟨limiter.burst - 1,now⟩,by simp [RateLimiter.create],?_⟩
      rw [record,Function.update_self,accounts.unlisted _ missing,accounts.sameBurst]
      exact tracks_opened now 1
    · rename_i different
      obtain ⟨bucket,stored,tracks⟩ := accounts.listed other pointer found
      refine ⟨bucket,?_,?_⟩
      · exact (List.getElem?_append_left (bounded other pointer found)).trans stored
      · rwa [record,Function.update_of_ne different]
  · intro other absent
    rw [lookup_create] at absent
    split at absent
    · cases absent
    · rename_i different
      rw [record,Function.update_of_ne different]
      exact accounts.unlisted other absent
  · intro one other pointer first second
    rw [lookup_create] at first second
    split at first <;> split at second
    · simp_all
    · rename_i same different
      cases first
      exact absurd (bounded other _ second) (Nat.lt_irrefl _)
    · rename_i different same
      cases second
      exact absurd (bounded one _ first) (Nat.lt_irrefl _)
    · exact accounts.apart one other pointer first second

theorem Accounts.bucketAllow (accounts : Accounts rate burst limiter tally) (found : limiter.lookup key = some pointer)
    (now : ℚ) :
    Accounts rate burst (limiter.bucketAllow pointer now).2
      (record tally key ⟨now,(limiter.bucketAllow pointer now).1⟩) ∧
      ((limiter.bucketAllow pointer now).1 = true ↔ Affords rate burst ((tally key).map Verdict.draw) now 1) ∧
      (limiter.bucketAllow pointer now).2.lookup = limiter.lookup := by
  obtain ⟨bucket,stored,tracks⟩ := accounts.listed key pointer found
  obtain ⟨decides,drawn⟩ := bucket_allow bucket rate burst now
  have answer : limiter.bucketAllow pointer now = ((bucket.allow rate burst now).1,
      {limiter with heap := limiter.heap.set pointer (bucket.allow rate burst now).2}) := by
    unfold RateLimiter.bucketAllow
    rw [stored,accounts.sameRate,accounts.sameBurst]
  rw [answer]
  refine ⟨⟨accounts.sameRate,accounts.sameBurst,?_,?_,accounts.apart⟩,decides.trans (tracks now 1),rfl⟩
  · intro other target there
    by_cases same : other = key
    · subst same
      cases found.symm.trans there
      refine ⟨(bucket.allow rate burst now).2,?_,?_⟩
      · exact List.getElem?_set_self (List.getElem?_eq_some_iff.mp stored).1
      · rw [record,Function.update_self,List.map_append,drawn]
        exact tracks.draw now _
    · obtain ⟨own,kept,tracks⟩ := accounts.listed other target there
      have different : pointer ≠ target := by
        rintro rfl
        exact same (accounts.apart other key pointer there found)
      refine ⟨own,?_,?_⟩
      · exact (List.getElem?_set_ne different).trans kept
      · rwa [record,Function.update_of_ne same]
  · intro other absent
    have different : other ≠ key := by
      rintro rfl
      cases found.symm.trans absent
    rw [record,Function.update_of_ne different]
    exact accounts.unlisted other absent

end accounts

end ControlPlane.Api
