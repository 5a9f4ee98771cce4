import Mathlib.Algebra.Order.Field.Basic
import Mathlib.Data.List.Infix
import Mathlib.Tactic.Linarith
import Mathlib.Tactic.Ring

/-! Token buckets. A bucket refills at a rate up to a burst and is drawn from, at times that
need not be in order. What it affords at a time is bounded by what was drawn from it since each
of the earlier draws, and by nothing else; so where the times are in order, no window of time
sees more than the burst and the refill over its length. -/
namespace Data.TokenBucket

structure Draw (K : Type) where
  time : K
  amount : K

structure Bucket (K : Type) where
  tokens : K
  lastRefill : K
  deriving DecidableEq, Repr

section opening
variable {K : Type} (window : List (Draw K)) (draw : Draw K) (now : K)

/-- When a window of draws begins. -/
def opening : K := (window.head?.map Draw.time).getD now

@[simp] theorem opening_nil : opening ([] : List (Draw K)) now = now := rfl

@[simp] theorem opening_snoc : opening (window ++ [draw]) now = opening window draw.time := by
  cases window <;> rfl

end opening

section drawn
variable {K : Type} [AddCommMonoid K]

def drawn (window : List (Draw K)) : K := (window.map Draw.amount).sum

@[simp] theorem drawn_nil : drawn ([] : List (Draw K)) = 0 := rfl

@[simp] theorem drawn_append (one other : List (Draw K)) : drawn (one ++ other) = drawn one + drawn other := by
  simp [drawn]

@[simp] theorem drawn_singleton (draw : Draw K) : drawn [draw] = draw.amount := by
  simp [drawn]

end drawn

section order
variable {K : Type} [LinearOrder K] {past : List (Draw K)} {start now : K}

/-- Draws in the order of their times. -/
def Sorted (past : List (Draw K)) : Prop := past.Pairwise fun one other => one.time ≤ other.time

theorem Sorted.filter_late (sorted : Sorted past) (start : K) :
    past.filter (fun draw => start ≤ draw.time) = past.dropWhile fun draw => draw.time < start := by
  induction past with
  | nil => rfl
  | cons first rest ih =>
    obtain ⟨before,sorted⟩ := List.pairwise_cons.mp sorted
    by_cases early : first.time < start
    · rw [List.dropWhile_cons_of_pos (by simpa using early),List.filter_cons_of_neg (by simpa using early)]
      exact ih sorted
    · rw [List.dropWhile_cons_of_neg (by simpa using early),List.filter_eq_self]
      intro draw member
      have late := not_lt.mp early
      rcases List.mem_cons.mp member with rfl | later
      · simpa using late
      · simpa using late.trans (before draw later)

theorem le_opening (within : ∀ draw ∈ past, start ≤ draw.time) (last : start ≤ now) : start ≤ opening past now := by
  cases past with
  | nil => exact last
  | cons first rest => exact within first List.mem_cons_self

end order

section bucket
variable {K : Type} [Field K] [LinearOrder K] (rate burst : K)

def Bucket.level (bucket : Bucket K) (now : K) : K := min burst (bucket.tokens + (now - bucket.lastRefill) * rate)

def Bucket.draw (bucket : Bucket K) (now amount : K) : Bucket K := ⟨bucket.level rate burst now - amount,now⟩

/-- The amount fits into every window of draws that ends now. -/
def Affords (past : List (Draw K)) (now amount : K) : Prop :=
  ∀ window, window <:+ past → drawn window + amount ≤ burst + rate * (now - opening window now)

/-- The bucket holds what its draws have left. -/
def Tracks (bucket : Bucket K) (past : List (Draw K)) : Prop :=
  ∀ now amount, amount ≤ bucket.level rate burst now ↔ Affords rate burst past now amount

/-- Every draw was afforded by those before it. -/
def Limited (past : List (Draw K)) : Prop :=
  ∀ before draw, before ++ [draw] <+: past → 0 < draw.amount → Affords rate burst before draw.time draw.amount

variable {rate burst} {bucket : Bucket K} {past : List (Draw K)}

theorem affords_nil {now amount : K} : Affords rate burst [] now amount ↔ amount ≤ burst := by
  simp [Affords]

theorem Limited.init {draw : Draw K} (limited : Limited rate burst (past ++ [draw])) : Limited rate burst past :=
  fun before last begins => limited before last (begins.trans (List.prefix_append _ _))

variable [IsStrictOrderedRing K]

theorem affords_snoc {draw : Draw K} {now amount : K} :
    Affords rate burst (past ++ [draw]) now amount ↔
      amount ≤ burst ∧ Affords rate burst past draw.time (draw.amount + amount - rate * (now - draw.time)) := by
  constructor
  · intro affords
    refine ⟨by simpa using affords [] List.nil_suffix,?_⟩
    intro window suffix
    have whole := affords (window ++ [draw]) (List.suffix_append_self_iff.mpr suffix)
    rw [drawn_append,drawn_singleton,opening_snoc] at whole
    linarith
  · rintro ⟨small,affords⟩ window suffix
    rcases List.suffix_concat_iff.mp suffix with rfl | ⟨rest,rfl,within⟩
    · simpa using small
    · have part := affords rest within
      rw [drawn_append,drawn_singleton,opening_snoc]
      linarith

theorem Tracks.draw (tracks : Tracks rate burst bucket past) (now amount : K) :
    Tracks rate burst (bucket.draw rate burst now amount) (past ++ [⟨now,amount⟩]) := by
  intro later more
  rw [affords_snoc,← tracks,Bucket.level,le_min_iff]
  refine and_congr_right fun _ => ?_
  change more ≤ bucket.level rate burst now - amount + (later - now) * rate ↔ _
  constructor <;> intro fits <;> linarith

/-- A bucket that is opened full, with its first draw. -/
theorem tracks_opened (now amount : K) : Tracks rate burst ⟨burst - amount,now⟩ [⟨now,amount⟩] := by
  intro later more
  rw [← List.nil_append [_],affords_snoc,affords_nil,Bucket.level,le_min_iff]
  refine and_congr_right fun _ => ?_
  constructor <;> intro fits <;> linarith

/-- Where the times are in order, a window of time sees at most the burst and the refill over its length. -/
theorem window_bounded (refills : 0 ≤ rate) (full : 0 ≤ burst) (limited : Limited rate burst past)
    (sorted : Sorted past) (start length : K) (forward : 0 ≤ length) :
    drawn (past.filter fun draw => start ≤ draw.time ∧ draw.time ≤ start + length) ≤ burst + rate * length := by
  induction past using List.reverseRecOn with
  | nil =>
    have refill := mul_nonneg refills forward
    simpa using add_nonneg full refill
  | append_singleton past draw ih =>
    obtain ⟨before,_,earlier⟩ := List.pairwise_append.mp sorted
    rw [List.filter_append,drawn_append]
    by_cases counted : (start ≤ draw.time ∧ draw.time ≤ start + length) ∧ 0 < draw.amount
    · obtain ⟨within,positive⟩ := counted
      -- The window of draws that begins with the first one in the window of time.
      have window : past.filter (fun other => start ≤ other.time ∧ other.time ≤ start + length) =
          past.dropWhile fun other => other.time < start := by
        rw [← Sorted.filter_late before start]
        refine List.filter_congr fun other member => ?_
        have inTime := (earlier other member draw List.mem_cons_self).trans within.2
        simp [inTime]
      have fits := limited past draw List.prefix_rfl positive _ (List.dropWhile_suffix fun other => other.time < start)
      rw [← window] at fits
      have opened : start ≤ opening (past.filter fun other => start ≤ other.time ∧ other.time ≤ start + length)
        draw.time := by
        refine le_opening (fun other member => ?_) within.1
        simpa using (of_decide_eq_true (List.mem_filter.mp member).2).1
      have spans := mul_le_mul_of_nonneg_left (sub_le_sub within.2 opened) refills
      rw [List.filter_cons_of_pos (by simpa using within),List.filter_nil,drawn_singleton]
      rw [add_sub_cancel_left] at spans
      linarith
    · have rest := ih limited.init before
      have nothing : drawn ([draw].filter fun other => start ≤ other.time ∧ other.time ≤ start + length) ≤ 0 := by
        by_cases within : start ≤ draw.time ∧ draw.time ≤ start + length
        · rw [List.filter_cons_of_pos (by simpa using within),List.filter_nil,drawn_singleton]
          exact not_lt.mp fun positive => counted ⟨within,positive⟩
        · rw [List.filter_cons_of_neg (by simpa using within)]
          exact le_refl 0
      exact (add_le_add rest nothing).trans_eq (add_zero _)

end bucket

end Data.TokenBucket
