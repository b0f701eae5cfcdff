/-
  TgCli.Ingress.Poll — THE WORKER'S POLL SCHEDULE

  `StreamPollSchedule` of `stream_ingress.cpp` over the 64-bit count of
  nanoseconds of `steady_clock`.  A signed operation whose exact result is not
  representable is undefined and gives `none`; unsigned operations wrap.

  Main result: `run_exact` — after any calls of `advance` the next poll is the
  least time of the progression that the calls allow, or the maximum.
-/
import Mathlib.Algebra.Order.Ring.Nat
import Mathlib.Data.List.Induction
import Mathlib.Order.Bounds.Basic

namespace TgCli.Ingress.Poll

open Option

/-! ## §1. The code. -/

/-- A count that `Clock::duration::rep` can hold. -/
def PollRep : Type := { count : Int // -2 ^ 63 ≤ count ∧ count < 2 ^ 63 }

/-- `kStreamWorkerPollInterval`, 2 ms. -/
def interval : Nat := 2000000

def signed (n : Int) : Option Int := if -2 ^ 63 ≤ n ∧ n < 2 ^ 63 then some n else none

/-- The cast to `PollUnsignedRep`. -/
def unsigned (n : Int) : Nat := (n % 2 ^ 64).toNat

/-- The cast back to `PollRep`. -/
def toSigned (n : Nat) : Int := if n < 2 ^ 63 then n else n - 2 ^ 64

def magnitude (value : Int) : Option Nat :=
  if 0 ≤ value then some (unsigned value)
  else do
    let next ← signed (value + 1)
    let negated ← signed (-next)
    some (unsigned (unsigned negated + 1))

def distance (lower upper : Int) : Option Nat :=
  if 0 ≤ lower then some (unsigned (unsigned upper - unsigned lower))
  else if upper < 0 then do
    let low ← magnitude lower
    let high ← magnitude upper
    some (unsigned (low - high))
  else do
    let low ← magnitude lower
    some (unsigned (low + unsigned upper))

def addNonnegative (base : Int) (delta : Nat) : Option Int :=
  if 0 ≤ base then some (toSigned (unsigned (unsigned base + delta)))
  else do
    let baseMagnitude ← magnitude base
    if delta < baseMagnitude then
      let resultMagnitude := unsigned (baseMagnitude - delta)
      let least ← magnitude (-2 ^ 63)
      if resultMagnitude = least then some (-2 ^ 63) else signed (-toSigned resultMagnitude)
    else some (toSigned (unsigned (delta - baseMagnitude)))

def saturatingAdd (base : Int) (increment : Nat) : Option Int := do
  let room ← distance base (2 ^ 63 - 1)
  if room < increment then some (2 ^ 63 - 1) else addNonnegative base increment

def advance (nextPoll now : Int) : Option Int :=
  if now < nextPoll ∨ nextPoll = 2 ^ 63 - 1 then some nextPoll
  else do
    let elapsed ← distance nextPoll now
    let skipped := unsigned (elapsed / interval + 1)
    let room ← distance nextPoll (2 ^ 63 - 1)
    if room / interval < skipped then some (2 ^ 63 - 1)
    else addNonnegative nextPoll (unsigned (skipped * interval))

/-- The schedule made at `start`, after `advance` at each of the times. -/
def run (start : PollRep) (times : List PollRep) : Option Int := do
  let first ← saturatingAdd start.val interval
  times.foldlM (fun nextPoll now => advance nextPoll now.val) first

/-! ## §2. The purpose. -/

/-- A time of the progression. -/
def Member (start time : Int) : Prop := ∃ k : Nat, 1 ≤ k ∧ time = start + k * interval

/-- The polls without a bound on the clock: after `now` comes the least member
that is later than `now` and not before the last one. -/
inductive Polls (start : Int) : List PollRep → Int → Prop
  | first : Polls start [] (start + interval)
  | advance {times : List PollRep} {before next : Int} {now : PollRep} :
      Polls start times before →
      IsLeast { time | Member start time ∧ now.val < time ∧ before ≤ time } next →
      Polls start (times ++ [now]) next

/-! ## §3. The helpers in exact numbers. -/

section Helpers

variable {value lower upper base : Int} {delta : Nat}

theorem signed_eq (hlow : -2 ^ 63 ≤ value) (hhigh : value < 2 ^ 63) : signed value = some value :=
  if_pos ⟨hlow, hhigh⟩

theorem unsigned_eq (hlow : 0 ≤ value) (hhigh : value < 2 ^ 64) :
    (unsigned value : Int) = value := by
  unfold unsigned
  omega

theorem toSigned_unsigned (hlow : 0 ≤ value) (hhigh : value < 2 ^ 63) :
    toSigned (unsigned value) = value := by
  have heq := unsigned_eq hlow (by omega)
  unfold toSigned
  omega

theorem magnitude_eq (hlow : -2 ^ 63 ≤ value) (hhigh : value < 2 ^ 63) :
    magnitude value = some value.natAbs := by
  unfold magnitude
  split
  · simp only [unsigned, some.injEq]
    omega
  · simp only [signed_eq (show -2 ^ 63 ≤ value + 1 by omega) (by omega), bind_eq_bind, bind_some,
      signed_eq (show -2 ^ 63 ≤ -(value + 1) by omega) (by omega), unsigned, some.injEq]
    omega

theorem distance_eq (hlow : -2 ^ 63 ≤ lower) (hle : lower ≤ upper) (hhigh : upper < 2 ^ 63) :
    distance lower upper = some (upper - lower).toNat := by
  unfold distance
  -- both counts on one side of zero, or one on each
  rw [magnitude_eq hlow (by omega), magnitude_eq (by omega) hhigh]
  split
  · simp only [unsigned, some.injEq]
    omega
  · split <;> simp only [unsigned, bind_eq_bind, bind_some, some.injEq] <;> omega

theorem addNonnegative_eq (hlow : -2 ^ 63 ≤ base) (hhigh : base + delta < 2 ^ 63) :
    addNonnegative base delta = some (base + delta) := by
  have hleast : magnitude (-2 ^ 63) = some (2 ^ 63) := rfl
  unfold addNonnegative
  rw [magnitude_eq hlow (by omega), hleast]
  split
  · next hbase =>
    rw [unsigned_eq hbase (by omega), toSigned_unsigned (by omega) hhigh]
  · simp only [bind_eq_bind, bind_some]
    split
    · -- the sum is negative: its magnitude is taken back, the least count apart
      have hresult := unsigned_eq (show 0 ≤ (base.natAbs - delta : Int) by omega) (by omega)
      split
      · rw [some.injEq]
        omega
      · rw [toSigned_unsigned (by omega) (by omega), signed_eq (by omega) (by omega), some.injEq]
        omega
    · rw [toSigned_unsigned (by omega) (by omega), some.injEq]
      omega

end Helpers

/-! ## §4. One call. -/

/-- The least member after `now` that is not before `before`. -/
def following (before now : Int) : Int :=
  if now < before then before else before + ((now - before) / interval + 1) * interval

theorem following_isLeast {start before now : Int} (h : Member start before) :
    IsLeast { time | Member start time ∧ now < time ∧ before ≤ time } (following before now) := by
  obtain ⟨k, hk, rfl⟩ := h
  unfold following
  split
  · next hlater => exact ⟨⟨⟨k, hk, rfl⟩, hlater, le_rfl⟩, fun _ ht => ht.2.2⟩
  · next hpast =>
    refine ⟨⟨⟨k + ((now - (start + k * interval)) / interval + 1).toNat, by omega, ?_⟩, ?_, ?_⟩, ?_⟩
    rotate_right
    · rintro time ⟨⟨j, -, rfl⟩, hnow, -⟩
      unfold interval at *
      omega
    all_goals
      unfold interval at *
      omega

/-- `advance` is the next member, capped at the maximum. -/
theorem advance_eq {before : Int} (now : PollRep) (hlow : -2 ^ 63 ≤ before) :
    advance (min before (2 ^ 63 - 1)) now.val
      = some (min (following before now.val) (2 ^ 63 - 1)) := by
  obtain ⟨now, hnowLow, hnowHigh⟩ := now
  dsimp only
  unfold advance following interval
  by_cases hsat : 2 ^ 63 - 1 ≤ before
  · rw [if_pos (.inr (min_eq_right hsat)), some.injEq]
    omega
  rw [min_eq_left (by omega)]
  by_cases hlater : now < before
  · rw [if_pos (.inl hlater), if_pos hlater, min_eq_left (by omega)]
  rw [if_neg (by omega), if_neg hlater, distance_eq hlow (by omega) hnowHigh,
    distance_eq hlow (by omega) (by omega)]
  have helapsed : ((now - before).toNat : Int) = now - before := Int.toNat_of_nonneg (by omega)
  have hskipped := unsigned_eq (show 0 ≤ (now - before) / (2000000 : Nat) + 1 by omega) (by omega)
  simp only [bind_eq_bind, bind_some, helapsed]
  -- the code compares the room in whole intervals with the intervals it skips
  split
  · rw [min_eq_right (by omega)]
  · have hdelta := unsigned_eq (show 0 ≤ ((now - before) / (2000000 : Nat) + 1) * (2000000 : Nat) by
      omega) (by omega)
    rw [hskipped, addNonnegative_eq hlow (by omega), hdelta, min_eq_left (by omega)]

/-! ## §5. Whole runs. -/

theorem Polls.member {start time : Int} {times : List PollRep} (h : Polls start times time) :
    Member start time := by
  cases h with
  | first => exact ⟨1, le_rfl, by simp⟩
  | advance _ hleast => exact hleast.1.1

/-- **The poll schedule is exact.**  No operation of a run overflows; the next
poll is the ideal one where the clock can represent it, else the maximum. -/
theorem run_exact (start : PollRep) (times : List PollRep) :
    ∃ ideal, Polls start.val times ideal ∧ run start times = some (min ideal (2 ^ 63 - 1)) := by
  obtain ⟨hlow, hhigh⟩ := start.2
  induction times using List.reverseRecOn with
  | nil =>
    refine ⟨_, .first, ?_⟩
    simp only [run, saturatingAdd, distance_eq hlow (Int.le_sub_one_of_lt hhigh) (by omega),
      bind_eq_bind, bind_some, List.foldlM_nil, pure_def, bind_fun_some]
    split
    · rw [min_eq_right (by omega)]
    · rw [addNonnegative_eq hlow (by omega), min_eq_left (by omega)]
  | append_singleton times now ih =>
    obtain ⟨before, hpolls, hrun⟩ := ih
    obtain ⟨k, -, hk⟩ := hpolls.member
    refine ⟨_, .advance hpolls (following_isLeast hpolls.member), ?_⟩
    rw [← advance_eq now (by unfold interval at hk; omega)]
    obtain ⟨first, hfirst, hfold⟩ := bind_eq_some_iff.mp hrun
    simp [run, hfirst, hfold, List.foldlM_append]

end TgCli.Ingress.Poll
