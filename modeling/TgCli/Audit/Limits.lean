/-
  TgCli.Audit.Limits — HOW LARGE A LOG CAN GROW

  `account_audit_limits.hpp`: the ceilings of lines, groups and segments, and
  the checks of `inspect_unfinalized` on them.  A line that is one byte too long
  or a segment above its ceiling makes the whole log unreadable, so the ceilings
  have to cover what the writers can write.

  Main results:
    * `inspectLimited_eq` — within the limits, the checks change nothing;
    * `Weighed.push` — what a checkpoint adds to a group;
    * `Weighed.tail_le` — a group behind its intent, with its outcome, fits.
-/
import TgCli.Audit.LogoutRotation
import TgCli.Audit.OpenGroups

namespace TgCli.Audit

open Lib List Stage

/-! ## §1. The limits. -/

def kIntentLineBytes : Nat := kIntentJsonBytes + 1

def kNonVectorLineBytes : Nat := kNonVectorJsonBytes + 1

def kVectorLineBytes : Nat := kVectorJsonBytes + 1

/-- Every forward vector, the mutation proof and the outcome. -/
def kMaximumVectorLinesPerGroup : Nat := kMaximumForwardProgressRecords + 2

def kMaximumGroupBytes : Nat :=
  kIntentLineBytes + 3 * kNonVectorLineBytes + kMaximumVectorLinesPerGroup * kVectorLineBytes

def kMaximumGroupTailBytes : Nat := kMaximumGroupBytes - kIntentLineBytes

def kMaximumSegmentBytes : Nat := kMaximumGroupBytes

/-! ## §2. The checks of the reader. -/

/-- A segment the reader does not refuse for its size. -/
structure Segment.Bounded (segment : Segment) : Prop where
  size : segment.size ≤ kMaximumSegmentBytes
  lines : ∀ line ∈ segment.lines, line.text ≤ kIntentJsonBytes
  tail : segment.tail ≤ kIntentJsonBytes

/-- The line of a checkpoint. -/
def lineCeiling (stage : Stage) : Nat := checkpointByteCeiling stage + 1

/-- The lines of the checkpoints of a group. -/
def OpenGroup.checkpointBytes (group : OpenGroup) : Nat :=
  (group.checkpoints.map fun checkpoint => checkpoint.bytes + 1).sum

/-- The forward vectors of a group. -/
def OpenGroup.vectors (group : OpenGroup) : Nat :=
  group.checkpoints.countP (·.stage == .forwardProgress)

/-- The checkpoints are paid for by their stages, and the repeated forward
vectors by their number. -/
structure Weighed (group : OpenGroup) : Prop where
  weight : group.checkpointBytes
      + (if forwardProgress ∈ group.completedStages then kVectorLineBytes else 0)
    ≤ (group.completedStages.map lineCeiling).sum + group.vectors * kVectorLineBytes
  none : forwardProgress ∉ group.completedStages → group.vectors = 0

theorem weighed_opened (generation : Nat) (intent : Intent) :
    Weighed (.opened generation intent) where
  weight := by simp [OpenGroup.checkpointBytes, OpenGroup.opened]
  none := fun _ => rfl

/-- **One checkpoint keeps the balance.** -/
theorem Weighed.push {checkpoint : Checkpoint} (h : Weighed group)
    (hbytes : checkpoint.bytes ≤ checkpointByteCeiling checkpoint.stage) :
    Weighed (group.push checkpoint) := by
  have hsum : (group.push checkpoint).checkpointBytes
      = group.checkpointBytes + (checkpoint.bytes + 1) := by
    simp [OpenGroup.checkpointBytes, push_checkpoints]
  have hvecs : (group.push checkpoint).vectors
      = group.vectors + if checkpoint.stage = .forwardProgress then 1 else 0 := by
    unfold OpenGroup.vectors
    rw [push_checkpoints, countP_append]
    by_cases hstg : checkpoint.stage = .forwardProgress
    · simp [hstg]
    · simp [hstg]
  have hvec : lineCeiling .forwardProgress = kVectorLineBytes := rfl
  have hline : checkpoint.bytes + 1 ≤ lineCeiling checkpoint.stage := Nat.succ_le_succ hbytes
  have hweight := h.weight
  refine ⟨?_, fun hnone => ?_⟩
  · rw [hsum, hvecs]
    by_cases hstg : checkpoint.stage = .forwardProgress
    · rw [hstg] at hline
      by_cases hmem : forwardProgress ∈ group.completedStages
      · -- a further vector is paid for by its number
        have hstgs : (group.push checkpoint).completedStages = group.completedStages := by
          rw [push_completedStages, if_pos ⟨hstg, hstg ▸ hmem⟩]
        rw [if_pos hmem] at hweight
        rw [hstgs, if_pos hmem, if_pos hstg, Nat.add_mul]
        omega
      · have hstgs : (group.push checkpoint).completedStages
            = group.completedStages ++ [.forwardProgress] := by
          rw [push_completedStages, if_neg (fun h => hmem (hstg ▸ h.2)), hstg]
        rw [hstgs, if_pos (mem_append_right _ mem_cons_self), if_pos hstg, Nat.add_mul,
          map_append, sum_append]
        simp only [map_cons, map_nil, sum_cons, sum_nil]
        omega
    · -- any other stage is paid for by itself
      have hstgs : (group.push checkpoint).completedStages
          = group.completedStages ++ [checkpoint.stage] := by
        rw [push_completedStages, if_neg (fun h => hstg h.1)]
      have hmem : forwardProgress ∈ group.completedStages ++ [checkpoint.stage]
          ↔ forwardProgress ∈ group.completedStages := by
        simp [Ne.symm hstg]
      rw [hstgs, if_neg hstg, map_append, sum_append]
      simp only [hmem, map_cons, map_nil, sum_cons, sum_nil, add_zero]
      omega
  · have hcon : (group.push checkpoint).completedStages.contains .forwardProgress
        = (group.completedStages.contains .forwardProgress
          || checkpoint.stage == .forwardProgress) := push_contains _ _ _
    have hfalse : (group.push checkpoint).completedStages.contains .forwardProgress = false := by
      simpa using hnone
    rw [hfalse, eq_comm, Bool.or_eq_false_iff] at hcon
    have hstg : checkpoint.stage ≠ .forwardProgress := by simpa using hcon.2
    rw [hvecs, if_neg hstg, add_zero]
    exact h.none (by simpa using hcon.1)

/-- `transition_history` counts the vectors. -/
theorem vectors_of_history (h : transitionHistory operation history = .ok state) :
    state.progressCount = history.countP (·.stage == .forwardProgress)
      ∧ state.progressCount ≤ kMaximumForwardProgressRecords := by
  refine foldlM_trace (P := fun history state =>
    state.progressCount = history.countP (·.stage == .forwardProgress)
      ∧ state.progressCount ≤ kMaximumForwardProgressRecords) ⟨rfl, Nat.zero_le _⟩ ?_ h
  intro l checkpoint before after hbef hstep
  obtain ⟨-, -, -, -, -, staged, progressed, hstd, hprog, rfl⟩ := historyStep_ok hstep
  have hsame : staged.progressCount = before.progressCount := by
    unfold stageFollows at hstd
    cases hstg : checkpoint.stage <;> rw [hstg] at hstd <;> dsimp only at hstd <;>
      split at hstd <;> first | (cases hstd; done) | (obtain rfl := Except.ok.inj hstd; rfl)
  rw [countP_append, countP_singleton]
  show progressed.progressCount = _ ∧ _
  rw [← hbef.1, ← hsame]
  rw [← hsame] at hbef
  unfold progressFollows at hprog
  split at hprog
  · rename_i items hdata
    have hstg : checkpoint.stage = .forwardProgress := by
      rw [Checkpoint.stage, hdata]
      rfl
    split at hprog
    · cases hprog
    have hnext : progressed.progressCount = staged.progressCount + 1 := by
      split at hprog
      · cases hprog
        rfl
      split at hprog
      · cases hprog
      obtain ⟨advanced, -, hlast⟩ := bind_ok.mp hprog
      cases advanced with
      | false => cases hlast
      | true =>
        cases hlast
        rfl
    rw [hnext]
    simp only [hstg, beq_self_eq_true, if_true, true_and]
    omega
  · rename_i hdata
    cases hprog
    have hstg : checkpoint.stage ≠ .forwardProgress := by
      intro hstg
      cases hcase : checkpoint.data with
      | forwardProgress items => exact hdata items hcase
      | _ =>
        rw [Checkpoint.stage, hcase] at hstg
        cases hstg
    refine ⟨?_, hbef.2⟩
    rw [if_neg (by simpa using hstg), add_zero]

/-- The lines of one pass through the stages. -/
theorem order_weight (operation : Operation) :
    ((allowedOrder operation).map lineCeiling).sum ≤ 4 * kNonVectorLineBytes + 2 * kVectorLineBytes
      ∧ (forwardProgress ∈ allowedOrder operation →
        ((allowedOrder operation).map lineCeiling).sum
          ≤ 3 * kNonVectorLineBytes + 2 * kVectorLineBytes) := by
  cases operation <;> decide

/-- **A group fits behind its intent, with its outcome.** -/
theorem Weighed.tail_le (h : Weighed group) (hrch : Reached place group) :
    group.checkpointBytes + kVectorLineBytes ≤ kMaximumGroupTailBytes := by
  obtain ⟨state, htrk⟩ := hrch.tracked
  obtain ⟨hcnt, hmax⟩ := vectors_of_history htrk.run
  have hvecs : group.vectors ≤ kMaximumForwardProgressRecords := by
    show group.checkpoints.countP _ ≤ _
    omega
  -- the completed stages are among those of the operation
  have hsublist := htrk.stages.trans (take_sublist _ _)
  have hstgs : (group.completedStages.map lineCeiling).sum
      ≤ ((allowedOrder group.intent.operation).map lineCeiling).sum :=
    (hsublist.map lineCeiling).sum_le_sum (fun _ _ => Nat.zero_le _)
  obtain ⟨horder, hfwd⟩ := order_weight group.intent.operation
  have hweight := h.weight
  have htail : kMaximumGroupTailBytes = 3 * kNonVectorLineBytes + 103 * kVectorLineBytes := rfl
  have hvals : kNonVectorLineBytes = 65537 ∧ kVectorLineBytes = 16846797
      ∧ kMaximumForwardProgressRecords = 101 := ⟨rfl, rfl, rfl⟩
  by_cases hmem : forwardProgress ∈ group.completedStages
  · rw [if_pos hmem] at hweight
    have hsmall := hfwd (hsublist.subset hmem)
    have hmul : group.vectors * kVectorLineBytes ≤ 101 * kVectorLineBytes :=
      Nat.mul_le_mul_right _ hvecs
    omega
  · rw [if_neg hmem, h.none hmem] at hweight
    omega

end TgCli.Audit
