/-
  TgCli.Audit.Automaton — WHAT AN ACCEPTED LOG SAYS

  `consume_v2` (`account_audit.cpp`) takes the records of a log one by one.
  This file says what a sequence it accepted looks like as a whole: which
  groups it falls into, in which order a group's checkpoints stand, and what
  its outcome promises.

  Main results:
    * `Described.push` — one more checkpoint keeps the description of the group;
    * `sound_of_outcome` — an accepted outcome keeps its promises;
    * `automaton_sound` — the whole sequence.
-/
import TgCli.Audit.OpenGroups

namespace TgCli.Audit

open Lib List

/-! ## §1. Groups of records. -/

/-- An intent, its checkpoints, and the outcome of a closed group. -/
structure RecordGroup where
  intent : Intent
  checkpoints : List Checkpoint
  outcome : Option Outcome
deriving DecidableEq, Repr

def RecordGroup.records (group : RecordGroup) : List Record :=
  .intent group.intent :: group.checkpoints.map .checkpoint ++ group.outcome.toList.map .outcome

/-- The order of the checkpoints of one group. -/
structure Staged (checkpoints : List Checkpoint) : Prop where
  increasing : checkpoints.Pairwise fun earlier later => earlier.sequence < later.sequence
  oneDispatch : checkpoints.countP (·.stage == .dispatchStarted) ≤ 1
  /-- what observes the effect of a request stands behind its dispatch -/
  afterDispatch : ∀ before checkpoint after, checkpoints = before ++ checkpoint :: after →
    checkpoint.stage = .temporaryIdsObserved ∨ checkpoint.stage = .forwardProgress
      ∨ checkpoint.stage = .mutationConfirmed →
    ∃ earlier ∈ before, earlier.stage = .dispatchStarted
  proofLast : ∀ before checkpoint after, checkpoints = before ++ checkpoint :: after →
    checkpoint.stage = .mutationConfirmed → after = []

def neverDispatched (checkpoints : List Checkpoint) : Prop :=
  ∀ checkpoint ∈ checkpoints, checkpoint.stage ≠ .dispatchStarted

/-- The last checkpoint is a vector without effect: every item failed, and none
because its message was deleted before it was confirmed. -/
def EndsWithoutEffect (checkpoints : List Checkpoint) : Prop :=
  ∃ checkpoint items, checkpoints.getLast? = some checkpoint
    ∧ checkpoint.data = .forwardProgress items ∧ forwardVectorComplete items = true
    ∧ items.any (·.isSent) = false ∧ items.any (·.deletedBeforeConfirmation) = false

/-- What holds of every group of an accepted log. -/
structure RecordGroup.Sound (group : RecordGroup) : Prop where
  oneInvocation : ∀ record ∈ group.records, record.invocation = group.intent.invocation
    ∧ record.operation = group.intent.operation
  staged : Staged group.checkpoints
  /-- a success is proved, but for a mark-read with nothing to read -/
  proved : ∀ outcome ∈ group.outcome, outcome.success = true →
    (∃ checkpoint ∈ group.checkpoints, checkpoint.data = .mutationConfirmed outcome.terminal)
      ∨ (successfulMarkReadNoop outcome = true ∧ group.intent.operation = .chatMarkRead
        ∧ neverDispatched group.checkpoints)
  /-- no effect is claimed without a reason -/
  unmutated : ∀ outcome ∈ group.outcome, outcome.mutation = .none →
    neverDispatched group.checkpoints ∨ EndsWithoutEffect group.checkpoints
      ∨ terminalProvesNoMutation group.intent.operation outcome.terminal = true

/-! ## §2. One more checkpoint. -/

theorem append_singleton_split {α : Type} {l before after : List α} {a x : α}
    (h : l ++ [a] = before ++ x :: after) :
    (after = [] ∧ before = l ∧ x = a) ∨ ∃ rest, after = rest ++ [a] ∧ l = before ++ x :: rest := by
  rcases eq_nil_or_concat after with rfl | ⟨rest, last, rfl⟩
  · obtain ⟨rfl, hlast⟩ := append_inj' h rfl
    exact .inl ⟨rfl, rfl, (singleton_inj.mp hlast).symm⟩
  · rw [concat_eq_append] at h
    have hassoc : l ++ [a] = (before ++ x :: rest) ++ [last] := by rw [h]; simp
    obtain ⟨rfl, hlast⟩ := append_inj' hassoc rfl
    obtain rfl := singleton_inj.mp hlast
    exact .inr ⟨rest, by rw [concat_eq_append], rfl⟩

variable {checkpoint : Checkpoint} {group : OpenGroup} {place : LogPlace} {outcome : Outcome}

theorem Staged.push {checkpoints : List Checkpoint} (h : Staged checkpoints)
    (hseq : ∀ earlier ∈ checkpoints, earlier.sequence < checkpoint.sequence)
    (hdisp : checkpoint.stage = .dispatchStarted → neverDispatched checkpoints)
    (hafter : checkpoint.stage = .temporaryIdsObserved ∨ checkpoint.stage = .forwardProgress
      ∨ checkpoint.stage = .mutationConfirmed →
        ∃ earlier ∈ checkpoints, earlier.stage = .dispatchStarted)
    (hprf : ∀ earlier ∈ checkpoints, earlier.stage ≠ .mutationConfirmed) :
    Staged (checkpoints ++ [checkpoint]) where
  increasing := by
    refine pairwise_append.mpr ⟨h.increasing, pairwise_singleton _ _, ?_⟩
    intro earlier hearlier later hlater
    obtain rfl := mem_singleton.mp hlater
    exact hseq earlier hearlier
  oneDispatch := by
    rw [countP_append]
    by_cases hstg : checkpoint.stage = .dispatchStarted
    · have hnone : checkpoints.countP (·.stage == .dispatchStarted) = 0 := by
        refine countP_eq_zero.mpr fun earlier hearlier => ?_
        simpa using hdisp hstg earlier hearlier
      have hone : [checkpoint].countP (·.stage == .dispatchStarted) ≤ 1 := countP_le_length
      omega
    · have hnone : [checkpoint].countP (·.stage == .dispatchStarted) = 0 := by
        simp [hstg]
      have := h.oneDispatch
      omega
  afterDispatch := by
    intro before current after hsplit hstg
    rcases append_singleton_split hsplit with ⟨rfl, rfl, rfl⟩ | ⟨rest, rfl, hrest⟩
    · exact hafter hstg
    · exact h.afterDispatch before current rest hrest hstg
  proofLast := by
    intro before current after hsplit hstg
    rcases append_singleton_split hsplit with ⟨rfl, -⟩ | ⟨rest, rfl, hrest⟩
    · rfl
    · refine absurd hstg (hprf current ?_)
      rw [hrest]
      simp

/-- The checkpoints of an open group, described by its fields. -/
structure Described (group : OpenGroup) : Prop where
  staged : Staged group.checkpoints
  stages : ∀ stage, group.completedStages.contains stage
    = group.checkpoints.any (·.stage == stage)
  bounded : ∀ checkpoint ∈ group.checkpoints, checkpoint.sequence ≤ group.lastSequence
  same : ∀ checkpoint ∈ group.checkpoints, checkpoint.invocation = group.intent.invocation
    ∧ checkpoint.operation = group.intent.operation
  /-- behind a vector stand only vectors, until the proof -/
  vectorLast : ∀ items, group.finalForwardItems = some items → group.mutationConfirmed = false →
    ∃ checkpoint, group.checkpoints.getLast? = some checkpoint
      ∧ checkpoint.data = .forwardProgress items
  proof : ∀ terminal, group.mutationProof = some terminal →
    ∃ checkpoint ∈ group.checkpoints, checkpoint.data = .mutationConfirmed terminal

theorem described_opened (generation : Nat) (intent : Intent) :
    Described (.opened generation intent) where
  staged := ⟨List.Pairwise.nil, Nat.zero_le _, by simp [OpenGroup.opened],
    by simp [OpenGroup.opened]⟩
  stages := fun _ => rfl
  bounded := fun _ h => absurd h not_mem_nil
  same := fun _ h => absurd h not_mem_nil
  vectorLast := fun _ h => by cases h
  proof := fun _ h => by cases h

/-- A second dispatch is refused. -/
theorem stageFollows_dispatch (h : stageFollows operation state .dispatchStarted = .ok staged) :
    state.sawDispatch = false := by
  unfold stageFollows at h
  dsimp only at h
  split at h
  · cases h
  rename_i hguard
  simp only [Bool.or_eq_true, not_or, Bool.not_eq_true] at hguard
  exact hguard.1.1.1

/-- Behind a vector of a forward stand only vectors and the proof. -/
theorem stage_after_vector (htrk : Tracks group state)
    (hstep : historyStep group.intent.operation state checkpoint = .ok final)
    (hfwd : group.intent.operation = .msgForward)
    (hvec : Stage.forwardProgress ∈ group.completedStages) :
    checkpoint.stage = .forwardProgress ∨ checkpoint.stage = .mutationConfirmed := by
  obtain ⟨-, -, hallowed, hpos, -, -⟩ := historyStep_ok hstep
  have hstgs := htrk.stages.subset hvec
  have horder : allowedOrder .msgForward = [.idempotencyPending, .dispatchStarted,
      .temporaryIdsObserved, .forwardProgress, .mutationConfirmed] := rfl
  rw [hfwd, horder] at hpos hstgs hallowed
  -- the vector stands at position 3, and the position does not go back
  have hused : 4 ≤ usedPositions state.previousPosition := by
    by_contra hlt
    have hle : usedPositions state.previousPosition ≤ 3 := by omega
    have htake := (take_subset_take_left
      [Stage.idempotencyPending, .dispatchStarted, .temporaryIdsObserved, .forwardProgress,
        .mutationConfirmed] hle) hstgs
    exact absurd htake (by decide)
  cases hprev : state.previousPosition with
  | none =>
    rw [hprev] at hused
    exact absurd hused (by decide)
  | some previous =>
    rw [hprev] at hused
    have hle := hpos previous hprev
    have hthree := (Nat.le_of_succ_le_succ (show 3 + 1 ≤ previous + 1 from hused)).trans hle
    revert hthree hallowed
    cases checkpoint.stage <;> decide

/-- **One checkpoint keeps the description.** -/
theorem Described.push (h : Described group) (hrch : Reached place group)
    (hok : consumeCheckpoint group checkpoint = .ok group') : Described group' := by
  obtain ⟨-, hinvo, hop, -, ⟨final, hfin⟩, -, rfl⟩ := consumeCheckpoint_ok hok
  obtain ⟨state, htrk⟩ := hrch.tracked
  have hstep := htrk.step hfin
  obtain ⟨hseq, -, -, -, -, staged, -, hstd, -⟩ := historyStep_ok hstep
  obtain ⟨-, -, -, -, -, -, -, hlater⟩ := stageFollows_ok hstd
  have hprf := hrch.no_proof htrk hstep
  have hany {stage : Stage} (hstg : group.completedStages.contains stage = false) :
      ∀ earlier ∈ group.checkpoints, earlier.stage ≠ stage := by
    intro earlier hearlier heq
    have hnone := h.stages stage
    rw [hstg] at hnone
    have hmem := any_eq_false.mp hnone.symm earlier hearlier
    exact hmem (beq_iff_eq.mpr heq)
  refine ⟨?_, fun stage => ?_, ?_, ?_, ?_, ?_⟩
  · rw [push_checkpoints]
    refine h.staged.push (fun earlier hearlier => ?_) (fun hstg => ?_) (fun hstg => ?_) ?_
    · rw [htrk.sequence] at hseq
      exact lt_of_le_of_lt (h.bounded earlier hearlier) hseq
    · rw [hstg] at hstd
      apply hany
      rw [← htrk.dispatchStage, ← htrk.dispatch]
      exact stageFollows_dispatch hstd
    · have hdisp := htrk.dispatchStage
      rw [← htrk.dispatch, (hlater hstg).1, h.stages, eq_comm, any_eq_true] at hdisp
      obtain ⟨earlier, hearlier, hstrt⟩ := hdisp
      exact ⟨earlier, hearlier, beq_iff_eq.mp hstrt⟩
    · apply hany
      rw [← htrk.proofStage]
      exact hprf
  · rw [push_contains, h.stages, push_checkpoints, any_append]
    simp
  · rw [push_checkpoints, push_lastSequence]
    rw [htrk.sequence] at hseq
    exact forall_mem_append.mpr
      ⟨fun earlier hearlier => (h.bounded earlier hearlier).trans hseq.le,
        forall_mem_singleton.mpr le_rfl⟩
  · rw [push_checkpoints, push_intent]
    exact forall_mem_append.mpr
      ⟨h.same, forall_mem_singleton.mpr ⟨hinvo, hop⟩⟩
  · intro items hitems hconf
    rw [push_checkpoints]
    refine ⟨checkpoint, getLast?_concat, ?_⟩
    rw [push_finalForwardItems] at hitems
    -- a vector from before leaves no other stage than a vector
    cases hvec : checkpoint.data.vector with
    | some vector =>
      rw [hvec] at hitems
      cases hitems
      cases hdata : checkpoint.data <;> rw [hdata] at hvec <;> cases hvec
      rfl
    | none =>
      rw [hvec, Option.none_or] at hitems
      have hfwd := (hrch.vector items hitems).1
      have hmem : Stage.forwardProgress ∈ group.completedStages := by
        rw [← contains_iff_mem, ← hrch.progressStage, hitems]
        rfl
      rcases stage_after_vector htrk hstep hfwd hmem with hstg | hstg
      · cases hdata : checkpoint.data <;> rw [hdata] at hvec <;> cases hvec
        all_goals
          rw [Checkpoint.stage, hdata] at hstg
          cases hstg
      · rw [push_mutationConfirmed, hstg] at hconf
        simp at hconf
  · intro terminal hterm
    rw [push_mutationProof] at hterm
    rw [push_checkpoints]
    cases hcase : checkpoint.data.proof with
    | some proved =>
      rw [hcase] at hterm
      cases hterm
      refine ⟨checkpoint, mem_append_right _ (mem_singleton_self _), ?_⟩
      cases hdata : checkpoint.data <;> rw [hdata] at hcase <;> cases hcase
      rfl
    | none =>
      rw [hcase, Option.none_or] at hterm
      obtain ⟨earlier, hearlier, hdata⟩ := h.proof terminal hterm
      exact ⟨earlier, mem_append_left _ hearlier, hdata⟩

/-! ## §3. The outcome. -/

/-- What an accepted outcome passed. -/
theorem consumeOutcome_ok (h : consumeOutcome group outcome = .ok ()) :
    outcomeFieldsAgree outcome ∧ outcome.invocation = group.intent.invocation
      ∧ outcome.operation = group.intent.operation ∧ outcome.completed = group.completedStages
      ∧ (outcome.mutation = deriveMutationState group
        ∨ terminalProvesNoMutation group.intent.operation outcome.terminal)
      ∧ (group.mutationConfirmed → group.mutationProof = some outcome.terminal) := by
  obtain ⟨_, hval, h⟩ := bind_ok.mp h
  split at h
  · cases h
  rename_i hsame
  push Not at hsame
  have hfld : outcomeFieldsAgree outcome := by
    unfold validateOutcome at hval
    split at hval
    · cases hval
    split at hval
    · cases hval
    split at hval
    · cases hval
    split at hval
    · cases hval
    · rename_i hagree
      simpa using hagree
  unfold outcomeFits at h
  dsimp only at h
  split at h
  · cases h
  rename_i hcompl
  split at h
  · cases h
  rename_i hmut
  split at h
  · cases h
  split at h
  · cases h
  refine ⟨hfld, hsame.1.symm, hsame.2.symm, not_not.mp hcompl, ?_, fun hconf => ?_⟩
  · by_contra hneither
    push Not at hneither
    refine hmut ⟨hneither.1, ?_⟩
    rintro ⟨-, -, hprv⟩
    exact hneither.2 hprv
  · rw [if_pos hconf] at h
    split at h
    · cases h
    · rename_i hprf
      exact not_not.mp hprf

/-- A success carries a proof, or is a mark-read with nothing to read. -/
theorem proof_of_success (h : outcomeFieldsAgree outcome) (hsucc : outcome.success) :
    successfulMarkReadNoop outcome ∨ outcome.completed.contains .mutationConfirmed := by
  unfold outcomeFieldsAgree at h
  simp only [Bool.and_eq_true] at h
  have hproved := h.1.1.1.1.1.2
  rw [hsucc, Bool.true_and, Bool.not_eq_true', Bool.and_eq_false_iff] at hproved
  rcases hproved with hnoop | hprf
  · exact .inl (by simpa using hnoop)
  · rw [Bool.or_eq_false_iff] at hprf
    exact .inr (by simpa using hprf.2)

/-- The group closed by an outcome. -/
def OpenGroup.closed (group : OpenGroup) (outcome : Option Outcome) : RecordGroup :=
  ⟨group.intent, group.checkpoints, outcome⟩

theorem neverDispatched_of (hdesc : Described group)
    (h : group.completedStages.contains .dispatchStarted = false) :
    neverDispatched group.checkpoints := by
  intro checkpoint hchk hstg
  have hnone := hdesc.stages .dispatchStarted
  rw [h] at hnone
  exact any_eq_false.mp hnone.symm checkpoint hchk (beq_iff_eq.mpr hstg)

/-- When the derived state is none. -/
theorem unmutated_of_derived (hrch : Reached place group) (hdesc : Described group)
    (h : deriveMutationState group = .none) :
    neverDispatched group.checkpoints ∨ EndsWithoutEffect group.checkpoints := by
  unfold deriveMutationState at h
  split at h
  · cases h
  rename_i hunproved
  simp only [Bool.or_eq_true, not_or, Bool.not_eq_true] at hunproved
  split at h
  · rename_i hdisp
    obtain ⟨state, htrk⟩ := hrch.tracked
    refine .inl (neverDispatched_of hdesc ?_)
    rw [← htrk.dispatchStage]
    simpa using hdisp
  · split at h
    · cases h
    rename_i hcomp
    rw [Bool.not_eq_true', Bool.not_eq_false] at hcomp
    cases hitems : group.finalForwardItems with
    | none => rw [hitems] at h; cases h
    | some items =>
      rw [hitems] at h
      dsimp only at h
      split at h
      · cases h
      rename_i hdel
      obtain ⟨checkpoint, hlast, hdata⟩ := hdesc.vectorLast items hitems hunproved.1
      have hcompleteItems := hrch.complete
      rw [hcomp, hitems] at hcompleteItems
      have hsent := hrch.anySent
      rw [hunproved.2, hitems] at hsent
      exact .inr ⟨checkpoint, items, hlast, hdata, hcompleteItems.symm, hsent.symm,
        by simpa using hdel⟩

/-- The open group at the end of a log. -/
theorem sound_open (h : Described group) : (group.closed none).Sound where
  oneInvocation := by
    intro record hrec
    simp only [RecordGroup.records, OpenGroup.closed, Option.toList_none, map_nil,
      append_nil, mem_cons, mem_map] at hrec
    rcases hrec with rfl | ⟨checkpoint, hchk, rfl⟩
    · exact ⟨rfl, rfl⟩
    · exact h.same checkpoint hchk
  staged := h.staged
  proved := fun _ hout => by cases hout
  unmutated := fun _ hout => by cases hout

/-- **An accepted outcome keeps its promises.** -/
theorem sound_of_outcome (hrch : Reached place group) (hdesc : Described group)
    (h : consumeOutcome group outcome = .ok ()) : (group.closed (some outcome)).Sound := by
  obtain ⟨hfld, hinvo, hop, hcompl, hmut, hprf⟩ := consumeOutcome_ok h
  obtain ⟨state, htrk⟩ := hrch.tracked
  refine ⟨?_, hdesc.staged, ?_, ?_⟩
  · intro record hrec
    simp only [RecordGroup.records, OpenGroup.closed, Option.toList_some, map_cons,
      map_nil, cons_append, mem_cons, mem_append, mem_map,
      not_mem_nil, or_false] at hrec
    rcases hrec with rfl | ⟨checkpoint, hchk, rfl⟩ | rfl
    · exact ⟨rfl, rfl⟩
    · exact hdesc.same checkpoint hchk
    · exact ⟨hinvo, hop⟩
  · intro other hother hsucc
    obtain rfl := Option.mem_some_iff.mp hother
    rcases proof_of_success hfld hsucc with hnoop | hcon
    · refine .inr ⟨hnoop, ?_, neverDispatched_of hdesc ?_⟩
      · simp only [successfulMarkReadNoop, Bool.and_eq_true, beq_iff_eq] at hnoop
        exact hop.symm.trans hnoop.1.1.1.1.1
      · simp only [successfulMarkReadNoop, Bool.and_eq_true, hcompl] at hnoop
        simpa using hnoop.1.1.2
    · rw [hcompl, ← htrk.proofStage] at hcon
      exact .inl (hdesc.proof _ (hprf hcon))
  · intro other hother hnone
    obtain rfl := Option.mem_some_iff.mp hother
    rcases hmut with hder | hprv
    · rw [hnone] at hder
      exact (unmutated_of_derived hrch hdesc hder.symm).imp_right Or.inl
    · exact .inr (.inr hprv)

/-! ## §4. The whole log. -/

/-- The records of the group that is still open. -/
def openRecords (state : Option OpenGroup) : List RecordGroup :=
  (state.map fun group => group.closed none).toList

/-- What the records so far say. -/
def Split (place : LogPlace) (records : List (Nat × Record)) (state : Option OpenGroup) : Prop :=
  (∃ closed : List RecordGroup,
      records.map (·.2) = (closed ++ openRecords state).flatMap RecordGroup.records
        ∧ ∀ group ∈ closed, group.outcome.isSome = true ∧ group.Sound)
    ∧ ∀ group ∈ state, Reached place group ∧ Described group

/-- One more record. -/
theorem split_step (h : Split place records state)
    (hstep : feedRecord place state record = .ok state') :
    Split place (records ++ [record]) state' := by
  obtain ⟨⟨closed, hrecs, hcl⟩, hst⟩ := h
  have hrch := reached_feedRecord hstep fun group hgrp => (hst group hgrp).1
  obtain ⟨generation, record⟩ := record
  obtain ⟨-, view, hcons⟩ := feedRecord_ok.mp hstep
  rw [Split, map_append, hrecs]
  cases step_of_consumeV2 hcons with
  | @intent intent =>
    refine ⟨⟨closed, ?_, hcl⟩, fun group hgrp => ⟨hrch group hgrp, ?_⟩⟩
    · simp [openRecords, OpenGroup.closed, OpenGroup.opened, RecordGroup.records]
    · obtain rfl := Option.mem_some_iff.mp hgrp
      exact described_opened generation intent
  | @checkpoint group _ _ hchk =>
    obtain ⟨hgrp, hdesc⟩ := hst group rfl
    refine ⟨⟨closed, ?_, hcl⟩, fun group' hgrp' => ⟨hrch group' hgrp', ?_⟩⟩
    · obtain ⟨-, -, -, -, -, -, rfl⟩ := consumeCheckpoint_ok hchk
      simp [openRecords, OpenGroup.closed, RecordGroup.records, push_checkpoints, push_intent]
    · obtain rfl := Option.mem_some_iff.mp hgrp'
      exact hdesc.push hgrp hchk
  | @outcome group outcome hout =>
    obtain ⟨hgrp, hdesc⟩ := hst group rfl
    refine ⟨⟨closed ++ [group.closed (some outcome)], ?_, ?_⟩, fun _ hnone => by cases hnone⟩
    · simp [openRecords, OpenGroup.closed, RecordGroup.records]
    · exact forall_mem_append.mpr ⟨hcl,
        forall_mem_singleton.mpr ⟨rfl, sound_of_outcome hgrp hdesc hout⟩⟩

/-- **An accepted log falls into sound groups**, of which only the last may be
open: it is the one the automaton still holds. -/
theorem automaton_sound (place : LogPlace) {records : List (Nat × Record)}
    {state : Option OpenGroup} (h : feed place none records = .ok state) :
    ∃ groups : List RecordGroup, records.map (·.2) = groups.flatMap RecordGroup.records
      ∧ (∀ group ∈ groups.dropLast, group.outcome.isSome = true)
      ∧ ((∀ group ∈ groups, group.outcome.isSome = true) ↔ state = none)
      ∧ ∀ group ∈ groups, group.Sound := by
  have hstart : Split place [] none := ⟨⟨[], rfl, by simp⟩, by simp⟩
  obtain ⟨⟨closed, hrecs, hcl⟩, hst⟩ : Split place records state :=
    foldlM_trace hstart (fun _ _ _ _ hsplit hstep => split_step hsplit hstep) h
  refine ⟨closed ++ openRecords state, hrecs, ?_⟩
  cases state with
  | none =>
    simp only [openRecords, Option.map_none, Option.toList_none, append_nil, iff_true]
    exact ⟨fun group hgrp => (hcl group (dropLast_subset _ hgrp)).1,
      fun group hgrp => (hcl group hgrp).1, fun group hgrp => (hcl group hgrp).2⟩
  | some group =>
    have hopen : openRecords (some group) = [group.closed none] := rfl
    rw [hopen, dropLast_concat]
    refine ⟨fun other hother => (hcl other hother).1, ?_, ?_⟩
    · refine iff_of_false (fun hall => ?_) nofun
      have hlast := hall (group.closed none) (mem_append_right _ (mem_singleton_self _))
      cases hlast
    · exact forall_mem_append.mpr ⟨fun other hother => (hcl other hother).2,
        forall_mem_singleton.mpr (sound_open (hst group rfl).2)⟩

/-- The log of a leave and of a second one that is still open. -/
def leaveRecords : List (Nat × Record) :=
  let first := "0123456789abcdef0123456789abcdef"
  let second := "fedcba9876543210fedcba9876543210"
  let intent := fun invocation =>
    Record.intent
      { invocation := invocation, unixSeconds := 1700000000, operation := .chatLeave
        plan := { target := some { chatId := some 10 } }, fingerprint := "f1", keyHash := none
        bytes := 600 }
  let checkpoint := fun invocation sequence data =>
    Record.checkpoint
      { invocation := invocation, operation := .chatLeave, sequence := sequence, data := data
        bytes := 400 }
  let terminal := Terminal.result (some { chatId := some 10 }) none false "\"left\":true"
  [(7, intent first), (7, checkpoint first 1 (.dispatchStarted "p")),
    (7, checkpoint first 2 (.mutationConfirmed terminal)),
    (7, .outcome
      { invocation := first, operation := .chatLeave, success := true, mutation := .confirmed
        completed := [.dispatchStarted, .mutationConfirmed], terminal := terminal, bytes := 500 }),
    (7, intent second), (7, checkpoint second 5 (.dispatchStarted "q"))]

theorem automaton_sound_leaveRecords :
    (∃ state, feed ⟨"main", "/state/main/audit.log"⟩ none leaveRecords = .ok (some state))
      ∧ ∃ groups : List RecordGroup, leaveRecords.map (·.2) = groups.flatMap RecordGroup.records
        ∧ ∀ group ∈ groups, group.Sound := by
  obtain ⟨state, hst⟩ : ∃ state,
      feed ⟨"main", "/state/main/audit.log"⟩ none leaveRecords = .ok (some state) := by
    have hopen : ((feed ⟨"main", "/state/main/audit.log"⟩ none leaveRecords).toOption.bind
        id).isSome := by decide +kernel
    cases hfeed : feed ⟨"main", "/state/main/audit.log"⟩ none leaveRecords with
    | error detail => simp [hfeed, Except.toOption] at hopen
    | ok group =>
      rw [hfeed] at hopen
      obtain ⟨state, hgroup⟩ := Option.isSome_iff_exists.mp hopen
      exact ⟨state, congrArg Except.ok hgroup⟩
  obtain ⟨groups, hrecs, -, -, hsound⟩ := automaton_sound _ hst
  exact ⟨⟨state, hst⟩, groups, hrecs, hsound⟩

end TgCli.Audit
