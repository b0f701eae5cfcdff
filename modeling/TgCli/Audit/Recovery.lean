/-
  TgCli.Audit.Recovery — CLOSING AN OPEN GROUP

  `classify_account_audit_recovery` (`account_audit.cpp`) chooses how an open
  group ends, and `recover_open_group` (`idempotency_reconciliation.cpp`)
  builds the records of that end: a mutation proof for a forward whose vector
  is complete and has a sent item, then the outcome.

  Main results:
    * `consumeOutcome_recovery` — the outcome of the plan is accepted;
    * `consumeCheckpoint_recovery` — so is the mutation proof;
    * `recovery_closes_iff` — recovery closes every reached group, except the
      one whose last checkpoint left no sequence number for a proof.
-/
import Mathlib.Data.List.Sublists
import TgCli.Audit.OpenGroups
import TgCli.Audit.AccountLog

namespace TgCli.Audit

open Lib AccountLog List Terminal

/-! ## §1. The plan. -/

/-- `AccountAuditRecoveryBoundary`. -/
inductive Boundary where
  | deleteSpoolAndSyncRoot | appendMutationProofAndSync | appendOutcomeAndSync
  | transitionStoreAndSync | cleanupSpoolAndSyncRoot
deriving DecidableEq, Repr

/-- `AccountAuditRecoveryPlan`. -/
structure RecoveryPlan where
  mutation : MutationState
  terminal : Terminal
  boundaries : List Boundary
  completeStore : Bool := false
  retainStore : Bool := false
  retainSpool : Bool := false
  continueCurrentRequest : Bool := false
deriving DecidableEq, Repr

/-- The mark-read of a group has nothing to read. -/
def OpenGroup.markReadNoop (group : OpenGroup) : Bool :=
  group.intent.operation == .chatMarkRead && group.intent.plan.markReadNoop

/-- The success of a mark-read that has nothing to read. -/
def noopTerminal (plan : Plan) : Terminal :=
  .result plan.target none true "\"marked_read\":true"

/-- A confirmed forward whose vector is not complete. -/
def OpenGroup.retainIncompleteForward (group : OpenGroup) : Bool :=
  group.intent.operation == .msgForward && group.mutationConfirmed && !group.forwardComplete
    && group.finalForwardItems.isSome

/-- The terminal the durable records of a dispatched group prove. -/
def provenTerminal (group : OpenGroup) : Except String Terminal :=
  if group.mutationConfirmed then
    match group.mutationProof with
    | none => .error "mutation proof is missing its stored terminal"
    | some terminal => .ok terminal
  else deriveForwardTerminal group

/-- `classify_account_audit_recovery`. -/
def classifyRecovery (group : OpenGroup) (pins : PinSource) : Except String RecoveryPlan :=
  if pins = .absentByPolicy ∧ (group.keyed = true ∨ group.hasSpool = true) then
    .error "store-dependent audit group cannot be recovered without store policy"
  else if !group.dispatchStarted then
    .ok
      { mutation := .none
        terminal :=
          if group.markReadNoop then noopTerminal group.intent.plan
          else .incomplete .none group.completedStages
        boundaries :=
          (if group.hasSpool then [.deleteSpoolAndSyncRoot] else [])
            ++ [.appendOutcomeAndSync]
            ++ (if group.keyed then [.transitionStoreAndSync] else [])
        completeStore :=
          group.keyed && group.markReadNoop && group.completedStages.contains .idempotencyPending
        continueCurrentRequest := true }
  else if !group.mutationConfirmed && !group.forwardComplete then
    .ok
      { mutation := deriveMutationState group
        terminal := .incomplete (deriveMutationState group) group.completedStages
        boundaries := [.appendOutcomeAndSync]
        retainStore := group.keyed
        retainSpool := group.hasSpool }
  else do
    let terminal ← provenTerminal group
    .ok
      { mutation := deriveMutationState group
        terminal := terminal
        boundaries :=
          (if group.forwardComplete && group.anyForwardSent && !group.mutationConfirmed then
              [.appendMutationProofAndSync] else [])
            ++ [.appendOutcomeAndSync]
            ++ (if group.keyed then [.transitionStoreAndSync] else [])
            ++ (if group.hasSpool && !group.retainIncompleteForward then
                  [.cleanupSpoolAndSyncRoot] else [])
        retainStore := group.keyed && group.retainIncompleteForward
        retainSpool := group.hasSpool && group.retainIncompleteForward
        continueCurrentRequest := true }

/-! ## §2. The records. -/

/-- The next sequence number, as a 32-bit number. -/
def recoverySequence (group : OpenGroup) : Nat := (group.lastSequence + 1) % 2 ^ 32

/-- The mutation proof of `append_recovery_checkpoint`. -/
def recoveryCheckpoint (place : LogPlace) (group : OpenGroup) (terminal : Terminal) : Checkpoint :=
  { invocation := group.intent.invocation
    operation := group.intent.operation
    sequence := recoverySequence group
    data := .mutationConfirmed terminal
    bytes := proofSize place group.intent.invocation group.intent.operation
      (recoverySequence group) terminal }

/-- The outcome of `append_recovery_outcome`. -/
def recoveryOutcome (place : LogPlace) (group : OpenGroup) (mutation : MutationState)
    (completed : List Stage) (terminal : Terminal) : Outcome :=
  { invocation := group.intent.invocation
    operation := group.intent.operation
    success := terminal.isResult
    mutation := mutation
    completed := completed
    terminal := terminal
    bytes := outcomeSize place group.intent.invocation group.intent.operation terminal.isResult
      mutation completed terminal }

/-- `make_account_audit_checkpoint` and `make_account_audit_outcome`. -/
def makeRecord (place : LogPlace) (record : Record) : Except String Record := do
  match record with
  | .intent i => if !validIntent i then .error "invalid v2 intent fields"
  | .checkpoint c => validateCheckpoint c
  | .outcome o => validateOutcome o
  if record.wellFormed place then .ok record else .error "v2 record exceeds its byte ceiling"

/-- The records `recover_open_group` appends. -/
def recoveryRecords (place : LogPlace) (group : OpenGroup) (plan : RecoveryPlan) :
    Except String (List Record) :=
  if .appendMutationProofAndSync ∈ plan.boundaries then
    if recoverySequence group = 0 then .error "recovery checkpoint sequence overflowed"
    else do
      let proof ← makeRecord place (.checkpoint (recoveryCheckpoint place group plan.terminal))
      let outcome ← makeRecord place (.outcome (recoveryOutcome place group plan.mutation
        (group.completedStages ++ [.mutationConfirmed]) plan.terminal))
      .ok [proof, outcome]
  else do
    let outcome ← makeRecord place
      (.outcome (recoveryOutcome place group plan.mutation group.completedStages plan.terminal))
    .ok [outcome]

/-- Recovery builds records for the group, and they close it. -/
def RecoveryCloses (place : LogPlace) (pins : PinSource) (group : OpenGroup) : Prop :=
  ∃ plan records, classifyRecovery group pins = .ok plan
    ∧ recoveryRecords place group plan = .ok records
    ∧ feed place (some group) (records.map fun record => (group.generation, record)) = .ok none

/-! ## §3. The completed stages. -/

theorem allowedOrder_nodup (operation : Operation) : (allowedOrder operation).Nodup := by
  cases operation <;> decide

/-- The stages that need a dispatch, and the spool a dispatched attachment needs. -/
def stagesClosed (operation : Operation) (stages : List Stage) : Bool :=
  ((!stages.contains .temporaryIdsObserved && !stages.contains .forwardProgress
      && !stages.contains .mutationConfirmed) || stages.contains .dispatchStarted)
    && (operation != .savedAttach || !stages.contains .dispatchStarted
      || stages.contains .spoolReady)

/-- Every list of stages in the order of the operation is one of its legal
prefixes, if no stage misses one it needs. -/
theorem legal_of_closed (operation : Operation) :
    ∀ stages ∈ (allowedOrder operation).sublists, stagesClosed operation stages →
      legalCompletedStages operation stages := by
  cases operation <;> decide +kernel

section Reached

variable {place : LogPlace} {group : OpenGroup}

section

variable (h : Reached place group)
include h

theorem Reached.sublist :
    group.completedStages.Sublist (allowedOrder group.intent.operation) := by
  obtain ⟨state, htrk⟩ := h.tracked
  exact htrk.stages.trans (take_sublist _ _)

theorem Reached.nodup : group.completedStages.Nodup :=
  h.sublist.nodup (allowedOrder_nodup _)

theorem Reached.dispatchStage :
    group.completedStages.contains .dispatchStarted = group.dispatchStarted := by
  obtain ⟨state, htrk⟩ := h.tracked
  exact htrk.dispatchStage.symm

theorem Reached.proofStage :
    group.completedStages.contains .mutationConfirmed = group.mutationConfirmed := by
  obtain ⟨state, htrk⟩ := h.tracked
  exact htrk.proofStage.symm

theorem Reached.mem_dispatch :
    .dispatchStarted ∈ group.completedStages ↔ group.dispatchStarted := by
  rw [← h.dispatchStage, contains_iff_mem]

theorem Reached.mem_proof :
    .mutationConfirmed ∈ group.completedStages ↔ group.mutationConfirmed := by
  rw [← h.proofStage, contains_iff_mem]

theorem Reached.mem_progress :
    .forwardProgress ∈ group.completedStages ↔ group.finalForwardItems.isSome := by
  rw [h.progressStage, contains_iff_mem]

theorem Reached.dispatched_of_proof
    (hprf : group.mutationConfirmed) : group.dispatchStarted :=
  h.needsDispatch _ (h.mem_proof.mpr hprf) (.inr (.inr rfl))

end

/-- What a vector says of its group. -/
theorem Reached.of_vector {items : List ForwardItem} (h : Reached place group)
    (hvec : group.finalForwardItems = some items) :
    group.dispatchStarted ∧ forwardVectorComplete items = group.forwardComplete
      ∧ items.any (·.isSent) = group.anyForwardSent := by
  rw [h.complete, h.anySent, hvec]
  exact ⟨h.needsDispatch _ (h.mem_progress.mpr (by rw [hvec]; rfl)) (.inr (.inl rfl)), rfl, rfl⟩

/-- No stage that needs a dispatch is completed without one. -/
theorem Reached.absent_of_undispatched (h : Reached place group)
    (hdisp : group.dispatchStarted = false)
    (hkind : stage = .temporaryIdsObserved ∨ stage = .forwardProgress
      ∨ stage = .mutationConfirmed) : group.completedStages.contains stage = false := by
  by_contra hmem
  rw [Bool.not_eq_false, contains_iff_mem] at hmem
  rw [h.needsDispatch stage hmem hkind] at hdisp
  cases hdisp

theorem Reached.legal (h : Reached place group) :
    legalCompletedStages group.intent.operation group.completedStages := by
  refine legal_of_closed _ _ (mem_sublists.mpr h.sublist) ?_
  obtain ⟨state, htrk⟩ := h.tracked
  unfold stagesClosed
  rw [← htrk.dispatchStage, ← htrk.spoolStage]
  rw [Bool.and_eq_true]
  constructor
  · cases hdisp : group.dispatchStarted with
    | true => rw [Bool.or_true]
    | false =>
      rw [h.absent_of_undispatched hdisp (.inl rfl),
        h.absent_of_undispatched hdisp (.inr (.inl rfl)),
        h.absent_of_undispatched hdisp (.inr (.inr rfl))]
      rfl
  · by_cases hatt : group.intent.operation = .savedAttach
    · cases hdisp : group.dispatchStarted with
      | false => simp
      | true => rw [h.needsSpool hatt hdisp, Bool.or_true]
    · simp [hatt]

end Reached

/-! ## §4. The terminal of a complete vector. -/

/-- The terminal of a complete vector, by what became of its items. -/
def forwardTerminal (target : Option Target) (items : List ForwardItem) : Terminal :=
  if items.all (·.isSent) then .result target (some items) false ""
  else if items.any (·.isSent) then .error .forwardPartial (some items) (forwardDetails target)
  else if items.all (·.rateLimited) then
    .error .rateLimited (some items) (rateLimitedDetails .msgForward (maximumRetry items))
  else .error .forwardFailed (some items) (forwardDetails target)

theorem deriveForwardTerminal_eq {group : OpenGroup} {items : List ForwardItem}
    (hvec : group.finalForwardItems = some items)
    (hcomp : forwardVectorComplete items) :
    deriveForwardTerminal group = .ok (forwardTerminal group.intent.plan.target items) := by
  unfold deriveForwardTerminal forwardTerminal
  rw [hvec]
  dsimp only
  rw [hcomp]
  split
  · contradiction
  split
  · rfl
  split
  · rfl
  · split <;> rfl

section ForwardTerminal

variable {target : Option Target} {items : List ForwardItem}

theorem forwardTerminal_items : (forwardTerminal target items).items = some items := by
  unfold forwardTerminal
  split
  · rfl
  split
  · rfl
  · split <;> rfl

/-- A terminal of a vector is a result of the plan's target, or one of three errors. -/
theorem forwardTerminal_cases (target : Option Target) (items : List ForwardItem) :
    ((∃ data, forwardTerminal target items = .result target (some items) false data)
        ∧ items.all (·.isSent))
      ∨ (∃ code details, forwardTerminal target items = .error code (some items) details
        ∧ (code = .forwardPartial ∨ code = .rateLimited ∨ code = .forwardFailed)
        ∧ (code = .forwardPartial ↔ items.any (·.isSent))) := by
  unfold forwardTerminal
  split
  · rename_i hall
    exact .inl ⟨⟨"", rfl⟩, hall⟩
  split
  · rename_i hany
    exact .inr ⟨_, _, rfl, .inl rfl, fun _ => hany, fun _ => rfl⟩
  rename_i hnone
  split
  · exact .inr ⟨_, _, rfl, .inr (.inl rfl), nofun, fun h => absurd h hnone⟩
  · exact .inr ⟨_, _, rfl, .inr (.inr rfl), nofun, fun h => absurd h hnone⟩

/-- The parts of an accepted vector. -/
theorem validForwardItems_iff : validForwardItems items allowEmpty requireTerminal ↔
      (allowEmpty ∨ items ≠ []) ∧ items.length ≤ kMaximumForwardItems
        ∧ (∀ item ∈ items, validForwardItem item)
        ∧ items.Pairwise (·.sourceId < ·.sourceId)
        ∧ (requireTerminal → forwardVectorComplete items)
        ∧ (temporaryIds items).Nodup ∧ (finalIds items).Nodup := by
  cases requireTerminal <;>
    simp [validForwardItems, all_eq_true, and_assoc]

/-- **The terminal of a complete vector is accepted.** -/
theorem validTerminal_forwardTerminal (target : Option Target)
    (hval : validForwardItems items false false)
    (hcomp : forwardVectorComplete items) :
    validTerminal .msgForward (forwardTerminal target items) := by
  obtain ⟨hnonempty, hcnt, hitems, hsrcs, -, htmp, hfin⟩ :=
    validForwardItems_iff.mp hval
  have hnonempty : items ≠ [] := hnonempty.resolve_left Bool.false_ne_true
  have hterm : ∀ allowEmpty, validForwardItems items allowEmpty true := fun _ =>
    validForwardItems_iff.mpr
      ⟨.inr hnonempty, hcnt, hitems, hsrcs, fun _ => hcomp, htmp, hfin⟩
  unfold forwardTerminal
  split
  · rename_i hall
    rw [all_eq_true] at hall
    have hsent : items.all (fun item => validForwardItem item && item.isSent) := by
      rw [all_eq_true]
      intro item hit
      rw [hitems item hit, hall item hit]
      rfl
    simp [validTerminal, hnonempty, hcnt, hsent, hsrcs]
  · rename_i hall
    split
    · rename_i hany
      simp [validTerminal, validStoredError, hterm, hany, hall]
    rename_i hany
    split
    · rename_i hlimited
      simp [validTerminal, validStoredError, hterm, hlimited]
    · simp [validTerminal, validStoredError, hterm, hany]

theorem retryAfter_le (h : validForwardItem item) : (item.retryAfter : Int) ≤ kMaximumInt32 := by
  obtain ⟨source, status⟩ := item
  simp only [validForwardItem, Bool.and_eq_true] at h
  cases status with
  | pending id | sent message => show ((0 : Nat) : Int) ≤ _; decide
  | failed reason code retry =>
    cases retry with
    | none => show ((0 : Nat) : Int) ≤ _; decide
    | some seconds =>
      simp only [Bool.and_eq_true] at h
      exact of_decide_eq_true h.2.1.2

theorem maximumRetry_le (hitems : ∀ item ∈ items, validForwardItem item) :
    (maximumRetry items : Int) ≤ kMaximumInt32 := by
  have hbound : maximumRetry items ≤ 2147483647 := by
    refine (foldl_max_le _ _).mpr ⟨Nat.zero_le _, ?_⟩
    intro delay hdelay
    obtain ⟨item, hit, rfl⟩ := mem_map.mp hdelay
    have hretry := retryAfter_le (hitems item hit)
    unfold kMaximumInt32 at hretry
    omega
  unfold kMaximumInt32
  omega

/-- **The terminal of a vector is below the ceiling of a forward.** -/
theorem forwardTerminal_size_le (place : LogPlace) (hval : validForwardItems items false false)
    (htgt : ∀ t ∈ target, validTarget t ∧ t.rest = "") :
    (forwardTerminal target items).size place ≤ kForwardTerminalBytes := by
  obtain ⟨-, hcnt, hitems, -⟩ := validForwardItems_iff.mp hval
  have hdets := forwardDetails_length_le fun t ht => (htgt t ht).1
  unfold forwardTerminal
  split
  · exact result_size_le place hcnt hitems htgt
  split
  · exact error_size_le place _ hcnt hitems hdets
  split
  · exact error_size_le place _ hcnt hitems
      (rateLimitedDetails_length_le (maximumRetry_le hitems))
  · exact error_size_le place _ hcnt hitems hdets

end ForwardTerminal

/-! ## §5. The outcome. -/

section Outcome

variable {place : LogPlace} {group : OpenGroup}

theorem validateOutcome_ok {outcome : Outcome}
    (hterm : validTerminal outcome.operation outcome.terminal)
    (hstgs : outcome.completed.Nodup) (hrepeats : incompleteRepeats outcome)
    (hfld : outcomeFieldsAgree outcome) : validateOutcome outcome = .ok () := by
  simp [validateOutcome, hterm, hstgs, hrepeats, hfld]

/-- The stages of a group that is not dispatched. -/
theorem Reached.undispatched (h : Reached place group) (hdisp : group.dispatchStarted = false) :
    group.mutationConfirmed = false ∧ group.finalForwardItems = none := by
  refine ⟨?_, ?_⟩
  · rw [← h.proofStage]
    exact h.absent_of_undispatched hdisp (.inr (.inr rfl))
  · have hprog := h.progressStage
    rw [h.absent_of_undispatched hdisp (.inr (.inl rfl))] at hprog
    exact Option.isSome_eq_false_iff.mp hprog |> Option.isNone_iff_eq_none.mp

theorem Reached.complete_vector (h : Reached place group) (hcomp : group.forwardComplete) :
    ∃ items, group.finalForwardItems = some items ∧ forwardVectorComplete items := by
  have heq := h.complete
  rw [hcomp] at heq
  cases hvec : group.finalForwardItems with
  | none => rw [hvec] at heq; cases heq
  | some items =>
    rw [hvec] at heq
    exact ⟨items, rfl, heq.symm⟩

variable {terminal : Terminal} {items : List ForwardItem}

/-- The identity of the outcome is the identity of the group. -/
theorem consumeOutcome_recovery
    (hval : validateOutcome (recoveryOutcome place group mutation completed terminal) = .ok ())
    (hfits : outcomeFits group (recoveryOutcome place group mutation completed terminal) = .ok ()) :
    consumeOutcome group (recoveryOutcome place group mutation completed terminal) = .ok () := by
  unfold consumeOutcome
  rw [hval]
  show (if _ ∨ _ then _ else _) = _
  rw [if_neg (by simp [recoveryOutcome])]
  exact hfits

attribute [local simp] recoveryOutcome outcomeFieldsAgree outcomeFits validIncomplete incompleteRepeats

/-- The plan of a group that was not dispatched: nothing happened. -/
theorem consumeOutcome_undispatched (h : Reached place group)
    (hdisp : group.dispatchStarted = false) :
    consumeOutcome group (recoveryOutcome place group .none group.completedStages
      (if group.markReadNoop then noopTerminal group.intent.plan
        else .incomplete .none group.completedStages)) = .ok () := by
  obtain ⟨hprf, hvec⟩ := h.undispatched hdisp
  have hlegal := h.legal
  have hcomp : group.forwardComplete = false := by rw [h.complete, hvec]; rfl
  have hsent : group.anyForwardSent = false := by rw [h.anySent, hvec]; rfl
  have hder : deriveMutationState group = .none := by
    simp [deriveMutationState, hprf, hsent, hdisp]
  cases hnoop : group.markReadNoop with
  | true =>
    simp only [OpenGroup.markReadNoop, Bool.and_eq_true, beq_iff_eq] at hnoop
    rw [hnoop.1] at hlegal
    refine consumeOutcome_recovery (validateOutcome_ok ?_ h.nodup rfl ?_) ?_
    · simp [noopTerminal, validTerminal, hnoop.1]
    · simp [successfulMarkReadNoop, noopTerminal, isResult, code, hlegal,
        h.mem_dispatch, h.mem_proof, hdisp, hprf, hnoop.1]
    · simp [noopTerminal, hder, terminalMatchesPlan, hnoop.1, hnoop.2, hprf, hcomp]
  | false =>
    refine consumeOutcome_recovery (validateOutcome_ok ?_ h.nodup
      (by simp) ?_) ?_
    · simp [validTerminal, h.nodup, hlegal, h.mem_dispatch, hdisp]
    · simp [isResult, code, hlegal, h.mem_dispatch, h.mem_proof, hdisp, hprf]
    · simp [hder, terminalMatchesPlan, terminalMatchesLatestForward, items, hprf, hcomp]

/-- The plan of a dispatched group without a proof and without a complete vector. -/
theorem consumeOutcome_unproven (h : Reached place group) (hdisp : group.dispatchStarted)
    (hprf : group.mutationConfirmed = false) (hcomp : group.forwardComplete = false) :
    consumeOutcome group (recoveryOutcome place group (deriveMutationState group)
      group.completedStages (.incomplete (deriveMutationState group) group.completedStages))
      = .ok () := by
  have hlegal := h.legal
  -- without a vector nothing is known but the dispatch
  have hpossible : group.finalForwardItems = none → deriveMutationState group = .possible := by
    intro hvec
    have hsent : group.anyForwardSent = false := by rw [h.anySent, hvec]; rfl
    simp [deriveMutationState, hprf, hsent, hdisp, hcomp]
  refine consumeOutcome_recovery (validateOutcome_ok ?_ h.nodup
    (by simp) ?_) ?_
  · cases hvec : group.finalForwardItems with
    | none =>
      simp [validTerminal, h.nodup, hlegal, h.mem_dispatch, h.mem_proof, hdisp, hprf,
        hpossible hvec]
    | some items =>
      simp [validTerminal, h.nodup, hlegal, h.mem_dispatch, h.mem_proof, h.mem_progress, hdisp,
        hprf, hvec]
  · cases hvec : group.finalForwardItems with
    | none =>
      simp [isResult, code, hlegal, h.mem_dispatch, h.mem_proof, hdisp, hprf, hpossible hvec]
    | some items =>
      simp [isResult, code, hlegal, h.mem_dispatch, h.mem_proof, h.mem_progress, hdisp, hprf, hvec]
  · simp [terminalMatchesPlan, terminalMatchesLatestForward, items, hprf, hcomp]

/-- What a proven mutation leaves open of its terminal. -/
theorem terminalProvesMutation_cases (h : terminalProvesMutation operation terminal) :
    validTerminal operation terminal
      ∧ (∀ mutation completed, terminal ≠ .incomplete mutation completed)
      ∧ terminal.code ≠ some .spoolUnavailable := by
  simp only [terminalProvesMutation, Bool.and_eq_true] at h
  obtain ⟨hval, hprv⟩ := h
  refine ⟨hval, ?_, ?_⟩
  · rintro mutation completed rfl
    cases hprv
  · intro hcode
    cases terminal with
    | result _ _ _ _ => cases hcode
    | incomplete _ _ => cases hcode
    | error code _ _ =>
      obtain rfl : code = .spoolUnavailable := Option.some.inj hcode
      simp at hprv

theorem proofFits_ok (h : proofFits group group.intent.operation terminal = .ok ()) :
    terminalMatchesPlan group.intent.operation terminal group.intent.plan
      ∧ (group.intent.operation = .msgForward → terminalMatchesLatestForward group terminal) := by
  unfold proofFits at h
  split at h
  · cases h
  rename_i hplan
  refine ⟨by simpa using hplan, ?_⟩
  intro hfwd
  rw [hfwd] at h
  simp only [ne_eq, not_true_eq_false, if_false] at h
  split at h
  · cases h
  rename_i hlat
  simpa using hlat

/-- The plan of a group with a mutation proof: its terminal again. -/
theorem consumeOutcome_proven (h : Reached place group) (hprf : group.mutationConfirmed)
    (hterm : group.mutationProof = some terminal)
    (hprv : terminalProvesMutation group.intent.operation terminal)
    (hfits : proofFits group group.intent.operation terminal = .ok ()) :
    consumeOutcome group (recoveryOutcome place group .confirmed group.completedStages terminal)
      = .ok () := by
  obtain ⟨hval, hnotIncomplete, hcode⟩ := terminalProvesMutation_cases hprv
  obtain ⟨hplan, hlat⟩ := proofFits_ok hfits
  have hlegal := h.legal
  have hdisp := h.dispatched_of_proof hprf
  have hder : deriveMutationState group = .confirmed := by
    simp [deriveMutationState, hprf]
  have hrepeats : incompleteRepeats
      (recoveryOutcome place group .confirmed group.completedStages terminal) := by
    cases terminal with
    | incomplete mutation completed => exact absurd rfl (hnotIncomplete mutation completed)
    | _ => rfl
  refine consumeOutcome_recovery (validateOutcome_ok hval h.nodup hrepeats ?_) ?_
  · simp [hlegal, h.mem_dispatch, h.mem_proof, hdisp, hprf, hcode]
  · by_cases hfwd : group.intent.operation = .msgForward
    · simp [hder, hplan, hlat hfwd, hprf, hterm]
    · simp [hder, hplan, hfwd, hprf, hterm]

/-- The terminal of the latest vector agrees with plan and vector. -/
theorem forwardTerminal_matches (h : Reached place group)
    (hvec : group.finalForwardItems = some items) :
    terminalMatchesPlan .msgForward (forwardTerminal group.intent.plan.target items)
        group.intent.plan
      ∧ terminalMatchesLatestForward group (forwardTerminal group.intent.plan.target items)
        = true := by
  obtain ⟨-, -, hsrcs⟩ := h.vector items hvec
  refine ⟨?_, ?_⟩
  · rcases forwardTerminal_cases group.intent.plan.target items with
      ⟨⟨data, hres⟩, -⟩ | ⟨code, details, herror, -⟩
    · rw [hres]
      simp [terminalMatchesPlan]
    · rw [herror]
      rfl
  · simp [terminalMatchesLatestForward, forwardTerminal_items, hvec, hsrcs]

/-- The plan of a complete vector without a sent item. -/
theorem consumeOutcome_unsent (h : Reached place group) (hprf : group.mutationConfirmed = false)
    (hcomp : group.forwardComplete) (hsent : group.anyForwardSent = false)
    (hvec : group.finalForwardItems = some items) :
    consumeOutcome group (recoveryOutcome place group (deriveMutationState group)
      group.completedStages (forwardTerminal group.intent.plan.target items)) = .ok () := by
  obtain ⟨hop, hval, -⟩ := h.vector items hvec
  obtain ⟨hdisp, hall, hnone⟩ := h.of_vector hvec
  rw [hcomp] at hall
  rw [hsent] at hnone
  have hlegal := h.legal
  rw [hop] at hlegal
  obtain ⟨hplan, hlat⟩ := forwardTerminal_matches h hvec
  have hterm := validTerminal_forwardTerminal group.intent.plan.target hval hall
  -- without a sent item the terminal is an error about the items
  obtain ⟨code, details, herror, hcode⟩ : ∃ code details,
      forwardTerminal group.intent.plan.target items = .error code (some items) details
        ∧ code ≠ .spoolUnavailable := by
    rcases forwardTerminal_cases group.intent.plan.target items with
      ⟨-, hsentAll⟩ | ⟨code, details, herror, hcodes, -⟩
    · obtain ⟨hnonempty, -⟩ := validForwardItems_iff.mp hval
      obtain ⟨item, hit⟩ := exists_mem_of_ne_nil items
        (hnonempty.resolve_left Bool.false_ne_true)
      rw [any_eq_false] at hnone
      exact absurd (all_eq_true.mp hsentAll item hit) (hnone item hit)
    · refine ⟨code, details, herror, ?_⟩
      rintro rfl
      simp at hcodes
  refine consumeOutcome_recovery (validateOutcome_ok ?_ h.nodup ?_ ?_) ?_
  · simpa [hop] using hterm
  · simp [herror]
  · simp [hop, herror, Terminal.isResult, Terminal.code, hlegal, h.mem_dispatch,
      h.mem_proof, h.mem_progress, hdisp, hprf, hvec, hcode]
  · simp [hop, hplan, hlat, hprf, hcomp, deriveForwardTerminal_eq hvec hall]

/-- The proof of a complete vector with a sent item is what the validators ask for. -/
theorem provesMutation_forwardTerminal (target : Option Target)
    (hval : validForwardItems items false false)
    (hcomp : forwardVectorComplete items) (hsent : items.any (·.isSent)) :
    terminalProvesMutation .msgForward (forwardTerminal target items) := by
  have hterm := validTerminal_forwardTerminal target hval hcomp
  unfold terminalProvesMutation
  rw [hterm, Bool.true_and]
  rcases forwardTerminal_cases target items with
    ⟨⟨data, hres⟩, -⟩ | ⟨code, details, herror, -, hpart⟩
  · rw [hres]
  · rw [herror, hpart.mpr hsent]
    rfl

/-- The stage history lets the proof through. -/
theorem historyStep_proof (h : Reached place group)
    (htrk : Tracks group state) (hop : group.intent.operation = .msgForward)
    (hdisp : group.dispatchStarted) (hprf : group.mutationConfirmed = false)
    (hprv : terminalProvesMutation .msgForward terminal)
    (hseq : group.lastSequence + 1 < 2 ^ 32) :
    ∃ final, historyStep .msgForward state (recoveryCheckpoint place group terminal)
      = .ok final := by
  have hnext : recoverySequence group = group.lastSequence + 1 := Nat.mod_eq_of_lt hseq
  have hearlier : ∀ position ∈ state.previousPosition,
      position < (allowedOrder .msgForward).idxOf Stage.mutationConfirmed := by
    intro position hpos
    obtain ⟨stage, hstg, rfl⟩ := htrk.latest position hpos
    rw [hop]
    have hallowed := h.sublist.subset hstg
    rw [hop] at hallowed
    -- the last of the five stages is the proof itself
    have hne : stage ≠ .mutationConfirmed := by
      rintro rfl
      rw [h.mem_proof.mp hstg] at hprf
      cases hprf
    revert hallowed hne
    cases stage <;> decide
  have hstg : stageFollows .msgForward state .mutationConfirmed
      = .ok { state with sawMutation := true } := by
    simp [stageFollows, htrk.dispatch, htrk.mutation, hdisp, hprf]
  have hseq : state.previousSequence < recoverySequence group := by
    rw [htrk.sequence, hnext]
    exact Nat.lt_succ_self _
  have hallowed : Stage.mutationConfirmed ∈ allowedOrder .msgForward := by decide
  have hsame : (recoveryCheckpoint place group terminal).operation = .msgForward := hop
  exact ⟨_, historyStep_of hsame hseq hprv hallowed hearlier hstg rfl⟩

/-- **The mutation proof of a complete vector with a sent item is accepted.** -/
theorem consumeCheckpoint_recovery (h : Reached place group)
    (hprf : group.mutationConfirmed = false) (hcomp : group.forwardComplete)
    (hsent : group.anyForwardSent) (hvec : group.finalForwardItems = some items)
    (hseq : group.lastSequence + 1 < 2 ^ 32) :
    validateCheckpoint (recoveryCheckpoint place group
        (forwardTerminal group.intent.plan.target items)) = .ok ()
      ∧ consumeCheckpoint group (recoveryCheckpoint place group
        (forwardTerminal group.intent.plan.target items))
      = .ok (group.push (recoveryCheckpoint place group
        (forwardTerminal group.intent.plan.target items))) := by
  obtain ⟨hop, hval, -⟩ := h.vector items hvec
  obtain ⟨hplan, hlat⟩ := forwardTerminal_matches h hvec
  obtain ⟨hdisp, hall, hany⟩ := h.of_vector hvec
  rw [hcomp] at hall
  rw [hsent] at hany
  have hprv := provesMutation_forwardTerminal group.intent.plan.target hval hall hany
  have hnext : recoverySequence group = group.lastSequence + 1 := Nat.mod_eq_of_lt hseq
  set terminal := forwardTerminal group.intent.plan.target items with hterm
  have hchecked : validateCheckpoint (recoveryCheckpoint place group terminal) = .ok () := by
    unfold validateCheckpoint
    rw [if_neg (by simp only [recoveryCheckpoint, hnext]; omega),
      if_neg (by simp [recoveryCheckpoint, hop, validCheckpointData, hprv])]
    rfl
  obtain ⟨state, htrk⟩ := h.tracked
  obtain ⟨final, hstep⟩ := historyStep_proof h htrk hop hdisp hprf hprv
    hseq
  have hhist : transitionHistory .msgForward
      (group.checkpoints ++ [recoveryCheckpoint place group terminal]) = .ok final := by
    have hrun := htrk.run
    rw [hop] at hrun
    refine foldlM_append_ok.mpr ⟨state, hrun, ?_⟩
    exact foldlM_cons_ok.mpr ⟨final, hstep, rfl⟩
  have hcodes : terminal.code ≠ some .internal ∧ terminal.code ≠ some .timeout := by
    rcases forwardTerminal_cases group.intent.plan.target items with
      ⟨⟨data, hres⟩, -⟩ | ⟨code, details, herror, hcode, -⟩
    · rw [hterm, hres]
      simp [Terminal.code]
    · rw [hterm, herror]
      rcases hcode with rfl | rfl | rfl <;> simp [Terminal.code]
  have hfits : proofFits group .msgForward terminal = .ok () := by
    simp [proofFits, hplan, hlat, hcodes.1, hcodes.2, hcomp,
      deriveForwardTerminal_eq hvec hall, ← hterm]
  refine ⟨hchecked, ?_⟩
  unfold consumeCheckpoint
  rw [hchecked]
  show (if _ ∨ _ then _ else _) = _
  rw [if_neg (by simp [recoveryCheckpoint])]
  show (transitionHistory group.intent.operation _ >>= _) = _
  rw [hop, hhist]
  show (proofFits group group.intent.operation terminal >>= _) = _
  rw [hop, hfits]
  rfl

end Outcome

/-! ## §6. Recovery closes the group. -/

section Closes

variable {place : LogPlace} {group : OpenGroup}

/-- What a forward or a mark-read repeats of its plan is short. -/
theorem Reached.short_target (h : Reached place group) (hop : group.intent.operation = .msgForward
      ∨ group.intent.operation = .chatMarkRead) :
    ∀ t ∈ group.intent.plan.target, validTarget t ∧ t.rest = "" := by
  intro t ht
  have htgt := h.target
  unfold validPlanTarget at htgt
  rw [if_pos hop, ht] at htgt
  simpa using htgt

theorem wellFormed_outcome (h : Reached place group) (hplace : place.Fits)
    (mutation : MutationState) {completed : List Stage} {terminal : Terminal}
    (hcompl : completed.Nodup) (hpath : terminal.placed place)
    (hsize : terminal.size place ≤ terminalByteCeiling group.intent.operation) :
    (Record.outcome (recoveryOutcome place group mutation completed terminal)).wellFormed place
      = true := by
  have hbytes := outcomeSize_le hplace h.invocation terminal.isResult mutation hcompl hsize
  simp only [Record.wellFormed, recoveryOutcome, Bool.and_eq_true]
  exact ⟨⟨⟨h.invocation, hpath⟩, decide_eq_true hsize⟩, decide_eq_true hbytes⟩

/-- Only `AUDIT_INCOMPLETE` has the path. -/
theorem placed_of_proves (h : terminalProvesMutation operation terminal) : terminal.placed place := by
  cases terminal with
  | incomplete mutation completed => simp [terminalProvesMutation] at h
  | _ => rfl

theorem placed_forwardTerminal (target : Option Target) (items : List ForwardItem) :
    (forwardTerminal target items).placed place := by
  unfold forwardTerminal
  split_ifs <;> rfl

theorem makeRecord_outcome (hval : validateOutcome outcome = .ok ())
    (hform : (Record.outcome outcome).wellFormed place) :
    makeRecord place (.outcome outcome) = .ok (.outcome outcome) := by
  unfold makeRecord
  dsimp only
  rw [hval]
  show (if _ then _ else _) = _
  rw [if_pos hform]

theorem feedRecord_outcome (hcons : consumeOutcome group outcome = .ok ())
    (hform : (Record.outcome outcome).wellFormed place) :
    feedRecord place (some group) (generation, .outcome outcome) = .ok none :=
  feedRecord_ok.mpr ⟨hform, _, by rw [consumeV2, hcons]; rfl⟩

theorem validateOutcome_of_consume
    (h : consumeOutcome group outcome = .ok ()) : validateOutcome outcome = .ok () := by
  obtain ⟨_, hval, -⟩ := bind_ok.mp h
  exact hval

/-- A plan without a proof closes the group if its outcome is accepted. -/
theorem closes_of_outcome (h : Reached place group) (hplace : place.Fits) {pins : PinSource}
    {plan : RecoveryPlan} (hplan : classifyRecovery group pins = .ok plan)
    (hbnd : .appendMutationProofAndSync ∉ plan.boundaries) (hpath : plan.terminal.placed place)
    (hsize : plan.terminal.size place ≤ terminalByteCeiling group.intent.operation)
    (hcons : consumeOutcome group (recoveryOutcome place group plan.mutation
      group.completedStages plan.terminal) = .ok ()) : RecoveryCloses place pins group := by
  have hform := wellFormed_outcome h hplace plan.mutation h.nodup hpath hsize
  have hmade := makeRecord_outcome (validateOutcome_of_consume hcons) hform
  refine ⟨plan, [.outcome (recoveryOutcome place group plan.mutation group.completedStages
    plan.terminal)], hplan, ?_, ?_⟩
  · unfold recoveryRecords
    rw [if_neg hbnd, hmade]
    rfl
  · exact foldlM_cons_ok.mpr ⟨none, feedRecord_outcome hcons hform, rfl⟩

/-- A plan with a proof: the group with the proof is a reached group with a proof. -/
theorem closes_of_proof (h : Reached place group) (hplace : place.Fits) {pins : PinSource}
    {plan : RecoveryPlan} (hplan : classifyRecovery group pins = .ok plan)
    (hbnd : .appendMutationProofAndSync ∈ plan.boundaries)
    (hmut : plan.mutation = .confirmed) (hpath : plan.terminal.placed place)
    (hsize : plan.terminal.size place ≤ terminalByteCeiling group.intent.operation)
    (hseq : group.lastSequence + 1 < 2 ^ 32)
    (hval : validateCheckpoint (recoveryCheckpoint place group plan.terminal) = .ok ())
    (hcons : consumeCheckpoint group (recoveryCheckpoint place group plan.terminal)
      = .ok (group.push (recoveryCheckpoint place group plan.terminal))) :
    RecoveryCloses place pins group := by
  have hnext : recoverySequence group = group.lastSequence + 1 := Nat.mod_eq_of_lt hseq
  have hlast : recoverySequence group < 2 ^ 32 := by
    rw [hnext]
    exact hseq
  have hbytes := proofSize_le hplace h.invocation hlast hsize
  set proof := recoveryCheckpoint place group plan.terminal with hproofDef
  have hform : (Record.checkpoint proof).wellFormed place := by
    simp only [hproofDef, Record.wellFormed, recoveryCheckpoint, Bool.and_eq_true]
    exact ⟨⟨h.invocation, hpath, decide_eq_true hsize⟩, decide_eq_true hbytes⟩
  have hrch := h.push hform hcons
  have hstgs : (group.push proof).completedStages
      = group.completedStages ++ [.mutationConfirmed] := by
    rw [push_completedStages, if_neg (fun hcase => by cases hcase.1)]
    rfl
  have hconf : (group.push proof).mutationConfirmed := by
    rw [push_mutationConfirmed]
    exact Bool.or_true _
  obtain ⟨terminal, hterm, hprv, hfits, -⟩ := hrch.proof hconf
  obtain rfl : plan.terminal = terminal := by
    rw [push_mutationProof] at hterm
    exact Option.some.inj hterm
  have hout := consumeOutcome_proven hrch hconf hterm hprv hfits
  have hsame : recoveryOutcome place (group.push proof) .confirmed
      (group.push proof).completedStages plan.terminal
      = recoveryOutcome place group plan.mutation
          (group.completedStages ++ [.mutationConfirmed]) plan.terminal := by
    unfold recoveryOutcome
    rw [push_intent, hstgs, hmut]
  rw [hsame] at hout
  have hnd : (group.completedStages ++ [Stage.mutationConfirmed]).Nodup :=
    hstgs ▸ hrch.nodup
  have houtcomeFormed := wellFormed_outcome h hplace plan.mutation hnd hpath hsize
  have hmadeProof : makeRecord place (.checkpoint proof) = .ok (.checkpoint proof) := by
    unfold makeRecord
    dsimp only
    rw [hval]
    show (if _ then _ else _) = _
    rw [if_pos hform]
  have hmade := makeRecord_outcome (validateOutcome_of_consume hout) houtcomeFormed
  have hfeedProof : feedRecord place (some group) (group.generation, .checkpoint proof)
      = .ok (some (group.push proof)) :=
    feedRecord_ok.mpr ⟨hform, _, by rw [consumeV2, hcons]; rfl⟩
  refine ⟨plan, [.checkpoint proof, .outcome (recoveryOutcome place group plan.mutation
    (group.completedStages ++ [.mutationConfirmed]) plan.terminal)], hplan, ?_, ?_⟩
  · unfold recoveryRecords
    rw [if_pos hbnd, if_neg (by rw [hnext]; exact Nat.succ_ne_zero _), ← hproofDef, hmadeProof]
    show (makeRecord place _ >>= _) = _
    rw [hmade]
    rfl
  · exact foldlM_cons_ok.mpr ⟨_, hfeedProof,
      foldlM_cons_ok.mpr ⟨none, feedRecord_outcome hout houtcomeFormed, rfl⟩⟩

/-- No sequence number is left for the proof the group needs. -/
def OpenGroup.sequenceExhausted (group : OpenGroup) : Bool :=
  group.forwardComplete && group.anyForwardSent && !group.mutationConfirmed
    && group.lastSequence == 2 ^ 32 - 1

/-- Recovery ends the group with `AUDIT_INCOMPLETE`. -/
def OpenGroup.endsIncomplete (group : OpenGroup) : Bool :=
  if group.dispatchStarted then !group.mutationConfirmed && !group.forwardComplete
  else !group.markReadNoop

/-- A plan without a proof closes no group if its outcome cannot name the path. -/
theorem placed_of_closes {pins : PinSource} (hplan : classifyRecovery group pins = .ok plan)
    (hbnd : .appendMutationProofAndSync ∉ plan.boundaries) (h : RecoveryCloses place pins group) :
    plan.terminal.placed place := by
  obtain ⟨plan', records, hplan', hrecs, -⟩ := h
  cases hplan.symm.trans hplan'
  unfold recoveryRecords at hrecs
  rw [if_neg hbnd] at hrecs
  obtain ⟨made, hmade, -⟩ := bind_ok.mp hrecs
  unfold makeRecord at hmade
  dsimp only at hmade
  obtain ⟨-, -, hform⟩ := bind_ok.mp hmade
  split at hform
  · rename_i hwell
    simp only [Record.wellFormed, Bool.and_eq_true] at hwell
    exact hwell.1.1.2
  · cases hform

/-- **Recovery closes a group that is not dispatched**, if the outcome can name the path. -/
theorem closes_undispatched_iff (h : Reached place group) (hplace : place.Fits)
    (pins : List Pin) (hdisp : group.dispatchStarted = false) :
    RecoveryCloses place (.known pins) group
      ↔ (group.markReadNoop = false → place.validPath = true) := by
  have hplan : ∃ plan, classifyRecovery group (.known pins) = .ok plan
      ∧ .appendMutationProofAndSync ∉ plan.boundaries ∧ plan.mutation = .none
      ∧ plan.terminal = if group.markReadNoop then noopTerminal group.intent.plan
          else .incomplete .none group.completedStages := by
    unfold classifyRecovery
    rw [if_neg (fun hcase => by cases hcase.1), hdisp]
    refine ⟨_, rfl, ?_, rfl, rfl⟩
    dsimp only
    cases group.hasSpool <;> cases group.keyed <;> decide
  obtain ⟨plan, hplan, hbnd, hmut, hterm⟩ := hplan
  have hpath : plan.terminal.placed place = true
      ↔ (group.markReadNoop = false → place.validPath = true) := by
    rw [hterm]
    cases group.markReadNoop <;> simp [Terminal.placed, noopTerminal]
  refine ⟨fun hcls => hpath.mp (placed_of_closes hplan hbnd hcls), fun hvalid =>
    closes_of_outcome h hplace hplan hbnd (hpath.mpr hvalid) ?_ ?_⟩
  · rw [hterm]
    refine le_trans ?_ (kOtherTerminalBytes_le _)
    cases hnoop : group.markReadNoop with
    | false => exact incomplete_size_le hplace _ h.nodup
    | true =>
      simp only [OpenGroup.markReadNoop, Bool.and_eq_true, beq_iff_eq] at hnoop
      exact noop_size_le place (by decide) (h.short_target (.inr hnoop.1))
  · rw [hterm, hmut]
    exact consumeOutcome_undispatched h hdisp

/-- **So it does a dispatched group with neither a proof nor a complete vector.** -/
theorem closes_unproven_iff (h : Reached place group) (hplace : place.Fits)
    (pins : List Pin) (hdisp : group.dispatchStarted)
    (hprf : group.mutationConfirmed = false) (hcomp : group.forwardComplete = false) :
    RecoveryCloses place (.known pins) group ↔ place.validPath = true := by
  have hplan : classifyRecovery group (.known pins) = .ok
      { mutation := deriveMutationState group
        terminal := .incomplete (deriveMutationState group) group.completedStages
        boundaries := [.appendOutcomeAndSync]
        retainStore := group.keyed
        retainSpool := group.hasSpool } := by
    unfold classifyRecovery
    rw [if_neg (fun hcase => by cases hcase.1), hdisp, hprf, hcomp]
    rfl
  refine ⟨placed_of_closes hplan (by dsimp only; decide), fun hvalid =>
    closes_of_outcome h hplace hplan (by dsimp only; decide) hvalid ?_ ?_⟩
  · exact (incomplete_size_le hplace _ h.nodup).trans (kOtherTerminalBytes_le _)
  · exact consumeOutcome_unproven h hdisp hprf hcomp

/-- The plan of a group with a proof or a complete vector. -/
theorem classifyRecovery_proven (pins : List Pin) (hdisp : group.dispatchStarted)
    (hknown : group.mutationConfirmed ∨ group.forwardComplete)
    (hterm : provenTerminal group = .ok terminal) :
    ∃ plan, classifyRecovery group (.known pins) = .ok plan
      ∧ plan.mutation = deriveMutationState group ∧ plan.terminal = terminal
      ∧ (.appendMutationProofAndSync ∈ plan.boundaries ↔
          (group.forwardComplete && group.anyForwardSent && !group.mutationConfirmed)) := by
  unfold classifyRecovery
  rw [if_neg (fun hcase => by cases hcase.1), hdisp, if_neg (by simp),
    if_neg (by rcases hknown with h | h <;> simp [h]), hterm]
  refine ⟨_, rfl, rfl, rfl, ?_⟩
  simp only [mem_append]
  cases group.forwardComplete && group.anyForwardSent && !group.mutationConfirmed <;>
    cases group.keyed <;> cases group.hasSpool && !group.retainIncompleteForward <;> decide

/-- **Recovery closes a group with a mutation proof.** -/
theorem closes_proven (h : Reached place group) (hplace : place.Fits) (pins : List Pin)
    (hprf : group.mutationConfirmed) : RecoveryCloses place (.known pins) group := by
  have hdisp := h.dispatched_of_proof hprf
  obtain ⟨terminal, hterm, hprv, hfits, hsize⟩ := h.proof hprf
  have hproven : provenTerminal group = .ok terminal := by
    unfold provenTerminal
    rw [if_pos hprf, hterm]
  obtain ⟨plan, hplan, hmut, rfl, hbnd⟩ :=
    classifyRecovery_proven pins hdisp (.inl hprf) hproven
  have hder : deriveMutationState group = .confirmed := by
    simp [deriveMutationState, hprf]
  refine closes_of_outcome h hplace hplan (by rw [hbnd, hprf]; simp) (placed_of_proves hprv) hsize ?_
  rw [hmut, hder]
  exact consumeOutcome_proven h hprf hterm hprv hfits

/-- The plan of a complete vector that was not confirmed. -/
theorem classifyRecovery_complete (h : Reached place group) (pins : List Pin)
    (hprf : group.mutationConfirmed = false) (hcomp : group.forwardComplete) :
    ∃ plan items, classifyRecovery group (.known pins) = .ok plan
      ∧ group.finalForwardItems = some items
      ∧ plan.mutation = deriveMutationState group
      ∧ plan.terminal = forwardTerminal group.intent.plan.target items
      ∧ plan.terminal.size place ≤ terminalByteCeiling group.intent.operation
      ∧ (.appendMutationProofAndSync ∈ plan.boundaries ↔ group.anyForwardSent) := by
  obtain ⟨items, hvec, hall⟩ := h.complete_vector hcomp
  obtain ⟨hop, hval, -⟩ := h.vector items hvec
  have hdisp := (h.of_vector hvec).1
  have hproven : provenTerminal group
      = .ok (forwardTerminal group.intent.plan.target items) := by
    unfold provenTerminal
    rw [if_neg (by rw [hprf]; simp)]
    exact deriveForwardTerminal_eq hvec hall
  obtain ⟨plan, hplan, hmut, hterm, hbnd⟩ :=
    classifyRecovery_proven pins hdisp (.inr hcomp) hproven
  refine ⟨plan, items, hplan, hvec, hmut, hterm, ?_, ?_⟩
  · rw [hterm, hop]
    exact forwardTerminal_size_le place hval (h.short_target (.inl hop))
  · rw [hbnd, hcomp, hprf]
    simp

/-- **Recovery closes a complete vector**, if a sequence number is left for its proof. -/
theorem closes_complete_iff (h : Reached place group) (hplace : place.Fits) (pins : List Pin)
    (hprf : group.mutationConfirmed = false) (hcomp : group.forwardComplete) :
    RecoveryCloses place (.known pins) group ↔ group.sequenceExhausted = false := by
  obtain ⟨plan, items, hplan, hvec, hmut, hterm, hsize, hbnd⟩ :=
    classifyRecovery_complete h pins hprf hcomp
  have hpath : plan.terminal.placed place := hterm ▸ placed_forwardTerminal _ _
  have hexh : group.sequenceExhausted
      = (group.anyForwardSent && group.lastSequence == 2 ^ 32 - 1) := by
    unfold OpenGroup.sequenceExhausted
    rw [hcomp, hprf, Bool.true_and, Bool.not_false, Bool.and_true]
  rw [hexh]
  cases hsent : group.anyForwardSent with
  | false =>
    refine iff_of_true (closes_of_outcome h hplace hplan ?_ hpath hsize ?_) rfl
    · rw [hbnd, hsent]
      exact Bool.false_ne_true
    · rw [hmut, hterm]
      exact consumeOutcome_unsent h hprf hcomp hsent hvec
  | true =>
    have hproofDue := hbnd.mpr hsent
    by_cases hlast : group.lastSequence = 2 ^ 32 - 1
    · rw [hlast]
      refine iff_of_false ?_ (by decide)
      rintro ⟨plan', records, hplan', hrecs, -⟩
      obtain rfl : plan = plan' := Except.ok.inj (hplan.symm.trans hplan')
      unfold recoveryRecords recoverySequence at hrecs
      rw [if_pos hproofDue, if_pos (by rw [hlast]; rfl)] at hrecs
      cases hrecs
    · have hseq : group.lastSequence + 1 < 2 ^ 32 := by
        have := h.sequence
        omega
      obtain ⟨hval, hcons⟩ :=
        consumeCheckpoint_recovery h hprf hcomp hsent hvec hseq
      rw [← hterm] at hval hcons
      refine iff_of_true
        (closes_of_proof h hplace hplan hproofDue ?_ hpath hsize hseq hval hcons) ?_
      · rw [hmut]
        simp [deriveMutationState, hsent]
      · simpa using hlast

/-- **Recovery closes every open group** the reader can hold, except a complete
forward with a sent item whose last checkpoint took the last sequence number, and a group
that ends with `AUDIT_INCOMPLETE` in a log whose path is not UTF-8. -/
theorem recovery_closes_iff {records : List (Nat × Record)}
    (hfeed : feed place none records = .ok (some group)) (hplace : place.Fits)
    (pins : List Pin) :
    RecoveryCloses place (.known pins) group ↔ group.sequenceExhausted = false
      ∧ (group.endsIncomplete = true → place.validPath = true) := by
  have h := reached_of_feed hfeed
  have hexh : group.forwardComplete = false ∨ group.mutationConfirmed →
      group.sequenceExhausted = false := by
    rintro (hcase | hcase) <;> simp [OpenGroup.sequenceExhausted, hcase]
  -- the cases of the classification, from the least known to the most
  cases hdisp : group.dispatchStarted with
  | false =>
    have hcomp : group.forwardComplete = false := by
      rw [h.complete, (h.undispatched hdisp).2]
      rfl
    rw [closes_undispatched_iff h hplace pins hdisp]
    simp [OpenGroup.endsIncomplete, hdisp, hexh (.inl hcomp)]
  | true =>
    cases hprf : group.mutationConfirmed with
    | true =>
      exact iff_of_true (closes_proven h hplace pins hprf)
        ⟨hexh (.inr hprf), by simp [OpenGroup.endsIncomplete, hdisp, hprf]⟩
    | false =>
      cases hcomp : group.forwardComplete with
      | true =>
        rw [closes_complete_iff h hplace pins hprf hcomp]
        simp [OpenGroup.endsIncomplete, hdisp, hcomp]
      | false =>
        rw [closes_unproven_iff h hplace pins hdisp hprf hcomp]
        simp [OpenGroup.endsIncomplete, hdisp, hprf, hcomp, hexh (.inl hcomp)]

end Closes

/-! A forward of one message, whose only item is sent. -/

def mainPlace : LogPlace where
  account := "main"
  path := "/home/u/.local/state/tgcli/accounts/main/audit.log"

def forwardedMessage : SentMessage where
  id := 1048576
  chatId := 11
  date := some 1700000000
  sender := .user 5
  isOutgoing := true
  topic := none
  type := .text
  text := "hi"
  scheduled := false

/-- It was sent, and another one was refused. -/
def forwardVector : List ForwardItem :=
  [⟨2097152, .sent forwardedMessage⟩, ⟨3145728, .failed .tdlibError (some 429) (some 30)⟩]

def forwardInvocation : String := "0123456789abcdef0123456789abcdef"

def forwardIntent : Intent where
  invocation := forwardInvocation
  unixSeconds := 1700000000
  operation := .msgForward
  plan := { target := some { chatId := some 10, toChatId := some 11 }, messageIds := [2097152, 3145728] }
  fingerprint := "f1"
  keyHash := none
  bytes := 600

def forwardCheckpoint (sequence : Nat) (data : CheckpointData) : Record :=
  .checkpoint
    { invocation := forwardInvocation, operation := .msgForward, sequence := sequence, data := data
      bytes := 400 }

/-- The records up to the vector, whose checkpoint has number `last`. -/
def forwardRecords (last : Nat) : List (Nat × Record) :=
  [(7, .intent forwardIntent), (7, forwardCheckpoint 1 (.dispatchStarted "p")),
    (7, forwardCheckpoint last (.forwardProgress forwardVector))]

/-- The open group these records leave. -/
def forwardGroup (last : Nat) : OpenGroup :=
  ((OpenGroup.opened 7 forwardIntent).push
    ⟨forwardInvocation, .msgForward, 1, .dispatchStarted "p", 400⟩).push
    ⟨forwardInvocation, .msgForward, last, .forwardProgress forwardVector, 400⟩

theorem recovery_closes_iff_forwardGroup :
    feed mainPlace none (forwardRecords 2) = .ok (some (forwardGroup 2))
      ∧ RecoveryCloses mainPlace (.known []) (forwardGroup 2) := by
  have hfeed : feed mainPlace none (forwardRecords 2) = .ok (some (forwardGroup 2)) := by
    decide +kernel
  exact ⟨hfeed, (recovery_closes_iff hfeed ⟨by decide, by decide⟩ []).mpr (by decide +kernel)⟩

/-- The reader accepts a checkpoint with the last number there is; recovery then has no number
for the proof. -/
theorem recovery_stuck_on_last_sequence :
    feed mainPlace none (forwardRecords 4294967295) = .ok (some (forwardGroup 4294967295))
      ∧ ¬ RecoveryCloses mainPlace (.known []) (forwardGroup 4294967295) := by
  refine ⟨by decide +kernel, ?_⟩
  rintro ⟨plan, records, hplan, hrecs, -⟩
  have hstuck : (classifyRecovery (forwardGroup 4294967295) (.known [])
      >>= recoveryRecords mainPlace (forwardGroup 4294967295))
      = .error "recovery checkpoint sequence overflowed" := by decide +kernel
  rw [hplan] at hstuck
  cases hrecs.symm.trans hstuck

end TgCli.Audit
