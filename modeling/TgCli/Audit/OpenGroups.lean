/-
  TgCli.Audit.OpenGroups — WHAT HOLDS OF EVERY OPEN GROUP

  An open group is reached by feeding records to `consumeV2`.  Every accepted
  checkpoint passed the stage history, so the flags of the group, its list of
  completed stages and its forward vector say the same as its checkpoints.

  Main results:
    * `Reached.push` — one accepted checkpoint keeps `Reached`;
    * `reached_of_feed` — every open group an accepted sequence of records
      leaves is `Reached`.
-/
import TgCli.Audit.Envelope
import TgCli.Lib.Folds

namespace TgCli.Audit

open Lib List OpenGroup Bool

/-! ## §1. Feeding records. -/

/-- One record, with the generation of its segment. -/
def feedRecord (place : LogPlace) (state : Option OpenGroup) (record : Nat × Record) :
    Except String (Option OpenGroup) :=
  if record.2.wellFormed place = false then .error "v2 record exceeds its byte ceiling"
  else do
    let (state, _) ← consumeV2 record.1 state record.2
    .ok state

/-- A sequence of records. -/
def feed (place : LogPlace) (state : Option OpenGroup) (records : List (Nat × Record)) :
    Except String (Option OpenGroup) :=
  records.foldlM (feedRecord place) state

theorem feedRecord_ok {place : LogPlace} {generation : Nat} {record : Record}
    {state state' : Option OpenGroup} :
    feedRecord place state (generation, record) = .ok state' ↔ record.wellFormed place
        ∧ ∃ view, consumeV2 generation state record = .ok (state', view) := by
  unfold feedRecord
  cases hform : record.wellFormed place with
  | false => simp
  | true =>
    show (consumeV2 generation state record >>= _) = _ ↔ _
    cases consumeV2 generation state record <;> simp [bind, Except.bind, Prod.ext_iff]

/-- The steps of the automaton. -/
inductive Step (generation : Nat) :
    Option OpenGroup → Record → Option OpenGroup → Option CompletedView → Prop
  | intent {intent : Intent} (h : validIntent intent) :
      Step generation none (.intent intent) (some (.opened generation intent)) none
  | checkpoint (h : consumeCheckpoint group checkpoint = .ok group') :
      Step generation (some group) (.checkpoint checkpoint) (some group') none
  | outcome {outcome : Outcome} (h : consumeOutcome group outcome = .ok ()) :
      Step generation (some group) (.outcome outcome) none (some ⟨group, outcome⟩)

theorem step_of_consumeV2 (h : consumeV2 n state record = .ok (state', view)) :
    Step n state record state' view := by
  unfold consumeV2 at h
  split at h
  · split at h
    · cases h
    rename_i hval
    cases h
    exact .intent (by simpa using hval)
  · cases h
  · obtain ⟨_, hchk, h⟩ := bind_ok.mp h
    cases h
    exact .checkpoint hchk
  · obtain ⟨_, hout, h⟩ := bind_ok.mp h
    cases h
    exact .outcome hout
  all_goals
    obtain ⟨_, -, h⟩ := bind_ok.mp h
    cases h

/-! ## §2. What an accepted checkpoint passed. -/

variable {group group' : OpenGroup} {checkpoint : Checkpoint} {operation : Operation}
  {state final : HistoryState} {items : List ForwardItem} {place : LogPlace}

theorem consumeCheckpoint_ok (h : consumeCheckpoint group checkpoint = .ok group') :
    validateCheckpoint checkpoint = .ok () ∧ checkpoint.invocation = group.intent.invocation
      ∧ checkpoint.operation = group.intent.operation
      ∧ checkpointFits group checkpoint = .ok ()
      ∧ (∃ state, transitionHistory group.intent.operation (group.checkpoints ++ [checkpoint])
          = .ok state)
      ∧ (∀ terminal, checkpoint.data = .mutationConfirmed terminal →
          proofFits group group.intent.operation terminal = .ok ())
      ∧ group' = group.push checkpoint := by
  obtain ⟨_, hval, h⟩ := bind_ok.mp h
  split at h
  · cases h
  rename_i hsame
  push Not at hsame
  obtain ⟨hinvo, hop⟩ := hsame
  obtain ⟨_, hfits, h⟩ := bind_ok.mp h
  obtain ⟨state, hhist, h⟩ := bind_ok.mp h
  rw [← hop] at hhist
  refine ⟨hval, hinvo.symm, hop.symm, hfits, ⟨state, hhist⟩, ?_⟩
  split at h
  · rename_i terminal hdata
    obtain ⟨_, hprf, h⟩ := bind_ok.mp h
    rw [← hop] at hprf
    refine ⟨?_, (Except.ok.inj h).symm⟩
    intro other hother
    rw [hdata] at hother
    cases hother
    exact hprf
  · rename_i hdata
    exact ⟨fun terminal hterm => absurd hterm (hdata terminal), (Except.ok.inj h).symm⟩

theorem historyStep_ok (h : historyStep operation state checkpoint = .ok state') :
    state.previousSequence < checkpoint.sequence ∧ validCheckpointData operation checkpoint.data
      ∧ checkpoint.stage ∈ allowedOrder operation
      ∧ (∀ previous ∈ state.previousPosition,
          previous ≤ (allowedOrder operation).idxOf checkpoint.stage)
      ∧ (state.previousPosition = some ((allowedOrder operation).idxOf checkpoint.stage) →
          checkpoint.stage = .forwardProgress)
      ∧ ∃ staged progressed, stageFollows operation state checkpoint.stage = .ok staged
        ∧ progressFollows staged checkpoint.data = .ok progressed
        ∧ state' = { progressed with
            previousSequence := checkpoint.sequence
            previousPosition := some ((allowedOrder operation).idxOf checkpoint.stage) } := by
  unfold historyStep at h
  split at h
  · cases h
  rename_i hid
  push Not at hid
  obtain ⟨-, hseq, hdata⟩ := hid
  dsimp only at h
  split at h
  · cases h
  rename_i hall
  split at h
  · cases h
  rename_i hregression
  split at h
  · cases h
  rename_i hrepeat
  obtain ⟨staged, hstd, h⟩ := bind_ok.mp h
  obtain ⟨progressed, hprog, h⟩ := bind_ok.mp h
  refine ⟨hseq, by simpa using hdata, by simpa using hall, ?_, ?_, staged, progressed,
    hstd, hprog, (Except.ok.inj h).symm⟩
  · intro previous hprev
    rw [Option.mem_def] at hprev
    simpa [hprev] using hregression
  · intro hprev
    by_contra hstg
    exact hrepeat ⟨hprev, hstg⟩

/-- What `historyStep_ok` reads off a step is enough for the step. -/
theorem historyStep_of (hop : checkpoint.operation = operation)
    (hseq : state.previousSequence < checkpoint.sequence)
    (hdata : validCheckpointData operation checkpoint.data)
    (hall : checkpoint.stage ∈ allowedOrder operation)
    (hfwd : ∀ previous ∈ state.previousPosition,
      previous < (allowedOrder operation).idxOf checkpoint.stage)
    (hstd : stageFollows operation state checkpoint.stage = .ok staged)
    (hprog : progressFollows staged checkpoint.data = .ok progressed) :
    historyStep operation state checkpoint = .ok { progressed with
      previousSequence := checkpoint.sequence
      previousPosition := some ((allowedOrder operation).idxOf checkpoint.stage) } := by
  have hregression : ¬ state.previousPosition.any (fun previous =>
      decide ((allowedOrder operation).idxOf checkpoint.stage < previous)) := by
    cases hprev : state.previousPosition with
    | none => simp
    | some previous =>
      have hlt := hfwd previous hprev
      simp only [Option.any_some, decide_eq_true_eq]
      omega
  have hrepeat : ¬ (state.previousPosition
      = some ((allowedOrder operation).idxOf checkpoint.stage)
      ∧ checkpoint.stage ≠ .forwardProgress) := by
    rintro ⟨hprev, -⟩
    exact absurd (hfwd _ hprev) (lt_irrefl _)
  unfold historyStep
  rw [if_neg (by rw [hdata]; simp [hop, hseq])]
  rw [if_neg (not_not.mpr hall), if_neg hregression, if_neg hrepeat, hstd]
  show (progressFollows staged checkpoint.data >>= _) = _
  rw [hprog]
  rfl

/-! ## §3. The group after a checkpoint. -/

/-- The forward vector a checkpoint carries. -/
def CheckpointData.vector : CheckpointData → Option (List ForwardItem)
  | .forwardProgress items => some items
  | _ => none

/-- The terminal a mutation proof carries. -/
def CheckpointData.proof : CheckpointData → Option Terminal
  | .mutationConfirmed terminal => some terminal
  | _ => none

section Push

variable (group : OpenGroup) (checkpoint : Checkpoint)

@[simp] theorem push_intent : (group.push checkpoint).intent = group.intent := by
  unfold push
  split <;> rfl

@[simp] theorem push_checkpoints :
    (group.push checkpoint).checkpoints = group.checkpoints ++ [checkpoint] := by
  unfold push
  split <;> rfl

@[simp] theorem push_keyed : (group.push checkpoint).keyed = group.keyed := by
  unfold push
  split <;> rfl

@[simp] theorem push_completedStages : (group.push checkpoint).completedStages
      = if checkpoint.stage = .forwardProgress ∧ checkpoint.stage ∈ group.completedStages then
          group.completedStages
        else group.completedStages ++ [checkpoint.stage] := by
  unfold push
  split <;> rfl

@[simp] theorem push_hasSpool :
    (group.push checkpoint).hasSpool = (group.hasSpool || checkpoint.stage == .spoolReady) := by
  unfold push
  split <;> rfl

@[simp] theorem push_dispatchStarted : (group.push checkpoint).dispatchStarted
      = (group.dispatchStarted || checkpoint.stage == .dispatchStarted) := by
  unfold push
  split <;> rfl

@[simp] theorem push_mutationConfirmed : (group.push checkpoint).mutationConfirmed
      = (group.mutationConfirmed || checkpoint.stage == .mutationConfirmed) := by
  unfold push
  split <;> rfl

/-- The completed stages gain the stage of the checkpoint. -/
theorem push_contains (stage : Stage) : (group.push checkpoint).completedStages.contains stage
      = (group.completedStages.contains stage || checkpoint.stage == stage) := by
  rw [push_completedStages, Bool.eq_iff_iff]
  split
  · rename_i hcase
    simp only [contains_iff_mem, or_eq_true, beq_iff_eq]
    exact ⟨.inl, fun h => h.elim id fun hsame => hsame ▸ hcase.2⟩
  · simp only [contains_iff_mem, mem_append, mem_singleton, or_eq_true, beq_iff_eq]
    exact or_congr_right eq_comm

/-- The vector after a checkpoint is the vector it carries, if it carries one. -/
theorem push_finalForwardItems : (group.push checkpoint).finalForwardItems
      = checkpoint.data.vector.or group.finalForwardItems := by
  unfold finalForwardItems
  rw [push_checkpoints, reverse_append, reverse_singleton, singleton_append, findSome?_cons]
  cases checkpoint.data <;> rfl

theorem push_mutationProof :
    (group.push checkpoint).mutationProof = checkpoint.data.proof.or group.mutationProof := by
  unfold mutationProof
  rw [push_checkpoints, reverse_append, reverse_singleton, singleton_append, findSome?_cons]
  cases checkpoint.data <;> rfl

theorem push_forwardComplete : (group.push checkpoint).forwardComplete
      = (checkpoint.data.vector.map forwardVectorComplete).getD group.forwardComplete := by
  unfold push
  cases checkpoint.data <;> rfl

theorem push_anyForwardSent : (group.push checkpoint).anyForwardSent
      = (group.anyForwardSent || (checkpoint.data.vector.getD []).any (·.isSent)) := by
  unfold push
  cases checkpoint.data <;> first | rfl | exact (Bool.or_false _).symm

end Push

/-- The sequence number of the latest checkpoint. -/
def OpenGroup.lastSequence (group : OpenGroup) : Nat :=
  (group.checkpoints.getLast?.map (·.sequence)).getD 0

@[simp] theorem push_lastSequence (group : OpenGroup) (checkpoint : Checkpoint) :
    (group.push checkpoint).lastSequence = checkpoint.sequence := by
  unfold OpenGroup.lastSequence
  rw [push_checkpoints, getLast?_concat]
  rfl

/-! ## §4. The stage history and the flags of the group. -/

/-- The positions of the stage order that are used up. -/
def usedPositions : Option Nat → Nat
  | none => 0
  | some position => position + 1

/-- The history of the group's checkpoints says what its flags say. -/
structure Tracks (group : OpenGroup) (state : HistoryState) : Prop where
  run : transitionHistory group.intent.operation group.checkpoints = .ok state
  sequence : state.previousSequence = group.lastSequence
  spool : state.sawSpool = group.hasSpool
  dispatch : state.sawDispatch = group.dispatchStarted
  mutation : state.sawMutation = group.mutationConfirmed
  forward : state.previousForward = group.finalForwardItems
  /-- the completed stages stand in the order of the operation -/
  stages : group.completedStages.Sublist
    ((allowedOrder group.intent.operation).take (usedPositions state.previousPosition))
  /-- the latest stage is the last of them -/
  latest : ∀ position ∈ state.previousPosition, ∃ stage ∈ group.completedStages,
    (allowedOrder group.intent.operation).idxOf stage = position
  dispatchStage : group.dispatchStarted = group.completedStages.contains .dispatchStarted
  spoolStage : group.hasSpool = group.completedStages.contains .spoolReady
  proofStage : group.mutationConfirmed = group.completedStages.contains .mutationConfirmed

/-- What a stage needs, and what the history remembers of it. -/
theorem stageFollows_ok (h : stageFollows operation state stage = .ok staged) :
    staged.previousForward = state.previousForward
      ∧ staged.sawSpool = (state.sawSpool || stage == .spoolReady)
      ∧ staged.sawDispatch = (state.sawDispatch || stage == .dispatchStarted)
      ∧ staged.sawMutation = (state.sawMutation || stage == .mutationConfirmed)
      ∧ (stage = .idempotencyPending → state.previousPosition = none)
      ∧ (stage = .spoolReady → state.sawDispatch = false)
      ∧ (stage = .dispatchStarted → state.sawMutation = false
          ∧ (operation = .savedAttach → state.sawSpool))
      ∧ (stage = .temporaryIdsObserved ∨ stage = .forwardProgress ∨ stage = .mutationConfirmed →
          state.sawDispatch ∧ state.sawMutation = false) := by
  -- every stage has one guard; what the guard lets through is read off the flags
  cases stage <;> unfold stageFollows at h <;> dsimp only at h <;> split at h
  all_goals first | (cases h; done) | skip
  all_goals
    cases h
    simp_all

theorem progressFollows_ok (h : progressFollows state data = .ok progressed) :
    progressed.sawSpool = state.sawSpool ∧ progressed.sawDispatch = state.sawDispatch
      ∧ progressed.sawMutation = state.sawMutation
      ∧ progressed.previousForward = data.vector.or state.previousForward
      ∧ (∀ items previous, data = .forwardProgress items → state.previousForward = some previous →
          previous.length = items.length ∧ itemsFollow previous items = .ok true) := by
  unfold progressFollows at h
  split at h
  · rename_i items
    split at h
    · cases h
    split at h
    · rename_i hnone
      cases h
      exact ⟨rfl, rfl, rfl, rfl, fun _ _ _ hsome => by rw [hnone] at hsome; cases hsome⟩
    · rename_i previous hsome
      split at h
      · cases h
      rename_i hlen
      obtain ⟨advanced, hfollow, h⟩ := bind_ok.mp h
      cases advanced with
      | false => cases h
      | true =>
        cases h
        refine ⟨rfl, rfl, rfl, rfl, ?_⟩
        intro items' previous' hitems hprev
        cases hitems
        rw [hsome] at hprev
        cases hprev
        exact ⟨not_not.mp hlen, hfollow⟩
  · rename_i hdata
    cases h
    refine ⟨rfl, rfl, rfl, ?_, fun items _ hitems => absurd hitems (hdata items)⟩
    cases data <;> first | rfl | exact absurd rfl (hdata _)

/-- **One checkpoint.**  The history of a group with one more checkpoint. -/
theorem Tracks.step (h : Tracks group state)
    (hfin : transitionHistory group.intent.operation (group.checkpoints ++ [checkpoint])
      = .ok final) : historyStep group.intent.operation state checkpoint = .ok final := by
  obtain ⟨before, hbef, hlast⟩ := foldlM_append_ok.mp hfin
  have hrun := h.run
  unfold transitionHistory at hrun
  rw [hrun] at hbef
  cases hbef
  obtain ⟨after, hstep, hnil⟩ := foldlM_cons_ok.mp hlast
  rw [hstep]
  exact hnil

/-- The completed stages stay in the order of the operation. -/
theorem Tracks.stages_push (h : Tracks group state)
    (hstep : historyStep group.intent.operation state checkpoint = .ok final) :
    (group.push checkpoint).completedStages.Sublist
      ((allowedOrder group.intent.operation).take (usedPositions final.previousPosition)) := by
  obtain ⟨-, -, hall, hfwd, hrepeat, _, _, -, -, rfl⟩ := historyStep_ok hstep
  set position := (allowedOrder group.intent.operation).idxOf checkpoint.stage with hpos
  rw [push_completedStages]
  split
  · -- a vector after a vector: the used positions only grow
    refine h.stages.trans (take_sublist_take_left ?_)
    show usedPositions state.previousPosition ≤ position + 1
    cases hprev : state.previousPosition with
    | none => exact Nat.zero_le _
    | some previous => exact Nat.succ_le_succ (hfwd previous hprev)
  · rename_i hnew
    have hused : usedPositions state.previousPosition ≤ position := by
      cases hprev : state.previousPosition with
      | none => exact Nat.zero_le _
      | some previous =>
        refine Nat.lt_of_le_of_ne (hfwd previous hprev) ?_
        rintro rfl
        -- the same position again is a vector, and then the stage is completed already
        have hprogress := hrepeat hprev
        obtain ⟨stage, hstg, hidx⟩ := h.latest position hprev
        have hmem : stage ∈ allowedOrder group.intent.operation :=
          mem_of_mem_take (h.stages.subset hstg)
        have hsame : stage = checkpoint.stage := (idxOf_inj hmem).mp hidx
        exact hnew ⟨hprogress, hsame ▸ hstg⟩
    show List.Sublist _ ((allowedOrder group.intent.operation).take (position + 1))
    rw [take_add_one, hpos, getElem?_idxOf hall]
    exact (h.stages.trans (take_sublist_take_left hused)).append (List.Sublist.refl _)

/-- **One checkpoint keeps the history and the flags together.** -/
theorem Tracks.push (h : Tracks group state)
    (hfin : transitionHistory group.intent.operation (group.checkpoints ++ [checkpoint])
      = .ok final) : Tracks (group.push checkpoint) final := by
  have hstep := h.step hfin
  have hstgs := h.stages_push hstep
  obtain ⟨-, -, -, -, -, staged, progressed, hstd, hprog, rfl⟩ := historyStep_ok hstep
  obtain ⟨hfwd1, hspool1, hdisp1, hmut1, -⟩ := stageFollows_ok hstd
  obtain ⟨hspool2, hdisp2, hmut2, hfwd2, -⟩ := progressFollows_ok hprog
  refine
    { run := by rw [push_intent, push_checkpoints]; exact hfin
      sequence := (push_lastSequence group checkpoint).symm
      spool := ?_
      dispatch := ?_
      mutation := ?_
      forward := ?_
      stages := by rw [push_intent]; exact hstgs
      latest := ?_
      dispatchStage := ?_
      spoolStage := ?_
      proofStage := ?_ }
  · rw [push_hasSpool, ← h.spool, ← hspool1]
    exact hspool2
  · rw [push_dispatchStarted, ← h.dispatch, ← hdisp1]
    exact hdisp2
  · rw [push_mutationConfirmed, ← h.mutation, ← hmut1]
    exact hmut2
  · rw [push_finalForwardItems, ← h.forward, ← hfwd1]
    exact hfwd2
  · intro position hpos
    obtain rfl := Option.mem_some_iff.mp hpos
    refine ⟨checkpoint.stage, ?_, by rw [push_intent]⟩
    rw [← contains_iff_mem, push_contains, beq_self_eq_true, Bool.or_true]
  · rw [push_dispatchStarted, h.dispatchStage, push_contains]
  · rw [push_hasSpool, h.spoolStage, push_contains]
  · rw [push_mutationConfirmed, h.proofStage, push_contains]

/-! ## §5. The forward vector. -/

/-- Items that are not pending stay as they are. -/
theorem itemsFollow_mem {previous : List ForwardItem}
    (hlen : previous.length = items.length) (h : itemsFollow previous items = .ok advanced) :
    ∀ item ∈ previous, item.isPending = false → item ∈ items := by
  induction previous generalizing items advanced with
  | nil =>
    intro item hit
    cases hit
  | cons before priors ih =>
    cases items with
    | nil => cases hlen
    | cons after items =>
      simp only [itemsFollow] at h
      split at h
      · cases h
      rename_i hkept
      push Not at hkept
      split at h
      · cases h
      obtain ⟨rest, hrest, -⟩ := bind_ok.mp h
      intro item hit hterm
      rcases mem_cons.mp hit with rfl | hprior
      · rw [hkept.2 hterm]
        exact mem_cons_self
      · exact mem_cons_of_mem _
          (ih (Nat.succ.inj hlen) hrest item hprior hterm)

theorem isPending_of_isSent {item : ForwardItem} (h : item.isSent) : item.isPending = false := by
  obtain ⟨source, status⟩ := item
  cases status <;> first | rfl | cases h

theorem any_isSent_of_itemsFollow {previous : List ForwardItem}
    (hlen : previous.length = items.length) (h : itemsFollow previous items = .ok advanced)
    (hsent : previous.any (·.isSent)) : items.any (·.isSent) := by
  rw [any_eq_true] at hsent ⊢
  obtain ⟨item, hit, hsent⟩ := hsent
  exact ⟨item, itemsFollow_mem hlen h item hit (isPending_of_isSent hsent), hsent⟩

/-- What a proof says about the group depends on the plan and the vector only. -/
theorem proofFits_congr (hint : group'.intent = group.intent)
    (hvec : group'.finalForwardItems = group.finalForwardItems)
    (hcomp : group'.forwardComplete = group.forwardComplete) (operation : Operation)
    (terminal : Terminal) :
    proofFits group' operation terminal = proofFits group operation terminal := by
  have hlat : terminalMatchesLatestForward group' terminal
      = terminalMatchesLatestForward group terminal := by
    unfold terminalMatchesLatestForward
    rw [hvec, hint]
  have hder : deriveForwardTerminal group' = deriveForwardTerminal group := by
    unfold deriveForwardTerminal
    rw [hvec, hint]
  unfold proofFits
  rw [hint, hlat, hvec, hcomp, hder]

/-! ## §6. Reached groups. -/

/-- **What every open group satisfies.** -/
structure Reached (place : LogPlace) (group : OpenGroup) : Prop where
  tracked : ∃ state, Tracks group state
  invocation : validInvocationId group.intent.invocation = true
  target : validPlanTarget group.intent.operation group.intent.plan = true
  keyed : group.keyed = group.intent.keyHash.isSome
  sequence : group.lastSequence < 2 ^ 32
  needsDispatch : ∀ stage ∈ group.completedStages,
    stage = .temporaryIdsObserved ∨ stage = .forwardProgress ∨ stage = .mutationConfirmed →
      group.dispatchStarted = true
  needsSpool : group.intent.operation = .savedAttach → group.dispatchStarted = true →
    group.hasSpool = true
  progressStage : group.finalForwardItems.isSome = group.completedStages.contains .forwardProgress
  vector : ∀ items ∈ group.finalForwardItems, group.intent.operation = .msgForward
    ∧ validForwardItems items false false = true
    ∧ items.map (·.sourceId) = group.intent.plan.messageIds
  complete : group.forwardComplete
    = (group.finalForwardItems.map forwardVectorComplete).getD false
  anySent : group.anyForwardSent = (group.finalForwardItems.getD []).any (·.isSent)
  proof : group.mutationConfirmed = true → ∃ terminal, group.mutationProof = some terminal
    ∧ terminalProvesMutation group.intent.operation terminal = true
    ∧ proofFits group group.intent.operation terminal = .ok ()
    ∧ terminal.size place ≤ terminalByteCeiling group.intent.operation

theorem reached_opened (generation : Nat) {intent : Intent}
    (h : (Record.intent intent).wellFormed place) :
    Reached place (.opened generation intent) := by
  simp only [Record.wellFormed, and_eq_true] at h
  obtain ⟨⟨hinvo, htgt⟩, -⟩ := h
  exact
    { tracked := ⟨{}, rfl, rfl, rfl, rfl, rfl, rfl, List.Sublist.refl _, by simp, rfl, rfl, rfl⟩
      invocation := hinvo
      target := htgt
      keyed := rfl
      sequence := show 0 < 2 ^ 32 by decide
      needsDispatch := fun _ hmem => absurd hmem not_mem_nil
      needsSpool := fun _ hdisp => absurd hdisp false_ne_true
      progressStage := rfl
      vector := fun _ hmem => by cases hmem
      complete := rfl
      anySent := rfl
      proof := fun hprf => absurd hprf false_ne_true }

/-- **Nothing follows a mutation proof.** -/
theorem Reached.no_proof (h : Reached place group) (htrk : Tracks group state)
    (hstep : historyStep group.intent.operation state checkpoint = .ok final) :
    group.mutationConfirmed = false := by
  by_contra hprf
  rw [not_eq_false] at hprf
  have hmem : Stage.mutationConfirmed ∈ group.completedStages := by
    have hstg := htrk.proofStage
    rw [hprf] at hstg
    exact contains_iff_mem.mp hstg.symm
  have hdisp : state.sawDispatch := by
    rw [htrk.dispatch]
    exact h.needsDispatch _ hmem (.inr (.inr rfl))
  have hmut : state.sawMutation := htrk.mutation.trans hprf
  have hpos : state.previousPosition ≠ none := by
    intro hnone
    have hstgs := htrk.stages
    rw [hnone] at hstgs
    exact absurd (hstgs.subset hmem) (by simp [usedPositions])
  obtain ⟨-, -, -, -, -, staged, -, hstd, -⟩ := historyStep_ok hstep
  obtain ⟨-, -, -, -, hfirst, hspool, hstrt, hlater⟩ := stageFollows_ok hstd
  -- each stage is refused for a reason of its own
  cases hcase : checkpoint.stage with
  | idempotencyPending => exact hpos (hfirst hcase)
  | spoolReady => rw [hspool hcase] at hdisp; cases hdisp
  | dispatchStarted => rw [(hstrt hcase).1] at hmut; cases hmut
  | temporaryIdsObserved => rw [(hlater (.inl hcase)).2] at hmut; cases hmut
  | forwardProgress => rw [(hlater (.inr (.inl hcase))).2] at hmut; cases hmut
  | mutationConfirmed => rw [(hlater (.inr (.inr hcase))).2] at hmut; cases hmut

/-- The vector of the group after a checkpoint is a vector of the plan. -/
theorem vector_of_fits (hdata : checkpoint.data = .forwardProgress items)
    (hval : validCheckpointData group.intent.operation checkpoint.data)
    (hfits : checkpointFits group checkpoint = .ok ()) :
    group.intent.operation = .msgForward ∧ validForwardItems items false false
      ∧ items.map (·.sourceId) = group.intent.plan.messageIds := by
  rw [hdata] at hval
  simp only [validCheckpointData, and_eq_true, beq_iff_eq] at hval
  refine ⟨hval.1, hval.2, ?_⟩
  unfold checkpointFits at hfits
  rw [hdata] at hfits
  dsimp only at hfits
  split at hfits
  · cases hfits
  split at hfits
  · cases hfits
  rename_i hsrcs
  exact not_not.mp hsrcs

/-- **One accepted checkpoint.** -/
theorem Reached.push (h : Reached place group)
    (hform : (Record.checkpoint checkpoint).wellFormed place)
    (hok : consumeCheckpoint group checkpoint = .ok group') : Reached place group' := by
  obtain ⟨hval, -, hop, hfits, ⟨final, hfin⟩, hprf, rfl⟩ := consumeCheckpoint_ok hok
  obtain ⟨state, htrk⟩ := h.tracked
  have hstep := htrk.step hfin
  have hnoProof := h.no_proof htrk hstep
  have htrk' := htrk.push hfin
  obtain ⟨-, hdata, -, -, -, staged, progressed, hstd, hprog, -⟩ := historyStep_ok hstep
  obtain ⟨hfwd1, -, -, -, -, -, hstrt, hlater⟩ := stageFollows_ok hstd
  obtain ⟨-, -, -, -, hfollow⟩ := progressFollows_ok hprog
  refine
    { tracked := ⟨final, htrk'⟩
      invocation := by rw [push_intent]; exact h.invocation
      target := by rw [push_intent]; exact h.target
      keyed := by rw [push_keyed, push_intent]; exact h.keyed
      sequence := ?_
      needsDispatch := ?_
      needsSpool := ?_
      progressStage := ?_
      vector := ?_
      complete := ?_
      anySent := ?_
      proof := ?_ }
  · rw [push_lastSequence]
    unfold validateCheckpoint at hval
    split at hval
    · cases hval
    · rename_i hrange
      omega
  · intro stage hstg hkind
    rw [push_dispatchStarted]
    rw [← contains_iff_mem, push_contains, or_eq_true, contains_iff_mem, beq_iff_eq] at hstg
    rcases hstg with hold | rfl
    · rw [h.needsDispatch stage hold hkind, Bool.true_or]
    · rw [← htrk.dispatch, (hlater hkind).1, Bool.true_or]
  · intro hatt hdisp
    rw [push_intent] at hatt
    rw [push_hasSpool]
    rw [push_dispatchStarted, or_eq_true, beq_iff_eq] at hdisp
    rcases hdisp with hdisp | hdisp
    · rw [h.needsSpool hatt hdisp, Bool.true_or]
    · rw [← htrk.spool, (hstrt hdisp).2 hatt, Bool.true_or]
  · rw [push_finalForwardItems, push_contains, ← h.progressStage]
    unfold Checkpoint.stage
    cases checkpoint.data <;> simp [CheckpointData.vector, CheckpointData.stage]
  · intro items hitems
    rw [push_finalForwardItems] at hitems
    rw [push_intent]
    cases hcase : checkpoint.data with
    | forwardProgress vector =>
      rw [hcase] at hitems
      obtain rfl : vector = items := Option.some.inj hitems
      exact vector_of_fits hcase hdata hfits
    | _ =>
      rw [hcase] at hitems
      exact h.vector items hitems
  · rw [push_forwardComplete, push_finalForwardItems]
    cases checkpoint.data with
    | forwardProgress vector => rfl
    | _ => exact h.complete
  · rw [push_anyForwardSent, push_finalForwardItems]
    cases hcase : checkpoint.data with
    | forwardProgress vector =>
      show (group.anyForwardSent || vector.any (·.isSent)) = vector.any (·.isSent)
      cases hsent : group.anyForwardSent with
      | false => rw [Bool.false_or]
      | true =>
        -- a vector before this one had the sent item, and this one keeps it
        have hprior := h.anySent
        rw [hsent] at hprior
        cases hprev : group.finalForwardItems with
        | none => rw [hprev] at hprior; cases hprior
        | some previous =>
          rw [hprev] at hprior
          obtain ⟨hlen, hadv⟩ := hfollow vector previous hcase
            (by rw [hfwd1, htrk.forward, hprev])
          rw [any_isSent_of_itemsFollow hlen hadv hprior.symm, Bool.true_or]
    | _ =>
      show (group.anyForwardSent || false) = _
      rw [Bool.or_false]
      exact h.anySent
  · intro hconf
    rw [push_mutationConfirmed, hnoProof, Bool.false_or, beq_iff_eq] at hconf
    cases hcase : checkpoint.data with
    | mutationConfirmed terminal =>
      rw [push_mutationProof, push_intent, hcase]
      rw [hcase] at hdata
      refine ⟨terminal, rfl, hdata, ?_, ?_⟩
      · rw [proofFits_congr (push_intent group checkpoint)
          (by rw [push_finalForwardItems, hcase]; rfl)
          (by rw [push_forwardComplete, hcase]; rfl)]
        exact hprf terminal hcase
      · simp only [Record.wellFormed, hcase, and_eq_true, decide_eq_true_eq] at hform
        rw [← hop]
        exact hform.1.2.2
    | _ =>
      unfold Checkpoint.stage at hconf
      rw [hcase] at hconf
      cases hconf

/-! ## §7. Runs of the automaton. -/

/-- What one record leaves open is reached. -/
theorem reached_feedRecord {state state' : Option OpenGroup} {record : Nat × Record}
    (h : feedRecord place state record = .ok state')
    (hst : ∀ group ∈ state, Reached place group) : ∀ group ∈ state', Reached place group := by
  obtain ⟨generation, record⟩ := record
  obtain ⟨hform, view, hcons⟩ := feedRecord_ok.mp h
  intro group' hgrp'
  cases step_of_consumeV2 hcons with
  | intent =>
    obtain rfl := Option.mem_some_iff.mp hgrp'
    exact reached_opened generation hform
  | @checkpoint group _ _ hchk =>
    obtain rfl := Option.mem_some_iff.mp hgrp'
    exact (hst group rfl).push hform hchk
  | outcome => cases hgrp'

/-- **Every open group that an accepted sequence of records leaves.** -/
theorem reached_of_feed {records : List (Nat × Record)}
    (h : feed place none records = .ok (some group)) : Reached place group := by
  have hkept : ∀ group' ∈ some group, Reached place group' :=
    foldlM_keep (P := fun state => ∀ group' ∈ state, Reached place group')
      (fun _ _ _ _ hstep hst => reached_feedRecord hstep hst) h
      (fun _ hnone => by cases hnone)
  exact hkept group rfl

end TgCli.Audit
