/-
  TgCli.Forward.Mutation — WHAT THE OUTCOME OF A FORWARD SAYS ABOUT THE MUTATION

  The dispatch hook of `forward_messages` (daemon/write_commands.cpp) stores the vectors
  of the coordinator as checkpoints and hands the mutation state of the outcome on; the
  audit log derives the state once more, from the checkpoints of the group, and refuses
  an outcome that says something else.

  A message that was sent stays sent, so the last stored vector decides; the two states
  agree unless the run ends in a turn that diverges.  It does when the response already
  contains a message that was sent and a loss of the authorization overtakes it: the
  items are reported, but were not published.

  Main results:
    * `derive_of_vectors` — the state of a group, from its vectors;
    * `forward_mutation_state_iff` — the states agree unless the last turn diverges.
-/
import TgCli.Audit.OpenGroups
import TgCli.Forward.Records
import TgCli.Forward.Turns

namespace TgCli.Forward

open Tdlib List Audit

/-! ## §1. The group. -/

def auditState : ForwardMutationState → Audit.MutationState
  | .none => .none
  | .possible => .possible
  | .confirmed => .confirmed

/-- The vectors of a list of checkpoints. -/
def vectorsOf (checkpoints : List Audit.Checkpoint) : List (List Audit.ForwardItem) :=
  checkpoints.filterMap fun checkpoint => checkpoint.data.vector

/-- The group with these checkpoints. -/
def openGroup (generation : Nat) (intent : Audit.Intent) (checkpoints : List Audit.Checkpoint) :
    Audit.OpenGroup :=
  checkpoints.foldl Audit.OpenGroup.push (.opened generation intent)

/-- What the checkpoints add to the flags of a group. -/
structure Adds (group : Audit.OpenGroup) (checkpoints : List Audit.Checkpoint)
    (after : Audit.OpenGroup) : Prop where
  dispatch : after.dispatchStarted
    = (group.dispatchStarted || checkpoints.any (·.stage == .dispatchStarted))
  proof : after.mutationConfirmed
    = (group.mutationConfirmed || checkpoints.any (·.stage == .mutationConfirmed))
  sent : after.anyForwardSent
    = (group.anyForwardSent || (vectorsOf checkpoints).any (·.any (·.isSent)))
  items : after.finalForwardItems = (vectorsOf checkpoints).getLast?.or group.finalForwardItems
  complete : after.forwardComplete
    = ((vectorsOf checkpoints).getLast?.map forwardVectorComplete).getD group.forwardComplete

theorem adds_push (checkpoints : List Audit.Checkpoint) : ∀ group : Audit.OpenGroup,
      Adds group checkpoints (checkpoints.foldl Audit.OpenGroup.push group) := by
  induction checkpoints with
  | nil => exact fun group => ⟨by simp, by simp, by simp [vectorsOf], rfl, rfl⟩
  | cons checkpoint checkpoints ih =>
    intro group
    rw [foldl_cons]
    have h := ih (group.push checkpoint)
    cases hvec : checkpoint.data.vector with
    | none =>
      have hsame : vectorsOf (checkpoint :: checkpoints) = vectorsOf checkpoints :=
        filterMap_cons_none hvec
      refine ⟨?_, ?_, ?_, ?_, ?_⟩
      · rw [h.dispatch, push_dispatchStarted, any_cons, Bool.or_assoc]
      · rw [h.proof, push_mutationConfirmed, any_cons, Bool.or_assoc]
      · rw [h.sent, push_anyForwardSent, hvec, hsame]
        simp
      · rw [h.items, push_finalForwardItems, hvec, hsame]
        rfl
      · rw [h.complete, push_forwardComplete, hvec, hsame]
        rfl
    | some vector =>
      have hcons : vectorsOf (checkpoint :: checkpoints) = vector :: vectorsOf checkpoints :=
        filterMap_cons_some hvec
      refine ⟨?_, ?_, ?_, ?_, ?_⟩
      · rw [h.dispatch, push_dispatchStarted, any_cons, Bool.or_assoc]
      · rw [h.proof, push_mutationConfirmed, any_cons, Bool.or_assoc]
      · rw [h.sent, push_anyForwardSent, hvec, hcons, any_cons, Bool.or_assoc]
        rfl
      · rw [h.items, push_finalForwardItems, hvec, hcons, getLast?_cons]
        cases (vectorsOf checkpoints).getLast? <;> rfl
      · rw [h.complete, push_forwardComplete, hvec, hcons, getLast?_cons]
        cases (vectorsOf checkpoints).getLast? <;> rfl

/-- The state a vector shows as the last one of its group. -/
def vectorState (items : List Audit.ForwardItem) : Audit.MutationState :=
  if !forwardVectorComplete items || items.any (·.deletedBeforeConfirmation) then .possible
  else .none

variable {checkpoints : List Audit.Checkpoint} {s : State} {destination : Int}
  {outcome : ForwardOutcome}

/-- **The state of a dispatched group without a proof**, from its vectors. -/
theorem derive_of_vectors (hdisp : checkpoints.any (·.stage == .dispatchStarted))
    (hprf : checkpoints.any (·.stage == .mutationConfirmed) = false) :
    deriveMutationState (openGroup generation intent checkpoints)
      = if (vectorsOf checkpoints).any (·.any (·.isSent)) then .confirmed
        else ((vectorsOf checkpoints).getLast?.map vectorState).getD .possible := by
  obtain ⟨hd, hp, hs, hi, hc⟩ := adds_push checkpoints (.opened generation intent)
  unfold deriveMutationState openGroup
  rw [hd, hp, hs, hi, hc, hdisp, hprf]
  simp only [Audit.OpenGroup.opened, Bool.or_false, Bool.false_or, Bool.or_true, Bool.not_true,
    Bool.false_eq_true, if_false]
  split
  · rfl
  cases (vectorsOf checkpoints).getLast? with
  | none => rfl
  | some items =>
    simp only [Option.map_some, Option.getD_some, vectorState, Option.some_or]
    by_cases hcomp : forwardVectorComplete items = true
    · simp [hcomp]
    · simp [hcomp]

theorem derive_of_proof (hprf : checkpoints.any (·.stage == .mutationConfirmed)) :
    deriveMutationState (openGroup generation intent checkpoints) = .confirmed := by
  have h := (adds_push checkpoints (.opened generation intent)).proof
  rw [hprf, Bool.or_true] at h
  unfold deriveMutationState openGroup
  rw [h]
  rfl

/-! ## §2. The stored vectors. -/

/-- The hooks of `forward_messages`: a vector without a record is refused. -/
def Round.dispatched (destination : Int) (round : Round) : Round :=
  { round with
    onProgress := fun items =>
      if (forwardItemsJson items destination).isNone then .refused else round.onProgress items }

/-- The checkpoints behind the intent, up to the outcome. -/
def checkpointData (destination : Int) (s : State) (outcome : ForwardOutcome) (proof : String)
    (terminal : Audit.Terminal) : List Audit.CheckpointData :=
  [.dispatchStarted proof] ++ s.temporaryIds.toList.map .temporaryIdsObserved
    ++ (s.durable.filterMap (forwardItemsJson · destination)).map .forwardProgress
    ++ if outcome.provesMutation then [.mutationConfirmed terminal] else []

/-- Every stored vector has a record. -/
def Recorded (destination : Int) (s : State) : Prop :=
  ∀ items ∈ s.durable, (forwardItemsJson items destination).isSome = true

section Runs

variable {parseRetryAfterSeconds : Bytes → Int}

/-- A turn hands on at most one vector. -/
def HandsOn (round : Round) (s : State) : Turn → Prop
  | .finish _ s' | .next s' => s'.passed = s.passed
      ∨ ∃ items, s'.passed = s.passed ++ [(items, (round.onProgress items).durable)]

theorem turn_handsOn (request : Request) (round : Round) (s : State) :
    HandsOn round s (turn parseRetryAfterSeconds request round s) := by
  have hend : ∀ s' : State, s'.passed = s.passed → HandsOn round s (endTurn request round s') := by
    intro s' h
    unfold endTurn
    split
    · exact .inl h
    split
    · exact .inl h
    · exact .inl h
  unfold turn
  simp only
  split
  · unfold arbitrateUpdate
    split
    · unfold applyUpdate
      simp only
      split
      · exact .inl rfl
      split
      · exact .inl rfl
      split
      · exact .inr ⟨_, rfl⟩
      split
      · exact .inr ⟨_, rfl⟩
      · exact .inr ⟨_, rfl⟩
    · split
      · exact .inl rfl
      · exact hend _ rfl
  · split
    · unfold arbitrateResponse
      simp only
      split
      · split
        · split
          · exact .inl rfl
          · exact .inl rfl
        · exact .inl rfl
      · split
        · exact .inl rfl
        · unfold publishInitial
          simp only
          split_ifs <;> first | exact .inl rfl | exact .inr ⟨_, rfl⟩
    · exact hend _ rfl

/-- What a turn under the hooks of `forward_messages` stores has a record. -/
theorem Recorded.handsOn {round : Round} {s s' : State} (h : Recorded destination s)
    (hpass : s'.passed = s.passed ∨ ∃ items, s'.passed
      = s.passed ++ [(items, ((round.dispatched destination).onProgress items).durable)]) :
    Recorded destination s' := by
  intro items hmem
  unfold State.durable at hmem
  rcases hpass with hsame | ⟨last, hlast⟩
  · rw [hsame] at hmem
    exact h items hmem
  · rw [hlast, filter_append, map_append] at hmem
    rcases mem_append.mp hmem with hold | hnew
    · exact h items hold
    · obtain ⟨passed, hin, rfl⟩ := mem_map.mp hnew
      obtain ⟨hin, hdur⟩ := mem_filter.mp hin
      rw [mem_singleton] at hin
      subst hin
      simp only [Round.dispatched] at hdur
      split at hdur
      · cases hdur
      next hsome => simpa [Option.isSome_iff_ne_none] using hsome

theorem waitForTerminal_recorded (rounds : List Round) : ∀ s, Recorded destination s →
      Recorded destination (waitForTerminal parseRetryAfterSeconds request
        (rounds.map (Round.dispatched destination)) s).1 := by
  induction rounds with
  | nil => exact fun s h => h
  | cons round rounds ih =>
    intro s h
    have hturn : HandsOn (round.dispatched destination) s
        (turn parseRetryAfterSeconds request (round.dispatched destination) s) :=
      turn_handsOn request (round.dispatched destination) s
    rw [map_cons]
    unfold waitForTerminal
    cases hres : turn parseRetryAfterSeconds request (round.dispatched destination) s with
    | finish outcome s' =>
      rw [hres] at hturn
      exact h.handsOn hturn
    | next s' =>
      rw [hres] at hturn
      exact ih s' (h.handsOn hturn)

/-! ## §3. The reported state. -/

/-- The run ends in a turn that diverges. -/
def endsDiverging (parseRetryAfterSeconds : Bytes → Int) (request : Request) :
    List Round → State → Bool
  | [], _ => false
  | round :: rounds, s =>
    match turn parseRetryAfterSeconds request round s with
    | .finish _ _ => diverges parseRetryAfterSeconds request round s
    | .next s => endsDiverging parseRetryAfterSeconds request rounds s

theorem waitForTerminal_reports (rounds : List Round) : ∀ s, Steady request s →
      waitForTerminal parseRetryAfterSeconds request rounds s = (s', some outcome) →
      Progress request s'.vectors
        ∧ Reports (endsDiverging parseRetryAfterSeconds request rounds s) outcome s' := by
  induction rounds with
  | nil => intro s _ h; cases h
  | cons round rounds ih =>
    intro s hsteady h
    have hturn : TurnOk request (diverges parseRetryAfterSeconds request round s)
        (turn parseRetryAfterSeconds request round s) := turn_ok hsteady
    unfold waitForTerminal at h
    unfold endsDiverging
    cases hres : turn parseRetryAfterSeconds request round s with
    | finish last sLast =>
      rw [hres] at h hturn
      obtain ⟨rfl, rfl⟩ := h
      exact hturn
    | next sNext =>
      rw [hres] at h hturn
      exact ih sNext hturn h

end Runs

/-- Every message that was sent in the one is sent in the other. -/
def ShowsAll (a b : List ForwardItem) : Prop :=
  a.any (·.isSent) = true → b.any (·.isSent) = true

instance : Trans ShowsAll ShowsAll ShowsAll where
  trans hab hbc ha := hbc (hab ha)

/-- The last stored vector shows every message that was sent. -/
theorem any_sent_last (h : Progress request s.vectors) :
    s.durable.any (·.any (·.isSent)) = (s.durable.getLast?.getD []).any (·.isSent) := by
  have hchain : s.vectors.IsChain ShowsAll :=
    h.chain.imp fun a b hab => any_isSent_follows hab.follows
  have hsublist : s.durable.Sublist s.vectors := filter_sublist.map Prod.fst
  have hpairwise : s.durable.Pairwise ShowsAll := (hchain.sublist hsublist).pairwise
  rcases eq_nil_or_concat s.durable with hnil | ⟨init, last, hlast⟩
  · rw [hnil]
    rfl
  · rw [hlast, concat_eq_append] at hpairwise ⊢
    rw [getLast?_concat, any_append, Option.getD_some]
    have hbef := (pairwise_append.mp hpairwise).2.2
    cases hsent : last.any (·.isSent) with
    | true => simp [hsent]
    | false =>
      -- a message sent before would still be sent in the last vector
      rw [any_cons, hsent, any_nil, Bool.or_false, Bool.or_false, any_eq_false]
      intro items hmem hsome
      have hstill := hbef items hmem last mem_cons_self hsome
      rw [hsent] at hstill
      cases hstill

/-- The record of a stored vector. -/
def recordOf (destination : Int) (items : List ForwardItem) : List Audit.ForwardItem :=
  (forwardItemsJson items destination).getD []

theorem recordOf_mapM (h : (forwardItemsJson items destination).isSome) :
    items.mapM forwardItemJson = some (recordOf destination items) := by
  obtain ⟨values, hvals⟩ := Option.isSome_iff_exists.mp h
  unfold recordOf
  rw [hvals]
  exact (forwardItemsJson_some.mp hvals).1

theorem Recorded.records (h : Recorded destination s) :
    s.durable.filterMap (forwardItemsJson · destination)
      = s.durable.map (recordOf destination) := by
  rw [← filterMap_eq_map]
  refine filterMap_congr fun items hmem => ?_
  obtain ⟨values, hvals⟩ := Option.isSome_iff_exists.mp (h items hmem)
  show forwardItemsJson items destination = some (recordOf destination items)
  unfold recordOf
  rw [hvals]
  rfl

/-- The state of a stored vector is the state its record shows. -/
theorem auditState_record {items : List ForwardItem}
    (h : items.mapM forwardItemJson = some values) :
    auditState (mutationState items)
      = if items.any (·.isSent) then .confirmed else vectorState values := by
  unfold mutationState vectorState
  rw [complete_records h, any_deleted_records h]
  by_cases hsent : items.any (·.isSent) = true
  · rw [if_pos hsent, if_pos hsent]
    rfl
  rw [if_neg hsent, if_neg hsent]
  have hpend : items.any (fun item => item.isPending || item.isDeleted)
      = (!complete items || items.any (·.isDeleted)) := by
    unfold complete
    rw [not_all_eq_any_not, Bool.eq_iff_iff]
    simp [Bool.not_not, and_or_left, exists_or]
  rw [hpend]
  split <;> rfl

/-- **The state the stored vectors show is the state of their group.** -/
theorem auditState_shown (hprog : Progress request s.vectors) (hrecd : Recorded destination s) :
    auditState (shownState s.durable)
      = if (s.durable.map (recordOf destination)).any (·.any (·.isSent)) then .confirmed
        else ((s.durable.map (recordOf destination)).getLast?.map vectorState).getD .possible := by
  have hsent : (s.durable.map (recordOf destination)).any (·.any (·.isSent))
      = (s.durable.getLast?.getD []).any (·.isSent) := by
    rw [← any_sent_last hprog, any_map, Bool.eq_iff_iff, any_eq_true, any_eq_true]
    refine exists_congr fun items => and_congr_right fun hmem => ?_
    exact Bool.eq_iff_iff.mp (any_isSent_records (recordOf_mapM (hrecd items hmem)))
  rw [hsent, getLast?_map]
  unfold shownState
  cases hlast : s.durable.getLast? with
  | none => rfl
  | some items =>
    exact auditState_record (recordOf_mapM (hrecd items (mem_of_getLast? hlast)))

theorem vectorsOf_checkpointData (hdata : checkpoints.map Audit.Checkpoint.data
      = checkpointData destination s outcome proof terminal) :
    vectorsOf checkpoints = s.durable.filterMap (forwardItemsJson · destination) := by
  have hmap : vectorsOf checkpoints
      = (checkpoints.map Audit.Checkpoint.data).filterMap Audit.CheckpointData.vector := by
    rw [filterMap_map]
    rfl
  rw [hmap, hdata, checkpointData, filterMap_append, filterMap_append, filterMap_append]
  have hids : (s.temporaryIds.toList.map Audit.CheckpointData.temporaryIdsObserved).filterMap
      Audit.CheckpointData.vector = [] := by
    cases s.temporaryIds <;> rfl
  have hprf : (if outcome.provesMutation = true then
      [Audit.CheckpointData.mutationConfirmed terminal] else []).filterMap
      Audit.CheckpointData.vector = [] := by
    split <;> rfl
  rw [hids, hprf, filterMap_map, append_nil]
  exact filterMap_some

/-- The stages of the checkpoints: the dispatch, and the proof of an outcome that has one. -/
theorem stages_checkpointData (hdata : checkpoints.map Audit.Checkpoint.data
      = checkpointData destination s outcome proof terminal) :
    checkpoints.any (·.stage == .dispatchStarted)
      ∧ checkpoints.any (·.stage == .mutationConfirmed) = outcome.provesMutation := by
  have hmap : ∀ stage, checkpoints.any (·.stage == stage)
      = (checkpoints.map Audit.Checkpoint.data).any (·.stage == stage) := by
    intro stage
    rw [any_map]
    rfl
  rw [hmap, hmap, hdata]
  refine ⟨rfl, ?_⟩
  have hids : (s.temporaryIds.toList.map Audit.CheckpointData.temporaryIdsObserved).any
      (·.stage == .mutationConfirmed) = false := by
    cases s.temporaryIds <;> rfl
  have hvecs : ((s.durable.filterMap (forwardItemsJson · destination)).map
      Audit.CheckpointData.forwardProgress).any (·.stage == .mutationConfirmed) = false := by
    rw [any_map, any_eq_false]
    intro items _ h
    cases h
  unfold checkpointData
  rw [any_append, any_append, any_append, hids, hvecs]
  cases outcome.provesMutation <;> rfl

theorem mutation_of_provesMutation
    (h : outcome.provesMutation) : outcome.mutation = .confirmed := by
  unfold ForwardOutcome.provesMutation at h
  split at h
  · rfl
  · rfl
  · cases h

theorem auditState_injective : Function.Injective auditState := by
  intro a b h
  cases a <;> cases b <;> first | rfl | cases h

/-- **The mutation state of the outcome is the state of the group**, for every run of the
coordinator under the hooks of `forward_messages`, unless its last turn diverges.  A hook that
throws counts with the vectors it stored. -/
theorem forward_mutation_state_iff (parseRetryAfterSeconds : Bytes → Int) (request : Request)
    (rounds : List Round) {s : State} {outcome : ForwardOutcome}
    (hrun : waitForTerminal parseRetryAfterSeconds request
      (rounds.map (Round.dispatched request.toChatId)) {} = (s, some outcome))
    (generation : Nat) (intent : Audit.Intent) {checkpoints : List Audit.Checkpoint}
    {proof : String} {terminal : Audit.Terminal}
    (hdata : checkpoints.map Audit.Checkpoint.data
      = checkpointData request.toChatId s outcome proof terminal) :
    deriveMutationState (openGroup generation intent checkpoints)
        = auditState outcome.mutation
      ↔ endsDiverging parseRetryAfterSeconds request
          (rounds.map (Round.dispatched request.toChatId)) {} = false := by
  obtain ⟨hprog, hrep⟩ := waitForTerminal_reports _ _ (steady_initial request) hrun
  have hrecd : Recorded request.toChatId (waitForTerminal parseRetryAfterSeconds request
      (rounds.map (Round.dispatched request.toChatId)) {}).1 :=
    waitForTerminal_recorded rounds {} fun _ h => by cases h
  rw [hrun] at hrecd
  obtain ⟨hdisp, hprf⟩ := stages_checkpointData hdata
  cases hprv : outcome.provesMutation with
  | true =>
    have hmut := mutation_of_provesMutation hprv
    rw [hprv] at hprf
    refine iff_of_true ?_ ?_
    · rw [derive_of_proof hprf, hmut]
      rfl
    · -- an outcome that proves a mutation does not diverge
      cases hends : endsDiverging parseRetryAfterSeconds request
          (rounds.map (Round.dispatched request.toChatId)) {} with
      | false => rfl
      | true =>
        rw [hends] at hrep
        rw [hrep.2] at hprv
        cases hprv
  | false =>
    rw [hprv] at hprf
    rw [derive_of_vectors hdisp hprf, vectorsOf_checkpointData hdata, hrecd.records,
      ← auditState_shown hprog hrecd, auditState_injective.eq_iff]
    cases hends : endsDiverging parseRetryAfterSeconds request
        (rounds.map (Round.dispatched request.toChatId)) {} with
    | false =>
      rw [hends] at hrep
      exact iff_of_true (Eq.symm hrep) rfl
    | true =>
      rw [hends] at hrep
      exact iff_of_false (fun h => hrep.1 h.symm) (by simp)

/-! A forward of one message that the response already reports as sent, alone and behind a loss
of the authorization. -/

def sentMessage : TdWriteMessage where
  message :=
    { id := 1048576, chatId := 2, date := 1700000000, sender := { kind := .user, id := 5 }
      isOutgoing := true, topic := none, contentKind := .text, text := ascii "hi" }

def oneMessage : Request where
  sourceIds := [1048575]
  toChatId := 2
  sendingId := 7
  sent :=
    { clientGeneration := 1, authSequence := 1, receiveEventSequence := 1
      receiveObservedAt := some 0, state := .ready }
  deadline := none

def sentResponse : Round where
  answer := some (.value 6 (some 60) (.forwardMessages [some sentMessage]))

def overtakenResponse : Round where
  auth :=
    [{ clientGeneration := 1, authSequence := 2, receiveEventSequence := 5
       receiveObservedAt := some 50, state := .loggingOut }]
  answer := some (.value 6 (some 60) (.forwardMessages [some sentMessage]))

/-- The run over these turns. -/
def oneMessageRun (rounds : List Round) : State × Option ForwardOutcome :=
  waitForTerminal (fun _ => 0) oneMessage (rounds.map (Round.dispatched oneMessage.toChatId)) {}

def oneMessageIntent : Audit.Intent where
  invocation := "0123456789abcdef0123456789abcdef"
  unixSeconds := 1700000000
  operation := .msgForward
  plan := { target := some { chatId := some 1, toChatId := some 2 }, messageIds := [1048575] }
  fingerprint := ""
  keyHash := none
  bytes := 500

/-- The checkpoints with these data. -/
def numbered (data : List Audit.CheckpointData) : List Audit.Checkpoint :=
  data.mapIdx fun index data =>
    { invocation := oneMessageIntent.invocation, operation := .msgForward
      sequence := index + 1, data := data, bytes := 500 }

theorem numbered_data (data : List Audit.CheckpointData) :
    (numbered data).map Audit.Checkpoint.data = data :=
  ext_getElem (by simp [numbered]) (by simp [numbered])

/-- The item of the message. -/
def sentItem : ForwardItem :=
  .sent 1048575
    { id := 1048576, chatId := 2, date := some 1700000000, sender := { kind := .user, id := 5 }
      isOutgoing := true, topic := none, contentKind := .text, text := ascii "hi"
      scheduled := false }

/-- The checkpoints of a run that ended with this outcome. -/
def oneMessageCheckpoints (rounds : List Round) (outcome : ForwardOutcome) :
    List Audit.Checkpoint :=
  numbered (checkpointData oneMessage.toChatId (oneMessageRun rounds).1 outcome "p"
    (.result oneMessageIntent.plan.target none false ""))

theorem forward_mutation_state_iff_sent :
    (oneMessageRun [sentResponse]).2 = some (.completed [sentItem] .confirmed)
      ∧ deriveMutationState (openGroup 1 oneMessageIntent
          (oneMessageCheckpoints [sentResponse] (.completed [sentItem] .confirmed)))
        = .confirmed := by
  have hout : (oneMessageRun [sentResponse]).2 = some (.completed [sentItem] .confirmed) := by
    decide +kernel
  exact ⟨hout, (forward_mutation_state_iff (fun _ => 0) oneMessage [sentResponse]
    (Prod.ext rfl hout) 1 oneMessageIntent (numbered_data _)).mpr (by decide +kernel)⟩

/-- The authorization is lost just before the response that reports the message as sent: the
outcome says `Confirmed`, the group has no vector and says `Possible`. -/
theorem forward_state_of_overtaken_response : (oneMessageRun [overtakenResponse]).2
        = some (.authorizationLost [sentItem] 1 2 .loggingOut .confirmed)
      ∧ (oneMessageRun [overtakenResponse]).1.passed = []
      ∧ deriveMutationState (openGroup 1 oneMessageIntent
          (oneMessageCheckpoints [overtakenResponse]
            (.authorizationLost [sentItem] 1 2 .loggingOut .confirmed)))
        = .possible := by
  decide +kernel

end TgCli.Forward
