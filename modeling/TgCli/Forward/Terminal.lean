/-
  TgCli.Forward.Terminal — THE TERMINAL OF A FORWARD, ONLINE AND RECOVERED

  The dispatch hook of `forward_messages` (daemon/write_commands.cpp) makes the terminal
  of a completed forward from the items of the coordinator; recovery
  (`derive_forward_terminal`, daemon/account_audit.cpp) makes it from the last stored
  vector.  The two classify the vector in the same way, one over 32-bit and one over
  64-bit delays.

  The hook refuses a vector with a message in another chat than the destination, which
  the validators of the log accept; for every other vector the terminals are the same,
  and so are the records the group is closed with.

  Main results:
    * `completedTerminal_eq` — the terminal of the hook, where the vector has a record;
    * `forward_terminals_agree` — the online terminal and the recovered one.
-/
import TgCli.Audit.Recovery
import TgCli.Forward.Mutation

namespace TgCli.Forward

open Tdlib List Audit

/-! ## §1. The terminal of the hook. -/

/-- The terminal of `internal`. -/
def internalTerminal : Audit.Terminal :=
  .error .internal none "\"operation\":\"msg_forward\",\"reason\":\"internal_error\""

/-- The largest delay, taken as `std::int32_t`. -/
def maximumRetry32 (values : List Audit.ForwardItem) : Int :=
  values.foldl (fun largest value => max largest (Int.bmod value.retryAfter (2 ^ 32))) 0

/-- The chats of a forward, as its plan and its result carry them. -/
def forwardTarget (source destination : Int) : Audit.Target :=
  { chatId := some source, toChatId := some destination }

/-- The dispatch hook on `ForwardCompleted`. -/
def completedTerminal (source destination : Int) (messageIds : List Int)
    (items : List ForwardItem) : Audit.Terminal :=
  match forwardItemsJson items destination with
  | none => internalTerminal
  | some values =>
    if values.length ≠ messageIds.length then internalTerminal
    else if values.map (·.sourceId) ≠ messageIds then internalTerminal
    else
      let target := some (forwardTarget source destination)
      let sent := values.countP (·.isSent)
      if sent = values.length then .result target (some values) false ""
      else if 0 < sent then
        .error .forwardPartial (some values) (forwardDetails target)
      else if values.all (·.rateLimited) then
        .error .rateLimited (some values)
          (rateLimitedDetails .msgForward (maximumRetry32 values).toNat)
      else .error .forwardFailed (some values) (forwardDetails target)

/-- Delays that fit 32 bits have the same maximum in both widths. -/
theorem maximumRetry32_eq (hval : ∀ value ∈ values, validForwardItem value) :
    maximumRetry32 values = maximumRetry values := by
  have hfold : ∀ (values : List Audit.ForwardItem) (start : Nat),
      (∀ value ∈ values, validForwardItem value) →
      values.foldl (fun largest value => max largest (Int.bmod value.retryAfter (2 ^ 32)))
          (start : Int)
        = (((values.map (·.retryAfter)).foldl max start : Nat) : Int) := by
    intro values
    induction values with
    | nil => exact fun start _ => rfl
    | cons value values ih =>
      intro start hval
      have hretry := retryAfter_le (hval value mem_cons_self)
      unfold kMaximumInt32 at hretry
      have hsame : Int.bmod (value.retryAfter : Int) (2 ^ 32) = value.retryAfter :=
        Int.bmod_eq_of_le (by omega) (by omega)
      rw [foldl_cons, map_cons, foldl_cons, hsame,
        ← ih _ fun v hv => hval v (mem_cons_of_mem _ hv), Nat.cast_max]
  exact hfold values 0 hval

/-- **The terminal of a vector that has a record**: that of recovery. -/
theorem completedTerminal_eq (hval : ∀ value ∈ values, validForwardItem value)
    (hrec : forwardItemsJson items destination = some values) :
    completedTerminal source destination (values.map (·.sourceId)) items
      = forwardTerminal (some (forwardTarget source destination)) values := by
  unfold completedTerminal forwardTerminal
  rw [hrec]
  simp only
  rw [if_neg (by simp), if_neg (by simp), maximumRetry32_eq hval, Int.toNat_natCast]
  have hall : (values.countP (·.isSent) = values.length) ↔ values.all (·.isSent) := by
    rw [countP_eq_length, all_eq_true]
  have hany : 0 < values.countP (·.isSent) ↔ values.any (·.isSent) := by
    rw [countP_pos_iff, any_eq_true]
  simp only [hall, hany]

/-! ## §2. The records. -/

/-- The records the kernel appends behind a group: the proof of a confirmed mutation, and the
outcome. -/
def dispatchRecords (place : Audit.LogPlace) (group : Audit.OpenGroup)
    (terminal : Audit.Terminal) (mutation : Audit.MutationState) :
    Except String (List Audit.Record) :=
  if mutation = .confirmed then do
    let proof ← makeRecord place
      (.checkpoint (recoveryCheckpoint place group terminal))
    let outcome ← makeRecord place (.outcome (recoveryOutcome place group mutation
      (group.completedStages ++ [.mutationConfirmed]) terminal))
    .ok [proof, outcome]
  else do
    let outcome ← makeRecord place
      (.outcome (recoveryOutcome place group mutation group.completedStages terminal))
    .ok [outcome]

section Agree

variable {group : Audit.OpenGroup} {vector : List Audit.ForwardItem} {items : List ForwardItem}

/-- The state the outcome reports is the state of the group. -/
theorem auditState_eq_derive (h : Audit.Reached place group)
    (hprf : group.mutationConfirmed = false) (hvec : group.finalForwardItems = some vector)
    (hcomp : forwardVectorComplete vector)
    (hitems : items.mapM forwardItemJson = some vector) :
    auditState (mutationState items) = deriveMutationState group := by
  have hsent : group.anyForwardSent = vector.any (·.isSent) := by
    rw [h.anySent, hvec]
    rfl
  have hdone : group.forwardComplete := by
    rw [h.complete, hvec]
    exact hcomp
  have hdisp : group.dispatchStarted :=
    h.needsDispatch _ (h.mem_progress.mpr (by rw [hvec]; rfl)) (.inr (.inl rfl))
  rw [auditState_record hitems, ← any_isSent_records hitems]
  unfold deriveMutationState vectorState
  rw [hprf, hsent, hdisp, hdone, hvec, hcomp]
  simp

/-- The vector has a record unless a message is in another chat. -/
theorem forwardItemsJson_iff (hval : validForwardItems vector false true)
    (hitems : items.mapM forwardItemJson = some vector) :
    forwardItemsJson items destination = some vector
      ↔ ∀ value ∈ vector, sentTo destination value := by
  obtain ⟨-, -, -, hincreasing, -, -, hdist⟩ := validForwardItems_iff.mp hval
  rw [forwardItemsJson_some]
  constructor
  · exact fun h => h.2.addressed
  · intro haddr
    exact ⟨hitems, by simp, hincreasing, haddr, by simp, hdist⟩

/-- A vector with a message in another chat has no record. -/
theorem completedTerminal_foreign (hval : validForwardItems vector false true)
    (hitems : items.mapM forwardItemJson = some vector)
    (hforn : ¬ ∀ value ∈ vector, sentTo destination value) :
    completedTerminal source destination messageIds items = internalTerminal := by
  unfold completedTerminal
  cases hrec : forwardItemsJson items destination with
  | none => rfl
  | some values =>
    -- the record could only be the vector
    have hsame : vector = values :=
      Option.some.inj (hitems.symm.trans (forwardItemsJson_some.mp hrec).1)
    rw [← hsame] at hrec
    exact absurd ((forwardItemsJson_iff hval hitems).mp hrec) hforn

/-- The kernel appends the records recovery would append. -/
theorem dispatchRecords_eq {plan : Audit.RecoveryPlan}
    (hprf : .appendMutationProofAndSync ∈ plan.boundaries ↔ plan.mutation = .confirmed)
    (h : recoveryRecords place group plan = .ok appended) :
    dispatchRecords place group plan.terminal plan.mutation = .ok appended := by
  unfold dispatchRecords
  unfold recoveryRecords at h
  by_cases hconf : plan.mutation = .confirmed
  · rw [if_pos (hprf.mpr hconf)] at h
    rw [if_pos hconf]
    split at h
    · cases h
    · exact h
  · rw [if_neg (fun hmem => hconf (hprf.mp hmem))] at h
    rw [if_neg hconf]
    exact h

theorem derive_confirmed_iff (hprf : group.mutationConfirmed = false) :
    deriveMutationState group = .confirmed ↔ group.anyForwardSent := by
  unfold deriveMutationState
  rw [hprf, Bool.false_or]
  cases group.anyForwardSent with
  | true => exact iff_of_true rfl rfl
  | false =>
    refine iff_of_false ?_ (by simp)
    simp only [Bool.false_eq_true, if_false]
    split_ifs
    · simp
    · simp
    · split
      · simp
      · split <;> simp

/-- **The terminals of a completed forward agree** exactly when every message is in the
destination chat; then recovery would close the group with the records the kernel appends, and
the reader accepts them. -/
theorem forward_terminals_agree {source destination : Int}
    (hval : validForwardItems vector false true = true)
    (htgt : group.intent.plan.target = some (forwardTarget source destination))
    (hvec : group.finalForwardItems = some vector)
    (hitems : items.mapM forwardItemJson = some vector) :
    (deriveForwardTerminal group
        = .ok (completedTerminal source destination (vector.map (·.sourceId)) items)
      ↔ ∀ value ∈ vector, sentTo destination value = true)
    ∧ ∀ (place : Audit.LogPlace) (records : List (Nat × Audit.Record)) (pins : List Audit.Pin),
        feed place none records = .ok (some group) → place.Fits →
        group.mutationConfirmed = false → group.sequenceExhausted = false →
        (∀ value ∈ vector, sentTo destination value = true) →
        ∃ plan appended, classifyRecovery group (.known pins) = .ok plan
          ∧ recoveryRecords place group plan = .ok appended
          ∧ dispatchRecords place group
              (completedTerminal source destination group.intent.plan.messageIds items)
              (auditState (mutationState items)) = .ok appended
          ∧ feed place (some group)
              (appended.map fun record => (group.generation, record)) = .ok none := by
  obtain ⟨-, -, hit, -, hcomp, -, -⟩ := validForwardItems_iff.mp hval
  have hterm : (∀ value ∈ vector, sentTo destination value) →
      completedTerminal source destination (vector.map (·.sourceId)) items
        = forwardTerminal group.intent.plan.target vector := by
    intro haddr
    rw [htgt]
    exact completedTerminal_eq hit ((forwardItemsJson_iff hval hitems).mpr haddr)
  refine ⟨?_, ?_⟩
  · rw [deriveForwardTerminal_eq hvec (hcomp rfl), Except.ok.injEq]
    constructor
    · intro heq
      by_contra hforn
      have hnone := congrArg Audit.Terminal.items heq
      rw [forwardTerminal_items, completedTerminal_foreign hval hitems hforn] at hnone
      cases hnone
    · exact fun haddr => (hterm haddr).symm
  · intro place records pins hfeed hplace hprf hexh haddr
    have hrch := reached_of_feed hfeed
    have hdone : group.forwardComplete := by
      rw [hrch.complete, hvec]
      exact hcomp rfl
    obtain ⟨plan, appended, hplan, happended, hcloses⟩ :=
      (closes_complete_iff hrch hplace pins hprf hdone).mpr hexh
    obtain ⟨plan', vector', hplan', hvec', hmut, hplanTerminal, -, hboundary⟩ :=
      classifyRecovery_complete hrch pins hprf hdone
    obtain rfl : plan = plan' := Except.ok.inj (hplan.symm.trans hplan')
    obtain rfl : vector = vector' := Option.some.inj (hvec.symm.trans hvec')
    have hsrcs : vector.map (·.sourceId) = group.intent.plan.messageIds :=
      (hrch.vector vector hvec).2.2
    refine ⟨plan, appended, hplan, happended, ?_, hcloses⟩
    rw [← hsrcs, hterm haddr, ← hplanTerminal,
      auditState_eq_derive hrch hprf hvec (hcomp rfl) hitems, ← hmut]
    refine dispatchRecords_eq ?_ happended
    rw [hboundary, hmut, derive_confirmed_iff hprf]

end Agree

/-! A forward of two messages to the chat 11, and the same vector for the chat 12. -/

/-- A message was forwarded, and another one was refused. -/
def forwardedItems : List ForwardItem :=
  [.sent 2097152
    { id := 1048576, chatId := 11, date := some 1700000000, sender := { kind := .user, id := 5 }
      isOutgoing := true, topic := none, contentKind := .text, text := ascii "hi"
      scheduled := false },
    .failed 3145728 .tdlibError (some 429) (some 30)]

theorem forward_terminals_agree_partial : deriveForwardTerminal (forwardGroup 2)
        = .ok (completedTerminal 10 11 [2097152, 3145728] forwardedItems)
      ∧ ∃ plan appended, classifyRecovery (forwardGroup 2) (.known []) = .ok plan
          ∧ recoveryRecords mainPlace (forwardGroup 2) plan = .ok appended
          ∧ dispatchRecords mainPlace (forwardGroup 2)
              (completedTerminal 10 11 [2097152, 3145728] forwardedItems)
              (auditState (mutationState forwardedItems)) = .ok appended
          ∧ feed mainPlace (some (forwardGroup 2))
              (appended.map fun record => (7, record)) = .ok none := by
  have hagree := @forward_terminals_agree (forwardGroup 2) forwardVector forwardedItems 10 11
    (by decide +kernel) rfl rfl (by decide +kernel)
  exact ⟨hagree.1.mpr (by decide +kernel), hagree.2 mainPlace (forwardRecords 2) []
    (by decide +kernel) ⟨by decide, by decide⟩ (by decide +kernel) (by decide +kernel)
    (by decide +kernel)⟩

/-- The forward, planned for another destination. -/
def foreignIntent : Audit.Intent :=
  { forwardIntent with
    plan := { forwardIntent.plan with target := some (forwardTarget 10 12) } }

def foreignGroup : Audit.OpenGroup := { forwardGroup 2 with intent := foreignIntent }

/-- The validators accept a sent message of another chat; the hook does not. -/
theorem terminals_differ_on_foreign_chat :
    validForwardItems forwardVector false true = true
      ∧ feed mainPlace none
          ((7, .intent foreignIntent) :: (forwardRecords 2).tail) = .ok (some foreignGroup)
      ∧ foreignGroup.finalForwardItems = some forwardVector
      ∧ forwardedItems.mapM forwardItemJson = some forwardVector
      ∧ deriveForwardTerminal foreignGroup = .ok (.error .forwardPartial (some forwardVector)
            (forwardDetails (some (forwardTarget 10 12))))
      ∧ completedTerminal 10 12 [2097152, 3145728] forwardedItems = internalTerminal := by
  decide +kernel

end TgCli.Forward
