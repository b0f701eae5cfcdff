/-
  TgCli.Forward.Coordinator — SEND UPDATES AND THE FORWARD COORDINATOR

  `send_arbitration` (daemon/single_send.cpp): a message of the response is pending
  under a temporary id, failed or already sent; an update settles the temporary
  message it names.

  A `double` is the rational it stands for, or `none` when it is not finite; the parser
  of the seconds in an error text is the parameter `parseRetryAfterSeconds`.

  `ForwardCoordinator::Impl` (daemon/forward.cpp) after the request was sent: it waits
  for the vector of the response, publishes it, and settles the pending items one
  update at a time, in the order of the receive sequences; a lost authorization, the
  deadline and a cancellation compete with them.

  One turn of the loop of `wait_for_terminal` is a `Round`: the events recorded since
  the last turn, whether the response is there, the clock, the cancellation, and
  how the publication hooks end.  `items_` and `temporaries_` stand index by index in
  one list of entries.  The vectors handed to the hooks are kept in `passed`, with
  whether they were stored.

  Main results:
    * `classifyUpdate_some` — an update of a single message settles the temporary
      message with its id, and no other.
-/
import TgCli.Tdlib.Types

namespace TgCli.Forward

open Tdlib

/-! ## §1. Messages on their way. -/

inductive TdMessageSendingStateKind where
  | stable | pending | failed | unknown
deriving DecidableEq, Repr

structure TdMessageSendingState where
  kind : TdMessageSendingStateKind := .stable
  sendingId : Int := 0
  error : Option TdError := none
  canRetry : Bool := false
  needAnotherSender : Bool := false
  needAnotherReplyQuote : Bool := false
  needDropReply : Bool := false
  requiredPaidMessageStarCount : Int := 0
  retryAfter : Option Rat := some 0
  unsupportedTdlibTypeId : Option Int := none
deriving DecidableEq, Repr

inductive TdMessageSchedulingStateKind where
  | none | sendAtDate | sendWhenOnline | sendWhenVideoProcessed | unknown
deriving DecidableEq, Repr

structure TdMessageSchedulingState where
  kind : TdMessageSchedulingStateKind := .none
  sendDate : Int := 0
  repeatPeriod : Int := 0
  unsupportedTdlibTypeId : Option Int := none
deriving DecidableEq, Repr

structure TdWriteMessage where
  message : TdMessageSummary
  sendingState : TdMessageSendingState := {}
  schedulingState : TdMessageSchedulingState := {}
deriving DecidableEq, Repr

structure TdMessageWriteResult where
  id : Int
  chatId : Int
  date : Option Int
  sender : TdMessageSender
  isOutgoing : Bool
  topic : Option TdTopic
  contentKind : TdMessageContentKind
  text : Bytes
  scheduled : Bool
deriving DecidableEq, Repr

/-- The updates a coordinator subscribes to. -/
inductive SendUpdate where
  | succeeded (clientGeneration : Nat) (oldMessageId : Int) (message : Option TdWriteMessage)
  | failed (clientGeneration : Nat) (oldMessageId : Int) (message : Option TdWriteMessage)
      (error : Option TdError)
  | deleted (clientGeneration : Nat) (chatId : Int) (messageIds : List Int)
deriving DecidableEq, Repr

/-- `SingleSendTemporaryId`. -/
structure TemporaryId where
  clientGeneration : Nat
  chatId : Int
  temporaryMessageId : Int
  sendingId : Int
deriving DecidableEq, Repr

/-- The alternatives of `SingleSendOutcome` that a message or an update can give. -/
inductive SendOutcome where
  | succeeded (result : TdMessageWriteResult)
  | failed (error : TdError)
  | rateLimited (error : TdError) (retryAfter : Int)
  | deletedBeforeConfirmation
  | malformed (tdlibTypeId : Option Int)
deriving DecidableEq, Repr

inductive ImmediateOutcome where
  | pending (temporary : TemporaryId)
  | outcome (outcome : SendOutcome)
deriving DecidableEq, Repr

/-! ## §2. Checks. -/

/-- The bytes of a text that begin a scalar. -/
def scalarCount (text : Bytes) : Nat := text.countP fun byte => !continuationByte byte

def validMessageText (text : Bytes) : Bool :=
  decide (text.length ≤ 16384) && validUtf8 text && decide (scalarCount text ≤ 4096)

def validMessageSummary (message : TdMessageSummary) (chatId : Int) : Bool :=
  validInt53 message.id && message.chatId == chatId && decide (0 ≤ message.date)
    && validSender message.sender && message.topic.all validTopic && validMessageText message.text

def validSendingStateDefaults (state : TdMessageSendingState) : Bool :=
  state.error.isNone && !state.canRetry && !state.needAnotherSender
    && !state.needAnotherReplyQuote && !state.needDropReply
    && state.requiredPaidMessageStarCount == 0 && state.retryAfter == some 0
    && state.unsupportedTdlibTypeId.isNone

def validSchedule (schedule : TdMessageSchedulingState) : Bool :=
  match schedule.kind with
  | .none | .sendWhenOnline =>
    schedule.sendDate == 0 && schedule.repeatPeriod == 0
      && schedule.unsupportedTdlibTypeId.isNone
  | .sendAtDate =>
    decide (0 < schedule.sendDate) && schedule.repeatPeriod == 0
      && schedule.unsupportedTdlibTypeId.isNone
  | .sendWhenVideoProcessed | .unknown => false

def validPendingMessage (message : TdWriteMessage) (chatId sendingId : Int) : Bool :=
  validMessageSummary message.message chatId && message.sendingState.kind == .pending
    && message.sendingState.sendingId == sendingId && sendingId != 0
    && validSendingStateDefaults message.sendingState && validSchedule message.schedulingState

def validFailedMessage (message : TdWriteMessage) (chatId : Int) : Bool :=
  let state := message.sendingState
  validMessageSummary message.message chatId && state.kind == .failed && state.sendingId == 0
    && state.error.isSome && state.unsupportedTdlibTypeId.isNone
    && decide (0 ≤ state.requiredPaidMessageStarCount)
    && state.retryAfter.any (fun seconds => decide (0 ≤ seconds))
    && validSchedule message.schedulingState

/-! ## §3. Classification. -/

def successFrom (message : TdWriteMessage) (chatId : Int) : Option TdMessageWriteResult :=
  if !validMessageSummary message.message chatId || message.sendingState.kind != .stable
      || message.sendingState.sendingId != 0
      || !validSendingStateDefaults message.sendingState
      || !validSchedule message.schedulingState then none
  else
    let scheduled := message.schedulingState.kind != .none
    let summary := message.message
    some
      { id := summary.id, chatId := summary.chatId
        date := if scheduled then none else some summary.date
        sender := summary.sender, isOutgoing := summary.isOutgoing, topic := summary.topic
        contentKind := summary.contentKind, text := summary.text, scheduled := scheduled }

def unsupportedTypeId (message : TdWriteMessage) : Option Int :=
  message.sendingState.unsupportedTdlibTypeId <|> message.schedulingState.unsupportedTdlibTypeId

section Classification

variable (parseRetryAfterSeconds : Bytes → Int)

/-- `retry_after`: the precise delay rounded up, else the one in the text. -/
def retryAfter (error : TdError) (precise : Option Rat) : Int :=
  match precise with
  | some seconds =>
    if 0 < seconds ∧ seconds ≤ 2147483647 then seconds.ceil
    else parseRetryAfterSeconds error.message
  | none => parseRetryAfterSeconds error.message

def failureFrom (error : TdError) (precise : Option Rat) : SendOutcome :=
  if error.code = 429 then .rateLimited error (retryAfter parseRetryAfterSeconds error precise)
  else .failed error

def classifyImmediate (message : TdWriteMessage) (clientGeneration : Nat)
    (chatId sendingId : Int) : ImmediateOutcome :=
  match message.sendingState.kind with
  | .pending =>
    if !validPendingMessage message chatId sendingId then
      .outcome (.malformed (unsupportedTypeId message))
    else .pending
      { clientGeneration := clientGeneration, chatId := chatId
        temporaryMessageId := message.message.id, sendingId := sendingId }
  | .failed =>
    match message.sendingState.error with
    | some error =>
      if !validFailedMessage message chatId then
        .outcome (.malformed (unsupportedTypeId message))
      else .outcome (failureFrom parseRetryAfterSeconds error message.sendingState.retryAfter)
    | none => .outcome (.malformed (unsupportedTypeId message))
  | .stable =>
    match successFrom message chatId with
    | some result => .outcome (.succeeded result)
    | none => .outcome (.malformed none)
  | .unknown => .outcome (.malformed message.sendingState.unsupportedTdlibTypeId)

/-- `classify_update`: what the update says about a temporary message, if it is about it. -/
def classifyUpdate (update : SendUpdate) (temporary : TemporaryId) : Option SendOutcome :=
  match update with
  | .succeeded generation oldMessageId message =>
    if generation ≠ temporary.clientGeneration
        ∨ oldMessageId ≠ temporary.temporaryMessageId then none
    else
      match message with
      | none => some (.malformed none)
      | some message =>
        match successFrom message temporary.chatId with
        | none => some (.malformed (unsupportedTypeId message))
        | some result => some (.succeeded result)
  | .failed generation oldMessageId message error =>
    if generation ≠ temporary.clientGeneration
        ∨ oldMessageId ≠ temporary.temporaryMessageId then none
    else
      match message, error with
      | some message, some error =>
        if !validFailedMessage message temporary.chatId
            || message.sendingState.error != some error then
          some (.malformed (unsupportedTypeId message))
        else
          some (failureFrom parseRetryAfterSeconds error message.sendingState.retryAfter)
      | some message, none => some (.malformed (unsupportedTypeId message))
      | none, _ => some (.malformed none)
  | .deleted generation chatId messageIds =>
    if generation ≠ temporary.clientGeneration ∨ chatId ≠ temporary.chatId
        ∨ temporary.temporaryMessageId ∉ messageIds then none
    else if !validInt53 chatId || !messageIds.all validInt53 then some (.malformed none)
    else some .deletedBeforeConfirmation

variable {parseRetryAfterSeconds}

/-- **An update of one message settles the temporary message it names**; a deletion says the
same of every temporary message it names. -/
theorem classifyUpdate_some
    (h : classifyUpdate parseRetryAfterSeconds update temporary = some outcome) :
    (∀ other : TemporaryId, (classifyUpdate parseRetryAfterSeconds update other).isSome = true →
        other.temporaryMessageId = temporary.temporaryMessageId)
      ∨ (outcome = .deletedBeforeConfirmation
          ∧ ∀ other, classifyUpdate parseRetryAfterSeconds update other = none
            ∨ classifyUpdate parseRetryAfterSeconds update other = some .deletedBeforeConfirmation)
      ∨ ((∃ typeId, outcome = .malformed typeId)
          ∧ ∀ other result, classifyUpdate parseRetryAfterSeconds update other = some result →
            ∃ typeId, result = .malformed typeId) := by
  cases update with
  | succeeded generation oldMessageId message | failed generation oldMessageId message error =>
    refine .inl fun other hother => ?_
    simp only [classifyUpdate] at h hother
    split at h
    · cases h
    rename_i hsame
    split at hother
    · cases hother
    next hsame' =>
      simp only [not_or, not_not] at hsame hsame'
      rw [← hsame.2, ← hsame'.2]
  | deleted generation chatId messageIds =>
    -- whether a deletion is well formed does not depend on the temporary message
    simp only [classifyUpdate] at h
    split at h
    · cases h
    by_cases hval : (!validInt53 chatId || !messageIds.all validInt53) = true
    · rw [if_pos hval] at h
      injection h with h
      refine .inr (.inr ⟨⟨none, h.symm⟩, fun other result hres => ?_⟩)
      simp only [classifyUpdate] at hres
      split at hres
      · cases hres
      · injection hres with hres
        exact ⟨none, hres.symm⟩
    · rw [if_neg hval] at h
      injection h with h
      refine .inr (.inl ⟨h.symm, fun other => ?_⟩)
      simp only [classifyUpdate]
      split
      · exact .inl rfl
      · exact .inr rfl

end Classification

/-! ## §4. Items and outcomes. -/

inductive ForwardMutationState where
  | none | possible | confirmed
deriving DecidableEq, Repr

inductive ForwardFailureReason where
  | upstreamNull | tdlibError | deletedBeforeConfirmation
deriving DecidableEq, Repr

inductive ForwardItem where
  | pending (sourceId temporaryMessageId : Int)
  | sent (sourceId : Int) (message : TdMessageWriteResult)
  | failed (sourceId : Int) (reason : ForwardFailureReason) (tdlibCode retryAfter : Option Int)
deriving DecidableEq, Repr

namespace ForwardItem

def sourceId : ForwardItem → Int
  | pending id _ | sent id _ | failed id _ _ _ => id

def isPending : ForwardItem → Bool
  | pending _ _ => true
  | _ => false

def isSent : ForwardItem → Bool
  | sent _ _ => true
  | _ => false

/-- The id of the message that was sent. -/
def finalId : ForwardItem → Option Int
  | sent _ message => some message.id
  | _ => none

def isDeleted : ForwardItem → Bool
  | failed _ .deletedBeforeConfirmation _ _ => true
  | _ => false

end ForwardItem

def mutationState (items : List ForwardItem) : ForwardMutationState :=
  if items.any (·.isSent) then .confirmed
  else if items.any (fun item => item.isPending || item.isDeleted) then .possible
  else .none

/-- A state that is not known to be `None`. -/
def ForwardMutationState.atLeastPossible : ForwardMutationState → ForwardMutationState
  | .none => .possible
  | state => state

def unknownMutationState (items : List ForwardItem) : ForwardMutationState :=
  (mutationState items).atLeastPossible

def complete (items : List ForwardItem) : Bool := items.all (!·.isPending)

inductive ForwardOutcome where
  | completed (items : List ForwardItem) (mutation : ForwardMutationState)
  | topLevelError (error : TdError) (mutation : ForwardMutationState)
  | timedOut (items : List ForwardItem) (mutation : ForwardMutationState)
  | authorizationLost (items : List ForwardItem) (clientGeneration authSequence : Nat)
      (state : AuthState) (mutation : ForwardMutationState)
  | generationClosed (items : List ForwardItem) (clientGeneration : Nat)
      (mutation : ForwardMutationState)
  | cancelled (items : List ForwardItem) (mutation : ForwardMutationState)
  | rejected (items : List ForwardItem) (failure : Option TdAuthorizationFailure)
      (mutation : ForwardMutationState)
  | malformed (items : List ForwardItem) (tdlibTypeId : Option Int)
      (mutation : ForwardMutationState)
deriving DecidableEq, Repr

def ForwardOutcome.mutation : ForwardOutcome → ForwardMutationState
  | completed _ mutation | topLevelError _ mutation | timedOut _ mutation
  | authorizationLost _ _ _ _ mutation | generationClosed _ _ mutation | cancelled _ mutation
  | rejected _ _ mutation | malformed _ _ mutation => mutation

/-- The outcomes behind which the caller stores a mutation proof. -/
def ForwardOutcome.provesMutation : ForwardOutcome → Bool
  | completed _ .confirmed | timedOut _ .confirmed => true
  | _ => false

/-! ## §5. Events. -/

structure StampedUpdate where
  sequence : Nat
  observedAt : Option Int
  update : SendUpdate
deriving DecidableEq, Repr

/-- `core::AuthStateSnapshot`. -/
structure AuthSnapshot where
  clientGeneration : Nat
  authSequence : Nat
  receiveEventSequence : Nat
  receiveObservedAt : Option Int
  state : AuthState
deriving DecidableEq, Repr

/-- The order of `std::tie(client_generation, auth_sequence)`. -/
def AuthSnapshot.before (a b : AuthSnapshot) : Bool :=
  decide (a.clientGeneration < b.clientGeneration)
    || (a.clientGeneration == b.clientGeneration && decide (a.authSequence < b.authSequence))

/-- The value of a response. -/
inductive Payload where
  | error (e : TdError)
  | directConversionError (tdlibTypeId : Option Int)
  | forwardMessages (messages : List (Option TdWriteMessage))
  | other
deriving DecidableEq, Repr

/-- What the future of the response delivers. -/
inductive Answer where
  | value (sequence : Nat) (observedAt : Option Int) (payload : Payload)
  | authorizationError (failure : TdAuthorizationFailure)
  | exception
deriving DecidableEq, Repr

def eventPrecedesDeadline (observedAt deadline : Option Int) : Bool :=
  observedAt.any fun at_ => deadline.all fun expiry => decide (at_ < expiry)

def deadlineExpired (deadline : Option Int) (now : Int) : Bool :=
  deadline.any fun expiry => decide (expiry ≤ now)

/-- What the coordinator was prepared with. -/
structure Request where
  sourceIds : List Int
  toChatId : Int
  sendingId : Int
  /-- the snapshot the request was sent under -/
  sent : AuthSnapshot
  deadline : Option Int
deriving DecidableEq, Repr

/-- How the hook ends for a vector: it returns, it throws behind the checkpoint, or it throws
before the vector is stored. -/
inductive Publication where
  | returned | stored | refused
deriving DecidableEq, Repr

/-- The vector is in the audit log. -/
def Publication.durable (publication : Publication) : Bool := publication != .refused

/-- One turn of the loop. -/
structure Round where
  updates : List StampedUpdate := []
  auth : List AuthSnapshot := []
  answer : Option Answer := none
  now : Int := 0
  cancelled : Bool := false
  /-- `on_temporary_ids` returns -/
  temporaryIdsDurable : Bool := true
  onProgress : List ForwardItem → Publication := fun _ => .returned

/-! ## §6. The state. -/

/-- An item and its temporary id, while it has one. -/
structure Entry where
  item : ForwardItem
  temporary : Option TemporaryId
deriving DecidableEq, Repr

structure State where
  entries : List Entry := []
  updates : List StampedUpdate := []
  authEvents : List AuthSnapshot := []
  processed : List Nat := []
  responseConsumed : Bool := false
  initialPublished : Bool := false
  /-- the ids handed to `on_temporary_ids` -/
  temporaryIds : Option (List Int) := none
  /-- the vectors handed to `on_progress`, and whether they were stored -/
  passed : List (List ForwardItem × Bool) := []
deriving DecidableEq, Repr

def State.items (s : State) : List ForwardItem := s.entries.map Entry.item

/-- `record_auth`: only a newer snapshot is kept. -/
def recordAuth (events : List AuthSnapshot) (snapshot : AuthSnapshot) : List AuthSnapshot :=
  match events.getLast? with
  | none => events ++ [snapshot]
  | some latest => if latest.before snapshot then events ++ [snapshot] else events

/-- The events recorded since the last turn. -/
def State.record (s : State) (round : Round) : State :=
  { s with
    updates := s.updates ++ round.updates
    authEvents := round.auth.foldl recordAuth s.authEvents }

/-- The snapshot counts as a loss of the authorization the request was sent under. -/
def losesAuthorization (request : Request) (snapshot : AuthSnapshot) : Bool :=
  request.sent.before snapshot && snapshot.receiveEventSequence != 0
    && eventPrecedesDeadline snapshot.receiveObservedAt request.deadline
    && snapshot.state != .ready

/-- The first element with the least key. -/
def leastBy {α : Type} (key : α → Nat) (xs : List α) : Option α :=
  xs.foldl (fun best x =>
    match best with
    | none => some x
    | some b => if key x < key b then some x else some b) none

def authTerminal (request : Request) (s : State) : Option AuthSnapshot :=
  leastBy AuthSnapshot.receiveEventSequence (s.authEvents.filter (losesAuthorization request))

def authOutcome (request : Request) (items : List ForwardItem) (event : AuthSnapshot) :
    ForwardOutcome :=
  let state := if items.isEmpty then .possible else mutationState items
  if event.clientGeneration ≠ request.sent.clientGeneration ∨ event.state = .closed then
    .generationClosed items request.sent.clientGeneration state.atLeastPossible
  else
    .authorizationLost items event.clientGeneration event.authSequence event.state
      state.atLeastPossible

section Coordinator

variable (parseRetryAfterSeconds : Bytes → Int)

/-! ## §7. The response. -/

def failedFrom (sourceId : Int) : SendOutcome → Option ForwardItem
  | .failed error => some (.failed sourceId .tdlibError (some error.code) none)
  | .rateLimited error retryAfter =>
    some (.failed sourceId .tdlibError (some error.code) (some retryAfter))
  | _ => none

/-- The loop of `consume_response` over the messages; the error is the type id of a malformed
response. -/
def parseMessages (request : Request) : List Int → List (Option TdWriteMessage) →
    (temporaryIds finalIds : List Int) → Except (Option Int) (List Entry)
  | sourceId :: sources, message :: messages, temporaryIds, finalIds =>
    match message with
    | none =>
      (parseMessages request sources messages temporaryIds finalIds).map
        ({ item := .failed sourceId .upstreamNull none none, temporary := none } :: ·)
    | some message =>
      match classifyImmediate parseRetryAfterSeconds message request.sent.clientGeneration
          request.toChatId request.sendingId with
      | .pending temporary =>
        if temporary.temporaryMessageId ∈ temporaryIds then .error none
        else
          (parseMessages request sources messages
            (temporary.temporaryMessageId :: temporaryIds) finalIds).map
            ({ item := .pending sourceId temporary.temporaryMessageId
               temporary := some temporary } :: ·)
      | .outcome (.succeeded result) =>
        if result.id ∈ finalIds then .error none
        else
          (parseMessages request sources messages temporaryIds (result.id :: finalIds)).map
            ({ item := .sent sourceId result, temporary := none } :: ·)
      | .outcome (.malformed typeId) => .error typeId
      | .outcome outcome =>
        match failedFrom sourceId outcome with
        | some item =>
          (parseMessages request sources messages temporaryIds finalIds).map
            ({ item := item, temporary := none } :: ·)
        | none => .error none
  | _, _, _, _ => .ok []

/-- What `consume_response` gives: a terminal, or the entries of the vector, with the sequence
of the response; no sequence stands for the largest one. -/
def consumeResponse (request : Request) (answer : Answer) :
    Option Nat × Except ForwardOutcome (List Entry) :=
  match answer with
  | .authorizationError failure => (none, .error (.rejected [] (some failure) .possible))
  | .exception => (none, .error (.malformed [] none .possible))
  | .value sequence observedAt payload =>
    if sequence = 0 ∨ observedAt = none then (none, .error (.malformed [] none .possible))
    else if !eventPrecedesDeadline observedAt request.deadline then
      (none, .error (.timedOut [] .possible))
    else
      (some sequence, match payload with
        | .error e => .error (.topLevelError e .possible)
        | .directConversionError typeId => .error (.malformed [] typeId .possible)
        | .other => .error (.malformed [] none .possible)
        | .forwardMessages messages =>
          if messages.length ≠ request.sourceIds.length then
            .error (.malformed [] none .possible)
          else
            match parseMessages parseRetryAfterSeconds request request.sourceIds messages
                [] [] with
            | .error typeId => .error (.malformed [] typeId .possible)
            | .ok entries => .ok entries)

/-! ## §8. Updates. -/

/-- The temporary id of an entry that can still be settled. -/
def Entry.open (entry : Entry) : Option TemporaryId :=
  if entry.item.isPending then entry.temporary else none

/-- `matching_update_index` finds an entry. -/
def matchesUpdate (request : Request) (s : State) (stamped : StampedUpdate) : Bool :=
  !s.processed.contains stamped.sequence && stamped.sequence != 0
    && eventPrecedesDeadline stamped.observedAt request.deadline
    && s.entries.any fun entry => entry.open.any fun temporary =>
      (classifyUpdate parseRetryAfterSeconds stamped.update temporary).isSome

def earliestUpdate (request : Request) (s : State) : Option StampedUpdate :=
  leastBy StampedUpdate.sequence
    (s.updates.filter (matchesUpdate parseRetryAfterSeconds request s))

/-- What an update makes of a pending entry; the error is the type id of a malformed update. -/
def settle (items : List ForwardItem) (sourceId : Int) :
    SendOutcome → Except (Option Int) ForwardItem
  | .succeeded result =>
    if items.any (fun item => item.finalId == some result.id) then .error none
    else .ok (.sent sourceId result)
  | .deletedBeforeConfirmation =>
    .ok (.failed sourceId .deletedBeforeConfirmation none none)
  | .malformed typeId => .error typeId
  | .failed error => .ok (.failed sourceId .tdlibError (some error.code) none)
  | .rateLimited error retryAfter =>
    .ok (.failed sourceId .tdlibError (some error.code) (some retryAfter))

/-- The loop of `apply_update`: the entries behind it, those before it, and whether something
changed. -/
def applyLoop (update : SendUpdate) : (done : List Entry) → List Entry → (changed : Bool) →
    Except ForwardOutcome (List Entry × Bool)
  | done, [], changed => .ok (done, changed)
  | done, entry :: rest, changed =>
    match entry.open.bind (classifyUpdate parseRetryAfterSeconds update) with
    | none => applyLoop update (done ++ [entry]) rest changed
    | some outcome =>
      let items := (done ++ entry :: rest).map Entry.item
      match settle items entry.item.sourceId outcome with
      | .error typeId => .error (.malformed items typeId (unknownMutationState items))
      | .ok item =>
        applyLoop update (done ++ [{ item := item, temporary := none }]) rest true

/-- The end of a turn: the outcome, or the state for the next one. -/
inductive Turn where
  | finish (outcome : ForwardOutcome) (s : State)
  | next (s : State)
deriving DecidableEq, Repr

def applyUpdate (round : Round) (s : State) (stamped : StampedUpdate) : Turn :=
  let s := { s with processed := stamped.sequence :: s.processed }
  match applyLoop parseRetryAfterSeconds stamped.update [] s.entries false with
  | .error outcome => .finish outcome s
  | .ok (entries, changed) =>
    if !changed then .next s
    else
      let s := { s with entries := entries }
      let publication := round.onProgress s.items
      let s := { s with passed := s.passed ++ [(s.items, publication.durable)] }
      if publication ≠ .returned then
        .finish (.malformed s.items none (unknownMutationState s.items)) s
      else if complete s.items then .finish (.completed s.items (mutationState s.items)) s
      else .next s

/-! ## §9. One turn. -/

/-- The ids `publish_initial` hands on. -/
def temporaryIdsOf (entries : List Entry) : List Int :=
  entries.filterMap fun entry => entry.temporary.map TemporaryId.temporaryMessageId

/-- `publish_initial` and what follows it in the loop. -/
def publishInitial (round : Round) (s : State) : Turn :=
  let ids := temporaryIdsOf s.entries
  let s := { s with temporaryIds := if ids.isEmpty then none else some ids }
  if !ids.isEmpty && !round.temporaryIdsDurable then
    .finish (.malformed s.items none .possible) s
  else
    let publication := round.onProgress s.items
    let s := { s with passed := s.passed ++ [(s.items, publication.durable)] }
    if publication ≠ .returned then .finish (.malformed s.items none .possible) s
    else
      let s := { s with initialPublished := true }
      if complete s.items then .finish (.completed s.items (mutationState s.items)) s
      else .next s

/-- The end of a turn in which nothing was arbitrated: the deadline, the cancellation. -/
def endTurn (request : Request) (round : Round) (s : State) : Turn :=
  if deadlineExpired request.deadline round.now then
    .finish (.timedOut s.items (if s.items.isEmpty then .possible else mutationState s.items)) s
  else if round.cancelled then
    .finish (.cancelled s.items
      (if s.items.isEmpty then .possible else mutationState s.items).atLeastPossible) s
  else .next s

/-- The loss of the authorization that came before the response and before every update. -/
def overtaking (request : Request) (s : State) (sequence : Option Nat) : Option AuthSnapshot :=
  (authTerminal request s).filter fun event =>
    sequence.all (fun n => decide (event.receiveEventSequence < n))
      && (earliestUpdate parseRetryAfterSeconds request s).all fun update =>
        decide (event.receiveEventSequence < update.sequence)

/-- The turn in which the response is consumed. -/
def arbitrateResponse (request : Request) (round : Round) (s : State) (answer : Answer) : Turn :=
  let s := { s with responseConsumed := true }
  match consumeResponse parseRetryAfterSeconds request answer with
  | (sequence, .error terminal) =>
    match authTerminal request s with
    | some event =>
      if sequence.all (fun n => decide (event.receiveEventSequence < n)) then
        .finish (authOutcome request s.items event) s
      else .finish terminal s
    | none => .finish terminal s
  | (sequence, .ok entries) =>
    let s := { s with entries := entries }
    match overtaking parseRetryAfterSeconds request s sequence with
    | some event => .finish (authOutcome request s.items event) s
    | none => publishInitial round s

/-- The update that comes before a loss of the authorization. -/
def selectedUpdate (request : Request) (s : State) : Option StampedUpdate :=
  (earliestUpdate parseRetryAfterSeconds request s).filter fun update =>
    (authTerminal request s).all fun event => decide (update.sequence < event.receiveEventSequence)

/-- The turn after the vector was published. -/
def arbitrateUpdate (request : Request) (round : Round) (s : State) : Turn :=
  match selectedUpdate parseRetryAfterSeconds request s with
  | some update => applyUpdate parseRetryAfterSeconds round s update
  | none =>
    match authTerminal request s with
    | some event => .finish (authOutcome request s.items event) s
    | none => endTurn request round s

/-- One turn of `wait_for_terminal`. -/
def turn (request : Request) (round : Round) (s : State) : Turn :=
  let s := s.record round
  if s.initialPublished then arbitrateUpdate parseRetryAfterSeconds request round s
  else
    match round.answer with
    | some answer => arbitrateResponse parseRetryAfterSeconds request round s answer
    | none => endTurn request round s

/-- `wait_for_terminal` over these turns: the state, and the outcome if it was reached. -/
def waitForTerminal (request : Request) : List Round → State → State × Option ForwardOutcome
  | [], s => (s, none)
  | round :: rounds, s =>
    match turn parseRetryAfterSeconds request round s with
    | .finish outcome s => (s, some outcome)
    | .next s => waitForTerminal request rounds s

end Coordinator

end TgCli.Forward
