/-
  TgCli.Audit.Group — THE RECORDS OF THE AUDIT LOG AND THEIR GROUPS

  One audit log holds records of two versions: version 1 is written by
  `LogoutAuditLog` (`logout_audit.cpp`, `destructive_contract.cpp`), version 2
  by `AccountAuditLog` (`account_audit.cpp`).  A record is the parsed document
  with the fields the readers decide on; `bytes` is its serialized length, and
  its line has one byte more.

  The directory belongs to one account, so the account field is left out, and
  a document's remaining payload is one text.

  A group is an intent, its checkpoints and its outcome.  `consumeV2` is the
  automaton of `account_audit.cpp` that takes the next record of a group: it
  checks the record on its own (`validCheckpoint`, `validOutcome`), the stage
  history (`transitionHistory`) and what the record says about the group.

  Error texts are the texts of the source.
-/
import Mathlib.Algebra.Order.Ring.Nat

namespace TgCli.Audit

/-! ## §1. Operations and stages. -/

/-- `AccountAuditOperation`. -/
inductive Operation where
  | send | msgEdit | msgDelete | msgForward | msgReact | msgPin | msgUnpin
  | chatMarkRead | chatMute | chatUnmute | chatPin | chatUnpin | chatArchive | chatUnarchive
  | chatJoin | chatLeave | savedAttach | sessionTerminate
  | contactAdd | contactRemove | contactBlock | contactUnblock
  | folderCreate | folderEdit | folderDelete | folderAddChat | folderRemoveChat
  | topicCreate | topicEdit | topicClose | topicReopen
  | chatSetTitle | chatSetPhoto | chatSetDescription | chatInviteLink | chatPromote | chatDemote
  | chatBan | chatUnban | chatKick | chatSetPermissions | storageOptimize
deriving DecidableEq, Repr

namespace Operation

/-- `account_audit_operation_name`. -/
def name : Operation → String
  | send => "send"
  | msgEdit => "msg_edit"
  | msgDelete => "msg_delete"
  | msgForward => "msg_forward"
  | msgReact => "msg_react"
  | msgPin => "msg_pin"
  | msgUnpin => "msg_unpin"
  | chatMarkRead => "chat_mark_read"
  | chatMute => "chat_mute"
  | chatUnmute => "chat_unmute"
  | chatPin => "chat_pin"
  | chatUnpin => "chat_unpin"
  | chatArchive => "chat_archive"
  | chatUnarchive => "chat_unarchive"
  | chatJoin => "chat_join"
  | chatLeave => "chat_leave"
  | savedAttach => "saved_attach"
  | sessionTerminate => "session_terminate"
  | contactAdd => "contact_add"
  | contactRemove => "contact_remove"
  | contactBlock => "contact_block"
  | contactUnblock => "contact_unblock"
  | folderCreate => "folder_create"
  | folderEdit => "folder_edit"
  | folderDelete => "folder_delete"
  | folderAddChat => "folder_add_chat"
  | folderRemoveChat => "folder_remove_chat"
  | topicCreate => "topic_create"
  | topicEdit => "topic_edit"
  | topicClose => "topic_close"
  | topicReopen => "topic_reopen"
  | chatSetTitle => "chat_set_title"
  | chatSetPhoto => "chat_set_photo"
  | chatSetDescription => "chat_set_description"
  | chatInviteLink => "chat_invite_link"
  | chatPromote => "chat_promote"
  | chatDemote => "chat_demote"
  | chatBan => "chat_ban"
  | chatUnban => "chat_unban"
  | chatKick => "chat_kick"
  | chatSetPermissions => "chat_set_permissions"
  | storageOptimize => "storage_optimize"

def idempotent : Operation → Bool
  | sessionTerminate | chatInviteLink | storageOptimize => false
  | _ => true

def usesPhotoSpool : Operation → Bool
  | chatSetPhoto => true
  | _ => false

/-- The operations that copy a file into the spool. -/
def usesSpool (operation : Operation) : Bool :=
  operation == savedAttach || operation.usesPhotoSpool

end Operation

/-- `AccountAuditStage`. -/
inductive Stage where
  | idempotencyPending | spoolReady | dispatchStarted | temporaryIdsObserved | forwardProgress
  | mutationConfirmed
deriving DecidableEq, Repr

/-- `AccountAuditMutationState`. -/
inductive MutationState where
  | none | possible | confirmed
deriving DecidableEq, Repr

def allowedOrder (operation : Operation) : List Stage :=
  if operation = .savedAttach then
    [.idempotencyPending, .spoolReady, .dispatchStarted, .temporaryIdsObserved, .mutationConfirmed]
  else if operation.usesPhotoSpool then
    [.idempotencyPending, .spoolReady, .dispatchStarted, .mutationConfirmed]
  else if operation = .msgForward then
    [.idempotencyPending, .dispatchStarted, .temporaryIdsObserved, .forwardProgress,
      .mutationConfirmed]
  else if operation = .send then
    [.idempotencyPending, .dispatchStarted, .temporaryIdsObserved, .mutationConfirmed]
  else if !operation.idempotent then
    [.dispatchStarted, .mutationConfirmed]
  else [.idempotencyPending, .dispatchStarted, .mutationConfirmed]

/-! ## §2. Forwarded items, files and terminals. -/

inductive ForwardFailure where
  | upstreamNull | tdlibError | deletedBeforeConfirmation
deriving DecidableEq, Repr

inductive Sender where
  | user (id : Int)
  | chat (id : Int)
deriving DecidableEq, Repr

inductive TopicKind where
  | forum | thread | direct | saved
deriving DecidableEq, Repr

inductive MessageType where
  | text | photo | video | doc | voice | other
deriving DecidableEq, Repr

/-- A sent message as a result stores it; `date` is in seconds. -/
structure SentMessage where
  id : Int
  chatId : Int
  date : Option Nat
  sender : Sender
  isOutgoing : Bool
  topic : Option (TopicKind × Int)
  type : MessageType
  text : String
  scheduled : Bool
deriving DecidableEq, Repr

/-- `status` of a forwarded item with its fields. -/
inductive ItemStatus where
  | pending (temporaryId : Int)
  | sent (message : SentMessage)
  | failed (reason : ForwardFailure) (tdlibCode : Option Int) (retryAfter : Option Nat)
deriving DecidableEq, Repr

structure ForwardItem where
  sourceId : Int
  status : ItemStatus
deriving DecidableEq, Repr

namespace ForwardItem

def isPending (item : ForwardItem) : Bool :=
  match item.status with
  | .pending _ => true
  | _ => false

def isSent (item : ForwardItem) : Bool :=
  match item.status with
  | .sent _ => true
  | _ => false

/-- The item failed because its message was deleted before it was confirmed. -/
def deletedBeforeConfirmation (item : ForwardItem) : Bool :=
  match item.status with
  | .failed .deletedBeforeConfirmation _ _ => true
  | _ => false

/-- The item failed on the rate limit of the server. -/
def rateLimited (item : ForwardItem) : Bool :=
  match item.status with
  | .failed .tdlibError (some 429) (some _) => true
  | _ => false

def retryAfter (item : ForwardItem) : Nat :=
  match item.status with
  | .failed _ _ (some seconds) => seconds
  | _ => 0

end ForwardItem

def forwardVectorComplete (items : List ForwardItem) : Bool :=
  items.all (!·.isPending)

structure FileSnapshot where
  path : String
  name : String
  size : Nat
  sha256 : String
  device : Nat
  inode : Nat
  mtimeNs : Int
  ctimeNs : Int
deriving DecidableEq, Repr

structure SpoolRef where
  relativePath : String
  file : FileSnapshot
deriving DecidableEq, Repr

def relativeSpoolPath (invocation name : String) : String :=
  "spool/" ++ invocation ++ "/" ++ name

/-- The stored error codes, `AUDIT_INCOMPLETE` apart. -/
inductive ErrorCode where
  | timeout | daemonShutdown | notAuthed | tdlibError | rateLimited | internal | sendFailed
  | forwardFailed | forwardPartial | joinApprovalRequired | joinDeclined | inputChanged
  | spoolUnavailable | preconditionFailed
deriving DecidableEq, Repr

/-- The fields a result repeats from its plan: the chat (`from` of a forward),
the chat a forward goes to, and the serialized rest. -/
structure Target where
  chatId : Option Int := none
  toChatId : Option Int := none
  rest : String := ""
deriving DecidableEq, Repr

/-- A stored terminal.  `lastReadNull` says that `last_read_message_id` is null;
`data` and `details` are the serialized fields not kept elsewhere. -/
inductive Terminal where
  | result (target : Option Target) (items : Option (List ForwardItem)) (lastReadNull : Bool)
      (data : String)
  | incomplete (mutation : MutationState) (completed : List Stage)
  | error (code : ErrorCode) (items : Option (List ForwardItem)) (details : String)
deriving DecidableEq, Repr

namespace Terminal

/-- `terminal["kind"] == "result"`. -/
def isResult : Terminal → Bool
  | .result _ _ _ _ => true
  | _ => false

/-- `forward_terminal_items`. -/
def items : Terminal → Option (List ForwardItem)
  | .result _ items _ _ => items
  | .incomplete _ _ => none
  | .error _ items _ => items

def code : Terminal → Option ErrorCode
  | .error code _ _ => some code
  | _ => none

end Terminal

/-! ## §3. Version 2. -/

/-- The plan of an intent.  `messageIds` are the messages of a forward, which
its arguments repeat; `markReadNoop` says that `tdlib_request` and
`last_message_id` are null. -/
structure Plan where
  target : Option Target
  messageIds : List Int := []
  file : Option FileSnapshot := none
  markReadNoop : Bool := false
  body : String := ""
deriving DecidableEq, Repr

structure Intent where
  invocation : String
  unixSeconds : Int
  operation : Operation
  plan : Plan
  fingerprint : String
  keyHash : Option String
  bytes : Nat
deriving DecidableEq, Repr

inductive CheckpointData where
  | idempotencyPending (keyHash fingerprint : String) (expiresAt reservedTerminalBytes : Nat)
  | spoolReady (spool : SpoolRef)
  | dispatchStarted (proof : String)
  | temporaryIdsObserved (ids : List Int)
  | forwardProgress (items : List ForwardItem)
  | mutationConfirmed (terminal : Terminal)
deriving DecidableEq, Repr

def CheckpointData.stage : CheckpointData → Stage
  | .idempotencyPending _ _ _ _ => .idempotencyPending
  | .spoolReady _ => .spoolReady
  | .dispatchStarted _ => .dispatchStarted
  | .temporaryIdsObserved _ => .temporaryIdsObserved
  | .forwardProgress _ => .forwardProgress
  | .mutationConfirmed _ => .mutationConfirmed

structure Checkpoint where
  invocation : String
  operation : Operation
  sequence : Nat
  data : CheckpointData
  bytes : Nat
deriving DecidableEq, Repr

def Checkpoint.stage (checkpoint : Checkpoint) : Stage := checkpoint.data.stage

structure Outcome where
  invocation : String
  operation : Operation
  success : Bool
  mutation : MutationState
  completed : List Stage
  terminal : Terminal
  bytes : Nat
deriving DecidableEq, Repr

inductive Record where
  | intent (intent : Intent)
  | checkpoint (checkpoint : Checkpoint)
  | outcome (outcome : Outcome)
deriving DecidableEq, Repr

namespace Record

def invocation : Record → String
  | .intent i => i.invocation
  | .checkpoint c => c.invocation
  | .outcome o => o.invocation

def operation : Record → Operation
  | .intent i => i.operation
  | .checkpoint c => c.operation
  | .outcome o => o.operation

def bytes : Record → Nat
  | .intent i => i.bytes
  | .checkpoint c => c.bytes
  | .outcome o => o.bytes

end Record

/-! ## §4. Version 1. -/

/-- The stages of a logout. -/
inductive LogoutStage where
  | intentSynced | sendStarted | closedConfirmed
deriving DecidableEq, Repr

/-- The codes a failed logout may store. -/
inductive LogoutError where
  | authFunctionDenied | remoteLogoutUnconfirmed | rateLimited | tdlibError | timeout
  | daemonShutdown | internal
deriving DecidableEq, Repr

/-- A record of `LogoutAuditLog`: its phase with the fields of that phase. -/
inductive LogoutPhase where
  | intent (configSnapshot : String)
  | checkpoint (stage : LogoutStage)
  | outcome (mutation : MutationState) (completed : List LogoutStage) (error : Option LogoutError)
deriving DecidableEq, Repr

structure LogoutRecord where
  invocation : String
  phase : LogoutPhase
  bytes : Nat
deriving DecidableEq, Repr

/-! ## §5. Lines. -/

/-- One line of a segment; `malformed` is a line that does not parse. -/
inductive Line where
  | logout (record : LogoutRecord)
  | v2 (record : Record)
  | malformed (length : Nat)
deriving DecidableEq, Repr

namespace Line

/-- The length of the text before the line feed. -/
def text : Line → Nat
  | .logout record => record.bytes
  | .v2 record => record.bytes
  | .malformed length => length

def bytes (line : Line) : Nat := line.text + 1

/-- `document["command"]`. -/
def command : Line → Option String
  | .logout _ => some "logout"
  | .v2 record => some record.operation.name
  | .malformed _ => none

end Line

/-! ## §6. The entries of the idempotency store. -/

/-- `IdempotencyEntryState`. -/
inductive EntryState where
  | pending | completed
deriving DecidableEq, Repr

/-- `IdempotencyEntry`. -/
structure StoreEntry (P I F T : Type) where
  keyHash : String
  fingerprint : String
  operation : Operation
  state : EntryState := .pending
  invocation : String
  auditGeneration : Nat
  createdAt : Nat
  expiresAt : Nat
  reservedTerminalBytes : Nat
  plan : P
  temporaryIds : I
  forwardProgress : F
  spool : Option SpoolRef := none
  terminal : Option T := none
deriving DecidableEq, Repr

/-- `AccountAuditPin`: a store entry holds on to its intent. -/
structure Pin where
  generation : Nat
  invocation : String
  fingerprint : String
  operation : Operation
deriving DecidableEq, Repr

def StoreEntry.pin {P I F T : Type} (entry : StoreEntry P I F T) : Pin :=
  ⟨entry.auditGeneration, entry.invocation, entry.fingerprint, entry.operation⟩

/-! ## §7. Records on their own. -/

def kMaximumForwardItems : Nat := 100

def kMaximumForwardProgressRecords : Nat := 101

def kMaximumUnixSeconds : Nat := 253402300799

def kMaximumInt53 : Int := 9007199254740991

def kMaximumInt32 : Int := 2147483647

def kMessageTextBytes : Nat := 16384

def kMessageTextScalars : Nat := 4096

def validInt53 (number : Int) : Bool :=
  decide (-kMaximumInt53 ≤ number ∧ number ≤ kMaximumInt53)

/-- `valid_int53` of a positive number. -/
def validPositiveInt53 (number : Int) : Bool :=
  decide (1 ≤ number ∧ number ≤ kMaximumInt53)

/-- `valid_message_id`; chat ids are checked the same way. -/
def validMessageId (number : Int) : Bool :=
  number != 0 && validInt53 number

def validInt32 (number : Int) : Bool :=
  decide (-kMaximumInt32 - 1 ≤ number ∧ number ≤ kMaximumInt32)

def validMessageTopic : Option (TopicKind × Int) → Bool
  | none => true
  | some (kind, id) => validPositiveInt53 id && (kind != .forum || decide (id ≤ kMaximumInt32))

def validSender : Sender → Bool
  | .user id => validPositiveInt53 id
  | .chat id => validMessageId id

/-- `valid_message_write_result`. -/
def validSentMessage (message : SentMessage) : Bool :=
  validMessageId message.id && validMessageId message.chatId && validMessageTopic message.topic
    && decide (message.text.utf8ByteSize ≤ kMessageTextBytes)
    && decide (message.text.length ≤ kMessageTextScalars)
    && message.date.isNone == message.scheduled
    && message.date.all (fun seconds => decide (seconds ≤ kMaximumUnixSeconds))
    && validSender message.sender

def validForwardItem (item : ForwardItem) : Bool :=
  validMessageId item.sourceId
    && match item.status with
      | .pending id => validMessageId id
      | .sent message => validSentMessage message
      | .failed reason code retry =>
        code.all validInt32 && retry.all (fun seconds => decide ((seconds : Int) ≤ kMaximumInt32))
          && (if reason = .tdlibError then
                match code with
                | none => false
                | some code => if code = 429 then retry.isSome else retry.isNone
              else code.isNone && retry.isNone)

def temporaryIds (items : List ForwardItem) : List Int :=
  items.filterMap fun item =>
    match item.status with
    | .pending id => some id
    | _ => none

def finalIds (items : List ForwardItem) : List Int :=
  items.filterMap fun item =>
    match item.status with
    | .sent message => some message.id
    | _ => none

def validForwardItems (items : List ForwardItem) (allowEmpty requireTerminal : Bool) : Bool :=
  (allowEmpty || !items.isEmpty) && decide (items.length ≤ kMaximumForwardItems)
    && items.all validForwardItem
    && decide (items.Pairwise (·.sourceId < ·.sourceId))
    && (!requireTerminal || forwardVectorComplete items)
    && decide (temporaryIds items).Nodup && decide (finalIds items).Nodup

/-- `legal_completed_stages`: a prefix of one of the stage lists of the operation. -/
def legalCompletedStages (operation : Operation) (completed : List Stage) : Bool :=
  completed.isEmpty
    || [false, true].any fun keyed => [false, true].any fun temporary =>
      [false, true].any fun progress => [false, true].any fun proof =>
        completed.isPrefixOf
          ((if keyed && operation.idempotent then [.idempotencyPending] else [])
            ++ (if operation == .savedAttach || (operation.usesPhotoSpool && temporary) then
                  [.spoolReady] else [])
            ++ [.dispatchStarted]
            ++ (if temporary && (operation == .send || operation == .savedAttach
                  || operation == .msgForward) then [.temporaryIdsObserved] else [])
            ++ (if progress && operation == .msgForward then [.forwardProgress] else [])
            ++ (if proof then [.mutationConfirmed] else []))

/-- `valid_audit_incomplete_details`. -/
def validIncomplete (operation : Operation) (mutation : MutationState) (completed : List Stage) :
    Bool :=
  decide completed.Nodup && legalCompletedStages operation completed
    && (if !completed.contains .dispatchStarted then mutation == .none
        else if completed.contains .mutationConfirmed then mutation == .confirmed
        else completed.contains .forwardProgress || mutation == .possible)

/-- The largest delay the rate-limited items ask for. -/
def maximumRetry (items : List ForwardItem) : Nat :=
  (items.map (·.retryAfter)).foldl max 0

/-- A chat id of a target as text. -/
def chatText (chat : Option Int) : String := (chat.map toString).getD "null"

/-- The details of `FORWARD_PARTIAL` and `FORWARD_FAILED`, the items apart. -/
def forwardDetails (target : Option Target) : String :=
  "\"from_chat_id\":" ++ chatText (target.bind (·.chatId)) ++ ",\"operation\":\"msg_forward\""
    ++ ",\"to_chat_id\":" ++ chatText (target.bind (·.toChatId))

/-- The details of `RATE_LIMITED`, the items apart. -/
def rateLimitedDetails (operation : Operation) (retryAfter : Nat) : String :=
  "\"operation\":\"" ++ operation.name ++ "\",\"retry_after\":" ++ toString retryAfter
    ++ ",\"tdlib_code\":429"

/-- The operations with a reason for `PRECONDITION_FAILED`. -/
def hasPreconditionReason : Operation → Bool
  | .send | .msgEdit | .msgDelete | .msgForward | .msgReact | .msgPin | .chatMute | .chatUnmute
  | .chatPin | .chatUnpin | .chatLeave | .savedAttach => true
  | _ => false

/-- `valid_stored_error`: which operation may store the code, and the items. -/
def validStoredError (operation : Operation) (code : ErrorCode)
    (items : Option (List ForwardItem)) (details : String) : Bool :=
  match code with
  | .timeout =>
    match items with
    | none => true
    | some items =>
      operation == .msgForward && validForwardItems items true false
        && (items.isEmpty || !forwardVectorComplete items)
  | .rateLimited =>
    match items with
    | none => true
    | some items =>
      operation == .msgForward && validForwardItems items true true
        && (items.isEmpty
          || (items.all (·.rateLimited)
            && details == rateLimitedDetails operation (maximumRetry items)))
  | .forwardPartial =>
    match items with
    | none => false
    | some items =>
      operation == .msgForward && validForwardItems items false true
        && items.any (·.isSent) && !items.all (·.isSent)
  | .forwardFailed =>
    match items with
    | none => false
    | some items =>
      operation == .msgForward && validForwardItems items false true && !items.any (·.isSent)
  | .sendFailed => (operation == .send || operation == .savedAttach) && items.isNone
  | .joinApprovalRequired | .joinDeclined => operation == .chatJoin && items.isNone
  | .inputChanged => operation == .savedAttach && items.isNone
  | .spoolUnavailable => operation.usesSpool && items.isNone
  | .preconditionFailed => hasPreconditionReason operation && items.isNone
  | .daemonShutdown | .notAuthed | .tdlibError | .internal => items.isNone

def validTerminal (operation : Operation) : Terminal → Bool
  | .result _ items _ _ =>
    match items with
    | none => operation != .msgForward
    | some items =>
      operation == .msgForward && !items.isEmpty
        && decide (items.length ≤ kMaximumForwardItems)
        && items.all (fun item => validForwardItem item && item.isSent)
        && decide (items.Pairwise (·.sourceId < ·.sourceId))
  | .incomplete mutation completed => validIncomplete operation mutation completed
  | .error code items details => validStoredError operation code items details

def terminalProvesMutation (operation : Operation) (terminal : Terminal) : Bool :=
  validTerminal operation terminal
    && match terminal with
      | .result _ _ _ _ => true
      | .incomplete _ _ => false
      | .error code items _ =>
        if operation = .msgForward then
          match code with
          | .timeout => (items.getD []).any (·.isSent)
          | .forwardPartial | .internal => true
          | _ => false
        else
          code == .internal
            && (operation == .send || operation == .msgEdit || operation == .savedAttach)

/-- `terminal_proves_explicit_no_mutation`. -/
def terminalProvesNoMutation (operation : Operation) (terminal : Terminal) : Bool :=
  validTerminal operation terminal
    && match terminal with
      | .error code _ _ =>
        if operation = .chatJoin then code == .joinApprovalRequired || code == .joinDeclined
        else
          (operation == .send || operation == .savedAttach)
            && (code == .tdlibError || code == .rateLimited)
      | _ => false

/-- `validate_intent_impl` on the fields kept: a session is terminated without a key. -/
def validIntent (intent : Intent) : Bool :=
  intent.operation != .sessionTerminate || intent.keyHash.isNone

def validCheckpointData (operation : Operation) : CheckpointData → Bool
  | .idempotencyPending _ _ _ _ => operation.idempotent
  | .spoolReady _ => operation.usesSpool
  | .dispatchStarted _ => true
  | .temporaryIdsObserved ids =>
    (operation == .send || operation == .savedAttach || operation == .msgForward)
      && !ids.isEmpty && decide (ids.length ≤ kMaximumForwardItems)
  | .forwardProgress items => operation == .msgForward && validForwardItems items false false
  | .mutationConfirmed terminal => terminalProvesMutation operation terminal

/-- `validate_checkpoint_impl`. -/
def validateCheckpoint (checkpoint : Checkpoint) : Except String Unit :=
  if checkpoint.sequence = 0 ∨ 2 ^ 32 ≤ checkpoint.sequence then
    .error "invalid v2 checkpoint envelope"
  else if !validCheckpointData checkpoint.operation checkpoint.data then
    .error "invalid v2 checkpoint data"
  else
    match checkpoint.data with
    | .idempotencyPending _ _ expiresAt reserved =>
      if kMaximumUnixSeconds < expiresAt ∨ 2 ^ 32 ≤ reserved then
        .error "v2 idempotency checkpoint integer is out of range"
      else .ok ()
    | .spoolReady spool =>
      if spool.relativePath ≠ relativeSpoolPath checkpoint.invocation spool.file.name then
        .error "v2 spool checkpoint path is not canonical"
      else .ok ()
    | _ => .ok ()

/-- The success of a mark-read that had nothing to read. -/
def successfulMarkReadNoop (outcome : Outcome) : Bool :=
  outcome.operation == .chatMarkRead && outcome.success && outcome.mutation == .none
    && !outcome.completed.contains .dispatchStarted
    && !outcome.completed.contains .mutationConfirmed
    && match outcome.terminal with
      | .result _ _ lastReadNull _ => lastReadNull
      | _ => false

/-- The relations between the fields of an outcome. -/
def outcomeFieldsAgree (outcome : Outcome) : Bool :=
  let hasDispatch := outcome.completed.contains .dispatchStarted
  let hasProgress := outcome.completed.contains .forwardProgress
  let hasProof := outcome.completed.contains .mutationConfirmed
  let mutation := outcome.mutation
  legalCompletedStages outcome.operation outcome.completed
    && outcome.terminal.isResult == outcome.success
    && !(outcome.success && !successfulMarkReadNoop outcome
          && (mutation != .confirmed || !hasProof))
    && !(!hasDispatch && mutation != .none)
    && !(hasProof && mutation != .confirmed)
    && !(hasDispatch && !hasProgress && !hasProof && mutation != .possible
          && !(mutation == .none && terminalProvesNoMutation outcome.operation outcome.terminal))
    && !(mutation == .confirmed && !hasProof && !hasProgress)
    && !(outcome.terminal.code == some .spoolUnavailable
          && (!outcome.operation.usesSpool || hasDispatch || mutation != .none
            || outcome.completed.any fun stage =>
              stage != .idempotencyPending && stage != .spoolReady))

/-- `AUDIT_INCOMPLETE` repeats the outcome. -/
def incompleteRepeats (outcome : Outcome) : Bool :=
  match outcome.terminal with
  | .incomplete mutation completed => mutation == outcome.mutation && completed == outcome.completed
  | _ => true

/-- `validate_outcome_impl`. -/
def validateOutcome (outcome : Outcome) : Except String Unit :=
  if !validTerminal outcome.operation outcome.terminal then .error "invalid v2 outcome terminal"
  else if ¬ outcome.completed.Nodup then .error "invalid v2 outcome stage"
  else if !incompleteRepeats outcome then
    .error "v2 incomplete terminal contradicts the outcome prefix"
  else if !outcomeFieldsAgree outcome then .error "invalid v2 outcome terminal"
  else .ok ()

/-! ## §8. The stage history. -/

/-- The state of `transition_history`. -/
structure HistoryState where
  previousSequence : Nat := 0
  previousPosition : Option Nat := none
  previousForward : Option (List ForwardItem) := none
  progressCount : Nat := 0
  sawIdempotency : Bool := false
  sawSpool : Bool := false
  sawDispatch : Bool := false
  sawTemporaryIds : Bool := false
  sawMutation : Bool := false
deriving DecidableEq, Repr

/-- The items of a forward vector after the items before, one by one: terminal
items stay, pending items stay or become terminal.  The result says whether an
item changed. -/
def itemsFollow : List ForwardItem → List ForwardItem → Except String Bool
  | before :: priors, after :: items =>
    if before.sourceId ≠ after.sourceId ∨ (before.isPending = false ∧ before ≠ after) then
      .error "forward vector regressed or changed terminal item"
    else if before.isPending ∧ after.isPending ∧ before ≠ after then
      .error "forward pending item changed without becoming terminal"
    else do
      let advanced ← itemsFollow priors items
      .ok (before != after || advanced)
  | _, _ => .ok false

/-- The stage of the checkpoint after the stages seen. -/
def stageFollows (operation : Operation) (state : HistoryState) (stage : Stage) :
    Except String HistoryState :=
  match stage with
  | .idempotencyPending =>
    if state.previousPosition.isSome || state.sawIdempotency then
      .error "idempotency checkpoint is not first"
    else .ok { state with sawIdempotency := true }
  | .spoolReady =>
    if !operation.usesSpool || state.sawSpool || state.sawDispatch
        || (state.previousPosition.isSome && !state.sawIdempotency) then
      .error "spool checkpoint has an illegal predecessor"
    else .ok { state with sawSpool := true }
  | .dispatchStarted =>
    if state.sawDispatch || state.sawMutation || (operation == .savedAttach && !state.sawSpool)
        || (state.previousPosition.isSome && !state.sawIdempotency && !state.sawSpool) then
      .error "dispatch checkpoint has an illegal predecessor"
    else .ok { state with sawDispatch := true }
  | .temporaryIdsObserved =>
    if !state.sawDispatch || state.sawTemporaryIds || state.sawMutation then
      .error "temporary ids checkpoint has an illegal predecessor"
    else .ok { state with sawTemporaryIds := true }
  | .forwardProgress =>
    if !state.sawDispatch || state.sawMutation then
      .error "forward progress has an illegal predecessor"
    else .ok state
  | .mutationConfirmed =>
    if !state.sawDispatch || state.sawMutation then
      .error "mutation proof has an illegal predecessor"
    else .ok { state with sawMutation := true }

/-- The forward vector of the checkpoint after the vectors seen. -/
def progressFollows (state : HistoryState) : CheckpointData → Except String HistoryState
  | .forwardProgress items =>
    let next := { state with progressCount := state.progressCount + 1
                             previousForward := some items }
    if kMaximumForwardProgressRecords ≤ state.progressCount then
      .error "too many forward progress records"
    else
      match state.previousForward with
      | none => .ok next
      | some previous =>
        if previous.length ≠ items.length then .error "forward vector size changed"
        else do
          let advanced ← itemsFollow previous items
          if advanced then .ok next else .error "forward progress did not advance"
  | _ => .ok state

/-- One step of `transition_history`. -/
def historyStep (operation : Operation) (state : HistoryState) (checkpoint : Checkpoint) :
    Except String HistoryState :=
  if checkpoint.operation ≠ operation ∨ checkpoint.sequence ≤ state.previousSequence
      ∨ validCheckpointData operation checkpoint.data = false then
    .error "invalid v2 checkpoint history identity or sequence"
  else
    let position := (allowedOrder operation).idxOf checkpoint.stage
    if checkpoint.stage ∉ allowedOrder operation then .error "illegal v2 checkpoint stage"
    else if state.previousPosition.any fun previous => decide (position < previous) then
      .error "v2 checkpoint stage regression"
    else if state.previousPosition = some position ∧ checkpoint.stage ≠ .forwardProgress then
      .error "repeated non-forward checkpoint stage"
    else do
      let state ← stageFollows operation state checkpoint.stage
      let state ← progressFollows state checkpoint.data
      .ok { state with previousSequence := checkpoint.sequence, previousPosition := some position }

def transitionHistory (operation : Operation) (history : List Checkpoint) :
    Except String HistoryState :=
  history.foldlM (historyStep operation) {}

/-! ## §9. The open group. -/

/-- `AccountAuditOpenGroup`. -/
structure OpenGroup where
  generation : Nat
  intent : Intent
  checkpoints : List Checkpoint := []
  completedStages : List Stage := []
  keyed : Bool
  hasSpool : Bool := false
  dispatchStarted : Bool := false
  mutationConfirmed : Bool := false
  forwardComplete : Bool := false
  anyForwardSent : Bool := false
deriving DecidableEq, Repr

namespace OpenGroup

/-- The group an intent opens. -/
def opened (generation : Nat) (intent : Intent) : OpenGroup :=
  { generation := generation, intent := intent, keyed := intent.keyHash.isSome }

/-- The items of the latest `forward_progress` (`final_forward_items`). -/
def finalForwardItems (group : OpenGroup) : Option (List ForwardItem) :=
  (group.checkpoints.reverse.findSome? fun checkpoint =>
    match checkpoint.data with
    | .forwardProgress items => some items
    | _ => none)

/-- The terminal of the latest `mutation_confirmed`. -/
def mutationProof (group : OpenGroup) : Option Terminal :=
  (group.checkpoints.reverse.findSome? fun checkpoint =>
    match checkpoint.data with
    | .mutationConfirmed terminal => some terminal
    | _ => none)

/-- The ids of `temporary_ids_observed`. -/
def observedTemporaryIds (group : OpenGroup) : Option (List Int) :=
  (group.checkpoints.findSome? fun checkpoint =>
    match checkpoint.data with
    | .temporaryIdsObserved ids => some ids
    | _ => none)

/-- The file of `spool_ready`. -/
def spoolReady (group : OpenGroup) : Option SpoolRef :=
  (group.checkpoints.reverse.findSome? fun checkpoint =>
    match checkpoint.data with
    | .spoolReady spool => some spool
    | _ => none)

end OpenGroup

def deriveMutationState (group : OpenGroup) : MutationState :=
  if group.mutationConfirmed || group.anyForwardSent then .confirmed
  else if !group.dispatchStarted then .none
  else if !group.forwardComplete then .possible
  else
    match group.finalForwardItems with
    | none => .possible
    | some items => if items.any (·.deletedBeforeConfirmation) then .possible else .none

def deriveForwardTerminal (group : OpenGroup) : Except String Terminal :=
  match group.finalForwardItems with
  | none => .error "terminal forward vector is unavailable"
  | some items =>
    let target := group.intent.plan.target
    if !forwardVectorComplete items then .error "terminal forward vector is unavailable"
    else if items.all (·.isSent) then .ok (.result target (some items) false "")
    else if items.any (·.isSent) then
      .ok (.error .forwardPartial (some items) (forwardDetails target))
    else if items.all (·.rateLimited) then
      .ok (.error .rateLimited (some items) (rateLimitedDetails .msgForward (maximumRetry items)))
    else .ok (.error .forwardFailed (some items) (forwardDetails target))

def terminalMatchesPlan (operation : Operation) (terminal : Terminal) (plan : Plan) : Bool :=
  match terminal with
  | .result target _ lastReadNull _ =>
    if operation = .chatJoin then target.isNone || plan.target.isNone || target == plan.target
    else if operation = .chatMarkRead then
      target == plan.target && lastReadNull == plan.markReadNoop
    else target == plan.target
  | _ => true

def terminalMatchesLatestForward (group : OpenGroup) (terminal : Terminal) : Bool :=
  match terminal.items with
  | none => true
  | some items =>
    match group.finalForwardItems with
    | none =>
      items.isEmpty && (terminal.code == some .rateLimited || terminal.code == some .timeout)
    | some durable =>
      items == durable && items.map (·.sourceId) == group.intent.plan.messageIds

/-! ## §10. The automaton. -/

/-- What a checkpoint says about the intent and the checkpoints before it. -/
def checkpointFits (group : OpenGroup) (checkpoint : Checkpoint) : Except String Unit :=
  match checkpoint.data with
  | .idempotencyPending keyHash fingerprint _ _ =>
    if group.intent.keyHash ≠ some keyHash ∨ fingerprint ≠ group.intent.fingerprint then
      .error "idempotency checkpoint contradicts the intent"
    else .ok ()
  | .spoolReady spool =>
    if some spool.file ≠ group.intent.plan.file then
      .error "spool checkpoint file contradicts the intent"
    else .ok ()
  | .temporaryIdsObserved ids =>
    if checkpoint.operation = .msgForward then
      if group.intent.plan.messageIds.length < ids.length then
        .error "temporary id vector does not match the intent"
      else .ok ()
    else if ids.length ≠ 1 then .error "temporary id vector does not match the intent"
    else .ok ()
  | .forwardProgress items =>
    if items.length ≠ group.intent.plan.messageIds.length then
      .error "forward vector does not match the intent"
    else if items.map (·.sourceId) ≠ group.intent.plan.messageIds then
      .error "forward source order does not match the intent"
    else if group.finalForwardItems = none
        ∧ temporaryIds items ≠ group.observedTemporaryIds.getD [] then
      .error "forward pending ids do not match the durable temporary ids"
    else .ok ()
  | _ => .ok ()

/-- What a mutation proof says about the plan and the forward vector. -/
def proofFits (group : OpenGroup) (operation : Operation) (terminal : Terminal) :
    Except String Unit :=
  if !terminalMatchesPlan operation terminal group.intent.plan then
    .error "mutation proof terminal contradicts the immutable plan"
  else if operation ≠ .msgForward then .ok ()
  else if !terminalMatchesLatestForward group terminal then
    .error "mutation proof terminal contradicts the latest durable forward vector"
  else if terminal.code = some .internal then
    if group.finalForwardItems.isSome then
      .error "forward oversized terminal follows a persisted vector"
    else .ok ()
  else if terminal.code = some .timeout then
    if group.forwardComplete then .error "forward timeout mutation proof follows a complete vector"
    else .ok ()
  else if !group.forwardComplete then .error "forward mutation proof precedes a complete vector"
  else
    match deriveForwardTerminal group with
    | .error text => .error text
    | .ok derived =>
      if terminal ≠ derived then .error "forward mutation proof contradicts the terminal vector"
      else .ok ()

/-- The group with an accepted checkpoint. -/
def OpenGroup.push (group : OpenGroup) (checkpoint : Checkpoint) : OpenGroup :=
  let stage := checkpoint.stage
  let group := { group with
    checkpoints := group.checkpoints ++ [checkpoint]
    completedStages :=
      if stage = .forwardProgress ∧ stage ∈ group.completedStages then group.completedStages
      else group.completedStages ++ [stage]
    hasSpool := group.hasSpool || stage == .spoolReady
    dispatchStarted := group.dispatchStarted || stage == .dispatchStarted
    mutationConfirmed := group.mutationConfirmed || stage == .mutationConfirmed }
  match checkpoint.data with
  | .forwardProgress items =>
    { group with
      anyForwardSent := group.anyForwardSent || items.any (·.isSent)
      forwardComplete := forwardVectorComplete items }
  | _ => group

/-- `consume_v2` of a checkpoint. -/
def consumeCheckpoint (group : OpenGroup) (checkpoint : Checkpoint) : Except String OpenGroup := do
  validateCheckpoint checkpoint
  if group.intent.invocation ≠ checkpoint.invocation
      ∨ group.intent.operation ≠ checkpoint.operation then
    .error "v2 record has no matching open group"
  else
    checkpointFits group checkpoint
    let _ ← transitionHistory checkpoint.operation (group.checkpoints ++ [checkpoint])
    match checkpoint.data with
    | .mutationConfirmed terminal => do
        proofFits group checkpoint.operation terminal
        .ok (group.push checkpoint)
    | _ => .ok (group.push checkpoint)

/-- What an outcome says about the group. -/
def outcomeFits (group : OpenGroup) (outcome : Outcome) : Except String Unit :=
  let expected := deriveMutationState group
  if outcome.completed ≠ group.completedStages then
    .error "v2 outcome stages do not match the durable prefix"
  else if outcome.mutation ≠ expected
      ∧ ¬ (expected = .possible ∧ outcome.mutation = .none
        ∧ terminalProvesNoMutation group.intent.operation outcome.terminal = true) then
    .error "v2 outcome mutation state contradicts the durable prefix"
  else if !terminalMatchesPlan group.intent.operation outcome.terminal group.intent.plan then
    .error "v2 outcome terminal contradicts the immutable plan"
  else if group.intent.operation = .msgForward
      ∧ terminalMatchesLatestForward group outcome.terminal = false then
    .error "v2 outcome terminal contradicts the latest durable forward vector"
  else if group.mutationConfirmed then
    if group.mutationProof ≠ some outcome.terminal then
      .error "v2 outcome terminal contradicts the mutation proof"
    else .ok ()
  else if group.forwardComplete then
    match deriveForwardTerminal group with
    | .error text => .error text
    | .ok derived =>
      if outcome.terminal ≠ derived then
        .error "v2 outcome contradicts the terminal forward vector"
      else .ok ()
  else .ok ()

/-- `consume_v2` of an outcome. -/
def consumeOutcome (group : OpenGroup) (outcome : Outcome) : Except String Unit := do
  validateOutcome outcome
  if group.intent.invocation ≠ outcome.invocation
      ∨ group.intent.operation ≠ outcome.operation then
    .error "v2 record has no matching open group"
  else outcomeFits group outcome

/-- `AccountAuditCompletedGroupView`: the group and its outcome. -/
structure CompletedView where
  group : OpenGroup
  outcome : Outcome
deriving DecidableEq, Repr

/-- `consume_v2`: the open group after the record, and the group it completed. -/
def consumeV2 (generation : Nat) (state : Option OpenGroup) (record : Record) :
    Except String (Option OpenGroup × Option CompletedView) :=
  match record, state with
  | .intent intent, none =>
    if !validIntent intent then .error "invalid v2 intent fields"
    else .ok (some (.opened generation intent), none)
  | .intent _, some _ => .error "v2 intent contradicts chronology"
  | .checkpoint checkpoint, some group => do
      let group ← consumeCheckpoint group checkpoint
      .ok (some group, none)
  | .outcome outcome, some group => do
      consumeOutcome group outcome
      .ok (none, some ⟨group, outcome⟩)
  | .checkpoint checkpoint, none => do
      validateCheckpoint checkpoint
      .error "v2 record has no matching open group"
  | .outcome outcome, none => do
      validateOutcome outcome
      .error "v2 record has no matching open group"

end TgCli.Audit
