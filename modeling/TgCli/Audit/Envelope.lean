/-
  TgCli.Audit.Envelope — IDENTITIES AND BYTE CEILINGS OF RECORDS

  `validate_intent_impl`, `validate_checkpoint_impl` and `validate_outcome_impl`
  (`account_audit.cpp`) check, apart from the fields of `TgCli.Audit.Group`,
  the identity of a record and the serialized length of the record and of its
  terminal (`account_audit_limits.hpp`).  `Record.wellFormed` is that part.

  Main results:
    * `ForwardItem.size_le` — an item a reader accepts is at most 25,000 bytes;
    * `result_size_le`, `error_size_le` — so a vector of a hundred of them stays
      below the ceiling of a forward's terminal, whatever terminal repeats it;
    * `outcomeSize_le`, `proofSize_le` — a terminal below its ceiling fits an
      outcome and a mutation proof.
-/
import TgCli.Audit.Group
import TgCli.Lib.Json

namespace TgCli.Audit

open Lib List JsonSize Terminal

/-! ## §1. Names. -/

/-- `account_audit_stage_name`. -/
def Stage.name : Stage → String
  | .idempotencyPending => "idempotency_pending"
  | .spoolReady => "spool_ready"
  | .dispatchStarted => "dispatch_started"
  | .temporaryIdsObserved => "temporary_ids_observed"
  | .forwardProgress => "forward_progress"
  | .mutationConfirmed => "mutation_confirmed"

/-- `account_audit_mutation_state_name`. -/
def MutationState.name : MutationState → String
  | .none => "none"
  | .possible => "possible"
  | .confirmed => "confirmed"

def ForwardFailure.name : ForwardFailure → String
  | .upstreamNull => "upstream_null"
  | .tdlibError => "tdlib_error"
  | .deletedBeforeConfirmation => "deleted_before_confirmation"

def TopicKind.name : TopicKind → String
  | .forum => "forum"
  | .thread => "thread"
  | .direct => "direct"
  | .saved => "saved"

def MessageType.name : MessageType → String
  | .text => "text"
  | .photo => "photo"
  | .video => "video"
  | .doc => "doc"
  | .voice => "voice"
  | .other => "other"

def ErrorCode.name : ErrorCode → String
  | .timeout => "TIMEOUT"
  | .daemonShutdown => "DAEMON_SHUTDOWN"
  | .notAuthed => "NOT_AUTHED"
  | .tdlibError => "TDLIB_ERROR"
  | .rateLimited => "RATE_LIMITED"
  | .internal => "INTERNAL"
  | .sendFailed => "SEND_FAILED"
  | .forwardFailed => "FORWARD_FAILED"
  | .forwardPartial => "FORWARD_PARTIAL"
  | .joinApprovalRequired => "JOIN_APPROVAL_REQUIRED"
  | .joinDeclined => "JOIN_DECLINED"
  | .inputChanged => "INPUT_CHANGED"
  | .spoolUnavailable => "SPOOL_UNAVAILABLE"
  | .preconditionFailed => "PRECONDITION_FAILED"

/-- The message of `valid_stored_error_message`.  `INTERNAL` has several: its
message is part of the serialized details. -/
def ErrorCode.message : ErrorCode → Option String
  | .timeout => some "request timed out"
  | .daemonShutdown => some "daemon is shutting down"
  | .notAuthed => some "authorization was lost"
  | .tdlibError => some "Telegram request failed"
  | .rateLimited => some "Telegram rate limit exceeded"
  | .internal => none
  | .sendFailed => some "message was deleted before confirmation"
  | .forwardFailed => some "messages could not be forwarded"
  | .forwardPartial => some "some messages could not be forwarded"
  | .joinApprovalRequired => some "join request requires approval"
  | .joinDeclined => some "join request was declined"
  | .inputChanged => some "input file changed while being read"
  | .spoolUnavailable => some "attachment spool is unavailable"
  | .preconditionFailed => some "operation precondition failed"

def kIncompleteMessage : String := "a prior audited invocation did not reach a terminal proof"

/-! ## §2. Ceilings. -/

def kForwardTerminalBytes : Nat := 4194304

def kSingleMessageTerminalBytes : Nat := 65536

def kOtherTerminalBytes : Nat := 32768

def kM6TerminalBytes : Nat := 16842700

def kAuditEnvelopeBytes : Nat := 4096

def kIntentJsonBytes : Nat := 134217728

def kNonVectorJsonBytes : Nat := 65536

def kVectorJsonBytes : Nat := kM6TerminalBytes + kAuditEnvelopeBytes

/-- `m6_operation_for_audit` finds an operation of the sixth milestone. -/
def Operation.isM6 : Operation → Bool
  | .contactAdd | .contactRemove | .contactBlock | .contactUnblock
  | .folderCreate | .folderEdit | .folderDelete | .folderAddChat | .folderRemoveChat
  | .topicCreate | .topicEdit | .topicClose | .topicReopen
  | .chatSetTitle | .chatSetPhoto | .chatSetDescription | .chatInviteLink | .chatPromote
  | .chatDemote | .chatBan | .chatUnban | .chatKick | .chatSetPermissions | .storageOptimize => true
  | _ => false

def terminalByteCeiling (operation : Operation) : Nat :=
  if operation = .msgForward then kForwardTerminalBytes
  else if operation = .send ∨ operation = .msgEdit ∨ operation = .savedAttach then
    kSingleMessageTerminalBytes
  else if operation.isM6 then kM6TerminalBytes
  else kOtherTerminalBytes

/-- The ceiling of a checkpoint's document. -/
def checkpointByteCeiling (stage : Stage) : Nat :=
  if stage = .forwardProgress ∨ stage = .mutationConfirmed then kVectorJsonBytes
  else kNonVectorJsonBytes

/-! ## §3. Serialized lengths. -/

def Sender.size : Sender → Nat
  | .user id => pieces [field "id" (int id), field "type" (text "user")]
  | .chat id => pieces [field "id" (int id), field "type" (text "chat")]

def topicSize : Option (TopicKind × Int) → Nat
  | none => null
  | some (kind, id) => pieces [field "id" (int id), field "kind" (text kind.name)]

/-- A timestamp is twenty characters and its quotes. -/
def kTimestampSize : Nat := 22

def SentMessage.size (message : SentMessage) : Nat :=
  pieces
    [field "chat_id" (int message.chatId),
      field "date" (if message.date.isSome then kTimestampSize else null),
      field "id" (int message.id),
      field "is_outgoing" (bool message.isOutgoing),
      field "scheduled" (bool message.scheduled),
      field "sender" message.sender.size,
      JsonSize.field "text" (JsonSize.text message.text),
      field "topic" (topicSize message.topic),
      JsonSize.field "type" (JsonSize.text message.type.name)]

def optionalIntSize : Option Int → Nat
  | none => null
  | some number => int number

def ForwardItem.size (item : ForwardItem) : Nat :=
  match item.status with
  | .pending id => pieces
      [field "source_id" (int item.sourceId), field "status" (text "pending"),
        field "temporary_message_id" (int id)]
  | .sent message => pieces
      [field "message" message.size, field "source_id" (int item.sourceId),
        field "status" (text "sent")]
  | .failed reason code retry => pieces
      [field "failure_reason" (text reason.name),
        field "retry_after" (optionalIntSize (retry.map (↑))),
        field "source_id" (int item.sourceId),
        field "status" (text "failed"),
        field "tdlib_code" (optionalIntSize code)]

/-- The field of the items, if the terminal has it. -/
def itemsPieces : Option (List ForwardItem) → List Nat
  | none => []
  | some items => [field "items" (pieces (items.map (·.size)))]

def Target.pieces (target : Target) : List Nat :=
  (match target.chatId, target.toChatId with
    | none, _ => []
    | some chat, none => [field "chat_id" (int chat)]
    | some chat, some toChat =>
      [field "from_chat_id" (int chat), field "to_chat_id" (int toChat)])
    ++ fragment target.rest

/-- The account of the log and its path, which `AUDIT_INCOMPLETE` repeats. -/
structure LogPlace where
  account : String
  /-- as text, if its bytes are UTF-8 -/
  path : Option String
deriving DecidableEq, Repr

/-- `valid_selector_string` of the path. -/
def LogPlace.validPath (place : LogPlace) : Bool :=
  place.path.any fun path => path != "" && !path.toList.contains '\x00'

def stagesSize (stages : List Stage) : Nat :=
  pieces (stages.map fun stage => text stage.name)

/-- The details of `AUDIT_INCOMPLETE`. -/
def incompleteDetailsSize (place : LogPlace) (mutation : MutationState) (completed : List Stage) :
    Nat :=
  pieces
    [field "account" (text place.account), field "completed_stages" (stagesSize completed),
      field "mutation_state" (text mutation.name),
      field "path" (text (place.path.getD ""))]

/-- A stored error with its message, if that is not part of the details. -/
def errorSize (code : String) (details : Nat) (message : Option String) : Nat :=
  pieces
    ([field "code" (text code), field "details" details,
      field "exit_code" 1, field "kind" (text "error")]
      ++ message.toList.map fun text => JsonSize.field "message" (JsonSize.text text))

/-- The length of `terminal.dump()`. -/
def Terminal.size (place : LogPlace) : Terminal → Nat
  | .result target items lastReadNull data =>
    pieces
      [field "data"
          (pieces
            ((target.map Target.pieces).getD [] ++ itemsPieces items
              ++ (if lastReadNull then [field "last_read_message_id" null]
                  else [])
              ++ fragment data)),
        field "kind" (text "result")]
  | .incomplete mutation completed =>
    errorSize "AUDIT_INCOMPLETE" (incompleteDetailsSize place mutation completed)
      (some kIncompleteMessage)
  | .error code items details =>
    errorSize code.name (pieces (itemsPieces items ++ fragment details))
      code.message

/-- The fields every record of version 2 has. -/
def identityPieces (place : LogPlace) (invocation : String) (operation : Operation)
    (phase : String) : List Nat :=
  [field "account" (text place.account), field "command" (text operation.name),
    field "invocation_id" (text invocation),
    field "phase" (text phase),
    field "schema_version" 1,
    field "timestamp" kTimestampSize]

/-- The length of a `mutation_confirmed` checkpoint. -/
def proofSize (place : LogPlace) (invocation : String) (operation : Operation) (sequence : Nat)
    (terminal : Terminal) : Nat :=
  pieces
    (identityPieces place invocation operation "checkpoint"
      ++ [field "checkpoint_sequence" (nat sequence), field "data"
          (pieces [field "terminal" (terminal.size place)]),
        field "stage" (text Stage.mutationConfirmed.name)])

/-- The length of an outcome. -/
def outcomeSize (place : LogPlace) (invocation : String) (operation : Operation) (success : Bool)
    (mutation : MutationState) (completed : List Stage) (terminal : Terminal) : Nat :=
  pieces
    (identityPieces place invocation operation "outcome"
      ++ [field "completed_stages" (stagesSize completed),
        field "mutation_state" (text mutation.name),
        field "success" (bool success),
        field "terminal" (terminal.size place)])

/-! ## §4. The checks. -/

/-- `valid_hex` of an invocation id. -/
def validInvocationId (invocation : String) : Bool :=
  invocation.length == 32
    && invocation.toList.all fun c => ('0' ≤ c && c ≤ '9') || ('a' ≤ c && c ≤ 'f')

/-- `valid_plan` on the chats a result repeats. -/
def validTarget (target : Target) : Bool :=
  target.chatId.all validMessageId && target.toChatId.all validMessageId

/-- The chat of a plan: a forward has two, a mark-read one and nothing else. -/
def validPlanTarget (operation : Operation) (plan : Plan) : Bool :=
  plan.target.all validTarget
    && (if operation = .msgForward ∨ operation = .chatMarkRead then
          plan.target.all fun target => target.rest == ""
        else true)

/-- `valid_audit_incomplete_details` on the path. -/
def Terminal.placed (place : LogPlace) : Terminal → Bool
  | .incomplete _ _ => place.validPath
  | _ => true

/-- The part of `validate_*_impl` on identities, lengths and the path. -/
def Record.wellFormed (place : LogPlace) : Record → Bool
  | .intent i =>
    validInvocationId i.invocation && validPlanTarget i.operation i.plan
      && decide (i.bytes ≤ kIntentJsonBytes)
  | .checkpoint c =>
    validInvocationId c.invocation
      && (match c.data with
          | .mutationConfirmed terminal =>
            terminal.placed place
              && decide (terminal.size place ≤ terminalByteCeiling c.operation)
          | _ => true)
      && decide (c.bytes ≤ checkpointByteCeiling c.stage)
  | .outcome o =>
    validInvocationId o.invocation
      && o.terminal.placed place && decide (o.terminal.size place ≤ terminalByteCeiling o.operation)
      && decide (o.bytes ≤ kVectorJsonBytes)

/-! ## §5. Bounds. -/

variable {number : Int} {items : List ForwardItem} {target : Option Target} {place : LogPlace}
  {invocation : String}

/-- The name of a field is a literal. -/
theorem field_eq (name : String) (value : Nat) :
    field name value = name.toList.length + 3 + value := by
  rw [String.length_toList]
  rfl

attribute [local simp] pieces field_eq

theorem int_size_of_int53 (h : validInt53 number) : int number ≤ 17 := by
  refine int_le (e := 16) (by decide) ?_
  have hrange := of_decide_eq_true h
  unfold kMaximumInt53 at hrange
  omega

theorem int_size_of_messageId (h : validMessageId number) : int number ≤ 17 := by
  simp only [validMessageId, Bool.and_eq_true] at h
  exact int_size_of_int53 h.2

theorem int_size_of_positive (h : validPositiveInt53 number) : int number ≤ 17 := by
  have hrange := of_decide_eq_true h
  refine int_size_of_int53 (decide_eq_true ?_)
  omega

theorem int_size_of_int32 (h : validInt32 number) : int number ≤ 11 := by
  refine int_le (e := 10) (by decide) ?_
  have hrange := of_decide_eq_true h
  unfold kMaximumInt32 at hrange
  omega

theorem Sender.size_le (h : validSender sender) : sender.size ≤ 58 := by
  cases sender with
  | user id =>
    have hid := int_size_of_positive h
    have htype := text_le_of_length (s := "user") (n := 4) (by decide)
    simp [Sender.size]
    omega
  | chat id =>
    have hid := int_size_of_messageId h
    have htype := text_le_of_length (s := "chat") (n := 4) (by decide)
    simp [Sender.size]
    omega

theorem topicSize_le (h : validMessageTopic topic) : topicSize topic ≤ 70 := by
  match topic with
  | none => decide
  | some (kind, id) =>
    simp only [validMessageTopic, Bool.and_eq_true] at h
    have hid := int_size_of_positive h.1
    have hkind := text_le_of_length (s := kind.name) (n := 6) (by cases kind <;> decide)
    simp [topicSize]
    omega

theorem bool_size_le (b : Bool) : bool b ≤ 5 := by
  cases b <;> decide

/-- The longest message a reader accepts: all its characters escaped. -/
theorem SentMessage.size_le (h : validSentMessage message) : message.size ≤ 24900 := by
  simp only [validSentMessage, Bool.and_eq_true, and_assoc, decide_eq_true_eq] at h
  obtain ⟨hid, hchat, htopic, -, htext, -, -, hsender⟩ := h
  have hid := int_size_of_messageId hid
  have hchat := int_size_of_messageId hchat
  have htopic := topicSize_le htopic
  have htext := text_le_of_length htext
  have hsender := Sender.size_le hsender
  have houtgoing := bool_size_le message.isOutgoing
  have hscheduled := bool_size_le message.scheduled
  have htype := text_le_of_length (s := message.type.name) (n := 5)
    (by cases message.type <;> decide)
  have hdate : (if message.date.isSome then kTimestampSize else null) ≤ 22 := by
    split <;> decide
  unfold kMessageTextScalars at htext
  simp [SentMessage.size]
  omega

theorem optionalIntSize_le {number : Option Int} (h : number.all validInt32) :
    optionalIntSize number ≤ 11 := by
  cases number with
  | none => decide
  | some number => exact int_size_of_int32 h

theorem ForwardItem.size_le (h : validForwardItem item) : item.size ≤ 25000 := by
  obtain ⟨source, status⟩ := item
  simp only [validForwardItem, Bool.and_eq_true] at h
  obtain ⟨hsrc, hstat⟩ := h
  have hsrc := int_size_of_messageId hsrc
  cases status with
  | pending id =>
    have hid := int_size_of_messageId hstat
    have htext := text_le_of_length (s := "pending") (n := 7) (by decide)
    simp [ForwardItem.size]
    omega
  | sent message =>
    have hmsg := SentMessage.size_le hstat
    have htext := text_le_of_length (s := "sent") (n := 4) (by decide)
    simp [ForwardItem.size]
    omega
  | failed reason code retry =>
    simp only [Bool.and_eq_true] at hstat
    obtain ⟨⟨hcode, hretry⟩, -⟩ := hstat
    have hcode := optionalIntSize_le hcode
    have hretry : optionalIntSize (retry.map (↑)) ≤ 11 := by
      refine optionalIntSize_le ?_
      cases retry with
      | none => rfl
      | some seconds =>
        have hseconds := of_decide_eq_true hretry
        refine decide_eq_true ?_
        omega
    have hrsn := text_le_of_length (s := reason.name) (n := 27)
      (by cases reason <;> decide)
    have htext := text_le_of_length (s := "failed") (n := 6) (by decide)
    simp [ForwardItem.size]
    omega

/-- A vector of at most a hundred accepted items. -/
theorem itemsPieces_le (hcnt : items.length ≤ kMaximumForwardItems)
    (hitems : ∀ item ∈ items, validForwardItem item) :
    (itemsPieces (some items)).sum ≤ 2500200 := by
  have hbound : ∀ size ∈ items.map (·.size), size ≤ 25000 := by
    intro size hsize
    obtain ⟨item, hit, rfl⟩ := mem_map.mp hsize
    exact ForwardItem.size_le (hitems item hit)
  have hvec := pieces_le (n := 100)
    (by simpa [kMaximumForwardItems] using hcnt) hbound
  simp [itemsPieces, -pieces]
  omega

theorem errorSize_le (code : String) (message : Option String) (details : Nat)
    (hcode : code.length ≤ 22) (hmsg : ∀ text ∈ message, text.length ≤ 60) :
    errorSize code details message ≤ details + 600 := by
  have hcode := text_le_of_length hcode
  have herror := text_le_of_length (s := "error") (n := 5) (by decide)
  cases message with
  | none =>
    simp [errorSize]
    omega
  | some text =>
    have htext := text_le_of_length (hmsg text rfl)
    simp [errorSize]
    omega

theorem ErrorCode.name_length_le (code : ErrorCode) : code.name.length ≤ 22 := by
  cases code <;> decide

theorem ErrorCode.message_length_le (code : ErrorCode) :
    ∀ text ∈ code.message, text.length ≤ 60 := by
  cases code <;> decide

/-- A terminal that repeats an accepted vector, with little else in its details. -/
theorem error_size_le (place : LogPlace) (code : ErrorCode) {details : String}
    (hcnt : items.length ≤ kMaximumForwardItems)
    (hitems : ∀ item ∈ items, validForwardItem item) (hdets : details.length ≤ 120) :
    (error code (some items) details).size place ≤ kForwardTerminalBytes := by
  have hvec := itemsPieces_le hcnt hitems
  have hfragment := fragment_sum_le details
  have hone := fragment_length_le details
  have hsize := errorSize_le _ _
    (pieces (itemsPieces (some items) ++ fragment details))
    code.name_length_le code.message_length_le
  have hpieces : pieces (itemsPieces (some items) ++ fragment details)
      ≤ 2501000 := by
    have hlen : (itemsPieces (some items)).length = 1 := rfl
    simp only [pieces, sum_append, length_append, hlen]
    omega
  show errorSize _ _ _ ≤ _
  unfold kForwardTerminalBytes
  omega

theorem Target.pieces_le {target : Target} (h : validTarget target)
    (hrest : target.rest = "") : target.pieces.sum ≤ 70 ∧ target.pieces.length ≤ 2 := by
  obtain ⟨chat, toChat, rest⟩ := target
  subst hrest
  simp only [validTarget, Bool.and_eq_true] at h
  obtain ⟨hchat, htoChat⟩ := h
  cases chat with
  | none => exact ⟨Nat.zero_le _, Nat.zero_le _⟩
  | some chat =>
    have hchat := int_size_of_messageId hchat
    cases toChat with
    | none =>
      simp [Target.pieces, fragment]
      omega
    | some toChat =>
      have htoChat := int_size_of_messageId htoChat
      simp [Target.pieces, fragment]
      omega

theorem target_pieces_le (htgt : ∀ t ∈ target, validTarget t ∧ t.rest = "") :
    ((target.map Target.pieces).getD []).sum ≤ 70
      ∧ ((target.map Target.pieces).getD []).length ≤ 2 := by
  cases target with
  | none => exact ⟨Nat.zero_le _, Nat.zero_le _⟩
  | some t => exact Target.pieces_le (htgt t rfl).1 (htgt t rfl).2

/-- The result that repeats an accepted vector. -/
theorem result_size_le (place : LogPlace) (hcnt : items.length ≤ kMaximumForwardItems)
    (hitems : ∀ item ∈ items, validForwardItem item)
    (htgt : ∀ t ∈ target, validTarget t ∧ t.rest = "") :
    (result target (some items) false "").size place ≤ kForwardTerminalBytes := by
  have hvec := itemsPieces_le hcnt hitems
  have hres := text_le_of_length (s := "result") (n := 6) (by decide)
  have hpieces := target_pieces_le htgt
  have hlen : (itemsPieces (some items)).length = 1 := rfl
  have hemp : fragment "" = [] := rfl
  simp [size, hlen, hemp]
  unfold kForwardTerminalBytes
  omega

theorem chatText_length_le {chat : Option Int} (h : chat.all validMessageId) :
    (chatText chat).length ≤ 17 := by
  cases chat with
  | none => decide
  | some id =>
    show (toString id).length ≤ 17
    rw [length_toString]
    exact int_size_of_messageId h

theorem forwardDetails_length_le
    (htgt : ∀ t ∈ target, validTarget t) : (forwardDetails target).length ≤ 120 := by
  have hchat : (chatText (target.bind (·.chatId))).length ≤ 17 := by
    refine chatText_length_le ?_
    cases target with
    | none => rfl
    | some t => exact (Bool.and_eq_true_iff.mp (htgt t rfl)).1
  have htoChat : (chatText (target.bind (·.toChatId))).length ≤ 17 := by
    refine chatText_length_le ?_
    cases target with
    | none => rfl
    | some t => exact (Bool.and_eq_true_iff.mp (htgt t rfl)).2
  have hfrom : "\"from_chat_id\":".length ≤ 20 := by decide
  have hop : ",\"operation\":\"msg_forward\"".length ≤ 30 := by decide
  have hto : ",\"to_chat_id\":".length ≤ 20 := by decide
  unfold forwardDetails
  rw [String.length_append, String.length_append, String.length_append, String.length_append]
  omega

theorem rateLimitedDetails_length_le {retry : Nat} (h : (retry : Int) ≤ kMaximumInt32) :
    (rateLimitedDetails .msgForward retry).length ≤ 120 := by
  have hretry : (toString retry).length ≤ 10 := by
    refine nat_le (by decide) ?_
    unfold kMaximumInt32 at h
    omega
  have hfixed : "\"operation\":\"".length + Operation.msgForward.name.length
      + "\",\"retry_after\":".length + ",\"tdlib_code\":429".length ≤ 70 := by decide
  simp only [rateLimitedDetails, String.length_append]
  omega

/-- The log names an account and a path the system can open. -/
structure LogPlace.Fits (place : LogPlace) : Prop where
  account : place.account.length ≤ 32
  path : (place.path.getD "").length ≤ 4096

theorem Stage.name_length_le (stage : Stage) : stage.name.length ≤ 22 := by
  cases stage <;> decide

theorem MutationState.name_length_le (mutation : MutationState) : mutation.name.length ≤ 9 := by
  cases mutation <;> decide

theorem Operation.name_length_le (operation : Operation) : operation.name.length ≤ 20 := by
  cases operation <;> decide

theorem length_le_of_nodup {stages : List Stage} (h : stages.Nodup) : stages.length ≤ 6 := by
  have hsubset : stages ⊆ [.idempotencyPending, .spoolReady, .dispatchStarted,
      .temporaryIdsObserved, .forwardProgress, .mutationConfirmed] := by
    intro stage _
    cases stage <;> simp
  simpa using (subperm_of_subset h hsubset).length_le

theorem stagesSize_le {stages : List Stage} (h : stages.Nodup) : stagesSize stages ≤ 812 := by
  refine (pieces_le (n := 6) (b := 134) ?_ ?_).trans (by decide)
  · simpa using length_le_of_nodup h
  · intro size hsize
    obtain ⟨stage, -, rfl⟩ := mem_map.mp hsize
    exact text_le_of_length stage.name_length_le

/-- `AUDIT_INCOMPLETE` is below the smallest ceiling. -/
theorem incomplete_size_le (hplace : place.Fits) (mutation : MutationState) {completed : List Stage}
    (h : completed.Nodup) :
    (incomplete mutation completed).size place ≤ kOtherTerminalBytes := by
  have hacct := text_le_of_length hplace.account
  have hpath := text_le_of_length hplace.path
  have hstgs := stagesSize_le h
  have hmut := text_le_of_length mutation.name_length_le
  have hdets : incompleteDetailsSize place mutation completed ≤ 25800 := by
    simp [incompleteDetailsSize]
    omega
  have hsize := errorSize_le "AUDIT_INCOMPLETE" (some kIncompleteMessage)
    (incompleteDetailsSize place mutation completed) (by decide) (by decide)
  show errorSize _ _ _ ≤ _
  unfold kOtherTerminalBytes
  omega

/-- The result of a mark-read that had nothing to read. -/
theorem noop_size_le (place : LogPlace) {data : String} (hdata : data.length ≤ 100)
    (htgt : ∀ t ∈ target, validTarget t ∧ t.rest = "") :
    (result target none true data).size place ≤ kOtherTerminalBytes := by
  have hres := text_le_of_length (s := "result") (n := 6) (by decide)
  have hfragment := fragment_sum_le data
  have hone := fragment_length_le data
  have hpieces := target_pieces_le htgt
  simp [size, itemsPieces, null]
  unfold kOtherTerminalBytes
  omega

theorem kOtherTerminalBytes_le (operation : Operation) :
    kOtherTerminalBytes ≤ terminalByteCeiling operation := by
  cases operation <;> decide

theorem terminalByteCeiling_le (operation : Operation) :
    terminalByteCeiling operation ≤ kM6TerminalBytes := by
  cases operation <;> decide

variable (hplace : place.Fits) (hinvo : validInvocationId invocation)
include hplace hinvo

theorem identityPieces_le (operation : Operation) (phase : String) (hph : phase.length ≤ 10) :
    (identityPieces place invocation operation phase).sum ≤ 700 := by
  have hacct := text_le_of_length hplace.account
  have hcmd := text_le_of_length operation.name_length_le
  have hph := text_le_of_length hph
  have hlen : invocation.length ≤ 32 := by
    simp only [validInvocationId, Bool.and_eq_true, beq_iff_eq] at hinvo
    exact hinvo.1.le
  have hinvo := text_le_of_length hlen
  simp [identityPieces, kTimestampSize]
  omega

/-- An outcome needs less than an envelope beyond its terminal. -/
theorem outcomeSize_le (success : Bool) (mutation : MutationState) {completed : List Stage}
    (hcompl : completed.Nodup) {terminal : Terminal}
    (hterm : terminal.size place ≤ terminalByteCeiling operation) :
    outcomeSize place invocation operation success mutation completed terminal
      ≤ kVectorJsonBytes := by
  have hidentity := identityPieces_le hplace hinvo operation "outcome" (by decide)
  have hstgs := stagesSize_le hcompl
  have hmut := text_le_of_length mutation.name_length_le
  have hsucc := bool_size_le success
  have hceil := terminalByteCeiling_le operation
  have hlen : (identityPieces place invocation operation "outcome").length = 6 := rfl
  simp [outcomeSize, hlen]
  unfold kVectorJsonBytes kAuditEnvelopeBytes
  omega

/-- A mutation proof needs less than an envelope beyond its terminal. -/
theorem proofSize_le {operation : Operation} {sequence : Nat} (hseq : sequence < 2 ^ 32)
    {terminal : Terminal}
    (hterm : terminal.size place ≤ terminalByteCeiling operation) :
    proofSize place invocation operation sequence terminal ≤ kVectorJsonBytes := by
  have hidentity := identityPieces_le hplace hinvo operation "checkpoint" (by decide)
  have hstg := text_le_of_length Stage.mutationConfirmed.name_length_le
  have hdig : nat sequence ≤ 10 := nat_le (by decide) (by omega)
  have hceil := terminalByteCeiling_le operation
  have hlen : (identityPieces place invocation operation "checkpoint").length = 6 := rfl
  simp [proofSize, hlen]
  unfold kVectorJsonBytes kAuditEnvelopeBytes
  omega

end TgCli.Audit
