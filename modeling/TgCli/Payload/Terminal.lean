/-
  TgCli.Payload.Terminal — PLANS, RESULTS, ERRORS AND TERMINALS

  `valid_plan`, `valid_result_data`, `valid_stored_error`, `valid_terminal` and
  `terminal_matches_plan` of `account_audit.cpp`, and the checks of the ids and
  of the items a store entry keeps.

  Main results:
    * `validPlan_parsed` — an accepted plan is accepted when it is read back;
    * `validTerminal_parsed`, `terminalMatchesPlan_parsed` — a terminal is read
      alike from its text.
-/
import TgCli.Payload.M6

namespace TgCli.Payload

open Lib Audit

/-! ## §1. Plans. -/

/-- `expected_tdlib_functions`; the empty name stands for no request. -/
def expectedTdlibFunctions : Operation → List String
  | .send | .savedAttach => ["sendMessage"]
  | .msgEdit => ["editMessageText"]
  | .msgDelete => ["deleteMessages"]
  | .msgForward => ["forwardMessages"]
  | .msgReact => ["addMessageReaction", "removeMessageReaction"]
  | .msgPin => ["pinChatMessage"]
  | .msgUnpin => ["unpinChatMessage"]
  | .chatMarkRead => ["viewMessages", ""]
  | .chatMute | .chatUnmute => ["setChatNotificationSettings"]
  | .chatPin | .chatUnpin => ["toggleChatIsPinned"]
  | .chatArchive | .chatUnarchive => ["addChatToList"]
  | .chatJoin => ["joinChat", "joinChatByInviteLink"]
  | .chatLeave => ["leaveChat"]
  | .sessionTerminate => ["terminateSession"]
  | operation => M6.tdlibFunctions operation

def parseModes : List String := ["plain", "markdown_v2", "html"]

def chatLists : List String := ["main", "archive"]

/-- The operation, the account and the request of a plan. -/
def validPlanHead (operation : Operation) (v : Json) (account : String) : Bool :=
  v.isObj && v.contains "operation" && v.get "operation" == .str operation.name
    && v.contains "account" && v.get "account" == .str account && v.contains "tdlib_request"
    && if (v.get "tdlib_request").isNull then (expectedTdlibFunctions operation).contains ""
      else oneOf (v.get "tdlib_request") (expectedTdlibFunctions operation)

def planFields (v : Json) (names : List String) : Bool :=
  v.exactFields (["operation", "account", "tdlib_request"] ++ names)

/-- The duration of a mute, which an unmute has 0 of. -/
def validDuration (operation : Operation) (v : Json) : Bool :=
  if operation = .chatMute then validMuteDuration v else jsonInt64 v == some 0

def validPlan (operation : Operation) (v : Json) (account : String) : Bool :=
  validPlanHead operation v account
    && match operation with
      | .send =>
        planFields v
            ["chat", "text", "parse_mode", "reply_to", "requested_topic", "effective_topic",
              "silent", "schedule", "observed_server_unix_time"]
          && validChatIdentity (v.get "chat")
          && validUtf8Text (v.get "text") kMessageTextBytes kMessageTextScalars false
          && oneOf (v.get "parse_mode") parseModes
          && ((v.get "reply_to").isNull || validMessageId (v.get "reply_to"))
          && validTopic (v.get "requested_topic") "forum" true
          && validTopic (v.get "effective_topic") "forum" true && (v.get "silent").isBool
          && validSchedulePlan (v.get "schedule") (v.get "observed_server_unix_time")
      | .msgEdit =>
        planFields v ["chat", "message_id", "text"] && validChatIdentity (v.get "chat")
          && validMessageId (v.get "message_id")
          && validUtf8Text (v.get "text") kMessageTextBytes kMessageTextScalars false
      | .msgDelete =>
        planFields v ["chat", "message_ids", "requested_for_all", "effective_for_all"]
          && validChatIdentity (v.get "chat") && validStrictMessageIdArray (v.get "message_ids")
          && (v.get "requested_for_all").isBool && (v.get "effective_for_all").isBool
          && if oneOf ((v.get "chat").get "type") ["supergroup", "channel"] then
              v.get "requested_for_all" == .bool true && v.get "effective_for_all" == .bool true
            else v.get "effective_for_all" == v.get "requested_for_all"
      | .msgForward =>
        planFields v ["from", "to", "message_ids", "drop_author"]
          && validChatIdentity (v.get "from") && validChatIdentity (v.get "to")
          && validStrictMessageIdArray (v.get "message_ids") && (v.get "drop_author").isBool
      | .msgReact =>
        planFields v ["chat", "message_id", "reaction", "remove", "big"]
          && validChatIdentity (v.get "chat") && validMessageId (v.get "message_id")
          && validUtf8Text (v.get "reaction") 64 64 false && (v.get "remove").isBool
          && (v.get "big").isBool
          && !(v.get "remove" == .bool true && v.get "big" == .bool true)
          && v.get "tdlib_request"
            == .str (if v.get "remove" == .bool true then "removeMessageReaction"
              else "addMessageReaction")
      | .msgPin | .msgUnpin =>
        planFields v ["chat", "message_id", "pinned"] && validChatIdentity (v.get "chat")
          && validMessageId (v.get "message_id") && (v.get "pinned").isBool
      | .chatMarkRead =>
        planFields v ["chat", "last_message_id"] && validChatIdentity (v.get "chat")
          && ((v.get "last_message_id").isNull || validMessageId (v.get "last_message_id"))
          && if (v.get "last_message_id").isNull then (v.get "tdlib_request").isNull
            else v.get "tdlib_request" == .str "viewMessages"
      | .chatMute | .chatUnmute =>
        planFields v ["chat", "muted", "duration_seconds"] && validChatIdentity (v.get "chat")
          && v.get "muted" == .bool (operation == .chatMute)
          && validDuration operation (v.get "duration_seconds")
      | .chatPin | .chatUnpin =>
        planFields v ["chat", "chat_list", "pinned"] && validChatIdentity (v.get "chat")
          && oneOf (v.get "chat_list") chatLists && (v.get "pinned").isBool
      | .chatArchive | .chatUnarchive =>
        planFields v ["chat", "archived"] && validChatIdentity (v.get "chat")
          && (v.get "archived").isBool
      | .chatJoin =>
        planFields v ["source", "chat", "invite_link_sha256"]
          && if v.get "source" == .str "username" then
              v.get "tdlib_request" == .str "joinChat" && validChatIdentity (v.get "chat")
                && (v.get "invite_link_sha256").isNull
            else
              v.get "source" == .str "invite_link"
                && v.get "tdlib_request" == .str "joinChatByInviteLink"
                && ((v.get "chat").isNull || validChatIdentity (v.get "chat"))
                && validHash (v.get "invite_link_sha256")
      | .chatLeave =>
        planFields v ["chat"] && validChatIdentity (v.get "chat")
          && (v.get "chat").get "type" != .str "private"
      | .savedAttach =>
        planFields v ["chat", "message_id", "effective_topic", "caption", "file"]
          && validChatIdentity (v.get "chat") && validMessageId (v.get "message_id")
          && validTopic (v.get "effective_topic") "saved" false
          && validUtf8Text (v.get "caption") 4096 1024 true && validFileSnapshot (v.get "file")
      | .sessionTerminate => planFields v ["session"] && validSessionTarget (v.get "session")
      | operation => M6.validPlan operation v account

/-! ## Parsed plans. -/

section Parsed

variable (v : Json)

@[simp] theorem validPlanHead_parsed (operation : Operation) (account : String) :
    validPlanHead operation v.parsed account = validPlanHead operation v account := by
  unfold validPlanHead
  simp

@[simp] theorem planFields_parsed (names : List String) :
    planFields v.parsed names = planFields v names := by
  unfold planFields
  simp

@[simp] theorem validDuration_parsed (operation : Operation) :
    validDuration operation v.parsed = validDuration operation v := by
  unfold validDuration
  simp

/-- Only two operations have a file in their plan. -/
theorem validPlan_parsed_of_ne (hatt : operation ≠ .savedAttach)
    (hphoto : operation ≠ .chatSetPhoto) (account : String) :
    validPlan operation v.parsed account = validPlan operation v account := by
  unfold validPlan
  cases operation
  case savedAttach => exact absurd rfl hatt
  case chatSetPhoto => exact absurd rfl hphoto
  all_goals simp [M6.validPlan_parsed_of_ne]

/-- **A plan the store accepts, it accepts when it reads it back.** -/
theorem validPlan_parsed {v : Json} {operation : Operation} {account : String}
    (h : validPlan operation v account) : validPlan operation v.parsed account := by
  by_cases hatt : operation = .savedAttach
  · subst hatt
    unfold validPlan at h ⊢
    simp only [Bool.and_eq_true] at h
    obtain ⟨hhead, ⟨⟨⟨⟨hfld, hchat⟩, hmsg⟩, htopic⟩, hcaption⟩, hfile⟩ := h
    simp [hhead, hfld, hchat, hmsg, htopic, hcaption, validFileSnapshot_parsed hfile]
  · by_cases hphoto : operation = .chatSetPhoto
    · subst hphoto
      unfold validPlan at h ⊢
      rw [Bool.and_eq_true] at h ⊢
      exact ⟨validPlanHead_parsed v .chatSetPhoto account ▸ h.1, M6.validPlan_parsed h.2⟩
    · rw [validPlan_parsed_of_ne v hatt hphoto]
      exact h

end Parsed

open List Function Json

/-! ## §2. Results. -/

def validResultData (operation : Operation) (v : Json) : Bool :=
  match operation with
  | .send | .msgEdit | .savedAttach => validMessageWriteResult v
  | .msgDelete =>
    v.exactFields ["chat_id", "message_ids", "for_all", "deleted"] && validChatId (v.get "chat_id")
      && validStrictMessageIdArray (v.get "message_ids") && (v.get "for_all").isBool
      && v.get "deleted" == .bool true
  | .msgForward =>
    v.exactFields ["from_chat_id", "to_chat_id", "items"] && validChatId (v.get "from_chat_id")
      && validChatId (v.get "to_chat_id") && (v.get "items").isArr
      && !(v.get "items").items.isEmpty
      && decide ((v.get "items").items.length ≤ kMaximumForwardItems)
      && ((v.get "items").items.all fun item =>
          validForwardItem item && item.get "status" == .str "sent")
      && ascending none ((v.get "items").items.map fun item => jsonInt64 (item.get "source_id"))
  | .msgReact =>
    v.exactFields ["chat_id", "message_id", "reaction", "removed", "big"]
      && validChatId (v.get "chat_id") && validMessageId (v.get "message_id")
      && validUtf8Text (v.get "reaction") 64 64 false && (v.get "removed").isBool
      && (v.get "big").isBool
  | .msgPin | .msgUnpin =>
    v.exactFields ["chat_id", "message_id", "pinned"] && validChatId (v.get "chat_id")
      && validMessageId (v.get "message_id")
      && v.get "pinned" == .bool (operation == .msgPin)
  | .chatMarkRead =>
    v.exactFields ["chat_id", "last_read_message_id", "marked_read"]
      && validChatId (v.get "chat_id")
      && ((v.get "last_read_message_id").isNull || validMessageId (v.get "last_read_message_id"))
      && v.get "marked_read" == .bool true
  | .chatMute | .chatUnmute =>
    v.exactFields ["chat_id", "muted", "duration_seconds"] && validChatId (v.get "chat_id")
      && v.get "muted" == .bool (operation == .chatMute)
      && validDuration operation (v.get "duration_seconds")
  | .chatPin | .chatUnpin =>
    v.exactFields ["chat_id", "chat_list", "pinned"] && validChatId (v.get "chat_id")
      && oneOf (v.get "chat_list") chatLists && v.get "pinned" == .bool (operation == .chatPin)
  | .chatArchive | .chatUnarchive =>
    v.exactFields ["chat_id", "archived"] && validChatId (v.get "chat_id")
      && v.get "archived" == .bool (operation == .chatArchive)
  | .chatJoin =>
    v.exactFields ["status", "chat_id"]
      && ((v.get "status" == .str "joined" && validChatId (v.get "chat_id"))
          || (v.get "status" == .str "request_sent"
            && ((v.get "chat_id").isNull || validChatId (v.get "chat_id"))))
  | .chatLeave =>
    v.exactFields ["chat_id", "left"] && validChatId (v.get "chat_id")
      && v.get "left" == .bool true
  | .sessionTerminate =>
    v.exactFields ["session_id", "terminated"] && validSessionId (v.get "session_id")
      && v.get "terminated" == .bool true
  | operation => M6.validResult operation v

/-! ## §3. The tree of a document. -/

mutual

/-- The number of values in a document. -/
def nodes : Json → Nat
  | .arr items => 1 + itemNodes items
  | .obj members => 1 + memberNodes members
  | _ => 1

def itemNodes : List Json → Nat
  | [] => 0
  | v :: rest => nodes v + itemNodes rest

def memberNodes : List (String × Json) → Nat
  | [] => 0
  | (_, v) :: rest => nodes v + memberNodes rest

end

mutual

/-- The texts, names and depths of a document. -/
def validNode (depth : Nat) : Json → Bool
  | .str s => decide (depth ≤ 32) && decide (JsonSize.bytes s ≤ kRequestSourceBytes)
      && !containsNul s
  | .arr items => decide (depth ≤ 32) && validItems (depth + 1) items
  | .obj members => decide (depth ≤ 32) && validMembers (depth + 1) members
  | _ => decide (depth ≤ 32)

def validItems (depth : Nat) : List Json → Bool
  | [] => true
  | v :: rest => validNode depth v && validItems depth rest

def validMembers (depth : Nat) : List (String × Json) → Bool
  | [] => true
  | (name, v) :: rest =>
    !containsNul name && name != "idempotency_key" && name != "invite" && validNode depth v
      && validMembers depth rest

end

def validJsonTree (v : Json) : Bool := validNode 0 v && decide (nodes v ≤ 16384)

/-! ## §4. The details of errors. -/

def authStates : List String :=
  ["unknown", "wait_tdlib_parameters", "wait_phone_number", "wait_premium_purchase",
    "wait_email_address", "wait_email_code", "wait_code", "wait_other_device_confirmation",
    "wait_registration", "wait_password", "ready", "logging_out", "closing", "closed"]

def validAuthState (v : Json) (nullable : Bool := true) : Bool :=
  (nullable && v.isNull) || oneOf v authStates

def validOperationField (operation : Operation) (details : Json) : Bool :=
  details.contains "operation" && details.get "operation" == .str operation.name

def validForwardTimeoutItems (v : Json) : Bool :=
  validForwardItems v true false
    && (v.items.isEmpty || v.items.any fun item => item.get "status" == .str "pending")

/-- `parse_account_audit_stage`. -/
def parseStage (name : String) : Option Stage :=
  [Stage.idempotencyPending, .spoolReady, .dispatchStarted, .temporaryIdsObserved, .forwardProgress,
    .mutationConfirmed].find? fun stage => stage.name == name

/-- `parse_account_audit_operation`. -/
def parseOperation (name : String) : Option Operation :=
  [Operation.send, .msgEdit, .msgDelete, .msgForward, .msgReact, .msgPin, .msgUnpin, .chatMarkRead,
    .chatMute, .chatUnmute, .chatPin, .chatUnpin, .chatArchive, .chatUnarchive, .chatJoin,
    .chatLeave, .savedAttach, .sessionTerminate, .contactAdd, .contactRemove, .contactBlock,
    .contactUnblock, .folderCreate, .folderEdit, .folderDelete, .folderAddChat, .folderRemoveChat,
    .topicCreate, .topicEdit, .topicClose, .topicReopen, .chatSetTitle, .chatSetPhoto,
    .chatSetDescription, .chatInviteLink, .chatPromote, .chatDemote, .chatBan, .chatUnban,
    .chatKick, .chatSetPermissions, .storageOptimize].find? fun operation => operation.name == name

theorem parseOperation_name (operation : Operation) :
    parseOperation operation.name = some operation := by
  cases operation <;> decide

/-- The stages of an array of their names. -/
def parseStages (v : Json) : Option (List Stage) :=
  v.items.mapM fun item => item.str?.bind parseStage

def mutationNames : List String := ["none", "possible", "confirmed"]

def validAuditIncompleteDetails (operation : Operation) (details : Json) : Bool :=
  details.exactFields ["account", "path", "mutation_state", "completed_stages"]
    && (details.get "account").str?.any validAccountName
    && validSelectorString (details.get "path") && (details.get "completed_stages").isArr
    && oneOf (details.get "mutation_state") mutationNames
    && (parseStages (details.get "completed_stages")).any fun completed =>
      decide completed.Nodup && legalCompletedStages operation completed
        && if !completed.contains .dispatchStarted then
            details.get "mutation_state" == .str "none"
          else if completed.contains .mutationConfirmed then
            details.get "mutation_state" == .str "confirmed"
          else completed.contains .forwardProgress
            || details.get "mutation_state" == .str "possible"

def timeoutFields : List String := ["operation", "phase", "state", "outcome", "idempotency"]

/-- The operations that a temporary message stands for. -/
def sendsMessage (operation : Operation) : Bool :=
  operation == .send || operation == .savedAttach

def validTimeoutDetails (operation : Operation) (details : Json) : Bool :=
  if operation = .sessionTerminate then
    details.exactFields timeoutFields && validOperationField operation details
      && validAuthState (details.get "state")
      && oneOf (details.get "phase") ["preflight", "dispatch"]
      && details.get "outcome"
        == .str (if details.get "phase" == .str "preflight" then "not_started" else "unknown")
      && details.get "idempotency" == .str "not_requested"
  else
    validOperationField operation details && details.contains "phase" && details.contains "state"
      && validAuthState (details.get "state") && details.contains "outcome"
      && (details.get "outcome").str?.isSome && details.contains "idempotency"
      && match (details.get "phase").str? with
        | some "preflight" =>
          details.exactFields timeoutFields && details.get "outcome" == .str "not_started"
            && oneOf (details.get "idempotency") ["not_requested", "not_created", "removed"]
        | some "replay_confirmation" =>
          details.exactFields timeoutFields
            && (operation == .msgDelete || operation == .chatLeave)
            && details.get "outcome" == .str "not_started"
            && details.get "idempotency" == .str "completed_unchanged"
        | some "dispatch" =>
          !sendsMessage operation && operation != .msgForward
            && details.exactFields timeoutFields && details.get "outcome" == .str "unknown"
            && oneOf (details.get "idempotency") ["not_requested", "pending"]
        | some "confirmation" =>
          details.get "outcome" == .str "unknown"
            && oneOf (details.get "idempotency") ["not_requested", "pending"]
            && if operation = .msgForward then
                details.exactFields (timeoutFields ++ ["items"])
                  && validForwardTimeoutItems (details.get "items")
              else
                sendsMessage operation
                  && details.exactFields (timeoutFields ++ ["temporary_message_id"])
                  && ((details.get "temporary_message_id").isNull
                    || validMessageId (details.get "temporary_message_id"))
        | _ => false

/-- The longest wait of the items. -/
def maximumRetryAfter (items : List Json) : Int :=
  items.foldl (fun n item => max n ((jsonInt64 (item.get "retry_after")).getD 0)) 0

def validForwardErrorDetails (code : String) (details : Json) : Bool :=
  if code = "RATE_LIMITED" then
    details.exactFields ["operation", "tdlib_code", "retry_after", "items"]
      && details.get "operation" == .str "msg_forward" && details.get "tdlib_code" == .int 429
      && validNonnegativeInt32 (details.get "retry_after")
      && validForwardItems (details.get "items") true true
      && ((details.get "items").items.isEmpty
        || ((details.get "items").items.all (fun item =>
              item.get "status" == .str "failed" && item.get "failure_reason" == .str "tdlib_error"
                && item.get "tdlib_code" == .int 429
                && validNonnegativeInt32 (item.get "retry_after"))
            && details.get "retry_after"
              == .int (maximumRetryAfter (details.get "items").items)))
  else
    details.exactFields ["operation", "from_chat_id", "to_chat_id", "items"]
      && details.get "operation" == .str "msg_forward" && validChatId (details.get "from_chat_id")
      && validChatId (details.get "to_chat_id") && validForwardItems (details.get "items") false true
      &&
        let sent := ((details.get "items").items.filter fun item =>
          item.get "status" == .str "sent").length
        if code = "FORWARD_PARTIAL" then decide (0 < sent ∧ sent < (details.get "items").items.length)
        else sent == 0

/-- `valid_stored_error_message`. -/
def storedErrorMessages (code : String) : List String :=
  match code with
  | "AUDIT_INCOMPLETE" => [kIncompleteMessage]
  | "TIMEOUT" => ["request timed out"]
  | "DAEMON_SHUTDOWN" => ["daemon is shutting down"]
  | "NOT_AUTHED" => ["authorization was lost"]
  | "TDLIB_ERROR" => ["Telegram request failed"]
  | "RATE_LIMITED" => ["Telegram rate limit exceeded"]
  | "INTERNAL" =>
    ["internal error", "TDLib returned data outside the supported persistence bounds",
      "TDLib returned malformed session data", "TDLib returned a malformed response"]
  | "SEND_FAILED" => ["message was deleted before confirmation"]
  | "FORWARD_FAILED" => ["messages could not be forwarded"]
  | "FORWARD_PARTIAL" => ["some messages could not be forwarded"]
  | "JOIN_APPROVAL_REQUIRED" => ["join request requires approval"]
  | "JOIN_DECLINED" => ["join request was declined"]
  | "INPUT_CHANGED" => ["input file changed while being read"]
  | "SPOOL_UNAVAILABLE" => ["attachment spool is unavailable"]
  | "PRECONDITION_FAILED" => ["operation precondition failed"]
  | _ => []

/-- The names of `AccountAuditDurabilityReason`. -/
def durabilityReasons : List String :=
  ["path_invalid", "wrong_owner", "wrong_type", "wrong_mode", "wrong_link_count", "too_large",
    "capacity_exhausted", "open_failed", "lock_failed", "read_failed", "write_failed",
    "sync_failed", "rename_failed", "directory_sync_failed", "parse_error", "schema_error",
    "contradiction"]

/-- The preconditions an operation can fail. -/
def preconditionReasons : Operation → List String
  | .send =>
    ["not_replyable", "wrong_topic", "online_schedule_unsupported", "schedule_window_elapsed",
      "schedule_too_far"]
  | .msgEdit => ["not_editable", "wrong_content_type", "reply_markup_preservation_unsupported"]
  | .msgDelete => ["not_deletable_for_self", "not_deletable_for_all"]
  | .msgForward => ["not_forwardable", "not_copyable"]
  | .msgReact => ["reaction_unavailable"]
  | .msgPin => ["not_pinnable"]
  | .chatMute | .chatUnmute => ["saved_notifications_unsupported"]
  | .chatPin | .chatUnpin => ["chat_not_listed"]
  | .chatLeave => ["wrong_chat_type"]
  | .savedAttach => ["wrong_content_type", "wrong_topic"]
  | _ => []

/-- The details `INTERNAL` has; those of a session name the type it met. -/
def validInternalDetails (operation : Operation) (message details : Json) : Bool :=
  if operation = .sessionTerminate then
    details.exactFields ["operation", "reason", "tdlib_type_id"]
      && details.get "reason" == .str "malformed_tdlib_response"
      && ((details.get "tdlib_type_id").isNull || validInt32 (details.get "tdlib_type_id"))
  else
    details.exactFields ["operation", "reason"]
      && if operation.isM6 then
          (details.get "reason" == .str "internal_error" && message == .str "internal error")
            || (details.get "reason" == .str "malformed_tdlib_response"
              && message == .str "TDLib returned a malformed response")
        else details.get "reason" == .str "internal_error"

def kGeneric : Int := 1

def kTimeout : Int := 7

def kNotAuthed : Int := 3

def kRateLimited : Int := 5

/-- The exit code and the details of each code. -/
def validErrorBody (operation : Operation) (code : String) (exit : Int) (message details : Json) :
    Bool :=
  match code with
  | "AUDIT_INCOMPLETE" => exit == kGeneric && validAuditIncompleteDetails operation details
  | "TIMEOUT" => exit == kTimeout && validTimeoutDetails operation details
  | "DAEMON_SHUTDOWN" =>
    exit == kGeneric && details.exactFields ["reason"]
      && details.get "reason" == .str "daemon_shutdown"
  | "NOT_AUTHED" =>
    exit == kNotAuthed && details.exactFields ["account", "state", "reason"]
      && (details.get "account").str?.any validAccountName
      && validAuthState (details.get "state") false
      && details.get "reason" == .str "authorization_lost"
  | "TDLIB_ERROR" =>
    exit == kGeneric && details.exactFields ["operation", "tdlib_code"]
      && validOperationField operation details && validInt32 (details.get "tdlib_code")
  | "RATE_LIMITED" =>
    exit == kRateLimited
      && if operation = .msgForward ∧ details.contains "items" then
          validForwardErrorDetails code details
        else
          details.exactFields ["operation", "tdlib_code", "retry_after"]
            && validOperationField operation details && details.get "tdlib_code" == .int 429
            && validNonnegativeInt32 (details.get "retry_after")
  | "INTERNAL" =>
    exit == kGeneric && validOperationField operation details
      && validInternalDetails operation message details
  | "SEND_FAILED" =>
    exit == kGeneric && sendsMessage operation
      && details.exactFields ["operation", "chat_id", "temporary_message_id", "reason"]
      && validOperationField operation details && validChatId (details.get "chat_id")
      && validMessageId (details.get "temporary_message_id")
      && details.get "reason" == .str "deleted_before_confirmation"
  | "FORWARD_FAILED" | "FORWARD_PARTIAL" =>
    exit == kGeneric && operation == .msgForward && validForwardErrorDetails code details
  | "JOIN_APPROVAL_REQUIRED" =>
    exit == kGeneric && operation == .chatJoin
      && details.exactFields ["operation", "bot_user_id", "query_id"]
      && validOperationField operation details && validInt53 (details.get "bot_user_id") true
      && validInt53 (details.get "query_id") true
  | "JOIN_DECLINED" =>
    exit == kGeneric && operation == .chatJoin && details.exactFields ["operation"]
      && validOperationField operation details
  | "INPUT_CHANGED" =>
    exit == kGeneric && operation == .savedAttach && details.exactFields ["operation", "path"]
      && validOperationField operation details && validArgumentPath (details.get "path")
  | "SPOOL_UNAVAILABLE" =>
    operation.usesSpool && exit == kGeneric
      && details.exactFields ["operation", "path", "reason"]
      && validOperationField operation details && validArgumentPath (details.get "path")
      && oneOf (details.get "reason") durabilityReasons
  | "PRECONDITION_FAILED" =>
    exit == kGeneric && details.exactFields ["operation", "chat_id", "message_id", "reason"]
      && validOperationField operation details
      && ((details.get "chat_id").isNull || validChatId (details.get "chat_id"))
      && ((details.get "message_id").isNull || validMessageId (details.get "message_id"))
      && oneOf (details.get "reason") (preconditionReasons operation)
  | _ => false

def validStoredError (operation : Operation) (v : Json) : Bool :=
  v.exactFields ["kind", "code", "message", "details", "exit_code"]
    && v.get "kind" == .str "error" && (v.get "details").isObj && validInt32 (v.get "exit_code")
    && validJsonTree v
    && (v.get "code").str?.any fun code =>
      oneOf (v.get "message") (storedErrorMessages code)
        && validErrorBody operation code ((jsonInt64 (v.get "exit_code")).getD 0) (v.get "message")
          (v.get "details")

/-! ## §5. Terminals. -/

def validTerminal (operation : Operation) (v : Json) : Bool :=
  if v.exactFields ["kind", "data"] then
    v.get "kind" == .str "result" && validJsonTree v && validResultData operation (v.get "data")
  else validStoredError operation v

/-- The chat of a result is that of its plan. -/
def repeatsChat (data plan : Json) : Bool := data.get "chat_id" == (plan.get "chat").get "id"

def terminalMatchesPlan (operation : Operation) (terminal plan : Json) (account : String) : Bool :=
  if terminal.get "kind" == .str "error" then
    let details := terminal.get "details"
    (!details.contains "account" || details.get "account" == .str account)
      && (!details.contains "operation" || details.get "operation" == .str operation.name)
  else
    let data := terminal.get "data"
    match operation with
    | .send | .savedAttach => repeatsChat data plan
    | .msgEdit => repeatsChat data plan && data.get "id" == plan.get "message_id"
    | .msgDelete =>
      repeatsChat data plan && data.get "message_ids" == plan.get "message_ids"
        && data.get "for_all" == plan.get "effective_for_all"
    | .msgForward =>
      data.get "from_chat_id" == (plan.get "from").get "id"
        && data.get "to_chat_id" == (plan.get "to").get "id"
    | .msgReact =>
      repeatsChat data plan && data.get "message_id" == plan.get "message_id"
        && data.get "reaction" == plan.get "reaction" && data.get "removed" == plan.get "remove"
        && data.get "big" == plan.get "big"
    | .msgPin | .msgUnpin =>
      repeatsChat data plan && data.get "message_id" == plan.get "message_id"
        && data.get "pinned" == plan.get "pinned"
    | .chatMarkRead =>
      repeatsChat data plan && data.get "last_read_message_id" == plan.get "last_message_id"
    | .chatMute | .chatUnmute =>
      repeatsChat data plan && data.get "muted" == plan.get "muted"
        && data.get "duration_seconds" == plan.get "duration_seconds"
    | .chatPin | .chatUnpin =>
      repeatsChat data plan && data.get "chat_list" == plan.get "chat_list"
        && data.get "pinned" == plan.get "pinned"
    | .chatArchive | .chatUnarchive =>
      repeatsChat data plan && data.get "archived" == plan.get "archived"
    | .chatJoin =>
      (data.get "chat_id").isNull || (plan.get "chat").isNull || repeatsChat data plan
    | .chatLeave => repeatsChat data plan
    | .sessionTerminate => data.get "session_id" == (plan.get "session").get "id"
    | operation => M6.resultMatchesPlan operation data plan

/-- `validate_account_audit_persisted_terminal`. -/
def validPersistedTerminal (operation : Operation) (terminal plan : Json) (account : String) : Bool :=
  validPlan operation plan account && validTerminal operation terminal
    && terminalMatchesPlan operation terminal plan account

/-- `validate_account_audit_persisted_temporary_ids`. -/
def validPersistedIds (operation : Operation) (ids plan : Json) : Bool :=
  if !ids.isArr || ids.isEmpty then ids.isArr
  else if sendsMessage operation then validMessageIdArray ids 1 1
  else operation == .msgForward && validMessageIdArray ids 1 (plan.get "message_ids").items.length

/-- `validate_account_audit_persisted_forward_progress`. -/
def validPersistedProgress (operation : Operation) (progress plan : Json) : Bool :=
  if !progress.isArr || progress.isEmpty then progress.isArr
  else
    operation == .msgForward && plan.isObj && plan.contains "message_ids"
      && (plan.get "message_ids").isArr && validForwardItems progress false false
      && progress.items.length == (plan.get "message_ids").items.length
      && (progress.items.zip (plan.get "message_ids").items).all fun pair =>
        pair.1.get "source_id" == pair.2

/-! ## §6. Parsed terminals. -/

theorem nodes_parsed (v : Json) : nodes v.parsed = nodes v := by
  induction v using induct with
  | int n =>
    rw [parsed]
    split <;> rfl
  | arr items ih =>
    rw [parsed_arr]
    show 1 + itemNodes (items.map parsed) = 1 + itemNodes items
    congr 1
    induction items with
    | nil => rfl
    | cons v rest ih' =>
      rw [map_cons, itemNodes, itemNodes, ih v mem_cons_self,
        ih' fun v' hv' => ih v' (mem_cons_of_mem _ hv')]
  | obj members ih =>
    rw [parsed_obj]
    show 1 + memberNodes (members.map fun m => (m.1, m.2.parsed)) = 1 + memberNodes members
    congr 1
    induction members with
    | nil => rfl
    | cons member rest ih' =>
      obtain ⟨name, v⟩ := member
      rw [map_cons, memberNodes, memberNodes, ih (name, v) mem_cons_self,
        ih' fun m hm => ih m (mem_cons_of_mem _ hm)]
  | _ => rfl

theorem validNode_parsed (v : Json) : ∀ depth, validNode depth v.parsed = validNode depth v := by
  induction v using induct with
  | int n =>
    intro depth
    rw [parsed]
    split <;> rfl
  | arr items ih =>
    intro depth
    rw [parsed_arr]
    show (decide (depth ≤ 32) && validItems (depth + 1) (items.map parsed)) = _
    congr 1
    induction items with
    | nil => rfl
    | cons v rest ih' =>
      rw [map_cons, validItems, validItems, ih v mem_cons_self,
        ih' fun v' hv' => ih v' (mem_cons_of_mem _ hv')]
  | obj members ih =>
    intro depth
    rw [parsed_obj]
    show (decide (depth ≤ 32)
      && validMembers (depth + 1) (members.map fun m => (m.1, m.2.parsed))) = _
    congr 1
    induction members with
    | nil => rfl
    | cons member rest ih' =>
      obtain ⟨name, v⟩ := member
      rw [map_cons, validMembers, validMembers, ih (name, v) mem_cons_self,
        ih' fun m hm => ih m (mem_cons_of_mem _ hm)]
  | _ => exact fun _ => rfl

section Parsed

variable (v : Json) (operation : Operation)

@[simp] theorem validJsonTree_parsed : validJsonTree v.parsed = validJsonTree v := by
  unfold validJsonTree
  rw [validNode_parsed, nodes_parsed]

@[simp] theorem validResultData_parsed :
    validResultData operation v.parsed = validResultData operation v := by
  unfold validResultData
  cases operation <;>
    simp [all_parsed (f := fun item => validForwardItem item && item.get "status" == .str "sent")
      fun v => by simp, comp_def]

@[simp] theorem validAuthState_parsed (nullable : Bool) :
    validAuthState v.parsed nullable = validAuthState v nullable := by
  unfold validAuthState
  simp

@[simp] theorem validOperationField_parsed :
    validOperationField operation v.parsed = validOperationField operation v := by
  unfold validOperationField
  simp

@[simp] theorem validForwardTimeoutItems_parsed :
    validForwardTimeoutItems v.parsed = validForwardTimeoutItems v := by
  unfold validForwardTimeoutItems
  simp [comp_def]

@[simp] theorem parseStages_parsed : parseStages v.parsed = parseStages v := by
  unfold parseStages
  rw [items_parsed, mapM_map]
  congr 1
  exact funext fun item => by rw [comp_apply, str?_parsed]

@[simp] theorem validAuditIncompleteDetails_parsed :
    validAuditIncompleteDetails operation v.parsed = validAuditIncompleteDetails operation v := by
  unfold validAuditIncompleteDetails
  simp

@[simp] theorem validTimeoutDetails_parsed :
    validTimeoutDetails operation v.parsed = validTimeoutDetails operation v := by
  unfold validTimeoutDetails
  simp

theorem maximumRetryAfter_parsed (items : List Json) :
    maximumRetryAfter (items.map parsed) = maximumRetryAfter items := by
  unfold maximumRetryAfter
  rw [foldl_map]
  simp

@[simp] theorem validForwardErrorDetails_parsed (code : String) :
    validForwardErrorDetails code v.parsed = validForwardErrorDetails code v := by
  unfold validForwardErrorDetails
  simp [maximumRetryAfter_parsed, filter_map, comp_def]

@[simp] theorem validInternalDetails_parsed (message : Json) :
    validInternalDetails operation message.parsed v.parsed
      = validInternalDetails operation message v := by
  unfold validInternalDetails
  simp

@[simp] theorem validErrorBody_parsed (code : String) (exit : Int) (message : Json) :
    validErrorBody operation code exit message.parsed v.parsed
      = validErrorBody operation code exit message v := by
  unfold validErrorBody
  simp

@[simp] theorem validStoredError_parsed :
    validStoredError operation v.parsed = validStoredError operation v := by
  unfold validStoredError
  simp

@[simp] theorem validTerminal_parsed :
    validTerminal operation v.parsed = validTerminal operation v := by
  unfold validTerminal
  simp

@[simp] theorem repeatsChat_parsed (plan : Json) :
    repeatsChat v.parsed plan.parsed = repeatsChat v plan := by
  unfold repeatsChat
  simp

@[simp] theorem terminalMatchesPlan_parsed (plan : Json) (account : String) :
    terminalMatchesPlan operation v.parsed plan.parsed account
      = terminalMatchesPlan operation v plan account := by
  unfold terminalMatchesPlan
  cases operation <;> simp

/-- **A terminal the store accepts, it accepts when it reads it back.** -/
theorem validPersistedTerminal_parsed {operation : Operation} {terminal plan : Json}
    {account : String} (h : validPersistedTerminal operation terminal plan account) :
    validPersistedTerminal operation terminal.parsed plan.parsed account := by
  unfold validPersistedTerminal at h ⊢
  simp only [Bool.and_eq_true] at h ⊢
  rw [validTerminal_parsed, terminalMatchesPlan_parsed]
  exact ⟨⟨validPlan_parsed h.1.1, h.1.2⟩, h.2⟩

@[simp] theorem validPersistedIds_parsed (plan : Json) :
    validPersistedIds operation v.parsed plan.parsed = validPersistedIds operation v plan := by
  unfold validPersistedIds
  simp

@[simp] theorem validPersistedProgress_parsed (plan : Json) :
    validPersistedProgress operation v.parsed plan.parsed
      = validPersistedProgress operation v plan := by
  unfold validPersistedProgress
  simp [zip_map, comp_def]

end Parsed

end TgCli.Payload
