/-
  TgCli.Tdlib.Types — TDLIB OBJECTS AND WHAT THE DAEMON MAKES OF A CHAT

  The part of `core/td_runtime.hpp` the read commands look at: chats with
  their list positions, users, supergroups, message summaries, and the
  answer of one TDLib request.  A C++ `std::string` is its list of bytes.

  `Response` is what `ReadyReadSession::read` hands back to a command: the
  read was stopped (the session already knows why), TDLib answered with an
  error, with an object of another type, or with the expected object.
  `TdClient σ` is TDLib seen through these requests, over a TDLib state `σ`;
  only `loadChats` moves the state.  On top of it:

    • `materializeChatIdentity` (daemon/chat_identity.cpp),
    • `materializeMessageSummary` (daemon/message_summary.cpp),
    • `materializeChatSummary` (daemon/chat_summary.cpp).

  A rendered date stays its number of seconds: `gmtime_r` and `strftime`
  give a text for every nonzero 32-bit value.
-/
import Mathlib.Data.List.Sort
import Mathlib.Data.Finset.Basic

namespace TgCli.Tdlib

/-! ## §1. Texts and identifiers. -/

/-- A C++ `std::string`: its bytes. -/
abbrev Bytes := List UInt8

/-- The bytes of a C++ string literal. -/
def ascii (text : String) : Bytes := text.toList.map fun c => UInt8.ofNat c.toNat

def kMaximumInt53 : Int := 9007199254740991

/-- `valid_int53`: a nonzero id that JSON numbers carry exactly. -/
def validInt53 (value : Int) : Bool :=
  value != 0 && decide (-kMaximumInt53 ≤ value) && decide (value ≤ kMaximumInt53)

theorem validInt53_iff (value : Int) : validInt53 value = true
      ↔ value ≠ 0 ∧ -9007199254740991 ≤ value ∧ value ≤ 9007199254740991 := by
  simp only [validInt53, Bool.and_eq_true, bne_iff_ne, decide_eq_true_eq, and_assoc]
  rfl

/-- `valid_user_id` (also `valid_positive_int53`). -/
def validUserId (value : Int) : Bool :=
  decide (0 < value) && decide (value ≤ kMaximumInt53)

/-- A UTF-8 continuation byte: `(byte & 0xC0) == 0x80`. -/
def continuationByte (byte : UInt8) : Bool :=
  byte &&& 0xC0 == 0x80

/-- `common::valid_utf8`: sequences of one to four bytes, with overlong
forms, surrogates and code points above U+10FFFF refused. -/
def validUtf8 : Bytes → Bool
  | [] => true
  | first :: rest =>
    if first ≤ 0x7F then validUtf8 rest
    else if 0xC2 ≤ first ∧ first ≤ 0xDF then
      match rest with
      | b1 :: rest => continuationByte b1 && validUtf8 rest
      | _ => false
    else if 0xE0 ≤ first ∧ first ≤ 0xEF then
      match rest with
      | b1 :: b2 :: rest =>
        let codepoint := (first.toNat % 16) * 4096 + (b1.toNat % 64) * 64 + b2.toNat % 64
        continuationByte b1 && continuationByte b2
          && !(codepoint < 0x800 || (0xD800 ≤ codepoint && codepoint ≤ 0xDFFF))
          && validUtf8 rest
      | _ => false
    else if 0xF0 ≤ first ∧ first ≤ 0xF4 then
      match rest with
      | b1 :: b2 :: b3 :: rest =>
        let codepoint := (first.toNat % 8) * 262144 + (b1.toNat % 64) * 4096
          + (b2.toNat % 64) * 64 + b3.toNat % 64
        continuationByte b1 && continuationByte b2 && continuationByte b3
          && !(codepoint < 0x10000 || 0x10FFFF < codepoint)
          && validUtf8 rest
      | _ => false
    else false

/-! ## §2. Chats, users, supergroups. -/

inductive TdChatKind where
  | privateChat | basicGroup | supergroup | channel | secret | unknown
deriving DecidableEq, Repr

inductive TdChatListKind where
  | main | archive | folder | unknown
deriving DecidableEq, Repr

structure TdChatList where
  kind : TdChatListKind
  folderId : Int := 0
deriving DecidableEq, Repr

structure TdChatPosition where
  list : TdChatList
  order : Int
deriving DecidableEq, Repr

inductive TdMessageSenderKind where
  | user | chat | unknown
deriving DecidableEq, Repr

structure TdMessageSender where
  kind : TdMessageSenderKind
  id : Int
deriving DecidableEq, Repr

inductive TdTopicKind where
  | forum | thread | direct | saved | unknown
deriving DecidableEq, Repr

structure TdTopic where
  kind : TdTopicKind
  id : Int
deriving DecidableEq, Repr

inductive TdMessageContentKind where
  | text | photo | video | document | voice | other
deriving DecidableEq, Repr

structure TdMessageSummary where
  id : Int
  chatId : Int
  date : Int := 0
  sender : TdMessageSender
  isOutgoing : Bool := false
  topic : Option TdTopic := none
  contentKind : TdMessageContentKind := .other
  text : Bytes := []
deriving DecidableEq, Repr

structure TdChat where
  id : Int
  title : Bytes
  kind : TdChatKind
  relatedId : Int
  positions : List TdChatPosition := []
  chatLists : List TdChatList := []
  isMarkedUnread : Bool := false
  unreadCount : Int := 0
  unreadMentionCount : Int := 0
  unreadReactionCount : Int := 0
  unreadPollVoteCount : Int := 0
  lastMessage : Option TdMessageSummary := none
deriving DecidableEq, Repr

inductive TdUserPresence where
  | online | offline | hidden
deriving DecidableEq, Repr

structure TdUserSummary where
  id : Int
  firstName : Bytes := []
  lastName : Bytes := []
  usernames : List Bytes := []
  phoneNumber : Bytes := []
  isBot : Bool := false
  isPremium : Bool := false
  presence : TdUserPresence := .hidden
deriving DecidableEq, Repr

structure TdSupergroup where
  id : Int
  usernames : List Bytes := []
  isChannel : Bool := false
  isForum : Bool := false
deriving DecidableEq, Repr

/-! ## §3. Answers. -/

structure TdError where
  code : Int
  message : Bytes := []
deriving DecidableEq, Repr

/-- One answered (or stopped) read. -/
inductive Response (α : Type) where
  | stopped
  | error (e : TdError)
  | unexpected
  | value (a : α)
deriving DecidableEq, Repr

/-! ## §4. Authorization. -/

inductive AuthState where
  | unknown | waitTdlibParameters | waitPhoneNumber | waitPremiumPurchase | waitEmailAddress
  | waitEmailCode | waitCode | waitOtherDeviceConfirmation | waitRegistration | waitPassword
  | ready | loggingOut | closing | closed
deriving DecidableEq, Repr

inductive TdAuthorizationFailure where
  | functionMismatch | tierMismatch | ownerMismatch | generationMismatch | authSequenceMismatch
  | authStateMismatch | functionDenied | generationClosed
deriving DecidableEq, Repr

/-! ## §5. The client. -/

/-- What an internal or t.me link resolves to (`core::TdInternalLink`). -/
inductive TdLinkTarget where
  | publicChat (username : Bytes)
  | botStart (username : Bytes)
  | message (url : Bytes)
  | chatInvite (url : Bytes)
  | directMessagesChat (username : Bytes)
  | savedMessages
  | unsupported
deriving DecidableEq, Repr

/-- The TDLib requests of the read commands. -/
structure TdClient (σ : Type) where
  /-- the authorization state is Ready -/
  ready : σ → Bool
  getMe : σ → Response TdUserSummary
  getChat : σ → Int → Response TdChat
  getUser : σ → Int → Response TdUserSummary
  getSupergroup : σ → Int → Response TdSupergroup
  getChats : σ → TdChatList → Nat → Response (List Int)
  loadChats : σ → TdChatList → Nat → Response Unit × σ

/-! ## §6. Chat identities. -/

structure ChatIdentity where
  id : Int
  title : Bytes
  type : TdChatKind
  isBot : Bool := false
  usernames : List Bytes := []
deriving DecidableEq, Repr

/-- The success payload of `ChatIdentityResult`. -/
structure ChatFacts where
  identity : ChatIdentity
  privateUserId : Option Int := none
  privateUserPresence : Option TdUserPresence := none
  observedUser : Option TdUserSummary := none
  observedSupergroup : Option TdSupergroup := none
deriving DecidableEq, Repr

/-- `ChatIdentityResult`, one constructor per `ChatIdentityStatus`. -/
inductive ChatIdentityResult where
  | success (facts : ChatFacts)
  | secret
  | invalid
  | tdError (e : TdError)
  | readStopped
deriving DecidableEq, Repr

/-- `chat_type_name` answers for these kinds only; the type of an identity
is kept as the kind it was named after. -/
def hasTypeName : TdChatKind → Bool
  | .privateChat | .basicGroup | .supergroup | .channel => true
  | .secret | .unknown => false

def validUsernames (usernames : List Bytes) : Bool :=
  usernames.all fun username => !username.isEmpty && validUtf8 username

variable {σ : Type}

def materializeChatIdentity (client : TdClient σ) (s : σ) (chat : TdChat) : ChatIdentityResult :=
  if !validInt53 chat.id || !validUtf8 chat.title then .invalid
  else if chat.kind = .secret then .secret
  else if !hasTypeName chat.kind then .invalid
  else
    let identity : ChatIdentity := { id := chat.id, title := chat.title, type := chat.kind }
    if chat.kind = .basicGroup then .success { identity := identity }
    else if !validUserId chat.relatedId then .invalid
    else if chat.kind = .privateChat then
      match client.getUser s chat.relatedId with
      | .stopped => .readStopped
      | .error e => .tdError e
      | .unexpected => .invalid
      | .value user =>
        if user.id != chat.relatedId || !validUsernames user.usernames then .invalid
        else .success
          { identity := { identity with isBot := user.isBot, usernames := user.usernames }
            privateUserId := some chat.relatedId
            privateUserPresence := some user.presence
            observedUser := some user }
    else
      match client.getSupergroup s chat.relatedId with
      | .stopped => .readStopped
      | .error e => .tdError e
      | .unexpected => .invalid
      | .value supergroup =>
        if supergroup.id != chat.relatedId
            || supergroup.isChannel != decide (chat.kind = .channel)
            || !validUsernames supergroup.usernames then .invalid
        else .success
          { identity := { identity with usernames := supergroup.usernames }
            observedSupergroup := some supergroup }

/-! ## §7. Message and chat summaries. -/

def validTopic (topic : TdTopic) : Bool :=
  match topic.kind with
  | .forum => decide (0 < topic.id) && decide (topic.id ≤ 2147483647) && validUserId topic.id
  | .thread | .direct | .saved => validUserId topic.id
  | .unknown => false

def validSender (sender : TdMessageSender) : Bool :=
  match sender.kind with
  | .user => validUserId sender.id
  | .chat => validInt53 sender.id
  | .unknown => false

/-- `materialize_message_summary`: the checks; the summary carries the
message's own fields. -/
def materializeMessageSummary (message : TdMessageSummary) : Option TdMessageSummary :=
  if validInt53 message.id && validInt53 message.chatId && validUtf8 message.text
      && validSender message.sender && message.topic.all validTopic then
    some message
  else none

def validList (list : TdChatList) : Bool :=
  match list.kind with
  | .main | .archive => list.folderId == 0
  | .folder => decide (0 < list.folderId)
  | .unknown => false

structure ChatSummary where
  identity : ChatIdentity
  isArchived : Bool
  folderIds : List Int
  isMarkedUnread : Bool
  unreadCount : Int
  unreadMentionCount : Int
  unreadReactionCount : Int
  unreadPollVoteCount : Int
  lastMessage : Option TdMessageSummary
deriving DecidableEq, Repr

/-- `std::sort` then `std::unique` over folder ids. -/
def sortedUnique (ids : List Int) : List Int :=
  (ids.mergeSort (fun a b => decide (a ≤ b))).dedup

/-- The folder ids of a chat, sorted and without repetitions. -/
def folderIds (chat : TdChat) : List Int :=
  sortedUnique ((chat.chatLists.filter (·.kind = .folder)).map (·.folderId))

def validUnreadFields (chat : TdChat) : Bool :=
  decide (0 ≤ chat.unreadCount) && decide (0 ≤ chat.unreadMentionCount)
    && decide (0 ≤ chat.unreadReactionCount) && decide (0 ≤ chat.unreadPollVoteCount)

/-- `valid_identity` of daemon/chat_summary.cpp. -/
def validIdentity (chat : TdChat) (identity : ChatIdentity) : Bool :=
  validInt53 chat.id && validInt53 identity.id && identity.id == chat.id
    && identity.title == chat.title && identity.type == chat.kind
    && validUtf8 identity.title && !(identity.type != .privateChat && identity.isBot)
    && validUsernames identity.usernames

def materializeChatSummary (chat : TdChat) (identity : ChatIdentity) : Option ChatSummary :=
  if !hasTypeName chat.kind || !validIdentity chat identity || !validUnreadFields chat then none
  else if !chat.chatLists.all validList then none
  else
    let summary (lastMessage : Option TdMessageSummary) : ChatSummary :=
      { identity := identity
        isArchived := chat.chatLists.any (·.kind = .archive)
        folderIds := folderIds chat
        isMarkedUnread := chat.isMarkedUnread
        unreadCount := chat.unreadCount
        unreadMentionCount := chat.unreadMentionCount
        unreadReactionCount := chat.unreadReactionCount
        unreadPollVoteCount := chat.unreadPollVoteCount
        lastMessage := lastMessage }
    match chat.lastMessage with
    | none => some (summary none)
    | some message =>
      match materializeMessageSummary message with
      | none => none
      | some m => if m.chatId != chat.id then none else some (summary (some m))

/-- A summary carries the id of the chat it was made for. -/
theorem materializeChatSummary_id (h : materializeChatSummary chat identity = some summary) :
    summary.identity = identity ∧ identity.id = chat.id := by
  unfold materializeChatSummary at h
  split at h
  · cases h
  rename_i hval
  have hid : identity.id = chat.id := by
    simp only [Bool.or_eq_true, not_or, Bool.not_eq_true, Bool.not_eq_false'] at hval
    have hv := hval.1.2
    simp only [validIdentity, Bool.and_eq_true, beq_iff_eq] at hv
    exact hv.1.1.1.1.1.2
  split at h
  · cases h
  split at h
  · simp only [Option.some.injEq] at h
    exact ⟨by rw [← h], hid⟩
  split at h
  · cases h
  split at h
  · cases h
  · simp only [Option.some.injEq] at h
    exact ⟨by rw [← h], hid⟩

end TgCli.Tdlib
