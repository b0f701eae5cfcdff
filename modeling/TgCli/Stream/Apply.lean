/-
  TgCli.Stream.Apply — THE METADATA TABLES, AND UPDATES ON THEM

  The tables of `FixedStreamNormalizer::Impl` (daemon/stream_storage.cpp):
  chats and entities in open-addressing tables, and one byte arena that holds
  every title, message text and username.  A record's `Block` is the arena's
  block under the record's handle.

  Here: the records, the slot search, `prepare_metadata_block`, and the three
  readers of the arena (`chat_title`, `chat_message_text`, `entity_username`).

  The `apply_*` functions of `FixedStreamNormalizer::Impl`
  (daemon/stream_storage.cpp) as functions on `Metadata`: `apply_entity`,
  `apply_chat`, `apply_buffered_chat`, `apply_title`, `apply_last_message`, the
  list, counter and mark updates, and the dispatch of `apply_value` and
  `apply_buffered`.

  What an update EMITS (the rendered event and its queue) is not part of the
  tables; `TgCli.Stream.Normalizer` adds it.  A 32-bit cast of the source that
  no check guards is written as `uint32`.
-/
import Mathlib.Algebra.Order.Ring.Nat
import Mathlib.Data.List.AList
import TgCli.Tdlib.Types
import TgCli.Lib.Arena
import TgCli.Lib.Slots

namespace TgCli.Stream

open Tdlib Lib List Arena

/-! ## §1. Limits and failures. -/

def kStreamMetadataChats : Nat := 65536

def kStreamMetadataEntities : Nat := 131072

def kStreamMetadataBytes : Nat := 67108864

def kStreamRawChatLists : Nat := 102

inductive TdSupportedUpdateKind where
  | currentStateEntry | newMessage | messageContent | messageEdited | messageInteractionInfo
  | messageReaction | messageReactions | deleteMessages | user | basicGroup | supergroup
  | newChat | chatTitle | chatLastMessage | chatAddedToList | chatRemovedFromList
  | chatReadInbox | messageMentionRead | messageUnreadReactions
  | messageContainsUnreadPollVotes | chatUnreadMentionCount | chatUnreadReactionCount
  | chatUnreadPollVoteCount | chatIsMarkedAsUnread
deriving DecidableEq, Repr

inductive TdMalformedUpdateReason where
  | missingObject | invalidIdentifier | invalidCount | invalidDate | invalidContent
  | invalidReaction | invalidSender | invalidChatList | invalidEntity
deriving DecidableEq, Repr

inductive StreamMetadataResource where
  | bootstrapItems | bootstrapBytes | chats | entities | bytes
deriving DecidableEq, Repr

inductive StreamMetadataPhase where
  | bootstrap | active
deriving DecidableEq, Repr

structure StreamMetadataCapacityFailure where
  resource : StreamMetadataResource
  phase : StreamMetadataPhase
  limit : Nat
  used : Nat := 0
  incoming : Nat := 0
  wouldUse : Nat := 0
deriving DecidableEq, Repr

/-- What took the normalizer to its Failed phase. -/
inductive StreamFailure where
  | malformed (kind : TdSupportedUpdateKind) (reason : TdMalformedUpdateReason)
  | capacity (failure : StreamMetadataCapacityFailure)
  | directConversion
  | rateLimited
  | tdlibError (code : Int)
  | wrongCurrentState
  /-- the event of an accepted update could not be queued -/
  | publication
deriving DecidableEq, Repr

/-- `fail_malformed` with its default reason. -/
def malformed (kind : TdSupportedUpdateKind) : StreamFailure := .malformed kind .invalidEntity

/-! ## §2. Records. -/

inductive EntityKind where
  | user | basicGroup | supergroup
deriving DecidableEq, Repr

inductive ChatKind where
  | privateChat | basicGroup | supergroup | channel | secret
deriving DecidableEq, Repr

/-- A stored last message; its text is the slice `textOffset, textSize` of
the chat's block. -/
structure StoredMessage where
  id : Int
  chatId : Int
  date : Int
  sender : TdMessageSender
  isOutgoing : Bool
  topic : Option TdTopic
  contentKind : TdMessageContentKind
  textOffset : Nat
  textSize : Nat
deriving DecidableEq, Repr

structure EntityRecord where
  kind : EntityKind
  id : Int
  isBot : Bool
  isChannel : Bool
  usernameCount : Nat
deriving DecidableEq, Repr

structure ChatRecord where
  id : Int
  kind : ChatKind
  relatedId : Int
  titleSize : Nat
  lists : List TdChatList
  isMarkedUnread : Bool
  unreadCount : Int
  unreadMentionCount : Int
  unreadReactionCount : Int
  unreadPollVoteCount : Int
  lastMessage : Option StoredMessage
deriving DecidableEq, Repr

/-- A block's owner: the handle's entity bit and slot. -/
inductive Handle where
  | chat (slot : Nat)
  | entity (slot : Nat)
deriving DecidableEq, Repr

/-- The handle names a slot of its table. -/
def Handle.InTable : Handle → Prop
  | .chat slot => slot < kStreamMetadataChats
  | .entity slot => slot < kStreamMetadataEntities

/-- The tables, with the occupied slots only. -/
structure Metadata where
  chats : AList fun _ : Nat => ChatRecord
  entities : AList fun _ : Nat => EntityRecord
  chatCount : Nat
  entityCount : Nat
  arena : Arena Handle

/-- The tables after `begin`; the arena's bytes are what they were. -/
def Metadata.empty (mem : Mem) : Metadata :=
  { chats := ∅, entities := ∅, chatCount := 0, entityCount := 0, arena := fresh mem }

/-! ## §3. Slot search. -/

/-- `hash`: 64-bit mixing of an id and a kind. -/
def hash (id : Int) (kind : Nat) : Nat :=
  let value := (id % 2 ^ 64).toNat ^^^ (kind * 0x9e3779b97f4a7c15 % 2 ^ 64)
  let value := value ^^^ (value >>> 30)
  let value := value * 0xbf58476d1ce4e5b9 % 2 ^ 64
  let value := value ^^^ (value >>> 27)
  let value := value * 0x94d049bb133111eb % 2 ^ 64
  value ^^^ (value >>> 31)

def EntityKind.index : EntityKind → Nat
  | .user => 0
  | .basicGroup => 1
  | .supergroup => 2

/-- The ids of the occupied chat slots. -/
def Metadata.chatIds (s : Metadata) (slot : Nat) : Option Int :=
  (s.chats.lookup slot).map (·.id)

/-- The keys of the occupied entity slots. -/
def Metadata.entityKeys (s : Metadata) (slot : Nat) : Option (EntityKind × Int) :=
  (s.entities.lookup slot).map fun e => (e.kind, e.id)

/-- Where the search for a chat starts; the masks with a power of two less
one are remainders. -/
def chatStart (id : Int) : Nat := hash id 0 % kStreamMetadataChats

def entityStart (key : EntityKind × Int) : Nat :=
  hash key.2 key.1.index % kStreamMetadataEntities

def Metadata.chatSlot (s : Metadata) (id : Int) : Slot :=
  Probe.slotOf s.chatIds chatStart kStreamMetadataChats id

def Metadata.entitySlot (s : Metadata) (kind : EntityKind) (id : Int) : Slot :=
  Probe.slotOf s.entityKeys entityStart kStreamMetadataEntities (kind, id)

/-- `find_chat`, with the slot. -/
def Metadata.findChat (s : Metadata) (id : Int) : Option (Nat × ChatRecord) :=
  match s.chatSlot id with
  | .found slot => (s.chats.lookup slot).map fun chat => (slot, chat)
  | _ => none

def Metadata.findEntity (s : Metadata) (kind : EntityKind) (id : Int) : Option EntityRecord :=
  match s.entitySlot kind id with
  | .found slot => s.entities.lookup slot
  | _ => none

/-! ## §4. Giving a block its new size. -/

/-- There is one block a slot, so the arena's list is shorter than this. -/
def metadataFuel : Nat := kStreamMetadataChats + kStreamMetadataEntities + 1

/-- `prepare_metadata_block`: move the block to the end of the arena with
`incoming` bytes. -/
def prepareMetadataBlock (a : Arena Handle) (handle : Handle) (incoming : Nat)
    (phase : StreamMetadataPhase) : Except StreamFailure (Arena Handle) :=
  let outgoing := a.size handle
  let linked := (a.links.link handle).linked
  if a.used < outgoing then .error (malformed .currentStateEntry)
  else if kStreamMetadataBytes < a.used - outgoing + incoming then
    .error (.capacity { resource := .bytes, phase := phase, limit := kStreamMetadataBytes,
                        wouldUse := a.used - outgoing + incoming })
  else if outgoing = 0 ∧ linked = false then
    .ok (append { a.resize handle a.used incoming with used := a.used + incoming } handle)
  else
    -- the block goes to the end of the list BEFORE the arena is compacted
    let a₁ := if linked then (a.unlink handle).append handle else a
    let a₂ := a₁.compact metadataFuel
    let a₃ : Arena Handle :=
      if outgoing ≠ 0 then { a₂.unlink handle with used := a₂.used - outgoing } else a₂
    .ok (append { a₃.resize handle a₃.used incoming with used := a₃.used + incoming } handle)

/-- The bytes of the arena behind a block. -/
def behind (a : Arena Handle) (handle : Handle) : Bytes :=
  a.mem.load (a.offset handle + a.size handle) (a.used - (a.offset handle + a.size handle))

/-- The arena's invariant in the normalizer. -/
def ArenaOk (a : Arena Handle) : Prop :=
  a.used ≤ kStreamMetadataBytes
    ∧ ∃ order, Arena.Valid a order ∧ ∀ handle ∈ order, handle.InTable

theorem arenaOk_fresh (mem : Mem) : ArenaOk (fresh mem) :=
  ⟨Nat.zero_le _, [], fresh_valid mem, fun h hm => absurd hm (by simp)⟩

/-- A list of distinct handles of the tables is shorter than the walk's
bound. -/
theorem length_lt_metadataFuel {order : List Handle} (hnd : order.Nodup)
    (htab : ∀ handle ∈ order, handle.InTable) : order.length < metadataFuel := by
  have hsub : order ⊆ (List.range kStreamMetadataChats).map Handle.chat
      ++ (List.range kStreamMetadataEntities).map Handle.entity := by
    intro handle hmem
    have hin := htab handle hmem
    cases handle with
    | chat slot =>
      exact mem_append_left _ (mem_map_of_mem (mem_range.mpr hin))
    | entity slot =>
      exact mem_append_right _ (mem_map_of_mem (mem_range.mpr hin))
  have hle := (subperm_of_subset hnd hsub).length_le
  rw [length_append, length_map, length_map, length_range, length_range] at hle
  exact Nat.lt_succ_of_le hle

/-- **What `prepare_metadata_block` leaves behind.**  Every other block keeps
its bytes; at the block's new place its old bytes stand overlaid with the
bytes that stood behind it. -/
theorem prepareMetadataBlock_spec {handle : Handle} (hok : ArenaOk a) (htab : handle.InTable)
    (h : prepareMetadataBlock a handle incoming phase = .ok a') :
    ArenaOk a' ∧ a'.size handle = incoming ∧ (∀ j, j ≠ handle → a'.content j = a.content j)
      ∧ a'.mem.load (a'.offset handle) (a.size handle)
          = overlay (behind a handle) (a.content handle) := by
  obtain ⟨-, order, hval, hin⟩ := hok
  -- what `append` leaves of the block that was just given its place
  have happ : ∀ (b : Arena Handle) (n : Nat),
      let c := append { b.resize handle b.used n with used := b.used + n } handle
      c.size handle = n ∧ c.offset handle = b.used ∧ c.mem = b.mem ∧ c.used = b.used + n := by
    intro b n
    unfold append resize
    split <;> simp
  have hplaced : ∀ l : List Handle, (∀ j ∈ l, j.InTable) →
      ∀ j ∈ l ++ if incoming = 0 then [] else [handle], j.InTable := by
    intro l hl j hj
    rcases mem_append.mp hj with hj | hj
    · exact hl j hj
    · split at hj
      · cases hj
      · rw [mem_singleton.mp hj]
        exact htab
  unfold prepareMetadataBlock at h
  simp only at h
  split at h
  · cases h
  split at h
  · cases h
  split at h
  · -- an empty block gets the end of the arena
    rename_i hemp
    cases h
    have hout : handle ∉ order := fun hm => hval.nonempty handle hm hemp.1
    obtain ⟨hval', hoths⟩ := (hval.detached hout).alloc incoming
    obtain ⟨hsize, hoff, hmem, hused'⟩ := happ a incoming
    refine ⟨⟨?_, _, hval', hplaced _ hin⟩, hsize, hoths, ?_⟩
    · rw [hused']
      omega
    · have hnil : a.content handle = [] :=
        eq_nil_of_length_eq_zero ((content_length a handle).trans hemp.1)
      rw [hemp.1, hnil]
      simp [overlay]
  · -- a linked block is relinked, the arena compacted, the block taken out
    rename_i hne
    have hlinked := hval.linked_iff handle
    have hsz : a.size handle ≠ 0 := by
      intro h0
      apply hne
      refine ⟨h0, ?_⟩
      by_contra hl
      exact (hlinked.mp (by simpa using hl)) h0
    have hmem : handle ∈ order := by
      by_contra hm
      exact hsz (hval.empty handle hm)
    obtain ⟨xs, ys, hsplit⟩ := append_of_mem hmem
    rw [hsplit] at hval
    have hfuel := length_lt_metadataFuel hval.represents.nodup (hsplit ▸ hin)
    obtain ⟨hdet, hcont, hload⟩ := compact_detached hval hfuel
    rw [if_pos (hlinked.mpr hsz), if_pos hsz] at h
    injection h with h
    obtain ⟨hval', hoths⟩ := hdet.alloc incoming
    obtain ⟨hsize, hoff, hmem', hused'⟩ := happ _ incoming
    rw [h] at hval' hoths hsize hoff hmem' hused'
    have hin' : ∀ j ∈ xs ++ ys, j.InTable := fun j hj => hin j (by
      rw [hsplit]
      exact (sublist_cons_self handle ys).append_left xs |>.subset hj)
    refine ⟨⟨?_, _, hval', hplaced _ hin'⟩, hsize, ?_, ?_⟩
    · rw [hused']
      show (compact metadataFuel ((a.unlink handle).append handle)).used - a.size handle
        + incoming ≤ _
      rw [(compact_moved hval hfuel).2.2.1]
      omega
    · intro j hj
      rw [hoths j hj, hcont j hj]
    · rw [hmem', hoff, hload, behind, hval.load_behind]

/-! ## §5. Readers. -/

/-- `chat_title` of the chat in `slot`. -/
def chatTitle (a : Arena Handle) (slot : Nat) (chat : ChatRecord) : Bytes :=
  a.mem.load (a.offset (.chat slot)) chat.titleSize

/-- `chat_message_text` of the chat in `slot`. -/
def chatMessageText (a : Arena Handle) (slot : Nat) (chat : ChatRecord) : Bytes :=
  match chat.lastMessage with
  | none => []
  | some message => a.mem.load (a.offset (.chat slot) + message.textOffset) message.textSize

/-- `entity_username` of the entity in `slot`. -/
def entityUsername (a : Arena Handle) (slot : Nat) (entity : EntityRecord) (ordinal : Nat) :
    Bytes :=
  if entity.usernameCount ≤ ordinal then []
  else nthString a.mem kStreamMetadataBytes (a.offset (.entity slot)) ordinal

/-! ## §6. Incoming values. -/

structure TdBasicGroup where
  id : Int
  memberCount : Int := 0
  upgradedToSupergroupId : Int := 0
deriving DecidableEq, Repr

/-- The `core::TdValue` alternatives the normalizer looks at. -/
inductive TdValue where
  | user (user : TdUserSummary)
  | basicGroup (group : TdBasicGroup)
  | supergroup (supergroup : TdSupergroup)
  | newChat (chat : TdChat)
  | chatTitle (chatId : Int) (title : Bytes)
  | chatLastMessage (chatId : Int) (message : Option TdMessageSummary)
  | chatAddedToList (chatId : Int) (list : TdChatList)
  | chatRemovedFromList (chatId : Int) (list : TdChatList)
  | chatReadInbox (chatId lastReadInboxMessageId unreadCount : Int)
  | messageMentionRead (chatId messageId unreadMentionCount : Int)
  | chatUnreadMentionCount (chatId unreadMentionCount : Int)
  | messageUnreadReactions (chatId messageId unreadReactionCount : Int)
  | chatUnreadReactionCount (chatId unreadReactionCount : Int)
  | messageContainsUnreadPollVotes (chatId messageId unreadPollVoteCount : Int)
  | chatUnreadPollVoteCount (chatId unreadPollVoteCount : Int)
  | chatIsMarkedAsUnread (chatId : Int) (isMarkedUnread : Bool)
  /-- message, edit, reaction and delete updates: an event, no metadata -/
  | message (kind : TdSupportedUpdateKind) (chatId : Int)
  | malformedSupported (kind : TdSupportedUpdateKind) (reason : TdMalformedUpdateReason)
  | directConversionError
  | error (e : TdError)
  /-- any other alternative -/
  | other
deriving DecidableEq, Repr

/-- `static_cast<std::uint32_t>`. -/
def uint32 (n : Nat) : Nat := n % 2 ^ 32

def validMessage (message : TdMessageSummary) : Bool :=
  validInt53 message.id && validInt53 message.chatId && decide (0 ≤ message.date)
    && validSender message.sender && message.topic.all validTopic && validUtf8 message.text

def validUsername (value : Bytes) : Bool :=
  !value.isEmpty && !value.contains 0 && validUtf8 value

def entityKind : ChatKind → Option EntityKind
  | .privateChat => some .user
  | .basicGroup => some .basicGroup
  | .supergroup | .channel => some .supergroup
  | .secret => none

def chatKind : TdChatKind → Option ChatKind
  | .privateChat => some .privateChat
  | .basicGroup => some .basicGroup
  | .supergroup => some .supergroup
  | .channel => some .channel
  | .secret => some .secret
  | .unknown => none

def entityUpdateKind : EntityKind → TdSupportedUpdateKind
  | .user => .user
  | .basicGroup => .basicGroup
  | .supergroup => .supergroup

def compatible (chat : ChatRecord) (entity : EntityRecord) : Bool :=
  entityKind chat.kind == some entity.kind && entity.id == chat.relatedId
    && (chat.kind != .channel || entity.isChannel)
    && (chat.kind != .supergroup || !entity.isChannel)
    && (chat.kind != .basicGroup || !entity.isBot)
    && (chat.kind != .privateChat || !entity.isChannel)

/-- `validate_chat`, for a chat whose kind is known. -/
def validateChat (value : TdChat) : Bool :=
  validInt53 value.id && validUserId value.relatedId && validUtf8 value.title
    && decide (value.chatLists.length ≤ kStreamRawChatLists) && value.chatLists.all validList
    && decide (0 ≤ value.unreadCount) && decide (0 ≤ value.unreadMentionCount)
    && decide (0 ≤ value.unreadReactionCount) && decide (0 ≤ value.unreadPollVoteCount)
    && value.lastMessage.all fun message => validMessage message && message.chatId == value.id

/-! ## §7. Dates. -/

def digit (n : Nat) : UInt8 := UInt8.ofNat (48 + n % 10)

/-- `put_two`. -/
def twoDigits (n : Nat) : Bytes := [digit (n / 10), digit n]

/-- Year, month and day of a day number, as `stream_timestamp_utc` computes
them. -/
def civilDate (days : Nat) : Nat × Nat × Nat :=
  let days := days + 719468
  let era := days / 146097
  let dayOfEra := days - era * 146097
  let yearOfEra := (dayOfEra - dayOfEra / 1460 + dayOfEra / 36524 - dayOfEra / 146096) / 365
  let dayOfYear := dayOfEra - (365 * yearOfEra + yearOfEra / 4 - yearOfEra / 100)
  let monthPrime := (5 * dayOfYear + 2) / 153
  let day := dayOfYear - (153 * monthPrime + 2) / 5 + 1
  let month := if monthPrime < 10 then monthPrime + 3 else monthPrime - 9
  (yearOfEra + era * 400 + if month ≤ 2 then 1 else 0, month, day)

/-- The twenty bytes of `YYYY-MM-DDThh:mm:ssZ`. -/
def timestampBytes (year month day daySeconds : Nat) : Bytes :=
  [digit (year / 1000), digit (year / 100), digit (year / 10), digit year, 45]
    ++ twoDigits month ++ [45] ++ twoDigits day ++ [84] ++ twoDigits (daySeconds / 3600)
    ++ [58] ++ twoDigits (daySeconds % 3600 / 60) ++ [58] ++ twoDigits (daySeconds % 60) ++ [90]

def streamTimestampUtc (seconds : Int) : Option Bytes :=
  if seconds ≤ 0 then none
  else
    let date := civilDate (seconds.toNat / 86400)
    if date.1 < 1970 ∨ 2038 < date.1 then none
    else some (timestampBytes date.1 date.2.1 date.2.2 (seconds.toNat % 86400))

theorem streamTimestampUtc_length
    (h : streamTimestampUtc seconds = some date) : date.length = 20 := by
  unfold streamTimestampUtc at h
  generalize civilDate (seconds.toNat / 86400) = civil at h
  split at h
  · cases h
  simp only at h
  split at h
  · cases h
  · cases h
    rfl

/-! ## §8. Entities. -/

/-- `kStreamMetadataEntities` or `kStreamMetadataChats` is used up. -/
def tableFull (resource : StreamMetadataResource) (phase : StreamMetadataPhase)
    (limit used : Nat) : StreamFailure :=
  .capacity { resource := resource, phase := phase, limit := limit, used := used, incoming := 1 }

/-- The byte arena cannot take `incoming` bytes. -/
def arenaFull (phase : StreamMetadataPhase) (incoming : Nat) : StreamFailure :=
  .capacity { resource := .bytes, phase := phase, limit := kStreamMetadataBytes,
              wouldUse := incoming }

/-- A slot for a key: where its record is or can go. -/
def slotFor (slot : Slot) (count limit : Nat) (full : StreamFailure) : Except StreamFailure Nat :=
  match slot with
  | .found i => .ok i
  | .free i => if count = limit then .error full else .ok i
  | .full => .error full

/-- The chats of the tables that an entity is about. -/
def relatedChats (s : Metadata) (kind : EntityKind) (id : Int) : List ChatRecord :=
  (s.chats.entries.map Sigma.snd).filter fun chat =>
    chat.kind != .secret && chat.relatedId == id && entityKind chat.kind == some kind

/-- The usernames, each with its NUL, one behind the other. -/
def writeUsernames (a : Arena Handle) (handle : Handle) : Nat → List Bytes → Arena Handle
  | _, [] => a
  | pos, name :: names =>
    writeUsernames ((a.write handle pos name).write handle (pos + name.length) [0]) handle
      (pos + name.length + 1) names

/-- `apply_entity`, without the emission at its end. -/
def applyEntity (s : Metadata) (kind : EntityKind) (id : Int) (isBot isChannel : Bool)
    (usernames : List Bytes) (phase : StreamMetadataPhase) : Except StreamFailure Metadata :=
  if !validUserId id || (kind != .user && isBot) || (kind != .supergroup && isChannel) then
    .error (malformed (entityUpdateKind kind))
  else if !usernames.all validUsername then .error (malformed (entityUpdateKind kind))
  else
    let incoming := (usernames.map fun name => name.length + 1).sum
    if 2 ^ 32 - 1 < incoming then .error (arenaFull phase incoming)
    else
      match slotFor (s.entitySlot kind id) s.entityCount kStreamMetadataEntities
          (tableFull .entities phase kStreamMetadataEntities s.entityCount) with
      | .error e => .error e
      | .ok slot =>
        let prospective : EntityRecord :=
          { kind := kind, id := id, isBot := isBot, isChannel := isChannel
            usernameCount := usernames.length }
        let related := relatedChats s kind id
        if 1 < related.length then .error (malformed .currentStateEntry)
        else if related.any fun chat => !compatible chat prospective then
          .error (malformed (entityUpdateKind kind))
        else
          match prepareMetadataBlock s.arena (.entity slot) incoming phase with
          | .error e => .error e
          | .ok arena => .ok
              { s with
                arena := writeUsernames arena (.entity slot) 0 usernames
                entities := s.entities.insert slot prospective
                entityCount :=
                  if s.entitySlot kind id = .found slot then s.entityCount
                  else s.entityCount + 1 }

def applyUser (s : Metadata) (value : TdUserSummary) (phase : StreamMetadataPhase) :
    Except StreamFailure Metadata :=
  applyEntity s .user value.id value.isBot false value.usernames phase

def applyBasicGroup (s : Metadata) (value : TdBasicGroup) (phase : StreamMetadataPhase) :
    Except StreamFailure Metadata :=
  if value.memberCount < 0 ∨ value.upgradedToSupergroupId < 0
      ∨ kMaximumInt53 < value.upgradedToSupergroupId then .error (malformed .basicGroup)
  else applyEntity s .basicGroup value.id false false [] phase

def applySupergroup (s : Metadata) (value : TdSupergroup) (phase : StreamMetadataPhase) :
    Except StreamFailure Metadata :=
  applyEntity s .supergroup value.id false value.isChannel value.usernames phase

/-! ## §9. Chats, titles and last messages. -/

/-- The record of a message whose text stands at `textOffset` of its block. -/
def storeMessage (message : TdMessageSummary) (textOffset textSize : Nat) : StoredMessage :=
  { id := message.id, chatId := message.chatId, date := message.date, sender := message.sender
    isOutgoing := message.isOutgoing, topic := message.topic, contentKind := message.contentKind
    textOffset := textOffset, textSize := textSize }

/-- The bytes a text with its date takes: both end with NUL. -/
def messageBytes (textSize : Nat) (date : Int) : Nat := textSize + 1 + if date ≠ 0 then 21 else 0

/-- The date at `pos`, if the message has one; `none` when it has no text
form. -/
def writeDate (a : Arena Handle) (handle : Handle) (pos : Nat) (date : Int) :
    Option (Arena Handle) :=
  if date ≠ 0 then
    (streamTimestampUtc date).map fun bytes =>
      (a.write handle pos bytes).write handle (pos + bytes.length) [0]
  else some a

/-- Text and date of a message from `pos` on. -/
def writeMessage (a : Arena Handle) (handle : Handle) (pos : Nat) (text : Bytes) (date : Int) :
    Option (Arena Handle) :=
  writeDate ((a.write handle pos text).write handle (pos + text.length) [0]) handle
    (pos + text.length + 1) date

/-- Title with NUL at the start of the block. -/
def writeTitle (a : Arena Handle) (handle : Handle) (title : Bytes) : Arena Handle :=
  (a.write handle 0 title).write handle title.length [0]

/-- Another chat stands for the same peer. -/
def conflictingChat (s : Metadata) (slot : Nat) (kind : ChatKind) (relatedId : Int) : Bool :=
  kind != .secret && s.chats.entries.any fun entry =>
    entry.1 != slot && entry.2.kind != .secret && entry.2.relatedId == relatedId
      && entityKind entry.2.kind == entityKind kind

/-- The record of a chat update. -/
def chatRecord (value : TdChat) (kind : ChatKind) : ChatRecord :=
  { id := value.id, kind := kind, relatedId := value.relatedId, titleSize := value.title.length
    lists := value.chatLists, isMarkedUnread := value.isMarkedUnread
    unreadCount := value.unreadCount, unreadMentionCount := value.unreadMentionCount
    unreadReactionCount := value.unreadReactionCount
    unreadPollVoteCount := value.unreadPollVoteCount
    lastMessage := value.lastMessage.map fun message =>
      storeMessage message (value.title.length + 1) message.text.length }

/-- The bytes of a chat update. -/
def chatIncoming (value : TdChat) : Nat :=
  value.title.length + 1
    + match value.lastMessage with
      | none => 0
      | some message => messageBytes message.text.length message.date

/-- The common end of `apply_chat` and `apply_buffered_chat`: give the block
its size, write the texts, store the record. -/
def storeChat (s : Metadata) (slot : Nat) (value : TdChat) (kind : ChatKind) (incoming : Nat)
    (phase : StreamMetadataPhase) : Except StreamFailure Metadata :=
  match prepareMetadataBlock s.arena (.chat slot) incoming phase with
  | .error e => .error e
  | .ok arena =>
    let arena := writeTitle arena (.chat slot) value.title
    let written := match value.lastMessage with
      | none => some arena
      | some message =>
        writeMessage arena (.chat slot) (value.title.length + 1) message.text message.date
    match written with
    | none => .error (.malformed .newChat .invalidDate)
    | some arena => .ok
        { s with
          arena := arena
          chats := s.chats.insert slot (chatRecord value kind)
          chatCount :=
            if s.chatSlot value.id = .found slot then s.chatCount else s.chatCount + 1 }

/-- A stored chat of another kind or peer. -/
def identityChanged (s : Metadata) (slot : Nat) (kind : ChatKind) (relatedId : Int) : Bool :=
  match s.chats.lookup slot with
  | none => false
  | some chat => chat.kind != kind || chat.relatedId != relatedId

/-- `apply_chat`, without the emission at its end. -/
def applyChat (s : Metadata) (value : TdChat) (phase : StreamMetadataPhase) :
    Except StreamFailure Metadata :=
  match chatKind value.kind with
  | none => .error (malformed .newChat)
  | some kind =>
    if !validateChat value then .error (malformed .newChat)
    else
      match slotFor (s.chatSlot value.id) s.chatCount kStreamMetadataChats
          (tableFull .chats phase kStreamMetadataChats s.chatCount) with
      | .error e => .error e
      | .ok slot =>
        if identityChanged s slot kind value.relatedId
            || conflictingChat s slot kind value.relatedId then .error (malformed .newChat)
        else if 2 ^ 32 - 1 < chatIncoming value then
          .error (arenaFull phase (chatIncoming value))
        else storeChat s slot value kind (chatIncoming value) phase

/-- `apply_buffered_chat`: the checks of a chat that was buffered with its
kind already known. -/
def applyBufferedChat (s : Metadata) (kind : ChatKind) (value : TdChat)
    (phase : StreamMetadataPhase) : Except StreamFailure Metadata :=
  if !validInt53 value.id || !validUserId value.relatedId || !validUtf8 value.title
      || decide (kStreamRawChatLists < value.chatLists.length) || !value.chatLists.all validList
      || decide (value.unreadCount < 0) || decide (value.unreadMentionCount < 0)
      || decide (value.unreadReactionCount < 0) || decide (value.unreadPollVoteCount < 0) then
    .error (malformed .newChat)
  else
    match slotFor (s.chatSlot value.id) s.chatCount kStreamMetadataChats
        (tableFull .chats phase kStreamMetadataChats s.chatCount) with
    | .error e => .error e
    | .ok slot =>
      if identityChanged s slot kind value.relatedId
          || conflictingChat s slot kind value.relatedId then .error (malformed .newChat)
      else storeChat s slot value kind (uint32 (chatIncoming value)) phase

/-- The stored text moved behind a title of `titleSize` bytes, inside the
block. -/
def keepText (a : Arena Handle) (handle : Handle) (titleSize : Nat) (message : StoredMessage) :
    Option (Arena Handle) :=
  writeDate
    ((a.moveWithin handle (titleSize + 1) message.textOffset message.textSize).write handle
      (titleSize + 1 + message.textSize) [0])
    handle (titleSize + 2 + message.textSize) message.date

/-- `apply_title`, without the emission at its end: the kept text is moved
behind the new title. -/
def applyTitle (s : Metadata) (id : Int) (title : Bytes) (phase : StreamMetadataPhase) :
    Except StreamFailure Metadata :=
  match s.findChat id with
  | none => .error (malformed .chatTitle)
  | some (slot, chat) =>
    if !validInt53 id || !validUtf8 title then .error (malformed .chatTitle)
    else
      let incoming := title.length + 1
        + match chat.lastMessage with
          | none => 0
          | some message => messageBytes message.textSize message.date
      match prepareMetadataBlock s.arena (.chat slot) (uint32 incoming) phase with
      | .error e => .error e
      | .ok arena =>
        let kept := match chat.lastMessage with
          | none => some arena
          | some message => keepText arena (.chat slot) title.length message
        match kept with
        | none => .error (malformed .chatTitle)
        | some arena => .ok
            { s with
              arena := writeTitle arena (.chat slot) title
              chats := s.chats.insert slot
                { chat with
                  titleSize := uint32 title.length
                  lastMessage := chat.lastMessage.map fun message =>
                    { message with textOffset := uint32 (title.length + 1) } } }

/-- `apply_last_message`, without the emission at its end: the title's bytes
stay where the block is.  A buffered message brings its text apart. -/
def applyLastMessage (s : Metadata) (id : Int) (message : Option TdMessageSummary)
    (messageText : Bytes) (phase : StreamMetadataPhase) : Except StreamFailure Metadata :=
  match s.findChat id with
  | none => .error (malformed .chatLastMessage)
  | some (slot, chat) =>
    let valid := message.all fun message =>
      (validMessage message
          || (message.text.isEmpty && validMessage { message with text := messageText }))
        && message.chatId == id
    if !validInt53 id || !valid then .error (malformed .chatLastMessage)
    else
      let incoming := chat.titleSize + 1
        + match message with
          | none => 0
          | some message => messageBytes messageText.length message.date
      match prepareMetadataBlock s.arena (.chat slot) (uint32 incoming) phase with
      | .error e => .error e
      | .ok arena =>
        let written := match message with
          | none => some arena
          | some message =>
            writeMessage arena (.chat slot) (chat.titleSize + 1) messageText message.date
        match written with
        | none => .error (malformed .chatLastMessage)
        | some arena => .ok
            { s with
              arena := arena
              chats := s.chats.insert slot
                { chat with
                  lastMessage := message.map fun message =>
                    storeMessage message (chat.titleSize + 1) (uint32 messageText.length) } }

/-! ## §10. Updates of a record's own fields. -/

/-- `metadata_chat` (also `require_known_chat`). -/
def metadataChat (s : Metadata) (id : Int) (kind : TdSupportedUpdateKind) :
    Except StreamFailure (Nat × ChatRecord) :=
  if !validInt53 id then .error (.malformed kind .invalidIdentifier)
  else
    match s.findChat id with
    | none => .error (.malformed kind .invalidEntity)
    | some found => .ok found

/-- Store a chat whose texts are unchanged. -/
def Metadata.setChat (s : Metadata) (slot : Nat) (chat : ChatRecord) : Metadata :=
  { s with chats := s.chats.insert slot chat }

/-- A known chat, a check, and the new record. -/
def updateChat (s : Metadata) (id : Int) (kind : TdSupportedUpdateKind)
    (f : ChatRecord → Except StreamFailure ChatRecord) : Except StreamFailure Metadata :=
  match metadataChat s id kind with
  | .error e => .error e
  | .ok (slot, chat) =>
    match f chat with
    | .error e => .error e
    | .ok chat => .ok (s.setChat slot chat)

/-- Add a list that is not there yet. -/
def addList (failure : StreamFailure) (list : TdChatList) (chat : ChatRecord) :
    Except StreamFailure ChatRecord :=
  if chat.lists.contains list then .ok chat
  else if chat.lists.length = kStreamRawChatLists then .error failure
  else .ok { chat with lists := chat.lists ++ [list] }

def removeList (list : TdChatList) (chat : ChatRecord) : ChatRecord :=
  { chat with lists := chat.lists.filter fun item => item != list }

/-- `counter_event`: a count that must not be negative. -/
def applyCounter (s : Metadata) (id : Int) (kind : TdSupportedUpdateKind) (count : Int)
    (set : ChatRecord → ChatRecord) : Except StreamFailure Metadata :=
  updateChat s id kind fun chat =>
    if count < 0 then .error (.malformed kind .invalidCount) else .ok (set chat)

def validNonnegativeInt53 (value : Int) : Bool :=
  decide (0 ≤ value) && decide (value ≤ kMaximumInt53)

/-- A message update names a valid message. -/
def withMessageId (kind : TdSupportedUpdateKind) (messageId : Int)
    (rest : Except StreamFailure Metadata) : Except StreamFailure Metadata :=
  if !validInt53 messageId then .error (.malformed kind .invalidIdentifier) else rest

/-! ## §11. Dispatch. -/

/-- `apply_value`: `emit` is set in the Ready phase. -/
def applyValue (s : Metadata) (value : TdValue) (emit : Bool) : Except StreamFailure Metadata :=
  let phase := if emit then StreamMetadataPhase.active else .bootstrap
  match value with
  | .malformedSupported kind reason => .error (.malformed kind reason)
  | .directConversionError => .error .directConversion
  | .error e => .error (if e.code = 429 then .rateLimited else .tdlibError e.code)
  | .user user => applyUser s user phase
  | .basicGroup group => applyBasicGroup s group phase
  | .supergroup supergroup => applySupergroup s supergroup phase
  | .newChat chat => applyChat s chat phase
  | .chatTitle id title => applyTitle s id title phase
  | .chatLastMessage id message =>
    applyLastMessage s id message ((message.map (·.text)).getD []) phase
  | .chatAddedToList id list =>
    updateChat s id .chatAddedToList fun chat =>
      if !validList list then .error (.malformed .chatAddedToList .invalidChatList)
      else addList (.malformed .chatAddedToList .invalidChatList) list chat
  | .chatRemovedFromList id list =>
    updateChat s id .chatRemovedFromList fun chat =>
      if !validList list then .error (.malformed .chatRemovedFromList .invalidChatList)
      else .ok (removeList list chat)
  | .chatReadInbox id messageId count =>
    updateChat s id .chatReadInbox fun chat =>
      if !validNonnegativeInt53 messageId || decide (count < 0) then
        .error (.malformed .chatReadInbox .invalidCount)
      else .ok { chat with unreadCount := count }
  | .messageMentionRead id messageId count =>
    withMessageId .messageMentionRead messageId
      (applyCounter s id .messageMentionRead count fun c => { c with unreadMentionCount := count })
  | .chatUnreadMentionCount id count =>
    applyCounter s id .chatUnreadMentionCount count fun c => { c with unreadMentionCount := count }
  | .messageUnreadReactions id messageId count =>
    withMessageId .messageUnreadReactions messageId
      (applyCounter s id .messageUnreadReactions count fun c =>
        { c with unreadReactionCount := count })
  | .chatUnreadReactionCount id count =>
    applyCounter s id .chatUnreadReactionCount count fun c =>
      { c with unreadReactionCount := count }
  | .messageContainsUnreadPollVotes id messageId count =>
    withMessageId .messageContainsUnreadPollVotes messageId
      (applyCounter s id .messageContainsUnreadPollVotes count fun c =>
        { c with unreadPollVoteCount := count })
  | .chatUnreadPollVoteCount id count =>
    applyCounter s id .chatUnreadPollVoteCount count fun c =>
      { c with unreadPollVoteCount := count }
  | .chatIsMarkedAsUnread id marked =>
    updateChat s id .chatIsMarkedAsUnread fun chat => .ok { chat with isMarkedUnread := marked }
  | .message kind id =>
    -- without emission the update is not looked at
    if emit then (metadataChat s id kind).map fun _ => s else .ok s
  | .other => .ok s

/-- `Buffered`: an update kept until the current state is known. -/
inductive Buffered where
  | entity (kind : EntityKind) (id : Int) (isBot isChannel : Bool) (usernames : List Bytes)
  | newChat (kind : ChatKind) (chat : TdChat)
  | title (id : Int) (title : Bytes)
  | lastMessage (id : Int) (message : Option TdMessageSummary)
  | listAdded (id : Int) (list : TdChatList)
  | listRemoved (id : Int) (list : TdChatList)
  | readInbox (id messageId count : Int)
  | unreadMention (id count : Int)
  | unreadReaction (id count : Int)
  | unreadPollVote (id count : Int)
  | markedUnread (id : Int) (marked : Bool)
deriving DecidableEq, Repr

/-- A buffered field update: a stored chat and a count that is not negative. -/
def updateBuffered (s : Metadata) (id : Int) (count : Int) (ok : Bool)
    (set : ChatRecord → ChatRecord) : Except StreamFailure Metadata :=
  match s.findChat id with
  | none => .error (malformed .currentStateEntry)
  | some (slot, chat) =>
    if decide (count < 0) || !ok then .error (malformed .currentStateEntry)
    else .ok (s.setChat slot (set chat))

/-- A buffered list update. -/
def updateBufferedList (s : Metadata) (id : Int) (list : TdChatList)
    (kind : TdSupportedUpdateKind) (f : ChatRecord → Except StreamFailure ChatRecord) :
    Except StreamFailure Metadata :=
  match s.findChat id with
  | none => .error (malformed kind)
  | some (slot, chat) =>
    if !validList list then .error (malformed kind)
    else
      match f chat with
      | .error e => .error e
      | .ok chat => .ok (s.setChat slot chat)

def applyBuffered (s : Metadata) (value : Buffered) : Except StreamFailure Metadata :=
  match value with
  | .entity kind id isBot isChannel usernames =>
    applyEntity s kind id isBot isChannel usernames .bootstrap
  | .newChat kind chat => applyBufferedChat s kind chat .bootstrap
  | .title id title => applyTitle s id title .bootstrap
  | .lastMessage id none => applyLastMessage s id none [] .bootstrap
  | .lastMessage id (some message) =>
    -- `stored_message` has no text; the text comes from the bootstrap arena
    applyLastMessage s id (some { message with text := [] }) message.text .bootstrap
  | .listAdded id list =>
    updateBufferedList s id list .chatAddedToList (addList (malformed .chatAddedToList) list)
  | .listRemoved id list =>
    updateBufferedList s id list .chatRemovedFromList fun chat => .ok (removeList list chat)
  | .readInbox id messageId count =>
    updateBuffered s id count (validNonnegativeInt53 messageId) fun c =>
      { c with unreadCount := count }
  | .unreadMention id count =>
    updateBuffered s id count true fun c => { c with unreadMentionCount := count }
  | .unreadReaction id count =>
    updateBuffered s id count true fun c => { c with unreadReactionCount := count }
  | .unreadPollVote id count =>
    updateBuffered s id count true fun c => { c with unreadPollVoteCount := count }
  | .markedUnread id marked =>
    updateBuffered s id 0 true fun c => { c with isMarkedUnread := marked }

end TgCli.Stream
