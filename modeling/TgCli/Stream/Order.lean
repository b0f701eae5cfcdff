/-
  TgCli.Stream.Order — THE QUEUE OF STREAM EVENTS

  `FixedStreamNormalizer::Impl` hands each event to the sink as one item.  The items
  wait in a ring of candidates with an arena of their own: a new chat whose user or
  group is not known yet is FROZEN with its texts and completed when the entity
  comes, and no item behind it is handed out before.

  `publish` is the emission at the end of `apply_value` and the `drain` of `update`;
  it plugs into `TgCli.Stream.Normalizer`.  The candidates stand in a list, oldest
  first, and their blocks are named by their sequences instead of their ring index.
  The JSON writer is the parameter `render`; it gets exactly the data it writes, and
  refuses (`none`) what `writer.valid()` refuses.
-/
import TgCli.Ingress.Hub
import TgCli.Stream.Normalizer

namespace TgCli.Stream

open Tdlib Lib
open Ingress (StreamItemView StreamEventClass)

def kStreamMetadataOrderItems : Nat := 4096

def kStreamMetadataOrderBytes : Nat := 16777216

def kStreamMetadataItemBytes : Nat := 262144

def kBorrowPoison : UInt8 := 0xA5

/-! ## §1. Events. -/

/-- The arguments of `write_summary`. -/
structure Summary where
  id : Int
  kind : ChatKind
  title : Bytes
  isBot : Bool
  usernames : List Bytes
  lists : List TdChatList
  isMarkedUnread : Bool
  unreadCount : Int
  unreadMentionCount : Int
  unreadReactionCount : Int
  unreadPollVoteCount : Int
  lastMessage : Option TdMessageSummary
deriving DecidableEq, Repr

/-- The counters of `counter_event`. -/
inductive Counter where
  | unreadMentionCount | unreadReactionCount | unreadPollVoteCount
deriving DecidableEq, Repr

/-- What an item is rendered from.  A message, edit, reaction or delete event is named by
its sequence; its other data do not concern the queue. -/
inductive Event where
  | identity (id : Int) (title : Bytes) (kind : ChatKind) (isBot : Bool) (usernames : List Bytes)
  | new (chat : Summary)
  | title (id : Int) (title : Bytes)
  | lastMessage (id : Int) (message : Option TdMessageSummary)
  | listAdded (id : Int) (list : TdChatList)
  | listRemoved (id : Int) (list : TdChatList)
  | readInbox (id lastReadInboxMessageId unreadCount : Int)
  | counter (counter : Counter) (id count : Int)
  | markedUnread (id : Int) (isMarkedUnread : Bool)
  | message (kind : TdSupportedUpdateKind) (chatId : Int) (sequence : Nat)
deriving DecidableEq, Repr

/-- The chat of an event. -/
def Event.chatId : Event → Int
  | .identity id _ _ _ _ | .title id _ | .lastMessage id _ | .listAdded id _ | .listRemoved id _
  | .readInbox id _ _ | .counter _ id _ | .markedUnread id _ | .message _ id _ => id
  | .new chat => chat.id

/-- The class of a message update. -/
def messageClass : TdSupportedUpdateKind → StreamEventClass
  | .messageContent | .messageEdited => .edit
  | .messageInteractionInfo | .messageReaction | .messageReactions => .reaction
  | .deleteMessages => .delete
  | _ => .message

def Event.eventClass : Event → StreamEventClass
  | .message kind _ _ => messageClass kind
  | _ => .chat

/-- `stored_message`, with its text. -/
def StoredMessage.summary (message : StoredMessage) (text : Bytes) : TdMessageSummary :=
  { id := message.id, chatId := message.chatId, date := message.date, sender := message.sender
    isOutgoing := message.isOutgoing, topic := message.topic
    contentKind := message.contentKind, text := text }

/-- The summary of a stored or frozen chat with the texts of its block. -/
def summary (chat : ChatRecord) (title text : Bytes) (isBot : Bool) (usernames : List Bytes) :
    Summary :=
  { id := chat.id, kind := chat.kind, title := title
    isBot := chat.kind == .privateChat && isBot, usernames := usernames, lists := chat.lists
    isMarkedUnread := chat.isMarkedUnread, unreadCount := chat.unreadCount
    unreadMentionCount := chat.unreadMentionCount
    unreadReactionCount := chat.unreadReactionCount
    unreadPollVoteCount := chat.unreadPollVoteCount
    lastMessage := chat.lastMessage.map fun message => message.summary text }

/-- The usernames of the entity in `slot`, as `entity_username` reads them. -/
def storedUsernames (a : Arena Handle) (slot : Nat) (entity : EntityRecord) : List Bytes :=
  (List.range entity.usernameCount).map (entityUsername a slot entity)

/-! ## §2. The queue. -/

/-- `Candidate`; `frozen` is the chat it was frozen from. -/
structure Candidate where
  sequence : Nat
  complete : Bool
  charge : Nat
  eventClass : StreamEventClass
  chatId : Int
  frozen : Option ChatRecord
deriving DecidableEq, Repr

structure Order where
  /-- the ring from its head on -/
  candidates : List Candidate
  charged : Nat
  arena : Arena Nat
  barrier : Bool
  /-- what the sink was given -/
  delivered : List StreamItemView

/-- The queue after `begin`. -/
def Order.empty (mem : Mem) : Order :=
  { candidates := [], charged := 0, arena := Arena.fresh mem, barrier := false, delivered := [] }

/-- There is one block a candidate. -/
def orderFuel : Nat := kStreamMetadataOrderItems + 1

def compactOrder (a : Arena Nat) : Arena Nat := a.compact orderFuel

/-- A block with these bytes at the end of the arena. -/
def placeBlock (a : Arena Nat) (sequence : Nat) (bytes : Bytes) : Arena Nat :=
  (Arena.append { a.resize sequence a.used bytes.length with used := a.used + bytes.length }
    sequence).write sequence 0 bytes

def reserveCandidate (o : Order) (charge : Nat) : Bool :=
  decide (o.candidates.length ≠ kStreamMetadataOrderItems)
    && decide (o.charged + charge ≤ kStreamMetadataOrderBytes)

/-- The common end of `append_rendered` and `append_frozen`. -/
def pushCandidate (o : Order) (candidate : Candidate) (bytes : Bytes) : Option Order :=
  if !reserveCandidate o candidate.charge then none
  else if kStreamMetadataItemBytes < bytes.length then none
  else
    let arena := compactOrder o.arena
    if kStreamMetadataOrderBytes - arena.used < bytes.length then none
    else some
      { o with
        candidates := o.candidates ++ [candidate]
        charged := o.charged + candidate.charge
        arena := placeBlock arena candidate.sequence bytes
        barrier := true }

section Rendered

variable (render : Event → Option Bytes)

/-- The line of an event. -/
def renderLine (event : Event) : Option Bytes := (render event).map fun text => text ++ [10]

def appendRendered (o : Order) (sequence : Nat) (event : Event) : Option Order :=
  match renderLine render event with
  | none => none
  | some line =>
    pushCandidate o
      { sequence := sequence, complete := true, charge := line.length
        eventClass := event.eventClass, chatId := event.chatId, frozen := none } line

/-- `append_frozen`: the block of the chat is copied as it is. -/
def appendFrozen (o : Order) (sequence : Nat) (chat : ChatRecord) (block : Bytes) : Option Order :=
  pushCandidate o
    { sequence := sequence, complete := false, charge := kStreamMetadataItemBytes
      eventClass := .chat, chatId := chat.id, frozen := some chat } block

def frozenTitle (a : Arena Nat) (sequence : Nat) (chat : ChatRecord) : Bytes :=
  a.slice sequence 0 chat.titleSize

def frozenMessageText (a : Arena Nat) (sequence : Nat) (chat : ChatRecord) : Bytes :=
  match chat.lastMessage with
  | none => []
  | some message => a.slice sequence message.textOffset message.textSize

/-- An entity with its usernames. -/
structure NamedEntity where
  kind : EntityKind
  id : Int
  isBot : Bool
  isChannel : Bool
  usernames : List Bytes
deriving DecidableEq, Repr

/-- The frozen chat of a candidate that waits for the entity. -/
def Candidate.waitsFor (candidate : Candidate) (kind : EntityKind) (id : Int) : Option ChatRecord :=
  if candidate.complete then none
  else candidate.frozen.filter fun chat =>
    chat.relatedId == id && entityKind chat.kind == some kind

/-- `complete_frozen` for one candidate: the rendered line takes the place of the block. -/
def completeCandidate (a : Arena Nat) (candidate : Candidate) (chat : ChatRecord)
    (entity : NamedEntity) : Option (Arena Nat × Candidate) :=
  if (chat.kind = .channel ∧ entity.isChannel = false)
      ∨ (chat.kind = .supergroup ∧ entity.isChannel = true) then none
  else
    match renderLine render (.new (summary chat (frozenTitle a candidate.sequence chat)
        (frozenMessageText a candidate.sequence chat) entity.isBot entity.usernames)) with
    | none => none
    | some line =>
      if kStreamMetadataItemBytes < line.length then none
      else some
        (placeBlock (compactOrder (a.unlink candidate.sequence)) candidate.sequence line,
          { candidate with charge := line.length, complete := true })

def completeFrozen (a : Arena Nat) (charged : Nat) (entity : NamedEntity) :
    List Candidate → Option (List Candidate × Arena Nat × Nat)
  | [] => some ([], a, charged)
  | candidate :: rest =>
    match candidate.waitsFor entity.kind entity.id with
    | none =>
      (completeFrozen a charged entity rest).map fun result =>
        (candidate :: result.1, result.2)
    | some chat =>
      match completeCandidate render a candidate chat entity with
      | none => none
      | some (a, done) =>
        (completeFrozen a (charged - candidate.charge + done.charge) entity rest).map
          fun result => (done :: result.1, result.2)

/-- The item of a candidate with these bytes: two spans of them. -/
def Candidate.item (candidate : Candidate) (bytes : Bytes) : StreamItemView :=
  { first := bytes.take (bytes.length / 2), second := bytes.drop (bytes.length / 2)
    receiveSequence := candidate.sequence
    routing := { eventClass := candidate.eventClass, chatId := candidate.chatId } }

/-- The head of the queue goes to the sink. -/
def deliver (o : Order) (candidate : Candidate) : Order :=
  { o with
    delivered := o.delivered ++ [candidate.item (o.arena.content candidate.sequence)]
    charged := o.charged - candidate.charge
    arena := ((o.arena.write candidate.sequence 0
        (List.replicate (o.arena.size candidate.sequence) kBorrowPoison)).unlink
      candidate.sequence).resize candidate.sequence 0 0 }

/-- The loop of `drain`: it ends at a candidate that is not complete. -/
def drainLoop (o : Order) : List Candidate → Order
  | [] => { o with candidates := [] }
  | candidate :: rest =>
    if candidate.complete then drainLoop (deliver o candidate) rest
    else { o with candidates := candidate :: rest }

def drain (o : Order) : Order :=
  let o := drainLoop o o.candidates
  let arena := compactOrder o.arena
  if o.candidates.isEmpty then
    { o with
      arena := { arena with links := { arena.links with head := none, tail := none }, used := 0 }
      barrier := false }
  else { o with arena := arena }

/-! ## §3. What an update emits. -/

/-- Where a slot search ended. -/
def slotIndex : Slot → Nat
  | .found slot | .free slot => slot
  | .full => 0

/-- The entity an update brings. -/
def TdValue.entity : TdValue → Option NamedEntity
  | .user value => some
      { kind := .user, id := value.id, isBot := value.isBot, isChannel := false
        usernames := value.usernames }
  | .basicGroup group => some
      { kind := .basicGroup, id := group.id, isBot := false, isChannel := false, usernames := [] }
  | .supergroup group => some
      { kind := .supergroup, id := group.id, isBot := false, isChannel := group.isChannel
        usernames := group.usernames }
  | _ => none

/-- `find_entity`, with the slot. -/
def Metadata.findEntitySlot (s : Metadata) (kind : EntityKind) (id : Int) :
    Option (Nat × EntityRecord) :=
  match s.entitySlot kind id with
  | .found slot => (s.entities.lookup slot).map fun entity => (slot, entity)
  | _ => none

/-- The entity stored under a key, with the usernames that are read from the arena. -/
def Metadata.storedEntity (s : Metadata) (kind : EntityKind) (id : Int) : Option NamedEntity :=
  (s.findEntitySlot kind id).map fun found =>
    { kind := kind, id := id, isBot := found.2.isBot, isChannel := found.2.isChannel
      usernames := storedUsernames s.arena found.1 found.2 }

/-- `related` of `apply_entity`: the chat of the entity, with its slot. -/
def Metadata.relatedChat (s : Metadata) (kind : EntityKind) (id : Int) :
    Option (Nat × ChatRecord) :=
  (s.chats.entries.find? fun entry =>
    entry.2.kind != .secret && entry.2.relatedId == id && entityKind entry.2.kind == some kind).map
      fun entry => (entry.1, entry.2)

/-- The emission of `apply_entity`: frozen chats are completed, and the known chat of an
entity that `changed` gets an event. -/
def emitEntity (o : Order) (before after : Metadata) (sequence : Nat) (entity : NamedEntity) :
    Option Order :=
  -- the names are read back from the arena, where the update just wrote them
  let stored : NamedEntity :=
    { entity with
      usernames := storedUsernames after.arena (slotIndex (before.entitySlot entity.kind entity.id))
        { kind := entity.kind, id := entity.id, isBot := entity.isBot
          isChannel := entity.isChannel, usernameCount := entity.usernames.length } }
  match completeFrozen render o.arena o.charged stored o.candidates with
  | none => none
  | some (candidates, arena, charged) =>
    let o := { o with candidates := candidates, arena := arena, charged := charged }
    match before.relatedChat entity.kind entity.id with
    | none => some o
    | some (slot, chat) =>
      if before.storedEntity entity.kind entity.id = some entity then some o
      else
        appendRendered render o sequence
          (.identity chat.id (chatTitle after.arena slot chat) chat.kind
            (chat.kind == .privateChat && stored.isBot) stored.usernames)

/-- The emission of `apply_chat`. -/
def emitNewChat (o : Order) (before after : Metadata) (sequence : Nat) (value : TdChat)
    (kind : ChatKind) : Option Order :=
  match entityKind kind with
  | none => some o
  | some entity =>
    let slot := slotIndex (before.chatSlot value.id)
    let chat := chatRecord value kind
    match after.findEntitySlot entity value.relatedId with
    | none => appendFrozen o sequence chat (after.arena.content (.chat slot))
    | some (entitySlot, entity) =>
      if !compatible chat entity then none
      else
        appendRendered render o sequence
          (.new (summary chat (chatTitle after.arena slot chat)
            (chatMessageText after.arena slot chat) entity.isBot
            (storedUsernames after.arena entitySlot entity)))

/-- The emission of the updates of a known chat. -/
def emitChat (o : Order) (before : Metadata) (sequence : Nat) (event : Event) : Option Order :=
  match before.findChat event.chatId with
  | none => none
  | some (_, chat) =>
    if chat.kind = .secret then some o else appendRendered render o sequence event

/-- The event of an update of a known chat. -/
def TdValue.event (sequence : Nat) : TdValue → Option Event
  | .chatTitle id title => some (.title id title)
  | .chatLastMessage id last => some (.lastMessage id last)
  | .chatAddedToList id list => some (.listAdded id list)
  | .chatRemovedFromList id list => some (.listRemoved id list)
  | .chatReadInbox id messageId count => some (.readInbox id messageId count)
  | .messageMentionRead id _ count | .chatUnreadMentionCount id count =>
    some (.counter .unreadMentionCount id count)
  | .messageUnreadReactions id _ count | .chatUnreadReactionCount id count =>
    some (.counter .unreadReactionCount id count)
  | .messageContainsUnreadPollVotes id _ count | .chatUnreadPollVoteCount id count =>
    some (.counter .unreadPollVoteCount id count)
  | .chatIsMarkedAsUnread id marked => some (.markedUnread id marked)
  | .message kind id => some (.message kind id sequence)
  | _ => none

/-- What `apply_value` emits for an update it accepted. -/
def emit (o : Order) (before after : Metadata) (sequence : Nat) (value : TdValue) : Option Order :=
  match value with
  | .newChat chat =>
    match chatKind chat.kind with
    | none => none
    | some kind => emitNewChat render o before after sequence chat kind
  | value =>
    match value.entity with
    | some entity => emitEntity render o before after sequence entity
    | none =>
      match value.event sequence with
      | some event => emitChat render o before sequence event
      | none => some o

/-- The emission of an update, and `drain`. -/
def publish (o : Order) (before after : Metadata) (sequence : Nat) (value : TdValue) :
    Option Order :=
  (emit render o before after sequence value).map drain

end Rendered

end TgCli.Stream
