/-
  TgCli.Stream.Candidates — WHAT CHANGES LEAVE IN PLACE, AND WHAT HAPPENS TO A QUEUED EVENT

  Whatever texts the updates carry, the blocks of the metadata arena stay in order and
  every stored entity is found by its search (`Layout`).  Unlike `Inv` of
  `TgCli.Stream.Texts` this needs nothing about the lengths of the texts.

  Specifications of the queue operations of `TgCli.Stream.Order`.  Each candidate has
  a block in the order arena (`Blocks`); appending, completing and draining keep the
  bytes of every other block, although blocks move whenever the arena is compacted.

  Main results:
    * `applyValue_layout`, `step_layout` — no update breaks the layout;
    * `applyEntity_unknown` — an entity stays unknown until its own update;
    * `pushCandidate_spec` — a candidate is queued at the end;
    * `completeFrozen_spec` — a frozen chat is rendered from its own texts;
    * `drain_spec` — the complete candidates before the first incomplete one go out.
-/
import TgCli.Stream.Order
import TgCli.Stream.Steps

namespace TgCli.Stream

open Tdlib Lib Metadata List Option

/-! ## §1. Writes move no block. -/

/-- The same blocks at the same places. -/
def SameBlocks (a b : Arena Handle) : Prop := b = { a with mem := b.mem }

section Layout

variable {a b : Arena Handle} {handle : Handle} {s s' : Metadata} {slot : Nat} {value : TdChat}
  {phase : StreamMetadataPhase} {id : Int} {kind : EntityKind} {isBot isChannel : Bool}
  {usernames : List Bytes}

theorem SameBlocks.trans (h : SameBlocks a b) (h' : SameBlocks b c) : SameBlocks a c := by
  unfold SameBlocks at h h' ⊢
  rw [h', h]

theorem ArenaOk.sameBlocks (hok : ArenaOk a) (h : SameBlocks a b) : ArenaOk b := by
  obtain ⟨hused, order, hval, hin⟩ := hok
  rw [show b = { a with mem := b.mem } from h]
  exact ⟨hused, order, hval.with_mem _, hin⟩

theorem sameBlocks_writeDate (h : writeDate a handle pos date = some b) : SameBlocks a b := by
  unfold writeDate at h
  split at h
  · obtain ⟨bytes, -, rfl⟩ := Option.map_eq_some_iff.mp h
    rfl
  · cases h
    rfl

theorem sameBlocks_writeMessage
    (h : writeMessage a handle pos text date = some b) : SameBlocks a b :=
  SameBlocks.trans (b := (a.write handle pos text).write handle (pos + text.length) [0]) rfl
    (sameBlocks_writeDate h)

theorem sameBlocks_keepText (h : keepText a handle titleSize message = some b) : SameBlocks a b :=
  SameBlocks.trans
    (b := (a.moveWithin handle (titleSize + 1) message.textOffset message.textSize).write handle
      (titleSize + 1 + message.textSize) [0]) rfl (sameBlocks_writeDate h)

theorem sameBlocks_writeUsernames (names : List Bytes) :
    ∀ (a : Arena Handle) (pos : Nat), SameBlocks a (writeUsernames a handle pos names) := by
  induction names with
  | nil => intro a pos; rfl
  | cons name names ih =>
    intro a pos
    exact SameBlocks.trans
      (b := (a.write handle pos name).write handle (pos + name.length) [0]) rfl (ih _ _)

/-! ## §2. Changes of a chat. -/

/-- **The layout of the tables.** -/
structure Layout (s : Metadata) : Prop where
  arena : ArenaOk s.arena
  entities : Probe.Reach s.entityKeys entityStart kStreamMetadataEntities

/-- Only the block of one chat was given another size and other bytes. -/
def Rewrites (s s' : Metadata) : Prop :=
  s'.entities = s.entities
    ∧ ∃ slot incoming phase arena, slot < kStreamMetadataChats
      ∧ prepareMetadataBlock s.arena (.chat slot) incoming phase = .ok arena
      ∧ SameBlocks arena s'.arena

theorem layout_congr (h : Layout s) (hents : s'.entities = s.entities)
    (harena : ArenaOk s'.arena) : Layout s' := by
  refine ⟨harena, ?_⟩
  have hkeys : s'.entityKeys = s.entityKeys := by
    funext slot
    unfold entityKeys
    rw [hents]
  rw [hkeys]
  exact h.entities

theorem Rewrites.layout (h : Rewrites s s') (hs : Layout s) : Layout s' := by
  obtain ⟨hents, slot, incoming, phase, arena, hslot, hprep, hsame⟩ := h
  obtain ⟨hok, -, -, -⟩ :=
    prepareMetadataBlock_spec hs.arena (show (Handle.chat slot).InTable from hslot) hprep
  exact layout_congr hs hents (hok.sameBlocks hsame)

theorem storeChat_rewrites {kind : ChatKind} {incoming : Nat} (hslot : slot < kStreamMetadataChats)
    (h : storeChat s slot value kind incoming phase = .ok s') : Rewrites s s' := by
  unfold storeChat at h
  split at h
  · cases h
  rename_i arena harena
  simp only at h
  split at h
  · cases h
  rename_i written hwrit
  cases h
  refine ⟨rfl, slot, incoming, phase, arena, hslot, harena, ?_⟩
  have htitle : SameBlocks arena (writeTitle arena (.chat slot) value.title) := rfl
  cases hm : value.lastMessage with
  | none =>
    rw [hm] at hwrit
    cases hwrit
    exact htitle
  | some message =>
    rw [hm] at hwrit
    exact htitle.trans (sameBlocks_writeMessage hwrit)

theorem applyChat_rewrites (h : applyChat s value phase = .ok s') : Rewrites s s' := by
  obtain ⟨kind, slot, -, hslot, hsto⟩ := applyChat_ok h
  exact storeChat_rewrites (chat_inTable hslot) hsto

theorem findChat_lt (h : s.findChat id = some (slot, chat)) : slot < kStreamMetadataChats :=
  chat_inTable (.inl (findChat_some h).1)

theorem applyTitle_rewrites (h : applyTitle s id title phase = .ok s') : Rewrites s s' := by
  unfold applyTitle at h
  split at h
  · cases h
  rename_i slot chat hfound
  split at h
  · cases h
  simp only at h
  split at h
  · cases h
  rename_i arena harena
  split at h
  · cases h
  rename_i kept hkept
  cases h
  refine ⟨rfl, slot, _, phase, arena, findChat_lt hfound, harena, ?_⟩
  have htitle : SameBlocks kept (writeTitle kept (.chat slot) title) := rfl
  refine SameBlocks.trans ?_ htitle
  cases hm : chat.lastMessage with
  | none =>
    rw [hm] at hkept
    injection hkept with hkept
    rw [hkept]
    rfl
  | some message =>
    rw [hm] at hkept
    exact sameBlocks_keepText hkept

theorem applyLastMessage_rewrites
    (h : applyLastMessage s id message text phase = .ok s') : Rewrites s s' := by
  unfold applyLastMessage at h
  split at h
  · cases h
  rename_i slot chat hfound
  simp only at h
  split at h
  · cases h
  split at h
  · cases h
  rename_i arena harena
  split at h
  · cases h
  rename_i written hwrit
  cases h
  refine ⟨rfl, slot, _, phase, arena, findChat_lt hfound, harena, ?_⟩
  cases message with
  | none =>
    cases hwrit
    rfl
  | some message => exact sameBlocks_writeMessage hwrit

/-! ## §3. Entities. -/

theorem applyEntity_layout (hs : Layout s)
    (h : applyEntity s kind id isBot isChannel usernames phase = .ok s') : Layout s' := by
  obtain ⟨slot, arena, count, -, hslot, hprep, rfl⟩ := applyEntity_ok h
  obtain ⟨hok, -, -, -⟩ :=
    prepareMetadataBlock_spec hs.arena (entity_inTable hslot) hprep
  refine ⟨hok.sameBlocks (sameBlocks_writeUsernames _ _ _), ?_⟩
  rw [entityKeys_insert rfl]
  exact reach_store hs.entities hslot

theorem findEntity_congr (h : s'.entities = s.entities) (kind : EntityKind)
    (id : Int) : s'.findEntity kind id = s.findEntity kind id := by
  unfold findEntity entitySlot entityKeys
  rw [h]

/-- An entity that is stored is found. -/
theorem Layout.known (h : Layout s) (hlook : s.entities.lookup slot = some entity) :
    s.findEntity entity.kind entity.id = some entity := by
  have hfound := h.entities slot (entity.kind, entity.id) (by
    unfold entityKeys
    rw [hlook]
    rfl)
  unfold findEntity entitySlot
  rw [hfound]
  exact hlook

/-- An entity that is found is stored under its key. -/
theorem findEntity_some (h : s.findEntity kind id = some entity) :
    entity.kind = kind ∧ entity.id = id ∧ ∃ slot, s.entities.lookup slot = some entity := by
  unfold findEntity at h
  split at h
  next slot hslot =>
    have hkey := Probe.slotOf_found hslot
    unfold entityKeys at hkey
    rw [h] at hkey
    injection hkey with hkey
    injection hkey with hkind hid
    exact ⟨hkind, hid, slot, h⟩
  · cases h

/-- **An entity stays unknown until its own update.** -/
theorem applyEntity_unknown (hs : Layout s)
    (h : applyEntity s kind id isBot isChannel usernames phase = .ok s')
    (hne : ¬ (other = kind ∧ otherId = id)) (hunk : s.findEntity other otherId = none) :
    s'.findEntity other otherId = none := by
  cases hfound : s'.findEntity other otherId with
  | none => rfl
  | some entity =>
    obtain ⟨rfl, rfl, j, hlook⟩ := findEntity_some hfound
    obtain ⟨slot, arena, count, -, -, -, rfl⟩ := applyEntity_ok h
    by_cases hj : j = slot
    · subst hj
      rw [AList.lookup_insert] at hlook
      cases hlook
      exact absurd ⟨rfl, rfl⟩ hne
    · rw [AList.lookup_insert_ne hj] at hlook
      rw [hs.known hlook] at hunk
      cases hunk

/-! ## §4. Every change. -/

/-- A change that is not of an entity. -/
def Keeps (s s' : Metadata) : Prop := Layout s' ∧ s'.entities = s.entities

theorem Rewrites.keeps (h : Rewrites s s') (hs : Layout s) : Keeps s s' :=
  ⟨h.layout hs, h.1⟩

section Layout

variable (hs : Layout s)
include hs

theorem keeps_setChat (slot : Nat) (chat : ChatRecord) : Keeps s (s.setChat slot chat) :=
  ⟨layout_congr hs rfl hs.arena, rfl⟩

theorem updateChat_keeps {kind : TdSupportedUpdateKind}
    {f : ChatRecord → Except StreamFailure ChatRecord}
    (h : updateChat s id kind f = .ok s') : Keeps s s' := by
  obtain ⟨slot, chat, chat', -, -, rfl⟩ := updateChat_ok h
  exact keeps_setChat hs slot chat'

/-- An update that brings an entity applies it; any other leaves the entities alone. -/
theorem applyValue_cases {value : TdValue} {emit : Bool}
    (h : applyValue s value emit = .ok s') :
    (∃ entity, value.entity = some entity
        ∧ applyEntity s entity.kind entity.id entity.isBot entity.isChannel entity.usernames
          (if emit then .active else .bootstrap) = .ok s')
      ∨ (value.entity = none ∧ Keeps s s') := by
  unfold applyValue at h
  cases value with
  | malformedSupported kind reason => cases h
  | directConversionError => cases h
  | error e => cases h
  | user user | supergroup group => exact .inl ⟨_, rfl, h⟩
  | basicGroup group =>
    simp only [applyBasicGroup] at h
    split at h
    · cases h
    · exact .inl ⟨_, rfl, h⟩
  | newChat chat => exact .inr ⟨rfl, (applyChat_rewrites h).keeps hs⟩
  | chatTitle id title => exact .inr ⟨rfl, (applyTitle_rewrites h).keeps hs⟩
  | chatLastMessage id message => exact .inr ⟨rfl, (applyLastMessage_rewrites h).keeps hs⟩
  | chatAddedToList id list | chatRemovedFromList id list | chatReadInbox id messageId count
  | chatUnreadPollVoteCount id count | chatIsMarkedAsUnread id marked =>
    exact .inr ⟨rfl, updateChat_keeps hs h⟩
  | messageMentionRead id messageId count | messageUnreadReactions id messageId count
  | messageContainsUnreadPollVotes id messageId count =>
    exact .inr ⟨rfl, updateChat_keeps hs (withMessageId_ok h)⟩
  | chatUnreadMentionCount id count | chatUnreadReactionCount id count =>
    exact .inr ⟨rfl, updateChat_keeps hs h⟩
  | message kind id =>
    refine .inr ⟨rfl, ?_⟩
    cases emit with
    | false =>
      cases h
      exact ⟨hs, rfl⟩
    | true =>
      simp only [if_true] at h
      cases hchat : metadataChat s id kind with
      | error e => rw [hchat] at h; exact absurd h (by simp [Except.map])
      | ok found =>
        rw [hchat] at h
        cases h
        exact ⟨hs, rfl⟩
  | other =>
    cases h
    exact .inr ⟨rfl, hs, rfl⟩

theorem applyValue_layout {value : TdValue} {emit : Bool}
    (h : applyValue s value emit = .ok s') : Layout s' := by
  rcases applyValue_cases hs h with ⟨entity, -, happly⟩ | ⟨-, hkeeps⟩
  · exact applyEntity_layout hs happly
  · exact hkeeps.1

theorem applyBuffered_layout (h : applyBuffered s item = .ok s') : Layout s' := by
  unfold applyBuffered at h
  cases item with
  | entity kind id isBot isChannel usernames => exact applyEntity_layout hs h
  | newChat kind chat =>
    obtain ⟨slot, hslot, hsto⟩ := applyBufferedChat_ok h
    exact (storeChat_rewrites (chat_inTable hslot) hsto).layout hs
  | title id title => exact (applyTitle_rewrites h).layout hs
  | lastMessage id message =>
    cases message with
    | none | some message => exact (applyLastMessage_rewrites h).layout hs
  | listAdded id list | listRemoved id list =>
    obtain ⟨slot, chat, chat', -, -, rfl⟩ := updateBufferedList_ok h
    exact (keeps_setChat hs slot chat').1
  | readInbox id messageId count | unreadMention id count | unreadReaction id count
  | unreadPollVote id count | markedUnread id marked =>
    obtain ⟨slot, chat, -, rfl⟩ := updateBuffered_ok h
    exact (keeps_setChat hs slot _).1

end Layout

theorem applyChanges_layout (changes : List Change) :
    ∀ (s s' : Metadata), Layout s → applyChanges s changes = .ok s' → Layout s' := by
  induction changes with
  | nil =>
    intro s s' hs h
    cases h
    exact hs
  | cons change changes ih =>
    intro s s' hs h
    rw [applyChanges] at h
    cases hchn : applyChange s change with
    | error e => rw [hchn] at h; cases h
    | ok s1 =>
      rw [hchn] at h
      refine ih s1 s' ?_ h
      cases change with
      | value value emit => exact applyValue_layout hs hchn
      | buffered item => exact applyBuffered_layout hs hchn

variable {ω : Type} {publish : ω → Metadata → Metadata → Nat → TdValue → Option ω}

/-- **No step of the normalizer breaks the layout.** -/
theorem step_layout {n n' : Normalizer ω} (hs : Layout n.metadata)
    (h : step publish n input = .ok n') : Layout n'.metadata :=
  applyChanges_layout _ _ _ hs (step_changes publish h)

open Ingress (StreamItemView)

end Layout

/-! ## §5. Blocks of the candidates. -/

/-- The arena holds one block for each of these sequences. -/
def Blocks (a : Arena Nat) (keys : List Nat) : Prop :=
  ∃ order, a.Valid order ∧ order.Perm keys

/-- The sequences of the queue. -/
def sequences (candidates : List Candidate) : List Nat := candidates.map Candidate.sequence

variable {a : Arena Nat} {keys : List Nat} {k : Nat} {bytes : Bytes}

theorem Blocks.nodup (h : Blocks a keys) : keys.Nodup := by
  obtain ⟨order, hval, hperm⟩ := h
  exact hperm.nodup_iff.mp hval.represents.nodup

theorem blocks_compactOrder (h : Blocks a keys) (hsh : keys.length ≤ kStreamMetadataOrderItems) :
    Blocks (compactOrder a) keys ∧ ∀ k, (compactOrder a).content k = a.content k := by
  obtain ⟨order, hval, hperm⟩ := h
  have hlen := hperm.length_eq
  obtain ⟨hcpt, hcont⟩ := hval.sparse.compact
    (show order.length < orderFuel by unfold orderFuel; omega)
  exact ⟨⟨order, hcpt, hperm⟩, hcont⟩

/-- A block for a new sequence. -/
theorem blocks_placeBlock (h : Blocks a keys) (hk : k ∉ keys) (hbytes : bytes ≠ []) :
    Blocks (placeBlock a k bytes) (keys ++ [k]) ∧ (placeBlock a k bytes).content k = bytes
      ∧ ∀ j, j ≠ k → (placeBlock a k bytes).content j = a.content j := by
  obtain ⟨order, hval, hperm⟩ := h
  obtain ⟨hplaced, hself, hoths⟩ :=
    (hval.detached fun hmem => hk (hperm.mem_iff.mp hmem)).place hbytes
  exact ⟨⟨order ++ [k], hplaced, hperm.append_right [k]⟩, hself, hoths⟩

/-- A block that gets new bytes at the end of the arena. -/
theorem blocks_replace (h : Blocks a keys) (hsh : keys.length ≤ kStreamMetadataOrderItems)
    (hk : k ∈ keys) (hbytes : bytes ≠ []) :
    let b := placeBlock (compactOrder (a.unlink k)) k bytes
    Blocks b keys ∧ b.content k = bytes ∧ ∀ j, j ≠ k → b.content j = a.content j := by
  intro b
  obtain ⟨order, hval, hperm⟩ := h
  have hlen := hperm.length_eq
  obtain ⟨xs, ys, rfl⟩ := append_of_mem (hperm.mem_iff.mpr hk)
  obtain ⟨hdetached, hkept⟩ := hval.takeOut
    (show (xs ++ k :: ys).length < orderFuel by unfold orderFuel; omega)
  obtain ⟨hplaced, hself, hoths⟩ := hdetached.place hbytes
  refine ⟨⟨xs ++ ys ++ [k], hplaced, ?_⟩, hself, fun j hj => (hoths j hj).trans (hkept j hj)⟩
  refine List.Perm.trans ?_ hperm
  rw [append_assoc]
  exact (show (ys ++ [k]).Perm ([k] ++ ys) from perm_append_comm).append_left xs

/-! ## §6. Appending. -/

theorem pushCandidate_spec {o o' : Order} {c : Candidate}
    (hblk : Blocks o.arena (sequences o.candidates))
    (hsh : o.candidates.length ≤ kStreamMetadataOrderItems)
    (hfresh : c.sequence ∉ sequences o.candidates) (hbytes : bytes ≠ [])
    (h : pushCandidate o c bytes = some o') :
    o'.candidates = o.candidates ++ [c] ∧ o'.delivered = o.delivered ∧ o'.barrier = true
      ∧ o'.candidates.length ≤ kStreamMetadataOrderItems
      ∧ Blocks o'.arena (sequences o'.candidates)
      ∧ o'.arena.content c.sequence = bytes
      ∧ ∀ k, k ≠ c.sequence → o'.arena.content k = o.arena.content k := by
  unfold pushCandidate at h
  split at h
  · cases h
  rename_i hres
  split at h
  · cases h
  simp only at h
  split at h
  · cases h
  injection h with h
  obtain ⟨hcpt, hcont⟩ := blocks_compactOrder hblk
    (by unfold sequences; rw [length_map]; exact hsh)
  obtain ⟨hplaced, hself, hoths⟩ := blocks_placeBlock hcpt hfresh hbytes
  have hroom : o.candidates.length ≠ kStreamMetadataOrderItems := by
    unfold reserveCandidate at hres
    simp only [Bool.not_eq_true', Bool.and_eq_false_iff, decide_eq_false_iff_not, not_or,
      not_not] at hres
    exact hres.1
  rw [← h]
  refine ⟨rfl, rfl, rfl, ?_, ?_, hself, fun k hk => (hoths k hk).trans (hcont k)⟩
  · show (o.candidates ++ [c]).length ≤ _
    rw [length_append, length_singleton]
    omega
  · show Blocks _ (sequences (o.candidates ++ [c]))
    unfold sequences at hplaced ⊢
    rw [map_append]
    exact hplaced

/-! ## §7. Completing a frozen chat. -/

/-- The block of a chat with the texts of its own update. -/
structure OwnBlock (value : TdChat) (block : Bytes) : Prop where
  titleFits : value.title.length ≤ block.length
  title : block.take value.title.length = value.title
  textFits : ∀ message, value.lastMessage = some message →
    value.title.length + 1 + message.text.length ≤ block.length
  text : ∀ message, value.lastMessage = some message →
    (block.drop (value.title.length + 1)).take message.text.length = message.text

/-- **The summary of a chat as its own update brings it**, with the names of an entity. -/
def ownSummary (value : TdChat) (kind : ChatKind) (isBot : Bool) (usernames : List Bytes) :
    Summary :=
  { id := value.id, kind := kind, title := value.title
    isBot := kind == .privateChat && isBot, usernames := usernames, lists := value.chatLists
    isMarkedUnread := value.isMarkedUnread, unreadCount := value.unreadCount
    unreadMentionCount := value.unreadMentionCount
    unreadReactionCount := value.unreadReactionCount
    unreadPollVoteCount := value.unreadPollVoteCount, lastMessage := value.lastMessage }

theorem summary_chatRecord (value : TdChat) (kind : ChatKind) (isBot : Bool)
    (usernames : List Bytes) :
    summary (chatRecord value kind) value.title (messageText value.lastMessage) isBot usernames
      = ownSummary value kind isBot usernames := by
  unfold summary ownSummary chatRecord
  cases hm : value.lastMessage with
  | none => rfl
  | some message => rfl

theorem frozenTitle_own
    (h : OwnBlock value (a.content k)) : frozenTitle a k (chatRecord value kind) = value.title := by
  have hfits := h.titleFits
  rw [Arena.content_length] at hfits
  show a.slice k 0 value.title.length = value.title
  rw [Arena.slice_content a k (by omega), drop_zero]
  exact h.title

theorem frozenMessageText_own (h : OwnBlock value (a.content k)) :
    frozenMessageText a k (chatRecord value kind) = messageText value.lastMessage := by
  unfold frozenMessageText chatRecord
  cases hm : value.lastMessage with
  | none => rfl
  | some message =>
    have hfits := h.textFits message hm
    rw [Arena.content_length] at hfits
    show a.slice k (value.title.length + 1) message.text.length = message.text
    rw [Arena.slice_content a k hfits]
    exact h.text message hm

section Rendered

variable {render : Event → Option Bytes}

theorem renderLine_ne_nil (h : renderLine render event = some line) : line ≠ [] := by
  obtain ⟨text, -, rfl⟩ := map_eq_some_iff.mp h
  simp

/-- The candidate was completed from its own texts. -/
def Completed (render : Event → Option Bytes) (a a' : Arena Nat) (entity : NamedEntity)
    (c c' : Candidate) : Prop :=
  c'.complete = true ∧ ∀ value kind, c.frozen = some (chatRecord value kind) →
    OwnBlock value (a.content c.sequence) →
    renderLine render (.new (ownSummary value kind entity.isBot entity.usernames))
      = some (a'.content c.sequence)

/-- What `complete_frozen` does to a candidate. -/
structure Advances (render : Event → Option Bytes) (a a' : Arena Nat) (entity : NamedEntity)
    (c c' : Candidate) : Prop where
  sequence : c'.sequence = c.sequence
  chatId : c'.chatId = c.chatId
  eventClass : c'.eventClass = c.eventClass
  frozen : c'.frozen = c.frozen
  kept : c.waitsFor entity.kind entity.id = none →
    c' = c ∧ a'.content c.sequence = a.content c.sequence
  completed : c.waitsFor entity.kind entity.id ≠ none → Completed render a a' entity c c'

variable {a : Arena Nat} {entity : NamedEntity} {c : Candidate}

/-- Only the bytes of the candidate's own block matter. -/
theorem Advances.congr (h : Advances render b a' entity c c')
    (hsame : b.content c.sequence = a.content c.sequence) : Advances render a a' entity c c' where
  __ := h
  kept := fun hnone => ⟨(h.kept hnone).1, (h.kept hnone).2.trans hsame⟩
  completed := fun hne => ⟨(h.completed hne).1, fun value kind hvalue hown =>
    (h.completed hne).2 value kind hvalue (hsame ▸ hown)⟩

theorem waitsFor_some {kind : EntityKind} {id : Int} {chat : ChatRecord}
    (h : c.waitsFor kind id = some chat) : c.complete = false ∧ c.frozen = some chat := by
  unfold Candidate.waitsFor at h
  split at h
  · cases h
  next hcomp =>
    exact ⟨by simpa using hcomp, (filter_eq_some_iff.mp h).1⟩

theorem completeCandidate_spec
    (hblk : Blocks a keys) (hsh : keys.length ≤ kStreamMetadataOrderItems)
    (hmem : c.sequence ∈ keys) (hfrz : c.frozen = some chat)
    (h : completeCandidate render a c chat entity = some (b, d)) :
    Blocks b keys ∧ (∀ k, k ≠ c.sequence → b.content k = a.content k)
      ∧ d = { c with charge := d.charge, complete := true }
      ∧ Completed render a b entity c d := by
  unfold completeCandidate at h
  split at h
  · cases h
  split at h
  · cases h
  rename_i line hline
  split at h
  · cases h
  obtain ⟨rfl, rfl⟩ := h
  obtain ⟨hreplaced, hself, hoths⟩ :=
    blocks_replace hblk hsh hmem (renderLine_ne_nil hline)
  refine ⟨hreplaced, hoths, rfl, rfl, fun value kind hvalue hown => ?_⟩
  rw [hfrz] at hvalue
  cases hvalue
  rw [hself, ← hline, frozenTitle_own hown, frozenMessageText_own hown, summary_chatRecord]

/-- **`complete_frozen`.** -/
theorem completeFrozen_spec {keys : List Nat} (hsh : keys.length ≤ kStreamMetadataOrderItems)
    (cs : List Candidate) :
    ∀ (a : Arena Nat) (charged : Nat) (cs' : List Candidate) (a' : Arena Nat) (charged' : Nat),
      Blocks a keys → (∀ c ∈ cs, c.sequence ∈ keys) → (sequences cs).Nodup →
      completeFrozen render a charged entity cs = some (cs', a', charged') →
      Blocks a' keys ∧ (∀ k, k ∉ sequences cs → a'.content k = a.content k)
        ∧ List.Forall₂ (Advances render a a' entity) cs cs' := by
  induction cs with
  | nil =>
    intro a charged cs' a' charged' hblk _ _ h
    obtain ⟨rfl, rfl, rfl⟩ := h
    exact ⟨hblk, fun _ _ => rfl, .nil⟩
  | cons c rest ih =>
    intro a charged cs' a' charged' hblk hkeys hnd h
    obtain ⟨hout, hnd'⟩ := nodup_cons.mp hnd
    have hrest : ∀ d ∈ rest, d.sequence ∈ keys := fun d hd => hkeys d (by simp [hd])
    unfold completeFrozen at h
    split at h
    next hwaits =>
      -- the candidate is not concerned
      obtain ⟨⟨done, b, n⟩, hdone, heq⟩ := map_eq_some_iff.mp h
      simp only [Prod.mk.injEq] at heq
      obtain ⟨rfl, rfl, rfl⟩ := heq
      obtain ⟨hb, hkept, hall⟩ := ih a charged done b n hblk hrest hnd' hdone
      refine ⟨hb, fun k hk => hkept k fun hmem => hk (by simp [sequences] at hmem ⊢; tauto), ?_⟩
      refine .cons ⟨rfl, rfl, rfl, rfl, fun _ => ⟨rfl, hkept _ hout⟩, ?_⟩ hall
      exact fun hne => absurd hwaits hne
    next chat hwaits =>
      split at h
      · cases h
      rename_i b d hcompl
      obtain ⟨⟨done, b', n⟩, hdone, heq⟩ := map_eq_some_iff.mp h
      simp only [Prod.mk.injEq] at heq
      obtain ⟨rfl, rfl, rfl⟩ := heq
      obtain ⟨hb, hoths, hd, hcomp, hown⟩ := completeCandidate_spec hblk hsh
        (hkeys c (by simp)) (waitsFor_some hwaits).2 hcompl
      obtain ⟨hb', hkept, hall⟩ := ih b _ done b' n hb hrest hnd' hdone
      refine ⟨hb', fun k hk => ?_, ?_⟩
      · have hne : k ≠ c.sequence := fun heq => hk (by simp [sequences, heq])
        rw [hkept k fun hmem => hk (by simp [sequences] at hmem ⊢; tauto), hoths k hne]
      refine .cons ⟨by rw [hd], by rw [hd], by rw [hd], by rw [hd], ?_, ?_⟩ ?_
      · intro hnone
        rw [hnone] at hwaits
        cases hwaits
      · intro _
        refine ⟨hcomp, fun value kind hvalue howned => ?_⟩
        rw [hkept _ hout]
        exact hown value kind hvalue howned
      · -- the bytes of the later candidates did not change before
        have hsame : ∀ e ∈ rest, b.content e.sequence = a.content e.sequence := by
          intro e he
          refine hoths _ fun heq => hout ?_
          rw [← heq]
          exact mem_map_of_mem he
        exact ((forall₂_and_left _ _).mpr ⟨hsame, hall⟩).imp fun e e' he => he.2.congr he.1

/-! ## §8. Draining. -/

theorem drainLoop_spec (cs : List Candidate) :
    ∀ (o : Order) (order : List Nat), o.arena.Sparse order → order.Perm (sequences cs) →
      (drainLoop o cs).candidates = cs.dropWhile (·.complete)
        ∧ (drainLoop o cs).delivered = o.delivered ++ (cs.takeWhile (·.complete)).map
          (fun c => c.item (o.arena.content c.sequence))
        ∧ (drainLoop o cs).barrier = o.barrier
        ∧ (∃ order', (drainLoop o cs).arena.Sparse order'
          ∧ order'.Perm (sequences (drainLoop o cs).candidates))
        ∧ ∀ c ∈ (drainLoop o cs).candidates,
          (drainLoop o cs).arena.content c.sequence = o.arena.content c.sequence := by
  induction cs with
  | nil =>
    intro o order hsparse hperm
    exact ⟨rfl, (append_nil _).symm, rfl, ⟨order, hsparse, hperm⟩, fun _ _ => rfl⟩
  | cons c rest ih =>
    intro o order hsparse hperm
    unfold drainLoop
    by_cases hcomp : c.complete = true
    · rw [if_pos hcomp]
      have hnd : (sequences (c :: rest)).Nodup := hperm.nodup_iff.mp hsparse.represents.nodup
      have hout : c.sequence ∉ sequences rest := (nodup_cons.mp hnd).1
      obtain ⟨xs, ys, rfl⟩ := append_of_mem (hperm.mem_iff.mpr (mem_cons_self ..))
      -- the block of the head is poisoned and taken out
      have hframe := (Arena.wrote_write o.arena c.sequence 0
        (List.replicate (o.arena.size c.sequence) kBorrowPoison) (by simp)).frame
      obtain ⟨hrem, hkept⟩ := hsparse.remove hframe
      have hperm' : (xs ++ ys).Perm (sequences rest) :=
        (perm_cons c.sequence).mp (perm_middle.symm.trans hperm)
      obtain ⟨hcand, hdeliv, hbarrier, hblk, hcont⟩ :=
        ih (deliver o c) (xs ++ ys) hrem hperm'
      have hsame : ∀ d ∈ rest, (deliver o c).arena.content d.sequence
          = o.arena.content d.sequence := by
        intro d hd
        refine hkept _ fun heq => hout ?_
        rw [← heq]
        exact mem_map_of_mem hd
      refine ⟨?_, ?_, hbarrier, hblk, fun d hd => ?_⟩
      · rw [hcand, dropWhile_cons_of_pos hcomp]
      · rw [hdeliv, takeWhile_cons_of_pos hcomp, map_cons]
        show (o.delivered ++ [_]) ++ _ = _
        rw [append_assoc, singleton_append]
        congr 2
        refine map_congr_left fun d hd => ?_
        rw [hsame d ((takeWhile_sublist _).subset hd)]
      · rw [hcont d hd, hsame d]
        rw [hcand] at hd
        exact (dropWhile_sublist _).subset hd
    · rw [if_neg hcomp, dropWhile_cons_of_neg hcomp, takeWhile_cons_of_neg hcomp]
      exact ⟨rfl, (append_nil _).symm, rfl, ⟨order, hsparse, hperm⟩, fun _ _ => rfl⟩

/-- **`drain`**: the complete candidates before the first incomplete one go out. -/
theorem drain_spec {o : Order} (hblk : Blocks o.arena (sequences o.candidates))
    (hsh : o.candidates.length ≤ kStreamMetadataOrderItems) :
    (drain o).candidates = o.candidates.dropWhile (·.complete)
      ∧ (drain o).delivered = o.delivered ++ (o.candidates.takeWhile (·.complete)).map
        (fun c => c.item (o.arena.content c.sequence))
      ∧ (drain o).barrier = ((drain o).candidates.isEmpty == false && o.barrier)
      ∧ Blocks (drain o).arena (sequences (drain o).candidates)
      ∧ ∀ c ∈ (drain o).candidates,
        (drain o).arena.content c.sequence = o.arena.content c.sequence := by
  obtain ⟨order, hval, hperm⟩ := hblk
  obtain ⟨hcand, hdeliv, hbarrier, ⟨order', hsparse, hperm'⟩, hcont⟩ :=
    drainLoop_spec o.candidates o order hval.sparse hperm
  have hlen : order'.length < orderFuel := by
    rw [hperm'.length_eq, hcand]
    unfold sequences orderFuel
    rw [length_map]
    have := (dropWhile_sublist (fun c : Candidate => c.complete) (l := o.candidates)).length_le
    omega
  obtain ⟨hcpt, hsame⟩ := hsparse.compact hlen
  unfold drain
  by_cases hemp : (drainLoop o o.candidates).candidates.isEmpty = true
  · rw [if_pos hemp]
    refine ⟨hcand, hdeliv, ?_, ⟨[], ?_, ?_⟩, ?_⟩
    · show false = ((drainLoop o o.candidates).candidates.isEmpty == false && o.barrier)
      rw [hemp]
      rfl
    · have hnil : order' = [] := by
        have hnone : (drainLoop o o.candidates).candidates = [] := isEmpty_iff.mp hemp
        rw [hnone] at hperm'
        exact hperm'.eq_nil
      subst hnil
      exact ⟨⟨nodup_nil, rfl, rfl, hcpt.represents.linked, hcpt.represents.links⟩,
        trivial, rfl, hcpt.empty, hcpt.nonempty⟩
    · show List.Perm [] (sequences (drainLoop o o.candidates).candidates)
      rw [isEmpty_iff.mp hemp]
      exact .nil
    · intro c hc
      have hnone : (drainLoop o o.candidates).candidates = [] := isEmpty_iff.mp hemp
      rw [show c ∈ (drainLoop o o.candidates).candidates ↔ c ∈ [] by rw [hnone]] at hc
      cases hc
  · rw [if_neg hemp]
    refine ⟨hcand, hdeliv, ?_, ⟨order', hcpt, hperm'⟩, fun c hc => ?_⟩
    · show (drainLoop o o.candidates).barrier
        = ((drainLoop o o.candidates).candidates.isEmpty == false && o.barrier)
      rw [hbarrier, eq_false_of_ne_true hemp]
      rfl
    · exact (hsame _).trans (hcont c hc)

end Rendered

end TgCli.Stream
