/-
  TgCli.Stream.Steps — ONE UPDATE ON THE TABLES

  One specification for each `apply_*` function: it keeps the invariant, and
  the chats read as carried afterwards

    • always, for entities, new chats and updates without text;
    • exactly when the KEPT slice of the block is not overwritten by the
      relinked compaction, for title and last-message updates.

  `KeepsSlice a handle pos n` is that condition on the arena before the
  update: byte `i` of the slice is further from the block's start than there
  are bytes behind the block, or equals the byte one block size later.
-/
import TgCli.Stream.Texts

namespace TgCli.Stream

open Tdlib Lib List Option ChatTexts

/-! ## §1. The kept slice. -/

/-- The slice survives moving the bytes behind the block onto it. -/
def KeepsSlice (a : Arena Handle) (handle : Handle) (pos n : Nat) : Prop :=
  ∀ i, i < n → pos + i < a.used - (a.offset handle + a.size handle) →
    a.mem (a.offset handle + a.size handle + (pos + i)) = a.mem (a.offset handle + (pos + i))

instance (a : Arena Handle) (handle : Handle) (pos n : Nat) : Decidable (KeepsSlice a handle pos n) :=
  Nat.decidableBallLT _ _

theorem load_getElem? (m : Mem) (off n i : Nat) :
    (m.load off n)[i]? = if i < n then some (m (off + i)) else none := by
  unfold Mem.load
  rw [getElem?_map]
  by_cases hi : i < n
  · rw [if_pos hi, getElem?_range hi]
    rfl
  · rw [if_neg hi, getElem?_eq_none (by simpa using hi)]
    rfl

variable {n slot : Nat} {s s' : Metadata} {σ : Texts} {id : Int} {phase : StreamMetadataPhase}
  {chat : ChatRecord} {kind : TdSupportedUpdateKind}

/-- The condition is about the overlaid bytes. -/
theorem keepsSlice_iff (a : Arena Handle) (handle : Handle) (hfit : pos + n ≤ a.size handle) :
    ((overlay (behind a handle) (a.content handle)).drop pos).take n = a.slice handle pos n
      ↔ KeepsSlice a handle pos n := by
  set e := a.offset handle + a.size handle
  have hlen : (behind a handle).length = a.used - e := by
    unfold behind
    rw [Mem.load_length]
  -- one byte of the two sides
  have hleft : ∀ i, i < n →
      (((overlay (behind a handle) (a.content handle)).drop pos).take n)[i]?
        = if pos + i < a.used - e then some (a.mem (e + (pos + i)))
          else some (a.mem (a.offset handle + (pos + i))) := by
    intro i hi
    have hpos : pos + i < (a.content handle).length := by
      rw [Arena.content_length]
      omega
    rw [getElem?_take_of_lt hi, getElem?_drop, overlay_getElem? _ _ hpos, hlen]
    by_cases hb : pos + i < a.used - e
    · rw [if_pos hb, if_pos hb]
      unfold behind
      rw [load_getElem?, if_pos hb]
    · rw [if_neg hb, if_neg hb]
      unfold Arena.content
      rw [load_getElem?, if_pos (by omega)]
  have hright : ∀ i, i < n →
      (a.slice handle pos n)[i]? = some (a.mem (a.offset handle + (pos + i))) := by
    intro i hi
    unfold Arena.slice
    rw [load_getElem?, if_pos hi, Nat.add_assoc]
  refine ⟨?_, ?_⟩
  · intro heq i hi hb
    have h1 := hleft i hi
    rw [heq, hright i hi, if_pos hb] at h1
    injection h1 with h1
    exact h1.symm
  · intro hkeep
    refine ext_getElem? ?_
    intro i
    by_cases hi : i < n
    · rw [hleft i hi, hright i hi]
      by_cases hb : pos + i < a.used - e
      · rw [if_pos hb, hkeep i hi hb]
      · rw [if_neg hb]
    · rw [getElem?_eq_none (by rw [length_take]; omega),
        getElem?_eq_none (by unfold Arena.slice; rw [Mem.load_length]; omega)]

/-- A slice of the block that `prepare_metadata_block` left. -/
theorem prepared_slice {a a' : Arena Handle}
    (hfit : pos + n ≤ a.size handle) (h : a'.mem.load (a'.offset handle) (a.size handle)
      = overlay (behind a handle) (a.content handle)) :
    a'.slice handle pos n = ((overlay (behind a handle) (a.content handle)).drop pos).take n := by
  rw [← h, Mem.load_slice _ _ _ _ _ hfit]
  rfl

/-! ## §2. Entities. -/

theorem validUsername_nul (h : validUsername name) : (0 : UInt8) ∉ name := by
  unfold validUsername at h
  intro hmem
  simp [hmem] at h

/-- The keys with one more entity. -/
theorem entityKeys_insert (h : s'.entities = s.entities.insert slot entity) :
    s'.entityKeys = Probe.insert s.entityKeys slot (entity.kind, entity.id) := by
  funext j
  unfold Metadata.entityKeys Probe.insert
  rw [h]
  by_cases hj : j = slot
  · subst hj
    rw [AList.lookup_insert, if_pos rfl]
    rfl
  · rw [AList.lookup_insert_ne hj, if_neg hj]

/-- `apply_entity` stores the entity where its search ends. -/
theorem applyEntity_ok {kind : EntityKind} {isBot isChannel : Bool} {usernames : List Bytes}
    (h : applyEntity s kind id isBot isChannel usernames phase = .ok s') :
    ∃ slot arena count, usernames.all validUsername ∧ EndsAt (s.entitySlot kind id) slot
      ∧ prepareMetadataBlock s.arena (.entity slot) (usernames.map fun name => name.length + 1).sum
        phase = .ok arena
      ∧ s' = { s with
        arena := writeUsernames arena (.entity slot) 0 usernames
        entities := s.entities.insert slot
          { kind := kind, id := id, isBot := isBot, isChannel := isChannel
            usernameCount := usernames.length }
        entityCount := count } := by
  unfold applyEntity at h
  split at h
  · cases h
  split at h
  · cases h
  rename_i hnames
  simp only at h
  split at h
  · cases h
  split at h
  · cases h
  rename_i slot hslot
  split at h
  · cases h
  split at h
  · cases h
  split at h
  · cases h
  next arena harena =>
    cases h
    exact ⟨slot, arena, _, by simpa using hnames, slotFor_ok hslot, harena, rfl⟩

theorem entity_inTable {kind : EntityKind} (h : EndsAt (s.entitySlot kind id) slot) :
    (Handle.entity slot).InTable :=
  slot_lt (by decide) h

/-- **Entity updates** bring their usernames and touch nothing else. -/
theorem applyEntity_spec {kind : EntityKind} {isBot isChannel : Bool} {usernames : List Bytes}
    (hinv : Inv s σ) (h : applyEntity s kind id isBot isChannel usernames phase = .ok s') :
    Inv s' (σ.setEntity kind id usernames)
      ∧ (FaithfulChats s σ → FaithfulChats s' (σ.setEntity kind id usernames)) := by
  obtain ⟨slot, arena, count, hnames, hends, harena, rfl⟩ := applyEntity_ok h
  obtain ⟨hok, hsize, hoths, -⟩ :=
    prepareMetadataBlock_spec hinv.arena (entity_inTable hends) harena
  rw [← cstrings_length] at hsize
  obtain ⟨hwrote, hself, -⟩ := writeUsernames_spec usernames arena (.entity slot) 0
    (by rw [hsize]; omega)
  obtain ⟨hok', hoths'⟩ := hok.wrote hwrote
  have hframe : ∀ j, j ≠ .entity slot →
      (writeUsernames arena (.entity slot) 0 usernames).content j = s.arena.content j :=
    fun j hj => (hoths' j hj).trans (hoths j hj)
  refine ⟨⟨hok', hinv.chats, ?_, ?_, ?_⟩, ?_⟩
  · -- the entity stands where its search ended
    rw [entityKeys_insert rfl]
    exact reach_store hinv.entities hends
  · intro j c hj
    exact ((hinv.fits j c hj).frame (hframe _ (by simp))).1
  · intro j e hj
    by_cases hjs : j = slot
    · subst hjs
      rw [AList.lookup_insert] at hj
      cases hj
      refine ⟨usernames, if_pos ⟨rfl, rfl⟩, rfl, ?_, ?_⟩
      · exact fun name hmem => validUsername_nul (all_eq_true.mp hnames name hmem)
      · show Mem.load _ _ _ = _
        rw [hwrote.size, hsize]
        exact hself
    · rw [AList.lookup_insert_ne hjs] at hj
      have hkey : (e.kind, e.id) ≠ (kind, id) :=
        other_key hinv.entities hends hjs (by unfold Metadata.entityKeys; rw [hj]; rfl)
      have hσ : (σ.setEntity kind id usernames).entity e.kind e.id = σ.entity e.kind e.id :=
        if_neg fun hc => hkey (Prod.ext hc.1 hc.2)
      rw [hframe _ (by simpa using hjs), hσ]
      exact hinv.usernames j e hj
  · intro hf j c hj
    show σ.chat c.id = _
    rw [hf j c hj, ((hinv.fits j c hj).frame (hframe _ (by simp))).2]

/-! ## §3. Chats. -/

/-- The text a message carries; none is the empty text. -/
def messageText (message : Option TdMessageSummary) : Bytes := (message.map (·.text)).getD []

theorem ArenaOk.size_le (hok : ArenaOk a) (handle : Handle) :
    a.size handle ≤ kStreamMetadataBytes := by
  by_cases h0 : a.size handle = 0
  · rw [h0]
    exact Nat.zero_le _
  · have := hok.end_le h0
    omega

/-- Sizes that fit the arena twice are not cut by the casts. -/
theorem uint32_fits (h : n ≤ 2 * kStreamMetadataBytes + 23) : uint32 n = n := by
  refine Nat.mod_eq_of_lt ?_
  unfold kStreamMetadataBytes at h
  omega

theorem messageBytes_le (size : Nat) (date : Int) : messageBytes size date ≤ size + 22 := by
  unfold messageBytes
  split <;> omega

theorem chat_inTable (h : EndsAt (s.chatSlot id) slot) : (Handle.chat slot).InTable :=
  slot_lt (by decide) h

variable {value : TdChat}

/-- What a new chat leaves in the arena: its texts, in a block of its size. -/
theorem storeChat_block {kind : ChatKind} (harenaOk : ArenaOk s.arena)
    (hslot : EndsAt (s.chatSlot value.id) slot)
    (h : storeChat s slot value kind (chatIncoming value) phase = .ok s') :
    ChatStored s s' slot (chatRecord value kind) ∧ s'.arena.size (.chat slot) = chatIncoming value
      ∧ readChat s'.arena slot (chatRecord value kind)
        = { title := value.title, text := messageText value.lastMessage } := by
  unfold storeChat at h
  split at h
  · cases h
  rename_i arena harena
  simp only at h
  split at h
  · cases h
  rename_i arena' hwrit
  cases h
  obtain ⟨hok, hsize, hoths, -⟩ :=
    prepareMetadataBlock_spec harenaOk (chat_inTable hslot) harena
  have htitle : value.title.length + 1 ≤ arena.size (.chat slot) := by
    rw [hsize]
    unfold chatIncoming
    omega
  obtain ⟨hw1, hs1, -⟩ := writeTitle_spec arena (.chat slot) value.title htitle
  -- the message behind the title, if there is one
  have hmsg : Arena.Wrote (writeTitle arena (.chat slot) value.title) arena' (.chat slot)
      ∧ ChatFits arena' slot (chatRecord value kind)
      ∧ readChat arena' slot (chatRecord value kind)
        = { title := value.title, text := messageText value.lastMessage } := by
    cases hm : value.lastMessage with
    | none =>
      rw [hm] at hwrit
      cases hwrit
      refine ⟨Arena.Wrote.refl _ _, ⟨?_, ?_⟩, ?_⟩
      · show value.title.length ≤ _
        rw [hw1.size]
        omega
      · intro message hmessage
        exact absurd hmessage (by simp [chatRecord, hm])
      · have htext : chatMessageText (writeTitle arena (.chat slot) value.title) slot
            (chatRecord value kind) = [] := by
          unfold chatMessageText chatRecord
          rw [hm]
          rfl
        unfold readChat
        rw [htext]
        exact congrArg (mk · []) hs1
    | some message =>
      rw [hm] at hwrit
      have hfit : value.title.length + 1 + messageBytes message.text.length message.date
          ≤ (writeTitle arena (.chat slot) value.title).size (.chat slot) := by
        rw [hw1.size, hsize]
        unfold chatIncoming
        rw [hm]
      obtain ⟨hw2, hs2, hbef⟩ := writeMessage_spec hfit hwrit
      have hrec : (chatRecord value kind).lastMessage
          = some (storeMessage message (value.title.length + 1) message.text.length) := by
        unfold chatRecord
        rw [hm]
        rfl
      refine ⟨hw2, ⟨?_, ?_⟩, ?_⟩
      · show value.title.length ≤ _
        rw [hw2.size, hw1.size]
        omega
      · intro message' hmessage'
        rw [hrec] at hmessage'
        injection hmessage' with hmessage'
        rw [← hmessage', hw2.size]
        show value.title.length + 1 + message.text.length ≤ _
        unfold messageBytes at hfit
        omega
      · have htext : chatMessageText arena' slot (chatRecord value kind) = message.text := by
          unfold chatMessageText
          rw [hrec]
          exact hs2
        have htitle' : chatTitle arena' slot (chatRecord value kind) = value.title := by
          show arena'.slice (.chat slot) 0 value.title.length = _
          rw [hbef 0 value.title.length (by omega)]
          exact hs1
        unfold readChat
        rw [htext, htitle']
        rfl
  obtain ⟨hw2, hfits, hread⟩ := hmsg
  obtain ⟨hok', hoths'⟩ := hok.wrote (hw1.trans hw2)
  exact ⟨⟨rfl, rfl, hok', fun j hj => (hoths' j hj).trans (hoths j hj), hfits⟩,
    (congrFun (hw1.trans hw2).size _).trans hsize, hread⟩

/-- **New chats** bring their title and text. -/
theorem storeChat_spec {kind : ChatKind} (hinv : Inv s σ)
    (hslot : EndsAt (s.chatSlot value.id) slot)
    (h : storeChat s slot value kind (chatIncoming value) phase = .ok s') :
    let σ' := σ.setChat value.id
      (some { title := value.title, text := messageText value.lastMessage })
    Inv s' σ' ∧ (FaithfulChats s σ → FaithfulChats s' σ') := by
  intro σ'
  obtain ⟨hsto, -, hread⟩ := storeChat_block hinv.arena hslot h
  have hid : (chatRecord value kind).id = value.id := rfl
  rw [← hid] at hslot
  refine ⟨inv_setChat hinv hslot hsto rfl, ?_⟩
  intro hf
  refine (faithful_setChat hinv hf hslot hsto ?_).mpr ?_
  · intro j hj
    exact if_neg hj
  · show (if value.id = value.id then _ else _) = _
    rw [if_pos rfl, ← hread]

/-- `apply_chat` stores the chat where its search ends. -/
theorem applyChat_ok (h : applyChat s value phase = .ok s') :
    ∃ kind slot, chatKind value.kind = some kind ∧ EndsAt (s.chatSlot value.id) slot
      ∧ storeChat s slot value kind (chatIncoming value) phase = .ok s' := by
  unfold applyChat at h
  split at h
  · cases h
  rename_i kind hkind
  split at h
  · cases h
  split at h
  · cases h
  rename_i slot hslot
  split at h
  · cases h
  split at h
  · cases h
  · exact ⟨kind, slot, hkind, slotFor_ok hslot, h⟩

theorem applyBufferedChat_ok {kind : ChatKind}
    (h : applyBufferedChat s kind value phase = .ok s') :
    ∃ slot, EndsAt (s.chatSlot value.id) slot
      ∧ storeChat s slot value kind (uint32 (chatIncoming value)) phase = .ok s' := by
  unfold applyBufferedChat at h
  split at h
  · cases h
  split at h
  · cases h
  rename_i slot hslot
  split at h
  · cases h
  · exact ⟨slot, slotFor_ok hslot, h⟩

theorem findChat_some (h : s.findChat id = some (slot, chat)) :
    s.chatSlot id = .found slot ∧ s.chats.lookup slot = some chat ∧ chat.id = id := by
  unfold Metadata.findChat at h
  split at h
  next slot' hslot =>
    obtain ⟨chat', hlook, hpair⟩ := map_eq_some_iff.mp h
    injection hpair with h1 h2
    subst h1 h2
    refine ⟨hslot, hlook, ?_⟩
    have hid : s.chatIds slot' = some id := Probe.slotOf_found hslot
    unfold Metadata.chatIds at hid
    rw [hlook] at hid
    injection hid
  · cases h

/-! ## §4. Titles and last messages. -/

/-- What an update carries for the tables. -/
inductive Carried where
  | nothing
  | entity (kind : EntityKind) (id : Int) (usernames : List Bytes)
  | chat (id : Int) (texts : ChatTexts)
  | title (id : Int) (title : Bytes)
  | text (id : Int) (text : Bytes)
deriving DecidableEq, Repr

/-- **The abstract fold**: the carried value replaces the old one. -/
def Texts.apply (σ : Texts) : Carried → Texts
  | .nothing => σ
  | .entity kind id usernames => σ.setEntity kind id usernames
  | .chat id texts => σ.setChat id (some texts)
  | .title id title => σ.setChat id ((σ.chat id).map fun texts => { texts with title := title })
  | .text id text => σ.setChat id ((σ.chat id).map fun texts => { texts with text := text })

/-- **The condition of a step**: what it keeps survives. -/
def KeepsTexts (s : Metadata) : Carried → Prop
  | .title id _ => ∀ slot chat, s.findChat id = some (slot, chat) →
      ∀ message, chat.lastMessage = some message →
        KeepsSlice s.arena (.chat slot) message.textOffset message.textSize
  | .text id _ => ∀ slot chat, s.findChat id = some (slot, chat) →
      KeepsSlice s.arena (.chat slot) 0 chat.titleSize
  | _ => True

/-- There is one chat to speak of. -/
theorem forall_findChat {p : Nat → ChatRecord → Prop} (hfind : s.findChat id = some (slot, chat)) :
    (∀ slot' chat', s.findChat id = some (slot', chat') → p slot' chat') ↔ p slot chat := by
  refine ⟨fun h => h slot chat hfind, ?_⟩
  intro h slot' chat' hfind'
  rw [hfind] at hfind'
  cases hfind'
  exact h

/-- A known chat was stored again, and its texts were to change by `f`. -/
theorem changed_spec (f : ChatTexts → ChatTexts) (hinv : Inv s σ)
    (hfind : s.findChat id = some (slot, chat)) (hsto : ChatStored s s' slot chat')
    (hid' : chat'.id = chat.id) :
    Inv s' (σ.setChat id ((σ.chat id).map f))
      ∧ (FaithfulChats s σ → (FaithfulChats s' (σ.setChat id ((σ.chat id).map f))
        ↔ f (readChat s.arena slot chat) = readChat s'.arena slot chat')) := by
  obtain ⟨hslot, hlook, rfl⟩ := findChat_some hfind
  have hends : EndsAt (s.chatSlot chat'.id) slot := by
    rw [hid']
    exact Or.inl hslot
  refine ⟨inv_setChat hinv hends hsto rfl, ?_⟩
  intro hf
  rw [faithful_setChat hinv hf hends hsto fun j hj => if_neg (hid' ▸ hj), hid']
  show (if chat.id = chat.id then (σ.chat chat.id).map f else _) = _ ↔ _
  rw [if_pos rfl, hf slot chat hlook, map_some, some_inj]

/-- **Title updates**: the text is kept exactly when its slice survives. -/
theorem applyTitle_spec {title : Bytes} (hinv : Inv s σ)
    (hlen : title.length ≤ kStreamMetadataBytes) (h : applyTitle s id title phase = .ok s') :
    Inv s' (σ.apply (.title id title)) ∧ (FaithfulChats s σ →
          (FaithfulChats s' (σ.apply (.title id title)) ↔ KeepsTexts s (.title id title))) := by
  unfold applyTitle at h
  split at h
  · cases h
  rename_i slot chat hfind
  obtain ⟨hslot, hlook, hid⟩ := findChat_some hfind
  have hold := hinv.fits slot chat hlook
  have hbound := hinv.arena.size_le (.chat slot)
  split at h
  · cases h
  simp only at h
  split at h
  · cases h
  rename_i arena harena
  split at h
  · cases h
  rename_i arena' hkept
  cases h
  obtain ⟨hok, hsize, hoths, hself⟩ :=
    prepareMetadataBlock_spec hinv.arena (chat_inTable (.inl hslot)) harena
  set chat' : ChatRecord := { chat with
    titleSize := uint32 title.length
    lastMessage := chat.lastMessage.map fun message =>
      { message with textOffset := uint32 (title.length + 1) } } with hchat'
  have htsize : uint32 title.length = title.length := uint32_fits (by omega)
  have htoff : uint32 (title.length + 1) = title.length + 1 := uint32_fits (by omega)
  -- the kept message, and what is read of it
  have hmsg : Arena.Wrote arena arena' (.chat slot)
      ∧ title.length + 1 ≤ arena'.size (.chat slot)
      ∧ ∀ message, chat.lastMessage = some message →
          title.length + 1 + message.textSize ≤ arena'.size (.chat slot)
          ∧ arena'.slice (.chat slot) (title.length + 1) message.textSize
              = arena.slice (.chat slot) message.textOffset message.textSize := by
    cases hm : chat.lastMessage with
    | none =>
      rw [hm] at hkept hsize
      cases hkept
      refine ⟨Arena.Wrote.refl _ _, ?_, ?_⟩
      · rw [hsize, uint32_fits (by show title.length + 1 + 0 ≤ _; omega)]
        omega
      · intro message hmessage
        cases hmessage
    | some message =>
      rw [hm] at hkept hsize
      have htext := hold.2 message hm
      have hbytes := messageBytes_le message.textSize message.date
      have hsize' : arena.size (.chat slot)
          = title.length + 1 + messageBytes message.textSize message.date := by
        rw [hsize]
        show uint32 (title.length + 1 + messageBytes message.textSize message.date) = _
        exact uint32_fits (by omega)
      obtain ⟨hw, hmoved⟩ := keepText_spec (le_of_eq hsize'.symm) hkept
      unfold messageBytes at hsize'
      refine ⟨hw, by rw [hw.size]; omega, ?_⟩
      intro message' hmessage'
      cases hmessage'
      exact ⟨by rw [hw.size]; omega, hmoved⟩
  obtain ⟨hw1, htfit, hkeep⟩ := hmsg
  obtain ⟨hw2, htitle, hbeh⟩ := writeTitle_spec arena' (.chat slot) title htfit
  obtain ⟨hok', hoths'⟩ := hok.wrote (hw1.trans hw2)
  have hfits : ChatFits (writeTitle arena' (.chat slot) title) slot chat' := by
    refine ⟨?_, ?_⟩
    · show uint32 title.length ≤ _
      rw [htsize, hw2.size]
      omega
    · intro message' hmessage'
      obtain ⟨message, hm, hmm⟩ := map_eq_some_iff.mp hmessage'
      rw [← hmm, hw2.size]
      show uint32 (title.length + 1) + message.textSize ≤ _
      rw [htoff]
      exact (hkeep message hm).1
  have hsto : ChatStored s { s with
      arena := writeTitle arena' (.chat slot) title
      chats := s.chats.insert slot chat' } slot chat' :=
    ⟨rfl, rfl, hok', fun j hj => (hoths' j hj).trans (hoths j hj), hfits⟩
  refine (changed_spec _ hinv hfind hsto rfl).imp_right fun hiff hf => (hiff hf).trans ?_
  have ht : chatTitle (writeTitle arena' (.chat slot) title) slot chat' = title := by
    show Mem.load _ _ (uint32 title.length) = title
    rw [htsize]
    exact htitle
  refine Iff.trans ?_ (forall_findChat hfind).symm
  show mk title (chatMessageText s.arena slot chat) = mk _ _ ↔ _
  rw [ht]
  -- what is left is the text
  cases hm : chat.lastMessage with
  | none =>
    have h1 : chatMessageText s.arena slot chat = [] := by
      unfold chatMessageText; rw [hm]
    have h2 : chatMessageText (writeTitle arena' (.chat slot) title) slot chat' = [] := by
      unfold chatMessageText; rw [hchat', hm]; rfl
    rw [h1, h2]
    exact ⟨fun _ message hmessage => absurd hmessage (by simp), fun _ => rfl⟩
  | some message =>
    have htext := hold.2 message hm
    have h1 : chatMessageText s.arena slot chat
        = s.arena.slice (.chat slot) message.textOffset message.textSize := by
      unfold chatMessageText; rw [hm]; rfl
    have h2 : chatMessageText (writeTitle arena' (.chat slot) title) slot chat'
        = arena.slice (.chat slot) message.textOffset message.textSize := by
      rw [hchat', hm]
      show Mem.load _ (_ + uint32 (title.length + 1)) message.textSize = _
      rw [htoff, ← (hkeep message hm).2]
      exact hbeh _ _ (le_refl _)
    have hiff := keepsSlice_iff s.arena (.chat slot) htext
    rw [h1, h2, prepared_slice htext hself]
    simp only [some.injEq, mk.injEq, true_and, forall_eq']
    rw [← hiff, eq_comm]

/-- **Last-message updates**: the title is kept exactly when its bytes
survive. -/
theorem applyLastMessage_spec {message : Option TdMessageSummary} {text : Bytes} (hinv : Inv s σ)
    (hnone : message = none → text = []) (hlen : text.length ≤ kStreamMetadataBytes)
    (h : applyLastMessage s id message text phase = .ok s') :
    Inv s' (σ.apply (.text id text)) ∧ (FaithfulChats s σ →
          (FaithfulChats s' (σ.apply (.text id text)) ↔ KeepsTexts s (.text id text))) := by
  unfold applyLastMessage at h
  split at h
  · cases h
  rename_i slot chat hfind
  obtain ⟨hslot, hlook, hid⟩ := findChat_some hfind
  have hold := hinv.fits slot chat hlook
  have hbound := hinv.arena.size_le (.chat slot)
  have htsize := hold.1
  simp only at h
  split at h
  · cases h
  split at h
  · cases h
  rename_i arena harena
  split at h
  · cases h
  rename_i arena' hwrit
  cases h
  obtain ⟨hok, hsize, hoths, hself⟩ :=
    prepareMetadataBlock_spec hinv.arena (chat_inTable (.inl hslot)) harena
  set chat' : ChatRecord := { chat with
    lastMessage := message.map fun message =>
      storeMessage message (chat.titleSize + 1) (uint32 text.length) } with hchat'
  have htext32 : uint32 text.length = text.length := uint32_fits (by omega)
  -- the new message, behind the title's bytes
  have hmsg : Arena.Wrote arena arena' (.chat slot)
      ∧ ChatFits arena' slot chat'
      ∧ chatMessageText arena' slot chat' = text
      ∧ arena'.slice (.chat slot) 0 chat.titleSize
          = arena.slice (.chat slot) 0 chat.titleSize := by
    cases hm : message with
    | none =>
      rw [hm] at hwrit hsize
      cases hwrit
      have hsize' : arena.size (.chat slot) = chat.titleSize + 1 := by
        rw [hsize]
        show uint32 (chat.titleSize + 1 + 0) = _
        exact uint32_fits (by omega)
      refine ⟨Arena.Wrote.refl _ _, ⟨?_, ?_⟩, ?_, rfl⟩
      · show chat.titleSize ≤ _
        omega
      · intro message' hmessage'
        exact absurd hmessage' (by rw [hchat', hm]; simp)
      · unfold chatMessageText
        rw [hchat', hm, hnone hm]
        rfl
    | some m =>
      rw [hm] at hwrit hsize
      have hbytes := messageBytes_le text.length m.date
      have hsize' : arena.size (.chat slot)
          = chat.titleSize + 1 + messageBytes text.length m.date := by
        rw [hsize]
        show uint32 (chat.titleSize + 1 + messageBytes text.length m.date) = _
        exact uint32_fits (by omega)
      obtain ⟨hw, hself', hbef⟩ := writeMessage_spec (le_of_eq hsize'.symm) hwrit
      unfold messageBytes at hsize'
      refine ⟨hw, ⟨?_, ?_⟩, ?_, hbef _ _ (by omega)⟩
      · show chat.titleSize ≤ _
        rw [hw.size]
        omega
      · intro message' hmessage'
        rw [hchat', hm] at hmessage'
        injection hmessage' with hmessage'
        rw [← hmessage', hw.size]
        show chat.titleSize + 1 + uint32 text.length ≤ _
        omega
      · unfold chatMessageText
        rw [hchat', hm]
        show Mem.load _ (_ + (chat.titleSize + 1)) (uint32 text.length) = _
        rw [htext32]
        exact hself'
  obtain ⟨hw, hfits, hread, hkeep⟩ := hmsg
  obtain ⟨hok', hoths'⟩ := hok.wrote hw
  have hsto : ChatStored s { s with arena := arena', chats := s.chats.insert slot chat' } slot chat' :=
    ⟨rfl, rfl, hok', fun j hj => (hoths' j hj).trans (hoths j hj), hfits⟩
  refine (changed_spec _ hinv hfind hsto rfl).imp_right fun hiff hf => (hiff hf).trans ?_
  have hfit : 0 + chat.titleSize ≤ s.arena.size (.chat slot) := by omega
  refine Iff.trans ?_ (forall_findChat hfind).symm
  show mk (s.arena.slice (.chat slot) 0 chat.titleSize) text
    = mk (arena'.slice (.chat slot) 0 chat.titleSize) _ ↔ _
  rw [hread, hkeep, prepared_slice hfit hself, ← keepsSlice_iff s.arena (.chat slot) hfit]
  simp only [mk.injEq, and_true, eq_comm]

/-! ## §5. Updates of a record's own fields. -/

/-- Two records with the same texts. -/
def SameTexts (chat chat' : ChatRecord) : Prop :=
  chat'.id = chat.id ∧ chat'.titleSize = chat.titleSize ∧ chat'.lastMessage = chat.lastMessage

theorem setChat_spec (hinv : Inv s σ)
    (hfind : s.findChat id = some (slot, chat)) (hsame : SameTexts chat chat') :
    Inv (s.setChat slot chat') σ
      ∧ (FaithfulChats s σ → FaithfulChats (s.setChat slot chat') σ) := by
  obtain ⟨hslot, hlook, hid⟩ := findChat_some hfind
  obtain ⟨hid', htitle, hmessage⟩ := hsame
  have hfits : ChatFits s.arena slot chat' := by
    unfold ChatFits
    rw [htitle, hmessage]
    exact hinv.fits slot chat hlook
  have hsto : ChatStored s (s.setChat slot chat') slot chat' :=
    ⟨rfl, rfl, hinv.arena, fun _ _ => rfl, hfits⟩
  have hends : EndsAt (s.chatSlot chat'.id) slot := by
    rw [hid', hid]
    exact Or.inl hslot
  refine ⟨inv_setChat hinv hends hsto rfl, ?_⟩
  intro hf
  refine (faithful_setChat hinv hf hends hsto fun _ _ => rfl).mpr ?_
  rw [hid', hf slot chat hlook]
  show some (readChat s.arena slot chat) = some (readChat s.arena slot chat')
  unfold readChat chatTitle chatMessageText
  rw [htitle, hmessage]

theorem metadataChat_ok (h : metadataChat s id kind = .ok found) : s.findChat id = some found := by
  unfold metadataChat at h
  split at h
  · cases h
  split at h
  · cases h
  next hf => injection h with h; rw [hf, h]

variable {f : ChatRecord → Except StreamFailure ChatRecord}

/-- What an update of a known chat does. -/
theorem updateChat_ok
    (h : updateChat s id kind f = .ok s') :
    ∃ slot chat chat', s.findChat id = some (slot, chat) ∧ f chat = .ok chat'
      ∧ s' = s.setChat slot chat' := by
  unfold updateChat at h
  split at h
  · cases h
  rename_i slot chat hfound
  split at h
  · cases h
  next chat' hchat =>
    injection h with h
    exact ⟨slot, chat, chat', metadataChat_ok hfound, hchat, h.symm⟩

/-- **Updates without text** leave the texts as they are. -/
theorem updateChat_spec (hinv : Inv s σ)
    (hf : ∀ chat chat', f chat = .ok chat' → SameTexts chat chat')
    (h : updateChat s id kind f = .ok s') :
    Inv s' σ ∧ (FaithfulChats s σ → FaithfulChats s' σ) := by
  obtain ⟨slot, chat, chat', hfind, hchat, rfl⟩ := updateChat_ok h
  exact setChat_spec hinv hfind (hf chat chat' hchat)

variable {set : ChatRecord → ChatRecord}

variable {count : Int}

theorem applyCounter_spec (hinv : Inv s σ)
    (h : applyCounter s id kind count set = .ok s') (hset : ∀ chat, SameTexts chat (set chat)) :
    Inv s' σ ∧ (FaithfulChats s σ → FaithfulChats s' σ) := by
  refine updateChat_spec hinv ?_ h
  intro chat chat' hchat
  split at hchat
  · cases hchat
  · cases hchat
    exact hset chat

theorem withMessageId_ok (h : withMessageId kind messageId rest = .ok s') : rest = .ok s' := by
  unfold withMessageId at h
  split at h
  · cases h
  · exact h

theorem addList_sameTexts {failure : StreamFailure} {list : TdChatList} {chat' : ChatRecord}
    (h : addList failure list chat = .ok chat') : SameTexts chat chat' := by
  unfold addList at h
  split at h
  · cases h
    exact ⟨rfl, rfl, rfl⟩
  split at h
  · cases h
  · cases h
    exact ⟨rfl, rfl, rfl⟩

theorem updateBuffered_ok {ok : Bool}
    (h : updateBuffered s id count ok set = .ok s') :
    ∃ slot chat, s.findChat id = some (slot, chat) ∧ s' = s.setChat slot (set chat) := by
  unfold updateBuffered at h
  split at h
  · cases h
  rename_i slot chat hfind
  split at h
  · cases h
  · injection h with h
    exact ⟨slot, chat, hfind, h.symm⟩

theorem updateBufferedList_ok
    (h : updateBufferedList s id list kind f = .ok s') :
    ∃ slot chat chat', s.findChat id = some (slot, chat) ∧ f chat = .ok chat'
      ∧ s' = s.setChat slot chat' := by
  unfold updateBufferedList at h
  split at h
  · cases h
  rename_i slot chat hfind
  split at h
  · cases h
  split at h
  · cases h
  next chat' hchat =>
    injection h with h
    exact ⟨slot, chat, chat', hfind, hchat, h.symm⟩

theorem updateBufferedList_spec (hinv : Inv s σ)
    (hf : ∀ chat chat', f chat = .ok chat' → SameTexts chat chat')
    (h : updateBufferedList s id list kind f = .ok s') :
    Inv s' σ ∧ (FaithfulChats s σ → FaithfulChats s' σ) := by
  obtain ⟨slot, chat, chat', hfind, hchat, rfl⟩ := updateBufferedList_ok h
  exact setChat_spec hinv hfind (hf chat chat' hchat)

end TgCli.Stream
