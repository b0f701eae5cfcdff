/-
  TgCli.Stream.Texts — WHAT AN UPDATE LEAVES IN THE ARENA

  The specification of each text-writing step of `TgCli.Stream.Apply`, read
  through the slices of the written block: the usernames, titles, texts and
  dates an update brings are read back, and what it keeps is what
  `prepare_metadata_block` left of it.

  `Inv s σ` is the invariant of the tables: arena and slot searches are in
  order, every record's slices lie in its block, and every entity's block is
  its usernames.

  Main results: `inv_setChat`, `faithful_setChat`, `inv_setEntity`.
-/
import TgCli.Stream.Normalizer

namespace TgCli.Stream

open Tdlib Lib List Arena Probe Metadata

/-! ## §1. Writes into a block. -/

variable {a b : Arena Handle} {handle : Handle} {s s' : Metadata} {slot : Nat} {chat : ChatRecord}

/-- What is written into a block keeps the arena in order and the other
blocks' bytes. -/
theorem ArenaOk.wrote (hok : ArenaOk a) (h : Arena.Wrote a b handle) :
    ArenaOk b ∧ ∀ j, j ≠ handle → b.content j = a.content j := by
  obtain ⟨hused, order, hval, hin⟩ := hok
  refine ⟨⟨?_, order, h.valid hval, hin⟩, ?_⟩
  · rw [h.used]
    exact hused
  · intro j hj
    exact h.content hval hj

/-- **Bytes written with their NUL** are read back, and what stands before and behind is kept. -/
theorem wrote_cstring (a : Arena Handle) (handle : Handle) (pos : Nat) (bytes : Bytes)
    (hfit : pos + bytes.length + 1 ≤ a.size handle) :
    let c := (a.write handle pos bytes).write handle (pos + bytes.length) [0]
    Arena.Wrote a c handle ∧ c.slice handle pos bytes.length = bytes
      ∧ ∀ p n, p + n ≤ pos ∨ pos + bytes.length + 1 ≤ p →
        c.slice handle p n = a.slice handle p n := by
  refine ⟨?_, ?_, fun p n hp => ?_⟩
  · exact (wrote_write a handle pos bytes (by omega)).trans
      (wrote_write _ handle _ [0] hfit)
  · rw [slice_write_of_disjoint _ _ _ _ (Or.inl (le_refl _)), slice_write_self]
  · rw [slice_write_of_disjoint _ _ _ _ (by simp only [length_singleton]; omega),
      slice_write_of_disjoint _ _ _ _ (by omega)]

theorem writeTitle_spec (a : Arena Handle) (handle : Handle) (title : Bytes)
    (hfit : title.length + 1 ≤ a.size handle) :
    Arena.Wrote a (writeTitle a handle title) handle
      ∧ (writeTitle a handle title).slice handle 0 title.length = title
      ∧ ∀ p n, title.length + 1 ≤ p →
          (writeTitle a handle title).slice handle p n = a.slice handle p n := by
  obtain ⟨hwrote, hself, hoths⟩ := wrote_cstring a handle 0 title (by omega)
  rw [Nat.zero_add] at hwrote hself hoths
  exact ⟨hwrote, hself, fun p n hp => hoths p n (.inr hp)⟩

theorem writeDate_spec {pos : Nat} {date : Int}
    (hfit : pos + (if date ≠ 0 then 21 else 0) ≤ a.size handle)
    (h : writeDate a handle pos date = some b) :
    Arena.Wrote a b handle ∧ ∀ p n, p + n ≤ pos → b.slice handle p n = a.slice handle p n := by
  unfold writeDate at h
  by_cases hd : date ≠ 0
  · rw [if_pos hd] at h hfit
    obtain ⟨bytes, hbytes, hb⟩ := Option.map_eq_some_iff.mp h
    have hlen := streamTimestampUtc_length hbytes
    subst hb
    obtain ⟨hwrote, -, hoths⟩ := wrote_cstring a handle pos bytes (by omega)
    exact ⟨hwrote, fun p n hp => hoths p n (.inl hp)⟩
  · rw [if_neg hd] at h
    cases h
    exact ⟨Arena.Wrote.refl a handle, fun _ _ _ => rfl⟩

theorem writeMessage_spec {text : Bytes}
    (hfit : pos + messageBytes text.length date ≤ a.size handle)
    (h : writeMessage a handle pos text date = some b) :
    Arena.Wrote a b handle ∧ b.slice handle pos text.length = text
      ∧ ∀ p n, p + n ≤ pos → b.slice handle p n = a.slice handle p n := by
  unfold messageBytes at hfit
  obtain ⟨hwrote, hself, hoths⟩ := wrote_cstring a handle pos text (by omega)
  obtain ⟨hdate, hbef⟩ := writeDate_spec (by rw [hwrote.size]; omega) h
  refine ⟨hwrote.trans hdate, ?_, fun p n hp => ?_⟩
  · rw [hbef pos text.length (by omega), hself]
  · rw [hbef p n (by omega), hoths p n (.inl hp)]

theorem keepText_spec {message : StoredMessage}
    (hfit : titleSize + 1 + messageBytes message.textSize message.date ≤ a.size handle)
    (h : keepText a handle titleSize message = some b) :
    Arena.Wrote a b handle ∧ b.slice handle (titleSize + 1) message.textSize
          = a.slice handle message.textOffset message.textSize := by
  unfold messageBytes at hfit
  have hmove := wrote_moveWithin a handle (titleSize + 1) message.textOffset
    message.textSize (by omega)
  have hnul := wrote_write (a.moveWithin handle (titleSize + 1) message.textOffset
    message.textSize) handle (titleSize + 1 + message.textSize) [0]
    (by rw [hmove.size, length_singleton]; omega)
  obtain ⟨hdate, hbef⟩ := writeDate_spec (by rw [hnul.size, hmove.size]; omega) h
  refine ⟨(hmove.trans hnul).trans hdate, ?_⟩
  rw [hbef _ _ (by omega), slice_write_of_disjoint _ _ _ _ (Or.inl (by omega)),
    slice_moveWithin]

/-- A slice of two neighbouring slices. -/
theorem slice_add (a : Arena Handle) (handle : Handle) (pos n k : Nat) :
    a.slice handle pos (n + k) = a.slice handle pos n ++ a.slice handle (pos + n) k := by
  unfold slice
  rw [Mem.load_add, Nat.add_assoc]

/-- **The usernames are read back with their terminators.** -/
theorem writeUsernames_spec (names : List Bytes) :
    ∀ (a : Arena Handle) (handle : Handle) (pos : Nat),
      pos + (cstrings names).length ≤ a.size handle →
      Arena.Wrote a (writeUsernames a handle pos names) handle
        ∧ (writeUsernames a handle pos names).slice handle pos (cstrings names).length
            = cstrings names
        ∧ ∀ p n, p + n ≤ pos →
            (writeUsernames a handle pos names).slice handle p n = a.slice handle p n := by
  induction names with
  | nil => intro a handle pos _; exact ⟨Arena.Wrote.refl a handle, rfl, fun _ _ _ => rfl⟩
  | cons name names ih =>
    intro a handle pos hfit
    have hlen : (cstrings (name :: names)).length
        = name.length + 1 + (cstrings names).length := by
      rw [cstrings_cons, length_append, length_append]
      rfl
    rw [hlen] at hfit ⊢
    obtain ⟨hwrite, hname, hoths⟩ := wrote_cstring a handle pos name (by omega)
    obtain ⟨hwrote, hself, hbef⟩ := ih _ handle (pos + name.length + 1)
      (by rw [hwrite.size]; omega)
    have hnul : ((a.write handle pos name).write handle (pos + name.length) [0]).slice handle
        (pos + name.length) 1 = [0] := slice_write_self _ _ _ [0]
    rw [writeUsernames]
    refine ⟨hwrite.trans hwrote, ?_, fun p n hp => ?_⟩
    · rw [slice_add, ← Nat.add_assoc, hself, hbef pos (name.length + 1) (by omega), slice_add,
        hname, hnul, cstrings_cons]
    · rw [hbef p n (by omega), hoths p n (.inl hp)]

theorem cstrings_length (names : List Bytes) :
    (cstrings names).length = (names.map fun name => name.length + 1).sum := by
  unfold cstrings
  rw [length_flatMap]
  refine congrArg _ (map_congr_left ?_)
  intro name _
  simp

/-! ## §2. The carried texts. -/

/-- The texts of a chat as its updates carry them; a chat without a last
message has the empty text. -/
structure ChatTexts where
  title : Bytes
  text : Bytes
deriving DecidableEq, Repr

/-- **The abstract tables**: the texts last carried for each chat and each
entity. -/
structure Texts where
  chat : Int → Option ChatTexts
  entity : EntityKind → Int → Option (List Bytes)

def Texts.empty : Texts := { chat := fun _ => none, entity := fun _ _ => none }

def Texts.setChat (σ : Texts) (id : Int) (texts : Option ChatTexts) : Texts :=
  { σ with chat := fun j => if j = id then texts else σ.chat j }

def Texts.setEntity (σ : Texts) (kind : EntityKind) (id : Int) (usernames : List Bytes) : Texts :=
  { σ with entity := fun k j => if k = kind ∧ j = id then some usernames else σ.entity k j }

/-- What the readers give for one chat. -/
def readChat (a : Arena Handle) (slot : Nat) (chat : ChatRecord) : ChatTexts :=
  { title := chatTitle a slot chat, text := chatMessageText a slot chat }

/-- **The stored chats read as carried.** -/
def FaithfulChats (s : Metadata) (σ : Texts) : Prop :=
  ∀ slot chat, s.chats.lookup slot = some chat →
    σ.chat chat.id = some (readChat s.arena slot chat)

/-- **The stored entities read as carried.** -/
def FaithfulEntities (s : Metadata) (σ : Texts) : Prop :=
  ∀ slot entity, s.entities.lookup slot = some entity →
    ∃ usernames, σ.entity entity.kind entity.id = some usernames
      ∧ entity.usernameCount = usernames.length
      ∧ ∀ i, i < usernames.length →
          some (entityUsername s.arena slot entity i) = usernames[i]?

def Faithful (s : Metadata) (σ : Texts) : Prop := FaithfulChats s σ ∧ FaithfulEntities s σ

/-! ## §3. The invariant. -/

/-- The slices of a chat lie in its block. -/
def ChatFits (a : Arena Handle) (slot : Nat) (chat : ChatRecord) : Prop :=
  chat.titleSize ≤ a.size (.chat slot)
    ∧ ∀ message, chat.lastMessage = some message →
        message.textOffset + message.textSize ≤ a.size (.chat slot)

structure Inv (s : Metadata) (σ : Texts) : Prop where
  arena : ArenaOk s.arena
  chats : Probe.Reach s.chatIds chatStart kStreamMetadataChats
  entities : Probe.Reach s.entityKeys entityStart kStreamMetadataEntities
  fits : ∀ slot chat, s.chats.lookup slot = some chat → ChatFits s.arena slot chat
  usernames : ∀ slot entity, s.entities.lookup slot = some entity →
    ∃ usernames, σ.entity entity.kind entity.id = some usernames
      ∧ entity.usernameCount = usernames.length
      ∧ (∀ name ∈ usernames, (0 : UInt8) ∉ name)
      ∧ s.arena.content (.entity slot) = cstrings usernames

theorem inv_empty (mem : Mem) : Inv (empty mem) Texts.empty := by
  refine ⟨arenaOk_fresh mem, reach_empty _ _, reach_empty _ _, ?_, ?_⟩
  · intro slot chat h
    exact absurd h (by simp [empty])
  · intro slot entity h
    exact absurd h (by simp [empty])

/-- A block ends inside the arena. -/
theorem ArenaOk.end_le (hok : ArenaOk a)
    (hne : a.size handle ≠ 0) : a.offset handle + a.size handle ≤ kStreamMetadataBytes := by
  obtain ⟨hused, order, hval, -⟩ := hok
  have hmem : handle ∈ order := by
    by_contra hm
    exact hne (hval.empty handle hm)
  have hend := (Arena.Packed.end_le order 0 hval.packed handle hmem).2
  rw [Nat.zero_add, ← hval.used] at hend
  omega

variable {σ : Texts}

/-- **Entities always read as carried**: their blocks are only ever written
whole. -/
theorem Inv.faithfulEntities (h : Inv s σ) : FaithfulEntities s σ := by
  intro slot entity hlook
  obtain ⟨names, hσ, hcnt, hnul, hcont⟩ := h.usernames slot entity hlook
  refine ⟨names, hσ, hcnt, ?_⟩
  intro i hi
  have hlen : s.arena.size (.entity slot) = (cstrings names).length := by
    rw [← hcont, content_length]
  have hne : s.arena.size (.entity slot) ≠ 0 := by
    rw [hlen]
    cases names with
    | nil => cases hi
    | cons name names => rw [cstrings_cons]; simp
  have hend := h.arena.end_le hne
  unfold entityUsername
  rw [if_neg (by omega)]
  refine nthString_eq names s.arena.mem kStreamMetadataBytes _ i hnul ?_ (by rw [← hlen]; exact hend) hi
  rw [← hlen]
  exact hcont

/-- A chat whose block is untouched reads as before. -/
theorem ChatFits.frame (h : ChatFits a slot chat)
    (hc : b.content (.chat slot) = a.content (.chat slot)) :
    ChatFits b slot chat ∧ readChat b slot chat = readChat a slot chat := by
  have hsize : b.size (.chat slot) = a.size (.chat slot) := by
    rw [← content_length, ← content_length, hc]
  have hslice : ∀ pos n, pos + n ≤ a.size (.chat slot) →
      b.slice (.chat slot) pos n = a.slice (.chat slot) pos n := by
    intro pos n hn
    rw [slice_content b _ (by omega), slice_content a _ hn, hc]
  refine ⟨?_, ?_⟩
  · unfold ChatFits
    rw [hsize]
    exact h
  · have htitle : chatTitle b slot chat = chatTitle a slot chat :=
      hslice 0 chat.titleSize (by have := h.1; omega)
    have htext : chatMessageText b slot chat = chatMessageText a slot chat := by
      unfold chatMessageText
      cases hm : chat.lastMessage with
      | none => rfl
      | some message => exact hslice message.textOffset message.textSize (h.2 message hm)
    unfold readChat
    rw [htitle, htext]

/-! ## §4. Storing a record. -/

/-- The search for `key` ended at `slot`. -/
def EndsAt (result : Slot) (slot : Nat) : Prop := result = .found slot ∨ result = .free slot

/-- A slot `slot_for` gives is where the search ended. -/
theorem slotFor_ok {result : Slot} {count limit : Nat} {full : StreamFailure}
    (h : slotFor result count limit full = .ok slot) : EndsAt result slot := by
  unfold slotFor at h
  cases result with
  | found i =>
    cases h
    exact Or.inl rfl
  | free i =>
    simp only at h
    split at h
    · cases h
    · cases h
      exact Or.inr rfl
  | full => cases h

section Keyed

variable {K : Type} [DecidableEq K] {table : Nat → Option K} {start : K → Nat} {cap slot : Nat}
  {key : K}

/-- Storing a key where its search ended. -/
theorem reach_store (hr : Probe.Reach table start cap)
    (h : EndsAt (slotOf table start cap key) slot) :
    Probe.Reach (insert table slot key) start cap := by
  rcases h with h | h
  · rw [insert_found (slotOf_found h)]
    exact hr
  · exact reach_insert hr h

/-- No other slot has the key. -/
theorem other_key (hr : Probe.Reach table start cap)
    (h : EndsAt (slotOf table start cap key) slot) (hj : j ≠ slot)
    (hk : table j = some k) : k ≠ key := by
  intro heq
  have hfound := hr j k hk
  rw [heq] at hfound
  rw [EndsAt, hfound] at h
  rcases h with h | h
  · cases h
    exact hj rfl
  · cases h

theorem slot_lt (hcap : 0 < cap) (h : EndsAt (slotOf table start cap key) slot) : slot < cap :=
  probe_lt hcap h

end Keyed

/-- The tables with one chat stored. -/
structure ChatStored (s s' : Metadata) (slot : Nat) (chat : ChatRecord) : Prop where
  chats : s'.chats = s.chats.insert slot chat
  entities : s'.entities = s.entities
  ok : ArenaOk s'.arena
  others : ∀ j, j ≠ .chat slot → s'.arena.content j = s.arena.content j
  fits : ChatFits s'.arena slot chat

theorem ChatStored.lookup (h : ChatStored s s' slot chat) (hj : s'.chats.lookup j = some c) :
    (j = slot ∧ c = chat) ∨ (j ≠ slot ∧ s.chats.lookup j = some c) := by
  rw [h.chats] at hj
  by_cases hjs : j = slot
  · subst hjs
    rw [AList.lookup_insert] at hj
    injection hj with hj
    exact Or.inl ⟨rfl, hj.symm⟩
  · rw [AList.lookup_insert_ne hjs] at hj
    exact Or.inr ⟨hjs, hj⟩

theorem ChatStored.chatIds
    (h : ChatStored s s' slot chat) : s'.chatIds = insert s.chatIds slot chat.id := by
  funext j
  unfold Metadata.chatIds Probe.insert
  rw [h.chats]
  by_cases hjs : j = slot
  · subst hjs
    rw [AList.lookup_insert, if_pos rfl]
    rfl
  · rw [AList.lookup_insert_ne hjs, if_neg hjs]

/-- **Storing a chat keeps the invariant.** -/
theorem inv_setChat {σ' : Texts} (hinv : Inv s σ) (hslot : EndsAt (s.chatSlot chat.id) slot)
    (h : ChatStored s s' slot chat) (hσ : σ'.entity = σ.entity) : Inv s' σ' := by
  refine ⟨h.ok, ?_, ?_, ?_, ?_⟩
  · rw [h.chatIds]
    exact reach_store hinv.chats hslot
  · have : s'.entityKeys = s.entityKeys := by
      unfold entityKeys
      rw [h.entities]
    rw [this]
    exact hinv.entities
  · intro j c hj
    rcases h.lookup hj with ⟨rfl, rfl⟩ | ⟨hne, hj⟩
    · exact h.fits
    · exact ((hinv.fits j c hj).frame (h.others _ (by simpa using hne))).1
  · intro j e hj
    rw [h.entities] at hj
    rw [h.others _ (by simp), hσ]
    exact hinv.usernames j e hj

/-- **Storing a chat reads as carried** exactly when the stored chat does. -/
theorem faithful_setChat {σ' : Texts} (hinv : Inv s σ) (hf : FaithfulChats s σ)
    (hslot : EndsAt (s.chatSlot chat.id) slot) (h : ChatStored s s' slot chat)
    (hσ : ∀ j, j ≠ chat.id → σ'.chat j = σ.chat j) :
    FaithfulChats s' σ' ↔ σ'.chat chat.id = some (readChat s'.arena slot chat) := by
  refine ⟨?_, ?_⟩
  · intro hf'
    refine hf' slot chat ?_
    rw [h.chats, AList.lookup_insert]
  · intro hread j c hj
    rcases h.lookup hj with ⟨rfl, rfl⟩ | ⟨hne, hj⟩
    · exact hread
    · have hid : c.id ≠ chat.id :=
        other_key hinv.chats hslot hne (by unfold chatIds; rw [hj]; rfl)
      rw [hσ _ hid, hf j c hj, ((hinv.fits j c hj).frame (h.others _ (by simpa using hne))).2]

end TgCli.Stream
