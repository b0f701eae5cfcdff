/-
  TgCli.Stream.Publication — THE ITEMS COME IN ORDER

  The live updates of a run of the normalizer, each with the tables it found
  (`LiveUpdate`), decide the items: those that PRODUCE one (`LiveUpdate.produces`) and
  only those, in their order.  Part of the items was handed to the sink, the rest is
  queued behind a new chat whose entity is still unknown.

  Main results:
    * `emit_emitted` — what one update does to the queue;
    * `step_published` — what one step keeps;
    * `ordered_publication` — what holds after every run.
-/
import Mathlib.Data.List.TakeWhile
import TgCli.Lib.Folds
import TgCli.Stream.Candidates

namespace TgCli.Stream

open Tdlib Lib List
open Ingress (StreamItemView)

/-! ## §1. Live updates. -/

/-- An update of the Ready phase and the tables it finds. -/
structure LiveUpdate where
  before : Metadata
  sequence : Nat
  value : TdValue

/-- The chat an update concerns: a new chat is its own; an entity that changes concerns its
known chat; any other update of a chat names it. -/
def LiveUpdate.chat (u : LiveUpdate) : Option (Int × ChatKind) :=
  match u.value with
  | .newChat chat => (chatKind chat.kind).map fun kind => (chat.id, kind)
  | value =>
    match value.entity with
    | some entity =>
      if u.before.storedEntity entity.kind entity.id = some entity then none
      else
        (u.before.relatedChat entity.kind entity.id).map fun found =>
          (found.2.id, found.2.kind)
    | none =>
      match value.event u.sequence with
      | some event =>
        (u.before.findChat event.chatId).map fun found => (event.chatId, found.2.kind)
      | none => none

/-- **The update produces an item**: it concerns a chat that is not secret. -/
def LiveUpdate.produces (u : LiveUpdate) : Bool := u.chat.any fun chat => chat.2 != .secret

/-- The live updates of an input. -/
def liveOf {ω : Type} (n : Normalizer ω) : Input → List LiveUpdate
  | .update sequence value =>
    match n.phase with
    | .bootstrap => []
    | .ready => [{ before := n.metadata, sequence := sequence, value := value }]
  | .currentState _ _ => []

/-- The live updates of a run. -/
def live {ω : Type} (publish : ω → Metadata → Metadata → Nat → TdValue → Option ω)
    (n : Normalizer ω) : List Input → List LiveUpdate
  | [] => []
  | input :: inputs =>
    liveOf n input
      ++ match step publish n input with
        | .error _ => []
        | .ok n => live publish n inputs

variable {u : LiveUpdate}

open LiveUpdate

theorem LiveUpdate.chat_of_entity (h : u.value.entity = some entity) :
    u.chat = if u.before.storedEntity entity.kind entity.id = some entity then none
      else (u.before.relatedChat entity.kind entity.id).map fun found =>
        (found.2.id, found.2.kind) := by
  unfold chat
  split
  next chat hvalue =>
    rw [hvalue] at h
    cases h
  · rw [h]

theorem LiveUpdate.chat_of_event (hvalue : ∀ chat, u.value ≠ .newChat chat)
    (hent : u.value.entity = none) (h : u.value.event u.sequence = some event) :
    u.chat = (u.before.findChat event.chatId).map fun found => (event.chatId, found.2.kind) := by
  unfold chat
  split
  next chat heq => exact absurd heq (hvalue chat)
  · rw [hent, h]

theorem LiveUpdate.produces_of_chat {id : Int} {kind : ChatKind}
    (h : u.chat = some (id, kind)) : u.produces = (kind != .secret) := by
  unfold produces
  rw [h]
  rfl

theorem LiveUpdate.not_produces (h : u.chat = none) : u.produces = false := by
  unfold produces
  rw [h]
  rfl

/-! ## §2. What is queued and what was sent. -/

/-- The item of this sequence and chat stems from the update, and the chat is not secret. -/
def Stems (u : LiveUpdate) (sequence : Nat) (chatId : Int) : Prop :=
  u.sequence = sequence ∧ ∃ kind, kind ≠ .secret ∧ u.chat = some (chatId, kind)

/-- **The line of a new chat shows what its own update carried.** -/
def OwnLine (render : Event → Option Bytes) (u : LiveUpdate) (line : Bytes) : Prop :=
  ∀ value, u.value = .newChat value → ∃ kind isBot usernames, chatKind value.kind = some kind
    ∧ renderLine render (.new (ownSummary value kind isBot usernames)) = some line

/-- **The candidate waits**: a new chat, frozen with its own texts, whose entity is unknown. -/
def Waits (a : Arena Nat) (s : Metadata) (u : LiveUpdate) (c : Candidate) : Prop :=
  ∃ value kind entity, u.value = .newChat value ∧ chatKind value.kind = some kind
    ∧ entityKind kind = some entity ∧ c.frozen = some (chatRecord value kind)
    ∧ OwnBlock value (a.content c.sequence) ∧ s.findEntity entity value.relatedId = none

/-- A candidate of the queue, given the live updates. -/
def Queued (render : Event → Option Bytes) (a : Arena Nat) (s : Metadata)
    (updates : List LiveUpdate) (c : Candidate) : Prop :=
  ∃ u ∈ updates, Stems u c.sequence c.chatId
    ∧ (c.complete = true → OwnLine render u (a.content c.sequence))
    ∧ (c.complete = false → Waits a s u c)

/-- An item the sink was given. -/
def Sent (render : Event → Option Bytes) (updates : List LiveUpdate) (item : StreamItemView) :
    Prop :=
  ∃ u ∈ updates, Stems u item.receiveSequence item.routing.chatId
    ∧ OwnLine render u (item.first ++ item.second)

/-- The queue of a run with these live updates. -/
structure Queue (render : Event → Option Bytes) (updates : List LiveUpdate) (s : Metadata)
    (o : Order) : Prop where
  blocks : Blocks o.arena (sequences o.candidates)
  short : o.candidates.length ≤ kStreamMetadataOrderItems
  queued : ∀ c ∈ o.candidates, Queued render o.arena s updates c

section Rendered

variable {render : Event → Option Bytes} {updates : List LiveUpdate} {s s' : Metadata}

variable {updates' : List LiveUpdate} {o o' : Order} {u : LiveUpdate} {id : Int} {kind : ChatKind}
  {slot : Nat} {n n' : Normalizer Order}

/-- A candidate whose block is the same, after changes that made no entity known. -/
theorem Queued.mono {a a' : Arena Nat} (h : Queued render a s updates c)
    (hmore : updates ⊆ updates') (hsame : a'.content c.sequence = a.content c.sequence)
    (hunk : c.complete = false → ∀ kind id,
      s.findEntity kind id = none → s'.findEntity kind id = none) :
    Queued render a' s' updates' c := by
  obtain ⟨u, hu, hstems, hline, hwaits⟩ := h
  refine ⟨u, hmore hu, hstems, fun hcomp => hsame ▸ hline hcomp, fun hopen => ?_⟩
  obtain ⟨value, kind, entity, hvalue, hkind, hent, hfrz, hown, hnone⟩ := hwaits hopen
  exact ⟨value, kind, entity, hvalue, hkind, hent, hfrz, hsame ▸ hown, hunk hopen _ _ hnone⟩

theorem Queue.mono (h : Queue render updates s o) (hmore : updates ⊆ updates')
    (hunk : ∀ kind id, s.findEntity kind id = none → s'.findEntity kind id = none) :
    Queue render updates' s' o :=
  ⟨h.blocks, h.short, fun c hc => (h.queued c hc).mono hmore rfl fun _ => hunk⟩

theorem Queue.keeps (h : Queue render updates s o) (hmore : updates ⊆ updates')
    (hkeeps : Keeps s s') : Queue render updates' s' o :=
  h.mono hmore fun kind id hnone => (findEntity_congr hkeeps.2 kind id).trans hnone

/-- What the emission of `u` does to the queue. -/
structure Emitted (render : Event → Option Bytes) (updates : List LiveUpdate) (s : Metadata)
    (u : LiveUpdate) (o o' : Order) : Prop where
  queue : Queue render updates s o'
  sequences : sequences o'.candidates
    = sequences o.candidates ++ if u.produces then [u.sequence] else []
  delivered : o'.delivered = o.delivered
  barrier : o'.barrier = (o.barrier || u.produces)

theorem emitted_nothing (h : Queue render updates s o)
    (hnot : u.produces = false) : Emitted render updates s u o o where
  queue := h
  sequences := by rw [hnot]; exact (append_nil _).symm
  delivered := rfl
  barrier := by rw [hnot, Bool.or_false]

theorem emitted_candidate {c : Candidate} (h : Queue render updates s o)
    (hprod : u.produces) (hc : c.sequence = u.sequence)
    (hfresh : u.sequence ∉ sequences o.candidates) (hbytes : bytes ≠ [])
    (hpush : pushCandidate o c bytes = some o')
    (hnew : ∀ a : Arena Nat, a.content c.sequence = bytes → Queued render a s updates c) :
    Emitted render updates s u o o' := by
  rw [← hc] at hfresh
  obtain ⟨hcand, hdeliv, hbarrier, hsh, hblk, hself, hoths⟩ :=
    pushCandidate_spec h.blocks h.short hfresh hbytes hpush
  refine ⟨⟨hblk, hsh, ?_⟩, ?_, hdeliv, ?_⟩
  · intro d hd
    rw [hcand] at hd
    rcases mem_append.mp hd with hold | hlast
    · have hne : d.sequence ≠ c.sequence := by
        intro heq
        exact hfresh (heq ▸ mem_map_of_mem hold)
      exact (h.queued d hold).mono (fun _ hu => hu) (hoths _ hne) fun _ _ _ hnone => hnone
    · rw [mem_singleton] at hlast
      subst hlast
      exact hnew _ hself
  · rw [hcand, hprod, if_pos rfl, ← hc]
    exact map_append ..
  · rw [hbarrier, hprod, Bool.or_true]

/-- A complete candidate that is not of a new chat, or shows its own data. -/
theorem emitted_rendered {event : Event} (h : Queue render updates s o) (hu : u ∈ updates)
    (hchat : u.chat = some (id, kind)) (hkind : kind ≠ .secret)
    (hfresh : u.sequence ∉ sequences o.candidates)
    (happ : appendRendered render o u.sequence event = some o') (hid : event.chatId = id)
    (hown : ∀ line, renderLine render event = some line → OwnLine render u line) :
    Emitted render updates s u o o' := by
  subst hid
  unfold appendRendered at happ
  split at happ
  · cases happ
  rename_i line hline
  have hprod : u.produces := by
    rw [u.produces_of_chat hchat]
    exact bne_iff_ne.mpr hkind
  refine emitted_candidate h hprod rfl hfresh (renderLine_ne_nil hline) happ ?_
  intro a hcont
  refine ⟨u, hu, ⟨rfl, kind, hkind, hchat⟩, fun _ => ?_, fun hopen => absurd hopen (by simp)⟩
  rw [hcont]
  exact hown line hline

/-! ## §3. The emissions. -/

theorem slotIndex_of_endsAt (h : EndsAt result slot) : slotIndex result = slot := by
  rcases h with h | h <;> rw [h] <;> rfl

theorem findEntity_of_findEntitySlot {kind : EntityKind}
    (h : s.findEntitySlot kind id = none) : s.findEntity kind id = none := by
  unfold Metadata.findEntitySlot at h
  unfold Metadata.findEntity
  cases hslot : s.entitySlot kind id with
  | found slot =>
    rw [hslot] at h
    exact Option.map_eq_none_iff.mp h
  | free slot => rfl
  | full => rfl

theorem entityKind_eq_none (h : entityKind kind = none) : kind = .secret := by
  cases kind <;> first | rfl | exact absurd h (by simp [entityKind])

theorem entityKind_ne_secret (h : entityKind kind = some entity) : kind ≠ .secret := by
  rintro rfl
  exact absurd h (by simp [entityKind])

/-- The chat of an entity is not secret. -/
theorem relatedChat_kind {kind : EntityKind} {chat : ChatRecord}
    (h : s.relatedChat kind id = some (slot, chat)) : chat.kind ≠ .secret := by
  obtain ⟨entry, hentry, heq⟩ := Option.map_eq_some_iff.mp h
  have hfound := find?_some hentry
  simp only [Bool.and_eq_true, bne_iff_ne] at hfound
  injection heq with _ hchat
  rw [← hchat]
  exact hfound.1.1

/-- The block of a chat that was just stored. -/
theorem ownBlock_stored {value : TdChat} (hsto : ChatStored s s' slot (chatRecord value kind))
    (hread : readChat s'.arena slot (chatRecord value kind)
      = { title := value.title, text := messageText value.lastMessage }) :
    OwnBlock value (s'.arena.content (.chat slot)) := by
  have htitle : chatTitle s'.arena slot (chatRecord value kind) = value.title :=
    congrArg ChatTexts.title hread
  have htext : chatMessageText s'.arena slot (chatRecord value kind)
      = messageText value.lastMessage := congrArg ChatTexts.text hread
  have hfits : value.title.length ≤ s'.arena.size (.chat slot) := hsto.fits.1
  have hbeh : ∀ message, value.lastMessage = some message →
      value.title.length + 1 + message.text.length ≤ s'.arena.size (.chat slot) := by
    intro message hm
    exact hsto.fits.2 (storeMessage message (value.title.length + 1) message.text.length) (by
      unfold chatRecord
      rw [hm]
      rfl)
  refine ⟨by rw [Arena.content_length]; exact hfits, ?_, ?_, ?_⟩
  · have := Arena.slice_content s'.arena (.chat slot)
      (show 0 + value.title.length ≤ s'.arena.size (.chat slot) by omega)
    rw [drop_zero] at this
    rw [← this]
    exact htitle
  · intro message hm
    rw [Arena.content_length]
    exact hbeh message hm
  · intro message hm
    rw [← Arena.slice_content s'.arena (.chat slot) (hbeh message hm)]
    unfold chatMessageText chatRecord at htext
    rw [hm] at htext
    exact htext

/-- **The emission of `apply_chat`.** -/
theorem emitNewChat_emitted {value : TdChat} (hlay : Layout u.before)
    (h : Queue render updates u.before o) (hu : u ∈ updates)
    (hfresh : u.sequence ∉ sequences o.candidates) (hvalue : u.value = .newChat value)
    (hkind : chatKind value.kind = some kind) (happly : applyChat u.before value .active = .ok s)
    (hemit : emitNewChat render o u.before s u.sequence value kind = some o') :
    Emitted render updates s u o o' := by
  obtain ⟨kind', slot, hkind', hslot, hstore⟩ := applyChat_ok happly
  rw [hkind] at hkind'
  cases hkind'
  obtain ⟨hsto, hsize, hread⟩ := storeChat_block hlay.arena hslot hstore
  have hqueue : Queue render updates s o :=
    h.keeps (fun _ hu => hu) ((applyChat_rewrites happly).keeps hlay)
  have hchat : u.chat = some (value.id, kind) := by
    unfold chat
    rw [hvalue]
    simp only [hkind, Option.map_some]
  unfold emitNewChat at hemit
  split at hemit
  next hsecret =>
    -- a secret chat
    cases hemit
    refine emitted_nothing hqueue ?_
    rw [u.produces_of_chat hchat, entityKind_eq_none hsecret]
    rfl
  next entity hent =>
    have hne := entityKind_ne_secret hent
    simp only [slotIndex_of_endsAt hslot] at hemit
    split at hemit
    next hnone =>
      -- the entity is unknown: the chat is frozen
      have hprod : u.produces := by
        rw [u.produces_of_chat hchat]
        exact bne_iff_ne.mpr hne
      have hblock : s.arena.content (.chat slot) ≠ [] := by
        intro hnil
        have hlen := congrArg List.length hnil
        rw [Arena.content_length, hsize] at hlen
        unfold chatIncoming at hlen
        exact absurd hlen (by simp)
      refine emitted_candidate hqueue hprod rfl hfresh hblock hemit fun a hcont => ?_
      refine ⟨u, hu, ⟨rfl, kind, hne, hchat⟩, fun hdone => absurd hdone (by simp), fun _ => ?_⟩
      refine ⟨value, kind, entity, hvalue, hkind, hent, rfl, ?_, findEntity_of_findEntitySlot hnone⟩
      rw [hcont]
      exact ownBlock_stored hsto hread
    next found hfound =>
      split at hemit
      · cases hemit
      refine emitted_rendered hqueue hu hchat hne hfresh hemit rfl ?_
      intro line hline value' hvalue'
      rw [hvalue] at hvalue'
      cases hvalue'
      rw [show chatTitle s.arena slot (chatRecord value kind) = value.title from
          congrArg ChatTexts.title hread,
        show chatMessageText s.arena slot (chatRecord value kind)
          = messageText value.lastMessage from congrArg ChatTexts.text hread,
        summary_chatRecord] at hline
      exact ⟨kind, _, _, hkind, hline⟩

/-- **The emission of the updates of a known chat.** -/
theorem emitChat_emitted {event : Event} (h : Queue render updates s o) (hu : u ∈ updates)
    (hfresh : u.sequence ∉ sequences o.candidates) (hvalue : ∀ chat, u.value ≠ .newChat chat)
    (hent : u.value.entity = none) (hevent : u.value.event u.sequence = some event)
    (hemit : emitChat render o u.before u.sequence event = some o') :
    Emitted render updates s u o o' := by
  have hchat := chat_of_event hvalue hent hevent
  unfold emitChat at hemit
  split at hemit
  · cases hemit
  rename_i slot chat hfound
  rw [hfound, Option.map_some] at hchat
  split at hemit
  next hsecret =>
    cases hemit
    refine emitted_nothing h ?_
    rw [u.produces_of_chat hchat, hsecret]
    rfl
  next hne =>
    refine emitted_rendered h hu hchat hne hfresh hemit rfl ?_
    intro line _ value hnew
    exact absurd hnew (hvalue value)

/-- `complete_frozen` completes exactly the chats whose entity became known. -/
theorem completeFrozen_queue {entity stored : NamedEntity} (hlay : Layout s)
    (h : Queue render updates s o)
    (happly : applyEntity s entity.kind entity.id entity.isBot entity.isChannel entity.usernames
      .active = .ok s') (hdone : completeFrozen render o.arena o.charged stored o.candidates
      = some (candidates, a, charged)) (hkey : stored.kind = entity.kind ∧ stored.id = entity.id) :
    Queue render updates s' { o with candidates := candidates, arena := a, charged := charged }
      ∧ sequences candidates = sequences o.candidates := by
  obtain ⟨hblk, -, hall⟩ := completeFrozen_spec
    (show (sequences o.candidates).length ≤ _ by
      unfold sequences; rw [length_map]; exact h.short)
    o.candidates o.arena o.charged candidates a charged h.blocks
    (fun c hc => mem_map_of_mem hc) h.blocks.nodup hdone
  have hsequences : sequences candidates = sequences o.candidates :=
    map_related hall fun _ _ hadv => hadv.sequence
  refine ⟨⟨hsequences ▸ hblk, hall.length_eq ▸ h.short, ?_⟩, hsequences⟩
  intro c' hc'
  obtain ⟨c, hc, hadv⟩ := exists_related (Forall₂.flip (R := flip _) hall) hc'
  have hqd := h.queued c hc
  by_cases hwaits : c.waitsFor stored.kind stored.id = none
  · -- not concerned: what it waits for is still unknown
    obtain ⟨rfl, hsame⟩ := hadv.kept hwaits
    obtain ⟨u, hu, hstems, hline, hopen⟩ := hqd
    refine ⟨u, hu, hstems, fun hcomp => hsame ▸ hline hcomp, fun hinc => ?_⟩
    obtain ⟨value, kind, e, hvalue, hkind, he, hfrz, hown, hnone⟩ := hopen hinc
    refine ⟨value, kind, e, hvalue, hkind, he, hfrz, hsame ▸ hown,
      applyEntity_unknown hlay happly ?_ hnone⟩
    rintro ⟨rfl, hid⟩
    refine absurd hwaits ?_
    unfold Candidate.waitsFor
    rw [hinc, hfrz, hkey.1, hkey.2]
    have hrelated : (chatRecord value kind).relatedId = entity.id := hid
    have hof : entityKind (chatRecord value kind).kind = some entity.kind := he
    simp [Option.filter, hrelated, hof]
  · obtain ⟨hcomp, hrendered⟩ := hadv.completed hwaits
    obtain ⟨chat, hchat⟩ := Option.ne_none_iff_exists'.mp hwaits
    obtain ⟨u, hu, hstems, -, hopen⟩ := hqd
    obtain ⟨value, kind, e, hvalue, hkind, -, hfrz, hown, -⟩ := hopen (waitsFor_some hchat).1
    refine ⟨u, hu, ?_, fun _ => ?_, fun hinc => ?_⟩
    · rw [hadv.sequence, hadv.chatId]
      exact hstems
    · intro value' hvalue'
      rw [hvalue] at hvalue'
      cases hvalue'
      refine ⟨kind, stored.isBot, stored.usernames, hkind, ?_⟩
      rw [hadv.sequence]
      exact hrendered value kind hfrz hown
    · rw [hcomp] at hinc
      cases hinc

/-- **The emission of `apply_entity`.** -/
theorem emitEntity_emitted {entity : NamedEntity} (hlay : Layout u.before)
    (h : Queue render updates u.before o) (hu : u ∈ updates)
    (hfresh : u.sequence ∉ sequences o.candidates) (hent : u.value.entity = some entity)
    (happly : applyEntity u.before entity.kind entity.id entity.isBot entity.isChannel
      entity.usernames .active = .ok s)
    (hemit : emitEntity render o u.before s u.sequence entity = some o') :
    Emitted render updates s u o o' := by
  have hchat := chat_of_entity hent
  have hvalue : ∀ chat, u.value ≠ .newChat chat := by
    intro chat hnew
    rw [hnew] at hent
    cases hent
  unfold emitEntity at hemit
  simp only at hemit
  split at hemit
  · cases hemit
  rename_i candidates a charged hdone
  obtain ⟨hqueue, hsequences⟩ := completeFrozen_queue hlay h happly hdone ⟨rfl, rfl⟩
  -- the event of the known chat comes behind the completed candidates
  have hrest : ∀ o', Emitted render updates s u
      { o with candidates := candidates, arena := a, charged := charged } o' →
      Emitted render updates s u o o' := fun o' he =>
    ⟨he.queue, he.sequences.trans (by rw [hsequences]), he.delivered, he.barrier⟩
  refine hrest o' ?_
  rw [← hsequences] at hfresh
  split at hemit
  next hnone =>
    cases hemit
    refine emitted_nothing hqueue (u.not_produces ?_)
    rw [hchat, hnone]
    split <;> rfl
  next slot chat hrelated =>
    split at hemit
    next hsame =>
      cases hemit
      refine emitted_nothing hqueue (u.not_produces ?_)
      rw [hchat, if_pos hsame]
    next hchanged =>
      rw [if_neg hchanged, hrelated, Option.map_some] at hchat
      refine emitted_rendered hqueue hu hchat (relatedChat_kind hrelated) hfresh hemit rfl ?_
      intro line _ value hnew
      exact absurd hnew (hvalue value)

/-- **What one update does to the queue.** -/
theorem emit_emitted (hlay : Layout u.before) (h : Queue render updates u.before o)
    (hu : u ∈ updates) (hfresh : u.sequence ∉ sequences o.candidates)
    (happly : applyValue u.before u.value true = .ok s)
    (hemit : emit render o u.before s u.sequence u.value = some o') :
    Emitted render updates s u o o' := by
  unfold emit at hemit
  split at hemit
  next chat hvalue =>
    split at hemit
    · cases hemit
    next kind hkind =>
      rw [hvalue] at happly
      exact emitNewChat_emitted hlay h hu hfresh hvalue hkind happly hemit
  next value hnot =>
    split at hemit
    next entity hent =>
      rcases applyValue_cases hlay happly with ⟨entity', hsome, hsto⟩ | ⟨hnone, -⟩
      · rw [hent] at hsome
        cases hsome
        exact emitEntity_emitted hlay h hu hfresh hent hsto hemit
      · rw [hent] at hnone
        cases hnone
    next hent =>
      have hkeeps : Keeps u.before s := by
        rcases applyValue_cases hlay happly with ⟨entity, hsome, -⟩ | ⟨-, hkeeps⟩
        · rw [hent] at hsome
          cases hsome
        · exact hkeeps
      have hqueue := h.keeps (fun _ hu => hu) hkeeps
      split at hemit
      next event hevent =>
        exact emitChat_emitted hqueue hu hfresh hnot hent hevent hemit
      rename_i hevent
      cases hemit
      refine emitted_nothing hqueue (u.not_produces ?_)
      unfold chat
      split
      next chat hvalue => exact absurd hvalue (hnot chat)
      · rw [hent, hevent]

/-! ## §4. Draining. -/

/-- The state of a run with these live updates. -/
structure Published (render : Event → Option Bytes) (n : Normalizer Order)
    (updates : List LiveUpdate) : Prop where
  layout : Layout n.metadata
  queue : Queue render updates n.metadata n.out
  bootstrap : n.phase = .bootstrap → n.out.candidates = []
  increasing : (updates.map sequence).Pairwise (· < ·)
  received : ∀ u ∈ updates, u.sequence ≤ n.lastSequence
  produced : n.out.delivered.map StreamItemView.receiveSequence ++ sequences n.out.candidates
    = (updates.filter produces).map sequence
  sent : ∀ item ∈ n.out.delivered, Sent render updates item
  head : ∀ c ∈ n.out.candidates.head?, c.complete = false
  barrier : n.out.barrier = !n.out.candidates.isEmpty

theorem Sent.mono (h : Sent render updates item)
    (hmore : updates ⊆ updates') : Sent render updates' item := by
  obtain ⟨u, hu, hrest⟩ := h
  exact ⟨u, hmore hu, hrest⟩

section Drain

variable (h : Queue render updates s o)
include h

theorem drain_queue : Queue render updates s (drain o) := by
  obtain ⟨hcand, -, -, hblk, hcont⟩ := drain_spec h.blocks h.short
  have hsub : (drain o).candidates.Sublist o.candidates := by
    rw [hcand]
    exact dropWhile_sublist _
  refine ⟨hblk, hsub.length_le.trans h.short, fun c hc => ?_⟩
  exact (h.queued c (hsub.subset hc)).mono (fun _ hu => hu) (hcont c hc) fun _ _ _ hnone => hnone

/-- Draining moves sequences from the queue to the sink. -/
theorem drain_sequences :
    (drain o).delivered.map StreamItemView.receiveSequence ++ sequences (drain o).candidates
      = o.delivered.map StreamItemView.receiveSequence ++ sequences o.candidates := by
  obtain ⟨hcand, hdeliv, -, -, -⟩ := drain_spec h.blocks h.short
  have hsplit : sequences o.candidates
      = sequences (o.candidates.takeWhile (·.complete))
        ++ sequences (o.candidates.dropWhile (·.complete)) := by
    unfold sequences
    rw [← map_append, takeWhile_append_dropWhile]
  have hitems : ((o.candidates.takeWhile (·.complete)).map
        fun c => c.item (o.arena.content c.sequence)).map StreamItemView.receiveSequence
      = sequences (o.candidates.takeWhile (·.complete)) := by
    rw [map_map]
    rfl
  rw [hcand, hdeliv, map_append, hitems, append_assoc, ← hsplit]

theorem drain_sent (hsent : ∀ item ∈ o.delivered, Sent render updates item) :
    ∀ item ∈ (drain o).delivered, Sent render updates item := by
  obtain ⟨-, hdeliv, -, -, -⟩ := drain_spec h.blocks h.short
  intro item hit
  rw [hdeliv] at hit
  rcases mem_append.mp hit with hold | hnew
  · exact hsent item hold
  · obtain ⟨c, hc, rfl⟩ := mem_map.mp hnew
    have hcomp : c.complete := mem_takeWhile_imp hc
    obtain ⟨u, hu, hstems, hline, -⟩ := h.queued c ((takeWhile_sublist _).subset hc)
    refine ⟨u, hu, hstems, ?_⟩
    show OwnLine render u (List.take _ _ ++ List.drop _ _)
    rw [take_append_drop]
    exact hline hcomp

theorem drain_head : ∀ c ∈ (drain o).candidates.head?, c.complete = false := by
  obtain ⟨hcand, -, -, -, -⟩ := drain_spec h.blocks h.short
  intro c hc
  have hnot := head?_dropWhile_not (fun c : Candidate => c.complete) o.candidates
  rw [← hcand, Option.mem_def.mp hc] at hnot
  simpa using hnot

end Drain

/-- The barrier of an update that found the barrier right. -/
theorem drain_barrier (h : Emitted render updates s u o o')
    (hbarrier : o.barrier = !o.candidates.isEmpty) :
    (drain o').barrier = !(drain o').candidates.isEmpty := by
  obtain ⟨hcand, -, hdrained, -, -⟩ := drain_spec h.queue.blocks h.queue.short
  rw [hdrained]
  cases hemp : (drain o').candidates.isEmpty with
  | true => rfl
  | false =>
    -- something was queued before, or the update queued it
    have hsome : o'.barrier := by
      rw [h.barrier, hbarrier]
      by_cases hprod : u.produces = true
      · rw [hprod, Bool.or_true]
      have hsame := h.sequences
      rw [if_neg hprod, append_nil] at hsame
      cases hold : o.candidates with
      | cons c rest => rfl
      | nil =>
        rw [hold] at hsame
        have hnone : o'.candidates = [] := map_eq_nil_iff.mp hsame
        rw [hcand, hnone] at hemp
        cases hemp
    rw [hsome]
    rfl

/-! ## §5. Steps and runs. -/

theorem Published.initial (render : Event → Option Bytes) (mem mem' : Mem) :
    Published render (Normalizer.begin mem (Order.empty mem')) [] where
  layout := ⟨arenaOk_fresh mem, Probe.reach_empty _ _⟩
  queue := ⟨⟨[], Arena.fresh_valid mem', .nil⟩, Nat.zero_le _, fun _ h => by cases h⟩
  bootstrap := fun _ => rfl
  increasing := .nil
  received := fun _ h => by cases h
  produced := rfl
  sent := fun _ h => by cases h
  head := fun _ h => by cases h
  barrier := rfl

/-- A step that changes neither the queue nor the live updates. -/
theorem Published.same (h : Published render n updates) (hlay : Layout n'.metadata)
    (hout : n'.out = n.out) (hph : n.phase = .bootstrap)
    (hlast : n.lastSequence ≤ n'.lastSequence) : Published render n' updates := by
  have hnone : n'.out.candidates = [] := hout ▸ h.bootstrap hph
  refine ⟨hlay, ⟨hout ▸ h.queue.blocks, hout ▸ h.queue.short, ?_⟩, fun _ => hnone, h.increasing,
    fun u hu => (h.received u hu).trans hlast, hout ▸ h.produced, hout ▸ h.sent, hout ▸ h.head,
    hout ▸ h.barrier⟩
  intro c hc
  rw [hnone] at hc
  cases hc

/-- Every sequence of the queue is of an earlier update. -/
theorem Published.fresh {sequence : Nat} (h : Published render n updates)
    (hlast : n.lastSequence < sequence) : sequence ∉ sequences n.out.candidates := by
  intro hmem
  obtain ⟨c, hc, hseq⟩ := mem_map.mp hmem
  obtain ⟨u, hu, ⟨heq, -⟩, -⟩ := h.queue.queued c hc
  have := h.received u hu
  omega

/-- **A live update.** -/
theorem Published.update {sequence : Nat} {value : TdValue} {after : Metadata} {out : Order}
    (h : Published render n updates) (hph : n.phase = .ready) (hlast : n.lastSequence < sequence)
    (happly : applyValue n.metadata value true = .ok after)
    (hpublish : publish render n.out n.metadata after sequence value = some out) :
    Published render { n with lastSequence := sequence, metadata := after, out := out }
      (updates ++ [{ before := n.metadata, sequence := sequence, value := value }]) := by
  obtain ⟨o, hemit, rfl⟩ := Option.map_eq_some_iff.mp hpublish
  have hmore : updates ⊆ updates ++ [⟨n.metadata, sequence, value⟩] :=
    subset_append_left ..
  have hemitted := emit_emitted (u := ⟨n.metadata, sequence, value⟩) h.layout
    (h.queue.mono hmore fun _ _ hnone => hnone) (mem_append_right _ mem_cons_self)
    (h.fresh hlast) happly hemit
  refine ⟨applyValue_layout h.layout happly, drain_queue hemitted.queue, ?_, ?_, ?_, ?_, ?_,
    drain_head hemitted.queue, drain_barrier hemitted h.barrier⟩
  · intro hbootstrap
    rw [show n.phase = .bootstrap from hbootstrap] at hph
    cases hph
  · rw [map_append, map_singleton, pairwise_append]
    refine ⟨h.increasing, pairwise_singleton _ _, fun x hx y hy => ?_⟩
    obtain ⟨u, hu, rfl⟩ := mem_map.mp hx
    rw [mem_singleton.mp hy]
    exact (h.received u hu).trans_lt hlast
  · exact forall_mem_append.mpr
      ⟨fun u hu => (h.received u hu).trans hlast.le, forall_mem_singleton.mpr le_rfl⟩
  · show (drain o).delivered.map _ ++ sequences (drain o).candidates = _
    rw [drain_sequences hemitted.queue, hemitted.delivered, hemitted.sequences,
      ← append_assoc, h.produced, filter_append, map_append]
    congr 1
    rw [filter_singleton]
    cases produces ⟨n.metadata, sequence, value⟩ <;> rfl
  · refine drain_sent hemitted.queue fun item hit => ?_
    rw [hemitted.delivered] at hit
    exact (h.sent item hit).mono hmore

/-- **What one step does**: it leaves the queue alone, or it is a live update. -/
theorem step_cases {input : Input} (hstep : step (publish render) n input = .ok n') :
    (liveOf n input = []
      ∧ (n' = n ∨ n.phase = .bootstrap ∧ n.lastSequence ≤ n'.lastSequence ∧ n'.out = n.out))
    ∨ ∃ sequence value after out, n.phase = .ready ∧ n.lastSequence < sequence
      ∧ applyValue n.metadata value true = .ok after
      ∧ publish render n.out n.metadata after sequence value = some out
      ∧ n' = { n with lastSequence := sequence, metadata := after, out := out }
      ∧ liveOf n input = [⟨n.metadata, sequence, value⟩] := by
  cases input with
  | currentState barrier result =>
    refine .inl ⟨rfl, ?_⟩
    rcases currentState_ok hstep with ⟨-, rfl⟩ | ⟨updates, s, s', hph, -, -, -, rfl⟩
    · exact .inl rfl
    · exact .inr ⟨hph, le_max_left .., rfl⟩
  | update sequence value =>
    simp only [step, Stream.update] at hstep
    split at hstep
    · cases hstep
    unfold liveOf
    cases hph : n.phase with
    | bootstrap =>
      rw [hph] at hstep
      obtain ⟨-, hlast, -, hout⟩ := bufferValue_keeps hstep
      refine .inl ⟨rfl, .inr ⟨rfl, ?_, hout⟩⟩
      rw [hlast]
      show n.lastSequence ≤ sequence
      omega
    | ready =>
      rw [hph] at hstep
      simp only at hstep
      split at hstep
      · cases hstep
      rename_i after happly
      split at hstep
      · cases hstep
      rename_i out hout
      cases hstep
      exact .inr ⟨sequence, value, after, out, rfl, by omega, happly, hout,
        by simp, rfl⟩

/-- **What one step keeps.** -/
theorem step_published (h : Published render n updates)
    (hstep : step (publish render) n input = .ok n') :
    Published render n' (updates ++ liveOf n input) := by
  have hlay := step_layout h.layout hstep
  rcases step_cases hstep with ⟨hlive, hsame⟩ | ⟨sequence, value, after, out, hph, hlast, happly,
    hout, rfl, hlive⟩
  · rw [hlive, append_nil]
    rcases hsame with rfl | ⟨hph, hlast, hout⟩
    · exact h
    · exact h.same hlay hout hph hlast
  · rw [hlive]
    exact h.update hph hlast happly hout

/-- **No item is ahead of its normalizer**: what has been delivered after a step carries
sequences reached by then, as the calls of the hub's receive thread assume
(`Ingress.Calls.update`). -/
theorem step_delivers (h : Published render n updates)
    (hstep : step (publish render) n input = .ok n') :
    ∀ item ∈ n'.out.delivered, item.receiveSequence ≤ n'.lastSequence := by
  have hpub := step_published h hstep
  intro item hitem
  have hmem : item.receiveSequence ∈ ((updates ++ liveOf n input).filter produces).map sequence := by
    rw [← hpub.produced]
    exact mem_append_left _ (mem_map_of_mem hitem)
  obtain ⟨u, hu, hsequence⟩ := mem_map.mp hmem
  rw [← hsequence]
  exact hpub.received u (mem_of_mem_filter hu)

theorem run_published (inputs : List Input) :
    ∀ (n n' : Normalizer Order) (updates : List LiveUpdate), Published render n updates →
      run (publish render) n inputs = .ok n' →
      Published render n' (updates ++ live (publish render) n inputs) := by
  induction inputs with
  | nil =>
    intro n n' updates h hrun
    cases hrun
    show Published render n (updates ++ [])
    rw [append_nil]
    exact h
  | cons input inputs ih =>
    intro n n' updates h hrun
    unfold run at hrun
    split at hrun
    · cases hrun
    rename_i n1 hstep
    have hrest := ih n1 n' _ (step_published h hstep) hrun
    unfold live
    rw [hstep, ← append_assoc]
    exact hrest

/-- **Ordered publication.**  After every run that did not fail:

  * the live updates have increasing sequences;
  * the items handed to the sink have increasing sequences;
  * delivered and queued items together are those of the updates that produce one, each once
    and in their order;
  * each item is of a chat that is not secret, and a new chat's shows what its own update
    carried;
  * the queue begins with a new chat whose entity is unknown, so nothing overtakes it;
  * the barrier is up exactly when something is queued. -/
theorem ordered_publication (render : Event → Option Bytes) (mem mem' : Mem)
    (inputs : List Input) (n : Normalizer Order)
    (h : run (publish render) (Normalizer.begin mem (Order.empty mem')) inputs = .ok n) :
    let updates := live (publish render) (Normalizer.begin mem (Order.empty mem')) inputs
    (updates.map sequence).Pairwise (· < ·)
      ∧ (n.out.delivered.map StreamItemView.receiveSequence).Pairwise (· < ·)
      ∧ n.out.delivered.map StreamItemView.receiveSequence ++ sequences n.out.candidates
        = (updates.filter produces).map sequence
      ∧ (∀ item ∈ n.out.delivered, Sent render updates item)
      ∧ (∀ c ∈ n.out.candidates, Queued render n.out.arena n.metadata updates c)
      ∧ (∀ c ∈ n.out.candidates.head?, c.complete = false)
      ∧ n.out.barrier = !n.out.candidates.isEmpty := by
  intro updates
  have hpub : Published render n updates :=
    run_published inputs _ n [] (Published.initial render mem mem') h
  refine ⟨hpub.increasing, ?_, hpub.produced, hpub.sent, hpub.queue.queued, hpub.head, hpub.barrier⟩
  -- the delivered sequences are a part of those of the updates
  have hsub : ((updates.filter produces).map sequence).Pairwise (· < ·) :=
    hpub.increasing.sublist (List.Sublist.map _ filter_sublist)
  rw [← hpub.produced] at hsub
  exact (pairwise_append.mp hsub).1

end Rendered

/-! ## §6. A delayed item. -/

/-- Shows the title of a new chat. -/
def titleOnly : Event → Option Bytes
  | .new chat => some chat.title
  | _ => some []

/-- A chat "Alpha" whose user is unknown, its new title "Bravo", then the user. -/
def delayedChat : List Input :=
  [.currentState 1 (.state []),
   .update 2 (.newChat { id := 11, title := [65, 108, 112, 104, 97], kind := .privateChat
                         relatedId := 11 }),
   .update 3 (.chatTitle 11 [66, 114, 97, 118, 111]),
   .update 4 (.user { id := 11 })]

def sampleNormalizer : Normalizer Order := Normalizer.begin (fun _ => 0) (Order.empty fun _ => 0)

/-- The items after a run. -/
def itemsAfter (result : Except StreamFailure (Normalizer Order)) : Option (List (Nat × Bytes)) :=
  match result with
  | .error _ => none
  | .ok n => some (n.out.delivered.map fun item => (item.receiveSequence, item.first ++ item.second))

/-- All three items went out in order, the first with the title of its own update. -/
theorem ordered_publication_delayed :
    ∃ n, run (publish titleOnly) sampleNormalizer delayedChat = .ok n
      ∧ itemsAfter (run (publish titleOnly) sampleNormalizer delayedChat)
        = some [(2, [65, 108, 112, 104, 97, 10]), (3, [10]), (4, [10])]
      ∧ (n.out.delivered.map StreamItemView.receiveSequence).Pairwise (· < ·)
      ∧ n.out.barrier = !n.out.candidates.isEmpty := by
  have hitems : itemsAfter (run (publish titleOnly) sampleNormalizer delayedChat)
      = some [(2, [65, 108, 112, 104, 97, 10]), (3, [10]), (4, [10])] := by decide +kernel
  cases hrun : run (publish titleOnly) sampleNormalizer delayedChat with
  | error e =>
    rw [hrun] at hitems
    cases hitems
  | ok n =>
    have hall := ordered_publication titleOnly (fun _ => 0) (fun _ => 0) delayedChat n hrun
    refine ⟨n, rfl, ?_, hall.2.1, hall.2.2.2.2.2.2⟩
    rw [← hrun]
    exact hitems

end TgCli.Stream
