/-
  TgCli.Stream.Fold — IS THE METADATA FOLD FAITHFUL?

  The texts a run should leave are the fold of what its changes carry
  (`Texts.apply`).  `applyChange_spec` puts the functions' specifications
  together; from it, by induction over the changes,

    `metadataFold_faithful_iff` — in every run that does not fail, after
    every change the titles, texts and usernames read from the arena are the
    ones last carried EXACTLY WHEN every title and last-message change found
    its kept slice in place (`KeepsTexts`).

  `metadataFold_unfaithful` is a run that breaks it: a new last message for a
  chat that is not the last block of the arena shows another chat's bytes as
  its title.
-/
import TgCli.Stream.Steps

namespace TgCli.Stream

open Tdlib Lib Normalizer Metadata

/-! ## §1. What the changes carry. -/

/-- What a value carries. -/
def TdValue.carried : TdValue → Carried
  | .user u => .entity .user u.id u.usernames
  | .basicGroup group => .entity .basicGroup group.id []
  | .supergroup group => .entity .supergroup group.id group.usernames
  | .newChat chat => .chat chat.id { title := chat.title, text := messageText chat.lastMessage }
  | .chatTitle id title => .title id title
  | .chatLastMessage id m => .text id (messageText m)
  | _ => .nothing

/-- What a buffered update carries. -/
def Buffered.carried : Buffered → Carried
  | .entity kind id _ _ usernames => .entity kind id usernames
  | .newChat _ chat => .chat chat.id { title := chat.title, text := messageText chat.lastMessage }
  | .title id t => .title id t
  | .lastMessage id message => .text id (messageText message)
  | _ => .nothing

def Change.carried : Change → Carried
  | .value v _ => v.carried
  | .buffered item => item.carried

/-- The carried texts fit the arena. -/
def Carried.Fits : Carried → Prop
  | .chat _ texts => texts.title.length ≤ kStreamMetadataBytes
      ∧ texts.text.length ≤ kStreamMetadataBytes
  | .title _ t => t.length ≤ kStreamMetadataBytes
  | .text _ t => t.length ≤ kStreamMetadataBytes
  | _ => True

instance : DecidablePred Carried.Fits := by
  intro carried
  cases carried <;> unfold Carried.Fits <;> infer_instance

/-- The specification of one change. -/
def StepSpec (s s' : Metadata) (σ : Texts) (carried : Carried) : Prop :=
  Inv s' (σ.apply carried)
    ∧ (FaithfulChats s σ → (FaithfulChats s' (σ.apply carried) ↔ KeepsTexts s carried))

variable {s s' : Metadata} {σ : Texts} {change : Change}

/-- A change that keeps nothing. -/
theorem stepSpec_of (hkeeps : KeepsTexts s carried)
    (h : Inv s' (σ.apply carried) ∧ (FaithfulChats s σ → FaithfulChats s' (σ.apply carried))) :
    StepSpec s s' σ carried :=
  ⟨h.1, fun hf => ⟨fun _ => hkeeps, fun _ => h.2 hf⟩⟩

/-! ## §2. One change. -/

theorem applyBufferedChat_stepSpec {kind : ChatKind} {value : TdChat} {phase : StreamMetadataPhase}
    (hinv : Inv s σ) (hfits : Carried.Fits
      (.chat value.id { title := value.title, text := messageText value.lastMessage }))
    (h : applyBufferedChat s kind value phase = .ok s') :
    StepSpec s s' σ
      (.chat value.id { title := value.title, text := messageText value.lastMessage }) := by
  have hcast : uint32 (chatIncoming value) = chatIncoming value := by
    obtain ⟨htitle, htext⟩ := hfits
    refine uint32_fits ?_
    unfold chatIncoming
    cases hm : value.lastMessage with
    | none => show value.title.length + 1 + 0 ≤ _; dsimp only at htitle; omega
    | some message =>
      rw [hm] at htext
      show value.title.length + 1 + messageBytes message.text.length message.date ≤ _
      have htext' : message.text.length ≤ kStreamMetadataBytes := htext
      have hbytes := messageBytes_le message.text.length message.date
      dsimp only at htitle
      omega
  obtain ⟨slot, hslot, hsto⟩ := applyBufferedChat_ok h
  rw [hcast] at hsto
  exact stepSpec_of trivial (storeChat_spec hinv hslot hsto)

/-- A value of the Ready phase or of the current state. -/
theorem applyValue_spec {value : TdValue} {emit : Bool} (hinv : Inv s σ)
    (hfits : value.carried.Fits) (h : applyValue s value emit = .ok s') :
    StepSpec s s' σ value.carried := by
  unfold applyValue at h
  cases value with
  | malformedSupported kind reason => cases h
  | directConversionError => cases h
  | error e => cases h
  | user user | supergroup group => exact stepSpec_of trivial (applyEntity_spec hinv h)
  | basicGroup group =>
    simp only [applyBasicGroup] at h
    split at h
    · cases h
    · exact stepSpec_of trivial (applyEntity_spec hinv h)
  | newChat chat =>
    obtain ⟨kind, slot, -, hslot, hsto⟩ := applyChat_ok h
    exact stepSpec_of trivial (storeChat_spec hinv hslot hsto)
  | chatTitle id title => exact applyTitle_spec hinv hfits h
  | chatLastMessage id message =>
    exact applyLastMessage_spec hinv (by intro hm; rw [hm]; rfl) hfits h
  | chatAddedToList id list =>
    refine stepSpec_of trivial (updateChat_spec hinv ?_ h)
    intro chat chat' hchat
    split at hchat
    · cases hchat
    · exact addList_sameTexts hchat
  | chatRemovedFromList id list | chatReadInbox id messageId count =>
    refine stepSpec_of trivial (updateChat_spec hinv ?_ h)
    intro chat chat' hchat
    split at hchat
    · cases hchat
    · cases hchat
      exact ⟨rfl, rfl, rfl⟩
  | messageMentionRead id messageId count | messageUnreadReactions id messageId count
  | messageContainsUnreadPollVotes id messageId count =>
    exact stepSpec_of trivial
      (applyCounter_spec hinv (withMessageId_ok h) fun _ => ⟨rfl, rfl, rfl⟩)
  | chatUnreadMentionCount id count | chatUnreadReactionCount id count
  | chatUnreadPollVoteCount id count =>
    exact stepSpec_of trivial (applyCounter_spec hinv h fun _ => ⟨rfl, rfl, rfl⟩)
  | chatIsMarkedAsUnread id marked =>
    refine stepSpec_of trivial (updateChat_spec hinv ?_ h)
    intro chat chat' hchat
    cases hchat
    exact ⟨rfl, rfl, rfl⟩
  | message kind id =>
    dsimp only at h
    have hs : s = s' := by
      split at h
      · cases hm : metadataChat s id kind with
        | error e => rw [hm] at h; exact absurd h (by simp [Except.map])
        | ok found => rw [hm] at h; injection h
      · injection h
    rw [← hs]
    exact stepSpec_of trivial ⟨hinv, fun hf => hf⟩
  | other =>
    cases h
    exact stepSpec_of trivial ⟨hinv, fun hf => hf⟩

/-- A buffered update. -/
theorem applyBuffered_spec {item : Buffered} (hinv : Inv s σ) (hfits : item.carried.Fits)
    (h : applyBuffered s item = .ok s') : StepSpec s s' σ item.carried := by
  cases item with
  | entity kind id isBot isChannel usernames =>
    exact stepSpec_of trivial (applyEntity_spec hinv h)
  | newChat kind chat => exact applyBufferedChat_stepSpec hinv hfits h
  | title id title => exact applyTitle_spec hinv hfits h
  | lastMessage id message =>
    cases message with
    | none => exact applyLastMessage_spec hinv (fun _ => rfl) hfits h
    | some message => exact applyLastMessage_spec hinv (fun hm => absurd hm (by simp)) hfits h
  | listAdded id list =>
    exact stepSpec_of trivial
      (updateBufferedList_spec hinv (fun _ _ hchat => addList_sameTexts hchat) h)
  | listRemoved id list =>
    refine stepSpec_of trivial
      (updateBufferedList_spec (f := fun chat => .ok (removeList list chat)) hinv ?_ h)
    intro chat chat' hchat
    cases hchat
    exact ⟨rfl, rfl, rfl⟩
  | readInbox id messageId count | unreadMention id count | unreadReaction id count
  | unreadPollVote id count | markedUnread id marked =>
    obtain ⟨slot, chat, hfind, rfl⟩ := updateBuffered_ok h
    exact stepSpec_of trivial (setChat_spec hinv hfind ⟨rfl, rfl, rfl⟩)

/-- **One change of the tables.** -/
theorem applyChange_spec (hinv : Inv s σ) (hfits : change.carried.Fits)
    (h : applyChange s change = .ok s') : StepSpec s s' σ change.carried := by
  cases change with
  | value value emit => exact applyValue_spec hinv hfits h
  | buffered item => exact applyBuffered_spec hinv hfits h

/-! ## §3. Runs. -/

/-- The texts after a list of changes. -/
def foldTexts (σ : Texts) (changes : List Change) : Texts :=
  changes.foldl (fun σ change => σ.apply change.carried) σ

/-- After every change the tables read as carried. -/
def FaithfulAlong (s : Metadata) (σ : Texts) (changes : List Change) : Prop :=
  ∀ pre rest, changes = pre ++ rest →
    ∃ s', applyChanges s pre = .ok s' ∧ Faithful s' (foldTexts σ pre)

/-- Every change finds the texts it keeps in place. -/
def KeepsAlong (s : Metadata) (changes : List Change) : Prop :=
  ∀ pre change rest, changes = pre ++ change :: rest →
    ∃ s', applyChanges s pre = .ok s' ∧ KeepsTexts s' change.carried

theorem applyChanges_cons (h : applyChange s change = .ok s1)
    (pre : List Change) : applyChanges s (change :: pre) = applyChanges s1 pre := by
  rw [applyChanges, h]

/-- What holds at every cut of a list holds at its start and at every cut of the rest. -/
theorem forall_cut_cons {α : Type} {a : α} {l : List α} {P : List α → List α → Prop} :
    (∀ pre rest, a :: l = pre ++ rest → P pre rest)
      ↔ P [] (a :: l) ∧ ∀ pre rest, l = pre ++ rest → P (a :: pre) rest := by
  constructor
  · exact fun h => ⟨h [] _ rfl, fun pre rest hcut => h (a :: pre) rest (by rw [hcut]; rfl)⟩
  · rintro ⟨hnil, hcons⟩ (_ | ⟨b, pre⟩) rest hcut
    · exact (show a :: l = rest from hcut) ▸ hnil
    · injection hcut with hb hcut
      exact hb ▸ hcons pre rest hcut

theorem faithfulAlong_cons (hchn : applyChange s change = .ok s1) :
    FaithfulAlong s σ (change :: changes)
      ↔ Faithful s σ ∧ FaithfulAlong s1 (σ.apply change.carried) changes := by
  unfold FaithfulAlong
  rw [forall_cut_cons]
  simp only [applyChanges_cons hchn]
  exact and_congr_left' ⟨fun ⟨_, hs, hf⟩ => Except.ok.inj hs ▸ hf, fun h => ⟨s, rfl, h⟩⟩

theorem keepsAlong_cons (hchn : applyChange s change = .ok s1) :
    KeepsAlong s (change :: changes) ↔ KeepsTexts s change.carried ∧ KeepsAlong s1 changes := by
  have hcut : ∀ s changes, KeepsAlong s changes ↔ ∀ pre rest, changes = pre ++ rest →
      ∀ c tail, rest = c :: tail →
        ∃ s', applyChanges s pre = .ok s' ∧ KeepsTexts s' c.carried := fun s changes =>
    ⟨fun h pre rest hsplit c tail hrest => h pre c tail (hrest ▸ hsplit),
      fun h pre c rest hsplit => h pre _ hsplit c rest rfl⟩
  rw [hcut, forall_cut_cons, hcut]
  simp only [applyChanges_cons hchn]
  refine and_congr_left' ⟨fun h => ?_, ?_⟩
  · obtain ⟨_, hs, hk⟩ := h change changes rfl
    exact Except.ok.inj hs ▸ hk
  · rintro h c tail hrest
    injection hrest with hc
    exact ⟨s, rfl, hc ▸ h⟩

instance (s : Metadata) : (carried : Carried) → Decidable (KeepsTexts s carried)
  | .title id _ => decidable_of_iff (∀ p ∈ s.findChat id, ∀ message ∈ p.2.lastMessage,
      KeepsSlice s.arena (.chat p.1) message.textOffset message.textSize) (by simp [KeepsTexts])
  | .text id _ => decidable_of_iff (∀ p ∈ s.findChat id,
      KeepsSlice s.arena (.chat p.1) 0 p.2.titleSize) (by simp [KeepsTexts])
  | .nothing | .entity _ _ _ | .chat _ _ => .isTrue trivial

/-- `KeepsAlong`, computed. -/
def keepsAlong : Metadata → List Change → Bool
  | _, [] => true
  | s, change :: changes =>
    match applyChange s change with
    | .error _ => false
    | .ok s' => decide (KeepsTexts s change.carried) && keepsAlong s' changes

theorem keepsAlong_sound (changes : List Change) :
    ∀ s, keepsAlong s changes → KeepsAlong s changes := by
  induction changes with
  | nil => exact fun _ _ pre change rest hsplit => absurd hsplit (by simp)
  | cons change changes ih =>
    intro s h
    unfold keepsAlong at h
    split at h
    · cases h
    · rename_i s' hchn
      rw [Bool.and_eq_true, decide_eq_true_eq] at h
      exact (keepsAlong_cons hchn).mpr ⟨h.1, ih s' h.2⟩

/-- **The changes of a run, one by one.** -/
theorem faithfulAlong_iff (changes : List Change) :
    ∀ (s s' : Metadata) (σ : Texts), Inv s σ → FaithfulChats s σ →
      (∀ change ∈ changes, change.carried.Fits) → applyChanges s changes = .ok s' →
      (FaithfulAlong s σ changes ↔ KeepsAlong s changes) := by
  induction changes with
  | nil =>
    intro s s' σ hinv hf _ _
    refine ⟨?_, ?_⟩
    · intro _ pre change rest hsplit
      exact absurd hsplit (by simp)
    · intro _ pre rest hsplit
      have hpre : pre = [] := (List.append_eq_nil_iff.mp hsplit.symm).1
      subst hpre
      exact ⟨s, rfl, hf, hinv.faithfulEntities⟩
  | cons change changes ih =>
    intro s s' σ hinv hf hfits hrun
    rw [applyChanges] at hrun
    cases hchn : applyChange s change with
    | error e => rw [hchn] at hrun; cases hrun
    | ok s1 =>
      rw [hchn] at hrun
      obtain ⟨hinv1, hstep⟩ := applyChange_spec hinv (hfits change (by simp)) hchn
      have hfits' : ∀ c ∈ changes, c.carried.Fits := fun c hc => hfits c (by simp [hc])
      rw [faithfulAlong_cons hchn, keepsAlong_cons hchn]
      refine ⟨?_, ?_⟩
      · intro h
        -- the state after the change reads as carried, so the change kept
        obtain ⟨s2, hs2, hf2, -⟩ := h.2 [] changes rfl
        injection hs2 with hs2
        have hf1 : FaithfulChats s1 (σ.apply change.carried) := by
          rw [hs2]
          exact hf2
        exact ⟨(hstep hf).mp hf1, (ih s1 s' _ hinv1 hf1 hfits' hrun).mp h.2⟩
      · intro h
        have hf1 := (hstep hf).mpr h.1
        exact ⟨⟨hf, hinv.faithfulEntities⟩, (ih s1 s' _ hinv1 hf1 hfits' hrun).mpr h.2⟩

variable {ω : Type} (publish : ω → Metadata → Metadata → Nat → TdValue → Option ω)

/-- **THE METADATA FOLD.**  In every run of the normalizer that does not
fail, the tables after each change read as carried exactly when each change
found what it keeps in place. -/
theorem metadataFold_faithful_iff (mem : Mem) (out : ω) (inputs : List Input) (n : Normalizer ω)
    (hrun : run publish (begin mem out) inputs = .ok n)
    (hfits : ∀ change ∈ log publish (begin mem out) inputs, change.carried.Fits) :
    applyChanges (empty mem) (log publish (begin mem out) inputs) = .ok n.metadata
      ∧ (FaithfulAlong (empty mem) Texts.empty (log publish (begin mem out) inputs)
          ↔ KeepsAlong (empty mem) (log publish (begin mem out) inputs)) := by
  have hlog := run_changes publish inputs _ _ hrun
  refine ⟨hlog, ?_⟩
  refine faithfulAlong_iff _ _ _ _ (inv_empty mem) ?_ hfits hlog
  intro slot chat h
  exact absurd h (by simp [empty])

/-! ## §4. Sample runs. -/

/-- The texts read for a chat after a run. -/
def storedTexts (result : Except StreamFailure (Normalizer ω)) (id : Int) : Option ChatTexts :=
  match result with
  | .error _ => none
  | .ok n => (n.metadata.findChat id).map fun found => readChat n.metadata.arena found.1 found.2

def samplePublish : Unit → Metadata → Metadata → Nat → TdValue → Option Unit :=
  fun _ _ _ _ _ => some ()

/-- A private chat with its user's id. -/
def privateChat (id : Int) (title : Bytes) : TdChat :=
  { id := id, title := title, kind := .privateChat, relatedId := id }

def sampleMessage (chatId : Int) (text : Bytes) : TdMessageSummary :=
  { id := 1, chatId := chatId, sender := { kind := .user, id := chatId }, text := text }

/-- Two private chats, "Alpha" and "Bravo", then a message "hi" in one of
them. -/
def twoChats (id : Int) : List Input :=
  [.currentState 1 (.state
    [.user { id := 11 }, .user { id := 12 },
     .newChat (privateChat 11 [65, 108, 112, 104, 97]),
     .newChat (privateChat 12 [66, 114, 97, 118, 111])]),
   .update 2 (.chatLastMessage id (some (sampleMessage id [104, 105])))]

def sampleStart : Normalizer Unit := begin (fun _ => 0) ()

theorem exists_run {n : Normalizer ω} {inputs : List Input} {id : Int} {texts : ChatTexts}
    (h : storedTexts (run publish n inputs) id = some texts) :
    ∃ n', run publish n inputs = .ok n' := by
  cases hr : run publish n inputs with
  | error e => rw [hr] at h; exact absurd h (by simp [storedTexts])
  | ok n' => exact ⟨n', rfl⟩

/-- **A run that is not faithful.**  The message for the first chat takes the
second chat's title into the first chat. -/
theorem metadataFold_unfaithful : storedTexts (run samplePublish sampleStart (twoChats 11)) 11
        = some { title := [66, 114, 97, 118, 111], text := [104, 105] }
      ∧ (foldTexts Texts.empty (log samplePublish sampleStart (twoChats 11))).chat 11
        = some { title := [65, 108, 112, 104, 97], text := [104, 105] } := by
  decide +kernel

/-- The same message for the last block of the arena keeps the title. -/
theorem metadataFold_faithful_twelve : ∃ n, run samplePublish sampleStart (twoChats 12) = .ok n
      ∧ KeepsAlong (empty fun _ => 0) (log samplePublish sampleStart (twoChats 12))
      ∧ FaithfulAlong (empty fun _ => 0) Texts.empty
        (log samplePublish sampleStart (twoChats 12)) := by
  have hread : storedTexts (run samplePublish sampleStart (twoChats 12)) 12
      = some { title := [66, 114, 97, 118, 111], text := [104, 105] } := by decide +kernel
  obtain ⟨n, hrun⟩ := exists_run samplePublish hread
  have hkeeps : KeepsAlong (empty fun _ => 0) (log samplePublish sampleStart (twoChats 12)) :=
    keepsAlong_sound _ _ (by decide +kernel)
  exact ⟨n, hrun, hkeeps, (metadataFold_faithful_iff samplePublish (fun _ => 0) () (twoChats 12) n
    hrun (by decide +kernel)).2.mpr hkeeps⟩

end TgCli.Stream
