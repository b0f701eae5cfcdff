/-
  TgCli.Forward.Records — THE VECTORS AS THE AUDIT LOG STORES THEM

  `forward_items_json` (daemon/write_commands.cpp): the items of the coordinator become
  the items of a `forward_progress` checkpoint.  A vector has no record when an id does
  not fit a JSON number, a message cannot be stored, the source ids do not increase, a
  message is in another chat than the destination or stands twice.

  A date before 1970 has no place in a record, and the coordinator passes none on.

  Main results:
    * `forwardItemJson_status` — a record shows what became of its item;
    * `forwardItemsJson_some` — which vectors have a record, and which one.
-/
import TgCli.Audit.Group
import TgCli.Forward.Coordinator

namespace TgCli.Forward

open Tdlib List Option

/-! ## §1. Messages. -/

/-- The scalars of a UTF-8 text. -/
def decodeUtf8 : Bytes → List Char
  | [] => []
  | first :: rest =>
    if first ≤ 0x7F then Char.ofNat first.toNat :: decodeUtf8 rest
    else if first ≤ 0xDF then
      match rest with
      | b1 :: rest =>
        Char.ofNat ((first.toNat % 32) * 64 + b1.toNat % 64) :: decodeUtf8 rest
      | _ => []
    else if first ≤ 0xEF then
      match rest with
      | b1 :: b2 :: rest =>
        Char.ofNat ((first.toNat % 16) * 4096 + (b1.toNat % 64) * 64 + b2.toNat % 64)
          :: decodeUtf8 rest
      | _ => []
    else
      match rest with
      | b1 :: b2 :: b3 :: rest =>
        Char.ofNat ((first.toNat % 8) * 262144 + (b1.toNat % 64) * 4096
          + (b2.toNat % 64) * 64 + b3.toNat % 64) :: decodeUtf8 rest
      | _ => []

def persistableMessageSummary (message : TdMessageSummary) : Bool :=
  validInt53 message.id && validInt53 message.chatId && validUtf8 message.text
    && decide (message.text.length ≤ Audit.kMessageTextBytes)
    && decide (scalarCount message.text ≤ Audit.kMessageTextScalars)

def senderRef (sender : TdMessageSender) : Option Audit.Sender :=
  match sender.kind with
  | .user => some (.user sender.id)
  | .chat => some (.chat sender.id)
  | .unknown => none

/-- `materialize_topic_ref`, behind its checks. -/
def topicRef (topic : TdTopic) : Option (Audit.TopicKind × Int) :=
  match topic.kind with
  | .forum => some (.forum, topic.id)
  | .thread => some (.thread, topic.id)
  | .direct => some (.direct, topic.id)
  | .saved => some (.saved, topic.id)
  | .unknown => none

def messageType : TdMessageContentKind → Audit.MessageType
  | .text => .text
  | .photo => .photo
  | .video => .video
  | .document => .doc
  | .voice => .voice
  | .other => .other

/-- `message_summary_json`, with the flag of a scheduled message. -/
def messageSummaryJson (message : TdMessageSummary) (scheduled : Bool) :
    Option Audit.SentMessage := do
  let sender ← senderRef message.sender
  if message.date < 0 then none
  else
    some
      { id := message.id
        chatId := message.chatId
        date := if message.date = 0 then none else some message.date.toNat
        sender := sender
        isOutgoing := message.isOutgoing
        topic := message.topic.bind topicRef
        type := messageType message.contentKind
        text := String.ofList (decodeUtf8 message.text)
        scheduled := scheduled }

/-- `message_write_result_json`; `none` is its `null`. -/
def messageWriteResultJson (value : TdMessageWriteResult) : Option Audit.SentMessage := do
  let summary : TdMessageSummary :=
    { id := value.id, chatId := value.chatId, date := value.date.getD 0, sender := value.sender
      isOutgoing := value.isOutgoing, topic := value.topic, contentKind := value.contentKind
      text := value.text }
  let materialized ← materializeMessageSummary summary
  if !persistableMessageSummary materialized || value.scheduled != value.date.isNone then none
  else messageSummaryJson materialized value.scheduled

/-! ## §2. Items. -/

def failureReason : ForwardFailureReason → Audit.ForwardFailure
  | .upstreamNull => .upstreamNull
  | .tdlibError => .tdlibError
  | .deletedBeforeConfirmation => .deletedBeforeConfirmation

def forwardItemJson (item : ForwardItem) : Option Audit.ForwardItem :=
  if !validInt53 item.sourceId then none
  else
    match item with
    | .pending sourceId temporaryMessageId =>
      if !validInt53 temporaryMessageId then none
      else some { sourceId := sourceId, status := .pending temporaryMessageId }
    | .sent sourceId message =>
      (messageWriteResultJson message).map fun message =>
        { sourceId := sourceId, status := .sent message }
    | .failed sourceId reason tdlibCode retryAfter =>
      if decide (reason = .tdlibError) != tdlibCode.isSome
          || retryAfter.any (fun seconds => tdlibCode != some 429 || decide (seconds < 0)) then
        none
      else some
        { sourceId := sourceId
          status := .failed (failureReason reason) tdlibCode (retryAfter.map Int.toNat) }

/-- **A record shows what became of its item.** -/
theorem forwardItemJson_status (h : forwardItemJson item = some value) :
    value.sourceId = item.sourceId ∧ value.isPending = item.isPending
      ∧ value.isSent = item.isSent ∧ value.deletedBeforeConfirmation = item.isDeleted := by
  unfold forwardItemJson at h
  split at h
  · cases h
  cases item with
  | pending sourceId id =>
    simp only at h
    split at h
    · cases h
    · cases h
      exact ⟨rfl, rfl, rfl, rfl⟩
  | sent sourceId message =>
    simp only [map_eq_some_iff] at h
    obtain ⟨stored, -, rfl⟩ := h
    exact ⟨rfl, rfl, rfl, rfl⟩
  | failed sourceId reason code retry =>
    simp only at h
    split at h
    · cases h
    · cases h
      cases reason <;> exact ⟨rfl, rfl, rfl, rfl⟩

/-! ## §3. Vectors. -/

/-- The id of the message of a record, if it is sent. -/
def finalIdOf (value : Audit.ForwardItem) : Option Int :=
  match value.status with
  | .sent message => some message.id
  | _ => none

/-- A sent item is in the destination chat. -/
def sentTo (destination : Int) (value : Audit.ForwardItem) : Bool :=
  match value.status with
  | .sent message => message.chatId == destination
  | _ => true

/-- The loop of `forward_items_json`: the id before the item, and the ids seen. -/
def forwardItemsLoop (destination : Int) (previous : Option Int) (seen : List Int) :
    List ForwardItem → Option (List Audit.ForwardItem)
  | [] => some []
  | item :: items => do
      let value ← forwardItemJson item
      if previous.any (fun id => decide (value.sourceId ≤ id)) || !sentTo destination value
          || (finalIdOf value).any (seen.contains ·) then none
      else
        let values ← forwardItemsLoop destination (some value.sourceId)
          ((finalIdOf value).toList ++ seen) items
        some (value :: values)

def forwardItemsJson (items : List ForwardItem) (destination : Int) :
    Option (List Audit.ForwardItem) :=
  forwardItemsLoop destination none [] items

/-- What the loop asks of the records it gives, the id before them and the ids seen. -/
structure Stored (destination : Int) (previous : Option Int) (seen : List Int)
    (values : List Audit.ForwardItem) : Prop where
  behind : ∀ id ∈ previous, ∀ value ∈ values, id < value.sourceId
  increasing : values.Pairwise (·.sourceId < ·.sourceId)
  addressed : ∀ value ∈ values, sentTo destination value = true
  unseen : ∀ id ∈ values.filterMap finalIdOf, id ∉ seen
  distinct : (values.filterMap finalIdOf).Nodup

theorem filterMap_finalIdOf_cons (value : Audit.ForwardItem) (values : List Audit.ForwardItem) :
    (value :: values).filterMap finalIdOf
      = (finalIdOf value).toList ++ values.filterMap finalIdOf := by
  cases h : finalIdOf value with
  | none => rw [filterMap_cons_none h]; rfl
  | some id => rw [filterMap_cons_some h]; rfl

/-- One item more. -/
theorem stored_cons : Stored destination previous seen (value :: values) ↔
      (∀ id ∈ previous, id < value.sourceId) ∧ sentTo destination value = true
        ∧ (∀ id ∈ finalIdOf value, id ∉ seen)
        ∧ Stored destination (some value.sourceId) ((finalIdOf value).toList ++ seen) values := by
  constructor
  · intro h
    have hincreasing := pairwise_cons.mp h.increasing
    have hunseen := h.unseen
    have hdist := h.distinct
    rw [filterMap_finalIdOf_cons] at hunseen hdist
    obtain ⟨-, hrest, hdisj⟩ := nodup_append.mp hdist
    refine ⟨fun id hid => h.behind id hid value mem_cons_self,
      h.addressed value mem_cons_self,
      fun id hid => hunseen id (mem_append_left _ (mem_toList.mpr hid)),
      ?_, hincreasing.2, fun v hv => h.addressed v (mem_cons_of_mem _ hv), ?_, hrest⟩
    · intro id hid v hv
      injection hid with hid
      exact hid ▸ hincreasing.1 v hv
    · intro id hid hseen
      rcases mem_append.mp hseen with hvalue | hseen
      · exact hdisj id hvalue id hid rfl
      · exact hunseen id (mem_append_right _ hid) hseen
  · rintro ⟨hbeh, haddr, hunseen, h⟩
    refine ⟨?_, pairwise_cons.mpr ⟨fun v hv => h.behind _ rfl v hv, h.increasing⟩, ?_, ?_, ?_⟩
    · intro id hid
      exact forall_mem_cons.mpr ⟨hbeh id hid, fun v hv =>
        Int.lt_trans (hbeh id hid) (h.behind _ rfl v hv)⟩
    · exact forall_mem_cons.mpr ⟨haddr, h.addressed⟩
    · intro id hid
      rw [filterMap_finalIdOf_cons] at hid
      rcases mem_append.mp hid with hvalue | hid
      · exact hunseen id (mem_toList.mp hvalue)
      · exact fun hseen => h.unseen id hid (mem_append_right _ hseen)
    · rw [filterMap_finalIdOf_cons]
      refine nodup_append.mpr ⟨?_, h.distinct, ?_⟩
      · cases finalIdOf value <;> simp
      · rintro id hvalue other hother rfl
        exact h.unseen id hother (mem_append_left _ hvalue)

theorem forwardItemsLoop_some (items : List ForwardItem) :
    ∀ (previous : Option Int) (seen : List Int) (values : List Audit.ForwardItem),
      forwardItemsLoop destination previous seen items = some values ↔
        items.mapM forwardItemJson = some values ∧ Stored destination previous seen values := by
  induction items with
  | nil =>
    intro previous seen values
    simp only [forwardItemsLoop, mapM_nil, Option.pure_def, Option.some.injEq]
    constructor
    · rintro rfl
      exact ⟨rfl, by simp, .nil, by simp, by simp, nodup_nil⟩
    · exact fun h => h.1
  | cons item items ih =>
    intro previous seen values
    rw [mapM_cons]
    simp only [forwardItemsLoop, Option.bind_eq_bind, Option.bind_eq_some_iff, Option.pure_def,
      some.injEq]
    constructor
    · rintro ⟨value, hvalue, h⟩
      split at h
      · cases h
      rename_i hchecks
      obtain ⟨rest, hrest, h⟩ := bind_eq_some_iff.mp h
      cases h
      obtain ⟨hmap, hsto⟩ := (ih _ _ _).mp hrest
      refine ⟨⟨value, hvalue, rest, hmap, rfl⟩, stored_cons.mpr ?_⟩
      simp only [Bool.or_eq_true, Option.any_eq_true, decide_eq_true_eq, Bool.not_eq_true',
        contains_iff_mem, not_or, not_exists, not_and, Bool.not_eq_false] at hchecks
      exact ⟨fun id hid => Int.not_le.mp (hchecks.1.1 id hid), hchecks.1.2, hchecks.2, hsto⟩
    · rintro ⟨⟨value, hvalue, rest, hmap, rfl⟩, hsto⟩
      obtain ⟨hbeh, haddr, hunseen, hsto⟩ := stored_cons.mp hsto
      refine ⟨value, hvalue, ?_⟩
      rw [if_neg]
      · exact bind_eq_some_iff.mpr ⟨rest, (ih _ _ _).mpr ⟨hmap, hsto⟩, rfl⟩
      · simp only [Bool.or_eq_true, Option.any_eq_true, decide_eq_true_eq, Bool.not_eq_true',
          contains_iff_mem, not_or, not_exists, not_and, Bool.not_eq_false]
        exact ⟨⟨fun id hid => Int.not_le.mpr (hbeh id hid), haddr⟩, hunseen⟩

/-- **The record of a vector**: its items one by one, in the destination chat, each id once. -/
theorem forwardItemsJson_some : forwardItemsJson items destination = some values ↔
      items.mapM forwardItemJson = some values ∧ Stored destination none [] values :=
  forwardItemsLoop_some items none [] values

/-- The items of a vector and its record, one by one. -/
theorem mapM_forwardItemJson {items : List ForwardItem} :
    ∀ {values : List Audit.ForwardItem}, items.mapM forwardItemJson = some values →
      List.Forall₂ (fun item value => forwardItemJson item = some value) items values := by
  induction items with
  | nil =>
    intro values h
    simp only [mapM_nil, Option.pure_def, Option.some.injEq] at h
    subst h
    exact .nil
  | cons item items ih =>
    intro values h
    rw [mapM_cons] at h
    simp only [Option.bind_eq_bind, Option.bind_eq_some_iff, Option.pure_def,
      Option.some.injEq] at h
    obtain ⟨value, hvalue, rest, hrest, rfl⟩ := h
    exact .cons hvalue (ih hrest)

section Shows

variable {items : List ForwardItem} {values : List Audit.ForwardItem}

/-- A property of items that their records show. -/
theorem any_of_records {p : ForwardItem → Bool} {q : Audit.ForwardItem → Bool}
    (hshows : ∀ item value, forwardItemJson item = some value → q value = p item)
    (h : items.mapM forwardItemJson = some values) : values.any q = items.any p := by
  have hall := mapM_forwardItemJson h
  clear h
  induction hall with
  | nil => rfl
  | cons hit _ ih => rw [any_cons, any_cons, ih, hshows _ _ hit]

variable (h : items.mapM forwardItemJson = some values)
include h

theorem any_isSent_records :
    values.any (·.isSent) = items.any (·.isSent) :=
  any_of_records (fun _ _ hit => (forwardItemJson_status hit).2.2.1) h

theorem any_deleted_records :
    values.any (·.deletedBeforeConfirmation) = items.any (·.isDeleted) :=
  any_of_records (fun _ _ hit => (forwardItemJson_status hit).2.2.2) h

theorem complete_records : Audit.forwardVectorComplete values = complete items := by
  have hpend := any_of_records (fun _ _ hit => (forwardItemJson_status hit).2.1) h
  unfold Audit.forwardVectorComplete complete
  rw [not_any_eq_all_not.symm, not_any_eq_all_not.symm, hpend]

end Shows

end TgCli.Forward
