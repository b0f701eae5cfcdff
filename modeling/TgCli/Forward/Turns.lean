/-
  TgCli.Forward.Turns — THE VECTORS OF A FORWARD ARE MONOTONE

  What the vectors look like that the coordinator hands to `on_progress`.  Each vector
  settles at least one pending item of the one before it and leaves the settled items
  alone.

  One turn of `wait_for_terminal` keeps the vectors a chain in which each settles
  something, so a run hands on at most as many as there are source ids, and the first.
  A turn that ends reports the mutation state the stored vectors show, but for the four
  cases of `diverges`.

  Main results:
    * `applyLoop_ok` — what one update does to the entries;
    * `parseMessages_ok` — the entries of a response;
    * `Steady.applied` — the vector an update adds to the ones before it;
    * `turn_ok` — what one turn keeps and what it reports;
    * `forward_progress_monotone` — the vectors of a whole run.
-/
import Mathlib.Data.List.Chain
import TgCli.Forward.Coordinator
import TgCli.Lib.Folds

namespace TgCli.Forward

open Tdlib Lib List ForwardItem Entry Prod

/-! ## §1. Vectors. -/

def pendingCount (items : List ForwardItem) : Nat := items.countP (·.isPending)

/-- The ids of the messages that were sent. -/
def finalIds (items : List ForwardItem) : List Int := items.filterMap finalId

/-- One item a source id, in their order, and no message twice. -/
structure WellFormed (request : Request) (items : List ForwardItem) : Prop where
  sources : items.map sourceId = request.sourceIds
  distinct : (finalIds items).Nodup

/-- A settled item stays; a pending one may be settled. -/
def ItemFollows (a b : ForwardItem) : Prop := b.sourceId = a.sourceId ∧ (a.isPending = true ∨ b = a)

/-- **The next vector**: nothing settled changes, and something pending is settled. -/
structure Advances (a b : List ForwardItem) : Prop where
  follows : List.Forall₂ ItemFollows a b
  settles : pendingCount b < pendingCount a

theorem Advances.ne (h : Advances a b) : a ≠ b := by
  rintro rfl
  exact absurd h.settles (by omega)

/-- A chain of vectors is no longer than the pending items of its first one allow. -/
theorem chain_length (vectors : List (List ForwardItem)) :
    ∀ v, (v :: vectors).IsChain Advances → vectors.length ≤ pendingCount v := by
  induction vectors with
  | nil => intro v _; exact Nat.zero_le _
  | cons w vectors ih =>
    intro v h
    obtain ⟨hstep, hrest⟩ := isChain_cons_cons.mp h
    have hlen := ih w hrest
    have hless := hstep.settles
    rw [length_cons]
    omega

/-! ## §2. Entries. -/

theorem except_map_ok {ε α β : Type} {f : α → β} {r : Except ε α} {b : β}
    (h : r.map f = .ok b) : ∃ a, r = .ok a ∧ f a = b := by
  cases r with
  | error e => cases h
  | ok a =>
    injection h with h
    exact ⟨a, rfl, h⟩

/-- An entry keeps, or its pending item is settled. -/
def Settles (a b : Entry) : Prop :=
  b = a ∨ (a.item.isPending = true ∧ b.item.isPending = false
    ∧ b.item.sourceId = a.item.sourceId ∧ b.temporary = none)

theorem Settles.follows (h : Settles a b) : ItemFollows a.item b.item := by
  rcases h with rfl | ⟨hpend, _, hsrc, _⟩
  · exact ⟨rfl, .inr rfl⟩
  · exact ⟨hsrc, .inl hpend⟩

theorem follows_entries (h : List.Forall₂ Settles xs ys) :
    List.Forall₂ ItemFollows (xs.map item) (ys.map item) := by
  rw [forall₂_map_left_iff, forall₂_map_right_iff]
  exact h.imp fun _ _ hs => hs.follows

theorem pendingCount_settles (h : List.Forall₂ Settles xs ys) :
    pendingCount (ys.map item) ≤ pendingCount (xs.map item) := by
  induction h with
  | nil => exact le_rfl
  | cons hxy _ ih =>
    unfold pendingCount at ih ⊢
    simp only [map_cons, countP_cons]
    rcases hxy with rfl | ⟨hpend, hset, _, _⟩
    · omega
    · rw [hpend, hset]
      simp only [if_true, Bool.false_eq_true, if_false]
      omega

/-- What `settle` makes of a pending item. -/
theorem settle_ok {items : List ForwardItem} {sourceId : Int} {outcome : SendOutcome}
    {item : ForwardItem} (h : settle items sourceId outcome = .ok item) :
    item.sourceId = sourceId ∧ item.isPending = false
      ∧ (∀ id, item.finalId = some id → id ∉ finalIds items) := by
  cases outcome with
  | succeeded result =>
    simp only [settle] at h
    split at h
    · cases h
    rename_i hnew
    cases h
    refine ⟨rfl, rfl, ?_⟩
    rintro id hid hmem
    cases hid
    obtain ⟨other, hother, hsame⟩ := mem_filterMap.mp hmem
    exact hnew (any_eq_true.mpr ⟨other, hother, beq_iff_eq.mpr hsame⟩)
  | deletedBeforeConfirmation | failed error | rateLimited error retryAfter =>
    cases h
    exact ⟨rfl, rfl, fun id hid => absurd hid (by simp [finalId])⟩
  | malformed typeId => exact absurd h (by simp [settle])

theorem finalIds_append (xs ys : List ForwardItem) :
    finalIds (xs ++ ys) = finalIds xs ++ finalIds ys := filterMap_append ..

/-- A pending item is replaced by one with a new id, if it has one. -/
theorem finalIds_replace {old new : ForwardItem}
    (hold : old.isPending) (hnd : (finalIds (xs ++ old :: ys)).Nodup)
    (hnew : ∀ id, new.finalId = some id → id ∉ finalIds (xs ++ old :: ys)) :
    (finalIds (xs ++ new :: ys)).Nodup := by
  have hnone : old.finalId = none := by
    cases old with
    | pending sourceId id => rfl
    | sent sourceId message => exact absurd hold (by simp [isPending])
    | failed sourceId reason code retry => rfl
  have hsame : finalIds (xs ++ old :: ys) = finalIds xs ++ finalIds ys := by
    rw [finalIds_append]
    unfold finalIds
    rw [filterMap_cons_none hnone]
  rw [hsame] at hnd hnew
  rw [finalIds_append]
  cases hid : new.finalId with
  | none =>
    unfold finalIds at hnd ⊢
    rw [filterMap_cons_none hid]
    exact hnd
  | some id =>
    have hfresh := hnew id hid
    unfold finalIds at hnd hfresh ⊢
    rw [filterMap_cons_some hid]
    exact nodup_middle.mpr (nodup_cons.mpr ⟨hfresh, hnd⟩)

theorem open_isPending {entry : Entry} {temporary : TemporaryId} (h : entry.open = some temporary) :
    entry.item.isPending ∧ entry.temporary = some temporary := by
  unfold Entry.open at h
  split at h
  next hpend => exact ⟨hpend, h⟩
  · cases h

section Loop

variable {parseRetryAfterSeconds : Bytes → Int}

variable {update : SendUpdate} {request : Request} {entries : List Entry} {s : State}
  {items : List ForwardItem}

/-- **What one update does to the entries**: those it names are settled, the others stay. -/
theorem applyLoop_ok (entries : List Entry) :
    ∀ (done : List Entry) (changed : Bool) (out : List Entry) (changed' : Bool),
      (finalIds ((done ++ entries).map item)).Nodup →
      applyLoop parseRetryAfterSeconds update done entries changed = .ok (out, changed') →
      ∃ rest, out = done ++ rest ∧ List.Forall₂ Settles entries rest
        ∧ (finalIds (out.map item)).Nodup
        ∧ (changed' → changed
          ∨ pendingCount (rest.map item) < pendingCount (entries.map item)) := by
  induction entries with
  | nil =>
    intro done changed out changed' hnd h
    obtain ⟨rfl, rfl⟩ := h
    rw [append_nil] at hnd
    exact ⟨[], (append_nil _).symm, .nil, hnd, fun h => .inl h⟩
  | cons entry entries ih =>
    intro done changed out changed' hnd h
    unfold applyLoop at h
    split at h
    next hnone =>
      -- the update is not about this entry
      rw [append_cons] at hnd
      obtain ⟨rest, rfl, hall, hids, hcnt⟩ := ih _ _ _ _ hnd h
      refine ⟨entry :: rest, append_cons .. |>.symm, .cons (.inl rfl) hall, hids, ?_⟩
      intro hchanged
      refine (hcnt hchanged).imp id fun hless => ?_
      unfold pendingCount at hless ⊢
      simp only [map_cons, countP_cons]
      omega
    next outcome hsome =>
      simp only at h
      split at h
      · cases h
      rename_i item hset
      obtain ⟨temporary, hopen, -⟩ := Option.bind_eq_some_iff.mp hsome
      obtain ⟨hpend, -⟩ := open_isPending hopen
      obtain ⟨hsrc, hdone, hnew⟩ := settle_ok hset
      rw [map_append, map_cons] at hnd hnew
      have hnd' := finalIds_replace hpend hnd hnew
      obtain ⟨rest, rfl, hall, hids, -⟩ := ih (done ++ [{ item := item, temporary := none }])
        true out changed' (by
          rw [append_assoc, map_append, singleton_append, map_cons]
          exact hnd') h
      refine ⟨{ item := item, temporary := none } :: rest, append_cons .. |>.symm,
        .cons (.inr ⟨hpend, hdone, hsrc, rfl⟩) hall, hids, fun _ => .inr ?_⟩
      have hle := pendingCount_settles hall
      unfold pendingCount at hle ⊢
      simp only [map_cons, countP_cons, hpend, hdone, if_true, Bool.false_eq_true, if_false]
      omega

/-! ## §3. The entries of the response. -/

/-- A pending item has its temporary id, and no two have the same. -/
structure EntriesOk (entries : List Entry) : Prop where
  paired : ∀ entry ∈ entries, entry.item.isPending = entry.temporary.isSome
  distinct : (temporaryIdsOf entries).Nodup

theorem temporaryIdsOf_settles (h : List.Forall₂ Settles xs ys) :
    (temporaryIdsOf ys).Sublist (temporaryIdsOf xs) := by
  induction h with
  | nil => exact List.Sublist.refl _
  | @cons x y xs ys hxy _ ih =>
    unfold temporaryIdsOf at ih ⊢
    rcases hxy with rfl | ⟨_, _, _, hnone⟩
    · simp only [filterMap_cons]
      split
      · exact ih
      · exact ih.cons_cons _
    · rw [filterMap_cons_none (by rw [hnone]; rfl)]
      simp only [filterMap_cons]
      split
      · exact ih
      · exact ih.cons _

theorem EntriesOk.settles (hok : EntriesOk xs) (h : List.Forall₂ Settles xs ys) : EntriesOk ys := by
  refine ⟨?_, hok.distinct.sublist (temporaryIdsOf_settles h)⟩
  have hpaired := hok.paired
  clear hok
  induction h with
  | nil => intro entry hmem; cases hmem
  | @cons x y xs ys hxy _ ih =>
    intro entry hmem
    rcases mem_cons.mp hmem with rfl | hmem
    · rcases hxy with rfl | ⟨_, hset, _, hnone⟩
      · exact hpaired _ mem_cons_self
      · rw [hset, hnone]
        rfl
    · exact ih (fun e he => hpaired e (mem_cons_of_mem _ he)) entry hmem

/-- Entries of a response, behind others that hold these temporary and final ids. -/
structure Parsed (sources temporaries finals : List Int) (entries : List Entry) : Prop where
  covers : (entries.map item).map sourceId = sources
  distinctFinals : (finalIds (entries.map item)).Nodup
  newFinals : ∀ id ∈ finalIds (entries.map item), id ∉ finals
  paired : ∀ entry ∈ entries, entry.item.isPending = entry.temporary.isSome
  distinctTemporaries : (temporaryIdsOf entries).Nodup
  newTemporaries : ∀ id ∈ temporaryIdsOf entries, id ∉ temporaries

/-- **The vector of a response**: an item for each source id, each message once, each
temporary id once. -/
theorem parseMessages_ok (sources : List Int) :
    ∀ (messages : List (Option TdWriteMessage)) (temporaries finals : List Int)
      (entries : List Entry), messages.length = sources.length →
      parseMessages parseRetryAfterSeconds request sources messages temporaries finals
        = .ok entries → Parsed sources temporaries finals entries := by
  induction sources with
  | nil =>
    intro messages temporaries finals entries hlen h
    obtain rfl := length_eq_zero_iff.mp hlen
    cases h
    constructor <;> simp [finalIds, temporaryIdsOf]
  | cons source sources ih =>
    intro messages temporaries finals entries hlen h
    cases messages with
    | nil => cases hlen
    | cons message messages =>
      have hrest : messages.length = sources.length := by simpa using hlen
      -- the entries behind an entry without a message id and without a temporary id
      have hplain : ∀ item : ForwardItem, item.sourceId = source → item.isPending = false →
          item.finalId = none →
          (parseMessages parseRetryAfterSeconds request sources messages temporaries
            finals).map ({ item := item, temporary := none } :: ·) = .ok entries →
          Parsed (source :: sources) temporaries finals entries := by
        intro item hsrc hpend hfin heq
        obtain ⟨behind, hbeh, rfl⟩ := except_map_ok heq
        obtain ⟨h1, h2, h3, h4, h5, h6⟩ := ih messages temporaries finals behind hrest hbeh
        have hids : finalIds ((⟨item, none⟩ :: behind).map Entry.item)
            = finalIds (behind.map Entry.item) := by
          unfold finalIds
          rw [map_cons, filterMap_cons_none hfin]
        refine ⟨?_, hids ▸ h2, hids ▸ h3, ?_, h5, h6⟩
        · rw [map_cons, map_cons, h1, hsrc]
        · exact forall_mem_cons.mpr ⟨hpend, h4⟩
      cases message with
      | none => exact hplain _ rfl rfl rfl h
      | some message =>
        simp only [parseMessages] at h
        split at h
        next temporary _ =>
          split at h
          · cases h
          rename_i hnew
          obtain ⟨behind, hbeh, rfl⟩ := except_map_ok h
          obtain ⟨h1, h2, h3, h4, h5, h6⟩ := ih messages _ finals behind hrest hbeh
          refine ⟨?_, h2, h3, ?_, ?_, ?_⟩
          · rw [map_cons, map_cons, h1]
            rfl
          · exact forall_mem_cons.mpr ⟨rfl, h4⟩
          · refine nodup_cons.mpr ⟨fun hmem => ?_, h5⟩
            exact h6 _ hmem mem_cons_self
          · exact forall_mem_cons.mpr
              ⟨hnew, fun id hmem hin => h6 id hmem (mem_cons_of_mem _ hin)⟩
        next result _ =>
          split at h
          · cases h
          rename_i hnew
          obtain ⟨behind, hbeh, rfl⟩ := except_map_ok h
          obtain ⟨h1, h2, h3, h4, h5, h6⟩ := ih messages temporaries _ behind hrest hbeh
          refine ⟨?_, ?_, ?_, ?_, h5, h6⟩
          · rw [map_cons, map_cons, h1]
            rfl
          · refine nodup_cons.mpr ⟨fun hmem => ?_, h2⟩
            exact h3 _ hmem mem_cons_self
          · exact forall_mem_cons.mpr
              ⟨hnew, fun id hmem hin => h3 id hmem (mem_cons_of_mem _ hin)⟩
          · exact forall_mem_cons.mpr ⟨rfl, h4⟩
        · cases h
        next outcome _ _ _ =>
          split at h
          next item hit =>
            cases outcome with
            | failed error | rateLimited error retry =>
              simp only [failedFrom, Option.some.injEq] at hit
              subst hit
              exact hplain _ rfl rfl rfl h
            | _ => exact absurd hit (by simp [failedFrom])
          · cases h

/-- The entries `consume_response` leaves. -/
theorem consumeResponse_ok {answer : Answer} {sequence : Option Nat}
    (h : consumeResponse parseRetryAfterSeconds request answer = (sequence, .ok entries)) :
    WellFormed request (entries.map item) ∧ EntriesOk entries := by
  unfold consumeResponse at h
  split at h
  · cases h
  · cases h
  split at h
  · cases h
  split at h
  · cases h
  simp only [Prod.mk.injEq] at h
  obtain ⟨-, h⟩ := h
  split at h
  · cases h
  · cases h
  · cases h
  split at h
  · cases h
  rename_i hlen
  split at h
  · cases h
  rename_i parsed hpar
  cases h
  obtain ⟨hsrcs, hfinals, -, hpaired, hdist, -⟩ :=
    parseMessages_ok _ _ _ _ _ (by simpa using hlen) hpar
  exact ⟨⟨hsrcs, hfinals⟩, ⟨hpaired, hdist⟩⟩

/-! ## §4. Turns. -/

/-- The vectors handed to `on_progress`. -/
def State.vectors (s : State) : List (List ForwardItem) := s.passed.map Prod.fst

/-- Well-formed vectors, each the next of the one before it. -/
structure Progress (request : Request) (vectors : List (List ForwardItem)) : Prop where
  wellFormed : ∀ items ∈ vectors, WellFormed request items
  chain : vectors.IsChain Advances

/-- **Between two turns**: nothing was published yet, or the items are those of the last vector,
which was made durable, and one of them is pending. -/
structure Steady (request : Request) (s : State) : Prop where
  progress : Progress request s.vectors
  durable : ∀ passed ∈ s.passed, passed.2 = true
  fresh : s.initialPublished = false → s.entries = [] ∧ s.passed = []
  last : s.initialPublished = true → s.vectors.getLast? = some s.items
  incomplete : s.initialPublished = true → complete s.items = false
  entries : EntriesOk s.entries

theorem steady_initial (request : Request) : Steady request {} where
  progress := ⟨fun _ h => (by cases h), .nil⟩
  durable := fun _ h => by cases h
  fresh := fun _ => ⟨rfl, rfl⟩
  last := fun h => by cases h
  incomplete := fun h => by cases h
  entries := ⟨fun _ h => (by cases h), nodup_nil⟩

theorem Steady.record (h : Steady request s) (round : Round) : Steady request (s.record round) :=
  { h with }

/-- The vector behind the last one. -/
theorem Progress.snoc (h : Progress request vectors) (hlast : vectors.getLast? = some last)
    (hadv : Advances last items)
    (hform : WellFormed request items) : Progress request (vectors ++ [items]) := by
  refine ⟨?_, ?_⟩
  · exact forall_mem_append.mpr ⟨h.wellFormed, forall_mem_singleton.mpr hform⟩
  · refine isChain_append.mpr ⟨h.chain, .singleton _, ?_⟩
    intro x hx y hy
    rw [hlast] at hx
    injection hx with hx
    injection hy with hy
    rw [← hx, ← hy]
    exact hadv

/-- What an update that changed something makes of a steady state. -/
theorem Steady.applied (h : Steady request s) (hpub : s.initialPublished)
    (happ : applyLoop parseRetryAfterSeconds update [] s.entries false = .ok (entries, true)) :
    EntriesOk entries ∧ List.Forall₂ ItemFollows s.items (entries.map item)
      ∧ Progress request (s.vectors ++ [entries.map item]) := by
  have hlast := h.last hpub
  have hform : WellFormed request s.items :=
    h.progress.wellFormed _ (mem_of_getLast? hlast)
  obtain ⟨rest, hout, hall, hids, hcnt⟩ :=
    applyLoop_ok s.entries [] false entries true hform.distinct happ
  subst hout
  have hless := (hcnt rfl).resolve_left (by simp)
  have hfol := follows_entries hall
  refine ⟨h.entries.settles hall, hfol, h.progress.snoc hlast ⟨hfol, hless⟩ ⟨?_, hids⟩⟩
  rw [map_related hfol fun _ _ h => h.1]
  exact hform.sources

/-! ## §5. What the durable vectors say. -/

/-- The vectors that were stored. -/
def State.durable (s : State) : List (List ForwardItem) := (s.passed.filter (·.2)).map Prod.fst

/-- The mutation state the durable vectors show: that of the last one. -/
def shownState (vectors : List (List ForwardItem)) : ForwardMutationState :=
  match vectors.getLast? with
  | none => .possible
  | some items => mutationState items

theorem Steady.durable_eq (h : Steady request s) : s.durable = s.vectors := by
  unfold State.durable State.vectors
  rw [filter_eq_self.mpr fun passed hmem => by simpa using h.durable passed hmem]

theorem unknownMutationState_eq (items : List ForwardItem) :
    unknownMutationState items = if items.any (·.isSent) then .confirmed else .possible := by
  unfold unknownMutationState mutationState
  by_cases hsent : items.any (·.isSent) = true
  · rw [if_pos hsent, if_pos hsent]
    rfl
  · rw [if_neg hsent, if_neg hsent]
    split <;> rfl

theorem any_isPending_of_incomplete (h : complete items = false) : items.any (·.isPending) := by
  unfold complete at h
  rw [all_eq_false] at h
  obtain ⟨item, hmem, hpend⟩ := h
  exact any_eq_true.mpr ⟨item, hmem, by simpa using hpend⟩

/-- While an item is pending the state is not `None`. -/
theorem mutationState_incomplete (h : complete items = false) :
    mutationState items = unknownMutationState items := by
  rw [unknownMutationState_eq]
  unfold mutationState
  by_cases hsent : items.any (·.isSent) = true
  · rw [if_pos hsent, if_pos hsent]
  rw [if_neg hsent, if_neg hsent, if_pos]
  obtain ⟨item, hmem, hpend⟩ := any_eq_true.mp (any_isPending_of_incomplete h)
  exact any_eq_true.mpr ⟨item, hmem, by rw [hpend]; rfl⟩

/-- A message that was sent stays sent. -/
theorem any_isSent_follows (h : List.Forall₂ ItemFollows xs ys)
    (hsent : xs.any (·.isSent)) : ys.any (·.isSent) := by
  obtain ⟨x, hx, hsent⟩ := any_eq_true.mp hsent
  obtain ⟨y, hy, -, hpend | rfl⟩ := exists_related h hx
  · cases x with
    | sent sourceId message => cases hpend
    | _ => cases hsent
  · exact any_eq_true.mpr ⟨_, hy, hsent⟩

theorem applyLoop_unmatched (entries : List Entry) : ∀ (done : List Entry) (changed : Bool),
      (∀ entry ∈ entries, entry.open.bind (classifyUpdate parseRetryAfterSeconds update) = none) →
      applyLoop parseRetryAfterSeconds update done entries changed
        = .ok (done ++ entries, changed) := by
  induction entries with
  | nil => intro done changed _; rw [append_nil]; rfl
  | cons entry entries ih =>
    intro done changed h
    unfold applyLoop
    rw [h entry mem_cons_self]
    rw [ih _ _ fun e he => h e (mem_cons_of_mem _ he), append_assoc,
      singleton_append]

/-- After a success no entry behind it is named by the update. -/
theorem unmatched_after_success {entry : Entry} {result : TdMessageWriteResult}
    (hdist : (temporaryIdsOf (entry :: entries)).Nodup)
    (h : entry.open.bind (classifyUpdate parseRetryAfterSeconds update)
      = some (.succeeded result)) :
    ∀ other ∈ entries, other.open.bind (classifyUpdate parseRetryAfterSeconds update) = none := by
  intro other hmem
  obtain ⟨temporary, hopen, hclass⟩ := Option.bind_eq_some_iff.mp h
  obtain ⟨-, htmp⟩ := open_isPending hopen
  cases hother : other.open.bind (classifyUpdate parseRetryAfterSeconds update) with
  | none => rfl
  | some outcome =>
    exfalso
    obtain ⟨temporary', hopen', hclass'⟩ := Option.bind_eq_some_iff.mp hother
    obtain ⟨-, htmp'⟩ := open_isPending hopen'
    rcases classifyUpdate_some hclass with hsame | ⟨heq, -⟩ | ⟨⟨typeId, heq⟩, -⟩
    · have hids := hsame temporary' (by rw [hclass']; rfl)
      unfold temporaryIdsOf at hdist
      rw [filterMap_cons_some (by rw [htmp]; rfl)] at hdist
      refine (nodup_cons.mp hdist).1 (mem_filterMap.mpr ⟨other, hmem, ?_⟩)
      rw [htmp']
      exact congrArg some hids
    · cases heq
    · cases heq

theorem settle_not_sent {sourceId : Int} {outcome : SendOutcome} {item : ForwardItem}
    (h : settle items sourceId outcome = .ok item)
    (hnot : ∀ result, outcome ≠ .succeeded result) : item.isSent = false := by
  cases outcome with
  | succeeded result => exact absurd rfl (hnot result)
  | malformed typeId => exact absurd h (by simp [settle])
  | deletedBeforeConfirmation | failed error | rateLimited error retryAfter =>
    cases h
    rfl

theorem not_isSent_of_isPending {item : ForwardItem} (h : item.isPending) :
    item.isSent = false := by
  cases item with
  | pending sourceId id => rfl
  | sent sourceId message => cases h
  | failed sourceId reason code retry => rfl

/-- **A malformed update** is reported with a state in which no message is sent that the last
vector does not show. -/
theorem applyLoop_error (entries : List Entry) :
    ∀ (done : List Entry) (changed : Bool) (outcome : ForwardOutcome),
      (temporaryIdsOf entries).Nodup →
      applyLoop parseRetryAfterSeconds update done entries changed = .error outcome →
      outcome.mutation = if ((done ++ entries).map item).any (·.isSent) then .confirmed
        else .possible := by
  induction entries with
  | nil => intro done changed outcome _ h; exact absurd h (by simp [applyLoop])
  | cons entry entries ih =>
    intro done changed outcome hdist h
    have hrest : (temporaryIdsOf entries).Nodup := by
      refine hdist.sublist ?_
      exact (sublist_cons_self entry entries).filterMap _
    unfold applyLoop at h
    split at h
    · rw [append_cons]
      exact ih _ _ _ hrest h
    rename_i sendOutcome hsome
    simp only at h
    split at h
    · cases h
      exact unknownMutationState_eq _
    rename_i item hset
    by_cases hsucc : ∃ result, sendOutcome = .succeeded result
    · -- nothing behind a success is named, so the loop does not fail
      obtain ⟨result, rfl⟩ := hsucc
      rw [applyLoop_unmatched _ _ _ (unmatched_after_success hdist hsome)] at h
      cases h
    · have hit := settle_not_sent hset fun result heq => hsucc ⟨result, heq⟩
      obtain ⟨temporary, hopen, -⟩ := Option.bind_eq_some_iff.mp hsome
      have hent := not_isSent_of_isPending (open_isPending hopen).1
      rw [ih _ _ _ hrest h]
      simp [any_append, hit, hent]

end Loop

/-! ## §6. What a turn reports. -/

/-- The turn that consumes the response reports a state its stored vectors do not show: a loss
of the authorization overtakes a vector with a message that was sent, or the hook throws behind
the checkpoint of a vector that shows more than that a mutation is possible. -/
def responseDiverges (parseRetryAfterSeconds : Bytes → Int) (request : Request) (round : Round)
    (s : State) (answer : Answer) : Bool :=
  match consumeResponse parseRetryAfterSeconds request answer with
  | (_, .error _) => false
  | (sequence, .ok entries) =>
    let items := entries.map item
    match overtaking parseRetryAfterSeconds request
        { s with responseConsumed := true, entries := entries } sequence with
    | some _ => items.any (·.isSent)
    | none =>
      ((temporaryIdsOf entries).isEmpty || round.temporaryIdsDurable)
        && round.onProgress items == .stored && mutationState items != .possible

/-- A later turn does so: the vector with the first message that was sent is not stored, or the
hook throws behind the checkpoint of a vector that shows that nothing was mutated. -/
def updateDiverges (parseRetryAfterSeconds : Bytes → Int) (request : Request) (round : Round)
    (s : State) : Bool :=
  match selectedUpdate parseRetryAfterSeconds request s with
  | none => false
  | some update =>
    match applyLoop parseRetryAfterSeconds update.update [] s.entries false with
    | .ok (entries, true) =>
      let items := entries.map item
      match round.onProgress items with
      | .returned => false
      | .stored => mutationState items == .none
      | .refused => !s.items.any (·.isSent) && items.any (·.isSent)
    | _ => false

/-- **The turn reports a state that the stored vectors do not show.** -/
def diverges (parseRetryAfterSeconds : Bytes → Int) (request : Request) (round : Round)
    (s : State) : Bool :=
  let s := s.record round
  if s.initialPublished then updateDiverges parseRetryAfterSeconds request round s
  else
    match round.answer with
    | some answer => responseDiverges parseRetryAfterSeconds request round s answer
    | none => false

/-- What the outcome says about the mutation, against the stored vectors. -/
def Reports : (diverges : Bool) → ForwardOutcome → State → Prop
  | false, outcome, s => outcome.mutation = shownState s.durable
  | true, outcome, s =>
    outcome.mutation ≠ shownState s.durable ∧ outcome.provesMutation = false

/-- A turn that goes on leaves a steady state; one that ends leaves a run of vectors, and its
outcome shows their state unless it diverges. -/
def TurnOk (request : Request) (diverges : Bool) : Turn → Prop
  | .next s => Steady request s
  | .finish outcome s => Progress request s.vectors ∧ Reports diverges outcome s

section Turns

variable {parseRetryAfterSeconds : Bytes → Int}

theorem shownState_last {vectors : List (List ForwardItem)}
    (h : vectors.getLast? = some items) : shownState vectors = mutationState items := by
  unfold shownState
  rw [h]

variable {request : Request} {s : State} {round : Round}

theorem Steady.shown (h : Steady request s) (hpub : s.initialPublished) :
    shownState s.durable = unknownMutationState s.items := by
  rw [h.durable_eq, shownState_last (h.last hpub), mutationState_incomplete (h.incomplete hpub)]

theorem Steady.shown_fresh (h : Steady request s)
    (hfresh : s.initialPublished = false) : shownState s.durable = .possible ∧ s.items = [] := by
  obtain ⟨hents, hpass⟩ := h.fresh hfresh
  refine ⟨?_, ?_⟩
  · unfold State.durable
    rw [hpass]
    rfl
  · unfold State.items
    rw [hents]
    rfl

/-- The state a waiting coordinator reports. -/
theorem Steady.reported (h : Steady request s) :
    (if s.items.isEmpty then ForwardMutationState.possible else mutationState s.items)
      = shownState s.durable := by
  cases hpub : s.initialPublished with
  | false =>
    obtain ⟨hshown, hitems⟩ := h.shown_fresh hpub
    rw [hshown, hitems]
    rfl
  | true =>
    have hinc := h.incomplete hpub
    rw [h.shown hpub, if_neg, mutationState_incomplete hinc]
    intro hemp
    rw [isEmpty_iff.mp hemp] at hinc
    cases hinc

theorem atLeastPossible_of_ne {state : ForwardMutationState} (h : state ≠ .none) :
    state.atLeastPossible = state := by
  cases state with
  | none => exact absurd rfl h
  | possible => rfl
  | confirmed => rfl

theorem Steady.shown_ne_none (h : Steady request s) : shownState s.durable ≠ .none := by
  cases hpub : s.initialPublished with
  | false =>
    rw [(h.shown_fresh hpub).1]
    simp
  | true =>
    rw [h.shown hpub, unknownMutationState_eq]
    split <;> simp

theorem authOutcome_mutation (request : Request) (items : List ForwardItem) (event : AuthSnapshot) :
    (authOutcome request items event).mutation
      = (if items.isEmpty then ForwardMutationState.possible
          else mutationState items).atLeastPossible := by
  unfold authOutcome
  simp only
  split <;> rfl

/-! ## §7. One turn. -/

theorem turnOk_auth (h : Steady request s) :
    TurnOk request false (.finish (authOutcome request s.items event) s) := by
  refine ⟨h.progress, ?_⟩
  show (authOutcome request s.items event).mutation = _
  rw [authOutcome_mutation, h.reported, atLeastPossible_of_ne h.shown_ne_none]

theorem endTurn_ok (h : Steady request s) : TurnOk request false (endTurn request round s) := by
  unfold endTurn
  split
  · exact ⟨h.progress, h.reported⟩
  split
  · refine ⟨h.progress, ?_⟩
    show (if s.items.isEmpty then ForwardMutationState.possible
      else mutationState s.items).atLeastPossible = _
    rw [h.reported, atLeastPossible_of_ne h.shown_ne_none]
  · exact h

/-- Every terminal of `consume_response` says that a mutation is possible. -/
theorem consumeResponse_error {answer : Answer} {sequence : Option Nat} {terminal : ForwardOutcome}
    (h : consumeResponse parseRetryAfterSeconds request answer = (sequence, .error terminal)) :
    terminal.mutation = .possible := by
  unfold consumeResponse at h
  split at h
  · simp only [Prod.mk.injEq, Except.error.injEq] at h
    rw [← h.2]
    rfl
  · simp only [Prod.mk.injEq, Except.error.injEq] at h
    rw [← h.2]
    rfl
  split at h
  · simp only [Prod.mk.injEq, Except.error.injEq] at h
    rw [← h.2]
    rfl
  split at h
  · simp only [Prod.mk.injEq, Except.error.injEq] at h
    rw [← h.2]
    rfl
  simp only [Prod.mk.injEq] at h
  obtain ⟨-, h⟩ := h
  split at h
  · cases h
    rfl
  · cases h
    rfl
  · cases h
    rfl
  split at h
  · cases h
    rfl
  split at h
  · cases h
    rfl
  · exact absurd h (by simp)

theorem progress_nil (request : Request) : Progress request [] :=
  ⟨fun _ h => (by cases h), .nil⟩

theorem progress_singleton (h : WellFormed request items) : Progress request [items] := by
  refine ⟨fun v hmem => ?_, .singleton _⟩
  rw [mem_singleton.mp hmem]
  exact h

theorem authOutcome_provesMutation (request : Request) (items : List ForwardItem)
    (event : AuthSnapshot) : (authOutcome request items event).provesMutation = false := by
  unfold authOutcome
  simp only
  split <;> rfl

/-- The state behind the first vector. -/
def firstPublished (round : Round) (s : State) : State :=
  { s with
    temporaryIds :=
      if (temporaryIdsOf s.entries).isEmpty then none else some (temporaryIdsOf s.entries)
    passed := s.passed ++ [(s.items, (round.onProgress s.items).durable)] }

theorem firstPublished_shown (hpass : s.passed = []) : shownState (firstPublished round s).durable
      = if (round.onProgress s.items).durable then mutationState s.items else .possible := by
  show shownState (((s.passed ++ [(s.items, (round.onProgress s.items).durable)]).filter
    (·.2)).map fst) = _
  rw [hpass]
  cases (round.onProgress s.items).durable <;> rfl

/-- The first vector. -/
theorem publishInitial_ok (hpass : s.passed = []) (hform : WellFormed request s.items)
    (hents : EntriesOk s.entries) :
    TurnOk request (((temporaryIdsOf s.entries).isEmpty || round.temporaryIdsDurable)
        && round.onProgress s.items == .stored && mutationState s.items != .possible)
      (publishInitial round s) := by
  have hvecs : (firstPublished round s).vectors = [s.items] := by
    show (s.passed ++ [(s.items, _)]).map fst = _
    rw [hpass]
    rfl
  have hprog : Progress request (firstPublished round s).vectors := by
    rw [hvecs]
    exact progress_singleton hform
  have hshown : shownState (firstPublished round s).durable = _ := firstPublished_shown hpass
  show TurnOk request _
    (if (!(temporaryIdsOf s.entries).isEmpty && !round.temporaryIdsDurable) = true then _
    else if round.onProgress s.items ≠ .returned then
      .finish (.malformed s.items none .possible) (firstPublished round s)
    else if complete s.items = true then
      .finish (.completed s.items (mutationState s.items))
        { firstPublished round s with initialPublished := true }
    else .next { firstPublished round s with initialPublished := true })
  by_cases hids : (!(temporaryIdsOf s.entries).isEmpty && !round.temporaryIdsDurable) = true
  · -- the temporary ids were not durable
    have hnot : ((temporaryIdsOf s.entries).isEmpty || round.temporaryIdsDurable) = false := by
      simpa using hids
    rw [if_pos hids, hnot]
    refine ⟨?_, ?_⟩
    · show Progress request (s.passed.map fst)
      rw [hpass]
      exact progress_nil request
    · show ForwardMutationState.possible = shownState ((s.passed.filter (·.2)).map fst)
      rw [hpass]
      rfl
  · have hready : ((temporaryIdsOf s.entries).isEmpty || round.temporaryIdsDurable) := by
      cases hemp : (temporaryIdsOf s.entries).isEmpty <;>
        cases hdur : round.temporaryIdsDurable <;> simp_all
    rw [if_neg hids, hready]
    cases hpubl : round.onProgress s.items with
    | refused =>
      rw [hpubl] at hshown
      rw [if_pos (by simp)]
      exact ⟨hprog, hshown.symm⟩
    | stored =>
      rw [hpubl] at hshown
      rw [if_pos (by simp)]
      refine ⟨hprog, ?_⟩
      cases hst : mutationState s.items with
      | possible => exact (hshown.trans hst).symm
      | none | confirmed =>
        refine ⟨?_, rfl⟩
        show ForwardMutationState.possible ≠ _
        rw [hshown]
        simp [Publication.durable, hst]
    | returned =>
      rw [hpubl] at hshown
      rw [if_neg (by simp)]
      cases hcomp : complete s.items with
      | true =>
        rw [if_pos rfl]
        exact ⟨hprog, hshown.symm⟩
      | false =>
        rw [if_neg (by simp)]
        refine ⟨hprog, ?_, fun h => (by cases h), fun _ => ?_, fun _ => hcomp,
          hents⟩
        · intro passed hmem
          rw [show (firstPublished round s).passed
            = s.passed ++ [(s.items, (round.onProgress s.items).durable)] from rfl,
            hpass, hpubl] at hmem
          rw [mem_singleton.mp hmem]
          rfl
        · show (firstPublished round s).vectors.getLast? = some s.items
          rw [hvecs]
          rfl

theorem arbitrateResponse_ok {answer : Answer} (h : Steady request s)
    (hfresh : s.initialPublished = false) :
    TurnOk request (responseDiverges parseRetryAfterSeconds request round s answer)
      (arbitrateResponse parseRetryAfterSeconds request round s answer) := by
  have hsteady : Steady request { s with responseConsumed := true } := { h with }
  have hpass : s.passed = [] := (h.fresh hfresh).2
  unfold arbitrateResponse responseDiverges
  cases hcons : consumeResponse parseRetryAfterSeconds request answer with
  | mk sequence result =>
    cases result with
    | error terminal =>
      have hterm : TurnOk request false
          (.finish terminal { s with responseConsumed := true }) := by
        refine ⟨hsteady.progress, ?_⟩
        show terminal.mutation = _
        rw [consumeResponse_error hcons, (hsteady.shown_fresh hfresh).1]
      simp only
      split
      · split
        · exact turnOk_auth hsteady
        · exact hterm
      · exact hterm
    | ok entries =>
      obtain ⟨hform, hents⟩ := consumeResponse_ok hcons
      simp only
      cases hover : overtaking parseRetryAfterSeconds request
          { s with responseConsumed := true, entries := entries } sequence with
      | none => exact publishInitial_ok hpass hform hents
      | some event =>
        -- nothing is published: the items are reported, not recorded
        refine ⟨?_, ?_⟩
        · show Progress request (s.passed.map fst)
          rw [hpass]
          exact progress_nil request
        · have hshown : shownState (State.durable
              { s with responseConsumed := true, entries := entries }) = .possible := by
            show shownState ((s.passed.filter (·.2)).map fst) = _
            rw [hpass]
            rfl
          have hreported : (authOutcome request (entries.map item) event).mutation
              = if (entries.map item).any (·.isSent) then .confirmed
                else .possible := by
            rw [authOutcome_mutation, ← unknownMutationState_eq]
            split
            next hemp =>
              rw [isEmpty_iff.mp hemp]
              rfl
            · rfl
          cases hsent : (entries.map item).any (·.isSent) with
          | false =>
            show (authOutcome request (entries.map item) event).mutation = _
            rw [hreported, hshown, hsent]
            rfl
          | true =>
            refine ⟨?_, authOutcome_provesMutation _ _ _⟩
            show (authOutcome request (entries.map item) event).mutation ≠ _
            rw [hreported, hshown, hsent]
            simp

/-- The vector behind an update. -/
theorem published_ok {stamped : StampedUpdate} (h : Steady request s) (hpub : s.initialPublished)
    (happ : applyLoop parseRetryAfterSeconds stamped.update [] s.entries false
      = .ok (entries, true)) :
    let items := entries.map item
    let s' : State :=
      { s with
        processed := stamped.sequence :: s.processed
        entries := entries
        passed := s.passed ++ [(items, (round.onProgress items).durable)] }
    TurnOk request
      (match round.onProgress items with
        | .returned => false
        | .stored => mutationState items == .none
        | .refused => !s.items.any (·.isSent) && items.any (·.isSent))
      (if round.onProgress items ≠ .returned then
        .finish (.malformed items none (unknownMutationState items)) s'
      else if complete items then .finish (.completed items (mutationState items)) s'
      else .next s') := by
  intro items s'
  obtain ⟨hok, hfol, hprog⟩ := h.applied hpub happ
  have hvecs : Progress request s'.vectors := by
    show Progress request ((s.passed ++ [_]).map fst)
    rw [map_append]
    exact hprog
  have hlast : s'.vectors.getLast? = some items := by
    show ((s.passed ++ [_]).map fst).getLast? = some items
    rw [map_append]
    exact getLast?_concat ..
  have hall : (round.onProgress items).durable → ∀ passed ∈ s'.passed, passed.2 := by
    intro hflag
    exact forall_mem_append.mpr ⟨h.durable, forall_mem_singleton.mpr hflag⟩
  have hdur : (round.onProgress items).durable →
      shownState s'.durable = mutationState items := by
    intro hflag
    unfold State.durable
    rw [filter_eq_self.mpr fun passed hmem => by simpa using hall hflag passed hmem]
    exact shownState_last hlast
  cases hpubl : round.onProgress items with
  | refused =>
    -- the vector is not stored: the stored ones still show the items before the update
    have hshown : shownState s'.durable = unknownMutationState s.items := by
      show shownState (((s.passed ++ [(items, (round.onProgress items).durable)]).filter
        (·.2)).map fst) = _
      rw [hpubl, filter_append, filter_cons_of_neg (by simp [Publication.durable]),
        filter_nil, append_nil]
      exact h.shown hpub
    rw [if_pos (by simp)]
    refine ⟨hvecs, ?_⟩
    rw [unknownMutationState_eq] at hshown
    cases hold : s.items.any (·.isSent) with
    | true =>
      have hnew := any_isSent_follows hfol hold
      show unknownMutationState items = _
      rw [hshown, hold, unknownMutationState_eq, show items.any (·.isSent) = true from hnew]
    | false =>
      cases hnew : items.any (·.isSent) with
      | false =>
        show unknownMutationState items = _
        rw [hshown, hold, unknownMutationState_eq, hnew]
      | true =>
        refine ⟨?_, rfl⟩
        show unknownMutationState items ≠ _
        rw [hshown, hold, unknownMutationState_eq, hnew]
        simp
  | stored =>
    have hshown := hdur (by rw [hpubl]; rfl)
    rw [if_pos (by simp)]
    refine ⟨hvecs, ?_⟩
    cases hst : mutationState items with
    | none =>
      refine ⟨?_, rfl⟩
      show unknownMutationState items ≠ _
      rw [hshown, hst, unknownMutationState, hst]
      simp [ForwardMutationState.atLeastPossible]
    | possible | confirmed =>
      show unknownMutationState items = _
      rw [hshown, hst, unknownMutationState, hst]
      rfl
  | returned =>
    have hshown := hdur (by rw [hpubl]; rfl)
    rw [if_neg (by simp)]
    cases hcomp : complete items with
    | true =>
      rw [if_pos rfl]
      exact ⟨hvecs, hshown.symm⟩
    | false =>
      rw [if_neg (by simp)]
      refine ⟨hvecs, ?_, ?_, fun _ => hlast, fun _ => hcomp, hok⟩
      · exact hall (by rw [hpubl]; rfl)
      · intro hfresh
        rw [show s.initialPublished = false from hfresh] at hpub
        cases hpub

theorem arbitrateUpdate_ok (h : Steady request s) (hpub : s.initialPublished) :
    TurnOk request (updateDiverges parseRetryAfterSeconds request round s)
      (arbitrateUpdate parseRetryAfterSeconds request round s) := by
  unfold arbitrateUpdate updateDiverges
  cases hselected : selectedUpdate parseRetryAfterSeconds request s with
  | none =>
    simp only
    split
    · exact turnOk_auth h
    · exact endTurn_ok h
  | some update =>
    simp only [applyUpdate]
    cases happ : applyLoop parseRetryAfterSeconds update.update [] s.entries false with
    | error outcome =>
      refine ⟨h.progress, ?_⟩
      show outcome.mutation = shownState s.durable
      rw [applyLoop_error s.entries [] false outcome h.entries.distinct happ, nil_append]
      exact (unknownMutationState_eq _).symm.trans (h.shown hpub).symm
    | ok result =>
      obtain ⟨entries, changed⟩ := result
      cases changed with
      | false => exact { h with }
      | true => exact published_ok h hpub happ

/-- **One turn of the loop.** -/
theorem turn_ok (h : Steady request s) :
    TurnOk request (diverges parseRetryAfterSeconds request round s)
      (turn parseRetryAfterSeconds request round s) := by
  unfold turn diverges
  simp only
  cases hpub : (s.record round).initialPublished with
  | true => exact arbitrateUpdate_ok (h.record round) hpub
  | false =>
    show TurnOk request (match round.answer with | some answer => _ | none => _)
      (match round.answer with | some answer => _ | none => _)
    cases round.answer with
    | some answer => exact arbitrateResponse_ok (h.record round) hpub
    | none => exact endTurn_ok (h.record round)

/-! ## §8. Whole runs. -/

theorem waitForTerminal_progress (rounds : List Round) : ∀ s, Steady request s →
      Progress request (waitForTerminal parseRetryAfterSeconds request rounds s).1.vectors := by
  induction rounds with
  | nil => intro s h; exact h.progress
  | cons round rounds ih =>
    intro s h
    have hturn : TurnOk request (diverges parseRetryAfterSeconds request round s)
        (turn parseRetryAfterSeconds request round s) := turn_ok h
    unfold waitForTerminal
    cases hres : turn parseRetryAfterSeconds request round s with
    | finish outcome s' =>
      rw [hres] at hturn
      exact hturn.1
    | next s' =>
      rw [hres] at hturn
      exact ih s' hturn

/-- **Forward progress is monotone and lossless.**  Over every run: each vector handed to
`on_progress` has one item a source id, in their order, and no message twice; each differs from
the one before it and leaves its settled items as they are; and there is at most one more than
there are source ids. -/
theorem forward_progress_monotone (parseRetryAfterSeconds : Bytes → Int) (request : Request)
    (rounds : List Round) :
    let vectors := (waitForTerminal parseRetryAfterSeconds request rounds {}).1.vectors
    (∀ items ∈ vectors, items.map ForwardItem.sourceId = request.sourceIds
        ∧ (items.filterMap ForwardItem.finalId).Nodup)
      ∧ vectors.IsChain (fun items next => items ≠ next
          ∧ List.Forall₂ (fun item item' => item.isPending = true ∨ item' = item) items next)
      ∧ vectors.length ≤ request.sourceIds.length + 1 := by
  intro vectors
  have hprog : Progress request vectors :=
    waitForTerminal_progress rounds {} (steady_initial request)
  refine ⟨fun items hmem => ⟨(hprog.wellFormed items hmem).sources,
    (hprog.wellFormed items hmem).distinct⟩, ?_, ?_⟩
  · exact hprog.chain.imp fun items next h =>
      ⟨h.ne, h.follows.imp fun _ _ hit => hit.2⟩
  · cases hvecs : vectors with
    | nil => exact Nat.zero_le _
    | cons first rest =>
      rw [hvecs] at hprog
      have hlen := chain_length rest first hprog.chain
      have hcnt : pendingCount first ≤ first.length := countP_le_length
      have hsrcs := congrArg List.length (hprog.wellFormed first mem_cons_self).sources
      rw [length_map] at hsrcs
      rw [length_cons]
      omega

end Turns

end TgCli.Forward
