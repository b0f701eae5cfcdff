/-
  TgCli.Store.Transitions — WHAT AN OPERATION MAKES OF THE ENTRIES

  The searches and the entry transitions of `idempotency_store.cpp`, apart from
  the file they are written to.  A transition works on one entry; it is refused
  with the text the source gives.

  Main results:
    * `findEntry_of_mem` — in a sorted snapshot the search finds every entry;
    * `kept_of_spool`, `kept_of_ids`, `kept_of_progress`, `kept_of_complete`,
      `kept_of_clear` — a transition keeps the terminal of a completed entry
      and every forward item that is no longer pending;
    * `evolves_set`, `evolves_insert`, `evolves_subset` — so does the snapshot.
-/
import TgCli.Store.Snapshot

namespace TgCli.Store

open Lib Audit List

variable {P I F T : Type}

/-! ## §1. Searches. -/

/-- `lower_bound` by the key. -/
def lowerBound (entries : List (StoreEntry P I F T)) (key : String) : Nat :=
  entries.findIdx fun entry => decide (key ≤ entry.keyHash)

/-- The entry of a key. -/
def findEntry (entries : List (StoreEntry P I F T)) (key : String) : Option (StoreEntry P I F T) :=
  match entries[lowerBound entries key]? with
  | some entry => if entry.keyHash = key then some entry else none
  | none => none

/-- A snapshot is sorted by its keys. -/
abbrev Sorted (entries : List (StoreEntry P I F T)) : Prop :=
  entries.Pairwise (·.keyHash < ·.keyHash)

variable {entries : List (StoreEntry P I F T)} {entry : StoreEntry P I F T}

theorem findEntry_eq_some (h : findEntry entries key = some entry) :
    entries[lowerBound entries key]? = some entry ∧ entry ∈ entries ∧ entry.keyHash = key := by
  unfold findEntry at h
  split at h
  · rename_i found hfound
    split at h
    · rename_i hkey
      cases h
      exact ⟨hfound, mem_of_getElem? hfound, hkey⟩
    · cases h
  · cases h

/-- Two entries of a sorted snapshot with one key are one. -/
theorem Sorted.unique (hsrt : Sorted entries) (hent : entry ∈ entries) (hother : other ∈ entries)
    (hkey : entry.keyHash = other.keyHash) : entry = other := by
  have hnd : (entries.map (·.keyHash)).Nodup := by
    rw [List.Nodup, pairwise_map]
    exact hsrt.imp fun hlt => ne_of_lt hlt
  exact inj_on_of_nodup_map hnd hent hother hkey

/-- **The search finds every entry of a sorted snapshot.** -/
theorem findEntry_of_mem (hsrt : Sorted entries) (hent : entry ∈ entries) :
    findEntry entries entry.keyHash = some entry := by
  obtain ⟨i, hi, rfl⟩ := getElem_of_mem hent
  have hn : lowerBound entries entries[i].keyHash < entries.length :=
    findIdx_lt_length_of_exists ⟨entries[i], hent, by simp⟩
  have hfirst : entries[i].keyHash
      ≤ (entries.get ⟨lowerBound entries entries[i].keyHash, hn⟩).keyHash :=
    of_decide_eq_true (findIdx_getElem (w := hn))
  have hle : lowerBound entries entries[i].keyHash ≤ i := by
    by_contra hgt
    have := not_of_lt_findIdx (Nat.lt_of_not_le hgt)
    simp at this
  -- An entry in front of it would have a smaller key.
  have heq : lowerBound entries entries[i].keyHash = i := by
    rcases Nat.lt_or_eq_of_le hle with hlt | heq
    · have hless := pairwise_iff_getElem.mp hsrt _ i hn hi hlt
      exact absurd hfirst (not_le_of_gt hless)
    · exact heq
  unfold findEntry
  rw [heq, getElem?_eq_getElem hi]
  simp

/-! ## §2. Transitions. -/

/-- One item of `update_forward_progress`: a pending item may be settled, a
settled one stays. -/
def itemAdvances (before after : Json) : Bool :=
  before.get "source_id" == after.get "source_id"
    && !(before.get "status" != .str "pending" && before != after)
    && !(before.get "status" == .str "pending" && after.get "status" == .str "pending"
      && before != after)

/-- The vectors `update_forward_progress` goes on to. -/
def advances (before after : Json) : Bool :=
  before.isEmpty || before == after
    || (before.isArr && after.isArr && before.items.length == after.items.length
      && (before.items.zip after.items).all fun (item, item') => itemAdvances item item')

namespace Format

variable (fmt : Format P I F T)

/-- A transition of one entry, or why it is refused. -/
abbrev Transition (P I F T : Type) : Type :=
  StoreEntry P I F T → Except String (StoreEntry P I F T)

def applySpoolTransition (account : String) (spool : SpoolRef) : Transition P I F T := fun entry =>
  if entry.state = .pending ∧ entry.operation = .savedAttach
      ∧ fmt.validSpool spool entry.invocation = true
      ∧ (fmt.planJson entry.plan).isObj = true ∧ (fmt.planJson entry.plan).contains "file" = true
      ∧ ((fmt.planJson entry.plan).get "file" == fileJson spool.file) = true
      ∧ entry.spool.all (· == spool) = true then
    if fmt.validEntry account { entry with spool := some spool } then
      .ok { entry with spool := some spool }
    else .error "invalid spool transition"
  else .error "invalid spool transition"

/-- The transition of `update_temporary_message_ids`. -/
def idsTransition (ids : I) : Transition P I F T := fun entry =>
  if entry.state = .pending ∧ fmt.validIds entry.operation ids entry.plan = true
      ∧ ((fmt.idsJson entry.temporaryIds).isEmpty
        || fmt.idsJson entry.temporaryIds == fmt.idsJson ids) = true then
    .ok { entry with temporaryIds := ids }
  else .error "invalid temporary-id transition"

/-- The transition of `update_forward_progress`. -/
def progressTransition (items : F) : Transition P I F T := fun entry =>
  if entry.state = .pending ∧ fmt.validProgress entry.operation items entry.plan = true
      ∧ advances (fmt.progressJson entry.forwardProgress) (fmt.progressJson items) = true then
    .ok { entry with forwardProgress := items }
  else .error "invalid forward-progress transition"

/-- The transition of `complete`. -/
def completeTransition (account : String) (terminal : T) : Transition P I F T := fun entry =>
  if fmt.validTerminal entry.operation terminal entry.plan account = true then
    match entry.state with
    | .completed =>
      match entry.terminal with
      | some current =>
        if (fmt.terminalJson current == fmt.terminalJson terminal) = true then .ok entry
        else .error "completed terminal changed"
      | none => .error "completed terminal changed"
    | .pending =>
      match fmt.mutableCharge (fmt.completion entry terminal) with
      | some charge =>
        if charge ≤ terminalReservation entry.operation then .ok (fmt.completion entry terminal)
        else .error "completed terminal exceeds reservation"
      | none => .error "completed terminal exceeds reservation"
  else .error "invalid completed terminal"

/-- The transition of `clear_spool`. -/
def clearSpoolTransition : Transition P I F T := fun entry =>
  match entry.state with
  | .completed => .ok { entry with spool := none }
  | .pending => .error "pending spool reference cannot be cleared"

/-! ## §3. What a transition keeps. -/

/-- What no operation may change in an entry that stays. -/
structure Kept (fmt : Format P I F T) (entry entry' : StoreEntry P I F T) : Prop where
  key : entry'.keyHash = entry.keyHash
  invocation : entry'.invocation = entry.invocation
  terminal : entry.state = .completed →
    entry'.state = .completed ∧ entry'.terminal = entry.terminal
  progress : entry.state = .pending → entry'.state = .pending →
    ∀ (i : Nat) (item : Json), (fmt.progressJson entry.forwardProgress).items[i]? = some item →
      (item.get "status" == .str "pending") = false →
      ∃ item', (fmt.progressJson entry'.forwardProgress).items[i]? = some item'
        ∧ (item == item') = true

variable {fmt} {entry entry' : StoreEntry P I F T}

theorem kept_refl (entry : StoreEntry P I F T) : fmt.Kept entry entry :=
  ⟨rfl, rfl, fun h => ⟨h, rfl⟩, fun _ _ _ item hit _ => ⟨item, hit, Json.beq_refl item⟩⟩

theorem kept_of_spool
    (h : fmt.applySpoolTransition account spool entry = .ok entry') : fmt.Kept entry entry' := by
  unfold applySpoolTransition at h
  split at h
  · split at h
    · cases h
      exact { kept_refl entry with }
    · cases h
  · cases h

theorem kept_of_ids (h : fmt.idsTransition ids entry = .ok entry') : fmt.Kept entry entry' := by
  unfold idsTransition at h
  split at h
  · cases h
    exact { kept_refl entry with }
  · cases h

theorem kept_of_clear (h : clearSpoolTransition entry = .ok entry') : fmt.Kept entry entry' := by
  unfold clearSpoolTransition at h
  split at h
  · cases h
    exact { kept_refl entry with }
  · cases h

theorem kept_of_complete
    (h : fmt.completeTransition account terminal entry = .ok entry') : fmt.Kept entry entry' := by
  unfold completeTransition at h
  split at h
  · split at h
    · split at h
      · split at h
        · cases h
          exact kept_refl entry
        · cases h
      · cases h
    · rename_i hpend
      split at h
      · split at h
        · cases h
          refine ⟨rfl, rfl, fun hcompl => ?_, fun _ hpend' => ?_⟩
          · rw [hpend] at hcompl
            cases hcompl
          · cases hpend'
        · cases h
      · cases h
  · cases h

/-- A settled item stays in a vector that advances. -/
theorem item_kept_of_advances {before after : Json} (h : advances before after) {i : Nat}
    {item : Json} (hit : before.items[i]? = some item)
    (hset : (item.get "status" == .str "pending") = false) :
    ∃ item', after.items[i]? = some item' ∧ (item == item') := by
  unfold advances at h
  rw [Bool.or_eq_true, Bool.or_eq_true] at h
  rcases h with (hemp | hsame) | hitems
  · -- A vector without parts has no item.
    cases before with
    | arr items =>
      have hnil : items = [] := isEmpty_iff.mp hemp
      subst hnil
      cases hit
    | _ => cases hit
  · exact Json.items_beq hsame hit
  · simp only [Bool.and_eq_true, beq_iff_eq, all_eq_true] at hitems
    obtain ⟨⟨_, hlen⟩, hall⟩ := hitems
    obtain ⟨hi, rfl⟩ := List.getElem?_eq_some_iff.mp hit
    have hi' : i < after.items.length := hlen ▸ hi
    refine ⟨after.items[i], getElem?_eq_getElem hi', ?_⟩
    have hzip : (before.items[i], after.items[i]) ∈ before.items.zip after.items := by
      rw [← getElem_zip (h := by rw [length_zip]; omega)]
      exact getElem_mem _
    have hadv := hall _ hzip
    unfold itemAdvances at hadv
    simp only [bne, hset, Bool.not_false, Bool.true_and, Bool.false_and, Bool.and_true,
      Bool.not_not, Bool.and_eq_true] at hadv
    exact hadv.2

theorem kept_of_progress {items : F} (h : fmt.progressTransition items entry = .ok entry') :
    fmt.Kept entry entry' := by
  unfold progressTransition at h
  split at h
  · rename_i hcond
    cases h
    refine ⟨rfl, rfl, fun hcompl => ⟨hcompl, rfl⟩, fun _ _ i item hit hset => ?_⟩
    exact item_kept_of_advances hcond.2.2 hit hset
  · cases h

/-! ## §4. What a snapshot keeps. -/

/-- Every entry that stays in the snapshot is kept. -/
def Evolves (fmt : Format P I F T) (entries entries' : List (StoreEntry P I F T)) : Prop :=
  ∀ entry ∈ entries, ∀ entry' ∈ entries', entry'.keyHash = entry.keyHash → fmt.Kept entry entry'

variable {entries entries' : List (StoreEntry P I F T)}

/-- Entries can leave. -/
theorem evolves_subset (hsrt : Sorted entries) (hsub : entries' ⊆ entries) :
    fmt.Evolves entries entries' := by
  intro entry hent entry' hent' hkey
  rw [hsrt.unique (hsub hent') hent hkey]
  exact kept_refl entry

/-- An entry can be replaced by what its transition makes of it. -/
theorem evolves_set (hsrt : Sorted entries) (hent : entry ∈ entries) (i : Nat)
    (hkept : fmt.Kept entry entry') : fmt.Evolves entries (entries.set i entry') := by
  intro other hother other' hother' hkey
  rcases mem_or_eq_of_mem_set hother' with hmem | rfl
  · exact evolves_subset hsrt (List.Subset.refl _) other hother other' hmem hkey
  · rw [hsrt.unique hother hent (hkey.symm.trans hkept.key)]
    exact hkept

/-- A new entry takes a free key. -/
theorem evolves_insert (hsrt : Sorted entries) (i : Nat)
    (hfree : findEntry entries entry'.keyHash = none) :
    fmt.Evolves entries (entries.insertIdx i entry') := by
  intro other hother other' hother' hkey
  rcases eq_or_mem_of_mem_insertIdx hother' with rfl | hmem
  · rw [hkey, findEntry_of_mem hsrt hother] at hfree
    cases hfree
  · exact evolves_subset hsrt (List.Subset.refl _) other hother other' hmem hkey

end Format

end TgCli.Store
