/-
  TgCli.Removal.Roots — OBSERVING AND DELETING A REMOVAL ROOT

  `observe_removal_root` and `delete_removal_root` (daemon/removal_filesystem.cpp)
  over the directory that holds the root: recovery decides from the first and
  acts with the second.  No other process changes the directory and no call fails,
  so an object that was looked up is the one that is opened.

  Main results:
    * `removeEntries_inside` — a tree without a foreign mount is erased;
    * `roots_agree_iff` — the two functions agree exactly unless the parent
      directory of a captured root is gone: it is observed as absent, and its
      deletion fails.
-/
import Mathlib.Logic.Function.Basic

namespace TgCli.Removal

open Function

/-! ## §1. Objects. -/

/-- What `fstat` and `statx` tell of an object. -/
structure Stat where
  device : Nat
  inode : Nat
  owner : Nat
  mode : Nat
  mount : Option Nat
deriving DecidableEq, Repr

/-- An object; the entries of a directory in the order of their names. -/
inductive Entry where
  | other (stat : Stat)
  | directory (stat : Stat) (entries : List (String × Entry))

def Entry.stat : Entry → Stat
  | .other stat => stat
  | .directory stat _ => stat

/-- `openat` with `O_DIRECTORY | O_NOFOLLOW`. -/
def Entry.openDirectory : Entry → Option (Stat × List (String × Entry))
  | .other _ => none
  | .directory stat entries => some (stat, entries)

/-- What `open` finds at the parent's path. -/
inductive Parent where
  | missing
  /-- it is no directory -/
  | refused
  | opened (stat : Stat) (entries : String → Option Entry)

def Parent.entry : Parent → String → Option Entry
  | .opened _ entries, name => entries name
  | _, _ => none

structure RootIdentity where
  device : Nat
  inode : Nat
  owner : Nat
deriving DecidableEq, Repr

structure CapturedRemovalRoot where
  path : String
  identity : Option RootIdentity
deriving DecidableEq, Repr

/-- `RemovalRootObservation`. -/
inductive Observation where
  | plannedAbsent | captured | staged | absent | changed
deriving DecidableEq, Repr

/-! ## §2. Names and checks. -/

def validInvocationId (value : String) : Bool :=
  value.toList.length == 32 && value.toList.all fun c => ('0' ≤ c ∧ c ≤ '9') ∨ ('a' ≤ c ∧ c ≤ 'f')

/-- `split_path`: the name, for an absolute path in normal form. -/
def splitPath (value : String) : Option String :=
  match value.toList.splitOn '/' with
  | [] :: first :: more =>
    if (first :: more).all fun part => part ∉ [[], ['.'], ['.', '.']] ∧ '\x00' ∉ part then
      some (String.ofList ((first :: more).getLast (List.cons_ne_nil _ _)))
    else none
  | _ => none

/-- The names of the root and of its staging entry. -/
def names (root : CapturedRemovalRoot) (invocationId label : String) : Option (String × String) :=
  if !validInvocationId invocationId || (label != "data" && label != "state") then none
  else
    (splitPath root.path).map fun name => (name, ".tgcli-removal-" ++ invocationId ++ "-" ++ label)

def validParent (stat : Stat) (expectedUid : Nat) : Bool :=
  stat.owner == expectedUid && stat.mode == 0o700

def sameIdentity (stat : Stat) (expected : RootIdentity) : Bool :=
  stat.device == expected.device && stat.inode == expected.inode && stat.owner == expected.owner

def sameMount (parent child : Stat) : Bool := parent.mount.isSome && parent.mount == child.mount

/-! ## §3. `observe_removal_root`. -/

/-- The checks of the one entry that is there. -/
def observeEntry (parent : Stat) (identity : RootIdentity) (entry : Entry) (found : Observation) :
    Except String Observation :=
  match entry.openDirectory with
  | none => .ok .changed
  | some (opened, _) =>
    if !sameIdentity entry.stat identity || entry.stat.device != parent.device then .ok .changed
    else if !sameIdentity opened identity || opened.device != entry.stat.device
        || opened.inode != entry.stat.inode then .ok .changed
    else if !sameMount parent opened then .error "mount_boundary"
    else .ok found

def observeRemovalRoot (root : CapturedRemovalRoot) (invocationId label : String)
    (expectedUid : Nat) (parent : Parent) : Except String Observation :=
  match names root invocationId label with
  | none => .error "path_invalid"
  | some (name, staged) =>
    match parent with
    | .missing => .ok (if root.identity.isSome then .absent else .plannedAbsent)
    | .refused => .error "path_invalid"
    | .opened stat entries =>
      if !validParent stat expectedUid then .error "path_invalid"
      else
        match root.identity with
        | none =>
          .ok (if (entries name).isSome || (entries staged).isSome then .changed else .plannedAbsent)
        | some identity =>
          match entries name, entries staged with
          | some _, some _ => .ok .changed
          | none, none => .ok .absent
          | some entry, none => observeEntry stat identity entry .captured
          | none, some entry => observeEntry stat identity entry .staged

/-- `root_is_started` of `decide_removal_recovery`. -/
def rootIsStarted (observation : Observation) (plannedPresent : Bool) : Bool :=
  if plannedPresent then
    observation == .captured || observation == .staged || observation == .absent
  else observation == .plannedAbsent

/-! ## §4. `delete_removal_root`. -/

/-- `absent_or_identity` of an entry that is there. -/
def identityFailure (parent : Stat) (expected : RootIdentity) (entry : Entry) : Option String :=
  match entry.openDirectory with
  | none => some "path_changed"
  | some (opened, _) =>
    if entry.stat.owner != expected.owner || !sameIdentity entry.stat expected then
      some "path_changed"
    else if !sameIdentity opened expected || opened.device != entry.stat.device
        || opened.inode != entry.stat.inode then some "path_changed"
    else if entry.stat.device != parent.device || !sameMount parent opened then
      some "mount_boundary"
    else none

mutual

/-- `remove_entries`: why it stopped, and what is left. -/
def removeEntries (device mount : Nat) :
    List (String × Entry) → Option String × List (String × Entry)
  | [] => (none, [])
  | (name, entry) :: rest =>
    match removeEntry device mount entry with
    | (some reason, left) => (some reason, (name, left) :: rest)
    | (none, _) => removeEntries device mount rest

/-- One turn of its loop. -/
def removeEntry (device mount : Nat) : Entry → Option String × Entry
  | .other stat =>
    (if stat.device != device || stat.mount != some mount then some "mount_boundary" else none,
      .other stat)
  | .directory stat entries =>
    if stat.device != device || stat.mount != some mount then
      (some "mount_boundary", .directory stat entries)
    else
      let removed := removeEntries device mount entries
      (removed.1, .directory stat removed.2)

end

/-- The staged entry is erased and unlinked. -/
def deleteStaged (stat : Stat) (identity : RootIdentity) (name staged : String)
    (entries : String → Option Entry) (entry : Entry) : Except String Unit × Parent :=
  match entry.openDirectory with
  | none => (.error "path_changed", .opened stat entries)
  | some (opened, children) =>
    if !sameIdentity opened identity then (.error "path_changed", .opened stat entries)
    else if opened.device != stat.device then (.error "mount_boundary", .opened stat entries)
    else
      match opened.mount with
      | none => (.error "mount_boundary", .opened stat entries)
      | some mount =>
        if stat.mount != some mount then (.error "mount_boundary", .opened stat entries)
        else
          let left := removeEntries opened.device mount children
          match left.1 with
          | some reason =>
            (.error reason, .opened stat (update entries staged (some (.directory opened left.2))))
          | none =>
            let removed := update entries staged none
            (if (removed name).isSome then .error "path_changed" else .ok (), .opened stat removed)

def deleteRemovalRoot (root : CapturedRemovalRoot) (invocationId label : String)
    (expectedUid : Nat) (parent : Parent) : Except String Unit × Parent :=
  match names root invocationId label with
  | none => (.error "path_invalid", parent)
  | some (name, staged) =>
    match parent with
    | .missing => (if root.identity.isNone then .ok () else .error "path_changed", .missing)
    | .refused =>
      (.error (if root.identity.isSome then "path_changed" else "path_invalid"), .refused)
    | .opened stat entries =>
      if !validParent stat expectedUid then (.error "path_invalid", .opened stat entries)
      else
        match root.identity with
        | none =>
          (if (entries name).isSome || (entries staged).isSome then .error "path_changed" else .ok (),
            .opened stat entries)
        | some identity =>
          match entries name, entries staged with
          | some _, some _ => (.error "path_changed", .opened stat entries)
          | none, none => (.ok (), .opened stat entries)
          | none, some entry => deleteStaged stat identity name staged entries entry
          | some entry, none =>
            match identityFailure stat identity entry with
            | some reason => (.error reason, .opened stat entries)
            | none =>
              -- `rename_exclusive`
              deleteStaged stat identity name staged
                (update (update entries name none) staged (some entry)) entry

/-! ## §5. Trees without a foreign mount. -/

mutual

/-- All objects below are on this device and mount. -/
def inside (device : Nat) (mount : Option Nat) : List (String × Entry) → Bool
  | [] => true
  | (_, entry) :: rest => entryInside device mount entry && inside device mount rest

def entryInside (device : Nat) (mount : Option Nat) : Entry → Bool
  | .other stat => stat.device == device && stat.mount == mount
  | .directory stat entries =>
    stat.device == device && stat.mount == mount && inside device mount entries

end

mutual

/-- **A tree without a foreign mount is erased.** -/
theorem removeEntries_inside : ∀ {entries : List (String × Entry)},
    inside device (some mount) entries → (removeEntries device mount entries).1 = none
  | [], _ => rfl
  | (name, entry) :: rest, h => by
      rw [inside, Bool.and_eq_true] at h
      have hent := removeEntry_inside h.1
      rw [removeEntries]
      split
      · rename_i hfail
        rw [hfail] at hent
        cases hent
      · exact removeEntries_inside h.2

theorem removeEntry_inside : ∀ {entry : Entry},
    entryInside device (some mount) entry → (removeEntry device mount entry).1 = none
  | .other stat, h => by
      simp only [entryInside, Bool.and_eq_true, beq_iff_eq] at h
      simp [removeEntry, h]
  | .directory stat entries, h => by
      simp only [entryInside, Bool.and_eq_true, beq_iff_eq] at h
      have hchildren := removeEntries_inside h.2
      simp [removeEntry, h.1, hchildren]

end

/-! ## §6. The two functions. -/

section Agreement

variable {root : CapturedRemovalRoot} {invocationId label name staged : String} {expectedUid : Nat}
  {parent : Parent} {stat : Stat} {identity : RootIdentity} {entries : String → Option Entry}
  {entry : Entry} {found : Observation}

/-- No mount below the entry. -/
def Entry.Whole (entry : Entry) : Prop :=
  ∀ opened children, entry.openDirectory = some (opened, children) →
    inside opened.device opened.mount children = true

/-- Neither the root nor its staging entry contains another mount. -/
def NoForeignMount (root : CapturedRemovalRoot) (invocationId label : String) (parent : Parent) :
    Prop :=
  ∀ name staged, names root invocationId label = some (name, staged) →
    ∀ entry, parent.entry name = some entry ∨ parent.entry staged = some entry → entry.Whole

/-- **What recovery decides, the deletion can do.** -/
def Agrees (root : CapturedRemovalRoot) (invocationId label : String) (expectedUid : Nat)
    (parent : Parent) : Prop :=
  match observeRemovalRoot root invocationId label expectedUid parent with
  | .error _ => True
  | .ok .changed =>
    ∃ reason, deleteRemovalRoot root invocationId label expectedUid parent = (.error reason, parent)
  | .ok observation =>
    rootIsStarted observation root.identity.isSome = true
      ∧ ∃ after, deleteRemovalRoot root invocationId label expectedUid parent = (.ok (), after)
        ∧ ∀ name staged, names root invocationId label = some (name, staged) →
          after.entry name = none ∧ after.entry staged = none

section

attribute [local simp] Entry.openDirectory Entry.stat observeEntry identityFailure deleteStaged

/-- **One entry**: it cannot be observed, or both functions refuse it, or it is the captured
directory and is erased. -/
theorem entry_cases (stat : Stat) (identity : RootIdentity) (entry : Entry) :
    (∀ found, observeEntry stat identity entry found = .error "mount_boundary")
      ∨ ((∀ found, observeEntry stat identity entry found = .ok .changed)
        ∧ (∃ reason, identityFailure stat identity entry = some reason)
        ∧ ∀ (name staged : String) (entries : String → Option Entry), ∃ reason,
          deleteStaged stat identity name staged entries entry = (.error reason, .opened stat entries))
      ∨ ((∀ found, observeEntry stat identity entry found = .ok found)
        ∧ identityFailure stat identity entry = none
        ∧ (entry.Whole → ∀ (name staged : String) (entries : String → Option Entry),
          update entries staged none name = none →
            deleteStaged stat identity name staged entries entry
              = (.ok (), .opened stat (update entries staged none)))) := by
  cases entry with
  | other other => exact .inr (.inl ⟨fun _ => rfl, ⟨_, rfl⟩, fun _ _ _ => ⟨_, rfl⟩⟩)
  | directory opened children =>
    cases hsame : sameIdentity opened identity with
    | false =>
      refine .inr (.inl ⟨fun _ => ?_, ⟨"path_changed", ?_⟩, fun _ _ _ => ⟨"path_changed", ?_⟩⟩)
      all_goals simp [hsame]
    | true =>
      have howner : opened.owner = identity.owner := by
        unfold sameIdentity at hsame
        simp only [Bool.and_eq_true, beq_iff_eq] at hsame
        exact hsame.2
      by_cases hdev : opened.device = stat.device
      · by_cases hmount : stat.mount.isSome = true ∧ stat.mount = opened.mount
        · obtain ⟨mount, hstat⟩ := Option.isSome_iff_exists.mp hmount.1
          have hopn : opened.mount = some mount := hmount.2.symm.trans hstat
          refine .inr (.inr ⟨fun found => ?_, ?_, fun hwhole name staged entries hname => ?_⟩)
          · simp [hsame, hdev, sameMount, hstat, hopn]
          · simp [hsame, hdev, sameMount, hstat, hopn, howner]
          · have hinside := hwhole opened children rfl
            rw [hopn, hdev] at hinside
            simp [hsame, hdev, hopn, hstat, hname, removeEntries_inside hinside]
        · refine .inl fun _ => ?_
          have hforn : sameMount stat opened = false := by simpa [sameMount] using hmount
          simp [hsame, hdev, hforn]
      · refine .inr (.inl ⟨fun _ => ?_, ⟨"mount_boundary", ?_⟩, fun _ _ _ => ⟨"mount_boundary", ?_⟩⟩)
        all_goals simp [hsame, hdev, howner]

end

attribute [local simp] rootIsStarted Parent.entry

/-- **THE TWO FUNCTIONS AGREE** unless the directory of a captured root is gone. -/
theorem roots_agree_iff (hmount : NoForeignMount root invocationId label parent) :
    Agrees root invocationId label expectedUid parent
      ↔ ¬ (parent = .missing ∧ root.identity.isSome = true
        ∧ (names root invocationId label).isSome = true) := by
  unfold Agrees observeRemovalRoot deleteRemovalRoot
  cases hnames : names root invocationId label with
  | none => simp
  | some both =>
    obtain ⟨name, staged⟩ := both
    cases parent with
    | missing => cases hid : root.identity <;> simp
    | refused => simp
    | opened stat entries =>
      refine iff_of_true ?_ fun h => nomatch h.1
      have hwhole := hmount name staged hnames
      dsimp only
      cases hval : validParent stat expectedUid with
      | false => trivial
      | true =>
        cases hid : root.identity with
        | none =>
          cases hname : entries name <;> cases hstd : entries staged <;>
            simp [hname, hstd]
        | some identity =>
          cases hname : entries name with
          | none =>
            cases hstd : entries staged with
            | none => simp [hname, hstd]
            | some entry =>
              rcases entry_cases stat identity entry with h | ⟨h, -, hdel⟩ | ⟨h, -, hdel⟩
              · simp [h]
              · obtain ⟨reason, hrsn⟩ := hdel name staged entries
                simp [h, hrsn]
              · have hnone : update entries staged none name = none := by
                  rw [update_apply, hname, ite_self]
                have hdone := hdel (hwhole entry (.inr hstd)) name staged entries hnone
                simp [h, hdone, hnone]
          | some entry =>
            cases hstd : entries staged with
            | some other => simp
            | none =>
              rcases entry_cases stat identity entry with h | ⟨h, ⟨reason, hfail⟩, -⟩ | ⟨h, hok, hdel⟩
              · simp [h]
              · simp [h, hfail]
              · -- the rename frees the name
                have hne : name ≠ staged := by
                  rintro rfl
                  rw [hname] at hstd
                  cases hstd
                have hnone : update (update (update entries name none)
                    staged (some entry)) staged none name = none := by simp [hne]
                have hdone := hdel (hwhole entry (.inl hname)) name staged _ hnone
                simp [h, hok, hdone, hne]

end Agreement

/-! ## §7. Samples. -/

/-- The data root of an account. -/
def sampleRoot : CapturedRemovalRoot :=
  { path := "/data/main", identity := some { device := 1, inode := 7, owner := 1000 } }

def sampleId : String := "00000000000000000000000000000000"

/-- **A captured root whose parent is gone** is observed as absent, and cannot be deleted. -/
theorem absent_root_not_deleted :
    observeRemovalRoot sampleRoot sampleId "data" 1000 .missing = .ok .absent
      ∧ deleteRemovalRoot sampleRoot sampleId "data" 1000 .missing
        = (.error "path_changed", .missing) :=
  ⟨rfl, rfl⟩

def sampleStat (inode : Nat) : Stat :=
  { device := 1, inode := inode, owner := 1000, mode := 0o700, mount := some 3 }

/-- The root with a file in it. -/
def sampleParent : Parent :=
  .opened (sampleStat 2) fun name =>
    if name = "main" then some (.directory (sampleStat 7) [("db", .other (sampleStat 8))]) else none

/-- The root that is there is deleted. -/
theorem roots_agree_iff_captured : NoForeignMount sampleRoot sampleId "data" sampleParent
      ∧ Agrees sampleRoot sampleId "data" 1000 sampleParent := by
  have hwhole : NoForeignMount sampleRoot sampleId "data" sampleParent := by
    intro name staged _ entry hent opened children hopen
    have hdirectory : entry = .directory (sampleStat 7) [("db", .other (sampleStat 8))] := by
      rcases hent with h | h
      all_goals
        simp only [Parent.entry, sampleParent] at h
        split at h
        · exact (Option.some.inj h).symm
        · cases h
    subst hdirectory
    cases hopen
    decide
  exact ⟨hwhole, (roots_agree_iff hwhole).mpr fun h => nomatch h.1⟩

end TgCli.Removal
