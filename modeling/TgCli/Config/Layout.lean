/-
  TgCli.Config.Layout — THE LAYOUTS A CRASH CAN LEAVE

  `Layout s` is what holds of the config directory at every point of
  `Store::mutate` and of `recover_transaction`, whatever calls fail and
  wherever a crash cuts them: no marker; a pending marker, cut short or whole,
  with the contents on either side of the exchange; or a committed marker.

  `MutationControl`'s hooks before and after the commit are `check` calls of
  the commit section, and so are its deadline and cancellation up to config.lock;
  `already_committed_admission` is a function of the snapshot.

  Main results: `triple_recover` and `triple_mutate` — from a layout, recovery
  and mutation leave only layouts; a recovery that returns true leaves no
  transaction file.  `triple_mutateRecovered` — how a mutation ends, and what
  its result says of config.toml.
-/
import TgCli.Config.Document

namespace TgCli.Config

open Tdlib Lib Lib.SortedMap

section Store

variable (sha : Bytes → Digest) (toml : Toml)

def serializeIdentity (bytes : Bytes) (stamp : Nat) : Identity :=
  .file (sha bytes).bytes bytes.length stamp

/-- config.toml; no file is an empty document. -/
def readFromDirectory (s : Disk) : Except ConfigReason ParsedConfig :=
  match s.files .config with
  | none => .ok { snapshot := { identity := .missing }, document := [] }
  | some bytes =>
    if kMaxConfigBytes < bytes.length then .error .tooLarge
    else parseDocument toml bytes (serializeIdentity sha bytes s.stamp)

/-! ## §1. Load. -/

/-- config.lock as `observe_transaction` finds it. -/
inductive LockState where
  | free | held | unusable
deriving DecidableEq, Repr

inductive TransactionObservation where
  | active | cleared | recoveryRequired | invalid
deriving DecidableEq, Repr

def transactionMarkerPresent (s : Disk) : Bool := (s.files .transaction).isSome

def observeTransaction (lock : LockState) (s : Disk) : TransactionObservation :=
  match lock with
  | .unusable => .invalid
  | .free => if transactionMarkerPresent s then .recoveryRequired else .cleared
  | .held => .active

inductive TransactionReadAction where
  | readSnapshot | retry | fail
deriving DecidableEq, Repr

def inspectTransactionForLoad (lock : LockState) (s : Disk) : TransactionReadAction :=
  if !transactionMarkerPresent s then .readSnapshot
  else
    match observeTransaction lock s with
    | .active | .cleared => .retry
    | .recoveryRequired | .invalid => .fail

/-- What `Store::load` returns; `waiting` goes round its loop until the
deadline. -/
inductive LoadResult where
  | loaded (snapshot : ConfigSnapshot)
  | error (reason : ConfigReason)
  | waiting
deriving DecidableEq, Repr

/-- `Store::load` in a directory that does not change. -/
def load (lock : LockState) (s : Disk) : LoadResult :=
  match inspectTransactionForLoad lock s with
  | .retry => .waiting
  | .fail => .error .syncError
  | .readSnapshot =>
    match readFromDirectory sha toml s with
    | .error reason => .error reason
    | .ok parsed => .loaded parsed.snapshot

/-! ## §2. Mutate. -/

/-- The commit of a changed document, or why it is refused. -/
def commitDocument (sequence : Nat) (old : Option Bytes) (document : Table) :
    Program MutationResult :=
  let bytes := serializeDocument toml document
  if kMaxConfigBytes < bytes.length then .done { status := .invalid, reason := some .tooLarge }
  else
    match parseDocument toml bytes .pending with
    | .error reason => .done { status := .invalid, reason := some reason }
    | .ok _ => commit sha sequence old bytes

/-- `Store::mutate` once the directory is recovered. -/
def mutateRecovered (alreadyCommitted : ConfigSnapshot → Bool) (expected : Identity)
    (mutation : Mutation) (sequence : Nat) : Program MutationResult :=
  require .check (.done { status := .invalid, reason := some .ioError }) <| .look fun s =>
    match readFromDirectory sha toml s with
    | .error reason => .done { status := .invalid, reason := some reason }
    | .ok current =>
      if current.snapshot.identity ≠ expected then
        if alreadyCommitted current.snapshot then
          require .check durabilityUnknown (.done { status := .applied })
        else .done { status := .conflict, current := some current.snapshot.identity }
      else
        match applyMutation current.document mutation with
        | .error reason => .done { status := .invalid, reason := some reason }
        | .ok document => commitDocument sha toml sequence (s.files .config) document

/-- `Store::mutate` up to the recovered directory; what it returns if it does
not come so far. -/
def enterStore (mutation : Mutation) : Program (Option MutationResult) :=
  let cancelled : Program (Option MutationResult) := .done (some { status := .cancelled })
  let timedOut : Program (Option MutationResult) := .done (some { status := .timedOut })
  let unusable : Program (Option MutationResult) :=
    .done (some { status := .ioError, reason := some .ioError })
  require .check cancelled <| require .check timedOut <|
    if !validAccountName mutation.account
        || mutation.reassignDefault.any fun name => !validAccountName name then
      .done (some { status := .invalid, reason := some .pathInvalid })
    else
      -- the directory, config.lock, and `flock` until the deadline
      require .check unusable <| require .check cancelled <| require .check timedOut <|
        require .check unusable <| (recoverTransaction sha).bind fun recovered =>
          .done (if recovered then none
            else some { status := .durabilityUnknown, reason := some .syncError })

/-- The rest of `Store::mutate`. -/
def mutateEntered (alreadyCommitted : ConfigSnapshot → Bool) (expected : Identity)
    (mutation : Mutation) (sequence : Nat) : Option MutationResult → Program MutationResult
  | some result => .done result
  | none => mutateRecovered sha toml alreadyCommitted expected mutation sequence

/-- The whole of `Store::mutate`. -/
def mutate (alreadyCommitted : ConfigSnapshot → Bool) (expected : Identity) (mutation : Mutation)
    (sequence : Nat) : Program MutationResult :=
  (enterStore sha mutation).bind
    (mutateEntered sha toml alreadyCommitted expected mutation sequence)

end Store

open Prod Prog Op

variable (sha : Bytes → Digest)

/-! ## §3. Layouts. -/

/-- The digest of a file, empty where there is none. -/
def digestOf (content : Option Bytes) : Bytes :=
  match content with
  | some bytes => (sha bytes).bytes
  | none => []

theorem digestOf_ne_nil (bytes : Bytes) : digestOf sha (some bytes) ≠ [] := by
  intro h
  have hlen := (sha bytes).length_eq
  have hnil : (sha bytes).bytes = [] := h
  rw [hnil] at hlen
  cases hlen

theorem digestOf_eq_nil (h : digestOf sha content = []) : content = none := by
  cases content with
  | none => rfl
  | some bytes => exact absurd h (digestOf_ne_nil sha bytes)

theorem hashes_some : hashes sha content (sha bytes).bytes
      ↔ digestOf sha content = digestOf sha (some bytes) := by
  cases content with
  | none => exact ⟨fun h => (by cases h), fun h => absurd h.symm (digestOf_ne_nil sha bytes)⟩
  | some content => simp [hashes, digestOf]

/-- Before the exchange, or after it was undone. -/
def RolledBack (s : Disk) : Prop :=
  digestOf sha (s.files .config) = digestOf sha s.old
    ∧ (s.files .replacement = none
      ∨ digestOf sha (s.files .replacement) = digestOf sha (some s.new))

/-- After the exchange. -/
def Swapped (s : Disk) : Prop :=
  digestOf sha (s.files .config) = digestOf sha (some s.new)
    ∧ digestOf sha (s.files .replacement) = digestOf sha s.old

/-- A pending transaction: its marker may be cut short. -/
structure Pending (s : Disk) : Prop where
  marker : ∃ k, s.files .transaction = some ((transactionBytes sha false s.old s.new).take k)
  unfinalized : s.finalized = false
  old_readable : readable s.old = true
  new_readable : readable (some s.new) = true
  config_mem : s.files .config = s.old ∨ s.files .config = some s.new
  replacement_mem : s.files .replacement = none ∨ s.files .replacement = s.old
    ∨ s.files .replacement = some s.new

/-- No transaction is under way. -/
structure Idle (s : Disk) : Prop where
  marker : s.files .transaction = none
  config_mem : s.files .config = s.old ∨ s.files .config = some s.new
  finalized : s.finalized = true → s.files .config = some s.new

/-- A finalized transaction. -/
structure Committed (s : Disk) : Prop where
  marker : s.files .transaction = some (transactionBytes sha true s.old s.new)
  config : s.files .config = some s.new
  new_readable : readable (some s.new) = true
  replacement_readable : readable (s.files .replacement) = true

/-- **The layouts of the config directory.** -/
inductive Layout (s : Disk) : Prop
  | idle (h : Idle s)
  | rolledBack (h : Pending sha s) (hside : RolledBack sha s)
  | swapped (h : Pending sha s)
      (hmrk : s.files .transaction = some (transactionBytes sha false s.old s.new))
      (hside : Swapped sha s)
  | committed (h : Committed sha s)

/-- No transaction file is left. -/
def Cleared (s : Disk) : Prop :=
  s.files .transaction = none ∧ s.files .replacement = none ∧ s.files .committed = none

/-! ## §4. Layouts and single changes. -/

section Changes

variable {sha} {s : Disk}

/-- A layout says nothing about the committed marker and the temporaries. -/
def Unwatched (name : Name) : Prop :=
  name ≠ .config ∧ name ≠ .replacement ∧ name ≠ .transaction

theorem Idle.put (h : Idle s) (hc : name ≠ .config) (ht : name ≠ .transaction)
    (content : Option Bytes) : Idle (s.put name content) :=
  ⟨by simpa [ht.symm] using h.marker, by simpa [hc.symm] using h.config_mem,
    by simpa [hc.symm] using h.finalized⟩

theorem Pending.put (h : Pending sha s) (hname : Unwatched name)
    (content : Option Bytes) : Pending sha (s.put name content) := by
  obtain ⟨hc, hr, ht⟩ := hname
  exact ⟨by simpa [ht.symm] using h.marker, h.unfinalized, h.old_readable, h.new_readable,
    by simpa [hc.symm] using h.config_mem, by simpa [hr.symm] using h.replacement_mem⟩

theorem Layout.put (h : Layout sha s) (hname : Unwatched name)
    (content : Option Bytes) : Layout sha (s.put name content) := by
  obtain ⟨hc, hr, ht⟩ := hname
  cases h with
  | idle h => exact .idle (h.put hc ht content)
  | rolledBack h hside =>
    refine .rolledBack (h.put ⟨hc, hr, ht⟩ content) ?_
    simpa [RolledBack, hc.symm, hr.symm] using hside
  | swapped h hm hside =>
    refine .swapped (h.put ⟨hc, hr, ht⟩ content) (by simpa [ht.symm] using hm) ?_
    simpa [Swapped, hc.symm, hr.symm] using hside
  | committed h =>
    exact .committed ⟨by simpa [ht.symm] using h.marker, by simpa [hc.symm] using h.config,
      h.new_readable, by simpa [hr.symm] using h.replacement_readable⟩

/-- The replacement is removed before the exchange. -/
theorem Pending.dropReplacement (h : Pending sha s) : Pending sha (s.put .replacement none) :=
  ⟨by simpa using h.marker, h.unfinalized, h.old_readable, h.new_readable,
    by simpa using h.config_mem, by simp⟩

theorem RolledBack.dropReplacement (h : RolledBack sha s) :
    RolledBack sha (s.put .replacement none) :=
  ⟨by simpa using h.1, by simp⟩

theorem Committed.dropReplacement (h : Committed sha s) : Committed sha (s.put .replacement none) :=
  ⟨by simpa using h.marker, by simpa using h.config, h.new_readable, by simp [readable]⟩

/-- The marker is removed last. -/
theorem Pending.dropMarker (h : Pending sha s) : Idle (s.put .transaction none) := by
  refine ⟨by simp, by simpa using h.config_mem, fun hf => ?_⟩
  cases h.unfinalized.symm.trans hf

theorem Committed.dropMarker (h : Committed sha s) : Idle (s.put .transaction none) :=
  ⟨by simp, .inr (by simpa using h.config), fun _ => by simpa using h.config⟩

/-- The exchange, done or undone, on a pending transaction. -/
theorem Pending.exchange (h : Pending sha s) (he : exchange.effect s = some s') :
    Pending sha s' ∧ s'.old = s.old ∧ s'.new = s.new ∧ s'.finalized = s.finalized
      ∧ s'.files .transaction = s.files .transaction
      ∧ s'.files .config = s.files .replacement ∧ s'.files .replacement = s.files .config
      ∧ s.files .replacement ≠ none := by
  simp only [effect] at he
  split at he
  · next config replacement hc hr =>
      cases he
      refine ⟨⟨by simpa using h.marker, h.unfinalized, h.old_readable, h.new_readable, ?_, ?_⟩,
        rfl, rfl, rfl, by simp, by simp [hr], by simp [hc], by simp [hr]⟩
      · have hmem := h.replacement_mem
        rw [hr] at hmem
        simpa using hmem
      · have hmem := h.config_mem
        rw [hc] at hmem
        simpa using hmem
  · cases he

/-- config.toml and the history. -/
def Disk.core (s : Disk) : Option Bytes × Option Bytes × Bytes × Bool :=
  (s.files .config, s.old, s.new, s.finalized)

theorem core_put (s : Disk) (hname : name ≠ .config) (content : Option Bytes) :
    (s.put name content).core = s.core := by
  simp [Disk.core, hname.symm]

/-- **The new content is brought in.** -/
theorem swapIn_pending (h : Pending sha s) (hcfg : s.files .config = s.old)
    (he : (swapIn s.old).effect s = some s') :
    Pending sha s' ∧ s'.core = (s.files .replacement, s.old, s.new, s.finalized)
      ∧ s'.files .transaction = s.files .transaction ∧ s'.files .replacement = s.old := by
  cases hold : s.old with
  | some old =>
    rw [hold] at he
    obtain ⟨hpend, ho, hn, hf, ht, hc, hr, _⟩ := h.exchange he
    exact ⟨hpend, by simp [Disk.core, hc, ho, hn, hf, hold], ht, by rw [hr, hcfg, hold]⟩
  | none =>
    rw [hold] at he
    have heff : install.effect s = some s' := he
    simp only [effect] at heff
    split at heff
    · cases heff
    rename_i bytes hr
    cases heff
    have hmem := h.replacement_mem
    rw [hr, hold] at hmem
    refine ⟨⟨by simpa using h.marker, h.unfinalized, h.old_readable, h.new_readable, ?_, ?_⟩,
      by simp [Disk.core, hold, hr], by simp, by simp⟩
    · exact .inr (by simpa using hmem)
    · exact .inl (by simp)

/-- **The new content is taken out again.** -/
theorem swapOut_pending (h : Pending sha s) (hside : Swapped sha s)
    (he : (swapOut s.old).effect s = some s') :
    Pending sha s' ∧ RolledBack sha s'
      ∧ s'.core = (s.files .replacement, s.old, s.new, s.finalized) := by
  cases hold : s.old with
  | some old =>
    rw [hold] at he
    obtain ⟨hpend, ho, hn, hf, _, hc, hr, _⟩ := h.exchange he
    refine ⟨hpend, ⟨?_, .inr ?_⟩, by simp [Disk.core, hc, ho, hn, hf, hold]⟩
    · rw [hc, ho]
      exact hside.2
    · rw [hr, hn]
      exact hside.1
  | none =>
    rw [hold] at he
    have heff : unlinkConfig.effect s = some s' := he
    simp only [effect] at heff
    split at heff
    · cases heff
    cases heff
    have hrepl : s.files .replacement = none := by
      refine digestOf_eq_nil sha ?_
      rw [hside.2, hold]
      rfl
    refine ⟨⟨by simpa using h.marker, h.unfinalized, h.old_readable, h.new_readable, ?_, ?_⟩,
      ⟨?_, ?_⟩, by simp [Disk.core, hrepl, hold]⟩
    · exact .inl (by simp [hold])
    · exact .inl (by simp [hrepl])
    · show digestOf sha _ = digestOf sha s.old
      rw [hold]
      simp
    · exact .inl (by simp [hrepl])

end Changes

/-! ## §5. Recovery keeps the layouts. -/

section Recovery

variable {sha} {α : Type} {Q : α → Disk → Prop} {may : Op → Prop}

variable {failed next : Program α} {s : Disk}

variable {I : Disk → Prop}

/-- One removal of `cleanupTransaction`. -/
theorem triple_remove (hfail : Prog.Triple (faulty may) failed s I Q)
    (hnext : Prog.Triple (faulty may) next (s.put name none) I Q) :
    Prog.Triple (faulty may) (require (.remove name) failed next) s I Q := by
  refine triple_require (fun s' h => h) hfail ?_
  intro s' he
  rw [← Option.some.inj he]
  exact hnext

/-- A call without an effect. -/
theorem triple_neutral (hop : op = .sync ∨ op = .check)
    (hfail : Prog.Triple (faulty may) failed s I Q) (hnext : Prog.Triple (faulty may) next s I Q) :
    Prog.Triple (faulty may) (require op failed next) s I Q := by
  rcases hop with rfl | rfl
  all_goals
    refine triple_require (fun s' h => h) hfail ?_
    intro s' he
    rw [← Option.some.inj he]
    exact hnext

/-- The state `cleanup_transaction` leaves. -/
def cleaned (s : Disk) : Disk :=
  ((s.put .replacement none).put .committed none).put .transaction none

theorem cleared_cleaned (s : Disk) : Cleared (cleaned s) := by
  simp [Cleared, cleaned]

theorem unwatched_committed : Unwatched .committed := by simp [Unwatched]

/-- Cleanup, when each of its four states is a layout. -/
theorem triple_cleanup (hs : Layout sha s) (hdropped : Layout sha (s.put .replacement none))
    (hcln : Idle (cleaned s))
    (hfail : ∀ s', Layout sha s' → s'.core = s.core →
      Prog.Triple (faulty may) failed s' (Layout sha) Q)
    (hnext : ∀ s', Layout sha s' → s'.core = s.core → Cleared s' →
      Prog.Triple (faulty may) next s' (Layout sha) Q) :
    Prog.Triple (faulty may) (cleanupTransaction failed next) s (Layout sha) Q := by
  refine triple_remove (hfail s hs rfl) ?_
  have h1 : (s.put .replacement none).core = s.core := core_put _ (by simp) _
  refine triple_remove (hfail _ hdropped h1) ?_
  have hboth := hdropped.put unwatched_committed none
  have h2 := (core_put (s.put .replacement none) (show Name.committed ≠ .config by simp) none).trans h1
  refine triple_remove (hfail _ hboth h2) ?_
  have h3 : (cleaned s).core = s.core := (core_put _ (by simp) _).trans h2
  exact triple_neutral (.inl rfl) (hfail _ (.idle hcln) h3)
    (hnext _ (.idle hcln) h3 (cleared_cleaned s))

section Cleanup

variable (hfail : ∀ s', Layout sha s' → s'.core = s.core →
    Prog.Triple (faulty may) failed s' (Layout sha) Q)
  (hnext : ∀ s', Layout sha s' → s'.core = s.core → Cleared s' →
    Prog.Triple (faulty may) next s' (Layout sha) Q)
include hfail hnext

/-- Cleanup of a transaction that was not, or is no longer, swapped in. -/
theorem triple_cleanup_rolledBack (h : Pending sha s) (hside : RolledBack sha s) :
    Prog.Triple (faulty may) (cleanupTransaction failed next) s (Layout sha) Q :=
  triple_cleanup (.rolledBack h hside) (.rolledBack h.dropReplacement hside.dropReplacement)
    (h.dropReplacement.put unwatched_committed none).dropMarker hfail hnext

theorem triple_cleanup_committed (h : Committed sha s) :
    Prog.Triple (faulty may) (cleanupTransaction failed next) s (Layout sha) Q := by
  have hcln : Idle (cleaned s) := by
    have hidle := h.dropReplacement.dropMarker.put (show Name.committed ≠ .config by simp)
      (by simp) none
    have hsame : (((s.put .replacement none).put .transaction none).put .committed none)
        = cleaned s := by
      simp only [cleaned, Disk.put, Disk.mk.injEq, and_true]
      funext n
      cases n <;> rfl
    exact hsame ▸ hidle
  exact triple_cleanup (.committed h) (.committed h.dropReplacement) hcln hfail hnext

end Cleanup

/-- What recovery guarantees at its end. -/
def RecoveryPost (sha : Bytes → Digest) (recovered : Bool) (s : Disk) : Prop :=
  Layout sha s ∧ (recovered = true → Cleared s)

theorem triple_refused (h : Layout sha s) :
    Prog.Triple calls (.done false) s (Layout sha) (RecoveryPost sha) :=
  triple_done h ⟨h, fun hfalse => (by cases hfalse)⟩

theorem triple_finished (h : Layout sha s) (hclr : Cleared s) :
    Prog.Triple calls (.done true) s (Layout sha) (RecoveryPost sha) :=
  triple_done h ⟨h, fun _ => hclr⟩

/-- The last part of recovery: the old content is in place. -/
theorem triple_restored (h : Pending sha s) (hside : RolledBack sha s) : Prog.Triple calls
      (require .sync (.done false) (cleanupTransaction (.done false) (.done true))) s
      (Layout sha) (RecoveryPost sha) :=
  triple_neutral (.inl rfl) (triple_refused (.rolledBack h hside))
    (triple_cleanup_rolledBack (fun _ hl _ => triple_refused hl) (fun _ hl _ => triple_finished hl)
      h hside)

/-- Recovery of a pending transaction takes the new content out. -/
theorem triple_recoverRecord_pending (h : Pending sha s) (hlay : Layout sha s) : Prog.Triple calls
      (recoverRecord sha (transactionRecord sha false s.old s.new) (s.files .config)
        (s.files .replacement)) s (Layout sha) (RecoveryPost sha) := by
  have href := triple_refused hlay
  have htakeOut : ∀ {op : Op}, op = .swapOut s.old → Swapped sha s →
      Prog.Triple calls
        (require op (.done false)
          (require .sync (.done false) (cleanupTransaction (.done false) (.done true)))) s
        (Layout sha) (RecoveryPost sha) := by
    intro op hop hside
    refine triple_require ?_ href ?_
    · intro s' hlv
      cases hold : s.old <;> rw [hop, hold] at hlv <;> exact hlv
    · intro s' he
      rw [hop] at he
      obtain ⟨hpend, hrolled, _⟩ := swapOut_pending h hside he
      exact triple_restored hpend hrolled
  refine triple_ite (fun _ => href) (fun _ => ?_)
  cases hold : s.old with
  | some old =>
    refine triple_ite (fun _ => href) (fun _ => ?_)
    refine triple_ite (fun hboth => ?_) (fun _ => ?_)
    · rw [Bool.and_eq_true] at hboth
      refine htakeOut (by rw [hold]; rfl) ⟨(hashes_some sha).mp hboth.1, ?_⟩
      rw [hold]
      exact (hashes_some sha).mp hboth.2
    · refine triple_ite (fun _ => href) (fun hkept => ?_)
      simp only [Bool.or_eq_true, Bool.not_eq_true', not_or, Bool.not_eq_false] at hkept
      refine triple_restored h ⟨?_, .inr ((hashes_some sha).mp hkept.2)⟩
      rw [hold]
      exact (hashes_some sha).mp hkept.1
  | none =>
    refine triple_ite (fun hboth => ?_) (fun _ => ?_)
    · rw [Bool.and_eq_true, Option.isNone_iff_eq_none] at hboth
      refine htakeOut (by rw [hold]; rfl) ⟨(hashes_some sha).mp hboth.1, ?_⟩
      rw [hboth.2, hold]
    · refine triple_ite (fun _ => href) (fun hkept => ?_)
      refine triple_restored h ?_
      -- config.toml is missing, and the replacement is missing or new
      by_cases hcfg : s.files .config = none
      · refine ⟨by rw [hcfg, hold], ?_⟩
        by_cases hrepl : s.files .replacement = none
        · exact .inl hrepl
        refine .inr ((hashes_some sha).mp ?_)
        simp only [hcfg, Option.isNone_none, Bool.true_and, Bool.and_eq_true,
          Bool.not_eq_true', Option.isNone_eq_false_iff, not_and, Bool.not_eq_false] at hkept
        exact hkept (Option.isSome_iff_ne_none.mpr hrepl)
      · simp [hcfg] at hkept

theorem triple_recoverRecord_committed (h : Committed sha s) : Prog.Triple calls
      (recoverRecord sha (transactionRecord sha true s.old s.new) (s.files .config)
        (s.files .replacement)) s (Layout sha) (RecoveryPost sha) := by
  have href := triple_refused (.committed h)
  have hfin := triple_cleanup_committed (fun _ hl _ => triple_refused hl)
    (fun _ hl _ => triple_finished hl) h
  refine triple_ite (fun _ => href) (fun _ => ?_)
  cases s.old <;> exact triple_ite (fun _ => hfin) (fun _ => href)

/-- A pending marker that was cut short does not parse; a whole one gives its
record. -/
theorem triple_recoverMarker_pending (h : Pending sha s) (hlay : Layout sha s) : Prog.Triple calls
      (recoverMarker sha ((transactionBytes sha false s.old s.new).take k) (s.files .config)
        (s.files .replacement)) s (Layout sha) (RecoveryPost sha) := by
  refine triple_ite (fun _ => triple_refused hlay) (fun _ => ?_)
  rw [parseTransaction_take]
  by_cases hwhole : (transactionBytes sha false s.old s.new).length ≤ k + 1
  · rw [if_pos hwhole]
    exact triple_recoverRecord_pending h hlay
  · rw [if_neg hwhole]
    exact triple_refused hlay

/-- **Recovery keeps the layouts**, wherever it is cut and whatever fails. -/
theorem triple_recover (h : Layout sha s) :
    Prog.Triple calls (recoverTransaction sha) s (Layout sha) (RecoveryPost sha) := by
  refine triple_look ?_
  have hlay := h
  cases h with
  | idle hidle =>
    rw [hidle.marker]
    have h1 := hidle.put (show Name.replacement ≠ .config by simp) (by simp) none
    have h2 := h1.put (show Name.committed ≠ .config by simp) (by simp) none
    refine triple_remove (triple_refused (.idle hidle)) (triple_remove (triple_refused (.idle h1)) ?_)
    refine triple_neutral (.inl rfl) (triple_refused (.idle h2)) (triple_finished (.idle h2) ?_)
    exact ⟨h2.marker, by simp, by simp⟩
  | rolledBack hp _ | swapped hp _ _ =>
    obtain ⟨k, hk⟩ := hp.marker
    rw [hk]
    exact triple_recoverMarker_pending hp hlay
  | committed hc =>
    rw [hc.marker]
    refine triple_ite (fun _ => triple_refused (.committed hc)) (fun _ => ?_)
    rw [parseTransaction_bytes]
    exact triple_recoverRecord_committed hc

end Recovery

/-! ## §6. The commit section keeps the layouts. -/

section Commit

variable {sha} {s : Disk} {may : Op → Prop}

/-- What the result of a commit from `old` to `new` says of config.toml. -/
def Told (may : Op → Prop) (old : Option Bytes) (new : Bytes) (r : MutationResult) (s : Disk) :
    Prop :=
  match r.status with
  | .applied => s.core = (some new, old, new, true)
  | .durabilityUnknown => s.files .config = old ∨ s.files .config = some new
  | .ioError => s.core = (old, old, new, false)
    ∨ may .readBack ∧ s.core = (some new, old, new, true)
  | _ => s.files .config = old

theorem Told.config
    (h : Told may old new r s) : s.files .config = old ∨ s.files .config = some new := by
  unfold Told at h
  split at h
  · exact .inr (congrArg fst h)
  · exact h
  · exact h.imp (congrArg fst) fun h => congrArg fst h.2
  · exact .inl h

/-- From this state the program leaves only layouts, and its result tells what
it did. -/
def Keeps (may : Op → Prop) (sha : Bytes → Digest) (old : Option Bytes) (new : Bytes)
    (p : Program MutationResult) (s : Disk) : Prop :=
  Prog.Triple (faulty may) p s (Layout sha) fun r s' => Layout sha s' ∧ Told may old new r s'

variable {old : Option Bytes} {new : Bytes} {failed next : Program MutationResult} {toml : Toml}

theorem keeps_kept (h : Layout sha s) (hcore : s.core = (old, old, new, false))
    {r : MutationResult} (hr : r.status ≠ .applied) : Keeps may sha old new (.done r) s := by
  refine triple_done h ⟨h, ?_⟩
  have hcfg : s.files .config = old := congrArg fst hcore
  unfold Told
  split
  · contradiction
  · exact .inl hcfg
  · exact .inl hcore
  · exact hcfg

theorem keeps_moved (h : Layout sha s)
    (hcore : s.core = (some new, old, new, finalized)) :
    Keeps may sha old new durabilityUnknown s :=
  triple_done h ⟨h, .inr (congrArg fst hcore)⟩

theorem keeps_check (hfail : Keeps may sha old new failed s)
    (hnext : Keeps may sha old new next s) : Keeps may sha old new (require .check failed next) s :=
  triple_neutral (.inr rfl) hfail hnext

theorem keeps_sync (hfail : Keeps may sha old new failed s)
    (hnext : Keeps may sha old new next s) : Keeps may sha old new (require .sync failed next) s :=
  triple_neutral (.inl rfl) hfail hnext

theorem keeps_cleanup (h : Pending sha s) (hside : RolledBack sha s)
    (hcore : s.core = (old, old, new, false)) {failed done : MutationResult}
    (hfail : failed.status ≠ .applied) (hdone : done.status ≠ .applied) :
    Keeps may sha old new (cleanupTransaction (.done failed) (.done done)) s :=
  triple_cleanup_rolledBack (fun _ hl hc => keeps_kept hl (hc.trans hcore) hfail)
    (fun _ hl hc _ => keeps_kept hl (hc.trans hcore) hdone) h hside

section Swapped

variable (h : Pending sha s)
    (hmrk : s.files .transaction = some (transactionBytes sha false s.old s.new))
    (hcore : s.core = (some s.new, s.old, s.new, false)) (hrepl : s.files .replacement = s.old)
include h hmrk hcore hrepl

theorem layout_swapped : Layout sha s := by
  have hcfg : s.files .config = some s.new := congrArg fst hcore
  exact .swapped h hmrk ⟨by rw [hcfg], by rw [hrepl]⟩

/-- The exchange is undone after it went in. -/
theorem keeps_swapOut
    (hnext : ∀ s', Pending sha s' → RolledBack sha s' → s'.core = (s.old, s.old, s.new, false) →
      Keeps may sha s.old s.new next s') :
    Keeps may sha s.old s.new (require (.swapOut s.old) durabilityUnknown next) s := by
  have hcfg : s.files .config = some s.new := congrArg fst hcore
  refine triple_require ?_
    (keeps_moved (layout_swapped h hmrk hcore hrepl) hcore) ?_
  · intro s' hlv
    cases hold : s.old <;> rw [hold] at hlv <;> exact hlv
  · intro s' he
    obtain ⟨hpend, hrolled, hcore'⟩ :=
      swapOut_pending h ⟨by rw [hcfg], by rw [hrepl]⟩ he
    rw [hrepl, h.unfinalized] at hcore'
    exact hnext s' hpend hrolled hcore'

theorem keeps_rollbackUnsynced : Keeps may sha s.old s.new (rollbackUnsynced s.old) s := by
  refine keeps_swapOut h hmrk hcore hrepl fun s' hp hr hc => ?_
  have hdone : Keeps may sha s.old s.new durabilityUnknown s' :=
    keeps_kept (.rolledBack hp hr) hc (by simp)
  exact keeps_sync hdone hdone

theorem keeps_rollbackMismatch : Keeps may sha s.old s.new (rollbackMismatch s.old) s := by
  refine keeps_swapOut h hmrk hcore hrepl fun s' hp hr hc => ?_
  have hdone : Keeps may sha s.old s.new durabilityUnknown s' :=
    keeps_kept (.rolledBack hp hr) hc (by simp)
  exact keeps_sync hdone (keeps_check hdone (keeps_cleanup hp hr hc (by simp) (by simp)))

/-- The committed marker is written. -/
theorem keeps_writeCommitted
    (hnext : ∀ s', s' = (s.put .committed (some [])).put .committed (some bytes) →
      Layout sha s' → s'.core = s.core → Keeps may sha s.old s.new next s') :
    Keeps may sha s.old s.new (writeTransactionFile .committed bytes durabilityUnknown next) s := by
  have hlay := layout_swapped h hmrk hcore hrepl
  have hput : ∀ {s' : Disk}, Layout sha s' ∧ s'.core = s.core → ∀ content,
      Layout sha (s'.put .committed content) ∧ (s'.put .committed content).core = s.core :=
    fun h' _ => ⟨h'.1.put unwatched_committed _, (core_put _ (by simp) _).trans h'.2⟩
  have hunk : ∀ {s' : Disk}, Layout sha s' ∧ s'.core = s.core →
      Keeps may sha s.old s.new durabilityUnknown s' :=
    fun h' => keeps_moved h'.1 (h'.2.trans hcore)
  refine triple_require (fun s' hlv => hlv) (hunk ⟨hlay, rfl⟩) fun s' he => ?_
  simp only [effect] at he
  split at he <;> cases he
  have hemp := hput ⟨hlay, rfl⟩ (some [])
  refine keeps_check (hunk hemp) ?_
  refine triple_write hemp.1 (fun k => hunk (hput hemp _)) ?_
  have hwrit := hput hemp (some bytes)
  exact keeps_sync (hunk hwrit) (hnext _ rfl hwrit.1 hwrit.2)

/-- **The committed marker goes in only over the new content.** -/
theorem keeps_finalizeCommit : Keeps may sha s.old s.new (finalizeCommit sha s.old s.new) s := by
  refine keeps_writeCommitted h hmrk hcore hrepl fun s1 hs1 hlay1 hcore1 => ?_
  refine triple_require (fun s' hlv => hlv) (keeps_moved hlay1 (hcore1.trans hcore)) ?_
  intro s2 he
  have hcfg : s.files .config = some s.new := congrArg fst hcore
  simp only [effect, hs1, Disk.put_same, Option.some.injEq] at he
  have hcomm : Committed sha s2 := by
    subst he
    refine ⟨by simp, by simpa using hcfg, h.new_readable, ?_⟩
    simpa [hrepl] using h.old_readable
  have hcore2 : s2.core = (some s.new, s.old, s.new, true) := by
    subst he
    simp [Disk.core, hcfg]
  have hunk : ∀ {s' : Disk}, Layout sha s' → s'.core = s2.core →
      Keeps may sha s.old s.new durabilityUnknown s' :=
    fun hl hc => keeps_moved hl (hc.trans hcore2)
  refine keeps_sync (hunk (.committed hcomm) rfl) ?_
  refine triple_cleanup_committed (fun _ => hunk) (fun s' hl hc _ => ?_) hcomm
  -- reading the new file back can still fail
  refine triple_call hl (fun s' hcut => hcut ▸ hl) fun ok s' he => ?_
  cases ok with
  | true =>
    cases he
    exact keeps_check (hunk hl hc) (triple_done hl ⟨hl, hc.trans hcore2⟩)
  | false =>
    cases he.2
    exact triple_done hl ⟨hl, .inr ⟨he.1, hc.trans hcore2⟩⟩

end Swapped

/-- A commit before its exchange. -/
structure Unchanged (s : Disk) : Prop where
  config : s.files .config = s.old
  unfinalized : s.finalized = false
  old_readable : readable s.old = true
  new_readable : readable (some s.new) = true

/-- A commit that has not staged its replacement yet. -/
structure Ready (s : Disk) : Prop extends Unchanged s where
  cleared : Cleared s

/-- The replacement is staged, without a marker. -/
structure Staged (s : Disk) : Prop extends Unchanged s where
  marker : s.files .transaction = none
  replacement : s.files .replacement = some s.new

theorem Unchanged.core (h : Unchanged s) : s.core = (s.old, s.old, s.new, false) := by
  rw [Disk.core, h.config, h.unfinalized]

theorem Unchanged.idle (h : Unchanged s) (hmrk : s.files .transaction = none) : Idle s :=
  ⟨hmrk, .inl h.config, fun hf => by cases h.unfinalized.symm.trans hf⟩

theorem Staged.idle (h : Staged s) : Idle s := h.toUnchanged.idle h.marker

theorem Ready.layout (h : Ready s) : Layout sha s := .idle (h.idle h.cleared.1)

theorem Ready.put_temporary (h : Ready s) (sequence : Nat) (content : Option Bytes) :
    Ready (s.put (.temporary sequence) content) :=
  ⟨⟨by simpa using h.config, h.unfinalized, h.old_readable, h.new_readable⟩,
    by simpa [Cleared] using h.cleared⟩

/-- The pending marker, as much of it as is written. -/
theorem Staged.pending (h : Staged s) (k : Nat) (hs' : s' = s.put .transaction
      (some ((transactionBytes sha false s.old s.new).take k))) :
    Pending sha s' ∧ RolledBack sha s' ∧ s'.core = (s.old, s.old, s.new, false) := by
  subst hs'
  refine ⟨⟨⟨k, by simp⟩, h.unfinalized, h.old_readable, h.new_readable, ?_, ?_⟩, ⟨?_, ?_⟩,
    (core_put s (by simp) _).trans h.core⟩
  · exact .inl (by simpa using h.config)
  · exact .inr (.inr (by simpa using h.replacement))
  · simp [h.config]
  · exact .inr (by simp [h.replacement])

theorem keeps_cleanup_staged (h : Staged s) {failed done : MutationResult}
    (hfail : failed.status ≠ .applied) (hdone : done.status ≠ .applied) :
    Keeps may sha s.old s.new (cleanupTransaction (.done failed) (.done done)) s := by
  have h1 := h.idle.put (show Name.replacement ≠ .config by simp) (by simp) none
  have hcln : Idle (cleaned s) := by
    refine ⟨by simp [cleaned], .inl (by simpa [cleaned] using h.config), fun hf => ?_⟩
    cases h.unfinalized.symm.trans hf
  exact triple_cleanup (.idle h.idle) (.idle h1) hcln
    (fun _ hl hc => keeps_kept hl (hc.trans h.core) hfail)
    fun _ hl hc _ => keeps_kept hl (hc.trans h.core) hdone

/-- The marker is whole: swap, check, finalize. -/
theorem keeps_swapIn (h : Pending sha s) (hside : RolledBack sha s)
    (hcore : s.core = (s.old, s.old, s.new, false))
    (hmrk : s.files .transaction = some (transactionBytes sha false s.old s.new))
    (hrepl : s.files .replacement = some s.new) {failed : MutationResult}
    (hfail : failed.status ≠ .applied) :
    Keeps may sha s.old s.new
      (require (.swapIn s.old) (cleanupTransaction (.done failed) (.done failed))
        (require .sync (rollbackUnsynced s.old)
          (require .check (rollbackMismatch s.old) (finalizeCommit sha s.old s.new)))) s := by
  refine triple_require ?_ (keeps_cleanup h hside hcore hfail hfail) ?_
  · intro s' hlv
    cases hold : s.old <;> rw [hold] at hlv <;> exact hlv
  · intro s' he
    obtain ⟨hp, hc, ht, hr⟩ := swapIn_pending h (congrArg fst hcore) he
    rw [hrepl, h.unfinalized] at hc
    have ho : s'.old = s.old := congrArg (·.2.1) hc
    have hn : s'.new = s.new := congrArg (·.2.2.1) hc
    rw [hmrk] at ht
    rw [← ho, ← hn] at ht hc ⊢
    rw [← ho] at hr
    exact keeps_sync (keeps_rollbackUnsynced hp ht hc hr)
      (keeps_check (keeps_rollbackMismatch hp ht hc hr) (keeps_finalizeCommit hp ht hc hr))

/-- **From the staged replacement to the end.** -/
theorem keeps_commitStaged (h : Staged s) :
    Keeps may sha s.old s.new (commitStaged sha s.old s.new) s := by
  set marker := transactionBytes sha false s.old s.new with hmrk
  -- the marker is created empty
  refine triple_require (fun s' hlv => hlv)
    (keeps_cleanup_staged h (by simp) (by simp)) ?_
  intro s1 he
  simp only [effect, h.marker, Option.some.injEq] at he
  obtain ⟨hp1, hr1, hc1⟩ := h.pending 0 he.symm
  refine keeps_check (keeps_cleanup hp1 hr1 hc1 (by simp) (by simp)) ?_
  -- any prefix of it may be all that is written
  have hcut : ∀ (k : Nat) (s' : Disk), s' = s1.put .transaction (some (marker.take k)) →
      Pending sha s' ∧ RolledBack sha s' ∧ s'.core = (s.old, s.old, s.new, false) := by
    intro k s' hs'
    refine h.pending k (hs'.trans ?_)
    rw [← he]
    simp only [Disk.put, Disk.mk.injEq, and_true]
    funext n
    by_cases hn : n = .transaction <;> simp [hn, hmrk]
  refine triple_write (.rolledBack hp1 hr1) ?_ ?_
  · intro k
    obtain ⟨hp, hr, hc⟩ := hcut k _ rfl
    exact keeps_cleanup hp hr hc (by simp) (by simp)
  · obtain ⟨hp, hr, hc⟩ := hcut marker.length (s1.put .transaction (some marker))
      (by rw [List.take_length])
    have hrepl : (s1.put .transaction (some marker)).files .replacement = some s.new := by
      rw [← he]
      simp [h.replacement]
    have hunprepared : ∀ {failed done : MutationResult}, failed.status ≠ .applied →
        done.status ≠ .applied → Keeps may sha s.old s.new
          (cleanupTransaction (.done failed) (.done done)) (s1.put .transaction (some marker)) :=
      fun hf hd => keeps_cleanup hp hr hc hf hd
    refine keeps_sync (hunprepared (by simp) (by simp))
      (keeps_sync (hunprepared (by simp) (by simp)) ?_)
    refine keeps_check (hunprepared (by simp) (by simp))
      (keeps_check (hunprepared (by simp) (by simp)) ?_)
    have ho : (s1.put .transaction (some marker)).old = s.old := congrArg (·.2.1) hc
    have hn : (s1.put .transaction (some marker)).new = s.new := congrArg (·.2.2.1) hc
    have hswap : Keeps may sha _ _ _ _ := keeps_swapIn hp hr (by rw [ho, hn]; exact hc)
      (by rw [ho, hn]; exact Disk.put_same _ _ _) (by rw [hn]; exact hrepl)
      (show ({ status := .ioError, reason := some .ioError } : MutationResult).status ≠ .applied
        by simp)
    rw [ho, hn] at hswap
    exact hswap

/-- The temporary file is discarded. -/
theorem keeps_discard (h : Ready s) (sequence : Nat) {result : MutationResult}
    (hres : result.status ≠ .applied) :
    Keeps may sha s.old s.new (.call (.remove (.temporary sequence)) fun _ => .done result) s := by
  have hrem := h.put_temporary sequence none
  refine triple_call h.layout ?_ ?_
  · intro s' hcut
    have hs' : s' = s := hcut
    exact hs' ▸ h.layout
  · intro ok s' he
    cases ok with
    | true => exact Option.some.inj he ▸ keeps_kept hrem.layout hrem.core hres
    | false =>
      have hs' : s' = s := he.2
      exact hs' ▸ keeps_kept h.layout h.core hres

theorem keeps_commitTemporary (h : Ready s) (sequence : Nat) :
    Keeps may sha s.old s.new (commitTemporary sha s.old s.new sequence) s := by
  refine keeps_check (keeps_discard h _ (by simp)) ?_
  refine triple_write h.layout
    (fun k => keeps_discard (h.put_temporary _ _) _ (by simp)) ?_
  have hwrit := h.put_temporary sequence (some s.new)
  have hdis : ∀ {r : MutationResult}, r.status ≠ .applied → Keeps may sha s.old s.new
      (.call (.remove (.temporary sequence)) fun _ => .done r)
      (s.put (.temporary sequence) (some s.new)) := keeps_discard hwrit sequence
  refine keeps_sync (hdis (by simp)) (keeps_check (hdis (by simp)) ?_)
  refine keeps_check (hdis (by simp)) (keeps_check (hdis (by simp)) ?_)
  refine keeps_check (hdis (by simp)) (keeps_check (hdis (by simp)) ?_)
  refine triple_require (fun s' hlv => hlv) (hdis (by simp)) ?_
  intro s' he
  simp only [effect, Disk.put_same, Option.some.injEq] at he
  have hstd : Staged s' := by
    rw [← he]
    refine ⟨⟨?_, h.unfinalized, h.old_readable, h.new_readable⟩, ?_, by simp⟩
    · simpa using h.config
    · simpa using h.cleared.1
  have ho : s'.old = s.old := by rw [← he]; rfl
  have hn : s'.new = s.new := by rw [← he]; rfl
  rw [← ho, ← hn]
  exact keeps_commitStaged hstd

/-- The loop over temporary names. -/
theorem keeps_openTemporary (h : Ready s) : ∀ attempts sequence : Nat,
      Keeps may sha s.old s.new (openTemporary (ioError .ioError) (commitTemporary sha s.old s.new)
        attempts sequence) s
  | 0, _ => keeps_kept h.layout h.core (by simp)
  | attempts + 1, sequence => by
      refine triple_look ?_
      cases hname : s.files (.temporary sequence) with
      | some _ => exact keeps_openTemporary h attempts (sequence + 1)
      | none =>
        refine triple_require (fun s' hlv => hlv) (keeps_kept h.layout h.core (by simp)) ?_
        intro s' he
        simp only [effect, hname, Option.some.injEq] at he
        rw [← he]
        exact keeps_commitTemporary (h.put_temporary sequence (some [])) sequence

theorem readable_of_read
    (h : readFromDirectory sha toml s = .ok parsed) : readable (s.files .config) := by
  unfold readFromDirectory at h
  split at h
  · next hnone =>
      rw [hnone]
      rfl
  · next bytes hsome =>
      split at h
      · cases h
      next hsize =>
        rw [hsome]
        simpa [readable] using hsize

end Commit

/-! ## §7. What a mutation reports. -/

section Reports

variable (toml : Toml)

/-- The document a mutation makes of config.toml. -/
def newDocument (s : Disk) (mutation : Mutation) : Option Bytes :=
  match readFromDirectory sha toml s with
  | .error _ => none
  | .ok current =>
    match applyMutation current.document mutation with
    | .error _ => none
    | .ok document => some (serializeDocument toml document)

variable (alreadyCommitted : ConfigSnapshot → Bool) (expected : Identity)

/-- The mutation was committed before, as `already_committed_admission` says. -/
def AlreadyCommitted (s : Disk) : Prop :=
  ∃ current, readFromDirectory sha toml s = .ok current ∧ current.snapshot.identity ≠ expected
    ∧ alreadyCommitted current.snapshot = true

/-- **The result tells what happened** to config.toml between `before`, the
recovered directory, and `after`. -/
def Reports (mutation : Mutation) (before : Disk) (r : MutationResult) (after : Disk) : Prop :=
  match r.status with
  | .applied =>
    (newDocument sha toml before mutation ≠ none
      ∧ after.files .config = newDocument sha toml before mutation)
    ∨ (AlreadyCommitted sha toml alreadyCommitted expected before
      ∧ after.files .config = before.files .config)
  | .durabilityUnknown =>
    after.files .config = before.files .config
      ∨ after.files .config = newDocument sha toml before mutation
  | _ => after.files .config = before.files .config

/-- A commit that went through could not be read back, and `mutate` says it failed. -/
def Unread (may : Op → Prop) (mutation : Mutation) (before : Disk) (r : MutationResult)
    (after : Disk) : Prop :=
  may .readBack ∧ r.status = .ioError ∧ after.files .config = newDocument sha toml before mutation

variable (may : Op → Prop)

/-- How `Store::mutate` ends in a recovered directory. -/
inductive Outcome (mutation : Mutation) (before : Disk) (r : MutationResult) : Disk → Prop
  | kept (hr : r.status ≠ .applied) : Outcome mutation before r before
  | admitted (h : AlreadyCommitted sha toml alreadyCommitted expected before)
      (hr : r.status = .applied) : Outcome mutation before r before
  | committed {after : Disk} {current parsed : ParsedConfig} {document : Table}
      (hread : readFromDirectory sha toml before = .ok current)
      (hid : current.snapshot.identity = expected)
      (happly : applyMutation current.document mutation = .ok document)
      (hsize : (serializeDocument toml document).length ≤ kMaxConfigBytes)
      (hparse : parseDocument toml (serializeDocument toml document) .pending = .ok parsed)
      (htold : Told may (before.files .config) (serializeDocument toml document) r after) :
      Outcome mutation before r after

variable {sha toml alreadyCommitted expected may} {s s' : Disk} {mutation : Mutation}
  {sequence : Nat} {r : MutationResult}

theorem reports_of_told (h : Told may (s.files .config) new r s')
    (hnew : newDocument sha toml s mutation = some new) :
    Reports sha toml alreadyCommitted expected mutation s r s'
      ∨ Unread sha toml may mutation s r s' := by
  unfold Told at h
  unfold Reports Unread
  rw [hnew]
  cases hstat : r.status <;> simp only [hstat, Disk.core, mk.injEq] at h
  case applied => exact .inl (.inl ⟨nofun, h.1⟩)
  case ioError => exact h.imp And.left fun h => ⟨h.1, rfl, h.2.1⟩
  all_goals exact .inl h

/-- An end without a change. -/
theorem reports_kept (hr : r.status ≠ .applied) :
    Reports sha toml alreadyCommitted expected mutation s r s := by
  unfold Reports
  split
  · contradiction
  · exact .inl rfl
  · rfl

/-- The result is wrong only about a commit that could not be read back. -/
theorem reports_of_outcome (h : Outcome sha toml alreadyCommitted expected may mutation s r s') :
    Reports sha toml alreadyCommitted expected mutation s r s'
      ∨ Unread sha toml may mutation s r s' := by
  cases h with
  | kept hr => exact .inl (reports_kept hr)
  | admitted h hr => simp [Reports, hr, h]
  | committed hread _ happly _ _ htold =>
    exact reports_of_told htold (by simp only [newDocument, hread, happly])

/-- **`Store::mutate` on a recovered directory**: from a layout it leaves only
layouts. -/
theorem triple_mutateRecovered (hclr : Cleared s) :
    Prog.Triple (faulty may)
      (mutateRecovered sha toml alreadyCommitted expected mutation sequence) s (fun s' => Layout sha s → Layout sha s') fun r s' => (Layout sha s → Layout sha s')
        ∧ Outcome sha toml alreadyCommitted expected may mutation s r s' := by
  have hkept : ∀ {r : MutationResult}, r.status ≠ .applied →
      Prog.Triple (faulty may) (.done r) s (fun s' => Layout sha s → Layout sha s') fun r s' =>
        (Layout sha s → Layout sha s')
        ∧ Outcome sha toml alreadyCommitted expected may mutation s r s' :=
    fun hr => triple_done id ⟨id, .kept hr⟩
  refine triple_neutral (.inr rfl) (hkept (by simp)) (triple_look ?_)
  split
  · exact hkept (by simp)
  rename_i current hread
  refine triple_ite (fun hid => ?_) (fun hid => ?_)
  · refine triple_ite (fun hadmitted => ?_) (fun _ => hkept (by simp))
    refine triple_neutral (.inr rfl) (hkept (by simp)) (triple_done id ⟨id, ?_⟩)
    exact .admitted ⟨current, hread, hid, hadmitted⟩ rfl
  · split
    · exact hkept (by simp)
    rename_i document happly
    refine triple_ite (fun _ => hkept (by simp)) (fun hsize => ?_)
    split
    · exact hkept (by simp)
    rename_i parsed hparse
    have hrd : readable (some (serializeDocument toml document)) := by
      simpa [readable] using hsize
    have hready : Ready (s.begin (s.files .config) (serializeDocument toml document)) :=
      ⟨⟨rfl, rfl, readable_of_read hread, hrd⟩, hclr⟩
    refine triple_begin id ((keeps_openTemporary hready 128 sequence).mono (fun _ h _ => h) ?_)
    exact fun r s' h => ⟨fun _ => h.1, .committed hread (not_not.mp hid) happly
      (not_lt.mp hsize) hparse h.2⟩

/-- Before the recovery nothing is changed. -/
theorem triple_enter {Q : Option MutationResult → Disk → Prop}
    (href : ∀ r : MutationResult, r.status ≠ .applied →
      Prog.Triple (faulty may) (.done (some r)) s I Q)
    (hrecover : Prog.Triple (faulty may) (recoverTransaction sha) s I fun recovered s' =>
      I s' ∧ Q (if recovered then none
        else some { status := .durabilityUnknown, reason := some .syncError }) s') :
    Prog.Triple (faulty may) (enterStore sha mutation) s I Q := by
  have hcheck : ∀ {r : MutationResult} {next : Program (Option MutationResult)},
      r.status ≠ .applied → Prog.Triple (faulty may) next s I Q →
        Prog.Triple (faulty may) (require .check (.done (some r)) next) s I Q :=
    fun hr => triple_neutral (.inr rfl) (href _ hr)
  refine hcheck (by simp) (hcheck (by simp) ?_)
  refine triple_ite (fun _ => href _ (by simp)) (fun _ => ?_)
  refine hcheck (by simp) (hcheck (by simp) (hcheck (by simp) (hcheck (by simp) ?_)))
  exact triple_bind hrecover fun _ _ h => triple_done h.1 h.2

/-- **`Store::mutate` leaves only layouts**, wherever it is cut and whatever
fails. -/
theorem triple_mutate (h : Layout sha s) :
    Prog.Triple calls (mutate sha toml alreadyCommitted expected mutation sequence) s (Layout sha)
      fun _ => Layout sha := by
  have henter : Prog.Triple calls (enterStore sha mutation) s (Layout sha) fun entered s' =>
      Layout sha s' ∧ (entered = none → Cleared s') := by
    refine triple_enter (fun r _ => triple_done h ⟨h, by simp⟩) ?_
    refine (triple_recover h).mono (fun _ h => h) fun recovered s' hpost => ?_
    exact ⟨hpost.1, hpost.1, fun hnone => hpost.2 (by cases recovered <;> trivial)⟩
  refine triple_bind henter ?_
  intro entered s' hpost
  cases entered with
  | some result => exact triple_done hpost.1 hpost.1
  | none =>
    exact (triple_mutateRecovered (hpost.2 rfl)).mono (fun _ h => h hpost.1)
      fun _ _ h => h.1 hpost.1

end Reports

end TgCli.Config
