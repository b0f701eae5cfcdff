/-
  TgCli.Config.Recovery — WHEN A CRASHED TRANSACTION RECOVERS

  Every directory a chain of crashes can leave has one of the layouts of
  `TgCli.Config.Layout`.  On these, `recover_transaction` returns true exactly
  when `recoverable` holds: there is no marker, or the marker parses and a
  pending transaction over an existing config.toml still has its replacement.

  Two layouts fail: a marker that was cut short, and a pending marker whose
  replacement `cleanup_transaction` has already unlinked.
-/
import TgCli.Config.Layout

namespace TgCli.Config

open Tdlib Lib Toml Disk Digest Prog

variable (sha : Bytes → Digest) (toml : Toml)

/-! ## §1. Crashes. -/

/-- **The directories a crash can leave.**  The first run finds no transaction
file; every later one finds what the crash before it left. -/
inductive Crashed : Disk → Prop
  | start {s : Disk} (hclr : Cleared s) (hold : s.files .config = s.old)
      (hfin : s.finalized = false) : Crashed s
  | mutate {s s' : Disk} (alreadyCommitted : ConfigSnapshot → Bool) (expected : Identity)
      (mutation : Mutation) (sequence : Nat) (h : Crashed s)
      (hcut : Prog.Cut calls
        (mutate sha toml alreadyCommitted expected mutation sequence) s s') : Crashed s'
  | recover {s s' : Disk} (h : Crashed s)
      (hcut : Prog.Cut calls (recoverTransaction sha) s s') : Crashed s'

variable {sha toml}

theorem crashed_layout (h : Crashed sha toml s) : Layout sha s := by
  induction h with
  | start hclr hold hfin =>
    refine .idle ⟨hclr.1, Or.inl hold, fun hf => ?_⟩
    rw [hfin] at hf
    cases hf
  | mutate alreadyCommitted expected mutation sequence _ hcut ih =>
    exact (triple_mutate ih).cut _ hcut
  | recover _ hcut ih => exact (triple_recover ih).cut _ hcut

/-! ## §2. The next recovery. -/

theorem run_require {α : Type} {op : Op} {failed next : Program α} {s s' : Disk}
    (h : op.effect s = some s') :
    (require op failed next).run answer s = next.run answer s' := by
  show ((if (answer op s).1 then next else failed)).run answer (answer op s).2 = _
  rw [answer, h]
  rfl

/-- Neither the start of a commit nor its finalization. -/
def Op.Quiet (op : Op) : Prop := op ≠ .finalize ∧ ∀ old new, op ≠ .begin old new

/-- Only the start of a commit and its finalization change the history. -/
theorem exec_history {op : Op} (hop : op.Quiet) (h : calls.exec op s ok s') :
    (s'.old, s'.new, s'.finalized) = (s.old, s.new, s.finalized) := by
  cases ok with
  | false =>
    have hlv : op.Leaves s s' := h.2
    cases op <;> first
      | exact absurd rfl hop.1
      | exact absurd rfl (hop.2 _ _)
      | (cases hlv; rfl)
      | (obtain ⟨k, rfl⟩ := hlv; rfl)
  | true =>
    have heff : op.effect s = some s' := h
    cases op <;> simp only [Op.effect] at heff <;> first
      | exact absurd rfl hop.1
      | exact absurd rfl (hop.2 _ _)
      | (cases heff; rfl)
      | (split at heff <;> cases heff; rfl)

theorem quiet_require {α : Type} {op : Op} {failed next : Program α} (hop : op.Quiet)
    (hfail : Prog.AllCalls Op.Quiet failed) (hnext : Prog.AllCalls Op.Quiet next) :
    Prog.AllCalls Op.Quiet (require op failed next) := by
  refine .call hop fun ok => ?_
  cases ok with
  | true => exact hnext
  | false => exact hfail

theorem quiet_cleanup {α : Type} {failed next : Program α}
    (hfail : Prog.AllCalls Op.Quiet failed) (hnext : Prog.AllCalls Op.Quiet next) :
    Prog.AllCalls Op.Quiet (cleanupTransaction failed next) := by
  have hremove : ∀ name, (Op.remove name).Quiet := fun name => ⟨by simp, by simp⟩
  refine quiet_require (hremove _) hfail (quiet_require (hremove _) hfail ?_)
  exact quiet_require (hremove _) hfail (quiet_require ⟨by simp, by simp⟩ hfail hnext)

theorem quiet_recoverRecord (record : TransactionRecord) (config replacement : Option Bytes) :
    Prog.AllCalls Op.Quiet (recoverRecord sha record config replacement) := by
  have hdone : Prog.AllCalls Op.Quiet (.done false : Program Bool) := .done _
  have hfinish := quiet_cleanup hdone (.done true)
  have hrestored := quiet_require (show Op.sync.Quiet from ⟨by simp, by simp⟩) hdone hfinish
  have hout : ∀ {op : Op}, op.Quiet → Prog.AllCalls Op.Quiet
      (require op (.done false)
        (require .sync (.done false) (cleanupTransaction (.done false) (.done true)))) :=
    fun hop => quiet_require hop hdone hrestored
  unfold recoverRecord
  repeat' split
  all_goals first
    | exact hdone
    | exact hfinish
    | exact hrestored
    | exact hout ⟨by simp, by simp⟩

/-- **`recover_transaction` keeps the history.** -/
theorem quiet_recover : Prog.AllCalls Op.Quiet (recoverTransaction sha) := by
  have hdone : Prog.AllCalls Op.Quiet (.done false : Program Bool) := .done _
  refine .look fun s => ?_
  split
  · repeat' first
      | exact .done _
      | refine quiet_require ⟨by simp, by simp⟩ ?_ ?_
  · unfold recoverMarker
    split
    · exact hdone
    split
    · exact hdone
    · exact quiet_recoverRecord _ _ _

/-! ## §3. When it returns true. -/

/-- **The layouts recovery can work with.** -/
def recoverable (s : Disk) : Bool :=
  match s.files .transaction with
  | none => true
  | some marker =>
    match parseTransaction marker with
    | none => false
    | some record =>
      !(record.state == .pendingPresent && (s.files .replacement).isNone)

theorem transactionBytes_length (sha : Bytes → Digest) (committed : Bool) (old : Option Bytes)
    (new : Bytes) :
    (transactionBytes sha committed old new).length ≤ 256 := by
  have hnew : (transactionRecord sha committed old new).newHash.length = 64 := (sha new).length_eq
  have hold : (transactionRecord sha committed old new).oldHash.length ≤ 64 := by
    rcases (transactionRecord_ok sha committed old new).old_length with h | h <;> rw [h]
    exact Nat.zero_le _
  have hst : ∀ state : TransactionState, state.text.length ≤ 17 := by
    intro state
    cases state <;> decide
  have hst' := hst (transactionRecord sha committed old new).state
  simp only [transactionBytes, lines, List.length_append, List.length_singleton]
  omega

/-- The end of a recovery that has the old content in place. -/
theorem run_restored (s : Disk) : ((require .sync (.done false)
      (cleanupTransaction (.done false) (.done true)) : Program Bool).run answer s).1 := rfl

theorem Pending.readable {s : Disk} (h : Pending sha s) :
    Config.readable (s.files .config) ∧ Config.readable (s.files .replacement) := by
  constructor
  · rcases h.config_mem with hc | hc <;> rw [hc]
    · exact h.old_readable
    · exact h.new_readable
  · rcases h.replacement_mem with hr | hr | hr <;> rw [hr]
    · rfl
    · exact h.old_readable
    · exact h.new_readable

/-- A file with the digest of another one is there. -/
theorem exists_of_digestOf {content : Option Bytes} {bytes : Bytes}
    (h : digestOf sha content = digestOf sha (some bytes)) : ∃ found, content = some found := by
  cases content with
  | none => exact absurd h.symm (digestOf_ne_nil sha bytes)
  | some found => exact ⟨found, rfl⟩

/-- A pending transaction over an existing config.toml. -/
theorem run_pendingPresent {s : Disk} {old : Bytes} (hold : s.old = some old) (h : Pending sha s)
    (hside : RolledBack sha s ∨ Swapped sha s) :
    ((recoverRecord sha (transactionRecord sha false s.old s.new) (s.files .config)
      (s.files .replacement)).run answer s).1 = (s.files .replacement).isSome := by
  have hcfg : ∃ config, s.files .config = some config := by
    rcases hside with hside | hside
    · exact exists_of_digestOf (hold ▸ hside.1)
    · exact exists_of_digestOf hside.1
  obtain ⟨config, hcfg⟩ := hcfg
  unfold recoverRecord
  simp only [h.readable, Bool.not_true, Bool.or_false, Bool.false_eq_true, if_false]
  rw [hold]
  cases hrepl : s.files .replacement with
  | none => simp [transactionRecord, run]
  | some replacement =>
    simp only [transactionRecord, hcfg, Option.isNone_some, Bool.or_false,
      Bool.false_eq_true, if_false, Option.isSome_some]
    split
    · -- swapped in: the exchange finds both files
      have heff : Op.exchange.effect s
          = some ((s.put .config (some replacement)).put .replacement (some config)).touch := by
        simp [Op.effect, hcfg, hrepl]
      rw [run_require heff]
      exact run_restored _
    · next hnot =>
        rw [if_neg]
        · exact run_restored _
        · -- otherwise it was rolled back, and both digests are right
          have hrolled : RolledBack sha s := by
            refine hside.resolve_right fun hsw => hnot ?_
            rw [Bool.and_eq_true, hashes_some, hashes_some, ← hcfg, ← hrepl, ← hold]
            exact hsw
          have hnew := hrolled.2.resolve_left (by rw [hrepl]; simp)
          have hboth : hashes sha (some config) (sha old).bytes
              ∧ hashes sha (some replacement) (sha s.new).bytes := by
            rw [hashes_some, hashes_some, ← hcfg, ← hrepl, ← hold]
            exact ⟨hrolled.1, hnew⟩
          simp [hboth]

/-- A pending first run. -/
theorem run_pendingMissing {s : Disk} (hold : s.old = none) (h : Pending sha s)
    (hside : RolledBack sha s ∨ Swapped sha s) :
    ((recoverRecord sha (transactionRecord sha false s.old s.new) (s.files .config)
      (s.files .replacement)).run answer s).1 := by
  have hrecord : transactionRecord sha false none s.new
      = { state := .pendingMissing, oldHash := [], newHash := (sha s.new).bytes } := rfl
  rw [hold, hrecord]
  simp only [recoverRecord, h.readable, Bool.not_true, Bool.or_false, Bool.false_eq_true, if_false]
  by_cases hboth : (hashes sha (s.files .config) (sha s.new).bytes
      && (s.files .replacement).isNone) = true
  · rw [if_pos hboth]
    rw [Bool.and_eq_true, hashes_some] at hboth
    obtain ⟨config, hcfg⟩ := exists_of_digestOf hboth.1
    have heff : Op.unlinkConfig.effect s = some (s.put .config none).touch := by
      simp [Op.effect, hcfg]
    rw [run_require heff]
    exact run_restored _
  · rw [if_neg hboth, if_neg]
    · exact run_restored _
    · have hrolled : RolledBack sha s := by
        refine hside.resolve_right fun hsw => hboth ?_
        have hnone : s.files .replacement = none :=
          digestOf_eq_nil sha (by rw [hsw.2, hold]; rfl)
        rw [Bool.and_eq_true, hashes_some, hnone]
        exact ⟨hsw.1, rfl⟩
      have hcfg : s.files .config = none :=
        digestOf_eq_nil sha (by rw [hrolled.1, hold]; rfl)
      rcases hrolled.2 with hr | hr
      · simp [hcfg, hr]
      · simp [hcfg, (hashes_some sha).mpr hr]

theorem run_committed (h : Committed sha s) :
    ((recoverRecord sha (transactionRecord sha true s.old s.new) (s.files .config)
      (s.files .replacement)).run answer s).1 := by
  have hhash : hashes sha (s.files .config) (sha s.new).bytes := by
    rw [hashes_some, h.config]
  have hrd : readable (s.files .config) := by
    rw [h.config]
    exact h.new_readable
  unfold recoverRecord
  simp only [hrd, h.replacement_readable, Bool.not_true, Bool.or_false, Bool.false_eq_true,
    if_false]
  cases s.old <;> simp only [transactionRecord, hhash, if_true] <;> rfl

/-- **`recover_transaction` returns true exactly on the recoverable layouts.** -/
theorem run_recover (h : Layout sha s) :
    ((recoverTransaction sha).run answer s).1 = recoverable s := by
  have hpend : Pending sha s → (RolledBack sha s ∨ Swapped sha s) →
      ((recoverTransaction sha).run answer s).1 = recoverable s := by
    intro hp hside
    obtain ⟨k, hk⟩ := hp.marker
    have hlen : ¬ 256 < ((transactionBytes sha false s.old s.new).take k).length := by
      have hle := transactionBytes_length sha false s.old s.new
      rw [List.length_take]
      omega
    simp only [recoverTransaction, run, recoverable, recoverMarker, hk, if_neg hlen,
      parseTransaction_take]
    by_cases hwhole : (transactionBytes sha false s.old s.new).length ≤ k + 1
    · simp only [if_pos hwhole]
      cases hold : s.old with
      | none =>
        rw [← hold, run_pendingMissing hold hp hside, hold]
        rfl
      | some old =>
        rw [← hold, run_pendingPresent hold hp hside, hold]
        simp [transactionRecord]
    · simp only [if_neg hwhole]
      rfl
  cases h with
  | idle hidle =>
    simp only [recoverTransaction, run, recoverable, hidle.marker]
    rfl
  | rolledBack hp hside => exact hpend hp (Or.inl hside)
  | swapped hp _ hside => exact hpend hp (Or.inr hside)
  | committed hc =>
    have hlen : ¬ 256 < (transactionBytes sha true s.old s.new).length :=
      not_lt.mpr (transactionBytes_length sha true s.old s.new)
    simp only [recoverTransaction, run, recoverable, recoverMarker, hc.marker,
      if_neg hlen, parseTransaction_bytes]
    rw [run_committed hc]
    cases s.old <;> rfl

/-- Every call answers as its effect allows. -/
theorem exec_answer (op : Op) (s : Disk) : calls.exec op s (answer op s).1 (answer op s).2 := by
  cases heff : op.effect s with
  | some s' =>
    rw [answer, heff]
    exact heff
  | none =>
    rw [answer, heff]
    refine ⟨trivial, ?_⟩
    cases op <;> first | rfl | cases heff

variable (sha) in
/-- **Crash safety of one directory**: the next recovery returns true, leaves
no transaction file, and leaves the old or the new content — the new one if
the committed marker had been renamed into place. -/
def Recovers (s : Disk) : Prop :=
  let ended := (recoverTransaction sha).run answer s
  ended.1 = true ∧ Cleared ended.2
    ∧ (ended.2.files .config = s.old ∨ ended.2.files .config = some s.new)
    ∧ (s.finalized = true → ended.2.files .config = some s.new)

/-- **The config transaction recovers from every crash that does not cut the
marker short and does not take the replacement before the marker.** -/
theorem recovers_iff_recoverable {s : Disk} (h : Crashed sha toml s) :
    Recovers sha s ↔ recoverable s = true := by
  have hlay := crashed_layout h
  have hrun := run_recover hlay
  constructor
  · intro hrec
    rw [← hrun]
    exact hrec.1
  · intro hrecoverable
    rw [hrecoverable] at hrun
    have hends := ends_run exec_answer (recoverTransaction sha) s
    obtain ⟨hlay', hclr⟩ := (triple_recover hlay).ends _ _ hends
    have hclr' := hclr hrun
    have hhist := quiet_recover.ends_keep (fun op hop _ _ _ => exec_history hop) hends
    simp only [Prod.mk.injEq] at hhist
    have hidle : Idle ((recoverTransaction sha).run answer s).2 := by
      cases hlay' with
      | idle hidle => exact hidle
      | rolledBack hp _ =>
        obtain ⟨k, hk⟩ := hp.marker
        rw [hclr'.1] at hk
        cases hk
      | swapped _ hm _ =>
        rw [hclr'.1] at hm
        cases hm
      | committed hc =>
        have hm := hc.marker
        rw [hclr'.1] at hm
        cases hm
    refine ⟨hrun, hclr', ?_, ?_⟩
    · rw [← hhist.1, ← hhist.2.1]
      exact hidle.config_mem
    · rw [← hhist.2.1, ← hhist.2.2]
      exact hidle.finalized

/-! ## §4. A torn marker. -/

/-- A digest of the right shape. -/
def Digest.zeros : Digest := ⟨List.replicate 64 48, by decide, by decide⟩

/-- A directory without a config.toml. -/
def Disk.empty : Disk :=
  { files := fun _ => none, stamp := 0, old := none, new := [], finalized := false }

theorem crashed_empty (sha : Bytes → Digest) (toml : Toml) : Crashed sha toml empty :=
  .start ⟨rfl, rfl, rfl⟩ rfl rfl

/-- The first account of a first run. -/
def firstAccount : Mutation := { kind := .add, account := ascii "main" }

/-- On an empty directory recovery does nothing. -/
theorem run_enter_empty (sha : Bytes → Digest) :
    (enterStore sha firstAccount).run answer empty = (none, empty) := by
  refine Prod.ext rfl ?_
  show ((empty.put .replacement none).put .committed none) = empty
  simp [put, empty]

theorem enter_empty (sha : Bytes → Digest) :
    Prog.Ends calls (enterStore sha firstAccount) empty none empty := by
  have hends := ends_run exec_answer (enterStore sha firstAccount) empty
  rwa [run_enter_empty] at hends

def firstDocument : Table :=
  [(ascii "accounts", .table [(ascii "main", .table freshAccount)]),
   (ascii "default_account", .string (ascii "main"))]

theorem applyMutation_first : applyMutation [] firstAccount = .ok firstDocument := rfl

theorem length_firstDocument :
    (serializeDocument plain firstDocument).length ≤ kMaxConfigBytes := by
  show (endLine (plainPrint firstDocument)).length ≤ kMaxConfigBytes
  rw [endLine_plainPrint]
  decide

theorem parse_plain (hcheck : checkDocument plain document = .ok checked) (identity : Identity) :
    parseDocument plain (serializeDocument plain document) identity
      = .ok ⟨⟨identity, checked.1, checked.2, serializeDocument plain document⟩, document⟩ :=
  (parseDocument_eq_ok plain).mpr ⟨document, checked,
    parseText_serialize plain (.parsed (plainParse_endLine document)), hcheck, rfl⟩

/-- A document that passes the checks and fits is committed. -/
theorem commitDocument_plain (sha : Bytes → Digest) (sequence : Nat) (old : Option Bytes)
    (hcheck : checkDocument plain document = .ok checked)
    (hsize : (serializeDocument plain document).length ≤ kMaxConfigBytes) :
    commitDocument sha plain sequence old document
      = commit sha sequence old (serializeDocument plain document) := by
  unfold commitDocument
  rw [if_neg (not_lt.mpr hsize), parse_plain hcheck]

theorem commitDocument_first (sha : Bytes → Digest) : commitDocument sha plain 0 none firstDocument
      = commit sha 0 none (serializeDocument plain firstDocument) :=
  commitDocument_plain sha 0 none rfl length_firstDocument

/-- The first `account add` reaches its commit. -/
theorem cut_first {sha : Bytes → Digest} (hcut : Prog.Cut calls
      (commit sha 0 none (serializeDocument plain firstDocument)) empty s) :
    Prog.Cut calls (mutate sha plain (fun _ => false) .missing firstAccount 0) empty s := by
  refine Prog.Ends.cut_bind (enter_empty sha)
    (.call (show calls.exec .check _ true _ from rfl) (.look ?_))
  rw [← commitDocument_first] at hcut
  exact hcut

/-- **A crash of the first `account add` can leave an empty marker.** -/
theorem crashed_torn (sha : Bytes → Digest) :
    ∃ s, Crashed sha plain s ∧ s.files .transaction = some [] := by
  -- the calls up to the creation of the marker
  have hcut := cut_first (cut_crashAfter exec_answer
    (commit sha 0 none (serializeDocument plain firstDocument)) 12 empty)
  exact ⟨_, .mutate _ _ _ _ (crashed_empty sha plain) hcut, rfl⟩

/-- A crash right after the marker was written is recovered from. -/
theorem recovers_iff_recoverable_written :
    ∃ s, Crashed (fun _ => zeros) plain s ∧ s.files .transaction ≠ none
      ∧ Recovers (fun _ => zeros) s := by
  have hcut := cut_first (cut_crashAfter exec_answer
    (commit (fun _ => zeros) 0 none (serializeDocument plain firstDocument)) 14
    empty)
  have hcra := Crashed.mutate _ _ _ _ (crashed_empty _ plain) hcut
  have hmrk : ((commit (fun _ => zeros) 0 none
      (serializeDocument plain firstDocument)).crashAfter answer 14 empty).files
        .transaction
      = some (transactionBytes (fun _ => zeros) false none
        (serializeDocument plain firstDocument)) := rfl
  refine ⟨_, hcra, by rw [hmrk]; simp, (recovers_iff_recoverable hcra).mpr ?_⟩
  unfold recoverable
  rw [hmrk]
  dsimp only
  rw [parseTransaction_bytes]
  rfl

/-- **The marker is created before it is written: a crash in between is never
recovered from.** -/
theorem crashed_not_recovers :
    ∃ s, Crashed (fun _ => zeros) plain s ∧ ¬ Recovers (fun _ => zeros) s := by
  obtain ⟨s, hcra, hmrk⟩ := crashed_torn fun _ => zeros
  refine ⟨s, hcra, ?_⟩
  intro hrec
  have hrun := run_recover (crashed_layout hcra)
  have hfalse : recoverable s = false := by
    unfold recoverable
    rw [hmrk]
    rfl
  rw [hrec.1, hfalse] at hrun
  cases hrun

end TgCli.Config
