/-
  TgCli.Config.Accounts — `account add` AND `account use`

  The handlers of daemon/account_commands.cpp over the config store: load the
  current snapshot, check the account, mutate against the loaded identity.
  The account removal journal, deadlines and cancellation are left out.

  Main result: `handle_served_iff` — in a process that finds config.lock free,
  a request is served (it is applied, or refused for a reason of its own)
  exactly when there is no transaction marker and config.toml is valid.
-/
import TgCli.Config.Recovery

namespace TgCli.Config

open Tdlib Lib Lib.SortedMap Op

variable {sha : Bytes → Digest} {toml : Toml}

/-! ## §1. A commit that nothing disturbs. -/

theorem run_neutral {α : Type} {op : Op} (hop : op = .sync ∨ op = .check) (failed next : Program α)
    (s : Disk) : (require op failed next).run answer s = next.run answer s := by
  rcases hop with rfl | rfl <;> rfl

variable {s : Disk} {document : Table} {reason : ConfigReason} {sequence : Nat}
  {parsed : ParsedConfig}

/-- The marker of a transaction is written. -/
theorem run_writeTransactionFile {α : Type} {name : Name} {bytes : Bytes} {failed next : Program α}
    (h : s.files name = none) :
    (writeTransactionFile name bytes failed next).run answer s
      = next.run answer ((s.put name (some [])).put name (some bytes)) := by
  have hcre : (create name).effect s = some (s.put name (some [])) := by
    simp [effect, h]
  rw [writeTransactionFile, run_require hcre]
  rfl

theorem run_finalizeCommit {old : Option Bytes} {new : Bytes} (h : s.files .committed = none) :
    ∃ s', (finalizeCommit sha old new).run answer s = ({ status := .applied }, s')
      ∧ Cleared s' := by
  rw [finalizeCommit, run_writeTransactionFile h]
  have hfinalize : ∃ s1, finalize.effect
      ((s.put .committed (some [])).put .committed (some (transactionBytes sha true old new)))
        = some s1 := by
    simp [effect]
  obtain ⟨s1, hs1⟩ := hfinalize
  rw [run_require hs1]
  exact ⟨cleaned s1, rfl, cleared_cleaned s1⟩

theorem run_commitStaged (h : Staged s) (hcomm : s.files .committed = none) :
    ∃ s', (commitStaged sha s.old s.new).run answer s = ({ status := .applied }, s')
      ∧ Cleared s' := by
  simp only [commitStaged, run_writeTransactionFile h.marker]
  set s1 := (s.put .transaction (some [])).put .transaction
    (some (transactionBytes sha false s.old s.new)) with hs1
  have hcfg : s1.files .config = s.old := by simp [hs1, h.config]
  have hrepl : s1.files .replacement = some s.new := by simp [hs1, h.replacement]
  have hcomm1 : s1.files .committed = none := by simp [hs1, hcomm]
  have hswap : ∃ s2, (swapIn s.old).effect s1 = some s2 ∧ s2.files .committed = none := by
    cases hold : s.old with
    | none =>
      refine ⟨((s1.put .replacement none).put .config (some s.new)).touch, ?_, ?_⟩
      · simp [swapIn, effect, hrepl]
      · simp [hcomm1]
    | some old =>
      rw [hold] at hcfg
      refine ⟨((s1.put .config (some s.new)).put .replacement (some old)).touch, ?_, ?_⟩
      · simp [swapIn, effect, hcfg, hrepl]
      · simp [hcomm1]
  obtain ⟨s2, heff, hcomm2⟩ := hswap
  simp only [true_or, or_true, run_neutral, run_require heff]
  exact run_finalizeCommit hcomm2

/-- **A commit applies when no call fails.** -/
theorem run_commitTemporary (h : Ready s) (sequence : Nat) :
    ∃ s', (commitTemporary sha s.old s.new sequence).run answer s = ({ status := .applied }, s')
      ∧ Cleared s' := by
  set s1 := ((s.put (.temporary sequence) (some s.new)).put (.temporary sequence) none).put
    .replacement (some s.new) with hs1
  have hstg : (stage sequence).effect (s.put (.temporary sequence) (some s.new)) = some s1 := by
    simp [effect, hs1]
  have hstd : Staged s1 := by
    refine ⟨⟨?_, h.unfinalized, h.old_readable, h.new_readable⟩, ?_, by simp [hs1]⟩
    · simpa [hs1] using h.config
    · simpa [hs1] using h.cleared.1
  have hcomm : s1.files .committed = none := by simpa [hs1] using h.cleared.2.2
  have hwrite : (write (.temporary sequence) s.new).effect s
      = some (s.put (.temporary sequence) (some s.new)) := rfl
  simp only [commitTemporary, true_or, or_true, run_neutral, run_require hwrite, run_require hstg]
  exact run_commitStaged hstd hcomm

/-- One of the names the loop tries is free. -/
def temporaryFree (s : Disk) (attempts sequence : Nat) : Prop :=
  ∃ i < attempts, s.files (.temporary (sequence + i)) = none

/-- The loop over temporary names ends at the first free one. -/
theorem run_openTemporary (h : Ready s) :
    ∀ {attempts sequence : Nat}, temporaryFree s attempts sequence →
      ∃ s', (openTemporary (.done failed) (commitTemporary sha s.old s.new) attempts
        sequence).run answer s = ({ status := .applied }, s') ∧ Cleared s'
  | 0, _, hfree => by
      obtain ⟨i, hi, _⟩ := hfree
      omega
  | attempts + 1, sequence, hfree => by
      simp only [openTemporary, Prog.run]
      cases hname : s.files (.temporary sequence) with
      | none =>
        have hcre : (create (.temporary sequence)).effect s
            = some (s.put (.temporary sequence) (some [])) := by
          simp [effect, hname]
        rw [run_require hcre]
        exact run_commitTemporary (h.put_temporary sequence (some [])) sequence
      | some bytes =>
        refine run_openTemporary h ?_
        -- the first name is taken, so the free one is a later one
        obtain ⟨i, hi, hfree⟩ := hfree
        cases i with
        | zero =>
          rw [Nat.add_zero, hname] at hfree
          cases hfree
        | succ i =>
          refine ⟨i, by omega, ?_⟩
          rw [show sequence + 1 + i = sequence + (i + 1) by omega]
          exact hfree

/-- Without a free name nothing is written. -/
theorem run_openTemporary_full {next : Nat → Program MutationResult} :
    ∀ {attempts sequence : Nat}, ¬ temporaryFree s attempts sequence →
      (openTemporary (.done failed) next attempts sequence).run answer s = (failed, s)
  | 0, _, _ => rfl
  | attempts + 1, sequence, hfull => by
      simp only [openTemporary, Prog.run]
      cases hname : s.files (.temporary sequence) with
      | none => exact absurd ⟨0, by omega, hname⟩ hfull
      | some bytes =>
        refine run_openTemporary_full fun hfree => hfull ?_
        obtain ⟨i, hi, hfree⟩ := hfree
        refine ⟨i + 1, by omega, ?_⟩
        rw [show sequence + (i + 1) = sequence + 1 + i by omega]
        exact hfree

/-! ## §2. The handlers. -/

inductive Request where
  | add (account : Bytes)
  | use (account : Bytes)
deriving DecidableEq, Repr

def Request.account : Request → Bytes
  | .add account => account
  | .use account => account

inductive Response where
  /-- the result of `account add` -/
  | added (account : Bytes) (becomesDefault : Bool)
  /-- the result of `account use` -/
  | used (account : Bytes) (previous : Option Bytes)
  /-- `USAGE` on argument `name` -/
  | usage
  /-- `ACCOUNT_EXISTS` -/
  | accountExists (account : Bytes)
  /-- `ACCOUNT_NOT_FOUND` -/
  | accountNotFound (account : Bytes)
  /-- `CONFIG_INVALID` -/
  | configInvalid (reason : ConfigReason)
  /-- `CONFIG_CONFLICT` -/
  | configConflict (expected current : Identity)
  /-- `TIMEOUT` -/
  | timeout
  /-- `INTERNAL` -/
  | internal
  /-- no frame: the session was cancelled -/
  | silent
deriving DecidableEq, Repr

def mutationFailure (result : MutationResult) (expected : Identity) : Response :=
  match result.status with
  | .conflict => .configConflict expected (result.current.getD .missing)
  | .invalid | .ioError => .configInvalid (result.reason.getD .ioError)
  | .durabilityUnknown => .configInvalid (result.reason.getD .syncError)
  | .timedOut => .timeout
  | .cancelled => .silent
  | .preconditionFailed | .applied => .internal

variable (sha toml) in
/-- The mutation of a handler, with no `MutationControl` hook set. -/
def mutateFor (snapshot : ConfigSnapshot) (mutation : Mutation) (sequence : Nat)
    (applied : Response) : Program Response :=
  (mutate sha toml (fun _ => false) snapshot.identity mutation sequence).bind fun result =>
    .done (if result.status = .applied then applied
      else mutationFailure result snapshot.identity)

variable (sha toml) in
def accountAdd (account : Bytes) (sequence : Nat) (lock : LockState) : Program Response :=
  if !validAccountName account then .done .usage
  else
    .look fun s =>
      match load sha toml lock s with
      | .waiting => .done .timeout
      | .error reason => .done (.configInvalid reason)
      | .loaded current =>
        if contains account current.accounts then .done (.accountExists account)
        else
          mutateFor sha toml current { kind := .add, account := account } sequence
            (.added account current.accounts.isEmpty)

variable (sha toml) in
def accountUse (account : Bytes) (sequence : Nat) (lock : LockState) : Program Response :=
  if !validAccountName account then .done .usage
  else
    .look fun s =>
      match load sha toml lock s with
      | .waiting => .done .timeout
      | .error reason => .done (.configInvalid reason)
      | .loaded current =>
        if !contains account current.accounts then .done (.accountNotFound account)
        else
          mutateFor sha toml current { kind := .use, account := account } sequence
            (.used account current.defaultAccount)

variable (sha toml) in
def handle (request : Request) (sequence : Nat) (lock : LockState) : Program Response :=
  match request with
  | .add account => accountAdd sha toml account sequence lock
  | .use account => accountUse sha toml account sequence lock

/-! ## §3. What is wrong with a request itself. -/

def Request.mutation : Request → Mutation
  | .add account => { kind := .add, account := account }
  | .use account => { kind := .use, account := account }

variable (toml) in
/-- The changed document would not fit. -/
def sizeRefusal (document : Table) (mutation : Mutation) : Option Response :=
  match applyMutation document mutation with
  | .error _ => none
  | .ok result =>
    if kMaxConfigBytes < (serializeDocument toml result).length then
      some (.configInvalid .tooLarge)
    else none

/-- The account is there already, or is not there. -/
def existenceRefusal (document : Table) : Request → Option Response
  | .add account =>
    if contains account (accountsOf document) then some (.accountExists account) else none
  | .use account =>
    if contains account (accountsOf document) then none else some (.accountNotFound account)

variable (toml) in
/-- **The reasons of the requested change itself.** -/
def changeRefusal (document : Table) (request : Request) : Option Response :=
  match existenceRefusal document request with
  | some response => some response
  | none => sizeRefusal toml document request.mutation

theorem sizeRefusal_reason (h : sizeRefusal toml document mutation = some response) :
    response = .configInvalid .tooLarge := by
  unfold sizeRefusal at h
  split at h
  · cases h
  split at h
  · injection h with h
    exact h.symm
  · cases h

variable {request : Request}

/-- `CONFIG_INVALID` is such a reason only for the size. -/
theorem changeRefusal_configInvalid
    (h : changeRefusal toml document request = some (.configInvalid reason)) :
    reason = .tooLarge := by
  unfold changeRefusal at h
  split at h
  · next response hresp =>
      rw [h] at hresp
      cases request <;> simp only [existenceRefusal] at hresp <;> split at hresp <;>
        cases hresp
  · have hrsn := sizeRefusal_reason h
    injection hrsn

/-! ## §4. Reading before and after recovery. -/

/-- The directory after the orphans of a transaction are removed. -/
def orphansRemoved (s : Disk) : Disk := (s.put .replacement none).put .committed none

theorem run_recover_unmarked (h : s.files .transaction = none) :
    (recoverTransaction sha).run answer s = (true, orphansRemoved s) := by
  simp only [recoverTransaction, Prog.run, h]
  rfl

theorem read_orphansRemoved (s : Disk) :
    readFromDirectory sha toml (orphansRemoved s) = readFromDirectory sha toml s := by
  simp [readFromDirectory, orphansRemoved]

theorem temporaryFree_orphansRemoved :
    temporaryFree (orphansRemoved s) attempts sequence ↔ temporaryFree s attempts sequence := by
  simp [temporaryFree, orphansRemoved]

theorem parseText_held (h : parseText toml bytes = some document) : Held toml.parse document := by
  unfold parseText at h
  split at h
  · cases h
    exact .empty
  · exact .parsed h

/-- What a successful read says about the document. -/
structure ReadOk (toml : Toml) (parsed : ParsedConfig) : Prop where
  valid : ValidDocument toml parsed.document
  held : Held toml.parse parsed.document
  accounts : parsed.snapshot.accounts.map Prod.fst = (accountsOf parsed.document).map Prod.fst
  default : parsed.snapshot.defaultAccount
    = (parsed.document.lookup (ascii "default_account")).bind Node.stringValue

theorem parse_ok (h : parseDocument toml bytes identity = .ok parsed) : ReadOk toml parsed := by
  obtain ⟨document, checked, htext, hcheck, rfl⟩ := (parseDocument_eq_ok toml).mp h
  obtain ⟨hval, hkeys, hdefault⟩ := valid_of_checkDocument toml hcheck
  exact ⟨hval, parseText_held htext, hkeys, hdefault⟩

theorem read_ok (h : readFromDirectory sha toml s = .ok parsed) : ReadOk toml parsed := by
  unfold readFromDirectory at h
  split at h
  · cases h
    exact ⟨valid_nil toml, .empty, rfl, rfl⟩
  split at h
  · cases h
  · exact parse_ok h

/-! ## §5. The mutation of a request. -/

theorem ready_begin {new : Bytes} (h : s.files .transaction = none)
    (hold : readable (s.files .config)) (hnew : new.length ≤ kMaxConfigBytes) :
    Ready ((orphansRemoved s).begin ((orphansRemoved s).files .config) new) := by
  refine ⟨⟨rfl, rfl, ?_, ?_⟩, ?_, ?_, ?_⟩
  · show readable ((orphansRemoved s).files .config) = true
    simpa [orphansRemoved] using hold
  · show readable (some new) = true
    simpa [readable] using hnew
  · simpa [orphansRemoved] using h
  · simp [orphansRemoved]
  · simp [orphansRemoved]

/-- The commit of a valid document that fits. -/
theorem run_commitDocument (sequence : Nat) (hmrk : s.files .transaction = none)
    (hold : readable (s.files .config)) (hheld : Held toml.parse document)
    (hval : ValidDocument toml document)
    (hsize : (serializeDocument toml document).length ≤ kMaxConfigBytes) :
    (temporaryFree s 128 sequence →
      ∃ s', (commitDocument sha toml sequence ((orphansRemoved s).files .config) document).run
        answer (orphansRemoved s) = ({ status := .applied }, s') ∧ Cleared s')
    ∧ (¬ temporaryFree s 128 sequence →
      ((commitDocument sha toml sequence ((orphansRemoved s).files .config) document).run
        answer (orphansRemoved s)).1 = { status := .ioError, reason := some .ioError }) := by
  obtain ⟨reparsed, hreparsed⟩ := parseDocument_serialize toml hheld hval .pending
  have hcommit : commitDocument sha toml sequence ((orphansRemoved s).files .config) document
      = commit sha sequence ((orphansRemoved s).files .config) (serializeDocument toml document) := by
    unfold commitDocument
    rw [if_neg (not_lt.mpr hsize), hreparsed]
  have hready := ready_begin hmrk hold hsize
  rw [hcommit, ← temporaryFree_orphansRemoved]
  constructor
  · intro hfree
    exact run_openTemporary hready hfree
  · intro hfull
    have hfull' : ¬ temporaryFree ((orphansRemoved s).begin ((orphansRemoved s).files .config)
        (serializeDocument toml document)) 128 sequence := hfull
    exact congrArg Prod.fst (run_openTemporary_full hfull')

/-- **The mutation of a change that is right in itself.**  It fails only if
the document grows too large or no temporary name is free. -/
theorem run_mutateFor {mutation : Mutation} (sequence : Nat) (applied : Response)
    (hmrk : s.files .transaction = none) (hread : readFromDirectory sha toml s = .ok parsed)
    (hname : validAccountName mutation.account) (hreassign : mutation.reassignDefault = none)
    (happly : applyMutation parsed.document mutation = .ok result)
    (hval : ValidDocument toml result) :
    let ended := (mutateFor sha toml parsed.snapshot mutation sequence applied).run answer s
    if kMaxConfigBytes < (serializeDocument toml result).length then
      ended.1 = .configInvalid .tooLarge
    else (temporaryFree s 128 sequence → ended.1 = applied ∧ Cleared ended.2)
      ∧ (¬ temporaryFree s 128 sequence → ended.1 = .configInvalid .ioError) := by
  have hmut : (mutate sha toml (fun _ => false) parsed.snapshot.identity mutation
      sequence).run answer s
      = (commitDocument sha toml sequence ((orphansRemoved s).files .config) result).run answer
        (orphansRemoved s) := by
    simp [mutate, enterStore, mutateEntered, run_neutral, hname, hreassign,
      Prog.run_bind, run_recover_unmarked hmrk, mutateRecovered, Prog.run, read_orphansRemoved, hread, happly]
  intro ended
  have hended : ended = (mutateFor sha toml parsed.snapshot mutation sequence applied).run
      answer s := rfl
  rw [mutateFor, Prog.run_bind, hmut] at hended
  by_cases hsize : kMaxConfigBytes < (serializeDocument toml result).length
  · have href : commitDocument sha toml sequence ((orphansRemoved s).files .config) result
        = .done { status := .invalid, reason := some .tooLarge } := if_pos hsize
    rw [if_pos hsize, hended, href]
    rfl
  · rw [if_neg hsize, hended]
    obtain ⟨hfree, hfull⟩ := run_commitDocument sequence hmrk
      (readable_of_read hread) ((read_ok hread).held.mutated happly) hval
      (not_lt.mp hsize)
    constructor
    · intro h
      obtain ⟨s', hrun, hclr⟩ := hfree h
      rw [hrun]
      exact ⟨rfl, hclr⟩
    · intro h
      show (if _ then _ else _) = _
      rw [hfull h]
      rfl

/-! ## §6. Which requests are served. -/

/-- The request was carried out. -/
def Response.applied : Response → Bool
  | .added _ _ | .used _ _ => true
  | _ => false

/-- A request that its account allows is a valid change. -/
theorem applyMutation_request (h : ValidDocument toml document)
    (hname : validAccountName request.account)
    (hadmitted : existenceRefusal document request = none) :
    ∃ result, applyMutation document request.mutation = .ok result ∧ ValidDocument toml result := by
  cases request with
  | add account =>
    refine applyMutation_add toml h hname ?_
    cases hcon : contains account (accountsOf document) with
    | false => rfl
    | true => simp [existenceRefusal, hcon] at hadmitted
  | use account =>
    refine applyMutation_use toml h hname ?_
    cases hcon : contains account (accountsOf document) with
    | true => rfl
    | false => simp [existenceRefusal, hcon] at hadmitted

attribute [local simp] handle accountAdd accountUse Prog.run

theorem load_marked (h : s.files .transaction = some marker) :
    load sha toml .free s = .error .syncError := by
  simp [load, inspectTransactionForLoad, transactionMarkerPresent, observeTransaction, h]

open Request

/-- The handler, up to its mutation. -/
theorem run_handle (sequence : Nat) (hname : validAccountName request.account)
    (hmrk : s.files .transaction = none) (hread : readFromDirectory sha toml s = .ok parsed) :
    match existenceRefusal parsed.document request with
    | some response => (handle sha toml request sequence .free).run answer s = (response, s)
    | none => ∃ applied : Response, applied.applied
        ∧ (handle sha toml request sequence .free).run answer s
          = (mutateFor sha toml parsed.snapshot request.mutation sequence applied).run answer s := by
  have hload : load sha toml .free s = .loaded parsed.snapshot := by
    simp [load, inspectTransactionForLoad, transactionMarkerPresent, hmrk, hread]
  have hkeys := contains_congr (read_ok hread).accounts request.account
  cases request <;> simp only [account] at hname hkeys
  case add account =>
    cases hcon : contains account (accountsOf parsed.document) <;>
      rw [hcon] at hkeys <;> simp only [existenceRefusal, hcon]
    · refine ⟨.added account parsed.snapshot.accounts.isEmpty, rfl, ?_⟩
      simp [hname, hload, hkeys, mutation]
    · simp [hname, hload, hkeys]
  case use account =>
    cases hcon : contains account (accountsOf parsed.document) <;>
      rw [hcon] at hkeys <;> simp only [existenceRefusal, hcon]
    · simp [hname, hload, hkeys]
    · refine ⟨.used account parsed.snapshot.defaultAccount, rfl, ?_⟩
      simp [hname, hload, hkeys, mutation]

/-- A handler that cannot load the config. -/
theorem run_handle_unloaded (hname : validAccountName request.account)
    (hload : load sha toml .free s = .error reason) :
    (handle sha toml request sequence .free).run answer s = (.configInvalid reason, s) := by
  cases request <;> simp only [account] at hname <;>
    simp [hname, hload]

theorem run_handle_usage (hname : validAccountName request.account = false) :
    (handle sha toml request sequence .free).run answer s = (.usage, s) := by
  cases request <;> simp only [account] at hname <;>
    simp [hname]

variable (sha toml) in
/-- **A request is served**: it is applied and leaves no transaction behind, or
it is refused for a reason of its own on the recovered config. -/
def Served (s : Disk) (request : Request) (sequence : Nat) : Prop :=
  let ended := (handle sha toml request sequence .free).run answer s
  (ended.1.applied = true ∧ Cleared ended.2)
    ∨ (validAccountName request.account = false ∧ ended.1 = .usage)
    ∨ ∃ parsed,
        readFromDirectory sha toml ((recoverTransaction sha).run answer s).2 = .ok parsed
          ∧ changeRefusal toml parsed.document request = some ended.1

variable (sha toml) in
/-- There is no transaction marker, config.toml can be read, and the change is
refused for a reason of its own or finds a free temporary name. -/
def Servable (s : Disk) (request : Request) (sequence : Nat) : Prop :=
  s.files .transaction = none
    ∧ ∃ parsed, readFromDirectory sha toml s = .ok parsed
      ∧ (changeRefusal toml parsed.document request ≠ none ∨ temporaryFree s 128 sequence)

/-- A handler that could not load the config has not served the request. -/
theorem not_served_of_load (hname : validAccountName request.account)
    (hload : load sha toml .free s = .error reason)
    (hread : ∀ parsed, readFromDirectory sha toml ((recoverTransaction sha).run answer s).2
        = .ok parsed → reason ≠ .tooLarge) : ¬ Served sha toml s request sequence := by
  unfold Served
  rw [run_handle_unloaded hname hload]
  rintro (⟨happ, _⟩ | ⟨hinvalid, _⟩ | ⟨parsed, hpar, hrefusal⟩)
  · cases happ
  · rw [hname] at hinvalid
    cases hinvalid
  · exact hread parsed hpar (changeRefusal_configInvalid hrefusal)

/-- The config loads: the request is served unless it needs a temporary file
and no name for one is free. -/
theorem served_of_read (hname : validAccountName request.account)
    (hmrk : s.files .transaction = none) (hread : readFromDirectory sha toml s = .ok parsed) :
    Served sha toml s request sequence
      ↔ changeRefusal toml parsed.document request ≠ none ∨ temporaryFree s 128 sequence := by
  have hrecd : ∀ p, readFromDirectory sha toml ((recoverTransaction sha).run answer s).2 = .ok p
      ↔ p = parsed := by
    intro p
    rw [run_recover_unmarked hmrk, read_orphansRemoved, hread]
    exact ⟨fun h => (Except.ok.inj h).symm, fun h => congrArg _ h.symm⟩
  have hhandle := run_handle sequence hname hmrk hread
  have hread' := (hrecd parsed).mpr rfl
  cases hexist : existenceRefusal parsed.document request with
  | some response =>
    have hrefusal : changeRefusal toml parsed.document request = some response := by
      rw [changeRefusal, hexist]
    rw [hexist] at hhandle
    rw [hrefusal]
    refine ⟨fun _ => .inl (by simp), fun _ => .inr (.inr ⟨parsed, hread', ?_⟩)⟩
    rw [hhandle]
    exact hrefusal
  | none =>
    rw [hexist] at hhandle
    obtain ⟨applied, happ, hrun⟩ := hhandle
    obtain ⟨result, happly, hval⟩ := applyMutation_request (read_ok hread).valid hname hexist
    have hmutation : validAccountName request.mutation.account
        ∧ request.mutation.reassignDefault = none := by
      cases request <;> exact ⟨hname, rfl⟩
    have hmut := run_mutateFor sequence applied hmrk hread hmutation.1 hmutation.2 happly
      hval
    have hsizeRefusal : changeRefusal toml parsed.document request
        = if kMaxConfigBytes < (serializeDocument toml result).length then
            some (.configInvalid .tooLarge) else none := by
      rw [changeRefusal, hexist]
      simp only [sizeRefusal, happly]
    rw [← hrun] at hmut
    by_cases hsize : kMaxConfigBytes < (serializeDocument toml result).length
    · rw [if_pos hsize] at hmut hsizeRefusal
      rw [hsizeRefusal]
      refine ⟨fun _ => .inl (by simp), fun _ => .inr (.inr ⟨parsed, hread', ?_⟩)⟩
      rw [hmut]
      exact hsizeRefusal
    · rw [if_neg hsize] at hmut hsizeRefusal
      rw [hsizeRefusal]
      simp only [ne_eq, not_true_eq_false, false_or]
      constructor
      · -- without a free name the answer is no reason of the change
        intro hserved
        by_contra hfull
        have hans := hmut.2 hfull
        rcases hserved with ⟨h, _⟩ | ⟨h, _⟩ | ⟨p, hp, h⟩
        · rw [hans] at h
          cases h
        · rw [hname] at h
          cases h
        · rw [(hrecd p).mp hp, hsizeRefusal] at h
          cases h
      · intro hfree
        obtain ⟨hans, hclr⟩ := hmut.1 hfree
        exact .inl ⟨by rw [hans]; exact happ, hclr⟩

/-- **A request is served exactly when there is no transaction marker and the
config can be read** (or its account name is no name). -/
theorem handle_served_iff (s : Disk) (request : Request) (sequence : Nat) :
    Served sha toml s request sequence
      ↔ validAccountName request.account = false ∨ Servable sha toml s request sequence := by
  cases hname : validAccountName request.account with
  | false =>
    refine ⟨fun _ => .inl rfl, fun _ => .inr (.inl ⟨hname, ?_⟩)⟩
    rw [run_handle_usage hname]
  | true =>
    simp only [Bool.true_eq_false, false_or]
    cases hmrk : s.files .transaction with
    | some marker =>
      refine iff_of_false (not_served_of_load hname (load_marked hmrk) fun _ _ => by simp) ?_
      rintro ⟨hnone, _⟩
      rw [hmrk] at hnone
      cases hnone
    | none =>
      cases hread : readFromDirectory sha toml s with
      | ok parsed =>
        rw [served_of_read hname hmrk hread]
        refine ⟨fun h => ⟨hmrk, parsed, hread, h⟩, ?_⟩
        rintro ⟨_, p, hp, h⟩
        rw [hread] at hp
        rw [Except.ok.inj hp]
        exact h
      | error reason =>
        have hload : load sha toml .free s = .error reason := by
          simp [load, inspectTransactionForLoad, transactionMarkerPresent, hmrk, hread]
        refine iff_of_false (not_served_of_load hname hload ?_) ?_
        · intro parsed hpar
          rw [run_recover_unmarked hmrk, read_orphansRemoved, hread] at hpar
          cases hpar
        · rintro ⟨_, parsed, hpar, _⟩
          rw [hread] at hpar
          cases hpar

/-- **A crash of the first `account add` locks the next one out**, and it stays
locked out: the handler changes nothing. -/
theorem crashed_not_served : ∃ s, Crashed (fun _ => Digest.zeros) Toml.plain s
      ∧ ¬ Served (fun _ => Digest.zeros) Toml.plain s (.add (ascii "main")) 0
      ∧ (handle (fun _ => Digest.zeros) Toml.plain (.add (ascii "main")) 0 .free).run answer s
        = (.configInvalid .syncError, s) := by
  obtain ⟨s, hcra, hmrk⟩ := crashed_torn fun _ => Digest.zeros
  have hname : validAccountName (add (ascii "main")).account := by decide
  exact ⟨s, hcra, not_served_of_load hname (load_marked hmrk) fun _ _ => (by simp),
    run_handle_unloaded hname (load_marked hmrk)⟩

end TgCli.Config
