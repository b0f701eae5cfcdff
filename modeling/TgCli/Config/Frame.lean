/-
  TgCli.Config.Frame — WHAT A MUTATION MAY CHANGE

  `Store::mutate` is a compare-and-swap: it writes only over the file whose
  identity the caller names, and the new document is the old one up to the
  fields the mutation names.  For `Remove` the new default is the one that
  `resulting_default` (daemon/removal_planner.cpp) planned.

  Its callers tell the user from its status whether config.toml was changed; every
  call may fail here, nothing crashes and nobody else writes.

  Main results:
    * `mutate_reports` — the status tells the truth in every run in which the last
      `read_from_directory` does not fail, and otherwise only `IoError` can be wrong;
    * `applyMutation_framed` — other accounts, unknown keys and tables keep
      their values;
    * `resultingDefault_of_apply` — the mutation follows the plan;
    * `mutate_writes_framed` — what a run of `Store::mutate` leaves.
-/
import TgCli.Config.Accounts

namespace TgCli.Config

open Tdlib Lib Lib.SortedMap

/-! ## §1. The planned default. -/

/-- `RemovalPlanningError`, as `resulting_default` sets it. -/
inductive RemovalPlanningError where
  /-- USAGE: `--reassign-default` is an invalid argument -/
  | usage (message : String)
  | defaultReassignmentRequired (account : Bytes) (candidates : List Bytes)
  | accountNotFound (account : Bytes)
deriving DecidableEq, Repr

def resultingDefault (snapshot : ConfigSnapshot) (account : Bytes) (requested : Option Bytes) :
    Except RemovalPlanningError (Option Bytes) :=
  if snapshot.defaultAccount ≠ some account then
    if requested.isSome then
      .error (.usage "default reassignment is only valid for the current default")
    else .ok snapshot.defaultAccount
  else if snapshot.accounts.length = 1 then
    if requested.isSome then .error (.usage "the sole account cannot reassign the default")
    else .ok none
  else
    match requested with
    | none => .error (.defaultReassignmentRequired account
        ((snapshot.accounts.map Prod.fst).filter (· ≠ account)))
    | some next =>
      if next = account then
        .error (.usage "the replacement default must differ from the removed account")
      else if !contains next snapshot.accounts then .error (.accountNotFound next)
      else .ok (some next)

/-- `config_mutation_reassignment`: what `account remove` asks of the store
for the default that was planned. -/
def configMutationReassignment (snapshot : ConfigSnapshot) (account : Bytes)
    (reassignment : Option Bytes) : Option Bytes :=
  if snapshot.defaultAccount = some account ∧ 1 < snapshot.accounts.length then reassignment
  else none

/-- The store is asked for what the user asked for. -/
theorem configMutationReassignment_planned
    (h : resultingDefault snapshot account requested = .ok planned) :
    configMutationReassignment snapshot account planned = requested := by
  unfold resultingDefault at h
  split at h
  · next hother =>
      cases requested with
      | some _ => cases h
      | none => exact if_neg fun hboth => hother hboth.1
  next hdefault =>
  split at h
  · next hsole =>
      cases requested with
      | some _ => cases h
      | none => exact if_neg fun hboth => absurd hsole (ne_of_gt hboth.2)
  next hmany =>
  cases requested with
  | none => cases h
  | some next =>
    dsimp only at h
    repeat' split at h
    all_goals cases h
    next hcon =>
    -- the replacement is configured, so there are accounts
    have hne : snapshot.accounts ≠ [] := by
      intro hnil
      simp [hnil, contains] at hcon
    have hpos := List.length_pos_iff.mpr hne
    exact if_pos ⟨not_not.mp hdefault, by omega⟩

variable {sha : Bytes → Digest} {toml : Toml} {current : ParsedConfig} {mutation : Mutation}
  {document : Table} {s s' : Disk}

/-- **The mutation follows the plan**: `Remove` succeeds only where the
planner does, with the default it planned. -/
theorem resultingDefault_of_apply (hok : ReadOk toml current) (hkind : mutation.kind = .remove)
    (happly : applyMutation current.document mutation = .ok document) :
    resultingDefault current.snapshot mutation.account mutation.reassignDefault
      = .ok ((document.lookup (ascii "default_account")).bind Node.stringValue) := by
  have hlen : current.snapshot.accounts.length = (accountsOf current.document).length := by
    simpa using congrArg List.length hok.accounts
  have hcon := contains_congr hok.accounts
  have hdefault := hok.default
  simp only [applyMutation, hkind, lookup_default_setAccounts, ← hdefault, ← hlen, ← hcon]
    at happly
  unfold resultingDefault
  repeat' split at happly
  all_goals cases happly
  all_goals simp_all [setDefault, Node.stringValue]

/-! ## §2. The frame of a mutation. -/

/-- The account a mutation edits. -/
def Mutation.target (mutation : Mutation) : Bytes :=
  match mutation.kind with
  | .materializeMain => ascii "main"
  | _ => mutation.account

/-- The mutation sets or removes the default. -/
def Mutation.namesDefault (mutation : Mutation) (document : Table) : Bool :=
  match mutation.kind with
  | .add => (accountsOf document).isEmpty && !contains (ascii "default_account") document
  | .use => true
  | .remove =>
    (document.lookup (ascii "default_account")).bind Node.stringValue == some mutation.account
  | .materializeMain => !contains (ascii "default_account") document
  | .replaceAppCredentials => false

def kCredentialFields : List Bytes :=
  [ascii "api_id", ascii "api_hash", ascii "api_id_cmd", ascii "api_hash_cmd"]

/-- **Only what the mutation names is changed.** -/
structure Framed (mutation : Mutation) (old new : Table) : Prop where
  keys : ∀ key, key ≠ ascii "accounts" →
    (key = ascii "default_account" → mutation.namesDefault old = false) →
    new.lookup key = old.lookup key
  accounts : ∀ name, (name = mutation.target → mutation.kind = .use) →
    (accountsOf new).lookup name = (accountsOf old).lookup name
  fields : mutation.kind = .replaceAppCredentials → ∃ before after,
    (accountsOf old).lookup mutation.account = some (.table before)
      ∧ (accountsOf new).lookup mutation.account = some (.table after)
      ∧ ∀ key ∉ kCredentialFields, after.lookup key = before.lookup key

@[simp] theorem contains_default_setAccounts (accounts document : Table) :
    contains (ascii "default_account") (setAccounts accounts document)
      = contains (ascii "default_account") document := by
  simp only [contains, lookup_default_setAccounts]

theorem applyMutation_framed (happly : applyMutation old mutation = .ok new) :
    Framed mutation old new := by
  obtain ⟨kind, account, reassign, prompted⟩ := mutation
  refine ⟨fun key ha hd => ?_, fun name hn => ?_, fun hkind => ?_⟩
  · by_cases hkey : key = ascii "default_account"
    · subst hkey
      replace hd := hd rfl
      cases kind <;> simp only [applyMutation] at happly <;> (repeat' split at happly) <;>
        cases happly <;> simp_all [Mutation.namesDefault]
    · cases kind <;> simp only [applyMutation] at happly <;> (repeat' split at happly) <;>
        cases happly <;> simp [setAccounts, setDefault, ha, hkey]
  · cases kind <;> simp only [applyMutation] at happly <;> (repeat' split at happly) <;>
        cases happly <;> simp_all [Mutation.target]
  · cases hkind
    simp only [applyMutation] at happly
    split at happly
    · split at happly
      · cases happly
      next before htable =>
      cases happly
      cases hnode : (accountsOf old).lookup account with
      | none => simp [hnode] at htable
      | some node =>
        rw [hnode, Option.bind_some] at htable
        refine ⟨before, _, ?_, by rw [accountsOf_setAccounts, lookup_assign_self], fun key hkey => ?_⟩
        · cases node <;> cases htable
          rfl
        · simp only [kCredentialFields, List.mem_cons, List.not_mem_nil, or_false, not_or] at hkey
          simp [hkey]
    · cases happly

/-! ## §3. What a mutation reports. -/

open Disk Digest Prog

variable {s s' : Disk} {alreadyCommitted : ConfigSnapshot → Bool} {expected : Identity}
  {sequence : Nat} {r : MutationResult} {may : Op → Prop}

/-- A recovery that returns true leaves no transaction file, whatever it
found. -/
theorem cleared_of_recover : Prog.Triple (faulty may) (recoverTransaction sha) s (fun _ => True)
      fun recovered s' => recovered → Cleared s' := by
  have href : ∀ {s}, Prog.Triple (faulty may) (.done false : Program Bool) s (fun _ => True)
      fun recovered s' => recovered → Cleared s' :=
    triple_done trivial (fun h => by cases h)
  have hfin : ∀ {s}, Prog.Triple (faulty may)
      (cleanupTransaction (.done false) (.done true) : Program Bool) s (fun _ => True)
      fun recovered s' => recovered → Cleared s' :=
    triple_remove href (triple_remove href (triple_remove href
      (triple_neutral (Or.inl rfl) href
        (triple_done trivial fun _ => cleared_cleaned _))))
  have hrestored : ∀ {s}, Prog.Triple (faulty may) (require .sync (.done false)
      (cleanupTransaction (.done false) (.done true) : Program Bool)) s (fun _ => True)
      fun recovered s' => recovered → Cleared s' :=
    triple_neutral (Or.inl rfl) href hfin
  refine triple_look ?_
  split
  · next hmrk =>
      refine triple_remove href (triple_remove href (triple_neutral (Or.inl rfl) href ?_))
      exact triple_done trivial fun _ => ⟨by simpa using hmrk, by simp, by simp⟩
  · unfold recoverMarker recoverRecord
    repeat' split
    all_goals first
      | exact href
      | exact hfin
      | exact hrestored
      | exact triple_require (fun _ h => h) href fun _ _ => hrestored

/-- What `enterStore` guarantees. -/
theorem triple_entered :
    Prog.Triple (faulty may) (enterStore sha mutation) s (fun _ => True) fun entered s' =>
      (entered = none → Cleared s') ∧ ∀ r, entered = some r → r.status ≠ .applied := by
  refine triple_enter (fun r hr => triple_done trivial ⟨by simp, ?_⟩) ?_
  · rintro _ ⟨⟩
    exact hr
  · refine cleared_of_recover.mono (fun _ h => h) fun recovered s' h => ⟨trivial, ?_⟩
    cases recovered <;> simp_all

variable (sha toml mutation alreadyCommitted expected sequence may) in
/-- A run of `Store::mutate` through the directory `before` that `enterStore` left. -/
def Through (s : Disk) (entered : Option MutationResult) (before : Disk) (r : MutationResult)
    (s' : Disk) : Prop :=
  Prog.Ends (faulty may) (enterStore sha mutation) s entered before
    ∧ Prog.Ends (faulty may)
      (mutateEntered sha toml alreadyCommitted expected mutation sequence entered) before r s'

/-- **The status tells the truth** in every run in which the last `read_from_directory` does
not fail.  Otherwise it can be wrong only as `IoError` after a commit that went through. -/
theorem mutate_reports (hrun : Prog.Ends (faulty may)
      (mutate sha toml alreadyCommitted expected mutation sequence) s r s') :
    (∃ entered before, Through sha toml mutation alreadyCommitted expected sequence may s entered
      before r s')
    ∧ ∀ entered before, Through sha toml mutation alreadyCommitted expected sequence may s entered
        before r s' →
      Reports sha toml alreadyCommitted expected mutation before r s'
        ∨ (may .readBack ∧ r.status = .ioError
          ∧ s'.files .config = newDocument sha toml before mutation) := by
  refine ⟨hrun.of_bind, fun entered before ⟨henter, hrest⟩ => ?_⟩
  obtain ⟨hclr, href⟩ := triple_entered.ends _ _ henter
  cases entered with
  | none => exact reports_of_outcome ((triple_mutateRecovered (hclr rfl)).ends r s' hrest).2
  | some result =>
    cases hrest
    exact .inl (reports_kept (href _ rfl))

theorem exec_answerRead (op : Op) (s : Disk) :
    (faulty (· ≠ .readBack)).exec op s (answer op s).1 (answer op s).2 := by
  by_cases hop : op = .readBack
  · subst hop
    rfl
  · have h := exec_answer op s
    unfold calls faulty at *
    grind

/-- The first `account add`, when the last read cannot fail. -/
theorem mutate_reports_first :
    let ended := (mutate (fun _ => zeros) Toml.plain (fun _ => false) .missing
      firstAccount 0).run answer empty
    Reports (fun _ => zeros) Toml.plain (fun _ => false) .missing firstAccount empty
      ended.1 ended.2 := by
  intro ended
  have hrest := ends_run exec_answerRead (mutateEntered (fun _ => zeros) Toml.plain (fun _ => false)
    .missing firstAccount 0 none) empty
  have henter := ends_run exec_answerRead (enterStore (fun _ => zeros) firstAccount) empty
  have hended : ended = _ := run_bind answer (enterStore _ firstAccount) _ empty
  rw [run_enter_empty] at henter hended
  rw [← hended] at hrest
  exact ((mutate_reports (ends_run exec_answerRead _ _)).2 none empty ⟨henter, hrest⟩).resolve_right
    fun h => h.1 rfl

/-- Every call succeeds but the last read. -/
def answerUnread (op : Op) (s : Disk) : Bool × Disk :=
  if op = .readBack then (false, s) else answer op s

theorem exec_answerUnread (op : Op) (s : Disk) :
    calls.exec op s (answerUnread op s).1 (answerUnread op s).2 := by
  unfold answerUnread
  split
  · next h =>
      rw [h]
      exact ⟨trivial, rfl⟩
  · exact exec_answer op s

/-- **The first `account add` fails with `IoError` and config.toml is there.** -/
theorem unread_commit_reports_ioError :
    ∃ r s', Prog.Ends calls (mutate (fun _ => zeros) Toml.plain (fun _ => false) .missing
        firstAccount 0) empty r s'
      ∧ r.status = .ioError ∧ s'.files .config ≠ empty.files .config
      ∧ ¬ Reports (fun _ => zeros) Toml.plain (fun _ => false) .missing firstAccount
          empty r s' := by
  have hends := ends_run exec_answerUnread (mutate (fun _ => zeros) Toml.plain
    (fun _ => false) .missing firstAccount 0) empty
  have henter : (enterStore (fun _ => zeros) firstAccount).run answerUnread empty
      = (none, empty) := by
    refine Prod.ext rfl ?_
    show ((empty.put .replacement none).put .committed none) = empty
    simp [put, empty]
  have hcommit : (mutateRecovered (fun _ => zeros) Toml.plain (fun _ => false) .missing
      firstAccount 0).run answerUnread empty
      = (commitDocument (fun _ => zeros) Toml.plain 0 none firstDocument).run answerUnread
        empty := rfl
  rw [mutate, run_bind, henter] at hends
  dsimp only [mutateEntered] at hends
  rw [hcommit, commitDocument_first] at hends
  exact ⟨_, _, hends, rfl, fun h => (by cases h), fun h => (by cases h)⟩

/-! ## §4. The compare-and-swap. -/

/-- A document the mutation made of the current file. -/
structure Written (current : ParsedConfig) (mutation : Mutation) (parsed : ParsedConfig) :
    Prop where
  framed : Framed mutation current.document parsed.document
  default_configured : ∀ name, parsed.snapshot.defaultAccount = some name →
    contains name parsed.snapshot.accounts = true
  planned : mutation.kind = .remove →
    resultingDefault current.snapshot mutation.account mutation.reassignDefault
      = .ok parsed.snapshot.defaultAccount
    ∧ configMutationReassignment current.snapshot mutation.account parsed.snapshot.defaultAccount
      = mutation.reassignDefault

theorem ReadOk.default_configured (h : ReadOk toml current)
    (hname : current.snapshot.defaultAccount = some name) :
    contains name current.snapshot.accounts = true := by
  rw [h.default] at hname
  obtain ⟨node, hnode, htext⟩ := Option.bind_eq_some_iff.mp hname
  obtain ⟨name', htext', _, hcon⟩ := h.valid.default_configured node hnode
  rw [contains_congr h.accounts]
  cases htext'.symm.trans htext
  exact hcon

/-- The new document is written and read back. -/
theorem written_of_apply (hok : ReadOk toml current)
    (happly : applyMutation current.document mutation = .ok document)
    (hparse : parseDocument toml (serializeDocument toml document) identity = .ok parsed) :
    Written current mutation parsed := by
  have hnew := parse_ok hparse
  have hdocument : parsed.document = document := by
    obtain ⟨_, _, htext, _, rfl⟩ := (parseDocument_eq_ok toml).mp hparse
    exact Option.some.inj
      (htext.symm.trans (parseText_serialize toml (hok.held.mutated happly)))
  refine ⟨hdocument ▸ applyMutation_framed happly, fun _ => hnew.default_configured, fun hkind => ?_⟩
  have hplan := resultingDefault_of_apply hok hkind happly
  rw [← hdocument, ← hnew.default] at hplan
  exact ⟨hplan, configMutationReassignment_planned hplan⟩

/-- What was checked before it was written is read back. -/
theorem read_of_parse {bytes : Bytes} (hcfg : s.files .config = some bytes)
    (hsize : bytes.length ≤ kMaxConfigBytes) (hparse : parseDocument toml bytes .pending = .ok parsed) :
    ∃ identity read, readFromDirectory sha toml s = .ok read
      ∧ parseDocument toml bytes identity = .ok read := by
  obtain ⟨document, checked, htext, hcheck, -⟩ := (parseDocument_eq_ok toml).mp hparse
  have hread : readFromDirectory sha toml s
      = parseDocument toml bytes (serializeIdentity sha bytes s.stamp) := by
    simp [readFromDirectory, hcfg, not_lt.mpr hsize]
  have h : parseDocument toml bytes (serializeIdentity sha bytes s.stamp) = .ok _ :=
    (parseDocument_eq_ok toml).mpr ⟨document, checked, htext, hcheck, rfl⟩
  exact ⟨_, _, hread.trans h, h⟩

/-- **`Store::mutate` is a compare-and-swap with a frame**: it writes nothing
unless the file read under the lock has the expected identity, and what it
then writes reads back as the old document up to what the mutation names. -/
theorem mutate_writes_framed
    (hrun : Prog.Ends calls (mutate sha toml alreadyCommitted expected mutation sequence) s r s') :
    (∃ entered before, Through sha toml mutation alreadyCommitted expected sequence (fun _ => True)
      s entered before r s')
    ∧ ∀ entered before, Through sha toml mutation alreadyCommitted expected sequence
        (fun _ => True) s entered before r s' →
      s' = before ∨ ∃ current, readFromDirectory sha toml before = .ok current
        ∧ current.snapshot.identity = expected
        ∧ (s'.files .config = before.files .config ∨ ∃ parsed,
          readFromDirectory sha toml s' = .ok parsed ∧ Written current mutation parsed) := by
  refine ⟨hrun.of_bind, fun entered before ⟨henter, hrest⟩ => ?_⟩
  cases entered with
  | some result =>
    cases hrest
    exact Or.inl rfl
  | none =>
    have hclr := (triple_entered.ends _ _ henter).1 rfl
    cases ((triple_mutateRecovered hclr).ends r s' hrest).2 with
    | kept => exact Or.inl rfl
    | admitted => exact Or.inl rfl
    | committed hread hid happly hsize hparse htold =>
      refine Or.inr ⟨_, hread, hid, ?_⟩
      rcases htold.config with hcfg | hcfg
      · exact Or.inl hcfg
      · obtain ⟨_, read, hnew, hp⟩ := read_of_parse hcfg hsize hparse
        exact Or.inr ⟨read, hnew, written_of_apply (read_ok hread) happly hp⟩

/-- A document with an account, and with keys the daemon does not read. -/
def workDocument : Table :=
  [(ascii "accounts", .table [(ascii "work", .table
      [(ascii "allow_write", .boolean true), (ascii "color", .string (ascii "red"))])]),
    (ascii "default_account", .string (ascii "work")), (ascii "theme", .string (ascii "dark"))]

/-- A directory with nothing but a config.toml. -/
def configDisk (bytes : Bytes) : Disk := Disk.empty.put .config (some bytes)

theorem run_enter_config (sha : Bytes → Digest) (bytes : Bytes) :
    (enterStore sha firstAccount).run answer (configDisk bytes) = (none, configDisk bytes) := by
  refine Prod.ext rfl ?_
  show ((configDisk bytes).put .replacement none).put .committed none = configDisk bytes
  simp only [configDisk, Disk.put, Disk.empty, Disk.mk.injEq, and_true]
  grind

/-- `account add main` beside another account, when no call fails. -/
theorem mutate_writes_framed_work :
    let sha : Bytes → Digest := fun _ => Digest.zeros
    let bytes := serializeDocument Toml.plain workDocument
    let ended := (mutate sha Toml.plain (fun _ => false) (serializeIdentity sha bytes 0)
      firstAccount 0).run answer (configDisk bytes)
    ∃ current parsed, readFromDirectory sha Toml.plain (configDisk bytes) = .ok current
      ∧ current.document = workDocument
      ∧ readFromDirectory sha Toml.plain ended.2 = .ok parsed
      ∧ Written current firstAccount parsed := by
  intro sha bytes ended
  obtain ⟨document, checked, happly, hcheck, hsize, hnew⟩ : ∃ document checked,
      applyMutation workDocument firstAccount = .ok document
      ∧ checkDocument Toml.plain document = .ok checked
      ∧ (endLine (plainPrint document)).length ≤ kMaxConfigBytes
      ∧ endLine (plainPrint document) ≠ endLine (plainPrint workDocument) :=
    ⟨_, _, rfl, rfl, by decide +kernel, by decide +kernel⟩
  obtain ⟨old, hold⟩ : ∃ old, checkDocument Toml.plain workDocument = .ok old := ⟨_, rfl⟩
  have hfits : ¬ kMaxConfigBytes < bytes.length :=
    show ¬ kMaxConfigBytes < (endLine (plainPrint workDocument)).length by decide +kernel
  have hparse : ∀ identity, parseDocument Toml.plain bytes identity
      = .ok ⟨⟨identity, old.1, old.2, bytes⟩, workDocument⟩ := parse_plain hold
  replace hnew : serializeDocument Toml.plain document ≠ bytes := hnew
  clear_value bytes
  have hread : readFromDirectory sha Toml.plain (configDisk bytes)
      = .ok ⟨⟨serializeIdentity sha bytes 0, old.1, old.2, bytes⟩, workDocument⟩ :=
    (if_neg hfits).trans (hparse _)
  have hrun : Prog.Ends calls _ _ ended.1 ended.2 := Prog.ends_run exec_answer _ _
  have hfirst := Prog.ends_run exec_answer (enterStore sha firstAccount) (configDisk bytes)
  have hrest := Prog.ends_run exec_answer (mutateEntered sha Toml.plain (fun _ => false)
    (serializeIdentity sha bytes 0) firstAccount 0 none) (configDisk bytes)
  have hended : ended = _ := Prog.run_bind answer (enterStore sha firstAccount) _ (configDisk bytes)
  rw [run_enter_config] at hfirst hended
  rw [← hended] at hrest
  have hcfg : ended.2.files .config ≠ some bytes := by
    have hcommit : ended = (commit sha 0 (some bytes) (serializeDocument Toml.plain document)).run
        answer (configDisk bytes) := by
      rw [hended, ← commitDocument_plain _ _ _ hcheck hsize]
      simp [mutateEntered, run_neutral, mutateRecovered, Prog.run, hread, happly]
      rfl
    rw [hcommit]
    exact fun h => hnew (Option.some.inj h)
  clear_value ended
  rcases (mutate_writes_framed hrun).2 none _ ⟨hfirst, hrest⟩
    with h | ⟨current, hread', -, h | ⟨parsed, hparsed, hwritten⟩⟩
  · exact absurd (congrArg (·.files .config) h) hcfg
  · exact absurd h hcfg
  · obtain rfl := Except.ok.inj (hread'.symm.trans hread)
    exact ⟨_, parsed, hread, rfl, hparsed, hwritten⟩

end TgCli.Config
