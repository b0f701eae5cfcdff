/-
  TgCli.Store.Snapshot — THE SNAPSHOT OF THE IDEMPOTENCY STORE

  `valid_entry`, `mutable_charge` and `canonicalize_snapshot` of
  `idempotency_store.cpp`.  A pending entry reserves room for its terminal:
  what its payload does not use yet (`remaining`) counts towards the size of
  the store, so that a later update finds its room.

  The payloads are known through a `Format`: their documents and their checks.

  Main results:
    * `canonicalize_iff` — what the loop over the entries accepts;
    * `size_document` — the length of the store is the sum over its entries.
-/
import Mathlib.Data.String.Basic
import TgCli.Payload.Values

namespace TgCli.Store

open Lib Audit List Json
open Payload (validDigest)

/-! ## §1. Payloads. -/

/-- What the store knows of the payloads of its entries. -/
structure Format (P I F T : Type) where
  planJson : P → Json
  idsJson : I → Json
  progressJson : F → Json
  terminalJson : T → Json
  noIds : I
  noProgress : F
  noIds_json : idsJson noIds = .arr []
  noProgress_json : progressJson noProgress = .arr []
  /-- `validate_account_audit_persisted_plan` -/
  validPlan : Operation → P → String → Bool
  /-- `validate_account_audit_persisted_temporary_ids` -/
  validIds : Operation → I → P → Bool
  /-- `validate_account_audit_persisted_forward_progress` -/
  validProgress : Operation → F → P → Bool
  /-- `validate_account_audit_persisted_terminal` -/
  validTerminal : Operation → T → P → String → Bool
  /-- `validate_account_audit_persisted_spool` -/
  validSpool : SpoolRef → String → Bool
  /-- an entry may hold no ids and no items -/
  noIds_valid : ∀ operation plan, validIds operation noIds plan = true
  noProgress_valid : ∀ operation plan, validProgress operation noProgress plan = true

variable {P I F T : Type}

/-! ## §2. Entries. -/

def kStoreMaximumBytes : Nat := 16777216

def kStoreMaximumEntries : Nat := 10000

def kRetentionSeconds : Nat := 604800

/-- `account_audit_terminal_reservation`. -/
def terminalReservation (operation : Operation) : Nat :=
  if operation.isM6 then kOtherTerminalBytes else terminalByteCeiling operation

/-- `file_snapshot_json`. -/
def fileJson (file : FileSnapshot) : Json :=
  .obj
    [("ctime_ns", .int file.ctimeNs), ("device", .nat file.device), ("inode", .nat file.inode),
      ("mtime_ns", .int file.mtimeNs), ("name", .str file.name), ("path", .str file.path),
      ("sha256", .str file.sha256), ("size", .nat file.size)]

def spoolJson (spool : SpoolRef) : Json :=
  .obj [("file", fileJson spool.file), ("relative_path", .str spool.relativePath)]

def stateName : EntryState → String
  | .pending => "pending"
  | .completed => "completed"

namespace Format

variable (fmt : Format P I F T)

/-- A terminal, or `null`. -/
def terminalField (terminal : Option T) : Json := (terminal.map fmt.terminalJson).getD .null

def entryJson (entry : StoreEntry P I F T) : Json :=
  .obj
    [("audit_generation", .nat entry.auditGeneration), ("created_at", .nat entry.createdAt),
      ("expires_at", .nat entry.expiresAt),
      ("forward_progress", fmt.progressJson entry.forwardProgress),
      ("invocation_id", .str entry.invocation),
      ("key_hash", .str entry.keyHash),
      ("operation", .str entry.operation.name),
      ("plan", fmt.planJson entry.plan),
      ("request_fingerprint", .str entry.fingerprint),
      ("reserved_terminal_bytes", .nat entry.reservedTerminalBytes),
      ("spool", (entry.spool.map spoolJson).getD .null),
      ("state", .str (stateName entry.state)),
      ("temporary_message_ids", fmt.idsJson entry.temporaryIds),
      ("terminal", fmt.terminalField entry.terminal)]

/-- The document `mutable_charge` measures. -/
def mutableJson (ids progress terminal : Json) : Json :=
  .obj [("forward_progress", progress), ("temporary_message_ids", ids), ("terminal", terminal)]

def mutableCharge (entry : StoreEntry P I F T) : Option Nat := do
  let baseline ← (mutableJson (.arr []) (.arr []) .null).canonical
  let current ← (mutableJson (fmt.idsJson entry.temporaryIds)
    (fmt.progressJson entry.forwardProgress) (fmt.terminalField entry.terminal)).canonical
  if bytes current < bytes baseline then none
  else some (bytes current - bytes baseline)

def validEntry (account : String) (entry : StoreEntry P I F T) : Bool :=
  validDigest entry.keyHash && validDigest entry.fingerprint && entry.operation.idempotent
    && validInvocationId entry.invocation && entry.auditGeneration != 0
    && decide (entry.createdAt ≤ kMaximumUnixSeconds)
    && decide (entry.expiresAt ≤ kMaximumUnixSeconds)
    && decide (entry.createdAt ≤ kMaximumUnixSeconds - kRetentionSeconds)
    && entry.expiresAt == entry.createdAt + kRetentionSeconds
    && fmt.validPlan entry.operation entry.plan account
    && fmt.validIds entry.operation entry.temporaryIds entry.plan
    && fmt.validProgress entry.operation entry.forwardProgress entry.plan
    && entry.spool.all (fun spool => fmt.validSpool spool entry.invocation)
    && match fmt.mutableCharge entry with
      | none => false
      | some charge =>
        match entry.state with
        | .pending =>
          entry.terminal.isNone
            && entry.reservedTerminalBytes == terminalReservation entry.operation
            && decide (charge ≤ entry.reservedTerminalBytes)
        | .completed =>
          entry.reservedTerminalBytes == 0 && (fmt.idsJson entry.temporaryIds).isEmpty
            && (fmt.progressJson entry.forwardProgress).isEmpty
            && (match entry.terminal with
              | none => false
              | some terminal =>
                fmt.validTerminal entry.operation terminal entry.plan account)
            && decide (charge ≤ terminalReservation entry.operation)

/-- The completed entry `IdempotencyStore::complete` builds. -/
def completion (entry : StoreEntry P I F T) (terminal : T) : StoreEntry P I F T :=
  { entry with
    state := .completed
    reservedTerminalBytes := 0
    temporaryIds := fmt.noIds
    forwardProgress := fmt.noProgress
    terminal := some terminal }

/-! ## §3. The snapshot. -/

/-- The room a pending entry still reserves. -/
def remaining (entry : StoreEntry P I F T) : Nat :=
  match entry.state with
  | .pending => entry.reservedTerminalBytes - (fmt.mutableCharge entry).getD 0
  | .completed => 0

/-- The state of the loop of `canonicalize_snapshot`. -/
structure Scan where
  prior : Option String := none
  remaining : Nat := 0
  invocations : List String := []
  pins : List Pin := []

/-- One entry of the loop. -/
def canonicalizeStep (account : String) (scan : Scan) (entry : StoreEntry P I F T) : Option Scan :=
  if !fmt.validEntry account entry || scan.prior.any (fun prior => decide (entry.keyHash ≤ prior))
      || scan.invocations.contains entry.invocation || scan.pins.contains entry.pin then none
  else if (fmt.mutableCharge entry).isNone
      || decide (kStoreMaximumBytes - fmt.remaining entry < scan.remaining) then none
  else
    some { prior := some entry.keyHash
           remaining := scan.remaining + fmt.remaining entry
           invocations := entry.invocation :: scan.invocations
           pins := entry.pin :: scan.pins }

/-- The document of the store. -/
def document (entries : List (StoreEntry P I F T)) : Json :=
  .obj [("entries", .arr (entries.map fmt.entryJson)), ("schema_version", .nat 1)]

/-- `canonicalize_snapshot`: the canonical text of the entries. -/
def canonicalize (account : String) (entries : List (StoreEntry P I F T)) : Option (List Char) :=
  if kStoreMaximumEntries < entries.length then none
  else do
    let scan ← entries.foldlM (fmt.canonicalizeStep account) {}
    let text ← (fmt.document entries).canonical
    if kStoreMaximumBytes < bytes text
        ∨ kStoreMaximumBytes - bytes text < scan.remaining then none
    else some text

/-! ## §4. What `canonicalize_snapshot` accepts. -/

/-- The conditions on the entries of a store. -/
structure Accepted (account : String) (entries : List (StoreEntry P I F T)) : Prop where
  count : entries.length ≤ kStoreMaximumEntries
  valid : ∀ entry ∈ entries, fmt.validEntry account entry = true
  ordered : entries.Pairwise (·.keyHash < ·.keyHash)
  distinct : (entries.map (·.invocation)).Nodup
  supported : (fmt.document entries).supported = true
  fits : (fmt.document entries).size + (entries.map fmt.remaining).sum ≤ kStoreMaximumBytes

variable {fmt} {account : String}

/-- The fields of a valid entry that no update changes. -/
structure Fixed (fmt : Format P I F T) (account : String) (entry : StoreEntry P I F T) : Prop where
  key : validDigest entry.keyHash = true
  fingerprint : validDigest entry.fingerprint = true
  operation : entry.operation.idempotent = true
  invocation : validInvocationId entry.invocation = true
  generation : entry.auditGeneration ≠ 0
  created : entry.createdAt ≤ kMaximumUnixSeconds
  expires : entry.expiresAt ≤ kMaximumUnixSeconds
  room : entry.createdAt ≤ kMaximumUnixSeconds - kRetentionSeconds
  retention : entry.expiresAt = entry.createdAt + kRetentionSeconds
  plan : fmt.validPlan entry.operation entry.plan account = true
  spool : entry.spool.all (fun spool => fmt.validSpool spool entry.invocation) = true

variable {entry : StoreEntry P I F T}

/-- What a valid pending entry holds: no terminal, and a payload within its
reservation. -/
theorem validEntry_pending_iff (hpend : entry.state = .pending) : fmt.validEntry account entry ↔
      fmt.Fixed account entry ∧ fmt.validIds entry.operation entry.temporaryIds entry.plan
        ∧ fmt.validProgress entry.operation entry.forwardProgress entry.plan
        ∧ entry.terminal = none
        ∧ entry.reservedTerminalBytes = terminalReservation entry.operation
        ∧ ∃ charge ≤ terminalReservation entry.operation,
            fmt.mutableCharge entry = some charge := by
  unfold validEntry
  rw [hpend]
  cases hchg : fmt.mutableCharge entry with
  | none => simp
  | some charge =>
    simp only [Bool.and_eq_true, decide_eq_true_eq, beq_iff_eq, bne_iff_ne,
      Option.isNone_iff_eq_none, and_assoc]
    constructor
    · rintro ⟨h1, h2, h3, h4, h5, h6, h7, h8, h9, h10, hids, hprog, h11, hterminal, hres, hle⟩
      exact ⟨⟨h1, h2, h3, h4, h5, h6, h7, h8, h9, h10, h11⟩, hids, hprog, hterminal,
        hres, charge, hres ▸ hle, rfl⟩
    · rintro ⟨⟨h1, h2, h3, h4, h5, h6, h7, h8, h9, h10, h11⟩, hids, hprog, hterminal,
        hres, charge', hle, heq⟩
      cases heq
      exact ⟨h1, h2, h3, h4, h5, h6, h7, h8, h9, h10, hids, hprog, h11, hterminal, hres, hres ▸ hle⟩

/-- What a valid completed entry holds: its terminal, and nothing else. -/
theorem validEntry_completed_iff (hcompl : entry.state = .completed) :
    fmt.validEntry account entry ↔
      fmt.Fixed account entry ∧ fmt.validIds entry.operation entry.temporaryIds entry.plan
        ∧ fmt.validProgress entry.operation entry.forwardProgress entry.plan
        ∧ entry.reservedTerminalBytes = 0
        ∧ (fmt.idsJson entry.temporaryIds).isEmpty
        ∧ (fmt.progressJson entry.forwardProgress).isEmpty
        ∧ (∃ terminal, entry.terminal = some terminal
            ∧ fmt.validTerminal entry.operation terminal entry.plan account)
        ∧ ∃ charge ≤ terminalReservation entry.operation,
            fmt.mutableCharge entry = some charge := by
  unfold validEntry
  rw [hcompl]
  cases hchg : fmt.mutableCharge entry with
  | none => simp
  | some charge =>
    simp only [Bool.and_eq_true, decide_eq_true_eq, beq_iff_eq, bne_iff_ne, and_assoc]
    have hterminal : (match entry.terminal with
        | none => false
        | some terminal => fmt.validTerminal entry.operation terminal entry.plan account) = true ↔
        ∃ terminal, entry.terminal = some terminal
          ∧ fmt.validTerminal entry.operation terminal entry.plan account = true := by
      cases entry.terminal with
      | none => simp
      | some terminal => simp
    rw [hterminal]
    constructor
    · rintro ⟨h1, h2, h3, h4, h5, h6, h7, h8, h9, h10, hids, hprog, h11, hres, hnoIds, hnoProgress,
        hterm, hle⟩
      exact ⟨⟨h1, h2, h3, h4, h5, h6, h7, h8, h9, h10, h11⟩, hids, hprog, hres, hnoIds,
        hnoProgress, hterm, charge, hle, rfl⟩
    · rintro ⟨⟨h1, h2, h3, h4, h5, h6, h7, h8, h9, h10, h11⟩, hids, hprog, hres, hnoIds,
        hnoProgress, hterm, charge', hle, heq⟩
      cases heq
      exact ⟨h1, h2, h3, h4, h5, h6, h7, h8, h9, h10, hids, hprog, h11, hres, hnoIds, hnoProgress,
        hterm, hle⟩

section

variable (h : fmt.validEntry account entry)
include h

theorem fixed_of_valid : fmt.Fixed account entry := by
  cases hst : entry.state with
  | pending => exact ((validEntry_pending_iff hst).mp h).1
  | completed => exact ((validEntry_completed_iff hst).mp h).1

/-- What an entry reserves is a number of 32 bits. -/
theorem reserved_lt : entry.reservedTerminalBytes < 2 ^ 32 := by
  cases hst : entry.state with
  | pending =>
    obtain ⟨-, -, -, -, hres, -⟩ := (validEntry_pending_iff hst).mp h
    rw [hres]
    cases entry.operation <;> decide
  | completed =>
    obtain ⟨-, -, -, hres, -⟩ := (validEntry_completed_iff hst).mp h
    rw [hres]
    decide

theorem mutableCharge_of_valid :
    ∃ charge, fmt.mutableCharge entry = some charge := by
  cases hst : entry.state with
  | pending =>
    obtain ⟨-, -, -, -, -, charge, -, hchg⟩ := (validEntry_pending_iff hst).mp h
    exact ⟨charge, hchg⟩
  | completed =>
    obtain ⟨-, -, -, -, -, -, -, charge, -, hchg⟩ := (validEntry_completed_iff hst).mp h
    exact ⟨charge, hchg⟩

/-- An entry reserves less than the store may hold. -/
theorem remaining_le :
    fmt.remaining entry ≤ kStoreMaximumBytes := by
  unfold remaining
  cases hst : entry.state with
  | completed => exact Nat.zero_le _
  | pending =>
    have hceil : terminalReservation entry.operation ≤ kStoreMaximumBytes := by
      cases entry.operation <;> decide
    obtain ⟨-, -, -, -, hres, -⟩ := (validEntry_pending_iff hst).mp h
    show entry.reservedTerminalBytes - _ ≤ _
    omega

end

/-- What one entry of the loop needs. -/
theorem canonicalizeStep_iff : fmt.canonicalizeStep account scan entry = some scan' ↔
      fmt.validEntry account entry ∧ (∀ prior ∈ scan.prior, prior < entry.keyHash)
        ∧ entry.invocation ∉ scan.invocations ∧ entry.pin ∉ scan.pins
        ∧ scan.remaining + fmt.remaining entry ≤ kStoreMaximumBytes
        ∧ scan' = ⟨some entry.keyHash, scan.remaining + fmt.remaining entry,
            entry.invocation :: scan.invocations, entry.pin :: scan.pins⟩ := by
  unfold canonicalizeStep
  by_cases hval : fmt.validEntry account entry = true
  · obtain ⟨charge, hchg⟩ := mutableCharge_of_valid hval
    have hle := remaining_le hval
    have hprior : scan.prior.any (fun prior => decide (entry.keyHash ≤ prior)) = false
        ↔ ∀ prior ∈ scan.prior, prior < entry.keyHash := by
      cases scan.prior with
      | none => simp
      | some prior => simp
    by_cases hfree : scan.prior.any (fun prior => decide (entry.keyHash ≤ prior)) = false
        ∧ entry.invocation ∉ scan.invocations ∧ entry.pin ∉ scan.pins
    · rw [if_neg (by simp [hval, hfree.1, hfree.2.1, hfree.2.2])]
      have hroom : (kStoreMaximumBytes - fmt.remaining entry < scan.remaining)
          ↔ ¬ scan.remaining + fmt.remaining entry ≤ kStoreMaximumBytes := by omega
      by_cases hfits : scan.remaining + fmt.remaining entry ≤ kStoreMaximumBytes
      · rw [if_neg (by simp [hchg, hroom, hfits])]
        constructor
        · intro h
          exact ⟨hval, hprior.mp hfree.1, hfree.2.1, hfree.2.2, hfits, (Option.some.inj h).symm⟩
        · rintro ⟨-, -, -, -, -, rfl⟩
          rfl
      · rw [if_pos (by simp [hroom, hfits])]
        exact iff_of_false nofun fun h => hfits h.2.2.2.2.1
    · rw [if_pos (by
        by_contra hcase
        simp only [hval, Bool.not_true, Bool.false_or, Bool.or_eq_true, not_or,
          Bool.not_eq_true, contains_eq_mem, decide_eq_false_iff_not] at hcase
        exact hfree ⟨hcase.1.1, hcase.1.2, hcase.2⟩)]
      refine iff_of_false nofun fun h => hfree ⟨hprior.mpr h.2.1, h.2.2.1, h.2.2.2.1⟩
  · rw [if_pos (by simp [hval])]
    exact iff_of_false nofun fun h => hval h.1

/-- The pins of the next state are those of its invocations. -/
theorem pins_step {scan : Scan} (entry : StoreEntry P I F T)
    (hpins : ∀ pin ∈ scan.pins, pin.invocation ∈ scan.invocations) :
    ∀ pin ∈ entry.pin :: scan.pins, pin.invocation ∈ entry.invocation :: scan.invocations := by
  exact forall_mem_cons.mpr
    ⟨mem_cons_self, fun pin hpin => mem_cons_of_mem _ (hpins pin hpin)⟩

variable (fmt account) in
/-- What the loop needs and what it adds up, from any state of it. -/
theorem canonicalizeLoop_iff (entries : List (StoreEntry P I F T)) (total : Nat) :
    ∀ scan : Scan, (∀ pin ∈ scan.pins, pin.invocation ∈ scan.invocations) →
      ((∃ scan', entries.foldlM (fmt.canonicalizeStep account) scan = some scan'
          ∧ scan'.remaining = total) ∧ scan.remaining ≤ kStoreMaximumBytes ↔
        (∀ entry ∈ entries, fmt.validEntry account entry)
          ∧ (∀ entry ∈ entries, ∀ prior ∈ scan.prior, prior < entry.keyHash)
          ∧ entries.Pairwise (·.keyHash < ·.keyHash)
          ∧ (∀ entry ∈ entries, entry.invocation ∉ scan.invocations)
          ∧ (entries.map (·.invocation)).Nodup
          ∧ scan.remaining + (entries.map fmt.remaining).sum = total
          ∧ total ≤ kStoreMaximumBytes) := by
  induction entries with
  | nil =>
    intro scan hpins
    simp only [foldlM_nil, pure, Option.some.injEq, exists_eq_left', map_nil,
      sum_nil, add_zero, not_mem_nil, false_implies, implies_true, true_and,
      List.Pairwise.nil, nodup_nil]
    constructor
    · rintro ⟨rfl, hle⟩
      exact ⟨rfl, hle⟩
    · rintro ⟨rfl, hle⟩
      exact ⟨rfl, hle⟩
  | cons entry rest ih =>
    intro scan hpins
    rw [foldlM_cons]
    constructor
    · rintro ⟨⟨scan', hloop, htotal⟩, -⟩
      obtain ⟨next, hstep, hrest⟩ := Option.bind_eq_some_iff.mp hloop
      obtain ⟨hval, hprior, hinv, -, hfits, rfl⟩ := canonicalizeStep_iff.mp hstep
      obtain ⟨hvalids, hpriors, hord, hinvs, hnd, hsum, hle⟩ :=
        (ih _ (pins_step entry hpins)).mp ⟨⟨scan', hrest, htotal⟩, hfits⟩
      refine ⟨forall_mem_cons.mpr ⟨hval, hvalids⟩, ?_, ?_, ?_, ?_, ?_, hle⟩
      · refine forall_mem_cons.mpr ⟨hprior, fun later hlater prior hmem => ?_⟩
        exact lt_trans (hprior prior hmem) (hpriors later hlater _ rfl)
      · exact pairwise_cons.mpr ⟨fun later hlater => hpriors later hlater _ rfl, hord⟩
      · exact forall_mem_cons.mpr ⟨hinv, fun later hlater hmem =>
          hinvs later hlater (mem_cons_of_mem _ hmem)⟩
      · rw [map_cons, nodup_cons]
        refine ⟨fun hmem => ?_, hnd⟩
        obtain ⟨later, hlater, heq⟩ := mem_map.mp hmem
        exact hinvs later hlater (heq ▸ mem_cons_self)
      · rw [map_cons, sum_cons, ← hsum]
        show _ = scan.remaining + fmt.remaining entry + _
        omega
    · rintro ⟨hvalids, hpriors, hord, hinvs, hnd, hsum, hle⟩
      rw [map_cons, sum_cons] at hsum
      rw [map_cons, nodup_cons] at hnd
      rw [pairwise_cons] at hord
      rw [forall_mem_cons] at hvalids hpriors hinvs
      have hstep := canonicalizeStep_iff.mpr ⟨hvalids.1, hpriors.1, hinvs.1,
        fun hpin => hinvs.1 (hpins _ hpin), by omega, rfl⟩
      have hnext := ih ⟨some entry.keyHash, scan.remaining + fmt.remaining entry,
        entry.invocation :: scan.invocations, entry.pin :: scan.pins⟩ (pins_step entry hpins)
      -- What the rest needs from the next state is what the whole list gives.
      obtain ⟨⟨scan', hrest, htotal⟩, -⟩ := hnext.mpr
        ⟨hvalids.2, fun later hlater prior hprior => by
            cases hprior
            exact hord.1 later hlater,
          hord.2, fun later hlater hmem => by
            rcases mem_cons.mp hmem with heq | hmem
            · exact hnd.1 (heq ▸ mem_map_of_mem hlater)
            · exact hinvs.2 later hlater hmem,
          hnd.2, by
            show scan.remaining + fmt.remaining entry + _ = total
            omega, hle⟩
      exact ⟨⟨scan', Option.bind_eq_some_iff.mpr ⟨_, hstep, hrest⟩, htotal⟩, by omega⟩

/-- **What `canonicalize_snapshot` accepts**, and the text it then makes. -/
theorem canonicalize_iff {entries : List (StoreEntry P I F T)} {text : List Char} :
    fmt.canonicalize account entries = some text ↔
      fmt.Accepted account entries ∧ text = (fmt.document entries).text := by
  unfold canonicalize
  have hloop := fun total => canonicalizeLoop_iff fmt account entries total {} (by simp)
  simp only [Nat.zero_le, and_true, Option.mem_def, reduceCtorEq, false_implies, implies_true,
    true_and, zero_add, not_mem_nil, not_false_eq_true] at hloop
  by_cases hcnt : entries.length ≤ kStoreMaximumEntries
  · rw [if_neg (by omega)]
    constructor
    · intro h
      obtain ⟨scan, hscan, h⟩ := Option.bind_eq_some_iff.mp h
      obtain ⟨text', htext, h⟩ := Option.bind_eq_some_iff.mp h
      have hsupp : (fmt.document entries).supported := by
        by_contra hne
        rw [canonical_eq_none hne] at htext
        cases htext
      rw [canonical_eq_some hsupp] at htext
      cases htext
      split at h
      · cases h
      rename_i hsize
      cases h
      rw [bytes_text] at hsize
      obtain ⟨hval, hord, hnd, hsum, -⟩ := (hloop scan.remaining).mp ⟨scan, hscan, rfl⟩
      exact ⟨⟨hcnt, hval, hord, hnd, hsupp, by omega⟩, rfl⟩
    · rintro ⟨⟨-, hval, hord, hnd, hsupp, hfits⟩, rfl⟩
      obtain ⟨scan, hscan, hrem⟩ := (hloop _).mpr ⟨hval, hord, hnd, rfl, by omega⟩
      refine Option.bind_eq_some_iff.mpr ⟨scan, hscan, ?_⟩
      refine Option.bind_eq_some_iff.mpr ⟨_, canonical_eq_some hsupp, ?_⟩
      rw [if_neg (by rw [bytes_text]; omega)]
  · rw [if_pos (by omega)]
    exact iff_of_false nofun fun h => hcnt h.1.count

theorem supported_document : (fmt.document entries).supported ↔
      ∀ entry ∈ entries, (fmt.entryJson entry).supported := by
  unfold document
  have hone : supported (.nat 1) := rfl
  rw [supported_obj]
  simp [supported_arr, all_map, hone]

/-! ## §5. Lengths. -/

/-- **The length of the store is the sum over its entries.** -/
theorem size_document (entries : List (StoreEntry P I F T)) : (fmt.document entries).size
      = 33 + (entries.map fun entry => (fmt.entryJson entry).size).sum + (entries.length - 1) := by
  have hents : quoteSize "entries" = 9 := rfl
  have hschema : quoteSize "schema_version" = 16 := rfl
  have hone : sizeBy quoteSize (.nat 1) = 1 := rfl
  unfold document size
  rw [sizeBy_obj]
  simp only [JsonSize.pieces, map_cons, map_nil, sum_cons, sum_nil,
    length_cons, length_nil, sizeBy_arr, map_map, length_map,
    Function.comp_def, hents, hschema, hone]
  omega

theorem size_mutableJson (ids progress terminal : Json) :
    (mutableJson ids progress terminal).size = 58 + (ids.size + progress.size + terminal.size) := by
  have hprog : quoteSize "forward_progress" = 18 := rfl
  have hids : quoteSize "temporary_message_ids" = 23 := rfl
  have hterminal : quoteSize "terminal" = 10 := rfl
  unfold mutableJson size
  rw [sizeBy_obj]
  simp only [JsonSize.pieces, map_cons, map_nil, sum_cons, sum_nil,
    length_cons, length_nil, hprog, hids, hterminal]
  omega

theorem supported_mutableJson (ids progress terminal : Json) :
    (mutableJson ids progress terminal).supported ↔
      ids.supported ∧ progress.supported ∧ terminal.supported := by
  simp [mutableJson, and_left_comm]

/-- A payload is charged what it takes beyond an empty one. -/
theorem mutableCharge_eq_some : fmt.mutableCharge entry = some charge ↔
      (fmt.idsJson entry.temporaryIds).supported
        ∧ (fmt.progressJson entry.forwardProgress).supported
        ∧ (fmt.terminalField entry.terminal).supported
        ∧ (fmt.idsJson entry.temporaryIds).size + (fmt.progressJson entry.forwardProgress).size
            + (fmt.terminalField entry.terminal).size = charge + 8 := by
  have hemp : size (.arr []) = 2 := rfl
  have hnull : size .null = 4 := rfl
  have hbase : (mutableJson (.arr []) (.arr []) .null).supported := by
    rw [supported_mutableJson]
    exact ⟨rfl, rfl, rfl⟩
  unfold mutableCharge
  rw [canonical_eq_some hbase]
  by_cases hsupp : (mutableJson (fmt.idsJson entry.temporaryIds)
      (fmt.progressJson entry.forwardProgress) (fmt.terminalField entry.terminal)).supported = true
  · rw [canonical_eq_some hsupp]
    simp only [Option.bind_eq_bind, Option.bind_some, bytes_text, size_mutableJson, hemp, hnull]
    rw [supported_mutableJson] at hsupp
    split
    · refine iff_of_false nofun fun h => ?_
      omega
    · rw [Option.some.injEq]
      refine ⟨fun h => ⟨hsupp.1, hsupp.2.1, hsupp.2.2, by omega⟩, fun h => ?_⟩
      omega
  · rw [canonical_eq_none hsupp]
    rw [supported_mutableJson] at hsupp
    exact iff_of_false nofun fun h => hsupp ⟨h.1, h.2.1, h.2.2.1⟩

end Format

end TgCli.Store
