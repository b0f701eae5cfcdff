/-
  TgCli.Store.Codec — THE TEXT OF THE STORE, AND ITS ROOM

  `parse_entry`, `parse_document` and `decode_snapshot` of
  `idempotency_store.cpp`, over the documents the entries hold.  The parser of
  the library is a parameter that reads every canonical text; reading loses the
  kinds of the numbers (`readBack`), which no check and no comparison sees.

  The updates of a pending entry after its insertion: temporary ids, forward
  progress, the completion.  What the new payload takes in the file, the entry
  no longer reserves; the length of the state and of the reservation itself can
  only shrink.

  Main results:
    * `parseEntry_entryJson` — an entry is read back;
    * `decode_canonicalize` — the bytes of a store are read back;
    * `canonicalize_decode` — a store has one spelling;
    * `update_fits` — every update within the reservation leaves a store that is
      accepted, and bytes and reservations together do not grow.
-/
import Mathlib
import TgCli.Lib.JsonText
import TgCli.Payload.Terminal
import TgCli.Store.Snapshot

namespace TgCli.Store

open Lib Audit Payload List Json Format

/-! ## §1. The documents of the entries. -/

/-- `parse_spool_path` and `valid_spool_reference`: the file of an invocation. -/
def validSpoolReference (spool : SpoolRef) (invocation : String) : Bool :=
  match spool.relativePath.toList.splitOn '/' with
  | [directory, parsed, name] =>
    directory == "spool".toList && validInvocationId (String.ofList parsed)
      && validSafeBasename (.str (String.ofList name)) && name == spool.file.name.toList
      && (invocation == "" || parsed == invocation.toList)
  | _ => false

/-- An entry with the documents the source keeps. -/
abbrev JsonEntry : Type := StoreEntry Json Json Json Json

/-- The payloads of the store: documents and the checks of `account_audit.cpp`. -/
def auditFormat : Format Json Json Json Json where
  planJson := id
  idsJson := id
  progressJson := id
  terminalJson := id
  noIds := .arr []
  noProgress := .arr []
  noIds_json := rfl
  noProgress_json := rfl
  validPlan := Payload.validPlan
  validIds := validPersistedIds
  validProgress := validPersistedProgress
  validTerminal := validPersistedTerminal
  validSpool spool invocation :=
    validSpoolReference spool invocation && Payload.validFileSnapshot (fileJson spool.file)
  noIds_valid _ _ := rfl
  noProgress_valid _ _ := rfl

/-- The plan of a leave, as an example of a document. -/
def leavePlan : Json :=
  .obj
    [("account", .str "main"), ("chat", .obj
        [("id", .int (-1001)), ("is_bot", .bool false), ("title", .str "Group"),
          ("type", .str "supergroup"), ("usernames", .arr [])]),
      ("operation", .str "chat_leave"), ("tdlib_request", .str "leaveChat")]

/-- The result of the leave. -/
def leaveTerminal : Json :=
  .obj [("data", .obj [("chat_id", .int (-1001)), ("left", .bool true)]), ("kind", .str "result")]

/-- The pending entry of the leave. -/
def leaveEntry : JsonEntry :=
  { keyHash := "sha256:00000000000000000000000000000000000000000000000000000000000000aa"
    fingerprint := "sha256:00000000000000000000000000000000000000000000000000000000000000bb"
    operation := .chatLeave
    invocation := "0123456789abcdef0123456789abcdef"
    auditGeneration := 7
    createdAt := 1700000000
    expiresAt := 1700604800
    reservedTerminalBytes := 32768
    plan := leavePlan
    temporaryIds := .arr []
    forwardProgress := .arr [] }

/-- The same leave under another key. -/
def otherEntry : JsonEntry :=
  { leaveEntry with
    keyHash := "sha256:00000000000000000000000000000000000000000000000000000000000000ab"
    invocation := "fedcba9876543210fedcba9876543210"
    auditGeneration := 8 }

/-! ## §2. Reading. -/

/-- An unsigned integer. -/
def unsigned? : Json → Option Nat
  | .nat n => some n
  | _ => none

def parseSpool (v : Json) (invocation : String) : Option SpoolRef := do
  if v.exactFields ["relative_path", "file"] && (v.get "file").exactFields snapshotFields then
    let file := v.get "file"
    let spool : SpoolRef :=
      { relativePath := ← (v.get "relative_path").str?
        file :=
          { path := ← (file.get "path").str?
            name := ← (file.get "name").str?
            size := ← unsigned? (file.get "size")
            sha256 := ← (file.get "sha256").str?
            device := ← unsigned? (file.get "device")
            inode := ← unsigned? (file.get "inode")
            mtimeNs := ← M6.getInt64 (file.get "mtime_ns")
            ctimeNs := ← M6.getInt64 (file.get "ctime_ns") } }
    if auditFormat.validSpool spool invocation then some spool else none
  else none

/-- A spool reference, or `null`. -/
def parseSpoolField (v : Json) (invocation : String) : Option (Option SpoolRef) :=
  if v.isNull then some none else (parseSpool v invocation).map some

def parseState (name : String) : Option EntryState :=
  if name = "pending" then some .pending else if name = "completed" then some .completed else none

def entryFields : List String :=
  ["key_hash", "request_fingerprint", "operation", "state", "invocation_id", "audit_generation",
    "created_at", "expires_at", "reserved_terminal_bytes", "plan", "temporary_message_ids",
    "forward_progress", "spool", "terminal"]

def parseEntry (account : String) (v : Json) : Option JsonEntry := do
  if v.exactFields entryFields then
    let key ← (v.get "key_hash").str?
    let fingerprint ← (v.get "request_fingerprint").str?
    let operation ← (v.get "operation").str?.bind parseOperation
    let state ← (v.get "state").str?.bind parseState
    let invocation ← (v.get "invocation_id").str?
    let generation ← unsigned? (v.get "audit_generation")
    let created ← unsigned? (v.get "created_at")
    let expires ← unsigned? (v.get "expires_at")
    let reserved ← unsigned? (v.get "reserved_terminal_bytes")
    if 2 ^ 32 ≤ reserved ∨ ¬ validDigest key ∨ ¬ validDigest fingerprint
        ∨ ¬ operation.idempotent then none
    else
      let spool ← parseSpoolField (v.get "spool") invocation
      let entry : JsonEntry :=
        { keyHash := key
          fingerprint := fingerprint
          operation := operation
          state := state
          invocation := invocation
          auditGeneration := generation
          createdAt := created
          expiresAt := expires
          reservedTerminalBytes := reserved
          plan := v.get "plan"
          temporaryIds := v.get "temporary_message_ids"
          forwardProgress := v.get "forward_progress"
          spool := spool
          terminal := if (v.get "terminal").isNull then none else some (v.get "terminal") }
      if auditFormat.validEntry account entry then some entry else none
  else none

/-- `decode_snapshot`: the entries and the bytes they stand for. -/
def decodeSnapshot (parser : Json.Parser) (bytes : ByteArray) (account : String) :
    Option (List JsonEntry × ByteArray) := do
  if bytes.size = 0 then none
  else
    let (events, document) ← parser.parse bytes
    if (events.foldl Json.KeyState.step {}).duplicate then none
    else if document.exactFields ["schema_version", "entries"]
        && (document.get "schema_version").isUnsigned && document.get "schema_version" == .int 1
        && (document.get "entries").isArr
        && decide ((document.get "entries").items.length ≤ kStoreMaximumEntries) then
      let entries ← (document.get "entries").items.mapM (parseEntry account)
      let text ← auditFormat.canonicalize account entries
      if encode text = bytes then some (entries, bytes) else none
    else none

/-! ## §3. Entries. -/

/-- An entry as it is read back from its text. -/
def readBack (entry : JsonEntry) : JsonEntry :=
  { entry with
    plan := entry.plan.parsed
    temporaryIds := entry.temporaryIds.parsed
    forwardProgress := entry.forwardProgress.parsed
    terminal := entry.terminal.map parsed }

theorem parseState_stateName (state : EntryState) : parseState (stateName state) = some state := by
  cases state <;> rfl

theorem terminalField_readBack (entry : JsonEntry) :
    auditFormat.terminalField (readBack entry).terminal
      = (auditFormat.terminalField entry.terminal).parsed := by
  show auditFormat.terminalField (entry.terminal.map parsed) = _
  cases entry.terminal with
  | none => rfl
  | some terminal => rfl

theorem mutableCharge_readBack (entry : JsonEntry) :
    auditFormat.mutableCharge (readBack entry) = auditFormat.mutableCharge entry := by
  apply Option.ext
  intro charge
  rw [mutableCharge_eq_some, mutableCharge_eq_some, terminalField_readBack]
  show supported entry.temporaryIds.parsed = true
    ∧ supported entry.forwardProgress.parsed = true ∧ _
    ∧ size entry.temporaryIds.parsed + size entry.forwardProgress.parsed + _ = _ ↔ _
  simp only [supported_parsed, size_parsed]
  rfl

variable {account : String} {entry : JsonEntry} {entries : List JsonEntry} {text : List Char}

/-- **An entry that is accepted is accepted when it is read back.** -/
theorem validEntry_readBack (h : auditFormat.validEntry account entry) :
    auditFormat.validEntry account (readBack entry) := by
  have hfixed' : auditFormat.Fixed account entry → auditFormat.Fixed account (readBack entry) :=
    fun hfixed => { hfixed with plan := validPlan_parsed hfixed.plan }
  have hids : auditFormat.validIds entry.operation entry.temporaryIds.parsed entry.plan.parsed
      = auditFormat.validIds entry.operation entry.temporaryIds entry.plan :=
    validPersistedIds_parsed _ _ _
  have hprog : auditFormat.validProgress entry.operation entry.forwardProgress.parsed
      entry.plan.parsed
      = auditFormat.validProgress entry.operation entry.forwardProgress entry.plan :=
    validPersistedProgress_parsed _ _ _
  cases hst : entry.state with
  | pending =>
    obtain ⟨hfixed, h1, h2, hterm, hres, hchg⟩ :=
      (validEntry_pending_iff hst).mp h
    rw [validEntry_pending_iff (by exact hst), mutableCharge_readBack]
    refine ⟨hfixed' hfixed, hids.trans h1, hprog.trans h2, ?_, hres, hchg⟩
    show entry.terminal.map parsed = none
    rw [hterm]
    rfl
  | completed =>
    obtain ⟨hfixed, h1, h2, hres, hemp1, hemp2, ⟨terminal, hterm, hval⟩, hchg⟩ :=
      (validEntry_completed_iff hst).mp h
    rw [validEntry_completed_iff (by exact hst), mutableCharge_readBack]
    refine ⟨hfixed' hfixed, hids.trans h1, hprog.trans h2, hres, ?_, ?_,
      ⟨terminal.parsed, ?_, validPersistedTerminal_parsed hval⟩, hchg⟩
    · exact (isEmpty_parsed _).trans hemp1
    · exact (isEmpty_parsed _).trans hemp2
    · show entry.terminal.map parsed = some terminal.parsed
      rw [hterm]
      rfl

/-- The entry is one the program can hold: machine integers, and documents of
the library. -/
def InMemory (entry : JsonEntry) : Prop := (auditFormat.entryJson entry).wellFormed = true

theorem getInt64_parsed_int (h : wellFormed (.int n)) : M6.getInt64 (parsed (.int n)) = some n := by
  rw [M6.getInt64_parsed]
  show some (signed n) = some n
  have hrange := of_decide_eq_true h
  unfold signed
  rw [if_neg (by omega)]

section Fields

variable (file : FileSnapshot) (spool : SpoolRef)

@[simp] theorem fileJson_path : (fileJson file).get "path" = .str file.path := rfl

@[simp] theorem fileJson_name : (fileJson file).get "name" = .str file.name := rfl

@[simp] theorem fileJson_size : (fileJson file).get "size" = .nat file.size := rfl

@[simp] theorem fileJson_sha256 : (fileJson file).get "sha256" = .str file.sha256 := rfl

@[simp] theorem fileJson_device : (fileJson file).get "device" = .nat file.device := rfl

@[simp] theorem fileJson_inode : (fileJson file).get "inode" = .nat file.inode := rfl

@[simp] theorem fileJson_mtime : (fileJson file).get "mtime_ns" = .int file.mtimeNs := rfl

@[simp] theorem fileJson_ctime : (fileJson file).get "ctime_ns" = .int file.ctimeNs := rfl

@[simp] theorem spoolJson_path : (spoolJson spool).get "relative_path" = .str spool.relativePath := rfl

@[simp] theorem spoolJson_file : (spoolJson spool).get "file" = fileJson spool.file := rfl

end Fields

/-- The file of a reference. -/
theorem wellFormed_fileJson {spool : SpoolRef} (hmry : (spoolJson spool).wellFormed) :
    (fileJson spool.file).wellFormed := by
  unfold spoolJson at hmry
  simp only [wellFormed_obj, Bool.and_eq_true, all_cons] at hmry
  exact hmry.2.1

/-- A spool reference is read back. -/
theorem parseSpool_spoolJson {spool : SpoolRef} {invocation : String}
    (hval : auditFormat.validSpool spool invocation)
    (hmry : (spoolJson spool).wellFormed) :
    parseSpool (spoolJson spool).parsed invocation = some spool := by
  have hwell := wellFormed_fileJson hmry
  have htimes : wellFormed (.int spool.file.ctimeNs)
      ∧ wellFormed (.int spool.file.mtimeNs) := by
    unfold fileJson at hwell
    simp only [wellFormed_obj, Bool.and_eq_true, all_cons] at hwell
    exact ⟨hwell.2.1, hwell.2.2.2.2.1⟩
  have hfld : ((spoolJson spool).exactFields ["relative_path", "file"]
      && (fileJson spool.file).exactFields snapshotFields) := rfl
  unfold parseSpool
  simp only [get_parsed, spoolJson_file, exactFields_parsed, hfld, if_true,
    str?_parsed, spoolJson_path, fileJson_path, fileJson_name, fileJson_size, fileJson_sha256,
    fileJson_device, fileJson_inode, fileJson_mtime, fileJson_ctime,
    getInt64_parsed_int htimes.1, getInt64_parsed_int htimes.2]
  show (if auditFormat.validSpool spool invocation then some spool else none) = some spool
  rw [if_pos hval]

/-- The terminal of a completed entry is not absent. -/
theorem terminal_not_null (h : auditFormat.validEntry account entry) :
    (if (auditFormat.terminalField entry.terminal).isNull then none
      else some (auditFormat.terminalField entry.terminal).parsed)
      = entry.terminal.map parsed := by
  cases hst : entry.state with
  | pending =>
    obtain ⟨-, -, -, hterm, -⟩ := (validEntry_pending_iff hst).mp h
    rw [hterm]
    rfl
  | completed =>
    obtain ⟨-, -, -, -, -, -, ⟨terminal, hterm, hval⟩, -⟩ :=
      (validEntry_completed_iff hst).mp h
    rw [hterm]
    cases terminal with
    | null =>
      have hnull : validTerminal entry.operation .null = false := rfl
      have hval' : validPersistedTerminal entry.operation .null entry.plan account :=
        hval
      unfold validPersistedTerminal at hval'
      rw [hnull, Bool.and_false, Bool.false_and] at hval'
      cases hval'
    | _ => rfl

/-- The spool of an entry is read back. -/
theorem spool_readBack (hval : auditFormat.validEntry account entry) (hmry : InMemory entry) :
    parseSpoolField ((entry.spool.map spoolJson).getD .null).parsed entry.invocation
      = some entry.spool := by
  have hspool := (fixed_of_valid hval).spool
  have hwell : wellFormed ((entry.spool.map spoolJson).getD .null) := by
    unfold InMemory entryJson at hmry
    simp only [wellFormed_obj, Bool.and_eq_true, all_cons] at hmry
    exact hmry.2.2.2.2.2.2.2.2.2.2.2.1
  cases hcase : entry.spool with
  | none => rfl
  | some spool =>
    rw [hcase] at hspool hwell
    have hread := parseSpool_spoolJson hspool hwell
    have hnull : (spoolJson spool).parsed.isNull = false := by
      rw [isNull_parsed]
      rfl
    show (if (spoolJson spool).parsed.isNull then some none
      else (parseSpool (spoolJson spool).parsed entry.invocation).map some) = some (some spool)
    rw [hnull, hread]
    rfl

/-- **An entry is read back from its text.** -/
theorem parseEntry_entryJson (hval : auditFormat.validEntry account entry) (hmry : InMemory entry) :
    parseEntry account (auditFormat.entryJson entry).parsed = some (readBack entry) := by
  have hfixed := fixed_of_valid hval
  have hres := reserved_lt hval
  have hfld : (auditFormat.entryJson entry).exactFields entryFields := rfl
  have hspool : (auditFormat.entryJson entry).get "spool" = (entry.spool.map spoolJson).getD .null :=
    rfl
  have hterm : (auditFormat.entryJson entry).get "terminal"
      = auditFormat.terminalField entry.terminal := rfl
  have hhd : ¬ (2 ^ 32 ≤ entry.reservedTerminalBytes ∨ ¬ validDigest entry.keyHash
      ∨ ¬ validDigest entry.fingerprint ∨ ¬ entry.operation.idempotent) := by
    simp only [hfixed.key, hfixed.fingerprint, hfixed.operation, not_true_eq_false, or_false]
    omega
  unfold parseEntry
  simp only [exactFields_parsed, get_parsed, hfld, if_true, str?_parsed]
  -- The fields of the text, in the order they are read.
  show (((Option.some entry.operation.name).bind parseOperation).bind fun operation =>
    ((Option.some (stateName entry.state)).bind parseState).bind fun state => _) = _
  rw [Option.bind_some, parseOperation_name, Option.bind_some, Option.bind_some,
    parseState_stateName, Option.bind_some]
  show (if 2 ^ 32 ≤ entry.reservedTerminalBytes ∨ ¬ validDigest entry.keyHash
      ∨ ¬ validDigest entry.fingerprint ∨ ¬ entry.operation.idempotent then none else _) = _
  rw [if_neg hhd, hspool, spool_readBack hval hmry, hterm, isNull_parsed, terminal_not_null hval]
  show (if auditFormat.validEntry account (readBack entry) then some (readBack entry) else none) = _
  rw [if_pos (validEntry_readBack hval)]

/-! ## §4. The store. -/

theorem entryJson_readBack (entry : JsonEntry) :
    (auditFormat.entryJson (readBack entry)).parsed = (auditFormat.entryJson entry).parsed := by
  have hterm := terminalField_readBack entry
  unfold entryJson
  rw [parsed_obj, parsed_obj, hterm]
  show obj [_, _, _, ("forward_progress", parsed (parsed entry.forwardProgress)), _, _,
    _, ("plan", parsed (parsed entry.plan)), _, _, _, _,
    ("temporary_message_ids", parsed (parsed entry.temporaryIds)),
    ("terminal", parsed (parsed (auditFormat.terminalField entry.terminal)))] = _
  simp only [parsed_parsed]
  rfl

theorem document_readBack (entries : List JsonEntry) :
    (auditFormat.document (entries.map readBack)).parsed = (auditFormat.document entries).parsed := by
  unfold document
  rw [parsed_obj, parsed_obj]
  simp only [map_cons, map_nil, parsed_arr, map_map]
  congr 4
  exact map_congr_left fun entry _ => entryJson_readBack entry

/-- A store that is read back is accepted, and has the same text. -/
theorem canonicalize_readBack (h : auditFormat.canonicalize account entries = some text) :
    auditFormat.canonicalize account (entries.map readBack) = some text := by
  obtain ⟨hacc, rfl⟩ := canonicalize_iff.mp h
  have hdoc := document_readBack entries
  have htext : (auditFormat.document (entries.map readBack)).text
      = (auditFormat.document entries).text := by
    rw [← text_parsed, hdoc, text_parsed]
  refine canonicalize_iff.mpr ⟨⟨?_, ?_, ?_, ?_, ?_, ?_⟩, htext.symm⟩
  · rw [length_map]
    exact hacc.count
  · intro entry hent
    obtain ⟨original, horig, rfl⟩ := mem_map.mp hent
    exact validEntry_readBack (hacc.valid original horig)
  · rw [pairwise_map]
    exact hacc.ordered
  · rw [map_map]
    exact hacc.distinct
  · rw [← supported_parsed, hdoc, supported_parsed]
    exact hacc.supported
  · rw [← size_parsed, hdoc, size_parsed, map_map]
    have hrem : entries.map (auditFormat.remaining ∘ readBack)
        = entries.map auditFormat.remaining :=
      map_congr_left fun entry _ => by simp only [Function.comp, remaining, mutableCharge_readBack]; rfl
    rw [hrem]
    exact hacc.fits

theorem mapM_eq_some {α β γ : Type} {f : β → Option γ} {g : α → β} {k : α → γ} {l : List α}
    (h : ∀ a ∈ l, f (g a) = some (k a)) : (l.map g).mapM f = some (l.map k) := by
  induction l with
  | nil => rfl
  | cons a l ih =>
    rw [map_cons, mapM_cons, h a mem_cons_self, ih fun b hb => h b (mem_cons_of_mem _ hb)]
    rfl

theorem encode_size_ne_zero : (encode (c :: text)).size ≠ 0 := by
  intro hzero
  have hemp : encode (c :: text) = encode [] := ByteArray.size_eq_zero_iff.mp hzero
  cases encode_inj hemp

theorem wellFormed_document (h : ∀ entry ∈ entries, InMemory entry) :
    (auditFormat.document entries).wellFormed := by
  have hkeys : decide (([("entries", arr (entries.map auditFormat.entryJson)),
      ("schema_version", nat 1)].map (·.1)).Pairwise (· < ·)) := by
    show decide (["entries", "schema_version"].Pairwise (· < ·)) = true
    decide
  unfold document
  rw [wellFormed_obj, hkeys, Bool.true_and]
  simp only [all_cons, all_nil, Bool.and_true, wellFormed_arr, all_map,
    Bool.and_eq_true, all_eq_true, Function.comp_apply]
  exact ⟨h, rfl⟩

/-- **The bytes of a store are read back.** -/
theorem decode_canonicalize (parser : Json.Parser) (hmry : ∀ entry ∈ entries, InMemory entry)
    (h : auditFormat.canonicalize account entries = some text) :
    decodeSnapshot parser (encode text) account = some (entries.map readBack, encode text) := by
  have hback := canonicalize_readBack h
  obtain ⟨hacc, rfl⟩ := canonicalize_iff.mp h
  have hwell := wellFormed_document hmry
  have hparse := parser.reads _ hwell hacc.supported
  have hsize : (encode (auditFormat.document entries).text).size ≠ 0 := encode_size_ne_zero
  have huniq : ((events 0 (auditFormat.document entries)).foldl Json.KeyState.step {}).duplicate
      = false := (duplicates_events _ hwell 0 {}).duplicate
  have hents : ((auditFormat.document entries).parsed.get "entries").items
      = entries.map fun entry => (auditFormat.entryJson entry).parsed := by
    rw [get_parsed, items_parsed]
    show (entries.map auditFormat.entryJson).map parsed = _
    rw [map_map]
    rfl
  have hhd : ((auditFormat.document entries).parsed.exactFields ["schema_version", "entries"]
      && ((auditFormat.document entries).parsed.get "schema_version").isUnsigned
      && (auditFormat.document entries).parsed.get "schema_version" == .int 1
      && ((auditFormat.document entries).parsed.get "entries").isArr
      && decide (((auditFormat.document entries).parsed.get "entries").items.length
        ≤ kStoreMaximumEntries)) := by
    rw [hents, length_map, decide_eq_true hacc.count]
    simp only [exactFields_parsed, get_parsed, isArr_parsed]
    rfl
  have hpar : (entries.map fun entry => (auditFormat.entryJson entry).parsed).mapM
      (parseEntry account) = some (entries.map readBack) :=
    mapM_eq_some fun entry hent =>
      parseEntry_entryJson (hacc.valid entry hent) (hmry entry hent)
  unfold decodeSnapshot
  rw [if_neg hsize, hparse]
  simp only [Option.bind_eq_bind, Option.bind_some, huniq, Bool.false_eq_true, if_false]
  rw [if_pos hhd, hents, hpar, Option.bind_some, hback, Option.bind_some, if_pos rfl]

/-- **An accepted store has one spelling.** -/
theorem canonicalize_decode (parser : Json.Parser) {bytes out : ByteArray}
    (h : decodeSnapshot parser bytes account = some (entries, out)) :
    ∃ text, auditFormat.canonicalize account entries = some text ∧ encode text = bytes
      ∧ out = bytes := by
  unfold decodeSnapshot at h
  split at h
  · cases h
  obtain ⟨⟨events, document⟩, -, h⟩ := Option.bind_eq_some_iff.mp h
  dsimp only at h
  split at h
  · cases h
  split at h
  · obtain ⟨parsed, -, h⟩ := Option.bind_eq_some_iff.mp h
    obtain ⟨text, htext, h⟩ := Option.bind_eq_some_iff.mp h
    split at h
    · rename_i hbytes
      obtain ⟨rfl, rfl⟩ := Prod.mk.inj (Option.some.inj h)
      exact ⟨text, htext, hbytes, rfl⟩
    · cases h
  · cases h

/-! ## §5. The codec. -/

/-- `operator==` of entries. -/
def sameEntry (entry other : JsonEntry) : Bool :=
  entry.keyHash == other.keyHash && entry.fingerprint == other.fingerprint
    && entry.operation == other.operation && entry.state == other.state
    && entry.invocation == other.invocation && entry.auditGeneration == other.auditGeneration
    && entry.createdAt == other.createdAt && entry.expiresAt == other.expiresAt
    && entry.reservedTerminalBytes == other.reservedTerminalBytes && entry.plan == other.plan
    && entry.temporaryIds == other.temporaryIds && entry.forwardProgress == other.forwardProgress
    && entry.spool == other.spool
    && match entry.terminal, other.terminal with
      | none, none => true
      | some terminal, some terminal' => terminal == terminal'
      | _, _ => false

theorem sameEntry_readBack (entry : JsonEntry) : sameEntry entry (readBack entry) := by
  unfold sameEntry readBack
  cases hterm : entry.terminal with
  | none => simp [beq_refl]
  | some terminal => simp [beq_refl]

/-- **The codec of the store.**  Whatever parser of canonical texts is used, the
bytes of accepted entries are read back to the same entries and the same bytes,
and bytes that are read are the ones their entries are written as. -/
theorem snapshot_codec (parser : Json.Parser) (account : String) :
    (∀ (entries : List JsonEntry) (text : List Char), (∀ entry ∈ entries, InMemory entry) →
      auditFormat.canonicalize account entries = some text →
      ∃ entries', decodeSnapshot parser (encode text) account = some (entries', encode text)
        ∧ List.Forall₂ (fun entry entry' => sameEntry entry entry' = true) entries entries')
      ∧ ∀ (bytes out : ByteArray) (entries : List JsonEntry),
        decodeSnapshot parser bytes account = some (entries, out) →
        ∃ text, auditFormat.canonicalize account entries = some text ∧ encode text = bytes
          ∧ out = bytes := by
  refine ⟨fun entries text hmry h => ?_, fun bytes out entries h => canonicalize_decode parser h⟩
  refine ⟨entries.map readBack, decode_canonicalize parser hmry h, ?_⟩
  rw [forall₂_map_right_iff]
  exact forall₂_same.mpr fun entry _ => sameEntry_readBack entry

/-- The pending leave makes a store. -/
theorem canonicalize_leaveEntry :
    ∃ text, auditFormat.canonicalize "main" [leaveEntry] = some text :=
  Option.isSome_iff_exists.mp (by decide +kernel)

theorem inMemory_leaveEntry : InMemory leaveEntry := by
  show (auditFormat.entryJson leaveEntry).wellFormed = true
  decide +kernel

/-- So do the two leaves. -/
theorem canonicalize_otherEntry :
    ∃ text, auditFormat.canonicalize "main" [leaveEntry, otherEntry] = some text :=
  Option.isSome_iff_exists.mp (by decide +kernel)

theorem inMemory_otherEntry : ∀ entry ∈ [leaveEntry, otherEntry], InMemory entry := by
  show ∀ entry ∈ [leaveEntry, otherEntry], (auditFormat.entryJson entry).wellFormed = true
  decide +kernel

/-- The codec at a store of two entries. -/
theorem snapshot_codec_leave :
    ∃ text, auditFormat.canonicalize "main" [leaveEntry, otherEntry] = some text
      ∧ ∃ entries', decodeSnapshot .reference (encode text) "main" = some (entries', encode text)
        ∧ List.Forall₂ (fun entry entry' => sameEntry entry entry' = true)
          [leaveEntry, otherEntry] entries' := by
  obtain ⟨text, htext⟩ := canonicalize_otherEntry
  exact ⟨text, htext, (snapshot_codec .reference "main").1 _ text inMemory_otherEntry htext⟩

variable {P I F T : Type}

namespace Format

variable (fmt : Format P I F T) (account : String)

/-! ## §6. The updates. -/

/-- What the store makes of a pending entry, its key apart. -/
inductive Update (entry : StoreEntry P I F T) : StoreEntry P I F T → Prop where
  | ids (ids : I) (valid : fmt.validIds entry.operation ids entry.plan = true) :
      Update entry { entry with temporaryIds := ids }
  | progress (items : F) (valid : fmt.validProgress entry.operation items entry.plan = true) :
      Update entry { entry with forwardProgress := items }
  | complete (terminal : T)
      (valid : fmt.validTerminal entry.operation terminal entry.plan account = true) :
      Update entry (fmt.completion entry terminal)

/-- What an update can change in the length of an entry. -/
def payloadSize (entry : StoreEntry P I F T) : Nat :=
  quoteSize (stateName entry.state) + size (.nat entry.reservedTerminalBytes)
    + (fmt.idsJson entry.temporaryIds).size + (fmt.progressJson entry.forwardProgress).size
    + (fmt.terminalField entry.terminal).size

variable {fmt account} {entry entry' : StoreEntry P I F T}

/-- The other fields keep their length. -/
theorem size_entryJson_update (h : fmt.Update account entry entry') :
    (fmt.entryJson entry').size + fmt.payloadSize entry
      = (fmt.entryJson entry).size + fmt.payloadSize entry' := by
  unfold entryJson payloadSize size
  rw [sizeBy_obj, sizeBy_obj]
  -- The fields in the order of the text; those of the update differ.
  simp only [JsonSize.pieces, map_cons, map_nil, sum_cons, sum_nil, length_cons, length_nil, sizeBy]
  cases h with
  | ids ids valid | progress items valid =>
    dsimp only
    omega
  | complete terminal valid =>
    dsimp only [completion]
    omega

/-! ## §7. One entry. -/

section Update

variable {charge : Nat} (hval : fmt.validEntry account entry)
  (hpend : entry.state = .pending) (hupd : fmt.Update account entry entry')
  (hchg : fmt.mutableCharge entry' = some charge)
  (hle : charge ≤ terminalReservation entry.operation)
include hval hpend hupd hchg hle

/-- An update within the reservation leaves a valid entry. -/
theorem validEntry_update : fmt.validEntry account entry' := by
  obtain ⟨hfixed, hids, hprog, hterm, hres, -⟩ :=
    (validEntry_pending_iff hpend).mp hval
  have hfixed' : fmt.Fixed account entry' := by
    cases hupd <;> exact { hfixed with }
  cases hupd with
  | ids ids valid =>
    rw [validEntry_pending_iff (by exact hpend)]
    exact ⟨hfixed', valid, hprog, hterm, hres, charge, hle, hchg⟩
  | progress items valid =>
    rw [validEntry_pending_iff (by exact hpend)]
    exact ⟨hfixed', hids, valid, hterm, hres, charge, hle, hchg⟩
  | complete terminal valid =>
    rw [validEntry_completed_iff rfl]
    refine ⟨hfixed', fmt.noIds_valid _ _, fmt.noProgress_valid _ _, rfl, ?_, ?_,
      ⟨terminal, rfl, valid⟩, charge, hle, hchg⟩
    · show (fmt.idsJson fmt.noIds).isEmpty = true
      rw [fmt.noIds_json]
      rfl
    · show (fmt.progressJson fmt.noProgress).isEmpty = true
      rw [fmt.noProgress_json]
      rfl

/-- **What an update takes, the entry no longer reserves.** -/
theorem weight_update : (fmt.entryJson entry').size + fmt.remaining entry'
      ≤ (fmt.entryJson entry).size + fmt.remaining entry := by
  have hsize := size_entryJson_update hupd
  obtain ⟨-, -, -, -, hres, old, hold, hchgd⟩ := (validEntry_pending_iff hpend).mp hval
  have hent := (mutableCharge_eq_some.mp hchgd).2.2.2
  have hent' := (mutableCharge_eq_some.mp hchg).2.2.2
  have hrem : fmt.remaining entry = terminalReservation entry.operation - old := by
    unfold remaining
    rw [hpend, hchgd, hres]
    rfl
  unfold payloadSize at hsize
  -- A pending entry keeps its state and its reservation.
  have hkeep (hst : entry'.state = .pending)
      (hsame : entry'.reservedTerminalBytes = entry.reservedTerminalBytes) :
      (fmt.entryJson entry').size + fmt.remaining entry'
        ≤ (fmt.entryJson entry).size + fmt.remaining entry := by
    have hrem' : fmt.remaining entry' = terminalReservation entry.operation - charge := by
      unfold remaining
      rw [hst, hchg, hsame, hres]
      rfl
    rw [hst, hsame, hpend] at hsize
    omega
  cases hupd with
  | ids ids valid | progress items valid => exact hkeep hpend rfl
  | complete terminal valid =>
    have hnone : fmt.remaining (fmt.completion entry terminal) = 0 := rfl
    have hpendingName : quoteSize (stateName .pending) = 9 := rfl
    have hcompletedName : quoteSize (stateName .completed) = 11 := rfl
    have hzero : size (.nat 0) = 1 := rfl
    -- The reservation itself is at least three digits long.
    have hdig : 3 ≤ size (.nat (terminalReservation entry.operation)) := by
      cases entry.operation <;> decide +kernel
    rw [hpend, hres, hpendingName] at hsize
    have hst : (fmt.completion entry terminal).state = .completed := rfl
    have hfree : (fmt.completion entry terminal).reservedTerminalBytes = 0 := rfl
    rw [hst, hfree, hcompletedName, hzero] at hsize
    omega

end Update

/-! ## §8. The store. -/

theorem size_document_set {before after : List (StoreEntry P I F T)} :
    (fmt.document (before ++ entry' :: after)).size + (fmt.entryJson entry).size
      = (fmt.document (before ++ entry :: after)).size + (fmt.entryJson entry').size := by
  rw [size_document, size_document]
  simp only [map_append, map_cons, sum_append, sum_cons, length_append, length_cons]
  omega

/-- An update keeps the key and the invocation of the entry. -/
theorem Update.key (h : fmt.Update account entry entry') : entry'.keyHash = entry.keyHash := by
  cases h <;> rfl

theorem Update.invocation (h : fmt.Update account entry entry') :
    entry'.invocation = entry.invocation := by
  cases h <;> rfl

/-- The new payload is what must have a canonical text. -/
theorem supported_update (hupd : fmt.Update account entry entry')
    (h : (fmt.entryJson entry).supported)
    (hchg : fmt.mutableCharge entry' = some charge) :
    (fmt.entryJson entry').supported := by
  obtain ⟨hids, hprog, hterm, -⟩ := mutableCharge_eq_some.mp hchg
  unfold entryJson at h ⊢
  rw [supported_obj] at h ⊢
  simp only [all_cons, all_nil, Bool.and_eq_true] at h ⊢
  have hplan : entry'.plan = entry.plan ∧ entry'.spool = entry.spool := by
    cases hupd <;> exact ⟨rfl, rfl⟩
  rw [hplan.1, hplan.2]
  exact ⟨rfl, rfl, rfl, hprog, rfl, rfl, rfl, h.2.2.2.2.2.2.2.1, rfl, rfl,
    h.2.2.2.2.2.2.2.2.2.2.1, rfl, hids, hterm, trivial⟩

/-- The store with the updated entry is accepted, and bytes and reservations
together do not grow. -/
theorem accepted_update {before after : List (StoreEntry P I F T)}
    (h : fmt.Accepted account (before ++ entry :: after)) (hpend : entry.state = .pending)
    (hupd : fmt.Update account entry entry') {charge : Nat}
    (hchg : fmt.mutableCharge entry' = some charge)
    (hle : charge ≤ terminalReservation entry.operation) :
    fmt.Accepted account (before ++ entry' :: after)
      ∧ (fmt.document (before ++ entry' :: after)).size
          + ((before ++ entry' :: after).map fmt.remaining).sum
        ≤ (fmt.document (before ++ entry :: after)).size
          + ((before ++ entry :: after).map fmt.remaining).sum := by
  have hval : fmt.validEntry account entry :=
    h.valid entry (mem_append_right _ mem_cons_self)
  have hweight := weight_update hval hpend hupd hchg hle
  have hdoc : (fmt.document (before ++ entry' :: after)).size + (fmt.entryJson entry).size
      = (fmt.document (before ++ entry :: after)).size + (fmt.entryJson entry').size :=
    size_document_set
  have htotal : (fmt.document (before ++ entry' :: after)).size
        + ((before ++ entry' :: after).map fmt.remaining).sum
      ≤ (fmt.document (before ++ entry :: after)).size
        + ((before ++ entry :: after).map fmt.remaining).sum := by
    simp only [map_append, map_cons, sum_append, sum_cons]
    omega
  refine ⟨⟨?_, ?_, ?_, ?_, ?_, le_trans htotal h.fits⟩, htotal⟩
  · simpa using h.count
  · obtain ⟨hbef, hrest⟩ := forall_mem_append.mp h.valid
    refine forall_mem_append.mpr ⟨hbef, forall_mem_cons.mpr ⟨?_, ?_⟩⟩
    · exact validEntry_update hval hpend hupd hchg hle
    · exact (forall_mem_cons.mp hrest).2
  · have hord := h.ordered
    simp only [pairwise_append, pairwise_cons, mem_cons, forall_eq_or_imp, hupd.key] at hord ⊢
    exact hord
  · have hdist := h.distinct
    simpa only [map_append, map_cons, hupd.invocation] using hdist
  · have hsupp := supported_document.mp h.supported
    rw [supported_document]
    simp only [mem_append, mem_cons] at hsupp ⊢
    rintro other (hbef | rfl | hafter)
    · exact hsupp other (.inl hbef)
    · exact supported_update hupd (hsupp entry (.inr (.inl rfl))) hchg
    · exact hsupp other (.inr (.inr hafter))

/-- **A pending entry always finds its room.** -/
theorem update_fits {entries : List (StoreEntry P I F T)} {text : List Char} {i : Nat}
    (hacc : fmt.canonicalize account entries = some text) (hent : entries[i]? = some entry)
    (hpend : entry.state = .pending) (hupd : fmt.Update account entry entry') {charge : Nat}
    (hchg : fmt.mutableCharge entry' = some charge)
    (hle : charge ≤ terminalReservation entry.operation) :
    ∃ text', fmt.canonicalize account (entries.set i entry') = some text'
      ∧ bytes text' + ((entries.set i entry').map fmt.remaining).sum
        ≤ bytes text + (entries.map fmt.remaining).sum := by
  obtain ⟨hi, hget⟩ := List.getElem?_eq_some_iff.mp hent
  have hsplit : entries = entries.take i ++ entry :: entries.drop (i + 1) := by
    rw [← hget, getElem_cons_drop, take_append_drop]
  obtain ⟨hstore, rfl⟩ := canonicalize_iff.mp hacc
  rw [hsplit] at hstore
  obtain ⟨hstore', htotal⟩ := accepted_update hstore hpend hupd hchg hle
  rw [set_eq_take_append_cons_drop, if_pos hi]
  refine ⟨_, canonicalize_iff.mpr ⟨hstore', rfl⟩, ?_⟩
  rw [bytes_text, bytes_text]
  rw [← hsplit] at htotal
  exact htotal

/-- The completion of the first of two leaves. -/
theorem update_fits_leave :
    ∃ text, auditFormat.canonicalize "main" [leaveEntry, otherEntry] = some text
      ∧ ∃ text', auditFormat.canonicalize "main"
            [auditFormat.completion leaveEntry leaveTerminal, otherEntry] = some text'
        ∧ bytes text' + ([auditFormat.completion leaveEntry leaveTerminal, otherEntry].map
            auditFormat.remaining).sum
          ≤ bytes text + ([leaveEntry, otherEntry].map auditFormat.remaining).sum := by
  obtain ⟨text, htext⟩ := canonicalize_otherEntry
  have hchg : auditFormat.mutableCharge (auditFormat.completion leaveEntry leaveTerminal)
      = some 50 := by
    decide +kernel
  have hent : [leaveEntry, otherEntry][0]? = some leaveEntry := rfl
  have hpend : leaveEntry.state = .pending := rfl
  have hle : 50 ≤ terminalReservation leaveEntry.operation := by decide
  have hval : auditFormat.validTerminal leaveEntry.operation leaveTerminal leaveEntry.plan "main"
      = true := by
    decide +kernel
  have hupd : auditFormat.Update "main" leaveEntry
      (auditFormat.completion leaveEntry leaveTerminal) :=
    .complete leaveTerminal hval
  have hfits := update_fits htext hent hpend hupd hchg hle
  exact ⟨text, htext, hfits⟩

end Format

end TgCli.Store
