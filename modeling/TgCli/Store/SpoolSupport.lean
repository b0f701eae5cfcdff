/-
  TgCli.Store.SpoolSupport — WHICH OPERATIONS MAY HOLD A SPOOL

  The audit log accepts a `spool_ready` checkpoint of a saved attachment and of
  a chat photo.  `apply_spool_transition` of the store takes the reference of a
  saved attachment only.  The write kernel appends the checkpoint first and
  then updates the store, so a keyed chat photo is stopped between the two.

  Main results:
    * `validSpool_of_accepted` — the reference of an accepted checkpoint is
      valid for the store;
    * `update_spool_iff` — the update succeeds exactly for a saved attachment.
-/
import TgCli.Audit.OpenGroups
import TgCli.Store.Operations

namespace TgCli.Store

open Lib Audit Prog List Json Format
open Payload (validSafeBasename)

/-! ## §1. References. -/

theorem slash_not_mem_invocation (h : validInvocationId invocation) : '/' ∉ invocation.toList := by
  intro hmem
  simp only [validInvocationId, Bool.and_eq_true, all_eq_true] at h
  exact absurd (h.2 '/' hmem) (by decide)

/-- The path of an accepted checkpoint has the three parts the store reads. -/
theorem validSpoolReference_relative {spool : SpoolRef} (hinvo : validInvocationId invocation)
    (hname : validSafeBasename (.str spool.file.name))
    (hpath : spool.relativePath = relativeSpoolPath invocation spool.file.name) :
    validSpoolReference spool invocation := by
  have hslash : '/' ∉ spool.file.name.toList := by
    intro hmem
    simp only [validSafeBasename, str?, Option.any_some, Bool.and_eq_true] at hname
    have hfree := hname.2.1.2
    rw [contains_iff_mem.mpr hmem] at hfree
    cases hfree
  have htext : spool.relativePath.toList
      = "spool".toList ++ '/' :: (invocation.toList ++ '/' :: spool.file.name.toList) := by
    rw [hpath, relativeSpoolPath]
    simp
  unfold validSpoolReference
  rw [htext, splitOn_append_cons_self_of_not_mem (by decide),
    splitOn_append_cons_self_of_not_mem (slash_not_mem_invocation hinvo),
    splitOn_eq_singleton hslash]
  simp [hinvo, hname]

/-- The file of a valid plan is valid as the reference holds it. -/
theorem validFileSnapshot_of_beq (hval : Payload.validFileSnapshot v) (hsame : (v == fileJson file))
    (hmry : (fileJson file).wellFormed) :
    Payload.validFileSnapshot (fileJson file) := by
  have hobj : v.isObj := by
    cases v with
    | obj members => rfl
    | _ => cases hval
  have htimes : wellFormed (.int file.ctimeNs)
      ∧ wellFormed (.int file.mtimeNs) := by
    unfold fileJson at hmry
    simp only [wellFormed_obj, Bool.and_eq_true, all_cons] at hmry
    exact ⟨hmry.2.1, hmry.2.2.2.2.1⟩
  have htime {n : Int} (h : wellFormed (.int n)) :
      Payload.validInt64 (.int n) := by
    have hrange := of_decide_eq_true h
    show ((some n).filter fun n => decide (n < 2 ^ 63)).isSome
    rw [Option.filter_some_pos (by simpa using hrange.2)]
    rfl
  have hname : v.get "name" = .str file.name :=
    beq_str.mp (get_beq hsame hobj "name")
  have hpath : v.get "path" = .str file.path :=
    beq_str.mp (get_beq hsame hobj "path")
  have hsha : v.get "sha256" = .str file.sha256 :=
    beq_str.mp (get_beq hsame hobj "sha256")
  unfold Payload.validFileSnapshot at hval ⊢
  simp only [hname, hpath, hsha, Bool.and_eq_true] at hval
  obtain ⟨⟨⟨⟨⟨⟨⟨⟨-, hbase⟩, habsolute⟩, -⟩, hhash⟩, -⟩, -⟩, -⟩, -⟩ := hval
  simp only [fileJson_name, fileJson_path, fileJson_size, fileJson_sha256, fileJson_device,
    fileJson_inode, fileJson_mtime, fileJson_ctime, Bool.and_eq_true]
  exact ⟨⟨⟨⟨⟨⟨⟨⟨rfl, hbase⟩, habsolute⟩, rfl⟩, hhash⟩, rfl⟩, rfl⟩, htime htimes.2⟩, htime htimes.1⟩

/-! ## §2. Matching entries. -/

/-- The pending entry of an open group: what the kernel inserted for its intent,
with no other reference than this one. -/
structure Matching (group : OpenGroup) (spool : SpoolRef) (entry : JsonEntry) : Prop where
  key : group.intent.keyHash = some entry.keyHash
  fingerprint : entry.fingerprint = group.intent.fingerprint
  invocation : entry.invocation = group.intent.invocation
  operation : entry.operation = group.intent.operation
  generation : entry.auditGeneration = group.generation
  pending : entry.state = .pending
  /-- the file of the plan, as a document and as the group holds it -/
  file : ∀ file, group.intent.plan.file = some file →
    entry.plan.contains "file" = true ∧ (entry.plan.get "file" == fileJson file) = true
  spool : ∀ held ∈ entry.spool, held = spool

/-- What an accepted checkpoint says of its reference. -/
theorem spoolReady_accepted {checkpoint : Checkpoint} (hdata : checkpoint.data = .spoolReady spool)
    (hok : consumeCheckpoint group checkpoint = .ok group') :
    group.intent.plan.file = some spool.file
      ∧ spool.relativePath = relativeSpoolPath group.intent.invocation spool.file.name := by
  obtain ⟨hval, hinvo, -, hfits, -⟩ := consumeCheckpoint_ok hok
  constructor
  · unfold checkpointFits at hfits
    rw [hdata] at hfits
    dsimp only at hfits
    split at hfits
    · cases hfits
    · rename_i hfile
      exact (not_not.mp hfile).symm
  · unfold validateCheckpoint at hval
    rw [hdata, hinvo] at hval
    split at hval
    · cases hval
    split at hval
    · cases hval
    dsimp only at hval
    split at hval
    · cases hval
    · rename_i hpath
      exact not_not.mp hpath

/-- The plan of a saved attachment has a valid file. -/
theorem validFileSnapshot_of_attach (h : Payload.validPlan .savedAttach plan account) :
    plan.isObj ∧ Payload.validFileSnapshot (plan.get "file") := by
  unfold Payload.validPlan at h
  simp only [Bool.and_eq_true] at h
  refine ⟨?_, h.2.2⟩
  have hhead := h.1
  unfold Payload.validPlanHead at hhead
  simp only [Bool.and_eq_true] at hhead
  exact hhead.1.1.1.1.1.1

section Update

variable {account : String} {group group' : OpenGroup} {checkpoint : Checkpoint} {spool : SpoolRef}
  {entry : JsonEntry}

section Attach

variable (hatt : entry.operation = .savedAttach) (hdata : checkpoint.data = .spoolReady spool)
  (hmry : (spoolJson spool).wellFormed)
  (hok : consumeCheckpoint group checkpoint = .ok group') (hmatch : Matching group spool entry)
  (hval : auditFormat.validEntry account entry)
include hatt hdata hmry hok hmatch hval

/-- **The reference of an accepted checkpoint is valid for the store.** -/
theorem validSpool_of_accepted : auditFormat.validSpool spool entry.invocation := by
  obtain ⟨hfile, hpath⟩ := spoolReady_accepted hdata hok
  have hfixed := fixed_of_valid hval
  have hplan : Payload.validPlan .savedAttach entry.plan account := hatt ▸ hfixed.plan
  have hsnap := validFileSnapshot_of_beq (validFileSnapshot_of_attach hplan).2
    (hmatch.file _ hfile).2 (wellFormed_fileJson hmry)
  have hname : validSafeBasename (.str spool.file.name) := by
    unfold Payload.validFileSnapshot at hsnap
    simp only [Bool.and_eq_true, fileJson_name] at hsnap
    exact hsnap.1.1.1.1.1.1.1.2
  rw [← hmatch.invocation] at hpath
  show (validSpoolReference spool entry.invocation
    && Payload.validFileSnapshot (fileJson spool.file)) = true
  rw [validSpoolReference_relative hfixed.invocation hname hpath, hsnap]
  rfl

/-- The transition of a saved attachment. -/
theorem applySpoolTransition_attach : auditFormat.applySpoolTransition account spool entry
      = .ok { entry with spool := some spool } := by
  have hspool := validSpool_of_accepted hatt hdata hmry hok hmatch hval
  obtain ⟨hfile, -⟩ := spoolReady_accepted hdata hok
  obtain ⟨hfixed, hids, hprog, hterm, hres, charge, hle, hchg⟩ :=
    (validEntry_pending_iff hmatch.pending).mp hval
  have hplan : Payload.validPlan .savedAttach entry.plan account := hatt ▸ hfixed.plan
  have hheld : entry.spool.all (· == spool) := by
    cases hcase : entry.spool with
    | none => rfl
    | some held => simpa using hmatch.spool held hcase
  have hval' : auditFormat.validEntry account { entry with spool := some spool } := by
    rw [validEntry_pending_iff (by exact hmatch.pending)]
    exact ⟨{ hfixed with spool := hspool }, hids, hprog, hterm, hres, charge, hle,
      hchg⟩
  unfold applySpoolTransition
  rw [if_pos ⟨hmatch.pending, hatt, hspool, (validFileSnapshot_of_attach hplan).1,
    (hmatch.file _ hfile).1, (hmatch.file _ hfile).2, hheld⟩, if_pos hval']

end Attach

/-- Every other operation is refused. -/
theorem applySpoolTransition_other (hother : entry.operation ≠ .savedAttach) :
    auditFormat.applySpoolTransition account spool entry = .error "invalid spool transition" := by
  exact if_neg fun h => hother h.2.1

end Update

/-! ## §3. The update. -/

section Run

variable {parser : Json.Parser} {account : String} {s : Files} {entries : List JsonEntry}
  {entry entry' : JsonEntry} {spool : SpoolRef}

/-- A refused transition ends the update. -/
theorem run_updateSpool_refused (hsto : Stored account s.final entries) (htemp : s.temp = none)
    (hent : entry ∈ entries)
    (href : auditFormat.applySpoolTransition account spool entry = .error detail) :
    ((updateSpool parser account entry.keyHash entry.invocation spool).run FileOp.answer s).1.status
      = .failed := by
  obtain ⟨text, -, hsnap⟩ := hsto.snapshot parser
  have hfound := findEntry_of_mem hsto.accepted.ordered hent
  unfold updateSpool preflightSpoolUpdate
  rw [bind_assoc, run_bind, run_inspectImage, image_of_snapshot hsnap, htemp]
  dsimp only
  rw [if_neg (by simp), hfound]
  dsimp only
  rw [if_neg (not_not.mpr rfl), href]
  rfl

/-- A transition whose snapshot fits is written. -/
theorem run_updateSpool_written (hsto : Stored account s.final entries) (htemp : s.temp = none)
    (hent : entry ∈ entries)
    (htrans : auditFormat.applySpoolTransition account spool entry = .ok entry')
    (hquota : auditFormat.canonicalize account
      (entries.set (lowerBound entries entry.keyHash) entry') = some desired) :
    ((updateSpool parser account entry.keyHash entry.invocation spool).run FileOp.answer s).1.status
        = .applied
      ∨ ((updateSpool parser account entry.keyHash entry.invocation spool).run
          FileOp.answer s).1.status = .unchanged := by
  obtain ⟨text, -, hsnap⟩ := hsto.snapshot parser
  have hfound := findEntry_of_mem hsto.accepted.ordered hent
  have hmut (bytes : ByteArray) :
      mutation entry.keyHash entry.invocation (auditFormat.applySpoolTransition account spool) false
          ⟨entries, bytes⟩
        = if sameEntry entry' entry = true then
            .answer { status := .unchanged, snapshot := ⟨entries, bytes⟩ }
          else .rewrite (entries.set (lowerBound entries entry.keyHash) entry')
            { status := .applied } := by
    unfold mutation
    rw [hfound]
    dsimp only
    rw [if_neg (not_not.mpr rfl), htrans]
  unfold updateSpool preflightSpoolUpdate
  rw [bind_assoc, run_bind, run_inspectImage, image_of_snapshot hsnap, htemp]
  dsimp only
  rw [if_neg (by simp), hfound]
  dsimp only
  rw [if_neg (not_not.mpr rfl), htrans]
  dsimp only
  rw [hquota]
  show ((mutateOwnedEntry parser account entry.keyHash entry.invocation
      (auditFormat.applySpoolTransition account spool) false).run FileOp.answer s).1.status = _
    ∨ ((mutateOwnedEntry parser account entry.keyHash entry.invocation
      (auditFormat.applySpoolTransition account spool) false).run FileOp.answer s).1.status = _
  unfold mutateOwnedEntry transact
  rw [run_bind, run_inspectImage, image_of_snapshot hsnap, htemp]
  dsimp only
  rw [if_neg (by simp), hmut]
  by_cases hsame : sameEntry entry' entry = true
  · rw [if_pos hsame]
    exact .inr rfl
  rw [if_neg hsame]
  dsimp only
  unfold rewriteSnapshot
  rw [hquota]
  rw [run_bind, run_bind, run_inspectImage, image_of_snapshot hsnap, htemp]
  dsimp only
  rw [if_neg (by simp), run_replaceFile _ htemp]
  exact .inl rfl

/-- **Which references the store takes**: of an accepted checkpoint, exactly
those of a saved attachment. -/
theorem update_spool_iff (parser : Json.Parser) (account : String) {group group' : OpenGroup}
    {checkpoint : Checkpoint} (hdata : checkpoint.data = .spoolReady spool)
    (hmry : (spoolJson spool).wellFormed = true)
    (hok : consumeCheckpoint group checkpoint = .ok group')
    (hsto : Stored account s.final entries) (htemp : s.temp = none) (hent : entry ∈ entries)
    (hmatch : Matching group spool entry)
    (hquota : (auditFormat.canonicalize account
      (entries.set (lowerBound entries entry.keyHash) { entry with spool := some spool })).isSome
        = true) :
    (((updateSpool parser account entry.keyHash entry.invocation spool).run FileOp.answer s).1.status
          = .applied
        ∨ ((updateSpool parser account entry.keyHash entry.invocation spool).run
            FileOp.answer s).1.status = .unchanged)
      ↔ group.intent.operation = .savedAttach := by
  rw [← hmatch.operation]
  constructor
  · intro hstat
    by_contra hother
    have hfail : ((updateSpool parser account entry.keyHash entry.invocation spool).run
        FileOp.answer s).1.status = .failed :=
      run_updateSpool_refused hsto htemp hent (applySpoolTransition_other hother)
    rw [hfail] at hstat
    rcases hstat with h | h <;> cases h
  · intro hatt
    obtain ⟨desired, hdesired⟩ := Option.isSome_iff_exists.mp hquota
    exact run_updateSpool_written hsto htemp hent
      (applySpoolTransition_attach hatt hdata hmry hok hmatch
        (hsto.accepted.valid entry hent)) hdesired

end Run

/-! ## §4. Two keyed operations with a file. -/

def pictureFile : FileSnapshot :=
  { path := "/tmp/cat.jpg"
    name := "cat.jpg"
    size := 3
    sha256 := "sha256:00000000000000000000000000000000000000000000000000000000000000cc"
    device := 1
    inode := 2
    mtimeNs := 5
    ctimeNs := 6 }

def pictureSpool : SpoolRef :=
  { relativePath := "spool/0123456789abcdef0123456789abcdef/cat.jpg", file := pictureFile }

def pictureChat : Json :=
  .obj
    [("id", .int 7), ("is_bot", .bool false), ("title", .str "Me"), ("type", .str "private"),
      ("usernames", .arr [])]

/-- The plan of an attachment to the saved messages. -/
def attachPlan : Json :=
  .obj
    [("account", .str "main"), ("caption", .str ""), ("chat", pictureChat),
      ("effective_topic", .obj [("id", .int 7), ("kind", .str "saved")]),
      ("file", fileJson pictureFile), ("message_id", .int 9), ("operation", .str "saved_attach"),
      ("tdlib_request", .str "sendMessage")]

/-- The plan of a chat photo. -/
def photoPlan : Json :=
  .obj
    [("account", .str "main"), ("chat", pictureChat), ("delete", .bool false),
      ("file", fileJson pictureFile), ("operation", .str "chat_set_photo"),
      ("tdlib_request", .str "setChatPhoto")]

/-- The pending entry of either. -/
def pictureEntry (operation : Operation) (reserved : Nat) (plan : Json) : JsonEntry :=
  { leaveEntry with operation := operation, reservedTerminalBytes := reserved, plan := plan }

def pictureIntent (operation : Operation) : Intent :=
  { invocation := leaveEntry.invocation
    unixSeconds := 1700000000
    operation := operation
    plan := { target := none, file := some pictureFile }
    fingerprint := leaveEntry.fingerprint
    keyHash := some leaveEntry.keyHash
    bytes := 900 }

def pictureGroup (operation : Operation) : OpenGroup := .opened 7 (pictureIntent operation)

/-- The checkpoint of the copied file. -/
def pictureReady (operation : Operation) : Checkpoint :=
  { invocation := leaveEntry.invocation
    operation := operation
    sequence := 1
    data := .spoolReady pictureSpool
    bytes := 700 }

def attachEntry : JsonEntry := pictureEntry .savedAttach 65536 attachPlan

def photoEntry : JsonEntry := pictureEntry .chatSetPhoto 32768 photoPlan

/-- An entry without a reference is not longer. -/
theorem size_without_spool {entry : JsonEntry} (hspool : entry.spool = none) (spool : SpoolRef) :
    (auditFormat.entryJson entry).size
      ≤ (auditFormat.entryJson { entry with spool := some spool }).size := by
  have hnull : sizeBy quoteSize .null = 4 := rfl
  have hleast : 4 ≤ sizeBy quoteSize (spoolJson spool) := by
    have hquote : quoteSize "file" = 6 := rfl
    unfold spoolJson
    rw [sizeBy_obj, map_cons]
    unfold JsonSize.pieces
    rw [sum_cons, hquote]
    omega
  unfold entryJson size
  rw [hspool, sizeBy_obj, sizeBy_obj]
  simp only [JsonSize.pieces, map_cons, map_nil, sum_cons, sum_nil,
    length_cons, length_nil, Option.map_some, Option.map_none, Option.getD_some,
    Option.getD_none, hnull]
  omega

/-- The store of an entry with its reference makes one without it. -/
theorem accepted_without_spool {entry : JsonEntry}
    (hspool : entry.spool = none) (hpend : entry.state = .pending)
    (h : auditFormat.Accepted account [{ entry with spool := some spool }]) :
    auditFormat.Accepted account [entry] := by
  have hone {P : JsonEntry → Prop} {e : JsonEntry} : (∀ entry ∈ [e], P entry) ↔ P e := by simp
  have hval := hone.mp h.valid
  obtain ⟨hfixed, hids, hprog, hterm, hres, hchg⟩ :=
    (validEntry_pending_iff (by exact hpend)).mp hval
  have hsupp := hone.mp (supported_document.mp h.supported)
  have hnone : (entry.spool.map spoolJson).getD .null = .null := by rw [hspool]; rfl
  refine ⟨h.count, hone.mpr ?_, pairwise_singleton _ _, nodup_singleton _,
    supported_document.mpr (hone.mpr ?_), ?_⟩
  · rw [validEntry_pending_iff hpend]
    exact ⟨{ hfixed with spool := by rw [hspool]; rfl }, hids, hprog, hterm, hres,
      hchg⟩
  · unfold entryJson at hsupp ⊢
    rw [hnone]
    simp only [supported_obj, all_cons, all_nil, Bool.and_eq_true] at hsupp ⊢
    simp only [hsupp, supported, and_self]
  · have hfits := h.fits
    rw [size_document] at hfits ⊢
    have hrem : auditFormat.remaining { entry with spool := some spool }
        = auditFormat.remaining entry := rfl
    have hsize := size_without_spool hspool spool
    simp only [map_cons, map_nil, sum_cons, sum_nil, length_singleton, hrem] at hfits ⊢
    omega

/-- The store of one such entry, and the one after its update. -/
theorem picture_stored {operation : Operation} {reserved : Nat} {plan : Json}
    (hmry : InMemory (pictureEntry operation reserved plan)) {text : List Char}
    (htext : auditFormat.canonicalize "main"
      [{ pictureEntry operation reserved plan with spool := some pictureSpool }] = some text) :
    (∃ final, Stored "main" (some final) [readBack (pictureEntry operation reserved plan)])
      ∧ (auditFormat.canonicalize "main"
          [{ readBack (pictureEntry operation reserved plan) with spool := some pictureSpool }]).isSome
        = true := by
  constructor
  · have hacc := accepted_without_spool rfl rfl (canonicalize_iff.mp htext).1
    have hmemories : ∀ entry ∈ [pictureEntry operation reserved plan], InMemory entry := by
      intro entry hent
      obtain rfl := mem_singleton.mp hent
      exact hmry
    exact ⟨_, stored_written (canonicalize_iff.mpr ⟨hacc, rfl⟩) hmemories⟩
  · have hread := canonicalize_readBack htext
    exact Option.isSome_iff_exists.mpr ⟨_, hread⟩

theorem picture_matching {plan : Json} (hcon : plan.contains "file")
    (hfile : plan.get "file" = fileJson pictureFile) :
    Matching (pictureGroup operation) pictureSpool
      (readBack (pictureEntry operation reserved plan)) where
  key := rfl
  fingerprint := rfl
  invocation := rfl
  operation := rfl
  generation := rfl
  pending := rfl
  file := by
    intro file h
    cases h
    show plan.parsed.contains "file" = true ∧ (plan.parsed.get "file" == _) = true
    rw [contains_parsed, get_parsed, parsed_beq, hfile]
    exact ⟨hcon, beq_refl _⟩
  spool := fun held h => nomatch h

/-- The update of a keyed attachment. -/
theorem update_spool_iff_attach :
    ∃ s entry, Stored "main" s.final [entry] ∧ entry = readBack attachEntry
      ∧ (((updateSpool .reference "main" entry.keyHash entry.invocation pictureSpool).run
            FileOp.answer s).1.status = .applied
          ∨ ((updateSpool .reference "main" entry.keyHash entry.invocation pictureSpool).run
            FileOp.answer s).1.status = .unchanged) := by
  have hmry : InMemory attachEntry := by
    show (auditFormat.entryJson attachEntry).wellFormed = true
    decide +kernel
  obtain ⟨text, htext⟩ : ∃ text, auditFormat.canonicalize "main"
      [{ attachEntry with spool := some pictureSpool }] = some text :=
    Option.isSome_iff_exists.mp (by decide +kernel)
  obtain ⟨⟨final, hsto⟩, hquota⟩ := picture_stored hmry htext
  have hspool : (spoolJson pictureSpool).wellFormed := by decide +kernel
  have hok : consumeCheckpoint (pictureGroup .savedAttach) (pictureReady .savedAttach)
      = .ok ((pictureGroup .savedAttach).push (pictureReady .savedAttach)) := by decide +kernel
  have hmatch : Matching (pictureGroup .savedAttach) pictureSpool (readBack attachEntry) :=
    picture_matching rfl rfl
  refine ⟨{ final := some final }, readBack attachEntry, hsto, rfl, ?_⟩
  have hdata : (pictureReady .savedAttach).data = .spoolReady pictureSpool := rfl
  have hiff := update_spool_iff .reference "main" hdata hspool hok (s := { final := some final })
    hsto rfl mem_cons_self hmatch hquota
  exact hiff.mpr rfl

/-- **The log accepts the file of a keyed chat photo, the store refuses it.** -/
theorem photo_spool_refused :
    (∃ group', consumeCheckpoint (pictureGroup .chatSetPhoto) (pictureReady .chatSetPhoto)
        = .ok group')
      ∧ ∃ s entry, Stored "main" s.final [entry] ∧ s.temp = none
        ∧ Matching (pictureGroup .chatSetPhoto) pictureSpool entry
        ∧ (auditFormat.canonicalize "main" [{ entry with spool := some pictureSpool }]).isSome = true
        ∧ ((updateSpool .reference "main" entry.keyHash entry.invocation pictureSpool).run
            FileOp.answer s).1.status = .failed := by
  have hmry : InMemory photoEntry := by
    show (auditFormat.entryJson photoEntry).wellFormed = true
    decide +kernel
  obtain ⟨text, htext⟩ : ∃ text, auditFormat.canonicalize "main"
      [{ photoEntry with spool := some pictureSpool }] = some text :=
    Option.isSome_iff_exists.mp (by decide +kernel)
  obtain ⟨⟨final, hsto⟩, hquota⟩ := picture_stored hmry htext
  have href : auditFormat.applySpoolTransition "main" pictureSpool (readBack photoEntry)
      = .error "invalid spool transition" := applySpoolTransition_other nofun
  refine ⟨⟨(pictureGroup .chatSetPhoto).push (pictureReady .chatSetPhoto), by decide +kernel⟩,
    { final := some final }, readBack photoEntry, hsto, rfl, picture_matching rfl rfl, hquota, ?_⟩
  exact run_updateSpool_refused hsto rfl mem_cons_self href

end TgCli.Store
