/-
  TgCli.Store.Operations — THE STORE OVER ALL ITS OPERATIONS

  `IdempotencyStore` (`idempotency_store.cpp`): every operation inspects the
  file, decides over the entries it decodes, and rewrites the file through a
  temporary one that is renamed into place.  Any call may fail, and a crash may
  hit any call.

  Main results:
    * `committed_program` — whatever fails, the file is the one of before or the
      one of the execution without a fault;
    * `run_program` — what that execution makes of the entries;
    * `store_runs` — the invariant of every reachable store.
-/
import TgCli.Lib.CrashProgram
import TgCli.Store.Codec
import TgCli.Store.Transitions

namespace TgCli.Store

open Lib Audit Payload Prog List Format

/-! ## §1. The files. -/

/-- The final and the temporary name of the store. -/
structure Files where
  final : Option ByteArray := none
  temp : Option ByteArray := none

inductive FileOp where
  /-- calls that only look: the lease, metadata, reads, `fsync` of the temporary file -/
  | check
  | createTemp
  | writeTemp (bytes : ByteArray)
  | renameTemp
  /-- after the rename: the final name is looked at and the directory synced -/
  | settle
  | unlinkTemp

namespace FileOp

/-- What a call does; `none` when it has to fail. -/
def effect : FileOp → Files → Option Files
  | check, s => some s
  | createTemp, s => if s.temp.isSome then none else some { s with temp := some .empty }
  | writeTemp bytes, s => if s.temp.isSome then some { s with temp := some bytes } else none
  | renameTemp, s => s.temp.map fun bytes => { final := some bytes }
  | settle, s => some s
  | unlinkTemp, s => if s.temp.isSome then some { s with temp := none } else none

/-- What a call can leave half done. -/
def torn : FileOp → Files → Files → Prop
  | writeTemp _, s, s' => ∃ bytes, s' = { s with temp := some bytes }
  | _, _, _ => False

end FileOp

/-- **Every call can fail, and a crash can hit every call**; the calls after the
rename fail only if `late` says so. -/
def fileCalls (late : Bool) : Calls Files (fun _ : FileOp => Bool) where
  exec op s ok s' :=
    (ok = true ∧ op.effect s = some s')
      ∨ (ok = false ∧ (op = .settle → late = true) ∧ (s' = s ∨ op.torn s s'))
  cut op s s' := s' = s ∨ op.effect s = some s' ∨ op.torn s s'

abbrev StoreProg (α : Type) : Type := Prog Files (fun _ : FileOp => Bool) α

/-- A call that succeeds whenever it can. -/
def FileOp.answer (op : FileOp) (s : Files) : Bool × Files :=
  match op.effect s with
  | some s' => (true, s')
  | none => (false, s)

theorem answer_exec (op : FileOp) (s : Files) :
    (fileCalls true).exec op s (op.answer s).1 (op.answer s).2 := by
  unfold FileOp.answer
  cases h : op.effect s with
  | some s' => exact .inl ⟨rfl, h⟩
  | none => exact .inr ⟨rfl, fun _ => rfl, .inl rfl⟩

/-- The rest of a program after a call that must succeed. -/
def attempt {α : Type} (op : FileOp) (next : StoreProg (Except String α)) :
    StoreProg (Except String α) :=
  .call op fun ok => if ok = true then next else .done (.error "")

/-! ## §2. Inspection and rewriting. -/

/-- `IdempotencySnapshot`. -/
structure Snapshot where
  entries : List JsonEntry := []
  bytes : ByteArray := .empty

/-- `StoreImage`. -/
structure Image where
  snapshot : Snapshot
  tempPresent : Bool

section Programs

variable (parser : Json.Parser) (account : String)

/-- The snapshot in the file; a store without a file is empty. -/
def Files.snapshot (s : Files) : Option Snapshot :=
  match s.final with
  | none => (auditFormat.canonicalize account []).map fun text => ⟨[], Json.encode text⟩
  | some bytes => (decodeSnapshot parser bytes account).map fun (entries, bytes) => ⟨entries, bytes⟩

/-- What an inspection finds in the files. -/
def Files.image (s : Files) : Except String Image :=
  match s.snapshot parser account with
  | none => .error ""
  | some snapshot => .ok ⟨snapshot, s.temp.isSome⟩

def inspectImage : StoreProg (Except String Image) :=
  attempt .check <| .look fun s => .done (s.image parser account)

/-- The calls of `rewrite_snapshot` that replace the file. -/
def replaceFile (desired : Snapshot) : StoreProg (Except String Snapshot) :=
  attempt .check <| attempt .createTemp <| attempt .check <|
    attempt (.writeTemp desired.bytes) <| attempt .check <| attempt .renameTemp <|
      attempt .settle <| .done (.ok desired)

/-- The calls of `cleanup_stale_temp` that remove the temporary file. -/
def removeTemp (snapshot : Snapshot) : StoreProg (Except String Snapshot) :=
  attempt .check <| attempt .unlinkTemp <| attempt .check <| .done (.ok snapshot)

def rewriteSnapshot (expected : ByteArray) (desired : List JsonEntry) :
    StoreProg (Except String Snapshot) :=
  match auditFormat.canonicalize account desired with
  | none => .done (.error "invalid prospective snapshot")
  | some text =>
    (inspectImage parser account).bind fun image =>
      match image with
      | .error detail => .done (.error detail)
      | .ok image =>
        if image.snapshot.bytes ≠ expected ∨ image.tempPresent = true then
          .done (.error "store changed or retained a temp before rewrite")
        else replaceFile ⟨desired, Json.encode text⟩

/-! ## §3. The operations. -/

/-- `IdempotencyInsertStatus` and `IdempotencyWriteStatus`. -/
inductive Status where
  | inserted | unexpectedIncumbent | applied | unchanged | incumbentPreserved | failed
deriving DecidableEq, Repr

/-- The results of the operations. -/
structure StoreResult where
  status : Status
  incumbent : Option JsonEntry := none
  snapshot : Snapshot := {}
  removed : List JsonEntry := []
  detail : String := ""

/-- What an operation does over the entries it found. -/
inductive Decision where
  | answer (result : StoreResult)
  | rewrite (desired : List JsonEntry) (result : StoreResult)

/-- The result of a rewrite. -/
def StoreResult.written (result : StoreResult) : Except String Snapshot → StoreResult
  | .ok snapshot => { result with snapshot := snapshot }
  | .error detail => { status := .failed, removed := result.removed, detail := detail }

/-- Inspect, decide, rewrite; `stale` is the refusal of a stale temporary file. -/
def transact (stale : String) (decision : Snapshot → Decision) : StoreProg StoreResult :=
  (inspectImage parser account).bind fun image =>
    match image with
    | .error detail => .done { status := .failed, detail := detail }
    | .ok image =>
      if image.tempPresent = true then .done { status := .failed, detail := stale }
      else
        match decision image.snapshot with
        | .answer result => .done result
        | .rewrite desired result =>
          (rewriteSnapshot parser account image.snapshot.bytes desired).bind fun written =>
            .done (result.written written)

/-- What `insert_if_absent` does with a valid entry. -/
def insertion (entry : JsonEntry) (snapshot : Snapshot) : Decision :=
  match findEntry snapshot.entries entry.keyHash with
  | some found =>
    .answer { status := .unexpectedIncumbent, incumbent := some found, snapshot := snapshot }
  | none =>
    if kStoreMaximumEntries ≤ snapshot.entries.length then
      .answer { status := .failed, snapshot := snapshot }
    else
      let desired :=
        snapshot.entries.insertIdx (lowerBound snapshot.entries entry.keyHash) entry
      if (auditFormat.canonicalize account desired).isNone then
        .answer { status := .failed, snapshot := snapshot }
      else .rewrite desired { status := .inserted }

def insertIfAbsent (entry : JsonEntry) : StoreProg StoreResult :=
  if entry.state ≠ .pending ∨ auditFormat.validEntry account entry = false then
    .done { status := .failed, detail := "invalid pending idempotency entry" }
  else
    transact parser account "stale temp was not reconciled before insertion"
      (insertion account entry)

/-- What `mutate_owned_entry` does. -/
def mutation (key invocation : String) (transition : Format.Transition Json Json Json Json)
    (preserve : Bool) (snapshot : Snapshot) : Decision :=
  match findEntry snapshot.entries key with
  | none =>
    .answer
      { status := .failed, snapshot := snapshot, detail := "owned idempotency entry is missing" }
  | some entry =>
    if entry.invocation ≠ invocation then
      if preserve = true then .answer { status := .incumbentPreserved, snapshot := snapshot }
      else
        .answer
          { status := .failed
            snapshot := snapshot
            detail := "idempotency entry belongs to another invocation" }
    else
      match transition entry with
      | .error detail => .answer { status := .failed, snapshot := snapshot, detail := detail }
      | .ok entry' =>
        if sameEntry entry' entry = true then
          .answer { status := .unchanged, snapshot := snapshot }
        else
          .rewrite (snapshot.entries.set (lowerBound snapshot.entries key) entry')
            { status := .applied }

def mutateOwnedEntry (key invocation : String)
    (transition : Format.Transition Json Json Json Json) (preserve : Bool) :
    StoreProg StoreResult :=
  transact parser account "stale temp was not reconciled before store transition"
    (mutation key invocation transition preserve)

/-- `preflight_spool_update`: the prospective snapshot, or the refusal. -/
def preflightSpoolUpdate (key invocation : String) (spool : SpoolRef) :
    StoreProg (Except StoreResult Snapshot) :=
  (inspectImage parser account).bind fun image =>
    match image with
    | .error detail => .done (.error { status := .failed, detail := detail })
    | .ok image =>
      let refuse := fun detail =>
        StoreResult.mk .failed none image.snapshot [] detail
      if image.tempPresent = true then
        .done (.error (refuse "stale temp was not reconciled before spool preflight"))
      else
        match findEntry image.snapshot.entries key with
        | none => .done (.error (refuse "spool preflight has no matching owned entry"))
        | some entry =>
          if entry.invocation ≠ invocation then
            .done (.error (refuse "spool preflight has no matching owned entry"))
          else
            match auditFormat.applySpoolTransition account spool entry with
            | .error detail => .done (.error (refuse detail))
            | .ok entry' =>
              let desired := image.snapshot.entries.set
                (lowerBound image.snapshot.entries key) entry'
              match auditFormat.canonicalize account desired with
              | none => .done (.error (refuse ""))
              | some text => .done (.ok ⟨desired, Json.encode text⟩)

def updateSpool (key invocation : String) (spool : SpoolRef) : StoreProg StoreResult :=
  (preflightSpoolUpdate parser account key invocation spool).bind fun preflight =>
    match preflight with
    | .error result => .done result
    | .ok _ =>
      mutateOwnedEntry parser account key invocation
        (auditFormat.applySpoolTransition account spool) false

def updateTemporaryMessageIds (key invocation : String) (ids : Json) : StoreProg StoreResult :=
  mutateOwnedEntry parser account key invocation (auditFormat.idsTransition ids) false

def updateForwardProgress (key invocation : String) (items : Json) : StoreProg StoreResult :=
  mutateOwnedEntry parser account key invocation (auditFormat.progressTransition items) false

def complete (key invocation : String) (terminal : Json) : StoreProg StoreResult :=
  mutateOwnedEntry parser account key invocation
    (auditFormat.completeTransition account terminal) false

def clearSpool (key invocation : String) : StoreProg StoreResult :=
  mutateOwnedEntry parser account key invocation clearSpoolTransition false

/-- What `remove_owned` does. -/
def removal (key invocation : String) (snapshot : Snapshot) : Decision :=
  match findEntry snapshot.entries key with
  | none => .answer { status := .unchanged, snapshot := snapshot }
  | some entry =>
    if entry.invocation ≠ invocation then
      .answer { status := .incumbentPreserved, snapshot := snapshot }
    else
      .rewrite (snapshot.entries.eraseIdx (lowerBound snapshot.entries key))
        { status := .applied }

def removeOwned (key invocation : String) : StoreProg StoreResult :=
  transact parser account "stale temp was not reconciled before removal" (removal key invocation)

/-- What `sweep_expired` does at a representable sample. -/
def sweep (now : Nat) (snapshot : Snapshot) : Decision :=
  let removed := snapshot.entries.filter fun entry => decide (entry.expiresAt ≤ now)
  if removed.isEmpty then .answer { status := .unchanged, snapshot := snapshot }
  else
    .rewrite (snapshot.entries.filter fun entry => !decide (entry.expiresAt ≤ now))
      { status := .applied, removed := removed }

def sweepExpired (now : Nat) : StoreProg StoreResult :=
  if kMaximumUnixSeconds < now then
    .done { status := .failed, detail := "wall-clock sample is unrepresentable" }
  else transact parser account "stale temp was not reconciled before expiry" (sweep now)

def applyReconciledSnapshot (expected : Snapshot) (desired : List JsonEntry) :
    StoreProg StoreResult :=
  match auditFormat.canonicalize account desired with
  | none => .done { status := .failed, detail := "invalid reconciled idempotency snapshot" }
  | some text =>
    if Json.encode text = expected.bytes then .done { status := .unchanged, snapshot := expected }
    else
      (rewriteSnapshot parser account expected.bytes desired).bind fun written =>
        .done (StoreResult.written { status := .applied } written)

def cleanupStaleTemp : StoreProg StoreResult :=
  (inspectImage parser account).bind fun image =>
    match image with
    | .error detail => .done { status := .failed, detail := detail }
    | .ok image =>
      if image.tempPresent = false then
        .done { status := .unchanged, snapshot := image.snapshot }
      else
        (removeTemp image.snapshot).bind fun cleaned =>
          .done (StoreResult.written { status := .applied } cleaned)

end Programs

/-- An operation with its arguments, as the types of the source hold them. -/
inductive Request where
  | insertIfAbsent (entry : JsonEntry) (memory : InMemory entry)
  | updateSpool (key invocation : String) (spool : SpoolRef)
      (memory : (spoolJson spool).wellFormed = true)
  | updateTemporaryMessageIds (key invocation : String) (ids : Json)
      (memory : ids.wellFormed = true)
  | updateForwardProgress (key invocation : String) (items : Json)
      (memory : items.wellFormed = true)
  | complete (key invocation : String) (terminal : Json) (memory : terminal.wellFormed = true)
  | removeOwned (key invocation : String)
  | clearSpool (key invocation : String)
  | sweepExpired (now : Nat)
  | applyReconciledSnapshot (expected : Snapshot) (desired : List JsonEntry)
      (memory : ∀ entry ∈ desired, InMemory entry)
  | cleanupStaleTemp

namespace Request

def program (parser : Json.Parser) (account : String) : Request → StoreProg StoreResult
  | insertIfAbsent entry _ => Store.insertIfAbsent parser account entry
  | updateSpool key invocation spool _ => Store.updateSpool parser account key invocation spool
  | updateTemporaryMessageIds key invocation ids _ =>
    Store.updateTemporaryMessageIds parser account key invocation ids
  | updateForwardProgress key invocation items _ =>
    Store.updateForwardProgress parser account key invocation items
  | complete key invocation terminal _ => Store.complete parser account key invocation terminal
  | removeOwned key invocation => Store.removeOwned parser account key invocation
  | clearSpool key invocation => Store.clearSpool parser account key invocation
  | sweepExpired now => Store.sweepExpired parser account now
  | applyReconciledSnapshot expected desired _ =>
    Store.applyReconciledSnapshot parser account expected desired
  | cleanupStaleTemp => Store.cleanupStaleTemp parser account

/-- The key an operation names, and for which invocation. -/
def names : Request → Option (String × String)
  | insertIfAbsent entry _ => some (entry.keyHash, entry.invocation)
  | updateSpool key invocation _ _ | updateTemporaryMessageIds key invocation _ _
  | updateForwardProgress key invocation _ _ | complete key invocation _ _
  | removeOwned key invocation | clearSpool key invocation => some (key, invocation)
  | sweepExpired _ | applyReconciledSnapshot _ _ _ | cleanupStaleTemp => none

/-- The snapshot comes from outside. -/
def reconciles : Request → Bool
  | applyReconciledSnapshot _ _ _ => true
  | _ => false

/-- The operation names the entry of another invocation. -/
def Foreign (request : Request) (entries : List JsonEntry) : Prop :=
  ∃ entry ∈ entries, ∃ invocation, request.names = some (entry.keyHash, invocation)
    ∧ invocation ≠ entry.invocation

end Request

/-! ## §4. Whatever fails, the file is the old or the new one. -/

section Committed

variable {α β : Type} {late : Bool} {parser : Json.Parser} {account : String}

/-- The file after a fault or a crash: the one of before, or the one of the
execution without a fault; a failure that is not a late one leaves the file. -/
def Committed (late : Bool) (failed : α → Prop) (p : StoreProg α) (s : Files) : Prop :=
  Triple (fileCalls late) p s
    (fun s' => s'.final = s.final ∨ s'.final = (p.run FileOp.answer s).2.final)
    (fun a s' => (s'.final = s.final ∨ s'.final = (p.run FileOp.answer s).2.final)
      ∧ (late = false → failed a → s'.final = s.final))

theorem committed_done {failed : α → Prop} (a : α) (s : Files) :
    Committed late failed (.done a) s :=
  triple_done (.inl rfl) ⟨.inl rfl, fun _ _ => rfl⟩

variable {s : Files}

theorem committed_map {failed : α → Prop} {failed' : β → Prop} {f : α → β}
    (h : Committed late failed p s) (hfailed : ∀ a, failed' (f a) → failed a) :
    Committed late failed' (p.bind fun a => .done (f a)) s := by
  unfold Committed at h ⊢
  rw [run_bind]
  refine triple_bind (h.mono (fun _ h => h) fun _ _ h => h) fun a s' hs' => ?_
  exact triple_done hs'.1 ⟨hs'.1, fun hlate ha => hs'.2 hlate (hfailed a ha)⟩

theorem run_inspectImage (s : Files) :
    (inspectImage parser account).run FileOp.answer s = (s.image parser account, s) := rfl

variable {I : Files → Prop} {Q : Except String α → Files → Prop}

/-- The rule of a call that must succeed. -/
theorem triple_attempt {op : FileOp} {next : StoreProg (Except String α)} (hI : I s)
    (hfail : ∀ s', (s' = s ∨ op.torn s s') → I s' ∧ ((op = .settle → late) → Q (.error "") s'))
    (hnext : ∀ s', op.effect s = some s' → I s' ∧ Triple (fileCalls late) next s' I Q) :
    Triple (fileCalls late) (attempt op next) s I Q := by
  apply triple_call hI
  · rintro s' (rfl | heff | htorn)
    · exact hI
    · exact (hnext s' heff).1
    · exact (hfail s' (.inr htorn)).1
  · rintro ok s' (⟨rfl, heff⟩ | ⟨rfl, hlate, hleft⟩)
    · rw [if_pos rfl]
      exact (hnext s' heff).2
    · rw [if_neg Bool.false_ne_true]
      exact triple_done (hfail s' hleft).1 ((hfail s' hleft).2 hlate)

/-- The rule of a call that only looks. -/
theorem triple_check {next : StoreProg (Except String α)} (hI : I s) (hfail : Q (.error "") s)
    (hnext : Triple (fileCalls late) next s I Q) :
    Triple (fileCalls late) (attempt .check next) s I Q := by
  apply triple_attempt hI
  · rintro s' (rfl | htorn)
    · exact ⟨hI, fun _ => hfail⟩
    · exact htorn.elim
  · intro s' heff
    cases heff
    exact ⟨hI, hnext⟩

/-- An operation that inspects goes on with what it saw. -/
theorem committed_inspect {failed : β → Prop} {f : Except String Image → StoreProg β}
    (herror : ∀ detail, ∃ b, f (.error detail) = .done b)
    (h : ∀ image, s.image parser account = .ok image → Committed late failed (f (.ok image)) s) :
    Committed late failed ((inspectImage parser account).bind f) s := by
  have h : Committed late failed (f (s.image parser account)) s := by
    cases himage : s.image parser account with
    | error detail =>
      obtain ⟨b, hb⟩ := herror detail
      rw [hb]
      exact committed_done _ s
    | ok image => exact h image himage
  have hlook : Triple (fileCalls late) (inspectImage parser account) s (· = s)
      (fun image s' => s' = s ∧ (image = .error "" ∨ image = s.image parser account)) := by
    refine triple_check ?_ ?_ (triple_look (triple_done ?_ ?_))
    · exact rfl
    · exact ⟨rfl, .inl rfl⟩
    · exact rfl
    · exact ⟨rfl, .inr rfl⟩
  unfold Committed at h ⊢
  rw [run_bind, run_inspectImage]
  apply triple_bind (hlook.mono (fun s' hs' => by rw [hs']; exact .inl rfl) fun _ _ hQ => hQ)
  rintro image s' ⟨rfl, rfl | rfl⟩
  · obtain ⟨b, hb⟩ := herror ""
    rw [hb]
    exact triple_done (.inl rfl) ⟨.inl rfl, fun _ _ => rfl⟩
  · exact h

/-- The result of a rewrite that failed. -/
def Refused (result : Except String α) : Prop := ∃ detail, result = .error detail

theorem run_replaceFile (desired : Snapshot) (htemp : s.temp = none) :
    (replaceFile desired).run FileOp.answer s = (.ok desired, { final := some desired.bytes }) := by
  obtain ⟨final, temp⟩ := s
  obtain rfl : temp = none := htemp
  rfl

/-- **The file is replaced in one step**: by the rename. -/
theorem committed_replaceFile (desired : Snapshot) (htemp : s.temp = none) :
    Committed late Refused (replaceFile desired) s := by
  unfold Committed
  rw [run_replaceFile desired htemp]
  have hold : ∀ temp : Option ByteArray,
      (({ s with temp := temp } : Files).final = s.final
        ∨ ({ s with temp := temp } : Files).final = some desired.bytes)
      ∧ (late = false → Refused (.error "" : Except String Snapshot) →
        ({ s with temp := temp } : Files).final = s.final) :=
    fun temp => ⟨.inl rfl, fun _ _ => rfl⟩
  apply triple_check (.inl rfl) ⟨.inl rfl, fun _ _ => rfl⟩
  -- The temporary file is created, written and synced beside the old one.
  apply triple_attempt (.inl rfl)
  · rintro s' (rfl | htorn)
    · exact ⟨.inl rfl, fun _ => ⟨.inl rfl, fun _ _ => rfl⟩⟩
    · exact htorn.elim
  intro s1 heff
  obtain rfl : { s with temp := some .empty } = s1 := by
    simpa [FileOp.effect, htemp] using heff
  refine ⟨.inl rfl, triple_check (.inl rfl) (hold _) ?_⟩
  apply triple_attempt (.inl rfl)
  · rintro s' (rfl | ⟨bytes, rfl⟩)
    · exact ⟨.inl rfl, fun _ => hold _⟩
    · exact ⟨.inl rfl, fun _ => hold _⟩
  intro s2 heff
  obtain rfl : { s with temp := some desired.bytes } = s2 := Option.some.inj heff
  refine ⟨.inl rfl, triple_check (.inl rfl) (hold _) ?_⟩
  apply triple_attempt (.inl rfl)
  · rintro s' (rfl | htorn)
    · exact ⟨.inl rfl, fun _ => hold _⟩
    · exact htorn.elim
  -- From the rename on the file is the new one.
  intro s3 heff
  obtain rfl : { final := some desired.bytes } = s3 := Option.some.inj heff
  refine ⟨.inr rfl, ?_⟩
  apply triple_attempt (.inr rfl)
  · rintro s' (rfl | htorn)
    · refine ⟨.inr rfl, fun hlate => ⟨.inr rfl, fun hnot => ?_⟩⟩
      rw [hlate rfl] at hnot
      cases hnot
    · exact htorn.elim
  intro s4 heff
  obtain rfl : { final := some desired.bytes } = s4 := Option.some.inj heff
  refine ⟨.inr rfl, triple_done (.inr rfl) ⟨.inr rfl, fun _ href => ?_⟩⟩
  obtain ⟨detail, hdet⟩ := href
  cases hdet

theorem image_of_snapshot (h : s.snapshot parser account = some snapshot) :
    s.image parser account = .ok ⟨snapshot, s.temp.isSome⟩ := by
  unfold Files.image
  rw [h]

/-- An inspection sees a temporary file. -/
theorem temp_none (h : s.image parser account = .ok image)
    (hpres : ¬ image.tempPresent) : s.temp = none := by
  unfold Files.image at h
  split at h
  · cases h
  cases h
  cases hcase : s.temp with
  | none => rfl
  | some bytes => exact absurd (by rw [hcase]; rfl) hpres

theorem committed_rewriteSnapshot (expected : ByteArray) (desired : List JsonEntry) (s : Files) :
    Committed late Refused (rewriteSnapshot parser account expected desired) s := by
  unfold rewriteSnapshot
  split
  · exact committed_done _ s
  refine committed_inspect (fun _ => ⟨_, rfl⟩) fun image himage => ?_
  dsimp only
  split
  · exact committed_done _ s
  · rename_i hsame
    exact committed_replaceFile _ (temp_none himage fun h => hsame (.inr h))

theorem written_failed {result : StoreResult} (hstat : result.status ≠ .failed)
    (written : Except String Snapshot) (h : (result.written written).status = .failed) :
    Refused written := by
  cases written with
  | ok snapshot => exact absurd h hstat
  | error detail => exact ⟨detail, rfl⟩

/-- What is rewritten does not already say that it failed. -/
def Decision.Sound : Decision → Prop
  | .answer _ => True
  | .rewrite _ result => result.status ≠ .failed

theorem committed_transact (stale : String) {decision : Snapshot → Decision}
    (hsound : ∀ snapshot, (decision snapshot).Sound) (s : Files) :
    Committed late (·.status = .failed) (transact parser account stale decision) s := by
  refine committed_inspect (fun _ => ⟨_, rfl⟩) fun image _ => ?_
  dsimp only
  split
  · exact committed_done _ s
  have hstat := hsound image.snapshot
  cases hdec : decision image.snapshot with
  | answer result => exact committed_done _ s
  | rewrite desired result =>
    rw [hdec] at hstat
    exact committed_map (committed_rewriteSnapshot _ _ s) (written_failed hstat)

theorem sound_insertion (entry : JsonEntry) (snapshot : Snapshot) :
    (insertion account entry snapshot).Sound := by
  unfold insertion
  split
  · trivial
  split
  · trivial
  dsimp only
  split
  · trivial
  · exact nofun

theorem sound_mutation (key invocation : String)
    (transition : Format.Transition Json Json Json Json) (preserve : Bool) (snapshot : Snapshot) :
    (mutation key invocation transition preserve snapshot).Sound := by
  unfold mutation
  split
  · trivial
  split
  · split <;> trivial
  split
  · trivial
  split
  · trivial
  · exact nofun

theorem sound_removal (key invocation : String) (snapshot : Snapshot) :
    (removal key invocation snapshot).Sound := by
  unfold removal
  split
  · trivial
  split
  · trivial
  · exact nofun

theorem sound_sweep (now : Nat) (snapshot : Snapshot) : (sweep now snapshot).Sound := by
  unfold sweep
  dsimp only
  split
  · trivial
  · exact nofun

theorem committed_mutateOwnedEntry (key invocation : String)
    (transition : Format.Transition Json Json Json Json) (preserve : Bool) (s : Files) :
    Committed late (·.status = .failed)
      (mutateOwnedEntry parser account key invocation transition preserve) s :=
  committed_transact _ (sound_mutation _ _ _ _) s

theorem bind_assoc {γ : Type} (p : StoreProg α) (f : α → StoreProg β) (g : β → StoreProg γ) :
    (p.bind f).bind g = p.bind fun a => (f a).bind g := by
  induction p with
  | done a => rfl
  | look k ih => exact congrArg Prog.look (funext ih)
  | call op k ih => exact congrArg (Prog.call op) (funext ih)

theorem committed_updateSpool (key invocation : String) (spool : SpoolRef) (s : Files) :
    Committed late (·.status = .failed) (updateSpool parser account key invocation spool) s := by
  unfold updateSpool preflightSpoolUpdate
  rw [bind_assoc]
  refine committed_inspect (fun _ => ⟨_, rfl⟩) fun image _ => ?_
  dsimp only
  -- Every refusal of the preflight ends the operation.
  split
  · exact committed_done _ s
  split
  · exact committed_done _ s
  split
  · exact committed_done _ s
  split
  · exact committed_done _ s
  split
  · exact committed_done _ s
  · exact committed_mutateOwnedEntry _ _ _ _ s

theorem committed_applyReconciledSnapshot (expected : Snapshot) (desired : List JsonEntry)
    (s : Files) :
    Committed late (·.status = .failed)
      (applyReconciledSnapshot parser account expected desired) s := by
  unfold applyReconciledSnapshot
  split
  · exact committed_done _ s
  split
  · exact committed_done _ s
  · exact committed_map (committed_rewriteSnapshot _ _ s) (written_failed nofun)

theorem committed_removeTemp (snapshot : Snapshot) (s : Files) :
    Committed late Refused (removeTemp snapshot) s := by
  have hsame : ∀ (a : Except String Snapshot) (s' : Files), s'.final = s.final →
      ∀ final, (s'.final = s.final ∨ s'.final = final)
        ∧ (late = false → Refused a → s'.final = s.final) :=
    fun a s' h final => ⟨.inl h, fun _ _ => h⟩
  refine triple_check (.inl rfl) (hsame _ s rfl _) ?_
  refine triple_attempt (.inl rfl) ?_ ?_
  · rintro s' (rfl | htorn)
    · exact ⟨.inl rfl, fun _ => hsame _ s' rfl _⟩
    · exact htorn.elim
  · intro s1 heff
    -- Only the temporary file goes.
    have hfin : s1.final = s.final := by
      simp only [FileOp.effect] at heff
      split at heff
      · cases heff
        rfl
      · cases heff
    refine ⟨.inl hfin, triple_check (.inl hfin) (hsame _ s1 hfin _) ?_⟩
    exact triple_done (.inl hfin) (hsame _ s1 hfin _)

theorem committed_cleanupStaleTemp (s : Files) :
    Committed late (·.status = .failed) (cleanupStaleTemp parser account) s := by
  refine committed_inspect (fun _ => ⟨_, rfl⟩) fun image _ => ?_
  dsimp only
  split
  · exact committed_done _ s
  · exact committed_map (committed_removeTemp _ s) (written_failed nofun)

/-- **Whatever fails, the file is the old or the new one.** -/
theorem committed_program (request : Request) (s : Files) :
    Committed late (·.status = .failed) (request.program parser account) s := by
  cases request with
  | insertIfAbsent entry memory =>
    show Committed late _ (insertIfAbsent parser account entry) s
    unfold insertIfAbsent
    split
    · exact committed_done _ s
    · exact committed_transact _ (sound_insertion _) s
  | updateSpool key invocation spool memory => exact committed_updateSpool _ _ _ s
  | updateTemporaryMessageIds key invocation ids memory
  | updateForwardProgress key invocation items memory
  | complete key invocation terminal memory | clearSpool key invocation =>
    exact committed_mutateOwnedEntry _ _ _ _ s
  | removeOwned key invocation => exact committed_transact _ (sound_removal _ _) s
  | sweepExpired now =>
    show Committed late _ (sweepExpired parser account now) s
    unfold sweepExpired
    split
    · exact committed_done _ s
    · exact committed_transact _ (sound_sweep _) s
  | applyReconciledSnapshot expected desired memory =>
    exact committed_applyReconciledSnapshot _ _ s
  | cleanupStaleTemp => exact committed_cleanupStaleTemp s

end Committed

/-! ## §5. Entries in memory. -/

/-- The parts of an entry in memory. -/
structure MemoryParts (entry : JsonEntry) : Prop where
  auditGeneration : entry.auditGeneration < 2 ^ 64
  createdAt : entry.createdAt < 2 ^ 64
  expiresAt : entry.expiresAt < 2 ^ 64
  reserved : entry.reservedTerminalBytes < 2 ^ 64
  plan : Json.wellFormed entry.plan
  ids : Json.wellFormed entry.temporaryIds
  progress : Json.wellFormed entry.forwardProgress
  spool : Json.wellFormed ((entry.spool.map spoolJson).getD .null)
  terminal : Json.wellFormed (auditFormat.terminalField entry.terminal)

theorem inMemory_iff : InMemory entry ↔ MemoryParts entry := by
  have hkeys : ["audit_generation", "created_at", "expires_at", "forward_progress",
      "invocation_id", "key_hash", "operation", "plan", "request_fingerprint",
      "reserved_terminal_bytes", "spool", "state", "temporary_message_ids", "terminal"].Pairwise
        (· < ·) := by
    decide
  have hnat : ∀ n : Nat, Json.wellFormed (.nat n) ↔ n < 2 ^ 64 := fun n => decide_eq_true_iff
  have hstr : ∀ text : String, Json.wellFormed (.str text) := fun text => rfl
  unfold InMemory entryJson
  simp only [Json.wellFormed_obj, Bool.and_eq_true, all_cons, all_nil, map_cons,
    map_nil, decide_eq_true_eq, hnat, hstr, hkeys, true_and, and_true]
  constructor
  · rintro ⟨h1, h2, h3, h4, h5, h6, h7, h8, h9⟩
    exact ⟨h1, h2, h3, h6, h5, h8, h4, h7, h9⟩
  · rintro ⟨h1, h2, h3, h6, h5, h8, h4, h7, h9⟩
    exact ⟨h1, h2, h3, h4, h5, h6, h7, h8, h9⟩

theorem inMemory_readBack (h : InMemory entry) : InMemory (readBack entry) := by
  have h := inMemory_iff.mp h
  refine inMemory_iff.mpr { h with
    plan := Json.wellFormed_parsed _ h.plan, ids := Json.wellFormed_parsed _ h.ids
    progress := Json.wellFormed_parsed _ h.progress, terminal := ?_ }
  rw [terminalField_readBack]
  exact Json.wellFormed_parsed _ h.terminal

theorem readBack_readBack (entry : JsonEntry) : readBack (readBack entry) = readBack entry := by
  unfold readBack
  simp only [Json.parsed_parsed, Option.map_map, Function.comp_def]

/-- A transition makes entries in memory of entries in memory. -/
def KeepsMemory (transition : Format.Transition Json Json Json Json) : Prop :=
  ∀ entry entry', transition entry = .ok entry' → InMemory entry → InMemory entry'

theorem keepsMemory_spool (account : String) (hspool : (spoolJson spool).wellFormed) :
    KeepsMemory (auditFormat.applySpoolTransition account spool) := by
  intro entry entry' h hmry
  unfold applySpoolTransition at h
  split at h
  · split at h
    · cases h
      exact inMemory_iff.mpr { inMemory_iff.mp hmry with spool := hspool }
    · cases h
  · cases h

theorem keepsMemory_ids {ids : Json} (hids : ids.wellFormed) :
    KeepsMemory (auditFormat.idsTransition ids) := by
  intro entry entry' h hmry
  unfold idsTransition at h
  split at h
  · cases h
    exact inMemory_iff.mpr { inMemory_iff.mp hmry with ids := hids }
  · cases h

theorem keepsMemory_progress {items : Json} (hitems : items.wellFormed) :
    KeepsMemory (auditFormat.progressTransition items) := by
  intro entry entry' h hmry
  unfold progressTransition at h
  split at h
  · cases h
    exact inMemory_iff.mpr { inMemory_iff.mp hmry with progress := hitems }
  · cases h

theorem keepsMemory_complete (account : String) {terminal : Json} (hterm : terminal.wellFormed) :
    KeepsMemory (auditFormat.completeTransition account terminal) := by
  intro entry entry' h hmry
  unfold completeTransition at h
  split at h
  · split at h
    · split at h
      · split at h
        · cases h
          exact hmry
        · cases h
      · cases h
    · split at h
      · split at h
        · cases h
          exact inMemory_iff.mpr { inMemory_iff.mp hmry with
            reserved := Nat.two_pow_pos 64, ids := rfl, progress := rfl, terminal := hterm }
        · cases h
      · cases h
  · cases h

theorem keepsMemory_clear : KeepsMemory clearSpoolTransition := by
  intro entry entry' h hmry
  unfold clearSpoolTransition at h
  split at h
  · cases h
    exact inMemory_iff.mpr { inMemory_iff.mp hmry with spool := rfl }
  · cases h

/-! ## §6. The execution without a fault. -/

variable {parser : Json.Parser} {account : String}

/-- The file holds these entries, as they are read back. -/
structure Stored (account : String) (final : Option ByteArray) (entries : List JsonEntry) : Prop where
  text : ∃ text, auditFormat.canonicalize account entries = some text
    ∧ (final = some (Json.encode text) ∨ final = none ∧ entries = [])
  memory : ∀ entry ∈ entries, InMemory entry
  read : ∀ entry ∈ entries, readBack entry = entry

variable {entries desired : List JsonEntry} {s : Files}

theorem Stored.accepted
    (h : Stored account final entries) : auditFormat.Accepted account entries := by
  obtain ⟨text, htext, -⟩ := h.text
  exact (canonicalize_iff.mp htext).1

/-- **A store is read as it stands.** -/
theorem Stored.snapshot (parser : Json.Parser) (h : Stored account s.final entries) :
    ∃ text, auditFormat.canonicalize account entries = some text
      ∧ s.snapshot parser account = some ⟨entries, Json.encode text⟩ := by
  obtain ⟨text, htext, hfin | ⟨hfin, rfl⟩⟩ := h.text
  · have hread : entries.map readBack = entries := by
      rw [map_congr_left h.read, map_id']
    refine ⟨text, htext, ?_⟩
    unfold Files.snapshot
    rw [hfin]
    show (decodeSnapshot parser (Json.encode text) account).map _ = _
    rw [decode_canonicalize parser h.memory htext, hread]
    rfl
  · refine ⟨text, htext, ?_⟩
    unfold Files.snapshot
    rw [hfin]
    show (auditFormat.canonicalize account []).map _ = _
    rw [htext]
    rfl

/-- What is written is a store. -/
theorem stored_written (htext : auditFormat.canonicalize account desired = some text)
    (hmry : ∀ entry ∈ desired, InMemory entry) :
    Stored account (some (Json.encode text)) (desired.map readBack) := by
  refine ⟨⟨text, canonicalize_readBack htext, .inl rfl⟩, ?_, ?_⟩
  · intro entry hent
    obtain ⟨original, horig, rfl⟩ := mem_map.mp hent
    exact inMemory_readBack (hmry original horig)
  · intro entry hent
    obtain ⟨original, horig, rfl⟩ := mem_map.mp hent
    exact readBack_readBack original

theorem accepted_empty (account : String) : auditFormat.Accepted account [] where
  count := Nat.zero_le _
  valid := fun entry hent => absurd hent not_mem_nil
  ordered := List.Pairwise.nil
  distinct := nodup_nil
  supported := supported_document.mpr fun entry hent => absurd hent not_mem_nil
  fits := by
    rw [size_document]
    exact Nat.le_of_ble_eq_true rfl

theorem stored_empty (account : String) : Stored account none [] where
  text := ⟨(auditFormat.document []).text,
    canonicalize_iff.mpr ⟨accepted_empty account, rfl⟩, .inr ⟨rfl, rfl⟩⟩
  memory := fun _ hent => absurd hent not_mem_nil
  read := fun _ hent => absurd hent not_mem_nil

/-- What is kept is kept when it is read back. -/
theorem evolves_readBack (hread : ∀ entry ∈ entries, readBack entry = entry)
    (h : auditFormat.Evolves entries desired) :
    auditFormat.Evolves entries (desired.map readBack) := by
  intro entry hent entry' hent' hkey
  obtain ⟨original, horig, rfl⟩ := mem_map.mp hent'
  obtain ⟨hkey', hinvo, hterm, hprog⟩ := h entry hent original horig hkey
  refine ⟨hkey', hinvo, fun hcompl => ?_, fun hpend hpend' i item hit hset => ?_⟩
  · obtain ⟨hst, heq⟩ := hterm hcompl
    refine ⟨hst, ?_⟩
    show original.terminal.map Json.parsed = entry.terminal
    rw [heq]
    exact congrArg StoreEntry.terminal (hread entry hent)
  · obtain ⟨item', hit', hsame⟩ := hprog hpend hpend' i item hit hset
    refine ⟨item'.parsed, ?_, ?_⟩
    · show (Json.items (Json.parsed original.forwardProgress))[i]? = _
      rw [Json.items_parsed, getElem?_map]
      exact congrArg (Option.map Json.parsed) hit'
    · rw [Json.beq_parsed]
      exact hsame

/-- The execution of a rewrite. -/
theorem run_rewriteSnapshot (expected : ByteArray) (desired : List JsonEntry) (s : Files) :
    ((rewriteSnapshot parser account expected desired).run FileOp.answer s).2.final = s.final
      ∨ ∃ text, auditFormat.canonicalize account desired = some text
        ∧ ((rewriteSnapshot parser account expected desired).run FileOp.answer s).2.final
          = some (Json.encode text) := by
  unfold rewriteSnapshot
  split
  · exact .inl rfl
  rename_i text htext
  rw [run_bind, run_inspectImage]
  cases himage : s.image parser account with
  | error detail => exact .inl rfl
  | ok image =>
    dsimp only
    split
    · exact .inl rfl
    rename_i hsame
    refine .inr ⟨text, htext, ?_⟩
    rw [run_replaceFile _ (temp_none himage fun h => hsame (.inr h))]

/-- What the execution of an operation leaves of a store. -/
def Follows (account : String) (entries : List JsonEntry) (foreign : Prop)
    (final final' : Option ByteArray) : Prop :=
  ∃ entries', Stored account final' entries' ∧ auditFormat.Evolves entries entries'
    ∧ (foreign → final' = final)

theorem Stored.follows (h : Stored account final entries)
    (foreign : Prop) : Follows account entries foreign final final :=
  ⟨entries, h, evolves_subset h.accepted.ordered (List.Subset.refl _), fun _ => rfl⟩

/-- What an operation may rewrite. -/
def Decision.Keeps (entries : List JsonEntry) (foreign : Prop) (decision : Decision) : Prop :=
  ∀ desired result, decision = .rewrite desired result →
    (∀ entry ∈ desired, InMemory entry) ∧ auditFormat.Evolves entries desired ∧ ¬ foreign

/-- **The execution of an operation**: the snapshot follows the decision. -/
theorem run_transact (stale : String) {decision : Snapshot → Decision}
    (hsto : Stored account s.final entries)
    (hkeeps : ∀ bytes, (decision ⟨entries, bytes⟩).Keeps entries foreign) :
    Follows account entries foreign s.final
      ((transact parser account stale decision).run FileOp.answer s).2.final := by
  obtain ⟨text, -, hsnap⟩ := hsto.snapshot parser
  unfold transact
  rw [run_bind, run_inspectImage, image_of_snapshot hsnap]
  dsimp only
  split
  · exact hsto.follows foreign
  have hdecided := hkeeps (Json.encode text)
  cases hdec : decision ⟨entries, Json.encode text⟩ with
  | answer result => exact hsto.follows foreign
  | rewrite desired result =>
    obtain ⟨hmry, hevolves, hown⟩ := hdecided desired result hdec
    rw [run_bind]
    show Follows account entries foreign s.final
      ((rewriteSnapshot parser account (Json.encode text) desired).run FileOp.answer s).2.final
    rcases run_rewriteSnapshot (Json.encode text) desired s with hsame | ⟨text, htext, hfin⟩
    · rw [hsame]
      exact hsto.follows foreign
    · rw [hfin]
      exact ⟨_, stored_written htext hmry, evolves_readBack hsto.read hevolves,
        fun hforn => absurd hforn hown⟩

section Decisions

variable {final : Option ByteArray} {entries : List JsonEntry}

section

variable (hsto : Stored account final entries)
include hsto

/-- The entry an operation names is found. -/
theorem findEntry_of_foreign
    (h : ∃ entry ∈ entries, ∃ invocation', some (key, invocation) = some (entry.keyHash, invocation')
      ∧ invocation' ≠ entry.invocation) :
    ∃ entry, findEntry entries key = some entry ∧ entry.invocation ≠ invocation := by
  obtain ⟨entry, hent, invocation', hnames, hne⟩ := h
  obtain ⟨rfl, rfl⟩ := Prod.mk.inj (Option.some.inj hnames)
  exact ⟨entry, findEntry_of_mem hsto.accepted.ordered hent, hne.symm⟩

theorem keeps_insertion
    (hmry : InMemory entry) (bytes : ByteArray) :
    (insertion account entry ⟨entries, bytes⟩).Keeps entries
      ((Request.insertIfAbsent entry hmry).Foreign entries) := by
  intro desired result h
  unfold insertion at h
  split at h
  · cases h
  rename_i hfree
  split at h
  · cases h
  dsimp only at h
  split at h
  · cases h
  obtain ⟨rfl, -⟩ := Decision.rewrite.inj h
  refine ⟨fun other hother => ?_, evolves_insert hsto.accepted.ordered _ hfree,
    fun hforn => ?_⟩
  · rcases eq_or_mem_of_mem_insertIdx hother with rfl | hmem
    · exact hmry
    · exact hsto.memory other hmem
  · obtain ⟨found, hfound, -⟩ := findEntry_of_foreign hsto hforn
    rw [show findEntry entries entry.keyHash = none from hfree] at hfound
    cases hfound

theorem keeps_mutation (hmry : KeepsMemory transition)
    (hkept : ∀ entry entry', transition entry = .ok entry' → auditFormat.Kept entry entry')
    (preserve : Bool) (bytes : ByteArray) :
    (mutation key invocation transition preserve ⟨entries, bytes⟩).Keeps entries
      (∃ entry ∈ entries, ∃ invocation', some (key, invocation) = some (entry.keyHash, invocation')
        ∧ invocation' ≠ entry.invocation) := by
  intro desired result h
  unfold mutation at h
  split at h
  · cases h
  rename_i entry hfind
  split at h
  · split at h <;> cases h
  rename_i howner
  split at h
  · cases h
  rename_i entry' htrans
  split at h
  · cases h
  obtain ⟨rfl, -⟩ := Decision.rewrite.inj h
  obtain ⟨-, hmem, -⟩ := findEntry_eq_some hfind
  refine ⟨fun other hother => ?_,
    evolves_set hsto.accepted.ordered hmem _ (hkept _ _ htrans),
    fun hforn => ?_⟩
  · rcases mem_or_eq_of_mem_set hother with hin | rfl
    · exact hsto.memory other hin
    · exact hmry _ _ htrans (hsto.memory entry hmem)
  · obtain ⟨found, hfound, hne⟩ := findEntry_of_foreign hsto hforn
    rw [show findEntry entries key = some entry from hfind] at hfound
    cases hfound
    exact howner hne

theorem keeps_removal (key invocation : String)
    (bytes : ByteArray) :
    (removal key invocation ⟨entries, bytes⟩).Keeps entries
      ((Request.removeOwned key invocation).Foreign entries) := by
  intro desired result h
  unfold removal at h
  split at h
  · cases h
  rename_i entry hfind
  split at h
  · cases h
  rename_i howner
  obtain ⟨rfl, -⟩ := Decision.rewrite.inj h
  have hsub : entries.eraseIdx (lowerBound entries key) ⊆ entries :=
    (eraseIdx_sublist _ _).subset
  refine ⟨fun other hother => hsto.memory other (hsub hother),
    evolves_subset hsto.accepted.ordered hsub, fun hforn => ?_⟩
  obtain ⟨found, hfound, hne⟩ := findEntry_of_foreign hsto hforn
  rw [show findEntry entries key = some entry from hfind] at hfound
  cases hfound
  exact howner hne

theorem keeps_sweep (now : Nat) (bytes : ByteArray) :
    (sweep now ⟨entries, bytes⟩).Keeps entries ((Request.sweepExpired now).Foreign entries) := by
  intro desired result h
  unfold sweep at h
  dsimp only at h
  split at h
  · cases h
  obtain ⟨rfl, -⟩ := Decision.rewrite.inj h
  have hsub : (entries.filter fun entry => !decide (entry.expiresAt ≤ now)) ⊆ entries :=
    filter_sublist.subset
  refine ⟨fun other hother => hsto.memory other (hsub hother),
    evolves_subset hsto.accepted.ordered hsub, ?_⟩
  rintro ⟨entry, -, invocation, hnames, -⟩
  cases hnames

end

end Decisions

/-- The execution of `update_spool` ends with the preflight or is that of the
transition. -/
theorem run_updateSpool (key invocation : String) (spool : SpoolRef) (s : Files) :
    ((updateSpool parser account key invocation spool).run FileOp.answer s).2.final = s.final
      ∨ ((updateSpool parser account key invocation spool).run FileOp.answer s).2.final
        = ((mutateOwnedEntry parser account key invocation
            (auditFormat.applySpoolTransition account spool) false).run FileOp.answer s).2.final := by
  unfold updateSpool preflightSpoolUpdate
  rw [bind_assoc, run_bind, run_inspectImage]
  cases s.image parser account with
  | error detail => exact .inl rfl
  | ok image =>
    dsimp only
    split
    · exact .inl rfl
    split
    · exact .inl rfl
    split
    · exact .inl rfl
    split
    · exact .inl rfl
    split
    · exact .inl rfl
    · exact .inr rfl

theorem run_cleanupStaleTemp (s : Files) :
    ((cleanupStaleTemp parser account).run FileOp.answer s).2.final = s.final := by
  unfold cleanupStaleTemp
  rw [run_bind, run_inspectImage]
  cases s.image parser account with
  | error detail => rfl
  | ok image =>
    dsimp only
    split
    · rfl
    rw [run_bind]
    obtain ⟨final, temp⟩ := s
    cases temp with
    | none => rfl
    | some bytes => rfl

/-- A reconciled snapshot replaces the store as a whole. -/
theorem run_applyReconciledSnapshot :
    ((applyReconciledSnapshot parser account expected desired).run FileOp.answer s).2.final = s.final
      ∨ ∃ text, auditFormat.canonicalize account desired = some text
        ∧ ((applyReconciledSnapshot parser account expected desired).run FileOp.answer s).2.final
          = some (Json.encode text) := by
  unfold applyReconciledSnapshot
  split
  · exact .inl rfl
  split
  · exact .inl rfl
  · rw [run_bind]
    exact run_rewriteSnapshot _ _ s

/-- **What an operation makes of a store, when nothing fails.** -/
theorem run_program (parser : Json.Parser) (request : Request)
    (hsto : Stored account s.final entries) (hown : request.reconciles = false) :
    Follows account entries (request.Foreign entries) s.final
      ((request.program parser account).run FileOp.answer s).2.final := by
  cases request with
  | insertIfAbsent entry memory =>
    show Follows _ _ _ _ ((insertIfAbsent parser account entry).run FileOp.answer s).2.final
    unfold insertIfAbsent
    split
    · exact hsto.follows _
    · exact run_transact _ hsto (keeps_insertion hsto memory)
  | updateSpool key invocation spool memory =>
    show Follows _ _ _ _ ((updateSpool parser account key invocation spool).run _ s).2.final
    rcases run_updateSpool key invocation spool s with hsame | hmut
    · rw [hsame]
      exact hsto.follows _
    · rw [hmut]
      exact run_transact _ hsto
        (keeps_mutation hsto (keepsMemory_spool account memory)
          (fun _ _ => kept_of_spool) false)
  | updateTemporaryMessageIds key invocation ids memory =>
    exact run_transact _ hsto
      (keeps_mutation hsto (keepsMemory_ids memory) (fun _ _ => kept_of_ids) false)
  | updateForwardProgress key invocation items memory =>
    exact run_transact _ hsto
      (keeps_mutation hsto (keepsMemory_progress memory)
        (fun _ _ => kept_of_progress) false)
  | complete key invocation terminal memory =>
    exact run_transact _ hsto
      (keeps_mutation hsto (keepsMemory_complete account memory)
        (fun _ _ => kept_of_complete) false)
  | removeOwned key invocation =>
    exact run_transact _ hsto (keeps_removal hsto key invocation)
  | clearSpool key invocation =>
    exact run_transact _ hsto
      (keeps_mutation hsto keepsMemory_clear (fun _ _ => kept_of_clear) false)
  | sweepExpired now =>
    show Follows _ _ _ _ ((sweepExpired parser account now).run FileOp.answer s).2.final
    unfold sweepExpired
    split
    · exact hsto.follows _
    · exact run_transact _ hsto (keeps_sweep hsto now)
  | applyReconciledSnapshot expected desired memory => cases hown
  | cleanupStaleTemp =>
    show Follows _ _ _ _ ((cleanupStaleTemp parser account).run FileOp.answer s).2.final
    rw [run_cleanupStaleTemp]
    exact hsto.follows _

/-! ## §7. Runs. -/

/-- What an operation can leave: at its end, or at a crash. -/
def Request.Leaves (parser : Json.Parser) (account : String) (request : Request) (s s' : Files) :
    Prop :=
  (∃ result, Ends (fileCalls true) (request.program parser account) s result s')
    ∨ Cut (fileCalls true) (request.program parser account) s s'

/-- The stores that operations make from the empty one. -/
def Reachable (parser : Json.Parser) (account : String) (s : Files) : Prop :=
  Relation.ReflTransGen (fun s s' => ∃ request : Request, request.Leaves parser account s s') {} s

theorem leaves_final {request : Request} (h : request.Leaves parser account s s') :
    s'.final = s.final
      ∨ s'.final = ((request.program parser account).run FileOp.answer s).2.final := by
  have hcomm : Committed true (·.status = .failed) (request.program parser account) s :=
    committed_program request s
  rcases h with ⟨result, hends⟩ | hcut
  · exact (hcomm.ends result s' hends).1
  · exact hcomm.cut s' hcut

/-- The step: an operation leaves a store. -/
theorem stored_leaves {request : Request} (hsto : Stored account s.final entries)
    (h : request.Leaves parser account s s') : ∃ entries', Stored account s'.final entries' := by
  rcases leaves_final h with hsame | hrun
  · exact ⟨entries, hsame ▸ hsto⟩
  · rw [hrun]
    cases hreconciles : request.reconciles with
    | false =>
      obtain ⟨entries', hsto', -⟩ := run_program parser request hsto hreconciles
      exact ⟨entries', hsto'⟩
    | true =>
      cases request with
      | applyReconciledSnapshot expected desired memory =>
        show ∃ entries', Stored account
          ((applyReconciledSnapshot parser account expected desired).run _ s).2.final entries'
        rcases run_applyReconciledSnapshot with hsame | ⟨text, htext, hfin⟩
        · rw [hsame]
          exact ⟨entries, hsto⟩
        · rw [hfin]
          exact ⟨_, stored_written htext memory⟩
      | _ => cases hreconciles

/-- The run: every reachable file holds a store. -/
theorem stored_reachable (h : Reachable parser account s) :
    ∃ entries, Stored account s.final entries := by
  induction h with
  | refl => exact ⟨[], stored_empty account⟩
  | tail _ hstep ih =>
    obtain ⟨entries, hsto⟩ := ih
    obtain ⟨request, hlv⟩ := hstep
    exact stored_leaves hsto hlv

/-- **The store over all its operations.**  In every run the file reads as a
sorted snapshot of valid entries with distinct invocations.  Every operation
that does not bring its snapshot along keeps the terminals of completed entries
and the settled forward items; one that names the entry of another invocation
leaves the file, and one that fails leaves it too, if nothing fails after the
rename, and otherwise leaves the file of its success. -/
theorem store_runs (parser : Json.Parser) (account : String) {s : Files}
    (h : Reachable parser account s) :
    ∃ snapshot, s.snapshot parser account = some snapshot ∧ Sorted snapshot.entries
      ∧ (snapshot.entries.map (·.invocation)).Nodup
      ∧ (∀ entry ∈ snapshot.entries, auditFormat.validEntry account entry = true)
      ∧ ∀ (request : Request) (s' : Files), (request.Leaves parser account s s' →
          (∃ snapshot', s'.snapshot parser account = some snapshot' ∧ (request.reconciles = false →
              auditFormat.Evolves snapshot.entries snapshot'.entries))
          ∧ (request.Foreign snapshot.entries → s'.final = s.final)
          ∧ (s'.final = s.final
            ∨ s'.final = ((request.program parser account).run FileOp.answer s).2.final))
        ∧ ∀ result, Ends (fileCalls false) (request.program parser account) s result s' →
          result.status = .failed → s'.final = s.final := by
  obtain ⟨entries, hsto⟩ := stored_reachable h
  obtain ⟨text, -, hsnap⟩ := hsto.snapshot parser
  refine ⟨⟨entries, Json.encode text⟩, hsnap, hsto.accepted.ordered, hsto.accepted.distinct,
    hsto.accepted.valid, fun request s' => ⟨fun hlv => ?_, fun result hends hfailed => ?_⟩⟩
  · have hfin := leaves_final hlv
    refine ⟨?_, fun hforn => ?_, hfin⟩
    · cases hreconciles : request.reconciles with
      | true =>
        obtain ⟨entries', hsto'⟩ := stored_leaves hsto hlv
        obtain ⟨text', -, hsnap'⟩ := hsto'.snapshot parser
        exact ⟨_, hsnap', nofun⟩
      | false =>
        have hfol : Follows account entries (request.Foreign entries) s.final s'.final := by
          rcases hfin with hsame | hrun
          · rw [hsame]
            exact hsto.follows _
          · rw [hrun]
            exact run_program parser request hsto hreconciles
        obtain ⟨entries', hsto', hevolves, -⟩ := hfol
        obtain ⟨text', -, hsnap'⟩ := hsto'.snapshot parser
        exact ⟨_, hsnap', fun _ => hevolves⟩
    · rcases hfin with hsame | hrun
      · exact hsame
      · have hreconciles : request.reconciles = false := by
          obtain ⟨entry, -, invocation, hnames, -⟩ := hforn
          cases request with
          | applyReconciledSnapshot expected desired memory => cases hnames
          | _ => rfl
        obtain ⟨entries', -, -, hsame⟩ := run_program parser request hsto hreconciles
        exact hrun.trans (hsame hforn)
  · have hcomm : Committed false (·.status = .failed) (request.program parser account) s :=
      committed_program request s
    exact (hcomm.ends result s' hends).2 rfl hfailed

/-! ## §8. Stores of leaves. -/

/-- The calls that succeed whenever they can, those after the rename as told. -/
def FileOp.settling (settled : Bool) (op : FileOp) (s : Files) : Bool × Files :=
  match op with
  | .settle => (settled, s)
  | op => op.answer s

theorem settling_exec (settled : Bool) (op : FileOp) (s : Files) :
    (fileCalls true).exec op s (op.settling settled s).1 (op.settling settled s).2 := by
  cases op with
  | settle =>
    cases settled with
    | true => exact .inl ⟨rfl, rfl⟩
    | false => exact .inr ⟨rfl, fun _ => rfl, .inl rfl⟩
  | _ => exact answer_exec _ s

/-- An insertion that has room is written, whether it succeeds or fails late. -/
theorem ends_insertIfAbsent {entry : JsonEntry} (settled : Bool)
    (hsto : Stored account s.final entries) (htemp : s.temp = none) (hpend : entry.state = .pending)
    (hfind : findEntry entries entry.keyHash = none) (hroom : entries.length < kStoreMaximumEntries)
    (hinsert : entries.insertIdx (lowerBound entries entry.keyHash) entry = desired)
    (hmem : entry ∈ desired) (htext : auditFormat.canonicalize account desired = some text) :
    Ends (fileCalls true) (insertIfAbsent parser account entry) s
      (StoreResult.written { status := .inserted }
        (if settled then .ok ⟨desired, Json.encode text⟩ else .error ""))
      { final := some (Json.encode text) } := by
  have hval := (canonicalize_iff.mp htext).1.valid entry hmem
  obtain ⟨old, -, hsnap⟩ := hsto.snapshot parser
  have hdecide : insertion account entry ⟨entries, Json.encode old⟩
      = .rewrite desired { status := .inserted } := by
    unfold insertion
    dsimp only
    rw [hfind, hinsert, htext]
    exact if_neg (not_le.mpr hroom)
  have hinsp : (inspectImage parser account).run (FileOp.settling settled) s
      = (.ok ⟨⟨entries, Json.encode old⟩, false⟩, s) := by
    show (s.image parser account, _) = _
    rw [image_of_snapshot hsnap, htemp]
    rfl
  have hreplace : ∀ desired, (replaceFile desired).run (FileOp.settling settled) s
      = (if settled then .ok desired else .error "", { final := some desired.bytes }) := by
    intro desired
    obtain ⟨final, temp⟩ := s
    obtain rfl : temp = none := htemp
    cases settled with
    | true => rfl
    | false => rfl
  have hends := ends_run (settling_exec settled) (insertIfAbsent parser account entry) s
  unfold insertIfAbsent transact rewriteSnapshot at hends ⊢
  rw [if_neg (by simp [hval, hpend])] at hends ⊢
  rw [run_bind, hinsp] at hends
  dsimp only at hends
  rw [if_neg Bool.false_ne_true, hdecide] at hends
  dsimp only at hends
  rw [htext, run_bind, run_bind, hinsp] at hends
  dsimp only at hends
  rw [if_neg (by simp), hreplace] at hends
  exact hends

/-- The first insertion ends with the file of the leave. -/
theorem ends_insertIfAbsent_leaveEntry (settled : Bool)
    (htext : auditFormat.canonicalize "main" [leaveEntry] = some text) :
    Ends (fileCalls true)
      ((Request.insertIfAbsent leaveEntry inMemory_leaveEntry).program parser "main") {}
      (StoreResult.written { status := .inserted }
        (if settled then .ok ⟨[leaveEntry], Json.encode text⟩ else .error ""))
      { final := some (Json.encode text) } :=
  ends_insertIfAbsent settled (stored_empty "main") rfl rfl rfl (by decide) rfl mem_cons_self htext

/-- The store of the two pending leaves is reachable. -/
theorem store_runs_leave : ∃ s, Reachable .reference "main" s
      ∧ ∃ snapshot, s.snapshot .reference "main" = some snapshot ∧ snapshot.entries.length = 2
        ∧ Sorted snapshot.entries := by
  obtain ⟨text, htext⟩ := canonicalize_leaveEntry
  obtain ⟨text', htext'⟩ := canonicalize_otherEntry
  have hfirst : Reachable .reference "main" { final := some (Json.encode text) } :=
    .single ⟨_, .inl ⟨_, ends_insertIfAbsent_leaveEntry true htext⟩⟩
  have hother : InMemory otherEntry := inMemory_otherEntry _ (mem_cons_of_mem _ mem_cons_self)
  have hsecond : Ends _ (insertIfAbsent .reference "main" otherEntry) _ _ _ :=
    ends_insertIfAbsent (s := { final := _ }) true
      (stored_written htext (by simpa using inMemory_leaveEntry)) rfl rfl rfl (by decide) rfl
      (mem_cons_of_mem _ mem_cons_self) htext'
  have hreachable : Reachable .reference "main" { final := some (Json.encode text') } :=
    hfirst.tail ⟨.insertIfAbsent otherEntry hother, .inl ⟨_, hsecond⟩⟩
  obtain ⟨snapshot, hsnap, hsrt, -⟩ := store_runs .reference "main" hreachable
  obtain ⟨_, -, hread⟩ :=
    (stored_written htext' inMemory_otherEntry).snapshot .reference (s := { final := _ })
  obtain rfl := Option.some.inj (hsnap.symm.trans hread)
  exact ⟨_, hreachable, _, hsnap, rfl, hsrt⟩

/-- The leave after the daemon was shut down. -/
def shutdownTerminal : Json :=
  .obj
    [("code", .str "DAEMON_SHUTDOWN"), ("details", .obj [("reason", .str "daemon_shutdown")]),
      ("exit_code", .int 1), ("kind", .str "error"), ("message", .str "daemon is shutting down")]

/-- The completed leave makes a store. -/
theorem canonicalize_completion (terminal : Json) (charge : Nat)
    (hchg : auditFormat.mutableCharge (auditFormat.completion leaveEntry terminal) = some charge)
    (hle : charge ≤ terminalReservation leaveEntry.operation)
    (hval : auditFormat.validTerminal leaveEntry.operation terminal leaveEntry.plan "main") :
    ∃ text, auditFormat.canonicalize "main" [auditFormat.completion leaveEntry terminal]
      = some text := by
  obtain ⟨text, htext⟩ := canonicalize_leaveEntry
  have hacc : auditFormat.Accepted "main" ([] ++ leaveEntry :: []) :=
    (canonicalize_iff.mp htext).1
  obtain ⟨hacc', -⟩ := accepted_update hacc rfl (.complete terminal hval)
    hchg hle
  exact ⟨_, canonicalize_iff.mpr ⟨hacc', rfl⟩⟩

/-- A reconciled snapshot is written over the one it expects. -/
theorem reconciled_leaves
    (hsnap : s.snapshot parser account = some snapshot) (htemp : s.temp = none)
    (htext : auditFormat.canonicalize account desired = some text)
    (hnew : Json.encode text ≠ snapshot.bytes) (memory : ∀ entry ∈ desired, InMemory entry) :
    (Request.applyReconciledSnapshot snapshot desired memory).Leaves parser account s
      { final := some (Json.encode text) } := by
  have hrun : ((applyReconciledSnapshot parser account snapshot desired).run FileOp.answer s).2
      = { final := some (Json.encode text) } := by
    unfold applyReconciledSnapshot
    rw [htext]
    dsimp only
    rw [if_neg hnew, run_bind]
    show ((rewriteSnapshot parser account snapshot.bytes desired).run FileOp.answer s).2 = _
    unfold rewriteSnapshot
    rw [htext]
    rw [run_bind, run_inspectImage, image_of_snapshot hsnap]
    dsimp only
    rw [if_neg (by simp [htemp]), run_replaceFile _ htemp]
  have hends := ends_run answer_exec
    ((Request.applyReconciledSnapshot snapshot desired memory).program parser account) s
  rw [show (((Request.applyReconciledSnapshot snapshot desired memory).program parser account).run
    FileOp.answer s).2 = { final := some (Json.encode text) } from hrun] at hends
  exact .inl ⟨_, hends⟩

/-- **An operation that fails can leave another file, and a reconciled snapshot
can bring another terminal.**  The directory sync of the first insertion fails
after the rename; and the completed leave gets the terminal of a shutdown, by a
snapshot the operation accepts and reconciliation does not make. -/
theorem store_changes : (∃ result s', Ends (fileCalls true)
        ((Request.insertIfAbsent leaveEntry inMemory_leaveEntry).program .reference "main") {}
        result s'
      ∧ result.status = .failed ∧ s'.final ≠ ({} : Files).final)
    ∧ ∃ s s' snapshot snapshot' entry entry' request, Reachable .reference "main" s
      ∧ Request.Leaves .reference "main" request s s'
      ∧ s.snapshot .reference "main" = some snapshot
      ∧ s'.snapshot .reference "main" = some snapshot'
      ∧ entry ∈ snapshot.entries ∧ entry' ∈ snapshot'.entries
      ∧ entry'.keyHash = entry.keyHash ∧ entry.state = .completed
      ∧ entry.terminal = some leaveTerminal.parsed
      ∧ entry'.terminal = some shutdownTerminal.parsed := by
  constructor
  · obtain ⟨text, htext⟩ := canonicalize_leaveEntry
    exact ⟨_, _, ends_insertIfAbsent_leaveEntry false htext, rfl, nofun⟩
  · have hmry : ∀ terminal : Json, terminal.wellFormed →
        ∀ entry ∈ [auditFormat.completion leaveEntry terminal], InMemory entry := by
      intro terminal hterm entry hent
      obtain rfl := mem_singleton.mp hent
      exact inMemory_iff.mpr { inMemory_iff.mp inMemory_leaveEntry with
        reserved := Nat.two_pow_pos 64, ids := rfl, progress := rfl, spool := rfl, terminal := hterm }
    have hleave := hmry leaveTerminal (by decide +kernel)
    have hshut := hmry shutdownTerminal (by decide +kernel)
    obtain ⟨text, htext⟩ := canonicalize_completion leaveTerminal 50
      (by decide +kernel) (by decide) (by decide +kernel)
    obtain ⟨text', htext'⟩ := canonicalize_completion shutdownTerminal 126
      (by decide +kernel) (by decide) (by decide +kernel)
    -- Both snapshots are reconciled ones, the first over the empty store.
    obtain ⟨empty, hcanonical, hemp⟩ := (stored_empty "main").snapshot .reference (s := {})
    obtain ⟨text₁, htext₁, hsnap⟩ :=
      (stored_written htext hleave).snapshot .reference (s := { final := _ })
    obtain ⟨text₂, -, hsnap'⟩ :=
      (stored_written htext' hshut).snapshot .reference (s := { final := _ })
    obtain rfl : text = text₁ := Option.some.inj ((canonicalize_readBack htext).symm.trans htext₁)
    have hread := decode_canonicalize .reference hleave htext
    have hread' := decode_canonicalize .reference hshut htext'
    -- Equal bytes would be read as equal entries.
    have hfirst : Json.encode text ≠ Json.encode empty := by
      intro heq
      have hnone := decode_canonicalize .reference (stored_empty "main").memory hcanonical
      rw [← heq, hread] at hnone
      cases (Prod.mk.inj (Option.some.inj hnone)).1
    have hsecond : Json.encode text' ≠ Json.encode text := by
      intro heq
      rw [heq, hread] at hread'
      have hents := (Prod.mk.inj (Option.some.inj hread')).1
      have hterm : some leaveTerminal.parsed = some shutdownTerminal.parsed :=
        congrArg StoreEntry.terminal (List.cons.inj hents).1
      have hcode := congrArg (Option.map fun terminal => terminal.contains "code") hterm
      exact absurd hcode (by decide)
    have hreachable : Reachable .reference "main" { final := some (Json.encode text) } :=
      .single ⟨_, reconciled_leaves hemp rfl htext hfirst hleave⟩
    refine ⟨_, _, _, _, readBack (auditFormat.completion leaveEntry leaveTerminal),
      readBack (auditFormat.completion leaveEntry shutdownTerminal), _, hreachable,
      reconciled_leaves hsnap rfl htext' hsecond hshut,
      hsnap, hsnap', mem_singleton_self _, mem_singleton_self _, rfl, rfl, rfl,
      rfl⟩

end TgCli.Store
