/-
  TgCli.Audit.Directory — THE STATE DIRECTORY OF ONE ACCOUNT, AND ITS READER

  The audit segments, the idempotency store and the attachment spool of one
  account, and the calls that change them.  A call succeeds, or fails: then it
  may have done nothing, a part or all of its work.  A crash inside a call
  leaves what a failed or finished call can leave.

  `outcomes` and `dispatched` are not files: they record which outcome lines
  became durable and which requests were handed to TDLib, for the statements
  about whole runs.

  Slot 0 is `audit.log`, slot `i` is `audit.log.i`.  Both readers scan the
  slots from 4 down to 0; both writers append to slot 0.  The inode of a
  segment is its generation: two segments never share one.

  `AccountAuditLog::inspect_unfinalized` (`account_audit.cpp`) reads the five
  segments from the oldest to the newest: logout records first, then only
  records of version 2.  It returns the group that is open at the end, and
  hands out every completed group it passes.

  `LogoutAuditRecordAdapter` takes the records of logout groups one by one and
  remembers the groups without an outcome; both readers of the log use it.

  `contradiction` and `unavailable` carry the detail text of the failure.

  Main results:
    * `scan_rename` — a rename into a free slot keeps the scan;
    * `scan_unlink_sublist` — an unlink drops at most one segment;
    * `scan_mapActive`, `scan_create` — what an append does to the scan.
-/
import TgCli.Audit.Group
import TgCli.Lib.CrashProgram
import TgCli.Lib.Folds
import TgCli.Lib.Slots

namespace TgCli.Audit

open Lib Prog List Slots

/-! ## §1. One segment. -/

/-- Whole lines and the length of an unfinished last line. -/
structure Content where
  lines : List Line := []
  tail : Nat := 0
deriving DecidableEq, Repr

namespace Content

/-- The content after one more line: it continues an unfinished line. -/
def write (content : Content) (line : Line) : Content :=
  if content.tail = 0 then { lines := content.lines ++ [line] }
  else { lines := content.lines ++ [.malformed (content.tail + line.text)] }

/-- The content after the first `count` bytes of a line. -/
def tear (content : Content) (count : Nat) : Content :=
  { content with tail := content.tail + count }

end Content

structure Segment extends Content where
  inode : Nat
deriving DecidableEq, Repr

namespace Segment

/-- `st_size`. -/
def size (segment : Segment) : Nat :=
  (segment.lines.map Line.bytes).sum + segment.tail

/-- The segment with other content. -/
def mapContent (f : Content → Content) (segment : Segment) : Segment :=
  { toContent := f segment.toContent, inode := segment.inode }

end Segment

/-! ## §2. The five slots. -/

/-- The number of slots. -/
def kSegments : Nat := 5

open Segment

/-- The slots with segments of different inodes. -/
structure Segments where
  slot : Slots Segment
  distinct : ((scanned kSegments slot).map inode).Nodup

namespace Segments

/-- The segments in scan order: `audit.log.4` first, `audit.log` last. -/
def scan (s : Segments) : List Segment := scanned kSegments s.slot

def inodes (s : Segments) : List Nat := s.scan.map inode

/-- The segments before `audit.log`. -/
def older (s : Segments) : List Segment := scanned 4 fun k => s.slot (k + 1)

/-- `audit.log`. -/
def active (s : Segments) : Option Segment := s.slot 0

theorem scan_eq (s : Segments) : s.scan = s.older ++ s.active.toList :=
  scanned_succ_last s.slot 4

/-- No segment. -/
def empty : Segments := ⟨fun _ => none, by simp [scanned, kSegments]⟩

/-- `unlinkat`. -/
def unlink (s : Segments) (i : Nat) : Segments where
  slot := s.slot.put i none
  distinct := s.distinct.sublist ((scanned_put_none_sublist s.slot i kSegments).map _)

/-- `renameat` of `audit.log.i` to `audit.log.(i + 1)`, over what is there. -/
def rename (s : Segments) (i : Nat) : Segments :=
  if h : i + 1 < kSegments then
    { slot := (s.slot.put (i + 1) none).move i (i + 1)
      distinct := by
        rw [scanned_shift h (put_same _ _ _)]
        exact (s.unlink (i + 1)).distinct }
  else s

/-- `audit.log` with other content. -/
def mapActive (s : Segments) (f : Content → Content) : Segments where
  slot := s.slot.put 0 (s.active.map (mapContent f))
  distinct := by
    have hinodes : (scanned kSegments
        (s.slot.put 0 (s.active.map (mapContent f)))).map inode = s.inodes := by
      rw [inodes, scan_eq, kSegments, scanned_succ_last]
      simp only [put_same, map_append]
      congr 1
      cases s.active <;> rfl
    rw [hinodes]
    exact s.distinct

/-- `open` with `O_CREAT`: an empty `audit.log` with a new inode where there is none. -/
def create (s : Segments) (inode : Nat) : Segments :=
  if h : s.active = none ∧ inode ∉ s.inodes then
    { slot := s.slot.put 0 (some { inode := inode })
      distinct := by
        rw [kSegments, scanned_succ_last]
        have hnd := s.distinct
        rw [kSegments, scanned_succ_last] at hnd
        have hact : s.slot 0 = none := h.1
        have hfresh := h.2
        rw [inodes, scan_eq, active, hact] at hfresh
        rw [hact] at hnd
        simp only [Option.toList_none, append_nil] at hnd hfresh
        simp only [put_same, Option.toList_some, map_append, map_cons, map_nil]
        apply nodup_append.mpr
        refine ⟨hnd, nodup_singleton _, ?_⟩
        intro a ha b hb
        rw [mem_singleton.mp hb]
        intro heq
        subst heq
        exact hfresh ha }
  else s

/-- One line appended to `audit.log`, which is created when it is missing. -/
def append (s : Segments) (inode : Nat) (line : Line) : Segments :=
  (s.create inode).mapActive (·.write line)

/-! ## §3. What the calls do to the scan. -/

theorem scan_unlink_sublist (s : Segments) (i : Nat) : (s.unlink i).scan.Sublist s.scan :=
  scanned_put_none_sublist s.slot i kSegments

variable {s : Segments} {i : Nat} {segment : Segment}

theorem scan_unlink (hi : i < kSegments)
    (h : s.slot i = some segment) : (s.unlink i).scan = s.scan.erase segment :=
  scanned_put_none hi h (List.Nodup.of_map _ s.distinct)

/-- The oldest segment is scanned first. -/
theorem scan_unlink_oldest (h : s.slot 4 = some oldest) : s.scan = oldest :: (s.unlink 4).scan := by
  show (s.slot 4).toList ++ scanned 4 s.slot = _
  rw [h]
  show oldest :: scanned 4 s.slot = oldest :: scanned 5 (s.slot.put 4 none)
  rw [scanned_succ_put_none]

theorem put_none_self {f : Slots Segment} (h : f i = none) : f.put i none = f := by
  funext k
  by_cases hk : k = i
  · subst hk
    rw [put_same, h]
  · exact put_ne _ _ hk

theorem slot_rename (hi : i + 1 < kSegments)
    (hfree : s.slot (i + 1) = none) : (s.rename i).slot = s.slot.move i (i + 1) := by
  rw [rename, dif_pos hi]
  show (s.slot.put (i + 1) none).move i (i + 1) = _
  rw [put_none_self hfree]

/-- **A rename into a free slot keeps the scan.** -/
theorem scan_rename (hi : i + 1 < kSegments)
    (hfree : s.slot (i + 1) = none) : (s.rename i).scan = s.scan := by
  rw [scan, slot_rename hi hfree, scanned_shift hi hfree]
  rfl

/-- The slot a segment left is free. -/
theorem slot_rename_source (hi : i + 1 < kSegments) : (s.rename i).slot i = none := by
  rw [rename, dif_pos hi]
  exact put_same _ _ _

@[simp] theorem active_mapActive (s : Segments) (f : Content → Content) :
    (s.mapActive f).active = s.active.map (mapContent f) :=
  put_same s.slot 0 _

@[simp] theorem older_mapActive (s : Segments) (f : Content → Content) :
    (s.mapActive f).older = s.older := rfl

theorem scan_mapActive (s : Segments) (f : Content → Content) :
    (s.mapActive f).scan = s.older ++ (s.active.map (mapContent f)).toList := by
  rw [scan_eq, older_mapActive, active_mapActive]

@[simp] theorem older_create (s : Segments) (inode : Nat) : (s.create inode).older = s.older := by
  by_cases h : s.active = none ∧ inode ∉ s.inodes
  · rw [create, dif_pos h]
    rfl
  · rw [create, dif_neg h]

theorem active_create_some (h : s.active = some segment) (inode : Nat) : s.create inode = s := by
  rw [create, dif_neg]
  rw [h]
  simp

theorem active_create_none (h : s.active = none) {inode : Nat}
    (hfresh : inode ∉ s.inodes) : (s.create inode).active = some { inode := inode } := by
  rw [create, dif_pos ⟨h, hfresh⟩]
  exact put_same s.slot 0 _

end Segments

/-! ## §4. The store and the spool. -/

/-- `IdempotencyEntry` with the payloads of the audit records. -/
abbrev Entry : Type := StoreEntry Plan (List Int) (List ForwardItem) Terminal

def pins (entries : List Entry) : List Pin := entries.map StoreEntry.pin

/-- A file in the spool with the bytes written so far. -/
structure SpoolFile where
  name : String
  bytes : Nat := 0
deriving DecidableEq, Repr

/-- The directory of one invocation in the spool. -/
structure SpoolDirectory where
  invocation : String
  file : Option SpoolFile := none
deriving DecidableEq, Repr

/-! ## §5. The state. -/

/-- A request handed to TDLib, with the outcomes that were durable by then. -/
structure Dispatch where
  invocation : String
  keyHash : Option String
  expiresAt : Nat
  answered : List (String × MutationState)
deriving DecidableEq, Repr

structure AccountDir where
  segments : Segments
  entries : List Entry := []
  spoolRoot : Bool := false
  spool : List SpoolDirectory := []
  outcomes : List (String × MutationState) := []
  dispatched : List Dispatch := []

namespace AccountDir

/-- A fresh account. -/
def empty : AccountDir := { segments := .empty }

/-- The directory of an invocation. -/
def directory (s : AccountDir) (invocation : String) : Option SpoolDirectory :=
  s.spool.find? (·.invocation == invocation)

/-- The spool with another file in the directory of an invocation. -/
def setFile (s : AccountDir) (invocation : String) (file : Option SpoolFile) : AccountDir :=
  { s with spool := s.spool.map fun d =>
      if d.invocation = invocation then { d with file := file } else d }

/-- The outcome a line carries. -/
def lineOutcome : Line → List (String × MutationState)
  | .v2 (.outcome outcome) => [(outcome.invocation, outcome.mutation)]
  | _ => []

/-- The next line of `audit.log` starts on a line of its own. -/
def lineStarts (s : AccountDir) : Bool :=
  match s.segments.active with
  | some segment => segment.tail == 0
  | none => true

/-- A line appended to `audit.log`. -/
def appendLine (s : AccountDir) (inode : Nat) (line : Line) : AccountDir :=
  { s with
    segments := s.segments.append inode line
    outcomes := if s.lineStarts then s.outcomes ++ lineOutcome line else s.outcomes }

/-- `audit.log` created, with the first bytes of a line. -/
def tearLine (s : AccountDir) (inode count : Nat) : AccountDir :=
  { s with segments := (s.segments.create inode).mapActive (·.tear count) }

end AccountDir

/-! ## §6. Calls. -/

inductive Op where
  | unlinkSegment (i : Nat)
  /-- `audit.log.i` to `audit.log.(i + 1)`, over what is there -/
  | renameSegment (i : Nat)
  /-- the same with `RENAME_NOREPLACE` -/
  | renameExclusive (i : Nat)
  | append (line : Line)
  | rewriteStore (entries : List Entry)
  | makeSpoolRoot
  | makeInvocation (invocation : String)
  | createFile (invocation name : String)
  | writeFile (invocation : String) (file : SpoolFile)
  | removeFile (invocation : String)
  | removeInvocation (invocation : String)
  | dispatch (d : Dispatch)
deriving DecidableEq, Repr

namespace Op

/-- What a call does; `none` when it has to fail. -/
def effect (inode : Nat) : Op → AccountDir → Option AccountDir
  | unlinkSegment i, s =>
    if s.segments.slot i = none then none else some { s with segments := s.segments.unlink i }
  | renameSegment i, s =>
    if s.segments.slot i = none then none else some { s with segments := s.segments.rename i }
  | renameExclusive i, s =>
    if s.segments.slot i = none ∨ s.segments.slot (i + 1) ≠ none then none
    else some { s with segments := s.segments.rename i }
  | append line, s => some (s.appendLine inode line)
  | rewriteStore entries, s => some { s with entries := entries }
  | makeSpoolRoot, s => if s.spoolRoot then none else some { s with spoolRoot := true }
  | makeInvocation invocation, s =>
    if !s.spoolRoot || (s.directory invocation).isSome then none
    else some { s with spool := s.spool ++ [{ invocation := invocation }] }
  | createFile invocation name, s =>
    match s.directory invocation with
    | some { file := none, .. } => some (s.setFile invocation (some { name := name }))
    | _ => none
  | writeFile invocation file, s =>
    match s.directory invocation with
    | some { file := some _, .. } => some (s.setFile invocation (some file))
    | _ => none
  | removeFile invocation, s =>
    match s.directory invocation with
    | some { file := some _, .. } => some (s.setFile invocation none)
    | _ => none
  | removeInvocation invocation, s =>
    match s.directory invocation with
    | some { file := none, .. } =>
      some { s with spool := s.spool.filter (·.invocation != invocation) }
    | _ => none
  | dispatch d, s => some { s with dispatched := d :: s.dispatched }

/-- What a call can leave half done. -/
def torn (inode : Nat) : Op → AccountDir → AccountDir → Prop
  | append line, s, s' => ∃ count, count < line.bytes ∧ s' = s.tearLine inode count
  | writeFile invocation file, s, s' =>
    ∃ bytes, bytes < file.bytes ∧ (s.directory invocation).any (·.file.isSome) = true
      ∧ s' = s.setFile invocation (some { file with bytes := bytes })
  | _, _, _ => False

/-- What a failed call can leave; a hook that is invoked does not fail. -/
def failed (inode : Nat) (op : Op) (s s' : AccountDir) : Prop :=
  (∀ d, op ≠ .dispatch d) ∧ (s' = s ∨ op.effect inode s = some s' ∨ op.torn inode s s')

end Op

/-- An inode no segment has. -/
def Segments.Fresh (s : Segments) (inode : Nat) : Prop := 0 < inode ∧ inode ∉ s.inodes

/-- **Every call can fail, and a crash can hit every call.** -/
def faultyCalls : Calls AccountDir (fun _ : Op => Bool) where
  exec op s ok s' := ∃ inode, s.segments.Fresh inode
    ∧ ((ok = true ∧ op.effect inode s = some s') ∨ (ok = false ∧ op.failed inode s s'))
  cut op s s' := ∃ inode, s.segments.Fresh inode
    ∧ (s' = s ∨ op.effect inode s = some s' ∨ op.torn inode s s')

/-- The programs of this development. -/
abbrev DirProg (α : Type) : Type := Prog AccountDir (fun _ : Op => Bool) α

/-- What a call that fails or is cut can leave. -/
abbrev Op.Leaves (inode : Nat) (op : Op) (s s' : AccountDir) : Prop :=
  s' = s ∨ op.effect inode s = some s' ∨ op.torn inode s s'

section Calls

variable {op : Op} {s : AccountDir} {I : AccountDir → Prop}

/-- The rule of a call: what it leaves keeps the invariant, and the rest goes on from there. -/
theorem triple_faulty {α : Type} {k : Bool → DirProg α} {Q : α → AccountDir → Prop} (hI : I s)
    (hleaves : ∀ inode s', s.segments.Fresh inode → op.Leaves inode s s' →
      I s' ∧ ∀ ok, (ok = true → op.effect inode s = some s') → Triple faultyCalls (k ok) s' I Q) :
    Triple faultyCalls (.call op k) s I Q := by
  apply triple_call hI
  · rintro s' ⟨inode, hfresh, h⟩
    exact (hleaves inode s' hfresh h).1
  · rintro ok s' ⟨inode, hfresh, ⟨rfl, h⟩ | ⟨rfl, _, h⟩⟩
    · exact (hleaves inode s' hfresh (.inr (.inl h))).2 true fun _ => h
    · exact (hleaves inode s' hfresh h).2 false nofun

/-- The rule of a call that must succeed. -/
theorem triple_try {next : DirProg Bool} {Q : Bool → AccountDir → Prop} (hI : I s)
    (hleaves : ∀ inode s', op.Leaves inode s s' → I s' ∧ Q false s')
    (hnext : ∀ inode s', op.effect inode s = some s' → Triple faultyCalls next s' I Q) :
    Triple faultyCalls (.call op fun ok => if ok = true then next else .done false) s I Q := by
  refine triple_faulty hI fun inode s' _ h => ⟨(hleaves inode s' h).1, fun ok hok => ?_⟩
  apply triple_ite
  · exact fun htrue => hnext inode s' (hok htrue)
  · exact fun _ => triple_done (hleaves inode s' h).1 (hleaves inode s' h).2

end Calls

/-! ## §7. Fault-free answers. -/

namespace AccountDir

/-- An inode that is not in use. -/
def nextInode (s : AccountDir) : Nat := s.segments.inodes.foldl max 0 + 1

theorem fresh_nextInode (s : AccountDir) : s.segments.Fresh s.nextInode := by
  refine ⟨Nat.succ_pos _, ?_⟩
  intro hmem
  have hle := ((foldl_max_le _ 0).mp le_rfl).2 _ hmem
  rw [nextInode] at hle
  omega

end AccountDir

/-- A call that succeeds whenever it can. -/
def answer (op : Op) (s : AccountDir) : Bool × AccountDir :=
  match op.effect s.nextInode s with
  | some s' => (true, s')
  | none => (false, s)

theorem answer_exec (op : Op) (s : AccountDir) :
    faultyCalls.exec op s (answer op s).1 (answer op s).2 := by
  refine ⟨s.nextInode, s.fresh_nextInode, ?_⟩
  rw [answer]
  cases h : op.effect s.nextInode s with
  | some s' => exact Or.inl ⟨rfl, rfl⟩
  | none =>
    refine Or.inr ⟨rfl, ?_, Or.inl rfl⟩
    rintro d rfl
    cases h

/-! ## §8. The adapter. -/

def kLogoutStages : List LogoutStage := [.intentSynced, .sendStarted, .closedConfirmed]

/-- `derive_mutation_state` of a logout. -/
def deriveLogoutMutation (stages : List LogoutStage) : MutationState :=
  if stages.contains .sendStarted && !stages.contains .closedConfirmed then .possible
  else if stages.contains .closedConfirmed then .confirmed
  else .none

/-- `PendingAudits`: the stages of the groups without an outcome, by invocation. -/
abbrev PendingAudits : Type := List (String × List LogoutStage)

def consumeAuditLine (pending : PendingAudits) (previouslySeen : Bool) (line : Line) :
    Option PendingAudits :=
  if line.command ≠ some "logout" then none
  else
    match line with
    | .logout { invocation := invocation, phase := .intent _, .. } =>
      if previouslySeen then none
      else if SortedMap.contains invocation pending then some pending
      else some (SortedMap.assign invocation [.intentSynced] pending)
    | .logout { invocation := invocation, phase := .checkpoint stage, .. } =>
      match pending.lookup invocation with
      | none => none
      | some stages =>
        if stage = .intentSynced ∨ !(stages ++ [stage]).isPrefixOf kLogoutStages then none
        else some (SortedMap.assign invocation (stages ++ [stage]) pending)
    | .logout { invocation := invocation, phase := .outcome mutation completed error, .. } =>
      match pending.lookup invocation with
      | none => none
      | some stages =>
        if completed ≠ stages ∨ mutation ≠ deriveLogoutMutation stages
            ∨ (error = none ∧ stages ≠ kLogoutStages) then none
        else some (SortedMap.erase invocation pending)
    | _ => none

/-- `IncompleteLogoutAudit`. -/
structure IncompleteLogout where
  invocation : String
  stages : List LogoutStage
deriving DecidableEq, Repr

/-- `take_first_incomplete`. -/
def firstIncomplete : PendingAudits → Option IncompleteLogout
  | [] => none
  | (invocation, stages) :: _ => some ⟨invocation, stages⟩

/-! ## §9. Lines and limits of the logout reader. -/

/-- The line is a logout intent. -/
def Line.isLogoutIntent : Line → Bool
  | .logout { phase := .intent _, .. } => true
  | _ => false

/-- `kReadLimit`. -/
def kLegacySegmentBytes : Nat := 64 * 1024 * 1024

/-! ## §10. The state of the scan. -/

/-- `AccountAuditInspection`. -/
inductive Inspection where
  | clean
  | openGroup (group : OpenGroup)
  | legacyOpen (group : IncompleteLogout)
  | contradiction (terminal : Terminal) (detail : String)
  | unavailable (detail : String)
deriving DecidableEq, Repr

structure ScanState where
  group : Option OpenGroup := none
  positiveV2 : Bool := false
  pending : PendingAudits := []
  /-- the invocations of all records so far -/
  seen : List String := []
  /-- the pins that found their intent -/
  matched : List (Nat × String) := []
  priorNonempty : Bool := false
  /-- the completed groups handed to the visitor -/
  views : List CompletedView := []
deriving DecidableEq, Repr

def ScanState.contradiction (state : ScanState) (detail : String) : Inspection :=
  match state.group with
  | some group => .contradiction (.incomplete (deriveMutationState group) group.completedStages)
      detail
  | none => .contradiction (.incomplete .none []) detail

/-! ## §11. Pins. -/

def kMaximumPins : Nat := 10000

/-- `make_pin_index`: why the pins are refused. -/
def pinIndexError (pins : List Pin) : Option String :=
  if kMaximumPins < pins.length then some "audit pin count exceeds the bounded store maximum"
  else if pins.any (·.generation == 0) then some "audit pin has an invalid tuple"
  else if ¬ (pins.map fun pin => (pin.generation, pin.invocation)).Nodup then
    some "audit pin tuple is duplicated"
  else none

/-- `match_pin`: the pins matched after the intent. -/
def matchPin (pins : List Pin) (matched : List (Nat × String)) (inode : Nat) (intent : Intent) :
    Option (List (Nat × String)) :=
  match pins.find? fun pin => pin.generation == inode && pin.invocation == intent.invocation with
  | none => some matched
  | some pin =>
    if (inode, intent.invocation) ∈ matched ∨ pin.fingerprint ≠ intent.fingerprint
        ∨ pin.operation ≠ intent.operation then none
    else some (matched ++ [(inode, intent.invocation)])

def allPinsMatched (pins : List Pin) (matched : List (Nat × String)) : Bool :=
  pins.all fun pin => matched.contains (pin.generation, pin.invocation)

/-! ## §12. Lines and segments. -/

/-- A record of version 2 that passed the checks on intents. -/
def scanRecord (inode : Nat) (state : ScanState) (record : Record) : Except Inspection ScanState :=
  match consumeV2 inode state.group record with
  | .error detail => .error (state.contradiction detail)
  | .ok (group, view) =>
    .ok { state with
      group := group
      seen := state.seen ++ [record.invocation]
      views := state.views ++ view.toList }

/-- A record of version 2. -/
def scanV2 (pins : List Pin) (inode : Nat) (before : ScanState) (record : Record) :
    Except Inspection ScanState :=
  let state := { before with positiveV2 := true }
  match record with
  | .intent intent =>
    if !validIntent intent then scanRecord inode state record
    else if !state.pending.isEmpty then
      .error (state.contradiction "v2 intent interleaves a v1 group")
    else if intent.invocation ∈ state.seen then
      .error (state.contradiction "invocation id is reused in prior audit bytes")
    else
      match matchPin pins state.matched inode intent with
      | none =>
        .error (state.contradiction "audit pin does not uniquely match its durable intent")
      | some matched => scanRecord inode { state with matched := matched } record
  | _ => scanRecord inode state record

/-- A record of version 1. -/
def scanLogout (state : ScanState) (record : LogoutRecord) : Except Inspection ScanState :=
  let line := Line.logout record
  if state.positiveV2 then
    .error (state.contradiction "unsupported or malformed version after v2 recognition")
  else if line.isLogoutIntent && state.seen.contains record.invocation then
    .error (.unavailable "reused v1 invocation")
  else
    match consumeAuditLine state.pending false line with
    | none => .error (.unavailable "path_invalid")
    | some pending =>
      .ok { state with pending := pending, seen := state.seen ++ [record.invocation] }

/-- One line. -/
def scanLine (pins : List Pin) (inode : Nat) (state : ScanState) : Line →
    Except Inspection ScanState
  | .v2 record => scanV2 pins inode state record
  | .logout record => scanLogout state record
  | .malformed _ =>
    .error (if state.group.isSome then state.contradiction "malformed v2 tail"
      else .unavailable "")

/-- One segment. -/
def scanSegment (pins : List Pin) (before : ScanState) (segment : Segment) :
    Except Inspection ScanState := do
  if before.group.isSome && decide (0 < segment.size) && before.priorNonempty then
    .error (before.contradiction "v2 group spans audit segments")
  else
    let state ← segment.lines.foldlM (scanLine pins segment.inode) before
    if segment.tail ≠ 0 then
      .error (if state.group.isSome then state.contradiction "partial v2 tail"
        else .unavailable "")
    else if kLegacySegmentBytes < segment.size ∧ state.positiveV2 = false then
      .error (.unavailable "")
    else
      .ok { state with priorNonempty := before.priorNonempty || decide (0 < segment.size) }

/-- The five segments, and the pins. -/
def scanAll (pins : List Pin) (segments : Segments) : Except Inspection ScanState := do
  match pinIndexError pins with
  | some detail => .error (.contradiction (.incomplete .none []) detail)
  | none =>
    let state ← segments.scan.foldlM (scanSegment pins) {}
    if !allPinsMatched pins state.matched then
      .error (state.contradiction "audit pin is dangling or mismatched")
    else .ok state

/-- The verdict on a finished scan. -/
def ScanState.finish (state : ScanState) : Inspection :=
  match state.group with
  | some group => .openGroup group
  | none =>
    match firstIncomplete state.pending with
    | some group => .legacyOpen group
    | none => .clean

/-- `AccountAuditLog::inspect`, `prepare_append` and `prepare_recovery` up to their permits. -/
def inspect (pins : List Pin) (segments : Segments) : Inspection :=
  match scanAll pins segments with
  | .error inspection => inspection
  | .ok state => state.finish

end TgCli.Audit
