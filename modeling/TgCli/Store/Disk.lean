/-
  TgCli.Store.Disk — THE STORE'S FILES, CALL BY CALL

  `inspect_image`, `rewrite_snapshot` and `cleanup_stale_temp` of
  `idempotency_store.cpp` with every call they make in the state directory,
  over a volume that can lose power.  `TgCli.Store.Operations` has the same
  programs over the two contents alone; `ends_rewriteSnapshot` is the step from
  one to the other.

  Main results:
    * `triple_rewriteSnapshot` — what a rewrite can leave;
    * `ends_rewriteSnapshot` — every end of it is one over the two contents;
    * `run_inspectImage`, `run_cleanupStaleTemp`, `run_rewriteSnapshot` — the
      calls without a fault;
    * `rewrite_atomic` — the old or the new snapshot, whatever happens.
-/
import TgCli.Lib.Volume
import TgCli.Store.Operations

namespace TgCli.Store.Disk

open Lib Audit Payload Prog List VolumeOp Function Option Volume Prod

/-! ## §1. The programs. -/

/-- `kFinalName` and `kTempName`. -/
inductive Name where
  | final
  | temp
deriving DecidableEq, Repr

abbrev DiskProg (α : Type) : Type := Prog (Volume Name) (Answer (N := Name)) α

/-- An answer without which the operation fails. -/
def orFail {α β : Type} (answer : Option β) (k : β → DiskProg (Except String α)) :
    DiskProg (Except String α) :=
  match answer with
  | some b => k b
  | none => .done (.error "")

/-- A condition without which the operation fails. -/
def require {α : Type} (c : Bool) (next : DiskProg (Except String α)) :
    DiskProg (Except String α) :=
  if c = true then next else .done (.error "")

def sameFileObject (left right : Stat) : Bool :=
  left.node == right.node && left.regular == right.regular && left.mode == right.mode
    && left.owner == right.owner && left.links == right.links

def sameIdentity (left right : Stat) : Bool :=
  sameFileObject left right && left.size == right.size

/-- `classify_file`: no reason against the file. -/
def classifyFile (uid : Nat) (metadata : Stat) (enforceSize : Bool) : Bool :=
  metadata.regular && metadata.owner == uid && metadata.mode == 0o600#12 && metadata.links == 1
    && (!enforceSize || decide (metadata.size ≤ kStoreMaximumBytes))

/-- `StoreImage`: the snapshot and the metadata of the files that are there. -/
structure StoreImage where
  snapshot : Snapshot
  final : Option Stat
  temp : Option Stat

def kIoChunk : Nat := 65536

/-- `write_all`, from `offset` on. -/
def writeAll (n : Nat) (bytes : ByteArray) (offset : Nat) : DiskProg Bool :=
  if offset < bytes.size then
    .call (.write n (bytes.extract offset (offset + min kIoChunk (bytes.size - offset))))
      fun (count : Nat) =>
        if _h : count = 0 then .done false else writeAll n bytes (offset + count)
  else .done true
termination_by bytes.size - offset

section Programs

variable (uid : Nat) (parser : Json.Parser) (account : String)

/-- `read_stable_file` of the final name.  The interruption is asked once. -/
def readStableFile (named : Stat) : DiskProg (Except String (ByteArray × Stat)) :=
  .call (.openFile .final) fun n => orFail n fun n =>
  .call (.fstat n) fun opened => orFail opened fun opened =>
  require (sameIdentity named opened) <| require (classifyFile uid opened true) <|
  .call .check fun ok => require ok <|
  .call (.read n) fun bytes => orFail bytes fun bytes =>
  require (bytes.size == opened.size) <|
  .call (.fstat n) fun last => orFail last fun last =>
  .call (.stat .final) fun shown => orFail shown fun shown => orFail shown fun shown =>
  require (sameIdentity opened last) <| require (sameIdentity last shown) <|
  .done (.ok (bytes, opened))

/-- The final file of `inspect_image`; a store without a file is empty. -/
def inspectFinal : Option Stat → DiskProg (Except String (Snapshot × Option Stat))
  | none => orFail (auditFormat.canonicalize account []) fun text =>
    .done (.ok (⟨[], Json.encode text⟩, none))
  | some named => require (classifyFile uid named true) <|
      (readStableFile uid named).bind fun read =>
        match read with
        | .error detail => .done (.error detail)
        | .ok (bytes, opened) => orFail (decodeSnapshot parser bytes account) fun (entries, bytes) =>
          .done (.ok (⟨entries, bytes⟩, some opened))

/-- The temporary file of `inspect_image`, of which only the metadata is asked. -/
def inspectTemp (snapshot : Snapshot) (final : Option Stat) : DiskProg (Except String StoreImage) :=
  .call (.stat .temp) fun temp => orFail temp fun temp =>
    match temp with
    | none => .done (.ok ⟨snapshot, final, none⟩)
    | some named => require (classifyFile uid named false) <|
        .done (.ok ⟨snapshot, final, some named⟩)

/-- `inspect_image`; `open_root` is its first call. -/
def inspectImage : DiskProg (Except String StoreImage) :=
  .call .check fun ok => require ok <|
  .call (.stat .final) fun final => orFail final fun final =>
  (inspectFinal uid parser account final).bind fun found =>
    match found with
    | .error detail => .done (.error detail)
    | .ok (snapshot, final) => inspectTemp uid snapshot final

/-- The final name still stands for the file that was inspected. -/
def sameFinal : Option Stat → Option Stat → Bool
  | none, none => true
  | some inspected, some current => sameIdentity inspected current
  | _, _ => false

/-- The calls of `rewrite_snapshot` after the temporary file is written. -/
def installTemp (n : Nat) (created : Stat) (final : Option Stat) (desired : Snapshot) :
    DiskProg (Except String Snapshot) :=
  .call (.syncFile n) fun ok => require ok <|
  .call (.fstat n) fun synced => orFail synced fun synced =>
  .call (.stat .temp) fun named => orFail named fun named => orFail named fun named =>
  require (sameFileObject created synced && sameFileObject created named
    && synced.size == desired.bytes.size && named.size == synced.size) <|
  .call (.stat .final) fun current => orFail current fun current =>
  require (sameFinal final current) <|
  .call (.rename .temp .final) fun ok => require ok <|
  .call (.stat .final) fun installed => orFail installed fun installed =>
  orFail installed fun installed => require (sameIdentity synced installed) <|
  .call .syncDirectory fun ok => require ok <|
  .done (.ok desired)

/-- The calls of `rewrite_snapshot` that replace the file; `open_root` is the
first. -/
def replaceFile (final : Option Stat) (desired : Snapshot) : DiskProg (Except String Snapshot) :=
  .call .check fun ok => require ok <|
  .call (.create .temp 0o600#12) fun n => orFail n fun n =>
  .call (.chmod n 0o600#12) fun ok => require ok <|
  .call (.fstat n) fun created => orFail created fun created =>
  require (classifyFile uid created false) <|
  (writeAll n desired.bytes 0).bind fun ok => require ok <|
  installTemp n created final desired

/-- The checks, the temporary file, the rename. -/
def rewriteSnapshot (expected : ByteArray) (desired : List JsonEntry) :
    DiskProg (Except String Snapshot) :=
  match auditFormat.canonicalize account desired with
  | none => .done (.error "invalid prospective snapshot")
  | some text =>
    (inspectImage uid parser account).bind fun image =>
      match image with
      | .error detail => .done (.error detail)
      | .ok image =>
        if image.snapshot.bytes ≠ expected ∨ image.temp.isSome = true then
          .done (.error "store changed or retained a temp before rewrite")
        else replaceFile uid image.final ⟨desired, Json.encode text⟩

/-- The calls of `cleanup_stale_temp` that remove the temporary file. -/
def removeTemp (temp : Stat) (snapshot : Snapshot) : DiskProg (Except String Snapshot) :=
  .call .check fun ok => require ok <|
  .call (.stat .temp) fun current => orFail current fun current => orFail current fun current =>
  require (sameIdentity temp current) <|
  .call (.unlink .temp) fun ok => require ok <|
  .call .syncDirectory fun ok => require ok <|
  .done (.ok snapshot)

/-- Removes what a cut rewrite left. -/
def cleanupStaleTemp : DiskProg StoreResult :=
  (inspectImage uid parser account).bind fun image =>
    match image with
    | .error detail => .done { status := .failed, detail := detail }
    | .ok image =>
      match image.temp with
      | none => .done { status := .unchanged, snapshot := image.snapshot }
      | some temp =>
        (removeTemp temp image.snapshot).bind fun cleaned =>
          .done (StoreResult.written { status := .applied } cleaned)

end Programs

/-! ## §2. Comparing metadata. -/

theorem sameIdentity_refl (metadata : Stat) : sameIdentity metadata metadata := by
  simp [sameIdentity, sameFileObject]

/-- A file the store accepts. -/
structure Proper (uid : Nat) (node : Node) : Prop where
  regular : node.regular = true
  owner : node.owner = uid
  mode : node.mode = 0o600#12
  links : node.links = 1

variable {v w : Volume Name} {uid : Nat}

theorem Proper.classified (h : Proper uid (v.nodes n)) : classifyFile uid (v.stat n) false := by
  simp [classifyFile, Volume.stat, h.regular, h.owner, h.mode, h.links]

theorem Proper.classified_size (h : Proper uid (v.nodes n))
    (hsize : (v.nodes n).content.size ≤ kStoreMaximumBytes) :
    classifyFile uid (v.stat n) true := by
  simp [classifyFile, Volume.stat, h.regular, h.owner, h.mode, h.links, hsize]

/-- **A umask that keeps the owner's bits keeps the mode of a new file.** -/
theorem created_mode (h : umask &&& 0o600#12 = 0) : 0o600#12 &&& ~~~umask = 0o600#12 := by
  apply BitVec.eq_of_getLsbD_eq
  intro i hi
  have hbit := congrArg (fun x : BitVec 12 => x.getLsbD i) h
  simp only [BitVec.getLsbD_and, BitVec.getLsbD_not, BitVec.ofNat_eq_ofNat, BitVec.getLsbD_zero] at hbit ⊢
  cases hmask : umask.getLsbD i <;> simp_all

/-! ## §3. What the volume holds. -/

/-- The two names: the final file is synced and its content satisfies `K`; both
are files the store accepts. -/
def Holds (uid : Nat) (K : Option ByteArray → Prop) : Name → Option Node → Prop
  | .final, none => K none
  | .final, some node => Proper uid node ∧ node.synced = true ∧ K (some node.content)
  | .temp, none => True
  | .temp, some node => Proper uid node

theorem Proper.content (h : Proper uid node) (content : ByteArray) (synced : Bool) :
    Proper uid { node with content := content, synced := synced } :=
  ⟨h.regular, h.owner, h.mode, h.links⟩

theorem Holds.mono {K K' : Option ByteArray → Prop} (hK : ∀ content, K content → K' content)
    (name : Name) (file : Option Node) (h : Holds uid K name file) : Holds uid K' name file := by
  cases name with
  | final =>
    cases file with
    | none => exact hK none h
    | some node => exact ⟨h.1, h.2.1, hK _ h.2.2⟩
  | temp =>
    cases file with
    | none => trivial
    | some node => exact h

/-- A power loss cuts the temporary file only. -/
theorem Holds.cut {K : Option ByteArray → Prop} (name : Name) (node : Node) (k : Nat)
    (hsynced : node.synced = false) (h : Holds uid K name (some node)) :
    Holds uid K name (some { node with content := node.content.extract 0 k }) := by
  cases name with
  | final => exact absurd h.2.1 (by rw [hsynced]; exact Bool.false_ne_true)
  | temp => exact h.content _ _

/-- The contents of the two files. -/
def view (v : Volume Name) : Files :=
  ⟨(v.file .final).map (·.content), (v.file .temp).map (·.content)⟩

section Inspect

variable {parser : Json.Parser} {account : String} {P : Process} {I : Volume Name → Prop}
  {α : Type} {next : DiskProg (Except String α)} {Q : Except String α → Volume Name → Prop}

section Looks

variable (hI : I v) (hfail : Q (.error "") v)
include hI hfail

theorem triple_require {c : Bool} (hnext : c → Triple (volumeCalls Name P) next v I Q) :
    Triple (volumeCalls Name P) (require c next) v I Q :=
  triple_ite hnext fun _ => triple_done hI hfail

theorem triple_orFail {answer : Option β} {k : β → DiskProg (Except String α)}
    (hnext : ∀ b, answer = some b → Triple (volumeCalls Name P) (k b) v I Q) :
    Triple (volumeCalls Name P) (orFail answer k) v I Q := by
  cases answer with
  | none => exact triple_done hI hfail
  | some b => exact hnext b rfl

/-- The rules of the calls that look: they answer what is seen, or the operation
fails. -/
theorem triple_check (hnext : Triple (volumeCalls Name P) next v I Q) :
    Triple (volumeCalls Name P) (.call .check fun ok => require ok next) v I Q :=
  triple_looks rfl hI (triple_done hI hfail) fun _ _ => triple_require hI hfail fun _ => hnext

theorem triple_stat {k : Option Stat → DiskProg (Except String α)}
    (hnext : Triple (volumeCalls Name P) (k ((v.names name).map v.stat)) v I Q) :
    Triple (volumeCalls Name P) (.call (.stat name) fun r => orFail r k) v I Q := by
  refine triple_looks rfl hI (triple_done hI hfail) fun r hr => ?_
  obtain rfl : some ((v.names name).map v.stat) = r := congrArg fst (some.inj hr)
  exact hnext

theorem triple_fstat {k : Stat → DiskProg (Except String α)}
    (hnext : Triple (volumeCalls Name P) (k (v.stat n)) v I Q) :
    Triple (volumeCalls Name P) (.call (.fstat n) fun r => orFail r k) v I Q := by
  refine triple_looks rfl hI (triple_done hI hfail) fun r hr => ?_
  obtain rfl : some (v.stat n) = r := congrArg fst (some.inj hr)
  exact hnext

theorem triple_read {k : ByteArray → DiskProg (Except String α)}
    (hnext : Triple (volumeCalls Name P) (k (v.nodes n).content) v I Q) :
    Triple (volumeCalls Name P) (.call (.read n) fun r => orFail r k) v I Q := by
  refine triple_looks rfl hI (triple_done hI hfail) fun r hr => ?_
  obtain rfl : some (v.nodes n).content = r := congrArg fst (some.inj hr)
  exact hnext

theorem triple_open {k : Nat → DiskProg (Except String α)}
    (hnext : ∀ n, v.names name = some n → Triple (volumeCalls Name P) (k n) v I Q) :
    Triple (volumeCalls Name P) (.call (.openFile name) fun r => orFail r k) v I Q := by
  refine triple_looks rfl hI (triple_done hI hfail) fun r hr => ?_
  obtain ⟨n, hn, hr⟩ := map_eq_some_iff.mp hr
  obtain rfl : some n = r := congrArg fst hr
  exact hnext n hn

end Looks

/-! ## §4. Inspection. -/

/-- What an inspection reports. -/
def Inspected (parser : Json.Parser) (account : String) (v : Volume Name) :
    Except String StoreImage → Prop
  | .ok image => (view v).snapshot parser account = some image.snapshot
      ∧ image.final = (v.names .final).map v.stat ∧ image.temp = (v.names .temp).map v.stat
  | .error detail => detail = ""

theorem view_final_some (hn : v.names .final = some n) :
    (view v).final = some (v.nodes n).content := by
  show ((v.names .final).map v.nodes).map _ = _
  rw [hn]
  rfl

theorem view_final_none (hn : v.names .final = none) : (view v).final = none := by
  show ((v.names .final).map v.nodes).map _ = _
  rw [hn]
  rfl

theorem triple_readStableFile (hI : I v) (named : Stat) :
    Triple (volumeCalls Name P) (readStableFile uid named) v I fun a v' => v' = v ∧
      match a with
      | .ok (bytes, opened) => ∃ n, v.names .final = some n ∧ bytes = (v.nodes n).content
          ∧ opened = v.stat n
      | .error detail => detail = "" := by
  refine triple_open hI ⟨rfl, rfl⟩ fun n hn => triple_fstat hI ⟨rfl, rfl⟩ ?_
  refine triple_require hI ⟨rfl, rfl⟩ fun _ => triple_require hI ⟨rfl, rfl⟩ fun _ => ?_
  refine triple_check hI ⟨rfl, rfl⟩ (triple_read hI ⟨rfl, rfl⟩ ?_)
  refine triple_require hI ⟨rfl, rfl⟩ fun _ => triple_fstat hI ⟨rfl, rfl⟩ ?_
  refine triple_stat hI ⟨rfl, rfl⟩ (triple_orFail hI ⟨rfl, rfl⟩ fun shown _ => ?_)
  refine triple_require hI ⟨rfl, rfl⟩ fun _ => triple_require hI ⟨rfl, rfl⟩ fun _ => ?_
  exact triple_done hI ⟨rfl, n, hn, rfl, rfl⟩

theorem triple_inspectFinal (hI : I v) :
    Triple (volumeCalls Name P) (inspectFinal uid parser account ((v.names .final).map v.stat)) v I
      fun a v' => v' = v ∧
        match a with
        | .ok (snapshot, final) => (view v).snapshot parser account = some snapshot
            ∧ final = (v.names .final).map v.stat
        | .error detail => detail = "" := by
  cases hname : v.names .final with
  | none =>
    rw [map_none]
    unfold inspectFinal
    refine triple_orFail hI ⟨rfl, rfl⟩ fun text htext => triple_done hI ⟨rfl, ?_, rfl⟩
    unfold Files.snapshot
    rw [view_final_none hname]
    show (auditFormat.canonicalize account []).map _ = _
    rw [htext]
    rfl
  | some n =>
    rw [map_some]
    refine triple_require hI ⟨rfl, rfl⟩ fun _ => ?_
    refine triple_bind (triple_readStableFile hI _) fun a v' hread => ?_
    obtain ⟨rfl, ha⟩ := hread
    cases a with
    | error detail => exact triple_done hI ⟨rfl, ha⟩
    | ok read =>
      obtain ⟨m, hm, hbytes, hopn⟩ := ha
      obtain rfl : n = m := some.inj (hname.symm.trans hm)
      refine triple_orFail hI ⟨rfl, rfl⟩ fun decoded hdec => triple_done hI ⟨rfl, ?_, ?_⟩
      · unfold Files.snapshot
        rw [view_final_some hname]
        show (decodeSnapshot parser (v'.nodes n).content account).map _ = _
        rw [← hbytes, hdec]
        rfl
      · exact congrArg some hopn

theorem triple_inspectImage (hI : I v) :
    Triple (volumeCalls Name P) (inspectImage uid parser account) v I
      fun a v' => v' = v ∧ Inspected parser account v a := by
  refine triple_check hI ⟨rfl, rfl⟩ ?_
  refine triple_stat hI ⟨rfl, rfl⟩ ?_
  refine triple_bind (triple_inspectFinal hI) fun a v' hfound => ?_
  obtain ⟨rfl, ha⟩ := hfound
  cases a with
  | error detail => exact triple_done hI ⟨rfl, ha⟩
  | ok found =>
    refine triple_stat hI ⟨rfl, rfl⟩ ?_
    cases htemp : v'.names .temp with
    | none => exact triple_done hI ⟨rfl, ha.1, ha.2, by rw [htemp]; rfl⟩
    | some n =>
      refine triple_require hI ⟨rfl, rfl⟩ fun _ => ?_
      exact triple_done hI ⟨rfl, ha.1, ha.2, by rw [htemp]; rfl⟩

end Inspect

/-! ## §5. The temporary file. -/

section Replace

variable {P : Process} {K : Option ByteArray → Prop}

/-- File `n` is the temporary one and is being written; nothing else of `v` has
changed. -/
structure Writing (uid : Nat) (K : Option ByteArray → Prop) (v : Volume Name) (n : Nat)
    (w : Volume Name) : Prop where
  guarded : w.Guarded (Holds uid K)
  only : w.Only n .temp
  temp : w.names .temp = some n
  proper : Proper uid (w.nodes n)
  name : w.names .final = v.names .final
  file : ∀ m, v.names .final = some m → w.nodes m = v.nodes m

variable {n : Nat} {bytes : ByteArray}

theorem Writing.setNode (h : Writing uid K v n w)
    (hnode : Proper uid node) : Writing uid K v n (w.setNode n node) where
  __ := h
  guarded := h.guarded.setNode h.only hnode
  proper := by
    rw [setNode_same]
    exact hnode
  file := by
    intro m hm
    -- the final name stands for another file
    have hne : m ≠ n := by
      intro hmn
      subst hmn
      cases h.only w.names (.inl rfl) .final (h.name.trans hm)
    rw [setNode_other w node hne]
    exact h.file m hm

theorem Writing.final (h : Writing uid K v n w) : (view w).final = (view v).final := by
  cases hname : v.names .final with
  | none => rw [view_final_none hname, view_final_none (h.name.trans hname)]
  | some m =>
    rw [view_final_some hname, view_final_some (h.name.trans hname), h.file m hname]

theorem Writing.stat (h : Writing uid K v n w) :
    (w.names .final).map w.stat = (v.names .final).map v.stat := by
  rw [h.name]
  cases hname : v.names .final with
  | none => rfl
  | some m =>
    show some (w.stat m) = some (v.stat m)
    unfold Volume.stat
    rw [h.file m hname]

theorem Writing.view_eq (h : Writing uid K v n w) :
    view w = { view v with temp := some (w.nodes n).content } := by
  have htemp : (view w).temp = some (w.nodes n).content := by
    show ((w.names .temp).map w.nodes).map _ = _
    rw [h.temp]
    rfl
  show view w = ⟨(view v).final, some (w.nodes n).content⟩
  rw [← h.final, ← htemp]

theorem writing_create (hv : v.Guarded (Holds uid K)) (hnode : Proper uid node) :
    Writing uid K v v.next (v.create .temp node) where
  guarded := hv.create hnode
  only := only_create hv .temp node
  temp := create_same v .temp node
  proper := by
    show Proper uid ((v.setNode v.next node).nodes v.next)
    rw [setNode_same]
    exact hnode
  name := create_other v node (by decide)
  file := by
    intro m hm
    have hne : m ≠ v.next := ne_of_lt (hv.below v.names (.inl rfl) .final m hm)
    exact setNode_other v node hne

/-- The new temporary file is empty, and one the store accepts. -/
theorem writing_created (hP : P.owner = uid) (humask : P.umask &&& 0o600#12 = 0)
    (hv : v.Guarded (Holds uid K)) (bytes : ByteArray) :
    ∃ w, v.create .temp { owner := P.owner, mode := 0o600#12 &&& ~~~P.umask } = w
      ∧ Writing uid K v v.next w ∧ (w.nodes v.next).content = bytes.extract 0 0 := by
  refine ⟨_, rfl, writing_create hv ⟨rfl, hP, created_mode humask, rfl⟩, ?_⟩
  show (((v.setNode v.next _).nodes v.next)).content = _
  rw [setNode_same]
  exact (ByteArray.extract_eq_empty_iff.mpr (min_le_left 0 _)).symm

/-- `fchmod` sets the mode the file has. -/
theorem Writing.chmod (h : Writing uid K v n w) (hcont : (w.nodes n).content = content) :
    ∃ w', w.setNode n { w.nodes n with mode := 0o600#12 } = w' ∧ Writing uid K v n w'
      ∧ (w'.nodes n).content = content := by
  refine ⟨_, rfl, h.setNode ⟨h.proper.regular, h.proper.owner, rfl, h.proper.links⟩, ?_⟩
  rw [setNode_same]
  exact hcont

/-- One write leaves a part of its bytes. -/
theorem exec_write {count : Nat} {w' : Volume Name}
    (h : (volumeCalls Name P).exec (.write n bytes) w count w') :
    (count = 0 ∧ w' = w) ∨ (count ≤ bytes.size ∧ w' = w.append n (bytes.extract 0 count)) := by
  rcases h with heff | ⟨hcnt, hw⟩ | hsh
  · obtain ⟨rfl, rfl⟩ := mk.inj (some.inj heff)
    refine .inr ⟨le_rfl, ?_⟩
    rw [ByteArray.extract_zero_size]
  · exact .inl ⟨hcnt, hw⟩
  · exact .inr hsh

/-- The next part of `write_all` goes behind the one before. -/
theorem content_append {offset count : Nat} (hcont : (w.nodes n).content = bytes.extract 0 offset)
    (hcnt : count ≤ (bytes.extract offset (offset + min kIoChunk (bytes.size - offset))).size) :
    (w.nodes n).content
        ++ (bytes.extract offset (offset + min kIoChunk (bytes.size - offset))).extract 0 count
      = bytes.extract 0 (offset + count) := by
  rw [ByteArray.size_extract] at hcnt
  rw [hcont, ByteArray.extract_extract, add_zero, ByteArray.extract_append_extract, Nat.zero_min]
  congr 1
  omega

/-- **`write_all` leaves a prefix, and all of the bytes when it succeeds.** -/
theorem triple_writeAll (offset : Nat) (hw : Writing uid K v n w)
    (hcont : (w.nodes n).content = bytes.extract 0 offset) :
    Triple (volumeCalls Name P) (writeAll n bytes offset) w (Writing uid K v n)
      fun ok w' => Writing uid K v n w' ∧ (ok → (w'.nodes n).content = bytes) := by
  -- induction on what is left to write
  induction hleft : bytes.size - offset using Nat.strong_induction_on generalizing offset w with
  | _ left ih =>
  have happ : ∀ part : ByteArray, Writing uid K v n (w.append n part) :=
    fun part => hw.setNode (hw.proper.content _ _)
  unfold writeAll
  refine triple_ite (fun hmore => ?_) fun hend => ?_
  · refine triple_call hw (fun w' hcut => ?_) fun (count : Nat) w' hexec => ?_
    · rcases hcut with rfl | ⟨r, heff | hsh⟩
      · exact hw
      · obtain ⟨-, rfl⟩ := mk.inj (some.inj heff)
        exact happ _
      · rw [hsh.2]
        exact happ _
    · have hw' : Writing uid K v n w' := by
        rcases exec_write hexec with ⟨-, rfl⟩ | ⟨-, rfl⟩
        · exact hw
        · exact happ _
      by_cases hzero : count = 0
      · rw [dif_pos hzero]
        exact triple_done hw' ⟨hw', fun h => absurd h Bool.false_ne_true⟩
      rw [dif_neg hzero]
      have hwrit : (w'.nodes n).content = bytes.extract 0 (offset + count) := by
        rcases exec_write hexec with ⟨hcnt, -⟩ | ⟨hcnt, rfl⟩
        · exact absurd hcnt hzero
        · unfold append
          rw [setNode_same]
          exact content_append hcont hcnt
      refine ih (bytes.size - (offset + count)) ?_ (offset + count) hw' hwrit rfl
      omega
  · refine triple_done hw ⟨hw, fun _ => ?_⟩
    rw [hcont]
    calc bytes.extract 0 offset = bytes.extract 0 (min offset bytes.size) := by
          rw [min_eq_right (le_of_not_gt hend)]
          apply ByteArray.ext
          simp [ByteArray.data_extract, Array.extract_eq_self_of_le, le_of_not_gt hend]
      _ = bytes := by rw [min_eq_right (le_of_not_gt hend), ByteArray.extract_zero_size]

/-! ## §6. The rewrite. -/

/-- What replacing the file of `v` can come to, seen from outside. -/
def Replaced (v : Volume Name) (desired : Snapshot) (a : Except String Snapshot)
    (v' : Volume Name) : Prop :=
  match a with
  | .ok snapshot => snapshot = desired ∧ (view v).temp = none
      ∧ view v' = ⟨some desired.bytes, none⟩
  | .error detail => detail = "" ∧ (view v' = view v ∨ (view v).temp = none
      ∧ ((∃ bytes, view v' = { view v with temp := some bytes })
        ∨ view v' = ⟨some desired.bytes, none⟩))

/-- What holds on the volume behind it: a content of `K`, and the new one if the
call succeeds. -/
def Safe (uid : Nat) (K : Option ByteArray → Prop) (desired : Snapshot)
    (a : Except String Snapshot) (v' : Volume Name) : Prop :=
  v'.Guarded (Holds uid K)
    ∧ ∀ snapshot, a = .ok snapshot → v'.Guarded (Holds uid (· = some desired.bytes))

theorem safe_error (h : v.Guarded (Holds uid K)) : Safe uid K desired (.error detail) v :=
  ⟨h, fun _ ha => nomatch ha⟩

/-- The file is replaced: seen from outside, and on every directory left. -/
structure Installed (uid : Nat) (K : Option ByteArray → Prop) (desired : Snapshot)
    (w : Volume Name) : Prop where
  guarded : w.Guarded (Holds uid K)
  visible : ∀ name, Holds uid (· = some desired.bytes) name (w.file name)
  view_eq : view w = ⟨some desired.bytes, none⟩

variable {desired : Snapshot}

theorem installed_rename (h : Writing uid K v n w)
    (hcont : (w.nodes n).content = desired.bytes) (hsynced : (w.nodes n).synced)
    (hK : K (some desired.bytes)) :
    Installed uid K desired (w.relink (w.renamed .temp .final n)) := by
  have htemp : (w.relink (w.renamed .temp .final n)).file .temp = none := by
    simp [file, relink, renamed]
  have hfin : (w.relink (w.renamed .temp .final n)).file .final = some (w.nodes n) := by
    simp [file, relink, renamed]
  refine ⟨h.guarded.rename h.temp ⟨h.proper, hsynced, hcont ▸ hK⟩ trivial, fun name => ?_, ?_⟩
  · cases name with
    | final =>
      rw [hfin]
      exact ⟨h.proper, hsynced, congrArg some hcont⟩
    | temp =>
      rw [htemp]
      trivial
  · unfold view
    rw [htemp, hfin, ← hcont]
    rfl

section Outcomes

theorem Writing.failed (h : Writing uid K v n w) (htemp : (view v).temp = none) :
    Safe uid K desired (.error "") w ∧ Replaced v desired (.error "") w :=
  ⟨safe_error h.guarded, rfl, .inr ⟨htemp, .inl ⟨_, h.view_eq⟩⟩⟩

theorem Installed.failed (h : Installed uid K desired w) (htemp : (view v).temp = none) :
    Safe uid K desired (.error "") w ∧ Replaced v desired (.error "") w :=
  ⟨safe_error h.guarded, rfl, .inr ⟨htemp, .inr h.view_eq⟩⟩

theorem triple_installTemp (h : Writing uid K v n w) (hcont : (w.nodes n).content = desired.bytes)
    (htemp : (view v).temp = none) (hK : K (some desired.bytes)) :
    Triple (volumeCalls Name P) (installTemp n created final desired) w
      (Volume.Guarded (Holds uid K))
      fun a w' => Safe uid K desired a w' ∧ Replaced v desired a w' := by
  refine triple_change (fun _ _ _ => id) h.guarded (triple_done h.guarded (h.failed htemp)) ?_
  intro r w1 hsync
  obtain ⟨rfl, rfl⟩ := mk.inj (some.inj hsync)
  -- the file is synced
  have h1 : Writing uid K v n (w.setNode n { w.nodes n with synced := true }) :=
    h.setNode (h.proper.content _ _)
  have hnode := setNode_same w n { w.nodes n with synced := true }
  generalize w.setNode n { w.nodes n with synced := true } = w1 at h1 hnode
  have hfail : Safe uid K desired (.error "") w1 ∧ Replaced v desired (.error "") w1 :=
    h1.failed htemp
  refine ⟨h1.guarded, triple_require h1.guarded hfail fun _ => ?_⟩
  refine triple_fstat h1.guarded hfail ?_
  refine triple_stat h1.guarded hfail (triple_orFail h1.guarded hfail fun named _ => ?_)
  refine triple_require h1.guarded hfail fun _ => ?_
  refine triple_stat h1.guarded hfail (triple_require h1.guarded hfail fun _ => ?_)
  -- the rename puts it under the final name
  refine triple_change (fun _ _ _ => id) h1.guarded (triple_done h1.guarded hfail) ?_
  intro r w2 hren
  obtain ⟨m, hm, hren⟩ := map_eq_some_iff.mp hren
  obtain rfl : n = m := some.inj (h1.temp.symm.trans hm)
  obtain ⟨rfl, rfl⟩ := mk.inj hren
  have h2 : Installed uid K desired (w1.relink (w1.renamed .temp .final n)) :=
    installed_rename h1 (by rw [hnode]; exact hcont) (by rw [hnode]) hK
  have hfail2 := h2.failed (v := v) htemp
  refine ⟨h2.guarded, triple_require h2.guarded hfail2 fun _ => ?_⟩
  refine triple_stat h2.guarded hfail2 (triple_orFail h2.guarded hfail2 fun installed _ => ?_)
  refine triple_require h2.guarded hfail2 fun _ => ?_
  -- and the directory is synced
  refine triple_change (fun _ _ _ => id) h2.guarded (triple_done h2.guarded hfail2) ?_
  intro r w3 hsettle
  obtain ⟨rfl, rfl⟩ := mk.inj (some.inj hsettle)
  have h3 : (settle (w1.relink (w1.renamed .temp .final n))).Guarded (Holds uid K) :=
    h2.guarded.settle h2.guarded.visible
  have hfail3 : Safe uid K desired (.error "") _ ∧ Replaced v desired (.error "") _ :=
    ⟨safe_error h3, rfl, .inr ⟨htemp, .inr h2.view_eq⟩⟩
  refine ⟨h3, triple_require h3 hfail3 fun _ => triple_done h3 ⟨⟨h3, ?_⟩, rfl, htemp, h2.view_eq⟩⟩
  intro _ _
  exact h2.guarded.settle h2.visible

theorem triple_replaceFile {final : Option Stat} (hP : P.owner = uid)
    (humask : P.umask &&& 0o600#12 = 0) (hv : v.Guarded (Holds uid K)) (hK : K (some desired.bytes)) :
    Triple (volumeCalls Name P) (replaceFile uid final desired) v (Volume.Guarded (Holds uid K))
      fun a w' => Safe uid K desired a w' ∧ Replaced v desired a w' := by
  have hfail : Safe uid K desired (.error "") v ∧ Replaced v desired (.error "") v :=
    ⟨safe_error hv, rfl, .inl rfl⟩
  refine triple_check hv hfail ?_
  refine triple_change (fun _ _ _ => id) hv (triple_done hv hfail) ?_
  intro r w hcre
  cases hname : v.names .temp with
  | some m =>
    rw [effect, hname] at hcre
    cases hcre
  | none =>
    rw [effect, hname] at hcre
    obtain ⟨rfl, rfl⟩ := mk.inj (some.inj hcre)
    have htemp : (view v).temp = none := by
      show ((v.names .temp).map v.nodes).map _ = _
      rw [hname]
      rfl
    obtain ⟨w, hw, h, hemp⟩ := writing_created hP humask hv desired.bytes
    rw [hw]
    refine ⟨h.guarded, ?_⟩
    show Triple _ (call (chmod v.next 0o600#12) _) w _ _
    refine triple_change (fun _ _ _ => id) h.guarded (triple_done h.guarded (h.failed htemp)) ?_
    intro r w1 hchmod
    obtain ⟨rfl, rfl⟩ := mk.inj (some.inj hchmod)
    obtain ⟨w1, hw1, h1, hemp1⟩ := h.chmod hemp
    rw [hw1]
    refine ⟨h1.guarded, triple_require h1.guarded (h1.failed htemp) fun _ => ?_⟩
    refine triple_fstat h1.guarded (h1.failed htemp) ?_
    refine triple_require h1.guarded (h1.failed htemp) fun _ => ?_
    refine triple_bind
      ((triple_writeAll 0 h1 hemp1).mono (fun _ h => h.guarded) fun _ _ h => h) ?_
    intro ok w2 hwrit
    refine triple_require hwrit.1.guarded (hwrit.1.failed htemp) fun hok => ?_
    exact triple_installTemp hwrit.1 (hwrit.2 hok) htemp hK

end Outcomes

end Replace

/-! ## §7. The rewrite, and the files it leaves. -/

section Rewrite

variable {P : Process} {K : Option ByteArray → Prop} {parser : Json.Parser} {account : String}

/-- **What a rewrite can leave.**  The volume holds what it held or the new
content, and the new one alone if the call succeeds. -/
theorem triple_rewriteSnapshot
    (hP : P.owner = uid) (humask : P.umask &&& 0o600#12 = 0) (hv : v.Guarded (Holds uid K))
    (htext : auditFormat.canonicalize account desired = some text)
    (hK : K (some (Json.encode text))) :
    Triple (volumeCalls Name P) (rewriteSnapshot uid parser account expected desired) v
      (Volume.Guarded (Holds uid K)) (Safe uid K ⟨desired, Json.encode text⟩) := by
  unfold rewriteSnapshot
  rw [htext]
  refine triple_bind (triple_inspectImage hv) fun a v' hinsp => ?_
  obtain ⟨rfl, -⟩ := hinsp
  cases a with
  | error detail => exact triple_done hv (safe_error hv)
  | ok image =>
    refine triple_ite (fun _ => triple_done hv (safe_error hv)) fun _ => ?_
    exact (triple_replaceFile hP humask hv hK).mono (fun _ h => h) fun _ _ h => h.1

theorem ends_attempt {op : FileOp} {next : StoreProg (Except String α)} {s s1 s' : Files}
    {a : Except String α} (heff : op.effect s = some s1) (h : Ends (fileCalls true) next s1 a s') :
    Ends (fileCalls true) (attempt op next) s a s' :=
  .call (.inl ⟨rfl, heff⟩) h

theorem ends_attempt_fail {op : FileOp} {next : StoreProg (Except String α)}
    {s s' : Files} (h : s' = s ∨ op.torn s s') :
    Ends (fileCalls true) (attempt op next) s (.error "") s' :=
  .call (.inr ⟨rfl, fun _ => rfl, h⟩) (.done _ _)

/-- The ends of the two replacements agree. -/
theorem ends_replaceFile {a : Except String Snapshot} {v' : Volume Name}
    (h : Replaced v desired a v') :
    Ends (fileCalls true) (Store.replaceFile desired) (view v) a (view v') := by
  -- the calls up to the rename, from a state without a temporary file
  have hupto : (view v).temp = none → ∀ a : Except String Snapshot,
      Ends (fileCalls true) (attempt .settle (.done (.ok desired))) ⟨some desired.bytes, none⟩ a
        (view v') → Ends (fileCalls true) (Store.replaceFile desired) (view v) a (view v') := by
    intro htemp a hsettle
    refine ends_attempt rfl (ends_attempt (if_neg (by rw [htemp]; exact Bool.false_ne_true)) ?_)
    refine ends_attempt rfl (ends_attempt rfl ?_)
    exact ends_attempt rfl (ends_attempt rfl hsettle)
  cases a with
  | ok snapshot =>
    obtain ⟨rfl, htemp, hview⟩ := h
    refine hupto htemp _ ?_
    rw [hview]
    exact ends_attempt rfl (.done _ _)
  | error detail =>
    obtain ⟨rfl, hview | ⟨htemp, ⟨bytes, hview⟩ | hview⟩⟩ := h
    · rw [hview]
      exact ends_attempt_fail (.inl rfl)
    · rw [hview]
      refine ends_attempt rfl (ends_attempt (if_neg (by rw [htemp]; exact Bool.false_ne_true)) ?_)
      exact ends_attempt rfl (ends_attempt_fail (.inr ⟨bytes, rfl⟩))
    · refine hupto htemp _ ?_
      rw [hview]
      exact ends_attempt_fail (.inl rfl)

theorem view_temp_isSome (v : Volume Name) :
    ((v.names .temp).map v.stat).isSome = (view v).temp.isSome := by
  show _ = (((v.names .temp).map v.nodes).map _).isSome
  simp only [isSome_map]

/-- **The rewrite over the two contents has every end of the one on the volume.** -/
theorem ends_rewriteSnapshot (hP : P.owner = uid)
    (humask : P.umask &&& 0o600#12 = 0) (hv : v.Guarded (Holds uid K))
    (h : Ends (volumeCalls Name P) (rewriteSnapshot uid parser account expected desired) v a v') :
    Ends (fileCalls true) (Store.rewriteSnapshot parser account expected desired) (view v) a
      (view v') := by
  have hall : v.Guarded (Holds uid fun _ => True) :=
    hv.mono (Holds.mono fun _ _ => trivial)
  suffices htri : Triple (volumeCalls Name P)
      (rewriteSnapshot uid parser account expected desired) v (fun _ => True) fun a v' =>
        Ends (fileCalls true) (Store.rewriteSnapshot parser account expected desired) (view v) a
          (view v') from htri.ends a v' h
  unfold rewriteSnapshot Store.rewriteSnapshot
  cases htext : auditFormat.canonicalize account desired with
  | none => exact triple_done trivial (.done _ _)
  | some text =>
    refine triple_bind (triple_inspectImage trivial) fun a v1 hinsp => ?_
    obtain ⟨rfl, hinsp⟩ := hinsp
    cases a with
    | error detail =>
      obtain rfl : detail = "" := hinsp
      exact triple_done trivial (.call (.inr ⟨rfl, fun _ => rfl, .inl rfl⟩) (.done _ _))
    | ok image =>
      obtain ⟨hsnap, -, htemp⟩ := hinsp
      have himage : (view v1).image parser account
          = .ok ⟨image.snapshot, image.temp.isSome⟩ := by
        unfold Files.image
        rw [hsnap, htemp, view_temp_isSome]
      -- the inspection over the two contents finds the same
      have hinspect : ∀ {a s'} {next : Except String Image → StoreProg (Except String Snapshot)},
          Ends (fileCalls true) (next (.ok ⟨image.snapshot, image.temp.isSome⟩)) (view v1) a s' →
          Ends (fileCalls true) ((Store.inspectImage parser account).bind next) (view v1) a s' := by
        intro a s' next hnext
        refine .call (.inl ⟨rfl, rfl⟩) (.look ?_)
        show Ends _ (next ((view v1).image parser account)) _ _ _
        rw [himage]
        exact hnext
      refine triple_ite (fun href => ?_) fun hacc => ?_
      · refine triple_done trivial (hinspect ?_)
        dsimp only
        rw [if_pos href]
        exact .done _ _
      · refine (triple_replaceFile hP humask hall trivial).mono (fun _ _ => trivial) ?_
        intro a v' hout
        refine hinspect ?_
        dsimp only
        rw [if_neg hacc]
        exact ends_replaceFile hout.2

end Rewrite

/-! ## §8. The calls without a fault. -/

section Runs

variable {P : Process} {K : Option ByteArray → Prop} {parser : Json.Parser} {account : String}
  {α : Type} {next : DiskProg (Except String α)} {k : Nat → DiskProg (Except String α)}

theorem run_require {c : Bool} (hc : c) :
    (require c next).run (answer P) v = next.run (answer P) v := by
  rw [require, if_pos hc]

theorem run_check :
    run (answer P) (.call .check fun ok => require ok next) v
      = next.run (answer P) v := rfl

variable {name : Name} {n : Nat} {snapshot : Snapshot}

theorem run_stat {k : Option Stat → DiskProg (Except String α)} :
    run (answer P) (.call (.stat name) fun r => orFail r k) v
      = (k ((v.names name).map v.stat)).run (answer P) v := rfl

theorem run_fstat {k : Stat → DiskProg (Except String α)} :
    run (answer P) (.call (.fstat n) fun r => orFail r k) v
      = (k (v.stat n)).run (answer P) v := rfl

theorem run_chmod {mode : BitVec 12} :
    run (answer P) (.call (.chmod n mode) fun ok => require ok next) v
      = next.run (answer P) (v.setNode n { v.nodes n with mode := mode }) := rfl

theorem run_syncFile :
    run (answer P) (.call (.syncFile n) fun ok => require ok next) v
      = next.run (answer P) (v.setNode n { v.nodes n with synced := true }) := rfl

theorem run_open (hn : v.names name = some n) :
    run (answer P) (.call (.openFile name) fun r => orFail r k) v
      = (k n).run (answer P) v := by
  rw [run, VolumeOp.answer, effect, hn]
  rfl

theorem run_create (hname : v.names name = none) :
    run (answer P) (.call (.create name mode) fun r => orFail r k) v
      = (k v.next).run (answer P)
        (v.create name { owner := P.owner, mode := mode &&& ~~~P.umask }) := by
  rw [run, VolumeOp.answer, effect, hname]
  rfl

theorem run_rename {source target : Name} (hn : v.names source = some n) :
    run (answer P) (.call (.rename source target) fun ok => require ok next) v
      = next.run (answer P) (v.relink (v.renamed source target n)) := by
  rw [run, VolumeOp.answer, effect, hn]
  rfl

theorem run_unlink (hn : v.names name = some n) :
    run (answer P) (.call (.unlink name) fun ok => require ok next) v
      = next.run (answer P) (v.relink (update v.names name none)) := by
  rw [run, VolumeOp.answer, effect, hn]
  rfl

/-- What can be read is not too long. -/
theorem size_of_decode (h : decodeSnapshot parser bytes account = some (entries, out)) :
    bytes.size ≤ kStoreMaximumBytes := by
  obtain ⟨text, htext, rfl, -⟩ := canonicalize_decode parser h
  obtain ⟨hacc, rfl⟩ := Format.canonicalize_iff.mp htext
  have hfits := hacc.fits
  rw [Json.encode_size, Json.bytes_text]
  omega

theorem run_readStableFile (hn : v.names .final = some n) (hproper : Proper uid (v.nodes n))
    (hsize : (v.nodes n).content.size ≤ kStoreMaximumBytes) :
    (readStableFile uid (v.stat n)).run (answer P) v
      = (.ok ((v.nodes n).content, v.stat n), v) := by
  unfold readStableFile
  rw [run_open hn]
  show (require (sameIdentity (v.stat n) (v.stat n)) _).run _ v = _
  rw [run_require (sameIdentity_refl _), run_require (hproper.classified_size hsize)]
  show (require ((v.nodes n).content.size == (v.nodes n).content.size) _).run _ v = _
  rw [run_require (beq_self_eq_true _)]
  show (orFail ((v.names .final).map v.stat) _).run _ v = _
  rw [hn]
  show (require (sameIdentity (v.stat n) (v.stat n)) _).run _ v = _
  rw [run_require (sameIdentity_refl _), run_require (sameIdentity_refl _)]
  rfl

section Found

variable (hv : v.Guarded (Holds uid K))
  (hsnap : (view v).snapshot parser account = some snapshot)
include hv hsnap

theorem run_inspectFinal :
    (inspectFinal uid parser account ((v.names .final).map v.stat)).run (answer P) v
      = (.ok (snapshot, (v.names .final).map v.stat), v) := by
  unfold Files.snapshot at hsnap
  have hvis : Holds uid K .final ((v.names .final).map v.nodes) := hv.visible .final
  cases hname : v.names .final with
  | none =>
    rw [view_final_none hname] at hsnap
    obtain ⟨text, htext, rfl⟩ := map_eq_some_iff.mp hsnap
    rw [map_none]
    unfold inspectFinal
    rw [htext]
    rfl
  | some n =>
    rw [hname] at hvis
    rw [view_final_some hname] at hsnap
    obtain ⟨⟨entries, out⟩, hdec, rfl⟩ := map_eq_some_iff.mp hsnap
    have hsize := size_of_decode hdec
    rw [map_some]
    unfold inspectFinal
    rw [run_require (hvis.1.classified_size hsize), run_bind, run_readStableFile hname hvis.1 hsize]
    show (orFail (decodeSnapshot parser (v.nodes n).content account) _).run _ v = _
    rw [hdec]
    rfl

/-- **An inspection finds the snapshot.** -/
theorem run_inspectImage : (inspectImage uid parser account).run (answer P) v
      = (.ok ⟨snapshot, (v.names .final).map v.stat, (v.names .temp).map v.stat⟩, v) := by
  show ((inspectFinal uid parser account ((v.names .final).map v.stat)).bind _).run _ v = _
  rw [run_bind, run_inspectFinal hv hsnap]
  show (inspectTemp uid snapshot ((v.names .final).map v.stat)).run _ v = _
  have hvis : Holds uid K .temp ((v.names .temp).map v.nodes) := hv.visible .temp
  unfold inspectTemp
  cases hname : v.names .temp with
  | none =>
    rw [run, VolumeOp.answer, effect, hname]
    rfl
  | some n =>
    rw [hname] at hvis
    rw [run, VolumeOp.answer, effect, hname]
    show (require (classifyFile uid (v.stat n) false) _).run _ v = _
    rw [run_require (Proper.classified hvis)]
    rfl

/-- **The cleanup removes the temporary file and leaves the snapshot.** -/
theorem run_cleanupStaleTemp : ∃ (status : Status) (w : Volume Name),
      (cleanupStaleTemp uid parser account).run (answer P) v
          = ({ status := status, snapshot := snapshot }, w)
        ∧ (status = .applied ∨ status = .unchanged) ∧ w.Guarded (Holds uid K)
        ∧ (view w).final = (view v).final ∧ w.names .temp = none := by
  unfold cleanupStaleTemp
  rw [run_bind, run_inspectImage hv hsnap]
  cases hname : v.names .temp with
  | none => exact ⟨.unchanged, v, rfl, .inr rfl, hv, rfl, hname⟩
  | some n =>
    have hv1 : (v.relink (update v.names .temp none)).Guarded (Holds uid K) :=
      hv.unlink trivial
    refine ⟨.applied, (v.relink (update v.names .temp none)).settle, ?_, .inl rfl,
      hv1.settle hv1.visible, ?_, ?_⟩
    · show ((removeTemp (v.stat n) snapshot).bind _).run _ v = _
      rw [run_bind]
      have hremove : (removeTemp (v.stat n) snapshot).run (answer P) v
          = (.ok snapshot, (v.relink (update v.names .temp none)).settle) := by
        show (orFail ((v.names .temp).map v.stat) _).run _ v = _
        rw [hname]
        show (require (sameIdentity (v.stat n) (v.stat n)) _).run _ v = _
        rw [run_require (sameIdentity_refl _), run_unlink hname]
        rfl
      rw [hremove]
      rfl
    · simp [view, file, relink, settle]
    · simp [relink, settle]

end Found

theorem run_writeAll_fst (offset : Nat) (w : Volume Name) :
    ((writeAll n bytes offset).run (answer P) w).1 := by
  induction hleft : bytes.size - offset using Nat.strong_induction_on generalizing offset w with
  | _ left ih =>
  unfold writeAll
  by_cases hmore : offset < bytes.size
  · rw [if_pos hmore]
    have hcnt : (bytes.extract offset (offset + min kIoChunk (bytes.size - offset))).size
        = min kIoChunk (bytes.size - offset) := by
      rw [ByteArray.size_extract]
      omega
    have hpos : min kIoChunk (bytes.size - offset) ≠ 0 := by
      unfold kIoChunk
      omega
    show ((if _h : (bytes.extract offset _).size = 0 then done false
      else writeAll n bytes (offset + (bytes.extract offset _).size)).run _ _).1 = true
    rw [hcnt, dif_neg hpos]
    exact ih _ (by omega) _ _ rfl
  · rw [if_neg hmore]
    rfl

theorem sameFileObject_of_proper {w' : Volume Name} (h : Proper uid (w.nodes n))
    (h' : Proper uid (w'.nodes n)) : sameFileObject (w.stat n) (w'.stat n) := by
  simp [sameFileObject, Volume.stat, h.regular, h'.regular, h.mode, h'.mode, h.owner, h'.owner,
    h.links, h'.links]

theorem run_installTemp_fst {w0 : Volume Name}
    (hcreated : Proper uid (w0.nodes n)) (h : Writing uid K v n w)
    (hcont : (w.nodes n).content = desired.bytes) :
    ((installTemp n (w0.stat n) ((v.names .final).map v.stat) desired).run
      (answer P) w).1 = .ok desired := by
  have h1 : Writing uid K v n (w.setNode n { w.nodes n with synced := true }) :=
    h.setNode (h.proper.content _ _)
  have hnode := setNode_same w n { w.nodes n with synced := true }
  unfold installTemp
  rw [run_syncFile, run_fstat, run_stat]
  generalize w.setNode n { w.nodes n with synced := true } = w1 at h1 hnode
  have hsize : (w1.stat n).size = desired.bytes.size := by
    show (w1.nodes n).content.size = _
    rw [hnode, ← hcont]
  rw [h1.temp, map_some, orFail,
    run_require (by simp [sameFileObject_of_proper hcreated h1.proper, hsize]), run_stat, h1.stat,
    run_require ?_, run_rename h1.temp, run_stat]
  · have hfin : (w1.relink (w1.renamed .temp .final n)).names .final = some n := by
      simp [relink, renamed]
    rw [hfin, map_some, orFail]
    show ((require (sameIdentity (w1.stat n) (w1.stat n)) _).run _ _).1 = _
    rw [run_require (sameIdentity_refl _)]
    rfl
  · cases (v.names .final).map v.stat with
    | none => rfl
    | some inspected => exact sameIdentity_refl inspected

/-- **A rewrite of what is found succeeds.** -/
theorem run_rewriteSnapshot {desired : List JsonEntry} {text : List Char} (hP : P.owner = uid)
    (humask : P.umask &&& 0o600#12 = 0) (hv : v.Guarded (Holds uid K))
    (hsnap : (view v).snapshot parser account = some snapshot) (htemp : v.names .temp = none)
    (htext : auditFormat.canonicalize account desired = some text) :
    ((rewriteSnapshot uid parser account snapshot.bytes desired).run (answer P) v).1
      = .ok ⟨desired, Json.encode text⟩ := by
  unfold rewriteSnapshot
  rw [htext]
  rw [run_bind, run_inspectImage hv hsnap, htemp]
  dsimp only
  rw [if_neg (by simp)]
  unfold replaceFile
  obtain ⟨w, hw, h, hemp⟩ := writing_created hP humask hv (Json.encode text)
  rw [run_check, run_create htemp, hw, run_chmod, run_fstat]
  obtain ⟨w1, hw1, h1, hemp1⟩ := h.chmod hemp
  rw [hw1, run_require h1.proper.classified, run_bind]
  -- the whole text is written
  have htrue : ((writeAll v.next (Json.encode text) 0).run (answer P) w1).1 :=
    run_writeAll_fst 0 w1
  have hends := (triple_writeAll 0 h1 hemp1).ends _ _
    (ends_run (volume_answer_exec (P := P)) (writeAll v.next (Json.encode text) 0) w1)
  rw [htrue, run_require rfl]
  exact run_installTemp_fst h1.proper hends.1 (hends.2 htrue)

end Runs

/-! ## §9. The rewrite is atomic. -/

section Atomic

variable (P : Process) (parser : Json.Parser) (account : String)

/-- The final file is read as this snapshot. -/
def Shows (v : Volume Name) (snapshot : Snapshot) : Prop :=
  (view v).snapshot parser account = some snapshot

/-- The final file is read as these entries, up to how a number is kept. -/
def ShowsEntries (v : Volume Name) (entries : List JsonEntry) (bytes : ByteArray) : Prop :=
  ∃ read, Shows parser account v ⟨read, bytes⟩
    ∧ List.Forall₂ (fun entry entry' => sameEntry entry entry' = true) entries read

/-- **The next process goes on from here.**  Without a fault the inspection finds
the snapshot, the cleanup removes the temporary file, and every rewrite of the
snapshot behind it succeeds. -/
structure Recovers (v : Volume Name) (snapshot : Snapshot) : Prop where
  inspect : ∃ final temp, (inspectImage P.owner parser account).run (answer P) v
    = (.ok ⟨snapshot, final, temp⟩, v)
  cleanup : ∃ status w, (cleanupStaleTemp P.owner parser account).run (answer P) v
      = ({ status := status, snapshot := snapshot }, w)
    ∧ (status = .applied ∨ status = .unchanged) ∧ w.names .temp = none
    ∧ Shows parser account w snapshot
    ∧ ∀ desired text, auditFormat.canonicalize account desired = some text →
      (∀ entry ∈ desired, InMemory entry) →
      ∃ w', (rewriteSnapshot P.owner parser account snapshot.bytes desired).run
          (answer P) w = (.ok ⟨desired, Json.encode text⟩, w')
        ∧ ShowsEntries parser account w' desired (Json.encode text)

/-- A call that does not open the temporary file. -/
def Unread (op : VolumeOp Name) : Prop :=
  op ≠ .openFile .temp ∧ ∀ mode, op ≠ .create .temp mode

variable {P} {parser} {account} {K : Option ByteArray → Prop}

theorem shows_iff : Shows parser account v snapshot
      ↔ (Files.mk (view v).final none).snapshot parser account = some snapshot := Iff.rfl

theorem Holds.final {file : Option Node} {uid : Nat} (h : Holds uid K .final file) :
    K (file.map (·.content)) := by
  cases file with
  | none => exact h
  | some node => exact h.2.2

/-- What a rewrite wrote is read back. -/
theorem showsEntries_written (htext : auditFormat.canonicalize account desired = some text)
    (hmry : ∀ entry ∈ desired, InMemory entry)
    (hcont : (view w).final = some (Json.encode text)) :
    ShowsEntries parser account w desired (Json.encode text) := by
  refine ⟨desired.map readBack, ?_, ?_⟩
  · rw [shows_iff, hcont, Files.snapshot]
    dsimp only
    rw [decode_canonicalize parser hmry htext]
    rfl
  · rw [forall₂_map_right_iff]
    exact forall₂_same.mpr fun entry _ => sameEntry_readBack entry

/-- A rewrite of what is found leaves the new text, for good. -/
theorem run_rewriteSnapshot_final (humask : P.umask &&& 0o600#12 = 0) {w : Volume Name}
    (hw : w.Guarded (Holds P.owner K)) (hsnap : Shows parser account w snapshot)
    (htemp : w.names .temp = none) (htext : auditFormat.canonicalize account desired = some text) :
    ∃ w', (rewriteSnapshot P.owner parser account snapshot.bytes desired).run (answer P) w
        = (.ok ⟨desired, Json.encode text⟩, w')
      ∧ w'.Guarded (Holds P.owner (· = some (Json.encode text))) := by
  have hok := run_rewriteSnapshot rfl humask hw hsnap htemp htext
  have hsafe := (triple_rewriteSnapshot rfl humask (hw.mono (Holds.mono fun _ _ => trivial)) htext
    (K := fun _ => True) trivial).ends _ _ (ends_run (volume_answer_exec (P := P))
      (rewriteSnapshot P.owner parser account snapshot.bytes desired) w)
  exact ⟨_, Prod.ext hok rfl, hsafe.2 _ hok⟩

/-- **Every store that is held recovers.** -/
theorem recovers_of_guarded (humask : P.umask &&& 0o600#12 = 0) {w : Volume Name}
    (hw : w.Guarded (Holds P.owner K))
    (hsnap : Shows parser account w snapshot) : Recovers P parser account w snapshot := by
  refine ⟨⟨_, _, run_inspectImage hw hsnap⟩, ?_⟩
  obtain ⟨status, w1, hrun, hstat, hw1, hfin, htemp⟩ := run_cleanupStaleTemp hw hsnap
  have hshows : Shows parser account w1 snapshot := by
    rw [shows_iff, hfin]
    exact hsnap
  refine ⟨status, w1, hrun, hstat, htemp, hshows, ?_⟩
  intro desired text htext hmry
  obtain ⟨w2, hrun2, hw2⟩ := run_rewriteSnapshot_final humask hw1 hshows htemp htext
  exact ⟨w2, hrun2, showsEntries_written htext hmry (Holds.final (hw2.visible .final))⟩

/-- **What is held is shown.** -/
theorem shows_of_guarded {uid : Nat} {w : Volume Name} {expected : Snapshot}
    {desired : List JsonEntry} {text : List Char}
    (htext : auditFormat.canonicalize account desired = some text)
    (hmry : ∀ entry ∈ desired, InMemory entry)
    (hw : w.Guarded (Holds uid fun content =>
      (Files.mk content none).snapshot parser account = some expected
        ∨ content = some (Json.encode text))) :
    Shows parser account w expected ∨ ShowsEntries parser account w desired (Json.encode text) := by
  rcases Holds.final (hw.visible .final) with hold | hnew
  · exact .inl hold
  · exact .inr (showsEntries_written htext hmry hnew)

section Unread

variable {α β : Type}

theorem unread_require {c : Bool} {next : DiskProg (Except String α)} (h : AllCalls Unread next) :
    AllCalls Unread (require c next) := by
  unfold require
  split
  · exact h
  · exact .done _

theorem unread_orFail {answer : Option β} {k : β → DiskProg (Except String α)}
    (h : ∀ b, AllCalls Unread (k b)) : AllCalls Unread (orFail answer k) := by
  cases answer with
  | none => exact .done _
  | some b => exact h b

/-- A call that does not open the temporary file, and what comes behind it. -/
theorem unread_call {op : VolumeOp Name} {k : op.Answer → DiskProg α}
    (hopen : op ≠ .openFile .temp) (hcre : ∀ mode, op ≠ .create .temp mode)
    (h : ∀ r, AllCalls Unread (k r)) : AllCalls Unread (.call op k) :=
  .call ⟨hopen, hcre⟩ h

theorem unread_readStableFile (uid : Nat) (named : Stat) :
    AllCalls Unread (readStableFile uid named) := by
  refine unread_call nofun nofun fun n => unread_orFail fun n => ?_
  refine unread_call nofun nofun fun opened => unread_orFail fun opened => ?_
  refine unread_require (unread_require ?_)
  refine unread_call nofun nofun fun ok => unread_require ?_
  refine unread_call nofun nofun fun bytes => unread_orFail fun bytes => unread_require ?_
  refine unread_call nofun nofun fun last => unread_orFail fun last => ?_
  refine unread_call nofun nofun fun shown => unread_orFail fun shown => unread_orFail fun shown => ?_
  exact unread_require (unread_require (.done _))

theorem unread_inspectFinal (uid : Nat) (final : Option Stat) :
    AllCalls Unread (inspectFinal uid parser account final) := by
  cases final with
  | none =>
    unfold inspectFinal
    exact unread_orFail fun text => .done _
  | some named =>
    refine unread_require ((unread_readStableFile uid named).bind fun read => ?_)
    cases read with
    | error detail => exact .done _
    | ok read => exact unread_orFail fun decoded => .done _

theorem unread_inspectImage (uid : Nat) : AllCalls Unread (inspectImage uid parser account) := by
  refine unread_call nofun nofun fun ok => unread_require ?_
  refine unread_call nofun nofun fun final => unread_orFail fun final => ?_
  refine (unread_inspectFinal uid final).bind fun found => ?_
  cases found with
  | error detail => exact .done _
  | ok found =>
    refine unread_call nofun nofun fun temp => unread_orFail fun temp => ?_
    cases temp with
    | none => exact .done _
    | some named => exact unread_require (.done _)

/-- **The cleanup does not read the temporary file.** -/
theorem unread_cleanupStaleTemp (uid : Nat) :
    AllCalls Unread (cleanupStaleTemp uid parser account) := by
  refine (unread_inspectImage uid).bind fun image => ?_
  cases image with
  | error detail => exact .done _
  | ok image =>
    cases himage : image.temp with
    | none =>
      dsimp only
      rw [himage]
      exact .done _
    | some temp =>
      dsimp only
      rw [himage]
      refine AllCalls.bind ?_ fun cleaned => .done _
      refine unread_call nofun nofun fun ok => unread_require ?_
      refine unread_call nofun nofun fun current => unread_orFail fun current =>
        unread_orFail fun current => unread_require ?_
      refine unread_call nofun nofun fun ok => unread_require ?_
      exact unread_call nofun nofun fun ok => unread_require (.done _)

end Unread

/-- **A rewrite is atomic.**  The store shows `expected`, also after a power loss.
Whatever call of the rewrite fails and wherever it is cut, with or without a
power loss, the next process finds exactly the old or exactly the new entries,
the new ones if the rewrite returned them, and goes on from there with a cleanup
that does not open the temporary file. -/
theorem rewrite_atomic (humask : P.umask &&& 0o600#12 = 0) (v : Volume Name) (expected : Snapshot)
    (hstore : v.Guarded (Holds P.owner fun content =>
      (Files.mk content none).snapshot parser account = some expected))
    (desired : List JsonEntry) (text : List Char)
    (htext : auditFormat.canonicalize account desired = some text)
    (hmry : ∀ entry ∈ desired, InMemory entry) :
    (∀ a v' w, Ends (volumeCalls Name P)
        (rewriteSnapshot P.owner parser account expected.bytes desired) v a v' → v'.Survives w →
      (Shows parser account w expected ∨ ShowsEntries parser account w desired (Json.encode text))
        ∧ (∀ snapshot, a = .ok snapshot → ShowsEntries parser account w desired (Json.encode text))
        ∧ ∀ snapshot, Shows parser account w snapshot → Recovers P parser account w snapshot)
    ∧ (∀ v' w, Cut (volumeCalls Name P)
        (rewriteSnapshot P.owner parser account expected.bytes desired) v v' → v'.Survives w →
      (Shows parser account w expected ∨ ShowsEntries parser account w desired (Json.encode text))
        ∧ ∀ snapshot, Shows parser account w snapshot → Recovers P parser account w snapshot)
    ∧ AllCalls Unread (cleanupStaleTemp P.owner parser account) := by
  have hheld : v.Guarded (Holds P.owner fun content =>
      (Files.mk content none).snapshot parser account = some expected
        ∨ content = some (Json.encode text)) := hstore.mono (Holds.mono fun _ => .inl)
  have htri : Triple (volumeCalls Name P)
      (rewriteSnapshot P.owner parser account expected.bytes desired) v _ _ :=
    triple_rewriteSnapshot rfl humask hheld htext (.inr rfl)
  refine ⟨fun a v' w hends hw => ?_, fun v' w hcut hw => ?_, unread_cleanupStaleTemp P.owner⟩
  · have hsafe := htri.ends a v' hends
    have hguarded := hsafe.1.survives hw Holds.cut
    refine ⟨shows_of_guarded htext hmry hguarded, fun snapshot ha => ?_, fun snapshot hshows =>
      recovers_of_guarded humask hguarded hshows⟩
    have hnew := (hsafe.2 snapshot ha).survives hw Holds.cut
    exact showsEntries_written htext hmry (Holds.final (hnew.visible .final))
  · have hguarded := (htri.cut v' hcut).survives hw Holds.cut
    exact ⟨shows_of_guarded htext hmry hguarded, fun snapshot hshows =>
      recovers_of_guarded humask hguarded hshows⟩

/-- A state directory without a store. -/
def emptyVolume : Volume Name where
  names := fun _ => none
  nodes := fun _ => { owner := 0, mode := 0 }
  next := 0

theorem emptyVolume_guarded : ∃ empty, emptyVolume.Guarded (Holds 1000 fun content =>
    (Files.mk content none).snapshot .reference "main" = some ⟨[], Json.encode empty⟩) := by
  obtain ⟨empty, -, hemp⟩ := Stored.snapshot .reference (s := {}) (stored_empty "main")
  have hnames : ∀ names, emptyVolume.Reaches names → names = fun _ => none :=
    fun names h => h.resolve_right not_mem_nil
  refine ⟨empty, fun names h name => ?_, fun names h name n hn => ?_⟩
  · rw [hnames names h]
    cases name with
    | final => exact hemp
    | temp => trivial
  · rw [hnames names h] at hn
    cases hn

/-- A first rewrite on the volume, of the entry of a leave, and over the two contents. -/
theorem ends_rewriteSnapshot_first : ∃ empty text v',
    auditFormat.canonicalize "main" [leaveEntry] = some text
      ∧ Ends (fileCalls true) (Store.rewriteSnapshot .reference "main" (Json.encode empty)
          [leaveEntry]) (view emptyVolume) (.ok ⟨[leaveEntry], Json.encode text⟩) (view v')
      ∧ (view v').final = some (Json.encode text) := by
  obtain ⟨text, htext⟩ := canonicalize_leaveEntry
  obtain ⟨empty, hstore⟩ := emptyVolume_guarded
  obtain ⟨v', hrun, hv'⟩ := run_rewriteSnapshot_final (P := ⟨1000, 0o077#12⟩) rfl hstore
    (Holds.final (hstore.visible .final)) rfl htext
  have hends := ends_run (volume_answer_exec (P := ⟨1000, 0o077#12⟩))
    (rewriteSnapshot 1000 .reference "main" (Json.encode empty) [leaveEntry]) emptyVolume
  rw [hrun] at hends
  exact ⟨empty, text, v', htext, ends_rewriteSnapshot rfl rfl hstore hends,
    Holds.final (hv'.visible .final)⟩

/-- A rewrite that adds an entry to the store a first rewrite left. -/
theorem rewrite_atomic_leave : ∃ v expected text,
    Shows .reference "main" v expected ∧ expected.entries = [leaveEntry]
      ∧ auditFormat.canonicalize "main" [leaveEntry, otherEntry] = some text
      ∧ ∀ a v' w, Ends (volumeCalls Name ⟨1000, 0o077#12⟩) (rewriteSnapshot 1000 .reference "main"
          expected.bytes [leaveEntry, otherEntry]) v a v' → v'.Survives w →
        Shows .reference "main" w expected
          ∨ ShowsEntries .reference "main" w [leaveEntry, otherEntry] (Json.encode text) := by
  obtain ⟨text, htext⟩ := canonicalize_leaveEntry
  obtain ⟨text', htext'⟩ := canonicalize_otherEntry
  obtain ⟨empty, hstore⟩ := emptyVolume_guarded
  obtain ⟨v, -, hv⟩ := run_rewriteSnapshot_final (P := ⟨1000, 0o077#12⟩) rfl hstore
    (Holds.final (hstore.visible .final)) rfl htext
  have hfirst : v.Guarded (Holds 1000 fun content => (Files.mk content none).snapshot .reference
      "main" = some ⟨[leaveEntry], Json.encode text⟩) := by
    refine hv.mono (Holds.mono ?_)
    rintro _ rfl
    unfold Files.snapshot
    dsimp only
    rw [decode_canonicalize .reference (by simpa using inMemory_leaveEntry) htext]
    rfl
  refine ⟨v, ⟨[leaveEntry], Json.encode text⟩, text', Holds.final (hfirst.visible .final), rfl,
    htext', fun a v' w hends hw => ?_⟩
  exact ((rewrite_atomic (P := ⟨1000, 0o077#12⟩) rfl v _ hfirst
    _ text' htext' inMemory_otherEntry).1 a v' w hends hw).1

end Atomic

end TgCli.Store.Disk
