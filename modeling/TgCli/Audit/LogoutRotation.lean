/-
  TgCli.Audit.LogoutRotation — THE ROTATION OF THE LOGOUT LOG AND THE PINS

  `LogoutAuditLog::append` (`logout_audit.cpp`) rotates `audit.log` on its own:
  it unlinks `audit.log.4` and moves every segment one slot up.  It does not
  read the store, whose entries pin the segments of their intents, nor the
  spool, whose directories pin the segments of their checkpoints.

  Main results:
    * `triple_shift` — the renames never change the scan;
    * `append_respects_pins_iff` — a logout intent, cut anywhere, respects the
      pins exactly when no rotation is due or `audit.log.4` is not pinned.
-/
import TgCli.Audit.Directory

namespace TgCli.Audit

open Lib Prog List Segment Segments

/-! ## §1. The writer. -/

/-- `rotation_bytes`. -/
def kRotationBytes : Nat := 32 * 1024 * 1024

namespace LogoutLog

/-- The renames of a rotation: every present segment moves one slot up. -/
def shift : List Nat → DirProg Bool
  | [] => .done true
  | i :: rest =>
    .look fun s =>
      if s.segments.slot i = none then shift rest
      else .call (.renameSegment i) fun ok => if ok = true then shift rest else .done false

/-- A full log moves on by one name; the last one goes. -/
def rotateIfNeeded (incoming : Nat) (beginGroup : Bool) : DirProg Bool :=
  .look fun s =>
    match s.segments.active with
    | none => .done true
    | some active =>
      if beginGroup = false ∨ active.size + incoming ≤ kRotationBytes then .done true
      else if s.segments.slot 4 = none then shift [3, 2, 1, 0]
      else
        .call (.unlinkSegment 4) fun ok =>
          if ok = true then shift [3, 2, 1, 0] else .done false

/-- The rotation, and then the line. -/
def append (record : LogoutRecord) (beginGroup : Bool) : DirProg Bool :=
  (rotateIfNeeded (Line.logout record).bytes beginGroup).bind fun ok =>
    if ok = true then .call (.append (.logout record)) .done else .done false

end LogoutLog

/-! ## §2. Pins. -/

/-- The pin's intent stands in one of the segments, under the pin's generation. -/
def Pin.FoundIn (pin : Pin) (segments : List Segment) : Prop :=
  ∃ segment ∈ segments, segment.inode = pin.generation
    ∧ ∃ intent, Line.v2 (.intent intent) ∈ segment.lines ∧ intent.invocation = pin.invocation
      ∧ intent.fingerprint = pin.fingerprint ∧ intent.operation = pin.operation

/-- The line is the `spool_ready` checkpoint of an invocation with a spool directory. -/
def AccountDir.holdsSpool (s : AccountDir) : Line → Bool
  | .v2 (.checkpoint { data := .spoolReady _, invocation := invocation, .. }) =>
    (s.directory invocation).isSome
  | _ => false

/-- The generations of the spools that are not released. -/
def AccountDir.spoolGenerations (s : AccountDir) : List Nat :=
  (s.segments.scan.filter fun segment => segment.lines.any s.holdsSpool).map inode

/-- The generations that store entries and spools refer to. -/
def AccountDir.pinnedGenerations (s : AccountDir) : List Nat :=
  (pins s.entries).map Pin.generation ++ s.spoolGenerations

/-- The same file, with more lines at most. -/
def Segment.Continues (before after : Segment) : Prop :=
  after.inode = before.inode ∧ before.lines <+: after.lines

/-- **What a rotation owes the pins**: the segments scanned afterwards are segments
of before in the same order, then new ones; every pinned segment is among them and
every pin of the store finds its intent. -/
def PinsRespected (s s' : AccountDir) : Prop :=
  (∃ kept continued created, kept.Sublist s.segments.scan
      ∧ List.Forall₂ Segment.Continues kept continued
      ∧ s'.segments.scan = continued ++ created
      ∧ ∀ generation ∈ s.pinnedGenerations, generation ∈ kept.map inode)
    ∧ ∀ pin ∈ pins s'.entries, pin.FoundIn s'.segments.scan

/-! ## §3. The renames keep the scan. -/

section Scan

variable {s : AccountDir} {kept : List Segment}

/-- The state differs from `s` in its segments only, and they are `kept`. -/
def Keeps (s : AccountDir) (kept : List Segment) (s' : AccountDir) : Prop :=
  s'.entries = s.entries ∧ s'.segments.scan = kept

variable {s₁ s₂ : AccountDir}

/-- What a rename of segment `i` can leave. -/
theorem keeps_rename (hi : i + 1 < kSegments)
    (hfree : s₁.segments.slot (i + 1) = none) (hkeeps : Keeps s kept s₁)
    (h : s₂ = s₁ ∨ s₂ = { s₁ with segments := s₁.segments.rename i }) : Keeps s kept s₂ := by
  rcases h with rfl | rfl
  · exact hkeeps
  · exact ⟨hkeeps.1, (scan_rename hi hfree).trans hkeeps.2⟩

theorem rename_effect {inode i : Nat}
    (h : (Op.renameSegment i).effect inode s₁ = some s₂) :
    s₂ = { s₁ with segments := s₁.segments.rename i } := by
  by_cases hslot : s₁.segments.slot i = none
  · simp [Op.effect, hslot] at h
  · simpa [Op.effect, hslot] using h.symm

theorem rename_states {inode i : Nat} (h : (Op.renameSegment i).Leaves inode s₁ s₂) :
    s₂ = s₁ ∨ s₂ = { s₁ with segments := s₁.segments.rename i } := by
  rcases h with h | h | h
  · exact .inl h
  · exact .inr (rename_effect h)
  · exact h.elim

/-- **The renames never change the scan.**  The slot above the next source is always free:
it was emptied by the unlink, or by the rename before. -/
theorem triple_shift (n : Nat) (hn : n < kSegments) :
    ∀ s₁, Keeps s kept s₁ → s₁.segments.slot n = none →
      Triple faultyCalls (LogoutLog.shift (List.range n).reverse) s₁ (Keeps s kept)
        (fun _ s' => Keeps s kept s') := by
  induction n with
  | zero =>
    intro s₁ hkeeps _
    exact triple_done hkeeps hkeeps
  | succ n ih =>
    intro s₁ hkeeps hfree
    have hlist : (List.range (n + 1)).reverse = n :: (List.range n).reverse := by
      rw [range_succ, reverse_append]
      rfl
    rw [hlist]
    apply triple_look
    apply triple_ite
    · intro hemp
      exact ih (by omega) s₁ hkeeps hemp
    · intro _
      apply triple_try hkeeps
      · intro inode s₂ h
        have hkeeps2 := keeps_rename hn hfree hkeeps (rename_states h)
        exact ⟨hkeeps2, hkeeps2⟩
      · intro inode s₂ h
        apply ih (by omega) s₂ (keeps_rename hn hfree hkeeps (.inr (rename_effect h)))
        rw [rename_effect h]
        exact slot_rename_source hn

end Scan

/-! ## §4. What is kept respects the pins. -/

theorem Segment.Continues.refl (segment : Segment) : segment.Continues segment :=
  ⟨rfl, prefix_refl _⟩

theorem continues_refl (segments : List Segment) :
    List.Forall₂ Segment.Continues segments segments :=
  forall₂_same.mpr fun segment _ => .refl segment

variable {kept continued : List Segment} {s s' : AccountDir} {record : LogoutRecord}

/-- A pin's intent stays where the segments continue. -/
theorem Pin.FoundIn.continues {pin : Pin} (h : pin.FoundIn kept)
    (hcontinue : List.Forall₂ Segment.Continues kept continued) :
    pin.FoundIn (continued ++ created) := by
  obtain ⟨segment, hmem, hinode, intent, hline, hfld⟩ := h
  obtain ⟨after, hafter, hsame, hprefix⟩ := exists_related hcontinue hmem
  exact ⟨after, mem_append_left _ hafter, hsame.trans hinode, intent, hprefix.subset hline, hfld⟩

/-- The segments of `kept` are enough for the pins of `s`. -/
structure EnoughFor (s : AccountDir) (kept : List Segment) : Prop where
  sublist : kept.Sublist s.segments.scan
  pinned : ∀ generation ∈ s.pinnedGenerations, generation ∈ kept.map inode
  found : ∀ pin ∈ pins s.entries, pin.FoundIn kept

theorem EnoughFor.respected (h : EnoughFor s kept)
    (hents : s'.entries = s.entries) (hcontinue : List.Forall₂ Segment.Continues kept continued)
    (hscan : s'.segments.scan = continued ++ created) : PinsRespected s s' := by
  refine ⟨⟨kept, continued, created, h.sublist, hcontinue, hscan, h.pinned⟩, ?_⟩
  intro pin hpin
  rw [hents] at hpin
  rw [hscan]
  exact (h.found pin hpin).continues hcontinue

theorem EnoughFor.respected_of_keeps (h : EnoughFor s kept)
    (hkeeps : Keeps s kept s') : PinsRespected s s' := by
  apply h.respected hkeeps.1 (continues_refl kept)
  rw [hkeeps.2]
  exact (append_nil kept).symm

/-- What is done to `audit.log` continues it, or creates it. -/
theorem scan_create_mapActive (segments : Segments) {inode : Nat} (hfresh : segments.Fresh inode)
    (f : Content → Content) (hf : ∀ content, content.lines <+: (f content).lines) :
    ∃ continued created, List.Forall₂ Segment.Continues segments.scan continued
      ∧ ((segments.create inode).mapActive f).scan = continued ++ created := by
  cases hact : segments.active with
  | none =>
    refine ⟨segments.scan, [mapContent f { inode := inode }], continues_refl _, ?_⟩
    rw [scan_mapActive, older_create,
      active_create_none hact hfresh.2, scan_eq, hact]
    simp
  | some active =>
    refine ⟨segments.older ++ [active.mapContent f], [], ?_, ?_⟩
    · rw [scan_eq, hact]
      apply rel_append (continues_refl _)
      exact .cons ⟨rfl, hf _⟩ .nil
    · rw [scan_mapActive, active_create_some hact, hact]
      simp

theorem write_extends (line : Line) (content : Content) :
    content.lines <+: (content.write line).lines := by
  by_cases h : content.tail = 0
  · rw [Content.write, if_pos h]
    exact prefix_append _ _
  · rw [Content.write, if_neg h]
    exact prefix_append _ _

/-- What an append can leave respects the pins. -/
theorem EnoughFor.respected_append {line : Line} {inode : Nat}
    (h : EnoughFor s kept) (hkeeps : Keeps s kept s₁) (hfresh : s₁.segments.Fresh inode)
    (hstates : (Op.append line).Leaves inode s₁ s₂) : PinsRespected s s₂ := by
  rcases hstates with rfl | heff | ⟨count, _, rfl⟩
  · exact h.respected_of_keeps hkeeps
  · cases heff
    obtain ⟨continued, created, hcontinue, hscan⟩ :=
      scan_create_mapActive s₁.segments hfresh (·.write line) (write_extends line)
    rw [hkeeps.2] at hcontinue
    exact h.respected hkeeps.1 hcontinue hscan
  · obtain ⟨continued, created, hcontinue, hscan⟩ :=
      scan_create_mapActive s₁.segments hfresh (·.tear count) (fun _ => prefix_refl _)
    rw [hkeeps.2] at hcontinue
    exact h.respected hkeeps.1 hcontinue hscan

/-! ## §5. When the rotation respects the pins. -/

/-- A rotation is due before the record. -/
def RotationDue (s : AccountDir) (record : LogoutRecord) : Prop :=
  ∃ active, s.segments.active = some active
    ∧ kRotationBytes < active.size + (Line.logout record).bytes

/-- An entry or a spool refers to `audit.log.4`. -/
def OldestPinned (s : AccountDir) : Prop :=
  ∃ oldest, s.segments.slot 4 = some oldest ∧ oldest.inode ∈ s.pinnedGenerations

/-- Every pin of the store refers to an intent in the segments. -/
def PinsRefer (s : AccountDir) : Prop := ∀ pin ∈ pins s.entries, pin.FoundIn s.segments.scan

theorem PinsRefer.pinned_mem (h : PinsRefer s)
    (hpinned : generation ∈ s.pinnedGenerations) : generation ∈ s.segments.inodes := by
  rcases mem_append.mp hpinned with hstore | hspool
  · obtain ⟨pin, hpin, rfl⟩ := mem_map.mp hstore
    obtain ⟨segment, hseg, hinode, _⟩ := h pin hpin
    exact hinode ▸ mem_map_of_mem hseg
  · obtain ⟨segment, hseg, rfl⟩ := mem_map.mp hspool
    exact mem_map_of_mem (mem_of_mem_filter hseg)

/-- Nothing is lost: all segments are enough. -/
theorem PinsRefer.enough (h : PinsRefer s) : EnoughFor s s.segments.scan :=
  ⟨List.Sublist.refl _, fun _ hpinned => h.pinned_mem hpinned, h⟩

/-- Without an unpinned `audit.log.4` the rest is enough. -/
theorem PinsRefer.enough_unlink (h : PinsRefer s)
    (hslot : s.segments.slot 4 = some oldest) (hfree : oldest.inode ∉ s.pinnedGenerations) :
    EnoughFor s (s.segments.unlink 4).scan := by
  have hscan := scan_unlink_oldest hslot
  refine ⟨scan_unlink_sublist _ _, ?_, ?_⟩
  · intro generation hpinned
    have hmem := h.pinned_mem hpinned
    rw [inodes, hscan, map_cons] at hmem
    rcases mem_cons.mp hmem with rfl | hmem
    · exact absurd hpinned hfree
    · exact hmem
  · intro pin hpin
    obtain ⟨segment, hseg, hinode, hint⟩ := h pin hpin
    rw [hscan] at hseg
    rcases mem_cons.mp hseg with rfl | hseg
    · -- the pin itself would pin the oldest segment
      refine absurd ?_ hfree
      rw [hinode]
      exact mem_append_left _ (mem_map_of_mem hpin)
    · exact ⟨segment, hseg, hinode, hint⟩

/-- **What a rotation can leave**: all segments, or all but `audit.log.4` when one is due. -/
def Rotated (s : AccountDir) (record : LogoutRecord) (s' : AccountDir) : Prop :=
  Keeps s s.segments.scan s'
    ∨ (RotationDue s record ∧ (∃ oldest, s.segments.slot 4 = some oldest)
      ∧ Keeps s (s.segments.unlink 4).scan s')

theorem triple_rotateIfNeeded (s : AccountDir) (record : LogoutRecord) :
    Triple faultyCalls (LogoutLog.rotateIfNeeded (Line.logout record).bytes true) s
      (Rotated s record) (fun _ s' => Rotated s record s') := by
  have hnow : Rotated s record s := .inl ⟨rfl, rfl⟩
  apply triple_look
  cases hact : s.segments.active with
  | none => exact triple_done hnow hnow
  | some active =>
    apply triple_ite
    · intro _
      exact triple_done hnow hnow
    · intro hlarge
      have hdue : RotationDue s record := ⟨active, hact, by
        by_contra hsmall
        exact hlarge (.inr (by omega))⟩
      apply triple_ite
      · intro hemp
        apply (triple_shift 4 (by decide) s ⟨rfl, rfl⟩ hemp).mono
        · exact fun s' h => .inl h
        · exact fun _ s' h => .inl h
      · intro hpres
        have hunlinked : ∀ s', Keeps s (s.segments.unlink 4).scan s' → Rotated s record s' :=
          fun s' h => .inr ⟨hdue, Option.ne_none_iff_exists'.mp hpres, h⟩
        have hafter : Keeps s (s.segments.unlink 4).scan
            { s with segments := s.segments.unlink 4 } := ⟨rfl, rfl⟩
        have heff : ∀ inode, (Op.unlinkSegment 4).effect inode s
            = some { s with segments := s.segments.unlink 4 } := by
          intro inode
          simp [Op.effect, hpres]
        apply triple_try hnow
        · rintro inode s' (rfl | h | h)
          · exact ⟨hnow, hnow⟩
          · rw [heff] at h
            cases h
            exact ⟨hunlinked _ hafter, hunlinked _ hafter⟩
          · exact h.elim
        · intro inode s' h
          rw [heff] at h
          cases h
          apply (triple_shift 4 (by decide) _ hafter
            (Slots.put_same s.segments.slot 4 none)).mono hunlinked
          exact fun _ => hunlinked

/-- Outside the condition, what the rotation left is enough for the pins. -/
theorem Rotated.enough (h : Rotated s record s') (hrefer : PinsRefer s)
    (hsafe : ¬ (RotationDue s record ∧ OldestPinned s)) :
    ∃ kept, EnoughFor s kept ∧ Keeps s kept s' := by
  rcases h with hkeeps | ⟨hdue, ⟨oldest, hslot⟩, hkeeps⟩
  · exact ⟨_, hrefer.enough, hkeeps⟩
  · have hunpinned : oldest.inode ∉ s.pinnedGenerations :=
      fun hpinned => hsafe ⟨hdue, oldest, hslot, hpinned⟩
    exact ⟨_, hrefer.enough_unlink hslot hunpinned, hkeeps⟩

theorem triple_append (hrefer : PinsRefer s) (hsafe : ¬ (RotationDue s record ∧ OldestPinned s)) :
    Triple faultyCalls (LogoutLog.append record true) s (PinsRespected s)
      (fun _ s' => PinsRespected s s') := by
  have hrot : ∀ s₁, Rotated s record s₁ → PinsRespected s s₁ := by
    intro s₁ h
    obtain ⟨kept, henough, hkeeps⟩ := h.enough hrefer hsafe
    exact henough.respected_of_keeps hkeeps
  apply triple_bind ((triple_rotateIfNeeded s record).mono hrot fun _ _ h => h)
  intro ok s₁ h
  obtain ⟨kept, henough, hkeeps⟩ := h.enough hrefer hsafe
  have hnow := henough.respected_of_keeps hkeeps
  apply triple_ite
  · intro _
    refine triple_faulty hnow fun inode s₂ hfresh h => ?_
    have hafter := henough.respected_append hkeeps hfresh h
    exact ⟨hafter, fun _ _ => triple_done hafter hafter⟩
  · intro _
    exact triple_done hnow hnow

/-- A crash right after the unlink of a due rotation. -/
theorem cut_unlink_oldest (hdue : RotationDue s record) (hslot : s.segments.slot 4 = some oldest) :
    Cut faultyCalls (LogoutLog.append record true) s
      { s with segments := s.segments.unlink 4 } := by
  obtain ⟨active, hact, hsize⟩ := hdue
  have hlarge : ¬ (true = false ∨ active.size + (Line.logout record).bytes ≤ kRotationBytes) := by
    rintro (h | h)
    · cases h
    · omega
  have hpres : s.segments.slot 4 ≠ none := by
    rw [hslot]
    exact Option.some_ne_none _
  rw [LogoutLog.append, LogoutLog.rotateIfNeeded]
  apply Cut.look
  simp only [hact]
  rw [if_neg hlarge, if_neg hpres]
  apply Cut.inside
  refine ⟨s.nextInode, s.fresh_nextInode, .inr (.inl ?_)⟩
  simp [Op.effect, hpres]

/-- **A logout intent respects the pins exactly when it does not unlink a pinned segment**:
at every end and at every crash, the pinned segments stay, the scan keeps its order and no
pin dangles, if and only if no rotation is due or `audit.log.4` is not pinned. -/
theorem append_respects_pins_iff (s : AccountDir) (record : LogoutRecord) (hrefer : PinsRefer s) :
    ((∀ ok s', Ends faultyCalls (LogoutLog.append record true) s ok s' → PinsRespected s s')
      ∧ ∀ s', Cut faultyCalls (LogoutLog.append record true) s s' → PinsRespected s s')
      ↔ ¬ (RotationDue s record ∧ OldestPinned s) := by
  constructor
  · rintro ⟨_, hcut⟩ ⟨hdue, oldest, hslot, hpinned⟩
    obtain ⟨⟨kept, continued, created, _, hcontinue, hscan, hkept⟩, _⟩ :=
      hcut _ (cut_unlink_oldest hdue hslot)
    -- the pinned inode would still be scanned, next to the unlinked segment
    have hmem : oldest.inode ∈ (s.segments.unlink 4).scan.map inode := by
      have hthere : (s.segments.unlink 4).scan = continued ++ created := hscan
      rw [hthere, map_append, map_related hcontinue fun _ _ h => h.1]
      exact mem_append_left _ (hkept _ hpinned)
    have hdist := s.segments.distinct
    rw [show Slots.scanned kSegments s.segments.slot = s.segments.scan from rfl,
      scan_unlink_oldest hslot, map_cons] at hdist
    exact (nodup_cons.mp hdist).1 hmem
  · intro hsafe
    have htri := triple_append hrefer hsafe
    exact ⟨htri.ends, htri.cut⟩

/-! ## §6. Five full segments, the oldest of them pinned. -/

def hexDigits (count n : Nat) : String := .ofList (Nat.toDigits 16 (16 ^ (count - 1) + n))

/-- `msg pin` under a key, and its result. -/
def keyedIntent : Intent where
  invocation := hexDigits 32 0
  unixSeconds := 1700000000
  operation := .msgPin
  plan := { target := some { chatId := some 10 }, messageIds := [1048576] }
  fingerprint := hexDigits 64 1
  keyHash := some (hexDigits 64 2)
  bytes := 900

def keyedResult : Terminal := .result keyedIntent.plan.target none false "\"pinned\":true"

/-- The entry of that request, completed and kept for seven days. -/
def pinningEntry : Entry where
  keyHash := hexDigits 64 2
  fingerprint := hexDigits 64 1
  operation := .msgPin
  state := .completed
  invocation := hexDigits 32 0
  auditGeneration := 10
  createdAt := 1700000000
  expiresAt := 1700604800
  reservedTerminalBytes := 0
  plan := keyedIntent.plan
  temporaryIds := []
  forwardProgress := []
  terminal := some keyedResult

/-- A mutation that succeeded; `size` is the length of the two lines with its result. -/
def confirmedGroup (intent : Intent) (pending : List CheckpointData) (result : Terminal)
    (size : Nat) : List Line :=
  let data := pending ++ [.dispatchStarted (hexDigits 64 4), .mutationConfirmed result]
  .v2 (.intent intent)
    :: data.mapIdx (fun i d => .v2 (.checkpoint ⟨intent.invocation, intent.operation, i + 1, d,
        if d.stage = .mutationConfirmed then size else 300⟩))
    ++ [.v2 (.outcome ⟨intent.invocation, intent.operation, true, .confirmed,
        data.map CheckpointData.stage, result, size⟩)]

/-- `storage optimize`, which no preflight of logout holds back; its statistics of 101 chats
make a group of 256 KiB. -/
def optimizeGroup (n : Nat) : List Line :=
  confirmedGroup ⟨hexDigits 32 n, 1700000000 + n, .storageOptimize, { target := none },
    hexDigits 64 3, none, 900⟩ [] (.result none none false (.ofList (.replicate 130000 '0'))) 130470

/-- 32 MiB of them. -/
def fullSegment (inode first : Nat) : Segment :=
  { inode := inode, lines := (List.range 128).flatMap fun n => optimizeGroup (first + n) }

/-- The oldest segment: the keyed request before the others. -/
def oldestSegment : Segment :=
  { inode := 10
    lines := confirmedGroup keyedIntent [.idempotencyPending (hexDigits 64 2) (hexDigits 64 1)
      1700604800 32768] keyedResult 1200 ++ (fullSegment 10 1).lines }

/-- Five occupied slots, a full `audit.log` and a pinned `audit.log.4`. -/
def crowdedDir : AccountDir where
  segments := ⟨fun i =>
    match i with
    | 0 => some (fullSegment 14 513)
    | 1 => some (fullSegment 13 385)
    | 2 => some (fullSegment 12 257)
    | 3 => some (fullSegment 11 129)
    | 4 => some oldestSegment
    | _ => none, by decide⟩
  entries := [pinningEntry]

def logoutIntent : LogoutRecord where
  invocation := hexDigits 32 641
  phase := .intent (hexDigits 64 5)
  bytes := 400

theorem crowdedDir_refers : PinsRefer crowdedDir := by
  intro pin hpin
  obtain rfl : pin = pinningEntry.pin := mem_singleton.mp hpin
  exact ⟨oldestSegment, Slots.mem_scanned.mpr ⟨4, by decide, rfl⟩, rfl, keyedIntent,
    mem_cons_self, rfl, rfl, rfl⟩

/-- The rotation is due, and the oldest segment is pinned. -/
theorem crowdedDir_unsafe : RotationDue crowdedDir logoutIntent ∧ OldestPinned crowdedDir :=
  ⟨⟨_, rfl, by decide +kernel⟩, _, rfl, by decide +kernel⟩

theorem append_respects_pins_iff_crowdedDir : PinsRefer crowdedDir
      ∧ ¬ ((∀ ok s', Ends faultyCalls (LogoutLog.append logoutIntent true) crowdedDir ok s' →
            PinsRespected crowdedDir s')
          ∧ ∀ s', Cut faultyCalls (LogoutLog.append logoutIntent true) crowdedDir s' →
            PinsRespected crowdedDir s') :=
  ⟨crowdedDir_refers, fun h =>
    (append_respects_pins_iff crowdedDir logoutIntent crowdedDir_refers).mp h crowdedDir_unsafe⟩

/-- Without any fault, the logout intent deletes the segment of the keyed request: its
pin dangles. -/
theorem logout_deletes_pinned_segment :
    ∃ after, Ends faultyCalls (LogoutLog.append logoutIntent true) crowdedDir true after
      ∧ 10 ∈ crowdedDir.pinnedGenerations ∧ 10 ∉ after.segments.inodes
      ∧ pinningEntry ∈ after.entries ∧ ¬ pinningEntry.pin.FoundIn after.segments.scan := by
  refine ⟨((LogoutLog.append logoutIntent true).run answer crowdedDir).2, ?_, by decide +kernel,
    by decide +kernel, by decide +kernel, ?_⟩
  · have hends := ends_run answer_exec (LogoutLog.append logoutIntent true) crowdedDir
    have hok : ((LogoutLog.append logoutIntent true).run answer crowdedDir).1 = true := by
      decide +kernel
    rwa [hok] at hends
  · rintro ⟨segment, hmem, hinode, _⟩
    have hgone : (10 : Nat) ∉ ((LogoutLog.append logoutIntent true).run answer
        crowdedDir).2.segments.inodes := by decide +kernel
    exact hgone (mem_map.mpr ⟨segment, hmem, hinode⟩)

end TgCli.Audit
