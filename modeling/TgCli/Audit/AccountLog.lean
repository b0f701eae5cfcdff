/-
  TgCli.Audit.AccountLog — THE WRITER OF VERSION 2

  `AccountAuditLog` (`account_audit.cpp`) appends an intent after a clean
  inspection and a rotation that spares pinned segments; it appends a
  checkpoint or an outcome only if the open group accepts it.

  Main results:
    * `triple_shiftExclusive` — the renames of the rotation keep the scan;
    * `triple_rotateLossless` — the rotation drops at most one segment, and
      never a pinned one;
    * `rotateForIntent_lossless` — the same at every end and every crash, with the
      order of what is left.
-/
import TgCli.Audit.LogoutRotation

namespace TgCli.Audit

open Lib Prog List

/-! ## §1. The rotation. -/

namespace AccountLog

/-- The exclusive renames of `rotate_for_intent`, from the hole down. -/
def shiftExclusive : List Nat → DirProg Bool
  | [] => .done true
  | i :: rest =>
    .call (.renameExclusive i) fun ok =>
      if ok = true then shiftExclusive rest else .done false

/-- The lowest free slot above `audit.log`. -/
def lowestHole (s : Segments) : Option Nat :=
  [1, 2, 3, 4].find? fun i => (s.slot i).isNone

/-- The highest slot above `audit.log` that is not pinned. -/
def highestUnpinned (s : Segments) (pinned : List Nat) : Option Nat :=
  [4, 3, 2, 1].find? fun i =>
    match s.slot i with
    | some segment => !pinned.contains segment.inode
    | none => false

/-- `rotate_for_intent`; `pinned` are the generations of pins and spool holds. -/
def rotateForIntent (incoming : Nat) (absentByPolicy : Bool) (pinned : List Nat) : DirProg Bool :=
  .look fun s =>
    match s.segments.active with
    | none => .done true
    | some active =>
      if active.size = 0
          ∨ (incoming ≤ kRotationBytes ∧ active.size ≤ kRotationBytes - incoming) then
        .done true
      else
        match lowestHole s.segments with
        | some hole => shiftExclusive (List.range hole).reverse
        | none =>
          if absentByPolicy = true then .done false
          else
            match highestUnpinned s.segments pinned with
            | none => .done false
            | some hole =>
              .call (.unlinkSegment hole) fun ok =>
                if ok = true then shiftExclusive (List.range hole).reverse
                else .done false

/-! ## §2. Appends. -/

/-- `AccountAuditPinSource`: the pins of the store, or none by policy. -/
inductive PinSource where
  | known (pins : List Pin)
  | absentByPolicy
deriving DecidableEq, Repr

def PinSource.pins : PinSource → List Pin
  | .known pins => pins
  | .absentByPolicy => []

/-- `AccountAuditAppendPermit`: what the rotation has to spare. -/
structure Permit where
  absentByPolicy : Bool
  pinned : List Nat
deriving DecidableEq, Repr

/-- The generation of a completed group's spool. -/
def holdSeed (view : CompletedView) : Option Nat :=
  if view.group.spoolReady.isSome then some view.group.generation else none

/-- `prepare_append`: a permit after a clean inspection. -/
def prepareAppend (intent : Intent) (source : PinSource) (s : AccountDir) :
    Except Inspection Permit :=
  if (intent.operation == .sessionTerminate) != (source == .absentByPolicy) then
    .error (.contradiction (.incomplete .none []) "pin source contradicts the operation policy")
  else
    match scanAll source.pins s.segments with
    | .error inspection => .error inspection
    | .ok state =>
      if state.finish = .clean then
        .ok { absentByPolicy := source == .absentByPolicy
              pinned := source.pins.map Pin.generation ++ state.views.filterMap holdSeed }
      else .error state.finish

/-- `append_intent`: the generation of the intent. -/
def appendIntent (intent : Intent) (permit : Permit) : DirProg (Option Nat) :=
  let line := Line.v2 (.intent intent)
  (rotateForIntent line.bytes permit.absentByPolicy permit.pinned).bind fun ok =>
    if ok = true then
      .call (.append line) fun ok =>
        if ok = true then .look fun s => .done (s.segments.active.map Segment.inode)
        else .done none
    else .done none

def appendCheckpoint (checkpoint : Checkpoint) : DirProg Bool :=
  .look fun s =>
    match inspect [] s.segments with
    | .openGroup group =>
      match consumeCheckpoint group checkpoint with
      | .ok _ => .call (.append (.v2 (.checkpoint checkpoint))) .done
      | .error _ => .done false
    | _ => .done false

def appendOutcome (outcome : Outcome) : DirProg Bool :=
  .look fun s =>
    match inspect [] s.segments with
    | .openGroup group =>
      match consumeOutcome group outcome with
      | .ok _ => .call (.append (.v2 (.outcome outcome))) .done
      | .error _ => .done false
    | _ => .done false

end AccountLog

/-! ## §3. The rotation keeps the scan. -/

section Rotation

open AccountLog

variable {s : AccountDir} {kept : List Segment}

variable {i hole : Nat} {s₁ : AccountDir} {pinned : List Nat}

theorem renameExclusive_effect (h : (Op.renameExclusive i).effect inode s₁ = some s2) :
    s₁.segments.slot (i + 1) = none ∧ s2 = { s₁ with segments := s₁.segments.rename i } := by
  by_cases hfail : s₁.segments.slot i = none ∨ s₁.segments.slot (i + 1) ≠ none
  · simp [Op.effect, hfail] at h
  have hfree : s₁.segments.slot (i + 1) = none := by
    by_contra hne
    exact hfail (Or.inr hne)
  simp only [Op.effect, if_neg hfail, Option.some.injEq] at h
  exact ⟨hfree, h.symm⟩

/-- What an exclusive rename can leave keeps the scan. -/
theorem keeps_renameExclusive (hi : i + 1 < kSegments)
    (hkeeps : Keeps s kept s₁) (h : (Op.renameExclusive i).Leaves inode s₁ s2) :
    Keeps s kept s2 := by
  rcases h with rfl | h | h
  · exact hkeeps
  · obtain ⟨hfree, rfl⟩ := renameExclusive_effect h
    exact keeps_rename hi hfree hkeeps (Or.inr rfl)
  · exact h.elim

theorem triple_shiftExclusive (l : List Nat) (hl : ∀ i ∈ l, i + 1 < kSegments) :
    ∀ s₁, Keeps s kept s₁ →
      Triple faultyCalls (shiftExclusive l) s₁ (Keeps s kept) (fun _ s' => Keeps s kept s') := by
  induction l with
  | nil =>
    intro s₁ hkeeps
    exact triple_done hkeeps hkeeps
  | cons i l ih =>
    intro s₁ hkeeps
    have hi := hl i mem_cons_self
    apply triple_try hkeeps
    · intro inode s2 h
      have hkeeps2 := keeps_renameExclusive hi hkeeps h
      exact ⟨hkeeps2, hkeeps2⟩
    · intro inode s2 h
      exact ih (fun j hj => hl j (mem_cons_of_mem _ hj)) s2
        (keeps_renameExclusive hi hkeeps (.inr (.inl h)))

/-- The segments a rotation for an intent can leave: all, or all but one that is not pinned. -/
def Spares (pinned : List Nat) (s : AccountDir) (s' : AccountDir) : Prop :=
  ∃ kept, Keeps s kept s' ∧ kept.Sublist s.segments.scan
    ∧ ∀ segment ∈ s.segments.scan, segment.inode ∈ pinned → segment ∈ kept

/-- **Nothing is lost that must be kept**: the segments stand in their old order, and at most
one that is not pinned is gone. -/
def Lossless (pinned : List Nat) (s : AccountDir) (s' : AccountDir) : Prop :=
  Keeps s s.segments.scan s'
    ∨ ∃ segment ∈ s.segments.scan, segment.inode ∉ pinned
      ∧ Keeps s (s.segments.scan.erase segment) s'

theorem Lossless.spares (h : Lossless pinned s s') : Spares pinned s s' := by
  rcases h with h | ⟨gone, _, hfree, h⟩
  · exact ⟨_, h, List.Sublist.refl _, fun _ hmem _ => hmem⟩
  · refine ⟨_, h, erase_sublist, ?_⟩
    intro segment hmem hpin
    refine (mem_erase_of_ne ?_).mpr hmem
    rintro rfl
    exact hfree hpin

/-- The line fits: `audit.log` is free, empty or below the threshold. -/
def Roomy (incoming : Nat) (s : AccountDir) : Prop :=
  ∀ active, s.segments.active = some active →
    active.size = 0 ∨ (incoming ≤ kRotationBytes ∧ active.size ≤ kRotationBytes - incoming)

theorem mem_range_reverse_lt (hhole : hole < kSegments)
    (hi : i ∈ (List.range hole).reverse) : i + 1 < kSegments := by
  have := mem_range.mp (mem_reverse.mp hi)
  omega

/-- When the last rename was done, `audit.log` is free. -/
theorem shiftExclusive_frees (l : List Nat) :
    ∀ (s₁ s2 : AccountDir), Ends faultyCalls (shiftExclusive (l ++ [0])) s₁ true s2 →
      s2.segments.active = none := by
  induction l with
  | nil =>
    intro s₁ s2 h
    cases h with
    | @call _ _ _ s3 _ ok _ hexec hrest =>
      cases ok with
      | false => cases hrest
      | true =>
        cases hrest
        obtain ⟨inode, _, ⟨_, heff⟩ | ⟨hfalse, _⟩⟩ := hexec
        · obtain ⟨_, rfl⟩ := renameExclusive_effect heff
          exact Segments.slot_rename_source (show 0 + 1 < kSegments by decide)
        · cases hfalse
  | cons i l ih =>
    intro s₁ s2 h
    cases h with
    | @call _ _ _ s3 _ ok _ hexec hrest =>
      cases ok with
      | false => cases hrest
      | true => exact ih s3 s2 hrest

theorem range_reverse_last (h : 0 < hole) : ∃ l, (List.range hole).reverse = l ++ [0] := by
  obtain ⟨k, rfl⟩ : ∃ k, hole = k + 1 := ⟨hole - 1, by omega⟩
  rw [range_succ_eq_map, reverse_cons]
  exact ⟨_, rfl⟩

/-- The renames after the hole is free. -/
theorem triple_shiftHole (hpos : 0 < hole) (hhole : hole < kSegments) (h : Keeps s kept s₁) :
    Triple faultyCalls (shiftExclusive (List.range hole).reverse) s₁ (Keeps s kept)
      (fun ok s' => Keeps s kept s' ∧ (ok → Roomy incoming s')) := by
  have hkeeps := triple_shiftExclusive _ (fun _ => mem_range_reverse_lt hhole) s₁ h
  refine ⟨hkeeps.cut, ?_⟩
  intro ok s' hends
  refine ⟨hkeeps.ends ok s' hends, ?_⟩
  rintro rfl active hact
  obtain ⟨l, hl⟩ := range_reverse_last hpos
  rw [hl] at hends
  rw [shiftExclusive_frees l s₁ s' hends] at hact
  cases hact

theorem lowestHole_lt (h : lowestHole segments = some hole) : 0 < hole ∧ hole < kSegments := by
  have hmem := mem_of_find?_eq_some h
  have hall : ∀ i ∈ [1, 2, 3, 4], 0 < i ∧ i < kSegments := by decide
  exact hall hole hmem

theorem highestUnpinned_some (h : highestUnpinned segments pinned = some hole) :
    (0 < hole ∧ hole < kSegments)
      ∧ ∃ segment, segments.slot hole = some segment ∧ segment.inode ∉ pinned := by
  have hmem := mem_of_find?_eq_some h
  have hall : ∀ i ∈ [4, 3, 2, 1], 0 < i ∧ i < kSegments := by decide
  refine ⟨hall hole hmem, ?_⟩
  have htest := find?_some h
  cases hslot : segments.slot hole with
  | none => simp [hslot] at htest
  | some segment =>
    refine ⟨segment, rfl, ?_⟩
    simpa [hslot] using htest

/-- The eviction: the unlink, then the renames. -/
theorem triple_evict (hpos : 0 < hole) (hhole : hole < kSegments)
    (hslot : s.segments.slot hole = some gone) (hfree : gone.inode ∉ pinned) :
    Triple faultyCalls (.call (.unlinkSegment hole) fun ok =>
        if ok = true then shiftExclusive (List.range hole).reverse else .done false)
      s (Lossless pinned s)
      (fun ok s' => Lossless pinned s s' ∧ (ok → Roomy incoming s')) := by
  have hgone : gone ∈ s.segments.scan := Slots.mem_scanned.mpr ⟨hole, hhole, hslot⟩
  have hless : ∀ s', Keeps s (s.segments.scan.erase gone) s' → Lossless pinned s s' :=
    fun s' h => .inr ⟨gone, hgone, hfree, h⟩
  -- the unlink leaves everything, or everything but the one segment
  have hunlink : ∀ inode s', (Op.unlinkSegment hole).effect inode s = some s' →
      Keeps s (s.segments.scan.erase gone) s' := by
    intro inode s' h
    simp only [Op.effect, hslot, reduceCtorEq, if_false, Option.some.injEq] at h
    subst h
    exact ⟨rfl, Segments.scan_unlink hhole hslot⟩
  apply triple_try (.inl ⟨rfl, rfl⟩)
  · intro inode s' h
    suffices hlost : Lossless pinned s s' from ⟨hlost, hlost, by simp⟩
    rcases h with rfl | h | h
    · exact .inl ⟨rfl, rfl⟩
    · exact hless s' (hunlink inode s' h)
    · exact h.elim
  · intro inode s' h
    apply (triple_shiftHole hpos hhole (hunlink inode s' h)).mono hless
    exact fun ok s' h => ⟨hless s' h.1, h.2⟩

/-- The rotation at its end and at every crash; after a success the line fits. -/
theorem triple_rotateLossless (incoming : Nat) (absent : Bool) (pinned : List Nat)
    (s : AccountDir) :
    Triple faultyCalls (rotateForIntent incoming absent pinned) s (Lossless pinned s)
      (fun ok s' => Lossless pinned s s' ∧ (ok → Roomy incoming s')) := by
  have hnow : Lossless pinned s s := .inl ⟨rfl, rfl⟩
  have href : Triple faultyCalls (.done false : DirProg Bool) s (Lossless pinned s)
      (fun ok s' => Lossless pinned s s' ∧ (ok → Roomy incoming s')) :=
    triple_done hnow ⟨hnow, fun h => by cases h⟩
  apply triple_look
  cases hact : s.segments.active with
  | none =>
    refine triple_done hnow ⟨hnow, ?_⟩
    intro _ active hsome
    rw [hact] at hsome
    cases hsome
  | some active =>
    apply triple_ite
    · intro hfits
      refine triple_done hnow ⟨hnow, ?_⟩
      intro _ other hother
      rw [hact] at hother
      cases hother
      exact hfits
    · intro _
      cases hlow : lowestHole s.segments with
      | some hole =>
        -- a hole is filled: every segment stays
        obtain ⟨hpos, hlt⟩ := lowestHole_lt hlow
        apply (triple_shiftHole hpos hlt (show Keeps s s.segments.scan s from ⟨rfl, rfl⟩)).mono
        · exact fun s' h => .inl h
        · exact fun ok s' h => ⟨.inl h.1, h.2⟩
      | none =>
        apply triple_ite
        · exact fun _ => href
        · intro _
          cases hhigh : highestUnpinned s.segments pinned with
          | none => exact href
          | some hole =>
            obtain ⟨⟨hpos, hlt⟩, gone, hslot, hfree⟩ := highestUnpinned_some hhigh
            exact triple_evict hpos hlt hslot hfree

/-- The segments of `s'` are those of `s` in their order, without at most one that is not
pinned. -/
def LosesAtMostOne (pinned : List Nat) (s s' : AccountDir) : Prop :=
  s'.segments.scan = s.segments.scan
    ∨ ∃ segment ∈ s.segments.scan, segment.inode ∉ pinned
      ∧ s'.segments.scan = s.segments.scan.erase segment

theorem Lossless.scan (h : Lossless pinned s s') : LosesAtMostOne pinned s s' :=
  h.imp And.right fun ⟨segment, hmem, hfree, hkeeps⟩ => ⟨segment, hmem, hfree, hkeeps.2⟩

/-- **Rotation loses nothing it must keep.**  For every occupancy of the slots, every pinned
and retained generation and every incoming size: a rotation that succeeds makes room and drops
at most one segment that is not pinned; one that fails, or is cut between any two of its calls,
leaves a part of the old order that holds every pinned segment, and has dropped at most one. -/
theorem rotateForIntent_lossless (incoming : Nat) (absent : Bool) (pinned : List Nat)
    (s s' : AccountDir) :
    (Ends faultyCalls (rotateForIntent incoming absent pinned) s true s' →
        Roomy incoming s' ∧ LosesAtMostOne pinned s s')
      ∧ (Ends faultyCalls (rotateForIntent incoming absent pinned) s false s'
            ∨ Cut faultyCalls (rotateForIntent incoming absent pinned) s s' →
          LosesAtMostOne pinned s s' ∧ s'.segments.scan.Sublist s.segments.scan
            ∧ ∀ segment ∈ s.segments.scan, segment.inode ∈ pinned →
                segment ∈ s'.segments.scan) := by
  have htri := triple_rotateLossless incoming absent pinned s
  refine ⟨fun h => ?_, fun h => ?_⟩
  · obtain ⟨hlossless, hroomy⟩ := htri.ends true s' h
    exact ⟨hroomy rfl, hlossless.scan⟩
  · have hlossless : Lossless pinned s s' := by
      rcases h with h | h
      · exact (htri.ends false s' h).1
      · exact htri.cut s' h
    obtain ⟨kept, ⟨_, rfl⟩, hsub, hpin⟩ := hlossless.spares
    exact ⟨hlossless.scan, hsub, hpin⟩

end Rotation

end TgCli.Audit
