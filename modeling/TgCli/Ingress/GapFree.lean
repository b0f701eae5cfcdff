/-
  TgCli.Ingress.GapFree — THE QUEUE OF A SUBSCRIBER HAS NO GAPS

  `activate_armed` fills the projection of a slot and publishes it, and the changes
  of generation claim the slots of another one.  Both run on the receive thread.  An
  activation comes at a sequence that the normalizer has reached, and by then no item
  of a later one was published: that is why the queue can start empty.

  The calls of the control threads are `CtlStep`s, a reservation included.  With the
  specifications of the worker and of the receive thread the rules for threads give
  the invariant in every interleaving, from a free slot on.

  Main results:
    * `meets_install` — a slot starts with an empty queue and an empty backlog;
    * `meets_onReceiveBoundary`, `meets_onUpdate`, `meets_receiveClaimSlots` — the calls
      of the receive thread keep `Waiting`;
    * `calls_meet` — every call of every thread keeps its part;
    * `gap_free` — what is consumed is a prefix of what was published and wanted;
    * `queue_within_rings` — what is queued fits the rings.
-/
import TgCli.Ingress.Receiver
import TgCli.Ingress.Worker

namespace TgCli.Ingress

open Lib Act List CtlStep Meets StreamItemView Reached Nat

/-! ## §1. Activation and generations. -/

/-- Reading the hub's generation. -/
theorem meets_isCurrent {R G : Hub → Hub → Prop} {P : Hub → Prop} (hP : Stable Inv R P)
    (hrefl : ∀ s, Inv s → G s s) (clientId : Int) (generation : Nat) :
    (isCurrent clientId generation).Meets Inv R G P fun _ => P := by
  refine meets_look hrefl hP fun current => meets_ite (fun _ => meets_done fun s _ h => h) fun _ => ?_
  exact meets_look hrefl hP fun client => meets_done fun s _ h => h

theorem meets_stillCurrent {R G : Hub → Hub → Prop} {P : Hub → Prop} (hP : Stable Inv R P)
    (hrefl : ∀ s, Inv s → G s s) (clientId : Int) (generation : Nat) :
    (stillCurrent clientId generation).Meets Inv R G P fun _ => P := by
  refine meets_look hrefl hP fun current => meets_ite (fun _ => meets_done fun s _ h => h) fun _ => ?_
  refine meets_look hrefl hP fun client => ?_
  exact meets_look hrefl hP fun again => meets_done fun s _ h => h

/-- The receive thread installs the slot. -/
structure Installing (s : Hub) : Prop where
  count : s.publisherCount = 1
  byte : s.byteProducer = total s.queued
  caught : s.queued = s.log.filter s.projection.wants

theorem stable_installing : Stable Inv PubRely Installing := by
  intro s s' _ _ h hrely
  refine ⟨hrely.publisherCount.trans h.count, ?_, ?_⟩
  · rw [hrely.byteProducer, hrely.queued]
    exact h.byte
  · rw [hrely.queued, hrely.log, hrely.wants]
    exact h.caught

theorem stable_started : Stable Inv PubRely Started :=
  fun _ _ _ _ h hrely => le_trans h hrely.rank_le

theorem rank_le_removed (state : StreamIngressState) : rank state ≤ rank .removed := by
  cases state <;> decide

/-- Steps of the receive thread on the registries and the state. -/
theorem pubStep_registry (hinv : Inv s) (dormant published : Pointer) (ready : Bool) :
    PubStep s { s with dormant := dormant, published := published, publicationReady := ready } :=
  pubStep_of_same hinv le_rfl

theorem pubStep_state (hinv : Inv s)
    (h : rank s.state ≤ rank state) : PubStep s { s with state := state } :=
  pubStep_of_same hinv h

/-- The projection of an activation. -/
theorem filter_activation {projection : PublishedIngressFilter} {log : List StreamItemView}
    (h : ∀ item ∈ log, item.receiveSequence ≤ projection.activationReceiveSequence) :
    log.filter projection.wants = [] := by
  rw [List.filter_eq_nil_iff]
  intro item hit
  rw [PublishedIngressFilter.wants, if_pos (.inr (.inr (.inl (h item hit))))]
  decide

/-- **Publishing the slot**: the projection is filled once, when nothing is queued. -/
theorem meets_install (clientId : Int) (generation receiveSequence : Nat) :
    (install clientId generation receiveSequence).Meets Inv PubRely PubStep
      (fun s => (Count 1 s ∧ s.byteProducer = total s.queued)
        ∧ (∀ item ∈ s.log, item.receiveSequence ≤ receiveSequence) ∧ Blank s.projection ∧ Live s)
      (fun _ s => Count 1 s ∧ Base s ∧ Caught s) := by
  have hsame : ∀ s, Inv s → PubStep s s := fun _ => PubStep.refl
  have hpost : Stable Inv PubRely fun s => Count 1 s ∧ Base s ∧ Caught s :=
    (stable_count 1).and (stable_base.and stable_caught)
  -- a slot whose state becomes removed is gone, whatever the registry says
  have hrem : ∀ s, Installing s →
      Count 1 ({ s with state := .removed } : Hub) ∧ Base { s with state := .removed }
        ∧ Caught { s with state := .removed } := by
    intro s h
    exact ⟨h.count, ⟨h.byte, .inr ⟨by show rank .published ≤ rank .removed; decide,
      .inr (by show rank .removing ≤ rank .removed; decide)⟩⟩, .inl h.caught⟩
  refine meets_store (A := Installing) ?_ stable_installing ?_ ?_
  · rintro s hJ ⟨-, -, hblank, hlive⟩
    exact { PubStep.refl hJ with
      queued := .inl rfl
      inv := { hJ with
        vacant := fun hfree => absurd hfree (rank_pos_iff.mp hlive)
        inOrder := by
          show s.queued <+: _
          rw [hblank.queued hJ]
          exact List.nil_prefix } }
  · rintro s hJ ⟨⟨hcnt, hbyte⟩, hlog, hblank, -⟩
    refine ⟨hcnt, hbyte, ?_⟩
    show s.queued = s.log.filter _
    rw [hblank.queued hJ, filter_activation hlog]
  refine meets_look hsame stable_installing fun observed => ?_
  refine meets_bind (meets_stillCurrent stable_installing hsame _ _) fun current => ?_
  refine meets_look hsame stable_installing fun cause => ?_
  refine meets_bind (Q := fun go s => Installing s ∧ (go = true → Started s))
    (meets_test (fun _ => meets_compare_last hsame (fun s hJ h hst => ⟨?_, ?_⟩)
      (fun s _ h hst => ⟨h, fun hgo => absurd (of_decide_eq_true hgo) hst⟩) ?_)
      fun _ s _ h => ⟨h, fun hgo => nomatch hgo⟩) fun go => ?_
  · exact pubStep_state hJ (by rw [hst]; decide)
  · exact ⟨⟨h.count, h.byte, h.caught⟩, fun _ => le_rfl⟩
  · exact fun go => stable_installing.and stable_started.imp
  refine meets_ite (fun _ => ?_) fun hgo => ?_
  · refine meets_store (A := Installing) (fun s hJ _ => pubStep_registry hJ _ _ _)
      stable_installing (fun s _ h => ⟨h.1.count, h.1.byte, h.1.caught⟩) ?_
    refine meets_store (A := Installing) (fun s hJ _ => pubStep_registry hJ _ _ _)
      stable_installing (fun s _ h => ⟨h.count, h.byte, h.caught⟩) ?_
    exact meets_last (fun s hJ _ => pubStep_state hJ (rank_le_removed _)) (fun _ => hpost)
      fun s _ h => hrem s h
  have hstrt : ∀ s, Installing s ∧ (go → Started s) → Started s :=
    fun s h => h.2 (eq_true_of_ne_false hgo)
  refine meets_compare (A := fun installed s => (Installing s ∧ Started s)
      ∧ (installed = true → s.published = .slot ∨ Gone s)) hsame (fun s hJ h _ => ?_)
    (fun s _ h hmrk => ?_) ?_ fun installed => ?_
  · exact ⟨pubStep_registry hJ _ _ _, ⟨⟨h.1.count, h.1.byte, h.1.caught⟩, hstrt s h⟩,
      fun _ => .inl rfl⟩
  · exact ⟨⟨h.1, hstrt s h⟩, fun htrue => absurd (of_decide_eq_true htrue) hmrk⟩
  · intro installed
    refine (stable_installing.and stable_started).and (Stable.imp ?_)
    exact fun s s' _ _ h hrely => published_rely h hrely
  refine meets_ite (fun _ => ?_) fun hinstalled => ?_
  · refine meets_store (A := Installing) (fun s hJ _ => pubStep_registry hJ _ _ _)
      stable_installing (fun s _ h => ⟨h.1.1.count, h.1.1.byte, h.1.1.caught⟩) ?_
    exact meets_last (fun s hJ _ => pubStep_state hJ (rank_le_removed _)) (fun _ => hpost)
      fun s _ h => hrem s h
  · refine meets_store (A := fun s => Count 1 s ∧ Base s ∧ Caught s)
      (fun s hJ _ => pubStep_registry hJ _ _ _) hpost ?_ ?_
    · rintro s _ ⟨⟨h, hstrt⟩, hslot⟩
      exact ⟨h.count, ⟨h.byte, .inr ⟨hstrt, hslot (eq_true_of_ne_false hinstalled)⟩⟩, .inl h.caught⟩
    · exact meets_last (fun s hJ _ => pubStep_registry hJ _ _ _) (fun _ => hpost)
        fun s _ h => ⟨h.1, ⟨h.2.1.byte, h.2.1.registry⟩, h.2.2⟩

/-- The items published so far are not behind an activation with this sequence. -/
def Before (receiveSequence : Nat) (s : Hub) : Prop :=
  ∀ item ∈ s.log, item.receiveSequence ≤ receiveSequence

theorem stable_before (receiveSequence : Nat) : Stable Inv PubRely (Before receiveSequence) := by
  intro s s' _ _ h hrely
  unfold Before
  rw [hrely.log]
  exact h

/-- **`activate_armed`.** -/
theorem meets_onReceiveBoundary (clientId : Int) (generation receiveSequence : Nat)
    (admission : Bool) :
    (onReceiveBoundary clientId generation receiveSequence admission).Meets Inv PubRely PubStep
      Waiting fun _ => Waiting := by
  have hsame : ∀ s, Inv s → PubStep s s := fun _ => PubStep.refl
  have hready : ∀ c : Prop, Stable Inv PubRely fun s => Waiting s
      ∧ (c → Before receiveSequence s) :=
    fun c => stable_waiting.and (stable_before receiveSequence).imp
  -- the normalizer is ready, and the boundary is not before its last sequence
  refine meets_load (A := fun status s => Waiting s
      ∧ (status.phase = .ready ∧ status.lastSequence ≤ receiveSequence → Before receiveSequence s))
    (fun s hJ _ => hsame s hJ) (fun status => hready _) ?_ fun status => ?_
  · exact fun s hJ h => ⟨h, fun hreached item hit =>
      ((hJ.numbered item hit).2 hreached.1).trans hreached.2⟩
  refine meets_bind (meets_isCurrent (hready _) hsame _ _) fun current => ?_
  refine meets_ite (fun _ => meets_done fun s _ h => h.1) fun hnot => ?_
  have hrch : status.phase = .ready ∧ status.lastSequence ≤ receiveSequence := by
    push Not at hnot
    have hboth := eq_true_of_ne_false hnot.1
    exact of_decide_eq_true (Bool.and_eq_true_iff.mp hboth).2
  refine (meets_guarded (P := fun s => (Base s ∧ Caught s) ∧ Before receiveSequence s)
    ((stable_base.and stable_caught).and (stable_before receiveSequence))
    (stable_base.and stable_caught) (fun s n h => ⟨⟨h.1.1.count n, h.1.2⟩, h.2⟩)
    (fun s n h => ⟨h.1.count n, h.2⟩) ?_).mono fun s _ h => ⟨h.1.1, h.1.2, h.2 hrch⟩
  have hscan : Stable Inv PubRely fun s => Count 1 s ∧ (Base s ∧ Caught s)
      ∧ Before receiveSequence s :=
    (stable_count 1).and ((stable_base.and stable_caught).and (stable_before receiveSequence))
  refine meets_look hsame hscan fun pointer => meets_look hsame hscan fun staged => ?_
  refine meets_ite (fun _ => meets_done fun s _ h => ⟨h.1, h.2.1⟩) fun _ => ?_
  -- the marker can only be set in an empty registry: then nothing is active
  have hcommon : Stable Inv PubRely fun s =>
      (Count 1 s ∧ s.byteProducer = total s.queued) ∧ Caught s ∧ Before receiveSequence s := by
    refine Stable.and ((stable_count 1).and ?_) (stable_caught.and (stable_before receiveSequence))
    intro s s' _ _ h hrely
    rw [hrely.byteProducer, hrely.queued]
    exact h
  have hnone : Stable Inv PubRely fun s => Blank s.projection :=
    fun s s' _ _ h hrely => hrely.wants.trans h
  have hidle : Stable Inv PubRely fun s => Blank s.projection ∨ Gone s :=
    fun s s' _ _ h hrely => h.imp hrely.wants.trans fun hgone => hgone.rely hrely
  refine meets_compare (A := fun marked s =>
      ((Count 1 s ∧ s.byteProducer = total s.queued) ∧ Caught s ∧ Before receiveSequence s)
        ∧ (marked = false → Base s) ∧ (marked = true → Blank s.projection ∨ Gone s)) hsame ?_ ?_
    (fun marked => hcommon.and (stable_base.imp.and hidle.imp)) fun marked => ?_
  · rintro s hJ ⟨hcnt, ⟨hbase, hcgt⟩, hbef⟩ hnull
    refine ⟨pubStep_registry hJ _ _ _, ⟨⟨hcnt, hbase.byte⟩, hcgt, hbef⟩, ?_, fun _ => ?_⟩
    · exact fun hfalse => absurd hnull (of_decide_eq_false hfalse)
    · rcases hbase.registry with hnone | ⟨-, hslot | hgone⟩
      · exact .inl hnone
      · rw [hnull] at hslot
        cases hslot
      · exact .inr hgone
  · rintro s _ ⟨hcnt, ⟨hbase, hcgt⟩, hbef⟩ hnull
    exact ⟨⟨⟨hcnt, hbase.byte⟩, hcgt, hbef⟩, fun _ => hbase,
      fun htrue => absurd (of_decide_eq_true htrue) hnull⟩
  refine meets_ite (fun hmarked => meets_done fun s _ h => ?_) fun hmarked => ?_
  · exact ⟨h.1.1.1, h.2.1 hmarked, h.1.2.1⟩
  refine meets_compare (A := fun installing s =>
      ((Count 1 s ∧ s.byteProducer = total s.queued) ∧ Caught s ∧ Before receiveSequence s)
        ∧ (Blank s.projection ∨ Gone s)
        ∧ (installing = true → Blank s.projection ∧ Live s)) hsame ?_ ?_
    (fun installing => hcommon.and (hidle.and (hnone.and stable_live).imp)) fun installing => ?_
  · rintro s hJ ⟨⟨hown, hcgt, hbef⟩, -, hproj⟩ hst
    have hnot : ¬ Gone s := by
      unfold Gone
      rw [hst]
      decide
    have hlive : rank .reserved ≤ rank .installing := by decide
    have hnone := (hproj (eq_true_of_ne_false hmarked)).resolve_right hnot
    refine ⟨pubStep_state hJ (by rw [hst]; decide), ⟨hown, ?_, hbef⟩, .inl hnone,
      fun _ => ⟨hnone, hlive⟩⟩
    exact hcgt.imp id fun hcl => .inl ⟨hlive, (hcl.resolve_right hnot).2⟩
  · rintro s _ ⟨hall, -, hproj⟩ hst
    exact ⟨hall, hproj (eq_true_of_ne_false hmarked),
      fun htrue => absurd (of_decide_eq_true htrue) hst⟩
  refine meets_ite (fun _ => ?_) fun hinstalling => ?_
  · refine meets_last (fun s hJ _ => pubStep_registry hJ _ _ _)
      (fun _ => (stable_count 1).and (stable_base.and stable_caught)) ?_
    rintro s _ ⟨⟨⟨hcnt, hbyte⟩, hcgt, -⟩, hidle, -⟩
    refine ⟨hcnt, ⟨hbyte, hidle.imp id fun hgone => ⟨?_, .inr hgone⟩⟩, hcgt⟩
    exact le_trans (by decide) hgone
  · refine (meets_install clientId generation receiveSequence).mono fun s _ h => ?_
    exact ⟨h.1.1, h.1.2.2, h.2.2 (eq_true_of_ne_false hinstalling)⟩

/-- A claim of the receive thread. -/
theorem meets_claim_waiting (payload : StreamTerminalPayload) :
    (claim payload).forget.Meets Inv PubRely PubStep (fun s => Count n s ∧ Base s ∧ Caught s)
      fun _ s => Count n s ∧ Base s ∧ Caught s := by
  refine Meets.forget (Meets.post (meets_claim (T := fun _ => True) ((stable_count n).and
    (stable_base.and stable_caught)) (fun s s' hJ h => h.ctl.pubStep hJ) ?_ (stable_const True)
    (fun _ _ _ _ => trivial) (fun _ _ _ => trivial) payload) fun _ s _ h => h.1)
  rintro s s' ⟨hcnt, hbase, hcgt⟩ hstep
  refine ⟨?_, hbase.claim hstep, hcgt.claim hstep⟩
  obtain ⟨activation, terminal, payload, rfl, -⟩ := hstep
  exact hcnt

/-- **`receive_claim_slots`.** -/
theorem meets_receiveClaimSlots (clientId : Int) (generation : Nat)
    (payload : StreamTerminalPayload) (matching : Bool) :
    (receiveClaimSlots clientId generation payload matching).Meets Inv PubRely PubStep Waiting
      fun _ => Waiting := by
  have hstab : Stable Inv PubRely fun s => Count 1 s ∧ Base s ∧ Caught s :=
    (stable_count 1).and (stable_base.and stable_caught)
  have hload : ∀ {α β : Type} {r : Hub → α} {g : α → Act Hub β} {Q : β → Hub → Prop},
      (∀ a, (g a).Meets Inv PubRely PubStep (fun s => Count 1 s ∧ Base s ∧ Caught s) Q) →
      (load r >>= g).Meets Inv PubRely PubStep (fun s => Count 1 s ∧ Base s ∧ Caught s) Q :=
    meets_look (fun _ => PubStep.refl) hstab
  refine meets_guarded (stable_base.and stable_caught) (stable_base.and stable_caught)
    (fun s n h => ⟨h.1.count n, h.2⟩) (fun s n h => ⟨h.1.count n, h.2⟩) ?_
  refine meets_bind (Q := fun _ s => Count 1 s ∧ Base s ∧ Caught s) ?_ fun _ => ?_
  · refine hload fun _ => hload fun _ => hload fun _ => hload fun _ => ?_
    exact meets_ite (fun _ => meets_done fun s _ h => h) fun _ => meets_claim_waiting _
  · refine hload fun _ => hload fun _ => ?_
    refine meets_bind (meets_onlyIf (fun _ => meets_claim_waiting _) fun _ s _ h => h) fun _ => ?_
    refine hload fun _ => ?_
    exact meets_onlyIf (fun _ => meets_claim_waiting _) fun _ s _ h => h

/-- The generation of the hub is the receive thread's own. -/
theorem meets_setGeneration {α : Type} {g : Unit → Act Hub α} {Q : α → Hub → Prop}
    {retained : Hub → Retained} {clientId : Hub → Int} {generation : Hub → Nat}
    (h : (g ()).Meets Inv PubRely PubStep Waiting Q) :
    ((store fun s : Hub => { s with retained := retained s, currentClientId := clientId s
                                    currentGeneration := generation s }) >>= g).Meets Inv PubRely
      PubStep Waiting Q :=
  meets_store (fun s hJ _ => pubStep_of_same hJ le_rfl) stable_waiting
    (fun s _ h => ⟨h.1, ⟨h.2.1.byte, h.2.1.registry⟩, h.2.2⟩) h

theorem meets_beginGeneration (clientId : Int) (generation : Nat) :
    (beginGeneration clientId generation).Meets Inv PubRely PubStep Waiting fun _ => Waiting := by
  refine meets_setGeneration (meets_setGeneration (meets_setGeneration ?_))
  exact meets_receiveClaimSlots _ _ _ _

theorem meets_claimGeneration (clientId : Int) (generation : Nat)
    (payload : StreamTerminalPayload) :
    (claimGeneration clientId generation payload).Meets Inv PubRely PubStep Waiting
      fun _ => Waiting := by
  refine meets_setGeneration (meets_look (fun _ => PubStep.refl) stable_waiting fun retained => ?_)
  cases retained with
  | none => exact meets_done fun s _ h => h
  | some payload => exact meets_receiveClaimSlots _ _ _ _

/-! ## §2. The receive thread's own state. -/

namespace Reception

variable {r : Reception} {sequence : Nat}

/-- No event takes a number back. -/
theorem Covers.update (h : r.Covers sequence) (items : Nat → Option (List StreamItemView)) :
    (r.update items).1.Covers sequence := by
  unfold Covers Reception.update next fail at *
  grind

theorem Covers.currentState (h : r.Covers sequence) (accepted : Bool) :
    (r.currentState accepted).Covers sequence := by
  unfold Covers Reception.currentState next fail at *
  grind

/-- What an update makes due is not behind its own number. -/
theorem update_due {items : Nat → Option (List StreamItemView)}
    (hitems : ∀ sequence, ∀ due ∈ items sequence, ∀ item ∈ due, item.receiveSequence ≤ sequence) :
    ∀ item ∈ (r.update items).2, (r.update items).1.Covers item.receiveSequence := by
  have hdue := hitems (r.received + 1)
  unfold Covers Reception.update next fail
  grind

end Reception

/-- What the receive thread may do. -/
def Receiving (s s' : Hub) : Prop := PubStep s s' ∨ Receives s s'

theorem Waiting.receives (h : Waiting s) (reception : Reception) :
    Waiting { s with reception := reception } :=
  ⟨h.1, ⟨h.2.1.byte, h.2.1.registry⟩, h.2.2⟩

/-- **A step on its own state** that takes no number back. -/
theorem meets_receive {f : Reception → Reception}
    (hf : ∀ r sequence, Reception.Covers r sequence → (f r).Covers sequence) :
    (receive f).Meets Inv PubRely Receiving Waiting fun _ => Waiting :=
  meets_last
    (fun _ hJ _ => .inr ⟨{ hJ with numbered := fun item hit => hf _ _ (hJ.numbered item hit) }, _, rfl⟩)
    (fun _ => stable_waiting) fun _ _ h => h.receives _

/-- **An update**: what is complete by then is published. -/
theorem meets_onUpdate {items : Nat → Option (List StreamItemView)}
    (hitems : ∀ sequence, ∀ due ∈ items sequence, ∀ item ∈ due, item.receiveSequence ≤ sequence) :
    (onUpdate items).Meets Inv PubRely Receiving Waiting fun _ => Waiting := by
  refine meets_exchange (A := fun due s => Waiting s ∧ ∀ item ∈ due, Given item.receiveSequence s)
    (fun s hJ _ => ?_) (fun due => ?_) (fun s _ h => ?_) fun due =>
      (meets_publishAll due).may fun _ _ => .inl
  · exact .inr ⟨{ hJ with numbered := fun item hit => (hJ.numbered item hit).update items }, _, rfl⟩
  · exact stable_waiting.and fun s s' hJ hJ' h hrely item hit =>
      stable_given _ s s' hJ hJ' (h item hit) hrely
  · exact ⟨h.receives _, Reception.update_due hitems⟩

theorem meets_newGeneration (clientId : Int) (generation : Nat) :
    (newGeneration clientId generation).Meets Inv PubRely Receiving Waiting fun _ => Waiting :=
  meets_bind ((meets_beginGeneration clientId generation).may fun _ _ => .inl) fun _ =>
    meets_receive fun _ _ h => ⟨h.1, nofun⟩

/-! ## §3. The control threads. -/

theorem stable_gone_ctl : Stable Inv CtlRely Gone := fun _ _ _ _ h hrely => le_trans h hrely

/-- Nothing is known to a control thread. -/
theorem stable_true : Stable Inv CtlRely fun _ => True := stable_const True

/-- The program of a control thread makes only steps it may make. -/
abbrev Ctl {α : Type} (p : Act Hub α) : Prop :=
  p.Meets Inv CtlRely CtlStep (fun _ => True) fun _ _ => True

theorem ctl_done {α : Type} {a : α} {P : Hub → Prop} :
    (pure a : Act Hub α).Meets Inv CtlRely CtlStep P fun _ _ => True :=
  meets_done fun _ _ _ => trivial

theorem ctl_load {α β : Type} {r : Hub → α} {g : α → Act Hub β} {Q : β → Hub → Prop}
    (h : ∀ a, (g a).Meets Inv CtlRely CtlStep (fun _ => True) Q) :
    (load r >>= g).Meets Inv CtlRely CtlStep (fun _ => True) Q :=
  meets_look (fun s _ => refl s) stable_true h

/-- A compare-and-exchange that a control thread may make. -/
theorem ctl_compare {α : Type} {d : Hub → Prop} [DecidablePred d] {f : Hub → Hub} {r : Hub → α}
    (h : ∀ s, Inv s → d s → CtlStep s (f s)) :
    Ctl (exchange (fun s => if d s then f s else s) r) :=
  meets_compare_last (fun s _ => refl s) (fun s hJ _ hd => ⟨h s hJ hd, trivial⟩)
    (fun _ _ _ _ => trivial) fun _ => stable_true

/-- Steps of a control thread on the state, the activation and the borrow. -/
theorem ctlStep_own {s : Hub} (activation : ActivationCommit)
    (epoch : Nat) (ready : Bool) (dormant : Pointer) (h : rank s.state ≤ rank state) :
    CtlStep s { s with state := state, activation := activation, borrowEpoch := epoch
                       publicationReady := ready, dormant := dormant } :=
  ⟨⟨rfl, rfl, rfl, rfl, rfl, rfl, rfl, rfl, rfl, rfl⟩, rfl, rfl, rfl, h, fun _ => id, .inl rfl⟩

/-- **A reservation**: the tickets of a free slot are zero already. -/
theorem ctlStep_reserveSlot (hinv : Inv s) (hfree : s.state = .free)
    (request : StreamIngressRequest) : CtlStep s (s.reserveSlot request) := by
  obtain ⟨hblank, hbyte⟩ := hinv.vacant hfree
  have hqd := hblank.queued hinv
  have hitems := hinv.items
  have hcons := hinv.consumed_le
  have hbeh := hinv.behind
  rw [hqd] at hitems hcons hbeh
  refine ⟨⟨?_, hitems.symm, ?_, hbyte.symm, ?_, rfl, rfl, rfl, rfl, rfl⟩, rfl, rfl, rfl, ?_,
    fun hlive => ?_, .inl rfl⟩
  · exact (blank_of_clientId (Int.le_refl 0)).trans hblank.symm
  · exact (le_zero.mp hcons).symm
  · exact (le_zero.mp hbeh).symm
  · rw [hfree]
    exact zero_le _
  · exact absurd hfree (rank_pos_iff.mp hlive)

theorem ctl_reserve (request : StreamIngressRequest) : Ctl (reserve request) :=
  ctl_compare fun _ hJ hfree => ctlStep_reserveSlot hJ hfree.2 request

/-- A slot that is given up. -/
theorem ctl_removed {P : Hub → Prop} :
    (store fun s : Hub => { s with state := .removed }).Meets Inv CtlRely CtlStep P
      fun _ _ => True :=
  meets_last (fun s _ _ => ctlStep_own s.activation s.borrowEpoch s.publicationReady s.dormant
    (rank_le_removed _)) (fun _ => stable_true) fun _ _ _ => trivial

theorem ctl_claim (payload : StreamTerminalPayload) : Ctl (claim payload) :=
  post (meets_claim (P := fun _ => True) (T := fun _ => True) stable_true
    (fun _ _ _ h => h.ctl) (fun _ _ _ _ => trivial) stable_true (fun _ _ _ _ => trivial)
    (fun _ _ _ => trivial) payload) fun _ _ _ _ => trivial

theorem ctl_claimReservation (payload : StreamTerminalPayload) : Ctl (claimReservation payload) :=
  ctl_load fun _ => meets_ite (fun _ => ctl_done) fun _ => ctl_claim payload

/-- A compare-and-exchange of the state to a later one. -/
theorem ctl_compareState (h : rank expected ≤ rank desired) : Ctl (compareState expected desired) :=
  ctl_compare fun s _ hst => ctlStep_own s.activation s.borrowEpoch s.publicationReady s.dormant
    (by rw [hst]; exact h)

/-- A compare-and-exchange of the activation. -/
theorem ctl_compareActivation (expected desired : ActivationCommit) :
    Ctl (exchange (fun s : Hub => if s.activation = expected then { s with activation := desired }
      else s) (fun s => decide (s.activation = expected))) :=
  ctl_compare fun s _ _ => ctlStep_own desired s.borrowEpoch s.publicationReady s.dormant
    le_rfl

/-- The borrow is invalidated, whatever its epoch. -/
theorem ctlStep_invalidateBorrow (s : Hub) : CtlStep s
    (let increment := if s.borrowEpoch % 2 = 1 then 1 else 2
      if kMaximumTicket - increment < s.borrowEpoch then s
      else { s with borrowEpoch := s.borrowEpoch + increment }) := by
  by_cases hlimit : kMaximumTicket - (if s.borrowEpoch % 2 = 1 then 1 else 2) < s.borrowEpoch
  · simp only [if_pos hlimit]
    exact refl s
  · simp only [if_neg hlimit]
    exact ctlStep_own s.activation _ s.publicationReady s.dormant le_rfl

/-- **`detach`** takes the slot out of the registry only when it is gone. -/
theorem ctl_detach : Ctl detach := by
  -- the stores behind the exchange of the state
  have htail : (do
      invalidateBorrow
      store fun s : Hub => { s with publicationReady := false }
      store fun s : Hub => { s with published := .null }
      store fun s : Hub => { s with dormant := .null }
      store fun s : Hub => { s with state := .removed }
      pure true : Act Hub Bool).Meets Inv CtlRely CtlStep Gone fun _ _ => True := by
    refine meets_store (A := Gone) (fun s _ _ => ctlStep_invalidateBorrow s) stable_gone_ctl
      (fun s _ h => le_trans h (ctlStep_invalidateBorrow s).rank_le) ?_
    refine meets_store (A := Gone)
      (fun s _ _ => ctlStep_own s.activation s.borrowEpoch _ s.dormant le_rfl)
      stable_gone_ctl (fun s _ h => h) ?_
    refine meets_store (A := Gone) (fun s _ h => ?_) stable_gone_ctl (fun s _ h => h) ?_
    · exact ⟨⟨rfl, rfl, rfl, rfl, rfl, rfl, rfl, rfl, rfl, rfl⟩, rfl, rfl, rfl, le_rfl,
        fun _ => id, .inr h⟩
    refine meets_store (A := Gone)
      (fun s _ _ => ctlStep_own s.activation s.borrowEpoch s.publicationReady _ le_rfl)
      stable_gone_ctl (fun s _ h => h) ?_
    exact meets_bind ctl_removed fun _ => ctl_done
  have hlive : Stable Inv CtlRely Live := fun _ _ _ _ h hrely => le_trans h hrely
  refine meets_load (A := fun held s => held = true → Live s) (fun s _ _ => refl s)
    (fun held => hlive.imp) (fun s _ _ hheld => rank_pos_iff.mpr (of_decide_eq_true hheld))
    fun held => ?_
  refine meets_ite (fun _ => ctl_done) fun hheld => ?_
  have hne : ∀ s : Hub, (held = true → Live s) → s.state ≠ .free :=
    fun s h => rank_pos_iff.mp (h (eq_true_of_ne_false hheld))
  refine meets_compare (A := fun state s => state ≠ .free
      ∧ (state = .armed ∨ state = .installing ∨ state = .published → Gone s))
    (fun s _ => refl s) (fun s _ h hst => ⟨?_, hne s h, fun _ => le_rfl⟩)
    (fun s _ h hst => ⟨hne s h, fun hgone => absurd hgone hst⟩)
    (fun state => (stable_const _).and stable_gone_ctl.imp) fun state => ?_
  · refine ctlStep_own s.activation s.borrowEpoch s.publicationReady s.dormant ?_
    rcases hst with hst | hst | hst <;> rw [hst] <;> decide
  refine meets_fact fun hne => ?_
  cases state with
  | free => exact absurd rfl hne
  | reserved => exact ctl_done
  | armed => exact htail.mono fun s _ h => h (.inl rfl)
  | installing => exact htail.mono fun s _ h => h (.inr (.inl rfl))
  | published => exact htail.mono fun s _ h => h (.inr (.inr rfl))
  | removing | removed | reclaimable => exact ctl_done

theorem ctl_prepareActivation : Ctl prepareActivation := by
  have hrem : ∀ b : Bool, Ctl (do
      store fun s : Hub => { s with state := .removed }
      pure b) := fun b => meets_bind ctl_removed fun _ => ctl_done
  refine ctl_load fun held => ctl_load fun state => ?_
  refine meets_ite (fun _ => ctl_done) fun _ => ?_
  refine ctl_load fun staged => meets_bind
    (meets_isCurrent stable_true (fun s _ => refl s) _ _) fun current => ?_
  refine meets_bind (meets_onlyIf (fun _ => forget (ctl_claim _)) fun _ _ _ _ => trivial)
    fun _ => ?_
  refine ctl_load fun retained => ?_
  refine meets_bind (meets_onlyIf (fun _ => forget (ctl_claim _)) fun _ _ _ _ => trivial)
    fun _ => ?_
  refine ctl_load fun cause => meets_ite (fun _ => hrem false) fun _ => ?_
  refine meets_bind (ctl_compareActivation _ _) fun prepared => ?_
  exact meets_ite (fun _ => hrem false) fun _ => ctl_done

theorem ctl_commitActivationPromotion : Ctl commitActivationPromotion := by
  refine ctl_load fun held => meets_ite (fun _ => ctl_done) fun _ => ?_
  exact ctl_compareActivation _ _

theorem ctl_publishPrepared : Ctl publishPrepared := by
  refine ctl_load fun held => ctl_load fun activation => ?_
  refine meets_ite (fun _ => ctl_done) fun _ => ?_
  refine meets_bind (ctl_compareState (by decide)) fun armed => ?_
  refine meets_ite (fun _ => ctl_done) fun _ => ?_
  exact meets_last (fun s _ _ => ctlStep_own s.activation s.borrowEpoch s.publicationReady _
    le_rfl) (fun _ => stable_true) fun _ _ _ => trivial

theorem ctl_commitActivation : Ctl commitActivation := by
  refine meets_bind ctl_prepareActivation fun prepared => ?_
  refine meets_bind (meets_test (fun _ => ctl_commitActivationPromotion) fun _ _ _ _ => trivial)
    fun promoted => ?_
  refine meets_ite (fun _ => ctl_load fun held => ?_) fun _ => ?_
  · exact meets_bind (meets_onlyIf (fun _ => ctl_removed) fun _ _ _ _ => trivial)
      fun _ => ctl_done
  · exact meets_bind ctl_publishPrepared fun _ => ctl_done

theorem ctl_claimControlGeneration (clientId : Int) (generation : Nat)
    (payload : StreamTerminalPayload) :
    Ctl (claimControlGeneration clientId generation payload) := by
  refine ctl_load fun _ => ctl_load fun _ => ctl_load fun _ => ?_
  refine meets_ite (fun _ => ctl_done) fun _ => ?_
  exact ctl_load fun _ => forget (ctl_claim _)

theorem ctl_abandon : Ctl abandon := by
  refine ctl_load fun held => ctl_load fun state => ?_
  refine meets_ite (fun _ => ctl_done) fun _ => ?_
  refine meets_ite (fun _ => ?_) fun _ => forget ctl_detach
  exact ctl_compare fun s _ _ => ctlStep_own s.activation s.borrowEpoch s.publicationReady s.dormant
    (rank_le_removed _)

/-! ## §4. All threads. -/

/-- What each thread may do, what it relies on, and what holds between its calls. -/
def guarantee : Thread → Hub → Hub → Prop
  | .publisher => Receiving
  | .consumer => ConStep
  | .control _ => CtlStep

def rely : Thread → Hub → Hub → Prop
  | .publisher => PubRely
  | .consumer => ConRely
  | .control _ => CtlRely

def idle : Thread → Hub → Prop
  | .publisher => Waiting
  | .consumer => Resting
  | .control _ => fun _ => True

theorem calls_meet (h : Calls thread p) :
    p.Meets Inv (rely thread) (guarantee thread) (idle thread) fun _ => idle thread := by
  cases h with
  | update items hitems => exact meets_onUpdate hitems
  | currentState accepted => exact meets_receive fun _ _ h => h.currentState accepted
  | currentStateFailure => exact meets_receive fun _ _ h => ⟨h.1, nofun⟩
  | otherEvent => exact meets_receive fun _ _ h => ⟨h.1.trans (le_succ _), h.2⟩
  | boundary clientId generation receiveSequence admission =>
    exact (meets_onReceiveBoundary clientId generation receiveSequence admission).may
      fun _ _ => .inl
  | newGeneration clientId generation => exact meets_newGeneration clientId generation
  | claimGeneration clientId generation payload =>
    exact (meets_claimGeneration clientId generation payload).may fun _ _ => .inl
  | visitFront action => exact forget (meets_visitFront action)
  | reserve index request => exact forget (ctl_reserve request)
  | claim index payload => exact forget (ctl_claimReservation payload)
  | claimControlGeneration index clientId generation payload =>
    exact ctl_claimControlGeneration clientId generation payload
  | detach index => exact forget ctl_detach
  | abandon index => exact ctl_abandon
  | prepareActivation index => exact forget ctl_prepareActivation
  | commitActivationPromotion index => exact forget ctl_commitActivationPromotion
  | publishPrepared index => exact ctl_publishPrepared
  | commitActivation index => exact forget ctl_commitActivation

/-- **No thread breaks the invariant.** -/
theorem guarantee_inv (hinv : Inv s) (h : guarantee thread s s') : Inv s' := by
  cases thread with
  | publisher => exact h.elim PubStep.inv And.left
  | consumer => exact ConStep.inv h
  | control index => exact inv h hinv

/-- **No thread surprises another.** -/
theorem guarantee_rely (hne : i ≠ j) (h : guarantee i s s') : rely j s s' := by
  cases i with
  | publisher =>
    cases j with
    | publisher => exact absurd rfl hne
    | consumer => exact h.elim PubStep.toConRely Receives.conRely
    | control index =>
      rcases h with h | ⟨-, reception, rfl⟩
      · exact h.rank_le
      · exact le_rfl
  | consumer =>
    cases j with
    | publisher => exact ConStep.pubRely h
    | consumer => exact absurd rfl hne
    | control index => exact le_of_eq (congrArg rank (ConStep.state h).symm)
  | control index =>
    cases j with
    | publisher => exact pubRely h
    | consumer => exact conRely h
    | control other => exact rank_le h

theorem stable_idle (thread : Thread) : Stable Inv (rely thread) (idle thread) := by
  cases thread with
  | publisher => exact stable_waiting
  | consumer => exact stable_resting
  | control index => exact stable_true

/-- **A free slot**, as the constructor and `reset_slot_locked` leave it: the projection is
empty or poisoned. -/
structure Vacant (s : Hub) : Prop where
  state : s.state = .free
  projection : s.projection.clientId ≤ 0
  descriptorProducer : s.descriptorProducer = 0
  descriptorConsumer : s.descriptorConsumer = 0
  byteProducer : s.byteProducer = 0
  byteConsumer : s.byteConsumer = 0
  queued : s.queued = []
  consumed : s.consumed = []
  visited : s.visited = []
  numbered : Numbered s

theorem Vacant.inv (h : Vacant s) : Inv s where
  vacant := fun _ => ⟨blank_of_clientId h.projection, h.byteProducer⟩
  items := by rw [h.descriptorProducer, h.queued]; rfl
  consumed_le := by rw [h.descriptorConsumer]; exact zero_le _
  consumed := by rw [h.consumed, h.descriptorConsumer]; rfl
  produced := by rw [h.queued]; exact zero_le _
  front := by rw [h.queued, h.descriptorConsumer]; exact zero_le _
  behind := by rw [h.byteConsumer]; exact zero_le _
  itemRoom := by rw [h.descriptorProducer]; exact zero_le _
  byteRoom := by rw [h.byteProducer]; exact zero_le _
  visited := by
    rw [h.visited]
    exact fun _ hvisit => (not_mem_nil hvisit).elim
  inOrder := by rw [h.queued]; exact nil_prefix
  numbered := h.numbered

theorem Vacant.idle (h : Vacant s) (hcnt : s.publisherCount = 0) (thread : Thread) :
    idle thread s := by
  have hblank := blank_of_clientId h.projection
  cases thread with
  | publisher =>
    refine ⟨hcnt, ⟨?_, .inl hblank⟩, .inl ?_⟩
    · rw [h.byteProducer, h.queued]
      rfl
    · rw [h.queued, hblank.filter]
  | consumer =>
    refine ⟨?_, fun j item _ hat => ?_⟩
    · rw [h.byteConsumer, h.descriptorConsumer]
      rfl
    · rw [h.queued] at hat
      cases hat
  | control index => exact trivial

/-- Every state that is reached from a free slot keeps the invariant. -/
theorem reached_inv {before s : Hub} {threads : Thread → Act Hub Unit} (hvacant : Vacant before)
    (hcnt : before.publisherCount = 0) (h : Reached Calls before s threads) :
    Inv s ∧ ∀ thread, threads thread = .done () → idle thread s :=
  sound (R := rely) (G := guarantee) (I := idle) hvacant.inv (hvacant.idle hcnt)
    (fun _ _ _ hJ hG => guarantee_inv hJ hG) (fun _ _ hne _ _ _ hG => guarantee_rely hne hG)
    stable_idle (fun _ _ hcall => calls_meet hcall) h

/-- **The queue of a subscriber has no gaps.**  From a free slot on, in every interleaving of
the receive thread, the worker and the control threads: what was consumed is a prefix of the
published items that the slot wants; every visit showed the published bytes and offsets; and
between two calls of the receive thread every wanted item is queued, unless the slot has a
terminal cause or is detached. -/
theorem gap_free {before s : Hub} {threads : Thread → Act Hub Unit} (hvacant : Vacant before)
    (hcnt : before.publisherCount = 0) (h : Reached Calls before s threads) :
    s.consumed <+: (s.log.filter s.projection.wants).map delivery ∧ (∀ visit ∈ s.visited,
          ((s.log.filter s.projection.wants).map delivery)[visit.1]? = some visit.2)
      ∧ s.queued <+: s.log.filter s.projection.wants
      ∧ (threads .publisher = .done () →
          s.queued = s.log.filter s.projection.wants ∨ s.terminal ≠ .opened ∨ Gone s) := by
  obtain ⟨hinv, hidle⟩ := reached_inv hvacant hcnt h
  have hqd := hinv.inOrder.map delivery
  refine ⟨?_, ?_, hinv.inOrder, fun hdone => ?_⟩
  · rw [hinv.consumed]
    exact (List.take_prefix _ _).trans hqd
  · intro visit hvisit
    have hat := hinv.visited visit hvisit
    obtain ⟨hlt, -⟩ := List.getElem?_eq_some_iff.mp hat
    obtain ⟨more, hmore⟩ := hqd
    rw [← hmore, getElem?_append_left hlt, hat]
  · exact (hidle .publisher hdone).2.2.imp id fun hcl => hcl.imp And.right id

/-- **The queue stays within its rings** in every interleaving, and between two calls the byte
tickets count what was queued and what was consumed. -/
theorem queue_within_rings {before s : Hub} {threads : Thread → Act Hub Unit}
    (hvacant : Vacant before) (hcnt : before.publisherCount = 0)
    (h : Reached Calls before s threads) :
    s.queued.length ≤ s.consumed.length + kStreamQueueItems
      ∧ s.byteProducer ≤ s.byteConsumer + kStreamQueueBytes
      ∧ (threads .publisher = .done () → s.byteProducer = total s.queued)
      ∧ (threads .consumer = .done () → s.byteConsumer = start s.queued s.consumed.length) := by
  obtain ⟨hinv, hidle⟩ := reached_inv hvacant hcnt h
  rw [hinv.consumed, length_take, length_map, min_eq_left hinv.consumed_le]
  exact ⟨hinv.items ▸ hinv.itemRoom, hinv.byteRoom, fun hdone => (hidle .publisher hdone).2.1.byte,
    fun hdone => (hidle .consumer hdone).byte⟩

/-- A request for all message events of the account. -/
def firstRequest : StreamIngressRequest := { clientId := 1, generation := 1, typeMask := 31 }

/-- Every update makes one item due, in two spans. -/
def itemOfUpdate (sequence : Nat) : Option (List StreamItemView) :=
  some [{ first := [65, 66], second := [67], receiveSequence := sequence }]

theorem itemOfUpdate_le (sequence : Nat) :
    ∀ due ∈ itemOfUpdate sequence, ∀ item ∈ due, item.receiveSequence ≤ sequence := by
  rintro _ ⟨⟩
  exact forall_mem_singleton.mpr le_rfl

/-- The normalizer is ready at sequence 1, and the boundary activates the armed slot. -/
def activeHub : Hub :=
  (onReceiveBoundary 1 1 1 true).final (commitActivation.forget.final
    ((reserve firstRequest).forget.final
      ((receive (·.currentState true)).final ((newGeneration 1 1).final {}))))

/-- Two updates, and a visit of the worker between them. -/
def visitedHub : Hub :=
  (onUpdate itemOfUpdate).final
    ((visitFront .consume).forget.final ((onUpdate itemOfUpdate).final activeHub))

theorem reached_visitedHub : Reached Calls {} visitedHub fun _ => .done () := by
  have hstart : Reached Calls {} {} fun _ => .done () := .refl
  have hnew := call hstart .publisher (.newGeneration 1 1)
  have hready := call hnew .publisher (.currentState true)
  have hres := call hready (.control 0) (.reserve 0 firstRequest)
  have harmed := call hres (.control 0) (.commitActivation 0)
  have hact := call harmed .publisher (.boundary 1 1 1 true)
  have hpub := call hact .publisher (.update itemOfUpdate itemOfUpdate_le)
  have hvisited := call hpub .consumer (.visitFront .consume)
  exact call hvisited .publisher (.update itemOfUpdate itemOfUpdate_le)

theorem vacant_initial : Vacant {} :=
  ⟨rfl, Int.le_refl 0, rfl, rfl, rfl, rfl, rfl, rfl, rfl, nofun⟩

/-- The worker has the first item, and the second one is queued. -/
theorem gap_free_two_updates :
    visitedHub.consumed = [⟨2, {}, [65, 66, 67]⟩] ∧ visitedHub.queued.length = 2
    ∧ visitedHub.consumed
      <+: (visitedHub.log.filter visitedHub.projection.wants).map delivery :=
  ⟨by decide +kernel, by decide +kernel, (gap_free vacant_initial rfl reached_visitedHub).1⟩

theorem queue_within_rings_two_updates :
    visitedHub.byteProducer = 6 ∧ visitedHub.byteConsumer = 3
    ∧ visitedHub.byteProducer = total visitedHub.queued
    ∧ visitedHub.byteConsumer = start visitedHub.queued visitedHub.consumed.length := by
  have hrings := queue_within_rings vacant_initial rfl reached_visitedHub
  exact ⟨by decide +kernel, by decide +kernel, hrings.2.2.1 rfl, hrings.2.2.2 rfl⟩

end TgCli.Ingress
