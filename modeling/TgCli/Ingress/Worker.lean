/-
  TgCli.Ingress.Worker — WHAT `visit_front` SHOWS

  The worker copies an item out of the rings while the receive thread writes
  behind it.  `AtFront` says that the item at the consumer ticket stays in place
  until the worker itself moves on.

  Main results:
    * `meets_visitItem` — the visitor sees the published bytes, wrapped or not;
    * `meets_visitFront` — the worker sees what was queued, in order.
-/
import TgCli.Ingress.Hub

namespace TgCli.Ingress

open Lib Act List Nat

/-! ## §1. The item at the front. -/

variable {j low c t : Nat} {item : StreamItemView} {s s' : Hub}

theorem start_add_size_le
    (h : items[j]? = some item) : start items j + item.size ≤ total items := by
  rw [← start_succ h]
  exact start_le_total items (j + 1)

theorem start_rely (hrely : ConRely s s') (h : j ≤ s.queued.length) :
    start s'.queued j = start s.queued j := by
  rcases hrely.queued with hsame | ⟨_, happ, -⟩
  · rw [hsame]
  · rw [happ, start_append h]

/-- An item that lies behind the consumer tickets stays where it is. -/
theorem Placed.rely (h : Placed s j item) (hinv : Inv s) (hrely : ConRely s s')
    (hit : s.queued[j]? = some item) (hdesc : s.descriptorConsumer ≤ j)
    (hbyte : s.byteConsumer ≤ start s.queued j) : Placed s' j item := by
  obtain ⟨hlt, -⟩ := List.getElem?_eq_some_iff.mp hit
  have hstart := start_rely hrely (le_of_lt hlt)
  have hend := start_add_size_le hit
  have hproduced := hinv.produced
  refine ⟨?_, ?_⟩
  · rw [hstart, hrely.descriptors j hdesc (by rw [hinv.items]; exact hlt)]
    exact h.descriptor
  · rw [hstart]
    refine h.bytes.congr fun k hk => hrely.bytes _ (by omega) ?_
    rw [length_bytes] at hk
    omega

theorem item_rely (hrely : ConRely s s') (h : s.queued[j]? = some item) :
    s'.queued[j]? = some item := by
  rcases hrely.queued with hsame | ⟨_, happ, -⟩
  · rw [hsame, h]
  · rw [happ, List.getElem?_append_left (List.getElem?_eq_some_iff.mp h).1, h]

theorem length_rely (hrely : ConRely s s') : s.queued.length ≤ s'.queued.length := by
  rcases hrely.queued with hsame | ⟨_, happ, -⟩
  · rw [hsame]
  · rw [happ, length_append]
    omega

theorem Ready.rely (h : Ready s low) (hinv : Inv s) (hrely : ConRely s s')
    (hit : s.descriptorConsumer ≤ low)
    (hbyte : s.byteConsumer ≤ start s.queued low) : Ready s' low := by
  intro j item hj hat
  have hbyte' : s.byteConsumer ≤ start s.queued j := le_trans hbyte (start_mono _ hj)
  rcases hrely.queued with hsame | ⟨more, happ, hplaced⟩
  · rw [hsame] at hat
    exact (h j item hj hat).rely hinv hrely hat (by omega) hbyte'
  · by_cases hlt : j < s.queued.length
    · rw [happ, getElem?_append_left hlt] at hat
      exact (h j item hj hat).rely hinv hrely hat (by omega) hbyte'
    · -- the item that was queued by this step
      rw [happ, getElem?_append_right (by omega)] at hat
      obtain ⟨hzero, -⟩ := List.getElem?_eq_some_iff.mp hat
      simp only [length_singleton] at hzero
      have hlast : j = s.queued.length := by omega
      subst hlast
      rw [Nat.sub_self] at hat
      cases hat
      exact hplaced

/-- **The worker between two visits.** -/
structure Resting (s : Hub) : Prop where
  byte : s.byteConsumer = start s.queued s.descriptorConsumer
  ready : Ready s s.descriptorConsumer

theorem stable_resting : Stable Inv ConRely Resting := by
  intro s s' hinv _ h hrely
  refine ⟨?_, ?_⟩
  · rw [hrely.byteConsumer, hrely.descriptorConsumer, start_rely hrely hinv.consumed_le]
    exact h.byte
  · rw [hrely.descriptorConsumer]
    exact h.ready.rely hinv hrely le_rfl h.byte.le

/-- The worker at the front item `item`, with ticket `c` and byte ticket `t`; what lies from
`low` on is untouched. -/
structure AtFront (c t : Nat) (item : StreamItemView) (low : Nat) (s : Hub) : Prop where
  consumer : s.descriptorConsumer = c
  byte : s.byteConsumer = t
  start_eq : start s.queued c = t
  item : s.queued[c]? = some item
  ready : Ready s low

theorem stable_atFront (c t : Nat) (item : StreamItemView) (hlow : c ≤ low) :
    Stable Inv ConRely (AtFront c t item low) := by
  intro s s' hinv _ h hrely
  obtain ⟨hlt, -⟩ := List.getElem?_eq_some_iff.mp h.item
  refine ⟨?_, ?_, ?_, item_rely hrely h.item, ?_⟩
  · rw [hrely.descriptorConsumer, h.consumer]
  · rw [hrely.byteConsumer, h.byte]
  · rw [start_rely hrely (le_of_lt hlt), h.start_eq]
  · refine h.ready.rely hinv hrely (by rw [h.consumer]; exact hlow) ?_
    rw [h.byte, ← h.start_eq]
    exact start_mono _ hlow

/-- The item fits into the ring. -/
theorem AtFront.size_le (h : AtFront c t item low s) (hinv : Inv s) :
    t + item.size ≤ s.byteProducer ∧ item.size ≤ kStreamQueueBytes := by
  have hend := start_add_size_le h.item
  rw [h.start_eq] at hend
  have hproduced := hinv.produced
  have hroom := hinv.byteRoom
  rw [h.byte] at hroom
  omega

/-- A step of the worker is on the borrow, the two consumer tickets, the rings
and what it has seen. -/
theorem conStep_own {epoch active items front : Nat} {bytes : Nat → UInt8}
    {descriptors : Nat → StreamIngressDescriptor} {consumed : List Delivery}
    {visited : List (Nat × Delivery)}
    (hinv : Inv { s with
      borrowEpoch := epoch, activeBorrows := active, descriptorConsumer := items
      byteConsumer := front, bytes := bytes, descriptors := descriptors
      consumed := consumed, visited := visited })
    (hitems : s.descriptorConsumer ≤ items) (hfront : s.byteConsumer ≤ front)
    (hbytes : ∀ t, total s.queued ≤ t → t < s.byteConsumer + kStreamQueueBytes →
      bytes (t % kStreamQueueBytes) = s.bytes (t % kStreamQueueBytes))
    (hdescs : ∀ j, s.descriptorProducer ≤ j → j < s.descriptorConsumer + kStreamQueueItems →
      descriptors (j % kStreamQueueItems) = s.descriptors (j % kStreamQueueItems)) :
    ConStep s { s with
      borrowEpoch := epoch, activeBorrows := active, descriptorConsumer := items
      byteConsumer := front, bytes := bytes, descriptors := descriptors
      consumed := consumed, visited := visited } :=
  ⟨⟨rfl, rfl, rfl, rfl, rfl, rfl, rfl, hitems, hfront, hbytes, hdescs⟩, hinv, rfl, rfl, rfl⟩

/-- Steps on the borrow. -/
theorem conStep_borrow (hinv : Inv s) (epoch active : Nat) :
    ConStep s { s with borrowEpoch := epoch, activeBorrows := active } :=
  conStep_own { hinv with } le_rfl le_rfl (fun _ _ _ => rfl) fun _ _ _ => rfl

theorem ConStep.refl (hinv : Inv s) : ConStep s s :=
  conStep_borrow hinv s.borrowEpoch s.activeBorrows

theorem AtFront.of_same (h : AtFront c t item low s)
    (hsame : SameCounts s s' := by constructor <;> rfl) (hbytes : s'.bytes = s.bytes := by rfl)
    (hdescs : s'.descriptors = s.descriptors := by rfl) : AtFront c t item low s' := by
  refine ⟨?_, ?_, ?_, ?_, ?_⟩
  · rw [hsame.descriptorConsumer, h.consumer]
  · rw [hsame.byteConsumer, h.byte]
  · rw [hsame.queued, h.start_eq]
  · rw [hsame.queued, h.item]
  · exact h.ready.congr hsame.queued hdescs hbytes

/-! ## §2. What the visitor sees. -/

/-- **Reading a span of the item.** -/
theorem meets_readBytes (n : Nat) :
    ∀ (position a : Nat), (∀ i, i < n → (t + (a + i)) % kStreamQueueBytes = position + i) →
      a + n ≤ item.size →
      (readBytes position n).Meets Inv ConRely ConStep (AtFront c t item c)
        (fun l s => l = (item.bytes.drop a).take n ∧ AtFront c t item c s) := by
  induction n with
  | zero =>
    intro position a _ _
    exact meets_done fun s _ h => ⟨by rw [take_zero], h⟩
  | succ n ih =>
    intro position a hplaces hsize
    have hlt : a < item.bytes.length := by
      rw [length_bytes]
      omega
    refine meets_load (A := fun byte s => byte = item.bytes[a] ∧ AtFront c t item c s)
      (fun s hJ _ => ConStep.refl hJ)
      (fun byte => (stable_const _).and (stable_atFront c t item le_rfl)) ?_ ?_
    · intro s _ h
      refine ⟨?_, h⟩
      have hplaced := h.ready c item le_rfl h.item
      have hbyte := hplaced.bytes a item.bytes[a] (getElem?_eq_getElem hlt)
      rw [h.start_eq] at hbyte
      have hplace := hplaces 0 (by omega)
      rw [add_zero, add_zero] at hplace
      rw [hplace] at hbyte
      exact hbyte
    · intro byte
      refine meets_fact fun hbyte => meets_bind (ih (position + 1) (a + 1) ?_ (by omega)) ?_
      · intro i hi
        have hplace := hplaces (i + 1) (by omega)
        rw [show a + 1 + i = a + (i + 1) by omega, hplace]
        omega
      · intro rest
        refine meets_fact fun hrest => meets_done fun s _ h => ⟨?_, h⟩
        rw [hbyte, hrest, drop_eq_getElem_cons hlt, take_succ_cons]

/-- **The visitor gets the item that was published.** -/
theorem meets_visitItem (hsize : item.size ≤ kStreamQueueBytes) :
    (visitItem c (describe t item)).Meets Inv ConRely ConStep (AtFront c t item c)
      (fun delivery s => delivery = item.delivery ∧ AtFront c t item c s) := by
  obtain ⟨hfirst, hsecond⟩ := front_places (t := t) hsize
  have hstab := stable_atFront c t item (le_rfl)
  have hmin : min item.size (kStreamQueueBytes - t % kStreamQueueBytes) ≤ item.size :=
    min_le_left _ _
  refine meets_bind (meets_readBytes _ _ 0 ?_ ?_) fun first => meets_fact fun hfirstBytes => ?_
  · intro i hi
    rw [zero_add]
    exact hfirst i hi
  · rwa [zero_add]
  refine meets_bind (meets_readBytes _ _
    (min item.size (kStreamQueueBytes - t % kStreamQueueBytes)) ?_ ?_)
    fun second => meets_fact fun hsecondBytes => ?_
  · intro i hi
    rw [zero_add]
    exact hsecond i hi
  · exact (add_sub_of_le hmin).le
  -- the two spans together are the item
  have hbytes : first ++ second = item.bytes := by
    rw [hfirstBytes, hsecondBytes, drop_zero]
    rw [take_of_length_le (l := List.drop _ _)]
    · exact take_append_drop _ _
    · rw [length_drop, length_bytes]
      exact le_rfl
  have hdel : ({ receiveSequence := (describe t item).receiveSequence
                 routing := (describe t item).routing, bytes := first ++ second } : Delivery)
      = item.delivery := by
    rw [hbytes]
    rfl
  rw [hdel]
  refine meets_store (A := AtFront c t item c) ?_ hstab ?_ (meets_done fun s _ h => ⟨rfl, h⟩)
  · intro s hJ h
    have hvisited : ∀ visit ∈ s.visited ++ [(c, item.delivery)],
        (s.queued.map StreamItemView.delivery)[visit.1]? = some visit.2 := by
      refine forall_mem_append.mpr ⟨hJ.visited, forall_mem_singleton.mpr ?_⟩
      rw [getElem?_map, h.item]
      rfl
    exact conStep_own { hJ with visited := hvisited } le_rfl le_rfl
      (fun _ _ _ => rfl) fun _ _ _ => rfl
  · intro s _ h
    exact { h with ready := h.ready.congr rfl rfl rfl }

/-! ## §3. An item is consumed. -/

/-- A byte of the front item overwritten. -/
theorem conStep_setByte {a : Nat} {byte : UInt8} (hinv : Inv s) (h : AtFront c t item (c + 1) s)
    (ha : a < item.size) :
    ConStep s (s.setByte ((t + a) % kStreamQueueBytes) byte)
      ∧ AtFront c t item (c + 1) (s.setByte ((t + a) % kStreamQueueBytes) byte) := by
  have hroom := hinv.byteRoom
  have hproduced := hinv.produced
  have htotal := start_add_size_le h.item
  rw [h.byte] at hroom
  rw [h.start_eq] at htotal
  refine ⟨?_, h.consumer, h.byte, h.start_eq, h.item, ?_⟩
  · refine conStep_own { hinv with } le_rfl le_rfl ?_ fun _ _ _ => rfl
    intro u hlow hhigh
    rw [h.byte] at hhigh
    exact Function.update_of_ne (Ring.mod_ne (by omega) (by omega) (by omega)) _ _
  · -- the items behind it lie between its end and the producer ticket
    intro j other hj hat
    change s.queued[j]? = some other at hat
    have hplaced := h.ready j other hj hat
    have hbeh : t + item.size ≤ start s.queued j := by
      rw [← h.start_eq, ← start_succ h.item]
      exact start_mono _ hj
    have hother := start_add_size_le hat
    have hlen := length_bytes other
    exact ⟨hplaced.descriptor, hplaced.bytes.write (.inl (by omega))
      (show start s.queued j + other.bytes.length ≤ t + a + kStreamQueueBytes by omega) (by omega)⟩

/-- **Poisoning a span of the item.** -/
theorem meets_fillBytes (n : Nat) :
    ∀ (position a : Nat), (∀ i, i < n → (t + (a + i)) % kStreamQueueBytes = position + i) →
      a + n ≤ item.size →
      (fillBytes position n).Meets Inv ConRely ConStep (AtFront c t item (c + 1))
        (fun _ => AtFront c t item (c + 1)) := by
  induction n with
  | zero =>
    intro position a _ _
    exact meets_done fun s _ h => h
  | succ n ih =>
    intro position a hplaces hsize
    have hplace : position = (t + a) % kStreamQueueBytes := by
      have hzero := hplaces 0 (by omega)
      exact hzero.symm
    refine meets_store (A := AtFront c t item (c + 1)) ?_
      (stable_atFront c t item (le_succ c)) ?_ (ih (position + 1) (a + 1) ?_ (by omega))
    · intro s hJ h
      rw [hplace]
      exact (conStep_setByte hJ h (by omega)).1
    · intro s hJ h
      rw [hplace]
      exact (conStep_setByte hJ h (by omega)).2
    · intro i hi
      have hnext := hplaces (i + 1) (by omega)
      rw [show a + 1 + i = a + (i + 1) by omega, hnext]
      omega

theorem AtFront.later (h : AtFront c t item c s) : AtFront c t item (c + 1) s :=
  { h with ready := fun j other hj => h.ready j other (by omega) }

theorem AtFront.resting (h : AtFront c t item c s) : Resting s :=
  ⟨by rw [h.byte, h.consumer, h.start_eq], by rw [h.consumer]; exact h.ready⟩

/-- The descriptor of the front item overwritten. -/
theorem conStep_setDescriptor {descriptor : StreamIngressDescriptor} (hinv : Inv s)
    (h : AtFront c t item (c + 1) s) :
    ConStep s (s.setDescriptor (c % kStreamQueueItems) descriptor)
      ∧ AtFront c t item (c + 1) (s.setDescriptor (c % kStreamQueueItems) descriptor) := by
  obtain ⟨hlt, -⟩ := List.getElem?_eq_some_iff.mp h.item
  have hroom := hinv.itemRoom
  have hitems := hinv.items
  rw [h.consumer] at hroom
  refine ⟨?_, h.consumer, h.byte, h.start_eq, h.item, ?_⟩
  · refine conStep_own { hinv with } le_rfl le_rfl (fun _ _ _ => rfl) ?_
    intro j hlow hhigh
    rw [h.consumer] at hhigh
    exact Function.update_of_ne (Ring.mod_ne (by omega) (by omega) (by omega)) _ _
  · intro j other hj hat
    change s.queued[j]? = some other at hat
    have hplaced := h.ready j other hj hat
    obtain ⟨hjlt, -⟩ := List.getElem?_eq_some_iff.mp hat
    have hother : (s.setDescriptor (c % kStreamQueueItems) descriptor).descriptors
        (j % kStreamQueueItems) = s.descriptors (j % kStreamQueueItems) :=
      Function.update_of_ne (Ring.mod_ne (by omega) (by omega) (by omega)) _ _
    exact ⟨hother.trans hplaced.descriptor, hplaced.bytes⟩

/-- The byte ticket moved behind the front item. -/
theorem conStep_byteConsumer (hinv : Inv s) (h : AtFront c t item (c + 1) s) :
    ConStep s { s with byteConsumer := t + item.size } := by
  have htotal := start_add_size_le h.item
  have hbyte := h.byte
  have hroom := hinv.byteRoom
  have hstart := h.start_eq
  have hfront : start s.queued s.descriptorConsumer ≤ t + item.size := by
    rw [h.consumer, hstart]
    omega
  refine conStep_own ?_ le_rfl (by omega) (fun _ _ _ => rfl) fun _ _ _ => rfl
  exact
    { hinv with
      front := hfront
      behind := by
        show t + item.size ≤ total s.queued
        omega
      byteRoom := by
        show s.byteProducer ≤ t + item.size + kStreamQueueBytes
        omega }

/-- The worker between its two last stores. -/
structure Passing (c : Nat) (item : StreamItemView) (s : Hub) : Prop where
  consumer : s.descriptorConsumer = c
  byte : s.byteConsumer = start s.queued (c + 1)
  item : s.queued[c]? = some item
  ready : Ready s (c + 1)

theorem stable_passing (c : Nat) (item : StreamItemView) : Stable Inv ConRely (Passing c item) := by
  intro s s' hinv _ h hrely
  obtain ⟨hlt, -⟩ := List.getElem?_eq_some_iff.mp h.item
  refine ⟨?_, ?_, item_rely hrely h.item, ?_⟩
  · rw [hrely.descriptorConsumer, h.consumer]
  · rw [hrely.byteConsumer, start_rely hrely hlt, h.byte]
  · exact h.ready.rely hinv hrely (by rw [h.consumer]; omega) h.byte.le

/-- The descriptor ticket moved behind the front item: it is consumed. -/
theorem conStep_consume (hinv : Inv s) (h : Passing c item s) :
    ConStep s { s with descriptorConsumer := c + 1, consumed := s.consumed ++ [item.delivery] }
      ∧ Resting { s with descriptorConsumer := c + 1
                         consumed := s.consumed ++ [item.delivery] } := by
  obtain ⟨hlt, -⟩ := List.getElem?_eq_some_iff.mp h.item
  have hroom := hinv.itemRoom
  have hconsumer := h.consumer
  have hcons : s.consumed ++ [item.delivery]
      = (s.queued.map StreamItemView.delivery).take (c + 1) := by
    rw [take_add_one, getElem?_map, h.item, hinv.consumed, h.consumer]
    rfl
  refine ⟨?_, h.byte, h.ready.congr rfl rfl rfl⟩
  refine conStep_own ?_ (by omega) le_rfl (fun _ _ _ => rfl) fun _ _ _ => rfl
  exact
    { hinv with
      consumed_le := hlt
      consumed := hcons
      front := h.byte.ge
      itemRoom := by
        show s.descriptorProducer ≤ c + 1 + kStreamQueueItems
        omega }

/-- **Consuming the item that was visited.** -/
theorem meets_consumeFront (hsize : item.size ≤ kStreamQueueBytes) :
    (consumeFront c (describe t item) item.delivery).Meets Inv ConRely ConStep
      (AtFront c t item c) (fun _ => Resting) := by
  obtain ⟨hfirst, hsecond⟩ := front_places (t := t) hsize
  have hmin : min item.size (kStreamQueueBytes - t % kStreamQueueBytes) ≤ item.size :=
    min_le_left _ _
  have hstab := stable_atFront c t item (le_rfl)
  have hlater := stable_atFront c t item (le_succ c)
  refine meets_load (A := fun current s => current = c ∧ AtFront c t item c s)
    (fun s hJ _ => ConStep.refl hJ) (fun _ => (stable_const _).and hstab)
    (fun s _ h => ⟨h.consumer, h⟩) fun current => meets_fact fun hcur => ?_
  subst hcur
  refine meets_look (fun _ => ConStep.refl) hstab fun producer => ?_
  refine meets_look (fun _ => ConStep.refl) hstab fun front => ?_
  refine meets_ite (fun _ => meets_done fun s _ h => h.resting) fun _ => ?_
  refine meets_bind ((meets_fillBytes _ _ 0 ?_ ?_).mono fun s _ h => h.later) fun _ => ?_
  · intro i hi
    rw [zero_add]
    exact hfirst i hi
  · rwa [zero_add]
  refine meets_bind (meets_fillBytes _ _
    (min item.size (kStreamQueueBytes - t % kStreamQueueBytes)) ?_ ?_) fun _ => ?_
  · intro i hi
    rw [zero_add]
    exact hsecond i hi
  · exact (add_sub_of_le hmin).le
  refine meets_store (A := AtFront current t item (current + 1))
    (fun s hJ h => (conStep_setDescriptor hJ h).1) hlater
    (fun s hJ h => (conStep_setDescriptor hJ h).2) ?_
  refine meets_store (A := Passing current item) (fun s hJ h => conStep_byteConsumer hJ h)
    (stable_passing current item) ?_ ?_
  · intro s _ h
    refine ⟨h.consumer, ?_, h.item, h.ready.congr rfl rfl rfl⟩
    show t + item.size = start s.queued (current + 1)
    rw [start_succ h.item, h.start_eq]
  refine meets_store (A := Resting) (fun s hJ h => (conStep_consume hJ h).1) stable_resting
    (fun s hJ h => (conStep_consume hJ h).2) (meets_done fun s _ h => h)

/-! ## §4. The worker's call. -/

/-- **The worker's call.** -/
theorem meets_visitFront (action : StreamIngressFrontAction) :
    (visitFront action).Meets Inv ConRely ConStep Resting (fun _ => Resting) := by
  have hsame : ∀ s, Inv s → ConStep s s := fun _ => ConStep.refl
  have hrefl : ∀ {P : Hub → Prop} (s : Hub), Inv s → P s → ConStep s s := fun s hJ _ => hsame s hJ
  have hrest : ∀ s epoch active, Resting s →
      Resting { s with borrowEpoch := epoch, activeBorrows := active } :=
    fun s _ _ h => ⟨h.byte, h.ready.congr rfl rfl rfl⟩
  refine meets_look hsame stable_resting fun held => meets_look hsame stable_resting fun state => ?_
  refine meets_look hsame stable_resting fun cause => ?_
  refine meets_ite (fun _ => meets_done fun s _ h => h) fun _ => ?_
  refine meets_ite (fun _ => meets_done fun s _ h => h) fun _ => ?_
  -- from here on the ticket of the worker is known
  have hat : ∀ c, Stable Inv ConRely fun s => Resting s ∧ s.descriptorConsumer = c := by
    intro c s s' hJ hJ' h hrely
    exact ⟨stable_resting s s' hJ hJ' h.1 hrely, by rw [hrely.descriptorConsumer]; exact h.2⟩
  refine meets_load (A := fun c s => Resting s ∧ s.descriptorConsumer = c) hrefl hat
    (fun s _ h => ⟨h, rfl⟩) fun c => ?_
  refine meets_load
    (A := fun p s => (Resting s ∧ s.descriptorConsumer = c) ∧ p ≤ s.queued.length ∧ c ≤ p)
    hrefl ?_ ?_ fun producer => ?_
  · intro p s s' hJ hJ' h hrely
    exact ⟨hat c s s' hJ hJ' h.1 hrely, le_trans h.2.1 (length_rely hrely), h.2.2⟩
  · intro s hJ h
    refine ⟨h, hJ.items.le, ?_⟩
    rw [hJ.items, ← h.2]
    exact hJ.consumed_le
  refine meets_ite (fun _ => meets_done fun s _ h => h.1.1) fun hne => ?_
  -- an item waits; its place in the rings does not move any more
  have hfront : ∀ s, Inv s →
      ((Resting s ∧ s.descriptorConsumer = c) ∧ producer ≤ s.queued.length ∧ c ≤ producer) →
      ∃ item t, AtFront c t item c s := by
    intro s _ h
    have hlt : c < s.queued.length := by omega
    refine ⟨s.queued[c], start s.queued c, h.1.2, ?_, rfl, getElem?_eq_getElem hlt, ?_⟩
    · rw [h.1.1.byte, h.1.2]
    · rw [← h.1.2]
      exact h.1.1.ready
  have hwaiting : Stable Inv ConRely fun s => ∃ item t, AtFront c t item c s := by
    rintro s s' hJ hJ' ⟨item, t, h⟩ hrely
    exact ⟨item, t, stable_atFront c t item (le_rfl) s s' hJ hJ' h hrely⟩
  have hback : ∀ s, (∃ item t, AtFront c t item c s) → Resting s := fun s ⟨_, _, h⟩ => h.resting
  have hborrow : ∀ s epoch active, (∃ item t, AtFront c t item c s) →
      ∃ item t, AtFront c t item c
        ({ s with borrowEpoch := epoch, activeBorrows := active } : Hub) :=
    fun s _ _ ⟨item, t, h⟩ =>
      ⟨item, t, h.of_same⟩
  refine meets_load (A := fun _ s => ∃ item t, AtFront c t item c s) hrefl (fun _ => hwaiting)
    (fun s hJ h => hfront s hJ h) fun borrow => ?_
  refine meets_compare (A := fun _ s => ∃ item t, AtFront c t item c s) hsame
    (fun s hJ h _ => ⟨conStep_borrow hJ _ _, hborrow s _ _ h⟩) (fun s _ h _ => h)
    (fun _ => hwaiting) fun taken => ?_
  refine meets_ite (fun _ => meets_done fun s _ h => hback s h) fun _ => ?_
  have hadv : ∀ expected desired {P : Hub → Prop}, (∀ s epoch active, P s →
      P { s with borrowEpoch := epoch, activeBorrows := active }) → Stable Inv ConRely P →
      (advanceBorrowEpoch expected desired).Meets Inv ConRely ConStep P fun _ => P := by
    intro expected desired P hkeep hstab
    exact meets_compare_last hsame (fun s hJ h _ => ⟨conStep_borrow hJ _ _, hkeep s _ _ h⟩)
      (fun s _ h _ => h) fun _ => hstab
  refine meets_bind (meets_test (fun _ => hadv _ _ hborrow hwaiting) fun _ s _ h => h)
    fun advanced => ?_
  refine meets_ite (fun _ => ?_) fun _ => ?_
  · exact meets_store (A := Resting) (fun s hJ _ => conStep_borrow hJ _ _) stable_resting
      (fun s _ h => hrest s _ _ (hback s h)) (meets_done fun s _ h => h)
  -- the descriptor says which item it is
  refine meets_load (A := fun descriptor s => ∃ item t, (descriptor = describe t item
      ∧ item.size ≤ kStreamQueueBytes) ∧ AtFront c t item c s) hrefl ?_ ?_ fun descriptor => ?_
  · rintro descriptor s s' hJ hJ' ⟨item, t, hdesc, h⟩ hrely
    exact ⟨item, t, hdesc, stable_atFront c t item (le_rfl) s s' hJ hJ' h hrely⟩
  · rintro s hJ ⟨item, t, h⟩
    refine ⟨item, t, ⟨?_, (h.size_le hJ).2⟩, h⟩
    rw [(h.ready c item (le_rfl) h.item).descriptor, h.start_eq]
  refine meets_exists fun item => meets_exists fun t => meets_fact fun hdescribed => ?_
  obtain ⟨rfl, hsize⟩ := hdescribed
  have hstab := stable_atFront c t item (le_rfl)
  have hkeep : ∀ s epoch active, AtFront c t item c s →
      AtFront c t item c { s with borrowEpoch := epoch, activeBorrows := active } :=
    fun s _ _ h => h.of_same
  refine meets_bind (meets_visitItem hsize) fun delivery => meets_fact fun hdel => ?_
  subst hdel
  refine meets_bind (Q := fun _ => AtFront c t item c) ?_ fun retained => ?_
  · refine meets_look hsame hstab fun current => ?_
    exact meets_look hsame hstab fun state => meets_done fun s _ h => h
  refine meets_bind (hadv _ _ hkeep hstab) fun _ => ?_
  refine meets_store (A := AtFront c t item c) (fun s hJ _ => conStep_borrow hJ _ _) hstab
    (fun s _ h => hkeep s _ _ h) ?_
  refine meets_ite (fun _ => meets_done fun s _ h => h.resting) fun _ => ?_
  exact meets_ite (fun _ => meets_done fun s _ h => h.resting) fun _ => meets_consumeFront hsize

end TgCli.Ingress
