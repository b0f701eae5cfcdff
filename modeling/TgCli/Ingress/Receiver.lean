/-
  TgCli.Ingress.Receiver — AN ITEM IS QUEUED, OR THE SLOT IS CLOSED

  `publish` on the receive thread: the item is copied behind the producer tickets,
  or one of the limits claims the slot.

  Main results:
    * `meets_writeItem` — the item lies in the rings before its tickets move;
    * `meets_enqueue`, `meets_publish` — afterwards nothing wanted is missing,
      unless the slot is closed (`Caught`).
-/
import TgCli.Ingress.Hub

namespace TgCli.Ingress

open Lib Act List StreamItemView Nat

/-! ## §1. What the receive thread knows. -/

/-- A slot that wants something was published and is in the registry, until it is detached. -/
def Registered (s : Hub) : Prop :=
  Blank s.projection ∨ (Started s ∧ (s.published = .slot ∨ Gone s))

/-- The receive thread's own counters, and the registry. -/
structure Base (s : Hub) : Prop where
  byte : s.byteProducer = total s.queued
  registry : Registered s

/-- Every wanted item is queued, or the slot is closed. -/
def Caught (s : Hub) : Prop := s.queued = s.log.filter s.projection.wants ∨ Closed s

/-- Every wanted item before the last published one is queued, or the slot is closed. -/
def Owes (item : StreamItemView) (s : Hub) : Prop :=
  ∃ old, s.log = old ++ [item] ∧ (s.queued = old.filter s.projection.wants ∨ Closed s)

/-- The guard of the receive thread. -/
def Count (n : Nat) (s : Hub) : Prop := s.publisherCount = n

variable {s s' : Hub} {item : StreamItemView} {p b : Nat}

theorem Gone.rely (h : Gone s) (hrely : PubRely s s') : Gone s' :=
  le_trans h hrely.rank_le

theorem Closed.rely (h : Closed s) (hrely : PubRely s s') : Closed s' :=
  h.imp (fun hcl => ⟨le_trans hcl.1 hrely.rank_le, hrely.terminal hcl.1 hcl.2⟩)
    fun hgone => hgone.rely hrely

theorem published_rely (h : s.published = .slot ∨ Gone s) (hrely : PubRely s s') :
    s'.published = .slot ∨ Gone s' := by
  rcases h with hslot | hgone
  · rcases hrely.published with hsame | hgone
    · exact .inl (hsame.trans hslot)
    · exact .inr (hgone.rely hrely)
  · exact .inr (hgone.rely hrely)

theorem Registered.rely (h : Registered s) (hrely : PubRely s s') : Registered s' := by
  rcases h with hblank | ⟨hstrt, hslot⟩
  · exact .inl (hrely.wants.trans hblank)
  · exact .inr ⟨le_trans hstrt hrely.rank_le, published_rely hslot hrely⟩

theorem stable_base : Stable Inv PubRely Base := by
  intro s s' _ _ h hrely
  refine ⟨by rw [hrely.byteProducer, hrely.queued]; exact h.byte, ?_⟩
  exact h.registry.rely hrely

theorem stable_caught : Stable Inv PubRely Caught := by
  intro s s' _ _ h hrely
  refine h.imp (fun hqd => ?_) fun hcl => hcl.rely hrely
  rw [hrely.queued, hrely.log, hrely.wants]
  exact hqd

theorem stable_owes (item : StreamItemView) : Stable Inv PubRely (Owes item) := by
  rintro s s' _ _ ⟨old, hlog, h⟩ hrely
  refine ⟨old, by rw [hrely.log, hlog], h.imp (fun hqd => ?_) fun hcl => hcl.rely hrely⟩
  rw [hrely.queued, hrely.wants]
  exact hqd

theorem stable_count (n : Nat) : Stable Inv PubRely (Count n) :=
  fun _ _ _ _ h hrely => hrely.publisherCount.trans h

theorem stable_live : Stable Inv PubRely Live :=
  fun _ _ _ _ h hrely => le_trans h hrely.rank_le

theorem PubStep.refl (hinv : Inv s) : PubStep s s :=
  pubStep_of_same hinv le_rfl

/-- A projection without a client wants nothing. -/
theorem blank_of_clientId {projection : PublishedIngressFilter} (h : projection.clientId ≤ 0) :
    Blank projection := by
  funext item
  exact if_pos (.inl h)

theorem Blank.filter (h : Blank projection)
    (log : List StreamItemView) : log.filter projection.wants = [] := by
  rw [show projection.wants = _ from h]
  exact filter_false log

/-- Nothing is queued for it. -/
theorem Blank.queued (h : Blank s.projection) (hinv : Inv s) : s.queued = [] := by
  have hinOrder := hinv.inOrder
  rw [h.filter] at hinOrder
  exact prefix_nil.mp hinOrder

theorem filter_snoc {p : StreamItemView → Bool} :
    (old ++ [item]).filter p = old.filter p ++ if p item = true then [item] else [] := by
  rw [filter_append]
  by_cases hp : p item = true
  · rw [if_pos hp, filter_cons_of_pos hp, filter_nil]
  · rw [if_neg hp, filter_cons_of_neg hp, filter_nil]

/-- An item that nobody wants is not owed. -/
theorem Owes.caught_of_unwanted (h : Owes item s)
    (hunwanted : s.projection.wants item = false) : Caught s := by
  obtain ⟨old, hlog, h⟩ := h
  refine h.imp (fun hqd => ?_) id
  rw [hlog, filter_snoc, hunwanted, hqd]
  simp

theorem Started.not_free (h : Started s) : s.state ≠ .free :=
  rank_pos_iff.mp (le_trans (by decide) h)

/-- A slot that wants an item has started. -/
theorem Registered.started (h : Registered s) (hwants : s.projection.wants item) :
    Started s ∧ (s.published = .slot ∨ Gone s) := by
  refine h.resolve_left fun hblank => ?_
  rw [show s.projection.wants = _ from hblank] at hwants
  cases hwants

/-- A slot for which an item is due has started. -/
theorem Registered.started_of_due (h : Registered s)
    (hnext : s.log.filter s.projection.wants = s.queued ++ [item]) : Started s := by
  have hmem : item ∈ s.log.filter s.projection.wants := by
    rw [hnext]
    exact mem_append_right _ (mem_singleton.mpr rfl)
  exact (h.started (mem_filter.mp hmem).2).1

/-! ## §2. The copy. -/

/-- The item is next in line at the places `p` and `b`, and there is room for it. -/
structure Room (item : StreamItemView) (p b current : Nat) (s : Hub) : Prop where
  count : s.publisherCount = 1
  registry : Registered s
  next : s.log.filter s.projection.wants = s.queued ++ [item]
  producer : s.descriptorProducer = p
  byte : s.byteProducer = current
  byte_eq : b = total s.queued
  items : p < s.descriptorConsumer + kStreamQueueItems
  room : b + item.size ≤ s.byteConsumer + kStreamQueueBytes

theorem Room.rely (h : Room item p b current s) (hrely : PubRely s s') :
    Room item p b current s' := by
  have hitems := h.items
  have hroom := h.room
  have hdesc := hrely.descriptorConsumer_le
  have hbyte := hrely.byteConsumer_le
  refine ⟨hrely.publisherCount.trans h.count, h.registry.rely hrely, ?_,
    hrely.descriptorProducer.trans h.producer, hrely.byteProducer.trans h.byte, ?_, by omega,
    by omega⟩
  · rw [hrely.log, hrely.wants, hrely.queued]
    exact h.next
  · rw [hrely.queued]
    exact h.byte_eq

/-- The bytes of the item stay where they were written. -/
theorem Room.holds (h : Room item p b current s) (hrely : PubRely s s')
    (hbytes : Ring.Holds kStreamQueueBytes s.bytes b (item.bytes.take a)) :
    Ring.Holds kStreamQueueBytes s'.bytes b (item.bytes.take a) := by
  have hroom := h.room
  have hbyte_eq := h.byte_eq
  refine hbytes.congr fun k hk => hrely.bytes _ (by omega) ?_
  rw [length_take, length_bytes] at hk
  omega

/-- The receive thread writes the item: `a` bytes of it are written. -/
structure Writing (item : StreamItemView) (p b a : Nat) (s : Hub) : Prop
    extends Room item p b b s where
  bytes : Ring.Holds kStreamQueueBytes s.bytes b (item.bytes.take a)

theorem stable_writing (item : StreamItemView) (p b a : Nat) :
    Stable Inv PubRely (Writing item p b a) :=
  fun _ _ _ _ h hrely => ⟨h.rely hrely, h.holds hrely h.bytes⟩

/-- A byte written behind the producer ticket. -/
theorem pubStep_setByte (hinv : Inv s) (h : Writing item p b a s)
    (hbyte : item.bytes[a]? = some byte) :
    PubStep s (s.setByte ((b + a) % kStreamQueueBytes) byte)
      ∧ Writing item p b (a + 1) (s.setByte ((b + a) % kStreamQueueBytes) byte) := by
  obtain ⟨hlt, -⟩ := List.getElem?_eq_some_iff.mp hbyte
  rw [length_bytes] at hlt
  have hroom := h.room
  have hbeh := hinv.behind
  refine ⟨?_, { h with }, ?_⟩
  · exact { PubStep.refl hinv with
      inv := hinv.of_same le_rfl
      bytes := by
        intro u hlow hhigh
        rw [h.byte] at hhigh
        exact Function.update_of_ne (Ring.mod_ne (by omega) (by omega) (by omega)) _ _
      queued := .inl rfl }
  · have hlen : (item.bytes.take a).length = a := by
      rw [length_take, length_bytes]
      omega
    have hbyte_eq := h.byte_eq
    have hsnoc := h.bytes.snoc (a := byte) (by rw [hlen]; omega)
    rw [hlen] at hsnoc
    rw [take_add_one, hbyte]
    exact hsnoc

/-- **One block of the copy.** -/
theorem meets_writeBytes (l : List UInt8) : ∀ (destination a : Nat),
      (∀ i, i < l.length → (b + (a + i)) % kStreamQueueBytes = destination + i) →
      (∀ i, i < l.length → item.bytes[a + i]? = l[i]?) →
      (writeBytes destination l).Meets Inv PubRely PubStep (Writing item p b a)
        (fun _ => Writing item p b (a + l.length)) := by
  induction l with
  | nil =>
    intro destination a _ _
    exact meets_done fun s _ h => h
  | cons byte rest ih =>
    intro destination a hplaces hbytes
    have hplace : destination = (b + a) % kStreamQueueBytes := by
      have hzero := hplaces 0 (by simp)
      exact hzero.symm
    have hbyte : item.bytes[a]? = some byte := by
      have hzero := hbytes 0 (by simp)
      rwa [add_zero] at hzero
    refine meets_store (A := Writing item p b (a + 1)) ?_ (stable_writing item p b (a + 1)) ?_ ?_
    · intro s hJ h
      rw [hplace]
      exact (pubStep_setByte hJ h hbyte).1
    · intro s hJ h
      rw [hplace]
      exact (pubStep_setByte hJ h hbyte).2
    · refine (ih (destination + 1) (a + 1) ?_ ?_).post fun _ s _ h => ?_
      · intro i hi
        have hnext := hplaces (i + 1) (by simpa using hi)
        rw [show a + 1 + i = a + (i + 1) by omega, hnext]
        omega
      · intro i hi
        have hnext := hbytes (i + 1) (by simpa using hi)
        rw [show a + 1 + i = a + (i + 1) by omega, hnext, getElem?_cons_succ]
      · rw [length_cons, show a + (rest.length + 1) = a + 1 + rest.length by omega]
        exact h

/-- The bytes in front of the end of the ring. -/
def firstSize (item : StreamItemView) (b : Nat) : Nat :=
  min item.size (kStreamQueueBytes - b % kStreamQueueBytes)

/-- **One source span**, behind `a` bytes of the item. -/
theorem meets_copySpan {a : Nat} {source : List UInt8} (hsize : item.size ≤ kStreamQueueBytes)
    (hend : a + source.length ≤ item.size)
    (hsrc : ∀ i, i < source.length → item.bytes[a + i]? = source[i]?) :
    (copySpan source (b % kStreamQueueBytes + min a (firstSize item b)) (firstSize item b - a)
        (a - firstSize item b)).Meets Inv PubRely PubStep (Writing item p b a)
      (fun result s => result = (b % kStreamQueueBytes + min (a + source.length) (firstSize item b),
          firstSize item b - (a + source.length), a + source.length - firstSize item b)
        ∧ Writing item p b (a + source.length) s) := by
  obtain ⟨hfirst, hsecond⟩ := front_places (t := b) hsize
  have hle : firstSize item b ≤ item.size := min_le_left _ _
  refine meets_bind (meets_writeBytes _ _ a ?_ ?_) fun _ => ?_
  · intro i hi
    rw [length_take] at hi
    rw [hfirst (a + i) (show a + i < firstSize item b by omega)]
    omega
  · intro i hi
    rw [length_take] at hi
    rw [getElem?_take, if_pos (by omega)]
    exact hsrc i (by omega)
  rw [length_take, min_eq_left (min_le_right _ _)]
  refine meets_bind (meets_writeBytes _ _ _ ?_ ?_) fun _ => ?_
  · intro i hi
    rw [length_drop] at hi
    -- here the ring has wrapped
    have hwrapped := hsecond (a - firstSize item b + i)
      (show a - firstSize item b + i < item.size - firstSize item b by omega)
    have hindex : a + min (firstSize item b - a) source.length + i
        = firstSize item b + (a - firstSize item b + i) := by omega
    rw [hindex]
    exact hwrapped
  · intro i hi
    rw [length_drop] at hi
    rw [getElem?_drop]
    have hnext := hsrc (min (firstSize item b - a) source.length + i) (by omega)
    rw [← add_assoc] at hnext
    exact hnext
  · refine meets_done fun s _ h => ⟨?_, ?_⟩
    · rw [Prod.mk.injEq, Prod.mk.injEq]
      refine ⟨?_, ?_, ?_⟩ <;> omega
    · have hlen : a + min (firstSize item b - a) source.length
          + (source.drop (min (firstSize item b - a) source.length)).length
          = a + source.length := by
        rw [length_drop]
        omega
      rw [← hlen]
      exact h

/-- The item is in the byte ring. -/
structure Filed (item : StreamItemView) (p b current : Nat) (s : Hub) : Prop
    extends Room item p b current s where
  bytes : Ring.Holds kStreamQueueBytes s.bytes b (item.bytes.take item.bytes.length)
  descriptor : s.descriptors (p % kStreamQueueItems) = describe b item

theorem stable_filed (item : StreamItemView) (p b current : Nat) :
    Stable Inv PubRely (Filed item p b current) := by
  refine fun s s' _ _ h hrely => ⟨h.rely hrely, h.holds hrely h.bytes, ?_⟩
  rw [hrely.descriptors p h.producer.le h.items]
  exact h.descriptor

/-- **The item is queued.** -/
theorem pubStep_queue (hinv : Inv s) (h : Filed item p b (b + item.size) s) :
    PubStep s { s with descriptorProducer := p + 1, queued := s.queued ++ [item] } := by
  have hlen : s.queued.length = p := by rw [← hinv.items, h.producer]
  have hstart : ∀ j, j ≤ s.queued.length → start (s.queued ++ [item]) j = start s.queued j :=
    fun j hj => start_append hj
  have htotal : total (s.queued ++ [item]) = b + item.size := by
    rw [total_append, ← h.byte_eq]
    simp [total]
  have hbeh := hinv.behind
  have hbyte_eq := h.byte_eq
  have hplaced : start (s.queued ++ [item]) s.queued.length = b := by
    rw [hstart _ le_rfl, start, take_length, h.byte_eq]
  refine ⟨⟨rfl, rfl, fun _ _ _ => rfl, fun _ _ _ => rfl, .inr ⟨item, rfl, ?_, ?_⟩⟩, ?_, le_rfl, rfl⟩
  · show s.descriptors (s.queued.length % kStreamQueueItems)
      = describe (start (s.queued ++ [item]) s.queued.length) item
    rw [hplaced, hlen]
    exact h.descriptor
  · show Ring.Holds kStreamQueueBytes s.bytes (start (s.queued ++ [item]) s.queued.length)
      item.bytes
    rw [hplaced, ← take_length (l := item.bytes)]
    exact h.bytes
  · have hstrt := h.registry.started_of_due h.next
    refine ⟨fun hfree => absurd hfree hstrt.not_free, ?_, ?_, ?_, ?_, ?_, ?_, ?_, ?_, ?_, ?_,
      hinv.numbered⟩
    · show p + 1 = (s.queued ++ [item]).length
      rw [length_append, hlen]
      rfl
    · show s.descriptorConsumer ≤ (s.queued ++ [item]).length
      rw [length_append]
      exact le_add_right_of_le hinv.consumed_le
    · show s.consumed = ((s.queued ++ [item]).map delivery).take s.descriptorConsumer
      rw [map_append, take_append_of_le_length, hinv.consumed]
      rw [length_map]
      exact hinv.consumed_le
    · show total (s.queued ++ [item]) ≤ s.byteProducer
      rw [htotal, h.byte]
    · show start (s.queued ++ [item]) s.descriptorConsumer ≤ s.byteConsumer
      rw [hstart _ hinv.consumed_le]
      exact hinv.front
    · show s.byteConsumer ≤ total (s.queued ++ [item])
      rw [htotal]
      omega
    · exact h.items
    · exact hinv.byteRoom
    · intro visit hvisit
      have hbef := hinv.visited visit hvisit
      show ((s.queued ++ [item]).map delivery)[visit.1]? = some visit.2
      obtain ⟨hlt, -⟩ := List.getElem?_eq_some_iff.mp hbef
      rw [map_append, getElem?_append_left hlt, hbef]
    · show s.queued ++ [item] <+: s.log.filter s.projection.wants
      exact h.next ▸ prefix_rfl

/-- **The write part of `enqueue`.** -/
theorem meets_writeItem (hsize : item.size ≤ kStreamQueueBytes) :
    (writeItem item p b).Meets Inv PubRely PubStep (Writing item p b 0)
      (fun _ s => Count 1 s ∧ Base s ∧ Caught s) := by
  have hlen : item.first.length + item.second.length = item.size := rfl
  have hcopy := @meets_copySpan item p b 0 item.first
    hsize (by omega) (fun i hi => by
      rw [zero_add, bytes, getElem?_append_left hi])
  have hcopy' := @meets_copySpan item p b (0 + item.first.length) item.second
    hsize (by omega) (fun i hi => by
      rw [zero_add, bytes, getElem?_append_right (by omega),
        Nat.add_sub_cancel_left])
  have hstart : b % kStreamQueueBytes + min 0 (firstSize item b) = b % kStreamQueueBytes := by
    rw [zero_min, add_zero]
  rw [hstart, Nat.sub_zero, Nat.zero_sub] at hcopy
  refine meets_bind hcopy fun result => meets_fact fun hres => ?_
  subst hres
  refine meets_bind hcopy' fun _ => meets_fact fun _ => ?_
  refine meets_store (A := Filed item p b b) ?_ (stable_filed item p b b) ?_ ?_
  · intro s hJ h
    have hitems := h.items
    have hproducer := h.producer
    exact { PubStep.refl hJ with
      inv := hJ.of_same le_rfl
      descriptors := fun j _ _ => by
        exact Function.update_of_ne (Ring.mod_ne (by omega) (by omega) (by omega)) _ _
      queued := .inl rfl }
  · intro s _ h
    refine { h with bytes := ?_, descriptor := Function.update_self _ _ _ }
    have hbytes := h.bytes
    rwa [zero_add, hlen, ← length_bytes] at hbytes
  refine meets_store (A := Filed item p b (b + item.size)) ?_ (stable_filed _ _ _ _) ?_ ?_
  · intro s hJ h
    exact { PubStep.refl hJ with
      queued := .inl rfl
      inv := { hJ with
        vacant := fun hfree => absurd hfree (h.registry.started_of_due h.next).not_free
        produced := by
          show total s.queued ≤ b + item.size
          rw [← h.byte_eq]
          omega
        byteRoom := h.room } }
  · exact fun s _ h => { h with byte := rfl }
  refine meets_last (fun s hJ h => pubStep_queue hJ h)
    (fun _ => (stable_count 1).and (stable_base.and stable_caught)) ?_
  intro s _ h
  refine ⟨h.count, ⟨?_, h.registry⟩, .inl h.next.symm⟩
  show s.byteProducer = total (s.queued ++ [item])
  rw [total_append, ← h.byte_eq, h.byte]
  simp [total]

/-! ## §3. An item is queued, or the slot is closed. -/

theorem Closed.claim (h : Closed s) (hstep : ClaimStep s s') : Closed s' := by
  obtain ⟨activation, terminal, payload, rfl, hterm⟩ := hstep
  exact h.imp (fun hcl => ⟨hcl.1, hterm hcl.2⟩) id

open PubStep

/-- Overflow closes the slot. -/
theorem meets_overflow {P : Hub → Prop} (hP : Stable Inv PubRely P)
    (hkeep : ∀ s s', P s → ClaimStep s s' → P s') (hlive : ∀ s, P s → Live s) (cause : Cause)
    (items bytes incoming : Nat) :
    (overflow cause items bytes incoming).Meets Inv PubRely PubStep P
      (fun _ s => P s ∧ Closed s) := by
  refine meets_load (A := fun _ => P) (fun s hJ _ => refl hJ) (fun _ => hP)
    (fun s _ h => h) fun operation => Meets.forget ?_
  refine (meets_claim hP (fun s s' hJ h => h.ctl.pubStep hJ) hkeep
    (fun _ _ _ _ h hrely => Closed.rely h hrely)
    (fun s s' h hstep => h.claim hstep) (fun s h hterm => .inl ⟨hlive s h, hterm⟩) _).post ?_
  exact fun _ s _ h => ⟨h.1, h.2 (by show StreamTerminalCause.claiming cause ≠ _; exact nofun)⟩

theorem Base.claim (h : Base s) (hstep : ClaimStep s s') : Base s' := by
  obtain ⟨activation, terminal, payload, rfl, -⟩ := hstep
  exact ⟨h.byte, h.registry⟩

theorem Caught.claim (h : Caught s) (hstep : ClaimStep s s') : Caught s' := by
  refine h.imp (fun hqd => ?_) fun hcl => hcl.claim hstep
  obtain ⟨activation, terminal, payload, rfl, -⟩ := hstep
  exact hqd

/-- A published slot that is not published any more is gone. -/
theorem gone_of_started (h : Started s) (hst : s.state ≠ .published) : Gone s := by
  unfold Started at h
  unfold Gone
  revert h hst
  cases s.state <;> decide

/-- What is owed when the slot turns out to be gone. -/
theorem caught_of_owes (h : Owes item s) (hgone : s.projection.wants item → Gone s) : Caught s := by
  cases hwants : s.projection.wants item with
  | true => exact .inr (.inr (hgone hwants))
  | false => exact h.caught_of_unwanted hwants

/-- The item is wanted and next in line. -/
def Due (item : StreamItemView) (s : Hub) : Prop :=
  s.log.filter s.projection.wants = s.queued ++ [item]

theorem stable_due (item : StreamItemView) : Stable Inv PubRely (Due item) := by
  intro s s' _ _ h hrely
  unfold Due
  rw [hrely.log, hrely.wants, hrely.queued]
  exact h

theorem stable_wants_gone (item : StreamItemView) :
    Stable Inv PubRely fun s => s.projection.wants item → Gone s := by
  intro s s' _ _ h hrely hwants
  rw [hrely.wants] at hwants
  exact (h hwants).rely hrely

/-- The item was published, and nothing is missing before it. -/
def Fresh (item : StreamItemView) (s : Hub) : Prop :=
  ∃ old, s.log = old ++ [item] ∧ s.queued = old.filter s.projection.wants

theorem stable_fresh (item : StreamItemView) : Stable Inv PubRely (Fresh item) := by
  rintro s s' _ _ ⟨old, hlog, hqd⟩ hrely
  exact ⟨old, by rw [hrely.log, hlog], by rw [hrely.queued, hrely.wants, hqd]⟩

/-- **An item is queued, or the slot is closed.** -/
theorem meets_enqueue (item : StreamItemView) :
    (enqueue item).Meets Inv PubRely PubStep (fun s => Count 1 s ∧ Base s ∧ Owes item s)
      (fun _ s => Count 1 s ∧ Base s ∧ Caught s) := by
  have hrefl : ∀ {P : Hub → Prop} (s : Hub), Inv s → P s → PubStep s s :=
    fun s hJ _ => refl hJ
  have hbase : Stable Inv PubRely fun s => Count 1 s ∧ Base s := (stable_count 1).and stable_base
  -- the terminal cause
  refine meets_load (A := fun cause s => (Count 1 s ∧ Base s) ∧ Owes item s
      ∧ (cause ≠ .opened → Caught s)
      ∧ (cause = .opened → Fresh item s ∨ Gone s)) hrefl
    (fun cause => hbase.and ((stable_owes item).and (stable_caught.imp.and (Stable.imp ?_)))) ?_
    fun cause => ?_
  · intro s s' hJ hJ' h hrely
    exact h.imp (fun hfresh => stable_fresh item s s' hJ hJ' hfresh hrely)
      fun hgone => hgone.rely hrely
  · rintro s _ ⟨hcnt, hbase, howes⟩
    refine ⟨⟨hcnt, hbase⟩, howes, fun hcause => ?_, fun hopn => ?_⟩
    · -- a slot that does not want the item need not be reserved
      cases hwants : s.projection.wants item with
      | true =>
        have hstrt := (hbase.registry.started hwants).1
        exact .inr (.inl ⟨le_trans (by decide) hstrt, hcause⟩)
      | false => exact howes.caught_of_unwanted hwants
    · obtain ⟨old, hlog, hqd | hterm | hgone⟩ := howes
      · exact .inl ⟨old, hlog, hqd⟩
      · exact absurd hopn hterm.2
      · exact .inr hgone
  refine meets_ite (fun hcause => meets_done fun s _ h => ?_) fun hcause => ?_
  · exact ⟨h.1.1, h.1.2, h.2.2.1 hcause⟩
  -- the state
  refine meets_load (A := fun state s => (Count 1 s ∧ Base s) ∧ Owes item s
      ∧ (state ≠ .published → s.projection.wants item = true → Gone s)
      ∧ (state = .published → Fresh item s)) hrefl
    (fun state => hbase.and ((stable_owes item).and ((stable_wants_gone item).imp.and
      (stable_fresh item).imp))) ?_ fun state => ?_
  · rintro s _ ⟨hbase, howes, -, hopn⟩
    refine ⟨hbase, howes, fun hst hwants => ?_, fun hst => ?_⟩
    · exact gone_of_started (hbase.2.registry.started hwants).1 hst
    · refine (hopn (not_not.mp hcause)).resolve_right fun hgone => ?_
      have hrank : ¬ rank .removing ≤ rank .published := by decide
      exact hrank (hst ▸ hgone)
  refine meets_ite (fun hst => meets_done fun s _ h => ?_) fun hst => ?_
  · exact ⟨h.1.1, h.1.2, caught_of_owes h.2.1 (h.2.2.1 hst)⟩
  -- the projection, which is the receive thread's own
  refine meets_load (A := fun projection s => (Count 1 s ∧ Base s) ∧ Fresh item s
      ∧ projection.wants = s.projection.wants) hrefl ?_ ?_ fun projection => ?_
  · intro projection s s' hJ hJ' h hrely
    exact ⟨hbase s s' hJ hJ' h.1 hrely, stable_fresh item s s' hJ hJ' h.2.1 hrely,
      by rw [hrely.wants]; exact h.2.2⟩
  · exact fun s _ h => ⟨h.1, h.2.2.2 (not_not.mp hst), rfl⟩
  refine meets_ite (fun hwants => meets_done fun s _ h => ?_) fun hwants => ?_
  · obtain ⟨hbase, ⟨old, hlog, hqd⟩, hsame⟩ := h
    rw [hsame] at hwants
    exact ⟨hbase.1, hbase.2, Owes.caught_of_unwanted ⟨old, hlog, .inl hqd⟩ hwants⟩
  have hdue : Stable Inv PubRely fun s => (Count 1 s ∧ Base s) ∧ Due item s :=
    hbase.and (stable_due item)
  have hprod : ∀ p, Stable Inv PubRely fun s => s.descriptorProducer = p :=
    fun p s s' _ _ h hrely => hrely.descriptorProducer.trans h
  have hcons : ∀ c, Stable Inv PubRely fun s => c ≤ s.descriptorConsumer :=
    fun c s s' _ _ h hrely => le_trans h hrely.descriptorConsumer_le
  have hbyte : ∀ b, Stable Inv PubRely fun s => s.byteProducer = b :=
    fun b s s' _ _ h hrely => hrely.byteProducer.trans h
  have hfreed : ∀ bc, Stable Inv PubRely fun s => bc ≤ s.byteConsumer :=
    fun bc s s' _ _ h hrely => le_trans h hrely.byteConsumer_le
  -- the tickets
  refine meets_load (A := fun p s => ((Count 1 s ∧ Base s) ∧ Due item s)
      ∧ s.descriptorProducer = p) hrefl (fun p => hdue.and (hprod p)) ?_ fun p => ?_
  · rintro s _ ⟨hbase, ⟨old, hlog, hqd⟩, hsame⟩
    refine ⟨⟨hbase, ?_⟩, rfl⟩
    rw [hsame] at hwants
    unfold Due
    rw [hlog, filter_snoc, if_pos (by simpa using hwants), hqd]
  have hp := hdue.and (hprod p)
  refine meets_note (fun _ => refl) hp hcons (fun _ => le_rfl) fun c => ?_
  have hc := hp.and (hcons c)
  refine meets_note (fun _ => refl) hc hbyte (fun _ => rfl) fun b => ?_
  refine meets_note (fun _ => refl) (hc.and (hbyte b)) hfreed (fun _ => le_rfl)
    fun bc => ?_
  -- every limit closes the slot
  have hover : ∀ {P : Hub → Prop} cause items bytes,
      (∀ s, P s → (Count 1 s ∧ Base s) ∧ Due item s) →
      (overflow cause items bytes item.size).Meets Inv PubRely PubStep P
        (fun _ s => Count 1 s ∧ Base s ∧ Caught s) := by
    intro P cause items bytes hP
    refine ((meets_overflow (hbase.and stable_live) ?_ (fun s h => h.2) cause items bytes
      item.size).mono fun s _ h => ⟨(hP s h).1, ?_⟩).post
      fun _ s _ h => ⟨h.1.1.1, h.1.1.2, .inr h.2⟩
    · rintro s s' ⟨⟨hcnt, hbase⟩, hlive⟩ hstep
      refine ⟨⟨?_, hbase.claim hstep⟩, ?_⟩
      all_goals obtain ⟨activation, terminal, payload, rfl, -⟩ := hstep
      · exact hcnt
      · exact hlive
    · exact le_trans (by decide) ((hP s h).1.2.registry.started_of_due (hP s h).2)
  refine meets_ite (fun _ => hover _ _ _ fun _ h => h.1.1.1.1) fun _ => ?_
  refine meets_ite (fun _ => hover _ _ _ fun _ h => h.1.1.1.1) fun hit => ?_
  refine meets_ite (fun _ => hover _ _ _ fun _ h => h.1.1.1.1) fun hitems => ?_
  refine meets_ite (fun _ => hover _ _ _ fun _ h => h.1.1.1.1) fun hbytes => ?_
  have hsize : item.size ≤ kStreamQueueBytes := by
    have hlimits : kStreamQueueItemBytes ≤ kStreamQueueBytes := by decide
    omega
  refine (meets_writeItem hsize).mono fun s hJ h => ?_
  obtain ⟨⟨⟨⟨⟨⟨hcnt, hbase⟩, hdue⟩, hp⟩, hc⟩, hb⟩, hbc⟩ := h
  have hroom := hJ.byteRoom
  refine ⟨⟨hcnt, hbase.registry, hdue, hp, hb, hb.symm.trans hbase.byte, by omega, by omega⟩, ?_⟩
  rw [take_zero]
  exact Ring.holds_nil _ _

/-! ## §4. `publish`. -/

/-- **The guard of the receive thread.** -/
theorem meets_guarded {scan : Act Hub Unit} {P Q : Hub → Prop} (hP : Stable Inv PubRely P)
    (hQ : Stable Inv PubRely Q) (hPcount : ∀ s n, P s → P { s with publisherCount := n })
    (hQcount : ∀ s n, Q s → Q { s with publisherCount := n })
    (h : scan.Meets Inv PubRely PubStep (fun s => Count 1 s ∧ P s) fun _ s => Count 1 s ∧ Q s) :
    (guarded scan).Meets Inv PubRely PubStep (fun s => Count 0 s ∧ P s)
      fun _ s => Count 0 s ∧ Q s := by
  have hcnt : ∀ (s : Hub) (n : Nat), Inv s → PubStep s { s with publisherCount := n } :=
    fun s n hJ => pubStep_of_same hJ le_rfl
  refine meets_exchange (A := fun previous s => previous = 0 ∧ Count 1 s ∧ P s)
    (fun s hJ _ => hcnt s _ hJ) (fun _ => (stable_const _).and ((stable_count 1).and hP)) ?_
    fun previous => meets_fact fun hprev => ?_
  · intro s _ hs
    refine ⟨hs.1, ?_, hPcount s _ hs.2⟩
    show s.publisherCount + 1 = 1
    rw [show s.publisherCount = 0 from hs.1]
  refine meets_ite (fun hne => absurd hprev hne) fun _ => meets_bind h fun _ => ?_
  refine meets_last (fun s hJ _ => hcnt s _ hJ) (fun _ => (stable_count 0).and hQ) ?_
  intro s _ hs
  refine ⟨?_, hQcount s _ hs.2⟩
  show s.publisherCount - 1 = 0
  rw [show s.publisherCount = 1 from hs.1]

/-- **The receive thread between two calls.** -/
def Waiting (s : Hub) : Prop := Count 0 s ∧ Base s ∧ Caught s

theorem stable_waiting : Stable Inv PubRely Waiting :=
  (stable_count 0).and (stable_base.and stable_caught)

theorem Base.count (h : Base s) (n : Nat) : Base { s with publisherCount := n } :=
  ⟨h.byte, h.registry⟩

/-- An item may carry this sequence. -/
def Given (sequence : Nat) (s : Hub) : Prop := s.reception.Covers sequence

theorem stable_given (sequence : Nat) : Stable Inv PubRely (Given sequence) := by
  intro s s' _ _ h hrely
  unfold Given
  rw [hrely.reception]
  exact h

theorem meets_publish (item : StreamItemView) :
    (publish item).Meets Inv PubRely PubStep (fun s => Waiting s ∧ Given item.receiveSequence s)
      fun _ => Waiting := by
  refine meets_store (A := fun s => Count 0 s ∧ Base s ∧ Owes item s) ?_
    ((stable_count 0).and (stable_base.and (stable_owes item))) ?_ ?_
  · intro s hJ h
    have hinOrder : s.queued <+: (s.log ++ [item]).filter s.projection.wants := by
      rw [filter_append]
      exact hJ.inOrder.trans (prefix_append _ _)
    have hnumbered : Numbered { s with log := s.log ++ [item] } :=
      forall_mem_append.mpr ⟨hJ.numbered, forall_mem_singleton.mpr h.2⟩
    exact { PubStep.refl hJ with
      inv := { hJ with inOrder := hinOrder, numbered := hnumbered }, queued := .inl rfl }
  · rintro s _ ⟨⟨hcnt, hbase, hcgt⟩, -⟩
    exact ⟨hcnt, ⟨hbase.byte, hbase.registry⟩, s.log, rfl, hcgt⟩
  refine meets_guarded (stable_base.and (stable_owes item)) (stable_base.and stable_caught)
    (fun s n h => ⟨h.1.count n, h.2⟩) (fun s n h => ⟨h.1.count n, h.2⟩) ?_
  refine meets_load (A := fun pointer s => (Count 1 s ∧ Base s ∧ Owes item s)
      ∧ (pointer ≠ .slot → s.projection.wants item = true → Gone s))
    (fun s hJ _ => refl hJ) (fun pointer => ((stable_count 1).and (stable_base.and
      (stable_owes item))).and (stable_wants_gone item).imp) ?_ fun pointer => ?_
  · intro s _ h
    refine ⟨h, fun hpointer hwants => ?_⟩
    exact (h.2.1.registry.started hwants).2.resolve_left hpointer
  refine meets_ite (fun _ => (meets_enqueue item).mono fun s _ h => h.1) fun hpointer => ?_
  exact meets_done fun s _ h => ⟨h.1.1, h.1.2.1, caught_of_owes h.1.2.2 (h.2 hpointer)⟩

/-- **A batch of items.** -/
theorem meets_publishAll : ∀ items : List StreamItemView,
    (publishAll items).Meets Inv PubRely PubStep
      (fun s => Waiting s ∧ ∀ item ∈ items, Given item.receiveSequence s) fun _ => Waiting := by
  intro items
  induction items with
  | nil => exact meets_done fun s _ h => h.1
  | cons item rest ih =>
    -- `publish` leaves the receive thread's own state, so the next item finds it too
    have hpublish := (meets_publish item).keep
      (F := fun s => ∀ item ∈ rest, Given item.receiveSequence s)
      (fun s s' hJ hJ' h hrely item hit => stable_given _ s s' hJ hJ' (h item hit) hrely)
      fun s s' _ h hstep => by unfold Given; rw [hstep.reception]; exact h
    refine meets_bind (hpublish.mono fun s _ h => ?_) fun _ => ih
    obtain ⟨hfirst, hrest⟩ := forall_mem_cons.mp h.2
    exact ⟨⟨h.1, hfirst⟩, hrest⟩

end TgCli.Ingress
