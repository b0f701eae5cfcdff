/-
  TgCli.Lib.Arena — A COMPACTED BLOCK ARENA

  Blocks of one byte memory, each with an offset and a size, threaded on an
  intrusive list; a block of size zero is not linked.  `compact` walks the
  list and moves every block down to the end of the one before it.

  `Valid a order` is the arena's invariant: the list spells out `order`, the
  blocks lie one behind the other from address zero in that order, and `used`
  is their total size.

  Main results:
    * `compactList_spread` — compaction of blocks that lie in list order keeps
      every block's bytes;
    * `compact_moved` — what compaction does when one block was moved to the
      end of the list first: every OTHER block keeps its bytes, and the moved
      block reads as its old bytes overlaid with the blocks behind it.
-/
import Mathlib.Algebra.Order.Ring.Nat
import TgCli.Lib.Memory

namespace TgCli.Lib

open List Mem Linked Nat

/-- A memory with blocks named by keys. -/
structure Arena (K : Type) where
  mem : Mem
  offset : K → Nat
  size : K → Nat
  links : Linked K
  used : Nat

namespace Arena

variable {K : Type}

/-- The bytes of a block. -/
def content (a : Arena K) (k : K) : List UInt8 := a.mem.load (a.offset k) (a.size k)

/-- The total size of some blocks. -/
def total (a : Arena K) (ks : List K) : Nat := (ks.map a.size).sum

@[simp] theorem total_nil (a : Arena K) : a.total [] = 0 := rfl

@[simp] theorem total_cons (a : Arena K) (k : K) (ks : List K) :
    a.total (k :: ks) = a.size k + a.total ks := rfl

theorem total_congr {a b : Arena K} (h : b.size = a.size) (ks : List K) :
    b.total ks = a.total ks := by
  unfold total
  rw [h]

theorem total_append (a : Arena K) (xs ys : List K) :
    a.total (xs ++ ys) = a.total xs + a.total ys := by
  simp [total]

@[simp] theorem content_length (a : Arena K) (k : K) : (a.content k).length = a.size k :=
  load_length _ _ _

variable {k j : K} {a b : Arena K} {order xs ys : List K}

/-! ## §1. Blocks that lie in list order. -/

/-- The blocks lie one behind the other from `start`. -/
def Packed (a : Arena K) : List K → Nat → Prop
  | [], _ => True
  | k :: ks, start => a.offset k = start ∧ Packed a ks (start + a.size k)

/-- The blocks lie in list order from `dest` on, perhaps with gaps. -/
def Spread (a : Arena K) : List K → Nat → Prop
  | [], _ => True
  | k :: ks, dest => dest ≤ a.offset k ∧ Spread a ks (a.offset k + a.size k)

theorem Packed.append_iff (a : Arena K) (xs ys : List K) :
    ∀ start, Packed a (xs ++ ys) start ↔ Packed a xs start ∧ Packed a ys (start + a.total xs) := by
  induction xs with
  | nil => intro start; simp [Packed]
  | cons x xs ih =>
    intro start
    show _ ∧ Packed a (xs ++ ys) _ ↔ (_ ∧ _) ∧ _
    rw [ih, total_cons, ← add_assoc, and_assoc]

theorem Spread.of_le {ks : List K} {d d' : Nat} (h : Spread a ks d) (hle : d' ≤ d) :
    Spread a ks d' := by
  cases ks with
  | nil => trivial
  | cons k ks => exact ⟨hle.trans h.1, h.2⟩

theorem Spread.congr {a' : Arena K} (ks : List K) :
    ∀ d, (∀ k ∈ ks, a'.offset k = a.offset k) → (∀ k ∈ ks, a'.size k = a.size k) →
      Spread a ks d → Spread a' ks d := by
  induction ks with
  | nil => intro d _ _ _; trivial
  | cons k ks ih =>
    intro d ho hs h
    refine ⟨by rw [ho k (by simp)]; exact h.1, ?_⟩
    rw [ho k (by simp), hs k (by simp)]
    exact ih _ (fun j hj => ho j (by simp [hj])) (fun j hj => hs j (by simp [hj])) h.2

theorem Spread.le_offset (ks : List K) : ∀ d, Spread a ks d → ∀ k ∈ ks, d ≤ a.offset k := by
  induction ks with
  | nil => intro d _ k hk; cases hk
  | cons x ks ih =>
    intro d h k hk
    rcases mem_cons.mp hk with rfl | hk
    · exact h.1
    · have := ih _ h.2 k hk
      have := h.1
      omega

/-- Layout depends on offsets and sizes only. -/
theorem Packed.congr {a' : Arena K} (ks : List K) :
    ∀ start, (∀ k ∈ ks, a'.offset k = a.offset k) → (∀ k ∈ ks, a'.size k = a.size k) →
      Packed a ks start → Packed a' ks start := by
  induction ks with
  | nil => intro start _ _ _; trivial
  | cons k ks ih =>
    intro start ho hs hp
    refine ⟨(ho k (by simp)).trans hp.1, ?_⟩
    rw [hs k (by simp)]
    exact ih _ (fun j hj => ho j (by simp [hj])) (fun j hj => hs j (by simp [hj])) hp.2

/-- The memory of packed blocks is their contents, one behind the other. -/
theorem Packed.load_eq (ks : List K) :
    ∀ start, Packed a ks start → a.mem.load start (a.total ks) = ks.flatMap a.content := by
  induction ks with
  | nil => intro start _; rfl
  | cons k ks ih =>
    intro start hp
    rw [total_cons, load_add, ih _ hp.2, flatMap_cons]
    unfold content
    rw [hp.1]

/-- A block of a packed run ends inside the run. -/
theorem Packed.end_le (ks : List K) : ∀ start, Packed a ks start → ∀ k ∈ ks,
      start ≤ a.offset k ∧ a.offset k + a.size k ≤ start + a.total ks := by
  induction ks with
  | nil => intro start _ k hk; cases hk
  | cons x ks ih =>
    intro start hp k hk
    rw [total_cons]
    rcases mem_cons.mp hk with rfl | hk
    · rw [hp.1]
      omega
    · have := ih _ hp.2 k hk
      omega

theorem Packed.spread (ks : List K) : ∀ d, Packed a ks d → Spread a ks d := by
  induction ks with
  | nil => intro d _; trivial
  | cons k ks ih =>
    intro d h
    have hk : a.offset k = d := h.1
    exact ⟨hk.ge, by rw [hk]; exact ih _ h.2⟩

open Spread

theorem Spread.remove (xs : List K) : ∀ d, Spread a (xs ++ k :: ys) d → Spread a (xs ++ ys) d := by
  induction xs with
  | nil =>
    intro d h
    exact of_le h.2 (h.1.trans (le_add_right _ _))
  | cons x xs ih =>
    intro d h
    exact ⟨h.1, ih _ h.2⟩

/-- Blocks in list order do not overlap. -/
theorem Spread.disjoint (ks : List K) : ∀ d, Spread a ks d → ∀ j ∈ ks, ∀ k ∈ ks, j ≠ k →
      a.offset j + a.size j ≤ a.offset k ∨ a.offset k + a.size k ≤ a.offset j := by
  induction ks with
  | nil => intro d _ j hj; cases hj
  | cons x ks ih =>
    intro d h j hj k hk hjk
    rcases mem_cons.mp hj with rfl | hj'
    · rcases mem_cons.mp hk with rfl | hk'
      · exact absurd rfl hjk
      · exact Or.inl (le_offset ks _ h.2 k hk')
    · rcases mem_cons.mp hk with rfl | hk'
      · exact Or.inr (le_offset ks _ h.2 j hj')
      · exact ih _ h.2 j hj' k hk' hjk

/-! ## §2. The invariant. -/

/-- An empty block has no bytes. -/
theorem content_of_size (ha : a.size k = 0) (hb : b.size k = 0) : a.content k = b.content k := by
  unfold content
  rw [ha, hb]
  rfl

/-- **The arena's invariant.** -/
structure Valid (a : Arena K) (order : List K) : Prop where
  represents : a.links.Represents order
  packed : Packed a order 0
  used : a.used = a.total order
  empty : ∀ k, k ∉ order → a.size k = 0
  nonempty : ∀ k ∈ order, a.size k ≠ 0

open Packed

theorem Valid.linked_iff (h : Valid a order) (k : K) :
    (a.links.link k).linked = true ↔ a.size k ≠ 0 := by
  rw [h.represents.linked k]
  refine ⟨h.nonempty k, ?_⟩
  intro hk
  by_contra hmem
  exact hk (h.empty k hmem)

/-- An arena without blocks. -/
def fresh (mem : Mem) : Arena K :=
  { mem := mem
    offset := fun _ => 0
    size := fun _ => 0
    links := { link := fun _ => { previous := none, next := none, linked := false }
               head := none
               tail := none }
    used := 0 }

theorem fresh_valid (mem : Mem) : Valid (fresh mem : Arena K) [] :=
  ⟨represents_nil, trivial, rfl, fun _ _ => rfl, fun k hk => absurd hk (by simp)⟩

/-- The invariant with block `k` taken out: its offset and size mean nothing
until it is given a new place. -/
structure Detached (a : Arena K) (order : List K) (k : K) : Prop where
  out : k ∉ order
  represents : a.links.Represents order
  packed : Packed a order 0
  used : a.used = a.total order
  empty : ∀ j, j ≠ k → j ∉ order → a.size j = 0
  nonempty : ∀ j ∈ order, a.size j ≠ 0

theorem Valid.detached (h : Valid a order) (hk : k ∉ order) : Detached a order k :=
  ⟨hk, h.represents, h.packed, h.used, fun j _ => h.empty j, h.nonempty⟩

/-- The blocks behind `k` fill the arena from the end of `k`. -/
theorem Valid.load_behind (h : Valid a (xs ++ k :: ys)) :
    a.mem.load (a.offset k + a.size k) (a.used - (a.offset k + a.size k))
      = ys.flatMap a.content := by
  obtain ⟨-, hpk, hpy⟩ := (append_iff a xs (k :: ys) 0).mp h.packed
  have hlen : a.used - (a.offset k + a.size k) = a.total ys := by
    rw [h.used, hpk, total_append, total_cons]
    omega
  rw [hlen, hpk]
  exact load_eq ys _ hpy

/-- Blocks in list order, perhaps with gaps between them. -/
structure Sparse (a : Arena K) (order : List K) : Prop where
  represents : a.links.Represents order
  spread : Spread a order 0
  empty : ∀ k, k ∉ order → a.size k = 0
  nonempty : ∀ k ∈ order, a.size k ≠ 0

theorem Valid.sparse (h : Valid a order) : Sparse a order :=
  ⟨h.represents, h.packed.spread, h.empty, h.nonempty⟩

/-! ## §3. Writing into a block. -/

/-- `memcpy` into block `k`, `pos` bytes from its start. -/
def write (a : Arena K) (k : K) (pos : Nat) (bytes : List UInt8) : Arena K :=
  { a with mem := a.mem.store (a.offset k + pos) bytes }

/-- `memmove` inside block `k`. -/
def moveWithin (a : Arena K) (k : K) (dst src n : Nat) : Arena K :=
  { a with mem := a.mem.move (a.offset k + dst) (a.offset k + src) n }

/-- The invariant does not look at the bytes. -/
theorem Valid.with_mem (h : Valid a order) (m : Mem) : Valid { a with mem := m } order :=
  ⟨h.represents, congr (a := a) order 0 (fun _ _ => rfl) (fun _ _ => rfl) h.packed, h.used,
    h.empty, h.nonempty⟩

/-- A memory that changed inside block `k` only. -/
theorem Valid.content_frame (h : Valid a order) (hjk : j ≠ k)
    (hm : ∀ i, i < a.offset k ∨ a.offset k + a.size k ≤ i → m i = a.mem i) :
    ({ a with mem := m } : Arena K).content j = a.content j := by
  show m.load (a.offset j) (a.size j) = a.mem.load (a.offset j) (a.size j)
  refine load_congr ?_
  intro i hi
  apply hm
  have hj : j ∈ order := by
    by_contra hj
    rw [h.empty j hj] at hi
    omega
  by_cases hk : k ∈ order
  · have := disjoint order 0 h.packed.spread j hj k hk hjk
    omega
  -- an unlinked block has no inside
  have := h.empty k hk
  omega

/-- Bytes of block `k`, `pos` bytes from its start. -/
def slice (a : Arena K) (k : K) (pos n : Nat) : List UInt8 := a.mem.load (a.offset k + pos) n

theorem slice_content (a : Arena K) (k : K) (h : pos + n ≤ a.size k) :
    a.slice k pos n = ((a.content k).drop pos).take n :=
  (load_slice a.mem (a.offset k) (a.size k) pos n h).symm

/-- `b` is `a` with other bytes in block `k`. -/
structure Wrote (a b : Arena K) (k : K) : Prop where
  same : b = { a with mem := b.mem }
  frame : ∀ i, i < a.offset k ∨ a.offset k + a.size k ≤ i → b.mem i = a.mem i

theorem Wrote.refl (a : Arena K) (k : K) : Wrote a a k := ⟨rfl, fun _ _ => rfl⟩

theorem Wrote.trans (h1 : Wrote a b k) (h2 : Wrote b c k) : Wrote a c k := by
  have hb := h1.same
  refine ⟨?_, ?_⟩
  · rw [h2.same, hb]
  · intro i hi
    rw [h2.frame i (by rw [hb]; exact hi), h1.frame i hi]

theorem Wrote.size (h : Wrote a b k) : b.size = a.size := by
  rw [h.same]

theorem Wrote.used (h : Wrote a b k) : b.used = a.used := by
  rw [h.same]

theorem Wrote.valid (h : Wrote a b k) (hv : Valid a order) : Valid b order := by
  rw [h.same]
  exact hv.with_mem _

theorem Wrote.content (h : Wrote a b k) (hv : Valid a order)
    (hjk : j ≠ k) : b.content j = a.content j := by
  rw [h.same]
  exact hv.content_frame hjk h.frame

section Write

variable (a : Arena K) (k : K)

theorem wrote_write (pos : Nat) (bytes : List UInt8) (h : pos + bytes.length ≤ a.size k) :
    Wrote a (a.write k pos bytes) k := by
  refine ⟨rfl, ?_⟩
  intro i hi
  show (if _ then _ else _) = _
  rw [if_neg (by omega)]

theorem wrote_moveWithin (dst src n : Nat) (h : dst + n ≤ a.size k) :
    Wrote a (a.moveWithin k dst src n) k := by
  refine ⟨rfl, ?_⟩
  intro i hi
  show (if _ then _ else _) = _
  rw [if_neg (by omega)]

@[simp] theorem slice_write_self (pos : Nat) (bytes : List UInt8) :
    (a.write k pos bytes).slice k pos bytes.length = bytes :=
  load_store _ _ _

theorem slice_write_of_disjoint (pos : Nat) (bytes : List UInt8)
    (h : p + n ≤ pos ∨ pos + bytes.length ≤ p) :
    (a.write k pos bytes).slice k p n = a.slice k p n := by
  show (a.mem.store (a.offset k + pos) bytes).load (a.offset k + p) n = _
  exact load_store_of_disjoint _ _ _ _ _ (by omega)

theorem slice_moveWithin (dst src n : Nat) :
    (a.moveWithin k dst src n).slice k dst n = a.slice k src n :=
  load_move _ _ _ _

end Write

variable [DecidableEq K] {fuel : Nat}

/-! ## §4. Compaction. -/

/-- Move block `k` down to address `dest`. -/
def place (a : Arena K) (k : K) (dest : Nat) : Arena K :=
  if a.offset k ≠ dest then
    { a with
      mem := a.mem.move dest (a.offset k) (a.size k)
      offset := fun j => if j = k then dest else a.offset j }
  else a

/-- The walk of `compact` along the `next` pointers. -/
def compactLoop : Nat → Option K → Nat → Arena K → Arena K
  | 0, _, _, a => a
  | _ + 1, none, dest, a => { a with used := dest }
  | fuel + 1, some k, dest, a =>
    compactLoop fuel (a.links.link k).next (dest + a.size k) (a.place k dest)

/-- Move every linked block down to the end of the one before it. -/
def compact (fuel : Nat) (a : Arena K) : Arena K := compactLoop fuel a.links.head 0 a

/-- Link block `k` at the end; an empty block stays unlinked. -/
def append (a : Arena K) (k : K) : Arena K :=
  if a.size k = 0 then a else { a with links := a.links.append k }

/-- Take block `k` off the list. -/
def unlink (a : Arena K) (k : K) : Arena K := { a with links := a.links.unlink k }

/-- Place the blocks `ks` one behind the other from `dest`. -/
def compactList (a : Arena K) : List K → Nat → Arena K
  | [], _ => a
  | k :: ks, dest => compactList (a.place k dest) ks (dest + a.size k)

theorem place_offset_other (a : Arena K) (dest : Nat) (h : j ≠ k) :
    (a.place k dest).offset j = a.offset j := by
  unfold place
  split
  · simp [h]
  · rfl

section Place

variable (a : Arena K) (k : K) (dest : Nat)

@[simp] theorem place_links : (a.place k dest).links = a.links := by
  unfold place; split <;> rfl

@[simp] theorem place_size : (a.place k dest).size = a.size := by
  unfold place; split <;> rfl

theorem place_offset_self : (a.place k dest).offset k = dest := by
  unfold place
  split
  · simp
  next h => simpa using h

theorem place_content_self : (a.place k dest).content k = a.content k := by
  unfold content
  rw [place_offset_self, place_size]
  unfold place
  split
  · exact load_move _ _ _ _
  next h => rw [show a.offset k = dest by simpa using h]

/-- Placing a block writes only where it goes. -/
theorem place_mem (h : i < dest ∨ dest + a.size k ≤ i) : (a.place k dest).mem i = a.mem i := by
  unfold place
  split
  · show (if _ then _ else _) = _
    rw [if_neg (by omega)]
  · rfl

end Place

@[simp] theorem compactList_links (ks : List K) :
    ∀ (a : Arena K) (dest : Nat), (a.compactList ks dest).links = a.links := by
  induction ks with
  | nil => intro a dest; rfl
  | cons k ks ih => intro a dest; rw [compactList, ih, place_links]

@[simp] theorem compactList_size (ks : List K) :
    ∀ (a : Arena K) (dest : Nat), (a.compactList ks dest).size = a.size := by
  induction ks with
  | nil => intro a dest; rfl
  | cons k ks ih => intro a dest; rw [compactList, ih, place_size]

theorem compactList_append (xs ys : List K) : ∀ (a : Arena K) (dest : Nat),
      a.compactList (xs ++ ys) dest
        = (a.compactList xs dest).compactList ys (dest + a.total xs) := by
  induction xs with
  | nil => intro a dest; rfl
  | cons x xs ih =>
    intro a dest
    show (a.place x dest).compactList (xs ++ ys) (dest + a.size x) = _
    rw [ih, total_congr (place_size a x dest), total_cons, ← add_assoc]
    rfl

/-- **The pointer walk is the list walk.** -/
theorem compactLoop_eq (fuel : Nat) : ∀ (a : Arena K) (order xs ys : List K) (dest : Nat),
      a.links.Represents order → order = xs ++ ys → ys.length < fuel →
      compactLoop fuel ys.head? dest a
        = { a.compactList ys dest with used := dest + a.total ys } := by
  induction fuel with
  | zero => intro a order xs ys dest _ _ h; omega
  | succ fuel ih =>
    intro a order xs ys dest hrep hsplit hfuel
    cases ys with
    | nil => rfl
    | cons k ks =>
      obtain ⟨-, hnext⟩ := hrep.links xs k ks hsplit
      show compactLoop fuel (a.links.link k).next (dest + a.size k) (a.place k dest) = _
      rw [hnext, ih (a.place k dest) order (xs ++ [k]) ks (dest + a.size k)
        (by rw [place_links]; exact hrep) (by rw [hsplit]; simp)
        (by simpa using hfuel)]
      rw [total_congr (place_size a k dest), total_cons, ← add_assoc]
      rfl

theorem compact_eq (hrep : a.links.Represents order) (hfuel : order.length < fuel) :
    a.compact fuel = { a.compactList order 0 with used := a.total order } := by
  show compactLoop fuel a.links.head 0 a = _
  rw [hrep.head, compactLoop_eq fuel a order [] order 0 hrep rfl hfuel, zero_add]

/-- **Compaction of blocks in list order** keeps every block's bytes. -/
theorem compactList_spread (ks : List K) :
    ∀ (a : Arena K) (dest : Nat), Spread a ks dest → ks.Nodup →
      Packed (a.compactList ks dest) ks dest
      ∧ (∀ k ∈ ks, (a.compactList ks dest).content k = a.content k)
      ∧ (∀ k, k ∉ ks → (a.compactList ks dest).offset k = a.offset k)
      ∧ (∀ i, i < dest ∨ dest + a.total ks ≤ i → (a.compactList ks dest).mem i = a.mem i) := by
  induction ks with
  | nil =>
    intro a dest _ _
    exact ⟨trivial, fun k hk => absurd hk (by simp), fun _ _ => rfl, fun _ _ => rfl⟩
  | cons k ks ih =>
    intro a dest hs hnd
    obtain ⟨hk, hnd'⟩ := nodup_cons.mp hnd
    have hne : ∀ j ∈ ks, j ≠ k := fun j hj hjk => hk (hjk ▸ hj)
    -- the remaining blocks lie behind the place `k` went to
    have hs' : Spread (a.place k dest) ks (dest + a.size k) := by
      refine congr ks _ (fun j hj => a.place_offset_other dest (hne j hj))
        (fun j _ => by rw [place_size]) (of_le hs.2 ?_)
      have := hs.1
      omega
    obtain ⟨hpacked, hcontent, hoffset, hmem⟩ := ih (a.place k dest) (dest + a.size k) hs' hnd'
    rw [total_congr (place_size a k dest)] at hmem
    have hrun : a.compactList (k :: ks) dest
        = (a.place k dest).compactList ks (dest + a.size k) := rfl
    rw [hrun]
    refine ⟨⟨?_, ?_⟩, ?_, ?_, ?_⟩
    · rw [hoffset k hk, place_offset_self]
    · rw [compactList_size, place_size]
      exact hpacked
    · intro j hj
      rcases mem_cons.mp hj with rfl | hj
      · -- the block just placed is not touched by the later moves
        rw [← a.place_content_self j dest]
        unfold content
        rw [hoffset j hk, compactList_size, place_size, place_offset_self]
        refine load_congr ?_
        intro i hi
        exact hmem _ (Or.inl (by omega))
      · rw [hcontent j hj]
        unfold content
        rw [a.place_offset_other dest (hne j hj), place_size]
        refine load_congr ?_
        intro i hi
        refine a.place_mem k dest (Or.inr ?_)
        have := le_offset ks _ hs.2 j hj
        have := hs.1
        omega
    · intro j hj
      obtain ⟨hjk, hjks⟩ : j ≠ k ∧ j ∉ ks := by simpa using hj
      rw [hoffset j hjks, a.place_offset_other dest hjk]
    · intro i hi
      rw [total_cons] at hi
      rw [hmem i (by omega), a.place_mem k dest (by omega)]

/-- **Compaction closes the gaps** and keeps the bytes of every block. -/
theorem compact_spread (hrep : a.links.Represents order) (hspread : Spread a order 0)
    (hfuel : order.length < fuel) :
    (a.compact fuel).links = a.links ∧ (a.compact fuel).size = a.size
      ∧ Packed (a.compact fuel) order 0 ∧ (a.compact fuel).used = a.total order
      ∧ ∀ k ∈ order, (a.compact fuel).content k = a.content k := by
  obtain ⟨hpacked, hcontent, -, -⟩ := compactList_spread order a 0 hspread hrep.nodup
  rw [compact_eq hrep hfuel]
  refine ⟨compactList_links order a 0, compactList_size order a 0, ?_, rfl, hcontent⟩
  exact congr (a := a.compactList order 0) order 0 (fun _ _ => rfl) (fun _ _ => rfl) hpacked

/-- Set offset and size of a block that is not linked, and clear its
pointers. -/
def resize (a : Arena K) (k : K) (off n : Nat) : Arena K :=
  { a with
    offset := fun j => if j = k then off else a.offset j
    size := fun j => if j = k then n else a.size j
    links := a.links.setLink k fun _ => { previous := none, next := none, linked := false } }

/-- **Giving a detached block the end of the arena.** -/
theorem Detached.alloc (h : Detached a order k) (n : Nat) :
    Valid ({ a.resize k a.used n with used := a.used + n }.append k)
        (order ++ if n = 0 then [] else [k])
      ∧ ∀ j, j ≠ k → ({ a.resize k a.used n with used := a.used + n }.append k).content j
          = a.content j := by
  have hk := h.out
  set a1 : Arena K := { a.resize k a.used n with used := a.used + n } with ha1
  have hsize : ∀ j, a1.size j = if j = k then n else a.size j := fun _ => rfl
  have hoff : ∀ j, a1.offset j = if j = k then a.used else a.offset j := fun _ => rfl
  have hne : ∀ j ∈ order, j ≠ k := fun j hj hjk => hk (hjk ▸ hj)
  have htotal : a1.total order = a.total order := by
    unfold total
    rw [map_congr_left]
    intro j hj
    rw [hsize, if_neg (hne j hj)]
  have hpacked : Packed a1 order 0 :=
    congr order 0 (fun j hj => by rw [hoff, if_neg (hne j hj)])
      (fun j hj => by rw [hsize, if_neg (hne j hj)]) h.packed
  have hcontent : ∀ j, j ≠ k → a1.content j = a.content j := by
    intro j hj
    unfold content
    rw [hsize, hoff, if_neg hj, if_neg hj]
    rfl
  have hrep : a1.links.Represents order := represents_clear h.represents hk
  by_cases hn : n = 0
  · have happ : a1.append k = a1 := by
      unfold append
      rw [if_pos (by rw [hsize, if_pos rfl]; exact hn)]
    rw [happ, if_pos hn, append_nil]
    refine ⟨⟨hrep, hpacked, ?_, ?_, ?_⟩, hcontent⟩
    · rw [htotal, ← h.used, ha1, hn]
      rfl
    · intro j hj
      rw [hsize]
      split
      · exact hn
      next hjk => exact h.empty j hjk hj
    · intro j hj
      rw [hsize, if_neg (hne j hj)]
      exact h.nonempty j hj
  · have happ : a1.append k = { a1 with links := a1.links.append k } := by
      unfold append
      rw [if_neg (by rw [hsize, if_pos rfl]; exact hn)]
    rw [happ, if_neg hn]
    refine ⟨⟨represents_append hrep hk, ?_, ?_, ?_, ?_⟩, hcontent⟩
    · refine congr (a := a1) (order ++ [k]) 0 (fun _ _ => rfl) (fun _ _ => rfl)
        ((append_iff a1 order [k] 0).mpr ⟨hpacked, ?_, trivial⟩)
      rw [hoff, if_pos rfl, htotal, zero_add]
      exact h.used
    · show a.used + n = a1.total (order ++ [k])
      rw [total_append, htotal, ← h.used, total_cons, hsize, if_pos rfl]
      rfl
    · intro j hj
      obtain ⟨hjo, hjk⟩ : j ∉ order ∧ j ≠ k := by simpa using hj
      show a1.size j = 0
      rw [hsize, if_neg hjk]
      exact h.empty j hjk hjo
    · intro j hj
      show a1.size j ≠ 0
      rw [hsize]
      rcases mem_append.mp hj with hj | hj
      · rw [if_neg (hne j hj)]
        exact h.nonempty j hj
      · rw [if_pos (mem_singleton.mp hj)]
        exact hn

/-! ## §5. Compaction after a block was moved to the end of the list. -/

/-- **One block moved to the end, then compaction.**  The others keep their
bytes; the moved block reads as its old bytes overlaid with the blocks that
stood behind it, because those are moved onto it before it is moved itself. -/
theorem compact_moved (h : Valid a (xs ++ k :: ys)) (hfuel : (xs ++ k :: ys).length < fuel) :
    let a1 := ((a.unlink k).append k).compact fuel
    a1.links.Represents (xs ++ ys ++ [k])
      ∧ Packed a1 (xs ++ ys ++ [k]) 0
      ∧ a1.used = a.used
      ∧ a1.size = a.size
      ∧ (∀ j ∈ xs ++ ys, a1.content j = a.content j)
      ∧ a1.content k = overlay (ys.flatMap a.content) (a.content k) := by
  intro a1
  -- the list: `k` goes behind everything else
  have hsz : a.size k ≠ 0 := h.nonempty k (by simp)
  obtain ⟨hkxy, hndxy⟩ := nodup_cons.mp (nodup_middle.mp h.represents.nodup)
  set b : Arena K := (a.unlink k).append k with hb
  have hbeq : b = { a with links := (a.links.unlink k).append k } := by
    rw [hb]
    unfold append
    rw [if_neg (show (a.unlink k).size k ≠ 0 from hsz)]
    rfl
  have hrep : b.links.Represents (xs ++ ys ++ [k]) := by
    rw [hbeq]
    exact represents_append (represents_unlink h.represents) hkxy
  have hloop : a1 = { b.compactList (xs ++ ys ++ [k]) 0 with used := b.total (xs ++ ys ++ [k]) } :=
    compact_eq hrep
      (by simp only [length_append, length_cons, length_nil] at hfuel ⊢; omega)
  -- the layout before: `xs`, then `k`, then `ys`
  obtain ⟨-, hpk, -⟩ := (append_iff a xs (k :: ys) 0).mp h.packed
  rw [zero_add] at hpk
  have hmem : b.mem = a.mem := by rw [hbeq]
  have hoff : b.offset = a.offset := by rw [hbeq]
  have hsize : b.size = a.size := by rw [hbeq]
  have htot : ∀ l, b.total l = a.total l := total_congr hsize
  have hcont : b.content = a.content := by
    funext j
    unfold content
    rw [hmem, hoff, hsize]
  have hspread : Spread b (xs ++ ys) 0 :=
    congr _ 0 (fun j _ => by rw [hoff]) (fun j _ => by rw [hsize])
      (remove xs 0 h.packed.spread)
  obtain ⟨hp, hc, ho, hm⟩ := compactList_spread (xs ++ ys) b 0 hspread hndxy
  set d : Arena K := b.compactList (xs ++ ys) 0 with hd
  have hdsize : d.size = a.size := by rw [hd, compactList_size, hsize]
  have hdtot : ∀ l, d.total l = a.total l := total_congr hdsize
  have hstep : b.compactList (xs ++ ys ++ [k]) 0 = d.place k (a.total (xs ++ ys)) := by
    rw [compactList_append, Nat.zero_add, htot]
    rfl
  have hoffk : d.offset k = a.total xs := by
    rw [ho k hkxy, hoff]
    exact hpk
  -- the blocks behind `k` now stand where `k` stood
  have hover : d.content k = overlay (ys.flatMap a.content) (a.content k) := by
    have hpdy : Packed d ys (a.total xs) := by
      have := (append_iff d xs ys 0).mp hp
      rw [zero_add, hdtot] at this
      exact this.2
    have hlen : (ys.flatMap a.content).length = a.total ys := by
      rw [length_flatMap]
      unfold total
      rw [map_congr_left]
      intro j _
      exact content_length a j
    have hflat : ys.flatMap d.content = ys.flatMap a.content := by
      rw [← hcont]
      exact flatMap_congr fun j hj => hc j (by simp [hj])
    have hload : d.mem.load (a.total xs) (ys.flatMap a.content).length = ys.flatMap a.content := by
      rw [hlen, ← hdtot ys, load_eq ys _ hpdy, hflat]
    have hrest : ∀ i, a.total xs + (ys.flatMap a.content).length ≤ i → d.mem i = a.mem i := by
      intro i hi
      rw [hlen, ← total_append] at hi
      rw [hm i (Or.inr (by rw [htot, zero_add]; exact hi)), hmem]
    unfold content
    rw [hoffk, hdsize, hpk]
    exact load_overlay hload hrest
  have hplacec : ∀ j ∈ xs ++ ys, (d.place k (a.total (xs ++ ys))).content j = d.content j := by
    intro j hj
    have hjk : j ≠ k := fun hjk => hkxy (hjk ▸ hj)
    unfold content
    rw [d.place_offset_other _ hjk, place_size]
    refine load_congr ?_
    intro i hi
    refine d.place_mem k _ (Or.inl ?_)
    have := (end_le (xs ++ ys) 0 hp j hj).2
    rw [zero_add, hdtot] at this
    omega
  refine ⟨?_, ?_, ?_, ?_, ?_, ?_⟩
  · rw [hloop]
    show (b.compactList _ 0).links.Represents _
    rw [compactList_links]
    exact hrep
  · rw [hloop]
    refine congr (a := b.compactList (xs ++ ys ++ [k]) 0) (xs ++ ys ++ [k]) 0
      (fun _ _ => rfl) (fun _ _ => rfl) ?_
    rw [hstep, append_iff]
    refine ⟨?_, ?_, trivial⟩
    · exact congr _ 0
        (fun j hj => d.place_offset_other _ fun hjk => hkxy (hjk ▸ hj))
        (fun j _ => by rw [place_size]) hp
    · rw [place_offset_self, zero_add, total_congr (place_size ..), hdtot]
  · rw [hloop]
    show b.total _ = _
    rw [htot, h.used, total_append, total_append, total_append, total_cons, total_cons, total_nil]
    omega
  · rw [hloop]
    show (b.compactList _ 0).size = _
    rw [compactList_size, hsize]
  · intro j hj
    rw [hloop]
    show (b.compactList _ 0).content j = _
    rw [hstep, hplacec j hj, hc j hj, hcont]
  · rw [hloop]
    show (b.compactList _ 0).content k = _
    rw [hstep, place_content_self]
    exact hover

/-- **Relinking, compacting and taking out** one block: the arena without it,
and what stands at its old bytes' new place. -/
theorem compact_detached (h : Valid a (xs ++ k :: ys)) (hfuel : (xs ++ k :: ys).length < fuel) :
    let a1 := ((a.unlink k).append k).compact fuel
    let a2 : Arena K := { a1.unlink k with used := a1.used - a.size k }
    Detached a2 (xs ++ ys) k
      ∧ (∀ j, j ≠ k → a2.content j = a.content j)
      ∧ a2.mem.load a2.used (a.size k) = overlay (ys.flatMap a.content) (a.content k) := by
  intro a1 a2
  obtain ⟨hrep, hpacked, hused, hsize, hoths, hself⟩ := compact_moved h hfuel
  obtain ⟨hpxy, hpk, -⟩ := (append_iff a1 (xs ++ ys) [k] 0).mp hpacked
  have htot : ∀ l, a1.total l = a.total l := total_congr hsize
  have hsum : a.total (xs ++ k :: ys) = a.total (xs ++ ys) + a.size k := by
    rw [total_append, total_append, total_cons]
    omega
  have hend : a1.used - a.size k = a.total (xs ++ ys) := by
    rw [hused, h.used, hsum]
    omega
  have hk := (nodup_cons.mp (nodup_middle.mp h.represents.nodup)).1
  refine ⟨⟨hk, ?_, ?_, ?_, ?_, ?_⟩, ?_, ?_⟩
  · have hout : (a1.links.unlink k).Represents (xs ++ ys ++ []) := represents_unlink hrep
    rw [append_nil] at hout
    exact hout
  · exact congr (a := a1) _ 0 (fun _ _ => rfl) (fun _ _ => rfl) hpxy
  · show a1.used - a.size k = a1.total (xs ++ ys)
    rw [hend, htot]
  · intro j hjk hj
    show a1.size j = 0
    rw [hsize]
    exact h.empty j (by simp only [mem_append, mem_cons] at hj ⊢; tauto)
  · intro j hj
    show a1.size j ≠ 0
    rw [hsize]
    exact h.nonempty j (by simp only [mem_append, mem_cons] at hj ⊢; tauto)
  · intro j hjk
    show a1.content j = _
    by_cases hj : j ∈ xs ++ ys
    · exact hoths j hj
    -- a block that is not linked is empty
    have h0 := h.empty j (by simp only [mem_append, mem_cons] at hj ⊢; tauto)
    exact content_of_size (by rw [hsize]; exact h0) h0
  · show a1.mem.load (a1.used - a.size k) (a.size k) = _
    rw [← hself]
    unfold content
    rw [hsize, hpk, hend, Nat.zero_add, htot]

/-! ## §6. Blocks taken out one by one. -/

theorem Sparse.compact (h : Sparse a order) (hfuel : order.length < fuel) :
    Valid (a.compact fuel) order ∧ ∀ k, (a.compact fuel).content k = a.content k := by
  obtain ⟨hlinks, hsize, hpacked, hused, hcontent⟩ :=
    compact_spread h.represents h.spread hfuel
  refine ⟨⟨by rw [hlinks]; exact h.represents, hpacked, ?_, ?_, ?_⟩, fun k => ?_⟩
  · rw [hused, total_congr hsize]
  · rw [hsize]
    exact h.empty
  · rw [hsize]
    exact h.nonempty
  · by_cases hk : k ∈ order
    · exact hcontent k hk
    · exact content_of_size (by rw [hsize]; exact h.empty k hk) (h.empty k hk)

/-- A block is taken out, its bytes are written over. -/
theorem Sparse.remove (h : Sparse a (xs ++ k :: ys))
    (hm : ∀ i, i < a.offset k ∨ a.offset k + a.size k ≤ i → m i = a.mem i) :
    Sparse ((({ a with mem := m } : Arena K).unlink k).resize k 0 0) (xs ++ ys)
      ∧ ∀ j, j ≠ k →
        ((({ a with mem := m } : Arena K).unlink k).resize k 0 0).content j = a.content j := by
  have hout := (nodup_cons.mp (nodup_middle.mp h.represents.nodup)).1
  have hne : ∀ j ∈ xs ++ ys, j ≠ k := fun j hj hjk => hout (hjk ▸ hj)
  have hkeep : ∀ j ∈ xs ++ ys, j ∈ xs ++ k :: ys := by
    intro j hj
    simp only [mem_append, mem_cons] at hj ⊢
    tauto
  set b : Arena K := ((({ a with mem := m } : Arena K).unlink k).resize k 0 0)
  have hsize : ∀ j, b.size j = if j = k then 0 else a.size j := fun _ => rfl
  have hoffset : ∀ j, b.offset j = if j = k then 0 else a.offset j := fun _ => rfl
  refine ⟨⟨?_, ?_, ?_, ?_⟩, ?_⟩
  · exact represents_clear (represents_unlink h.represents) hout
  · refine Spread.congr (a := a) _ 0 (fun j hj => ?_) (fun j hj => ?_) (Spread.remove xs 0 h.spread)
    · rw [hoffset, if_neg (hne j hj)]
    · rw [hsize, if_neg (hne j hj)]
  · intro j hj
    rw [hsize]
    by_cases hjk : j = k
    · rw [if_pos hjk]
    rw [if_neg hjk]
    refine h.empty j fun hmem => hj ?_
    simp only [mem_append, mem_cons] at hmem ⊢
    tauto
  · intro j hj
    rw [hsize, if_neg (hne j hj)]
    exact h.nonempty j (hkeep j hj)
  · intro j hjk
    show m.load (b.offset j) (b.size j) = a.mem.load (a.offset j) (a.size j)
    rw [hsize, hoffset, if_neg hjk, if_neg hjk]
    refine load_congr fun i hi => hm _ ?_
    have hj : j ∈ xs ++ k :: ys := by
      by_contra hj
      rw [h.empty j hj] at hi
      omega
    have := disjoint _ 0 h.spread j hj k (by simp) hjk
    omega

/-- **Unlinking a block and closing the gap.** -/
theorem Valid.takeOut (h : Valid a (xs ++ k :: ys)) (hfuel : (xs ++ k :: ys).length < fuel) :
    Detached ((a.unlink k).compact fuel) (xs ++ ys) k
      ∧ ∀ j, j ≠ k → ((a.unlink k).compact fuel).content j = a.content j := by
  have hout := (nodup_cons.mp (nodup_middle.mp h.represents.nodup)).1
  have hback : ∀ j, j ≠ k → j ∉ xs ++ ys → j ∉ xs ++ k :: ys := by
    intro j hjk hj hmem
    simp only [mem_append, mem_cons] at hj hmem
    tauto
  obtain ⟨hlinks, hsize, hpacked, hused, hcontent⟩ :=
    compact_spread (a := a.unlink k) (represents_unlink h.represents)
      (congr (a := a) _ 0 (fun _ _ => rfl) (fun _ _ => rfl)
        (remove xs 0 h.packed.spread))
      (show (xs ++ ys).length < fuel by
        simp only [length_append, length_cons] at hfuel ⊢
        omega)
  refine ⟨⟨hout, ?_, hpacked, ?_, ?_, ?_⟩, ?_⟩
  · rw [hlinks]
    exact represents_unlink h.represents
  · rw [hused, total_congr hsize]
  · intro j hjk hj
    rw [hsize]
    exact h.empty j (hback j hjk hj)
  · intro j hj
    rw [hsize]
    refine h.nonempty j ?_
    simp only [mem_append, mem_cons] at hj ⊢
    tauto
  · intro j hjk
    by_cases hj : j ∈ xs ++ ys
    · exact hcontent j hj
    · exact content_of_size (by rw [hsize]; exact h.empty j (hback j hjk hj))
        (h.empty j (hback j hjk hj))

/-- **A detached block gets new bytes** at the end of the arena. -/
theorem Detached.place (h : Detached a order k) (hbytes : bytes ≠ []) :
    let b := (append { a.resize k a.used bytes.length with used := a.used + bytes.length } k).write
      k 0 bytes
    Valid b (order ++ [k]) ∧ b.content k = bytes ∧ ∀ j, j ≠ k → b.content j = a.content j := by
  intro b
  have hlength : bytes.length ≠ 0 := by simpa using hbytes
  obtain ⟨hval, hoths⟩ := h.alloc bytes.length
  rw [if_neg hlength] at hval
  set c : Arena K :=
    append { a.resize k a.used bytes.length with used := a.used + bytes.length } k with hc
  have hsize : c.size k = bytes.length := by
    rw [hc]
    unfold append resize
    split <;> simp
  have hwrote : Wrote c b k := wrote_write c k 0 bytes (by rw [hsize]; omega)
  refine ⟨hwrote.valid hval, ?_, fun j hjk => ?_⟩
  · show b.mem.load (b.offset k) (b.size k) = bytes
    rw [hwrote.size, hsize]
    exact slice_write_self c k 0 bytes
  · rw [hwrote.content hval hjk]
    exact hoths j hjk

end Arena
end TgCli.Lib
