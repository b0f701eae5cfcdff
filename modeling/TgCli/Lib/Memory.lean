/-
  TgCli.Lib.Memory — LINKED LISTS AND A FLAT BYTE MEMORY

  Nodes are named by keys; each carries its two neighbours and whether it is
  linked; the list has a head and a tail.  `Represents L order` says that the
  pointers spell out the key sequence `order`.

  A memory is a function from addresses to bytes, with the three accesses of
  C code: read a range (`load`), write given bytes (`store`, a `memcpy` from
  outside) and copy a range inside the memory, overlap allowed (`move`, a
  `memmove`).

  Main results:
    * `represents_append` — linking an unlinked node at the tail;
    * `represents_unlink` — taking a node out;
    * `load_store`, `load_move` — what an access wrote is read back;
    * `load_store_of_disjoint`, `load_move_of_disjoint` — the frame rules;
    * `load_add` — a range is its two halves;
    * `load_slice` — a range inside a range;
    * `nthString_eq` — walking NUL-terminated strings with `strlen`.
-/
import Mathlib.Data.List.Sort
import Mathlib.Data.Finset.Basic

namespace TgCli.Lib

open List

/-- The pointers of one node. -/
structure Link (K : Type) where
  previous : Option K
  next : Option K
  linked : Bool
deriving DecidableEq, Repr

/-- A list: the pointers of every node, the head and the tail. -/
structure Linked (K : Type) where
  link : K → Link K
  head : Option K
  tail : Option K

namespace Linked

variable {K : Type}

section Operations

variable [DecidableEq K]

/-- Change the pointers of one node. -/
def setLink (L : Linked K) (k : K) (f : Link K → Link K) : Linked K :=
  { L with link := fun j => if j = k then f (L.link j) else L.link j }

/-- Take `k` out of the list. -/
def unlink (L : Linked K) (k : K) : Linked K :=
  if (L.link k).linked then
    let next := (L.link k).next
    let previous := (L.link k).previous
    let L₁ := match previous with
      | none => { L with head := next }
      | some p => L.setLink p fun l => { l with next := next }
    let L₂ := match next with
      | none => { L₁ with tail := previous }
      | some n => L₁.setLink n fun l => { l with previous := previous }
    L₂.setLink k fun _ => { previous := none, next := none, linked := false }
  else L

/-- Link `k` behind the tail. -/
def append (L : Linked K) (k : K) : Linked K :=
  let L₁ := L.setLink k fun _ => { previous := L.tail, next := none, linked := true }
  let L₂ := match L.tail with
    | none => { L₁ with head := some k }
    | some t => L₁.setLink t fun l => { l with next := some k }
  { L₂ with tail := some k }

end Operations

/-! ## §1. The represented order. -/

/-- **The pointers spell out `order`.** -/
structure Represents (L : Linked K) (order : List K) : Prop where
  nodup : order.Nodup
  head : L.head = order.head?
  tail : L.tail = order.getLast?
  linked : ∀ k, (L.link k).linked = true ↔ k ∈ order
  links : ∀ xs k ys, order = xs ++ k :: ys →
    (L.link k).previous = xs.getLast? ∧ (L.link k).next = ys.head?

theorem represents_nil : Represents
    ({ link := fun _ => { previous := none, next := none, linked := false }
       head := none
       tail := none } : Linked K) [] := by
  refine ⟨nodup_nil, rfl, rfl, by simp, ?_⟩
  intro xs k ys h
  exact absurd h (by simp)

/-- The last of a list is the last of its nonempty end. -/
theorem getLast?_append_cons_cons (xs : List K) (j z : K) (zs : List K) :
    (xs ++ j :: z :: zs).getLast? = (z :: zs).getLast? := by
  rw [show xs ++ j :: z :: zs = (xs ++ [j]) ++ (z :: zs) by simp, getLast?_append,
    getLast?_eq_some_getLast (by simp)]
  rfl

variable {L : Linked K} {k : K}

/-- A key is not the last of the keys in front of it. -/
theorem Represents.last_ne (h : Represents L (xs ++ k :: ys)) : ys.getLast? ≠ some k := by
  intro hk
  exact (nodup_cons.mp (nodup_append.mp h.nodup).2.1).1 (mem_of_getLast? hk)

variable [DecidableEq K]

/-- Clearing the pointers of a node that is not linked. -/
theorem represents_clear (h : Represents L order) (hk : k ∉ order) :
    Represents (L.setLink k fun _ => { previous := none, next := none, linked := false })
      order := by
  refine ⟨h.nodup, h.head, h.tail, ?_, ?_⟩
  · intro j
    show (if j = k then _ else L.link j).linked = true ↔ _
    by_cases hj : j = k
    · subst hj
      rw [if_pos rfl]
      simp [hk]
    · rw [if_neg hj]
      exact h.linked j
  · intro xs j ys hsplit
    have hj : j ≠ k := by
      intro hjk
      exact hk (by rw [hsplit, hjk]; simp)
    show (if j = k then _ else L.link j).previous = _ ∧ (if j = k then _ else L.link j).next = _
    rw [if_neg hj]
    exact h.links xs j ys hsplit

/-- Linking at the tail. -/
theorem represents_append (h : Represents L order)
    (hk : k ∉ order) : Represents (L.append k) (order ++ [k]) := by
  have hlink : ∀ j, (L.append k).link j
      = if j = k then { previous := L.tail, next := none, linked := true }
        else if L.tail = some j then { L.link j with next := some k } else L.link j := by
    intro j
    unfold append
    cases ht : L.tail with
    | none => simp [setLink]
    | some t =>
      have htk : k ≠ t := fun hkt => hk (mem_of_getLast? (hkt ▸ h.tail ▸ ht))
      simp only [setLink]
      grind
  refine ⟨?_, ?_, ?_, ?_, ?_⟩
  · rw [nodup_append]
    refine ⟨h.nodup, nodup_singleton k, ?_⟩
    intro a ha b hb hab
    rw [mem_singleton.mp hb] at hab
    exact hk (hab ▸ ha)
  · unfold append
    cases order with
    | nil => simp [h.tail, setLink]
    | cons x xs =>
      obtain ⟨t, ht⟩ : ∃ t, (x :: xs).getLast? = some t := ⟨_, getLast?_eq_some_getLast (by simp)⟩
      simp [h.tail, ht, setLink, h.head]
  · simp [append]
  · intro j
    rw [hlink j]
    by_cases hj : j = k
    · simp [hj]
    rw [if_neg hj]
    have hmem : j ∈ order ++ [k] ↔ j ∈ order := by simp [hj]
    rw [hmem, ← h.linked j]
    split <;> rfl
  · intro xs j ys hsplit
    rw [hlink j]
    -- where the split point lies
    rcases eq_nil_or_concat ys with rfl | ⟨ys', y, rfl⟩
    · -- `j` is the new node
      have hlast := append_inj' hsplit (by simp)
      obtain ⟨rfl, hj⟩ := hlast
      injection hj with hj _
      subst hj
      rw [if_pos rfl, h.tail]
      exact ⟨rfl, rfl⟩
    · rw [concat_eq_append] at hsplit ⊢
      have hsplit' : order ++ [k] = (xs ++ j :: ys') ++ [y] := by simpa using hsplit
      obtain ⟨horder, hy⟩ := append_inj' hsplit' (by simp)
      injection hy with hy _
      subst hy
      have hjk : j ≠ k := by
        intro hjk
        subst hjk
        exact hk (by rw [horder]; simp)
      rw [if_neg hjk]
      obtain ⟨hprev, hnext⟩ := h.links xs j ys' horder
      by_cases hlast : L.tail = some j
      · -- `j` was the tail: nothing follows it in `order`
        have hys : ys' = [] := by
          cases ys' with
          | nil => rfl
          | cons z zs =>
            exfalso
            rw [h.tail, horder, getLast?_append_cons_cons] at hlast
            exact Represents.last_ne (horder ▸ h) hlast
        subst hys
        rw [if_pos hlast]
        exact ⟨hprev, rfl⟩
      · rw [if_neg hlast]
        refine ⟨hprev, ?_⟩
        rw [hnext]
        cases ys' with
        | nil =>
          exfalso
          apply hlast
          rw [h.tail, horder]
          simp
        | cons z zs => rfl

/-- The pointers after `k` was taken out. -/
theorem unlink_link (hk : (L.link k).linked) (hj : j ≠ k) : (L.unlink k).link j
      = { previous := if (L.link k).next = some j then (L.link k).previous
            else (L.link j).previous
          next := if (L.link k).previous = some j then (L.link k).next else (L.link j).next
          linked := (L.link j).linked } := by
  unfold unlink
  rw [if_pos hk]
  cases hp : (L.link k).previous <;> cases hn : (L.link k).next
  all_goals
    simp only [setLink]
    cases L.link j
    grind

theorem unlink_link_self (hk : (L.link k).linked) :
    (L.unlink k).link k = { previous := none, next := none, linked := false } := by
  unfold unlink
  rw [if_pos hk]
  simp [setLink]

/-- Taking a node out. -/
theorem represents_unlink
    (h : Represents L (xs ++ k :: ys)) : Represents (L.unlink k) (xs ++ ys) := by
  have hk : (L.link k).linked := (h.linked k).mpr (by simp)
  obtain ⟨hprev, hnext⟩ := h.links xs k ys rfl
  have hnd := h.nodup
  obtain ⟨hndx, hndk, hdisj⟩ := nodup_append.mp hnd
  obtain ⟨hky, hndy⟩ := nodup_cons.mp hndk
  have hkx : k ∉ xs := fun hm => hdisj k hm k (by simp) rfl
  have hxy : ∀ j, j ∈ xs → j ∉ ys := fun j hx hy => hdisj j hx j (by simp [hy]) rfl
  refine ⟨?_, ?_, ?_, ?_, ?_⟩
  · rw [nodup_append]
    exact ⟨hndx, hndy, fun a ha b hb => hdisj a ha b (by simp [hb])⟩
  · -- the head moves only when the first node is taken out
    have hhead : (L.unlink k).head
        = match (L.link k).previous with | none => (L.link k).next | some _ => L.head := by
      unfold unlink
      rw [if_pos hk]
      cases (L.link k).previous <;> cases (L.link k).next <;> rfl
    rw [hhead, hprev, hnext, h.head]
    cases xs with
    | nil => rfl
    | cons x xs' => simp [getLast?_eq_some_getLast]
  · have htail : (L.unlink k).tail
        = match (L.link k).next with | none => (L.link k).previous | some _ => L.tail := by
      unfold unlink
      rw [if_pos hk]
      cases (L.link k).previous <;> cases (L.link k).next <;> rfl
    rw [htail, hprev, hnext, h.tail]
    cases ys with
    | nil => simp
    | cons y ys' =>
      rw [getLast?_append_cons_cons, getLast?_append, getLast?_eq_some_getLast (cons_ne_nil y ys')]
      rfl
  · intro j
    by_cases hj : j = k
    · subst hj
      rw [unlink_link_self hk]
      simp [hkx, hky]
    · rw [unlink_link hk hj]
      show (L.link j).linked = true ↔ _
      rw [h.linked j]
      simp [hj]
  · intro us j vs hsplit
    have hj : j ≠ k := by
      intro hjk
      subst hjk
      have hmem : j ∈ xs ++ ys := by rw [hsplit]; simp
      rcases mem_append.mp hmem with hm | hm
      · exact hkx hm
      · exact hky hm
    rw [unlink_link hk hj, hprev, hnext]
    have hnotlast : j ∈ ys → xs.getLast? ≠ some j := fun hjy hl => hxy j (mem_of_getLast? hl) hjy
    rcases append_eq_append_iff.mp hsplit with ⟨ws, hus, hys⟩ | ⟨ws, hxs, hvs⟩
    · -- `j` stands behind the removed node
      have hjy : j ∈ ys := by rw [hys]; simp
      obtain ⟨hpj, hnj⟩ := h.links (xs ++ k :: ws) j vs (by rw [hys]; simp)
      refine ⟨?_, by simp only [if_neg (hnotlast hjy)]; exact hnj⟩
      show (if ys.head? = some j then _ else _) = _
      cases ws with
      | nil =>
        rw [hus, hys]
        simp
      | cons w ws' =>
        have hne : ys.head? ≠ some j := by
          rw [hys]
          intro hw
          have hwj : w = j := by simpa using hw
          rw [hys] at hndy
          exact (nodup_append.mp hndy).2.2 w (by simp) j (by simp) hwj
        rw [if_neg hne, hpj, hus, getLast?_append_cons_cons, getLast?_append,
          getLast?_eq_some_getLast (cons_ne_nil w ws')]
        rfl
    · cases ws with
      | nil =>
        -- `j` is the first node behind the removed one
        rw [nil_append] at hvs
        have hjy : j ∈ ys := by rw [← hvs]; simp
        obtain ⟨hpj, hnj⟩ := h.links (xs ++ [k]) j vs (by rw [← hvs]; simp)
        refine ⟨?_, by simp only [if_neg (hnotlast hjy)]; exact hnj⟩
        show (if ys.head? = some j then _ else _) = _
        rw [← hvs, hxs]
        simp
      | cons w ws' =>
        -- `j` stands in front of the removed node
        injection hvs with hw hvs'
        subst hw
        have hjx : j ∈ xs := by rw [hxs]; simp
        obtain ⟨hpj, hnj⟩ := h.links us j (ws' ++ k :: ys) (by rw [hxs]; simp)
        have hnothead : ys.head? ≠ some j := by
          intro hh
          exact hxy j hjx (mem_of_head? hh)
        refine ⟨by simp only [if_neg hnothead]; exact hpj, ?_⟩
        show (if xs.getLast? = some j then _ else _) = _
        cases ws' with
        | nil =>
          rw [hxs, hvs']
          simp
        | cons z zs =>
          have hne : xs.getLast? ≠ some j := by
            rw [hxs, getLast?_append_cons_cons]
            intro hl
            rw [hxs] at hndx
            exact (nodup_cons.mp (nodup_append.mp hndx).2.1).1
              (mem_of_getLast? hl)
          rw [if_neg hne, hnj, hvs']
          rfl

end Linked

/-- A byte memory. -/
abbrev Mem := Nat → UInt8

namespace Mem

/-- The `n` bytes from address `off`. -/
def load (m : Mem) (off n : Nat) : List UInt8 := (List.range n).map fun i => m (off + i)

/-- `memcpy` of `bytes` to address `off`. -/
def store (m : Mem) (off : Nat) (bytes : List UInt8) : Mem :=
  fun i => if off ≤ i ∧ i < off + bytes.length then bytes.getD (i - off) 0 else m i

/-- `memmove` of `n` bytes from `src` to `dst`. -/
def move (m : Mem) (dst src n : Nat) : Mem :=
  fun i => if dst ≤ i ∧ i < dst + n then m (src + (i - dst)) else m i

/-! ## §2. Reading. -/

@[simp] theorem load_length (m : Mem) (off n : Nat) : (m.load off n).length = n := by
  simp [load]

@[simp] theorem load_zero (m : Mem) (off : Nat) : m.load off 0 = [] := rfl

theorem load_congr {m m' : Mem} {off off' n : Nat}
    (h : ∀ i, i < n → m (off + i) = m' (off' + i)) : m.load off n = m'.load off' n := by
  refine map_congr_left ?_
  intro i hi
  exact h i (mem_range.mp hi)

/-- A range is its two halves. -/
theorem load_add (m : Mem) (off n k : Nat) :
    m.load off (n + k) = m.load off n ++ m.load (off + n) k := by
  unfold load
  rw [range_add, map_append, map_map]
  refine congrArg _ (map_congr_left ?_)
  intro i _
  show m (off + (n + i)) = m (off + n + i)
  rw [Nat.add_assoc]

theorem load_take (m : Mem) (off n k : Nat) (h : k ≤ n) : (m.load off n).take k = m.load off k := by
  have hsplit : n = k + (n - k) := by omega
  rw [hsplit, load_add, take_left' (load_length m off k)]

theorem load_drop (m : Mem) (off n k : Nat) (h : k ≤ n) :
    (m.load off n).drop k = m.load (off + k) (n - k) := by
  have hsplit : n = k + (n - k) := by omega
  conv_lhs => rw [hsplit, load_add, drop_left' (load_length m off k)]

/-- **A range inside a range.** -/
theorem load_slice (m : Mem) (off n i k : Nat) (h : i + k ≤ n) :
    ((m.load off n).drop i).take k = m.load (off + i) k := by
  rw [load_drop m off n i (by omega), load_take _ _ _ _ (by omega)]

/-! ## §3. Writing. -/

/-- **What was stored is read back.** -/
theorem load_store (m : Mem) (off : Nat) (bytes : List UInt8) :
    (m.store off bytes).load off bytes.length = bytes := by
  refine ext_getElem (by simp) ?_
  intro i h1 h2
  have hin : off ≤ off + i ∧ off + i < off + bytes.length := by omega
  simp only [load, getElem_map, getElem_range, store, hin, and_self, if_true,
    Nat.add_sub_cancel_left]
  simp [List.getD, h2]

theorem load_store_of_disjoint (m : Mem) (off : Nat) (bytes : List UInt8) (off' n : Nat)
    (h : off' + n ≤ off ∨ off + bytes.length ≤ off') :
    (m.store off bytes).load off' n = m.load off' n := by
  refine load_congr ?_
  intro i hi
  show (if _ then _ else _) = _
  rw [if_neg (by omega)]

/-- **What was moved is read at its new place.** -/
theorem load_move (m : Mem) (dst src n : Nat) : (m.move dst src n).load dst n = m.load src n := by
  refine load_congr ?_
  intro i hi
  show (if _ then _ else _) = _
  rw [if_pos (by omega), Nat.add_sub_cancel_left]

end Mem

/-! ## §4. Overlaid bytes. -/

/-- What is read where `bytes` stood after `front` was copied onto it from the
start. -/
def overlay (front bytes : List UInt8) : List UInt8 :=
  front.take bytes.length ++ bytes.drop front.length

/-- Reading `n` bytes at an address where `front` now stands, with the old
bytes still behind it. -/
theorem Mem.load_overlay {m m' : Mem} {off n : Nat} {front : List UInt8}
    (hover : m'.load off front.length = front)
    (hrest : ∀ i, off + front.length ≤ i → m' i = m i) :
    m'.load off n = overlay front (m.load off n) := by
  unfold overlay
  rcases le_total n front.length with h | h
  · rw [← load_take m' off front.length n h, hover, load_length,
      drop_eq_nil_of_le (by simpa using h), append_nil]
  · have hsplit : n = front.length + (n - front.length) := by omega
    rw [load_drop m off n front.length h, load_length, take_of_length_le h]
    conv_lhs => rw [hsplit, load_add, hover]
    refine congrArg _ (load_congr ?_)
    intro i _
    exact hrest _ (by omega)

/-- The byte of `overlay` at one position. -/
theorem overlay_getElem? (front bytes : List UInt8) (h : i < bytes.length) :
    (overlay front bytes)[i]? = if i < front.length then front[i]? else bytes[i]? := by
  unfold overlay
  by_cases hi : i < front.length
  · rw [if_pos hi, getElem?_append_left (by rw [length_take]; omega), getElem?_take_of_lt h]
  rw [if_neg hi, getElem?_append_right (by rw [length_take]; omega), getElem?_drop, length_take]
  congr 1
  omega

/-! ## §5. NUL-terminated strings. -/

/-- `strlen` at `off`, looking at no more than the given number of bytes. -/
def strlen (m : Mem) (off : Nat) : Nat → Nat
  | 0 => 0
  | n + 1 => if m off = 0 then 0 else strlen m (off + 1) n + 1

/-- The `i`-th of the strings that stand one behind the other from `off`, in
a memory of `limit` bytes. -/
def nthString (m : Mem) (limit : Nat) : Nat → Nat → List UInt8
  | off, 0 => m.load off (strlen m off (limit - off))
  | off, i + 1 => nthString m limit (off + strlen m off (limit - off) + 1) i

/-- Strings with their terminators, one behind the other. -/
def cstrings (names : List (List UInt8)) : List UInt8 := names.flatMap fun name => name ++ [0]

theorem cstrings_cons (name : List UInt8) (names : List (List UInt8)) :
    cstrings (name :: names) = name ++ [0] ++ cstrings names := rfl

theorem Mem.load_succ (m : Mem) (off n : Nat) :
    m.load off (n + 1) = m off :: m.load (off + 1) n := by
  rw [Nat.add_comm n 1, load_add]
  rfl

theorem strlen_eq (name : List UInt8) : ∀ (m : Mem) (off n : Nat), (0 : UInt8) ∉ name →
      m.load off (name.length + 1) = name ++ [0] → name.length < n →
      strlen m off n = name.length := by
  induction name with
  | nil =>
    intro m off n _ hload hn
    obtain ⟨n', rfl⟩ : ∃ n', n = n' + 1 := ⟨n - 1, by simp at hn; omega⟩
    rw [length_nil, Mem.load_succ] at hload
    injection hload with hzero _
    rw [strlen, if_pos hzero]
    rfl
  | cons b name ih =>
    intro m off n hnul hload hn
    obtain ⟨n', rfl⟩ : ∃ n', n = n' + 1 := ⟨n - 1, by simp at hn; omega⟩
    rw [length_cons, Mem.load_succ] at hload
    injection hload with hb hrest
    have hb0 : m off ≠ 0 := by
      intro h0
      exact hnul (by rw [← hb, h0]; simp)
    rw [strlen, if_neg hb0, ih m (off + 1) n' (fun h => hnul (mem_cons_of_mem _ h)) hrest
      (by simpa using hn)]
    rfl

/-- **Walking the strings finds each of them.** -/
theorem nthString_eq (names : List (List UInt8)) :
    ∀ (m : Mem) (limit off i : Nat), (∀ name ∈ names, (0 : UInt8) ∉ name) →
      m.load off (cstrings names).length = cstrings names →
      off + (cstrings names).length ≤ limit → i < names.length →
      some (nthString m limit off i) = names[i]? := by
  induction names with
  | nil => intro m limit off i _ _ _ hi; cases hi
  | cons name names ih =>
    intro m limit off i hnul hload hlimit hi
    rw [cstrings_cons, length_append, Mem.load_add] at hload
    have hparts := append_inj hload (by simp)
    have hlen : (name ++ [(0 : UInt8)]).length = name.length + 1 := by simp
    rw [hlen] at hparts
    rw [cstrings_cons, length_append, hlen] at hlimit
    have hstr : strlen m off (limit - off) = name.length :=
      strlen_eq name m off _ (hnul name (by simp)) hparts.1 (by omega)
    cases i with
    | zero =>
      show some (m.load off (strlen m off (limit - off))) = some name
      rw [hstr]
      have := hparts.1
      rw [Mem.load_add] at this
      rw [(append_inj this (by simp)).1]
    | succ i =>
      show some (nthString m limit (off + strlen m off (limit - off) + 1) i) = names[i]?
      rw [hstr]
      exact ih m limit (off + name.length + 1) i
        (fun n hn => hnul n (mem_cons_of_mem _ hn)) hparts.2 (by omega) (by simpa using hi)

end TgCli.Lib
