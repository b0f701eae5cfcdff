/-
  TgCli.Lib.Slots — TABLES OF SLOTS

  A table of `cap` slots, each free or holding a key.  The search for a key
  starts at a slot given by its hash and steps to the next one until it meets
  the key, a free slot, or has seen every slot.

  `Reach table` says that every stored key is found where it is stored.

  `scanned n f` lists what stands in the slots `n - 1, …, 0`.  A rotation
  moves the content of a slot into the empty slot above it.

  A ring of `n` places is addressed by tickets that only grow: ticket `t` has place
  `t % n`.  `Holds n ring start l` says that the tickets from `start` on hold `l`.
  Tickets less than `n` apart have different places (`mod_ne`), so what is written
  outside the window leaves it alone (`Holds.write`), and what is written behind it
  extends it (`Holds.snoc`).

  Main results:
    * `reach_insert` — storing a key at the free slot its search ended at
      keeps every key reachable;
    * `scanned_shift` — such a move does not change what is scanned;
    * `scanned_put_none_sublist` — emptying a slot drops at most one element;
    * `scanned_succ_last` — slot 0 is scanned last.
-/
import Mathlib.Data.List.Sort
import Mathlib.Data.Finset.Basic

namespace TgCli.Lib

open List

/-- Where a search ended. -/
inductive Slot where
  | found (i : Nat)
  | free (i : Nat)
  | full
deriving DecidableEq, Repr

namespace Probe

variable {K : Type} [DecidableEq K]

/-- The search loop: `n` slots still to be seen, the next one `p` steps from
`start`. -/
def probe (table : Nat → Option K) (start cap : Nat) (key : K) : Nat → Nat → Slot
  | 0, _ => .full
  | n + 1, p =>
    match table ((start + p) % cap) with
    | none => .free ((start + p) % cap)
    | some k => if k = key then .found ((start + p) % cap) else probe table start cap key n (p + 1)

/-- The search for `key`. -/
def slotOf (table : Nat → Option K) (hash : K → Nat) (cap : Nat) (key : K) : Slot :=
  probe table (hash key) cap key cap 0

/-- The table with `key` stored in slot `i`. -/
def insert (table : Nat → Option K) (i : Nat) (key : K) : Nat → Option K :=
  fun j => if j = i then some key else table j

variable {table : Nat → Option K} {start cap i : Nat} {key : K}

theorem probe_found (h : probe table start cap key n p = .found i) : table i = some key := by
  fun_induction probe table start cap key n p with
  | case1 | case2 => cases h
  | case3 n p ht =>
    injection h with h
    rw [← h, ht]
  | case4 n p k ht hne ih => exact ih h

theorem probe_free (h : probe table start cap key n p = .free i) : table i = none := by
  fun_induction probe table start cap key n p with
  | case1 | case3 => cases h
  | case2 n p ht =>
    injection h with h
    rw [← h, ht]
  | case4 n p k ht hne ih => exact ih h

/-- A search ends inside the table. -/
theorem probe_lt (hcap : 0 < cap)
    (h : probe table start cap key n p = .found i ∨ probe table start cap key n p = .free i) :
    i < cap := by
  fun_induction probe table start cap key n p with
  | case1 => simp at h
  | case2 n p ht | case3 n p ht =>
    obtain rfl : (start + p) % cap = i := by simpa using h
    exact Nat.mod_lt _ hcap
  | case4 n p k ht hne ih => exact ih h

omit [DecidableEq K] in
theorem insert_other (hfree : table i = none) (ht : table j = some k) :
    insert table i new j = some k := by
  unfold insert
  rw [if_neg, ht]
  rintro rfl
  rw [hfree] at ht
  cases ht

/-- A search that meets only stored keys does not see a free slot filled. -/
theorem probe_insert_found (hfree : table i = none)
    (h : probe table start cap key n p = .found j) :
    probe (insert table i new) start cap key n p = .found j := by
  fun_induction probe table start cap key n p with
  | case1 | case2 => cases h
  | case3 n p ht =>
    rw [probe, insert_other hfree ht]
    simpa using h
  | case4 n p k ht hne ih =>
    rw [probe, insert_other hfree ht]
    simpa [hne] using ih h

/-- A search that ended at a free slot finds the key stored there. -/
theorem probe_insert_free (h : probe table start cap key n p = .free i) :
    probe (insert table i key) start cap key n p = .found i := by
  have hfree := probe_free h
  fun_induction probe table start cap key n p with
  | case1 | case3 => cases h
  | case2 n p ht =>
    injection h with h
    simp [probe, insert, h]
  | case4 n p k ht hne ih =>
    rw [probe, insert_other hfree ht]
    simpa [hne] using ih h

theorem slotOf_found {hash : K → Nat}
    (h : slotOf table hash cap key = .found i) : table i = some key :=
  probe_found h

/-- **Every stored key is found where it is stored.** -/
def Reach (table : Nat → Option K) (hash : K → Nat) (cap : Nat) : Prop :=
  ∀ i key, table i = some key → slotOf table hash cap key = .found i

theorem reach_empty (hash : K → Nat) (cap : Nat) : Reach (fun _ => none) hash cap := by
  intro i key h
  cases h

/-- **Storing a key where its search ended** keeps every key reachable. -/
theorem reach_insert {hash : K → Nat} (h : Reach table hash cap)
    (hfree : slotOf table hash cap key = .free i) : Reach (insert table i key) hash cap := by
  intro j k hj
  by_cases hji : j = i
  · subst hji
    have hk : key = k := by simpa [insert] using hj
    subst hk
    exact probe_insert_free hfree
  · have hold : table j = some k := by simpa [insert, hji] using hj
    exact probe_insert_found (probe_free hfree) (h j k hold)

omit [DecidableEq K] in
/-- Storing a key that is there already changes nothing. -/
theorem insert_found (h : table i = some key) : insert table i key = table := by
  funext j
  unfold insert
  split
  next hj => rw [hj, h]
  · rfl

end Probe

/-- Slots numbered from 0. -/
def Slots (α : Type) : Type := Nat → Option α

namespace Slots

variable {α : Type}

/-- The slots with one of them replaced. -/
def put (f : Slots α) (i : Nat) (x : Option α) : Slots α :=
  fun k => if k = i then x else f k

/-- The content of slot `i`, moved to slot `j`. -/
def move (f : Slots α) (i j : Nat) : Slots α := (f.put j (f i)).put i none

/-- What stands in the slots below `n`, from the highest down. -/
def scanned : Nat → Slots α → List α
  | 0, _ => []
  | n + 1, f => (f n).toList ++ scanned n f

@[simp] theorem put_same (f : Slots α) (i : Nat) (x : Option α) : f.put i x i = x := by
  simp [put]

theorem put_ne (f : Slots α) (x : Option α) (h : k ≠ i) : f.put i x k = f k := by
  simp [put, h]

theorem scanned_eq (f : Slots α) (n : Nat) : scanned n f = (range n).reverse.filterMap (f ·) := by
  induction n with
  | zero => rfl
  | succ n ih =>
    rw [scanned, ih, range_succ, reverse_append]
    cases hn : f n <;> simp [hn]

theorem mem_scanned : a ∈ scanned n f ↔ ∃ i, i < n ∧ f i = some a := by
  simp [scanned_eq]

/-- Slots at or above `n` do not matter. -/
theorem scanned_congr (h : ∀ i, i < n → f i = g i) : scanned n f = scanned n g := by
  rw [scanned_eq, scanned_eq]
  exact filterMap_congr fun i hi => h i (by simpa using hi)

theorem scanned_put_ge (f : Slots α) (x : Option α) (h : n ≤ i) :
    scanned n (f.put i x) = scanned n f := by
  apply scanned_congr
  intro k hk
  exact put_ne f x (by omega)

/-- **A move into the empty slot above keeps the scan.** -/
theorem scanned_shift (hi : i + 1 < n) (hemp : f (i + 1) = none) :
    scanned n (f.move i (i + 1)) = scanned n f := by
  induction n with
  | zero => omega
  | succ n ih =>
    show (f.move i (i + 1) n).toList ++ scanned n (f.move i (i + 1)) = _
    by_cases hn : i + 1 < n
    · have hkeep : f.move i (i + 1) n = f n := by
        rw [move, put_ne _ _ (by omega), put_ne _ _ (by omega)]
      rw [ih hn, hkeep]
      rfl
    · -- the two slots of the move are the highest two
      obtain rfl : n = i + 1 := by omega
      have htop : f.move i (i + 1) (i + 1) = f i := by
        rw [move, put_ne _ _ (by omega), put_same]
      have hbelow : scanned (i + 1) (f.move i (i + 1)) = scanned i f := by
        show (f.move i (i + 1) i).toList ++ scanned i (f.move i (i + 1)) = _
        rw [move, put_same, scanned_put_ge _ _ (by omega), scanned_put_ge _ _ (by omega)]
        rfl
      rw [htop, hbelow]
      show _ = (f (i + 1)).toList ++ ((f i).toList ++ scanned i f)
      rw [hemp]
      rfl

theorem scanned_put_none_sublist (f : Slots α) (i n : Nat) :
    (scanned n (f.put i none)).Sublist (scanned n f) := by
  induction n with
  | zero => exact List.Sublist.refl _
  | succ n ih =>
    show ((f.put i none n).toList ++ scanned n (f.put i none)).Sublist _
    apply List.Sublist.append _ ih
    by_cases hn : n = i
    · subst hn
      rw [put_same]
      exact nil_sublist _
    · rw [put_ne _ _ hn]

/-- **Emptying a slot takes what stood there out of the scan.** -/
theorem scanned_put_none [DecidableEq α] {f : Slots α} {i n : Nat} {a : α} (hi : i < n)
    (ha : f i = some a) (hnd : (scanned n f).Nodup) :
    scanned n (f.put i none) = (scanned n f).erase a := by
  induction n with
  | zero => omega
  | succ n ih =>
    by_cases hn : n = i
    · subst hn
      show (f.put n none n).toList ++ scanned n (f.put n none)
        = ((f n).toList ++ scanned n f).erase a
      rw [put_same, ha, scanned_put_ge _ _ (Nat.le_refl n)]
      exact (erase_cons_head ..).symm
    · have hbelow : a ∈ scanned n f := mem_scanned.mpr ⟨i, by omega, ha⟩
      have hnot : a ∉ (f n).toList := by
        intro hmem
        exact (nodup_append.mp hnd).2.2 a hmem a hbelow rfl
      show (f.put i none n).toList ++ scanned n (f.put i none)
        = ((f n).toList ++ scanned n f).erase a
      rw [erase_append_right _ hnot, put_ne _ _ hn, ih (by omega) (nodup_append.mp hnd).2.1]

/-- Emptying the highest slot drops the head of the scan. -/
theorem scanned_succ_put_none (f : Slots α) (n : Nat) :
    scanned (n + 1) (f.put n none) = scanned n f := by
  show (f.put n none n).toList ++ scanned n (f.put n none) = _
  rw [put_same, scanned_put_ge _ _ (Nat.le_refl n)]
  rfl

/-- **Slot 0 is scanned last.** -/
theorem scanned_succ_last (f : Slots α) (n : Nat) :
    scanned (n + 1) f = scanned n (fun k => f (k + 1)) ++ (f 0).toList := by
  induction n with
  | zero =>
    show (f 0).toList ++ [] = [] ++ (f 0).toList
    simp
  | succ n ih =>
    show (f (n + 1)).toList ++ scanned (n + 1) f = _
    rw [ih, ← append_assoc]
    rfl

end Slots

namespace Ring

open Function Nat

variable {α : Type} {n : Nat}

/-- Tickets that are close to each other have places of their own. -/
theorem mod_ne (hne : t ≠ u) (htu : t < u + n) (hut : u < t + n) : t % n ≠ u % n := by
  intro hmod
  rcases Nat.lt_or_gt_of_ne hne with hlt | hlt
  · have hzero := sub_mod_eq_zero_of_mod_eq hmod.symm
    rw [mod_eq_of_lt (by omega)] at hzero
    omega
  · have hzero := sub_mod_eq_zero_of_mod_eq hmod
    rw [mod_eq_of_lt (by omega)] at hzero
    omega

/-- The place of a ticket before the ring wraps. -/
theorem mod_add (h : start % n + i < n) : (start + i) % n = start % n + i := by
  rw [add_mod, mod_eq_of_lt (show i < n by omega), mod_eq_of_lt h]

/-- The place of a ticket after it. -/
theorem mod_add_wrap (hwrap : n ≤ start % n + i) (hi : i < n) :
    (start + i) % n = start % n + i - n := by
  have hstart : start % n < n := mod_lt _ (by omega)
  rw [add_mod, mod_eq_of_lt hi, mod_eq_sub_mod hwrap, mod_eq_of_lt (by omega)]

/-- The tickets from `start` on hold the list. -/
def Holds (n : Nat) (ring : Nat → α) (start : Nat) (l : List α) : Prop :=
  ∀ k a, l[k]? = some a → ring ((start + k) % n) = a

theorem holds_nil (ring : Nat → α) (start : Nat) : Holds n ring start [] :=
  fun _ _ h => nomatch h

/-- Places that hold the same. -/
theorem Holds.congr {ring ring' : Nat → α} (h : Holds n ring start l)
    (hsame : ∀ k, k < l.length → ring' ((start + k) % n) = ring ((start + k) % n)) :
    Holds n ring' start l := by
  intro k a hk
  obtain ⟨hlt, -⟩ := List.getElem?_eq_some_iff.mp hk
  rw [hsame k hlt]
  exact h k a hk

/-- A write to another ticket of the window around the list. -/
theorem Holds.write {ring : Nat → α}
    (h : Holds n ring start l) (hbelow : t < start ∨ start + l.length ≤ t)
    (hlow : start + l.length ≤ t + n) (hhigh : t < start + n) :
    Holds n (update ring (t % n) a) start l := by
  refine h.congr fun k hk => ?_
  rw [update_of_ne]
  exact mod_ne (by omega) (by omega) (by omega)

/-- **One more.** -/
theorem Holds.snoc {ring : Nat → α} (h : Holds n ring start l) (hroom : l.length < n) :
    Holds n (update ring ((start + l.length) % n) a) start (l ++ [a]) := by
  intro k b hk
  by_cases hlt : k < l.length
  · rw [getElem?_append_left hlt] at hk
    exact (h.write (.inr (Nat.le_refl _)) (by omega) (by omega)) k b hk
  rw [getElem?_append_right (by omega)] at hk
  obtain ⟨hzero, -⟩ := List.getElem?_eq_some_iff.mp hk
  have hlast : k = l.length := by
    simp only [length_singleton] at hzero
    omega
  subst hlast
  rw [Nat.sub_self] at hk
  rw [update_self]
  exact Option.some.inj hk

end Ring

end TgCli.Lib
