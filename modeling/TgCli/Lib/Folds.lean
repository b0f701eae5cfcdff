/-
  TgCli.Lib.Folds — FOLDS THAT CAN FAIL, SEARCHES THAT STOP, SORTED MAPS

  Inversion of a fold in `Except`: what one step keeps, the fold keeps
  (`foldlM_keep`), also together with the elements so far (`foldlM_trace`), and
  a fold that succeeds over a list succeeds over every prefix of it
  (`foldlM_append_ok`).  A fold that fails has a step that fails (`foldlM_error`).
  Lists related element by element: partners (`exists_related`) and what they
  have in common (`map_related`).

  `consumed p k l` is how many elements of `l` a reader has looked at when it
  stops right after the `k`-th element that satisfies `p`, or at the end of the
  list: it saw the first `k` matches (`filter_take_consumed`), and everything if
  there are fewer (`consumed_of_few`).

  A `std::map` is the list of its entries in key order.  `assign` is
  `insert_or_assign`, `List.lookup` is `find`.

  Main results: `lookup_assign_self`, `lookup_assign_of_ne`, `lookup_erase`
  (what `assign` and `erase` change).
-/
import Mathlib.Data.Finset.Basic
import Mathlib.Data.List.Forall2
import Mathlib.Data.List.Induction
import Mathlib.Data.List.Sort

namespace TgCli.Lib

open List

variable {ε α β : Type}

/-- A step after a step that did not fail. -/
theorem bind_ok {γ : Type} {x : Except ε β} {f : β → Except ε γ} {c : γ} :
    (x >>= f) = .ok c ↔ ∃ b, x = .ok b ∧ f b = .ok c := by
  constructor
  · intro h
    cases x with
    | error e => cases h
    | ok b => exact ⟨b, rfl, h⟩
  · rintro ⟨b, rfl, h⟩
    exact h

variable {f : β → α → Except ε β} {b : β} {l : List α}

theorem foldlM_cons_ok {c : β} {a : α} :
    (a :: l).foldlM f b = .ok c ↔ ∃ b', f b a = .ok b' ∧ l.foldlM f b' = .ok c := by
  rw [foldlM_cons]
  exact bind_ok

theorem foldlM_append_ok {c : β} {l1 l2 : List α} :
    (l1 ++ l2).foldlM f b = .ok c ↔ ∃ b', l1.foldlM f b = .ok b' ∧ l2.foldlM f b' = .ok c := by
  rw [foldlM_append]
  exact bind_ok

/-- **What every step keeps, the fold keeps.** -/
theorem foldlM_keep {P : β → Prop} (hstep : ∀ a ∈ l, ∀ b b', f b a = .ok b' → P b → P b') :
    ∀ {b c : β}, l.foldlM f b = .ok c → P b → P c := by
  induction l with
  | nil =>
    intro b c h hP
    obtain rfl := Except.ok.inj h
    exact hP
  | cons a l ih =>
    intro b c h hP
    obtain ⟨b', hfirst, hrest⟩ := foldlM_cons_ok.mp h
    apply ih (fun a' ha' => hstep a' (mem_cons_of_mem _ ha')) hrest
    exact hstep a mem_cons_self b b' hfirst hP

/-- **The rule for what a fold did so far**: the elements and the state they led to. -/
theorem foldlM_trace {P : List α → β → Prop} (hstart : P [] b)
    (hstep : ∀ l a b1 b2, P l b1 → f b1 a = .ok b2 → P (l ++ [a]) b2) :
    ∀ {c : β}, l.foldlM f b = .ok c → P l c := by
  induction l using List.reverseRecOn with
  | nil =>
    intro c h
    obtain rfl := Except.ok.inj h
    exact hstart
  | append_singleton l a ih =>
    intro c h
    obtain ⟨b1, hbef, hlast⟩ := foldlM_append_ok.mp h
    obtain ⟨b2, hone, hnil⟩ := foldlM_cons_ok.mp hlast
    obtain rfl := Except.ok.inj hnil
    exact hstep l a b1 b2 (ih hbef) hone

theorem bind_error {γ : Type} {f : β → Except ε γ} :
    (x >>= f) = .error e ↔ x = .error e ∨ ∃ b, x = .ok b ∧ f b = .error e := by
  constructor
  · intro h
    cases x with
    | error e' => exact .inl (by cases h; rfl)
    | ok b => exact .inr ⟨b, rfl, h⟩
  · rintro (rfl | ⟨b, rfl, h⟩)
    · rfl
    · exact h

/-- **The step a fold fails at.** -/
theorem foldlM_error : ∀ {b : β}, l.foldlM f b = .error e → ∃ b' a, f b' a = .error e := by
  induction l with
  | nil => intro b h; cases h
  | cons a l ih =>
    intro b h
    rcases bind_error.mp h with h | ⟨b', -, h⟩
    · exact ⟨b, a, h⟩
    · exact ih h

theorem foldl_max_le (l : List Nat) : ∀ start,
    l.foldl max start ≤ bound ↔ start ≤ bound ∧ ∀ a ∈ l, a ≤ bound := by
  induction l with
  | nil => simp
  | cons a l ih => simp [ih, and_assoc]

section Related

variable {R : α → β → Prop} {xs : List α} {ys : List β}

theorem exists_related (h : Forall₂ R xs ys) (ha : a ∈ xs) : ∃ b ∈ ys, R a b := by
  induction h with
  | nil => cases ha
  | cons hhead _ ih =>
    rcases mem_cons.mp ha with rfl | ha
    · exact ⟨_, mem_cons_self, hhead⟩
    · obtain ⟨b, hb, hR⟩ := ih ha
      exact ⟨b, mem_cons_of_mem _ hb, hR⟩

theorem map_related {γ : Type} {f : α → γ} {g : β → γ} (h : Forall₂ R xs ys)
    (hsame : ∀ a b, R a b → g b = f a) : ys.map g = xs.map f := by
  induction h with
  | nil => rfl
  | cons hhead _ ih => exact congrArg₂ List.cons (hsame _ _ hhead) ih

end Related

/-- How many elements are read until the `k`-th match. -/
def consumed (p : α → Bool) : Nat → List α → Nat
  | _, [] => 0
  | k, x :: xs =>
    if p x then (if k = 1 then 1 else consumed p (k - 1) xs + 1) else consumed p k xs + 1

theorem consumed_le_length (p : α → Bool) (k : Nat) (l : List α) : consumed p k l ≤ l.length := by
  induction l generalizing k with
  | nil => simp [consumed]
  | cons x xs ih =>
    have h1 := ih (k - 1)
    have h2 := ih k
    simp only [consumed, length_cons]
    split <;> (try split) <;> omega

/-- **The matches read are the first `k`.** -/
theorem filter_take_consumed (p : α → Bool) (k : Nat) (l : List α) (hk : 1 ≤ k) :
    (l.take (consumed p k l)).filter p = (l.filter p).take k := by
  induction l generalizing k with
  | nil => simp
  | cons x xs ih =>
    simp only [consumed]
    cases hx : p x with
    | true =>
      by_cases h1 : k = 1
      · subst h1
        simp [hx]
      have hk' : k = (k - 1) + 1 := by omega
      rw [if_pos rfl, if_neg h1, take_succ_cons, filter_cons_of_pos hx,
        ih (k - 1) (by omega), filter_cons_of_pos hx]
      conv_rhs => rw [hk', take_succ_cons]
    | false =>
      rw [if_neg (by simp), take_succ_cons,
        filter_cons_of_neg (by simp [hx]), ih k hk,
        filter_cons_of_neg (by simp [hx])]

/-- **With fewer than `k` matches everything is read.** -/
theorem consumed_of_few (p : α → Bool) (k : Nat) (l : List α) (h : (l.filter p).length < k) :
    consumed p k l = l.length := by
  induction l generalizing k with
  | nil => simp [consumed]
  | cons x xs ih =>
    simp only [consumed, length_cons]
    cases hx : p x with
    | true =>
      rw [filter_cons_of_pos hx, length_cons] at h
      rw [if_pos rfl, if_neg (by omega), ih (k - 1) (by omega)]
    | false =>
      rw [filter_cons_of_neg (by simp [hx])] at h
      rw [if_neg (by simp), ih k h]

namespace SortedMap

variable {κ β : Type}

def contains [BEq κ] (key : κ) (entries : List (κ × β)) : Bool := (entries.lookup key).isSome

def erase [DecidableEq κ] (key : κ) (entries : List (κ × β)) : List (κ × β) :=
  entries.filter fun entry => entry.1 ≠ key

section Lookup

variable [BEq κ] [LawfulBEq κ]

theorem lookup_cons_of_ne (h : key ≠ k) (value : β) (rest : List (κ × β)) :
    ((k, value) :: rest).lookup key = rest.lookup key := by
  have hbeq : (key == k) = false := beq_false_of_ne h
  rw [lookup_cons, hbeq]

theorem mem_of_lookup {entries : List (κ × β)} (h : entries.lookup key = some value) :
    (key, value) ∈ entries := by
  obtain ⟨before, after, rfl, -⟩ := lookup_eq_some_iff.mp h
  simp

@[simp] theorem lookup_erase [DecidableEq κ] (key other : κ) : ∀ entries : List (κ × β),
    (erase key entries).lookup other = if other = key then none else entries.lookup other
  | [] => by simp [erase]
  | (k, v) :: rest => by
      have ih := lookup_erase key other rest
      unfold erase at ih ⊢
      by_cases hk : k = key
      · rw [filter_cons_of_neg (by simpa using hk), ih]
        split
        · rfl
        · next ho => rw [lookup_cons_of_ne (hk ▸ ho)]
      rw [filter_cons_of_pos (by simpa using hk)]
      by_cases ho : other = k
      · subst ho
        rw [if_neg hk, lookup_cons_self, lookup_cons_self]
      · rw [lookup_cons_of_ne ho, lookup_cons_of_ne ho, ih]

/-- A key is found exactly when it is one of the keys. -/
theorem contains_iff {entries : List (κ × β)} :
    contains key entries ↔ key ∈ entries.map Prod.fst := by
  simp [contains]

end Lookup

section Order

variable [LT κ] [DecidableEq κ] [DecidableLT κ]

/-- `insert_or_assign`. -/
def assign (key : κ) (value : β) : List (κ × β) → List (κ × β)
  | [] => [(key, value)]
  | (k, v) :: rest =>
    if key = k then (key, value) :: rest
    else if key < k then (key, value) :: (k, v) :: rest
    else (k, v) :: assign key value rest

@[simp] theorem lookup_assign_self [BEq κ] [LawfulBEq κ] (key : κ) (value : β) :
    ∀ entries : List (κ × β), (assign key value entries).lookup key = some value
  | [] => lookup_cons_self
  | (k, v) :: rest => by
      unfold assign
      split
      · exact lookup_cons_self
      rename_i hk
      split
      · exact lookup_cons_self
      · rw [lookup_cons_of_ne hk]
        exact lookup_assign_self key value rest

@[simp] theorem lookup_assign_of_ne [BEq κ] [LawfulBEq κ] (h : other ≠ key) (value : β) :
    ∀ entries : List (κ × β), (assign key value entries).lookup other = entries.lookup other
  | [] => lookup_cons_of_ne h _ _
  | (k, v) :: rest => by
      unfold assign
      split
      · next hk => rw [lookup_cons_of_ne h, lookup_cons_of_ne (hk ▸ h)]
      split
      · exact lookup_cons_of_ne h _ _
      by_cases ho : other = k
      · subst ho
        rw [lookup_cons_self, lookup_cons_self]
      · rw [lookup_cons_of_ne ho, lookup_cons_of_ne ho]
        exact lookup_assign_of_ne h value rest

/-- `insert`: an entry of that key stays. -/
def insert [BEq κ] (key : κ) (value : β) (entries : List (κ × β)) : List (κ × β) :=
  if contains key entries then entries else assign key value entries

@[simp] theorem lookup_insert_of_ne [BEq κ] [LawfulBEq κ] (h : other ≠ key)
    (value : β) (entries : List (κ × β)) :
    (insert key value entries).lookup other = entries.lookup other := by
  unfold insert
  split
  · rfl
  · exact lookup_assign_of_ne h value entries

/-- The entries after `assign`: the new one, and old ones. -/
theorem mem_assign : ∀ {entries : List (κ × β)}, entry ∈ assign key value entries →
      entry = (key, value) ∨ entry ∈ entries
  | [], h => Or.inl (mem_singleton.mp h)
  | (k, v) :: rest, h => by
      unfold assign at h
      split at h
      · rcases mem_cons.mp h with h | h
        · exact Or.inl h
        · exact Or.inr (mem_cons_of_mem _ h)
      · split at h
        · rcases mem_cons.mp h with h | h
          · exact Or.inl h
          · exact Or.inr h
        · rcases mem_cons.mp h with h | h
          · exact Or.inr (h ▸ mem_cons_self)
          · rcases mem_assign h with h | h
            · exact Or.inl h
            · exact Or.inr (mem_cons_of_mem _ h)

end Order

end SortedMap

end TgCli.Lib
