/-
  TgCli.Lib.Threads — THREADS ON A SHARED STATE

  A thread's program is a sequence of atomic steps: each one changes the shared
  state and goes on with what it saw before the change.  Threads take turns in any
  order; a thread whose call has ended starts the next one.

  `Meets J R G p P Q` is the rely–guarantee specification of a program: from `P`,
  as long as the invariant `J` holds and the others stay within `R`, every step
  stays within `G` and the end satisfies `Q`.

  Main results:
    * `meets_exchange`, `meets_bind` — the rules for one step and for sequence;
    * `Reached.sound` — threads whose guarantees are within each other's relies
      keep the invariant in every interleaving.
-/
import Mathlib.Logic.Function.Basic
import Mathlib.Logic.Relation

namespace TgCli.Lib

open Function

/-- A program of atomic steps. -/
inductive Act (S α : Type) where
  | done (a : α)
  | atom (f : S → S) (k : S → Act S α)

namespace Act

variable {S α β : Type}

def bind : Act S α → (α → Act S β) → Act S β
  | .done a, g => g a
  | .atom f k, g => .atom f fun s => (k s).bind g

instance : Monad (Act S) where
  pure := .done
  bind := bind

/-- One atomic step: the state becomes `f s`, and the answer is `r s`. -/
def exchange (f : S → S) (r : S → α) : Act S α := .atom f fun s => .done (r s)

/-- An atomic load. -/
def load (r : S → α) : Act S α := exchange id r

/-- An atomic store. -/
def store (f : S → S) : Act S Unit := exchange f fun _ => ()

/-- A step that is only taken under a condition. -/
def onlyIf (c : Prop) [Decidable c] (p : Act S Unit) : Act S Unit := if c then p else .done ()

/-- A test that is only made under a condition. -/
def test (c : Prop) [Decidable c] (p : Act S Bool) : Act S Bool := if c then p else .done false

/-! ## §1. Specifications. -/

/-- The others cannot make the assertion false. -/
def Stable (J : S → Prop) (R : S → S → Prop) (P : S → Prop) : Prop :=
  ∀ s s', J s → J s' → P s → R s s' → P s'

variable {J P : S → Prop} {R : S → S → Prop} {c : Prop} {p : Act S α} {Q : α → S → Prop}
  {g : α → Act S β} {f : S → S} {r : S → α}

theorem Stable.and {Q : S → Prop} (hP : Stable J R P)
    (hQ : Stable J R Q) : Stable J R fun s => P s ∧ Q s :=
  fun s s' hJ hJ' h hR => ⟨hP s s' hJ hJ' h.1 hR, hQ s s' hJ hJ' h.2 hR⟩

/-- A condition on what the thread has read. -/
theorem Stable.imp (hP : Stable J R P) : Stable J R fun s => c → P s :=
  fun s s' hJ hJ' h hR hc => hP s s' hJ hJ' (h hc) hR

theorem stable_const (c : Prop) : Stable J R fun _ => c :=
  fun _ _ _ _ h _ => h

/-- **Rely and guarantee.** -/
def Meets (J : S → Prop) (R G : S → S → Prop) : Act S α → (S → Prop) → (α → S → Prop) → Prop
  | .done a, P, Q => ∀ s, J s → P s → Q a s
  | .atom f k, P, Q => ∀ s, J s → P s →
      G s (f s) ∧ ∃ P', Stable J R P' ∧ P' (f s) ∧ (k s).Meets J R G P' Q

variable {J : S → Prop} {R G : S → S → Prop}

theorem Meets.mono {P' : S → Prop} (h : p.Meets J R G P Q)
    (hP : ∀ s, J s → P' s → P s) : p.Meets J R G P' Q := by
  cases p with
  | done a | atom f k => exact fun s hJ hs => h s hJ (hP s hJ hs)

/-- A fact about what was read before. -/
theorem meets_fact (h : c → p.Meets J R G P Q) : p.Meets J R G (fun s => c ∧ P s) Q := by
  cases p with
  | done a | atom f k => exact fun s hJ hs => h hs.1 s hJ hs.2

theorem meets_exists {γ : Type} {P : γ → S → Prop}
    (h : ∀ c, p.Meets J R G (P c) Q) : p.Meets J R G (fun s => ∃ c, P c s) Q := by
  cases p with
  | done a | atom f k => exact fun s hJ ⟨c, hs⟩ => h c s hJ hs

/-- The rule of sequence. -/
theorem meets_bind {Q' : β → S → Prop} :
    ∀ {P : S → Prop}, p.Meets J R G P Q → (∀ a, (g a).Meets J R G (Q a) Q') →
      (p >>= g).Meets J R G P Q' := by
  induction p with
  | done a =>
    intro P hp hg
    exact (hg a).mono hp
  | atom f k ih =>
    intro P hp hg s hJ hs
    obtain ⟨hguar, P', hstab, hafter, hrest⟩ := hp s hJ hs
    exact ⟨hguar, P', hstab, hafter, ih s hrest hg⟩

variable {A : α → S → Prop}

/-- The rule of one step: `A` is what is known afterwards, for each answer. -/
theorem meets_exchange {Q : β → S → Prop}
    (hguar : ∀ s, J s → P s → G s (f s)) (hstab : ∀ a, Stable J R (A a))
    (hafter : ∀ s, J s → P s → A (r s) (f s))
    (hrest : ∀ a, (g a).Meets J R G (A a) Q) : (exchange f r >>= g).Meets J R G P Q :=
  fun s hJ hs => ⟨hguar s hJ hs, A (r s), hstab (r s), hafter s hJ hs, hrest (r s)⟩

theorem meets_load {Q : β → S → Prop} (hguar : ∀ s, J s → P s → G s s)
    (hstab : ∀ a, Stable J R (A a)) (hafter : ∀ s, J s → P s → A (r s) s)
    (hrest : ∀ a, (g a).Meets J R G (A a) Q) : (load r >>= g).Meets J R G P Q :=
  meets_exchange hguar hstab hafter hrest

/-- A load that leaves what is known. -/
theorem meets_look {Q : β → S → Prop} (hrefl : ∀ s, J s → G s s) (hP : Stable J R P)
    (hrest : ∀ a, (g a).Meets J R G P Q) : (load r >>= g).Meets J R G P Q :=
  meets_load (fun s hJ _ => hrefl s hJ) (fun _ => hP) (fun _ _ h => h) hrest

/-- A load that is remembered. -/
theorem meets_note {N : α → S → Prop} {Q : β → S → Prop} (hrefl : ∀ s, J s → G s s)
    (hP : Stable J R P) (hN : ∀ a, Stable J R (N a)) (hnow : ∀ s, N (r s) s)
    (hrest : ∀ a, (g a).Meets J R G (fun s => P s ∧ N a s) Q) : (load r >>= g).Meets J R G P Q :=
  meets_load (fun s hJ _ => hrefl s hJ) (fun a => hP.and (hN a)) (fun s _ h => ⟨h, hnow s⟩) hrest

/-- The rule of a compare-and-exchange. -/
theorem meets_compare {d : S → Prop} [DecidablePred d] {Q : β → S → Prop}
    (hrefl : ∀ s, J s → G s s) (hset : ∀ s, J s → P s → d s → G s (f s) ∧ A (r s) (f s))
    (hsame : ∀ s, J s → P s → ¬ d s → A (r s) s) (hstab : ∀ a, Stable J R (A a))
    (hrest : ∀ a, (g a).Meets J R G (A a) Q) :
    (exchange (fun s => if d s then f s else s) r >>= g).Meets J R G P Q := by
  have hstep : ∀ s, J s → P s → G s (if d s then f s else s) ∧ A (r s) (if d s then f s else s) := by
    intro s hJ hs
    by_cases hd : d s
    · rw [if_pos hd]
      exact hset s hJ hs hd
    · rw [if_neg hd]
      exact ⟨hrefl s hJ, hsame s hJ hs hd⟩
  exact meets_exchange (fun s hJ hs => (hstep s hJ hs).1) hstab
    (fun s hJ hs => (hstep s hJ hs).2) hrest

theorem meets_compare_last {d : S → Prop} [DecidablePred d] (hrefl : ∀ s, J s → G s s)
    (hset : ∀ s, J s → P s → d s → G s (f s) ∧ Q (r s) (f s))
    (hsame : ∀ s, J s → P s → ¬ d s → Q (r s) s) (hstab : ∀ a, Stable J R (Q a)) :
    (exchange (fun s => if d s then f s else s) r).Meets J R G P Q :=
  meets_compare (g := pure) hrefl hset hsame hstab fun _ _ _ h => h

theorem meets_store {g : Unit → Act S β} {A : S → Prop} {Q : β → S → Prop}
    (hguar : ∀ s, J s → P s → G s (f s)) (hstab : Stable J R A)
    (hafter : ∀ s, J s → P s → A (f s)) (hrest : (g ()).Meets J R G A Q) :
    (store f >>= g).Meets J R G P Q :=
  meets_exchange (A := fun _ => A) hguar (fun _ => hstab) hafter fun _ => hrest

/-- The last step of a program. -/
theorem meets_last (hguar : ∀ s, J s → P s → G s (f s)) (hstab : ∀ a, Stable J R (Q a))
    (hafter : ∀ s, J s → P s → Q (r s) (f s)) : (exchange f r).Meets J R G P Q :=
  fun s hJ hs => ⟨hguar s hJ hs, Q (r s), hstab (r s), hafter s hJ hs, fun _ _ h => h⟩

theorem meets_done (h : ∀ s, J s → P s → Q a s) : (pure a : Act S α).Meets J R G P Q := h

theorem Meets.post {Q' : α → S → Prop} :
    ∀ {P : S → Prop}, p.Meets J R G P Q → (∀ a s, J s → Q a s → Q' a s) → p.Meets J R G P Q' := by
  induction p with
  | done a => exact fun h hQ s hJ hs => hQ a s hJ (h s hJ hs)
  | atom f k ih =>
    intro P h hQ s hJ hs
    obtain ⟨hguar, P', hstab, hafter, hrest⟩ := h s hJ hs
    exact ⟨hguar, P', hstab, hafter, ih s hrest hQ⟩

/-- What no step of the thread and none of the others changes. -/
theorem Meets.keep {F : S → Prop} (hF : Stable J R F)
    (hkeep : ∀ s s', J s → F s → G s s' → F s') :
    ∀ {P : S → Prop}, p.Meets J R G P Q → p.Meets J R G (fun s => P s ∧ F s) fun a s => Q a s ∧ F s := by
  induction p with
  | done a => exact fun h s hJ hs => ⟨h s hJ hs.1, hs.2⟩
  | atom f k ih =>
    intro P h s hJ hs
    obtain ⟨hguar, P', hstab, hafter, hrest⟩ := h s hJ hs.1
    exact ⟨hguar, _, hstab.and hF, ⟨hafter, hkeep s (f s) hJ hs.2 hguar⟩, ih s hrest⟩

/-- A thread that may do more. -/
theorem Meets.may {G' : S → S → Prop} (hG : ∀ s s', G s s' → G' s s') :
    ∀ {P : S → Prop}, p.Meets J R G P Q → p.Meets J R G' P Q := by
  induction p with
  | done a => exact fun h => h
  | atom f k ih =>
    intro P h s hJ hs
    obtain ⟨hguar, P', hstab, hafter, hrest⟩ := h s hJ hs
    exact ⟨hG s (f s) hguar, P', hstab, hafter, ih s hrest⟩

theorem meets_onlyIf [Decidable c] {p : Act S Unit} {Q : S → Prop}
    (hp : c → p.Meets J R G P fun _ => Q) (hskip : ¬ c → ∀ s, J s → P s → Q s) :
    (onlyIf c p).Meets J R G P fun _ => Q := by
  unfold onlyIf
  by_cases hc : c
  · rw [if_pos hc]
    exact hp hc
  · rw [if_neg hc]
    exact hskip hc

theorem meets_test [Decidable c] {p : Act S Bool} {Q : Bool → S → Prop} (hp : c → p.Meets J R G P Q)
    (hskip : ¬ c → ∀ s, J s → P s → Q false s) : (test c p).Meets J R G P Q := by
  unfold test
  by_cases hc : c
  · rw [if_pos hc]
    exact hp hc
  · rw [if_neg hc]
    exact hskip hc

theorem meets_ite [Decidable c] {q : Act S α} (hp : c → p.Meets J R G P Q)
    (hq : ¬ c → q.Meets J R G P Q) : (if c then p else q).Meets J R G P Q := by
  by_cases hc : c
  · rw [if_pos hc]
    exact hp hc
  · rw [if_neg hc]
    exact hq hc

/-- The result of a call does not matter to the thread. -/
def forget (p : Act S α) : Act S Unit := p >>= fun _ => .done ()

theorem Meets.forget {Q : S → Prop}
    (h : p.Meets J R G P fun _ => Q) : p.forget.Meets J R G P fun _ => Q :=
  meets_bind h fun _ _ _ hs => hs

/-! ## §2. Interleavings. -/

variable {ι : Type} [DecidableEq ι]

/-- **One thread takes a step**, or starts its next call. -/
inductive Turn (calls : ι → Act S Unit → Prop) :
    S × (ι → Act S Unit) → S × (ι → Act S Unit) → Prop
  | run {s : S} {threads : ι → Act S Unit} (i : ι) {f : S → S} {k : S → Act S Unit}
      (h : threads i = .atom f k) :
      Turn calls (s, threads) (f s, update threads i (k s))
  | next {s : S} {threads : ι → Act S Unit} (i : ι) {p : Act S Unit}
      (h : threads i = .done ()) (hp : calls i p) :
      Turn calls (s, threads) (s, update threads i p)

/-- What every interleaving from `s₀` can reach, with all threads idle at first. -/
def Reached (calls : ι → Act S Unit → Prop) (s₀ s : S) (threads : ι → Act S Unit) : Prop :=
  Relation.ReflTransGen (Turn calls) (s₀, fun _ => .done ()) (s, threads)

/-- The state after a program that runs alone. -/
def final : Act S α → S → S
  | .done _, s => s
  | .atom f k, s => (k s).final (f s)

/-- A thread can run a whole call while the others wait. -/
theorem Reached.call {calls : ι → Act S Unit → Prop} {s₀ s : S}
    (h : Reached calls s₀ s fun _ => .done ()) (i : ι) {p : Act S Unit} (hp : calls i p) :
    Reached calls s₀ (p.final s) fun _ => .done () := by
  have hrun : ∀ (p : Act S Unit) (s : S),
      Reached calls s₀ s (update (fun _ => .done ()) i p) →
      Reached calls s₀ (p.final s) fun _ => .done () := by
    intro p
    induction p with
    | done a =>
      intro s hs
      rwa [update_eq_self] at hs
    | atom f k ih =>
      intro s hs
      have hturn : Turn calls (s, update (fun _ => .done ()) i (.atom f k)) _ :=
        .run i (update_self ..)
      rw [update_idem] at hturn
      exact ih s (f s) (hs.tail hturn)
  exact hrun p s (h.tail (.next i rfl hp))

/-- **Soundness.**  What no guarantee breaks holds in every interleaving, and a thread
between two calls finds what its calls leave. -/
theorem Reached.sound {calls : ι → Act S Unit → Prop} {R G : ι → S → S → Prop}
    {I : ι → S → Prop} (hstart : J s₀) (hidle0 : ∀ i, I i s₀)
    (hinvariant : ∀ i s s', J s → G i s s' → J s')
    (hoths : ∀ i j, i ≠ j → ∀ s s', J s → G i s s' → R j s s')
    (hidle : ∀ i, Stable J (R i) (I i))
    (hcalls : ∀ i p, calls i p → p.Meets J (R i) (G i) (I i) fun _ => I i)
    {threads : ι → Act S Unit} (h : Reached calls s₀ s threads) :
    J s ∧ ∀ i, threads i = .done () → I i s := by
  -- every thread is somewhere in a program that meets its specification
  have hkept : ∀ config, Relation.ReflTransGen (Turn calls) (s₀, fun _ => .done ()) config →
      J config.1 ∧ ∀ i, ∃ P, Stable J (R i) P ∧ P config.1
        ∧ (config.2 i).Meets J (R i) (G i) P fun _ => I i := by
    intro config hrch
    induction hrch with
    | refl => exact ⟨hstart, fun i => ⟨I i, hidle i, hidle0 i, fun _ _ hs => hs⟩⟩
    | tail _ hturn ih =>
      obtain ⟨hJ, hthreads⟩ := ih
      cases hturn with
      | @run s threads i f k hi =>
        obtain ⟨P, -, hP, hmeets⟩ := hthreads i
        have hstep := hmeets
        rw [show (s, threads).2 i = .atom f k from hi] at hstep
        obtain ⟨hguar, P', hstab', hafter, hrest⟩ := hstep s hJ hP
        have hJ' := hinvariant i s (f s) hJ hguar
        refine ⟨hJ', fun j => ?_⟩
        by_cases hij : j = i
        · subst hij
          refine ⟨P', hstab', hafter, ?_⟩
          show (update threads j (k s) j).Meets _ _ _ _ _
          rw [update_self]
          exact hrest
        · obtain ⟨Pj, hstab, hPj, hmeetsj⟩ := hthreads j
          refine ⟨Pj, hstab, hstab s (f s) hJ hJ' hPj ?_, ?_⟩
          · exact hoths i j (Ne.symm hij) s (f s) hJ hguar
          · show (update threads i (k s) j).Meets _ _ _ _ _
            rw [update_of_ne hij]
            exact hmeetsj
      | @next s threads i p hi hp =>
        refine ⟨hJ, fun j => ?_⟩
        obtain ⟨Pj, hstab, hPj, hmeetsj⟩ := hthreads j
        by_cases hij : j = i
        · subst hij
          have hend := hmeetsj
          rw [show (s, threads).2 j = .done () from hi] at hend
          refine ⟨I j, hidle j, hend s hJ hPj, ?_⟩
          show (update threads j p j).Meets _ _ _ _ _
          rw [update_self]
          exact hcalls j p hp
        · refine ⟨Pj, hstab, hPj, ?_⟩
          show (update threads i p j).Meets _ _ _ _ _
          rw [update_of_ne hij]
          exact hmeetsj
  obtain ⟨hJ, hthreads⟩ := hkept (s, threads) h
  refine ⟨hJ, fun i hdone => ?_⟩
  obtain ⟨P, -, hP, hmeets⟩ := hthreads i
  have hend := hmeets
  rw [show (s, threads).2 i = .done () from hdone] at hend
  exact hend s hJ hP

end Act
end TgCli.Lib
