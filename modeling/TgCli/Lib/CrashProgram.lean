/-
  TgCli.Lib.CrashProgram — PROGRAMS THAT CAN BE CUT

  A program looks at a state, makes calls on it and goes on with their
  results.  What a call may answer and leave is a relation (`exec`), and so is
  what a crash inside the call may leave (`cut`).

    `Ends C p s a s'` — the program can end with `a` in `s'`;
    `Cut C p s s'`    — a crash at some point of the program can leave `s'`.

  `Triple C p s I Q` joins the two: every state a crash can leave satisfies
  `I`, every end satisfies `Q`.  The rules `triple_done`, `triple_look`,
  `triple_call`, `triple_ite`, `triple_bind` follow the program's shape.  `Prog.run` is the
  execution in which every call answers as told.
-/
import Mathlib.Logic.Relation

namespace TgCli.Lib

/-- What the calls of a program can do. -/
structure Calls (S : Type) {Op : Type} (R : Op → Type) where
  exec : (op : Op) → S → R op → S → Prop
  cut : Op → S → S → Prop

/-- A program over states `S` with calls `Op` answered in `R`. -/
inductive Prog (S : Type) {Op : Type} (R : Op → Type) (α : Type) where
  | done (a : α)
  | look (f : S → Prog S R α)
  | call (op : Op) (k : R op → Prog S R α)

namespace Prog

variable {S Op : Type} {R : Op → Type} {α β : Type}

/-- One program after another. -/
def bind : Prog S R α → (α → Prog S R β) → Prog S R β
  | .done a, f => f a
  | .look g, f => .look fun s => (g s).bind f
  | .call op k, f => .call op fun r => (k r).bind f

/-- The execution in which every call answers as `answer` says. -/
def run (answer : (op : Op) → S → R op × S) : Prog S R α → S → α × S
  | .done a, s => (a, s)
  | .look f, s => (f s).run answer s
  | .call op k, s => (k (answer op s).1).run answer (answer op s).2

theorem run_bind (answer : (op : Op) → S → R op × S) (p : Prog S R α) (f : α → Prog S R β) :
    ∀ s, (p.bind f).run answer s = (f (p.run answer s).1).run answer (p.run answer s).2 := by
  induction p with
  | done a => intro s; rfl
  | look g ih => intro s; exact ih s s
  | call op k ih => intro s; exact ih _ _

/-- The program can end with this value in this state. -/
inductive Ends (C : Calls S R) : Prog S R α → S → α → S → Prop
  | done (a : α) (s : S) : Ends C (.done a) s a s
  | look {f : S → Prog S R α} {s s' : S} {a : α} (h : Ends C (f s) s a s') :
      Ends C (.look f) s a s'
  | call {op : Op} {k : R op → Prog S R α} {s s₁ s' : S} {r : R op} {a : α}
      (hexec : C.exec op s r s₁) (h : Ends C (k r) s₁ a s') : Ends C (.call op k) s a s'

/-- A crash at some point of the program can leave this state. -/
inductive Cut (C : Calls S R) : Prog S R α → S → S → Prop
  | here (p : Prog S R α) (s : S) : Cut C p s s
  | look {f : S → Prog S R α} {s s' : S} (h : Cut C (f s) s s') : Cut C (.look f) s s'
  | inside {op : Op} {k : R op → Prog S R α} {s s' : S} (hcut : C.cut op s s') :
      Cut C (.call op k) s s'
  | call {op : Op} {k : R op → Prog S R α} {s s₁ s' : S} {r : R op}
      (hexec : C.exec op s r s₁) (h : Cut C (k r) s₁ s') : Cut C (.call op k) s s'

/-! ## §1. Triples. -/

/-- **Crash states satisfy `I`, ends satisfy `Q`.** -/
structure Triple (C : Calls S R) (p : Prog S R α) (s : S) (I : S → Prop) (Q : α → S → Prop) :
    Prop where
  cut : ∀ s', Cut C p s s' → I s'
  ends : ∀ a s', Ends C p s a s' → Q a s'

variable {C : Calls S R} {I : S → Prop}

variable {s : S} {Q : α → S → Prop} {p : Prog S R α} {f : α → Prog S R β}

theorem triple_done (hI : I s) (hQ : Q a s) : Triple C (.done a) s I Q := by
  refine ⟨?_, ?_⟩
  · intro s' h
    cases h with
    | here => exact hI
  · intro b s' h
    cases h with
    | done => exact hQ

theorem triple_look {f : S → Prog S R α} (h : Triple C (f s) s I Q) : Triple C (.look f) s I Q := by
  refine ⟨?_, ?_⟩
  · intro s' hc
    cases hc with
    | here => exact h.cut s (.here _ _)
    | look hc => exact h.cut s' hc
  · intro a s' he
    cases he with
    | look he => exact h.ends a s' he

theorem triple_call {k : R op → Prog S R α} (hI : I s) (hcut : ∀ s', C.cut op s s' → I s')
    (hexec : ∀ r s', C.exec op s r s' → Triple C (k r) s' I Q) : Triple C (.call op k) s I Q := by
  refine ⟨?_, ?_⟩
  · intro s' hc
    cases hc with
    | here => exact hI
    | inside hc => exact hcut s' hc
    | call he hc => exact (hexec _ _ he).cut s' hc
  · intro a s' he
    cases he with
    | call he h => exact (hexec _ _ he).ends a s' h

theorem triple_ite [Decidable c] (hp : c → Triple C p s I Q)
    (hq : ¬ c → Triple C q s I Q) : Triple C (if c then p else q) s I Q := by
  by_cases hc : c
  · rw [if_pos hc]
    exact hp hc
  · rw [if_neg hc]
    exact hq hc

theorem Triple.mono {J : S → Prop} {Q' : α → S → Prop} (h : Triple C p s J Q)
    (hI : ∀ s', J s' → I s') (hQ : ∀ a s', Q a s' → Q' a s') : Triple C p s I Q' :=
  ⟨fun s' hc => hI s' (h.cut s' hc), fun a s' he => hQ a s' (h.ends a s' he)⟩

/-- The rule of sequence. -/
theorem triple_bind {Q' : β → S → Prop} :
    ∀ {s : S}, Triple C p s I Q → (∀ a s', Q a s' → Triple C (f a) s' I Q') →
      Triple C (p.bind f) s I Q' := by
  induction p with
  | done a => intro s hp hf; exact hf a s (hp.ends a s (.done a s))
  | look g ih =>
    intro s hp hf
    refine triple_look (ih s ?_ hf)
    exact ⟨fun s' hc => hp.cut s' (.look hc), fun a s' he => hp.ends a s' (.look he)⟩
  | call op k ih =>
    intro s hp hf
    refine triple_call (hp.cut s (.here _ _)) (fun s' hc => hp.cut s' (.inside hc)) ?_
    intro r s' he
    refine ih r ?_ hf
    exact ⟨fun s'' hc => hp.cut s'' (.call he hc), fun a s'' h => hp.ends a s'' (.call he h)⟩

/-- An execution is one of the program's ends. -/
theorem ends_run {answer : (op : Op) → S → R op × S}
    (hans : ∀ op s, C.exec op s (answer op s).1 (answer op s).2) (p : Prog S R α) :
    ∀ s, Ends C p s (p.run answer s).1 (p.run answer s).2 := by
  induction p with
  | done a => intro s; exact .done a s
  | look f ih => intro s; exact .look (ih s s)
  | call op k ih => intro s; exact .call (hans op s) (ih _ _)

/-- The state after the first `n` calls, when every call answers as told. -/
def crashAfter (answer : (op : Op) → S → R op × S) : Prog S R α → Nat → S → S
  | .done _, _, s => s
  | .look f, n, s => (f s).crashAfter answer n s
  | .call _ _, 0, s => s
  | .call op k, n + 1, s => (k (answer op s).1).crashAfter answer n (answer op s).2

theorem cut_crashAfter {answer : (op : Op) → S → R op × S}
    (hans : ∀ op s, C.exec op s (answer op s).1 (answer op s).2) (p : Prog S R α) :
    ∀ n s, Cut C p s (p.crashAfter answer n s) := by
  induction p with
  | done a => intro n s; exact .here _ _
  | look f ih => intro n s; exact .look (ih s n s)
  | call op k ih =>
    intro n s
    cases n with
    | zero => exact .here _ _
    | succ n => exact .call (hans op s) (ih _ n _)

/-- A crash after the first of two programs ended. -/
theorem Ends.cut_bind (h : Ends C p s a s₁) (hcut : Cut C (f a) s₁ s') : Cut C (p.bind f) s s' := by
  induction h with
  | done a s => exact hcut
  | look h ih => exact .look (ih hcut)
  | call hexec h ih => exact .call hexec (ih hcut)

theorem Ends.of_bind : ∀ {p : Prog S R α} {s s' : S} {b : β}, Ends C (p.bind f) s b s' →
    ∃ a s₁, Ends C p s a s₁ ∧ Ends C (f a) s₁ b s' := by
  intro p
  induction p with
  | done a => exact fun h => ⟨a, _, .done a _, h⟩
  | look g ih =>
    intro s s' b h
    cases h with
    | look h =>
      obtain ⟨a, s₁, hp, hf⟩ := ih s h
      exact ⟨a, s₁, .look hp, hf⟩
  | call op k ih =>
    intro s s' b h
    cases h with
    | call hexec h =>
      obtain ⟨a, s₁, hp, hf⟩ := ih _ h
      exact ⟨a, s₁, .call hexec hp, hf⟩

/-! ## §2. Frames. -/

/-- Every call the program can make satisfies `P`. -/
inductive AllCalls (P : Op → Prop) : Prog S R α → Prop
  | done (a : α) : AllCalls P (.done a)
  | look {f : S → Prog S R α} (h : ∀ s, AllCalls P (f s)) : AllCalls P (.look f)
  | call {op : Op} {k : R op → Prog S R α} (hop : P op) (h : ∀ r, AllCalls P (k r)) :
      AllCalls P (.call op k)

theorem AllCalls.bind {P : Op → Prop} (hp : AllCalls P p)
    (hf : ∀ a, AllCalls P (f a)) : AllCalls P (p.bind f) := by
  induction hp with
  | done a => exact hf a
  | look h ih => exact .look ih
  | call hop h ih => exact .call hop ih

/-- **What every call keeps, the program keeps.** -/
theorem AllCalls.ends_keep {P : Op → Prop} {γ : Type} {f : S → γ}
    (hkeep : ∀ op, P op → ∀ s r s', C.exec op s r s' → f s' = f s)
    (hp : AllCalls P p) : ∀ {s s' : S} {a : α}, Ends C p s a s' → f s' = f s := by
  induction hp with
  | done a =>
    intro s s' b he
    cases he
    rfl
  | look h ih =>
    intro s s' b he
    cases he with
    | look he => exact ih s he
  | call hop h ih =>
    intro s s' b he
    cases he with
    | call hexec he => exact (ih _ he).trans (hkeep _ hop _ _ _ hexec)

end Prog
end TgCli.Lib
