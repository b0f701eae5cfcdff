/-
  TgCli.Lib.Volume — A DIRECTORY AND WHAT A POWER LOSS LEAVES OF IT

  One directory of a file system, as the calls of a `TgCli.Lib.CrashProgram`.
  A name stands for a file by its number, so that a file that is renamed stays
  the same file.

  Two things are not on the disk until they are synced: the content of a file,
  of which a power loss leaves a part, and the changes of the directory, which
  reach the disk in their order, so that a power loss leaves the directory as
  it was at some moment since the last `syncDirectory` (`past`).

  Main results:
    * `Guarded` — what every directory a power loss can leave satisfies;
    * `Guarded.create`, `.setNode`, `.rename`, `.unlink`, `.settle` — how the
      calls keep it;
    * `Guarded.lost` — a power loss keeps it.
-/
import Mathlib.Logic.Function.Basic
import TgCli.Lib.CrashProgram

namespace TgCli.Lib

open Option Function

/-- A file. -/
structure Node where
  regular : Bool := true
  owner : Nat
  mode : BitVec 12
  links : Nat := 1
  content : ByteArray := .empty
  /-- the content is on the disk -/
  synced : Bool := false

/-- What `fstat` and `fstatat` show of a file. -/
structure Stat where
  node : Nat
  regular : Bool
  owner : Nat
  mode : BitVec 12
  links : Nat
  size : Nat
deriving DecidableEq

/-- A directory with the names `N`. -/
structure Volume (N : Type) where
  names : N → Option Nat
  /-- the earlier directories that a power loss can bring back -/
  past : List (N → Option Nat) := []
  nodes : Nat → Node
  next : Nat

/-- The process that makes the calls. -/
structure Process where
  owner : Nat
  umask : BitVec 12

namespace Volume

variable {N : Type}

/-- What `stat` shows of a file.  The link count is one of the directory, so a
file whose name is gone keeps it for the directories that still have it. -/
def stat (v : Volume N) (n : Nat) : Stat :=
  ⟨n, (v.nodes n).regular, (v.nodes n).owner, (v.nodes n).mode, (v.nodes n).links,
    (v.nodes n).content.size⟩

/-- The file a name stands for. -/
def file (v : Volume N) (name : N) : Option Node := (v.names name).map v.nodes

def setNode (v : Volume N) (n : Nat) (node : Node) : Volume N :=
  { v with nodes := update v.nodes n node }

/-- The directory is changed; the one of before can come back. -/
def relink (v : Volume N) (names : N → Option Nat) : Volume N :=
  { v with names := names, past := v.names :: v.past }

/-- The directory is on the disk. -/
def settle (v : Volume N) : Volume N := { v with past := [] }

def append (v : Volume N) (n : Nat) (bytes : ByteArray) : Volume N :=
  v.setNode n { v.nodes n with content := (v.nodes n).content ++ bytes, synced := false }

@[simp] theorem setNode_same (v : Volume N) (n : Nat) (node : Node) :
    (v.setNode n node).nodes n = node := by
  simp [setNode]

theorem setNode_other (v : Volume N) (node : Node) (h : m ≠ n) :
    (v.setNode n node).nodes m = v.nodes m := by
  simp [setNode, h]

variable [DecidableEq N]

/-- A new file under a name. -/
def create (v : Volume N) (name : N) (node : Node) : Volume N :=
  { (v.setNode v.next node).relink (update v.names name (some v.next)) with
    next := v.next + 1 }

theorem create_same (v : Volume N) (name : N) (node : Node) :
    (v.create name node).names name = some v.next := by
  simp [create, relink]

theorem create_other (v : Volume N) (node : Node) (h : name' ≠ name) :
    (v.create name node).names name' = v.names name' := by
  simp [create, relink, h]

/-- The directory after a rename of file `n`. -/
def renamed (v : Volume N) (source target : N) (n : Nat) : N → Option Nat :=
  update (update v.names target (some n)) source none

end Volume

/-! ## §1. Calls. -/

inductive VolumeOp (N : Type) where
  /-- a call with no other result than whether it succeeds -/
  | check
  /-- `fstatat` -/
  | stat (name : N)
  /-- `openat` for reading -/
  | openFile (name : N)
  | fstat (n : Nat)
  /-- the whole content of an open file -/
  | read (n : Nat)
  /-- `openat` with `O_CREAT | O_EXCL` -/
  | create (name : N) (mode : BitVec 12)
  | chmod (n : Nat) (mode : BitVec 12)
  /-- `write` at the end of an open file -/
  | write (n : Nat) (bytes : ByteArray)
  /-- `fsync` of a file -/
  | syncFile (n : Nat)
  | rename (source target : N)
  | unlink (name : N)
  /-- `fsync` of the directory -/
  | syncDirectory

namespace VolumeOp

variable {N : Type}

/-- What a call answers: `stat` tells an absent name from a failure, `write` the
number of bytes it wrote. -/
@[reducible] def Answer : VolumeOp N → Type
  | stat _ => Option (Option Stat)
  | openFile _ => Option Nat
  | fstat _ => Option Stat
  | read _ => Option ByteArray
  | create _ _ => Option Nat
  | write _ _ => Nat
  | _ => Bool

/-- The answer of a call that fails. -/
def refusal : (op : VolumeOp N) → op.Answer
  | stat _ => none
  | openFile _ => none
  | fstat _ => none
  | read _ => none
  | create _ _ => none
  | write _ _ => (0 : Nat)
  | check | chmod _ _ | syncFile _ | rename _ _ | unlink _ | syncDirectory => false

/-- A call that changes nothing. -/
def looks : VolumeOp N → Bool
  | check | stat _ | openFile _ | fstat _ | read _ => true
  | _ => false

variable [DecidableEq N] (P : Process)

/-- What a call that succeeds answers and does; `none` when it has to fail. -/
def effect : (op : VolumeOp N) → Volume N → Option (op.Answer × Volume N)
  | check, v => some (true, v)
  | stat name, v => some (some ((v.names name).map v.stat), v)
  | openFile name, v => (v.names name).map fun n => (some n, v)
  | fstat n, v => some (some (v.stat n), v)
  | read n, v => some (some (v.nodes n).content, v)
  | create name mode, v =>
    match v.names name with
    | some _ => none
    | none => some (some v.next, v.create name { owner := P.owner, mode := mode &&& ~~~P.umask })
  | chmod n mode, v => some (true, v.setNode n { v.nodes n with mode := mode })
  | write n bytes, v => some (bytes.size, v.append n bytes)
  | syncFile n, v => some (true, v.setNode n { v.nodes n with synced := true })
  | rename source target, v =>
    (v.names source).map fun n => (true, v.relink (v.renamed source target n))
  | unlink name, v =>
    (v.names name).map fun _ => (true, v.relink (update v.names name none))
  | syncDirectory, v => some (true, v.settle)

/-- A write can end early. -/
def short : (op : VolumeOp N) → Volume N → op.Answer → Volume N → Prop
  | write n bytes, v, count, v' =>
    (count : Nat) ≤ bytes.size ∧ v' = v.append n (bytes.extract 0 count)
  | _, _, _, _ => False

/-- The answer of a call that succeeds if it can. -/
def answer (op : VolumeOp N) (v : Volume N) : op.Answer × Volume N :=
  (op.effect P v).getD (op.refusal, v)

end VolumeOp

variable {N : Type} [DecidableEq N]

/-- **Every call can fail, and a crash can hit every call.** -/
def volumeCalls (N : Type) [DecidableEq N] (P : Process) :
    Calls (Volume N) (VolumeOp.Answer (N := N)) where
  exec op v r v' :=
    op.effect P v = some (r, v') ∨ (r = op.refusal ∧ v' = v) ∨ op.short v r v'
  cut op v v' := v' = v ∨ ∃ r, op.effect P v = some (r, v') ∨ op.short v r v'

variable {P : Process} {v v' : Volume N}

theorem volume_answer_exec (op : VolumeOp N) (v : Volume N) :
    (volumeCalls N P).exec op v (op.answer P v).1 (op.answer P v).2 := by
  unfold VolumeOp.answer
  cases h : op.effect P v with
  | some r => exact .inl h
  | none => exact .inr (.inl ⟨rfl, rfl⟩)

variable {op : VolumeOp N}

/-- A call that looks answers what it sees, or fails. -/
theorem exec_looks (hop : op.looks) {r : op.Answer}
    (h : (volumeCalls N P).exec op v r v') :
    v' = v ∧ (r = op.refusal ∨ op.effect P v = some (r, v)) := by
  have hsame : ∀ r', op.effect P v = some (r', v') → v' = v := by
    intro r' heff
    cases op with
    | check | stat name | fstat n | read n => exact (congrArg Prod.snd (some.inj heff)).symm
    | openFile name =>
      obtain ⟨n, -, hn⟩ := map_eq_some_iff.mp heff
      exact (congrArg Prod.snd hn).symm
    | _ => cases hop
  rcases h with heff | ⟨hr, hv⟩ | hsh
  · obtain rfl := hsame r heff
    exact ⟨rfl, .inr heff⟩
  · exact ⟨hv, .inl hr⟩
  · cases op with
    | write n bytes => cases hop
    | _ => exact hsh.elim

theorem cut_looks (hop : op.looks) (h : (volumeCalls N P).cut op v v') :
    v' = v := by
  rcases h with hv | ⟨r, heff | hsh⟩
  · exact hv
  · exact (exec_looks (P := P) hop (.inl heff)).1
  · exact (exec_looks (P := P) hop (.inr (.inr hsh))).1

/-- The rule for a call that looks. -/
theorem triple_looks {α : Type} (hop : op.looks)
    {k : op.Answer → Prog (Volume N) VolumeOp.Answer α} {I : Volume N → Prop}
    {Q : α → Volume N → Prop} (hI : I v)
    (href : Prog.Triple (volumeCalls N P) (k op.refusal) v I Q)
    (hans : ∀ r, op.effect P v = some (r, v) → Prog.Triple (volumeCalls N P) (k r) v I Q) :
    Prog.Triple (volumeCalls N P) (.call op k) v I Q := by
  refine Prog.triple_call hI (fun v' hcut => ?_) fun r v' hexec => ?_
  · obtain rfl := cut_looks hop hcut
    exact hI
  · obtain ⟨rfl, rfl | heff⟩ := exec_looks hop hexec
    · exact href
    · exact hans r heff

/-- The rule for a call that changes the volume at once or not at all. -/
theorem triple_change {α : Type} (hop : ∀ (v v' : Volume N) r, ¬ op.short v r v')
    {k : op.Answer → Prog (Volume N) VolumeOp.Answer α} {I : Volume N → Prop}
    {Q : α → Volume N → Prop} (hI : I v)
    (href : Prog.Triple (volumeCalls N P) (k op.refusal) v I Q)
    (hdone : ∀ r v', op.effect P v = some (r, v') →
      I v' ∧ Prog.Triple (volumeCalls N P) (k r) v' I Q) :
    Prog.Triple (volumeCalls N P) (.call op k) v I Q := by
  refine Prog.triple_call hI (fun v' hcut => ?_) fun r v' hexec => ?_
  · rcases hcut with rfl | ⟨r, heff | hsh⟩
    · exact hI
    · exact (hdone r v' heff).1
    · exact absurd hsh (hop v v' r)
  · rcases hexec with heff | ⟨rfl, rfl⟩ | hsh
    · exact (hdone r v' heff).2
    · exact href
    · exact absurd hsh (hop v v' r)

/-! ## §2. Power losses. -/

namespace Volume

omit [DecidableEq N]

/-- A directory that a power loss can leave. -/
def Reaches (v : Volume N) (names : N → Option Nat) : Prop :=
  names = v.names ∨ names ∈ v.past

/-- **A power loss.**  The directory is one of those it was, and what was not
synced of a file is cut. -/
structure Lost (v w : Volume N) : Prop where
  names : v.Reaches w.names
  past : w.past = []
  next : w.next = v.next
  kept : ∀ n, (v.nodes n).synced = true → w.nodes n = v.nodes n
  cut : ∀ n, ∃ k, w.nodes n = { v.nodes n with content := (v.nodes n).content.extract 0 k }

/-- What the next process finds: the volume as the last one left it, or what a
power loss makes of it. -/
def Survives (v w : Volume N) : Prop := w = v ∨ v.Lost w

/-- **Every directory that a power loss can leave has its files as `F` says.** -/
structure Guarded (F : N → Option Node → Prop) (v : Volume N) : Prop where
  entries : ∀ names, v.Reaches names → ∀ name, F name ((names name).map v.nodes)
  below : ∀ names, v.Reaches names → ∀ name n, names name = some n → n < v.next

/-- A file that stands under one name only. -/
def Only (n : Nat) (name : N) (v : Volume N) : Prop :=
  ∀ names, v.Reaches names → ∀ name', names name' = some n → name' = name

theorem reaches_relink {names names' : N → Option Nat} (h : (v.relink names).Reaches names') :
    names' = names ∨ v.Reaches names' := by
  rcases h with h | h
  · exact .inl h
  · exact .inr (List.mem_cons.mp h)

namespace Guarded

variable {F G : N → Option Node → Prop}

section

variable (h : Guarded F v)
include h

theorem visible (name : N) : F name (v.file name) := h.entries _ (.inl rfl) name

theorem mono (hFG : ∀ name file, F name file → G name file) : Guarded G v :=
  ⟨fun names hnames name => hFG _ _ (h.entries names hnames name), h.below⟩

/-- A file is changed to one that fits its names. -/
theorem setNode (honly : v.Only n name)
    (hnode : F name (some node)) : Guarded F (v.setNode n node) := by
  refine ⟨fun names hnames name' => ?_, h.below⟩
  have hold := h.entries names hnames name'
  cases hname : names name' with
  | none => rwa [hname] at hold
  | some m =>
    rw [hname] at hold
    show F name' (some ((v.setNode n node).nodes m))
    by_cases hm : m = n
    · subst hm
      rw [setNode_same, honly names hnames name' hname]
      exact hnode
    · rw [setNode_other v node hm]
      exact hold

/-- The directory becomes one that fits. -/
theorem relink {names : N → Option Nat}
    (hnames : ∀ name, F name ((names name).map v.nodes))
    (hbelow : ∀ name n, names name = some n → n < v.next) : Guarded F (v.relink names) := by
  refine ⟨fun names' h' => ?_, fun names' h' => ?_⟩
  · rcases reaches_relink h' with rfl | h'
    · exact hnames
    · exact h.entries names' h'
  · rcases reaches_relink h' with rfl | h'
    · exact hbelow
    · exact h.below names' h'

/-- **Once the directory is synced, only what is seen can be left.** -/
theorem settle (hvis : ∀ name, G name (v.file name)) : Guarded G v.settle := by
  have hreach : ∀ names, v.settle.Reaches names → names = v.names := by
    intro names hnames
    exact hnames.resolve_right List.not_mem_nil
  refine ⟨fun names hnames name => ?_, fun names hnames => ?_⟩
  · rw [hreach names hnames]
    exact hvis name
  · rw [hreach names hnames]
    exact h.below _ (.inl rfl)

/-- **A power loss keeps what cutting an unsynced file keeps.** -/
theorem lost (hlost : v.Lost w)
    (hcut : ∀ name node k, node.synced = false → F name (some node) →
      F name (some { node with content := node.content.extract 0 k })) : Guarded F w := by
  have hreach : ∀ names, w.Reaches names → v.Reaches names := by
    intro names hnames
    rcases hnames with rfl | hnames
    · exact hlost.names
    · rw [hlost.past] at hnames
      exact absurd hnames List.not_mem_nil
  refine ⟨fun names hnames name => ?_, fun names hnames name n hn => ?_⟩
  · have hold := h.entries names (hreach names hnames) name
    cases hname : names name with
    | none => rwa [hname] at hold
    | some n =>
      rw [hname] at hold
      show F name (some (w.nodes n))
      -- a synced file is as it was, another one is cut
      by_cases hsynced : (v.nodes n).synced = true
      · rw [hlost.kept n hsynced]
        exact hold
      obtain ⟨k, hk⟩ := hlost.cut n
      rw [hk]
      exact hcut name _ k (Bool.eq_false_iff.mpr hsynced) hold
  · rw [hlost.next]
    exact h.below names (hreach names hnames) name n hn

theorem survives (hw : v.Survives w)
    (hcut : ∀ name node k, node.synced = false → F name (some node) →
      F name (some { node with content := node.content.extract 0 k })) : Guarded F w := by
  rcases hw with rfl | hlost
  · exact h
  · exact h.lost hlost hcut

end

end Guarded

section Names

variable [DecidableEq N] {F : N → Option Node → Prop}

theorem Guarded.create (h : Guarded F v) (hnode : F name (some node)) :
    Guarded F (v.create name node) := by
  -- the number of the new file stands under no name yet
  have hfresh : ∀ names, v.Reaches names → ∀ name n, names name = some n → n ≠ v.next := by
    intro names hnames name n hn
    exact Nat.ne_of_lt (h.below names hnames name n hn)
  have hreach : ∀ names, (v.create name node).Reaches names →
      names = update v.names name (some v.next) ∨ v.Reaches names :=
    fun names hnames => reaches_relink (v := v.setNode v.next node) hnames
  have hkept : ∀ names, v.Reaches names → ∀ name',
      F name' ((names name').map (v.setNode v.next node).nodes) := by
    intro names hnames name'
    have hold := h.entries names hnames name'
    cases hname : names name' with
    | none => rwa [hname] at hold
    | some m =>
      rw [hname] at hold
      show F name' (some ((v.setNode v.next node).nodes m))
      rw [setNode_other v node (hfresh names hnames name' m hname)]
      exact hold
  refine ⟨fun names hnames name' => ?_, fun names hnames name' n hn => ?_⟩
  · rcases hreach names hnames with rfl | hnames
    · show F name' (((update v.names name (some v.next)) name').map
        (v.setNode v.next node).nodes)
      by_cases hname : name' = name
      · subst hname
        rw [update_self, map_some, setNode_same]
        exact hnode
      · rw [update_of_ne hname]
        exact hkept v.names (.inl rfl) name'
    · exact hkept names hnames name'
  · show n < v.next + 1
    rcases hreach names hnames with rfl | hnames
    · by_cases hname : name' = name
      · subst hname
        rw [update_self] at hn
        cases hn
        omega
      · rw [update_of_ne hname] at hn
        have := h.below v.names (.inl rfl) name' n hn
        omega
    · have := h.below names hnames name' n hn
      omega

theorem only_create (h : Guarded F v) (name : N) (node : Node) :
    (v.create name node).Only v.next name := by
  intro names hnames name' hname'
  have hold : ∀ names, v.Reaches names → names name' ≠ some v.next := by
    intro names hnames hn
    exact Nat.lt_irrefl _ (h.below names hnames name' _ hn)
  rcases reaches_relink (v := v.setNode v.next node) hnames with rfl | hnames
  · by_contra hne
    replace hname' : update v.names name (some v.next) name' = some v.next := hname'
    rw [update_of_ne hne] at hname'
    exact hold v.names (.inl rfl) hname'
  · exact absurd hname' (hold names hnames)

theorem Guarded.rename (h : Guarded F v)
    (hn : v.names source = some n) (htgt : F target (some (v.nodes n)))
    (hsrc : F source none) : Guarded F (v.relink (v.renamed source target n)) := by
  refine h.relink (fun name => ?_) fun name m hm => ?_
  · unfold renamed
    by_cases hs : name = source
    · subst hs
      rw [update_self]
      exact hsrc
    · rw [update_of_ne hs]
      by_cases ht : name = target
      · subst ht
        rw [update_self]
        exact htgt
      · rw [update_of_ne ht]
        exact h.visible name
  · unfold renamed at hm
    by_cases hs : name = source
    · subst hs
      rw [update_self] at hm
      cases hm
    · rw [update_of_ne hs] at hm
      by_cases ht : name = target
      · subst ht
        rw [update_self] at hm
        cases hm
        exact h.below v.names (.inl rfl) source n hn
      · rw [update_of_ne ht] at hm
        exact h.below v.names (.inl rfl) name m hm

theorem Guarded.unlink (h : Guarded F v) (hname : F name none) :
    Guarded F (v.relink (update v.names name none)) := by
  refine h.relink (fun name' => ?_) fun name' n hn => ?_
  · by_cases hne : name' = name
    · subst hne
      rw [update_self]
      exact hname
    · rw [update_of_ne hne]
      exact h.visible name'
  · by_cases hne : name' = name
    · subst hne
      rw [update_self] at hn
      cases hn
    · rw [update_of_ne hne] at hn
      exact h.below v.names (.inl rfl) name' n hn

end Names

end Volume

end TgCli.Lib
