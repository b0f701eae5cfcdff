/-
  TgCli.Config.Transaction — THE CONFIG TRANSACTION

  `transaction_bytes`, `parse_transaction`, `cleanup_transaction`,
  `recover_transaction` and the commit section of `Store::mutate`
  (common/config.cpp) as programs over the config directory, call by call.  A
  check of identity, permissions, lock or an admission hook is one `check` call.

  Every call may fail without an effect; a write may also fail, or be cut by a
  crash, after any number of its bytes.  Directory changes take effect in
  order, and what a crash can undo of them is what an earlier crash leaves.
  `fsync` therefore has no effect of its own here.

  `stamp` stands for inode and ctime of config.toml.  `old`, `new` and
  `finalized` are history variables: the contents the last commit started with
  and brings in, and whether its committed marker was renamed into place.

  The digest is a parameter: any function to 64 bytes without a line feed,
  as the hexadecimal text of a SHA-256 is.

  Main results: `parseTransaction_bytes`, `parseTransaction_take` — a marker is
  read back, and a marker cut short is read back exactly when at most its last
  byte is missing.
-/
import Mathlib.Data.List.TakeWhile
import TgCli.Lib.CrashProgram
import TgCli.Tdlib.Types

namespace TgCli.Config

open Tdlib Lib

/-! ## §1. The directory. -/

/-- The directory entries. -/
inductive Name where
  /-- `config.toml` -/
  | config
  /-- `.config.toml.replacement` -/
  | replacement
  /-- `.config.toml.transaction.committed` -/
  | committed
  /-- `.config.toml.transaction` -/
  | transaction
  /-- `.config.toml.tmp.<pid>.<sequence>` -/
  | temporary (sequence : Nat)
deriving DecidableEq, Repr

structure Disk where
  files : Name → Option Bytes
  stamp : Nat
  old : Option Bytes
  new : Bytes
  finalized : Bool

namespace Disk

/-- The directory with entry `name` set. -/
def put (s : Disk) (name : Name) (content : Option Bytes) : Disk :=
  { s with files := fun n => if n = name then content else s.files n }

@[simp] theorem put_other (s : Disk) (content : Option Bytes) (h : n ≠ name) :
    (s.put name content).files n = s.files n := by
  simp [put, h]

variable (s : Disk) (name : Name) (content : Option Bytes)

@[simp] theorem put_same : (s.put name content).files name = content := by
  simp [put]

@[simp] theorem put_stamp : (s.put name content).stamp = s.stamp := rfl

@[simp] theorem put_old : (s.put name content).old = s.old := rfl

@[simp] theorem put_new : (s.put name content).new = s.new := rfl

@[simp] theorem put_finalized : (s.put name content).finalized = s.finalized := rfl

/-- `config.toml` became another file. -/
def touch (s : Disk) : Disk := { s with stamp := s.stamp + 1 }

@[simp] theorem touch_files : s.touch.files = s.files := rfl

@[simp] theorem touch_old : s.touch.old = s.old := rfl

@[simp] theorem touch_new : s.touch.new = s.new := rfl

@[simp] theorem touch_finalized : s.touch.finalized = s.finalized := rfl

/-- A commit from `old` to `new` begins. -/
def begin (s : Disk) (old : Option Bytes) (new : Bytes) : Disk :=
  { s with old := old, new := new, finalized := false }

@[simp] theorem begin_files (old : Option Bytes) (new : Bytes) :
    (s.begin old new).files = s.files := rfl

end Disk

/-- The calls. -/
inductive Op where
  /-- `unlink_if_present` -/
  | remove (name : Name)
  /-- `unlinkat` of config.toml -/
  | unlinkConfig
  /-- `renameat` of a temporary to the replacement -/
  | stage (sequence : Nat)
  /-- `renameat` of the replacement to config.toml -/
  | install
  /-- `renameat` of the committed marker onto the transaction marker -/
  | finalize
  /-- `exchange_entries` of config.toml and the replacement -/
  | exchange
  /-- `openat` with `O_CREAT | O_EXCL` -/
  | create (name : Name)
  /-- `write_all` into the file just created -/
  | write (name : Name) (bytes : Bytes)
  /-- `fsync` of a file or of the directory -/
  | sync
  /-- a check that changes nothing -/
  | check
  /-- `read_from_directory` of what was committed -/
  | readBack
  /-- not a call: the history variables of a commit are set -/
  | begin (old : Option Bytes) (new : Bytes)
deriving DecidableEq, Repr

/-- What a successful call does; `none` when it cannot succeed. -/
def Op.effect : Op → Disk → Option Disk
  | .remove name, s => some (s.put name none)
  | .unlinkConfig, s =>
    match s.files .config with
    | none => none
    | some _ => some (s.put .config none).touch
  | .stage sequence, s =>
    match s.files (.temporary sequence) with
    | none => none
    | some bytes => some ((s.put (.temporary sequence) none).put .replacement (some bytes))
  | .install, s =>
    match s.files .replacement with
    | none => none
    | some bytes => some ((s.put .replacement none).put .config (some bytes)).touch
  | .finalize, s =>
    match s.files .committed with
    | none => none
    | some bytes =>
      some { (s.put .committed none).put .transaction (some bytes) with finalized := true }
  | .exchange, s =>
    match s.files .config, s.files .replacement with
    | some config, some replacement =>
      some ((s.put .config (some replacement)).put .replacement (some config)).touch
    | _, _ => none
  | .create name, s =>
    match s.files name with
    | none => some (s.put name (some []))
    | some _ => none
  | .write name bytes, s => some (s.put name (some bytes))
  | .sync, s => some s
  | .check, s => some s
  | .readBack, s => some s
  | .begin old new, s => some (s.begin old new)

/-- What a call that failed or was cut leaves. -/
def Op.Leaves (op : Op) (s s' : Disk) : Prop :=
  match op with
  | .write name bytes => ∃ k, s' = s.put name (some (bytes.take k))
  | .begin old new => s' = s.begin old new
  | _ => s' = s

/-- The calls of the config store; a call answers whether it succeeded, and those that `may`
can fail. -/
def faulty (may : Op → Prop) : Calls Disk fun _ : Op => Bool where
  exec := fun op s ok s' => if ok then op.effect s = some s' else may op ∧ op.Leaves s s'
  cut := fun op s s' => op.Leaves s s'

/-- Every call can fail. -/
abbrev calls : Calls Disk fun _ : Op => Bool := faulty fun _ => True

/-- The answer of a call that does not fail without cause. -/
def answer (op : Op) (s : Disk) : Bool × Disk :=
  match op.effect s with
  | some s' => (true, s')
  | none => (false, s)

/-- Programs of the config store. -/
abbrev Program (α : Type) := Prog Disk (fun _ : Op => Bool) α

/-- A call whose failure ends the program with `failed`. -/
def require {α : Type} (op : Op) (failed next : Program α) : Program α :=
  .call op fun ok => if ok then next else failed

section Rules

variable {α : Type} {I : Disk → Prop} {Q : α → Disk → Prop} {may : Op → Prop}

/-- The rule of `require`, for a call that is not a write. -/
theorem triple_require {op : Op} (hop : ∀ s', op.Leaves s s' → s' = s)
    (hfail : Prog.Triple (faulty may) failed s I Q)
    (hnext : ∀ s', op.effect s = some s' → Prog.Triple (faulty may) next s' I Q) :
    Prog.Triple (faulty may) (require op failed next) s I Q := by
  have hI : I s := hfail.cut s (.here _ _)
  refine Prog.triple_call hI ?_ ?_
  · intro s' hc
    rw [hop s' hc]
    exact hI
  · intro ok s' he
    cases ok with
    | true => exact hnext s' he
    | false =>
      rw [hop s' he.2]
      exact hfail

/-- The rule of `require` for a write: it may stop after any prefix. -/
theorem triple_write {bytes : Bytes} (hI : I s)
    (hfail : ∀ k, Prog.Triple (faulty may) failed (s.put name (some (bytes.take k))) I Q)
    (hnext : Prog.Triple (faulty may) next (s.put name (some bytes)) I Q) :
    Prog.Triple (faulty may) (require (.write name bytes) failed next) s I Q := by
  refine Prog.triple_call hI ?_ ?_
  · intro s' hc
    obtain ⟨k, rfl⟩ := hc
    exact (hfail k).cut _ (.here _ _)
  · intro ok s' he
    cases ok with
    | true =>
      have he' : some (s.put name (some bytes)) = some s' := he
      cases he'
      exact hnext
    | false =>
      obtain ⟨-, k, rfl⟩ := he
      exact hfail k

theorem triple_begin (hI : I s) (hnext : Prog.Triple (faulty may) next (s.begin old new) I Q) :
    Prog.Triple (faulty may) (.call (.begin old new) fun _ => next) s I Q := by
  refine Prog.triple_call hI ?_ ?_
  · intro s' hc
    have hs' : s' = s.begin old new := hc
    rw [hs']
    exact hnext.cut _ (.here _ _)
  · intro ok s' he
    have hs' : s' = s.begin old new := by
      cases ok with
      | true => exact (Option.some.inj he).symm
      | false => exact he.2
    rw [hs']
    exact hnext

end Rules

open List

/-- The text of a SHA-256 digest. -/
structure Digest where
  bytes : Bytes
  length_eq : bytes.length = 64
  no_newline : (10 : UInt8) ∉ bytes

def kMaxConfigBytes : Nat := 1048576

/-! ## §2. Markers. -/

inductive TransactionState where
  | pendingPresent | pendingMissing | committedPresent | committedMissing
deriving DecidableEq, Repr

def TransactionState.text : TransactionState → Bytes
  | .pendingPresent => ascii "pending-present"
  | .pendingMissing => ascii "pending-missing"
  | .committedPresent => ascii "committed-present"
  | .committedMissing => ascii "committed-missing"

structure TransactionRecord where
  state : TransactionState
  oldHash : Bytes
  newHash : Bytes
deriving DecidableEq, Repr

/-- `std::getline`: a line and what follows it; it fails at the end. -/
def getline (input : Bytes) : Option (Bytes × Bytes) :=
  match input with
  | [] => none
  | _ => some (input.takeWhile (· != 10), (input.dropWhile (· != 10)).tail)

open TransactionState

/-- The state a first line names. -/
def parseState (line : Bytes) : Option TransactionState :=
  if line = pendingPresent.text then some .pendingPresent
  else if line = pendingMissing.text then some .pendingMissing
  else if line = committedPresent.text then some .committedPresent
  else if line = committedMissing.text then some .committedMissing
  else none

def parseTransaction (bytes : Bytes) : Option TransactionRecord :=
  match getline bytes with
  | none => none
  | some (state, rest) =>
    match getline rest with
    | none => none
    | some (oldHash, rest) =>
      match getline rest with
      | none => none
      | some (newHash, rest) =>
        if (getline rest).isSome || newHash.length != 64
            || (!oldHash.isEmpty && oldHash.length != 64) then none
        else
          (parseState state).map fun state =>
            { state := state, oldHash := oldHash, newHash := newHash }

/-- Three lines. -/
def lines (state oldHash newHash : Bytes) : Bytes :=
  state ++ [10] ++ oldHash ++ [10] ++ newHash ++ [10]

variable (sha : Bytes → Digest)

/-- The record a transaction from `old` to `new` writes. -/
def transactionRecord (committed : Bool) (old : Option Bytes) (new : Bytes) : TransactionRecord :=
  { state := match committed, old with
      | false, some _ => .pendingPresent
      | false, none => .pendingMissing
      | true, some _ => .committedPresent
      | true, none => .committedMissing
    oldHash := match old with
      | some bytes => (sha bytes).bytes
      | none => []
    newHash := (sha new).bytes }

def transactionBytes (committed : Bool) (old : Option Bytes) (new : Bytes) : Bytes :=
  let record := transactionRecord sha committed old new
  lines record.state.text record.oldHash record.newHash

/-! ## §3. Reading markers back. -/

theorem getline_line (h : (10 : UInt8) ∉ line) :
    getline (line ++ 10 :: rest) = some (line, rest) := by
  have hne : ∀ b ∈ line, (b != 10) := by
    intro b hb
    simp only [bne_iff_ne, ne_eq]
    intro hb10
    exact h (hb10 ▸ hb)
  have hcons : ∃ b bs, line ++ 10 :: rest = b :: bs := by
    cases line with
    | nil => exact ⟨10, rest, rfl⟩
    | cons b line => exact ⟨b, line ++ 10 :: rest, rfl⟩
  obtain ⟨b, bs, hb⟩ := hcons
  have hunfold : getline (line ++ 10 :: rest)
      = some ((line ++ 10 :: rest).takeWhile (· != 10),
          ((line ++ 10 :: rest).dropWhile (· != 10)).tail) := by
    rw [hb]
    rfl
  rw [hunfold, takeWhile_append_of_pos hne, dropWhile_append_of_pos hne]
  simp

/-- A last line without its line feed. -/
theorem getline_last (h : (10 : UInt8) ∉ line) (hne : line ≠ []) :
    getline line = some (line, []) := by
  have hall : ∀ b ∈ line, (b != 10) := by
    intro b hb
    simp only [bne_iff_ne, ne_eq]
    intro hb10
    exact h (hb10 ▸ hb)
  obtain ⟨b, bs, rfl⟩ := exists_cons_of_ne_nil hne
  show some (_, _) = _
  rw [takeWhile_eq_self_iff.mpr hall, dropWhile_eq_nil_iff.mpr hall]
  rfl

theorem text_no_newline (state : TransactionState) : (10 : UInt8) ∉ state.text := by
  cases state <;> decide

/-- The first line of a record names its state. -/
theorem parseState_text (state : TransactionState) : parseState state.text = some state := by
  cases state <;> decide

/-- A record whose hashes have the right shape. -/
structure RecordOk (record : TransactionRecord) : Prop where
  new_length : record.newHash.length = 64
  old_length : record.oldHash = [] ∨ record.oldHash.length = 64
  new_line : (10 : UInt8) ∉ record.newHash
  old_line : (10 : UInt8) ∉ record.oldHash

theorem transactionRecord_ok (committed : Bool) (old : Option Bytes) (new : Bytes) :
    RecordOk (transactionRecord sha committed old new) := by
  refine ⟨(sha new).length_eq, ?_, (sha new).no_newline, ?_⟩
  · cases old with
    | none => exact Or.inl rfl
    | some bytes => exact Or.inr (sha bytes).length_eq
  · cases old with
    | none => exact not_mem_nil
    | some bytes => exact (sha bytes).no_newline

/-- The lines of a record, with or without the last line feed. -/
theorem parseTransaction_lines (hok : RecordOk record) (hlast : last = [10] ∨ last = []) :
    parseTransaction (record.state.text ++ 10 :: (record.oldHash ++ 10 :: (record.newHash ++ last)))
      = some record := by
  have hne : record.newHash ≠ [] := by
    intro h
    have := hok.new_length
    rw [h] at this
    exact absurd this (by decide)
  have hthird : getline (record.newHash ++ last) = some (record.newHash, []) := by
    rcases hlast with h | h
    · rw [h]
      exact getline_line hok.new_line
    · rw [h, append_nil]
      exact getline_last hok.new_line hne
  have hold : (!record.oldHash.isEmpty && record.oldHash.length != 64) = false := by
    rcases hok.old_length with h | h
    · rw [h]
      rfl
    · rw [h]
      simp
  unfold parseTransaction
  rw [getline_line (text_no_newline _)]
  simp only
  rw [getline_line hok.old_line]
  simp only
  rw [hthird]
  have hcheck : ((getline []).isSome || record.newHash.length != 64
      || (!record.oldHash.isEmpty && record.oldHash.length != 64)) = false := by
    rw [hold, hok.new_length]
    rfl
  simp only [hcheck]
  rw [if_neg (by simp), parseState_text]
  rfl

/-- **A marker is read back.** -/
theorem parseTransaction_bytes (committed : Bool) (old : Option Bytes) (new : Bytes) :
    parseTransaction (transactionBytes sha committed old new)
      = some (transactionRecord sha committed old new) := by
  have h := parseTransaction_lines (transactionRecord_ok sha committed old new) (Or.inl rfl)
  unfold transactionBytes lines
  simpa using h

theorem take_append_cons (xs ys : Bytes) (b : UInt8) (h : xs.length < k) :
    (xs ++ b :: ys).take k = xs ++ b :: ys.take (k - xs.length - 1) := by
  rw [take_append, take_of_length_le (by omega)]
  obtain ⟨j, hj⟩ : ∃ j, k - xs.length = j + 1 := ⟨k - xs.length - 1, by omega⟩
  rw [hj, take_succ_cons]
  rfl

theorem not_mem_take {bytes : Bytes} (h : (10 : UInt8) ∉ bytes) (k : Nat) :
    (10 : UInt8) ∉ bytes.take k := fun hm => h (mem_of_mem_take hm)

/-- A text without a line feed is one line, or none at its end. -/
theorem getline_rest (h : (10 : UInt8) ∉ line) :
    getline line = none ∨ getline line = some (line, []) := by
  by_cases hne : line = []
  · exact Or.inl (by rw [hne]; rfl)
  · exact Or.inr (getline_last h hne)

/-- Fewer than three lines. -/
theorem parseTransaction_one_line (h : (10 : UInt8) ∉ line) : parseTransaction line = none := by
  unfold parseTransaction
  rcases getline_rest h with hg | hg
  · rw [hg]
  · rw [hg]
    rfl

theorem parseTransaction_two_lines (hf : (10 : UInt8) ∉ first)
    (h : (10 : UInt8) ∉ line) : parseTransaction (first ++ 10 :: line) = none := by
  unfold parseTransaction
  rw [getline_line hf]
  simp only
  rcases getline_rest h with hg | hg
  · rw [hg]
  · rw [hg]
    rfl

/-- A third line of the wrong length. -/
theorem parseTransaction_short_hash (hf : (10 : UInt8) ∉ first)
    (hs : (10 : UInt8) ∉ second) (h : (10 : UInt8) ∉ line) (hlen : line.length < 64) :
    parseTransaction (first ++ 10 :: (second ++ 10 :: line)) = none := by
  unfold parseTransaction
  rw [getline_line hf]
  simp only
  rw [getline_line hs]
  simp only
  rcases getline_rest h with hg | hg
  · rw [hg]
  · rw [hg]
    simp only
    rw [if_pos]
    have hne : (line.length != 64) := by
      rw [bne_iff_ne]
      omega
    rw [hne]
    simp

/-- **A marker cut short** is read back exactly when at most its last byte is
missing. -/
theorem parseTransaction_take (committed : Bool) (old : Option Bytes) (new : Bytes) (k : Nat) :
    parseTransaction ((transactionBytes sha committed old new).take k)
      = if (transactionBytes sha committed old new).length ≤ k + 1 then
          some (transactionRecord sha committed old new)
        else none := by
  set record := transactionRecord sha committed old new with hrec
  have hok : RecordOk record := transactionRecord_ok sha committed old new
  have hA := text_no_newline record.state
  have hbytes : transactionBytes sha committed old new
      = record.state.text ++ 10 :: (record.oldHash ++ 10 :: (record.newHash ++ [10])) := by
    unfold transactionBytes lines
    simp [← hrec]
  have hlen : (transactionBytes sha committed old new).length
      = record.state.text.length + record.oldHash.length + 67 := by
    rw [hbytes]
    simp only [length_append, length_cons, length_nil, hok.new_length]
    omega
  rw [hlen, hbytes]
  by_cases h1 : k ≤ record.state.text.length
  · -- the cut is in the first line
    rw [if_neg (by omega), take_append_of_le_length h1]
    exact parseTransaction_one_line (not_mem_take hA k)
  rw [take_append_cons _ _ _ (by omega)]
  by_cases h2 : k - record.state.text.length - 1 ≤ record.oldHash.length
  · -- the cut is in the second line
    rw [if_neg (by omega), take_append_of_le_length h2]
    exact parseTransaction_two_lines hA (not_mem_take hok.old_line _)
  rw [take_append_cons _ _ _ (by omega)]
  by_cases h3 : record.state.text.length + record.oldHash.length + 67 ≤ k + 1
  · rw [if_pos h3]
    by_cases h4 : k + 1 = record.state.text.length + record.oldHash.length + 67
    · -- only the last line feed is missing
      have hj : k - record.state.text.length - 1 - record.oldHash.length - 1 = 64 := by omega
      rw [hj, take_append_of_le_length (by rw [hok.new_length]),
        take_of_length_le (by rw [hok.new_length]),
        ← append_nil record.newHash]
      exact parseTransaction_lines hok (Or.inr rfl)
    · rw [take_of_length_le (by
        rw [length_append, hok.new_length, length_singleton]; omega)]
      exact parseTransaction_lines hok (Or.inl rfl)
  · rw [if_neg h3, take_append_of_le_length (by rw [hok.new_length]; omega)]
    exact parseTransaction_short_hash hA hok.old_line (not_mem_take hok.new_line _)
      (by rw [length_take]; omega)

/-! ## §4. Results. -/

inductive ConfigReason where
  | pathInvalid | wrongOwner | wrongType | wrongMode | wrongLinkCount | tooLarge | parseError
  | typeError | invalidDefault | conflictingCredentials | ioError | syncError
deriving DecidableEq, Repr

inductive MutationStatus where
  | applied | conflict | invalid | ioError | timedOut | cancelled | preconditionFailed
  | durabilityUnknown
deriving DecidableEq, Repr

/-- What `serialize_identity` keeps of a file: its digest and size; inode and
ctime are the stamp. -/
inductive Identity where
  | missing
  | pending
  | file (hash : Bytes) (size stamp : Nat)
deriving DecidableEq, Repr

/-- `current` is the identity of the snapshot that is returned. -/
structure MutationResult where
  status : MutationStatus
  reason : Option ConfigReason := none
  current : Option Identity := none
deriving DecidableEq, Repr

/-! ## §5. Cleanup and recovery. -/

/-- `cleanup_transaction`: replacement, committed marker, marker, `fsync`. -/
def cleanupTransaction {α : Type} (failed next : Program α) : Program α :=
  require (.remove .replacement) failed
    (require (.remove .committed) failed
      (require (.remove .transaction) failed (require .sync failed next)))

/-- A file `read_secure_named_file` takes. -/
def readable (content : Option Bytes) : Bool :=
  content.all fun bytes => bytes.length ≤ kMaxConfigBytes

/-- The content has this digest. -/
def hashes (content : Option Bytes) (hash : Bytes) : Bool :=
  content.any fun bytes => (sha bytes).bytes = hash

/-- `recover_transaction` with a marker that parses. -/
def recoverRecord (record : TransactionRecord) (config replacement : Option Bytes) : Program Bool :=
  let finish := cleanupTransaction (.done false) (.done true)
  let restored := require .sync (.done false) finish
  if !readable config || !readable replacement then .done false
  else
    match record.state with
    | .committedPresent | .committedMissing =>
      if hashes sha config record.newHash then finish else .done false
    | .pendingPresent =>
      if config.isNone || replacement.isNone then .done false
      else if hashes sha config record.newHash && hashes sha replacement record.oldHash then
        require .exchange (.done false) restored
      else if !hashes sha config record.oldHash || !hashes sha replacement record.newHash then
        .done false
      else restored
    | .pendingMissing =>
      if hashes sha config record.newHash && replacement.isNone then
        require .unlinkConfig (.done false) restored
      else if !(config.isNone && replacement.isNone)
          && !(config.isNone && hashes sha replacement record.newHash) then .done false
      else restored

/-- `recover_transaction` with a marker. -/
def recoverMarker (marker : Bytes) (config replacement : Option Bytes) : Program Bool :=
  if 256 < marker.length then .done false
  else
    match parseTransaction marker with
    | none => .done false
    | some record => recoverRecord sha record config replacement

def recoverTransaction : Program Bool :=
  .look fun s =>
    match s.files .transaction with
    | none =>
      -- nothing was prepared: only orphans can be left
      require (.remove .replacement) (.done false)
        (require (.remove .committed) (.done false)
          (require .sync (.done false) (.done true)))
    | some marker => recoverMarker sha marker (s.files .config) (s.files .replacement)

/-! ## §6. The commit section. -/

def writeTransactionFile {α : Type} (name : Name) (bytes : Bytes) (failed next : Program α) :
    Program α :=
  require (.create name) failed
    (require .check failed (require (.write name bytes) failed (require .sync failed next)))

/-- The loop over temporary names. -/
def openTemporary {α : Type} (failed : Program α) (next : Nat → Program α) : Nat → Nat → Program α
  | 0, _ => failed
  | attempts + 1, sequence =>
    .look fun s =>
      match s.files (.temporary sequence) with
      | some _ => openTemporary failed next attempts (sequence + 1)
      | none => require (.create (.temporary sequence)) failed (next sequence)

/-- Bring the new content in: `exchange_entries`, or `renameat` on a first
run. -/
def Op.swapIn (old : Option Bytes) : Op := if old.isSome then .exchange else .install

/-- Take it out again: `exchange_entries`, or `unlinkat` on a first run. -/
def Op.swapOut (old : Option Bytes) : Op := if old.isSome then .exchange else .unlinkConfig

def durabilityUnknown : Program MutationResult :=
  .done { status := .durabilityUnknown, reason := some .syncError }

def ioError (reason : ConfigReason) : Program MutationResult :=
  .done { status := .ioError, reason := some reason }

/-- The commit is durable: write the committed marker and clean up. -/
def finalizeCommit (old : Option Bytes) (new : Bytes) : Program MutationResult :=
  writeTransactionFile .committed (transactionBytes sha true old new) durabilityUnknown
    (require .finalize durabilityUnknown
      (require .sync durabilityUnknown
        (cleanupTransaction durabilityUnknown
          -- the new file is read back, then the post-commit hook runs
          (require .readBack (ioError .ioError)
            (require .check durabilityUnknown (.done { status := .applied }))))))

/-- The directory could not be synced after the swap. -/
def rollbackUnsynced (old : Option Bytes) : Program MutationResult :=
  require (.swapOut old) durabilityUnknown (require .sync durabilityUnknown durabilityUnknown)

/-- The file in place is not the one that was staged. -/
def rollbackMismatch (old : Option Bytes) : Program MutationResult :=
  require (.swapOut old) durabilityUnknown
    (require .sync durabilityUnknown
      (require .check durabilityUnknown
        (cleanupTransaction durabilityUnknown (ioError .pathInvalid))))

/-- The replacement is staged: marker, swap, checks. -/
def commitStaged (old : Option Bytes) (new : Bytes) : Program MutationResult :=
  let unprepared := cleanupTransaction (ioError .syncError) (ioError .syncError)
  writeTransactionFile .transaction (transactionBytes sha false old new) unprepared
    (require .sync unprepared
      (require .check (cleanupTransaction durabilityUnknown (ioError .ioError))
        (require .check (cleanupTransaction durabilityUnknown (ioError .pathInvalid))
          (require (.swapIn old) (cleanupTransaction (ioError .ioError) (ioError .ioError))
            (require .sync (rollbackUnsynced old)
              (require .check (rollbackMismatch old) (finalizeCommit sha old new)))))))

/-- The temporary file is open: fill it, check everything again, stage it. -/
def commitTemporary (old : Option Bytes) (new : Bytes) (sequence : Nat) : Program MutationResult :=
  let discard (result : Program MutationResult) : Program MutationResult :=
    .call (.remove (.temporary sequence)) fun _ => result
  let refused : Program MutationResult := .done { status := .preconditionFailed }
  -- permissions, content and sync of the temporary
  require .check (discard (ioError .ioError))
    (require (.write (.temporary sequence) new) (discard (ioError .ioError))
      (require .sync (discard (ioError .syncError))
        (require .check (discard (ioError .ioError))
          -- `pre_commit`, the final check of config.toml, `commit_admission`
          (require .check (discard refused)
            (require .check (discard (.done { status := .invalid, reason := some .ioError }))
              (require .check (discard refused)
                -- lock, temporary and directory are the same
                (require .check (discard (ioError .pathInvalid))
                  (require (.stage sequence) (discard (ioError .ioError))
                    (commitStaged sha old new)))))))))

/-- The commit section from the temporary file on. -/
def commit (sequence : Nat) (old : Option Bytes) (new : Bytes) : Program MutationResult :=
  .call (.begin old new) fun _ =>
    openTemporary (ioError .ioError) (commitTemporary sha old new) 128 sequence

end TgCli.Config
