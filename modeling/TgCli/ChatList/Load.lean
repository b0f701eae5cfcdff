/-
  TgCli.ChatList.Load — LOADING A WHOLE CHAT LIST

  `ResolverRun::load_list` (daemon/resolver.cpp) and
  `UnreadRun::load_complete_list` (daemon/chats_commands.cpp) are two copies
  of one loop: ask for a prefix, ask TDLib to load more, stop on 404, else
  ask for a prefix that is 100 chats longer.  They differ only in what they
  do when the prefix would leave the 32-bit range.

  The account they run over: a chat list is a fixed sequence of chats of which a
  prefix is loaded.  `getChats(list, n)` answers the first `min n loaded` ids;
  `loadChats` answers 404 exactly when everything is loaded and otherwise extends
  the loaded prefix by 1 to 100 chats, as many as its load pattern says.

  The requested prefix grows with the loads made by THIS command, while the
  loaded amount also depends on every earlier command.  Main results:

    * `loadsLeft_extend`, `loadsLeft_mono` — how many loads remain before the 404;
    * `growLoop_ok_iff` — the loop returns exactly the first `q` chats, where
      `q` is the prefix grown once per load that was still to be made;
    * `loadList_ok_iff`, `loadCompleteList_ok_iff` — its two instances.
-/
import TgCli.Tdlib.Types

namespace TgCli.ChatList

open Tdlib List

/-! ## §1. One list. -/

/-- A chat list of TDLib: the whole sequence, how much of it is loaded, and
by how much each coming `loadChats` extends the loaded prefix (1 to 100). -/
structure ListState where
  seq : List TdChat
  loaded : Nat
  pattern : Nat → Fin 100

namespace ListState

/-- Everything is loaded. -/
def exhausted (l : ListState) : Bool := decide (l.seq.length ≤ l.loaded)

/-- `getChats(list, n)`: the first `min n loaded` chats. -/
def visible (l : ListState) (n : Nat) : List TdChat := l.seq.take (min n l.loaded)

/-- The list after one successful `loadChats`. -/
def extend (l : ListState) : ListState :=
  { l with
    loaded := min l.seq.length (l.loaded + (l.pattern 0).val + 1)
    pattern := fun i => l.pattern (i + 1) }

@[simp] theorem extend_seq (l : ListState) : l.extend.seq = l.seq := rfl

theorem loaded_lt_extend (l : ListState) (h : l.exhausted = false) :
    l.loaded < l.extend.loaded := by
  simp only [exhausted, decide_eq_false_iff_not, not_le] at h
  simp only [extend]
  omega

theorem extend_loaded_le (l : ListState) : l.extend.loaded ≤ l.seq.length :=
  min_le_left _ _

/-- The loads that succeed before the next 404, counted along `fuel`. -/
def loadsLeftAux : Nat → ListState → Nat
  | 0, _ => 0
  | fuel + 1, l => if l.exhausted then 0 else loadsLeftAux fuel l.extend + 1

/-- **How many `loadChats` calls succeed before one answers 404.** -/
def loadsLeft (l : ListState) : Nat := loadsLeftAux (l.seq.length - l.loaded) l

theorem loadsLeftAux_exhausted (fuel : Nat) (l : ListState) (h : l.exhausted) :
    loadsLeftAux fuel l = 0 := by
  cases fuel with
  | zero => rfl
  | succ fuel => simp [loadsLeftAux, h]

/-- Any fuel that covers the unloaded part gives the same count. -/
theorem loadsLeftAux_stable (f1 : Nat) :
    ∀ (f2 : Nat) (l : ListState), l.seq.length - l.loaded ≤ f1 → l.seq.length - l.loaded ≤ f2 →
      loadsLeftAux f1 l = loadsLeftAux f2 l := by
  induction f1 with
  | zero =>
    intro f2 l h1 _
    have hex : l.exhausted := by simp only [exhausted, decide_eq_true_eq]; omega
    rw [loadsLeftAux_exhausted _ l hex, loadsLeftAux_exhausted _ l hex]
  | succ f1 ih =>
    intro f2 l h1 h2
    cases hex : l.exhausted with
    | true => rw [loadsLeftAux_exhausted _ l hex, loadsLeftAux_exhausted _ l hex]
    | false =>
      have hlt := l.loaded_lt_extend hex
      have hle := l.extend_loaded_le
      obtain ⟨f, rfl⟩ : ∃ f, f2 = f + 1 := ⟨f2 - 1, by omega⟩
      simp only [loadsLeftAux, hex, Bool.false_eq_true, if_false]
      rw [ih f l.extend (by simp only [extend_seq]; omega)
        (by simp only [extend_seq]; omega)]

theorem loadsLeft_of_exhausted (l : ListState) (h : l.exhausted) : l.loadsLeft = 0 :=
  loadsLeftAux_exhausted _ l h

theorem loadsLeft_extend (l : ListState) (h : l.exhausted = false) :
    l.loadsLeft = l.extend.loadsLeft + 1 := by
  have hlt := l.loaded_lt_extend h
  have hle := l.extend_loaded_le
  have hgap : l.seq.length - l.loaded = (l.seq.length - l.loaded - 1) + 1 := by omega
  unfold loadsLeft
  rw [hgap]
  simp only [loadsLeftAux, h, Bool.false_eq_true, if_false]
  rw [loadsLeftAux_stable _ _ l.extend (by simp only [extend_seq]; omega) (le_refl _)]

end ListState

/-! ## §2. The account. -/

/-- A TDLib account whose chats, users and supergroups stay fixed, with its
chat lists. -/
structure Account where
  me : TdUserSummary
  lists : TdChatList → ListState
  chat : Int → Option TdChat
  user : Int → Option TdUserSummary
  supergroup : Int → Option TdSupergroup

namespace Account

/-- TDLib's answer for an unknown id. -/
def found {α : Type} : Option α → Response α
  | some a => .value a
  | none => .error { code := 404 }

/-- The account after list `list` became `l`. -/
def setList (a : Account) (list : TdChatList) (l : ListState) : Account :=
  { a with lists := fun other => if other = list then l else a.lists other }

@[simp] theorem setList_lists_same (a : Account) (list : TdChatList) (l : ListState) :
    (a.setList list l).lists list = l := by
  simp [setList]

/-- **The TDLib client of the account.** -/
def client : TdClient Account where
  ready _ := true
  getMe a := .value a.me
  getChat a id := found (a.chat id)
  getUser a id := found (a.user id)
  getSupergroup a id := found (a.supergroup id)
  getChats a list n := .value (((a.lists list).visible n).map (·.id))
  loadChats a list _ :=
    if (a.lists list).exhausted then (.error { code := 404 }, a)
    else (.value (), a.setList list (a.lists list).extend)

@[simp] theorem client_ready (a : Account) : client.ready a := rfl

@[simp] theorem client_getMe (a : Account) : client.getMe a = .value a.me := rfl

@[simp] theorem client_getChat (a : Account) (id : Int) :
    client.getChat a id = found (a.chat id) := rfl

@[simp] theorem client_getChats (a : Account) (list : TdChatList) (n : Nat) :
    client.getChats a list n = .value (((a.lists list).visible n).map (·.id)) := rfl

theorem client_loadChats_exhausted {a : Account} (h : (a.lists list).exhausted) (n : Nat) :
    client.loadChats a list n = (.error { code := 404 }, a) := if_pos h

theorem client_loadChats_more {a : Account} (h : (a.lists list).exhausted = false) (n : Nat) :
    client.loadChats a list n = (.value (), a.setList list (a.lists list).extend) :=
  if_neg (by simp [h])

end Account

open Account

/-! ## §3. The loop. -/

/-- Why a list read ended without a list. -/
inductive ReadFailure where
  | stopped
  | tdError (e : TdError)
  | internal
deriving DecidableEq, Repr

/-- `kDialogBatch` of daemon/chats_commands.cpp and `kDialogLoadBatch` of
daemon/resolver.cpp. -/
def kDialogBatch : Nat := 100

def kMaximumInt32 : Nat := 2147483647

variable {σ : Type}

/-- The loop of both readers; `grow` is the next prefix, `none` the error
of a prefix that leaves the 32-bit range.  `none` as a result: the fuel did
not cover the loads. -/
def growLoop (grow : Nat → Option Nat) (client : TdClient σ) (list : TdChatList) :
    Nat → Nat → σ → Option (Except ReadFailure (List Int) × σ)
  | 0, _, _ => none
  | fuel + 1, prefixLimit, s =>
    match client.getChats s list prefixLimit with
    | .stopped => some (.error .stopped, s)
    | .error e => some (.error (.tdError e), s)
    | .unexpected => some (.error .internal, s)
    | .value ids =>
      if !ids.all validInt53 then some (.error .internal, s)
      else
        match client.loadChats s list kDialogBatch with
        | (.stopped, s') => some (.error .stopped, s')
        | (.error e, s') =>
          if e.code = 404 then some (.ok ids, s') else some (.error (.tdError e), s')
        | (.unexpected, s') => some (.error .internal, s')
        | (.value (), s') =>
          match grow prefixLimit with
          | none => some (.error .internal, s')
          | some next => growLoop grow client list fuel next s'

/-- `prefix_limit` in `load_list`: refused past the 32-bit range. -/
def growStrict (prefixLimit : Nat) : Option Nat :=
  if prefixLimit > kMaximumInt32 - kDialogBatch then none else some (prefixLimit + kDialogBatch)

/-- `prefix_limit` in `load_complete_list` and in `ChatsRun::run`: it stays
at the largest 32-bit value. -/
def growSaturating (prefixLimit : Nat) : Nat :=
  if prefixLimit ≤ kMaximumInt32 - kDialogBatch then prefixLimit + kDialogBatch
  else kMaximumInt32

inductive ResolverScope where
  | activeDialogs | localMaterialized
deriving DecidableEq, Repr

/-- The one `getChats` of a local scan. -/
def localList (client : TdClient σ) (list : TdChatList) (s : σ) : Except ReadFailure (List Int) :=
  match client.getChats s list kDialogBatch with
  | .stopped => .error .stopped
  | .error e => .error (.tdError e)
  | .unexpected => .error .internal
  | .value ids => if !ids.all validInt53 then .error .internal else .ok ids

def loadList (client : TdClient σ) (fuel : Nat) (list : TdChatList) (scope : ResolverScope)
    (s : σ) : Option (Except ReadFailure (List Int) × σ) :=
  match scope with
  | .localMaterialized => some (localList client list s, s)
  | .activeDialogs => growLoop growStrict client list fuel kDialogBatch s

def loadCompleteList (client : TdClient σ) (fuel : Nat) (list : TdChatList) (s : σ) :
    Option (Except ReadFailure (List Int) × σ) :=
  growLoop (fun p => some (growSaturating p)) client list fuel kDialogBatch s

/-! ## §4. The prefix after `n` loads. -/

/-- The prefix after `n` growth steps. -/
def growN (grow : Nat → Option Nat) : Nat → Nat → Option Nat
  | 0, p => some p
  | n + 1, p => (grow p).bind (growN grow n)

theorem growN_strict (n : Nat) : ∀ p, p ≤ kMaximumInt32 → growN growStrict n p
      = if p + n * kDialogBatch ≤ kMaximumInt32 then some (p + n * kDialogBatch) else none := by
  induction n with
  | zero => intro p hp; simp [growN, hp]
  | succ n ih =>
    intro p hp
    simp only [growN, growStrict]
    split
    next hbig =>
      simp only [Option.bind_none]
      rw [if_neg]
      simp only [kDialogBatch, kMaximumInt32] at *
      omega
    next hsmall =>
      have hstep : p + kDialogBatch + n * kDialogBatch = p + (n + 1) * kDialogBatch := by
        rw [Nat.succ_mul]; omega
      simp only [Option.bind_some]
      rw [ih _ (by simp only [kDialogBatch, kMaximumInt32] at *; omega), hstep]

theorem growSaturating_le (hp : p ≤ kMaximumInt32) : growSaturating p ≤ kMaximumInt32 := by
  simp only [growSaturating]
  split <;> simp only [kDialogBatch, kMaximumInt32] at * <;> omega

/-- Growing once and then `n` times is growing `n + 1` times, capped. -/
theorem growSaturating_add (hp : p ≤ kMaximumInt32) (n : Nat) :
    min (growSaturating p + n * kDialogBatch) kMaximumInt32
      = min (p + (n + 1) * kDialogBatch) kMaximumInt32 := by
  simp only [growSaturating]
  split <;> simp only [kDialogBatch, kMaximumInt32] at * <;> omega

theorem growN_saturating (n : Nat) :
    ∀ p, p ≤ kMaximumInt32 → growN (fun q => some (growSaturating q)) n p
      = some (min (p + n * kDialogBatch) kMaximumInt32) := by
  induction n with
  | zero => intro p hp; simp [growN, hp]
  | succ n ih =>
    intro p hp
    simp only [growN, Option.bind_some]
    rw [ih _ (growSaturating_le hp), growSaturating_add hp]

/-! ## §5. What the loop returns over an account. -/

/-- Every id of the list is one TDLib can name. -/
def ListState.IdsValid (l : ListState) : Prop := ∀ chat ∈ l.seq, validInt53 chat.id = true

theorem visible_ids_valid {l : ListState} (h : l.IdsValid) (n : Nat) :
    ((l.visible n).map (·.id)).all validInt53 := by
  simp only [all_map, all_eq_true]
  intro chat hmem
  exact h chat (mem_of_mem_take hmem)

theorem visible_of_exhausted {l : ListState} (h : l.exhausted) (n : Nat) :
    l.visible n = l.seq.take n := by
  simp only [ListState.exhausted, decide_eq_true_eq] at h
  simp only [ListState.visible]
  rcases le_total n l.loaded with hn | hn
  · rw [min_eq_left hn]
  · rw [min_eq_right hn, take_of_length_le h, take_of_length_le (by omega)]

/-- One turn of the loop on a list with more to load. -/
theorem growLoop_step (grow : Nat → Option Nat) (fuel p : Nat) (a : Account) (list : TdChatList)
    (hids : (a.lists list).IdsValid) (hmore : (a.lists list).exhausted = false) :
    growLoop grow client list (fuel + 1) p a = match grow p with
        | none => some (.error .internal, a.setList list (a.lists list).extend)
        | some next =>
          growLoop grow client list fuel next
            (a.setList list (a.lists list).extend) := by
  simp only [growLoop, client_getChats, visible_ids_valid hids, client_loadChats_more hmore]
  rfl

/-- The last turn of the loop: TDLib answers 404. -/
theorem growLoop_last (grow : Nat → Option Nat) (fuel p : Nat) (a : Account) (list : TdChatList)
    (hids : (a.lists list).IdsValid) (hdone : (a.lists list).exhausted) :
    growLoop grow client list (fuel + 1) p a
      = some (.ok (((a.lists list).seq.take p).map (·.id)), a) := by
  rw [← visible_of_exhausted hdone]
  simp only [growLoop, client_getChats, visible_ids_valid hids, client_loadChats_exhausted hdone]
  rfl

/-- **The loop returns the first `q` chats**, `q` being the prefix grown once
per load that was still to be made when the command started. -/
theorem growLoop_ok_iff (grow : Nat → Option Nat) (list : TdChatList) (ids : List Int) :
    ∀ (r p : Nat) (a : Account), (a.lists list).IdsValid → (a.lists list).loadsLeft = r →
      ((∃ fuel a', growLoop grow client list fuel p a = some (.ok ids, a'))
        ↔ ∃ q, growN grow r p = some q ∧ ids = ((a.lists list).seq.take q).map (·.id)) := by
  intro r
  induction r with
  | zero =>
    intro p a hids hr
    have hdone : (a.lists list).exhausted := by
      by_contra hmore
      have h1 := (a.lists list).loadsLeft_extend (by simpa using hmore)
      omega
    constructor
    · rintro ⟨_ | fuel, a', h⟩
      · simp [growLoop] at h
      rw [growLoop_last grow fuel p a list hids hdone] at h
      simp only [Option.some.injEq, Prod.mk.injEq, Except.ok.injEq] at h
      exact ⟨p, rfl, h.1.symm⟩
    · rintro ⟨q, hq, rfl⟩
      simp only [growN, Option.some.injEq] at hq
      subst hq
      exact ⟨1, a, growLoop_last grow 0 p a list hids hdone⟩
  | succ r ih =>
    intro p a hids hr
    have hmore : (a.lists list).exhausted = false := by
      by_contra hdone
      have h0 := (a.lists list).loadsLeft_of_exhausted (by simpa using hdone)
      omega
    have hr' : ((a.setList list (a.lists list).extend).lists list).loadsLeft = r := by
      have h1 := (a.lists list).loadsLeft_extend hmore
      rw [setList_lists_same]
      omega
    have hids' : ((a.setList list (a.lists list).extend).lists list).IdsValid := by
      rw [setList_lists_same]
      exact hids
    cases hgrow : grow p with
    | none =>
      constructor
      · rintro ⟨_ | fuel, a', h⟩
        · simp [growLoop] at h
        rw [growLoop_step grow fuel p a list hids hmore, hgrow] at h
        exact absurd h (by simp)
      · rintro ⟨q, hq, _⟩
        exact absurd hq (by simp [growN, hgrow])
    | some next =>
      have hstep := ih next _ hids' hr'
      rw [setList_lists_same, ListState.extend_seq] at hstep
      have hN : growN grow (r + 1) p = growN grow r next := by simp [growN, hgrow]
      rw [hN, ← hstep]
      constructor
      · rintro ⟨_ | fuel, a', h⟩
        · simp [growLoop] at h
        rw [growLoop_step grow fuel p a list hids hmore, hgrow] at h
        exact ⟨fuel, a', h⟩
      · rintro ⟨fuel, a', h⟩
        refine ⟨fuel + 1, a', ?_⟩
        rw [growLoop_step grow fuel p a list hids hmore, hgrow]
        exact h

/-- The prefix asked for by the last `getChats` of a command that starts with
`r` loads to make. -/
def lastPrefixLimit (r : Nat) : Nat := kDialogBatch + r * kDialogBatch

/-- **What `load_list` returns over the active dialogs.** -/
theorem loadList_ok_iff (a : Account) (list : TdChatList) (hids : (a.lists list).IdsValid)
    (ids : List Int) :
    (∃ fuel a', loadList client fuel list .activeDialogs a = some (.ok ids, a'))
      ↔ lastPrefixLimit (a.lists list).loadsLeft ≤ kMaximumInt32
        ∧ ids = ((a.lists list).seq.take (lastPrefixLimit (a.lists list).loadsLeft)).map (·.id) := by
  have h := growLoop_ok_iff growStrict list ids _ kDialogBatch a hids rfl
  rw [growN_strict _ _ (by decide)] at h
  show (∃ fuel a', growLoop growStrict client list fuel kDialogBatch a = _) ↔ _
  rw [h]
  constructor
  · rintro ⟨q, hq, hids⟩
    split at hq
    next hle =>
      cases hq
      exact ⟨hle, hids⟩
    · exact absurd hq (by simp)
  · rintro ⟨hle, hids⟩
    exact ⟨_, if_pos hle, hids⟩

/-- **What `load_complete_list` returns.** -/
theorem loadCompleteList_ok_iff (a : Account) (list : TdChatList)
    (hids : (a.lists list).IdsValid) (ids : List Int) :
    (∃ fuel a', loadCompleteList client fuel list a = some (.ok ids, a'))
      ↔ ids = ((a.lists list).seq.take
          (min (lastPrefixLimit (a.lists list).loadsLeft) kMaximumInt32)).map (·.id) := by
  have h := growLoop_ok_iff (fun p => some (growSaturating p)) list ids _ kDialogBatch a hids rfl
  rw [growN_saturating _ _ (by decide)] at h
  show (∃ fuel a', growLoop _ client list fuel kDialogBatch a = _) ↔ _
  rw [h]
  unfold lastPrefixLimit
  simp only [Option.some.injEq, exists_eq_left']

end TgCli.ChatList
