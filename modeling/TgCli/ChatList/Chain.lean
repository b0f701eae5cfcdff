/-
  TgCli.ChatList.Chain — WHEN CHAT-LIST SCANS ARE COMPLETE

  A command that starts with `r` loads to make sees at most the first
  `100 (r + 1)` chats of a list, however much of it is loaded already.  So the
  three scans are complete for some load states and not for others, and this
  module says for which:

    * `chatsRun_spec` — one call: a full page and a cursor, or everything up
      to its window and no cursor;
    * `chain_complete_iff` — the chain of calls returns every chat exactly
      when every call of it `covers` what is left;
    * `chatListScans_complete_iff` — the three readers together.
-/
import TgCli.ChatList.Scan

namespace TgCli.ChatList

open Tdlib Lib List Account

/-! ## §1. More fuel changes nothing. -/

section Fuel

variable {σ : Type} (client : TdClient σ) (st : ChatsState)

theorem runLoop_succ (fuel : Nat) :
    ∀ (p : Nat) (scan : Scan) (s : σ) (r : Except ChatsFailure Scan × σ),
      runLoop client st fuel p scan s = some r → runLoop client st (fuel + 1) p scan s = some r := by
  induction fuel with
  | zero => intro p scan s r h; exact absurd h (by simp [runLoop])
  | succ fuel ih =>
    intro p scan s r h
    rw [runLoop] at h ⊢
    split at h
    next hfull => rw [if_pos hfull]; exact h
    rename_i hroom
    rw [if_neg hroom]
    cases hpre : materializePrefix client s st.list p with
    | error f => rw [hpre] at h; exact h
    | ok entries =>
      rw [hpre] at h
      simp only at h ⊢
      cases happ : appendMatches client s st entries scan with
      | error f => rw [happ] at h; exact h
      | ok scan' =>
        rw [happ] at h
        simp only at h ⊢
        split at h
        next hlim => rw [if_pos hlim]; exact h
        rename_i hlim
        rw [if_neg hlim]
        split at h
        · exact h
        · exact h
        · exact h
        · exact ih _ _ _ _ h

theorem runLoop_mono (hle : fuel ≤ fuel')
    (h : runLoop client st fuel p scan s = some r) : runLoop client st fuel' p scan s = some r := by
  induction hle with
  | refl => exact h
  | step _ ih => exact runLoop_succ client st _ _ _ _ _ ih

theorem chats_mono (hle : fuel ≤ fuel')
    (h : chats client account fuel args s = some r) : chats client account fuel' args s = some r := by
  unfold chats at h ⊢
  cases hp : parseState args with
  | error f => rw [hp] at h; exact h
  | ok st =>
    rw [hp] at h
    simp only [chatsRun] at h ⊢
    cases hpre : preflight client account st s with
    | error f => rw [hpre] at h; exact h
    | ok userId =>
      rw [hpre] at h
      cases hrun : runLoop client st fuel kDialogBatch (initialScan st) s with
      | none => rw [hrun] at h; cases h
      | some result => rw [hrun] at h; rw [runLoop_mono client st hle hrun]; exact h

end Fuel

/-! ## §2. Valid states and cursors. -/

/-- What `parse_state` guarantees of the state it returns. -/
structure StateValid (st : ChatsState) : Prop where
  list : validList st.list = true
  limit_pos : 1 ≤ st.limit
  limit_le : st.limit ≤ kMaximumChatsLimit

variable {args : ChatsArgs} {st : ChatsState} {account : String} {a a' : Account} {c fuel n : Nat}
  {page : ChatsPage} {list : TdChatList}

theorem parseState_valid (h : parseState args = .ok st) : StateValid st := by
  unfold parseState at h
  split at h
  · cases h
  rename_i hfolder
  split at h
  · cases h
  rename_i hlimit
  cases hc : args.cursor with
  | some cursor =>
    rw [hc] at h
    simp only at h
    split at h; · cases h
    split at h; · cases h
    split at h; · cases h
    split at h; · cases h
    split at h; · cases h
    next hval =>
      cases h
      simp only [validChatsCursor, Bool.not_eq_true, Bool.not_eq_false', Bool.and_eq_true,
        decide_eq_true_eq, bne_iff_ne, beq_iff_eq] at hval
      obtain ⟨⟨⟨⟨⟨⟨⟨-, hlo⟩, hhi⟩, hknown⟩, -⟩, -⟩, hscope⟩, hpos⟩ := hval
      refine ⟨?_, by simp only; omega, by simp only [kMaximumChatsLimit] at *; omega⟩
      simp only [validList]
      cases hkind : cursor.list with
      | main | archive | folder => rw [hkind] at hscope; cases hf : cursor.folderId <;> simp_all
      | unknown => exact absurd hkind hknown
  | none =>
    rw [hc] at h
    simp only at h
    split at h
    · cases h
    cases h
    refine ⟨?_, ?_, ?_⟩
    · simp only
      cases harch : args.archived with
      | true => rfl
      | false =>
        cases hf : args.folder with
        | none => rfl
        | some id =>
          rw [hf] at hfolder
          simp only [Option.any_some, Bool.or_eq_true, decide_eq_true_eq, not_or, not_le] at hfolder
          simp [validList, hfolder.1]
    · cases hl : args.limit with
      | none => simp [kDefaultChatsLimit]
      | some n => rw [hl] at hlimit; simp at hlimit; simp; omega
    · cases hl : args.limit with
      | none => simp [kDefaultChatsLimit, kMaximumChatsLimit]
      | some n =>
        rw [hl] at hlimit
        simp [kMaximumChatsLimit] at hlimit ⊢
        omega

/-- A returned cursor is accepted, and continues the same request. -/
theorem parseState_cursorAt {key : ChatKey} (hst : StateValid st)
    (hacct : account ≠ "") (huser : validUserId userId) (horder : key.order ≠ 0)
    (hid : validInt53 key.chatId) :
    parseState { cursor := some (cursorAt account userId st key) }
      = .ok { st with cursor := some (cursorAt account userId st key) } := by
  obtain ⟨hlist, hpos, hmax⟩ := hst
  obtain ⟨⟨kind, folderId⟩, unread, limit, cursor⟩ := st
  simp only at hlist hpos hmax
  have hlimit : (1 : Int) ≤ (limit : Int) ∧ (limit : Int) ≤ (kMaximumChatsLimit : Int) := by
    omega
  have hval : validChatsCursor
      (cursorAt account userId ⟨⟨kind, folderId⟩, unread, limit, cursor⟩ key) := by
    cases kind <;>
      simp_all [validChatsCursor, cursorAt, validList, kOperation]
  have hsame : ({ kind := kind, folderId :=
      (if kind = .folder then some folderId else none).getD 0 } : TdChatList)
        = { kind := kind, folderId := folderId } := by
    cases kind <;> simp_all [validList]
  simp only [parseState, hval, Option.any_none, Option.isSome_none, Bool.false_eq_true, if_false,
    Bool.not_true]
  simp only [cursorAt, Int.toNat_natCast, hsame]

/-! ## §3. One call. -/

/-- The request continues a scan that stands at position `c`. -/
structure AtPosition (a : Account) (st : ChatsState) (c : Nat) : Prop where
  le : c ≤ (a.lists st.list).seq.length
  anchor : (initialScan st).lastScanned = anchorAt a st c

/-- The cursor of the request, if any, belongs to this account and user. -/
def InScope (account : String) (a : Account) (st : ChatsState) : Prop :=
  ∀ cursor, st.cursor = some cursor →
    cursor.operation = kOperation ∧ cursor.account = account ∧ cursor.userId = a.me.id

/-- A user account whose id is one TDLib can name. -/
structure UserAccount (a : Account) : Prop where
  id : validUserId a.me.id = true
  notBot : a.me.isBot = false

theorem preflight_ok (hme : UserAccount a) (hscope : InScope account a st) :
    preflight client account st a = .ok a.me.id := by
  have hany : (st.cursor.any fun c => c.operation != kOperation || c.account != account
      || c.userId != a.me.id) = false := by
    cases hc : st.cursor with
    | none => rfl
    | some cursor =>
      obtain ⟨h1, h2, h3⟩ := hscope cursor hc
      simp [h1, h2, h3]
  simp [preflight, hme.id, hme.notBot, hany]

theorem anchorAt_pos (hwf : ListWf a st.list) (hpos : 0 < c)
    (hle : c ≤ (a.lists st.list).seq.length) :
    ∃ key, anchorAt a st c = some key ∧ key.order ≠ 0 ∧ validInt53 key.chatId := by
  obtain ⟨init, chat, htake⟩ : ∃ init chat, (a.lists st.list).seq.take c = init ++ [chat] := by
    rcases eq_nil_or_concat ((a.lists st.list).seq.take c) with hnil | ⟨init, chat, h⟩
    · have := congrArg List.length hnil
      simp only [length_take, length_nil] at this
      omega
    · exact ⟨init, chat, by rw [h, concat_eq_append]⟩
  have hmem : chat ∈ (a.lists st.list).seq := by
    have : chat ∈ (a.lists st.list).seq.take c := by rw [htake]; simp
    exact mem_of_mem_take this
  obtain ⟨order, hne, hposn⟩ := hwf.positioned chat hmem
  refine ⟨keyOf st.list chat, ?_, ?_, hwf.idsValid chat hmem⟩
  · unfold anchorAt
    rw [htake, anchorAfter_concat]
  · simpa [keyOf, hposn] using hne

/-- **One call**: a full page with a cursor, or everything up to the window
and no cursor. -/
theorem chatsRun_spec (hwf : ListWf a st.list) (hst : StateValid st) (hme : UserAccount a)
    (hscope : InScope account a st) (hat : AtPosition a st c)
    (hfuel : (a.lists st.list).loadsLeft < fuel) :
    ∃ page a' c', chatsRun client account fuel st a = some (.ok page, a')
      ∧ Loaded a a' st.list ∧ c ≤ c' ∧ c' ≤ (a.lists st.list).seq.length
      ∧ itemIds page.items = pageIds a st c c'
      ∧ ((page.items.length = st.limit ∧ c' ≤ window (a.lists st.list).loadsLeft
          ∧ ∃ key, anchorAt a st c' = some key ∧ key.order ≠ 0 ∧ validInt53 key.chatId
            ∧ page.next = some (cursorAt account a.me.id st key))
        ∨ (page.items.length < st.limit
          ∧ c' = max c (min (window (a.lists st.list).loadsLeft) (a.lists st.list).seq.length)
          ∧ page.next = none)) := by
  have hpage0 : itemIds (initialScan st).items = pageIds a st c c := by
    simp [initialScan, itemIds, pageIds, span_self]
  obtain ⟨items, c', a', hrun, hload, hcc, hcl, hids, hend⟩ :=
    runLoop_spec st _ a kDialogBatch c c fuel (initialScan st) hwf rfl (by decide) (le_refl _)
      hat.le hat.anchor hpage0 hst.limit_pos hfuel
  have hrun' : chatsRun client account fuel st a
      = some (.ok { items := items
                    next := continuation account a.me.id st
                      { lastScanned := anchorAt a st c', items := items } }, a') := by
    simp only [chatsRun, preflight_ok hme hscope, hrun]
  refine ⟨_, a', c', hrun', hload, hcc, hcl, hids, ?_⟩
  rcases hend with ⟨hfull, hle⟩ | ⟨hlt, hc'⟩
  · left
    -- a full page holds at least one chat, so the scan has moved
    have hpos : 0 < c' := by
      by_contra h0
      have hc0 : c' = 0 := by omega
      have hlen := congrArg List.length hids
      rw [itemIds_length, hfull] at hlen
      have hcz : c = 0 := by omega
      subst hc0
      subst hcz
      simp only [pageIds, span_self, filter_nil, map_nil, length_nil] at hlen
      have := hst.limit_pos
      omega
    obtain ⟨key, hkey, horder, hid⟩ := anchorAt_pos hwf hpos hcl
    refine ⟨hfull, hle, key, hkey, horder, hid, ?_⟩
    simp only [continuation, hfull, ne_eq, not_true_eq_false, if_false, hkey, Option.map_some]
  · right
    refine ⟨hlt, hc', ?_⟩
    simp only [continuation]
    rw [if_pos (by omega)]

/-! ## §4. What a call must cover. -/

/-- The chats of `chats` a request still has to return. -/
def due (st : ChatsState) (chats : List TdChat) : List TdChat :=
  chats.filter fun chat =>
    !skipped st.list (initialScan st).lastScanned chat && passes st.unread chat

/-- **A call covers what is left**: its window holds a full page of due chats,
or no due chat lies beyond the window. -/
def covers (a : Account) (st : ChatsState) : Prop :=
  st.limit ≤ (due st ((a.lists st.list).seq.take (window (a.lists st.list).loadsLeft))).length
    ∨ due st ((a.lists st.list).seq.drop (window (a.lists st.list).loadsLeft)) = []

/-- The due chats of a scan at position `c`, in front of and behind a window. -/
theorem due_at (hwf : ListWf a st.list) (hat : AtPosition a st c) (w : Nat) :
    due st ((a.lists st.list).seq.take w)
        = (span (a.lists st.list).seq c w).filter (passes st.unread)
      ∧ due st ((a.lists st.list).seq.drop w)
        = ((a.lists st.list).seq.drop (max c w)).filter (passes st.unread) := by
  set seq := (a.lists st.list).seq
  have hsplit : ((seq.take c) ++ seq.drop c).Pairwise
      fun x y => below (keyOf st.list y) (keyOf st.list x) := by
    rw [take_append_drop]
    exact hwf.descending
  have hold : ∀ chat ∈ seq.take c,
      skipped st.list (initialScan st).lastScanned chat := by
    rw [hat.anchor]
    exact fun chat hm => skipped_of_scanned (pairwise_append.mp hsplit).1 hm
  have hnew : ∀ chat ∈ seq.drop c,
      skipped st.list (initialScan st).lastScanned chat = false := by
    rw [hat.anchor]
    exact fun chat hm => not_skipped_of_ahead hsplit hm
  -- due chats of a part behind the anchor, and none in front of it
  have hkeep : ∀ part : List TdChat, (∀ chat ∈ part, chat ∈ seq.drop c) →
      due st part = part.filter (passes st.unread) := by
    intro part hsub
    refine filter_congr ?_
    intro chat hm
    rw [hnew chat (hsub chat hm)]
    simp
  have hdrop : ∀ part : List TdChat, (∀ chat ∈ part, chat ∈ seq.take c) → due st part = [] := by
    intro part hsub
    unfold due
    rw [filter_eq_nil_iff]
    intro chat hm
    simp [hold chat (hsub chat hm)]
  have happend : ∀ xs ys : List TdChat, due st (xs ++ ys) = due st xs ++ due st ys :=
    fun xs ys => filter_append ..
  constructor
  · rcases le_total c w with hcw | hwc
    · rw [← take_append_span seq hcw, happend, hdrop _ (fun _ h => h), nil_append]
      refine hkeep _ ?_
      intro chat hm
      unfold span at hm
      rw [drop_take] at hm
      exact mem_of_mem_take hm
    · have hnil : span seq c w = [] :=
        drop_eq_nil_of_le ((length_take_le w seq).trans hwc)
      rw [hnil, filter_nil]
      refine hdrop _ ?_
      intro chat hm
      rw [show seq.take w = (seq.take c).take w by
        rw [take_take, min_eq_left hwc]] at hm
      exact mem_of_mem_take hm
  · rcases le_total c w with hcw | hwc
    · rw [Nat.max_eq_right hcw]
      refine hkeep _ ?_
      intro chat hm
      rw [show seq.drop w = (seq.drop c).drop (w - c) by
        rw [drop_drop]; congr 1; omega] at hm
      exact mem_of_mem_drop hm
    · rw [Nat.max_eq_left hwc]
      have hparts : seq.drop w = span seq w c ++ seq.drop c := by
        conv_lhs => rw [← take_append_drop c seq]
        by_cases hlen : w ≤ (seq.take c).length
        · rw [drop_append_of_le_length hlen]
          rfl
        have hcl : c ≤ seq.length := hat.le
        rw [length_take] at hlen
        omega
      have hspan : due st (span seq w c) = [] :=
        hdrop _ fun chat hm => mem_of_mem_drop hm
      rw [hparts, happend, hspan, nil_append, hkeep _ (fun _ h => h)]

/-! ## §5. The chain of calls. -/

/-- One call of a chain and the next one: the first returned a page with a
cursor, and left the account with more of the list loaded. -/
def NextCall (account : String) (now next : ChatsArgs × Account) : Prop :=
  ∃ fuel page cursor, chats client account fuel now.1 now.2 = some (.ok page, next.2)
    ∧ page.next = some cursor ∧ next.1 = { cursor := some cursor }

/-- The request is accepted and covers what is left. -/
def callCovers (call : ChatsArgs × Account) : Prop :=
  ∀ st, parseState call.1 = .ok st → covers call.2 st

/-- **Every call of the chain covers what is left when it starts.** -/
def chainCovers (account : String) (args : ChatsArgs) (a : Account) : Prop :=
  ∀ call, Relation.ReflTransGen (NextCall account) (args, a) call → callCovers call

/-- The ids a chain returned, page after page. -/
def chainIds (pages : List ChatsPage) : List Int := pages.flatMap fun page => itemIds page.items

section

variable (h : chats client account fuel args a = some (.ok page, a'))
include h

/-- A call's successor is determined by its page. -/
theorem nextCall_iff
    (call : ChatsArgs × Account) :
    NextCall account (args, a) call
      ↔ ∃ cursor, page.next = some cursor ∧ call = ({ cursor := some cursor }, a') := by
  constructor
  · rintro ⟨fuel', page', cursor, hcall, hnext, hargs⟩
    have h1 := chats_mono client (le_max_left fuel fuel') h
    have h2 := chats_mono client (le_max_right fuel fuel') hcall
    rw [h1] at h2
    simp only [Option.some.injEq, Prod.mk.injEq, Except.ok.injEq] at h2
    obtain ⟨hpage, hacc⟩ := h2
    subst hpage
    exact ⟨cursor, hnext, Prod.ext hargs hacc.symm⟩
  · rintro ⟨cursor, hnext, rfl⟩
    exact ⟨fuel, page, cursor, h, hnext, rfl⟩

theorem chainCovers_last
    (hnext : page.next = none) : chainCovers account args a ↔ callCovers (args, a) := by
  constructor
  · exact fun hall => hall _ Relation.ReflTransGen.refl
  · intro hcall call hreach
    rcases hreach.cases_head with rfl | ⟨mid, hstep, -⟩
    · exact hcall
    · obtain ⟨cursor, hsome, -⟩ := (nextCall_iff h mid).mp hstep
      rw [hnext] at hsome
      cases hsome

theorem chainCovers_step
    (hnext : page.next = some cursor) :
    chainCovers account args a
      ↔ callCovers (args, a) ∧ chainCovers account { cursor := some cursor } a' := by
  have hstep : NextCall account (args, a) ({ cursor := some cursor }, a') :=
    (nextCall_iff h _).mpr ⟨cursor, hnext, rfl⟩
  constructor
  · intro hall
    exact ⟨hall _ Relation.ReflTransGen.refl,
      fun call hreach => hall call (Relation.ReflTransGen.head hstep hreach)⟩
  · rintro ⟨hcall, hrest⟩ call hreach
    rcases hreach.cases_head with rfl | ⟨mid, hmid, htail⟩
    · exact hcall
    · obtain ⟨cursor', hnext', rfl⟩ := (nextCall_iff h mid).mp hmid
      rw [hnext] at hnext'
      cases hnext'
      exact hrest call htail

end

/-- On the last page, the call covers exactly when nothing due is left. -/
theorem covers_last_iff (hwf : ListWf a st.list) (hat : AtPosition a st c)
    (hc' : c' = max c (min (window (a.lists st.list).loadsLeft) (a.lists st.list).seq.length))
    (hfew : (pageIds a st c c').length < st.limit) :
    covers a st ↔ ((a.lists st.list).seq.drop c').filter (passes st.unread) = [] := by
  obtain ⟨hin, hout⟩ := due_at hwf hat (window (a.lists st.list).loadsLeft)
  unfold covers
  generalize window (a.lists st.list).loadsLeft = w at hin hout hc' ⊢
  set seq := (a.lists st.list).seq
  have hdrop : seq.drop (max c w) = seq.drop c' := by
    by_cases hw : w ≤ seq.length
    · congr 1; omega
    · rw [drop_eq_nil_of_le (by omega), drop_eq_nil_of_le (by omega)]
  have hspan : span seq c w = span seq c c' := by
    unfold span
    rcases le_total w c with hwc | hcw
    · rw [drop_eq_nil_of_le ((length_take_le w seq).trans hwc),
        drop_eq_nil_of_le ((length_take_le c' seq).trans (by omega))]
    · rcases le_total w seq.length with hw | hw
      · congr 2; omega
      · rw [take_of_length_le hw, take_of_length_le (by omega)]
  have hfew' : ((span seq c c').filter (passes st.unread)).length < st.limit := by
    simpa [pageIds] using hfew
  rw [hin, hout, hspan, hdrop]
  constructor
  · rintro (hbig | hnil)
    · omega
    · exact hnil
  · exact Or.inr

/-- A full page inside the window: the call covers. -/
theorem covers_of_full (hwf : ListWf a st.list) (hat : AtPosition a st c) (hcc : c ≤ c')
    (hle : c' ≤ window (a.lists st.list).loadsLeft)
    (hfull : (pageIds a st c c').length = st.limit) : covers a st := by
  left
  rw [(due_at hwf hat _).1, ← span_append _ hcc hle, filter_append, length_append]
  have : ((span (a.lists st.list).seq c c').filter (passes st.unread)).length = st.limit := by
    simpa [pageIds] using hfull
  omega

/-- **The chain from position `c`** returns what is left exactly when every
call covers. -/
theorem chain_spec (account : String) (hacct : account ≠ "") (fuel calls : Nat) :
    ∀ (c : Nat) (args : ChatsArgs) (st : ChatsState) (a : Account),
      parseState args = .ok st → ListWf a st.list → UserAccount a → InScope account a st →
      AtPosition a st c → (a.lists st.list).loadsLeft < fuel →
      (a.lists st.list).seq.length - c < calls →
      ∃ pages, chain client account fuel calls args a = some (.ok pages)
        ∧ (∀ page ∈ pages, page.items.length ≤ st.limit)
        ∧ (chainIds pages = (((a.lists st.list).seq.drop c).filter (passes st.unread)).map (·.id)
            ↔ chainCovers account args a) := by
  induction calls with
  | zero => intro c args st a _ _ _ _ _ _ hcalls; omega
  | succ calls ih =>
    intro c args st a hparse hwf hme hscope hat hfuel hcalls
    have hst := parseState_valid hparse
    obtain ⟨page, a', c', hrun, hload, hcc, hcl, hids, hend⟩ :=
      chatsRun_spec hwf hst hme hscope hat hfuel
    have hchats : chats client account fuel args a = some (.ok page, a') := by
      simp only [chats, hparse, hrun]
    have hcovers : callCovers (args, a) ↔ covers a st := by
      constructor
      · exact fun h => h st hparse
      · intro h st' hst'
        rw [hparse] at hst'
        injection hst' with hst'
        exact hst' ▸ h
    have hlen : (pageIds a st c c').length = page.items.length := by
      rw [← hids, itemIds_length]
    have hparts : (((a.lists st.list).seq.drop c).filter (passes st.unread)).map (·.id)
        = pageIds a st c c'
          ++ (((a.lists st.list).seq.drop c').filter (passes st.unread)).map (·.id) := by
      have hsplit : (a.lists st.list).seq.drop c
          = span (a.lists st.list).seq c c' ++ (a.lists st.list).seq.drop c' := by
        conv_lhs => rw [← take_append_drop c' (a.lists st.list).seq]
        rw [drop_append_of_le_length (by rw [length_take]; omega)]
        rfl
      rw [hsplit, filter_append, map_append]
      rfl
    rcases hend with ⟨hfull, hwin, key, hkey, horder, hid, hnext⟩ | ⟨hlt, hc', hnext⟩
    · -- a full page: the chain goes on from `c'`
      have hmoved : c < c' := by
        rcases lt_or_ge c c' with h | h
        · exact h
        · have : c' = c := by omega
          subst this
          simp only [pageIds, span_self, filter_nil, map_nil, length_nil] at hlen
          have := hst.limit_pos
          omega
      have hparse' : parseState { cursor := some (cursorAt account a.me.id st key) } = _ :=
        parseState_cursorAt hst hacct hme.id horder hid
      have hat' : AtPosition a'
          { st with cursor := some (cursorAt account a.me.id st key) } c' := by
        refine ⟨by rw [hload.seq]; exact hcl, ?_⟩
        show _ = anchorAt a' st c'
        rw [anchorAt_congr hload.seq, hkey]
        rfl
      have hscope' : InScope account a'
          { st with cursor := some (cursorAt account a.me.id st key) } := by
        intro cursor hcur
        simp only [Option.some.injEq] at hcur
        subst hcur
        exact ⟨rfl, rfl, by rw [hload.me]; rfl⟩
      obtain ⟨pages, hchain, hlimits, hiff⟩ :=
        ih c' { cursor := some (cursorAt account a.me.id st key) } _ a' hparse' hload.wf
          ⟨by rw [hload.me]; exact hme.id, by rw [hload.me]; exact hme.notBot⟩ hscope' hat'
          (lt_of_le_of_lt hload.loadsLeft hfuel)
          (by simp only [hload.seq]; omega)
      refine ⟨page :: pages, ?_, ?_, ?_⟩
      · simp only [chain, hchats, hnext, hchain]
      · exact forall_mem_cons.mpr ⟨by omega, hlimits⟩
      · rw [chainCovers_step hchats hnext, ← hiff, hcovers]
        have hcov : covers a st := covers_of_full hwf hat hcc hwin (by omega)
        simp only [hcov, true_and]
        show itemIds page.items ++ chainIds pages = _ ↔ _
        rw [hparts, hids, append_cancel_left_eq]
        simp only [hload.seq]
    · -- the last page
      refine ⟨[page], ?_, ?_, ?_⟩
      · simp only [chain, hchats, hnext]
      · intro p hp
        rw [mem_singleton.mp hp]
        omega
      · rw [chainCovers_last hchats hnext, hcovers, covers_last_iff hwf hat hc' (by omega)]
        show itemIds page.items ++ [] = _ ↔ _
        rw [hparts, hids, append_cancel_left_eq, eq_comm, map_eq_nil_iff]

theorem chain_succ {σ : Type} (client : TdClient σ) (account : String) (calls : Nat) :
    ∀ (fuel fuel' : Nat) (args : ChatsArgs) (s : σ) (r : Except ChatsFailure (List ChatsPage)),
      fuel ≤ fuel' → chain client account fuel calls args s = some r →
      chain client account fuel' (calls + 1) args s = some r := by
  induction calls with
  | zero => intro fuel fuel' args s r _ h; exact absurd h (by simp [chain])
  | succ calls ih =>
    intro fuel fuel' args s r hle h
    rw [chain] at h ⊢
    cases hc : chats client account fuel args s with
    | none => rw [hc] at h; cases h
    | some result =>
      rw [hc] at h
      rw [chats_mono client hle hc]
      obtain ⟨answer, s'⟩ := result
      cases answer with
      | error f => exact h
      | ok page =>
        simp only at h ⊢
        cases hn : page.next with
        | none => rw [hn] at h; exact h
        | some cursor =>
          rw [hn] at h
          simp only at h ⊢
          cases ht : chain client account fuel calls { cursor := some cursor } s' with
          | none => rw [ht] at h; cases h
          | some tail => rw [ht] at h; rw [ih fuel fuel' _ _ _ hle ht]; exact h

theorem chain_mono {σ : Type} (client : TdClient σ) {fuel' calls calls' : Nat} {s : σ}
    {r : Except ChatsFailure (List ChatsPage)} (hfuel : fuel ≤ fuel') (hcalls : calls < calls')
    (h : chain client account fuel calls args s = some r) :
    chain client account fuel' calls' args s = some r := by
  induction hcalls with
  | refl => exact chain_succ client account _ _ _ _ _ _ hfuel h
  | step _ ih => exact chain_succ client account _ _ _ _ _ _ (le_refl _) ih

/-! ## §6. The three readers. -/

/-- `load_list` over the active dialogs returns the whole sequence. -/
def ResolverListWhole (a : Account) (list : TdChatList) : Prop :=
  ∃ fuel a', loadList client fuel list .activeDialogs a
    = some (.ok ((a.lists list).seq.map (·.id)), a')

/-- `load_complete_list` returns the whole sequence. -/
def UnreadListWhole (a : Account) (list : TdChatList) : Prop :=
  ∃ fuel a', loadCompleteList client fuel list a
    = some (.ok ((a.lists list).seq.map (·.id)), a')

/-- The chain of `chats` calls ends and returns every chat that passes the
filter exactly once, in order, at most `limit` per call. -/
def ChatsChainWhole (account : String) (args : ChatsArgs) (st : ChatsState) (a : Account) : Prop :=
  ∃ fuel calls pages, chain client account fuel calls args a = some (.ok pages)
    ∧ (∀ page ∈ pages, page.items.length ≤ st.limit)
    ∧ chainIds pages = ((a.lists st.list).seq.filter (passes st.unread)).map (·.id)

theorem map_take_eq_map_iff {α β : Type} (f : α → β) (l : List α) (n : Nat) :
    l.map f = (l.take n).map f ↔ l.length ≤ n := by
  constructor
  · intro h
    have := congrArg List.length h
    simp only [length_map, length_take] at this
    omega
  · intro h
    rw [take_of_length_le h]

theorem resolverListWhole_iff (h : (a.lists list).IdsValid) : ResolverListWhole a list
      ↔ lastPrefixLimit (a.lists list).loadsLeft ≤ kMaximumInt32
        ∧ (a.lists list).seq.length ≤ lastPrefixLimit (a.lists list).loadsLeft := by
  unfold ResolverListWhole
  rw [loadList_ok_iff a list h, map_take_eq_map_iff]

theorem unreadListWhole_iff (h : (a.lists list).IdsValid) :
    UnreadListWhole a list ↔ (a.lists list).seq.length ≤ window (a.lists list).loadsLeft := by
  unfold UnreadListWhole
  rw [loadCompleteList_ok_iff a list h, map_take_eq_map_iff]
  rfl

/-- **The chain is complete exactly when every call of it covers.** -/
theorem chain_complete_iff (hacct : account ≠ "") (hparse : parseState args = .ok st)
    (hfirst : st.cursor = none) (hwf : ListWf a st.list) (hme : UserAccount a) :
    ChatsChainWhole account args st a ↔ chainCovers account args a := by
  have hat : AtPosition a st 0 := ⟨Nat.zero_le _, by simp [initialScan, hfirst, anchorAt, anchorAfter]⟩
  have hscope : InScope account a st := by
    intro cursor hc
    rw [hfirst] at hc
    cases hc
  have hspec := fun fuel calls hf hn =>
    chain_spec account hacct fuel calls 0 args st a hparse hwf hme hscope hat hf hn
  constructor
  · rintro ⟨fuel, calls, pages, hchain, -, hids⟩
    -- compare with a run that certainly has fuel
    obtain ⟨pages', hchain', -, hiff⟩ :=
      hspec (max fuel ((a.lists st.list).loadsLeft + 1))
        (max (calls + 1) ((a.lists st.list).seq.length + 1)) (by omega) (by omega)
    have hsame := chain_mono client
      (le_max_left fuel ((a.lists st.list).loadsLeft + 1))
      (show calls < max (calls + 1) ((a.lists st.list).seq.length + 1) by omega) hchain
    rw [hsame] at hchain'
    simp only [Option.some.injEq, Except.ok.injEq] at hchain'
    subst hchain'
    exact hiff.mp hids
  · intro hcov
    obtain ⟨pages, hchain, hlimits, hiff⟩ :=
      hspec ((a.lists st.list).loadsLeft + 1) ((a.lists st.list).seq.length + 1)
        (by omega) (by omega)
    exact ⟨_, _, pages, hchain, hlimits, hiff.mpr hcov⟩

/-- **Chat-list scans are complete exactly for these load states.**  With `r`
loads to make when the command starts, the list is no longer than
`100 (r + 1)` (a value inside the 32-bit range), and every call of the `chats`
chain covers what is left when it starts. -/
theorem chatListScans_complete_iff (account : String) (args : ChatsArgs) (st : ChatsState)
    (a : Account) (hacct : account ≠ "") (hparse : parseState args = .ok st)
    (hfirst : st.cursor = none) (hwf : ListWf a st.list) (hme : UserAccount a) :
    (ResolverListWhole a st.list ∧ UnreadListWhole a st.list ∧ ChatsChainWhole account args st a)
      ↔ lastPrefixLimit (a.lists st.list).loadsLeft ≤ kMaximumInt32
        ∧ (a.lists st.list).seq.length ≤ lastPrefixLimit (a.lists st.list).loadsLeft
        ∧ chainCovers account args a := by
  rw [resolverListWhole_iff hwf.idsValid, unreadListWhole_iff hwf.idsValid,
    chain_complete_iff hacct hparse hfirst hwf hme]
  constructor
  · rintro ⟨⟨hmax, hlen⟩, -, hcov⟩
    exact ⟨hmax, hlen, hcov⟩
  · rintro ⟨hmax, hlen, hcov⟩
    refine ⟨⟨hmax, hlen⟩, ?_, hcov⟩
    unfold window
    rw [min_eq_left hmax]
    exact hlen

/-! ## §7. An account with `n` groups. -/

def mainList : TdChatList := { kind := .main }

/-- The `i`-th of `n` basic groups, positioned in the main list. -/
def groupChat (n i : Nat) : TdChat :=
  { id := -(i + 1 : Int)
    title := []
    kind := .basicGroup
    relatedId := 1
    positions := [{ list := mainList, order := (n : Int) - i }]
    chatLists := [mainList] }

/-- A user account with `n` basic groups, of which `loaded` are loaded. -/
def groupAccount (n loaded : Nat) : Account :=
  { me := { id := 1 }
    lists := fun _ =>
      { seq := (List.range n).map (groupChat n), loaded := loaded, pattern := fun _ => 99 }
    chat := fun id =>
      if 1 ≤ -id ∧ -id ≤ n then some (groupChat n ((-id).toNat - 1)) else none
    user := fun _ => none
    supergroup := fun _ => none }

theorem mem_groupAccount {loaded : Nat} {chat : TdChat}
    (h : chat ∈ ((groupAccount n loaded).lists list).seq) : ∃ i, i < n ∧ chat = groupChat n i := by
  simp only [groupAccount, mem_map, mem_range] at h
  obtain ⟨i, hi, rfl⟩ := h
  exact ⟨i, hi, rfl⟩

theorem groupChat_position (hi : i < n) :
    selectedPosition (groupChat n i) mainList = some (some ((n : Int) - i)) := by
  have hne : ((n : Int) - i == 0) = false := by
    rw [beq_eq_false_iff_ne]
    omega
  simp [selectedPosition, groupChat, positionScan, hne, mainList, validList, sameList]

theorem groupAccount_wf (hn : n ≤ 1000000) : ListWf (groupAccount n loaded) mainList := by
  have hval : ∀ i, i < n → validInt53 (groupChat n i).id := by
    intro i hi
    rw [validInt53_iff]
    simp only [groupChat]
    omega
  constructor
  · show ((List.range n).map (groupChat n)).Pairwise _
    rw [pairwise_map]
    refine (pairwise_lt_range (n := n)).imp_of_mem ?_
    intro i j hi hj hij
    simp only [mem_range] at hi hj
    simp only [below, keyOf, groupChat_position hi, groupChat_position hj, Bool.or_eq_true,
      decide_eq_true_eq]
    left
    show (n : Int) - j < n - i
    omega
  · intro chat hm
    obtain ⟨i, hi, rfl⟩ := mem_groupAccount hm
    have hrange : (1 : Int) ≤ -(groupChat n i).id ∧ -(groupChat n i).id ≤ n := by
      simp only [groupChat]
      omega
    show (if 1 ≤ -(groupChat n i).id ∧ -(groupChat n i).id ≤ (n : Int)
      then some (groupChat n ((-(groupChat n i).id).toNat - 1)) else none) = _
    rw [if_pos hrange]
    have hidx : (-(groupChat n i).id).toNat - 1 = i := by
      simp only [groupChat]
      omega
    rw [hidx]
  · intro chat hm
    obtain ⟨i, hi, rfl⟩ := mem_groupAccount hm
    exact hval i hi
  · intro chat hm
    obtain ⟨i, hi, rfl⟩ := mem_groupAccount hm
    exact ⟨(n : Int) - i, by omega, groupChat_position hi⟩
  · intro chat hm
    obtain ⟨i, hi, rfl⟩ := mem_groupAccount hm
    refine ⟨{ selected := true, archived := false, folderIds := folderIds (groupChat n i) }, ?_, rfl⟩
    simp [membership, groupChat, mainList, validList, sameList]
  · intro chat hm
    obtain ⟨i, hi, rfl⟩ := mem_groupAccount hm
    rfl
  · intro chat hm _
    obtain ⟨i, hi, rfl⟩ := mem_groupAccount hm
    have hid := hval i hi
    refine ⟨{ identity := { id := (groupChat n i).id, title := [], type := .basicGroup } }, ?_⟩
    have hsum : (materializeChatSummary (groupChat n i)
        { id := (groupChat n i).id, title := [], type := .basicGroup }).isSome := by
      simp [materializeChatSummary, validIdentity, hid]
      simp [groupChat, hasTypeName, validUtf8, validUsernames, validUnreadFields, mainList,
        validList]
    obtain ⟨summary, hsummary⟩ := Option.isSome_iff_exists.mp hsum
    refine ⟨summary, ?_, hsummary⟩
    simp only [materializeChatIdentity, hid]
    rfl

/-- A request without arguments: the first page of the main list. -/
def mainState : ChatsState :=
  { list := mainList, unread := false, limit := kDefaultChatsLimit, cursor := none }

theorem groupAccount_loadsLeft (n : Nat) : ((groupAccount n n).lists mainList).loadsLeft = 0 := by
  apply ListState.loadsLeft_of_exhausted
  simp [groupAccount, ListState.exhausted]

/-- A cold list of 150 groups takes two loads: both lists are whole, and the chain is if its
calls cover it. -/
theorem chatListScans_complete_cold :
    (ResolverListWhole (groupAccount 150 0) mainList ∧ UnreadListWhole (groupAccount 150 0) mainList
        ∧ ChatsChainWhole "main" {} mainState (groupAccount 150 0))
      ↔ chainCovers "main" {} (groupAccount 150 0) := by
  have hiff := chatListScans_complete_iff "main" {} mainState (groupAccount 150 0) (by decide)
    rfl rfl (groupAccount_wf (by decide)) ⟨rfl, rfl⟩
  exact hiff.trans ⟨fun h => h.2.2, fun h => ⟨by decide +kernel, by decide +kernel, h⟩⟩

/-- **A fully loaded list of 101 chats**: no load is left to make, so
`load_list` returns the first 100. -/
theorem chatListScans_incomplete : ListWf (groupAccount 101 101) mainList
      ∧ ¬ (ResolverListWhole (groupAccount 101 101) mainList
        ∧ UnreadListWhole (groupAccount 101 101) mainList
        ∧ ChatsChainWhole "main" {} mainState (groupAccount 101 101)) := by
  have hwf : ListWf (groupAccount 101 101) mainList := groupAccount_wf (by decide)
  refine ⟨hwf, ?_⟩
  rintro ⟨hlist, -⟩
  rw [resolverListWhole_iff hwf.idsValid, groupAccount_loadsLeft] at hlist
  have hlen : ((groupAccount 101 101).lists mainList).seq.length = 101 := by
    simp [groupAccount]
  exact absurd hlist.2 (by decide)

end TgCli.ChatList
