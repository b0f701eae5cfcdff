/-
  TgCli.ChatList.Scan — THE `chats` COMMAND, AND WHAT ONE CALL SCANS

  `ChatsRun` of daemon/chats_commands.cpp: argument checks, preflight, the
  growing-prefix loop, the filter of `append_matches`, and the continuation
  cursor.  A cursor is carried as its decoded fields (`ChatsCursor`) with the
  field checks of `decode_chats_cursor`; the base64 and JSON text around them
  is left out.

  `chain` is the use the command is made for: call it, and call it again with
  the cursor it returned until there is none.

  Over an account whose list is well formed (`ListWf`: TDLib lists its chats
  in descending `(order, chat id)` and every chat can be shown), one call
  scans the list from the cursor on:

    * `appendMatches_spec` — one pass over a prefix scans exactly the chats of
      the prefix behind the anchor, up to the one that fills the page;
    * `runLoop_spec` — the whole loop: it ends with a full page, or it has
      scanned the prefix of its LAST request, which is `window` chats long and
      not the whole list.
-/
import TgCli.ChatList.Load
import TgCli.Lib.Folds

namespace TgCli.ChatList

open Tdlib Lib List Account Bool Nat

/-! ## §1. Keys, positions, list membership. -/

structure ChatKey where
  order : Int
  chatId : Int
deriving DecidableEq, Repr

/-- `below`: `(order, chat_id)` of the candidate is smaller. -/
def below (candidate anchor : ChatKey) : Bool :=
  decide (candidate.order < anchor.order)
    || (candidate.order == anchor.order && decide (candidate.chatId < anchor.chatId))

/-- `same_list`: folder ids count only between folders. -/
def sameList (left right : TdChatList) : Bool :=
  left.kind == right.kind && (left.kind != .folder || left.folderId == right.folderId)

/-- The loop of `selected_position` with the order found so far; `none` is an
invalid position vector. -/
def positionScan (selected : TdChatList) : List TdChatPosition → Option Int → Option (Option Int)
  | [], order => some order
  | position :: rest, order =>
    if !validList position.list then none
    else if !sameList position.list selected || position.order == 0 then
      positionScan selected rest order
    else if order.isSome then none
    else positionScan selected rest (some position.order)

def selectedPosition (chat : TdChat) (selected : TdChatList) : Option (Option Int) :=
  positionScan selected chat.positions none

structure Membership where
  selected : Bool
  archived : Bool
  folderIds : List Int
deriving DecidableEq, Repr

/-- `membership`; `none` when one of the chat's lists is invalid. -/
def membership (chat : TdChat) (selected : TdChatList) : Option Membership :=
  if chat.chatLists.all validList then
    some
      { selected := chat.chatLists.any (sameList · selected)
        archived := chat.chatLists.any (·.kind = .archive)
        folderIds := folderIds chat }
  else none

def isUnread (chat : TdChat) : Bool :=
  chat.isMarkedUnread || decide (0 < chat.unreadCount) || decide (0 < chat.unreadMentionCount)
    || decide (0 < chat.unreadReactionCount) || decide (0 < chat.unreadPollVoteCount)

/-! ## §2. Arguments and cursors. -/

def kDefaultChatsLimit : Nat := 20
def kMaximumChatsLimit : Nat := 100

structure ChatsCursor where
  version : Int
  operation : String
  account : String
  userId : Int
  limit : Int
  list : TdChatListKind
  folderId : Option Int
  unread : Bool
  order : Int
  chatId : Int
deriving DecidableEq, Repr

/-- The field checks of `decode_chats_cursor`. -/
def validChatsCursor (cursor : ChatsCursor) : Bool :=
  cursor.version == 1 && cursor.operation != "" && cursor.account != ""
    && validUserId cursor.userId
    && decide (1 ≤ cursor.limit) && decide (cursor.limit ≤ kMaximumChatsLimit)
    && cursor.list != .unknown && cursor.order != 0 && validInt53 cursor.chatId
    && (decide (cursor.list = .folder) == cursor.folderId.isSome)
    && cursor.folderId.all (fun id => decide (0 < id))

/-- The `args` object of a request. -/
structure ChatsArgs where
  archived : Bool := false
  unread : Bool := false
  folder : Option Int := none
  limit : Option Int := none
  cursor : Option ChatsCursor := none
deriving DecidableEq, Repr

structure ChatsState where
  list : TdChatList
  unread : Bool
  limit : Nat
  cursor : Option ChatsCursor
deriving DecidableEq, Repr

/-- How a `chats` request ends without a page. -/
inductive ChatsFailure where
  /-- "chat folder id must be a positive int32" -/
  | folderRange
  /-- "chats limit must be between 1 and 100" -/
  | limitRange
  /-- "... is not accepted with a continuation cursor" -/
  | notWithCursor (argument : String)
  /-- "invalid chats cursor" -/
  | invalidCursor
  /-- "--archived and --folder are mutually exclusive" -/
  | archivedAndFolder
  | notReady
  | botUnsupported
  | cursorScopeMismatch
  | folderNotFound (folderId : Int)
  | tdError (e : TdError)
  | internal
  | stopped
deriving DecidableEq, Repr

/-- `parse_state`: `folder_argument`, `limit_argument`, then `cursor_state` or
`first_page_state`. -/
def parseState (args : ChatsArgs) : Except ChatsFailure ChatsState :=
  if args.folder.any (fun id : Int => decide (id ≤ 0) || decide (id > kMaximumInt32)) then
    .error .folderRange
  else if args.limit.any (fun n : Int => decide (n < 1) || decide (n > kMaximumChatsLimit)) then
    .error .limitRange
  else
    match args.cursor with
    | some cursor =>
      if args.folder.isSome then .error (.notWithCursor "--folder")
      else if args.archived then .error (.notWithCursor "--archived")
      else if args.unread then .error (.notWithCursor "--unread")
      else if args.limit.isSome then .error (.notWithCursor "-n")
      else if !validChatsCursor cursor then .error .invalidCursor
      else .ok
        { list := { kind := cursor.list, folderId := cursor.folderId.getD 0 }
          unread := cursor.unread
          limit := cursor.limit.toNat
          cursor := some cursor }
    | none =>
      if args.folder.isSome && args.archived then .error .archivedAndFolder
      else .ok
        { list :=
            if args.archived then { kind := .archive }
            else match args.folder with
              | some id => { kind := .folder, folderId := id }
              | none => { kind := .main }
          unread := args.unread
          limit := (args.limit.getD kDefaultChatsLimit).toNat
          cursor := none }

/-! ## §3. The scan. -/

variable {σ : Type}

def listError (list : TdChatList) (e : TdError) : ChatsFailure :=
  if list.kind = .folder ∧ e.code = 400 then .folderNotFound list.folderId else .tdError e

/-- `append_materialized_chat` for every id of a `getChats` answer, in order. -/
def materializeChats (client : TdClient σ) (s : σ) (list : TdChatList) :
    List Int → Except ChatsFailure (List (ChatKey × TdChat))
  | [] => .ok []
  | chatId :: rest =>
    if !validInt53 chatId then .error .internal
    else
      match client.getChat s chatId with
      | .stopped => .error .stopped
      | .error e => .error (.tdError e)
      | .unexpected => .error .internal
      | .value chat =>
        if chat.id != chatId || !validInt53 chat.id then .error .internal
        else
          match selectedPosition chat list with
          | none => .error .internal
          | some none => materializeChats client s list rest
          | some (some order) =>
            match materializeChats client s list rest with
            | .error f => .error f
            | .ok tail => .ok (({ order := order, chatId := chat.id }, chat) :: tail)

/-- The descending sort of `materialize_prefix`. -/
def sortPrefix (entries : List (ChatKey × TdChat)) : List (ChatKey × TdChat) :=
  entries.mergeSort fun left right => !below left.1 right.1

def materializePrefix (client : TdClient σ) (s : σ) (list : TdChatList) (prefixLimit : Nat) :
    Except ChatsFailure (List (ChatKey × TdChat)) :=
  match client.getChats s list prefixLimit with
  | .stopped => .error .stopped
  | .error e => .error (listError list e)
  | .unexpected => .error .internal
  | .value ids => (materializeChats client s list ids).map sortPrefix

/-- The scan state of a run: `last_scanned_` and the items so far. -/
structure Scan where
  lastScanned : Option ChatKey
  items : List ChatSummary
deriving DecidableEq, Repr

def appendMatches (client : TdClient σ) (s : σ) (st : ChatsState) :
    List (ChatKey × TdChat) → Scan → Except ChatsFailure Scan
  | [], scan => .ok scan
  | (key, chat) :: rest, scan =>
    if scan.lastScanned.any (fun anchor => !below key anchor) then
      appendMatches client s st rest scan
    else
      match membership chat st.list with
      | none => .error .internal
      | some lists =>
        if !validUnreadFields chat then .error .internal
        else if !lists.selected || decide (chat.kind = .secret)
            || (st.unread && !isUnread chat) then
          appendMatches client s st rest { scan with lastScanned := some key }
        else
          match materializeChatIdentity client s chat with
          | .readStopped => .error .stopped
          | .tdError e => .error (.tdError e)
          | .secret => .error .internal
          | .invalid => .error .internal
          | .success facts =>
            match materializeChatSummary chat facts.identity with
            | none => .error .internal
            | some summary =>
              let scan' : Scan :=
                { lastScanned := some key, items := scan.items ++ [summary] }
              if scan'.items.length = st.limit then .ok scan'
              else appendMatches client s st rest scan'

/-- The loop of `ChatsRun::run`.  `none`: the fuel did not cover the loads. -/
def runLoop (client : TdClient σ) (st : ChatsState) :
    Nat → Nat → Scan → σ → Option (Except ChatsFailure Scan × σ)
  | 0, _, _, _ => none
  | fuel + 1, prefixLimit, scan, s =>
    if ¬ scan.items.length < st.limit then some (.ok scan, s)
    else
      match materializePrefix client s st.list prefixLimit with
      | .error f => some (.error f, s)
      | .ok entries =>
        match appendMatches client s st entries scan with
        | .error f => some (.error f, s)
        | .ok scan' =>
          if scan'.items.length = st.limit then some (.ok scan', s)
          else
            match client.loadChats s st.list kDialogBatch with
            | (.stopped, s') => some (.error .stopped, s')
            | (.error e, s') =>
              if e.code = 404 then some (.ok scan', s')
              else some (.error (listError st.list e), s')
            | (.unexpected, s') => some (.error .internal, s')
            | (.value (), s') =>
              runLoop client st fuel (growSaturating prefixLimit) scan' s'

/-! ## §4. One call and a chain of calls. -/

def kOperation : String := "chats"

/-- `preflight`: the account's user id. -/
def preflight (client : TdClient σ) (account : String) (st : ChatsState) (s : σ) :
    Except ChatsFailure Int :=
  if !client.ready s then .error .notReady
  else
    match client.getMe s with
    | .stopped => .error .stopped
    | .error e => .error (.tdError e)
    | .unexpected => .error .internal
    | .value user =>
      if !validUserId user.id then .error .internal
      else if user.isBot then .error .botUnsupported
      else if st.cursor.any (fun c =>
          c.operation != kOperation || c.account != account || c.userId != user.id) then
        .error .cursorScopeMismatch
      else .ok user.id

/-- A page: the items and the cursor of the next page. -/
structure ChatsPage where
  items : List ChatSummary
  next : Option ChatsCursor
deriving DecidableEq, Repr

/-- The cursor of a page whose scan ended at `key`. -/
def cursorAt (account : String) (userId : Int) (st : ChatsState) (key : ChatKey) : ChatsCursor :=
  { version := 1
    operation := kOperation
    account := account
    userId := userId
    limit := st.limit
    list := st.list.kind
    folderId := if st.list.kind = .folder then some st.list.folderId else none
    unread := st.unread
    order := key.order
    chatId := key.chatId }

def continuation (account : String) (userId : Int) (st : ChatsState) (scan : Scan) :
    Option ChatsCursor :=
  if scan.items.length ≠ st.limit then none
  else scan.lastScanned.map (cursorAt account userId st)

/-- The scan a run starts from: `last_scanned_` is the cursor's key. -/
def initialScan (st : ChatsState) : Scan :=
  { lastScanned := st.cursor.map fun c => { order := c.order, chatId := c.chatId }
    items := [] }

/-- `ChatsRun::run`. -/
def chatsRun (client : TdClient σ) (account : String) (fuel : Nat) (st : ChatsState) (s : σ) :
    Option (Except ChatsFailure ChatsPage × σ) :=
  match preflight client account st s with
  | .error f => some (.error f, s)
  | .ok userId =>
    match runLoop client st fuel kDialogBatch (initialScan st) s with
    | none => none
    | some (.error f, s') => some (.error f, s')
    | some (.ok scan, s') =>
      some (.ok { items := scan.items, next := continuation account userId st scan }, s')

/-- One `chats` request. -/
def chats (client : TdClient σ) (account : String) (fuel : Nat) (args : ChatsArgs) (s : σ) :
    Option (Except ChatsFailure ChatsPage × σ) :=
  match parseState args with
  | .error f => some (.error f, s)
  | .ok st => chatsRun client account fuel st s

/-- **The chain of calls**: each is given the cursor of the one before, until
a page has none. -/
def chain (client : TdClient σ) (account : String) (fuel : Nat) :
    Nat → ChatsArgs → σ → Option (Except ChatsFailure (List ChatsPage))
  | 0, _, _ => none
  | calls + 1, args, s =>
    match chats client account fuel args s with
    | none => none
    | some (.error f, _) => some (.error f)
    | some (.ok page, s') =>
      match page.next with
      | none => some (.ok [page])
      | some cursor =>
        match chain client account fuel calls { cursor := some cursor } s' with
        | none => none
        | some (.error f) => some (.error f)
        | some (.ok pages) => some (.ok (page :: pages))

/-! ## §5. Well-formed lists. -/

/-- The key of a chat in a list. -/
def keyOf (list : TdChatList) (chat : TdChat) : ChatKey :=
  { order := ((selectedPosition chat list).getD none).getD 0, chatId := chat.id }

/-- The filter of a page: no secret chat, and only unread ones if asked. -/
def passes (unread : Bool) (chat : TdChat) : Bool :=
  !decide (chat.kind = .secret) && !(unread && !isUnread chat)

/-- **What TDLib's documentation says of a chat list**: chats in descending
key order, each one known by its id, positioned in the list and a member of
it, and each chat that is not secret has the objects its summary needs. -/
structure ListWf (a : Account) (list : TdChatList) : Prop where
  descending : (a.lists list).seq.Pairwise fun x y => below (keyOf list y) (keyOf list x) = true
  known : ∀ chat ∈ (a.lists list).seq, a.chat chat.id = some chat
  idsValid : (a.lists list).IdsValid
  positioned : ∀ chat ∈ (a.lists list).seq,
    ∃ order, order ≠ 0 ∧ selectedPosition chat list = some (some order)
  member : ∀ chat ∈ (a.lists list).seq,
    ∃ m, membership chat list = some m ∧ m.selected = true
  counters : ∀ chat ∈ (a.lists list).seq, validUnreadFields chat = true
  shown : ∀ chat ∈ (a.lists list).seq, chat.kind ≠ .secret →
    ∃ facts summary, materializeChatIdentity client a chat = .success facts
      ∧ materializeChatSummary chat facts.identity = some summary

variable {a : Account} {list : TdChatList} {st : ChatsState} {c : Nat}

/-- Loading more keeps a list well formed. -/
theorem ListWf.extend (h : ListWf a list) : ListWf (a.setList list (a.lists list).extend) list := by
  have hseq : ((a.setList list (a.lists list).extend).lists list).seq = (a.lists list).seq := by
    simp
  constructor
  · rw [hseq]; exact h.descending
  · rw [hseq]; exact h.known
  · unfold ListState.IdsValid; rw [hseq]; exact h.idsValid
  · rw [hseq]; exact h.positioned
  · rw [hseq]; exact h.member
  · rw [hseq]; exact h.counters
  · rw [hseq]
    intro chat hmem hkind
    exact h.shown chat hmem hkind

theorem below_asymm (h : below x y) : below y x = false := by
  simp only [below, or_eq_true, and_eq_true, decide_eq_true_eq, beq_iff_eq] at h
  simp only [below, or_eq_false_iff, and_eq_false_iff, decide_eq_false_iff_not,
    beq_eq_false_iff_ne]
  omega

/-! ## §6. The prefix handed to `append_matches`. -/

/-- A chat with its key, as `materialize_prefix` stores it. -/
def entry (list : TdChatList) (chat : TdChat) : ChatKey × TdChat := (keyOf list chat, chat)

theorem materializeChats_eq (h : ListWf a list) (chats : List TdChat)
    (hsub : ∀ chat ∈ chats, chat ∈ (a.lists list).seq) :
    materializeChats client a list (chats.map (·.id)) = .ok (chats.map (entry list)) := by
  induction chats with
  | nil => rfl
  | cons chat rest ih =>
    have hmem := hsub chat mem_cons_self
    obtain ⟨order, -, hpos⟩ := h.positioned chat hmem
    have hrest := ih fun c hc => hsub c (mem_cons_of_mem _ hc)
    have hid := h.idsValid chat hmem
    have hget : client.getChat a chat.id = .value chat := by
      rw [client_getChat, h.known chat hmem]
      rfl
    simp only [map_cons, materializeChats, hget, hid, hpos, hrest]
    simp [entry, keyOf, hpos]

theorem sortPrefix_eq (h : ListWf a list) (n : Nat) :
    sortPrefix (((a.lists list).seq.take n).map (entry list))
      = ((a.lists list).seq.take n).map (entry list) := by
  apply mergeSort_of_pairwise
  rw [pairwise_map]
  refine (h.descending.sublist (take_sublist _ _)).imp ?_
  intro x y hxy
  simp [entry, below_asymm hxy]

theorem materializePrefix_eq (h : ListWf a list) (n : Nat) : materializePrefix client a list n
      = .ok (((a.lists list).visible n).map (entry list)) := by
  have hchats := materializeChats_eq h ((a.lists list).visible n)
    fun chat hc => mem_of_mem_take hc
  simp only [materializePrefix, client_getChats, hchats]
  simp only [Except.map, ListState.visible, sortPrefix_eq h]

/-! ## §7. One pass. -/

/-- `last_scanned_` after the chats `chats` were scanned. -/
def anchorAfter (list : TdChatList) (last : Option ChatKey) (chats : List TdChat) :
    Option ChatKey :=
  chats.foldl (fun _ chat => some (keyOf list chat)) last

/-- A chat that a run with this `last_scanned_` skips. -/
def skipped (list : TdChatList) (last : Option ChatKey) (chat : TdChat) : Bool :=
  last.any fun anchor => !below (keyOf list chat) anchor

theorem anchorAfter_append (list : TdChatList) (last : Option ChatKey) (xs ys : List TdChat) :
    anchorAfter list last (xs ++ ys) = anchorAfter list (anchorAfter list last xs) ys :=
  foldl_append

theorem anchorAfter_concat (list : TdChatList) (last : Option ChatKey) (xs : List TdChat)
    (x : TdChat) : anchorAfter list last (xs ++ [x]) = some (keyOf list x) := by
  rw [anchorAfter_append]
  rfl

theorem appendMatches_skip (a : Account) (st : ChatsState) (scan : Scan)
    (chats : List TdChat) (rest : List (ChatKey × TdChat))
    (hskip : ∀ chat ∈ chats, skipped st.list scan.lastScanned chat) :
    appendMatches client a st (chats.map (entry st.list) ++ rest) scan
      = appendMatches client a st rest scan := by
  induction chats with
  | nil => rfl
  | cons chat chats ih =>
    have hc := hskip chat mem_cons_self
    simp only [skipped] at hc
    simp only [map_cons, cons_append, entry, appendMatches, hc, if_true]
    exact ih fun c hm => hskip c (mem_cons_of_mem _ hm)

/-- The page item a chat contributes, known by its id. -/
def itemIds (items : List ChatSummary) : List Int := items.map (·.identity.id)

/-- **One pass over chats behind the anchor** scans them up to the one that
fills the page. -/
theorem appendMatches_spec (h : ListWf a st.list) (chats : List TdChat) :
    ∀ scan : Scan, (∀ chat ∈ chats, chat ∈ (a.lists st.list).seq) →
      chats.Pairwise (fun x y => below (keyOf st.list y) (keyOf st.list x)) →
      (∀ chat ∈ chats, skipped st.list scan.lastScanned chat = false) →
      scan.items.length < st.limit →
      ∃ items, appendMatches client a st (chats.map (entry st.list)) scan
          = .ok { lastScanned := anchorAfter st.list scan.lastScanned
                    (chats.take (consumed (passes st.unread) (st.limit - scan.items.length) chats))
                  items := items }
        ∧ itemIds items = itemIds scan.items
            ++ (((chats.filter (passes st.unread)).take (st.limit - scan.items.length)).map
              (·.id)) := by
  induction chats with
  | nil =>
    intro scan _ _ _ _
    exact ⟨scan.items, rfl, by simp [itemIds]⟩
  | cons chat rest ih =>
    intro scan hsub hsrt hnew hroom
    have hmem := hsub chat mem_cons_self
    have hsub' : ∀ c ∈ rest, c ∈ (a.lists st.list).seq :=
      fun c hc => hsub c (mem_cons_of_mem _ hc)
    obtain ⟨hhead, hsrt'⟩ := pairwise_cons.mp hsrt
    have hnew' : ∀ c ∈ rest, skipped st.list (some (keyOf st.list chat)) c = false := by
      intro c hc
      simp [skipped, hhead c hc]
    have hfirst := hnew chat mem_cons_self
    simp only [skipped] at hfirst
    obtain ⟨m, hm, hsel⟩ := h.member chat hmem
    have hcnt := h.counters chat hmem
    simp only [map_cons, entry, appendMatches, hfirst, hm, hcnt, hsel]
    by_cases hpass : passes st.unread chat = true
    · -- the chat goes on the page
      obtain ⟨hkind, hunread⟩ : chat.kind ≠ .secret ∧ (st.unread && !isUnread chat) = false := by
        simp only [passes, and_eq_true, not_eq_true', decide_eq_false_iff_not] at hpass
        exact hpass
      obtain ⟨facts, summary, hident, hsum⟩ := h.shown chat hmem hkind
      obtain ⟨hsumid, hid⟩ := materializeChatSummary_id hsum
      simp only [hident, hsum, hkind, hunread, decide_false, Bool.not_true, Bool.or_self,
        false_eq_true, if_false, consumed, hpass, if_true, filter_cons_of_pos]
      by_cases hfull : (scan.items ++ [summary]).length = st.limit
      · have hk : st.limit - scan.items.length = 1 := by
          simp only [length_append, length_singleton] at hfull
          omega
        refine ⟨scan.items ++ [summary], ?_, ?_⟩
        · simp only [hfull, hk, if_true, take_succ_cons, take_zero]
          rfl
        · simp [hk, itemIds, hsumid, hid]
      · have hroom' : (scan.items ++ [summary]).length < st.limit := by
          simp only [length_append, length_singleton] at hfull ⊢
          omega
        have hk : st.limit - scan.items.length ≠ 1 := by
          simp only [length_append, length_singleton] at hfull
          omega
        have hk' : st.limit - scan.items.length
            = (st.limit - (scan.items ++ [summary]).length) + 1 := by
          simp only [length_append, length_singleton] at hroom' ⊢
          omega
        obtain ⟨items, hrun, hitems⟩ :=
          ih { lastScanned := some (keyOf st.list chat), items := scan.items ++ [summary] }
            hsub' hsrt' hnew' hroom'
        refine ⟨items, ?_, ?_⟩
        · simp only [hfull, hk, if_false]
          rw [hrun]
          simp only [hk', Nat.add_sub_cancel, take_succ_cons]
          rfl
        · rw [hitems, hk', take_succ_cons]
          simp [itemIds, hsumid, hid]
    · -- the chat is scanned and left out
      have hpass' : passes st.unread chat = false := by simpa using hpass
      have hout : (decide (chat.kind = .secret) || (st.unread && !isUnread chat)) := by
        revert hpass'
        simp only [passes]
        cases decide (chat.kind = .secret) <;> cases (st.unread && !isUnread chat) <;> simp
      obtain ⟨items, hrun, hitems⟩ :=
        ih { scan with lastScanned := some (keyOf st.list chat) } hsub' hsrt' hnew' hroom
      refine ⟨items, ?_, ?_⟩
      · simp only [Bool.not_true, Bool.false_eq_true, if_false, Bool.false_or, hout, if_true]
        rw [hrun]
        simp only [consumed, hpass', Bool.false_eq_true, if_false, take_succ_cons]
        rfl
      · rw [hitems, filter_cons_of_neg (by simp [hpass'])]

/-! ## §8. Positions in the list. -/

/-- Chats already scanned are skipped: they are not below the anchor. -/
theorem skipped_of_scanned {xs : List TdChat}
    (hsrt : xs.Pairwise fun x y => below (keyOf list y) (keyOf list x))
    (hx : x ∈ xs) : skipped list (anchorAfter list none xs) x := by
  rcases eq_nil_or_concat xs with rfl | ⟨init, last, rfl⟩
  · exact absurd hx (by simp)
  · rw [concat_eq_append] at hx hsrt ⊢
    rw [anchorAfter_concat]
    simp only [skipped, Option.any_some, not_eq_true']
    rcases mem_append.mp hx with hx | hx
    · exact below_asymm ((pairwise_append.mp hsrt).2.2 x hx last (by simp))
    · rw [mem_singleton.mp hx]
      simp [below]

/-- Chats behind the scanned ones are not skipped. -/
theorem not_skipped_of_ahead
    (hsrt : (xs ++ ys).Pairwise fun x y => below (keyOf list y) (keyOf list x)) (hy : y ∈ ys) :
    skipped list (anchorAfter list none xs) y = false := by
  rcases eq_nil_or_concat xs with rfl | ⟨init, last, rfl⟩
  · rfl
  · rw [concat_eq_append] at hsrt ⊢
    rw [anchorAfter_concat]
    simp only [skipped, Option.any_some, not_eq_false']
    exact (pairwise_append.mp hsrt).2.2 last (by simp) y hy

/-- The chats of `seq` from position `c₀` up to position `c`. -/
def span (seq : List TdChat) (c₀ c : Nat) : List TdChat := (seq.take c).drop c₀

theorem span_self (seq : List TdChat) (c : Nat) : span seq c c = [] :=
  drop_eq_nil_of_le (length_take_le c seq)

theorem span_append (seq : List TdChat) (h0 : c₀ ≤ c) (h : c ≤ c') :
    span seq c₀ c ++ span seq c c' = span seq c₀ c' := by
  unfold span
  have hsplit : seq.take c' = seq.take c ++ (seq.take c').drop c := by
    conv_lhs => rw [← take_append_drop c (seq.take c'), take_take, min_eq_left h]
  by_cases hc : c ≤ seq.length
  · have hlen : c₀ ≤ (seq.take c).length := by rw [length_take]; omega
    rw [hsplit, drop_append_of_le_length hlen]
    congr 2
    rw [← hsplit]
  · rw [take_of_length_le (by omega : seq.length ≤ c),
      take_of_length_le (by omega : seq.length ≤ c'),
      drop_eq_nil_of_le (by omega : seq.length ≤ c), append_nil]

theorem take_append_span (seq : List TdChat) (h : c ≤ c') :
    seq.take c ++ span seq c c' = seq.take c' := by
  have := span_append seq (zero_le c) h
  simpa [span] using this

theorem span_take (seq : List TdChat) (c w m : Nat) (hm : c + m ≤ w) :
    (span seq c w).take m = span seq c (c + m) := by
  unfold span
  rw [drop_take, take_take, drop_take, Nat.add_sub_cancel_left, min_eq_left (by omega)]

/-! ## §9. One turn of the loop. -/

section Turn

variable {a : Account} {st : ChatsState}

/-- Ids of the chats on the page, from position `c₀` up to `c`. -/
def pageIds (a : Account) (st : ChatsState) (c₀ c : Nat) : List Int :=
  ((span (a.lists st.list).seq c₀ c).filter (passes st.unread)).map (·.id)

/-- `last_scanned_` at position `c`. -/
def anchorAt (a : Account) (st : ChatsState) (c : Nat) : Option ChatKey :=
  anchorAfter st.list none ((a.lists st.list).seq.take c)

theorem itemIds_length (items : List ChatSummary) : (itemIds items).length = items.length :=
  length_map _

/-- **One turn**: a pass over the first `w` chats, from position `c`. -/
theorem appendMatches_turn (h : ListWf a st.list) (w : Nat) (scan : Scan)
    (h0 : c₀ ≤ c) (hc : c ≤ (a.lists st.list).seq.length)
    (hlast : scan.lastScanned = anchorAt a st c)
    (hitems : itemIds scan.items = pageIds a st c₀ c) (hroom : scan.items.length < st.limit) :
    ∃ items c', appendMatches client a st (((a.lists st.list).seq.take w).map (entry st.list)) scan
          = .ok { lastScanned := anchorAt a st c', items := items }
      ∧ c ≤ c' ∧ c' ≤ (a.lists st.list).seq.length
      ∧ itemIds items = pageIds a st c₀ c'
      ∧ ((items.length = st.limit ∧ c' ≤ w)
        ∨ (items.length < st.limit ∧ c' = max c (min w (a.lists st.list).seq.length))) := by
  obtain ⟨last, items0⟩ := scan
  simp only at hlast hitems hroom
  subst hlast
  set seq := (a.lists st.list).seq with hseq
  by_cases hcw : c ≤ w
  · -- the prefix is the scanned chats followed by new ones
    have hsplit : seq.take w = seq.take c ++ span seq c w := (take_append_span seq hcw).symm
    have hsortedw : (seq.take c ++ span seq c w).Pairwise
        fun x y => below (keyOf st.list y) (keyOf st.list x) := by
      rw [← hsplit]
      exact h.descending.sublist (take_sublist _ _)
    obtain ⟨hsortedc, hsortedn, -⟩ := pairwise_append.mp hsortedw
    have hmem : ∀ chat ∈ span seq c w, chat ∈ (a.lists st.list).seq := fun chat hm =>
      mem_of_mem_take (mem_of_mem_drop hm)
    obtain ⟨items, hrun, hids⟩ :=
      appendMatches_spec h (span seq c w) { lastScanned := anchorAt a st c, items := items0 }
        hmem hsortedn (fun y hy => not_skipped_of_ahead hsortedw hy) hroom
    set m := consumed (passes st.unread) (st.limit - items0.length) (span seq c w)
    have hmle : m ≤ (span seq c w).length := consumed_le_length _ _ _
    have hlen : (span seq c w).length = min w seq.length - c := by
      simp [span]
    have htake : (span seq c w).take m = span seq c (c + m) := span_take seq c w m (by omega)
    refine ⟨items, c + m, ?_, by omega, by omega, ?_, ?_⟩
    · rw [hsplit, map_append, appendMatches_skip]
      · rw [hrun, htake]
        congr 2
        unfold anchorAt
        rw [← anchorAfter_append, take_append_span seq (le_add_right c m)]
      · exact fun x hx => skipped_of_scanned hsortedc hx
    · rw [hids, hitems]
      unfold pageIds
      rw [← hseq, ← span_append seq h0 (le_add_right c m), filter_append, map_append,
        ← htake, filter_take_consumed _ _ _ (by omega)]
    · have hcnt : items.length = items0.length
          + min (st.limit - items0.length) ((span seq c w).filter (passes st.unread)).length := by
        have := congrArg List.length hids
        simpa [itemIds] using this
      by_cases hfew : ((span seq c w).filter (passes st.unread)).length < st.limit - items0.length
      · right
        have hall : m = (span seq c w).length := consumed_of_few _ _ _ hfew
        omega
      · left
        omega
  · -- the prefix ends before the anchor: nothing new is seen
    have hsortedw : (seq.take c).Pairwise
        fun x y => below (keyOf st.list y) (keyOf st.list x) :=
      h.descending.sublist (take_sublist _ _)
    refine ⟨items0, c, ?_, le_refl _, hc, hitems, Or.inr ⟨hroom, by omega⟩⟩
    have hskip := appendMatches_skip a st { lastScanned := anchorAt a st c, items := items0 }
      (seq.take w) [] (by
        intro x hx
        refine skipped_of_scanned hsortedw ?_
        have hsub : seq.take w = (seq.take c).take w := by
          rw [take_take, min_eq_left (by omega)]
        rw [hsub] at hx
        exact mem_of_mem_take hx)
    rw [append_nil] at hskip
    rw [hskip]
    rfl

end Turn

/-! ## §10. The whole loop. -/

/-- How far a call that starts with `r` loads to make can see: its last
`getChats` asks for this many chats. -/
def window (r : Nat) : Nat := min (lastPrefixLimit r) kMaximumInt32

/-- What a call leaves of the account: the same chats, perhaps more of the
list loaded. -/
structure Loaded (a a' : Account) (list : TdChatList) : Prop where
  me : a'.me = a.me
  seq : (a'.lists list).seq = (a.lists list).seq
  wf : ListWf a' list
  loadsLeft : (a'.lists list).loadsLeft ≤ (a.lists list).loadsLeft

theorem Loaded.refl (h : ListWf a list) : Loaded a a list :=
  ⟨rfl, rfl, h, le_refl _⟩

theorem Loaded.extend (h : ListWf a list) (hmore : (a.lists list).exhausted = false) :
    Loaded a (a.setList list (a.lists list).extend) list := by
  refine ⟨rfl, by simp, h.extend, ?_⟩
  rw [setList_lists_same, (a.lists list).loadsLeft_extend hmore]
  exact le_succ _

theorem Loaded.trans {b c : Account} (h1 : Loaded a b list)
    (h2 : Loaded b c list) : Loaded a c list :=
  ⟨h2.me.trans h1.me, h2.seq.trans h1.seq, h2.wf, h2.loadsLeft.trans h1.loadsLeft⟩

theorem anchorAt_congr {a' : Account} (h : (a'.lists st.list).seq = (a.lists st.list).seq)
    (c : Nat) : anchorAt a' st c = anchorAt a st c := by
  unfold anchorAt
  rw [h]

theorem pageIds_congr {a' : Account} (h : (a'.lists st.list).seq = (a.lists st.list).seq)
    (c₀ c : Nat) : pageIds a' st c₀ c = pageIds a st c₀ c := by
  unfold pageIds
  rw [h]

/-- A shorter prefix scanned before a longer one does not count. -/
theorem max_min_absorb (h : w ≤ x) : max (max c (min w n)) (min x n) = max c (min x n) := by
  omega

/-- **What the loop scans.**  With `r` loads to make, from position `c` and
prefix `p`, it ends with a full page or at the end of its last prefix. -/
theorem runLoop_spec (st : ChatsState) (r : Nat) :
    ∀ (a : Account) (p c₀ c fuel : Nat) (scan : Scan),
      ListWf a st.list → (a.lists st.list).loadsLeft = r → p ≤ kMaximumInt32 →
      c₀ ≤ c → c ≤ (a.lists st.list).seq.length →
      scan.lastScanned = anchorAt a st c → itemIds scan.items = pageIds a st c₀ c →
      scan.items.length < st.limit → r < fuel →
      ∃ items c' a', runLoop client st fuel p scan a
          = some (.ok { lastScanned := anchorAt a st c', items := items }, a')
        ∧ Loaded a a' st.list ∧ c ≤ c' ∧ c' ≤ (a.lists st.list).seq.length
        ∧ itemIds items = pageIds a st c₀ c'
        ∧ ((items.length = st.limit ∧ c' ≤ min (p + r * kDialogBatch) kMaximumInt32)
          ∨ (items.length < st.limit
            ∧ c' = max c (min (min (p + r * kDialogBatch) kMaximumInt32)
                (a.lists st.list).seq.length))) := by
  induction r with
  | zero =>
    intro a p c₀ c fuel scan hwf hr hp h₀ hc hlast hitems hroom hfuel
    obtain ⟨fuel, rfl⟩ : ∃ f, fuel = f + 1 := ⟨fuel - 1, by omega⟩
    have hdone : (a.lists st.list).exhausted := by
      by_contra hmore
      have h1 := (a.lists st.list).loadsLeft_extend (by simpa using hmore)
      omega
    obtain ⟨items, c', hpass, hcc, hcl, hids, hend⟩ :=
      appendMatches_turn hwf p scan h₀ hc hlast hitems hroom
    have hrun : runLoop client st (fuel + 1) p scan a
        = some (.ok { lastScanned := anchorAt a st c', items := items }, a) := by
      simp only [runLoop, hroom, not_true_eq_false, if_false, materializePrefix_eq hwf,
        visible_of_exhausted hdone, hpass, client_loadChats_exhausted hdone, if_true,
        ite_self]
    refine ⟨items, c', a, hrun, Loaded.refl hwf, hcc, hcl, hids, ?_⟩
    simp only [Nat.zero_mul, Nat.add_zero, Nat.min_eq_left hp]
    exact hend
  | succ r ih =>
    intro a p c₀ c fuel scan hwf hr hp h₀ hc hlast hitems hroom hfuel
    obtain ⟨fuel, rfl⟩ : ∃ f, fuel = f + 1 := ⟨fuel - 1, by omega⟩
    have hmore : (a.lists st.list).exhausted = false := by
      by_contra hdone
      have h0 := (a.lists st.list).loadsLeft_of_exhausted (by simpa using hdone)
      omega
    obtain ⟨items, c1, hpass, hcc, hcl, hids, hend⟩ :=
      appendMatches_turn hwf (min p (a.lists st.list).loaded) scan h₀ hc hlast hitems hroom
    by_cases hfull : items.length = st.limit
    · have hrun : runLoop client st (fuel + 1) p scan a
          = some (.ok { lastScanned := anchorAt a st c1, items := items }, a) := by
        simp only [runLoop, hroom, not_true_eq_false, if_false, materializePrefix_eq hwf,
          ListState.visible, hpass, hfull, if_true]
      refine ⟨items, c1, a, hrun, Loaded.refl hwf, hcc, hcl, hids, Or.inl ⟨hfull, ?_⟩⟩
      rcases hend with ⟨-, hw⟩ | ⟨hlt, -⟩
      · have hcp : c1 ≤ p := hw.trans (min_le_left _ _)
        exact le_min (hcp.trans (le_add_right _ _)) (hcp.trans hp)
      · omega
    · obtain ⟨hlt, hc1⟩ : items.length < st.limit
          ∧ c1 = max c (min (min p (a.lists st.list).loaded) (a.lists st.list).seq.length) := by
        rcases hend with ⟨heq, -⟩ | hend
        · exact absurd heq hfull
        · exact hend
      have hext := Loaded.extend hwf hmore
      have hr' : ((a.setList st.list (a.lists st.list).extend).lists st.list).loadsLeft = r := by
        have h1 := (a.lists st.list).loadsLeft_extend hmore
        rw [setList_lists_same]
        omega
      obtain ⟨items', c', a', hrec, hload, hcc', hcl', hids', hend'⟩ :=
        ih (a.setList st.list (a.lists st.list).extend) (growSaturating p) c₀ c1 fuel
          { lastScanned := anchorAt a st c1, items := items } hext.wf hr' (growSaturating_le hp)
          (h₀.trans hcc) (by rw [hext.seq]; exact hcl) (anchorAt_congr hext.seq c1).symm
          (by rw [pageIds_congr hext.seq]; exact hids) hlt (by omega)
      rw [hext.seq, growSaturating_add hp] at hend'
      rw [hext.seq] at hcl'
      rw [pageIds_congr hext.seq] at hids'
      rw [anchorAt_congr hext.seq] at hrec
      refine ⟨items', c', a', ?_, hext.trans hload, hcc.trans hcc', hcl', hids', ?_⟩
      · simp only [runLoop, hroom, not_true_eq_false, if_false, materializePrefix_eq hwf,
          ListState.visible, hpass, hfull, client_loadChats_more hmore]
        exact hrec
      · rcases hend' with hend' | ⟨hlt', hc'⟩
        · exact Or.inl hend'
        · refine Or.inr ⟨hlt', ?_⟩
          have hpx : p ≤ min (p + (r + 1) * kDialogBatch) kMaximumInt32 :=
            le_min (le_add_right _ _) hp
          rw [hc', hc1, max_min_absorb ((min_le_left _ _).trans hpx)]

end TgCli.ChatList
