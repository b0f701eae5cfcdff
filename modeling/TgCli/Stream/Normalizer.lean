/-
  TgCli.Stream.Normalizer — THE STREAM NORMALIZER'S PHASES

  `FixedStreamNormalizer::Impl` after `begin`: updates are buffered until the
  current state arrives; the current state is applied, then the buffered
  updates behind its barrier; from then on each update is applied as it comes
  and its event published.  The Failed phase is the error of the step.

  The events' queue is a parameter: a state `ω` and `publish`, which is given
  the tables before and after the update and may refuse.  It never touches
  the tables.

  Main result: `run_changes` — the tables of a run are the tables after the
  changes of its `log`, applied one by one.
-/
import TgCli.Stream.Apply

namespace TgCli.Stream

open Tdlib Lib

def kStreamMetadataBootstrapItems : Nat := 4096

def kStreamMetadataBootstrapBytes : Nat := 16777216

def kBootstrapPhysicalBytes : Nat := kStreamMetadataBootstrapBytes * 2

/-- The phases in which updates are looked at. -/
inductive StreamNormalizationPhase where
  | bootstrap | ready
deriving DecidableEq, Repr

structure Normalizer (ω : Type) where
  phase : StreamNormalizationPhase
  lastSequence : Nat
  /-- the buffered updates with their sequences, oldest first -/
  bootstrap : List (Nat × Buffered)
  bootstrapCharged : Nat
  bootstrapPhysical : Nat
  metadata : Metadata
  out : ω

def Normalizer.begin {ω : Type} (mem : Mem) (out : ω) : Normalizer ω :=
  { phase := .bootstrap, lastSequence := 0, bootstrap := [], bootstrapCharged := 0
    bootstrapPhysical := 0, metadata := Metadata.empty mem, out := out }

/-! ## §1. Buffering. -/

/-- An item with the bytes it charges and the bytes it takes. -/
structure BufferItem where
  item : Buffered
  copied : Nat := 0
  physical : Nat := 0
  date : Int := 0
deriving DecidableEq, Repr

def bufferEntity (kind : EntityKind) (id : Int) (isBot isChannel : Bool)
    (usernames : List Bytes) : Except StreamFailure BufferItem :=
  if !validUserId id || !usernames.all validUsername then .error (malformed (entityUpdateKind kind))
  else .ok
    { item := .entity kind id isBot isChannel usernames
      copied := (usernames.map List.length).sum
      physical := (usernames.map fun name => name.length + 1).sum }

/-- The bytes a message charges and takes. -/
def bufferMessageBytes (message : TdMessageSummary) : Nat × Nat :=
  (message.text.length + (if message.date ≠ 0 then 20 else 0),
    messageBytes message.text.length message.date)

/-- The conversion of `buffer_value`; `none` for a value it does not keep. -/
def bufferItem (value : TdValue) : Except StreamFailure (Option BufferItem) :=
  match value with
  | .malformedSupported kind reason => .error (.malformed kind reason)
  | .directConversionError => .error .directConversion
  | .error e => .error (if e.code = 429 then .rateLimited else .tdlibError e.code)
  | .user user => (bufferEntity .user user.id user.isBot false user.usernames).map some
  | .basicGroup group =>
    if !validUserId group.id || decide (group.memberCount < 0)
        || decide (group.upgradedToSupergroupId < 0)
        || decide (kMaximumInt53 < group.upgradedToSupergroupId) then
      .error (malformed .basicGroup)
    else (bufferEntity .basicGroup group.id false false []).map some
  | .supergroup group =>
    (bufferEntity .supergroup group.id false group.isChannel group.usernames).map some
  | .newChat chat =>
    match chatKind chat.kind with
    | none => .error (malformed .newChat)
    | some kind =>
      if !validateChat chat then .error (malformed .newChat)
      else
        let message := (chat.lastMessage.map bufferMessageBytes).getD (0, 0)
        .ok (some
          { item := .newChat kind chat
            copied := chat.title.length + message.1
            physical := chat.title.length + 1 + message.2
            date := (chat.lastMessage.map (·.date)).getD 0 })
  | .chatTitle id title =>
    if !validInt53 id || !validUtf8 title then .error (malformed .chatTitle)
    else .ok (some
      { item := .title id title, copied := title.length, physical := title.length + 1 })
  | .chatLastMessage id message =>
    if !validInt53 id
        || !(message.all fun message => validMessage message && message.chatId == id) then
      .error (malformed .chatLastMessage)
    else
      let bytes := (message.map bufferMessageBytes).getD (0, 0)
      .ok (some
        { item := .lastMessage id message, copied := bytes.1, physical := bytes.2
          date := (message.map (·.date)).getD 0 })
  | .chatAddedToList id list => .ok (some { item := .listAdded id list })
  | .chatRemovedFromList id list => .ok (some { item := .listRemoved id list })
  | .chatReadInbox id messageId count => .ok (some { item := .readInbox id messageId count })
  | .messageMentionRead id _ count => .ok (some { item := .unreadMention id count })
  | .chatUnreadMentionCount id count => .ok (some { item := .unreadMention id count })
  | .messageUnreadReactions id _ count => .ok (some { item := .unreadReaction id count })
  | .chatUnreadReactionCount id count => .ok (some { item := .unreadReaction id count })
  | .messageContainsUnreadPollVotes id _ count => .ok (some { item := .unreadPollVote id count })
  | .chatUnreadPollVoteCount id count => .ok (some { item := .unreadPollVote id count })
  | .chatIsMarkedAsUnread id marked => .ok (some { item := .markedUnread id marked })
  | .message _ _ => .ok none
  | .other => .ok none

variable {ω : Type}

def bufferValue (n : Normalizer ω) (value : TdValue) (sequence : Nat) :
    Except StreamFailure (Normalizer ω) :=
  match bufferItem value with
  | .error e => .error e
  | .ok none => .ok n
  | .ok (some buffered) =>
    let wouldUse := n.bootstrapCharged + (64 + buffered.copied)
    if n.bootstrap.length = kStreamMetadataBootstrapItems then
      .error (tableFull .bootstrapItems .bootstrap kStreamMetadataBootstrapItems
        n.bootstrap.length)
    else if kStreamMetadataBootstrapBytes < wouldUse
        ∨ kBootstrapPhysicalBytes - n.bootstrapPhysical < buffered.physical then
      .error (.capacity { resource := .bootstrapBytes, phase := .bootstrap
                          limit := kStreamMetadataBootstrapBytes, wouldUse := wouldUse })
    else if buffered.date ≠ 0 ∧ streamTimestampUtc buffered.date = none then
      .error (.malformed .currentStateEntry .invalidDate)
    else .ok
      { n with
        bootstrap := n.bootstrap ++ [(sequence, buffered.item)]
        bootstrapCharged := wouldUse
        bootstrapPhysical := n.bootstrapPhysical + buffered.physical }

/-! ## §2. The current state. -/

/-- What `getCurrentState` answered. -/
inductive CurrentState where
  | error (e : TdError)
  | directConversionError
  | state (updates : List TdValue)
  | other
deriving DecidableEq, Repr

def isCurrentStateUpdate (value : TdValue) : Bool := value != .other

/-- The loop over the state's updates. -/
def applyState (s : Metadata) : List TdValue → Except StreamFailure Metadata
  | [] => .ok s
  | value :: values =>
    if !isCurrentStateUpdate value then .error .wrongCurrentState
    else
      match applyValue s value false with
      | .error e => .error e
      | .ok s => applyState s values

/-- The loop over the buffered updates: those behind the barrier. -/
def applyBehind (s : Metadata) (barrier : Nat) : List (Nat × Buffered) →
    Except StreamFailure Metadata
  | [] => .ok s
  | (sequence, item) :: items =>
    if barrier < sequence then
      match applyBuffered s item with
      | .error e => .error e
      | .ok s => applyBehind s barrier items
    else applyBehind s barrier items

/-- Every chat but a secret one has its entity. -/
def entitiesComplete (s : Metadata) : Bool :=
  s.chats.entries.all fun entry =>
    entry.2.kind == .secret
      || match entityKind entry.2.kind with
        | none => false
        | some kind =>
          match s.findEntity kind entry.2.relatedId with
          | none => false
          | some entity => compatible entry.2 entity

def currentState (n : Normalizer ω) (barrier : Nat) (result : CurrentState) :
    Except StreamFailure (Normalizer ω) :=
  if n.phase ≠ .bootstrap then .ok n
  else if barrier = 0 then .error (.malformed .currentStateEntry .invalidIdentifier)
  else
    match result with
    | .error e => .error (if e.code = 429 then .rateLimited else .tdlibError e.code)
    | .directConversionError => .error .directConversion
    | .other => .error .wrongCurrentState
    | .state updates =>
      match applyState n.metadata updates with
      | .error e => .error e
      | .ok s =>
        match applyBehind s barrier n.bootstrap with
        | .error e => .error e
        | .ok s =>
          if !entitiesComplete s then .error (malformed .currentStateEntry)
          else .ok
            { n with
              phase := .ready
              lastSequence := max n.lastSequence barrier
              bootstrap := [], bootstrapCharged := 0, bootstrapPhysical := 0
              metadata := s }

/-! ## §3. Steps and runs. -/

/-- An event of the receive thread. -/
inductive Input where
  | update (sequence : Nat) (value : TdValue)
  | currentState (sequence : Nat) (result : CurrentState)
deriving DecidableEq, Repr

variable (publish : ω → Metadata → Metadata → Nat → TdValue → Option ω)

def update (n : Normalizer ω) (sequence : Nat) (value : TdValue) :
    Except StreamFailure (Normalizer ω) :=
  if sequence = 0 ∨ sequence ≤ n.lastSequence then
    .error (.malformed .currentStateEntry .invalidIdentifier)
  else
    let n := { n with lastSequence := sequence }
    match n.phase with
    | .bootstrap => bufferValue n value sequence
    | .ready =>
      match applyValue n.metadata value true with
      | .error e => .error e
      | .ok s =>
        match publish n.out n.metadata s sequence value with
        | none => .error .publication
        | some out => .ok { n with metadata := s, out := out }

def step (n : Normalizer ω) : Input → Except StreamFailure (Normalizer ω)
  | .update sequence value => update publish n sequence value
  | .currentState sequence result => currentState n sequence result

/-- A run; it ends with the error that took the normalizer to Failed. -/
def run (n : Normalizer ω) : List Input → Except StreamFailure (Normalizer ω)
  | [] => .ok n
  | input :: inputs =>
    match step publish n input with
    | .error e => .error e
    | .ok n => run n inputs

/-! ## §4. The changes of a run. -/

/-- One change of the tables. -/
inductive Change where
  | value (value : TdValue) (emit : Bool)
  | buffered (item : Buffered)
deriving DecidableEq, Repr

def applyChange (s : Metadata) : Change → Except StreamFailure Metadata
  | .value value emit => applyValue s value emit
  | .buffered item => applyBuffered s item

def applyChanges (s : Metadata) : List Change → Except StreamFailure Metadata
  | [] => .ok s
  | change :: changes =>
    match applyChange s change with
    | .error e => .error e
    | .ok s => applyChanges s changes

/-- The changes one input makes. -/
def changesOf (n : Normalizer ω) : Input → List Change
  | .update _ value =>
    match n.phase with
    | .bootstrap => []
    | .ready => [.value value true]
  | .currentState barrier (.state updates) =>
    match n.phase with
    | .bootstrap =>
      updates.map (Change.value · false)
        ++ (n.bootstrap.filter fun item => barrier < item.1).map fun item => .buffered item.2
    | .ready => []
  | .currentState _ _ => []

/-- The changes of a run. -/
def log (n : Normalizer ω) : List Input → List Change
  | [] => []
  | input :: inputs =>
    changesOf n input
      ++ match step publish n input with
        | .error _ => []
        | .ok n => log n inputs

theorem applyChanges_append (xs ys : List Change) :
    ∀ (s s1 : Metadata), applyChanges s xs = .ok s1 →
      applyChanges s (xs ++ ys) = applyChanges s1 ys := by
  induction xs with
  | nil => intro s s1 h; injection h with h; rw [← h]; rfl
  | cons x xs ih =>
    intro s s1 h
    rw [List.cons_append, applyChanges] at *
    cases hx : applyChange s x with
    | error e => rw [hx] at h; cases h
    | ok s' => rw [hx] at h; exact ih s' s1 h

theorem applyState_changes (updates : List TdValue) :
    ∀ (s s' : Metadata), applyState s updates = .ok s' →
      applyChanges s (updates.map (Change.value · false)) = .ok s' := by
  induction updates with
  | nil => intro s s' h; exact h
  | cons value values ih =>
    intro s s' h
    rw [applyState] at h
    split at h
    · cases h
    show (match applyValue s value false with | .error e => _ | .ok s => _) = _
    cases hv : applyValue s value false with
    | error e => rw [hv] at h; cases h
    | ok s1 => rw [hv] at h; exact ih s1 s' h

theorem applyBehind_changes (barrier : Nat) (items : List (Nat × Buffered)) :
    ∀ (s s' : Metadata), applyBehind s barrier items = .ok s' →
      applyChanges s ((items.filter fun item => barrier < item.1).map fun item =>
        .buffered item.2) = .ok s' := by
  induction items with
  | nil => intro s s' h; exact h
  | cons item items ih =>
    intro s s' h
    rw [applyBehind] at h
    by_cases hb : barrier < item.1
    · rw [if_pos hb] at h
      rw [List.filter_cons_of_pos (by simpa using hb)]
      show (match applyBuffered s item.2 with | .error e => _ | .ok s => _) = _
      cases hv : applyBuffered s item.2 with
      | error e => rw [hv] at h; cases h
      | ok s1 => rw [hv] at h; exact ih s1 s' h
    · rw [if_neg hb] at h
      rw [List.filter_cons_of_neg (by simpa using hb)]
      exact ih s s' h

variable {n n' : Normalizer ω}

/-- Buffering leaves everything but the buffer alone. -/
theorem bufferValue_keeps {value : TdValue} {sequence : Nat}
    (h : bufferValue n value sequence = .ok n') :
    n'.phase = n.phase ∧ n'.lastSequence = n.lastSequence ∧ n'.metadata = n.metadata
      ∧ n'.out = n.out := by
  unfold bufferValue at h
  split at h
  · cases h
  · cases h
    exact ⟨rfl, rfl, rfl, rfl⟩
  simp only at h
  split at h
  · cases h
  split at h
  · cases h
  split at h
  · cases h
  cases h
  exact ⟨rfl, rfl, rfl, rfl⟩

/-- What an accepted current state does; a second answer is not looked at. -/
theorem currentState_ok (h : currentState n barrier result = .ok n') :
    (n.phase = .ready ∧ n' = n) ∨ ∃ updates s s', n.phase = .bootstrap ∧ result = .state updates
      ∧ applyState n.metadata updates = .ok s ∧ applyBehind s barrier n.bootstrap = .ok s'
      ∧ n' = { n with
        phase := .ready, lastSequence := max n.lastSequence barrier, bootstrap := []
        bootstrapCharged := 0, bootstrapPhysical := 0, metadata := s' } := by
  unfold currentState at h
  split at h
  next hph =>
    cases h
    cases hready : n.phase with
    | bootstrap => exact absurd hready hph
    | ready => exact .inl ⟨rfl, rfl⟩
  next hph =>
    split at h
    · cases h
    split at h
    · cases h
    · cases h
    · cases h
    rename_i updates
    split at h
    · cases h
    rename_i s hs
    split at h
    · cases h
    rename_i s' hs'
    split at h
    · cases h
    cases h
    exact .inr ⟨updates, s, s', by simpa using hph, rfl, hs, hs', rfl⟩

/-- **One input changes the tables by its changes.** -/
theorem step_changes {input : Input} (h : step publish n input = .ok n') :
    applyChanges n.metadata (changesOf n input) = .ok n'.metadata := by
  cases input with
  | update sequence value =>
    change update publish n sequence value = .ok n' at h
    unfold update at h
    split at h
    · cases h
    cases hph : n.phase with
    | bootstrap =>
      rw [hph] at h
      show applyChanges _ (match n.phase with | .bootstrap => _ | .ready => _) = _
      rw [hph, (bufferValue_keeps h).2.2.1]
      rfl
    | ready =>
      rw [hph] at h
      simp only at h
      show applyChanges _ (match n.phase with | .bootstrap => _ | .ready => _) = _
      rw [hph]
      show (match applyValue n.metadata value true with | .error e => _ | .ok s => _) = _
      split at h
      · cases h
      split at h
      · cases h
      · cases h
        rfl
  | currentState sequence result =>
    rcases currentState_ok h with ⟨hready, rfl⟩ | ⟨updates, s, s', hboot, rfl, hs, hs', rfl⟩
    · cases result with
      | state updates =>
        show applyChanges _ (match n'.phase with | .bootstrap => _ | .ready => _) = _
        rw [hready]
        rfl
      | error e => rfl
      | directConversionError => rfl
      | other => rfl
    · show applyChanges _ (match n.phase with | .bootstrap => _ | .ready => _) = _
      rw [hboot]
      show applyChanges n.metadata (_ ++ _) = .ok s'
      rw [applyChanges_append _ _ _ _ (applyState_changes updates _ _ hs)]
      exact applyBehind_changes sequence n.bootstrap _ _ hs'

/-- **The tables of a run are the tables after its changes.** -/
theorem run_changes (inputs : List Input) : ∀ (n n' : Normalizer ω), run publish n inputs = .ok n' →
      applyChanges n.metadata (log publish n inputs) = .ok n'.metadata := by
  induction inputs with
  | nil => intro n n' h; injection h with h; rw [← h]; rfl
  | cons input inputs ih =>
    intro n n' h
    rw [run] at h
    cases hs : step publish n input with
    | error e => rw [hs] at h; cases h
    | ok n1 =>
      rw [hs] at h
      show applyChanges n.metadata (changesOf n input ++ match step publish n input with
        | .error _ => [] | .ok n => log publish n inputs) = _
      rw [hs, applyChanges_append _ _ _ _ (step_changes publish hs)]
      exact ih n1 n' h

end TgCli.Stream
