/-
  TgCli.Resolver.Resolve — CHAT SELECTORS, AND RESOLVING THEM

  `classify_selector` (daemon/resolver.cpp) and `classify_local_selector`
  (daemon/local_selector.cpp) on the bytes of a selector: decimal ids,
  usernames, t.me links and title substrings.

  `ResolverRun::resolve_chat` (daemon/resolver.cpp) with its eight ways to a
  chat.  A run keeps the facts of the chat it materialized LAST
  (`last_private_user_id_`, …); `materialize_result` puts them into the target
  whatever chat the result names.

  `Resolve σ α` is a step of a run: it may fail, and `none` means that the
  fuel did not cover the loads of a list.

  Main results:
    * `classifySelector_decimalText`, `classifyLocalSelector_decimalText` — the decimal
      text of a chat id is classified as that id.
-/
import TgCli.ChatList.Load

namespace TgCli.Resolver

open Tdlib List ChatList

/-! ## §1. Decimal ids. -/

def asciiAlpha (c : UInt8) : Bool := (65 ≤ c && c ≤ 90) || (97 ≤ c && c ≤ 122)

def asciiDigit (c : UInt8) : Bool := 48 ≤ c && c ≤ 57

def asciiAlnum (c : UInt8) : Bool := asciiAlpha c || asciiDigit c

/-- The digits of a decimal selector, without its sign. -/
def unsigned (selector : Bytes) : Bytes :=
  match selector with
  | [] => []
  | c :: rest => if c = 45 || c = 43 then rest else c :: rest

/-- `decimal_syntax`: an optional sign and at least one digit. -/
def decimalSyntax (selector : Bytes) : Bool :=
  !(unsigned selector).isEmpty && (unsigned selector).all asciiDigit

/-- The number a list of digits stands for. -/
def digitsValue (digits : Bytes) : Nat := digits.foldl (fun n c => n * 10 + (c.toNat - 48)) 0

/-- `parse_decimal` (also `parse_chat_id`) on a selector of decimal syntax;
values past 64 bits are past 53 bits. -/
def parseDecimal (selector : Bytes) : Option Int :=
  let magnitude : Int := digitsValue (unsigned selector)
  let value := if selector.head? = some 45 then -magnitude else magnitude
  if validInt53 value then some value else none

/-! ## §2. Selectors in the dialogs scope. -/

inductive ClassifiedSelector where
  | numeric (chatId : Int)
  | username (value : Bytes)
  | link (value : Bytes)
  | title (value : Bytes)
deriving DecidableEq, Repr

/-- The link prefixes. -/
def linkPrefix (selector : Bytes) : Bool :=
  (ascii "https://t.me/").isPrefixOf selector || (ascii "t.me/").isPrefixOf selector

/-- `classify_selector`, with the checks its caller makes before. -/
def classifySelector (selector : Bytes) : Option ClassifiedSelector :=
  if selector.isEmpty || !validUtf8 selector then none
  else if decimalSyntax selector then (parseDecimal selector).map .numeric
  else if selector.head? = some 64 then
    if selector.length = 1 then none else some (.username selector.tail)
  else if linkPrefix selector then some (.link selector)
  else some (.title selector)

/-! ## §3. Selectors in the local scope. -/

inductive LocalSelector where
  | numeric (chatId : Int)
  | username (value : Bytes)
  | publicChatLink (username : Bytes)
  | botStartLink (username : Bytes)
  | messageLink
  | chatInviteLink
  | directMessagesChatLink (username : Bytes)
  | invalidLink
  | unsupportedLink
  | title (value : Bytes)
deriving DecidableEq, Repr

def asciiLower (c : UInt8) : UInt8 := if 65 ≤ c && c ≤ 90 then c + 32 else c

/-- `ascii_starts_with_case_insensitive`. -/
def startsWithCaseInsensitive (value front : Bytes) : Bool :=
  (front.map asciiLower).isPrefixOf (value.map asciiLower)

/-- A URI scheme and `://`. -/
def schemeLike (value : Bytes) : Bool :=
  match value with
  | [] => false
  | c :: rest =>
    asciiAlpha c
      && (ascii "://").isPrefixOf
        (rest.dropWhile fun d => asciiAlnum d || d == 43 || d == 46 || d == 45)

/-- The loop of `url_like` over the two hosts: the first one the value starts
with decides. -/
def hostLike (value : Bytes) : List Bytes → Bool
  | [] => false
  | host :: hosts =>
    if !startsWithCaseInsensitive value host then hostLike value hosts
    else
      match value.drop host.length with
      | [] => true
      | next :: _ => next == 47 || next == 58 || next == 63 || next == 35

def urlLike (value : Bytes) : Bool :=
  schemeLike value || hostLike value [ascii "t.me", ascii "www.t.me"]

/-- The loop of `username`: no other character and no two underscores in a
row. -/
def usernameScan : Bool → Bytes → Bool
  | _, [] => true
  | previousUnderscore, c :: rest =>
    if !asciiAlnum c && c != 95 then false
    else if c == 95 && previousUnderscore then false
    else usernameScan (c == 95) rest

/-- `username`. -/
def usernameSyntax (value : Bytes) : Bool :=
  match value with
  | [] => false
  | c :: _ =>
    !(32 < value.length) && asciiAlpha c && !(value.getLast? == some 95)
      && usernameScan false value

def queryCharacter (c : UInt8) : Bool := asciiAlnum c || c == 95 || c == 45

def componentCharacter (c : UInt8) : Bool := asciiAlnum c || c == 95 || c == 43 || c == 45

def base64url (value : Bytes) : Bool := !value.isEmpty && value.all queryCharacter

def positiveDecimal (value : Bytes) : Bool :=
  match value with
  | [] => false
  | c :: _ => 49 ≤ c && c ≤ 57 && value.all asciiDigit

def decimalComponent (value : Bytes) : Bool := !value.isEmpty && value.all asciiDigit

/-- One `key=value` pair of a query; the value may be missing. -/
def validPair (pair : Bytes) : Bool :=
  let key := pair.takeWhile (· != 61)
  let value := (pair.dropWhile (· != 61)).drop 1
  !pair.isEmpty && !key.isEmpty && key.all queryCharacter && value.all queryCharacter

def validQueryEnvelope (query : Bytes) : Bool := !query.isEmpty && (query.splitOn 38).all validPair

def pathComponents (path : Bytes) : Option (List Bytes) :=
  if path.isEmpty || path.getLast? = some 47 then none
  else
    let components := path.splitOn 47
    if components.all fun c => !c.isEmpty && c.all componentCharacter then some components
    else none

def classifyQueryLink (components : List Bytes) (query : Bytes) : LocalSelector :=
  match components with
  | [name] =>
    if !usernameSyntax name then .invalidLink
    else if query = ascii "direct" then .directMessagesChatLink name
    else if (ascii "start").isPrefixOf query then
      if !(ascii "start=").isPrefixOf query || !(query.drop 6).all queryCharacter then .invalidLink
      else .botStartLink name
    else .unsupportedLink
  | _ => .unsupportedLink

def classifySinglePath (value : Bytes) : LocalSelector :=
  if value.head? = some 43 then
    if base64url value.tail then .chatInviteLink else .invalidLink
  else if usernameSyntax value then .publicChatLink value
  else .invalidLink

def classifyDoublePath (first second : Bytes) : LocalSelector :=
  if first = ascii "joinchat" then if base64url second then .chatInviteLink else .invalidLink
  else if !usernameSyntax first then .invalidLink
  else if positiveDecimal second then .messageLink
  else if decimalComponent second then .invalidLink
  else .unsupportedLink

def classifyPrivatePath (first second third : Bytes) : LocalSelector :=
  if first ≠ ascii "c" then .unsupportedLink
  else if positiveDecimal second && positiveDecimal third then .messageLink
  else .invalidLink

def classifyPathLink : List Bytes → LocalSelector
  | [value] => classifySinglePath value
  | [first, second] => classifyDoublePath first second
  | [first, second, third] => classifyPrivatePath first second third
  | _ => .unsupportedLink

def classifyLocalLink (selector : Bytes) : LocalSelector :=
  let link := selector.drop
    (if (ascii "https://t.me/").isPrefixOf selector then (ascii "https://t.me/").length
      else (ascii "t.me/").length)
  if link.isEmpty || link.any fun c => 127 < c || c == 37 || c == 35 then .invalidLink
  else
    match link.splitOn 63 with
    | [path] =>
      match pathComponents path with
      | none => .invalidLink
      | some components => classifyPathLink components
    | [path, query] =>
      match pathComponents path with
      | none => .invalidLink
      | some components =>
        if !validQueryEnvelope query then .invalidLink
        else classifyQueryLink components query
    | _ => .invalidLink

def classifyLocalSelector (selector : Bytes) : Option LocalSelector :=
  if selector.isEmpty || !validUtf8 selector then none
  else if decimalSyntax selector then (parseDecimal selector).map .numeric
  else if selector.head? = some 64 then
    if selector.length = 1 then none else some (.username selector.tail)
  else if linkPrefix selector then some (classifyLocalLink selector)
  else if urlLike selector then some .invalidLink
  else some (.title selector)

/-! ## §4. The decimal text of an id. -/

/-- A digit as a character. -/
def digitByte (d : Nat) : UInt8 := UInt8.ofNat (48 + d)

/-- The decimal text of a natural number. -/
def natText (n : Nat) : Bytes :=
  if n < 10 then [digitByte n] else natText (n / 10) ++ [digitByte (n % 10)]

/-- `std::to_string` of a chat id. -/
def decimalText (id : Int) : Bytes :=
  if id < 0 then 45 :: natText id.natAbs else natText id.natAbs

theorem digitByte_toNat (h : d < 10) : (digitByte d).toNat = 48 + d := by
  unfold digitByte
  rw [UInt8.toNat_ofNat']
  omega

theorem asciiDigit_digitByte (h : d < 10) : asciiDigit (digitByte d) := by
  have hd := digitByte_toNat h
  simp only [asciiDigit, Bool.and_eq_true, decide_eq_true_eq, UInt8.le_iff_toNat_le, hd]
  show 48 ≤ 48 + d ∧ 48 + d ≤ 57
  omega

theorem natText_ne_nil (n : Nat) : natText n ≠ [] := by
  unfold natText
  split <;> simp

theorem natText_digits (n : Nat) : ∀ c ∈ natText n, asciiDigit c := by
  induction n using Nat.strong_induction_on with
  | _ n ih =>
    unfold natText
    split
    · next hlt => exact forall_mem_singleton.mpr (asciiDigit_digitByte hlt)
    · exact forall_mem_append.mpr ⟨ih (n / 10) (by omega),
        forall_mem_singleton.mpr (asciiDigit_digitByte (by omega))⟩

/-- Reading the decimal text back. -/
theorem digitsValue_natText (n : Nat) : digitsValue (natText n) = n := by
  induction n using Nat.strong_induction_on with
  | _ n ih =>
    unfold natText
    split
    · next hlt =>
        show 0 * 10 + ((digitByte n).toNat - 48) = n
        rw [digitByte_toNat hlt]
        omega
    · next hge =>
        have hlast : (digitByte (n % 10)).toNat - 48 = n % 10 := by
          rw [digitByte_toNat (by omega)]
          omega
        rw [digitsValue, foldl_append]
        show digitsValue (natText (n / 10)) * 10 + ((digitByte (n % 10)).toNat - 48) = n
        rw [ih (n / 10) (by omega), hlast]
        omega

/-- The first character is a digit, not a sign. -/
theorem natText_head (n : Nat) : ∃ c rest, natText n = c :: rest ∧ c ≠ 45 ∧ c ≠ 43 := by
  obtain ⟨c, rest, hcons⟩ := exists_cons_of_ne_nil (natText_ne_nil n)
  have hdigit := natText_digits n c (by rw [hcons]; exact mem_cons_self)
  refine ⟨c, rest, hcons, ?_, ?_⟩
  all_goals
    intro hc
    rw [hc] at hdigit
    exact absurd hdigit (by decide)

theorem unsigned_decimalText (id : Int) : unsigned (decimalText id) = natText id.natAbs := by
  unfold decimalText
  split
  · rfl
  obtain ⟨c, rest, hcons, hminus, hplus⟩ := natText_head id.natAbs
  rw [hcons]
  simp [unsigned, hminus, hplus]

theorem decimalSyntax_decimalText (id : Int) : decimalSyntax (decimalText id) := by
  unfold decimalSyntax
  rw [unsigned_decimalText, Bool.and_eq_true, all_eq_true]
  refine ⟨?_, natText_digits _⟩
  simpa using natText_ne_nil id.natAbs

theorem parseDecimal_decimalText {id : Int} (h : validInt53 id) :
    parseDecimal (decimalText id) = some id := by
  unfold parseDecimal
  rw [unsigned_decimalText, digitsValue_natText]
  have hvalue : (if (decimalText id).head? = some 45 then -(id.natAbs : Int) else (id.natAbs : Int))
      = id := by
    unfold decimalText
    by_cases hneg : id < 0
    · rw [if_pos hneg, head?_cons, if_pos rfl]
      omega
    obtain ⟨c, rest, hcons, hminus, _⟩ := natText_head id.natAbs
    rw [if_neg hneg, hcons, head?_cons, if_neg (by simpa using hminus)]
    omega
  dsimp only
  rw [hvalue, if_pos h]

/-- ASCII text is UTF-8. -/
theorem validUtf8_ascii : ∀ {bytes : Bytes}, (∀ c ∈ bytes, c ≤ 0x7F) → validUtf8 bytes
  | [], _ => rfl
  | c :: rest, h => by
      have hc := h c mem_cons_self
      have hrest := validUtf8_ascii fun d hd => h d (mem_cons_of_mem _ hd)
      cases rest <;> simp [validUtf8, hc, hrest]

theorem validUtf8_decimalText (id : Int) : validUtf8 (decimalText id) := by
  have hdig : ∀ c ∈ natText id.natAbs, c ≤ 0x7F := by
    intro c hc
    have hdigit := natText_digits _ c hc
    simp only [asciiDigit, Bool.and_eq_true, decide_eq_true_eq] at hdigit
    exact UInt8.le_trans hdigit.2 (by decide)
  refine validUtf8_ascii ?_
  unfold decimalText
  split
  · exact forall_mem_cons.mpr ⟨by decide, hdig⟩
  · exact hdig

theorem decimalText_ne_nil (id : Int) : decimalText id ≠ [] := by
  unfold decimalText
  split
  · simp
  · exact natText_ne_nil _

/-- **The decimal text of an id selects that id**, in the dialogs scope … -/
theorem classifySelector_decimalText {id : Int} (h : validInt53 id) :
    classifySelector (decimalText id) = some (.numeric id) := by
  have hne : (decimalText id).isEmpty = false := by simpa using decimalText_ne_nil id
  unfold classifySelector
  rw [hne, validUtf8_decimalText, decimalSyntax_decimalText, parseDecimal_decimalText h]
  rfl

/-- … and in the local scope. -/
theorem classifyLocalSelector_decimalText {id : Int} (h : validInt53 id) :
    classifyLocalSelector (decimalText id) = some (.numeric id) := by
  have hne : (decimalText id).isEmpty = false := by simpa using decimalText_ne_nil id
  unfold classifyLocalSelector
  rw [hne, validUtf8_decimalText, decimalSyntax_decimalText, parseDecimal_decimalText h]
  rfl

/-! ## §5. TDLib, and the run. -/

structure TdMessageLinkInfo where
  isPublic : Bool
  chatId : Int
  messageId : Option Int := none
  topic : Option TdTopic := none
deriving DecidableEq, Repr

structure TdChatInviteLinkInfo where
  chatId : Int
  isPublic : Bool
deriving DecidableEq, Repr

/-- The TDLib requests of the resolver. -/
structure ResolverClient (σ : Type) extends TdClient σ where
  searchPublicChat : σ → Bytes → Response TdChat
  getInternalLinkType : σ → Bytes → Response TdLinkTarget
  getMessageLinkInfo : σ → Bytes → Response TdMessageLinkInfo
  checkChatInviteLink : σ → Bytes → Response TdChatInviteLinkInfo
  /-- `direct_messages_chat_id` of the supergroup's full info -/
  getDirectMessagesChatId : σ → Int → Response Int
  createPrivateChat : σ → Int → Response TdChat

structure ResolverPrincipal where
  id : Int
  isBot : Bool
  clientId : Int
  clientGeneration : Nat
  authSequence : Nat
deriving DecidableEq, Repr

/-- `last_private_user_id_`, `last_private_user_presence_`,
`last_observed_user_`, `last_observed_supergroup_`. -/
structure LastFacts where
  privateUserId : Option Int := none
  privateUserPresence : Option TdUserPresence := none
  observedUser : Option TdUserSummary := none
  observedSupergroup : Option TdSupergroup := none
deriving DecidableEq, Repr

/-- The facts `identity` keeps of a materialized chat. -/
def LastFacts.ofChat (facts : ChatFacts) : LastFacts :=
  { privateUserId := facts.privateUserId
    privateUserPresence := facts.privateUserPresence
    observedUser := facts.observedUser
    observedSupergroup := facts.observedSupergroup }

/-- `ResolverRun`, its principal bound. -/
structure ResolverRun (σ : Type) where
  td : σ
  me : TdUserSummary
  principal : ResolverPrincipal
  last : LastFacts := {}
  savedMessagesChat : Option TdChat := none

inductive ResolverUsageReason where
  | invalidArgument | unsupportedChatType | unsupportedLinkType
deriving DecidableEq, Repr

inductive ResolverFailure where
  | stopped
  | usage (argument : String) (reason : ResolverUsageReason)
  | botUnsupported
  | notFound (selector : Bytes) (scope : Option ResolverScope)
  | ambiguous (selector : Bytes) (scope : ResolverScope) (candidates : List ChatIdentity)
      (truncated : Bool)
  | rateLimited (message : Bytes)
  | tdlib (code : Int)
  | internal
deriving DecidableEq, Repr

/-- One step of a run. -/
def Resolve (σ α : Type) : Type :=
  ResolverRun σ → Option (Except ResolverFailure α × ResolverRun σ)

namespace Resolve

variable {σ α β : Type}

def pure (a : α) : Resolve σ α := fun run => some (.ok a, run)

def fail (failure : ResolverFailure) : Resolve σ α := fun run => some (.error failure, run)

def bind (x : Resolve σ α) (f : α → Resolve σ β) : Resolve σ β := fun run =>
  match x run with
  | none => none
  | some (.error failure, run') => some (.error failure, run')
  | some (.ok a, run') => f a run'

instance : Monad (Resolve σ) where
  pure := Resolve.pure
  bind := Resolve.bind

end Resolve

variable {σ : Type}

def tdError (e : TdError) : ResolverFailure :=
  if e.code = 429 then .rateLimited e.message else .tdlib e.code

/-- One read of the run: a failed one ends it. -/
def read {α : Type} (request : σ → Response α) (onError : TdError → ResolverFailure) :
    Resolve σ α := fun run =>
  match request run.td with
  | .stopped => some (.error .stopped, run)
  | .error e => some (.error (onError e), run)
  | .unexpected => some (.error .internal, run)
  | .value a => some (.ok a, run)

/-! ## §6. Chats and identities. -/

section

variable (client : ResolverClient σ) (selector : Bytes)

def getChat (chatId : Int) (domainScan : Bool) : Resolve σ TdChat := do
  let chat ← read (client.getChat · chatId) fun e =>
    if !domainScan && (e.code = 400 || e.code = 404) then .notFound selector none else tdError e
  if chat.id != chatId || !validInt53 chat.id then .fail .internal else pure chat

/-- `identity`: the facts of the chat replace those of the chat before. -/
def identity (chat : TdChat) (rejectSecret : Bool) : Resolve σ ChatIdentity := fun run =>
  let run := { run with last := {} }
  match materializeChatIdentity client.toTdClient run.td chat with
  | .success facts => some (.ok facts.identity, { run with last := .ofChat facts })
  | .secret =>
    some (.error (if rejectSecret then .usage "selector" .unsupportedChatType else .stopped), run)
  | .tdError e => some (.error (tdError e), run)
  | .invalid => some (.error .internal, run)
  | .readStopped => some (.error .stopped, run)

inductive ResolvedLinkType where
  | publicChat | botStart | message | chatInvite | directMessagesChat | savedMessages
deriving DecidableEq, Repr

structure ResolveResult where
  chat : ChatIdentity
  messageId : Option Int := none
  topic : Option TdTopic := none
  linkType : Option ResolvedLinkType := none
  isPublic : Option Bool := none
  observedChat : Option TdChat := none
deriving DecidableEq, Repr

def resolveNumeric (chatId : Int) : Resolve σ ResolveResult := do
  let chat ← getChat client selector chatId false
  let materialized ← identity client chat true
  pure { chat := materialized, observedChat := some chat }

/-- The error of `searchPublicChat`. -/
def usernameError (e : TdError) : ResolverFailure :=
  if e.code = 400 && (e.message = ascii "USERNAME_NOT_OCCUPIED"
      || e.message = ascii "USERNAME_INVALID") then .notFound selector none
  else tdError e

def resolvePublicUsername (username : Bytes) (linkType : Option ResolvedLinkType)
    (requireBot : Bool) : Resolve σ ResolveResult := do
  let chat ← read (client.searchPublicChat · username) (usernameError selector)
  if !validInt53 chat.id then .fail .internal
  else
    let materialized ← identity client chat true
    if requireBot && !materialized.isBot then .fail .internal
    else pure { chat := materialized, linkType := linkType, observedChat := some chat }

/-! ## §7. Dialog scans. -/

/-- `load_list`, its failures as those of the run. -/
def loadDialogs (fuel : Nat) (list : TdChatListKind) (scope : ResolverScope) :
    Resolve σ (List Int) := fun run =>
  match loadList client.toTdClient fuel { kind := list } scope run.td with
  | none => none
  | some (.ok ids, td) => some (.ok ids, { run with td := td })
  | some (.error .stopped, td) => some (.error .stopped, { run with td := td })
  | some (.error (.tdError e), td) => some (.error (tdError e), { run with td := td })
  | some (.error .internal, td) => some (.error .internal, { run with td := td })

/-- The first occurrence of each id. -/
def keepFirst : List Int → List Int → List Int
  | _, [] => []
  | seen, id :: rest => if id ∈ seen then keepFirst seen rest else id :: keepFirst (id :: seen) rest

def activeDialogIds (fuel : Nat) (scope : ResolverScope) : Resolve σ (List Int) := do
  let main ← loadDialogs client fuel .main scope
  let archive ← loadDialogs client fuel .archive scope
  pure (keepFirst [] (main ++ archive))

def kMaximumAmbiguousCandidates : Nat := 20

/-- The loop of `resolve_materialized`: how many chats match, and the
identities of the first twenty. -/
def scanMatches (predicate : TdChat → Bool) :
    List Int → Nat × List ChatIdentity → Resolve σ (Nat × List ChatIdentity)
  | [], found => pure found
  | id :: ids, (count, candidates) => do
      let chat ← getChat client selector id true
      if chat.kind = .secret || !predicate chat then scanMatches predicate ids (count, candidates)
      else if count < kMaximumAmbiguousCandidates then
        let materialized ← identity client chat false
        scanMatches predicate ids (count + 1, candidates ++ [materialized])
      else scanMatches predicate ids (count + 1, candidates)

def resolveMaterialized (fuel : Nat) (predicate : TdChat → Bool) (scope : ResolverScope) :
    Resolve σ ResolveResult := do
  let ids ← activeDialogIds client fuel scope
  let (count, candidates) ← scanMatches client selector predicate ids (0, [])
  match count, candidates with
  | 0, _ =>
    .fail (.notFound selector (if scope = .localMaterialized then some scope else none))
  | 1, single :: _ => pure { chat := single }
  | _, _ =>
    .fail (.ambiguous selector scope candidates (kMaximumAmbiguousCandidates < count))

def resolveTitle (fuel : Nat) (title : Bytes) (scope : ResolverScope) : Resolve σ ResolveResult :=
  resolveMaterialized client selector fuel (fun chat => decide (title <:+: chat.title)) scope

/-- The loop of `resolve_local_username`: EVERY chat that is not secret is
materialized. -/
def scanUsernames (username : Bytes) (botOnly : Bool) :
    List Int → List ChatIdentity → Resolve σ (List ChatIdentity)
  | [], found => pure found
  | id :: ids, found => do
      let chat ← getChat client selector id true
      if chat.kind = .secret then scanUsernames username botOnly ids found
      else
        let materialized ← identity client chat false
        if username ∈ materialized.usernames
            && (!botOnly || (materialized.type = .privateChat && materialized.isBot)) then
          scanUsernames username botOnly ids (found ++ [materialized])
        else scanUsernames username botOnly ids found

def resolveLocalUsername (fuel : Nat) (username : Bytes) (linkType : Option ResolvedLinkType)
    (botOnly : Bool) : Resolve σ ResolveResult := do
  let ids ← activeDialogIds client fuel .localMaterialized
  let found ← scanUsernames client selector username botOnly ids []
  match found with
  | [] => .fail (.notFound selector (some .localMaterialized))
  | [single] => pure { chat := single, linkType := linkType }
  | _ =>
    .fail (.ambiguous selector .localMaterialized (found.take kMaximumAmbiguousCandidates)
      (kMaximumAmbiguousCandidates < found.length))

/-! ## §8. Links. -/

/-- The error of a link that names nothing. -/
def linkError (e : TdError) : ResolverFailure :=
  if e.code = 404 then .notFound selector none else tdError e

/-- The calls that need a user account. -/
def requireUser : Resolve σ Unit := fun run =>
  if run.me.isBot then some (.error .botUnsupported, run) else some (.ok (), run)

/-- A chat known by its id, with the context of a link. -/
def resolveLinked (chatId : Int) (messageId : Option Int) (topic : Option TdTopic)
    (linkType : ResolvedLinkType) (isPublic : Option Bool) : Resolve σ ResolveResult := do
  let chat ← getChat client selector chatId false
  let materialized ← identity client chat true
  pure { chat := materialized, messageId := messageId, topic := topic, linkType := some linkType
         isPublic := isPublic, observedChat := some chat }

def resolveMessageLink (url : Bytes) : Resolve σ ResolveResult := do
  let info ← read (client.getMessageLinkInfo · url) (linkError selector)
  if !validInt53 info.chatId || info.messageId.any (!validInt53 ·) then .fail .internal
  else
    resolveLinked client selector info.chatId info.messageId info.topic .message (some info.isPublic)

def resolveInviteLink (url : Bytes) : Resolve σ ResolveResult := do
  requireUser
  let info ← read (client.checkChatInviteLink · url) (linkError selector)
  if !validInt53 info.chatId then .fail (.notFound selector none)
  else resolveLinked client selector info.chatId none none .chatInvite (some info.isPublic)

def resolveDirectMessagesLink (username : Bytes) : Resolve σ ResolveResult := do
  requireUser
  let channel ← read (client.searchPublicChat · username) (usernameError selector)
  if channel.kind ≠ .channel || !validUserId channel.relatedId then .fail .internal
  else
    let chatId ← read (client.getDirectMessagesChatId · channel.relatedId) tdError
    if !validInt53 chatId then .fail (.notFound selector none)
    else resolveLinked client selector chatId none none .directMessagesChat none

/-- The Saved Messages chat is cached by the run. -/
def cacheSavedMessages (chat : TdChat) : Resolve σ Unit := fun run =>
  some (.ok (), { run with savedMessagesChat := some chat })

def resolveSavedMessagesLink : Resolve σ ResolveResult := do
  requireUser
  let chat ← fun run => read (client.createPrivateChat · run.me.id) tdError run
  if !validInt53 chat.id then .fail .internal
  else
    let materialized ← identity client chat true
    cacheSavedMessages chat
    pure { chat := materialized, linkType := some .savedMessages, observedChat := some chat }

def resolveLink (link : Bytes) : Resolve σ ResolveResult := do
  let target ← read (client.getInternalLinkType · link) tdError
  match target with
  | .publicChat username =>
    resolvePublicUsername client selector username (some .publicChat) false
  | .botStart username => resolvePublicUsername client selector username (some .botStart) true
  | .message url => resolveMessageLink client selector url
  | .chatInvite url => resolveInviteLink client selector url
  | .directMessagesChat username => resolveDirectMessagesLink client selector username
  | .savedMessages => resolveSavedMessagesLink client
  | .unsupported => .fail (.usage "selector" .unsupportedLinkType)

/-! ## §9. `resolve_chat`. -/

/-- `resolve`, in the dialogs scope. -/
def resolve (fuel : Nat) : ClassifiedSelector → Resolve σ ResolveResult
  | .numeric chatId => resolveNumeric client selector chatId
  | .username value => resolvePublicUsername client selector value none false
  | .link value => resolveLink client selector value
  | .title value => do
      requireUser
      resolveTitle client selector fuel value .activeDialogs

def resolveLocal (fuel : Nat) : LocalSelector → Resolve σ ResolveResult
  | .numeric chatId => resolveNumeric client selector chatId
  | .username value => resolveLocalUsername client selector fuel value none false
  | .publicChatLink username =>
    resolveLocalUsername client selector fuel username (some .publicChat) false
  | .botStartLink username =>
    resolveLocalUsername client selector fuel username (some .botStart) true
  | .messageLink | .chatInviteLink | .directMessagesChatLink _ =>
    .fail (.notFound selector (some .localMaterialized))
  | .invalidLink => .fail (.usage "selector" .invalidArgument)
  | .unsupportedLink => .fail (.usage "selector" .unsupportedLinkType)
  | .title value => do
      requireUser
      resolveTitle client selector fuel value .localMaterialized

structure ResolvedChatTarget where
  principal : ResolverPrincipal
  chat : ChatIdentity
  observedChat : Option TdChat
  contextualMessageId : Option Int
  contextualTopic : Option TdTopic
  linkType : Option ResolvedLinkType
  isPublic : Option Bool
  privateUserId : Option Int
  privateUserPresence : Option TdUserPresence
  observedUser : Option TdUserSummary
  observedSupergroup : Option TdSupergroup
deriving DecidableEq, Repr

/-- The target of a result, with the facts of the chat materialized last. -/
def ResolveResult.target (result : ResolveResult) (run : ResolverRun σ) : ResolvedChatTarget where
  principal := run.principal
  chat := result.chat
  observedChat := result.observedChat
  contextualMessageId := result.messageId
  contextualTopic := result.topic
  linkType := result.linkType
  isPublic := result.isPublic
  privateUserId := run.last.privateUserId
  privateUserPresence := run.last.privateUserPresence
  observedUser := run.last.observedUser
  observedSupergroup := run.last.observedSupergroup

/-- `materialize_result`. -/
def materializeResult (result : ResolveResult) : Resolve σ ResolvedChatTarget := fun run =>
  if result.topic.any (!validTopic ·) then some (.error .internal, run)
  else some (.ok (result.target run), run)

end

def resolveChat (client : ResolverClient σ) (fuel : Nat) (selector : Bytes)
    (scope : ResolverScope) : Resolve σ ResolvedChatTarget :=
  match scope with
  | .localMaterialized =>
    match classifyLocalSelector selector with
    | none => .fail (.usage "selector" .invalidArgument)
    | some classified => do materializeResult (← resolveLocal client selector fuel classified)
  | .activeDialogs =>
    match classifySelector selector with
    | none => .fail (.usage "selector" .invalidArgument)
    | some classified => do materializeResult (← resolve client selector fuel classified)

end TgCli.Resolver
