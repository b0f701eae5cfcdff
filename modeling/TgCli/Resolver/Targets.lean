/-
  TgCli.Resolver.Targets — WHEN SELECTORS ARE INTERCHANGEABLE

  A target resolved by a username, a link or a title is meant to be the target
  its decimal id gives, up to the context a link carries.  It is, for every
  selector that is resolved without a dialog scan (`Observed`); a scan leaves
  out the observed chat, and the local username scan also keeps the facts of
  the chat it materialized last (`scanned`).

  Main result: `resolveChat_interchangeable_iff`.
-/
import TgCli.Resolver.Resolve

namespace TgCli.Resolver

open Tdlib ChatList

variable {σ α β : Type}

/-! ## §1. Steps that succeed. -/

variable {run run' : ResolverRun σ} {b : α}

/-- A sequence succeeds when both steps do. -/
theorem bind_ok {x : Resolve σ α} {f : α → Resolve σ β} {run'' : ResolverRun σ} {b : β} :
    (x >>= f) run = some (.ok b, run'')
      ↔ ∃ a run', x run = some (.ok a, run') ∧ f a run' = some (.ok b, run'') := by
  show Resolve.bind x f run = _ ↔ _
  unfold Resolve.bind
  constructor
  · intro h
    split at h
    · cases h
    · cases h
    · next a run' hx => exact ⟨a, run', hx, h⟩
  · rintro ⟨a, run', hx, hf⟩
    rw [hx]
    exact hf

theorem pure_ok : (pure a : Resolve σ α) run = some (.ok b, run') ↔ a = b ∧ run = run' := by
  show some (Except.ok a, run) = some (.ok b, run') ↔ _
  simp

theorem fail_ok {failure : ResolverFailure} :
    ¬ (Resolve.fail failure : Resolve σ α) run = some (.ok b, run') := by
  intro h
  cases h

/-- A guarded step succeeds past its guard. -/
theorem guard_ok {c : Prop} [Decidable c] {failure : ResolverFailure} {x : Resolve σ α}
    (h : (if c then .fail failure else x : Resolve σ α) run = some (.ok b, run')) :
    ¬ c ∧ x run = some (.ok b, run') := by
  by_cases hc : c
  · rw [if_pos hc] at h
    exact absurd h fail_ok
  · rw [if_neg hc] at h
    exact ⟨hc, h⟩

theorem read_ok {request : σ → Response α} {onError : TdError → ResolverFailure} :
    read request onError run = some (.ok a, run') ↔ request run.td = .value a ∧ run' = run := by
  unfold read
  cases request run.td <;> simp [eq_comm]

theorem requireUser_ok (h : requireUser run = some (.ok u, run')) : run' = run := by
  unfold requireUser at h
  split at h
  · cases h
  injection h with h
  injection h with _ h
  exact h.symm

section

variable {client : ResolverClient σ} {selector : Bytes} {run run' : ResolverRun σ}

variable {chatId : Int} {chat : TdChat} {result : ResolveResult} {fuel : Nat}

theorem getChat_ok : getChat client selector chatId domainScan run = some (.ok chat, run')
      ↔ client.getChat run.td chatId = .value chat ∧ chat.id = chatId
        ∧ validInt53 chat.id ∧ run' = run := by
  unfold getChat
  rw [bind_ok]
  constructor
  · rintro ⟨found, run1, hread, hrest⟩
    obtain ⟨hvalue, rfl⟩ := read_ok.mp hread
    obtain ⟨hguard, hpure⟩ := guard_ok hrest
    obtain ⟨rfl, rfl⟩ := pure_ok.mp hpure
    simp only [Bool.or_eq_true, bne_iff_ne, ne_eq, Bool.not_eq_true', not_or, Decidable.not_not,
      Bool.not_eq_false] at hguard
    exact ⟨hvalue, hguard.1, hguard.2, rfl⟩
  · rintro ⟨hvalue, hid, hval, rfl⟩
    refine ⟨chat, run', read_ok.mpr ⟨hvalue, rfl⟩, ?_⟩
    have hguard : ¬ (chat.id != chatId || !validInt53 chat.id) := by
      rw [hval]
      simp [hid]
    rw [if_neg hguard]
    exact pure_ok.mpr ⟨rfl, rfl⟩

theorem identity_ok : identity client chat rejectSecret run = some (.ok chatIdentity, run')
      ↔ ∃ facts, materializeChatIdentity client.toTdClient run.td chat = .success facts
        ∧ chatIdentity = facts.identity ∧ run' = { run with last := .ofChat facts } := by
  unfold identity
  cases hm : materializeChatIdentity client.toTdClient run.td chat <;> simp [hm, eq_comm]

/-- An identity carries the id of its chat. -/
theorem materializeChatIdentity_id {client : TdClient σ} {s : σ} {facts : ChatFacts}
    (h : materializeChatIdentity client s chat = .success facts) : facts.identity.id = chat.id := by
  unfold materializeChatIdentity at h
  repeat' first
    | split at h
    | cases h
  all_goals rfl

/-! ## §2. Targets with their chat observed. -/

/-- **The result of a direct resolution**: its chat is one TDLib answers for
under its id, and the facts kept are the facts of that chat. -/
structure Observed (client : ResolverClient σ) (run : ResolverRun σ) (result : ResolveResult)
    (run' : ResolverRun σ) (chat : TdChat) (facts : ChatFacts) : Prop where
  answered : client.getChat run.td chat.id = .value chat
  valid : validInt53 chat.id = true
  materialized : materializeChatIdentity client.toTdClient run.td chat = .success facts
  named : result.chat = facts.identity
  observed : result.observedChat = some chat
  last : run'.last = .ofChat facts
  principal : run'.principal = run.principal

/-- **What TDLib answers is one account**: a chat it found by username or
created for a user is the chat it answers for under that chat's id. -/
structure Consistent (client : ResolverClient σ) (s : σ) : Prop where
  searched : ∀ username chat, client.searchPublicChat s username = .value chat →
    client.getChat s chat.id = .value chat
  created : ∀ userId chat, client.createPrivateChat s userId = .value chat →
    client.getChat s chat.id = .value chat

theorem resolveNumeric_ok : resolveNumeric client selector chatId run = some (.ok result, run')
      ↔ ∃ chat facts, client.getChat run.td chatId = .value chat ∧ chat.id = chatId
        ∧ validInt53 chat.id
        ∧ materializeChatIdentity client.toTdClient run.td chat = .success facts
        ∧ result = { chat := facts.identity, observedChat := some chat }
        ∧ run' = { run with last := .ofChat facts } := by
  unfold resolveNumeric
  simp only [bind_ok, getChat_ok, identity_ok, pure_ok]
  constructor
  · rintro ⟨chat, _, ⟨hvalue, hid, hval, rfl⟩, _, _, ⟨facts, hm, rfl, rfl⟩, rfl, rfl⟩
    exact ⟨chat, facts, hvalue, hid, hval, hm, rfl, rfl⟩
  · rintro ⟨chat, facts, hvalue, hid, hval, hm, rfl, rfl⟩
    exact ⟨chat, run, ⟨hvalue, hid, hval, rfl⟩, _, _, ⟨facts, hm, rfl, rfl⟩, rfl, rfl⟩

theorem resolveNumeric_observed
    (h : resolveNumeric client selector chatId run = some (.ok result, run')) :
    ∃ chat facts, Observed client run result run' chat facts := by
  obtain ⟨chat, facts, hvalue, hid, hval, hm, rfl, rfl⟩ := resolveNumeric_ok.mp h
  exact ⟨chat, facts, ⟨hid.symm ▸ hvalue, hval, hm, rfl, rfl, rfl, rfl⟩⟩

theorem resolveLinked_observed {messageId : Option Int} {topic : Option TdTopic}
    {linkType : ResolvedLinkType} {isPublic : Option Bool}
    (h : resolveLinked client selector chatId messageId topic linkType isPublic run
      = some (.ok result, run')) : ∃ chat facts, Observed client run result run' chat facts := by
  unfold resolveLinked at h
  simp only [bind_ok, getChat_ok, identity_ok, pure_ok] at h
  obtain ⟨chat, _, ⟨hvalue, hid, hval, rfl⟩, _, _, ⟨facts, hm, rfl, rfl⟩, rfl, rfl⟩ := h
  exact ⟨chat, facts, ⟨hid.symm ▸ hvalue, hval, hm, rfl, rfl, rfl, rfl⟩⟩

theorem resolvePublicUsername_observed (hc : Consistent client run.td)
    (h : resolvePublicUsername client selector username linkType requireBot run
      = some (.ok result, run')) : ∃ chat facts, Observed client run result run' chat facts := by
  obtain ⟨chat, _, hread, h1⟩ := bind_ok.mp h
  obtain ⟨hvalue, hsame⟩ := read_ok.mp hread
  rw [hsame] at h1
  obtain ⟨hguard, h2⟩ := guard_ok h1
  obtain ⟨_, _, hidentity, h3⟩ := bind_ok.mp h2
  obtain ⟨facts, hm, rfl, rfl⟩ := identity_ok.mp hidentity
  obtain ⟨_, h4⟩ := guard_ok h3
  obtain ⟨rfl, rfl⟩ := pure_ok.mp h4
  exact ⟨chat, facts, ⟨hc.searched username chat hvalue, by simpa using hguard, hm, rfl, rfl, rfl,
    rfl⟩⟩

theorem resolveSavedMessagesLink_observed (hc : Consistent client run.td)
    (h : resolveSavedMessagesLink client run = some (.ok result, run')) :
    ∃ chat facts, Observed client run result run' chat facts := by
  obtain ⟨_, _, huser, h1⟩ := bind_ok.mp h
  rw [requireUser_ok huser] at h1
  obtain ⟨chat, _, hread, h2⟩ := bind_ok.mp h1
  obtain ⟨hvalue, hsame⟩ := read_ok.mp hread
  rw [hsame] at h2
  obtain ⟨hguard, h3⟩ := guard_ok h2
  obtain ⟨_, _, hidentity, h4⟩ := bind_ok.mp h3
  obtain ⟨facts, hm, rfl, rfl⟩ := identity_ok.mp hidentity
  obtain ⟨_, _, hcache, h5⟩ := bind_ok.mp h4
  obtain ⟨rfl, rfl⟩ := pure_ok.mp h5
  injection hcache with hcache
  injection hcache with _ hcache
  subst hcache
  exact ⟨chat, facts, ⟨hc.created _ chat hvalue, by simpa using hguard, hm, rfl, rfl, rfl, rfl⟩⟩

/-- **Every link that resolves resolves to an observed chat.** -/
theorem resolveLink_observed (hc : Consistent client run.td)
    (h : resolveLink client selector link run = some (.ok result, run')) :
    ∃ chat facts, Observed client run result run' chat facts := by
  obtain ⟨target, _, hread, h1⟩ := bind_ok.mp h
  rw [(read_ok.mp hread).2] at h1
  cases target with
  | publicChat username | botStart username => exact resolvePublicUsername_observed hc h1
  | message url =>
    obtain ⟨info, _, hinfo, h2⟩ := bind_ok.mp h1
    rw [(read_ok.mp hinfo).2] at h2
    exact resolveLinked_observed (guard_ok h2).2
  | chatInvite url =>
    obtain ⟨_, _, huser, h2⟩ := bind_ok.mp h1
    rw [requireUser_ok huser] at h2
    obtain ⟨info, _, hinfo, h3⟩ := bind_ok.mp h2
    rw [(read_ok.mp hinfo).2] at h3
    exact resolveLinked_observed (guard_ok h3).2
  | directMessagesChat username =>
    obtain ⟨_, _, huser, h2⟩ := bind_ok.mp h1
    rw [requireUser_ok huser] at h2
    obtain ⟨channel, _, hchannel, h3⟩ := bind_ok.mp h2
    rw [(read_ok.mp hchannel).2] at h3
    obtain ⟨chatId, _, hfull, h4⟩ := bind_ok.mp (guard_ok h3).2
    rw [(read_ok.mp hfull).2] at h4
    exact resolveLinked_observed (guard_ok h4).2
  | savedMessages => exact resolveSavedMessagesLink_observed hc h1
  | unsupported => exact absurd h1 fail_ok

/-! ## §3. Targets of a dialog scan. -/

/-- **A title scan leaves the observed chat out.** -/
theorem resolveMaterialized_unobserved {predicate : TdChat → Bool}
    (h : resolveMaterialized client selector fuel predicate scope run = some (.ok result, run')) :
    result.observedChat = none := by
  obtain ⟨ids, run1, _, h1⟩ := bind_ok.mp h
  obtain ⟨⟨count, candidates⟩, run2, _, h2⟩ := bind_ok.mp h1
  dsimp only at h2
  split at h2
  · exact absurd h2 fail_ok
  · obtain ⟨rfl, _⟩ := pure_ok.mp h2
    rfl
  · exact absurd h2 fail_ok

/-- **So does a local username scan.** -/
theorem resolveLocalUsername_unobserved (h : resolveLocalUsername client selector fuel username linkType botOnly run
      = some (.ok result, run')) : result.observedChat = none := by
  obtain ⟨ids, run1, _, h1⟩ := bind_ok.mp h
  obtain ⟨found, run2, _, h2⟩ := bind_ok.mp h1
  split at h2
  · exact absurd h2 fail_ok
  · obtain ⟨rfl, _⟩ := pure_ok.mp h2
    rfl
  · exact absurd h2 fail_ok

/-- **The selectors that are resolved by a dialog scan**: title substrings, and
in the local scope also usernames, public chat links and bot links. -/
def scanned (selector : Bytes) (scope : ResolverScope) : Bool :=
  match scope with
  | .activeDialogs =>
    match classifySelector selector with
    | some (.title _) => true
    | _ => false
  | .localMaterialized =>
    match classifyLocalSelector selector with
    | some (.title _) | some (.username _) | some (.publicChatLink _)
    | some (.botStartLink _) => true
    | _ => false

/-- What a target is, whichever way it was resolved. -/
theorem resolveChat_cases (hc : Consistent client run.td) {scope : ResolverScope}
    {target : ResolvedChatTarget}
    (h : resolveChat client fuel selector scope run = some (.ok target, run')) :
    ∃ result run1, materializeResult result run1 = some (.ok target, run')
      ∧ (scanned selector scope ∧ result.observedChat = none ∨ scanned selector scope = false
          ∧ ∃ chat facts, Observed client run result run1 chat facts) := by
  cases scope with
  | activeDialogs =>
    simp only [resolveChat] at h
    simp only [scanned]
    cases hclass : classifySelector selector with
    | none =>
      rw [hclass] at h
      exact absurd h fail_ok
    | some classified =>
      rw [hclass] at h
      obtain ⟨result, run1, hrsv, hres⟩ := bind_ok.mp h
      refine ⟨result, run1, hres, ?_⟩
      cases classified with
      | numeric chatId => exact .inr ⟨rfl, resolveNumeric_observed hrsv⟩
      | username value => exact .inr ⟨rfl, resolvePublicUsername_observed hc hrsv⟩
      | link value => exact .inr ⟨rfl, resolveLink_observed hc hrsv⟩
      | title value =>
        obtain ⟨_, _, _, hscan⟩ := bind_ok.mp hrsv
        exact .inl ⟨rfl, resolveMaterialized_unobserved hscan⟩
  | localMaterialized =>
    simp only [resolveChat] at h
    simp only [scanned]
    cases hclass : classifyLocalSelector selector with
    | none =>
      rw [hclass] at h
      exact absurd h fail_ok
    | some classified =>
      rw [hclass] at h
      obtain ⟨result, run1, hrsv, hres⟩ := bind_ok.mp h
      refine ⟨result, run1, hres, ?_⟩
      cases classified with
      | numeric chatId => exact .inr ⟨rfl, resolveNumeric_observed hrsv⟩
      | username value | publicChatLink username | botStartLink username =>
        exact .inl ⟨rfl, resolveLocalUsername_unobserved hrsv⟩
      | messageLink | chatInviteLink | directMessagesChatLink _ | invalidLink
      | unsupportedLink => exact absurd hrsv fail_ok
      | title value =>
        obtain ⟨_, _, _, hscan⟩ := bind_ok.mp hrsv
        exact .inl ⟨rfl, resolveMaterialized_unobserved hscan⟩

/-- The target of a decimal id. -/
def decimalTarget (principal : ResolverPrincipal) (chat : TdChat) (facts : ChatFacts) :
    ResolvedChatTarget where
  principal := principal
  chat := facts.identity
  observedChat := some chat
  contextualMessageId := none
  contextualTopic := none
  linkType := none
  isPublic := none
  privateUserId := facts.privateUserId
  privateUserPresence := facts.privateUserPresence
  observedUser := facts.observedUser
  observedSupergroup := facts.observedSupergroup

theorem resolveChat_decimal (fuel : Nat) (scope : ResolverScope)
    (hvalue : client.getChat run.td chat.id = .value chat) (hval : validInt53 chat.id)
    (hm : materializeChatIdentity client.toTdClient run.td chat = .success facts) :
    ∃ run'', resolveChat client fuel (decimalText chat.id) scope run
      = some (.ok (decimalTarget run.principal chat facts), run'') := by
  have hnumeric : resolveNumeric client (decimalText chat.id) chat.id run
      = some (.ok { chat := facts.identity, observedChat := some chat },
          { run with last := .ofChat facts }) :=
    resolveNumeric_ok.mpr ⟨chat, facts, hvalue, rfl, hval, hm, rfl, rfl⟩
  refine ⟨{ run with last := .ofChat facts }, ?_⟩
  cases scope with
  | activeDialogs =>
    simp only [resolveChat, classifySelector_decimalText hval]
    exact bind_ok.mpr ⟨_, _, hnumeric, rfl⟩
  | localMaterialized =>
    simp only [resolveChat, classifyLocalSelector_decimalText hval]
    exact bind_ok.mpr ⟨_, _, hnumeric, rfl⟩

end

/-! ## §4. The commands that admit a target. -/

/-- How a command goes on with a resolved target. -/
inductive Admission where
  | accepted
  | unsupportedChatType
  | internal
  /-- the command returns without an answer -/
  | silent
deriving DecidableEq, Repr

/-- The check that `search` and `download` make, and `chat info` makes first. -/
def supportedChat (target : ResolvedChatTarget) : Bool :=
  match target.observedChat with
  | none => false
  | some chat => chat.kind != .secret && chat.kind != .unknown

def searchAdmission (target : ResolvedChatTarget) : Admission :=
  if supportedChat target then .accepted else .unsupportedChatType

def downloadAdmission (target : ResolvedChatTarget) : Admission :=
  if supportedChat target then .accepted else .unsupportedChatType

/-- `valid_user` of `m2_read_commands.cpp`. -/
def validUser (user : TdUserSummary) (expectedId : Int) : Bool :=
  user.id == expectedId && validUserId user.id && validUtf8 user.firstName
    && validUtf8 user.lastName
    && user.usernames.all fun username => !username.isEmpty && validUtf8 username

/-- The companion facts `chat info` needs for each kind of chat. -/
def chatInfoFacts (target : ResolvedChatTarget) (chat : TdChat) : Bool :=
  match chat.kind with
  | .privateChat =>
    match target.observedUser, target.privateUserId with
    | some user, some userId => user.id == userId && validUser user userId
    | _, _ => false
  | .basicGroup => true
  | .supergroup | .channel =>
    match target.observedSupergroup with
    | none => false
    | some group =>
      group.id == chat.relatedId && group.isChannel == (chat.kind == .channel)
        && !(chat.kind == .channel && group.isForum)
  | .secret | .unknown => false

def chatInfoAdmission (target : ResolvedChatTarget) : Admission :=
  match target.observedChat with
  | none => .unsupportedChatType
  | some chat =>
    if chat.kind = .secret ∨ chat.kind = .unknown then .unsupportedChatType
    else
      match materializeChatSummary chat target.chat with
      | none => .internal
      | some summary =>
        if summary.identity.usernames.length > 100 ∨ summary.folderIds.length > 100 then
          .internal
        else if chatInfoFacts target chat then .accepted
        else .internal

/-- `chat_members`: a target without its chat ends the command silently. -/
def chatMembersAdmission (target : ResolvedChatTarget) : Admission :=
  match target.observedChat with
  | none => .silent
  | some chat =>
    match chat.kind with
    | .basicGroup | .supergroup | .channel =>
      if chat.relatedId ≤ 0 ∨ chat.relatedId > kMaximumInt53 then .internal else .accepted
    | .privateChat | .secret | .unknown => .unsupportedChatType

/-- What a stream keeps of a chat selector: the id it filters on and, when it
is the only one, the chat whose members `--from` may name. -/
def streamSetupChat (selectorCount : Nat) (target : ResolvedChatTarget) : Int × Option TdChat :=
  (target.chat.id, if selectorCount = 1 then target.observedChat else none)

/-- The target without the context of its link. -/
def ResolvedChatTarget.withoutLink (target : ResolvedChatTarget) : ResolvedChatTarget :=
  { target with
    contextualMessageId := none
    contextualTopic := none
    linkType := none
    isPublic := none }

/-- **Two targets the five commands treat alike.** -/
structure SameAdmissions (target other : ResolvedChatTarget) : Prop where
  search : searchAdmission target = searchAdmission other
  download : downloadAdmission target = downloadAdmission other
  chatInfo : chatInfoAdmission target = chatInfoAdmission other
  chatMembers : chatMembersAdmission target = chatMembersAdmission other
  streamSetup : ∀ count, streamSetupChat count target = streamSetupChat count other

/-- No command reads the context of the link. -/
theorem SameAdmissions.withoutLink (target : ResolvedChatTarget) :
    SameAdmissions target target.withoutLink :=
  ⟨rfl, rfl, rfl, rfl, fun _ => rfl⟩

/-- Targets that differ in the context of their links only are treated alike. -/
theorem SameAdmissions.of_withoutLink {target other : ResolvedChatTarget}
    (h : target.withoutLink = other.withoutLink) : SameAdmissions target other := by
  have left := SameAdmissions.withoutLink target
  have right := SameAdmissions.withoutLink other
  rw [h] at left
  exact ⟨left.search.trans right.search.symm, left.download.trans right.download.symm,
    left.chatInfo.trans right.chatInfo.symm, left.chatMembers.trans right.chatMembers.symm,
    fun count => (left.streamSetup count).trans (right.streamSetup count).symm⟩

/-- **A target without its chat is refused by every command that reads the
chat**: `chat members` even ends without an answer. -/
theorem unobserved_refused {target : ResolvedChatTarget} (h : target.observedChat = none) :
    searchAdmission target = .unsupportedChatType ∧ downloadAdmission target = .unsupportedChatType
      ∧ chatInfoAdmission target = .unsupportedChatType
      ∧ chatMembersAdmission target = .silent := by
  simp [searchAdmission, downloadAdmission, supportedChat, chatInfoAdmission,
    chatMembersAdmission, h]

/-! ## §5. Interchangeable selectors. -/

/-- **The decimal id of the target's chat resolves to the same target**, up to
the context of the link, with its chat observed, and the commands treat both
alike. -/
def Interchangeable (client : ResolverClient σ) (fuel : Nat) (scope : ResolverScope)
    (run : ResolverRun σ) (target : ResolvedChatTarget) : Prop :=
  ∃ byId run'', resolveChat client fuel (decimalText target.chat.id) scope run
      = some (.ok byId, run'')
    ∧ target.withoutLink = byId.withoutLink
    ∧ (∃ chat, target.observedChat = some chat ∧ chat.id = target.chat.id
        ∧ client.getChat run.td target.chat.id = .value chat)
    ∧ SameAdmissions target byId

section

variable {client : ResolverClient σ} {selector : Bytes} {run run' : ResolverRun σ}

variable {target : ResolvedChatTarget}

theorem materializeResult_ok (h : materializeResult result run = some (.ok target, run')) :
    target = result.target run := by
  unfold materializeResult at h
  split at h
  · cases h
  injection h with h
  injection h with h _
  injection h with h
  exact h.symm

/-- An observed result gives an interchangeable target. -/
theorem Observed.interchangeable {fuel : Nat} {scope : ResolverScope} {result : ResolveResult}
    {chat : TdChat} {facts : ChatFacts} {run1 : ResolverRun σ}
    (ho : Observed client run result run1 chat facts)
    (h : materializeResult result run1 = some (.ok target, run')) :
    Interchangeable client fuel scope run target := by
  have htgt := materializeResult_ok h
  have hid : target.chat.id = chat.id := by
    rw [htgt]
    show result.chat.id = chat.id
    rw [ho.named]
    exact materializeChatIdentity_id ho.materialized
  obtain ⟨run'', hdec⟩ := resolveChat_decimal fuel scope ho.answered ho.valid ho.materialized
  have hsame : target.withoutLink = (decimalTarget run.principal chat facts).withoutLink := by
    rw [htgt]
    simp only [ResolvedChatTarget.withoutLink, ResolveResult.target, ho.named, ho.observed,
      ho.last, ho.principal, LastFacts.ofChat, decimalTarget]
  have hobserved : target.observedChat = some chat := by
    rw [htgt]
    exact ho.observed
  unfold Interchangeable
  rw [hid]
  exact ⟨_, run'', hdec, hsame, ⟨chat, hobserved, rfl, ho.answered⟩, .of_withoutLink hsame⟩

/-- A target without its chat is not interchangeable. -/
theorem not_interchangeable_of_unobserved
    (h : target.observedChat = none) : ¬ Interchangeable client fuel scope run target := by
  rintro ⟨_, _, _, _, ⟨chat, hchat, _⟩, _⟩
  rw [h] at hchat
  cases hchat

/-- **A selector is interchangeable with the id of its chat exactly when it is
not resolved by a dialog scan.** -/
theorem resolveChat_interchangeable_iff {fuel : Nat} {scope : ResolverScope}
    {target : ResolvedChatTarget} (hc : Consistent client run.td)
    (h : resolveChat client fuel selector scope run = some (.ok target, run')) :
    Interchangeable client fuel scope run target ↔ scanned selector scope = false := by
  obtain ⟨result, run₁, hres, ⟨hscan, hnone⟩ | ⟨hscan, chat, facts, ho⟩⟩ :=
    resolveChat_cases hc h
  · have hunobserved : target.observedChat = none := by
      rw [materializeResult_ok hres]
      exact hnone
    constructor
    · intro hsame
      exact absurd hsame (not_interchangeable_of_unobserved hunobserved)
    · intro hfalse
      rw [hscan] at hfalse
      cases hfalse
  · constructor
    · intro _
      exact hscan
    · intro _
      exact ho.interchangeable hres

end

/-- A user account with two dialogs: the private chat with `@ada` (42) and,
below it, the basic group "team" (-9). -/
def twoDialogs : ResolverClient Unit where
  ready := fun _ => true
  getMe := fun _ => .value { id := 1 }
  getChat := fun _ chatId =>
    if chatId = 42 then .value { id := 42, title := ascii "Ada", kind := .privateChat, relatedId := 42 }
    else if chatId = -9 then
      .value { id := -9, title := ascii "team", kind := .basicGroup, relatedId := 9 }
    else .error { code := 404 }
  getUser := fun _ userId =>
    if userId = 42 then .value { id := 42, firstName := ascii "Ada", usernames := [ascii "ada"] }
    else .error { code := 404 }
  getSupergroup := fun _ _ => .error { code := 404 }
  getChats := fun _ list _ => .value (if list.kind = .main then [42, -9] else [])
  loadChats := fun _ _ _ => (.error { code := 404 }, ())
  searchPublicChat := fun _ username =>
    if username = ascii "ada" then
      .value { id := 42, title := ascii "Ada", kind := .privateChat, relatedId := 42 }
    else .error { code := 400, message := ascii "USERNAME_NOT_OCCUPIED" }
  getInternalLinkType := fun _ _ => .value .unsupported
  getMessageLinkInfo := fun _ _ => .error { code := 404 }
  checkChatInviteLink := fun _ _ => .error { code := 404 }
  getDirectMessagesChatId := fun _ _ => .error { code := 404 }
  createPrivateChat := fun _ _ => .error { code := 404 }

def twoDialogsRun : ResolverRun Unit where
  td := ()
  me := { id := 1 }
  principal := { id := 1, isBot := false, clientId := 1, clientGeneration := 1, authSequence := 1 }

theorem twoDialogs_consistent : Consistent twoDialogs () where
  searched := by
    intro username chat h
    simp only [twoDialogs] at h
    split at h
    · cases h
      rfl
    · cases h
  created := by
    intro userId chat h
    cases h

/-- `p` holds of the target a selector of the two dialogs resolves to. -/
def twoDialogsResolve (selector : Bytes) (scope : ResolverScope) (p : ResolvedChatTarget → Bool) :
    Bool :=
  match resolveChat twoDialogs 10 selector scope twoDialogsRun with
  | some (.ok target, _) => p target
  | _ => false

theorem twoDialogsResolve_ok
    {p : ResolvedChatTarget → Bool} (h : twoDialogsResolve selector scope p) :
    ∃ target run', resolveChat twoDialogs 10 selector scope twoDialogsRun = some (.ok target, run')
      ∧ p target := by
  unfold twoDialogsResolve at h
  split at h
  · next target run' hrsv => exact ⟨target, run', hrsv, h⟩
  · cases h

theorem resolveChat_interchangeable_iff_ada :
    ∃ target run', resolveChat twoDialogs 10 (ascii "@ada") .activeDialogs twoDialogsRun
        = some (.ok target, run')
      ∧ (Interchangeable twoDialogs 10 .activeDialogs twoDialogsRun target
        ↔ scanned (ascii "@ada") .activeDialogs = false) := by
  have hsome : twoDialogsResolve (ascii "@ada") .activeDialogs (fun _ => true) := by
    decide +kernel
  obtain ⟨target, run', hrsv, _⟩ := twoDialogsResolve_ok hsome
  exact ⟨target, run', hrsv, resolveChat_interchangeable_iff twoDialogs_consistent hrsv⟩

/-- **A title and a local username that are not interchangeable with the id**:
`search` refuses the group by its title and takes it by its id, and the local
`@ada` carries no user, the group having been materialized last. -/
theorem scanned_not_interchangeable :
    (∃ target run', resolveChat twoDialogs 10 (ascii "team") .activeDialogs twoDialogsRun
        = some (.ok target, run')
      ∧ target.chat.id = -9 ∧ searchAdmission target = .unsupportedChatType
      ∧ ¬ Interchangeable twoDialogs 10 .activeDialogs twoDialogsRun target)
    ∧ (∃ target run', resolveChat twoDialogs 10 (ascii "-9") .activeDialogs twoDialogsRun
        = some (.ok target, run')
      ∧ target.chat.id = -9 ∧ searchAdmission target = .accepted)
    ∧ ∃ target run', resolveChat twoDialogs 10 (ascii "@ada") .localMaterialized twoDialogsRun
        = some (.ok target, run')
      ∧ target.chat.id = 42 ∧ target.privateUserId = none
      ∧ ¬ Interchangeable twoDialogs 10 .localMaterialized twoDialogsRun target := by
  have hteam : twoDialogsResolve (ascii "team") .activeDialogs (fun target =>
      target.chat.id = -9 ∧ target.observedChat = none) := by decide +kernel
  have hid : twoDialogsResolve (ascii "-9") .activeDialogs (fun target =>
      target.chat.id = -9 ∧ searchAdmission target = .accepted) := by decide +kernel
  have hada : twoDialogsResolve (ascii "@ada") .localMaterialized (fun target =>
      target.chat.id = 42 ∧ target.privateUserId = none ∧ target.observedChat = none) := by
    decide +kernel
  obtain ⟨team, teamRun, hteam, hteamFacts⟩ := twoDialogsResolve_ok hteam
  obtain ⟨byId, byIdRun, hid, hidFacts⟩ := twoDialogsResolve_ok hid
  obtain ⟨ada, adaRun, hada, hadaFacts⟩ := twoDialogsResolve_ok hada
  rw [decide_eq_true_eq] at hteamFacts hidFacts hadaFacts
  refine ⟨⟨team, teamRun, hteam, hteamFacts.1, ?_, ?_⟩, ⟨byId, byIdRun, hid, hidFacts⟩,
    ⟨ada, adaRun, hada, hadaFacts.1, hadaFacts.2.1, ?_⟩⟩
  · exact (unobserved_refused hteamFacts.2).1
  · exact not_interchangeable_of_unobserved hteamFacts.2
  · exact not_interchangeable_of_unobserved hadaFacts.2.2

end TgCli.Resolver
