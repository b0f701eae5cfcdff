/-
  TgCli.Proto.Admission — THE OPERATIONS, AND WHO ADMITS A COMMAND

  The operation tables of proto/operation.hpp.  A command is a list of words; a path is
  the words with spaces between them.  `command_matches` compares a command with a path
  word by word, the lookups by path compare the whole text.

  A request is looked at twice.  The frame layer (proto/frame.cpp) recognises its
  operation by the words of the command, for the idempotency key and for the secrets it
  wipes; the dispatcher (daemon/dispatch.cpp) runs the command registered under the path
  the words are joined to.

  The facts a request is admitted with and the wiping of its memory are left out; a
  timeout is the rational a finite `double` stands for.

  The two disagree in two ways.  The frame layer knows the keys of the M3 operations only,
  so it refuses every key of an M6 operation the dispatcher would take.  And different
  words are joined to the same path (a word with a space in it, an empty first word): such
  a command runs, but the frame layer does not recognise it.

  Main results:
    * `commandMatches_iff` — a command matches a path if it is the list of its words;
    * `m3OperationForCommand_eq`, `m6OperationForCommand_eq` — the lookup by words is the
      lookup by path of a command that is spelled word by word;
    * `registered_sound` — what the table of a dispatcher says of a path;
    * `one_admission_iff` — the requests the two agree on.
-/
import TgCli.Lib.Folds
import TgCli.Lib.Json

namespace TgCli.Proto

open List Lib Option

/-! ## §1. The tables. -/

inductive M3Operation where
  | send | msgEdit | msgDelete | msgForward | msgReact | msgPin | msgUnpin | chatMarkRead
  | chatMute | chatUnmute | chatPin | chatUnpin | chatArchive | chatUnarchive | chatJoin
  | chatLeave | savedAttach
deriving DecidableEq, Repr

structure M3OperationIdentity where
  operation : M3Operation
  canonicalName : String
  commandPath : String
deriving DecidableEq, Repr

def kM3OperationIdentities : List M3OperationIdentity :=
  [⟨.send, "send", "send"⟩, ⟨.msgEdit, "msg_edit", "msg edit"⟩,
   ⟨.msgDelete, "msg_delete", "msg delete"⟩,
   ⟨.msgForward, "msg_forward", "msg forward"⟩,
   ⟨.msgReact, "msg_react", "msg react"⟩,
   ⟨.msgPin, "msg_pin", "msg pin"⟩,
   ⟨.msgUnpin, "msg_unpin", "msg unpin"⟩,
   ⟨.chatMarkRead, "chat_mark_read", "chat mark-read"⟩,
   ⟨.chatMute, "chat_mute", "chat mute"⟩,
   ⟨.chatUnmute, "chat_unmute", "chat unmute"⟩,
   ⟨.chatPin, "chat_pin", "chat pin"⟩,
   ⟨.chatUnpin, "chat_unpin", "chat unpin"⟩,
   ⟨.chatArchive, "chat_archive", "chat archive"⟩,
   ⟨.chatUnarchive, "chat_unarchive", "chat unarchive"⟩,
   ⟨.chatJoin, "chat_join", "chat join"⟩,
   ⟨.chatLeave, "chat_leave", "chat leave"⟩,
   ⟨.savedAttach, "saved_attach", "saved attach"⟩]

inductive M6Operation where
  | contactList | contactSearch | contactAdd | contactRemove | contactBlock | contactUnblock
  | folderList | folderShow | folderCreate | folderEdit | folderDelete | folderAddChat
  | folderRemoveChat | topicList | topicCreate | topicEdit | topicClose | topicReopen
  | chatSetTitle | chatSetPhoto | chatSetDescription | chatInviteLink | chatPromote | chatDemote
  | chatBan | chatUnban | chatKick | chatSetPermissions | storageStats | storageOptimize
deriving DecidableEq, Repr

inductive M6Tier where
  | read | write | destructive
deriving DecidableEq, Repr

structure M6OperationIdentity where
  operation : M6Operation
  canonicalName : String
  commandPath : String
  tier : M6Tier
  mutation : Bool
  idempotent : Bool
deriving DecidableEq, Repr

def kM6OperationIdentities : List M6OperationIdentity :=
  [⟨.contactList, "contact_list", "contact list", .read, false, false⟩,
   ⟨.contactSearch, "contact_search", "contact search", .read, false, false⟩,
   ⟨.contactAdd, "contact_add", "contact add", .write, true, true⟩,
   ⟨.contactRemove, "contact_remove", "contact remove", .write, true, true⟩,
   ⟨.contactBlock, "contact_block", "contact block", .write, true, true⟩,
   ⟨.contactUnblock, "contact_unblock", "contact unblock", .write, true, true⟩,
   ⟨.folderList, "folder_list", "folder list", .read, false, false⟩,
   ⟨.folderShow, "folder_show", "folder show", .read, false, false⟩,
   ⟨.folderCreate, "folder_create", "folder create", .write, true, true⟩,
   ⟨.folderEdit, "folder_edit", "folder edit", .write, true, true⟩,
   ⟨.folderDelete, "folder_delete", "folder delete", .destructive, true, true⟩,
   ⟨.folderAddChat, "folder_add_chat", "folder add-chat", .write, true, true⟩,
   ⟨.folderRemoveChat, "folder_remove_chat", "folder remove-chat", .write, true, true⟩,
   ⟨.topicList, "topic_list", "topic list", .read, false, false⟩,
   ⟨.topicCreate, "topic_create", "topic create", .write, true, true⟩,
   ⟨.topicEdit, "topic_edit", "topic edit", .write, true, true⟩,
   ⟨.topicClose, "topic_close", "topic close", .write, true, true⟩,
   ⟨.topicReopen, "topic_reopen", "topic reopen", .write, true, true⟩,
   ⟨.chatSetTitle, "chat_set_title", "chat set-title", .write, true, true⟩,
   ⟨.chatSetPhoto, "chat_set_photo", "chat set-photo", .write, true, true⟩,
   ⟨.chatSetDescription, "chat_set_description", "chat set-description", .write, true, true⟩,
   ⟨.chatInviteLink, "chat_invite_link", "chat invite-link", .destructive, true, false⟩,
   ⟨.chatPromote, "chat_promote", "chat promote", .write, true, true⟩,
   ⟨.chatDemote, "chat_demote", "chat demote", .write, true, true⟩,
   ⟨.chatBan, "chat_ban", "chat ban", .destructive, true, true⟩,
   ⟨.chatUnban, "chat_unban", "chat unban", .write, true, true⟩,
   ⟨.chatKick, "chat_kick", "chat kick", .destructive, true, true⟩,
   ⟨.chatSetPermissions, "chat_set_permissions", "chat set-permissions", .write, true, true⟩,
   ⟨.storageStats, "storage_stats", "storage stats", .read, false, false⟩,
   ⟨.storageOptimize, "storage_optimize", "storage optimize", .destructive, true, false⟩]

def m3OperationIdentity (operation : M3Operation) : Option M3OperationIdentity :=
  kM3OperationIdentities.find? (·.operation == operation)

def m6OperationIdentity (operation : M6Operation) : Option M6OperationIdentity :=
  kM6OperationIdentities.find? (·.operation == operation)

/-- `m3_operation_for_command` of a path. -/
def m3OperationForPath (commandPath : String) : Option M3Operation :=
  (kM3OperationIdentities.find? (·.commandPath == commandPath)).map (·.operation)

/-- `m6_operation_for_command` of a path. -/
def m6OperationForPath (commandPath : String) : Option M6Operation :=
  (kM6OperationIdentities.find? (·.commandPath == commandPath)).map (·.operation)

/-! ## §2. Words. -/

/-- The loop of `command_matches`: the words left and the path left. -/
def matchesPath : List String → List Char → Bool
  | [], path => path.isEmpty
  | word :: command, path =>
    if path.isEmpty then false
    else if word.toList ≠ path.takeWhile (· ≠ ' ') then false
    else
      match path.dropWhile (· ≠ ' ') with
      | [] => command.isEmpty
      | _ :: rest => matchesPath command rest

def commandMatches (command : List String) (commandPath : String) : Bool :=
  matchesPath command commandPath.toList

/-- `m3_operation_for_command` of a command. -/
def m3OperationForCommand (command : List String) : Option M3Operation :=
  (kM3OperationIdentities.find? (commandMatches command ·.commandPath)).map (·.operation)

/-- `m6_operation_for_command` of a command. -/
def m6OperationForCommand (command : List String) : Option M6Operation :=
  (kM6OperationIdentities.find? (commandMatches command ·.commandPath)).map (·.operation)

/-- The words of a path, at most `fuel` of them. -/
def wordsUpTo : (fuel : Nat) → List Char → List (List Char)
  | 0, _ => []
  | _ + 1, [] => []
  | fuel + 1, path =>
    path.takeWhile (· ≠ ' ')
      :: match path.dropWhile (· ≠ ' ') with
        | [] => []
        | _ :: rest => wordsUpTo fuel rest

/-- The words of a path. -/
def words (commandPath : String) : List (List Char) :=
  wordsUpTo commandPath.toList.length commandPath.toList

theorem matchesPath_iff (command : List String) :
    ∀ (fuel : Nat) (path : List Char), path.length ≤ fuel →
      (matchesPath command path ↔ command.map String.toList = wordsUpTo fuel path) := by
  induction command with
  | nil =>
    intro fuel path hlen
    cases path with
    | nil => cases fuel <;> simp [matchesPath, wordsUpTo]
    | cons c path =>
      obtain ⟨fuel, rfl⟩ := Nat.exists_eq_succ_of_ne_zero (Nat.ne_zero_of_lt hlen)
      simp [matchesPath, wordsUpTo]
  | cons word command ih =>
    intro fuel path hlen
    cases path with
    | nil => cases fuel <;> simp [matchesPath, wordsUpTo]
    | cons c path =>
      obtain ⟨fuel, rfl⟩ := Nat.exists_eq_succ_of_ne_zero (Nat.ne_zero_of_lt hlen)
      -- behind the separator there is less of the path
      have hsh : ∀ d rest, (c :: path).dropWhile (· ≠ ' ') = d :: rest →
          rest.length ≤ fuel := by
        intro d rest hdrop
        have hle := (@dropWhile_sublist _ (c :: path) (fun d => decide (d ≠ ' '))).length_le
        rw [hdrop] at hle
        simp only [length_cons] at hle hlen
        omega
      simp only [matchesPath, wordsUpTo, isEmpty_cons, Bool.false_eq_true, if_false,
        map_cons, List.cons.injEq]
      by_cases hword : word.toList = (c :: path).takeWhile (· ≠ ' ')
      · rw [if_neg (fun h => h hword)]
        cases hdrop : (c :: path).dropWhile (· ≠ ' ') with
        | nil => simp [hword]
        | cons d rest =>
          simp only [hword, true_and]
          exact ih fuel rest (hsh d rest hdrop)
      · rw [if_pos hword]
        exact iff_of_false (by simp) (fun h => hword h.1)

/-- **A command matches a path if it is the list of its words.** -/
theorem commandMatches_iff :
    commandMatches command commandPath ↔ command.map String.toList = words commandPath :=
  matchesPath_iff command _ _ (Nat.le_refl _)

/-! ## §3. Paths. -/

/-- The loop of `command_key`. -/
def joinWords (words : List (List Char)) : List Char :=
  words.foldl (fun key word => (if key.isEmpty then key else key ++ [' ']) ++ word) []

def commandKey (command : List String) : String :=
  String.ofList (joinWords (command.map String.toList))

/-- The paths of the tables. -/
def commandPaths : List String := kM3OperationIdentities.map (·.commandPath)
  ++ kM6OperationIdentities.map (·.commandPath) ++ ["raw"]

/-- Every path of the tables is the path of its words. -/
theorem joinWords_words : ∀ path ∈ commandPaths, joinWords (words path) = path.toList := by
  decide +kernel

theorem commandKey_of_matches (hpath : path ∈ commandPaths)
    (h : commandMatches command path) : commandKey command = path := by
  unfold commandKey
  rw [commandMatches_iff.mp h, joinWords_words path hpath, String.ofList_toList]

/-- The command is spelled word by word. -/
def spelled (command : List String) : Bool := commandMatches command (commandKey command)

/-- A row of a table matches a command that is spelled word by word and has its path. -/
theorem commandMatches_row {command : List String} {path : String}
    (hpath : path ∈ commandPaths) :
    commandMatches command path = (spelled command && path == commandKey command) := by
  rw [Bool.eq_iff_iff, Bool.and_eq_true, beq_iff_eq]
  constructor
  · intro h
    have hkey := commandKey_of_matches hpath h
    refine ⟨?_, hkey.symm⟩
    unfold spelled
    rw [hkey]
    exact h
  · rintro ⟨hspelled, hkey⟩
    rw [hkey]
    exact hspelled

theorem find_matches {rows : List α} {path : α → String} {command : List String} (op : α → β)
    (hrows : ∀ row ∈ rows, path row ∈ commandPaths) :
    (rows.find? fun row => commandMatches command (path row)).map op
      = if spelled command then (rows.find? fun row => path row == commandKey command).map op
        else none := by
  induction rows with
  | nil => cases spelled command <;> rfl
  | cons row rows ih =>
    have hrow := @commandMatches_row command _ (hrows row mem_cons_self)
    have hrest := ih fun r hr => hrows r (mem_cons_of_mem _ hr)
    rw [find?_cons, find?_cons, hrow]
    revert hrest
    cases spelled command <;> cases path row == commandKey command <;> simp

/-- **The lookup by words is the lookup by path**, for a command that is spelled word by
word. -/
theorem m3OperationForCommand_eq (command : List String) : m3OperationForCommand command
      = if spelled command then m3OperationForPath (commandKey command) else none :=
  find_matches _ fun _ hrow => mem_append_left _ (mem_append_left _ (mem_map_of_mem hrow))

theorem m6OperationForCommand_eq (command : List String) : m6OperationForCommand command
      = if spelled command then m6OperationForPath (commandKey command) else none :=
  find_matches _ fun _ hrow => mem_append_left _ (mem_append_right _ (mem_map_of_mem hrow))

/-! ## §4. A request and its idempotency key. -/

inductive WriteAuthority where
  | unset | grant | deny
deriving DecidableEq, Repr

structure RequestContext where
  tty : Bool := false
  json : Bool := false
  yes : Bool := false
  dryRun : Bool := false
  timeoutSeconds : Option Rat := none
  cwd : String := ""
  mediaDir : Option String := none
  writeAuthority : WriteAuthority := .unset
  idempotencyKey : Option String := none
deriving DecidableEq, Repr

structure Request where
  id : Nat := 0
  account : String
  command : List String := []
  args : Json := .obj []
  context : RequestContext := {}

/-- A letter or a digit of ASCII. -/
def alphanumeric (value : Char) : Bool :=
  ('A' ≤ value && value ≤ 'Z') || ('a' ≤ value && value ≤ 'z') || ('0' ≤ value && value ≤ '9')

def validIdempotencyKey (key : String) : Bool :=
  match key.toList with
  | [] => false
  | first :: rest =>
    decide (rest.length < 128) && alphanumeric first
      && rest.all fun value =>
        alphanumeric value || value == '.' || value == '_' || value == ':' || value == '-'

inductive IdempotencyValidation where
  | valid | invalidGrammar | dryRun | unsupportedOperation
deriving DecidableEq, Repr

def validateIdempotency (request : Request) : IdempotencyValidation :=
  match request.context.idempotencyKey with
  | none => .valid
  | some key =>
    if !validIdempotencyKey key then .invalidGrammar
    else if request.context.dryRun then .dryRun
    else if (m3OperationForCommand request.command).isNone then .unsupportedOperation
    else .valid

/-! ## §5. The dispatcher. -/

inductive Tier where
  | read | write | destructive
deriving DecidableEq, Repr

inductive DeadlineDefault where
  | default60 | unlimited
deriving DecidableEq, Repr

inductive SessionOperation where
  | list | terminate
deriving DecidableEq, Repr

/-- `CommandDescriptor`, its handler apart. -/
structure CommandDescriptor where
  tier : Tier := .read
  m1DestructiveKernel : Bool := false
  m3Operation : Option M3Operation := none
  deadlineDefault : DeadlineDefault := .default60
  m6Operation : Option M6Operation := none
  sessionOperation : Option SessionOperation := none
  configAdmission : Bool := false
  dynamicRawPolicy : Bool := false
deriving DecidableEq, Repr

/-- The tiers of `kM3OperationPolicies`. -/
def m3Tier : M3Operation → Tier
  | .msgDelete | .chatLeave => .destructive
  | _ => .write

def tierFor : M6Tier → Tier
  | .read => .read
  | .write => .write
  | .destructive => .destructive

def isM1DestructiveCommand (path : String) : Bool := path == "logout" || path == "account remove"

def allowsUnlimitedDefault (path : String) : Bool :=
  path == "fetch" || path == "download" || path == "listen" || path == "wait-for"

def sessionOperationForCommand (path : String) : Option SessionOperation :=
  if path = "session list" then some .list
  else if path = "session terminate" then some .terminate
  else none

/-- `commands_`; the first command of a path stays. -/
abbrev Commands : Type := List (String × CommandDescriptor)

def Commands.emplace (commands : Commands) (path : String) (descriptor : CommandDescriptor) :
    Commands :=
  if (commands.lookup path).isSome then commands else commands ++ [(path, descriptor)]

/-- The M3 identity of a descriptor is that of its path. -/
def checkM3 (path : String) (descriptor : CommandDescriptor) : Except String Unit :=
  match descriptor.m3Operation with
  | none =>
    if (m3OperationForPath path).isSome then
      .error "M3 command descriptor is missing its operation identity"
    else .ok ()
  | some operation =>
    if (m3OperationIdentity operation).all (·.commandPath != path)
        || m3Tier operation != descriptor.tier || descriptor.m1DestructiveKernel then
      .error "M3 command descriptor does not match its static policy"
    else .ok ()

/-- The M6 identity of a descriptor is that of its path. -/
def checkM6 (path : String) (descriptor : CommandDescriptor) : Except String Unit :=
  match descriptor.m6Operation with
  | none =>
    if (m6OperationForPath path).isSome then
      .error "M6 command descriptor is missing its operation identity"
    else .ok ()
  | some operation =>
    if (m6OperationIdentity operation).all (fun identity =>
        identity.commandPath != path || tierFor identity.tier != descriptor.tier)
        || descriptor.m1DestructiveKernel then
      .error "M6 command descriptor does not match its static policy"
    else .ok ()

/-- The session identity of a descriptor is that of its path. -/
def checkSession (path : String) (descriptor : CommandDescriptor) : Except String Unit :=
  if descriptor.sessionOperation ≠ sessionOperationForCommand path then
    .error "session command descriptor does not match its static policy"
  else
    match descriptor.sessionOperation with
    | none => .ok ()
    | some operation =>
      let expected := if operation = .list then Tier.read else .destructive
      if descriptor.tier ≠ expected ∨ descriptor.m1DestructiveKernel = true then
        .error "session command descriptor tier is invalid"
      else .ok ()

def registerCommand (commands : Commands) (path : String) (descriptor : CommandDescriptor) :
    Except String Commands :=
  if descriptor.dynamicRawPolicy != (path == "raw") then
    .error "raw command descriptor is missing its dynamic policy gate"
  else if (descriptor.deadlineDefault == .unlimited) != allowsUnlimitedDefault path then
    .error "unlimited deadline policy does not match its command"
  else if descriptor.m1DestructiveKernel
      && (descriptor.tier != .destructive || !isM1DestructiveCommand path) then
    .error "M1 destructive bypass does not match its static policy"
  else if 1 < descriptor.m3Operation.toList.length + descriptor.m6Operation.toList.length
      + descriptor.sessionOperation.toList.length then
    .error "command descriptor has conflicting operation identities"
  else do
    checkM3 path descriptor
    checkM6 path descriptor
    checkSession path descriptor
    .ok (commands.emplace path descriptor)

/-- The commands after these registrations; one that is refused changes nothing. -/
def registerAll (registrations : List (String × CommandDescriptor)) : Commands :=
  registrations.foldl (fun commands registration =>
    match registerCommand commands registration.1 registration.2 with
    | .ok commands => commands
    | .error _ => commands) []

/-- `reject_invalid_idempotency`: the message and the reason of the usage error. -/
def rejectInvalidIdempotency (request : Request) : Option (String × String) :=
  match request.context.idempotencyKey with
  | none => none
  | some key =>
    if !validIdempotencyKey key then some ("invalid idempotency key", "invalid_argument")
    else if request.context.dryRun then
      some ("idempotency key cannot be combined with dry-run", "mutually_exclusive")
    else
      let m3 := m3OperationForCommand request.command
      let m6 := (m6OperationForCommand request.command).bind m6OperationIdentity
      if m3.isNone && m6.all (!·.idempotent) then
        some ("idempotency key is unsupported for this command", "unsupported_mode")
      else none

/-! ## §6. What each side recognises. -/

/-- An operation, as far as the frame layer tells operations apart. -/
structure Recognition where
  /-- the M3 operation, for the idempotency key -/
  m3 : Option M3Operation
  /-- the commands whose arguments hold a secret: `chat join`, `chat invite-link`, `raw` -/
  chatJoin : Bool
  chatInviteLink : Bool
  raw : Bool
deriving DecidableEq, Repr

/-- The frame layer: `validate_idempotency` and `wipe_sensitive_request_args`. -/
def recognised (command : List String) : Recognition where
  m3 := m3OperationForCommand command
  chatJoin := command == ["chat", "join"]
  chatInviteLink := command == ["chat", "invite-link"]
  raw := command == ["raw"]

/-- The operation of the command the dispatcher runs. -/
def CommandDescriptor.runs (descriptor : CommandDescriptor) : Recognition where
  m3 := descriptor.m3Operation
  chatJoin := descriptor.m3Operation == some .chatJoin
  chatInviteLink := descriptor.m6Operation == some .chatInviteLink
  raw := descriptor.dynamicRawPolicy

/-- The path belongs to an operation the frame layer recognises. -/
def recognisable (path : String) : Bool :=
  (m3OperationForPath path).isSome || path == "chat invite-link" || path == "raw"

/-! ## §7. The table. -/

/-- What a descriptor says of its path. -/
structure Registered (path : String) (descriptor : CommandDescriptor) : Prop where
  m3 : descriptor.m3Operation = m3OperationForPath path
  m6 : descriptor.m6Operation = m6OperationForPath path
  raw : descriptor.dynamicRawPolicy = (path == "raw")

/-- The path of an operation is its own. -/
theorem m3OperationForPath_identity :
    ∀ row ∈ kM3OperationIdentities, m3OperationForPath row.commandPath = some row.operation := by
  decide +kernel

theorem m6OperationForPath_identity :
    ∀ row ∈ kM6OperationIdentities, m6OperationForPath row.commandPath = some row.operation := by
  decide +kernel

variable {path : String} {descriptor : CommandDescriptor} {command : List String}

theorem checkM3_ok (h : checkM3 path descriptor = .ok ()) :
    descriptor.m3Operation = m3OperationForPath path := by
  unfold checkM3 at h
  cases hop : descriptor.m3Operation with
  | none =>
    rw [hop] at h
    simp only at h
    split at h
    · cases h
    next hnone => exact (not_isSome_iff_eq_none.mp hnone).symm
  | some operation =>
    rw [hop] at h
    simp only at h
    split at h
    · cases h
    rename_i hmat
    simp only [Bool.or_eq_true, not_or] at hmat
    cases hrow : m3OperationIdentity operation with
    | none => exact absurd (by rw [hrow]; rfl) hmat.1.1
    | some row =>
      rw [hrow] at hmat
      have hpath : row.commandPath = path := by simpa using hmat.1.1
      have hsame : row.operation = operation := by simpa using find?_some hrow
      have hid := m3OperationForPath_identity row (mem_of_find?_eq_some hrow)
      rw [hpath, hsame] at hid
      exact hid.symm

theorem checkM6_ok (h : checkM6 path descriptor = .ok ()) :
    descriptor.m6Operation = m6OperationForPath path := by
  unfold checkM6 at h
  cases hop : descriptor.m6Operation with
  | none =>
    rw [hop] at h
    simp only at h
    split at h
    · cases h
    next hnone => exact (not_isSome_iff_eq_none.mp hnone).symm
  | some operation =>
    rw [hop] at h
    simp only at h
    split at h
    · cases h
    rename_i hmat
    simp only [Bool.or_eq_true, not_or] at hmat
    cases hrow : m6OperationIdentity operation with
    | none => exact absurd (by rw [hrow]; rfl) hmat.1
    | some row =>
      rw [hrow] at hmat
      have hpath : row.commandPath = path := by
        simp only [all_some, Bool.or_eq_true, not_or, bne_iff_ne, not_not] at hmat
        exact hmat.1.1
      have hsame : row.operation = operation := by simpa using find?_some hrow
      have hid := m6OperationForPath_identity row (mem_of_find?_eq_some hrow)
      rw [hpath, hsame] at hid
      exact hid.symm

theorem registerCommand_ok (h : registerCommand commands path descriptor = .ok commands') :
    Registered path descriptor ∧ commands' = commands.emplace path descriptor := by
  unfold registerCommand at h
  split at h
  · cases h
  rename_i hraw
  split at h
  · cases h
  split at h
  · cases h
  split at h
  · cases h
  obtain ⟨⟨⟩, hm3, h⟩ := bind_ok.mp h
  obtain ⟨⟨⟩, hm6, h⟩ := bind_ok.mp h
  obtain ⟨⟨⟩, -, h⟩ := bind_ok.mp h
  injection h with h
  refine ⟨⟨checkM3_ok hm3, checkM6_ok hm6, ?_⟩, h.symm⟩
  simpa using hraw

/-- A registration keeps what the table says of its paths. -/
theorem emplace_registered {commands : Commands}
    (hall : ∀ entry ∈ commands, Registered entry.1 entry.2) (h : Registered path descriptor) :
    ∀ entry ∈ commands.emplace path descriptor, Registered entry.1 entry.2 := by
  unfold Commands.emplace
  split
  · exact hall
  exact forall_mem_append.mpr ⟨hall, forall_mem_singleton.mpr h⟩

/-- **What the table of a dispatcher says of a path**, after any registrations. -/
theorem registered_sound (registrations : List (String × CommandDescriptor)) :
    ∀ entry ∈ registerAll registrations, Registered entry.1 entry.2 := by
  have hfold : ∀ (registrations : List (String × CommandDescriptor)) (commands : Commands),
      (∀ entry ∈ commands, Registered entry.1 entry.2) →
      ∀ entry ∈ registrations.foldl (fun commands registration =>
        match registerCommand commands registration.1 registration.2 with
        | .ok commands => commands
        | .error _ => commands) commands, Registered entry.1 entry.2 := by
    intro registrations
    induction registrations with
    | nil => exact fun commands h => h
    | cons registration registrations ih =>
      intro commands h
      rw [foldl_cons]
      apply ih
      split
      next commands' hok =>
        obtain ⟨hregistered, hsame⟩ := registerCommand_ok hok
        rw [hsame]
        exact emplace_registered h hregistered
      · exact h
  exact hfold registrations [] (by simp)

/-! ## §8. Agreement. -/

/-- The words of a command with a path of the tables. -/
theorem eq_words_iff {words : List String}
    (hpath : path ∈ commandPaths)
    (hwords : words.map String.toList = Proto.words path) :
    (command == words) = (spelled command && path == commandKey command) := by
  rw [← commandMatches_row hpath, Bool.eq_iff_iff, beq_iff_eq, commandMatches_iff, ← hwords]
  constructor
  · rintro rfl
    rfl
  · exact fun h => map_injective_iff.mpr (fun _ _ => String.toList_inj.mp) h

/-- What the frame layer recognises: the operation of the path, if it is spelled word by
word. -/
theorem recognised_eq (command : List String) : recognised command = if spelled command then
        { m3 := m3OperationForPath (commandKey command)
          chatJoin := commandKey command == "chat join"
          chatInviteLink := commandKey command == "chat invite-link"
          raw := commandKey command == "raw" }
      else { m3 := none, chatJoin := false, chatInviteLink := false, raw := false } := by
  unfold recognised
  rw [m3OperationForCommand_eq,
    @eq_words_iff "chat join" command ["chat", "join"] (by decide) (by decide +kernel),
    @eq_words_iff "chat invite-link" command ["chat", "invite-link"] (by decide)
      (by decide +kernel),
    @eq_words_iff "raw" command ["raw"] (by decide) (by decide +kernel)]
  cases spelled command with
  | true => simp [BEq.comm]
  | false => rfl

theorem operationForPath_some {l : List α} {key : α → String} {op : α → β}
    (h : (l.find? (key · == path)).map op = some operation) :
    ∃ row ∈ l, op row = operation ∧ key row = path := by
  obtain ⟨row, hrow, hop⟩ := map_eq_some_iff.mp h
  exact ⟨row, mem_of_find?_eq_some hrow, hop, by simpa using find?_some hrow⟩

/-- An operation whose rows have one path. -/
theorem operation_path [DecidableEq β] {l : List α} {key : α → String} {op : α → β} {o : β}
    (hrows : ∀ row ∈ l, op row = o → key row = own)
    (hown : (l.find? (key · == own)).map op = some o) (path : String) :
    ((l.find? (key · == path)).map op == some o) = (path == own) := by
  rw [Bool.eq_iff_iff, beq_iff_eq, beq_iff_eq]
  constructor
  · intro h
    obtain ⟨row, hmem, hop, hpath⟩ := operationForPath_some h
    rw [← hpath, hrows row hmem hop]
  · rintro rfl
    exact hown

/-- The two operations with a secret in their arguments have one path each. -/
theorem chatJoin_path :
    ∀ path, (m3OperationForPath path == some .chatJoin) = (path == "chat join") :=
  operation_path (l := kM3OperationIdentities) (by decide +kernel) (by decide +kernel)

theorem chatInviteLink_path :
    ∀ path, (m6OperationForPath path == some .chatInviteLink) = (path == "chat invite-link") :=
  operation_path (l := kM6OperationIdentities) (by decide +kernel) (by decide +kernel)

/-- What runs under a path. -/
theorem Registered.runs_eq (h : Registered path descriptor) : descriptor.runs =
      { m3 := m3OperationForPath path
        chatJoin := path == "chat join"
        chatInviteLink := path == "chat invite-link"
        raw := path == "raw" } := by
  unfold CommandDescriptor.runs
  rw [h.m3, h.m6, h.raw, chatJoin_path, chatInviteLink_path]

/-- The frame layer recognises what runs, unless the command is not spelled word by word. -/
theorem recognised_iff (h : Registered (commandKey command) descriptor) :
    recognised command = descriptor.runs
      ↔ (recognisable (commandKey command) → spelled command) := by
  rw [recognised_eq, h.runs_eq]
  cases hspelled : spelled command with
  | true => simp
  | false =>
    simp only [Bool.false_eq_true, if_false, Recognition.mk.injEq, imp_false]
    unfold recognisable
    rw [Bool.or_eq_true, Bool.or_eq_true, not_or, not_or, not_isSome_iff_eq_none,
      Bool.not_eq_true, Bool.not_eq_true]
    constructor
    · rintro ⟨hm3, -, hlink, hraw⟩
      exact ⟨⟨hm3.symm, hlink.symm⟩, hraw.symm⟩
    · rintro ⟨⟨hm3, hlink⟩, hraw⟩
      refine ⟨hm3.symm, ?_, hlink.symm, hraw.symm⟩
      rw [← chatJoin_path, hm3]
      rfl

/-- A key the dispatcher takes for an M6 operation. -/
def keyedM6 (request : Request) : Bool :=
  request.context.idempotencyKey.any validIdempotencyKey && !request.context.dryRun
    && ((m6OperationForCommand request.command).bind m6OperationIdentity).any (·.idempotent)

/-- No command is both an M3 and an M6 operation. -/
theorem m3_none_of_m6 (h : m6OperationForCommand command = some operation) :
    m3OperationForCommand command = none := by
  rw [m6OperationForCommand_eq] at h
  rw [m3OperationForCommand_eq]
  split at h
  next hspelled =>
    rw [if_pos hspelled]
    obtain ⟨row, hmem, -, hpath⟩ := operationForPath_some h
    have hrow : ∀ row ∈ kM6OperationIdentities, m3OperationForPath row.commandPath = none := by
      decide +kernel
    rw [← hpath]
    exact hrow row hmem
  · cases h

/-- The two checks of the key agree, unless it is the key of an M6 operation. -/
theorem admission_iff (request : Request) :
    (validateIdempotency request = .valid ↔ rejectInvalidIdempotency request = none)
      ↔ keyedM6 request = false := by
  unfold validateIdempotency rejectInvalidIdempotency keyedM6
  cases request.context.idempotencyKey with
  | none => simp
  | some key =>
    cases hkey : validIdempotencyKey key with
    | false => simp [hkey]
    | true =>
      cases hdry : request.context.dryRun with
      | true => simp [hkey]
      | false =>
        cases hm6 : m6OperationForCommand request.command with
        | none => cases hm3 : m3OperationForCommand request.command <;> simp [hkey]
        | some operation =>
          rw [m3_none_of_m6 hm6]
          rcases hrow : m6OperationIdentity operation with _ | row
          · simp [hkey, hrow]
          · cases hidempotent : row.idempotent <;> simp [hkey, hrow, hidempotent]

/-- **One command, one admission**: the frame layer and the dispatcher agree on the key of a
request unless it is the key of an M6 operation, and on the operation that runs, under any
registered commands, unless the command is not spelled word by word and runs an operation the
frame layer would have recognised. -/
theorem one_admission_iff (request : Request) :
    ((validateIdempotency request = .valid ↔ rejectInvalidIdempotency request = none)
        ↔ keyedM6 request = false)
      ∧ ∀ (registrations : List (String × CommandDescriptor)) (descriptor : CommandDescriptor),
        (registerAll registrations).lookup (commandKey request.command) = some descriptor →
        (recognised request.command = descriptor.runs
          ↔ (recognisable (commandKey request.command) = true
              → spelled request.command = true)) := by
  refine ⟨admission_iff request, fun registrations descriptor hfound => recognised_iff ?_⟩
  obtain ⟨before, after, hsplit, -⟩ := lookup_eq_some_iff.mp hfound
  have hmem : (commandKey request.command, descriptor) ∈ registerAll registrations := by
    rw [hsplit]
    exact mem_append_right _ mem_cons_self
  exact registered_sound registrations _ hmem

/-- The commands of the two examples. -/
def exampleCommands : List (String × CommandDescriptor) :=
  [("chat join", { tier := .write, m3Operation := some .chatJoin }),
    ("contact add", { tier := .write, m6Operation := some .contactAdd })]

/-- A key for `chat join`, spelled word by word. -/
def joinRequest : Request where
  account := "main"
  command := ["chat", "join"]
  context := { idempotencyKey := some "k1" }

theorem one_admission_iff_join :
    (validateIdempotency joinRequest = .valid ↔ rejectInvalidIdempotency joinRequest = none)
      ∧ recognised joinRequest.command
        = CommandDescriptor.runs { tier := .write, m3Operation := some .chatJoin } :=
  ⟨(one_admission_iff joinRequest).1.mpr (by decide +kernel),
    ((one_admission_iff joinRequest).2 exampleCommands _ (by decide +kernel)).mpr
      (by decide +kernel)⟩

/-- A key for `contact add`. -/
def keyedContactAdd : Request where
  account := "main"
  command := ["contact", "add"]
  context := { idempotencyKey := some "k1" }

/-- The frame layer refuses the key of `contact add`, which the dispatcher takes; and it does not
recognise `chat join` as one word, which the dispatcher runs. -/
theorem admissions_differ : validateIdempotency keyedContactAdd = .unsupportedOperation
      ∧ rejectInvalidIdempotency keyedContactAdd = none
      ∧ (registerAll exampleCommands).lookup (commandKey ["chat join"])
        = some { tier := .write, m3Operation := some .chatJoin }
      ∧ recognised ["chat join"]
        = { m3 := none, chatJoin := false, chatInviteLink := false, raw := false } := by
  decide +kernel

end TgCli.Proto
