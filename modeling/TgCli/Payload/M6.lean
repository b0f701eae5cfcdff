/-
  TgCli.Payload.M6 — PLANS AND RESULTS OF THE SIXTH MILESTONE

  The checks of `m6_audit_contract.cpp` with the texts of `m6_domain.cpp` and
  the functions of `m6_write_policy.cpp`.  Unlike `account_audit.cpp`, these
  read every integer as a signed one of 64 bits.
-/
import TgCli.Payload.Values

namespace TgCli.Payload.M6

open Lib Audit List Json

/-! ## §1. The closed names and the texts of `m6_domain.cpp`. -/

def kFolderIcons : List String :=
  ["all", "unread", "unmuted", "bots", "channels", "groups", "private", "custom", "setup", "cat",
    "crown", "favorite", "flower", "game", "home", "love", "mask", "party", "sport", "study",
    "trade", "travel", "work", "airplane", "book", "light", "like", "money", "note", "palette"]

def kTopicColors : List String := ["blue", "yellow", "purple", "green", "pink", "red"]

def kAdminRights : List String :=
  ["change-info", "post-messages", "edit-messages", "delete-messages", "invite-users",
    "restrict-members", "pin-messages", "manage-topics", "promote-members", "manage-video-chats",
    "post-stories", "edit-stories", "delete-stories", "manage-direct-messages", "manage-tags",
    "anonymous"]

def kChatPermissions : List String :=
  ["send-basic-messages", "send-audios", "send-documents", "send-photos", "send-videos",
    "send-video-notes", "send-voice-notes", "send-polls", "send-other-messages",
    "add-link-previews", "react-to-messages", "edit-tag", "change-info", "invite-users",
    "pin-messages", "create-topics"]

/-- `M6TextKind`. -/
inductive TextKind where
  | folderName | topicName | chatTitle | chatDescription
deriving DecidableEq, Repr

/-- `clean_input`: carriage returns, line controls and three accents are
dropped, other controls become spaces. -/
def cleanInput (chars : List Char) : List Char :=
  (chars.filter fun c =>
      !(c == '\r' || decide (0x2028 ≤ c.toNat ∧ c.toNat ≤ 0x202e) || c.toNat == 0x333
        || c.toNat == 0x33f || c.toNat == 0x30a)).map
    fun c => if c.toNat ≤ 0x1f ∧ c ≠ '\n' then ' ' else c

/-- The spaces of `normalize_unicode_spaces`. -/
def unicodeSpace (c : Char) : Bool :=
  [0xa0, 0x1680, 0x180e, 0x202f, 0x205f, 0x2800, 0x3000, 0xfffc, 0xe0000].contains c.toNat
    || decide (0x2000 ≤ c.toNat ∧ c.toNat ≤ 0x200a)

def normalizeUnicodeSpaces (chars : List Char) : List Char :=
  chars.map fun c => if unicodeSpace c then ' ' else c

def blank (c : Char) : Bool := c == ' ' || c == '\n'

def trimSpaceAndLf (chars : List Char) : List Char :=
  ((chars.dropWhile blank).reverse.dropWhile blank).reverse

/-- Runs of blanks become one space. -/
def collapse : Bool → List Char → List Char
  | _, [] => []
  | previousSpace, c :: rest =>
    if blank c then (if previousSpace then collapse true rest else ' ' :: collapse true rest)
    else c :: collapse false rest

def TextKind.maximum : TextKind → Nat
  | .folderName => 12
  | .chatDescription => 255
  | _ => 128

def canonicalText (kind : TextKind) (chars : List Char) : List Char :=
  let value := trimSpaceAndLf (normalizeUnicodeSpaces (cleanInput chars))
  let value := trimSpaceAndLf (value.take kind.maximum)
  if kind = .chatDescription then value else trimSpaceAndLf (collapse false value)

/-- `valid_m6_canonical_text`. -/
def validCanonicalText (kind : TextKind) (v : Json) : Bool :=
  v.str?.any fun s =>
    !containsNul s && canonicalText kind s.toList == s.toList
      && (kind == .chatDescription || s != "")

/-! ## §2. Values. -/

/-- A signed integer of 64 bits, whatever its kind. -/
def getInt64 (v : Json) : Option Int := v.number?.map signed

def inRange (low high : Int) (v : Json) : Bool :=
  (getInt64 v).any fun n => decide (low ≤ n ∧ n ≤ high)

def validString (v : Json) (empty : Bool := true) : Bool :=
  v.str?.any fun s => !containsNul s && (empty || s != "")

def validInt53 (v : Json) (positive : Bool := false) : Bool :=
  inRange (if positive then 1 else -kMaximumInt53) kMaximumInt53 v

def validPositiveInt32 (v : Json) : Bool := inRange 1 kMaximumInt32 v

def validNonnegativeInt32 (v : Json) : Bool := inRange 0 kMaximumInt32 v

def validChatId (v : Json) : Bool := validInt53 v && v != .int 0

def validCanonicalInt64 (v : Json) (positive : Bool := false) : Bool :=
  v.str?.any fun s =>
    s != "" && s.toList.head? != some '+' && !(decide (1 < s.length) && s.toList.head? == some '0')
      && s != "-0" && (fromChars s.toList).any fun n => !positive || decide (0 < n)

def validStringArray (v : Json) (maximum : Nat) : Bool :=
  v.isArr && decide (v.items.length ≤ maximum) && v.items.all (validString · false)
    && decide (v.items.map str?).Nodup

def validUserIdentity (v : Json) : Bool :=
  v.exactFields ["id", "display_name", "usernames", "is_bot"] && validInt53 (v.get "id") true
    && validString (v.get "display_name") && validStringArray (v.get "usernames") 64
    && (v.get "is_bot").isBool

def validChatIdentity (v : Json) : Bool :=
  v.exactFields ["id", "title", "type", "is_bot", "usernames"] && validChatId (v.get "id")
    && validString (v.get "title") && (v.get "is_bot").isBool
    && validStringArray (v.get "usernames") 64 && oneOf (v.get "type") chatTypes

/-- `valid_closed_array`: names of the list, in its order. -/
def validClosedArray (v : Json) (names : List String) (minimum : Nat) : Bool :=
  v.isArr && decide (minimum ≤ v.items.length) && decide (v.items.length ≤ names.length)
    && ascending none (v.items.map fun item => (item.str?.bind names.idxOf?).map Int.ofNat)

/-- One entity of `valid_folder_name`: where it ends, if it is valid. -/
def entityEnd (previousEnd : Int) (v : Json) : Option Int :=
  if v.exactFields ["offset", "length", "custom_emoji_id"]
      && validCanonicalInt64 (v.get "custom_emoji_id") true then do
    let offset ← getInt64 (v.get "offset")
    let length ← getInt64 (v.get "length")
    if offset < previousEnd ∨ length ≤ 0 ∨ kMaximumInt32 - length < offset then none
    else some (offset + length)
  else none

def validFolderName (v : Json) : Bool :=
  v.exactFields ["text", "animate_custom_emoji", "custom_emoji_entities"]
    && validCanonicalText .folderName (v.get "text") && (v.get "animate_custom_emoji").isBool
    && (v.get "custom_emoji_entities").isArr
    && ((v.get "custom_emoji_entities").items.foldlM entityEnd 0).isSome

def validIcon (v : Json) : Bool := v.isNull || oneOf v kFolderIcons

def validColorId (v : Json) : Bool := inRange (-1) 6 v

/-- The ids of a field, none of them 0. -/
def validIds (v : Json) (maximum : Nat) : Bool :=
  v.isArr && decide (v.items.length ≤ maximum) && v.items.all validChatId

def folderFlags : List String :=
  ["exclude_muted", "exclude_read", "exclude_archived", "include_contacts", "include_non_contacts",
    "include_bots", "include_groups", "include_channels"]

def validFolderSnapshot (v : Json) : Bool :=
  v.exactFields
      (["id", "name", "icon", "color_id", "is_shareable", "has_my_invite_links", "pinned_chat_ids",
        "included_chat_ids", "excluded_chat_ids"] ++ folderFlags)
    && validPositiveInt32 (v.get "id") && validFolderName (v.get "name") && validIcon (v.get "icon")
    && validColorId (v.get "color_id") && (v.get "is_shareable").isBool
    && (v.get "has_my_invite_links").isBool && validIds (v.get "pinned_chat_ids") 100
    && validIds (v.get "included_chat_ids") 100
    && decide ((v.get "pinned_chat_ids").items.length + (v.get "included_chat_ids").items.length
        ≤ 100)
    && validIds (v.get "excluded_chat_ids") 100
    && decide ((v.get "pinned_chat_ids").items.map getInt64
        ++ (v.get "included_chat_ids").items.map getInt64
        ++ (v.get "excluded_chat_ids").items.map getInt64).Nodup
    && folderFlags.all fun name => (v.get name).isBool

def validTopicInfo (v : Json) : Bool :=
  v.exactFields
      ["chat_id", "id", "name", "icon", "creation_date", "creator", "is_general", "is_outgoing",
        "is_closed", "is_hidden", "is_name_implicit"]
    && validChatId (v.get "chat_id") && validPositiveInt32 (v.get "id")
    && validCanonicalText .topicName (v.get "name")
    && (v.get "icon").exactFields ["color", "custom_emoji_id"]
    && oneOf ((v.get "icon").get "color") kTopicColors
    && validCanonicalInt64 ((v.get "icon").get "custom_emoji_id")
    && validString (v.get "creation_date") false && (v.get "creator").exactFields ["type", "id"]
    && oneOf ((v.get "creator").get "type") ["user", "chat"]
    && validChatId ((v.get "creator").get "id") && (v.get "is_general").isBool
    && (v.get "is_outgoing").isBool && (v.get "is_closed").isBool && (v.get "is_hidden").isBool
    && (v.get "is_name_implicit").isBool

def validMemberStatus (v : Json) : Bool :=
  v.isObj && v.contains "kind"
    && match (v.get "kind").str? with
      | some "creator" =>
        v.exactFields ["kind", "is_anonymous", "is_member"] && (v.get "is_anonymous").isBool
          && (v.get "is_member").isBool
      | some "administrator" =>
        v.exactFields ["kind", "can_be_edited", "can_manage_chat", "rights"]
          && (v.get "can_be_edited").isBool && (v.get "can_manage_chat").isBool
          && validClosedArray (v.get "rights") kAdminRights 0
      | some "member" =>
        v.exactFields ["kind", "member_until_date"]
          && validNonnegativeInt32 (v.get "member_until_date")
      | some "restricted" =>
        v.exactFields ["kind", "is_member", "restricted_until_date", "permissions"]
          && (v.get "is_member").isBool && validNonnegativeInt32 (v.get "restricted_until_date")
          && validClosedArray (v.get "permissions") kChatPermissions 0
      | some "left" => v.exactFields ["kind"]
      | some "banned" =>
        v.exactFields ["kind", "banned_until_date"]
          && validNonnegativeInt32 (v.get "banned_until_date")
      | _ => false

def terminalMemberStatus : Operation → String
  | .chatDemote => "member"
  | .chatBan => "banned"
  | .chatUnban | .chatKick => "left"
  | _ => ""

def validFileSnapshot (v : Json) : Bool :=
  v.exactFields snapshotFields && validString (v.get "path") false && validString (v.get "name") false
    && (v.get "size").isUnsigned && validHash (v.get "sha256") && (v.get "device").isUnsigned
    && (v.get "inode").isUnsigned && (v.get "mtime_ns").number?.isSome
    && (v.get "ctime_ns").number?.isSome

def kFileTypes : List String :=
  ["none", "animation", "audio", "document", "live-photo-video", "notification-sound", "photo",
    "photo-story", "profile-photo", "secret", "secret-thumbnail", "secure",
    "self-destructing-live-photo-video", "self-destructing-photo", "self-destructing-video",
    "self-destructing-video-note", "self-destructing-voice-note", "sticker", "thumbnail",
    "unknown", "video", "video-note", "video-story", "voice-note", "wallpaper"]

/-- The sums a loop of `valid_storage_statistics` keeps. -/
structure Sums where
  size : Int := 0
  count : Int := 0

/-- The sums with one more part, if they stay in their ranges. -/
def Sums.add (sums : Sums) (size count : Int) : Option Sums :=
  if kMaximumInt53 - size < sums.size ∨ kMaximumInt32 - count < sums.count then none
  else some ⟨sums.size + size, sums.count + count⟩

/-- A size and a count, neither of them negative. -/
def sizeAndCount (v : Json) : Option (Int × Int) := do
  let size ← getInt64 (v.get "size")
  let count ← getInt64 (v.get "count")
  if validInt53 (v.get "size") ∧ 0 ≤ size ∧ 0 ≤ count then some (size, count) else none

/-- One file type of a row. -/
def fileTypeStep (sums : Sums) (v : Json) : Option Sums := do
  if v.exactFields ["file_type", "size", "count"] && oneOf (v.get "file_type") kFileTypes then
    let (size, count) ← sizeAndCount v
    sums.add size count
  else none

/-- One row: the sums of its file types are its own. -/
def rowStep (sums : Sums) (v : Json) : Option Sums := do
  if v.exactFields ["chat_id", "size", "count", "by_file_type"] && validInt53 (v.get "chat_id")
      && (sizeAndCount v).isSome && (v.get "by_file_type").isArr
      && decide ((v.get "by_file_type").items.length ≤ 25)
      && decide ((v.get "by_file_type").items.map fun item => (item.get "file_type").str?).Nodup then
    let row ← (v.get "by_file_type").items.foldlM fileTypeStep {}
    if int row.size == v.get "size" && int row.count == v.get "count" then
      sums.add row.size row.count
    else none
  else none

def validStorageStatistics (v : Json) : Bool :=
  v.exactFields ["size", "count", "by_chat"] && (sizeAndCount v).isSome
    && validNonnegativeInt32 (v.get "count") && (v.get "by_chat").isArr
    && decide ((v.get "by_chat").items.length ≤ 101)
    && decide ((v.get "by_chat").items.map fun row => getInt64 (row.get "chat_id")).Nodup
    && ((v.get "by_chat").items.foldlM rowStep {}).any fun sums =>
      int sums.size == v.get "size" && int sums.count == v.get "count"

/-! ## §3. Plans. -/

/-- The functions of `kPolicies`. -/
def tdlibFunctions : Operation → List String
  | .contactAdd => ["addContact"]
  | .contactRemove => ["removeContacts"]
  | .contactBlock | .contactUnblock => ["setMessageSenderBlockList"]
  | .folderCreate => ["createChatFolder"]
  | .folderEdit | .folderAddChat | .folderRemoveChat => ["editChatFolder"]
  | .folderDelete => ["deleteChatFolder"]
  | .topicCreate => ["createForumTopic"]
  | .topicEdit => ["editForumTopic"]
  | .topicClose | .topicReopen => ["toggleForumTopicIsClosed"]
  | .chatSetTitle => ["setChatTitle"]
  | .chatSetPhoto => ["setChatPhoto"]
  | .chatSetDescription => ["setChatDescription"]
  | .chatInviteLink => ["createChatInviteLink", "revokeChatInviteLink"]
  | .chatPromote | .chatDemote | .chatBan | .chatUnban | .chatKick => ["setChatMemberStatus"]
  | .chatSetPermissions => ["setChatPermissions"]
  | .storageOptimize => ["optimizeStorage"]
  | _ => []

def commonPlan (operation : Operation) (v : Json) (account : String) : Bool :=
  v.isObj && v.contains "operation" && v.get "operation" == .str operation.name
    && v.contains "account" && v.get "account" == .str account && validAccountName account
    && v.contains "tdlib_request" && oneOf (v.get "tdlib_request") (tdlibFunctions operation)

/-- The fields of a plan beyond the common ones. -/
def planFields (v : Json) (names : List String) : Bool :=
  v.exactFields (["operation", "account", "tdlib_request"] ++ names)

/-- Two different snapshots of one folder. -/
def validFolderChange (v : Json) : Bool :=
  validPositiveInt32 (v.get "folder_id") && validFolderSnapshot (v.get "before")
    && validFolderSnapshot (v.get "after") && (v.get "before").get "id" == v.get "folder_id"
    && (v.get "after").get "id" == v.get "folder_id" && v.get "before" != v.get "after"

/-- `valid_m6_audit_plan`. -/
def validPlan (operation : Operation) (v : Json) (account : String) : Bool :=
  commonPlan operation v account
    && match operation with
      | .contactAdd =>
        planFields v
            ["user", "first_name", "last_name", "phone_number_sha256", "share_phone_number"]
          && validUserIdentity (v.get "user") && validString (v.get "first_name") false
          && validString (v.get "last_name") && validHash (v.get "phone_number_sha256")
          && v.get "share_phone_number" == .bool false
      | .contactRemove =>
        planFields v ["user", "is_contact"] && validUserIdentity (v.get "user")
          && v.get "is_contact" == .bool false
      | .contactBlock | .contactUnblock =>
        planFields v ["user", "blocked"] && validUserIdentity (v.get "user")
          && v.get "blocked" == .bool (operation == .contactBlock)
      | .folderCreate =>
        planFields v ["name", "icon", "color_id", "chat_ids"] && validFolderName (v.get "name")
          && validIcon (v.get "icon") && validColorId (v.get "color_id")
          && validIds (v.get "chat_ids") 100 && !(v.get "chat_ids").items.isEmpty
          && decide ((v.get "chat_ids").items.map getInt64).Nodup
      | .folderEdit => planFields v ["folder_id", "before", "after"] && validFolderChange v
      | .folderDelete =>
        planFields v ["folder", "leave_chat_ids"] && validFolderSnapshot (v.get "folder")
          && (v.get "leave_chat_ids").isArr && (v.get "leave_chat_ids").isEmpty
      | .folderAddChat | .folderRemoveChat =>
        planFields v ["folder_id", "chat", "before", "after"] && validChatIdentity (v.get "chat")
          && validFolderChange v
      | .topicCreate =>
        planFields v ["chat", "name", "icon"] && validChatIdentity (v.get "chat")
          && validCanonicalText .topicName (v.get "name") && oneOf (v.get "icon") kTopicColors
      | .topicEdit =>
        planFields v ["chat", "before", "name"] && validChatIdentity (v.get "chat")
          && validTopicInfo (v.get "before") && validCanonicalText .topicName (v.get "name")
          && v.get "name" != (v.get "before").get "name"
      | .topicClose | .topicReopen =>
        planFields v ["chat", "before", "closed"] && validChatIdentity (v.get "chat")
          && validTopicInfo (v.get "before") && v.get "closed" == .bool (operation == .topicClose)
          && (v.get "before").get "is_closed" != v.get "closed"
      | .chatSetTitle =>
        planFields v ["chat", "title"] && validChatIdentity (v.get "chat")
          && validCanonicalText .chatTitle (v.get "title")
      | .chatSetPhoto =>
        planFields v ["chat", "delete", "file"] && validChatIdentity (v.get "chat")
          && (v.get "delete").isBool
          && if v.get "delete" == .bool true then (v.get "file").isNull
            else validFileSnapshot (v.get "file")
      | .chatSetDescription =>
        planFields v ["chat", "description"] && validChatIdentity (v.get "chat")
          && validCanonicalText .chatDescription (v.get "description")
      | .chatInviteLink =>
        planFields v ["chat", "action", "invite_link_sha256"] && validChatIdentity (v.get "chat")
          && ((v.get "action" == .str "create" && (v.get "invite_link_sha256").isNull
                && v.get "tdlib_request" == .str "createChatInviteLink")
              || (v.get "action" == .str "revoke" && validHash (v.get "invite_link_sha256")
                && v.get "tdlib_request" == .str "revokeChatInviteLink"))
      | .chatPromote =>
        planFields v ["chat", "user", "before", "can_manage_chat", "rights"]
          && validChatIdentity (v.get "chat") && validUserIdentity (v.get "user")
          && validMemberStatus (v.get "before") && v.get "can_manage_chat" == .bool true
          && validClosedArray (v.get "rights") kAdminRights 1
      | .chatDemote | .chatBan | .chatUnban | .chatKick =>
        planFields v ["chat", "user", "before", "after"] && validChatIdentity (v.get "chat")
          && validUserIdentity (v.get "user") && validMemberStatus (v.get "before")
          && v.get "after" == .str (terminalMemberStatus operation)
      | .chatSetPermissions =>
        planFields v ["chat", "permissions"] && validChatIdentity (v.get "chat")
          && validClosedArray (v.get "permissions") kChatPermissions 0
      | .storageOptimize =>
        planFields v
            ["size", "ttl", "count", "immunity_delay", "file_types", "chat_ids",
              "exclude_chat_ids", "return_deleted_file_statistics", "chat_limit"]
          && (["size", "ttl", "count", "immunity_delay"].all fun name => v.get name == .int (-1))
          && (["file_types", "chat_ids", "exclude_chat_ids"].all fun name =>
              (v.get name).isArr && (v.get name).isEmpty)
          && v.get "return_deleted_file_statistics" == .bool false
          && v.get "chat_limit" == .int 100
      | _ => false

/-! ## §4. Results. -/

/-- `valid_m6_audit_result`. -/
def validResult (operation : Operation) (v : Json) : Bool :=
  match operation with
  | .contactAdd | .contactRemove =>
    v.exactFields ["user", "is_contact"] && validUserIdentity (v.get "user")
      && v.get "is_contact" == .bool (operation == .contactAdd)
  | .contactBlock | .contactUnblock =>
    v.exactFields ["user", "blocked"] && validUserIdentity (v.get "user")
      && v.get "blocked" == .bool (operation == .contactBlock)
  | .folderCreate | .folderEdit => v.exactFields ["folder"] && validFolderSnapshot (v.get "folder")
  | .folderDelete =>
    v.exactFields ["folder_id", "deleted"] && validPositiveInt32 (v.get "folder_id")
      && v.get "deleted" == .bool true
  | .folderAddChat | .folderRemoveChat =>
    v.exactFields ["folder", "chat", "included"] && validFolderSnapshot (v.get "folder")
      && validChatIdentity (v.get "chat")
      && v.get "included" == .bool (operation == .folderAddChat)
  | .topicCreate => v.exactFields ["topic"] && validTopicInfo (v.get "topic")
  | .topicEdit =>
    v.exactFields ["chat", "topic_id", "name"] && validChatIdentity (v.get "chat")
      && validPositiveInt32 (v.get "topic_id") && validCanonicalText .topicName (v.get "name")
  | .topicClose | .topicReopen =>
    v.exactFields ["chat", "topic_id", "closed"] && validChatIdentity (v.get "chat")
      && validPositiveInt32 (v.get "topic_id")
      && v.get "closed" == .bool (operation == .topicClose)
  | .chatSetTitle =>
    v.exactFields ["chat", "title"] && validChatIdentity (v.get "chat")
      && (v.get "title").str?.isSome
  | .chatSetPhoto =>
    v.exactFields ["chat", "photo"] && validChatIdentity (v.get "chat")
      && oneOf (v.get "photo") ["set", "deleted"]
  | .chatSetDescription =>
    v.exactFields ["chat", "description"] && validChatIdentity (v.get "chat")
      && (v.get "description").str?.isSome
  | .chatInviteLink =>
    v.exactFields ["chat", "action", "invite_link"] && validChatIdentity (v.get "chat")
      && ((v.get "action" == .str "create" && validString (v.get "invite_link") false)
          || (v.get "action" == .str "revoke"
            && ((v.get "invite_link").isNull || validString (v.get "invite_link") false)))
  | .chatPromote =>
    v.exactFields ["chat", "user", "status", "can_manage_chat", "rights"]
      && validChatIdentity (v.get "chat") && validUserIdentity (v.get "user")
      && v.get "status" == .str "administrator" && v.get "can_manage_chat" == .bool true
      && validClosedArray (v.get "rights") kAdminRights 1
  | .chatDemote | .chatBan | .chatUnban | .chatKick =>
    v.exactFields ["chat", "user", "status"] && validChatIdentity (v.get "chat")
      && validUserIdentity (v.get "user")
      && v.get "status" == .str (terminalMemberStatus operation)
  | .chatSetPermissions =>
    v.exactFields ["chat", "permissions"] && validChatIdentity (v.get "chat")
      && validClosedArray (v.get "permissions") kChatPermissions 0
  | .storageOptimize =>
    v.exactFields ["optimized", "statistics"] && v.get "optimized" == .bool true
      && validStorageStatistics (v.get "statistics")
  | _ => false

/-- The field of the result is that of the plan. -/
def repeats (result plan : Json) (name : String) : Bool := result.get name == plan.get name

/-- `m6_result_matches_plan`. -/
def resultMatchesPlan (operation : Operation) (result plan : Json) : Bool :=
  validResult operation result && plan.isObj
    && (["chat", "user"].all fun name =>
        !(result.contains name && plan.contains name) || repeats result plan name)
    && match operation with
      | .folderCreate =>
        (result.get "folder").get "name" == plan.get "name"
          && (result.get "folder").get "color_id" == plan.get "color_id"
          && ((plan.get "icon").isNull || (result.get "folder").get "icon" == plan.get "icon")
          && ((result.get "folder").get "pinned_chat_ids").isEmpty
          && (result.get "folder").get "included_chat_ids" == plan.get "chat_ids"
          && ((result.get "folder").get "excluded_chat_ids").isEmpty
      | .folderEdit => result.get "folder" == plan.get "after"
      | .folderDelete => result.get "folder_id" == (plan.get "folder").get "id"
      | .folderAddChat | .folderRemoveChat =>
        result.get "folder" == plan.get "after" && repeats result plan "chat"
      | .topicCreate =>
        (result.get "topic").get "chat_id" == (plan.get "chat").get "id"
          && (result.get "topic").get "name" == plan.get "name"
      | .topicEdit =>
        result.get "topic_id" == (plan.get "before").get "id" && repeats result plan "name"
      | .topicClose | .topicReopen =>
        result.get "topic_id" == (plan.get "before").get "id" && repeats result plan "closed"
      | .chatSetTitle => repeats result plan "title"
      | .chatSetPhoto =>
        result.get "photo"
          == .str (if plan.get "delete" == .bool true then "deleted" else "set")
      | .chatSetDescription => repeats result plan "description"
      | .chatInviteLink => repeats result plan "action"
      | .chatPromote => repeats result plan "rights"
      | .chatSetPermissions => repeats result plan "permissions"
      | _ => true

/-! ## §5. Parsed values. -/

section Parsed

variable (v : Json)

@[simp] theorem validCanonicalText_parsed (kind : TextKind) :
    validCanonicalText kind v.parsed = validCanonicalText kind v := by
  unfold validCanonicalText
  rw [str?_parsed]

@[simp] theorem getInt64_parsed : getInt64 v.parsed = getInt64 v := by
  unfold getInt64
  rw [number?_parsed]

@[simp] theorem inRange_parsed (low high : Int) : inRange low high v.parsed = inRange low high v := by
  unfold inRange
  rw [getInt64_parsed]

@[simp] theorem validString_parsed (empty : Bool) :
    validString v.parsed empty = validString v empty := by
  unfold validString
  rw [str?_parsed]

@[simp] theorem validInt53_parsed (positive : Bool) :
    validInt53 v.parsed positive = validInt53 v positive := inRange_parsed v _ _

@[simp] theorem validPositiveInt32_parsed : validPositiveInt32 v.parsed = validPositiveInt32 v :=
  inRange_parsed v _ _

@[simp] theorem validNonnegativeInt32_parsed :
    validNonnegativeInt32 v.parsed = validNonnegativeInt32 v := inRange_parsed v _ _

@[simp] theorem validColorId_parsed : validColorId v.parsed = validColorId v :=
  inRange_parsed v _ _

@[simp] theorem validChatId_parsed : validChatId v.parsed = validChatId v := by
  unfold validChatId
  simp

@[simp] theorem validCanonicalInt64_parsed (positive : Bool) :
    validCanonicalInt64 v.parsed positive = validCanonicalInt64 v positive := by
  unfold validCanonicalInt64
  rw [str?_parsed]

@[simp] theorem validStringArray_parsed (maximum : Nat) :
    validStringArray v.parsed maximum = validStringArray v maximum := by
  unfold validStringArray
  simp only [isArr_parsed, items_parsed, length_map,
    all_parsed (f := fun w => validString w false) (validString_parsed · false),
    map_parsed str?_parsed]

@[simp] theorem validUserIdentity_parsed : validUserIdentity v.parsed = validUserIdentity v := by
  unfold validUserIdentity
  simp

@[simp] theorem validChatIdentity_parsed : validChatIdentity v.parsed = validChatIdentity v := by
  unfold validChatIdentity
  simp

@[simp] theorem validClosedArray_parsed (names : List String) (minimum : Nat) :
    validClosedArray v.parsed names minimum = validClosedArray v names minimum := by
  unfold validClosedArray
  simp [Function.comp_def]

/-- A fold over the items that reads a parsed item alike. -/
theorem foldlM_parsed {α : Type} {f : α → Json → Option α} (h : ∀ a v, f a v.parsed = f a v)
    (items : List Json) (a : α) : (items.map parsed).foldlM f a = items.foldlM f a := by
  induction items generalizing a with
  | nil => rfl
  | cons v items ih =>
    rw [map_cons, foldlM_cons, foldlM_cons, h]
    exact congrArg _ (funext ih)

theorem entityEnd_parsed (previousEnd : Int) (v : Json) :
    entityEnd previousEnd v.parsed = entityEnd previousEnd v := by
  unfold entityEnd
  simp

@[simp] theorem validFolderName_parsed : validFolderName v.parsed = validFolderName v := by
  unfold validFolderName
  simp [foldlM_parsed entityEnd_parsed]

@[simp] theorem validIcon_parsed : validIcon v.parsed = validIcon v := by
  unfold validIcon
  simp

@[simp] theorem validIds_parsed (maximum : Nat) : validIds v.parsed maximum = validIds v maximum := by
  unfold validIds
  simp [all_parsed validChatId_parsed]

@[simp] theorem validFolderSnapshot_parsed :
    validFolderSnapshot v.parsed = validFolderSnapshot v := by
  unfold validFolderSnapshot
  simp [map_parsed getInt64_parsed]

@[simp] theorem validTopicInfo_parsed : validTopicInfo v.parsed = validTopicInfo v := by
  unfold validTopicInfo
  simp

@[simp] theorem validMemberStatus_parsed : validMemberStatus v.parsed = validMemberStatus v := by
  unfold validMemberStatus
  simp

/-- The numbers of a file are unsigned, and stay so. -/
theorem validFileSnapshot_parsed {v : Json} (h : validFileSnapshot v) :
    validFileSnapshot v.parsed := by
  unfold validFileSnapshot at h ⊢
  simp only [Bool.and_eq_true] at h
  obtain ⟨⟨⟨⟨⟨⟨⟨⟨hfld, hpath⟩, hname⟩, hsize⟩, hhash⟩, hdev⟩, hinode⟩, hmtime⟩, hctime⟩ := h
  simp [hfld, hname, hpath, hhash, hmtime, hctime, isUnsigned_parsed hsize,
    isUnsigned_parsed hdev, isUnsigned_parsed hinode]

theorem sizeAndCount_parsed (v : Json) : sizeAndCount v.parsed = sizeAndCount v := by
  unfold sizeAndCount
  simp

theorem fileTypeStep_parsed (sums : Sums) (v : Json) :
    fileTypeStep sums v.parsed = fileTypeStep sums v := by
  unfold fileTypeStep
  simp [sizeAndCount_parsed]

theorem rowStep_parsed (sums : Sums) (v : Json) : rowStep sums v.parsed = rowStep sums v := by
  unfold rowStep
  simp [sizeAndCount_parsed, foldlM_parsed fileTypeStep_parsed, Function.comp_def]

@[simp] theorem validStorageStatistics_parsed :
    validStorageStatistics v.parsed = validStorageStatistics v := by
  unfold validStorageStatistics
  simp [sizeAndCount_parsed, foldlM_parsed rowStep_parsed, Function.comp_def]

@[simp] theorem commonPlan_parsed (operation : Operation) (account : String) :
    commonPlan operation v.parsed account = commonPlan operation v account := by
  unfold commonPlan
  simp

@[simp] theorem planFields_parsed (names : List String) :
    planFields v.parsed names = planFields v names := by
  unfold planFields
  simp

@[simp] theorem validFolderChange_parsed : validFolderChange v.parsed = validFolderChange v := by
  unfold validFolderChange
  simp

/-- Only the photo of a chat has a file. -/
theorem validPlan_parsed_of_ne {operation : Operation} (h : operation ≠ .chatSetPhoto)
    (account : String) : validPlan operation v.parsed account = validPlan operation v account := by
  unfold validPlan
  cases operation
  case chatSetPhoto => exact absurd rfl h
  all_goals simp [map_parsed getInt64_parsed]

/-- **A plan the store accepts, it accepts when it reads it back.** -/
theorem validPlan_parsed {v : Json} {operation : Operation} {account : String}
    (h : validPlan operation v account) : validPlan operation v.parsed account := by
  by_cases hphoto : operation = .chatSetPhoto
  · subst hphoto
    unfold validPlan at h ⊢
    simp only [Bool.and_eq_true] at h
    obtain ⟨hcommon, ⟨⟨hfld, hchat⟩, hdel⟩, hfile⟩ := h
    simp only [hcommon, commonPlan_parsed, planFields_parsed, get_parsed,
      validChatIdentity_parsed, isBool_parsed, parsed_beq, isNull_parsed, hfld,
      hchat, hdel, Bool.and_self, Bool.true_and]
    split at hfile
    · rename_i hcond
      rw [if_pos hcond]
      exact hfile
    · rename_i hcond
      rw [if_neg hcond]
      exact validFileSnapshot_parsed hfile
  · rw [validPlan_parsed_of_ne v hphoto]
    exact h

@[simp] theorem validResult_parsed (operation : Operation) :
    validResult operation v.parsed = validResult operation v := by
  unfold validResult
  cases operation <;> simp

@[simp] theorem repeats_parsed (plan : Json) (name : String) :
    repeats v.parsed plan.parsed name = repeats v plan name := by
  unfold repeats
  simp

@[simp] theorem resultMatchesPlan_parsed (operation : Operation) (plan : Json) :
    resultMatchesPlan operation v.parsed plan.parsed = resultMatchesPlan operation v plan := by
  unfold resultMatchesPlan
  cases operation <;> simp

end Parsed

end TgCli.Payload.M6
