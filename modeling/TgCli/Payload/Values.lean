/-
  TgCli.Payload.Values — THE VALUES OF PLANS AND TERMINALS

  The checks of `account_audit.cpp` on numbers, texts, paths, times and the
  small objects that plans and terminals share.  A string of the model is
  well-formed text, so the checks of its encoding are left out.

  Each check reads the value and its parsed text alike (the lemmas `_parsed`);
  only `validFileSnapshot` asks for unsigned numbers, and parsing keeps those.
-/
import TgCli.Audit.Envelope
import TgCli.Lib.JsonFields

namespace TgCli.Payload

open Lib Audit List Json

/-! ## §1. Numbers. -/

def kRequestSourceBytes : Nat := 16842751

def kChatTitleBytes : Nat := 1048576

def kChatUsernameCount : Nat := 100

def kChatUsernameBytes : Nat := 32

def kSessionStringBytes : Nat := 1048576

def jsonInt64 (v : Json) : Option Int := v.number?.filter fun n => decide (n < 2 ^ 63)

/-- An integer within bounds. -/
def inRange (low high : Int) (v : Json) : Bool :=
  (jsonInt64 v).any fun n => decide (low ≤ n ∧ n ≤ high)

def validInt64 (v : Json) : Bool := (jsonInt64 v).isSome

def validInt32 (v : Json) : Bool := inRange (-2147483648) kMaximumInt32 v

def validNonnegativeInt32 (v : Json) : Bool := inRange 0 kMaximumInt32 v

def validPositiveInt32 (v : Json) : Bool := inRange 1 kMaximumInt32 v

def validInt53 (v : Json) (positive : Bool := false) : Bool :=
  inRange (if positive then 1 else -kMaximumInt53) kMaximumInt53 v

def validMessageId (v : Json) : Bool := (jsonInt64 v).any (· != 0) && validInt53 v

/-- A chat id: any nonzero one. -/
def validChatId (v : Json) : Bool := validInt53 v && v != .int 0

/-- The loop over the ids of an array: each above the one before it. -/
def ascending : Option Int → List (Option Int) → Bool
  | _, [] => true
  | _, none :: _ => false
  | previous, some n :: rest => previous.all (fun p => decide (p < n)) && ascending (some n) rest

def validMessageIdArray (v : Json) (minimum maximum : Nat) : Bool :=
  v.isArr && decide (minimum ≤ v.items.length) && decide (v.items.length ≤ maximum)
    && v.items.all validMessageId && decide (v.items.map jsonInt64).Nodup

def validStrictMessageIdArray (v : Json) : Bool :=
  v.isArr && decide (1 ≤ v.items.length) && decide (v.items.length ≤ 100)
    && v.items.all validMessageId && ascending none (v.items.map jsonInt64)

def validMuteDuration (v : Json) : Bool :=
  (jsonInt64 v).any fun n => decide (1 ≤ n ∧ n ≤ 31622400) || n == kMaximumInt32

/-! ## §2. Texts. -/

def validString (v : Json) (maximum : Nat := kRequestSourceBytes) : Bool :=
  v.str?.any fun s => decide (JsonSize.bytes s ≤ maximum)

def containsNul (s : String) : Bool := s.toList.contains '\x00'

def validUtf8Text (v : Json) (maximumBytes maximumScalars : Nat) (allowEmpty : Bool) : Bool :=
  validString v maximumBytes
    && v.str?.any fun s =>
      (allowEmpty || s != "") && !containsNul s && decide (s.length ≤ maximumScalars)

def validSelectorString (v : Json) : Bool :=
  validString v && v.str?.any fun s => s != "" && !containsNul s

def validArgumentPath (v : Json) : Bool :=
  validString v 4096
    && v.str?.any fun s => s != "" && !containsNul s && s.toList.getLast? != some '/'

/-- A character a file name may not have. -/
def controlScalar (c : Char) : Bool :=
  decide (c.toNat ≤ 0x1f) || decide (0x7f ≤ c.toNat ∧ c.toNat ≤ 0x9f)

def validSafeBasename (v : Json) : Bool :=
  validString v 255
    && v.str?.any fun s =>
      s != "" && s != "." && s != ".." && !s.toList.contains '/' && !s.toList.any controlScalar

/-- `valid_canonical_absolute_path`: the components after the first slash. -/
def validCanonicalAbsolutePath (v : Json) (basename : String) : Bool :=
  validString v 4096
    && v.str?.any fun s =>
      let components := (s.toList.drop 1).splitOn '/'
      decide (2 ≤ JsonSize.bytes s) && s.toList.head? == some '/' && s.toList.getLast? != some '/'
        && !containsNul s
        && components.all (fun c => c != [] && c != ['.'] && c != ['.', '.'])
        && components.getLast? == some basename.toList

def hexadecimal (c : Char) : Bool := ('0' ≤ c && c ≤ '9') || ('a' ≤ c && c ≤ 'f')

/-- `valid_hash`, `valid_digest`. -/
def validDigest (digest : String) : Bool :=
  digest.toList.take 7 == "sha256:".toList && digest.length == 71
    && (digest.toList.drop 7).all hexadecimal

def validHash (v : Json) : Bool := v.str?.any validDigest

def validAccountName (name : String) : Bool :=
  name != "" && decide (name.length ≤ 32)
    && name.toList.all fun c =>
      ('A' ≤ c && c ≤ 'Z') || ('a' ≤ c && c ≤ 'z') || ('0' ≤ c && c ≤ '9') || c == '_' || c == '-'

/-- The value of a decimal digit. -/
def digit (c : Char) : Option Nat := if '0' ≤ c ∧ c ≤ '9' then some (c.toNat - 48) else none

/-- A number written with digits only. -/
def decimal (chars : List Char) : Option Nat :=
  if chars.isEmpty then none
  else chars.foldlM (fun n c => (digit c).map fun d => 10 * n + d) 0

/-- `std::from_chars` of a whole text: a signed integer of 64 bits. -/
def fromChars (chars : List Char) : Option Int :=
  match chars with
  | '-' :: rest => (decimal rest).bind fun n => if n ≤ 2 ^ 63 then some (-(n : Int)) else none
  | _ => (decimal chars).bind fun n => if n < 2 ^ 63 then some (n : Int) else none

def validSessionId (v : Json) : Bool :=
  v.str?.any fun s =>
    s != "" && s != "-0" && s.toList.head? != some '+'
      && !(decide (1 < s.length) && s.toList.head? == some '0')
      && !(decide (2 < s.length) && s.toList.take 2 == ['-', '0'])
      && (fromChars s.toList).isSome

/-! ## §3. Times. -/

def leapYear (year : Nat) : Bool :=
  (year % 4 == 0 && year % 100 != 0) || year % 400 == 0

def monthDays (year month : Nat) : Nat :=
  if month = 2 then (if leapYear year then 29 else 28)
  else if month = 4 ∨ month = 6 ∨ month = 9 ∨ month = 11 then 30
  else 31

/-- The days from the epoch to a date. -/
def daysFromEpoch (year month day : Nat) : Nat :=
  let years := year - 1
  365 * (year - 1970) + (years / 4 - years / 100 + years / 400 - 477)
    + ((List.range month).drop 1 |>.map (monthDays year)).sum + (day - 1)

def timestampUnixSeconds (v : Json) : Option Int :=
  match v.str?.map (·.toList) with
  | some [y1, y2, y3, y4, '-', m1, m2, '-', d1, d2, 'T', h1, h2, ':', n1, n2, ':', s1, s2, 'Z'] => do
      let year ← decimal [y1, y2, y3, y4]
      let month ← decimal [m1, m2]
      let day ← decimal [d1, d2]
      let hour ← decimal [h1, h2]
      let minute ← decimal [n1, n2]
      let second ← decimal [s1, s2]
      if year < 1970 ∨ month < 1 ∨ 12 < month ∨ day < 1 ∨ monthDays year month < day ∨ 23 < hour
          ∨ 59 < minute ∨ 59 < second then none
      else some (daysFromEpoch year month day * 86400 + hour * 3600 + minute * 60 + second)
  | _ => none

def validTimestamp (v : Json) : Bool := (timestampUnixSeconds v).isSome

def validSessionTimestamp (v : Json) : Bool :=
  (timestampUnixSeconds v).any fun n => decide (1 ≤ n ∧ n ≤ kMaximumInt32)

/-! ## §4. Objects. -/

def validUsername (v : Json) : Bool :=
  v.str?.any fun s =>
    s != "" && decide (s.length ≤ kChatUsernameBytes)
      && s.toList.all fun c =>
        ('A' ≤ c && c ≤ 'Z') || ('a' ≤ c && c ≤ 'z') || ('0' ≤ c && c ≤ '9') || c == '_'

/-- One of the given texts. -/
def oneOf (v : Json) (names : List String) : Bool := v.str?.any names.contains

def chatTypes : List String := ["private", "basic_group", "supergroup", "channel"]

def validChatIdentity (v : Json) : Bool :=
  v.exactFields ["id", "title", "type", "is_bot", "usernames"]
    && validInt53 (v.get "id") && validString (v.get "title") kChatTitleBytes
    && (v.get "is_bot").isBool && (v.get "usernames").isArr
    && decide ((v.get "usernames").items.length ≤ kChatUsernameCount)
    && oneOf (v.get "type") chatTypes
    && !(v.get "id" == .int 0 || (v.get "type" != .str "private" && v.get "is_bot" == .bool true))
    && (v.get "usernames").items.all validUsername

def validTopic (v : Json) (kind : String) (int32Only : Bool) : Bool :=
  v.isNull
    || (v.exactFields ["kind", "id"] && v.get "kind" == .str kind && validInt53 (v.get "id") true
        && (!int32Only || (jsonInt64 (v.get "id")).any fun n => decide (n ≤ kMaximumInt32)))

def validSchedule (v : Json) : Bool :=
  v.isNull
    || (v.isObj && v.contains "kind" && (v.get "kind").str?.isSome
        && if v.get "kind" == .str "online" then v.exactFields ["kind"]
          else v.get "kind" == .str "at" && v.exactFields ["kind", "send_date"]
            && validPositiveInt32 (v.get "send_date"))

def validSchedulePlan (schedule serverTime : Json) : Bool :=
  validSchedule schedule
    && if schedule.isNull || schedule.get "kind" == .str "online" then serverTime.isNull
      else
        (jsonInt64 (schedule.get "send_date")).any fun send =>
          (jsonInt64 serverTime).any fun now =>
            decide (now ≤ send - 11 ∧ send - 367 * 86400 ≤ now)

def snapshotFields : List String :=
  ["path", "name", "size", "sha256", "device", "inode", "mtime_ns", "ctime_ns"]

def validFileSnapshot (v : Json) : Bool :=
  v.exactFields snapshotFields && validSafeBasename (v.get "name")
    && validCanonicalAbsolutePath (v.get "path") ((v.get "name").str?.getD "")
    && (v.get "size").isUnsigned && validHash (v.get "sha256") && (v.get "device").isUnsigned
    && (v.get "inode").isUnsigned && validInt64 (v.get "mtime_ns") && validInt64 (v.get "ctime_ns")

def deviceTypes : List String :=
  ["android", "apple", "brave", "chrome", "edge", "firefox", "ipad", "iphone", "linux", "mac",
    "opera", "safari", "ubuntu", "unknown", "vivaldi", "windows", "xbox"]

def validSessionTarget (v : Json) : Bool :=
  v.exactFields
      ["id", "is_current", "is_password_pending", "is_unconfirmed", "device_type",
        "application_name", "application_version", "device_model", "platform", "system_version",
        "last_active_date"]
    && validSessionId (v.get "id") && v.get "is_current" == .bool false
    && (v.get "is_password_pending").isBool && (v.get "is_unconfirmed").isBool
    && validString (v.get "application_name") kSessionStringBytes
    && validString (v.get "application_version") kSessionStringBytes
    && validString (v.get "device_model") kSessionStringBytes
    && validString (v.get "platform") kSessionStringBytes
    && validString (v.get "system_version") kSessionStringBytes
    && oneOf (v.get "device_type") deviceTypes
    && ((v.get "last_active_date").isNull || validSessionTimestamp (v.get "last_active_date"))

/-- The names of the topics of messages. -/
def topicKinds : List String := ["forum", "thread", "direct", "saved"]

def validMessageTopic (v : Json) : Bool :=
  v.isNull
    || (v.exactFields ["kind", "id"] && oneOf (v.get "kind") topicKinds
        && validInt53 (v.get "id") true
        && (v.get "kind" != .str "forum"
            || (jsonInt64 (v.get "id")).any fun n => decide (n ≤ kMaximumInt32)))

def messageTypes : List String := ["text", "photo", "video", "doc", "voice", "other"]

/-- The sender of a message. -/
def validMessageSender (v : Json) : Bool :=
  v.exactFields ["type", "id"] && (v.get "type").str?.isSome
    && if v.get "type" == .str "user" then validInt53 (v.get "id") true
      else v.get "type" == .str "chat" && validChatId (v.get "id")

def validMessageWriteResult (v : Json) : Bool :=
  v.exactFields
      ["id", "chat_id", "date", "sender", "is_outgoing", "topic", "type", "text", "scheduled"]
    && validMessageId (v.get "id") && validChatId (v.get "chat_id") && (v.get "is_outgoing").isBool
    && validMessageTopic (v.get "topic") && validString (v.get "text") kMessageTextBytes
    && (v.get "scheduled").isBool && oneOf (v.get "type") messageTypes
    && ((v.get "text").str?.any fun s => decide (s.length ≤ kMessageTextScalars))
    && v.get "scheduled" == .bool (v.get "date").isNull
    && ((v.get "date").isNull || validTimestamp (v.get "date"))
    && validMessageSender (v.get "sender")

def failureReasons : List String := ["upstream_null", "tdlib_error", "deleted_before_confirmation"]

def validForwardItem (v : Json) : Bool :=
  v.isObj && v.contains "source_id" && validMessageId (v.get "source_id") && v.contains "status"
    && (v.get "status").str?.isSome
    && if v.get "status" == .str "pending" then
        v.exactFields ["source_id", "status", "temporary_message_id"]
          && validMessageId (v.get "temporary_message_id")
      else if v.get "status" == .str "sent" then
        v.exactFields ["source_id", "status", "message"]
          && validMessageWriteResult (v.get "message")
      else
        v.get "status" == .str "failed"
          && v.exactFields ["source_id", "status", "failure_reason", "tdlib_code", "retry_after"]
          && oneOf (v.get "failure_reason") failureReasons
          && ((v.get "tdlib_code").isNull || validInt32 (v.get "tdlib_code"))
          && ((v.get "retry_after").isNull || validNonnegativeInt32 (v.get "retry_after"))
          && if v.get "failure_reason" != .str "tdlib_error" then
              (v.get "tdlib_code").isNull && (v.get "retry_after").isNull
            else
              !(v.get "tdlib_code").isNull
                && if v.get "tdlib_code" == .int 429 then !(v.get "retry_after").isNull
                  else (v.get "retry_after").isNull

def validForwardItems (v : Json) (allowEmpty requireTerminal : Bool) : Bool :=
  v.isArr && (allowEmpty || !v.items.isEmpty) && decide (v.items.length ≤ kMaximumForwardItems)
    && v.items.all validForwardItem
    && ascending none (v.items.map fun item => jsonInt64 (item.get "source_id"))
    && (!requireTerminal || v.items.all fun item => item.get "status" != .str "pending")
    && decide ((v.items.filter fun item => item.get "status" == .str "pending").map fun item =>
        jsonInt64 (item.get "temporary_message_id")).Nodup
    && decide ((v.items.filter fun item => item.get "status" == .str "sent").map fun item =>
        jsonInt64 ((item.get "message").get "id")).Nodup

/-! ## §5. Parsed values. -/

section Parsed

variable (v : Json)

@[simp] theorem jsonInt64_parsed : jsonInt64 v.parsed = jsonInt64 v := by
  unfold jsonInt64
  rw [number?_parsed]

@[simp] theorem inRange_parsed (low high : Int) : inRange low high v.parsed = inRange low high v := by
  unfold inRange
  rw [jsonInt64_parsed]

@[simp] theorem validInt64_parsed : validInt64 v.parsed = validInt64 v := by
  unfold validInt64
  rw [jsonInt64_parsed]

@[simp] theorem validInt32_parsed : validInt32 v.parsed = validInt32 v := inRange_parsed v _ _

@[simp] theorem validNonnegativeInt32_parsed :
    validNonnegativeInt32 v.parsed = validNonnegativeInt32 v := inRange_parsed v _ _

@[simp] theorem validPositiveInt32_parsed : validPositiveInt32 v.parsed = validPositiveInt32 v :=
  inRange_parsed v _ _

@[simp] theorem validInt53_parsed (positive : Bool) :
    validInt53 v.parsed positive = validInt53 v positive := inRange_parsed v _ _

@[simp] theorem validMessageId_parsed : validMessageId v.parsed = validMessageId v := by
  unfold validMessageId
  simp only [jsonInt64_parsed, validInt53_parsed]

@[simp] theorem bne_parsed (w : Json) : (v.parsed != w) = (v != w) := by
  simp only [bne, parsed_beq]

@[simp] theorem parsed_bne (w : Json) : (w != v.parsed) = (w != v) := by
  simp only [bne, beq_parsed]

@[simp] theorem validChatId_parsed : validChatId v.parsed = validChatId v := by
  unfold validChatId
  simp

@[simp] theorem validMuteDuration_parsed : validMuteDuration v.parsed = validMuteDuration v := by
  unfold validMuteDuration
  rw [jsonInt64_parsed]

/-- A check of the items that reads a parsed item alike. -/
theorem all_parsed {f : Json → Bool} (h : ∀ v, f v.parsed = f v) (items : List Json) :
    (items.map parsed).all f = items.all f := by
  rw [all_map]
  congr 1
  exact funext h

theorem map_parsed {α : Type} {f : Json → α} (h : ∀ v, f v.parsed = f v) (items : List Json) :
    (items.map parsed).map f = items.map f := by
  rw [map_map]
  exact map_congr_left fun v _ => h v

@[simp] theorem validMessageIdArray_parsed (minimum maximum : Nat) :
    validMessageIdArray v.parsed minimum maximum = validMessageIdArray v minimum maximum := by
  unfold validMessageIdArray
  simp [isArr_parsed, items_parsed, all_parsed validMessageId_parsed, map_parsed
    jsonInt64_parsed]

@[simp] theorem validStrictMessageIdArray_parsed :
    validStrictMessageIdArray v.parsed = validStrictMessageIdArray v := by
  unfold validStrictMessageIdArray
  simp [isArr_parsed, items_parsed, all_parsed validMessageId_parsed, map_parsed
    jsonInt64_parsed]

@[simp] theorem validString_parsed (maximum : Nat) :
    validString v.parsed maximum = validString v maximum := by
  unfold validString
  rw [str?_parsed]

@[simp] theorem validUtf8Text_parsed (bytes scalars : Nat) (empty : Bool) :
    validUtf8Text v.parsed bytes scalars empty = validUtf8Text v bytes scalars empty := by
  unfold validUtf8Text
  rw [validString_parsed, str?_parsed]

@[simp] theorem validSelectorString_parsed :
    validSelectorString v.parsed = validSelectorString v := by
  unfold validSelectorString
  rw [validString_parsed, str?_parsed]

@[simp] theorem validArgumentPath_parsed : validArgumentPath v.parsed = validArgumentPath v := by
  unfold validArgumentPath
  rw [validString_parsed, str?_parsed]

@[simp] theorem validSafeBasename_parsed : validSafeBasename v.parsed = validSafeBasename v := by
  unfold validSafeBasename
  rw [validString_parsed, str?_parsed]

@[simp] theorem validCanonicalAbsolutePath_parsed (basename : String) :
    validCanonicalAbsolutePath v.parsed basename = validCanonicalAbsolutePath v basename := by
  unfold validCanonicalAbsolutePath
  rw [validString_parsed, str?_parsed]

@[simp] theorem validHash_parsed : validHash v.parsed = validHash v := by
  unfold validHash
  rw [str?_parsed]

@[simp] theorem validSessionId_parsed : validSessionId v.parsed = validSessionId v := by
  unfold validSessionId
  rw [str?_parsed]

@[simp] theorem timestampUnixSeconds_parsed :
    timestampUnixSeconds v.parsed = timestampUnixSeconds v := by
  unfold timestampUnixSeconds
  rw [str?_parsed]

@[simp] theorem validTimestamp_parsed : validTimestamp v.parsed = validTimestamp v := by
  unfold validTimestamp
  rw [timestampUnixSeconds_parsed]

@[simp] theorem validSessionTimestamp_parsed :
    validSessionTimestamp v.parsed = validSessionTimestamp v := by
  unfold validSessionTimestamp
  rw [timestampUnixSeconds_parsed]

@[simp] theorem validUsername_parsed : validUsername v.parsed = validUsername v := by
  unfold validUsername
  rw [str?_parsed]

@[simp] theorem oneOf_parsed (names : List String) : oneOf v.parsed names = oneOf v names := by
  unfold oneOf
  rw [str?_parsed]

@[simp] theorem validChatIdentity_parsed : validChatIdentity v.parsed = validChatIdentity v := by
  unfold validChatIdentity
  simp [all_parsed validUsername_parsed]

@[simp] theorem validTopic_parsed (kind : String) (int32Only : Bool) :
    validTopic v.parsed kind int32Only = validTopic v kind int32Only := by
  unfold validTopic
  simp

@[simp] theorem validSchedule_parsed : validSchedule v.parsed = validSchedule v := by
  unfold validSchedule
  simp

@[simp] theorem validSchedulePlan_parsed (serverTime : Json) :
    validSchedulePlan v.parsed serverTime.parsed = validSchedulePlan v serverTime := by
  unfold validSchedulePlan
  simp

@[simp] theorem validSessionTarget_parsed : validSessionTarget v.parsed = validSessionTarget v := by
  unfold validSessionTarget
  simp

@[simp] theorem validMessageTopic_parsed : validMessageTopic v.parsed = validMessageTopic v := by
  unfold validMessageTopic
  simp

@[simp] theorem validMessageSender_parsed : validMessageSender v.parsed = validMessageSender v := by
  unfold validMessageSender
  simp

@[simp] theorem validMessageWriteResult_parsed :
    validMessageWriteResult v.parsed = validMessageWriteResult v := by
  unfold validMessageWriteResult
  simp

@[simp] theorem validForwardItem_parsed : validForwardItem v.parsed = validForwardItem v := by
  unfold validForwardItem
  simp

@[simp] theorem validForwardItems_parsed (allowEmpty requireTerminal : Bool) :
    validForwardItems v.parsed allowEmpty requireTerminal
      = validForwardItems v allowEmpty requireTerminal := by
  unfold validForwardItems
  simp [all_parsed validForwardItem_parsed, filter_map, Function.comp_def]

/-- The numbers of a file are unsigned, and stay so. -/
theorem validFileSnapshot_parsed {v : Json} (h : validFileSnapshot v) :
    validFileSnapshot v.parsed := by
  unfold validFileSnapshot at h ⊢
  simp only [Bool.and_eq_true] at h
  obtain ⟨⟨⟨⟨⟨⟨⟨⟨hfld, hname⟩, hpath⟩, hsize⟩, hhash⟩, hdev⟩, hinode⟩, hmtime⟩, hctime⟩ := h
  simp [hfld, hname, hpath, hhash, hmtime, hctime, isUnsigned_parsed hsize,
    isUnsigned_parsed hdev, isUnsigned_parsed hinode]

end Parsed

end TgCli.Payload
