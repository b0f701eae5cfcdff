/-
  TgCli.Payload.Bounds — CHECKPOINTS, OUTCOMES AND HOW LONG A TERMINAL CAN BE

  The documents of the audit log as they are written and read:
  `valid_checkpoint_data`, `validate_checkpoint_impl` and
  `validate_outcome_impl` of `account_audit.cpp`, with the texts of their
  errors.

  Bounds on the canonical length of what the validators of `account_audit.cpp`
  accept: ids, messages, forward items, results and stored errors.  The results
  of the later operations and the path of `AUDIT_INCOMPLETE` have no bound of
  their own.

  Main results:
    * `validTerminal_of_checkpoint`, `validTerminal_of_outcome` — a terminal in
      an accepted document is valid for its operation;
    * `within_validMessageIdArray`, `within_validForwardItems` — the two vectors;
    * `within_validTerminal` — the terminals.
-/
import TgCli.Payload.Terminal

namespace TgCli.Payload

open Lib Audit List Json Bool

/-! ## §1. What a terminal proves. -/

def terminalProvesMutation (operation : Operation) (terminal : Json) : Bool :=
  validTerminal operation terminal
    && (terminal.get "kind" == .str "result"
      || if operation = .msgForward then
          if terminal.get "code" == .str "TIMEOUT" then
            ((terminal.get "details").get "items").items.any fun item =>
              item.get "status" == .str "sent"
          else oneOf (terminal.get "code") ["FORWARD_PARTIAL", "INTERNAL"]
        else
          terminal.get "code" == .str "INTERNAL"
            && (operation == .send || operation == .msgEdit || operation == .savedAttach))

def terminalProvesExplicitNoMutation (operation : Operation) (terminal : Json) : Bool :=
  validTerminal operation terminal && terminal.get "kind" == .str "error"
    && if operation = .chatJoin then
        oneOf (terminal.get "code") ["JOIN_APPROVAL_REQUIRED", "JOIN_DECLINED"]
      else
        sendsMessage operation && oneOf (terminal.get "code") ["TDLIB_ERROR", "RATE_LIMITED"]

/-! ## §2. Checkpoints. -/

def serializedSizeAtMost (v : Json) (maximum : Nat) : Bool := decide (v.dumpSize ≤ maximum)

def validCheckpointData (operation : Operation) (stage : Stage) (v : Json) : Bool :=
  match stage with
  | .idempotencyPending =>
    operation.idempotent
      && v.exactFields ["key_hash", "request_fingerprint", "expires_at", "reserved_terminal_bytes"]
      && validHash (v.get "key_hash") && validHash (v.get "request_fingerprint")
      && (v.get "expires_at").isUnsigned && (v.get "reserved_terminal_bytes").isUnsigned
  | .spoolReady =>
    operation.usesSpool && v.exactFields ["file", "relative_path"]
      && validFileSnapshot (v.get "file") && validString (v.get "relative_path") 4096
  | .dispatchStarted =>
    v.exactFields ["tdlib_function", "dispatch_token", "client_generation"]
      && ((v.get "tdlib_function").str?.any fun name =>
        name != "" && (expectedTdlibFunctions operation).contains name)
      && (v.get "dispatch_token").str?.any validInvocationId
      && (v.get "client_generation").isUnsigned
  | .temporaryIdsObserved =>
    (sendsMessage operation || operation == .msgForward)
      && v.exactFields ["temporary_message_ids"]
      && validMessageIdArray (v.get "temporary_message_ids") 1 100
  | .forwardProgress =>
    operation == .msgForward && v.exactFields ["items"]
      && validForwardItems (v.get "items") false false
  | .mutationConfirmed =>
    v.exactFields ["terminal"] && terminalProvesMutation operation (v.get "terminal")

def validCommonIdentity (v : Json) : Bool :=
  (v.get "invocation_id").str?.any validInvocationId && validTimestamp (v.get "timestamp")
    && (v.get "account").str?.any validAccountName
    && ((v.get "command").str?.bind parseOperation).isSome

def checkpointFields : List String :=
  ["schema_version", "phase", "invocation_id", "timestamp", "account", "command",
    "checkpoint_sequence", "stage", "data"]

/-- The ranges of the integers of an idempotency checkpoint. -/
def validIdempotencyIntegers (data : Json) : Bool :=
  ((data.get "expires_at").number?.all fun n : Int => decide (n ≤ kMaximumUnixSeconds))
    && (data.get "reserved_terminal_bytes").number?.all fun n : Int => decide (n < 2 ^ 32)

/-- The path of a spool checkpoint is that of its invocation and file. -/
def canonicalSpoolPath (document : Json) : Bool :=
  (document.get "data").get "relative_path"
    == .str (relativeSpoolPath ((document.get "invocation_id").str?.getD "")
        ((((document.get "data").get "file").get "name").str?.getD ""))

/-- `validate_checkpoint_impl`. -/
def validateCheckpoint (document : Json) : Except String Unit :=
  if !(document.exactFields checkpointFields && document.get "schema_version" == .int 2
      && document.get "phase" == .str "checkpoint" && validCommonIdentity document
      && (document.get "checkpoint_sequence").isUnsigned
      && ((document.get "checkpoint_sequence").number?.any fun n => decide (0 < n ∧ n < 2 ^ 32))
      && (document.get "stage").str?.isSome) then .error "invalid v2 checkpoint envelope"
  else
    match (document.get "command").str?.bind parseOperation with
    | none => .error "invalid v2 checkpoint operation"
    | some operation =>
      match (document.get "stage").str?.bind parseStage with
      | none => .error "invalid v2 checkpoint data"
      | some stage =>
        if !validCheckpointData operation stage (document.get "data") then
          .error "invalid v2 checkpoint data"
        else if stage = .idempotencyPending
            ∧ validIdempotencyIntegers (document.get "data") = false then
          .error "v2 idempotency checkpoint integer is out of range"
        else if stage = .spoolReady ∧ canonicalSpoolPath document = false then
          .error "v2 spool checkpoint path is not canonical"
        else if stage = .mutationConfirmed
            ∧ serializedSizeAtMost ((document.get "data").get "terminal")
              (terminalByteCeiling operation) = false then
          .error "v2 mutation terminal exceeds its operation ceiling"
        else if !(validJsonTree document
            && serializedSizeAtMost document (checkpointByteCeiling stage)) then
          .error "v2 checkpoint exceeds its byte ceiling"
        else .ok ()

/-! ## §3. Outcomes. -/

def outcomeFields : List String :=
  ["schema_version", "phase", "invocation_id", "timestamp", "account", "command", "success",
    "mutation_state", "completed_stages", "terminal"]

/-- The relations of `validate_outcome_impl` between the stages, the mutation
state and the terminal. -/
def outcomeRelations (operation : Operation) (completed : List Stage) (success : Bool)
    (mutation : String) (terminal : Json) : Bool :=
  let dispatched := completed.contains .dispatchStarted
  let progress := completed.contains .forwardProgress
  let proof := completed.contains .mutationConfirmed
  let noop := operation == .chatMarkRead && success && mutation == "none" && !dispatched && !proof
    && terminal.get "kind" == .str "result"
    && ((terminal.get "data").get "last_read_message_id").isNull
  let spoolUnavailable := terminal.get "kind" == .str "error"
    && terminal.get "code" == .str "SPOOL_UNAVAILABLE"
  legalCompletedStages operation completed
    && ((terminal.get "kind" == .str "result") == success)
    && !(success && !noop && (mutation != "confirmed" || !proof))
    && !(!dispatched && mutation != "none") && !(proof && mutation != "confirmed")
    && !(dispatched && !progress && !proof && mutation != "possible"
      && !(mutation == "none" && terminalProvesExplicitNoMutation operation terminal))
    && !(mutation == "confirmed" && !proof && !progress)
    && !((mutation == "possible" || mutation == "confirmed") && !dispatched)
    && !(spoolUnavailable
      && (!operation.usesSpool || dispatched || mutation != "none"
        || completed.any fun stage => stage != .idempotencyPending && stage != .spoolReady))

/-- The account and the prefix an error repeats are those of its outcome. -/
def repeatsEnvelope (document terminal : Json) : Except String Unit :=
  let error := terminal.get "kind" == .str "error"
  let details := terminal.get "details"
  if error && details.contains "account" && details.get "account" != document.get "account" then
    .error "v2 outcome terminal account contradicts the envelope"
  else if error && terminal.get "code" == .str "AUDIT_INCOMPLETE"
      && (details.get "mutation_state" != document.get "mutation_state"
        || details.get "completed_stages" != document.get "completed_stages") then
    .error "v2 incomplete terminal contradicts the outcome prefix"
  else .ok ()

/-- `validate_outcome_impl`. -/
def validateOutcome (document : Json) : Except String Unit :=
  if !(document.exactFields outcomeFields && document.get "schema_version" == .int 2
      && document.get "phase" == .str "outcome" && validCommonIdentity document
      && (document.get "success").isBool && (document.get "mutation_state").str?.isSome
      && (document.get "completed_stages").isArr) then .error "invalid v2 outcome envelope"
  else
    match (document.get "command").str?.bind parseOperation with
    | none => .error "invalid v2 outcome terminal"
    | some operation =>
      if !validTerminal operation (document.get "terminal") then
        .error "invalid v2 outcome terminal"
      else if !oneOf (document.get "mutation_state") mutationNames then
        .error "invalid v2 outcome mutation state"
      else
        match parseStages (document.get "completed_stages") with
        | none => .error "invalid v2 outcome stage"
        | some completed =>
          if !decide completed.Nodup then .error "invalid v2 outcome stage"
          else
            match repeatsEnvelope document (document.get "terminal") with
            | .error text => .error text
            | .ok () =>
              if outcomeRelations operation completed
                  (document.get "success" == .bool true)
                  ((document.get "mutation_state").str?.getD "") (document.get "terminal")
                && serializedSizeAtMost (document.get "terminal")
                  (terminalByteCeiling operation)
                && serializedSizeAtMost document kVectorJsonBytes then .ok ()
              else .error "invalid v2 outcome terminal"

/-! ## §4. What an accepted document holds. -/

theorem ite_error_eq_ok {c : Prop} [Decidable c] {text : String} {e : Except String Unit}
    (h : (if c then .error text else e) = .ok ()) : ¬ c ∧ e = .ok () := by
  split at h
  · cases h
  · rename_i hc
    exact ⟨hc, h⟩

variable {operation : Operation} {document : Json}

section

variable (hcmd : document.get "command" = .str operation.name)
include hcmd

theorem parsed_command :
    (document.get "command").str?.bind parseOperation = some operation := by
  rw [hcmd]
  exact parseOperation_name operation

/-- The data of an accepted checkpoint. -/
theorem data_of_checkpoint
    (hstg : document.get "stage" = .str stage.name) (h : validateCheckpoint document = .ok ()) :
    validCheckpointData operation stage (document.get "data") := by
  obtain ⟨-, h⟩ := ite_error_eq_ok h
  have hparse : (document.get "stage").str?.bind parseStage = some stage := by
    rw [hstg]
    show parseStage stage.name = some stage
    cases stage <;> decide
  rw [parsed_command hcmd] at h
  rw [hparse] at h
  obtain ⟨hdata, -⟩ := ite_error_eq_ok h
  simpa using hdata

/-- A terminal in an accepted checkpoint is valid. -/
theorem validTerminal_of_checkpoint
    (hstg : document.get "stage" = .str (Stage.name .mutationConfirmed))
    (h : validateCheckpoint document = .ok ()) :
    validTerminal operation ((document.get "data").get "terminal") := by
  have hdata := data_of_checkpoint hcmd hstg h
  unfold validCheckpointData at hdata
  simp only [Bool.and_eq_true] at hdata
  exact (Bool.and_eq_true_iff.mp hdata.2).1

/-- A terminal in an accepted outcome is valid. -/
theorem validTerminal_of_outcome
    (h : validateOutcome document = .ok ()) :
    validTerminal operation (document.get "terminal") := by
  obtain ⟨-, h⟩ := ite_error_eq_ok h
  rw [parsed_command hcmd] at h
  obtain ⟨hterm, -⟩ := ite_error_eq_ok h
  simpa using hterm

end

/-! ## §5. Values. -/

section Values

variable {v : Json}

/-- A number that passes a test that bounds it. -/
theorem within_jsonInt64 {p : Int → Bool} (hp : ∀ n, p n → n.natAbs < 10 ^ 16)
    (h : (jsonInt64 v).any p) : v.Within 68 := by
  unfold jsonInt64 at h
  cases hnum : v.number? with
  | none =>
    rw [hnum] at h
    cases h
  | some n =>
    have hn : p n := by
      by_cases hsmall : n < 2 ^ 63
      · rw [hnum, Option.filter_some_pos (by simpa using hsmall)] at h
        exact h
      · rw [hnum, Option.filter_some_neg (by simpa using hsmall)] at h
        cases h
    exact within_number hnum (by decide) (hp n hn)

theorem within_inRange (hlow : -(10 ^ 16) < low) (hhigh : high < 10 ^ 16)
    (h : inRange low high v) : v.Within 68 := by
  refine within_jsonInt64 (fun n hn => ?_) h
  have hrange := of_decide_eq_true hn
  omega

theorem within_validInt53 (h : validInt53 v positive) : v.Within 68 := by
  refine within_inRange ?_ ?_ h
  · cases positive <;> decide
  · decide

theorem within_validInt32 (h : validInt32 v) : v.Within 68 :=
  within_inRange (by decide) (by decide) h

theorem within_validNonnegativeInt32 (h : validNonnegativeInt32 v) : v.Within 68 :=
  within_inRange (by decide) (by decide) h

theorem within_validMessageId (h : validMessageId v) : v.Within 68 := by
  exact within_validInt53 (and_eq_true_iff.mp h).2

theorem within_validChatId (h : validChatId v) : v.Within 68 := by
  exact within_validInt53 (and_eq_true_iff.mp h).1

theorem within_isBool (h : v.isBool) : v.Within 5 := by
  cases v with
  | bool b => cases b <;> decide
  | _ => cases h

theorem within_beq_bool (h : (v == .bool b)) : v.Within 5 := by
  rw [beq_bool.mp h]
  cases b <;> decide

theorem within_isNull (h : v.isNull) : v.Within 4 := by
  cases v with
  | null => decide
  | _ => cases h

variable {s code : String} {n : Nat} {allowEmpty : Bool} {operation : Operation} {message : Json}

theorem within_nullOr {valid : Bool} (hn : 4 ≤ n) (hp : valid → v.Within n)
    (h : (v.isNull || valid)) : v.Within n := by
  rw [or_eq_true] at h
  rcases h with hnull | h
  · exact (within_isNull hnull).mono hn
  · exact hp h

theorem within_beq_str (hs : 2 + 6 * s.length ≤ n) (h : (v == .str s)) : v.Within n := by
  rw [beq_str.mp h]
  exact (within_str le_rfl).mono hs

theorem within_oneOf (hnames : ∀ name ∈ names, 2 + 6 * name.length ≤ n)
    (h : oneOf v names) : v.Within n := by
  cases v with
  | str s =>
    have hmem : s ∈ names := contains_iff_mem.mp h
    exact (within_str le_rfl).mono (hnames s hmem)
  | _ => cases h

/-- A text has at most as many characters as bytes. -/
theorem length_le_bytes (s : String) : s.length ≤ JsonSize.bytes s := by
  unfold JsonSize.bytes
  rw [← String.length_toList]
  induction s.toList with
  | nil => exact Nat.le_refl 0
  | cons c rest ih =>
    have hpos : 0 < c.utf8Size := Char.utf8Size_pos c
    rw [length_cons, map_cons, sum_cons]
    omega

theorem within_validString (h : validString v n) : v.Within (2 + 6 * n) := by
  cases v with
  | str s =>
    have hbytes : JsonSize.bytes s ≤ n := of_decide_eq_true h
    exact within_str (le_trans (length_le_bytes s) hbytes)
  | _ => cases h

theorem within_validTimestamp (h : validTimestamp v) : v.Within 122 := by
  unfold validTimestamp timestampUnixSeconds at h
  cases v with
  | str s =>
    dsimp only [str?, Option.map_some] at h
    split at h
    · rename_i hchars
      have hlen : s.length = 20 := by
        rw [← String.length_toList, Option.some.inj hchars]
        rfl
      exact within_str (Nat.le_of_eq hlen)
    · cases h
  | _ => cases h

/-! ## §6. Messages. -/

theorem within_validMessageSender (h : validMessageSender v) : v.Within 200 := by
  unfold validMessageSender at h
  simp only [and_eq_true] at h
  obtain ⟨⟨hfld, -⟩, hsender⟩ := h
  have hparts : (v.get "type").Within 26 ∧ (v.get "id").Within 68 := by
    split at hsender
    · rename_i htype
      exact ⟨within_beq_str (by decide) htype, within_validInt53 hsender⟩
    · rw [and_eq_true] at hsender
      exact ⟨within_beq_str (by decide) hsender.1, within_validChatId hsender.2⟩
  exact within_of_fields [26, 68] hfld ⟨hparts.1, hparts.2, trivial⟩ (by decide)

theorem within_validMessageTopic (h : validMessageTopic v) : v.Within 200 := by
  refine within_nullOr (by decide) (fun h => ?_) h
  simp only [and_eq_true] at h
  obtain ⟨⟨⟨hfld, hkind⟩, hid⟩, -⟩ := h
  exact within_of_fields [38, 68] hfld
    ⟨within_oneOf (by decide) hkind, within_validInt53 hid, trivial⟩ (by decide)

/-- **A message of a result.** -/
theorem within_validMessageWriteResult (h : validMessageWriteResult v) : v.Within 26000 := by
  unfold validMessageWriteResult at h
  simp only [and_eq_true] at h
  obtain ⟨⟨⟨⟨⟨⟨⟨⟨⟨⟨⟨hfld, hid⟩, hchat⟩, houtgoing⟩, htopic⟩, -⟩, hscheduled⟩, htype⟩, htext⟩, -⟩,
    hdate⟩, hsender⟩ := h
  have htext' : (v.get "text").Within 24578 := by
    cases hcase : v.get "text" with
    | str s =>
      rw [hcase] at htext
      exact within_str (of_decide_eq_true htext)
    | _ => rw [hcase] at htext; cases htext
  exact within_of_fields [68, 68, 122, 200, 5, 200, 32, 24578, 5] hfld
    ⟨within_validMessageId hid, within_validChatId hchat,
      within_nullOr (by decide) within_validTimestamp hdate, within_validMessageSender hsender,
      within_isBool houtgoing, within_validMessageTopic htopic, within_oneOf (by decide) htype, htext',
      within_isBool hscheduled, trivial⟩ (by decide)

/-! ## §7. Vectors. -/

/-- **The ids of an array.** -/
theorem within_validMessageIdArray {minimum maximum : Nat}
    (h : validMessageIdArray v minimum maximum) : v.Within (2 + maximum * 69) := by
  unfold validMessageIdArray at h
  simp only [and_eq_true, decide_eq_true_eq, all_eq_true] at h
  exact within_items h.1.1.1.1 h.1.1.2 fun item hit => within_validMessageId (h.1.2 item hit)

/-- One item: a pending one, a message or a failure. -/
theorem within_validForwardItem (h : validForwardItem v) : v.Within 26200 := by
  unfold validForwardItem at h
  simp only [and_eq_true] at h
  obtain ⟨⟨⟨⟨⟨-, -⟩, hsrc⟩, -⟩, -⟩, hit⟩ := h
  have hsrc' := within_validMessageId hsrc
  split at hit
  · rename_i hstat
    rw [and_eq_true] at hit
    exact within_of_fields [68, 44, 68] hit.1
      ⟨hsrc', within_beq_str (by decide) hstat, within_validMessageId hit.2, trivial⟩ (by decide)
  · split at hit
    · rename_i hstat
      rw [and_eq_true] at hit
      exact within_of_fields [68, 26, 26000] hit.1 ⟨hsrc', within_beq_str (by decide) hstat,
        within_validMessageWriteResult hit.2, trivial⟩ (by decide)
    · simp only [and_eq_true] at hit
      obtain ⟨⟨⟨⟨⟨hstat, hfld⟩, hrsn⟩, hcode⟩, hretry⟩, -⟩ := hit
      exact within_of_fields [68, 38, 164, 68, 68] hfld
        ⟨hsrc', within_beq_str (by decide) hstat, within_oneOf (by decide) hrsn,
          within_nullOr (by decide) within_validInt32 hcode,
          within_nullOr (by decide) within_validNonnegativeInt32 hretry, trivial⟩ (by decide)

/-- The items of a list. -/
theorem within_forwardItems (harr : v.isArr) (hcnt : v.items.length ≤ 100)
    (hall : ∀ item ∈ v.items, validForwardItem item) (hn : 2620102 ≤ n) : v.Within n := by
  have hitems := within_items harr hcnt fun item hit => within_validForwardItem (hall item hit)
  exact hitems.mono hn

/-- **The items of a forward.** -/
theorem within_validForwardItems
    (h : validForwardItems v allowEmpty requireTerminal) : v.Within 2620102 := by
  unfold validForwardItems at h
  simp only [and_eq_true, decide_eq_true_eq, all_eq_true] at h
  exact within_forwardItems h.1.1.1.1.1.1.1 h.1.1.1.1.1.2 h.1.1.1.1.2 le_rfl

/-! ## §8. Results. -/

theorem within_validStrictMessageIdArray (h : validStrictMessageIdArray v) : v.Within 6902 := by
  unfold validStrictMessageIdArray at h
  simp only [and_eq_true, decide_eq_true_eq, all_eq_true] at h
  exact within_items h.1.1.1.1 h.1.1.2 fun item hit => within_validMessageId (h.1.2 item hit)

theorem within_validDuration (h : validDuration operation v) : v.Within 68 := by
  unfold validDuration at h
  split at h
  · refine within_jsonInt64 (fun n hn => ?_) h
    rw [or_eq_true, decide_eq_true_eq, beq_iff_eq] at hn
    unfold kMaximumInt32 at hn
    omega
  · have hzero : (jsonInt64 v).any (· == 0) := by
      rw [beq_iff_eq.mp h]
      rfl
    refine within_jsonInt64 (fun n hn => ?_) hzero
    rw [beq_iff_eq.mp hn]
    decide

/-- **The results of the first operations.** -/
theorem within_validResultData (hkeyed : operation.idempotent) (hm6 : operation.isM6 = false)
    (h : validResultData operation v) :
    v.Within (if operation = .msgForward then 2621000 else 26000) := by
  unfold validResultData at h
  cases operation with
  | send | msgEdit | savedAttach => exact within_validMessageWriteResult h
  | msgDelete =>
    simp only [and_eq_true] at h
    obtain ⟨⟨⟨⟨hfld, hchat⟩, hids⟩, hall⟩, hdel⟩ := h
    exact within_of_fields [68, 6902, 5, 5] hfld
      ⟨within_validChatId hchat, within_validStrictMessageIdArray hids, within_isBool hall,
        within_beq_bool hdel, trivial⟩ (by decide)
  | msgForward =>
    simp only [and_eq_true, decide_eq_true_eq, all_eq_true] at h
    obtain ⟨⟨⟨⟨⟨⟨⟨hfld, hfrom⟩, hto⟩, harr⟩, -⟩, hcnt⟩, hitems⟩, -⟩ := h
    have hsize := within_forwardItems harr hcnt (fun item hit => (hitems item hit).1)
      le_rfl
    exact within_of_fields [68, 68, 2620102] hfld
      ⟨within_validChatId hfrom, within_validChatId hto, hsize, trivial⟩ (by decide)
  | msgReact =>
    simp only [and_eq_true] at h
    obtain ⟨⟨⟨⟨⟨hfld, hchat⟩, hid⟩, hreaction⟩, hrem⟩, hbig⟩ := h
    exact within_of_fields [68, 68, 386, 5, 5] hfld
      ⟨within_validChatId hchat, within_validMessageId hid,
        within_validString (and_eq_true_iff.mp hreaction).1,
        within_isBool hrem, within_isBool hbig, trivial⟩ (by decide)
  | msgPin | msgUnpin =>
    simp only [and_eq_true] at h
    obtain ⟨⟨⟨hfld, hchat⟩, hid⟩, hpin⟩ := h
    exact within_of_fields [68, 68, 5] hfld
      ⟨within_validChatId hchat, within_validMessageId hid, within_beq_bool hpin, trivial⟩ (by decide)
  | chatMarkRead =>
    simp only [and_eq_true] at h
    obtain ⟨⟨⟨hfld, hchat⟩, hlast⟩, hmarked⟩ := h
    exact within_of_fields [68, 68, 5] hfld
      ⟨within_validChatId hchat, within_nullOr (by decide) within_validMessageId hlast,
        within_beq_bool hmarked, trivial⟩ (by decide)
  | chatMute | chatUnmute =>
    simp only [and_eq_true] at h
    obtain ⟨⟨⟨hfld, hchat⟩, hmuted⟩, hduration⟩ := h
    exact within_of_fields [68, 5, 68] hfld
      ⟨within_validChatId hchat, within_beq_bool hmuted, within_validDuration hduration, trivial⟩
      (by decide)
  | chatPin | chatUnpin =>
    simp only [and_eq_true] at h
    obtain ⟨⟨⟨hfld, hchat⟩, hlist⟩, hpin⟩ := h
    exact within_of_fields [68, 44, 5] hfld
      ⟨within_validChatId hchat, within_oneOf (by decide) hlist, within_beq_bool hpin, trivial⟩
      (by decide)
  | chatArchive | chatUnarchive | chatLeave =>
    simp only [and_eq_true] at h
    obtain ⟨⟨hfld, hchat⟩, hnow⟩ := h
    exact within_of_fields [68, 5] hfld
      ⟨within_validChatId hchat, within_beq_bool hnow, trivial⟩ (by decide)
  | chatJoin =>
    simp only [and_eq_true, or_eq_true] at h
    obtain ⟨hfld, hstat⟩ := h
    have hparts : (v.get "status").Within 74 ∧ (v.get "chat_id").Within 68 := by
      rcases hstat with ⟨hstat, hchat⟩ | ⟨hstat, hchat⟩
      · exact ⟨within_beq_str (by decide) hstat, within_validChatId hchat⟩
      · exact ⟨within_beq_str (by decide) hstat,
          within_nullOr (by decide) within_validChatId (or_eq_true_iff.mpr hchat)⟩
    exact within_of_fields [74, 68] hfld ⟨hparts.1, hparts.2, trivial⟩ (by decide)
  | sessionTerminate => cases hkeyed
  | _ => cases hm6

/-! ## §9. Errors. -/

theorem within_str? (hs : 2 + 6 * s.length ≤ n) (h : v.str? = some s) : v.Within n := by
  cases v with
  | str t =>
    cases h
    exact (within_str le_rfl).mono hs
  | _ => cases h

theorem within_validOperationField
    (h : validOperationField operation v) : (v.get "operation").Within 122 := by
  refine within_beq_str ?_ (and_eq_true_iff.mp h).2
  cases operation <;> decide

theorem within_validAuthState (h : validAuthState v nullable) : v.Within 182 := by
  unfold validAuthState at h
  rw [or_eq_true, and_eq_true] at h
  rcases h with ⟨-, hnull⟩ | h
  · exact (within_isNull hnull).mono (by decide)
  · exact within_oneOf (by decide) h

theorem within_small (h : v.Within 26000) :
    v.Within (if operation = .msgForward then 2621500 else 26000) :=
  h.mono (by split <;> omega)

theorem within_validTimeoutDetails (h : validTimeoutDetails operation v) :
    v.Within (if operation = .msgForward then 2621500 else 26000) := by
  -- The fields every timeout has.
  have htimeout : v.exactFields timeoutFields →
      v.FieldsWithin timeoutFields [122, 116, 182, 68, 116] → v.Within 26000 :=
    fun hfld hbds => within_of_fields _ hfld hbds (by decide)
  unfold validTimeoutDetails at h
  split at h
  · rename_i hsession
    rw [if_neg (by rw [hsession]; decide)]
    simp only [and_eq_true] at h
    obtain ⟨⟨⟨⟨⟨hfld, hop⟩, hst⟩, hph⟩, hout⟩, hidem⟩ := h
    refine htimeout hfld (And.intro (within_validOperationField hop)
      ⟨within_oneOf (by decide) hph, within_validAuthState hst, within_beq_str ?_ hout,
        within_beq_str (by decide) hidem, trivial⟩)
    split <;> decide
  · simp only [and_eq_true] at h
    obtain ⟨⟨⟨⟨⟨⟨⟨hop, -⟩, -⟩, hst⟩, -⟩, -⟩, -⟩, hcase⟩ := h
    have hop' := within_validOperationField hop
    have hst' := within_validAuthState hst
    -- The phase says which fields there are.
    split at hcase
    · rename_i hph
      simp only [and_eq_true] at hcase
      obtain ⟨⟨hfld, hout⟩, hidem⟩ := hcase
      exact within_small (htimeout hfld (And.intro hop' ⟨within_str? (by decide) hph, hst',
        within_beq_str (by decide) hout, within_oneOf (by decide) hidem, trivial⟩))
    · rename_i hph
      simp only [and_eq_true] at hcase
      obtain ⟨⟨⟨hfld, -⟩, hout⟩, hidem⟩ := hcase
      exact within_small (htimeout hfld (And.intro hop' ⟨within_str? (by decide) hph, hst',
        within_beq_str (by decide) hout, within_beq_str (by decide) hidem, trivial⟩))
    · rename_i hph
      simp only [and_eq_true] at hcase
      obtain ⟨⟨⟨-, hfld⟩, hout⟩, hidem⟩ := hcase
      exact within_small (htimeout hfld (And.intro hop' ⟨within_str? (by decide) hph, hst',
        within_beq_str (by decide) hout, within_oneOf (by decide) hidem, trivial⟩))
    · rename_i hph
      simp only [and_eq_true] at hcase
      obtain ⟨⟨hout, hidem⟩, hcase⟩ := hcase
      have hph' : (v.get "phase").Within 116 := within_str? (by decide) hph
      have hout' : (v.get "outcome").Within 68 := within_beq_str (by decide) hout
      have hidem' : (v.get "idempotency").Within 116 := within_oneOf (by decide) hidem
      split at hcase
      · rename_i hfwd
        rw [if_pos hfwd]
        rw [and_eq_true] at hcase
        have hitems := hcase.2
        exact within_of_fields [122, 116, 182, 68, 116, 2620102] hcase.1
          ⟨hop', hph', hst', hout', hidem',
            within_validForwardItems (and_eq_true_iff.mp hitems).1, trivial⟩ (by decide)
      · simp only [and_eq_true] at hcase
        exact within_small (within_of_fields [122, 116, 182, 68, 116, 68] hcase.1.2
          ⟨hop', hph', hst', hout', hidem',
            within_nullOr (by decide) within_validMessageId hcase.2, trivial⟩ (by decide))
    · cases hcase

/-- A rate limit that is no floating number. -/
theorem within_tooManyRequests (hsupp : v.supported) (h : (v == .int 429)) : v.Within 68 := by
  have hnum := number_of_beq_int (by decide) hsupp h
  have hdig : Int.natAbs 429 < 10 ^ 16 := by decide
  exact within_number hnum (by decide) hdig

theorem within_validForwardErrorDetails (hsupp : v.supported)
    (h : validForwardErrorDetails code v) : v.Within 2621500 := by
  unfold validForwardErrorDetails at h
  split at h
  · simp only [and_eq_true] at h
    obtain ⟨⟨⟨⟨⟨hfld, hop⟩, hcode⟩, hretry⟩, hitems⟩, -⟩ := h
    exact within_of_fields [68, 68, 68, 2620102] hfld
      ⟨within_beq_str (by decide) hop,
        within_tooManyRequests (supported_get hsupp _) hcode,
        within_validNonnegativeInt32 hretry, within_validForwardItems hitems, trivial⟩ (by decide)
  · simp only [and_eq_true] at h
    obtain ⟨⟨⟨⟨⟨hfld, hop⟩, hfrom⟩, hto⟩, hitems⟩, -⟩ := h
    exact within_of_fields [68, 68, 68, 2620102] hfld
      ⟨within_beq_str (by decide) hop, within_validChatId hfrom, within_validChatId hto,
        within_validForwardItems hitems, trivial⟩ (by decide)

theorem within_validInternalDetails (hop : validOperationField operation v)
    (h : validInternalDetails operation message v) : v.Within 26000 := by
  have hop' := within_validOperationField hop
  unfold validInternalDetails at h
  split at h
  · simp only [and_eq_true] at h
    obtain ⟨⟨hfld, hrsn⟩, htype⟩ := h
    exact within_of_fields [122, 146, 68] hfld ⟨hop', within_beq_str (by decide) hrsn,
      within_nullOr (by decide) within_validInt32 htype, trivial⟩ (by decide)
  · rw [and_eq_true] at h
    have hrsn : (v.get "reason").Within 146 := by
      have hcase := h.2
      split at hcase
      · simp only [or_eq_true, and_eq_true] at hcase
        rcases hcase with ⟨hrsn, -⟩ | ⟨hrsn, -⟩
        · exact within_beq_str (by decide) hrsn
        · exact within_beq_str (by decide) hrsn
      · exact within_beq_str (by decide) hcase
    exact within_of_fields [122, 146] h.1 ⟨hop', hrsn, trivial⟩ (by decide)

theorem within_validArgumentPath (h : validArgumentPath v) : v.Within 24578 := by
  exact within_validString (and_eq_true_iff.mp h).1

theorem within_validAccountName (h : v.str?.any validAccountName) : v.Within 194 := by
  cases v with
  | str s =>
    have hname : validAccountName s := h
    unfold validAccountName at hname
    simp only [and_eq_true, decide_eq_true_eq] at hname
    exact within_str hname.1.2
  | _ => cases h

/-- **The details of the stored errors.** -/
theorem within_validErrorBody (h : validErrorBody operation code exit message v)
    (hsupp : v.supported) (hcode : code ≠ "AUDIT_INCOMPLETE") :
    v.Within (if operation = .msgForward then 2621500 else 26000) := by
  unfold validErrorBody at h
  split at h
  · exact absurd rfl hcode
  · -- TIMEOUT
    rw [and_eq_true] at h
    exact within_validTimeoutDetails h.2
  · -- DAEMON_SHUTDOWN
    simp only [and_eq_true] at h
    exact within_small (within_of_fields [92] h.1.2 ⟨within_beq_str (by decide) h.2, trivial⟩
      (by decide))
  · -- NOT_AUTHED
    simp only [and_eq_true] at h
    obtain ⟨⟨⟨⟨-, hfld⟩, hacct⟩, hst⟩, hrsn⟩ := h
    exact within_small (within_of_fields [194, 182, 110] hfld
      ⟨within_validAccountName hacct, within_validAuthState hst,
        within_beq_str (by decide) hrsn, trivial⟩ (by decide))
  · -- TDLIB_ERROR
    simp only [and_eq_true] at h
    obtain ⟨⟨⟨-, hfld⟩, hop⟩, htdlib⟩ := h
    exact within_small (within_of_fields [122, 68] hfld
      ⟨within_validOperationField hop, within_validInt32 htdlib, trivial⟩ (by decide))
  · -- RATE_LIMITED
    rw [and_eq_true] at h
    have hcase := h.2
    split at hcase
    · rename_i hfwd
      rw [if_pos hfwd.1]
      exact within_validForwardErrorDetails hsupp hcase
    · simp only [and_eq_true] at hcase
      obtain ⟨⟨⟨hfld, hop⟩, htdlib⟩, hretry⟩ := hcase
      exact within_small (within_of_fields [122, 68, 68] hfld
        ⟨within_validOperationField hop, within_tooManyRequests (supported_get hsupp _) htdlib,
          within_validNonnegativeInt32 hretry, trivial⟩ (by decide))
  · -- INTERNAL
    simp only [and_eq_true] at h
    exact within_small (within_validInternalDetails h.1.2 h.2)
  · -- SEND_FAILED
    simp only [and_eq_true] at h
    obtain ⟨⟨⟨⟨⟨-, hfld⟩, hop⟩, hchat⟩, hid⟩, hrsn⟩ := h
    exact within_small (within_of_fields [122, 68, 68, 164] hfld
      ⟨within_validOperationField hop, within_validChatId hchat, within_validMessageId hid,
        within_beq_str (by decide) hrsn, trivial⟩ (by decide))
  · -- FORWARD_FAILED
    simp only [and_eq_true, beq_iff_eq] at h
    rw [if_pos h.1.2]
    exact within_validForwardErrorDetails hsupp h.2
  · -- FORWARD_PARTIAL
    simp only [and_eq_true, beq_iff_eq] at h
    rw [if_pos h.1.2]
    exact within_validForwardErrorDetails hsupp h.2
  · -- JOIN_APPROVAL_REQUIRED
    simp only [and_eq_true] at h
    obtain ⟨⟨⟨⟨-, hfld⟩, hop⟩, hbot⟩, hquery⟩ := h
    exact within_small (within_of_fields [122, 68, 68] hfld
      ⟨within_validOperationField hop, within_validInt53 hbot, within_validInt53 hquery, trivial⟩
      (by decide))
  · -- JOIN_DECLINED
    simp only [and_eq_true] at h
    exact within_small (within_of_fields [122] h.1.2 ⟨within_validOperationField h.2, trivial⟩
      (by decide))
  · -- INPUT_CHANGED
    simp only [and_eq_true] at h
    obtain ⟨⟨⟨-, hfld⟩, hop⟩, hpath⟩ := h
    exact within_small (within_of_fields [122, 24578] hfld
      ⟨within_validOperationField hop, within_validArgumentPath hpath, trivial⟩ (by decide))
  · -- SPOOL_UNAVAILABLE
    simp only [and_eq_true] at h
    obtain ⟨⟨⟨⟨-, hfld⟩, hop⟩, hpath⟩, hrsn⟩ := h
    exact within_small (within_of_fields [122, 24578, 134] hfld
      ⟨within_validOperationField hop, within_validArgumentPath hpath,
        within_oneOf (by decide) hrsn, trivial⟩ (by decide))
  · -- PRECONDITION_FAILED
    simp only [and_eq_true] at h
    obtain ⟨⟨⟨⟨⟨-, hfld⟩, hop⟩, hchat⟩, hid⟩, hrsn⟩ := h
    have hreasons := within_oneOf (n := 236) (by cases operation <;> decide) hrsn
    exact within_small (within_of_fields [122, 68, 68, 236] hfld
      ⟨within_validOperationField hop, within_nullOr (by decide) within_validChatId hchat,
        within_nullOr (by decide) within_validMessageId hid, hreasons, trivial⟩ (by decide))
  · cases h

theorem length_of_validErrorBody
    (h : validErrorBody operation code exit message v) : code.length ≤ 22 := by
  unfold validErrorBody at h
  split at h
  all_goals first
    | decide
    | cases h

theorem length_storedErrorMessages (code : String) :
    ∀ message ∈ storedErrorMessages code, 2 + 6 * message.length ≤ 400 := by
  unfold storedErrorMessages
  split
  all_goals decide

/-! ## §10. Terminals. -/

/-- A stored error is its details and a few words. -/
theorem within_validStoredError (h : validStoredError operation v)
    (hsupp : v.supported) (hcode : v.get "code" ≠ .str "AUDIT_INCOMPLETE") :
    v.Within ((if operation = .msgForward then 2621500 else 26000) + 1000) := by
  unfold validStoredError at h
  simp only [and_eq_true] at h
  obtain ⟨⟨⟨⟨⟨hfld, hkind⟩, -⟩, hexit⟩, -⟩, hbody⟩ := h
  have hkind' : (v.get "kind").Within 32 := within_beq_str (by decide) hkind
  have hexit' := within_validInt32 hexit
  cases hcase : v.get "code" with
  | str code =>
    rw [hcase] at hbody hcode
    have hbody' : (oneOf (v.get "message") (storedErrorMessages code)
        && validErrorBody operation code ((jsonInt64 (v.get "exit_code")).getD 0)
          (v.get "message") (v.get "details")) := hbody
    rw [and_eq_true] at hbody'
    have hmsg := within_oneOf (length_storedErrorMessages code) hbody'.1
    have hdets := within_validErrorBody hbody'.2 (supported_get hsupp _)
      fun heq => hcode (by rw [heq])
    have hcode' : (v.get "code").Within 134 := by
      rw [hcase]
      exact within_str (length_of_validErrorBody hbody'.2)
    by_cases hfwd : operation = .msgForward
    · rw [if_pos hfwd] at hdets ⊢
      exact within_of_fields [32, 134, 400, 2621500, 68] hfld
        ⟨hkind', hcode', hmsg, hdets, hexit', trivial⟩ (by decide)
    · rw [if_neg hfwd] at hdets ⊢
      exact within_of_fields [32, 134, 400, 26000, 68] hfld
        ⟨hkind', hcode', hmsg, hdets, hexit', trivial⟩ (by decide)
  | _ => rw [hcase] at hbody; cases hbody

/-- The terminals with no bound of their own: the results of the later
operations (taken together: that of `folder_delete` is bounded) and
`AUDIT_INCOMPLETE`, which repeats a path. -/
def unboundedTerminal (operation : Operation) (terminal : Json) : Bool :=
  (operation.isM6 && terminal.get "kind" == .str "result")
    || terminal.get "code" == .str "AUDIT_INCOMPLETE"

/-- **The terminals.** -/
theorem within_validTerminal (hkeyed : operation.idempotent)
    (h : validTerminal operation v) (hsupp : v.supported)
    (hbd : unboundedTerminal operation v = false) :
    v.Within ((if operation = .msgForward then 2621500 else 26000) + 1000) := by
  unfold unboundedTerminal at hbd
  rw [or_eq_false_iff] at hbd
  unfold validTerminal at h
  split at h
  · rename_i hfld
    simp only [and_eq_true] at h
    obtain ⟨⟨hkind, -⟩, hdata⟩ := h
    have hm6 : operation.isM6 = false := by
      have := hbd.1
      rw [hkind, Bool.and_true] at this
      exact this
    have hkind' : (v.get "kind").Within 38 := within_beq_str (by decide) hkind
    have hdata' := within_validResultData hkeyed hm6 hdata
    by_cases hfwd : operation = .msgForward
    · rw [if_pos hfwd] at hdata' ⊢
      exact within_of_fields [38, 2621000] hfld ⟨hkind', hdata', trivial⟩ (by decide)
    · rw [if_neg hfwd] at hdata' ⊢
      exact within_of_fields [38, 26000] hfld ⟨hkind', hdata', trivial⟩ (by decide)
  · refine within_validStoredError h hsupp fun hcode => ?_
    have := hbd.2
    rw [hcode] at this
    cases this

end Values

end TgCli.Payload
