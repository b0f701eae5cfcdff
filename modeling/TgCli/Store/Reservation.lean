/-
  TgCli.Store.Reservation — THE ROOM RESERVED FOR A TERMINAL

  A pending entry reserves `account_audit_terminal_reservation` bytes, while
  the audit log admits a terminal up to `terminal_byte_ceiling`.  The two
  numbers agree but for the operations of the sixth milestone: those reserve
  32,768 bytes, and their results may take 16,842,700 in the log.

  Main results:
    * `charge_vectors` — every vector the log accepts fits its reservation;
    * `reservation_covers` — a terminal the log accepts fits unless it holds a
      floating number or is one of the terminals without a bound of their own.
-/
import TgCli.Payload.Bounds
import TgCli.Store.Operations

namespace TgCli.Store

open Lib Audit Payload List JsonSize

/-! ## §1. What the log accepts. -/

/-- The data of an accepted checkpoint of the stage. -/
def CheckpointData (operation : Operation) (stage : Stage) (data : Json) : Prop :=
  ∃ document, document.get "command" = .str operation.name
    ∧ document.get "stage" = .str stage.name ∧ Payload.validateCheckpoint document = .ok ()
    ∧ document.get "data" = data

/-- A terminal the log accepts: of a mutation proof or of an outcome. -/
def AuditTerminal (operation : Operation) (terminal : Json) : Prop :=
  (∃ data, CheckpointData operation .mutationConfirmed data ∧ data.get "terminal" = terminal)
    ∨ ∃ document, document.get "command" = .str operation.name
        ∧ Payload.validateOutcome document = .ok () ∧ document.get "terminal" = terminal

/-- The ids of an entry: none yet, or those of an accepted checkpoint. -/
def AuditIds (operation : Operation) (ids : Json) : Prop :=
  ids = .arr [] ∨ ∃ data, CheckpointData operation .temporaryIdsObserved data
    ∧ data.get "temporary_message_ids" = ids

/-- The items of an entry: none yet, or those of an accepted checkpoint. -/
def AuditItems (operation : Operation) (items : Json) : Prop :=
  items = .arr [] ∨ ∃ data, CheckpointData operation .forwardProgress data
    ∧ data.get "items" = items

variable {operation : Operation} {terminal : Json} {entry : JsonEntry}

theorem CheckpointData.valid (h : CheckpointData operation stage data) :
    Payload.validCheckpointData operation stage data := by
  obtain ⟨document, hcmd, hstg, hok, rfl⟩ := h
  exact data_of_checkpoint hcmd hstg hok

theorem AuditTerminal.valid
    (h : AuditTerminal operation terminal) : Payload.validTerminal operation terminal := by
  rcases h with ⟨data, ⟨document, hcmd, hstg, hok, rfl⟩, rfl⟩ | ⟨document, hcmd, hok, rfl⟩
  · exact validTerminal_of_checkpoint hcmd hstg hok
  · exact validTerminal_of_outcome hcmd hok

/-! ## §2. Vectors. -/

theorem two_le_size_of_isArr {v : Json} (h : v.isArr) : 2 ≤ v.size := by
  cases v with
  | arr items =>
    show 2 ≤ Json.sizeBy Json.quoteSize (.arr items)
    rw [Json.sizeBy_arr]
    unfold pieces
    omega
  | _ => cases h

/-- Ids take at most 6,902 bytes, and only the operations that send have any. -/
theorem size_auditIds {ids : Json} (h : AuditIds operation ids) :
    ids.supported ∧ 2 ≤ ids.size
      ∧ ids.size ≤ if sendsMessage operation || operation == .msgForward then 6902 else 2 := by
  rcases h with rfl | ⟨data, hdata, rfl⟩
  · refine ⟨rfl, le_rfl, ?_⟩
    show 2 ≤ _
    split <;> omega
  · have hval := hdata.valid
    simp only [Payload.validCheckpointData, Bool.and_eq_true] at hval
    obtain ⟨⟨hsends, -⟩, hids⟩ := hval
    rw [if_pos hsends]
    have hbound := within_validMessageIdArray hids
    refine ⟨hbound.2, two_le_size_of_isArr ?_, hbound.1⟩
    simp only [validMessageIdArray, Bool.and_eq_true] at hids
    exact hids.1.1.1.1

/-- Items take at most 2,620,102 bytes, and only a forward has any. -/
theorem size_auditItems (h : AuditItems operation items) : items.supported ∧ 2 ≤ items.size
      ∧ items.size ≤ if operation = .msgForward then 2620102 else 2 := by
  rcases h with rfl | ⟨data, hdata, rfl⟩
  · refine ⟨rfl, le_rfl, ?_⟩
    show 2 ≤ _
    split <;> omega
  · have hval := hdata.valid
    simp only [Payload.validCheckpointData, Bool.and_eq_true, beq_iff_eq] at hval
    obtain ⟨⟨hfwd, -⟩, hitems⟩ := hval
    rw [if_pos hfwd]
    have hbound := within_validForwardItems hitems
    refine ⟨hbound.2, two_le_size_of_isArr ?_, hbound.1⟩
    simp only [Payload.validForwardItems, Bool.and_eq_true] at hitems
    exact hitems.1.1.1.1.1.1.1

/-- The vectors of an entry fit its reservation together. -/
theorem vectors_le_reservation (operation : Operation) :
    (if sendsMessage operation || operation == .msgForward then 6902 else 2)
        + (if operation = .msgForward then 2620102 else 2) ≤ terminalReservation operation := by
  cases operation <;> decide

/-- **Every accepted vector fits.** -/
theorem charge_vectors (hids : AuditIds entry.operation ids)
    (hitems : AuditItems entry.operation items) :
    ∃ charge ≤ terminalReservation entry.operation, auditFormat.mutableCharge
          { entry with temporaryIds := ids, forwardProgress := items, terminal := none }
        = some charge := by
  obtain ⟨hidsSupported, hidsLow, hidsHigh⟩ := size_auditIds hids
  obtain ⟨hitemsSupported, hitemsLow, hitemsHigh⟩ := size_auditItems hitems
  have hroom := vectors_le_reservation entry.operation
  have hnull : Json.size .null = 4 := rfl
  refine ⟨ids.size + items.size - 4, by omega, Format.mutableCharge_eq_some.mpr ?_⟩
  refine ⟨hidsSupported, hitemsSupported, rfl, ?_⟩
  show ids.size + items.size + Json.size .null = _
  omega

/-! ## §3. Terminals. -/

theorem five_le_size_of_exactFields {v : Json}
    (h : v.exactFields (name :: names)) : 5 ≤ v.size := by
  cases v with
  | obj members =>
    simp only [Json.exactFields, Bool.and_eq_true, beq_iff_eq] at h
    cases members with
    | nil => cases h.1
    | cons member rest =>
      show 5 ≤ Json.sizeBy Json.quoteSize (.obj (member :: rest))
      have hquote : 2 ≤ Json.quoteSize member.1 := by
        rw [Json.quoteSize_eq]
        unfold text
        omega
      rw [Json.sizeBy_obj, map_cons]
      unfold pieces
      rw [sum_cons]
      omega
  | _ => cases h

theorem four_le_size_of_validTerminal
    (h : Payload.validTerminal operation terminal) : 4 ≤ terminal.size := by
  unfold Payload.validTerminal at h
  split at h
  · rename_i hfld
    have := five_le_size_of_exactFields hfld
    omega
  · simp only [Payload.validStoredError, Bool.and_eq_true] at h
    have := five_le_size_of_exactFields h.1.1.1.1.1
    omega

/-- What the completed entry is charged: its terminal beyond a `null`. -/
theorem charge_completion :
    auditFormat.mutableCharge (auditFormat.completion entry terminal) = some charge ↔
      terminal.supported ∧ terminal.size = charge + 4 := by
  rw [Format.mutableCharge_eq_some]
  show Json.supported (.arr []) = true ∧ Json.supported (.arr []) = true
      ∧ terminal.supported = true
      ∧ Json.size (.arr []) + Json.size (.arr []) + terminal.size = charge + 8 ↔ _
  have hemp : Json.size (.arr []) = 2 := rfl
  have hsupp : Json.supported (.arr []) := rfl
  rw [hemp]
  simp only [hsupp, true_and]
  refine and_congr_right fun _ => ?_
  omega

/-- The bounded terminals fit every reservation. -/
theorem bounded_le_reservation (operation : Operation) :
    (if operation = .msgForward then 2621500 else 26000) + 1000
      ≤ terminalReservation operation := by
  cases operation <;> decide

/-- The condition under which a completed entry fits: no floating number, and
the terminals without a bound of their own are short enough. -/
def FitsReservation (operation : Operation) (terminal : Json) : Prop :=
  terminal.supported = true
    ∧ (unboundedTerminal operation terminal = true →
      terminal.dumpSize + 4 * terminal.escapes ≤ terminalReservation operation + 4)

theorem charge_terminal (hkeyed : entry.operation.idempotent)
    (h : AuditTerminal entry.operation terminal) :
    (∃ charge ≤ terminalReservation entry.operation,
        auditFormat.mutableCharge (auditFormat.completion entry terminal) = some charge)
      ↔ FitsReservation entry.operation terminal := by
  have hsize := Json.size_eq_dumpSize terminal
  have hlow := four_le_size_of_validTerminal h.valid
  constructor
  · intro ⟨charge, hle, hchg⟩
    obtain ⟨hsupp, hchg⟩ := charge_completion.mp hchg
    exact ⟨hsupp, fun _ => by omega⟩
  · intro ⟨hsupp, hfits⟩
    refine ⟨terminal.size - 4, ?_, charge_completion.mpr ⟨hsupp, by omega⟩⟩
    by_cases hunbounded : unboundedTerminal entry.operation terminal = true
    · have := hfits hunbounded
      omega
    have hbound := (within_validTerminal hkeyed h.valid hsupp (by simpa using hunbounded)).1
    have := bounded_le_reservation entry.operation
    omega

/-- A valid terminal beyond the reservation is refused. -/
theorem completeTransition_exceeds (hpend : entry.state = .pending)
    (hval : auditFormat.validTerminal entry.operation terminal entry.plan account)
    (hchg : ∀ charge,
      auditFormat.mutableCharge (auditFormat.completion entry terminal) = some charge →
        terminalReservation entry.operation < charge) :
    auditFormat.completeTransition account terminal entry
      = .error "completed terminal exceeds reservation" := by
  unfold Format.completeTransition
  rw [if_pos hval, hpend]
  cases h : auditFormat.mutableCharge (auditFormat.completion entry terminal) with
  | none => rfl
  | some charge => exact if_neg (not_le.mpr (hchg charge h))

/-- **The reservation**: it covers every vector the log accepts, and a terminal
the log accepts exactly under `FitsReservation`; `complete` then stores it. -/
theorem reservation_covers (account : String) (entry : JsonEntry)
    (hkeyed : entry.operation.idempotent = true) :
    (∀ ids items, AuditIds entry.operation ids → AuditItems entry.operation items →
      ∃ charge ≤ terminalReservation entry.operation, auditFormat.mutableCharge
            { entry with temporaryIds := ids, forwardProgress := items, terminal := none }
          = some charge)
      ∧ ∀ terminal, AuditTerminal entry.operation terminal →
        ((∃ charge ≤ terminalReservation entry.operation,
            auditFormat.mutableCharge (auditFormat.completion entry terminal) = some charge)
          ↔ FitsReservation entry.operation terminal)
        ∧ (entry.state = .pending →
          auditFormat.validTerminal entry.operation terminal entry.plan account = true →
          (auditFormat.completeTransition account terminal entry
              = .ok (auditFormat.completion entry terminal)
            ↔ FitsReservation entry.operation terminal)) := by
  refine ⟨fun ids items => charge_vectors, fun terminal haudit => ?_⟩
  have hchg := charge_terminal hkeyed haudit
  refine ⟨hchg, fun hpend hval => ?_⟩
  rw [← hchg]
  unfold Format.completeTransition
  rw [if_pos hval, hpend]
  cases auditFormat.mutableCharge (auditFormat.completion entry terminal) with
  | none => simp
  | some charge =>
    by_cases hle : charge ≤ terminalReservation entry.operation
    · simp [hle]
    · simp [hle]

/-- The outcome of a leave. -/
def leaveOutcome : Json :=
  .obj
    [("account", .str "main"), ("command", .str "chat_leave"),
      ("completed_stages", .arr [.str "dispatch_started", .str "mutation_confirmed"]),
      ("invocation_id", .str "0123456789abcdef0123456789abcdef"),
      ("mutation_state", .str "confirmed"), ("phase", .str "outcome"), ("schema_version", .int 2),
      ("success", .bool true), ("terminal", leaveTerminal),
      ("timestamp", .str "2023-11-14T22:13:20Z")]

theorem auditTerminal_leave : AuditTerminal .chatLeave leaveTerminal := by
  have hok : Payload.validateOutcome leaveOutcome = .ok () := by
    show (Payload.validateOutcome leaveOutcome) = _
    decide +kernel
  exact .inr ⟨leaveOutcome, rfl, hok, rfl⟩

/-- The result of a leave fits. -/
theorem reservation_covers_leave :
    Operation.idempotent .chatLeave = true ∧ AuditTerminal .chatLeave leaveTerminal
      ∧ ∃ charge ≤ 32768,
        auditFormat.mutableCharge (auditFormat.completion leaveEntry leaveTerminal) = some charge :=
  have hfits : FitsReservation .chatLeave leaveTerminal := ⟨rfl, fun h => by revert h; decide +kernel⟩
  ⟨rfl, auditTerminal_leave,
    (((reservation_covers "main" leaveEntry rfl).2 leaveTerminal auditTerminal_leave).1).mpr hfits⟩

/-! ## §4. A terminal that does not fit. -/

def blockedUser (name : String) : Json :=
  .obj
    [("display_name", .str name), ("id", .int 7), ("is_bot", .bool false), ("usernames", .arr [])]

/-- The result of a block, with the display name of the user. -/
def blockTerminal (name : String) : Json :=
  .obj [("data", .obj [("blocked", .bool true), ("user", blockedUser name)]), ("kind", .str "result")]

/-- Its outcome. -/
def blockOutcome (name : String) : Json :=
  .obj
    [("account", .str "main"), ("command", .str "contact_block"),
      ("completed_stages", .arr [.str "dispatch_started", .str "mutation_confirmed"]),
      ("invocation_id", .str "0123456789abcdef0123456789abcdef"),
      ("mutation_state", .str "confirmed"), ("phase", .str "outcome"), ("schema_version", .int 2),
      ("success", .bool true), ("terminal", blockTerminal name),
      ("timestamp", .str "2023-11-14T22:13:20Z")]

/-- Its plan. -/
def blockPlan (name : String) : Json :=
  .obj
    [("account", .str "main"), ("blocked", .bool true), ("operation", .str "contact_block"),
      ("tdlib_request", .str "setMessageSenderBlockList"), ("user", blockedUser name)]

def blockEntry (name : String) : JsonEntry :=
  { leaveEntry with operation := .contactBlock, plan := blockPlan name }

section Block

variable {name : String}

section

variable (hnul : containsNul name = false)
include hnul

theorem validUserIdentity_blocked :
    M6.validUserIdentity (blockedUser name) := by
  have hname : M6.validString ((blockedUser name).get "display_name") := by
    show (!containsNul name && (true || name != "")) = true
    rw [hnul]
    rfl
  have hrest : (blockedUser name).exactFields ["id", "display_name", "usernames", "is_bot"]
      ∧ M6.validInt53 (.int 7) true ∧ M6.validStringArray (.arr []) 64 := by
    refine ⟨rfl, rfl, rfl⟩
  unfold M6.validUserIdentity
  rw [hname, hrest.1]
  exact hrest.2.1

theorem validTerminal_block
    (hbytes : bytes name ≤ kRequestSourceBytes) :
    Payload.validTerminal .contactBlock (blockTerminal name) := by
  have hname : validNode 3 (.str name) := by
    rw [validNode, hnul, decide_eq_true hbytes]
    rfl
  have htree : validJsonTree (blockTerminal name) := by
    have hnodes : nodes (blockTerminal name) = 9 := rfl
    have huser : validNode 2 (blockedUser name) := by
      rw [blockedUser, validNode, validMembers, hname]
      rfl
    rw [validJsonTree, hnodes, blockTerminal, validNode, validMembers, validNode, validMembers,
      validMembers, huser]
    rfl
  have hdata : validResultData .contactBlock ((blockTerminal name).get "data") := by
    show (M6.validUserIdentity (blockedUser name) && true) = true
    rw [validUserIdentity_blocked hnul]
    rfl
  unfold Payload.validTerminal
  rw [if_pos (show (blockTerminal name).exactFields ["kind", "data"] = true from rfl), htree, hdata]
  rfl

theorem validPlan_block :
    Payload.validPlan .contactBlock (blockPlan name) "main" := by
  show (_ && (_ && (M6.validUserIdentity (blockedUser name) && true))) = true
  rw [validUserIdentity_blocked hnul]
  rfl

theorem validPersistedTerminal_block
    (hbytes : bytes name ≤ kRequestSourceBytes) :
    validPersistedTerminal .contactBlock (blockTerminal name) (blockPlan name) "main" := by
  have hsame : (blockedUser name == blockedUser name) := by
    show (name == name && _) = true
    rw [beq_self_eq_true]
    rfl
  have hres : M6.validResult .contactBlock ((blockTerminal name).get "data") := by
    show (M6.validUserIdentity (blockedUser name) && true) = true
    rw [validUserIdentity_blocked hnul]
    rfl
  have hmat : terminalMatchesPlan .contactBlock (blockTerminal name) (blockPlan name) "main"
      = true := by
    show M6.resultMatchesPlan .contactBlock ((blockTerminal name).get "data") (blockPlan name) = true
    unfold M6.resultMatchesPlan
    rw [hres]
    show (_ && (_ && ((blockedUser name == blockedUser name) && true)) && true) = true
    rw [hsame]
    rfl
  unfold validPersistedTerminal
  rw [validPlan_block hnul, validTerminal_block hnul hbytes, hmat]
  rfl

end

/-- The length of the terminal follows that of the name. -/
theorem dumpSize_block (name : String) :
    (blockTerminal name).dumpSize + 2 = (blockTerminal "").dumpSize + text name := by
  have hemp : text "" = 2 := rfl
  have hstr (s : String) : Json.sizeBy text (.str s) = text s := rfl
  unfold Json.dumpSize blockTerminal blockedUser
  simp only [Json.sizeBy_obj, map_cons, map_nil, hstr, hemp, pieces,
    sum_cons, sum_nil, length_cons, length_nil]
  omega

/-- The length of the outcome follows that of the terminal. -/
theorem dumpSize_outcome (name : String) :
    (blockOutcome name).dumpSize + (blockTerminal "").dumpSize
      = (blockOutcome "").dumpSize + (blockTerminal name).dumpSize := by
  unfold Json.dumpSize blockOutcome
  simp only [Json.sizeBy_obj, map_cons, map_nil, pieces, sum_cons, sum_nil, length_cons, length_nil]
  omega

/-- The log accepts the outcome while the terminal stays below its ceiling. -/
theorem validateOutcome_block (hnul : containsNul name = false)
    (htext : text name ≤ 40000) (hbytes : bytes name ≤ kRequestSourceBytes) :
    Payload.validateOutcome (blockOutcome name) = .ok () := by
  have hterm : Payload.validTerminal .contactBlock ((blockOutcome name).get "terminal") :=
    validTerminal_block hnul hbytes
  have hemp : (blockTerminal "").dumpSize = 105 := by decide +kernel
  have hemptyOutcome : (blockOutcome "").dumpSize = 389 := by decide +kernel
  have hsizes := dumpSize_block name
  have hsizes' := dumpSize_outcome name
  have hterminalSize : serializedSizeAtMost (blockTerminal name)
      (terminalByteCeiling .contactBlock) := decide_eq_true (by
    have : terminalByteCeiling .contactBlock = 16842700 := rfl
    omega)
  have hdocumentSize : serializedSizeAtMost (blockOutcome name) kVectorJsonBytes :=
    decide_eq_true (by
      have : kVectorJsonBytes = 16846796 := rfl
      omega)
  -- Nothing but the terminal depends on the name.
  have hid : validCommonIdentity (blockOutcome name) :=
    have : validCommonIdentity (blockOutcome "") := by decide +kernel
    this
  have hrel : outcomeRelations .contactBlock [.dispatchStarted, .mutationConfirmed] true
      "confirmed" (blockTerminal name) := by
    have hkind : (blockTerminal name).get "kind" = .str "result" := rfl
    have hlegal : legalCompletedStages .contactBlock [.dispatchStarted, .mutationConfirmed] := by
      decide
    unfold outcomeRelations
    rw [hkind, hlegal]
    rfl
  have hcmd : (blockOutcome name).get "command" = .str (Operation.name .contactBlock) := rfl
  have hlast : (outcomeRelations .contactBlock [.dispatchStarted, .mutationConfirmed] true "confirmed"
        (blockTerminal name)
      && serializedSizeAtMost (blockTerminal name) (terminalByteCeiling .contactBlock)
      && serializedSizeAtMost (blockOutcome name) kVectorJsonBytes) := by
    rw [hrel, hterminalSize, hdocumentSize]
    rfl
  unfold Payload.validateOutcome
  rw [hid, parsed_command hcmd]
  -- The envelope, the terminal, the mutation state and the stages pass in turn.
  refine (if_neg Bool.false_ne_true).trans ((if_neg ?_).trans ((if_neg Bool.false_ne_true).trans
    ((if_neg Bool.false_ne_true).trans (if_pos hlast))))
  rw [hterm]
  decide

end Block

/-- A display name of `n` letters. -/
def letters (n : Nat) : String := String.ofList (List.replicate n 'a')

theorem toList_letters (n : Nat) : (letters n).toList = List.replicate n 'a' := String.toList_ofList

theorem text_letters (n : Nat) : text (letters n) = 2 + n := by
  have hescaped : escaped 'a' = 1 := rfl
  unfold text
  rw [toList_letters, map_replicate, sum_replicate, hescaped, smul_eq_mul, mul_one]

theorem bytes_letters (n : Nat) : bytes (letters n) = n := by
  have hsize : 'a'.utf8Size = 1 := rfl
  unfold bytes
  rw [toList_letters, map_replicate, sum_replicate, hsize, smul_eq_mul, mul_one]

theorem containsNul_letters (n : Nat) : containsNul (letters n) = false := by
  unfold containsNul
  rw [toList_letters]
  simp

/-- The charge of the result of a block, for a name of plain letters. -/
theorem charge_block (h : auditFormat.mutableCharge
      (auditFormat.completion (blockEntry (letters n)) (blockTerminal (letters n))) = some charge) :
    n + 101 ≤ charge := by
  have hsize := (charge_completion.mp h).2
  have hemp : (blockTerminal "").dumpSize = 105 := by decide +kernel
  have hdump := dumpSize_block (letters n)
  have hle := Json.size_eq_dumpSize (blockTerminal (letters n))
  rw [text_letters] at hdump
  omega

/-- **The log accepts a result the store refuses**: the block of a user whose
name has 33,000 letters. -/
theorem block_exceeds_reservation : Payload.validateOutcome (blockOutcome (letters 33000)) = .ok ()
      ∧ auditFormat.validTerminal .contactBlock (blockTerminal (letters 33000))
        (blockPlan (letters 33000)) "main" = true
      ∧ (∀ charge, auditFormat.mutableCharge
            (auditFormat.completion (blockEntry (letters 33000)) (blockTerminal (letters 33000)))
              = some charge →
          terminalReservation .contactBlock < charge)
      ∧ auditFormat.completeTransition "main" (blockTerminal (letters 33000))
          (blockEntry (letters 33000))
        = .error "completed terminal exceeds reservation" := by
  -- The length stays a variable, so that no step spells the name out.
  obtain ⟨n, hn⟩ : ∃ n : Nat, n = 33000 := ⟨_, rfl⟩
  rw [← hn]
  have hbytes : bytes (letters n) ≤ kRequestSourceBytes := by
    have : kRequestSourceBytes = 16842751 := rfl
    rw [bytes_letters]
    omega
  have hchg (charge : Nat) (h : auditFormat.mutableCharge
      (auditFormat.completion (blockEntry (letters n)) (blockTerminal (letters n))) = some charge) :
      terminalReservation .contactBlock < charge := by
    have hlow := charge_block h
    have hreservation : terminalReservation .contactBlock = 32768 := rfl
    omega
  have hval := validPersistedTerminal_block (containsNul_letters n) hbytes
  refine ⟨validateOutcome_block (containsNul_letters n) ?_ hbytes, hval, hchg,
    completeTransition_exceeds rfl hval hchg⟩
  rw [text_letters]
  omega

end TgCli.Store
