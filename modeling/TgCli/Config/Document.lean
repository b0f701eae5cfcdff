/-
  TgCli.Config.Document — CONFIG DOCUMENTS AND THEIR MUTATIONS

  `parse_account`, `parse_document`, `apply_mutation` and
  `serialize_document` of common/config.cpp, over TOML tables.

  The TOML library is outside the repository.  `Toml` is what the config store
  uses of it, with the one law that matters: it parses what it serializes, for the
  documents the store can hold.

  Main results: `applyMutation_add`, `applyMutation_use` — a valid document with
  an account added, or with another default, is a valid document.
-/
import Mathlib.Logic.Encodable.Basic
import TgCli.Lib.Folds
import TgCli.Config.Transaction

namespace TgCli.Config

open Tdlib Lib Lib.SortedMap Option Prod

/-! ## §1. TOML. -/

/-- A TOML value; arrays, floats, dates and times are opaque. -/
inductive Node where
  | string (value : Bytes)
  | integer (value : Int)
  | boolean (value : Bool)
  | table (entries : List (Bytes × Node))
  | other (text : Bytes)

/-- `toml::table`, in key order. -/
abbrev Table := List (Bytes × Node)

/-- `value<std::string>()`. -/
def Node.stringValue : Node → Option Bytes
  | .string value => some value
  | _ => none

/-- `as_table()`. -/
def Node.asTable : Node → Option Table
  | .table entries => some entries
  | _ => none

/-! ## §2. Mutations. -/

structure PromptedAppCredentials where
  apiId : Option Int := none
  apiHash : Option Bytes := none
deriving DecidableEq, Repr

inductive MutationKind where
  | add | use | remove | materializeMain | replaceAppCredentials
deriving DecidableEq, Repr

structure Mutation where
  kind : MutationKind
  account : Bytes
  reassignDefault : Option Bytes := none
  prompted : PromptedAppCredentials := {}
deriving DecidableEq, Repr

/-- The accounts table, empty where there is none. -/
def accountsOf (document : Table) : Table :=
  ((document.lookup (ascii "accounts")).bind Node.asTable).getD []

def setAccounts (accounts document : Table) : Table :=
  assign (ascii "accounts") (.table accounts) document

def setDefault (account : Bytes) (document : Table) : Table :=
  assign (ascii "default_account") (.string account) document

/-- A fresh account: no write grant. -/
def freshAccount : Table := [(ascii "allow_write", .boolean false)]

/-- The document a mutation makes, or why it is refused. -/
def applyMutation (document : Table) (mutation : Mutation) : Except ConfigReason Table :=
  let accounts := accountsOf document
  -- a missing accounts table is inserted before anything else
  let document := setAccounts accounts document
  let account := mutation.account
  let present := contains account accounts
  match mutation.kind with
  | .add =>
    if present then .error .typeError
    else
      let added := setAccounts (assign account (.table freshAccount) accounts) document
      if accounts.isEmpty && !contains (ascii "default_account") document
      then .ok (setDefault account added) else .ok added
  | .use => if present then .ok (setDefault account document) else .error .typeError
  | .remove =>
    if !present then .error .typeError
    else
      let current := (document.lookup (ascii "default_account")).bind Node.stringValue
      let removed (document : Table) : Table := setAccounts (erase account accounts) document
      if mutation.reassignDefault.isSome && current != some account then .error .typeError
      else if current != some account then .ok (removed document)
      else if accounts.length = 1 then
        if mutation.reassignDefault.isSome then .error .typeError
        else .ok (removed (erase (ascii "default_account") document))
      else
        match mutation.reassignDefault with
        | none => .error .invalidDefault
        | some next =>
          if next = account || !contains next accounts then .error .invalidDefault
          else .ok (removed (setDefault next document))
  | .materializeMain =>
    if present then .error .typeError
    else
      let fresh (account : Table) : Table :=
        let added := setAccounts (SortedMap.insert (ascii "main") (.table account) accounts) document
        if contains (ascii "default_account") document then added
        else setDefault (ascii "main") added
      match mutation.prompted.apiId, mutation.prompted.apiHash with
      | none, none => .ok (fresh freshAccount)
      | some apiId, some apiHash =>
        .ok (fresh (assign (ascii "api_hash") (.string apiHash)
          (assign (ascii "api_id") (.integer apiId) freshAccount)))
      | _, _ => .error .typeError
  | .replaceAppCredentials =>
    match mutation.prompted.apiId, mutation.prompted.apiHash with
    | some apiId, some apiHash =>
      match (accounts.lookup account).bind Node.asTable with
      | none => .error .typeError
      | some table =>
        let table := erase (ascii "api_hash_cmd") (erase (ascii "api_id_cmd") table)
        let table := assign (ascii "api_hash") (.string apiHash)
          (assign (ascii "api_id") (.integer apiId) table)
        .ok (setAccounts (assign account (.table table) accounts) document)
    | _, _ => .error .typeError

/-! ## §3. The TOML library. -/

/-- `output << document` with the line feed `serialize_document` adds. -/
def endLine (bytes : Bytes) : Bytes :=
  if bytes.getLast? = some 10 then bytes else bytes ++ [10]

/-- The documents the store holds: parsed ones, and what mutations make of them. -/
inductive Held (parse : Bytes → Option Table) : Table → Prop
  | empty : Held parse []
  | parsed {bytes : Bytes} {document : Table} :
      parse bytes = some document → Held parse document
  | mutated {document result : Table} {mutation : Mutation} : Held parse document →
      applyMutation document mutation = .ok result → Held parse result

/-- **The TOML library.**  `valueInteger` and `valueBoolean` are its
`value<std::int64_t>()` and `value<bool>()`, which may convert. -/
structure Toml where
  parse : Bytes → Option Table
  print : Table → Bytes
  valueInteger : Node → Option Int
  valueBoolean : Node → Option Bool
  valueInteger_integer : ∀ value, valueInteger (.integer value) = some value
  valueBoolean_boolean : ∀ value, valueBoolean (.boolean value) = some value
  /-- the library parses what it serializes -/
  parse_print : ∀ document, Held parse document → parse (endLine (print document)) = some document

/-! ## §4. There is such a library. -/

/-- A text, byte after byte, and its end. -/
def textCode : Bytes → Bytes
  | [] => [0]
  | byte :: rest => 1 :: byte :: textCode rest

def natCode (n : Nat) : Bytes := List.replicate n 1 ++ [0]

mutual

/-- A value, its kind first. -/
def Node.code : Node → Bytes
  | .string value => 0 :: textCode value
  | .integer value => 1 :: natCode (Encodable.encode value)
  | .boolean value => 2 :: natCode value.toNat
  | .table entries => 3 :: Table.code entries
  | .other text => 4 :: textCode text

def Table.code : List (Bytes × Node) → Bytes
  | [] => [0]
  | (key, node) :: rest => 1 :: (textCode key ++ (node.code ++ Table.code rest))

end

/-- What is read from the front of a text is determined by the text. -/
theorem textCode_front : ∀ {a b r r' : Bytes}, textCode a ++ r = textCode b ++ r' → a = b ∧ r = r'
  | [], [], _, _, h => ⟨rfl, by simpa [textCode] using h⟩
  | [], _ :: _, _, _, h => by simp [textCode] at h
  | _ :: _, [], _, _, h => by simp [textCode] at h
  | x :: a, y :: b, r, r', h => by
      simp only [textCode, List.cons_append, List.cons.injEq, true_and] at h
      obtain ⟨hrest, hr⟩ := textCode_front h.2
      exact ⟨by rw [h.1, hrest], hr⟩

theorem natCode_front : ∀ {m n : Nat} {r r' : Bytes}, natCode m ++ r = natCode n ++ r' → m = n ∧ r = r'
  | 0, 0, _, _, h => ⟨rfl, by simpa [natCode] using h⟩
  | 0, _ + 1, _, _, h => by simp [natCode, List.replicate_succ] at h
  | _ + 1, 0, _, _, h => by simp [natCode, List.replicate_succ] at h
  | m + 1, n + 1, r, r', h => by
      have hfront : natCode m ++ r = natCode n ++ r' := by
        simpa [natCode, List.replicate_succ] using h
      obtain ⟨hmn, hr⟩ := natCode_front hfront
      exact ⟨by rw [hmn], hr⟩

mutual

theorem Node.code_front :
    ∀ {a b : Node} {r r' : Bytes}, a.code ++ r = b.code ++ r' → a = b ∧ r = r' := by
  intro a b r r' h
  -- the kinds differ, or the payloads are compared
  cases a <;> cases b <;> simp only [Node.code, List.cons_append, List.cons.injEq] at h <;>
    first
      | exact absurd h.1 (by decide)
      | skip
  · obtain ⟨rfl, hr⟩ := textCode_front h.2
    exact ⟨rfl, hr⟩
  · obtain ⟨hvalue, hr⟩ := natCode_front h.2
    exact ⟨congrArg _ (Encodable.encode_injective hvalue), hr⟩
  · next x y =>
      obtain ⟨hvalue, hr⟩ := natCode_front h.2
      refine ⟨congrArg _ ?_, hr⟩
      cases x <;> cases y <;> first | rfl | cases hvalue
  · obtain ⟨hents, hr⟩ := Table.code_front h.2
    exact ⟨congrArg _ hents, hr⟩
  · obtain ⟨rfl, hr⟩ := textCode_front h.2
    exact ⟨rfl, hr⟩

theorem Table.code_front : ∀ {a b : List (Bytes × Node)} {r r' : Bytes},
      Table.code a ++ r = Table.code b ++ r' → a = b ∧ r = r' := by
  intro a b r r' h
  match a, b with
  | [], [] => exact ⟨rfl, by simpa [Table.code] using h⟩
  | [], (_, _) :: _ => simp [Table.code] at h
  | (_, _) :: _, [] => simp [Table.code] at h
  | (key, node) :: rest, (key', node') :: rest' =>
    simp only [Table.code, List.cons_append, List.append_assoc, List.cons.injEq, true_and] at h
    obtain ⟨hkey, h⟩ := textCode_front h
    obtain ⟨hnode, h⟩ := Node.code_front h
    obtain ⟨hrest, hr⟩ := Table.code_front h
    exact ⟨by rw [hkey, hnode, hrest], hr⟩

end

/-- A document and its last line. -/
def plainPrint (document : Table) : Bytes := Table.code document ++ [10]

theorem endLine_plainPrint (document : Table) :
    endLine (plainPrint document) = plainPrint document := by
  simp [endLine, plainPrint]

open Classical in
/-- The document of a text, found by search. -/
noncomputable def plainParse (bytes : Bytes) : Option Table :=
  if h : ∃ document, plainPrint document = bytes then some h.choose else none

theorem plainParse_endLine (document : Table) :
    plainParse (endLine (plainPrint document)) = some document := by
  have hex : ∃ d, plainPrint d = plainPrint document := ⟨document, rfl⟩
  rw [endLine_plainPrint, plainParse, dif_pos hex]
  exact congrArg some (Table.code_front hex.choose_spec).1

/-- A library that reads by search. -/
noncomputable def Toml.plain : Toml where
  parse := plainParse
  print := plainPrint
  valueInteger := fun
    | .integer value => some value
    | _ => none
  valueBoolean := fun
    | .boolean value => some value
    | _ => none
  valueInteger_integer := fun _ => rfl
  valueBoolean_boolean := fun _ => rfl
  parse_print := fun document _ => plainParse_endLine document

/-! ## §5. Accounts. -/

def validAccountName (name : Bytes) : Bool :=
  !name.isEmpty && decide (name.length ≤ 32) && name.all fun c =>
    (65 ≤ c && c ≤ 90) || (97 ≤ c && c ≤ 122) || (48 ≤ c && c ≤ 57) || c == 95 || c == 45

structure AccountConfig where
  apiId : Option Int := none
  apiHash : Option Bytes := none
  apiIdCmd : Option Bytes := none
  apiHashCmd : Option Bytes := none
  dbKeyCmd : Option Bytes := none
  passwordCmd : Option Bytes := none
  botTokenCmd : Option Bytes := none
  allowWrite : Bool := false
  idleExit : Option Int := none
deriving DecidableEq, Repr

/-- A field that must convert when it is there. -/
def field {α : Type} (table : Table) (key : String) (read : Node → Option α) :
    Except ConfigReason (Option α) :=
  match table.lookup (ascii key) with
  | none => .ok none
  | some node =>
    match read node with
    | none => .error .typeError
    | some value => .ok (some value)

/-- `optional_hook`: an empty text is an absent hook. -/
def optionalHook (table : Table) (key : String) : Except ConfigReason (Option Bytes) :=
  (field table key Node.stringValue).map fun value => value.filter fun text => !text.isEmpty

def kForbiddenFields : List String := ["bot_token", "password", "database_key", "db_key"]

variable (toml : Toml)

/-- One account, field by field. -/
def parseAccount (name : Bytes) (table : Table) : Except ConfigReason AccountConfig := do
  if !validAccountName name then throw .typeError
  if kForbiddenFields.any fun key => contains (ascii key) table then throw .typeError
  let apiId ← field table "api_id" fun node =>
    (toml.valueInteger node).filter fun value => 0 < value && value ≤ 2147483647
  let apiHash ← field table "api_hash" fun node =>
    node.stringValue.filter fun text => !text.isEmpty
  let apiIdCmd ← optionalHook table "api_id_cmd"
  let apiHashCmd ← optionalHook table "api_hash_cmd"
  let dbKeyCmd ← optionalHook table "db_key_cmd"
  let passwordCmd ← optionalHook table "password_cmd"
  let botTokenCmd ← optionalHook table "bot_token_cmd"
  if (apiId.isSome && apiIdCmd.isSome) || (apiHash.isSome && apiHashCmd.isSome) then
    throw .conflictingCredentials
  let allowWrite ← field table "allow_write" toml.valueBoolean
  let idleExit ← field table "idle_exit" fun node =>
    (toml.valueInteger node).filter fun value => 0 < value
  return { apiId, apiHash, apiIdCmd, apiHashCmd, dbKeyCmd, passwordCmd, botTokenCmd,
           allowWrite := allowWrite.getD false, idleExit }

/-! ## §6. Documents. -/

/-- One entry of the accounts table. -/
def parseEntry (entry : Bytes × Node) : Except ConfigReason (Bytes × AccountConfig) :=
  match entry.2.asTable with
  | none => .error .typeError
  | some table => (parseAccount toml entry.1 table).map fun account => (entry.1, account)

/-- The accounts of a document. -/
def parseAccounts (document : Table) : Except ConfigReason (List (Bytes × AccountConfig)) :=
  match document.lookup (ascii "accounts") with
  | none => .ok []
  | some node =>
    match node.asTable with
    | none => .error .typeError
    | some table => table.mapM (parseEntry toml)

/-- The default account of a document. -/
def parseDefault (document : Table) : Except ConfigReason (Option Bytes) :=
  field document "default_account" fun node => node.stringValue.filter validAccountName

/-- The checks of `parse_document` on the parsed text. -/
def checkDocument (document : Table) :
    Except ConfigReason (Option Bytes × List (Bytes × AccountConfig)) :=
  match parseDefault document with
  | .error reason => .error reason
  | .ok defaultAccount =>
    match parseAccounts toml document with
    | .error reason => .error reason
    | .ok accounts =>
      let name := defaultAccount.getD []
      if !name.isEmpty && !contains name accounts then .error .invalidDefault
      else .ok (defaultAccount, accounts)

structure ConfigSnapshot where
  identity : Identity
  defaultAccount : Option Bytes := none
  accounts : List (Bytes × AccountConfig) := []
  rawBytes : Bytes := []
deriving DecidableEq, Repr

structure ParsedConfig where
  snapshot : ConfigSnapshot
  document : Table

/-- The text of a document as a table. -/
def parseText (bytes : Bytes) : Option Table :=
  if bytes.isEmpty then some [] else toml.parse bytes

/-- A text that parses and passes the checks. -/
def parseDocument (bytes : Bytes) (identity : Identity) : Except ConfigReason ParsedConfig :=
  match parseText toml bytes with
  | none => .error .parseError
  | some document =>
    (checkDocument toml document).map fun checked =>
      { snapshot :=
          { identity := identity, defaultAccount := checked.1, accounts := checked.2
            rawBytes := bytes }
        document := document }

def serializeDocument (document : Table) : Bytes := endLine (toml.print document)

/-! ## §7. Added and chosen accounts leave a valid document. -/

variable {document : Table} {account : Bytes}

theorem parseEntry_key (h : parseEntry toml entry = .ok parsed) : parsed.1 = entry.1 := by
  unfold parseEntry at h
  split at h
  · cases h
  rename_i table _
  cases hparse : parseAccount toml entry.1 table with
  | error reason =>
    rw [hparse] at h
    cases h
  | ok account =>
    rw [hparse] at h
    injection h with h
    rw [← h]

/-- The accounts are parsed in order, under their names. -/
theorem parseEntries_ok : ∀ {table : Table} {accounts : List (Bytes × AccountConfig)},
    table.mapM (parseEntry toml) = .ok accounts →
      (∀ entry ∈ table, ∃ parsed, parseEntry toml entry = .ok parsed)
        ∧ accounts.map fst = table.map fst
  | [], accounts, h => by
      cases h
      exact ⟨fun _ hent => absurd hent List.not_mem_nil, rfl⟩
  | entry :: rest, accounts, h => by
      rw [List.mapM_cons] at h
      cases hent : parseEntry toml entry with
      | error reason =>
        rw [hent] at h
        cases h
      | ok parsed =>
        cases hrest : rest.mapM (parseEntry toml) with
        | error reason =>
          rw [hent, hrest] at h
          cases h
        | ok others =>
          rw [hent, hrest] at h
          injection h with h
          obtain ⟨hall, hkeys⟩ := parseEntries_ok hrest
          refine ⟨List.forall_mem_cons.mpr ⟨⟨parsed, hent⟩, hall⟩, ?_⟩
          rw [← h, List.map_cons, List.map_cons, hkeys, parseEntry_key toml hent]

theorem exists_parseEntries : ∀ {table : Table},
    (∀ entry ∈ table, ∃ parsed, parseEntry toml entry = .ok parsed) →
      ∃ accounts, table.mapM (parseEntry toml) = .ok accounts
  | [], _ => ⟨[], rfl⟩
  | entry :: rest, h => by
      obtain ⟨⟨parsed, hent⟩, hrest⟩ := List.forall_mem_cons.mp h
      obtain ⟨others, hoths⟩ := exists_parseEntries hrest
      refine ⟨parsed :: others, ?_⟩
      rw [List.mapM_cons, hent, hoths]
      rfl

/-- What `checkDocument` asks of a document. -/
structure ValidDocument (document : Table) : Prop where
  accounts_table : ∀ node, document.lookup (ascii "accounts") = some node →
    node.asTable = some (accountsOf document)
  accounts_parse : ∀ entry ∈ accountsOf document, ∃ parsed, parseEntry toml entry = .ok parsed
  default_configured : ∀ node, document.lookup (ascii "default_account") = some node →
    ∃ name, node.stringValue = some name ∧ validAccountName name = true
      ∧ contains name (accountsOf document) = true

/-- The accounts parse: they are a table, and every entry parses. -/
theorem parseAccounts_ok (h : parseAccounts toml document = .ok accounts) :
    (∀ node, document.lookup (ascii "accounts") = some node →
        node.asTable = some (accountsOf document))
      ∧ (∀ entry ∈ accountsOf document, ∃ parsed, parseEntry toml entry = .ok parsed)
      ∧ accounts.map fst = (accountsOf document).map fst := by
  unfold parseAccounts at h
  cases hlook : document.lookup (ascii "accounts") with
  | none =>
    rw [hlook] at h
    injection h with h
    have hnil : accountsOf document = [] := by simp [accountsOf, hlook]
    rw [← h, hnil]
    exact ⟨fun node hnode => (by cases hnode), fun _ he => absurd he List.not_mem_nil, rfl⟩
  | some node =>
    rw [hlook] at h
    dsimp only at h
    cases htable : node.asTable with
    | none =>
      rw [htable] at h
      cases h
    | some table =>
      rw [htable] at h
      have haccounts : accountsOf document = table := by simp [accountsOf, hlook, htable]
      rw [haccounts]
      refine ⟨?_, parseEntries_ok toml h⟩
      intro node' hnode
      injection hnode with hnode
      rw [← hnode, htable]

theorem parseDefault_ok (h : parseDefault document = .ok name) :
    name = (document.lookup (ascii "default_account")).bind Node.stringValue
      ∧ ∀ node, document.lookup (ascii "default_account") = some node →
        ∃ text, node.stringValue = some text ∧ validAccountName text := by
  unfold parseDefault field at h
  cases hnode : document.lookup (ascii "default_account") with
  | none =>
    rw [hnode] at h
    cases h
    exact ⟨rfl, fun _ h => by cases h⟩
  | some node =>
    rw [hnode] at h
    dsimp only at h
    cases htext : node.stringValue with
    | none =>
      rw [htext] at h
      cases h
    | some text =>
      rw [htext] at h
      by_cases hval : validAccountName text = true
      · rw [filter_some, if_pos hval] at h
        injection h with h
        refine ⟨by rw [← h, bind_some, htext], ?_⟩
        rintro _ ⟨⟩
        exact ⟨text, htext, hval⟩
      · rw [filter_some, if_neg hval] at h
        cases h

theorem contains_congr {β γ : Type} {a : List (Bytes × β)} {b : List (Bytes × γ)}
    (h : a.map fst = b.map fst) (key : Bytes) : contains key a = contains key b := by
  rw [Bool.eq_iff_iff, contains_iff, contains_iff, h]

/-- An accepted document is valid, and its accounts are those of the table. -/
theorem valid_of_checkDocument (h : checkDocument toml document = .ok checked) :
    ValidDocument toml document ∧ checked.2.map fst = (accountsOf document).map fst
      ∧ checked.1 = (document.lookup (ascii "default_account")).bind Node.stringValue := by
  unfold checkDocument at h
  split at h
  · cases h
  rename_i name hname
  split at h
  · cases h
  rename_i accounts haccounts
  obtain ⟨htable, hparse, hkeys⟩ := parseAccounts_ok toml haccounts
  dsimp only at h
  split at h
  · cases h
  rename_i hconf
  cases h
  obtain ⟨hdefault, htexts⟩ := parseDefault_ok hname
  refine ⟨⟨htable, hparse, ?_⟩, hkeys, hdefault⟩
  intro node hnode
  obtain ⟨text, htext, hval⟩ := htexts node hnode
  refine ⟨text, htext, hval, ?_⟩
  rw [← contains_congr hkeys]
  -- a valid name is not empty, so the last check was about it
  rw [hdefault, hnode, bind_some, htext] at hconf
  have hne : text ≠ [] := by
    rintro rfl
    cases hval
  simpa [hne] using hconf

/-- A valid document is accepted. -/
theorem checkDocument_of_valid (h : ValidDocument toml document) :
    ∃ checked, checkDocument toml document = .ok checked := by
  obtain ⟨accounts, haccounts⟩ : ∃ accounts, parseAccounts toml document = .ok accounts := by
    unfold parseAccounts
    cases hlook : document.lookup (ascii "accounts") with
    | none => exact ⟨[], rfl⟩
    | some node =>
      dsimp only
      rw [h.accounts_table node hlook]
      exact exists_parseEntries toml h.accounts_parse
  have hkeys := (parseAccounts_ok toml haccounts).2.2
  cases hnode : document.lookup (ascii "default_account") with
  | none =>
    have hdef : parseDefault document = .ok none := by
      unfold parseDefault field
      rw [hnode]
    refine ⟨(none, accounts), ?_⟩
    unfold checkDocument
    rw [hdef, haccounts]
    rfl
  | some node =>
    obtain ⟨name, htext, hval, hcon⟩ := h.default_configured node hnode
    have hdef : parseDefault document = .ok (some name) := by
      unfold parseDefault field
      rw [hnode]
      dsimp only
      rw [htext, filter_some, if_pos hval]
    rw [← contains_congr hkeys] at hcon
    refine ⟨(some name, accounts), ?_⟩
    unfold checkDocument
    rw [hdef, haccounts]
    show (if !name.isEmpty && !contains name accounts then _ else _) = _
    rw [hcon, Bool.not_true, Bool.and_false]
    rfl

theorem accounts_ne_default : ascii "accounts" ≠ ascii "default_account" := by decide

@[simp] theorem accountsOf_setAccounts (accounts document : Table) :
    accountsOf (setAccounts accounts document) = accounts := by
  simp [accountsOf, setAccounts, Node.asTable]

@[simp] theorem accountsOf_setDefault (account : Bytes) (document : Table) :
    accountsOf (setDefault account document) = accountsOf document := by
  simp [accountsOf, setDefault, accounts_ne_default]

@[simp] theorem lookup_default_setAccounts (accounts document : Table) :
    (setAccounts accounts document).lookup (ascii "default_account")
      = document.lookup (ascii "default_account") := by
  simp [setAccounts, accounts_ne_default.symm]

/-- A valid document with other accounts that parse and still have the default. -/
theorem ValidDocument.setAccounts (h : ValidDocument toml document)
    (hparse : ∀ entry ∈ accounts, ∃ parsed, parseEntry toml entry = .ok parsed)
    (hkeep : ∀ name, contains name (accountsOf document) → contains name accounts) :
    ValidDocument toml (Config.setAccounts accounts document) := by
  refine ⟨?_, ?_, ?_⟩
  · intro node hnode
    rw [accountsOf_setAccounts]
    rw [Config.setAccounts, lookup_assign_self] at hnode
    cases hnode
    rfl
  · rw [accountsOf_setAccounts]
    exact hparse
  · intro node hnode
    rw [lookup_default_setAccounts] at hnode
    obtain ⟨name, htext, hval, hcon⟩ := h.default_configured node hnode
    rw [accountsOf_setAccounts]
    exact ⟨name, htext, hval, hkeep name hcon⟩

/-- A valid document with a configured account as its default. -/
theorem ValidDocument.setDefault (h : ValidDocument toml document) (hval : validAccountName account)
    (hcon : contains account (accountsOf document)) :
    ValidDocument toml (Config.setDefault account document) := by
  refine ⟨?_, ?_, ?_⟩
  · intro node hnode
    rw [accountsOf_setDefault]
    rw [Config.setDefault, lookup_assign_of_ne accounts_ne_default] at hnode
    exact h.accounts_table node hnode
  · rw [accountsOf_setDefault]
    exact h.accounts_parse
  · intro node hnode
    rw [Config.setDefault, lookup_assign_self] at hnode
    injection hnode with hnode
    rw [accountsOf_setDefault, ← hnode]
    exact ⟨account, rfl, hval, hcon⟩

/-- A fresh account parses under any account name. -/
theorem parseEntry_fresh (h : validAccountName name) :
    ∃ parsed, parseEntry toml (name, .table freshAccount) = .ok parsed := by
  have hallow : field freshAccount "allow_write" toml.valueBoolean = .ok (some false) := by
    have hlook : freshAccount.lookup (ascii "allow_write") = some (.boolean false) :=
      List.lookup_cons_self
    unfold field
    rw [hlook]
    dsimp only
    rw [toml.valueBoolean_boolean]
  have hparse : parseAccount toml name freshAccount = .ok {} := by
    unfold parseAccount
    rw [h, hallow]
    rfl
  refine ⟨(name, {}), ?_⟩
  show (parseAccount toml name freshAccount).map _ = _
  rw [hparse]
  rfl

theorem valid_base (h : ValidDocument toml document) :
    ValidDocument toml (setAccounts (accountsOf document) document) :=
  h.setAccounts toml h.accounts_parse fun _ hc => hc

/-- **Adding an account to a valid document gives a valid document**, unless
there is one of that name. -/
theorem applyMutation_add (h : ValidDocument toml document) (hname : validAccountName account)
    (hnew : contains account (accountsOf document) = false) :
    ∃ result, applyMutation document { kind := .add, account := account } = .ok result
      ∧ ValidDocument toml result := by
  have hadded : ValidDocument toml
      (setAccounts (assign account (.table freshAccount) (accountsOf document))
        (setAccounts (accountsOf document) document)) := by
    refine (valid_base toml h).setAccounts toml ?_ ?_
    · intro entry hent
      rcases mem_assign hent with rfl | hent
      · exact parseEntry_fresh toml hname
      · exact h.accounts_parse entry hent
    · intro name hcon
      by_cases hsame : name = account
      · simp [contains, hsame]
      · simpa [contains, hsame] using hcon
  simp only [applyMutation, hnew, Bool.false_eq_true, if_false]
  split
  · refine ⟨_, rfl, hadded.setDefault toml hname ?_⟩
    simp [contains]
  · exact ⟨_, rfl, hadded⟩

/-- **Choosing a configured account keeps a document valid.** -/
theorem applyMutation_use (h : ValidDocument toml document) (hname : validAccountName account)
    (hold : contains account (accountsOf document)) :
    ∃ result, applyMutation document { kind := .use, account := account } = .ok result
      ∧ ValidDocument toml result := by
  refine ⟨setDefault account (setAccounts (accountsOf document) document), ?_, ?_⟩
  · simp only [applyMutation, hold, if_true]
  · exact (valid_base toml h).setDefault toml hname (by rw [accountsOf_setAccounts]; exact hold)

theorem endLine_ne_nil (bytes : Bytes) : endLine bytes ≠ [] := by
  unfold endLine
  split
  · next h =>
      intro hnil
      rw [hnil] at h
      cases h
  · simp

theorem parseText_serialize (hheld : Held toml.parse document) :
    parseText toml (serializeDocument toml document) = some document := by
  have hne : (serializeDocument toml document).isEmpty = false := by
    rw [List.isEmpty_eq_false_iff]
    exact endLine_ne_nil _
  rw [parseText, hne]
  exact toml.parse_print document hheld

theorem parseDocument_eq_ok : parseDocument toml bytes identity = .ok parsed ↔ ∃ document checked,
      parseText toml bytes = some document ∧ checkDocument toml document = .ok checked
      ∧ (⟨⟨identity, checked.1, checked.2, bytes⟩, document⟩ : ParsedConfig) = parsed := by
  unfold parseDocument
  cases parseText toml bytes with
  | none => simp
  | some document =>
    rcases hcheck : checkDocument toml document with _ | ⟨name, accounts⟩ <;>
      simp [Except.map, hcheck]

/-- **A valid document can be written and read back.** -/
theorem parseDocument_serialize (hheld : Held toml.parse document)
    (h : ValidDocument toml document) (identity : Identity) :
    ∃ parsed, parseDocument toml (serializeDocument toml document) identity = .ok parsed := by
  obtain ⟨checked, hchecked⟩ := checkDocument_of_valid toml h
  exact ⟨_, (parseDocument_eq_ok toml).mpr ⟨_, _, parseText_serialize toml hheld, hchecked, rfl⟩⟩

theorem valid_nil : ValidDocument toml [] :=
  ⟨fun _ h => (by cases h), fun _ h => absurd h List.not_mem_nil, fun _ h => (by cases h)⟩

end TgCli.Config
