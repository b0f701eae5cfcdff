/-
  TgCli.Lib.JsonFields — READING AND MEASURING A JSON VALUE

  Fields, items and numbers of a JSON value, and the comparison of two values.
  A validator built from these reads a value and its parsed text alike: each
  accessor commutes with `parsed`.

  Then bounds on the canonical length of a value from bounds on its parts, and
  that length compared with the length of a text that has short escapes: each of
  the five control characters with a short escape takes four bytes more.

  Main results:
    * `parsed_beq` — the comparison does not depend on the kinds of numbers;
    * `size_le_of_exactFields`, `within_of_fields` — an object with given fields;
    * `size_eq_dumpSize` — the two lengths.
-/
import Mathlib.Data.List.Nodup
import Mathlib.Data.List.Perm.Subperm
import Mathlib.Data.Rat.Cast.Order
import TgCli.Lib.Json

namespace TgCli.Lib

open List Json

namespace Json

/-! ## §1. Fields. -/

/-- The value of a field; `null` where there is none. -/
def get (v : Json) (name : String) : Json :=
  match v with
  | .obj members => ((members.find? fun member => member.1 == name).map (·.2)).getD .null
  | _ => .null

def contains (v : Json) (name : String) : Bool :=
  match v with
  | .obj members => members.any fun member => member.1 == name
  | _ => false

/-- An object with these fields and no others. -/
def exactFields (v : Json) (names : List String) : Bool :=
  match v with
  | .obj members => members.length == names.length && names.all v.contains
  | _ => false

/-- A value without parts. -/
def isEmpty : Json → Bool
  | .null => true
  | .arr items => items.isEmpty
  | .obj members => members.isEmpty
  | _ => false

/-- The items of an array. -/
def items : Json → List Json
  | .arr items => items
  | _ => []

def isArr : Json → Bool
  | .arr _ => true
  | _ => false

def isObj : Json → Bool
  | .obj _ => true
  | _ => false

def isNull : Json → Bool
  | .null => true
  | _ => false

def isBool : Json → Bool
  | .bool _ => true
  | _ => false

def isUnsigned : Json → Bool
  | .nat _ => true
  | _ => false

def str? : Json → Option String
  | .str s => some s
  | _ => none

/-- An integer of either kind. -/
def number? : Json → Option Int
  | .int n => some n
  | .nat n => some n
  | _ => none

/-! ## §2. Comparison. -/

/-- A machine integer of 64 bits, read as a signed one. -/
def signed (n : Int) : Int := if 2 ^ 63 ≤ n ∧ n < 2 ^ 64 then n - 2 ^ 64 else n

mutual

/-- Equality of values: an integer equals one of the other kind if it does as a
signed one.  A float and an integer are compared exactly; the source rounds the
integer to a double. -/
def same : Json → Json → Bool
  | .null, .null => true
  | .bool a, .bool b => a == b
  | .int a, .int b => signed a == signed b
  | .int a, .nat b => signed a == signed b
  | .nat a, .int b => signed a == signed b
  | .nat a, .nat b => a == b
  | .float a _, .float b _ => a == b
  | .float a _, .int b => a == b
  | .float a _, .nat b => a == b
  | .int a, .float b _ => a == b
  | .nat a, .float b _ => a == b
  | .str a, .str b => a == b
  | .arr a, .arr b => sameItems a b
  | .obj a, .obj b => sameMembers a b
  | _, _ => false

def sameItems : List Json → List Json → Bool
  | [], [] => true
  | a :: as, b :: bs => same a b && sameItems as bs
  | _, _ => false

def sameMembers : List (String × Json) → List (String × Json) → Bool
  | [], [] => true
  | (m, a) :: as, (n, b) :: bs => m == n && same a b && sameMembers as bs
  | _, _ => false

end

instance : BEq Json := ⟨same⟩

theorem signed_inj (hm : 0 ≤ m) (hn : 0 ≤ n) : signed m = signed n ↔ m = n := by
  unfold signed
  constructor
  · intro h
    split at h <;> split at h <;> omega
  · rintro rfl
    rfl

theorem sameItems_congr {f : Json → Json} (h : ∀ a ∈ as, ∀ b, same (f a) b = same a b) :
    ∀ bs, sameItems (as.map f) bs = sameItems as bs := by
  induction as with
  | nil => exact fun bs => rfl
  | cons a as ih =>
    intro bs
    cases bs with
    | nil => rfl
    | cons b bs =>
      rw [map_cons, sameItems, sameItems, h a mem_cons_self,
        ih fun a' ha' => h a' (mem_cons_of_mem _ ha')]

theorem sameMembers_congr {f : Json → Json} (h : ∀ a ∈ as, ∀ b, same (f a.2) b = same a.2 b) :
    ∀ bs, sameMembers (as.map fun a => (a.1, f a.2)) bs = sameMembers as bs := by
  induction as with
  | nil => exact fun bs => rfl
  | cons a as ih =>
    intro bs
    obtain ⟨m, a⟩ := a
    cases bs with
    | nil => rfl
    | cons b bs =>
      obtain ⟨n, b⟩ := b
      rw [map_cons, sameMembers, sameMembers, h (m, a) mem_cons_self,
        ih fun a' ha' => h a' (mem_cons_of_mem _ ha')]

/-- A nonnegative integer compares alike in both kinds. -/
theorem same_nat_int (n : Nat) (b : Json) : same (.nat n) b = same (.int n) b := by
  cases b with
  | nat m =>
    show (n == m) = (signed n == signed m)
    rw [Bool.eq_iff_iff, beq_iff_eq, beq_iff_eq, signed_inj (Int.natCast_nonneg n)
      (Int.natCast_nonneg m), Int.natCast_inj]
  | int m => rfl
  | float q t => rfl
  | _ => rfl

theorem same_parsed_left (a : Json) : ∀ b, same a.parsed b = same a b := by
  induction a using induct with
  | int n =>
    intro b
    rw [parsed]
    split
    · rfl
    · rename_i hn
      rw [same_nat_int, Int.toNat_of_nonneg (Int.not_lt.mp hn)]
  | arr items ih =>
    intro b
    rw [parsed_arr]
    cases b with
    | arr bs => exact sameItems_congr ih bs
    | _ => rfl
  | obj members ih =>
    intro b
    rw [parsed_obj]
    cases b with
    | obj bs => exact sameMembers_congr ih bs
    | _ => rfl
  | _ => exact fun b => rfl

theorem same_symm (a : Json) : ∀ b, same a b = same b a := by
  induction a using induct with
  | arr as ih =>
    intro b
    cases b with
    | arr bs =>
      show sameItems as bs = sameItems bs as
      induction as generalizing bs with
      | nil => cases bs <;> rfl
      | cons a as ih' =>
        cases bs with
        | nil => rfl
        | cons b bs =>
          rw [sameItems, sameItems, ih a mem_cons_self,
            ih' (fun a' ha' => ih a' (mem_cons_of_mem _ ha')) bs]
    | _ => rfl
  | obj as ih =>
    intro b
    cases b with
    | obj bs =>
      show sameMembers as bs = sameMembers bs as
      induction as generalizing bs with
      | nil => cases bs <;> rfl
      | cons a as ih' =>
        obtain ⟨m, a⟩ := a
        cases bs with
        | nil => rfl
        | cons b bs =>
          obtain ⟨n, b⟩ := b
          rw [sameMembers, sameMembers, ih (m, a) mem_cons_self,
            ih' (fun a' ha' => ih a' (mem_cons_of_mem _ ha')) bs, Bool.beq_comm]
    | _ => rfl
  | bool a =>
    intro b
    cases b with
    | bool b => exact Bool.beq_comm
    | _ => rfl
  | int a | nat a | float q t =>
    intro b
    cases b with
    | int b | nat b | float q t => exact Bool.beq_comm
    | _ => rfl
  | str a =>
    intro b
    cases b with
    | str b => exact Bool.beq_comm
    | _ => rfl
  | null =>
    intro b
    cases b <;> rfl

/-- **The comparison does not depend on the kinds of the numbers.** -/
@[simp] theorem parsed_beq (a b : Json) : (a.parsed == b) = (a == b) := same_parsed_left a b

@[simp] theorem beq_parsed (a b : Json) : (a == b.parsed) = (a == b) := by
  show same a b.parsed = same a b
  rw [same_symm, same_parsed_left, same_symm]

theorem beq_str {v : Json} {s : String} : (v == .str s) ↔ v = .str s := by
  cases v with
  | str t =>
    show (t == s) = true ↔ _
    rw [beq_iff_eq, str.injEq]
  | _ => exact iff_of_false nofun nofun

theorem beq_bool {v : Json} {b : Bool} : (v == .bool b) ↔ v = .bool b := by
  cases v with
  | bool c =>
    show (c == b) = true ↔ _
    rw [beq_iff_eq, bool.injEq]
  | _ => exact iff_of_false nofun nofun

theorem beq_refl (v : Json) : (v == v) := by
  show same v v = true
  induction v using induct with
  | arr items ih =>
    show sameItems items items = true
    induction items with
    | nil => rfl
    | cons a as ih' =>
      rw [sameItems, ih a mem_cons_self, ih' fun a' ha' => ih a' (mem_cons_of_mem _ ha')]
      rfl
  | obj members ih =>
    show sameMembers members members = true
    induction members with
    | nil => rfl
    | cons a as ih' =>
      obtain ⟨m, a⟩ := a
      rw [sameMembers, ih (m, a) mem_cons_self,
        ih' fun a' ha' => ih a' (mem_cons_of_mem _ ha'), beq_self_eq_true]
      rfl
  | _ => simp [same]

theorem sameItems_getElem : ∀ {bs : List Json} {i : Nat} {a : Json},
    sameItems as bs → as[i]? = some a → ∃ b, bs[i]? = some b ∧ (a == b) := by
  induction as with
  | nil => exact fun _ hit => nomatch hit
  | cons a as ih =>
    intro bs i item hsame hit
    cases bs with
    | nil => cases hsame
    | cons b bs =>
      rw [sameItems, Bool.and_eq_true] at hsame
      cases i with
      | zero =>
        cases hit
        exact ⟨b, rfl, hsame.1⟩
      | succ i => exact ih hsame.2 (i := i) hit

/-- Equal arrays have equal items. -/
theorem items_beq {v w : Json} (h : (v == w)) {i : Nat} {item : Json}
    (hit : v.items[i]? = some item) : ∃ item', w.items[i]? = some item' ∧ (item == item') := by
  cases v with
  | arr as =>
    cases w with
    | arr bs => exact sameItems_getElem h hit
    | _ => cases h
  | _ => cases hit

theorem sameMembers_find (name : String) : ∀ {bs : List (String × Json)}, sameMembers as bs →
      (get (.obj as) name == get (.obj bs) name) := by
  induction as with
  | nil =>
    intro bs h
    cases bs with
    | nil => rfl
    | cons b bs => cases h
  | cons a as ih =>
    intro bs h
    cases bs with
    | nil => cases h
    | cons b bs =>
      obtain ⟨m, v⟩ := a
      obtain ⟨n, w⟩ := b
      simp only [sameMembers, Bool.and_eq_true, beq_iff_eq] at h
      obtain ⟨⟨rfl, hsame⟩, hrest⟩ := h
      have hih := ih hrest
      unfold get at hih ⊢
      by_cases hname : (m == name) = true
      · simp only [find?_cons, hname]
        exact hsame
      · simpa [find?_cons, hname] using hih

/-- Equal objects have equal fields. -/
theorem get_beq {v w : Json} (h : (v == w)) (hobj : v.isObj) (name : String) :
    (v.get name == w.get name) := by
  cases v with
  | obj as =>
    cases w with
    | obj bs => exact sameMembers_find name h
    | _ => cases h
  | _ => cases hobj

/-! ## §3. Accessors of a parsed value. -/

/-- What parsing can change: the kind of a nonnegative integer, and the parts. -/
theorem parsed_cases {P : Json → Json → Prop} (v : Json) (same : ∀ v, P v v := by intro; rfl)
    (number : ∀ n : Nat, P (.int n) (.nat n) := by intro; rfl)
    (arr : ∀ items, P (.arr items) (.arr (items.map parsed)) := by intro; rfl)
    (obj : ∀ members, P (.obj members) (.obj (members.map fun m => (m.1, m.2.parsed))) := by
      intro; rfl) : P v v.parsed := by
  cases v with
  | int n =>
    rw [parsed]
    split
    · exact same _
    rename_i hn
    lift n to Nat using Int.not_lt.mp hn
    exact number n
  | arr items => exact parsed_arr items ▸ arr items
  | obj members => exact parsed_obj members ▸ obj members
  | _ => exact same _

section Parsed

variable (v : Json) (name : String)

@[simp] theorem get_parsed : v.parsed.get name = (v.get name).parsed := by
  cases v with
  | obj members =>
    rw [parsed_obj]
    unfold get
    dsimp only
    rw [find?_map, Option.map_map]
    show ((members.find? fun member => member.1 == name).map fun member => member.2.parsed).getD .null
      = _
    cases members.find? fun member => member.1 == name with
    | none => rfl
    | some member => rfl
  | int n =>
    rw [parsed]
    split <;> rfl
  | _ => rfl

@[simp] theorem contains_parsed : v.parsed.contains name = v.contains name :=
  parsed_cases (P := fun v w => w.contains name = v.contains name) v (fun _ => rfl) (fun _ => rfl)
    (fun _ => rfl) fun members => by
      unfold contains
      simp only [any_map, Function.comp_def]

@[simp] theorem exactFields_parsed (names : List String) :
    v.parsed.exactFields names = v.exactFields names := by
  have hcon : v.parsed.contains = v.contains := funext fun name => contains_parsed v name
  cases v with
  | obj members =>
    rw [parsed_obj] at hcon ⊢
    show (List.length _ == names.length && names.all (contains _)) = _
    rw [length_map, hcon]
    rfl
  | int n =>
    rw [parsed]
    split <;> rfl
  | _ => rfl

@[simp] theorem items_parsed : v.parsed.items = v.items.map parsed := by
  cases v with
  | arr items => rw [parsed_arr]; rfl
  | int n =>
    rw [parsed]
    split <;> rfl
  | _ => rfl

@[simp] theorem isEmpty_parsed : v.parsed.isEmpty = v.isEmpty :=
  parsed_cases (P := fun v w => w.isEmpty = v.isEmpty) v (fun _ => rfl) (fun _ => rfl)
    (fun _ => isEmpty_map) fun _ => isEmpty_map

@[simp] theorem isArr_parsed : v.parsed.isArr = v.isArr :=
  parsed_cases (P := fun v w => w.isArr = v.isArr) v

@[simp] theorem isObj_parsed : v.parsed.isObj = v.isObj :=
  parsed_cases (P := fun v w => w.isObj = v.isObj) v

@[simp] theorem isNull_parsed : v.parsed.isNull = v.isNull :=
  parsed_cases (P := fun v w => w.isNull = v.isNull) v

@[simp] theorem isBool_parsed : v.parsed.isBool = v.isBool :=
  parsed_cases (P := fun v w => w.isBool = v.isBool) v

@[simp] theorem str?_parsed : v.parsed.str? = v.str? :=
  parsed_cases (P := fun v w => w.str? = v.str?) v

@[simp] theorem number?_parsed : v.parsed.number? = v.number? :=
  parsed_cases (P := fun v w => w.number? = v.number?) v

/-- An unsigned integer stays one; a signed one may become one. -/
theorem isUnsigned_parsed {v : Json} (h : v.isUnsigned) : v.parsed.isUnsigned := by
  cases v with
  | nat n => rfl
  | _ => cases h

end Parsed

/-! ## §4. Objects with given fields. -/

/-- An object with given fields has one member for each. -/
theorem exactFields_perm {names : List String}
    (hnd : names.Nodup) (h : (obj members).exactFields names) :
    (members.map (·.1)).Perm names := by
  simp only [exactFields, contains, Bool.and_eq_true, beq_iff_eq, all_eq_true, any_eq_true] at h
  obtain ⟨hlen, hall⟩ := h
  have hsub : names ⊆ members.map (·.1) := by
    intro name hname
    obtain ⟨member, hmember, heq⟩ := hall name hname
    exact heq ▸ mem_map_of_mem hmember
  refine (List.Subperm.perm_of_length_le (hnd.subperm hsub) ?_).symm
  rw [length_map, hlen]

theorem get_of_mem {members : List (String × Json)} (hnd : (members.map (·.1)).Nodup)
    (h : member ∈ members) : (obj members).get member.1 = member.2 := by
  have hfind : members.find? (fun other => other.1 == member.1) = some member := by
    induction members with
    | nil => exact absurd h not_mem_nil
    | cons head tail ih =>
      rw [map_cons, nodup_cons] at hnd
      rcases mem_cons.mp h with rfl | htail
      · exact find?_cons_of_pos (beq_self_eq_true _)
      · rw [find?_cons_of_neg, ih hnd.2 htail]
        -- Another member of this name would repeat it.
        intro heq
        exact hnd.1 (beq_iff_eq.mp heq ▸ mem_map_of_mem htail)
  show ((members.find? _).map (·.2)).getD .null = member.2
  rw [hfind]
  rfl

/-- **The length of an object with given fields**, from bounds on its fields. -/
theorem size_le_of_exactFields {v : Json} {fields : List (String × Nat)}
    (hnd : (fields.map (·.1)).Nodup) (h : v.exactFields (fields.map (·.1)))
    (hbound : ∀ field ∈ fields, (v.get field.1).size ≤ field.2) :
    v.size ≤ JsonSize.pieces (fields.map fun field => quoteSize field.1 + 1 + field.2) := by
  cases v with
  | obj members =>
    have hperm := exactFields_perm hnd h
    have hmembers : (members.map (·.1)).Nodup := hperm.nodup_iff.mpr hnd
    -- Both sums run over the names, in another order.
    have hsize : members.map (fun member => quoteSize member.1 + 1 + sizeBy quoteSize member.2)
        = (members.map (·.1)).map fun name =>
            quoteSize name + 1 + ((obj members).get name).size := by
      rw [map_map]
      refine map_congr_left fun member hmember => ?_
      show _ = quoteSize member.1 + 1 + ((obj members).get member.1).size
      rw [get_of_mem hmembers hmember]
      rfl
    unfold size
    rw [sizeBy_obj, hsize]
    have hlen : members.length = fields.length := by
      have := hperm.length_eq
      rwa [length_map, length_map] at this
    unfold JsonSize.pieces
    rw [(hperm.map _).sum_eq, map_map, length_map, length_map, length_map, hlen]
    have hsum : (fields.map ((fun name => quoteSize name + 1 + ((obj members).get name).size)
        ∘ fun field => field.1)).sum ≤ (fields.map fun field => quoteSize field.1 + 1 + field.2).sum := by
      refine sum_le_sum fun field hfield => ?_
      have := hbound field hfield
      show quoteSize field.1 + 1 + ((obj members).get field.1).size ≤ _
      omega
    omega
  | _ => cases h

/-! ## §5. The two escapes. -/

/-- The control characters with a short escape. -/
def shortEscape (c : Char) : Bool := ['\x08', '\t', '\n', '\x0c', '\r'].contains c

theorem mem_escapes_iff {c : Char} :
    c ∈ ['"', '\\', '\x08', '\t', '\n', '\x0c', '\r']
      ↔ (c = '"' ∨ c = '\\') ∨ shortEscape c := by
  simp [shortEscape, or_assoc]

theorem hexDigit_utf8Size (n : Nat) : (hexDigit n).utf8Size = 1 := by
  have hall : "0123456789abcdef".toList.all (·.utf8Size == 1) := rfl
  unfold hexDigit
  rw [getD_eq_getElem?_getD]
  cases hget : "0123456789abcdef".toList[n]? with
  | none => rfl
  | some c => exact eq_of_beq (all_eq_true.mp hall c (mem_of_getElem? hget))

/-- **A canonical escape is four bytes longer than a short one.** -/
theorem bytes_escape (c : Char) :
    bytes (escape c) = JsonSize.escaped c + 4 * (if shortEscape c then 1 else 0) := by
  unfold escape JsonSize.escaped
  by_cases hquote : c = '"' ∨ c = '\\'
  · rcases hquote with rfl | rfl <;> decide
  rw [if_neg hquote]
  by_cases hctl : c.toNat ≤ 0x1f
  · have hval : c.val < 0x20 := by
      show c.val.toNat < 32
      have : c.toNat = c.val.toNat := rfl
      omega
    have hsix : bytes ['\\', 'u', '0', '0', hexDigit (c.toNat / 16), hexDigit (c.toNat % 16)]
        = 6 := by
      have hone : '\\'.utf8Size = 1 ∧ 'u'.utf8Size = 1 ∧ '0'.utf8Size = 1 := ⟨rfl, rfl, rfl⟩
      simp only [bytes_cons, bytes_nil, hexDigit_utf8Size, hone]
    rw [if_pos hctl, hsix, if_pos hval]
    by_cases hsh : shortEscape c = true
    · rw [if_pos (mem_escapes_iff.mpr (.inr hsh)), if_pos hsh]
    · rw [if_neg (mt mem_escapes_iff.mp (not_or.mpr ⟨hquote, hsh⟩)), if_neg hsh]
  · have hval : ¬ c.val < 0x20 := by
      show ¬ c.val.toNat < 32
      have : c.toNat = c.val.toNat := rfl
      omega
    have hsh : ¬ shortEscape c := by
      intro h
      have hall : ['\x08', '\t', '\n', '\x0c', '\r'].all (·.toNat.ble 0x1f) := rfl
      exact hctl (Nat.le_of_ble_eq_true (all_eq_true.mp hall c (contains_iff_mem.mp h)))
    have hone : bytes [c] = c.utf8Size := rfl
    rw [if_neg hctl, hone, if_neg (mt mem_escapes_iff.mp (not_or.mpr ⟨hquote, hsh⟩)), if_neg hval,
      if_neg hsh]
    rfl

theorem bytes_flatMap (f : Char → List Char) (chars : List Char) :
    bytes (chars.flatMap f) = (chars.map fun c => bytes (f c)).sum := by
  induction chars with
  | nil => rfl
  | cons c rest ih => rw [flatMap_cons, bytes_append, ih, map_cons, sum_cons]

/-- The number of short escapes of a string. -/
def shortEscapes (s : String) : Nat := s.toList.countP shortEscape

theorem sum_escape (chars : List Char) : (chars.map fun c => bytes (escape c)).sum
      = (chars.map JsonSize.escaped).sum + 4 * chars.countP shortEscape := by
  induction chars with
  | nil => rfl
  | cons c rest ih =>
    have hcnt : (c :: rest).countP shortEscape
        = rest.countP shortEscape + if shortEscape c then 1 else 0 := countP_cons
    rw [map_cons, sum_cons, map_cons, sum_cons, ih, bytes_escape, hcnt]
    omega

theorem quoteSize_eq (s : String) : quoteSize s = JsonSize.text s + 4 * shortEscapes s := by
  have hquote : '"'.utf8Size = 1 := rfl
  unfold quoteSize quote JsonSize.text shortEscapes
  rw [cons_append, bytes_cons, bytes_append, bytes_flatMap, bytes_cons, bytes_nil, hquote,
    sum_escape]
  omega

mutual

/-- The short escapes in the texts and names of a value. -/
def escapes : Json → Nat
  | .str s => shortEscapes s
  | .arr items => itemEscapes items
  | .obj members => memberEscapes members
  | _ => 0

def itemEscapes : List Json → Nat
  | [] => 0
  | v :: rest => escapes v + itemEscapes rest

def memberEscapes : List (String × Json) → Nat
  | [] => 0
  | (name, v) :: rest => shortEscapes name + escapes v + memberEscapes rest

end

/-- **The canonical length** is that of the text with short escapes, and four
more for each of them. -/
theorem size_eq_dumpSize (v : Json) : v.size = v.dumpSize + 4 * v.escapes := by
  unfold size dumpSize
  induction v using Json.induct with
  | str s => exact quoteSize_eq s
  | arr items ih =>
    rw [sizeBy_arr, sizeBy_arr, escapes]
    have hsum : (items.map (sizeBy quoteSize)).sum
        = (items.map (sizeBy JsonSize.text)).sum + 4 * itemEscapes items := by
      induction items with
      | nil => rfl
      | cons v rest ih' =>
        have hrest := ih' fun v' hv' => ih v' (mem_cons_of_mem _ hv')
        have hv := ih v mem_cons_self
        rw [map_cons, sum_cons, map_cons, sum_cons, itemEscapes]
        omega
    unfold JsonSize.pieces
    rw [length_map, length_map]
    omega
  | obj members ih =>
    rw [sizeBy_obj, sizeBy_obj, escapes]
    have hsum : (members.map fun member => quoteSize member.1 + 1 + sizeBy quoteSize member.2).sum
        = (members.map fun member => JsonSize.text member.1 + 1 + sizeBy JsonSize.text member.2).sum
          + 4 * memberEscapes members := by
      induction members with
      | nil => rfl
      | cons member rest ih' =>
        obtain ⟨name, v⟩ := member
        have hrest := ih' fun m hm => ih m (mem_cons_of_mem _ hm)
        have hv := ih (name, v) mem_cons_self
        have hname := quoteSize_eq name
        rw [map_cons, sum_cons, map_cons, sum_cons, memberEscapes]
        dsimp only at hv ⊢
        omega
    unfold JsonSize.pieces
    rw [length_map, length_map]
    omega
  | _ => rfl

/-! ## §6. Bounds. -/

theorem bytes_escape_le (c : Char) : bytes (escape c) ≤ 6 := by
  rw [bytes_escape]
  have hle := JsonSize.escaped_le c
  by_cases hsh : shortEscape c = true
  · have htwo : JsonSize.escaped c = 2 := if_pos (mem_escapes_iff.mpr (.inr hsh))
    rw [if_pos hsh]
    omega
  · rw [if_neg hsh]
    omega

/-- At most `n` bytes long, and without a floating number. -/
def Within (v : Json) (n : Nat) : Prop := v.size ≤ n ∧ v.supported = true

instance (v : Json) (n : Nat) : Decidable (v.Within n) := inferInstanceAs (Decidable (_ ∧ _))

variable {v : Json}

theorem Within.mono (h : v.Within m) (hle : m ≤ n) : v.Within n :=
  ⟨le_trans h.1 hle, h.2⟩

/-- A string of at most `n` characters. -/
theorem within_str {s : String} (h : s.length ≤ n) : (str s).Within (2 + 6 * n) := by
  refine ⟨?_, rfl⟩
  have hsum := JsonSize.sum_chars_le bytes_escape_le s
  have hquote : '"'.utf8Size = 1 := rfl
  show quoteSize s ≤ _
  unfold quoteSize quote
  rw [cons_append, bytes_cons, bytes_append, bytes_flatMap, bytes_cons, bytes_nil, hquote]
  omega

theorem bytes_le (chars : List Char) : bytes chars ≤ 4 * chars.length := by
  induction chars with
  | nil => exact Nat.le_refl 0
  | cons c rest ih =>
    have hsize : c.utf8Size ≤ 4 := Char.utf8Size_le_four c
    rw [bytes_cons, length_cons]
    omega

/-- A number of at most `e` digits. -/
theorem within_number (h : v.number? = some n) (he : 0 < e)
    (hn : n.natAbs < 10 ^ e) : v.Within (4 * (e + 1)) := by
  have hbytes : ∀ text : String, text.length ≤ e + 1 → bytes text.toList ≤ 4 * (e + 1) := by
    intro text htext
    have hle := bytes_le text.toList
    rw [String.length_toList] at hle
    omega
  cases v with
  | int m =>
    cases h
    refine ⟨hbytes _ ?_, rfl⟩
    rw [JsonSize.length_toString]
    exact JsonSize.int_le he hn
  | nat m =>
    cases h
    refine ⟨hbytes _ ?_, rfl⟩
    have hnat := JsonSize.nat_le he hn
    show m.repr.length ≤ _
    have : m.repr.length = JsonSize.nat m := rfl
    have hm : (m : Int).natAbs = m := Int.natAbs_natCast m
    rw [hm] at hnat
    omega
  | _ => cases h

/-- An array of at most `n` items of at most `b` bytes each. -/
theorem within_items (harr : v.isArr) (hcnt : v.items.length ≤ n)
    (hbound : ∀ item ∈ v.items, item.Within b) : v.Within (2 + n * (b + 1)) := by
  cases v with
  | arr items =>
    refine ⟨?_, ?_⟩
    · show sizeBy quoteSize (.arr items) ≤ _
      rw [sizeBy_arr]
      refine JsonSize.pieces_le ?_ ?_
      · rw [length_map]
        exact hcnt
      · intro size hsize
        obtain ⟨item, hit, rfl⟩ := mem_map.mp hsize
        exact (hbound item hit).1
    · rw [supported_arr, all_eq_true]
      exact fun item hit => (hbound item hit).2
  | _ => cases harr

/-- Each field is within its bound. -/
@[reducible] def FieldsWithin (v : Json) : List String → List Nat → Prop
  | name :: names, n :: bounds => (v.get name).Within n ∧ v.FieldsWithin names bounds
  | [], [] => True
  | _, _ => False

theorem FieldsWithin.zip : ∀ {names : List String} {bounds : List Nat},
    v.FieldsWithin names bounds → (names.zip bounds).map (·.1) = names
      ∧ ∀ field ∈ names.zip bounds, (v.get field.1).Within field.2
  | [], [], _ => ⟨rfl, nofun⟩
  | name :: _, _ :: _, h => by
    obtain ⟨hnames, hall⟩ := h.2.zip
    exact ⟨congrArg (name :: ·) hnames, forall_mem_cons.mpr ⟨h.1, hall⟩⟩

/-- **An object with given fields**, each within its bound. -/
theorem within_of_fields (bounds : List Nat)
    (h : v.exactFields names) (hbound : v.FieldsWithin names bounds)
    (hn : names.Nodup
      ∧ JsonSize.pieces ((names.zip bounds).map fun field => quoteSize field.1 + 1 + field.2) ≤ n
      := by decide) :
    v.Within n := by
  obtain ⟨hnames, hall⟩ := hbound.zip
  have hsize := size_le_of_exactFields (hnames.symm ▸ hn.1) (hnames.symm ▸ h)
    fun field hfield => (hall field hfield).1
  refine ⟨le_trans hsize hn.2, ?_⟩
  cases v with
  | obj members =>
    have hperm := exactFields_perm hn.1 h
    rw [supported_obj, all_eq_true]
    intro member hmember
    have hmem := hperm.mem_iff.mp (mem_map_of_mem hmember)
    rw [← hnames] at hmem
    obtain ⟨field, hfield, hname⟩ := mem_map.mp hmem
    have hsupp := (hall field hfield).2
    rwa [hname, get_of_mem (hperm.nodup_iff.mpr hn.1) hmember] at hsupp
  | _ => cases h

/-- The fields of a value without a floating number have none. -/
theorem supported_get (h : v.supported) (name : String) : (v.get name).supported := by
  cases v with
  | obj members =>
    rw [supported_obj, all_eq_true] at h
    cases hfind : members.find? fun member => member.1 == name with
    | none =>
      have hget : get (.obj members) name = .null := by
        show ((members.find? fun member : String × Json => member.1 == name).map _).getD _ = _
        rw [hfind]
        rfl
      rw [hget]
      rfl
    | some member =>
      have hget : get (.obj members) name = member.2 := by
        show ((members.find? fun member : String × Json => member.1 == name).map _).getD _ = _
        rw [hfind]
        rfl
      rw [hget]
      exact h member (mem_of_find?_eq_some hfind)
  | _ => rfl

/-- A value that equals an integer is that integer, if it is no floating number. -/
theorem number_of_beq_int (hn : 0 ≤ n ∧ n < 2 ^ 63)
    (hsupp : v.supported) (h : (v == .int n)) : v.number? = some n := by
  have hsigned : signed n = n := by
    unfold signed
    rw [if_neg (by omega)]
  have hback : ∀ m : Int, signed m = n → m = n := by
    intro m hm
    unfold signed at hm
    split at hm <;> omega
  cases v with
  | int m | nat m =>
    have heq : signed m = signed n := beq_iff_eq.mp h
    exact congrArg some (hback m (heq.trans hsigned))
  | float q text => cases hsupp
  | _ => cases h

end Json

end TgCli.Lib
