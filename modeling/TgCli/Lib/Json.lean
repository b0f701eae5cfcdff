/-
  TgCli.Lib.Json — JSON VALUES AND THEIR CANONICAL TEXT

  A JSON value as a program holds it after parsing or building it: numbers
  have a kind (signed, unsigned, floating), and the members of an object stand
  in key order.  The canonical text is compact, escapes what it must, and spells
  both integer kinds alike; `parsed` is the value a parser makes of it.

  `JsonSize` is the number of bytes of a compact text without the text itself.
  `pieces` of an object are its fields (`field`) and already serialized runs of
  fields (`fragment`); lengths of parts add up.

  Main results:
    * `text_parsed` — the canonical text does not depend on the kinds;
    * `bytes_text` — the length of the text is the sum over the parts (`size`).
-/
import Mathlib.Algebra.BigOperators.Group.List.Basic
import Mathlib.Algebra.Group.Action.Defs
import Mathlib.Algebra.Order.BigOperators.Group.List
import Mathlib.Data.Nat.Digits.Defs
import Mathlib.Data.Rat.Defs
import Mathlib.Tactic.Ring

namespace TgCli.Lib

open List

namespace JsonSize

/-- The bytes of a character inside a string: two for the short escapes, six
for the other control characters. -/
def escaped (c : Char) : Nat :=
  if c ∈ ['"', '\\', '\x08', '\t', '\n', '\x0c', '\r'] then 2
  else if c.val < 0x20 then 6
  else c.utf8Size

def text (s : String) : Nat := 2 + (s.toList.map escaped).sum

def nat (n : Nat) : Nat := n.repr.length

def int (n : Int) : Nat := if n < 0 then 1 + nat n.natAbs else nat n.natAbs

def bool (b : Bool) : Nat := if b then 4 else 5

def null : Nat := 4

def field (name : String) (value : Nat) : Nat := name.length + 3 + value

/-- The bytes of a string as it stands. -/
def bytes (s : String) : Nat := (s.toList.map Char.utf8Size).sum

/-- A serialized run of fields; the empty run is no piece. -/
def fragment (fields : String) : List Nat :=
  if fields.isEmpty then [] else [bytes fields]

/-- An object or array of the pieces. -/
def pieces (sizes : List Nat) : Nat := 2 + sizes.sum + (sizes.length - 1)

theorem escaped_le (c : Char) : escaped c ≤ 6 := by
  unfold escaped
  have hsize : c.utf8Size ≤ 4 := Char.utf8Size_le_four c
  split
  · omega
  · split <;> omega

/-- A sum over the characters of a string, each of at most `bound`. -/
theorem sum_chars_le {size : Char → Nat} (h : ∀ c, size c ≤ bound) (s : String) :
    (s.toList.map size).sum ≤ s.length * bound := by
  have hsum : (s.toList.map size).sum ≤ (s.toList.map size).length • bound :=
    sum_le_card_nsmul _ bound fun x hx => by
      obtain ⟨c, -, rfl⟩ := mem_map.mp hx
      exact h c
  rwa [length_map, String.length_toList, smul_eq_mul] at hsum

theorem text_le (s : String) : text s ≤ 2 + 6 * s.length := by
  have hsum := sum_chars_le escaped_le s
  unfold text
  omega

theorem bytes_le (s : String) : bytes s ≤ 4 * s.length := by
  have hsum := sum_chars_le Char.utf8Size_le_four s
  unfold bytes
  omega

theorem fragment_sum_le (s : String) : (fragment s).sum ≤ 4 * s.length := by
  have hs := bytes_le s
  unfold fragment
  split
  · exact Nat.zero_le _
  · simpa using hs

theorem fragment_length_le (s : String) : (fragment s).length ≤ 1 := by
  unfold fragment
  split <;> simp

theorem text_le_of_length {s : String} (h : s.length ≤ n) : text s ≤ 2 + 6 * n := by
  have hs := text_le s
  omega

theorem nat_le (he : 0 < e) (hn : n < 10 ^ e) : nat n ≤ e :=
  Nat.repr_length n e he hn

theorem int_le {n : Int} (he : 0 < e) (hn : n.natAbs < 10 ^ e) : int n ≤ e + 1 := by
  have hnat := nat_le he hn
  unfold int
  split <;> omega

/-- The text of a number is as long as its size says. -/
theorem length_toString (n : Int) : (toString n).length = int n := by
  cases n with
  | ofNat m =>
    have hpos : ¬ Int.ofNat m < 0 := Int.not_lt.mpr (Int.natCast_nonneg m)
    unfold int
    rw [if_neg hpos]
    rfl
  | negSucc m =>
    have hneg : Int.negSucc m < 0 := Int.negSucc_lt_zero m
    unfold int
    rw [if_pos hneg]
    show ("-" ++ (m + 1).repr).length = _
    rw [String.length_append]
    rfl

/-- A list of at most `count` pieces of at most `bound` bytes each. -/
theorem pieces_le {sizes : List Nat} (hcnt : sizes.length ≤ n)
    (hbound : ∀ size ∈ sizes, size ≤ b) : pieces sizes ≤ 2 + n * (b + 1) := by
  have hsum : sizes.sum ≤ sizes.length • b := sum_le_card_nsmul _ b hbound
  rw [smul_eq_mul] at hsum
  have hmul : sizes.length * (b + 1) ≤ n * (b + 1) := Nat.mul_le_mul_right _ hcnt
  have hexpand : sizes.length * (b + 1) = sizes.length * b + sizes.length := by ring
  unfold pieces
  omega

end JsonSize

inductive Json where
  | null
  | bool (value : Bool)
  | int (value : Int)
  | nat (value : Nat)
  | float (value : Rat) (text : String)
  | str (value : String)
  | arr (items : List Json)
  | obj (members : List (String × Json))
deriving Repr

namespace Json

/-- Induction over a value: an array from its items, an object from its members. -/
@[elab_as_elim]
theorem induct {motive : Json → Prop} (null : motive .null) (bool : ∀ b, motive (.bool b))
    (int : ∀ n, motive (.int n)) (nat : ∀ n, motive (.nat n)) (float : ∀ q t, motive (.float q t))
    (str : ∀ s, motive (.str s))
    (arr : ∀ items, (∀ item ∈ items, motive item) → motive (.arr items))
    (obj : ∀ members, (∀ member ∈ members, motive member.2) → motive (.obj members))
    (v : Json) : motive v := by
  refine @Json.rec motive (fun items => ∀ item ∈ items, motive item)
    (fun members => ∀ member ∈ members, motive member.2) (fun member => motive member.2)
    null bool int nat float str arr obj ?_ ?_ ?_ ?_ ?_ v
  · exact fun _ h => absurd h not_mem_nil
  · exact fun _ _ hhead htail => forall_mem_cons.mpr ⟨hhead, htail⟩
  · exact fun _ h => absurd h not_mem_nil
  · exact fun _ _ hhead htail => forall_mem_cons.mpr ⟨hhead, htail⟩
  · exact fun _ _ h => h

/-! ## §1. The canonical text. -/

def hexDigit (n : Nat) : Char := "0123456789abcdef".toList.getD n '0'

/-- A character inside a canonical string. -/
def escape (c : Char) : List Char :=
  if c = '"' ∨ c = '\\' then ['\\', c]
  else if c.toNat ≤ 0x1f then
    ['\\', 'u', '0', '0', hexDigit (c.toNat / 16), hexDigit (c.toNat % 16)]
  else [c]

def quote (s : String) : List Char := '"' :: s.toList.flatMap escape ++ ['"']

/-- The parts with commas between them. -/
def join : List (List Char) → List Char
  | [] => []
  | [part] => part
  | part :: rest => part ++ ',' :: join rest

mutual

def text : Json → List Char
  | .null => "null".toList
  | .bool b => if b then "true".toList else "false".toList
  | .int n => (toString n).toList
  | .nat n => (toString n).toList
  | .float _ t => t.toList
  | .str s => quote s
  | .arr items => '[' :: join (itemTexts items) ++ [']']
  | .obj members => '\x7b' :: join (memberTexts members) ++ ['\x7d']

def itemTexts : List Json → List (List Char)
  | [] => []
  | v :: rest => text v :: itemTexts rest

def memberTexts : List (String × Json) → List (List Char)
  | [] => []
  | (name, v) :: rest => (quote name ++ ':' :: text v) :: memberTexts rest

end

mutual

/-- The value has a canonical text: no part of it is a number of another kind. -/
def supported : Json → Bool
  | .float _ _ => false
  | .arr items => itemsSupported items
  | .obj members => membersSupported members
  | _ => true

def itemsSupported : List Json → Bool
  | [] => true
  | v :: rest => supported v && itemsSupported rest

def membersSupported : List (String × Json) → Bool
  | [] => true
  | (_, v) :: rest => supported v && membersSupported rest

end

/-- The canonical serializer. -/
def canonical (v : Json) : Option (List Char) :=
  if v.supported then some v.text else none

theorem canonical_eq_some {v : Json} (h : v.supported) : v.canonical = some v.text :=
  if_pos h

theorem canonical_eq_none {v : Json} (h : ¬ v.supported) : v.canonical = none :=
  if_neg h

mutual

/-- The value a parser makes of the canonical text: a number is signed only if
it is negative. -/
def parsed : Json → Json
  | .int n => if n < 0 then .int n else .nat n.toNat
  | .arr items => .arr (itemsParsed items)
  | .obj members => .obj (membersParsed members)
  | v => v

def itemsParsed : List Json → List Json
  | [] => []
  | v :: rest => parsed v :: itemsParsed rest

def membersParsed : List (String × Json) → List (String × Json)
  | [] => []
  | (name, v) :: rest => (name, parsed v) :: membersParsed rest

end

/-- A function on lists that works part by part. -/
theorem eq_map {α β : Type} {f : List α → List β} {g : α → β} (l : List α)
    (hnil : f [] = [] := by rfl) (hcons : ∀ a l, f (a :: l) = g a :: f l := by intros; rfl) :
    f l = l.map g := by
  induction l with
  | nil => exact hnil
  | cons a l ih => rw [hcons, ih, map_cons]

theorem eq_all {α : Type} {f : List α → Bool} {g : α → Bool} (l : List α)
    (hnil : f [] = true := by rfl) (hcons : ∀ a l, f (a :: l) = (g a && f l) := by intros; rfl) :
    f l = l.all g := by
  induction l with
  | nil => exact hnil
  | cons a l ih => rw [hcons, ih, all_cons]

@[simp] theorem text_arr (items : List Json) :
    text (.arr items) = '[' :: join (items.map text) ++ [']'] := by
  rw [text, eq_map (f := itemTexts) items]

@[simp] theorem text_obj (members : List (String × Json)) :
    text (.obj members) = '\x7b' :: join (members.map fun member =>
      quote member.1 ++ ':' :: text member.2) ++ ['\x7d'] := by
  rw [text, eq_map (f := memberTexts) members]

@[simp] theorem supported_arr (items : List Json) :
    supported (.arr items) = items.all supported := by
  rw [supported, eq_all (f := itemsSupported) items]

@[simp] theorem supported_obj (members : List (String × Json)) :
    supported (.obj members) = members.all fun member => supported member.2 := by
  rw [supported, eq_all (f := membersSupported) members]

@[simp] theorem parsed_arr (items : List Json) : parsed (.arr items) = .arr (items.map parsed) := by
  rw [parsed, eq_map (f := itemsParsed) items]

@[simp] theorem parsed_obj (members : List (String × Json)) :
    parsed (.obj members) = .obj (members.map fun member => (member.1, parsed member.2)) := by
  rw [parsed, eq_map (f := membersParsed) members]

/-- **The canonical text does not depend on the kinds of the numbers.** -/
theorem text_parsed (v : Json) : v.parsed.text = v.text := by
  induction v using Json.induct with
  | int n =>
    rw [parsed]
    split
    · rfl
    rename_i hn
    rw [text, text]
    lift n to Nat using Int.not_lt.mp hn
    rfl
  | arr items ih =>
    rw [parsed_arr, text_arr, text_arr, map_map]
    congr 2
    congr 1
    exact map_congr_left fun item hit => ih item hit
  | obj members ih =>
    rw [parsed_obj, text_obj, text_obj, map_map]
    congr 2
    congr 1
    refine map_congr_left fun member hmember => ?_
    show quote member.1 ++ ':' :: text (parsed member.2) = _
    rw [ih member hmember]
  | _ => rfl

theorem supported_parsed (v : Json) : v.parsed.supported = v.supported := by
  induction v using Json.induct with
  | int n =>
    rw [parsed]
    split <;> rfl
  | arr items ih =>
    rw [parsed_arr, supported_arr, supported_arr, all_map, Bool.eq_iff_iff]
    simp only [all_eq_true, Function.comp_apply]
    exact forall₂_congr fun item hit => by rw [ih item hit]
  | obj members ih =>
    rw [parsed_obj, supported_obj, supported_obj, all_map, Bool.eq_iff_iff]
    simp only [all_eq_true, Function.comp_apply]
    exact forall₂_congr fun member hmember => by rw [ih member hmember]
  | _ => rfl

theorem parsed_parsed (v : Json) : v.parsed.parsed = v.parsed := by
  induction v using Json.induct with
  | int n =>
    by_cases hn : n < 0
    · rw [parsed, if_pos hn, parsed, if_pos hn]
    · rw [parsed, if_neg hn]
      rfl
  | arr items ih =>
    rw [parsed_arr, parsed_arr, map_map]
    congr 1
    exact map_congr_left fun item hit => ih item hit
  | obj members ih =>
    rw [parsed_obj, parsed_obj, map_map]
    congr 1
    refine map_congr_left fun member hmember => ?_
    show (member.1, member.2.parsed.parsed) = _
    rw [ih member hmember]
  | _ => rfl

/-! ## §2. Lengths. -/

/-- The number of bytes of a text. -/
def bytes (chars : List Char) : Nat := (chars.map Char.utf8Size).sum

@[simp] theorem bytes_nil : bytes [] = 0 := rfl

@[simp] theorem bytes_cons (c : Char) (chars : List Char) :
    bytes (c :: chars) = c.utf8Size + bytes chars := by
  unfold bytes
  rw [map_cons, sum_cons]

@[simp] theorem bytes_append (left right : List Char) :
    bytes (left ++ right) = bytes left + bytes right := by
  unfold bytes
  rw [map_append, sum_append]

/-- The number of bytes of a canonical string. -/
def quoteSize (s : String) : Nat := bytes (quote s)

mutual

/-- The number of bytes of a compact text, if `strings` gives those of a string. -/
def sizeBy (strings : String → Nat) : Json → Nat
  | .null => 4
  | .bool b => if b then 4 else 5
  | .int n => bytes (toString n).toList
  | .nat n => bytes (toString n).toList
  | .float _ t => bytes t.toList
  | .str s => strings s
  | .arr items => JsonSize.pieces (itemSizes strings items)
  | .obj members => JsonSize.pieces (memberSizes strings members)

def itemSizes (strings : String → Nat) : List Json → List Nat
  | [] => []
  | v :: rest => sizeBy strings v :: itemSizes strings rest

def memberSizes (strings : String → Nat) : List (String × Json) → List Nat
  | [] => []
  | (name, v) :: rest => (strings name + 1 + sizeBy strings v) :: memberSizes strings rest

end

/-- The number of bytes of the canonical text. -/
def size (v : Json) : Nat := v.sizeBy quoteSize

/-- The number of bytes of a text with short escapes. -/
def dumpSize (v : Json) : Nat := v.sizeBy JsonSize.text

section SizeBy

variable (strings : String → Nat)

theorem sizeBy_arr (items : List Json) :
    sizeBy strings (.arr items) = JsonSize.pieces (items.map (sizeBy strings)) := by
  rw [sizeBy, eq_map (f := itemSizes strings) items]

theorem sizeBy_obj (members : List (String × Json)) : sizeBy strings (.obj members)
      = JsonSize.pieces (members.map fun member => strings member.1 + 1 + sizeBy strings member.2) := by
  rw [sizeBy, eq_map (f := memberSizes strings) members]

end SizeBy

theorem bytes_join (parts : List (List Char)) :
    bytes (join parts) = (parts.map bytes).sum + (parts.length - 1) := by
  induction parts with
  | nil => rfl
  | cons part rest ih =>
    cases rest with
    | nil => simp [join]
    | cons next rest =>
      rw [join, bytes_append, bytes_cons, ih]
      have hcomma : ','.utf8Size = 1 := rfl
      simp only [map_cons, sum_cons, length_cons, hcomma]
      omega
      exact cons_ne_nil _ _

/-- **The length of the canonical text is the sum over its parts.** -/
theorem bytes_text (v : Json) : bytes v.text = v.size := by
  unfold size
  induction v using Json.induct with
  | bool b => cases b <;> rfl
  | arr items ih =>
    rw [text_arr, sizeBy_arr, cons_append, bytes_cons, bytes_append, bytes_join,
      map_map, length_map]
    have hparts : items.map (bytes ∘ text) = items.map (sizeBy quoteSize) :=
      map_congr_left fun item hit => ih item hit
    rw [hparts]
    unfold JsonSize.pieces
    rw [length_map]
    have hopen : '['.utf8Size = 1 := rfl
    have hclose : bytes [']'] = 1 := rfl
    omega
  | obj members ih =>
    rw [text_obj, sizeBy_obj, cons_append, bytes_cons, bytes_append, bytes_join,
      map_map, length_map]
    have hparts : members.map (bytes ∘ fun member => quote member.1 ++ ':' :: text member.2)
        = members.map fun member => quoteSize member.1 + 1 + sizeBy quoteSize member.2 := by
      refine map_congr_left fun member hmember => ?_
      show bytes (quote member.1 ++ ':' :: text member.2) = _
      rw [bytes_append, bytes_cons, ih member hmember]
      have hcolon : ':'.utf8Size = 1 := rfl
      unfold quoteSize
      omega
    rw [hparts]
    unfold JsonSize.pieces
    rw [length_map]
    have hopen : '\x7b'.utf8Size = 1 := rfl
    have hclose : bytes ['\x7d'] = 1 := rfl
    omega
  | _ => rfl

theorem size_parsed (v : Json) : v.parsed.size = v.size := by
  rw [← bytes_text, ← bytes_text, text_parsed]

end Json

end TgCli.Lib
