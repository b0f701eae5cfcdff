/-
  TgCli.Lib.JsonText — READING A CANONICAL TEXT BACK

  A reader of canonical texts; a value a program can hold (`wellFormed`), and the
  parser that reads its text: its events, which a callback sees, and the value it
  makes.

  Main results:
    * `read_text` — the reader reads the text of every value; so a text belongs to
      one value, up to the kinds of its numbers (`text_unambiguous`), and a parser of
      every canonical text exists (`Parser.reference`);
    * `duplicates_events` — a callback that collects the keys of each object
      sees none twice.
-/
import Mathlib.Data.String.Basic
import TgCli.Lib.JsonFields

namespace TgCli.Lib

open List

namespace Json

/-! ## §1. A reader. -/

/-- Reads a string up to its closing quote. -/
def readText : List Char → List Char × List Char
  | '"' :: rest => ([], rest)
  | '\\' :: 'u' :: '0' :: '0' :: high :: low :: rest =>
    let hex := "0123456789abcdef".toList
    let (text, rest) := readText rest
    (Char.ofNat (16 * hex.idxOf high + hex.idxOf low) :: text, rest)
  | '\\' :: c :: rest | c :: rest =>
    let (text, rest) := readText rest
    (c :: text, rest)
  | [] => ([], [])

/-- Reads a number. -/
def readDigits (s : List Char) : Nat × List Char :=
  (Nat.ofDigitChars 10 (s.takeWhile Char.isDigit) 0, s.dropWhile Char.isDigit)

/-- The members of an object from their names and values. -/
def pairs : List Json → List (String × Json)
  | .str name :: v :: rest => (name, v) :: pairs rest
  | _ => []

mutual

/-- Reads a value off a text, with fuel for its length. -/
def readValue : Nat → List Char → Json × List Char
  | fuel + 1, c :: rest =>
    if c.isDigit then
      let (n, rest) := readDigits (c :: rest)
      (.nat n, rest)
    else match c with
    | '-' =>
      let (n, rest) := readDigits rest
      (.int (-n), rest)
    | 'n' => (.null, rest.drop 3)
    | 't' => (.bool true, rest.drop 3)
    | 'f' => (.bool false, rest.drop 4)
    | '"' =>
      let (text, rest) := readText rest
      (.str (String.ofList text), rest)
    | '[' =>
      let (items, rest) := readItems fuel rest
      (.arr items, rest)
    | _ =>
      let (items, rest) := readItems fuel rest
      (.obj (pairs items), rest)
  | _, s => (.null, s)

/-- Reads the values of a list up to its bracket, over commas and colons. -/
def readItems : Nat → List Char → List Json × List Char
  | fuel + 1, c :: rest =>
    if c = ']' ∨ c = '\x7d' then ([], rest)
    else if c = ',' ∨ c = ':' then readItems fuel rest
    else
      let (v, rest) := readValue fuel (c :: rest)
      let (items, rest) := readItems fuel rest
      (v :: items, rest)
  | _, s => ([], s)

end

/-! ## §2. What it reads. -/

theorem readText_escape (c : Char) (rest : List Char) :
    readText (escape c ++ rest) = (c :: (readText rest).1, (readText rest).2) := by
  unfold escape
  split_ifs with hquote hctl
  · rcases hquote with rfl | rfl <;> rfl
  · have hhex : ∀ n ≤ 0x1f, Char.ofNat (16 * "0123456789abcdef".toList.idxOf (hexDigit (n / 16))
        + "0123456789abcdef".toList.idxOf (hexDigit (n % 16))) = Char.ofNat n := by decide
    show (Char.ofNat _ :: _, _) = _
    rw [hhex _ hctl, Char.ofNat_toNat]
    rfl
  · rw [not_or] at hquote
    show readText (c :: rest) = _
    rw [readText] <;> simp [hquote]

theorem readText_quote (s rest : List Char) :
    readText (s.flatMap escape ++ '"' :: rest) = (s, rest) := by
  induction s with
  | nil => rfl
  | cons c s ih => rw [flatMap_cons, append_assoc, readText_escape, ih]

/-- What may follow a value. -/
def Delimited (rest : List Char) : Prop := ∀ c ∈ rest.head?, c.isDigit = false

theorem isDigit_toString (n : Nat) : ∀ c ∈ (toString n).toList, c.isDigit := by
  intro c hc
  rw [Nat.toString_eq_repr, Nat.toList_repr] at hc
  exact Nat.isDigit_of_mem_toDigits (by decide) (by decide) hc

theorem readDigits_toString (n : Nat) (hrest : Delimited rest) :
    readDigits ((toString n).toList ++ rest) = (n, rest) := by
  have hnone : rest.takeWhile Char.isDigit = [] ∧ rest.dropWhile Char.isDigit = rest := by
    cases rest with
    | nil => exact ⟨rfl, rfl⟩
    | cons c rest => simp [hrest c rfl]
  rw [readDigits, takeWhile_append_of_pos (isDigit_toString n), hnone.1, append_nil,
    dropWhile_append_of_pos (isDigit_toString n), hnone.2, Nat.toString_eq_repr, Nat.toList_repr,
    Nat.ofDigitChars_toDigits (by decide) (by decide)]

theorem toString_cons (n : Nat) : ∃ c rest, (toString n).toList = c :: rest ∧ c.isDigit := by
  cases h : (toString n).toList with
  | nil => exact absurd h (by simp)
  | cons c rest => exact ⟨c, rest, rfl, isDigit_toString n c (h ▸ mem_cons_self)⟩

theorem text_negSucc (n : Nat) : text (.int (.negSucc n)) = '-' :: (toString (n + 1)).toList := by
  show ("-" ++ toString (n + 1)).toList = _
  rw [String.toList_append]
  rfl

/-- The reader takes the text of this value off, and nothing behind it. -/
def Readable (v : Json) : Prop := ∀ fuel rest, 2 * v.text.length ≤ fuel → Delimited rest →
  readValue (fuel + 1) (v.text ++ rest) = (v.parsed, rest)

theorem read_nat (n : Nat) : Readable (.nat n) := by
  intro fuel rest _ hrest
  obtain ⟨c, tail, hcons, hc⟩ := toString_cons n
  have hread : readValue (fuel + 1) (c :: tail ++ rest)
      = (.nat (readDigits (c :: tail ++ rest)).1, (readDigits (c :: tail ++ rest)).2) := if_pos hc
  rw [text, hcons, hread, ← hcons, readDigits_toString n hrest]
  rfl

theorem read_int (n : Int) : Readable (.int n) := by
  cases n with
  | ofNat n => exact read_nat n
  | negSucc n =>
    intro fuel rest _ hrest
    rw [text_negSucc, cons_append, readValue, if_neg (by decide), readDigits_toString (n + 1) hrest,
      parsed, if_pos (Int.negSucc_lt_zero n)]
    rfl

/-- The text of values with a comma or a colon after each but the last. -/
inductive Spaced : List Json → List Char → Prop where
  | nil : Spaced [] []
  | last (v : Json) : Spaced [v] v.text
  | cons (v : Json) (hsep : c = ',' ∨ c = ':') (h : Spaced vs s) : Spaced (v :: vs) (v.text ++ c :: s)

variable {v : Json} {vs : List Json} {c : Char}

theorem text_cons (h : v.supported) : ∃ c rest, v.text = c :: rest
    ∧ ¬ (c = ']' ∨ c = '\x7d') ∧ ¬ (c = ',' ∨ c = ':') := by
  have hnat : ∀ n : Nat, ∃ c rest, (toString n).toList = c :: rest
      ∧ ¬ (c = ']' ∨ c = '\x7d') ∧ ¬ (c = ',' ∨ c = ':') := by
    intro n
    obtain ⟨c, rest, htext, hc⟩ := toString_cons n
    refine ⟨c, rest, htext, ?_, ?_⟩ <;> rintro (rfl | rfl) <;> cases hc
  cases v with
  | bool b => cases b <;> exact ⟨_, _, rfl, by decide⟩
  | nat n => exact hnat n
  | int n =>
    cases n with
    | ofNat n => exact hnat n
    | negSucc n => exact ⟨'-', _, text_negSucc n, by decide⟩
  | float q t => cases h
  | _ => exact ⟨_, _, rfl, by decide⟩

theorem readItems_value (hv : v.supported ∧ Readable v) (hfuel : 2 * v.text.length ≤ fuel)
    (hrest : Delimited rest) : readItems (fuel + 2) (v.text ++ rest)
      = (v.parsed :: (readItems (fuel + 1) rest).1, (readItems (fuel + 1) rest).2) := by
  obtain ⟨c, tail, htext, hclose, hsep⟩ := text_cons hv.1
  have hread := hv.2 fuel rest hfuel hrest
  rw [htext, cons_append] at hread ⊢
  rw [readItems, if_neg hclose, if_neg hsep, hread]

theorem readItems_spaced (h : Spaced vs s) (hclose : c = ']' ∨ c = '\x7d')
    (hread : ∀ v ∈ vs, v.supported ∧ Readable v) (fuel : Nat) (hfuel : 2 * s.length + 2 ≤ fuel)
    (rest : List Char) : readItems fuel (s ++ c :: rest) = (vs.map parsed, rest) := by
  have hdelim : ∀ c ∈ [']', '\x7d', ',', ':'], ∀ rest, Delimited (c :: rest) := by
    intro c hc rest d hd
    cases hd
    simp only [mem_cons, not_mem_nil, or_false] at hc
    rcases hc with rfl | rfl | rfl | rfl <;> rfl
  have hend : ∀ fuel, readItems (fuel + 1) (c :: rest) = ([], rest) := by
    intro fuel
    rw [readItems, if_pos hclose]
  induction h generalizing fuel with
  | nil =>
    obtain ⟨fuel, rfl⟩ := Nat.exists_eq_add_of_le' hfuel
    exact hend _
  | last v =>
    obtain ⟨fuel, rfl⟩ : ∃ k, fuel = k + 2 := ⟨fuel - 2, by omega⟩
    rw [readItems_value (hread v mem_cons_self) (by omega) (hdelim c (by rcases hclose with rfl | rfl <;> simp) _),
      hend]
    rfl
  | @cons d vs s v hsep _ ih =>
    rw [length_append, length_cons] at hfuel
    obtain ⟨fuel, rfl⟩ : ∃ k, fuel = k + 2 := ⟨fuel - 2, by omega⟩
    have hskip : readItems (fuel + 1) (d :: (s ++ c :: rest)) = (vs.map parsed, rest) := by
      rw [readItems, if_neg (by rcases hsep with rfl | rfl <;> decide), if_pos hsep]
      exact ih (fun v hv => hread v (mem_cons_of_mem _ hv)) fuel (by omega)
    rw [append_assoc, cons_append,
      readItems_value (hread v mem_cons_self) (by omega)
        (hdelim d (by rcases hsep with rfl | rfl <;> simp) _), hskip]
    rfl

theorem spaced_items (vs : List Json) : Spaced vs (join (vs.map text)) := by
  induction vs with
  | nil => exact .nil
  | cons v vs ih =>
    cases vs with
    | nil => exact .last v
    | cons w vs => exact .cons v (.inl rfl) ih

theorem spaced_members (members : List (String × Json)) :
    Spaced (members.flatMap fun member => [.str member.1, member.2])
      (join (members.map fun member => quote member.1 ++ ':' :: text member.2)) := by
  induction members with
  | nil => exact .nil
  | cons member rest ih =>
    cases rest with
    | nil => exact .cons (.str member.1) (.inr rfl) (.last member.2)
    | cons other rest =>
      show Spaced _ ((quote member.1 ++ ':' :: text member.2) ++ ',' :: join _)
      rw [append_assoc]
      exact .cons (.str member.1) (.inr rfl) (.cons member.2 (.inl rfl) ih)

theorem pairs_members (members : List (String × Json)) :
    pairs ((members.flatMap fun member => [.str member.1, member.2]).map parsed)
      = members.map fun member => (member.1, member.2.parsed) := by
  induction members with
  | nil => rfl
  | cons member rest ih => exact congrArg _ ih

theorem read_str (s : String) : Readable (.str s) := by
  intro fuel rest _ _
  have htext : text (.str s) ++ rest = '"' :: (s.toList.flatMap escape ++ '"' :: rest) := by
    simp [text, quote]
  rw [htext, readValue, if_neg (by decide), readText_quote]
  simp [parsed]

/-- **The reader reads every text.** -/
theorem read_text (v : Json) (hv : v.supported) : Readable v := by
  induction v using Json.induct with
  | nat n => exact read_nat n
  | int n => exact read_int n
  | str s => exact read_str s
  | float q t => cases hv
  | null => exact fun _ _ _ _ => rfl
  | bool b => cases b <;> exact fun _ _ _ _ => rfl
  | arr vs ih =>
    intro fuel rest hfuel _
    rw [supported_arr, all_eq_true] at hv
    rw [text_arr] at hfuel ⊢
    have hitems := readItems_spaced (spaced_items vs) (.inl rfl)
      (fun v hmem => ⟨hv v hmem, ih v hmem (hv v hmem)⟩) fuel (by simp at hfuel; omega) rest
    rw [append_assoc, cons_append, readValue, if_neg (by decide), singleton_append, hitems, parsed_arr]
  | obj members ih =>
    intro fuel rest hfuel _
    rw [supported_obj, all_eq_true] at hv
    rw [text_obj] at hfuel ⊢
    have hparts : ∀ v ∈ members.flatMap fun member => [.str member.1, member.2],
        v.supported ∧ Readable v := by
      intro v hmem
      obtain ⟨member, hin, rfl | rfl⟩ : ∃ member ∈ members, v = .str member.1 ∨ v = member.2 := by
        simpa using hmem
      · exact ⟨rfl, read_str _⟩
      · exact ⟨hv member hin, ih member hin (hv member hin)⟩
    have hitems := readItems_spaced (spaced_members members) (.inr rfl) hparts fuel
      (by simp at hfuel; omega) rest
    rw [append_assoc, cons_append, singleton_append]
    show (Json.obj (pairs (readItems fuel _).1), (readItems fuel _).2) = _
    rw [hitems, pairs_members, parsed_obj]

theorem text_unambiguous {w : Json} (hv : v.supported) (hw : w.supported)
    (h : v.text = w.text) : v.parsed = w.parsed := by
  have hread := read_text v hv _ [] le_rfl nofun
  rw [h, read_text w hw _ [] le_rfl nofun] at hread
  exact (Prod.mk.inj hread).1.symm

/-! ## §3. Parsing. -/

mutual

/-- A value a program can hold: its integers are machine integers, and the
members of its objects stand in key order. -/
def wellFormed : Json → Bool
  | .int n => decide (-2 ^ 63 ≤ n ∧ n < 2 ^ 63)
  | .nat n => decide (n < 2 ^ 64)
  | .arr items => itemsWellFormed items
  | .obj members => decide ((members.map (·.1)).Pairwise (· < ·)) && membersWellFormed members
  | _ => true

def itemsWellFormed : List Json → Bool
  | [] => true
  | v :: rest => wellFormed v && itemsWellFormed rest

def membersWellFormed : List (String × Json) → Bool
  | [] => true
  | (_, v) :: rest => wellFormed v && membersWellFormed rest

end

/-- What a callback of the parser is told of objects, with the depth of the
value they stand at. -/
inductive Event where
  | objectStart (depth : Nat)
  | key (depth : Nat) (name : String)
  | objectEnd (depth : Nat)
deriving DecidableEq, Repr

mutual

/-- The events of the text of a value. -/
def events (depth : Nat) : Json → List Event
  | .arr items => itemEvents (depth + 1) items
  | .obj members =>
    .objectStart depth :: (memberEvents (depth + 1) members ++ [.objectEnd depth])
  | _ => []

def itemEvents (depth : Nat) : List Json → List Event
  | [] => []
  | v :: rest => events depth v ++ itemEvents depth rest

def memberEvents (depth : Nat) : List (String × Json) → List Event
  | [] => []
  | (name, v) :: rest => .key depth name :: (events depth v ++ memberEvents depth rest)

end

/-- The bytes of a text. -/
def encode (text : List Char) : ByteArray := (String.ofList text).toByteArray

theorem encode_size (text : List Char) : (encode text).size = bytes text := by
  induction text with
  | nil => rfl
  | cons c rest ih =>
    show (String.ofList (c :: rest)).utf8ByteSize = _
    rw [String.ofList_cons, String.utf8ByteSize_append, String.utf8ByteSize_singleton]
    show c.utf8Size + (encode rest).size = _
    rw [ih]
    rfl

theorem encode_inj {text text' : List Char} (h : encode text = encode text') : text = text' :=
  String.ofList_inj.mp (String.toByteArray_inj.mp h)

/-- A parser: the events its callback is told and the value, if it accepts the
bytes. -/
structure Parser where
  parse : ByteArray → Option (List Event × Json)
  /-- it reads every canonical text of a value a program can hold -/
  reads : ∀ v : Json, v.wellFormed → v.supported →
    parse (encode v.text) = some (events 0 v, v.parsed)

theorem wellFormed_arr (items : List Json) : wellFormed (.arr items) = items.all wellFormed := by
  rw [wellFormed, eq_all (f := itemsWellFormed) items]

theorem wellFormed_obj (members : List (String × Json)) :
    wellFormed (.obj members) = (decide ((members.map (·.1)).Pairwise (· < ·))
      && members.all fun member => wellFormed member.2) := by
  rw [wellFormed, eq_all (f := membersWellFormed) members]

/-- A value is read back as one a program can hold. -/
theorem wellFormed_parsed (v : Json) (h : v.wellFormed) : v.parsed.wellFormed := by
  induction v using Json.induct with
  | int n =>
    rw [parsed]
    split
    · exact h
    · have hrange := of_decide_eq_true h
      exact decide_eq_true (by omega)
  | arr items ih =>
    rw [wellFormed_arr, all_eq_true] at h
    rw [parsed_arr, wellFormed_arr, all_map, all_eq_true]
    exact fun item hit => ih item hit (h item hit)
  | obj members ih =>
    rw [wellFormed_obj, Bool.and_eq_true, all_eq_true] at h
    rw [parsed_obj, wellFormed_obj, map_map, all_map, Bool.and_eq_true, all_eq_true]
    exact ⟨h.1, fun member hmember => ih member hmember (h.2 member hmember)⟩
  | _ => exact h

theorem itemEvents_eq (depth : Nat) (items : List Json) :
    itemEvents depth items = items.flatMap (events depth) := by
  induction items with
  | nil => rfl
  | cons v rest ih => rw [itemEvents, ih, flatMap_cons]

theorem memberEvents_eq (depth : Nat) (members : List (String × Json)) : memberEvents depth members
      = members.flatMap fun member => .key depth member.1 :: events depth member.2 := by
  induction members with
  | nil => rfl
  | cons member rest ih =>
    obtain ⟨name, v⟩ := member
    rw [memberEvents, ih, flatMap_cons, cons_append]

/-- The kinds of the numbers make no difference to a callback. -/
theorem events_parsed (v : Json) : ∀ depth, events depth v.parsed = events depth v := by
  induction v using Json.induct with
  | int n =>
    intro depth
    rw [parsed]
    split <;> rfl
  | arr items ih =>
    intro depth
    rw [parsed_arr, events, events, itemEvents_eq, itemEvents_eq, flatMap_map]
    exact flatMap_congr fun item hit => ih item hit _
  | obj members ih =>
    intro depth
    rw [parsed_obj, events, events, memberEvents_eq, memberEvents_eq, flatMap_map]
    congr 2
    refine flatMap_congr fun member hmember => ?_
    rw [ih member hmember]
  | _ => exact fun _ => rfl

/-- **There is a parser of every canonical text.** -/
noncomputable def Parser.reference : Parser where
  parse bytes :=
    open Classical in
    if h : ∃ v : Json, v.supported ∧ encode v.text = bytes then
      some (events 0 h.choose, h.choose.parsed)
    else none
  reads v _ hsupp := by
    have h : ∃ w : Json, w.supported ∧ encode w.text = encode v.text :=
      ⟨v, hsupp, rfl⟩
    rw [dif_pos h]
    obtain ⟨hchosen, hbytes⟩ := h.choose_spec
    have hpar := text_unambiguous hchosen hsupp (encode_inj hbytes)
    rw [hpar, ← events_parsed h.choose, hpar, events_parsed]

/-! ## §4. Repeated keys. -/

/-- The keys of the objects that are open, by depth, and whether one was met
twice. -/
structure KeyState where
  keys : Nat → List String := fun _ => []
  duplicate : Bool := false

/-- A callback that looks for repeated keys. -/
def KeyState.step (state : KeyState) : Event → KeyState
  | .objectStart depth =>
    { state with keys := fun d => if d = depth + 1 then [] else state.keys d }
  | .key depth name =>
    { keys := fun d => if d = depth then name :: state.keys d else state.keys d
      duplicate := state.duplicate || (state.keys depth).contains name }
  | .objectEnd depth =>
    { state with keys := fun d => if d = depth + 1 then [] else state.keys d }

/-- The objects outside are as they were, and no key was met twice. -/
structure KeyState.Kept (depth : Nat) (before after : KeyState) : Prop where
  keys : ∀ d ≤ depth, after.keys d = before.keys d
  duplicate : after.duplicate = before.duplicate

theorem KeyState.Kept.trans {a b c : KeyState} (hab : a.Kept depth b)
    (hbc : b.Kept depth c) : a.Kept depth c :=
  ⟨fun d hd => (hbc.keys d hd).trans (hab.keys d hd), hbc.duplicate.trans hab.duplicate⟩

/-- The keys of the members: none of them is known before, and none twice. -/
theorem memberEvents_kept (hvals : ∀ member ∈ members, ∀ state : KeyState,
      state.Kept depth ((events depth member.2).foldl KeyState.step state)) :
    ∀ state : KeyState, (∀ member ∈ members, member.1 ∉ state.keys depth) →
      (members.map (·.1)).Nodup →
      let after := (memberEvents depth members).foldl KeyState.step state
      (∀ d < depth, after.keys d = state.keys d) ∧ after.duplicate = state.duplicate := by
  induction members with
  | nil => exact fun state _ _ => ⟨fun d _ => rfl, rfl⟩
  | cons member rest ih =>
    intro state hfresh hnd
    obtain ⟨name, v⟩ := member
    rw [map_cons, nodup_cons] at hnd
    have hname : name ∉ state.keys depth := hfresh (name, v) mem_cons_self
    -- The key is new, then the value keeps what is open around it.
    have hkey : (state.step (.key depth name)).duplicate = state.duplicate := by
      show (state.duplicate || (state.keys depth).contains name) = state.duplicate
      simp [hname]
    have hvalue := hvals (name, v) mem_cons_self (state.step (.key depth name))
    have hkeys := hvalue.keys depth (le_refl _)
    rw [show (state.step (.key depth name)).keys depth = name :: state.keys depth from
      if_pos rfl] at hkeys
    obtain ⟨houter, hdup⟩ := ih (fun m hm => hvals m (mem_cons_of_mem _ hm))
      ((events depth v).foldl KeyState.step (state.step (.key depth name)))
      (by
        intro m hm hmem
        rw [hkeys] at hmem
        rcases mem_cons.mp hmem with heq | hmem
        · exact hnd.1 (mem_map.mpr ⟨m, hm, heq⟩)
        · exact hfresh m (mem_cons_of_mem _ hm) hmem)
      hnd.2
    rw [memberEvents, foldl_cons, foldl_append]
    refine ⟨fun d hd => ?_, ?_⟩
    · rw [houter d hd, hvalue.keys d (by omega)]
      exact if_neg (by omega)
    · rw [hdup, hvalue.duplicate, hkey]

/-- **The text of a value repeats no key of an object.** -/
theorem duplicates_events (v : Json) (hv : v.wellFormed) : ∀ depth, ∀ state : KeyState,
      state.Kept depth ((events depth v).foldl KeyState.step state) := by
  induction v using Json.induct with
  | arr items ih =>
    intro depth state
    rw [wellFormed_arr, all_eq_true] at hv
    rw [events]
    -- Each item keeps the objects around it.
    induction items generalizing state with
    | nil => exact ⟨fun d _ => rfl, rfl⟩
    | cons item rest ih' =>
      rw [itemEvents, foldl_append]
      have hit := ih item mem_cons_self (hv item mem_cons_self) (depth + 1) state
      have hfirst : state.Kept depth ((events (depth + 1) item).foldl KeyState.step state) :=
        ⟨fun d hd => hit.keys d (by omega), hit.duplicate⟩
      exact hfirst.trans (ih' (fun a ha => ih a (mem_cons_of_mem _ ha))
        (fun a ha => hv a (mem_cons_of_mem _ ha)) _)
  | obj members ih =>
    intro depth state
    rw [wellFormed_obj, Bool.and_eq_true, all_eq_true] at hv
    have hnd : (members.map (·.1)).Nodup :=
      (of_decide_eq_true hv.1).imp fun h => ne_of_lt h
    rw [events, foldl_cons, foldl_append]
    have hopen : (state.step (.objectStart depth)).keys (depth + 1) = [] := if_pos rfl
    obtain ⟨houter, hdup⟩ := memberEvents_kept
      (fun m hm => ih m hm (hv.2 m hm) (depth + 1)) (state.step (.objectStart depth))
      (by simp [hopen]) hnd
    refine ⟨fun d hd => ?_, hdup⟩
    show (if d = depth + 1 then [] else _) = _
    rw [if_neg (by omega), houter d (by omega)]
    exact if_neg (by omega)
  | _ => exact fun _ _ => ⟨fun d _ => rfl, rfl⟩

end Json

end TgCli.Lib
