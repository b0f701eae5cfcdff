/-
  TgCli.Redaction.Invites — REDACTED INVITE LINKS

  `InviteLinkRegistry` (common/invite_redaction.cpp) and the aliases of an exact
  invite link (common/invite_link.hpp).  Registrations and releases hold the lock,
  and a redaction copies the entries under it: a redaction works on one registry.

  Main result: `redact_complete` — a redaction ends, replaces the leftmost and
  longest aliases and leaves no alias of an exact link.
-/
import Mathlib.Algebra.Order.Ring.Nat
import TgCli.Tdlib.Types

namespace TgCli.Redaction

open Tdlib List

/-! ## §1. Aliases. -/

def validTelegramInviteToken (value : Bytes) : Bool :=
  !value.isEmpty && value.all fun c =>
    (65 ≤ c && c ≤ 90) || (97 ≤ c && c ≤ 122) || (48 ≤ c && c ≤ 57) || c == 95 || c == 45

def telegramInviteToken (link : Bytes) : Option Bytes :=
  ([ascii "https://t.me/", ascii "t.me/"].findSome? (·.isPrefixOf? link)).bind fun remainder =>
    (if (ascii "+").isPrefixOf remainder then some (remainder.drop 1)
      else (ascii "joinchat/").isPrefixOf? remainder).filter validTelegramInviteToken

def invitePrefixes : List Bytes :=
  [ascii "https://t.me/+", ascii "t.me/+", ascii "https://t.me/joinchat/", ascii "t.me/joinchat/"]

def exactTelegramInviteAliases (link : Bytes) : List Bytes :=
  match telegramInviteToken link with
  | none => []
  | some token =>
    (link :: invitePrefixes.map (· ++ token)).foldl
      (fun aliases candidate => if candidate ∈ aliases then aliases else aliases ++ [candidate]) []

/-! ## §2. The registry. -/

/-- `Entry`, as the link it was made of. -/
structure Entry where
  link : Bytes
  nonempty : link ≠ []

/-- Its aliases: those of an exact link, or the text itself. -/
def Entry.aliases (entry : Entry) : List Bytes :=
  if (exactTelegramInviteAliases entry.link).isEmpty then [entry.link]
  else exactTelegramInviteAliases entry.link

structure InviteLinkRegistry where
  links : List (Nat × Entry) := []
  nextRegistration : Nat := 1

/-- `InviteLinkRegistry::register_link`: the registration, if there is one. -/
def InviteLinkRegistry.registerLink (registry : InviteLinkRegistry) (link : Bytes) :
    Option Nat × InviteLinkRegistry :=
  let registration := registry.nextRegistration
  if hempty : link = [] then (none, registry)
  else if registration = 0 ∨ registration = 2 ^ 64 - 1 then (none, registry)
  else (some registration,
    ⟨registry.links ++ [(registration, ⟨link, hempty⟩)], registration + 1⟩)

def InviteLinkRegistry.release (registry : InviteLinkRegistry) (registration : Nat) :
    InviteLinkRegistry :=
  { registry with links := registry.links.filter (·.1 != registration) }

def kInviteLinkReplacement : Bytes := ascii "<redacted:invite-link>"

def find (pattern : Bytes) : Bytes → Option Nat
  | [] => if pattern.isEmpty then some 0 else none
  | c :: rest => if pattern.isPrefixOf (c :: rest) then some 0 else (find pattern rest).map (· + 1)

/-- The inner loop of `redact`: the next match, and the alias. -/
def nextMatch (ordered : List Bytes) (value : Bytes) : Option (Nat × Bytes) :=
  ordered.foldl (fun best link =>
    match find link value, best with
    | none, _ => best
    | some found, none => some (found, link)
    | some found, some (next, matched) =>
      if found < next ∨ (found = next ∧ matched.length < link.length) then some (found, link)
      else best) none

/-- The outer loop of `redact` on the text from `offset` on. -/
def redactLoop (ordered : List Bytes) : Nat → Bytes → Option Bytes
  | 0, _ => none
  | fuel + 1, value =>
    if value.isEmpty then some []
    else
      match nextMatch ordered value with
      | none => some value
      | some (next, matched) =>
        (redactLoop ordered fuel (value.drop (next + matched.length))).map
          (value.take next ++ kInviteLinkReplacement ++ ·)

def InviteLinkRegistry.aliases (registry : InviteLinkRegistry) : List Bytes :=
  registry.links.flatMap (·.2.aliases)

def InviteLinkRegistry.ordered (registry : InviteLinkRegistry) : List Bytes :=
  registry.aliases.insertionSort fun left right => right.length ≤ left.length

def InviteLinkRegistry.redact (registry : InviteLinkRegistry) (fuel : Nat) (value : Bytes) :
    Option Bytes :=
  redactLoop registry.ordered fuel value

/-! ## §3. What an alias looks like. -/

variable {link shown pattern value text output before after : Bytes} {aliases : List Bytes} {n : Nat}

theorem mem_dedup {l : List Bytes} (h : link ∈ l.foldl (fun aliases candidate =>
      if candidate ∈ aliases then aliases else aliases ++ [candidate]) aliases) :
    link ∈ aliases ∨ link ∈ l := by
  induction l generalizing aliases with
  | nil => exact .inl h
  | cons candidate l ih =>
    rw [foldl_cons] at h
    rcases ih h with h | h
    · split at h
      · exact .inl h
      · rw [mem_append, mem_singleton] at h
        exact h.imp_right fun heq => mem_cons.mpr (.inl heq)
    · exact .inr (mem_cons_of_mem _ h)

/-- An exact link is itself of the form of its aliases. -/
theorem telegramInviteToken_some {token : Bytes} (h : telegramInviteToken link = some token) :
    validTelegramInviteToken token ∧ ∃ front ∈ invitePrefixes, link = front ++ token := by
  obtain ⟨remainder, hsite, htoken⟩ := Option.bind_eq_some_iff.mp h
  obtain ⟨hkind, hvalid⟩ := Option.filter_eq_some_iff.mp htoken
  refine ⟨hvalid, ?_⟩
  have hkind : remainder = ascii "+" ++ token ∨ remainder = ascii "joinchat/" ++ token := by
    split at hkind
    · rename_i hplus
      obtain ⟨rest, rfl⟩ := isPrefixOf_iff_prefix.mp hplus
      exact .inl (by simpa [ascii] using hkind)
    · exact .inr (isPrefixOf?_eq_some_iff_append_eq.mp hkind).symm
  obtain ⟨site, hmem, hsite⟩ := exists_of_findSome?_eq_some hsite
  obtain rfl := isPrefixOf?_eq_some_iff_append_eq.mp hsite
  have hsites : site = ascii "https://t.me/" ∨ site = ascii "t.me/" := by simpa using hmem
  rcases hsites with rfl | rfl <;> rcases hkind with rfl | rfl
  · exact ⟨ascii "https://t.me/+", by decide, rfl⟩
  · exact ⟨ascii "https://t.me/joinchat/", by decide, rfl⟩
  · exact ⟨ascii "t.me/+", by decide, rfl⟩
  · exact ⟨ascii "t.me/joinchat/", by decide, rfl⟩

/-- **The bytes of an alias of an exact link**: a slash, and no angle bracket. -/
theorem exact_alias_bytes (h : shown ∈ exactTelegramInviteAliases link) :
    47 ∈ shown ∧ 60 ∉ shown ∧ 62 ∉ shown := by
  unfold exactTelegramInviteAliases at h
  split at h
  · cases h
  rename_i token htoken
  obtain ⟨hvalid, hlink⟩ := telegramInviteToken_some htoken
  have hform : ∃ front ∈ invitePrefixes, shown = front ++ token := by
    rcases mem_dedup h with h | h
    · cases h
    rcases mem_cons.mp h with rfl | h
    · exact hlink
    · obtain ⟨front, hfront, rfl⟩ := mem_map.mp h
      exact ⟨front, hfront, rfl⟩
  obtain ⟨front, hfront, rfl⟩ := hform
  have htoken : ∀ c ∈ token, c ≠ 60 ∧ c ≠ 62 := by
    intro c hc
    simp only [validTelegramInviteToken, Bool.and_eq_true, all_eq_true] at hvalid
    have hchar := hvalid.2 c hc
    constructor <;> rintro rfl <;> cases hchar
  have hfronts : ∀ front ∈ invitePrefixes, 47 ∈ front ∧ 60 ∉ front ∧ 62 ∉ front := by decide
  obtain ⟨hslash, hopen, hclose⟩ := hfronts front hfront
  simp only [mem_append, not_or]
  exact ⟨.inl hslash, ⟨hopen, fun h => (htoken _ h).1 rfl⟩, hclose, fun h => (htoken _ h).2 rfl⟩

/-! ## §4. Matches. -/

theorem find_none (h : find pattern value = none) :
    ¬ pattern <:+: value := by
  induction value with
  | nil => simpa [find] using h
  | cons c rest ih =>
    unfold find at h
    split at h
    · cases h
    · rename_i hfront
      rw [infix_cons_iff, not_or, ← isPrefixOf_iff_prefix]
      exact ⟨hfront, ih (Option.map_eq_none_iff.mp h)⟩

/-- **The first occurrence.** -/
theorem find_some (h : find pattern value = some n) :
    pattern <+: value.drop n ∧ ∀ m < n, ¬ pattern <+: value.drop m := by
  induction value generalizing n with
  | nil =>
    obtain ⟨hempty, rfl⟩ : pattern = [] ∧ 0 = n := by simpa [find] using h
    simp [hempty]
  | cons c rest ih =>
    unfold find at h
    split at h
    · rename_i hfront
      cases h
      rw [ isPrefixOf_iff_prefix] at hfront
      exact ⟨hfront, fun m hm => absurd hm (Nat.not_lt_zero m)⟩
    · rename_i hfront
      obtain ⟨k, hk, rfl⟩ := Option.map_eq_some_iff.mp h
      refine ⟨(ih hk).1, fun m hm => ?_⟩
      cases m with
      | zero => rwa [drop_zero, ← isPrefixOf_iff_prefix]
      | succ m => exact (ih hk).2 m (by omega)

theorem find_le {m : Nat} (h : pattern <+: value.drop m) :
    ∃ n ≤ m, find pattern value = some n := by
  cases hfind : find pattern value with
  | none => exact absurd (h.isInfix.trans (drop_suffix m value).isInfix) (find_none hfind)
  | some n => exact ⟨n, Nat.not_lt.mp fun hlt => (find_some hfind).2 m hlt h, rfl⟩

/-- What the inner loop has found among the aliases so far. -/
def Best (value : Bytes) (aliases : List Bytes) : Option (Nat × Bytes) → Prop
  | none => ∀ link ∈ aliases, find link value = none
  | some (next, matched) => matched ∈ aliases ∧ find matched value = some next
      ∧ ∀ link ∈ aliases, ∀ found, find link value = some found →
        next < found ∨ (next = found ∧ link.length ≤ matched.length)

theorem nextMatch_best (value : Bytes) (ordered : List Bytes) :
    Best value ordered (nextMatch ordered value) := by
  induction ordered using List.reverseRecOn with
  | nil => exact fun link h => nomatch h
  | append_singleton ordered link ih =>
    unfold nextMatch at ih ⊢
    rw [foldl_append, foldl_cons, foldl_nil]
    generalize ordered.foldl _ none = best at ih
    cases hfound : find link value with
    | none => cases best <;> simp_all [Best, or_imp]
    | some found =>
      cases best with
      | none => simp_all [Best, or_imp]
      | some best =>
        obtain ⟨next, matched⟩ := best
        obtain ⟨hmem, hat, hbest⟩ := ih
        have hboth : ∀ P : Bytes → Prop, (∀ a ∈ ordered, P a) → P link →
            ∀ a ∈ ordered ++ [link], P a := by
          simp +contextual [or_imp]
        dsimp only
        split
        · rename_i hbetter
          refine ⟨by simp, hfound, hboth _ (fun a ha m hm => ?_) fun m hm => ?_⟩
          · have := hbest a ha m hm
            omega
          · rw [hfound] at hm
            cases hm
            exact .inr ⟨rfl, le_rfl⟩
        · rename_i hworse
          refine ⟨by simp [hmem], hat, hboth _ hbest fun m hm => ?_⟩
          rw [hfound] at hm
          cases hm
          omega

/-! ## §5. Redaction. -/

/-- **A redacted text**: the leftmost and longest aliases are replaced, the text
between them stays. -/
inductive Redacted (aliases : List Bytes) : Bytes → Bytes → Prop
  | rest {text : Bytes} (hnone : ∀ link ∈ aliases, ¬ link <:+: text) : Redacted aliases text text
  | cut {before matched after output : Bytes} (hmatched : matched ∈ aliases)
      (hleftmost : ∀ link ∈ aliases, ∀ m < before.length,
        ¬ link <+: (before ++ (matched ++ after)).drop m)
      (hlongest : ∀ link ∈ aliases, link <+: matched ++ after → link.length ≤ matched.length)
      (hafter : Redacted aliases after output) :
      Redacted aliases (before ++ (matched ++ after)) (before ++ kInviteLinkReplacement ++ output)

/-- **The loop ends with a redacted text**, by induction on the length of the text. -/
theorem redactLoop_redacted {ordered : List Bytes} (hne : ∀ link ∈ aliases, link ≠ [])
    (hordered : ∀ link, link ∈ ordered ↔ link ∈ aliases) : ∀ text : Bytes,
      text.length = n → ∃ output, Redacted aliases text output
        ∧ ∀ fuel, text.length < fuel → redactLoop ordered fuel text = some output := by
  induction n using Nat.strong_induction_on with
  | _ n ih =>
    intro text hlen
    have hbest := nextMatch_best text ordered
    cases hnext : nextMatch ordered text with
    | none =>
      rw [hnext] at hbest
      refine ⟨text, .rest fun link hlink => find_none (hbest link ((hordered link).mpr hlink)), ?_⟩
      intro fuel hfuel
      obtain ⟨fuel, rfl⟩ := Nat.exists_eq_add_one_of_ne_zero (by omega : fuel ≠ 0)
      cases text <;> simp [redactLoop, hnext]
    | some found =>
      obtain ⟨next, matched⟩ := found
      rw [hnext] at hbest
      obtain ⟨hmem, hfind, hbest⟩ := hbest
      rw [hordered] at hmem
      obtain ⟨⟨after, hafter⟩, hfirst⟩ := find_some hfind
      have hpos : 0 < matched.length := length_pos_iff.mpr (hne matched hmem)
      have hbefore : (text.take next).length = next := by
        have hlen' := congrArg length hafter
        rw [length_append, length_drop] at hlen'
        rw [length_take]
        omega
      have htext : text = text.take next ++ (matched ++ after) := by rw [hafter, take_append_drop]
      generalize text.take next = before at hbefore htext
      subst hbefore htext
      rw [length_append, length_append] at hlen
      obtain ⟨output, hredacted, hrun⟩ := ih after.length (by omega) after rfl
      have hleast : ∀ link ∈ aliases, ∀ m, link <+: (before ++ (matched ++ after)).drop m →
          before.length < m ∨ (before.length = m ∧ link.length ≤ matched.length) := by
        intro link hlink m hat
        obtain ⟨k, hk, hfind⟩ := find_le hat
        have := hbest link ((hordered link).mpr hlink) k hfind
        omega
      refine ⟨before ++ kInviteLinkReplacement ++ output, .cut hmem ?_ ?_ hredacted, ?_⟩
      · intro link hlink m hm hat
        have := hleast link hlink m hat
        omega
      · intro link hlink hat
        have := hleast link hlink before.length (by rwa [drop_left])
        omega
      · intro fuel hfuel
        rw [length_append, length_append] at hfuel
        obtain ⟨fuel, rfl⟩ := Nat.exists_eq_add_one_of_ne_zero (by omega : fuel ≠ 0)
        simp [redactLoop, hne matched hmem, hnext, hrun fuel (by omega)]

/-- A text without a byte of the middle lies on one side of it. -/
theorem infix_append_cons {c : UInt8} (hc : c ∉ link)
    (h : link <:+: before ++ c :: after) : link <:+: before ∨ link <:+: after := by
  have hfront : ∀ rest, rest <+: c :: after → c ∉ rest → rest = [] := by
    intro rest hrest hc
    rcases prefix_cons_iff.mp hrest with rfl | ⟨more, rfl, -⟩
    · rfl
    · exact absurd mem_cons_self hc
  rcases infix_append_iff.mp h with h | h | ⟨left, right, rfl, hleft, hright⟩
  · exact .inl h
  · rcases infix_cons_iff.mp h with h | h
    · exact .inl (hfront link h hc ▸ nil_infix)
    · exact .inr h
  · rw [mem_append, not_or] at hc
    rw [hfront right hright hc.2, append_nil]
    exact .inl hleft.isInfix

/-- **No alias is put together by the replacement**: the brackets separate it from
the text around it. -/
theorem Redacted.not_infix (h : Redacted aliases text output) (hmem : shown ∈ aliases)
    (hbytes : 47 ∈ shown ∧ 60 ∉ shown ∧ 62 ∉ shown) : ¬ shown <:+: output := by
  obtain ⟨hslash, hopen, hclose⟩ := hbytes
  induction h with
  | rest hnone => exact hnone shown hmem
  | @cut before matched after output _ hleftmost _ _ ih =>
    intro hoccurs
    rw [append_assoc, show kInviteLinkReplacement ++ output
      = 60 :: (ascii "redacted:invite-link" ++ 62 :: output) from rfl] at hoccurs
    rcases infix_append_cons hopen hoccurs with ⟨left, right, hoccurs⟩ | hoccurs
    · have hpos : 0 < shown.length := length_pos_of_mem hslash
      refine hleftmost shown hmem left.length ?_ ?_
      · simp only [← hoccurs, length_append]
        omega
      · simp [← hoccurs]
    rcases infix_append_cons hclose hoccurs with hoccurs | hoccurs
    · exact absurd (hoccurs.subset hslash) (by decide)
    · exact ih hoccurs

theorem Redacted.eq_self (h : Redacted aliases text output)
    (hnone : ∀ link ∈ aliases, ¬ link <:+: text) :
    output = text := by
  cases h with
  | rest => rfl
  | @cut before matched after _ hmem => exact absurd ⟨before, after, by simp⟩ (hnone matched hmem)

theorem Entry.alias_ne_nil {entry : Entry} (h : shown ∈ entry.aliases) :
    shown ≠ [] := by
  unfold Entry.aliases at h
  split at h
  · rw [mem_singleton.mp h]
    exact entry.nonempty
  · exact ne_nil_of_mem (exact_alias_bytes h).1

/-- **Invite redaction is complete.** -/
theorem redact_complete (registry : InviteLinkRegistry) (text : Bytes) :
    ∃ output, (∀ fuel, text.length < fuel → registry.redact fuel text = some output)
      ∧ (∀ entry ∈ registry.links, ∀ shown ∈ exactTelegramInviteAliases entry.2.link,
          ¬ shown <:+: output)
      ∧ Redacted registry.aliases text output
      ∧ ((∀ shown ∈ registry.aliases, ¬ shown <:+: text) → output = text) := by
  have hne : ∀ shown ∈ registry.aliases, shown ≠ [] := by
    intro shown hmem
    obtain ⟨entry, -, hshown⟩ := mem_flatMap.mp hmem
    exact Entry.alias_ne_nil hshown
  have hordered : ∀ link, link ∈ registry.ordered ↔ link ∈ registry.aliases :=
    fun _ => mem_insertionSort _
  obtain ⟨output, hredacted, hrun⟩ := redactLoop_redacted hne hordered text rfl
  refine ⟨output, hrun, fun entry hentry shown hshown => ?_, hredacted, hredacted.eq_self⟩
  refine hredacted.not_infix (mem_flatMap.mpr ⟨entry, hentry, ?_⟩) (exact_alias_bytes hshown)
  rw [Entry.aliases, if_neg (by simp [ne_nil_of_mem hshown])]
  exact hshown

end TgCli.Redaction
