/-
  TgCli.Session.Challenge — CHALLENGES AND THEIR ANSWERS

  `challenge`, `receive_answer` and `supersede` of `request_session.cpp`.  Each of
  them decides under `session_mutex_`, so a session sees them one after the other.
  The deadline, the nonce and what the validators say of a payload come from
  outside; the history is kept beside the session and read by no one.

  Main results:
    * `step_keeps` — sequences, resolutions and consumed answers stay in order;
    * `challenge_after_stop_iff` — when a stopped session asks no more questions;
    * `answers_exact` — only its own answer resolves a challenge.
-/
import TgCli.Session.Terminal

namespace TgCli.Session

open List

/-! ## §1. Challenges and answers. -/

inductive ChallengeKind where
  | apiId | apiHash | databaseKey | phoneNumber | authenticationCode | emailAddress | emailCode
  | password | botToken | registrationTerms | registrationFirstName | registrationLastName
  | destructiveConfirmation
deriving DecidableEq, Repr

/-- `challenge_kind_expects_boolean`. -/
def ChallengeKind.expectsBoolean (kind : ChallengeKind) : Bool :=
  kind = .registrationTerms || kind = .destructiveConfirmation

structure Identity where
  requestId : Nat
  nonce : String
  sequence : Nat
  clientGeneration : Option Nat
  authSequence : Option Nat
deriving DecidableEq, Repr

/-- `ChallengeSpec`, with what `validate_challenge_details` says of its details. -/
structure ChallengeSpec where
  kind : ChallengeKind
  clientGeneration : Option Nat
  authSequence : Option Nat
  reservesQuery : Bool
  valid : Bool
deriving DecidableEq, Repr

/-- `validate_challenge_payload`: an authentication kind needs the generation fields. -/
def ChallengeSpec.accepted (spec : ChallengeSpec) : Bool :=
  (spec.kind = .destructiveConfirmation || spec.clientGeneration.isSome) && spec.valid

structure CurrentChallenge where
  kind : ChallengeKind
  identity : Identity
  reservesQuery : Bool
deriving DecidableEq, Repr

inductive ChallengeStatus where
  | answered | cancelled | superseded | disconnected | shutdown | timedOut | noTty | protocolError
deriving DecidableEq, Repr

inductive Value where
  | text (value : String)
  | boolean (value : Bool)
deriving DecidableEq, Repr

def Value.isBoolean : Value → Bool
  | .text _ => false
  | .boolean _ => true

/-- A payload that `validate_answer_payload` accepts; without a value it cancels. -/
structure AnswerPayload where
  nonce : String
  sequence : Nat
  clientGeneration : Option Nat
  authSequence : Option Nat
  value : Option Value
deriving DecidableEq, Repr

/-- `proto::Answer`; the payload is absent if it is not valid. -/
structure Answer where
  id : Nat
  payload : Option AnswerPayload
deriving DecidableEq, Repr

def AnswerPayload.identity (payload : AnswerPayload) (id : Nat) : Identity :=
  ⟨id, payload.nonce, payload.sequence, payload.clientGeneration, payload.authSequence⟩

inductive IdentityOrder where
  | stale | equal | future
deriving DecidableEq, Repr

/-- Both are there, and the first is smaller. -/
def older : Option Nat → Option Nat → Bool
  | some a, some b => a < b
  | _, _ => false

def compareIdentity (current : Identity) (payload : AnswerPayload) : IdentityOrder :=
  if payload.clientGeneration ≠ current.clientGeneration then
    if older payload.clientGeneration current.clientGeneration then .stale else .future
  else if payload.authSequence = current.authSequence then .equal
  else if older payload.authSequence current.authSequence then .stale
  else .future

inductive AnswerDisposition where
  | accepted | cancelled | duplicateIgnored | staleIgnored | rejected | requestTerminated
deriving DecidableEq, Repr

/-! ## §2. The session. -/

/-- A challenge was made, or resolved, by an answer or by something else. -/
inductive ChallengeEvent where
  | sent (challenge : CurrentChallenge)
  | resolved (challenge : CurrentChallenge) (status : ChallengeStatus) (cause : Option Answer)
deriving DecidableEq, Repr

structure Resolution where
  sequence : Nat
  status : ChallengeStatus
  value : Option Value := none
deriving DecidableEq, Repr

structure Challenges where
  requestId : Nat
  tty : Bool
  lifecycle : Lifecycle := {}
  nextSequence : Nat := 1
  current : Option CurrentChallenge := none
  resolution : Option Resolution := none
  consumed : List Identity := []
  answerReserved : Bool := false
  reservedIdentity : Option Identity := none
  latestAuthIdentity : Option (Nat × Nat) := none
  history : List ChallengeEvent := []
deriving DecidableEq, Repr

def kConsumedChallengeLimit : Nat := 16

namespace Challenges

variable (s : Challenges)

def withState (state : State) : Challenges :=
  { s with lifecycle := { s.lifecycle with state := state } }

/-- `answer_reserved_` and `reserved_identity_` are cleared together. -/
def unreserve : Challenges := { s with answerReserved := false, reservedIdentity := none }

def resolveCurrent (status : ChallengeStatus) (value : Option Value := none)
    (cause : Option Answer := none) : Challenges :=
  match s.current with
  | none => s
  | some current =>
    { s with
      resolution := some ⟨current.identity.sequence, status, value⟩
      current := none
      history := .resolved current status cause :: s.history }

/-- `remember_consumed`: the last sixteen. -/
def rememberConsumed (identity : Identity) : Challenges :=
  { s with consumed := (identity :: s.consumed).take kConsumedChallengeLimit }

/-- How a call of `challenge` begins: it returns at once, throws, or asks and waits. -/
inductive Start where
  | returned (status : ChallengeStatus)
  | threw
  | sent (challenge : CurrentChallenge)
deriving DecidableEq, Repr

/-- A later identity was seen. -/
def outdated (spec : ChallengeSpec) : Bool :=
  match spec.clientGeneration, spec.authSequence, s.latestAuthIdentity with
  | some generation, some sequence, some latest =>
    generation < latest.1 || (generation = latest.1 && sequence < latest.2)
  | _, _, _ => false

/-- The answer that was reserved belongs to the same query. -/
def continues (spec : ChallengeSpec) : Bool :=
  match s.reservedIdentity with
  | none => false
  | some reserved => reserved.clientGeneration = spec.clientGeneration
    && reserved.authSequence = spec.authSequence

/-- `challenge`, up to the moment it waits. -/
def challenge (spec : ChallengeSpec) (nonce : String) (expired : Bool) : Start × Challenges :=
  if !s.tty then (.returned .noTty, s)
  else
    match s.lifecycle.state with
    | .disconnected => (.returned .disconnected, s)
    | .shutdown => (.returned .shutdown, s)
    | .timedOut => (.returned .timedOut, s)
    | .protocolError | .auditFatal => (.returned .protocolError, s)
    | .running =>
      if expired then (.returned .timedOut, s.withState .timedOut)
      else if s.current.isSome then (.threw, s)
      else if spec.clientGeneration.isSome ≠ spec.authSequence.isSome then (.threw, s)
      else if s.outdated spec then (.returned .superseded, s)
      else if s.answerReserved && !s.continues spec then (.threw, s)
      else
        let next := { (if s.answerReserved then s.unreserve else s) with
          nextSequence := s.nextSequence + 1 }
        let made : CurrentChallenge :=
          ⟨spec.kind, ⟨s.requestId, nonce, s.nextSequence, spec.clientGeneration, spec.authSequence⟩,
            spec.reservesQuery⟩
        if !spec.accepted then (.threw, next)
        else
          (.sent made,
            { next with current := some made, resolution := none, history := .sent made :: s.history })

/-- An answer that `receive_answer` rejects. -/
def reject : Challenges := (s.withState .protocolError).resolveCurrent .protocolError

/-- The decision tree over the identity of an answer. -/
def receiveAnswer (answer : Answer) (expired : Bool) : AnswerDisposition × Challenges :=
  if s.lifecycle.state ≠ .running then (.requestTerminated, s)
  else if expired then (.requestTerminated, (s.withState .timedOut).resolveCurrent .timedOut)
  else
    match answer.payload with
    | none => (.rejected, s.reject)
    | some payload =>
      if answer.id ≠ s.requestId then (.rejected, s.reject)
      else if s.consumed.contains (payload.identity answer.id) then (.duplicateIgnored, s)
      else
        match s.current with
        | none => if payload.sequence < s.nextSequence then (.staleIgnored, s) else (.rejected, s.reject)
        | some current =>
          if payload.sequence < current.identity.sequence then (.staleIgnored, s)
          else if current.identity.sequence < payload.sequence then (.rejected, s.reject)
          else
            match compareIdentity current.identity payload with
            | .stale => (.staleIgnored, s)
            | .future => (.rejected, s.reject)
            | .equal =>
              if payload.nonce ≠ current.identity.nonce then (.rejected, s.reject)
              else
                match payload.value with
                | none =>
                  (.cancelled,
                    (s.rememberConsumed current.identity).resolveCurrent .cancelled none (some answer))
                | some value =>
                  if current.kind.expectsBoolean ≠ value.isBoolean then (.rejected, s.reject)
                  else
                    let remembered := s.rememberConsumed current.identity
                    let reserved := if current.reservesQuery then
                        { remembered with
                          answerReserved := true, reservedIdentity := some current.identity }
                      else remembered
                    (.accepted, reserved.resolveCurrent .answered (some value) (some answer))

/-- The identity that `supersede` compares with. -/
def awaited : Option Identity :=
  match s.current with
  | some current => some current.identity
  | none => if s.answerReserved then s.reservedIdentity else none

/-- A newer authorization state withdraws the challenge. -/
def supersede (generation sequence : Nat) : Challenges :=
  if s.lifecycle.state ≠ .running then s
  else
    let seen := match s.latestAuthIdentity with
      | none => some (generation, sequence)
      | some latest =>
        if latest.1 < generation || (latest.1 = generation && latest.2 < sequence) then
          some (generation, sequence)
        else some latest
    let s := { s with latestAuthIdentity := seen }
    match s.awaited with
    | some ⟨_, _, _, some oldGeneration, some oldSequence⟩ =>
      if generation < oldGeneration || (generation = oldGeneration && sequence ≤ oldSequence) then s
      else if s.current.isSome then s.resolveCurrent .superseded
      else s.unreserve
    | _ => s

def disconnect : Challenges :=
  if (s.lifecycle.state ≠ .running ∧ s.lifecycle.state ≠ .timedOut) ∨ s.lifecycle.batchClaimed then s
  else ({ s.unreserve with lifecycle := s.lifecycle.disconnect }).resolveCurrent .disconnected

def shutdown : Challenges :=
  if s.lifecycle.state ≠ .running then s
  else ({ s.unreserve with lifecycle := s.lifecycle.shutdown }).resolveCurrent .shutdown

/-- `begin_audited_terminal` and `begin_terminal_batch`.  The request's own thread calls
them, and it is not waiting for an answer then. -/
def beginTerminal (expired audited batch : Bool) : Challenges :=
  if s.current.isSome || s.lifecycle.shutdownRequested || s.lifecycle.state ≠ .running then s
  else if expired then s.withState .timedOut
  else
    { s with lifecycle := { s.lifecycle with
        auditedTerminal := s.lifecycle.auditedTerminal || audited
        batchClaimed := s.lifecycle.batchClaimed || batch } }

end Challenges

/-- The calls on a session, and what the wait of `challenge` does. -/
inductive Operation where
  | challenge (spec : ChallengeSpec) (nonce : String) (expired : Bool)
  | answer (answer : Answer) (expired : Bool)
  | supersede (generation sequence : Nat)
  | disconnect | shutdown | auditFatal
  | transportTerminated | waitExpired | take
  | reserveInFlight
  | beginAuditedTerminal (expired : Bool)
  | beginTerminalBatch (expired : Bool)
  | claimAuditedTerminalEvent (timedOut : Bool)
deriving DecidableEq, Repr

/-- **One operation.** -/
def Challenges.step (s : Challenges) : Operation → Challenges
  -- the request has one thread, which is not back while a challenge waits
  | .challenge spec nonce expired =>
    if s.current.isSome then s else (s.challenge spec nonce expired).2
  | .answer answer expired => (s.receiveAnswer answer expired).2
  | .supersede generation sequence => s.supersede generation sequence
  | .disconnect => s.disconnect
  | .shutdown => s.shutdown
  | .auditFatal =>
    if s.lifecycle.state = .disconnected ∨ s.lifecycle.state = .auditFatal then s
    else (s.unreserve.withState .auditFatal).resolveCurrent .protocolError
  | .transportTerminated => (s.withState .protocolError).resolveCurrent .protocolError
  | .waitExpired => if s.current.isSome then (s.withState .timedOut).resolveCurrent .timedOut else s
  | .take => { s with resolution := none }
  | .reserveInFlight =>
    if s.lifecycle.state ≠ .running ∨ s.answerReserved = false then s else s.unreserve
  | .beginAuditedTerminal expired => s.beginTerminal expired true false
  | .beginTerminalBatch expired => s.beginTerminal expired false true
  | .claimAuditedTerminalEvent timedOut =>
    if s.current.isNone && s.lifecycle.auditedTerminal && timedOut then s.withState .timedOut else s

def Challenges.run (s : Challenges) (operations : List Operation) : Challenges :=
  operations.foldl Challenges.step s

/-! ## §3. What every operation keeps. -/

open Challenges

/-- How often the challenge of a sequence was resolved. -/
def resolutions (sequence : Nat) : List ChallengeEvent → Nat
  | [] => 0
  | .sent _ :: older => resolutions sequence older
  | .resolved challenge _ _ :: older =>
    resolutions sequence older + if challenge.identity.sequence = sequence then 1 else 0

/-- The answer is the one to this challenge, and it is of the right kind. -/
def Answers (c : CurrentChallenge) (status : ChallengeStatus) (answer : Answer) : Prop :=
  ∃ payload, answer.payload = some payload ∧ payload.identity answer.id = c.identity ∧
    match payload.value with
    | none => status = .cancelled
    | some value => status = .answered ∧ c.kind.expectsBoolean = value.isBoolean

/-- `Answered` and `Cancelled` have an answer as their cause. -/
def Justified (c : CurrentChallenge) (status : ChallengeStatus) (cause : Option Answer) : Prop :=
  status = .answered ∨ status = .cancelled → ∃ answer, cause = some answer ∧ Answers c status answer

structure Ordered (s : Challenges) : Prop where
  running : s.current.isSome →
    s.lifecycle.state = .running ∧ s.tty = true ∧ s.resolution = none
  newest : ∀ c, s.current = some c → .sent c ∈ s.history ∧ s.nextSequence = c.identity.sequence + 1
  known : ∀ c, .sent c ∈ s.history →
    c.identity.sequence < s.nextSequence ∧ c.identity.requestId = s.requestId
  once : ∀ c, .sent c ∈ s.history →
    resolutions c.identity.sequence s.history = if s.current = some c then 0 else 1
  made : ∀ c status cause, .resolved c status cause ∈ s.history →
    .sent c ∈ s.history ∧ s.current ≠ some c ∧ Justified c status cause

section keeps

variable {s t : Challenges} {status : ChallengeStatus} {value : Option Value} {cause : Option Answer}

/-- Neither the challenges nor their resolutions change. -/
structure Kept (s t : Challenges) : Prop where
  id : t.requestId = s.requestId := by rfl
  tty : t.tty = s.tty := by rfl
  current : t.current = s.current := by rfl
  history : t.history = s.history := by rfl
  next : t.nextSequence = s.nextSequence := by rfl

theorem ordered_kept (h : Ordered s) (hk : Kept s t)
    (hrun : t.current.isSome → t.lifecycle.state = .running ∧ t.resolution = none) : Ordered t := by
  obtain ⟨hid, htty, hcur, hhist, hnext⟩ := hk
  constructor
  · intro hsome
    rw [htty]
    exact ⟨(hrun hsome).1, (h.running (hcur ▸ hsome)).2.1, (hrun hsome).2⟩
  · rw [hcur, hhist, hnext]
    exact h.newest
  · rw [hhist, hnext, hid]
    exact h.known
  · rw [hcur, hhist]
    exact h.once
  · rw [hcur, hhist]
    exact h.made

theorem sequence_ne (h : Ordered s) (hc : s.current = some c)
    (hc' : .sent c' ∈ s.history) (hne : c' ≠ c) : c'.identity.sequence ≠ c.identity.sequence := by
  intro heq
  have hnone := h.once c (h.newest c hc).1
  have hone := h.once c' hc'
  rw [heq, hnone, if_pos hc, if_neg] at hone
  · exact absurd hone (by decide)
  · rw [hc]
    exact fun h => hne (Option.some.inj h).symm

/-- A resolution is of the challenge that waits, once. -/
theorem ordered_resolve (h : Ordered s) (hk : Kept s t)
    (hcause : ∀ c, s.current = some c → Justified c status cause) :
    Ordered (t.resolveCurrent status value cause) := by
  cases hc : s.current with
  | none =>
    have hnone : t.current = none := hk.current.trans hc
    rw [resolveCurrent, hnone]
    exact ordered_kept h hk (by simp [hnone])
  | some c =>
    have hsome : t.current = some c := hk.current.trans hc
    obtain ⟨hsent, hnext⟩ := h.newest c hc
    rw [resolveCurrent, hsome]
    constructor
    · simp
    · simp
    · intro c' hc'
      rw [hk.history] at hc'
      rw [hk.next, hk.id]
      exact h.known c' (by simpa using hc')
    · intro c' hc'
      rw [hk.history] at hc'
      have hmem : ChallengeEvent.sent c' ∈ s.history := by simpa using hc'
      have hcnt := h.once c' hmem
      rw [hk.history, resolutions, hcnt, hc]
      by_cases heq : c' = c
      · simp [heq]
      · have hne := sequence_ne h hc hmem heq
        simp [Ne.symm hne, Ne.symm heq]
    · intro c' status' cause' hmem
      rw [hk.history] at hmem ⊢
      rcases mem_cons.mp hmem with hhead | htail
      · obtain ⟨rfl, rfl, rfl⟩ : c' = c ∧ status' = status ∧ cause' = cause := by simpa using hhead
        exact ⟨mem_cons_of_mem _ hsent, by simp, hcause _ hc⟩
      · obtain ⟨hold, -, hjust⟩ := h.made c' status' cause' htail
        exact ⟨mem_cons_of_mem _ hold, by simp, hjust⟩

theorem justified_other (c : CurrentChallenge) (hother : ¬ (status = .answered ∨ status = .cancelled)) :
    Justified c status cause := fun h => absurd h hother

/-- A new challenge takes a sequence that no other has. -/
theorem ordered_sent (h : Ordered s) (hnone : s.current = none) (hid : t.requestId = s.requestId)
    (hrun : t.lifecycle.state = .running ∧ t.tty ∧ t.resolution = none) {c : CurrentChallenge}
    (hseq : c.identity.sequence = s.nextSequence) (hrequest : c.identity.requestId = s.requestId)
    (hcur : t.current = some c) (hhist : t.history = .sent c :: s.history)
    (hnext : t.nextSequence = s.nextSequence + 1) : Ordered t := by
  have hfresh : resolutions s.nextSequence s.history = 0 := by
    have hall : ∀ e ∈ s.history, ∀ c status cause, e = .resolved c status cause →
        c.identity.sequence ≠ s.nextSequence := by
      rintro e he c status cause rfl
      have := h.known c (h.made c status cause he).1
      omega
    generalize s.history = log at hall
    induction log with
    | nil => rfl
    | cons e older ih =>
      have hold := ih fun e he => hall e (mem_cons_of_mem _ he)
      cases e with
      | sent c => exact hold
      | resolved c status cause =>
        have hne := hall _ mem_cons_self c status cause rfl
        simp [resolutions, hold, hne]
  constructor
  · exact fun _ => hrun
  · rw [hcur, hhist, hnext]
    rintro c' ⟨⟩
    exact ⟨mem_cons_self, by omega⟩
  · rw [hhist, hnext, hid]
    intro c' hc'
    rcases mem_cons.mp hc' with hhead | htail
    · cases hhead
      exact ⟨by omega, hrequest⟩
    · have := h.known c' htail
      exact ⟨by omega, this.2⟩
  · rw [hhist, hcur]
    intro c' hc'
    rcases mem_cons.mp hc' with hhead | htail
    · cases hhead
      rw [if_pos rfl, resolutions, hseq, hfresh]
    · have hlt := (h.known c' htail).1
      have hne : c ≠ c' := by
        rintro rfl
        omega
      simpa [resolutions, hnone, hne] using h.once c' htail
  · rw [hhist, hcur]
    intro c' status cause hmem
    have hold := h.made c' status cause (by simpa using hmem)
    have hlt := (h.known c' hold.1).1
    refine ⟨mem_cons_of_mem _ hold.1, ?_, hold.2.2⟩
    rintro ⟨⟩
    omega

/-- A sequence may be left out, while no challenge waits. -/
theorem ordered_skip (h : Ordered s) (hnone : s.current = none) :
    Ordered { s with nextSequence := s.nextSequence + 1 } :=
  { h with
    newest := by simp [hnone]
    known := fun c hc => ⟨Nat.lt_succ_of_lt (h.known c hc).1, (h.known c hc).2⟩ }

theorem compareIdentity_equal (h : compareIdentity i payload = .equal) :
    payload.clientGeneration = i.clientGeneration ∧ payload.authSequence = i.authSequence := by
  rw [compareIdentity] at h
  grind

theorem challenge_keeps (h : Ordered s) (hnone : s.current = none) (spec : ChallengeSpec)
    (nonce : String) (expired : Bool) :
    Ordered (s.challenge spec nonce expired).2 := by
  rw [challenge]
  by_cases htty : s.tty = true
  swap
  · simpa [htty] using h
  rw [if_neg (by simp [htty])]
  cases hst : s.lifecycle.state with
  | running =>
    dsimp only
    by_cases hexp : expired = true
    · rw [if_pos hexp]
      exact ordered_kept h {} (by simp [withState, hnone])
    rw [if_neg hexp, if_neg (by simp [hnone])]
    split_ifs with _ _ _ hval hres hres
    any_goals exact h
    · exact ordered_kept (ordered_skip h hnone) {} (by simp [unreserve, hnone])
    · exact ordered_kept (ordered_skip h hnone) {} (by simp [hnone])
    · exact ordered_sent h hnone rfl ⟨hst, htty, rfl⟩ rfl rfl rfl rfl rfl
    · exact ordered_sent h hnone rfl ⟨hst, htty, rfl⟩ rfl rfl rfl rfl rfl
  | _ => exact h

/-- The challenge that waits was resolved, with an answer to it if so it says. -/
def Resolves (s r : Challenges) : Prop :=
  ∃ t status value cause, Kept s t ∧ r = t.resolveCurrent status value cause ∧
    ∀ c, s.current = some c → c.identity.requestId = s.requestId → Justified c status cause

theorem resolves_other (hk : Kept s t) (hother : ¬ (status = .answered ∨ status = .cancelled)) :
    Resolves s (t.resolveCurrent status) :=
  ⟨t, status, none, none, hk, rfl, fun c _ _ => justified_other c hother⟩

/-- What an answer can do: nothing, or it resolves the challenge. -/
theorem receiveAnswer_cases (s : Challenges) (answer : Answer) (expired : Bool) :
    (s.receiveAnswer answer expired).2 = s ∨ Resolves s (s.receiveAnswer answer expired).2 := by
  have hrej : Resolves s s.reject := resolves_other {} (by decide)
  rw [receiveAnswer]
  split
  · exact .inl rfl
  split
  · exact .inr (resolves_other {} (by decide))
  split
  · exact .inr hrej
  rename_i payload hpay
  split
  · exact .inr hrej
  rename_i hid
  split
  · exact .inl rfl
  split
  · split
    · exact .inl rfl
    · exact .inr hrej
  rename_i c hcur
  split
  · exact .inl rfl
  rename_i hstale
  split
  · exact .inr hrej
  rename_i hfuture
  split
  · exact .inl rfl
  · exact .inr hrej
  rename_i horder
  split
  · exact .inr hrej
  rename_i hnonce
  -- every field of the identity agrees
  have hanswers : ∀ status, (match payload.value with
      | none => status = .cancelled
      | some value => status = .answered ∧ c.kind.expectsBoolean = value.isBoolean) →
      ∀ c', s.current = some c' → c'.identity.requestId = s.requestId →
        Justified c' status (some answer) := by
    intro status hvalue c' hc' hrequest _
    cases hcur.symm.trans hc'
    obtain ⟨hgen, hauth⟩ := compareIdentity_equal horder
    refine ⟨answer, rfl, payload, hpay, ?_, hvalue⟩
    cases c with | mk kind identity reserves =>
    cases identity
    simp only [AnswerPayload.identity, Identity.mk.injEq] at *
    exact ⟨(not_not.mp hid).trans hrequest.symm, not_not.mp hnonce, by omega, hgen, hauth⟩
  cases hvalue : payload.value with
  | none =>
    exact .inr ⟨s.rememberConsumed c.identity, .cancelled, none, some answer, {}, rfl,
      hanswers _ (by simp [hvalue])⟩
  | some value =>
    dsimp only
    split
    · exact .inr hrej
    rename_i hkind
    refine .inr ⟨_, .answered, some value, some answer, ?_, rfl,
      hanswers .answered (by simpa [hvalue] using not_not.mp hkind)⟩
    split
    · exact {}
    · exact {}

theorem receiveAnswer_keeps (h : Ordered s) (answer : Answer) (expired : Bool) :
    Ordered (s.receiveAnswer answer expired).2 := by
  rcases receiveAnswer_cases s answer expired with hsame | ⟨t, status, value, cause, hk, hrsv, hjust⟩
  · rwa [hsame]
  · rw [hrsv]
    exact ordered_resolve h hk fun c hc => hjust c hc (h.known c (h.newest c hc).1).2

theorem supersede_keeps (h : Ordered s) (generation sequence : Nat) :
    Ordered (s.supersede generation sequence) := by
  rw [supersede]
  split
  · exact h
  have hrun : s.current.isSome → s.lifecycle.state = .running ∧ s.resolution = none :=
    fun hsome => ⟨(h.running hsome).1, (h.running hsome).2.2⟩
  dsimp only
  split
  · split_ifs
    · exact ordered_kept h {} hrun
    · exact ordered_resolve h {}
        fun c _ => justified_other c (by decide)
    · exact ordered_kept h {} hrun
  · exact ordered_kept h {} hrun

/-- **Every operation keeps the order of challenges.** -/
theorem step_keeps (h : Ordered s) (operation : Operation) : Ordered (s.step operation) := by
  have hrun : s.current.isSome → s.lifecycle.state = .running ∧ s.resolution = none :=
    fun hsome => ⟨(h.running hsome).1, (h.running hsome).2.2⟩
  have hother : ∀ {u : Challenges} {status}, Kept s u →
      ¬ (status = .answered ∨ status = .cancelled) → Ordered (u.resolveCurrent status) :=
    fun hk hstat => ordered_resolve h hk fun c _ => justified_other c hstat
  have hbegin : ∀ expired audited batch, Ordered (s.beginTerminal expired audited batch) := by
    intro expired audited batch
    rw [beginTerminal]
    split_ifs with hguard hexp
    · exact h
    · -- no challenge waits here
      exact ordered_kept h {} fun hsome => absurd hsome (by simp_all [withState])
    · exact ordered_kept h {} hrun
  cases operation with
  | challenge spec nonce expired =>
    rw [step]
    split_ifs with hsome
    · exact h
    · exact challenge_keeps h (Option.not_isSome_iff_eq_none.mp hsome) spec nonce expired
  | answer answer expired => exact receiveAnswer_keeps h answer expired
  | supersede generation sequence => exact supersede_keeps h generation sequence
  | disconnect =>
    rw [step, disconnect]
    split_ifs
    · exact h
    · exact hother {} (by decide)
  | shutdown =>
    rw [step, shutdown]
    split_ifs
    · exact h
    · exact hother {} (by decide)
  | auditFatal =>
    rw [step]
    split_ifs
    · exact h
    · exact hother {} (by decide)
  | transportTerminated => exact hother {} (by decide)
  | waitExpired =>
    rw [step]
    split_ifs
    · exact hother {} (by decide)
    · exact h
  | take => exact ordered_kept h {} fun hsome => ⟨(hrun hsome).1, rfl⟩
  | reserveInFlight =>
    rw [step]
    split_ifs
    · exact h
    · exact ordered_kept h {} hrun
  | beginAuditedTerminal expired => exact hbegin expired true false
  | beginTerminalBatch expired => exact hbegin expired false true
  | claimAuditedTerminalEvent timedOut =>
    rw [step]
    split_ifs with hguard
    · exact ordered_kept h {} fun hsome => absurd hsome (by simp_all [withState])
    · exact h

end keeps

/-- **So does every run**, from a session with no challenge. -/
theorem run_ordered (requestId : Nat) (tty : Bool) (operations : List Operation) :
    Ordered (Challenges.run { requestId, tty } operations) := by
  suffices ∀ s, Ordered s → Ordered (s.run operations) by
    refine this _ ⟨?_, ?_, ?_, ?_, ?_⟩ <;> simp
  induction operations with
  | nil => exact fun s h => h
  | cons operation rest ih => exact fun s h => ih _ (step_keeps h operation)

/-! ## §4. A stopped session asks no more. -/

/-- `challenge` sends no frame, and returns at once without an answer. -/
def Silent (s : Challenges) : Prop :=
  ∀ spec nonce expired, ∃ status, (s.challenge spec nonce expired).1 = .returned status ∧
    status ≠ .answered

variable {s : Challenges}

theorem silent_of_stopped (h : s.tty = false ∨ s.lifecycle.state ≠ .running) :
    Silent s := by
  intro spec nonce expired
  rw [challenge]
  cases htty : s.tty with
  | false => exact ⟨.noTty, rfl, by decide⟩
  | true =>
    have hst := h.resolve_left (by simp [htty])
    cases hs : s.lifecycle.state with
    | running => exact absurd hs hst
    | disconnected => exact ⟨.disconnected, rfl, by decide⟩
    | shutdown => exact ⟨.shutdown, rfl, by decide⟩
    | timedOut => exact ⟨.timedOut, rfl, by decide⟩
    | protocolError | auditFatal => exact ⟨.protocolError, rfl, by decide⟩

theorem not_silent (htty : s.tty) (hrun : s.lifecycle.state = .running)
    (hnone : s.current = none) (hfree : s.answerReserved = false) : ¬ Silent s := by
  intro h
  obtain ⟨status, hreturned, -⟩ := h ⟨.destructiveConfirmation, none, none, false, true⟩ "" false
  simp [challenge, htty, hrun, hnone, hfree, outdated, ChallengeSpec.accepted] at hreturned

@[simp] theorem resolveCurrent_rest (s : Challenges) (status : ChallengeStatus)
    (value : Option Value) (cause : Option Answer) :
    (s.resolveCurrent status value cause).lifecycle = s.lifecycle ∧
    (s.resolveCurrent status value cause).tty = s.tty ∧
    (s.resolveCurrent status value cause).answerReserved = s.answerReserved ∧
    (s.resolveCurrent status value cause).current = none := by
  cases hc : s.current <;> simp [resolveCurrent, hc]

section stopped

attribute [local grind] step challenge receiveAnswer
  supersede disconnect shutdown beginTerminal
  reject withState unreserve Lifecycle.disconnect

/-- A session that has stopped, or has no terminal, stays so. -/
theorem step_stopped (h : s.tty = false ∨ s.lifecycle.state ≠ .running)
    (operation : Operation) :
    (s.step operation).tty = false ∨ (s.step operation).lifecycle.state ≠ .running := by
  cases operation with
  | answer answer expired =>
    rcases receiveAnswer_cases s answer expired with hsame | ⟨t, status, value, cause, hk, hrsv, -⟩
    · rw [step, hsame]
      exact h
    · rcases h with htty | hst
      · left
        rw [step, hrsv, (resolveCurrent_rest ..).2.1, hk.tty, htty]
      · right
        rw [step, receiveAnswer, if_pos hst]
        exact hst
  | _ => grind [resolveCurrent_rest]

end stopped

theorem run_stopped (h : s.tty = false ∨ s.lifecycle.state ≠ .running)
    (later : List Operation) : Silent (s.run later) := by
  induction later generalizing s with
  | nil => exact silent_of_stopped h
  | cons operation rest ih => exact ih (step_stopped h operation)

/-- After the stop no challenge asks, and the one that waited is resolved by it. -/
def StoppedBy (s t : Challenges) (status : ChallengeStatus) : Prop :=
  (∀ later, Silent (t.run later)) ∧
  ∀ c, s.current = some c → t.resolution = some ⟨c.identity.sequence, status, none⟩

/-- **A stop ends the questions** of a session, unless it is one that has claimed how it
ends: `shutdown` leaves an audited session, and one with a terminal batch, running, and
`disconnect` does nothing to a session with a terminal batch. -/
theorem challenge_after_stop_iff (requestId : Nat) (tty : Bool) (operations : List Operation) :
    let s := Challenges.run { requestId, tty } operations
    (StoppedBy s s.shutdown .shutdown ↔
      ¬ (s.tty = true ∧ s.lifecycle.state = .running ∧
        (s.lifecycle.auditedTerminal = true ∨ s.lifecycle.batchClaimed = true))) ∧
    (StoppedBy s s.disconnect .disconnected ↔
      ¬ (s.tty = true ∧ s.lifecycle.state = .running ∧ s.lifecycle.batchClaimed = true)) ∧
    ∀ c, s.current = some c →
      s.shutdown.resolution = some ⟨c.identity.sequence, .shutdown, none⟩ := by
  intro s
  have h : Ordered s := run_ordered requestId tty operations
  have hwaits : ∀ c, s.current = some c →
      s.shutdown.resolution = some ⟨c.identity.sequence, .shutdown, none⟩ := by
    intro c hc
    have hrun := (h.running (by simp [hc])).1
    simp [Challenges.shutdown, hrun, Challenges.resolveCurrent, Challenges.unreserve, hc]
  refine ⟨⟨?_, ?_⟩, ⟨?_, ?_⟩, hwaits⟩
  · rintro ⟨hsilent, -⟩ ⟨htty, hrun, hclaimed⟩
    have hstays : s.lifecycle.shutdown.state = .running := by
      rw [Lifecycle.shutdown, if_neg (not_not.mpr hrun), if_pos (by simpa using hclaimed)]
    have hstop : s.shutdown = Challenges.resolveCurrent _ .shutdown := if_neg (not_not.mpr hrun)
    refine not_silent ?_ ?_ ?_ ?_ (hsilent []) <;>
      simp [Challenges.run, hstop, htty, hstays, Challenges.unreserve]
  · intro hfree
    refine ⟨run_stopped ?_, hwaits⟩
    by_cases hrun : s.lifecycle.state = .running
    · rw [shutdown, if_neg (not_not.mpr hrun)]
      simp [Lifecycle.shutdown, hrun, unreserve]
      grind
    · rw [shutdown, if_pos hrun]
      exact .inr hrun
  · rintro ⟨hsilent, hrsv⟩ ⟨htty, hrun, hclaimed⟩
    have hsame : s.disconnect = s := if_pos (.inr hclaimed)
    rw [hsame] at hsilent hrsv
    cases hc : s.current with
    | none =>
      -- the query is sent; then nothing is in the way of another challenge
      refine not_silent ?_ ?_ ?_ ?_ (hsilent [.reserveInFlight]) <;>
        cases hr : s.answerReserved <;>
        simp [Challenges.run, Challenges.step, Challenges.unreserve, htty, hrun, hc, hr]
    | some c =>
      have hnone := (h.running (by simp [hc])).2.2
      exact absurd (hrsv c hc) (by simp [hnone])
  · intro hfree
    refine ⟨run_stopped ?_, ?_⟩
    · rw [disconnect]
      split_ifs with hguard
      · grind
      · right
        simp [Lifecycle.disconnect, hguard]
    · intro c hc
      obtain ⟨hrun, htty, -⟩ := h.running (by simp [hc])
      have hbatch : s.lifecycle.batchClaimed = false := by
        simpa [htty, hrun] using hfree
      simp [Challenges.disconnect, hrun, hbatch, Challenges.resolveCurrent, Challenges.unreserve, hc]

/-- A write command designates its terminal before it asks for confirmation; a shutdown
in between does not keep it from asking. -/
theorem audited_confirmation_after_shutdown :
    let s := Challenges.run { requestId := 1, tty := true } [.beginAuditedTerminal false]
    (s.shutdown.challenge ⟨.destructiveConfirmation, none, none, false, true⟩ "n" false).1 =
      .sent ⟨.destructiveConfirmation, ⟨1, "n", 1, none, none⟩, false⟩ := by
  decide

/-! ## §5. Answers. -/

/-- An answer to an earlier challenge, or from before the current identity: a replay, a
smaller sequence, or this sequence with an older identity. -/
def Outdated (s : Challenges) (payload : AnswerPayload) : Prop :=
  (∃ c status cause, .resolved c status cause ∈ s.history ∧
    payload.identity s.requestId = c.identity) ∨
  match s.current with
  | none => payload.sequence < s.nextSequence
  | some c => payload.sequence < c.identity.sequence ∨
    (payload.sequence = c.identity.sequence ∧
      (older payload.clientGeneration c.identity.clientGeneration = true ∨
        (payload.clientGeneration = c.identity.clientGeneration ∧
          older payload.authSequence c.identity.authSequence = true)))

theorem older_ne (h : older a b) : a ≠ b := by
  rintro rfl
  cases a <;> simp [older] at h

/-- The answer changes nothing and answers nothing. -/
def Ignored (s : Challenges) (answer : Answer) : Prop :=
  ∃ disposition, s.receiveAnswer answer false = (disposition, s) ∧
    disposition ≠ .accepted ∧ disposition ≠ .cancelled

theorem receiveAnswer_outdated (h : Ordered s) {answer : Answer}
    {payload : AnswerPayload} (hpay : answer.payload = some payload)
    (hid : answer.id = s.requestId) (hold : Outdated s payload) : Ignored s answer := by
  rw [Ignored, receiveAnswer, hpay]
  by_cases hst : s.lifecycle.state ≠ .running
  · exact ⟨_, if_pos hst, by decide, by decide⟩
  rw [if_neg hst, if_neg (by decide)]
  dsimp only
  rw [if_neg (not_not.mpr hid)]
  by_cases hdup : s.consumed.contains (payload.identity answer.id) = true
  · exact ⟨_, if_pos hdup, by decide, by decide⟩
  rw [if_neg hdup]
  cases hc : s.current with
  | none =>
    have hlt : payload.sequence < s.nextSequence := by
      rcases hold with ⟨c, status, cause, hmem, heq⟩ | hlt
      · rw [show payload.sequence = c.identity.sequence from congrArg Identity.sequence heq]
        exact (h.known c (h.made c status cause hmem).1).1
      · rwa [hc] at hlt
    exact ⟨_, if_pos hlt, by decide, by decide⟩
  | some c =>
    have hpast : payload.sequence < c.identity.sequence ∨ (payload.sequence = c.identity.sequence ∧
        compareIdentity c.identity payload = .stale) := by
      rcases hold with ⟨c', status, cause, hmem, heq⟩ | hlt
      · left
        obtain ⟨hsent, hne, -⟩ := h.made c' status cause hmem
        have hlt := (h.known c' hsent).1
        have hne := sequence_ne h hc hsent fun heq => hne (heq ▸ hc)
        have hnext := (h.newest c hc).2
        have hseq : payload.sequence = c'.identity.sequence := congrArg Identity.sequence heq
        omega
      · rw [hc] at hlt
        rcases hlt with hlt | ⟨heq, hgen | ⟨hsame, hauth⟩⟩
        · exact .inl hlt
        · exact .inr ⟨heq, by rw [compareIdentity, if_pos (older_ne hgen), if_pos hgen]⟩
        · refine .inr ⟨heq, ?_⟩
          rw [compareIdentity, if_neg (not_not.mpr hsame), if_neg (older_ne hauth), if_pos hauth]
    dsimp only
    rcases hpast with hlt | ⟨heq, hstale⟩
    · exact ⟨_, if_pos hlt, by decide, by decide⟩
    · rw [if_neg (by omega), if_neg (by omega), hstale]
      exact ⟨_, rfl, by decide, by decide⟩

/-- An answer to a running session that is malformed, names another request, or is of the
challenge that waits with a newer generation. -/
def Foreign (s : Challenges) (answer : Answer) : Prop :=
  s.lifecycle.state = .running ∧ ∀ payload, answer.payload = some payload →
    answer.id ≠ s.requestId ∨ payload.identity answer.id ∉ s.consumed ∧
      ∃ c, s.current = some c ∧ payload.sequence = c.identity.sequence ∧
        older c.identity.clientGeneration payload.clientGeneration = true

theorem receiveAnswer_foreign {answer : Answer} (h : Foreign s answer) :
    s.receiveAnswer answer false = (.rejected, s.reject) := by
  obtain ⟨hrun, hpayload⟩ := h
  rw [receiveAnswer, if_neg (not_not.mpr hrun), if_neg (by decide)]
  cases hpay : answer.payload with
  | none => rfl
  | some payload =>
    dsimp only
    rcases hpayload payload hpay with hid | ⟨hnew, c, hc, hseq, hgen⟩
    · rw [if_pos hid]
    have hfuture : compareIdentity c.identity payload = .future := by
      have hold : ¬ older payload.clientGeneration c.identity.clientGeneration = true := by
        unfold older at *
        grind
      rw [compareIdentity, if_pos (older_ne hgen).symm, if_neg hold]
    simp [hc, hseq, hnew, hfuture]

/-- An accepted answer to a challenge for a query reserves that query. -/
theorem receiveAnswer_accepted (hc : s.current = some c) (hreserves : c.reservesQuery)
    (hacc : (s.receiveAnswer answer expired).1 = .accepted) :
    (s.receiveAnswer answer expired).2.answerReserved ∧
    (s.receiveAnswer answer expired).2.reservedIdentity = some c.identity := by
  revert hacc
  rw [receiveAnswer]
  simp only [hc, hreserves, if_true]
  repeat' split
  all_goals simp [resolveCurrent, rememberConsumed, hc]

/-- **Answers are exact.**  A challenge that was sent waits, or was resolved once; an
answer or a cancellation came from the answer to it; what comes late changes nothing,
and what is foreign ends the request; and a reserved query is continued by a challenge of
its identity only. -/
theorem answers_exact (requestId : Nat) (tty : Bool) (operations : List Operation) :
    let s := Challenges.run { requestId, tty } operations
    (∀ c, .sent c ∈ s.history →
      resolutions c.identity.sequence s.history = if s.current = some c then 0 else 1) ∧
    (∀ c status cause, .resolved c status cause ∈ s.history →
      .sent c ∈ s.history ∧ Justified c status cause) ∧
    (∀ answer payload, answer.payload = some payload → answer.id = s.requestId →
      Outdated s payload → Ignored s answer) ∧
    (∀ answer, Foreign s answer → s.receiveAnswer answer false = (.rejected, s.reject) ∧
      s.reject.current = none ∧ ∀ later, Silent (s.reject.run later)) ∧
    (∀ c answer expired, s.current = some c → c.reservesQuery = true →
      (s.receiveAnswer answer expired).1 = .accepted →
      (s.receiveAnswer answer expired).2.answerReserved = true ∧
      (s.receiveAnswer answer expired).2.reservedIdentity = some c.identity) ∧
    ∀ spec nonce expired c s', s.answerReserved = true →
      s.challenge spec nonce expired = (.sent c, s') →
      ∃ reserved, s.reservedIdentity = some reserved ∧
        c.identity.clientGeneration = reserved.clientGeneration ∧
        c.identity.authSequence = reserved.authSequence := by
  intro s
  have h : Ordered s := run_ordered requestId tty operations
  refine ⟨h.once, ?_, ?_, ?_, ?_, ?_⟩
  · intro c status cause hmem
    exact ⟨(h.made c status cause hmem).1, (h.made c status cause hmem).2.2⟩
  · exact fun _ _ hpay hid hold => receiveAnswer_outdated h hpay hid hold
  · refine fun answer hforeign => ⟨receiveAnswer_foreign hforeign, ?_, run_stopped (.inr ?_)⟩ <;>
      simp [Challenges.reject, withState]
  · exact fun _ _ _ hc hreserves hacc => receiveAnswer_accepted hc hreserves hacc
  · intro spec nonce expired c s' hres hsent
    rw [Challenges.challenge] at hsent
    grind [Challenges.continues]

/-- The answer to an earlier challenge, sent with the id of another request, ends this one. -/
theorem foreign_answer_rejected :
    let spec : ChallengeSpec := ⟨.password, some 5, some 7, false, true⟩
    let first : AnswerPayload :=
      ⟨"3f1c9a5e7b2d4860a1f7c3e95b8d2046", 1, some 5, some 7, some (.text "x")⟩
    let s := Challenges.run { requestId := 1, tty := true }
      [.challenge spec first.nonce false, .answer ⟨1, some first⟩ false, .take,
        .challenge spec "c07d5e1b93a84f26bd60e8f2174a9c35" false]
    s.current.isSome ∧ (s.receiveAnswer ⟨1, some first⟩ false).1 = .duplicateIgnored ∧
      (s.receiveAnswer ⟨2, some first⟩ false).1 = .rejected := by
  decide

end TgCli.Session
