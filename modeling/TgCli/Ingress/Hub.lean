/-
  TgCli.Ingress.Hub — ONE SUBSCRIBER SLOT OF THE STREAM HUB AND ITS THREADS

  `StreamIngressHub` (`stream_ingress.cpp`) hands the items of the receive thread
  to up to 32 subscribers.  A slot is a ring of descriptors and a ring of bytes,
  written by the receive thread and read by the slot's worker without a lock; other
  threads install the slot, claim its terminal cause and detach it.

  The slots do not share anything but the identity of the current generation, so
  the programs below are the source's, for one index.  Every access to the shared
  state is an atomic step of its own, in the order of the source; a retry loop
  around `compare_exchange_weak` is the step of its last round, since the rounds
  before it change nothing.

  The items come from the generation's observer (`stream_service.cpp`), which the
  receive loop (`td_client.cpp`) calls with numbered events.  Of its normalizer the
  model keeps the last sequence and the phase, which decide when a slot is activated;
  which items an update makes due is left open, up to their sequences.

  `log`, `queued`, `consumed` and `visited` are not part of the slot: they record the
  items that were published, queued, consumed and shown to the worker's visitor.  No
  program reads them.

  The receive thread and the worker of a slot share two pairs of tickets and two
  rings.  The receive thread only writes places behind the producer tickets, the
  worker only places before them, and neither moves the other's tickets
  (`PubStep`, `ConStep`); the other threads leave the queue alone and never reopen
  a slot (`CtlStep`).

  Main results:
    * `CtlStep.inv`, `CtlStep.pubRely`, `ConStep.pubRely`, `PubStep.toConRely` — no
      thread breaks what another one relies on;
    * `meets_claim` — a claim closes the slot, whoever makes it.
-/
import Mathlib.Data.List.Chain
import Mathlib.Algebra.Order.Ring.Nat
import TgCli.Lib.Threads
import TgCli.Lib.Slots

namespace TgCli.Ingress

open Lib Act List

/-! ## §1. Items. -/

def kStreamQueueItems : Nat := 1024

def kStreamQueueBytes : Nat := 8388608

def kStreamQueueItemBytes : Nat := 262144

def kStreamChatFilters : Nat := 64

/-- The largest `std::uint64_t`. -/
def kMaximumTicket : Nat := 18446744073709551615

inductive StreamEventClass where
  | message | edit | delete | reaction | chat
deriving DecidableEq, Repr

def streamEventMask : StreamEventClass → Nat
  | .message => 1
  | .edit => 2
  | .delete => 4
  | .reaction => 8
  | .chat => 16

inductive StreamSenderKind where
  | none | user | chat
deriving DecidableEq, Repr

/-- What the hub knows about an item without parsing it. -/
structure StreamRoutingSidecar where
  eventClass : StreamEventClass := .chat
  chatId : Int := 0
  senderKind : StreamSenderKind := .none
  senderId : Int := 0
  messageOffset : Nat := 0
  messageSize : Nat := 0
  textOffset : Nat := 0
  textSize : Nat := 0
deriving DecidableEq, Repr

/-- An item in two spans. -/
structure StreamItemView where
  first : List UInt8
  second : List UInt8
  receiveSequence : Nat
  routing : StreamRoutingSidecar := {}
deriving DecidableEq, Repr

namespace StreamItemView

def size (item : StreamItemView) : Nat := item.first.length + item.second.length

/-- The bytes of the item. -/
def bytes (item : StreamItemView) : List UInt8 := item.first ++ item.second

end StreamItemView

structure StreamIngressDescriptor where
  byteTicket : Nat := 0
  receiveSequence : Nat := 0
  jsonSize : Nat := 0
  routing : StreamRoutingSidecar := {}
deriving DecidableEq, Repr

/-- **What reaches a subscriber**: the sequence, the routing data with its offsets, the bytes. -/
structure Delivery where
  receiveSequence : Nat
  routing : StreamRoutingSidecar
  bytes : List UInt8
deriving DecidableEq, Repr

def StreamItemView.delivery (item : StreamItemView) : Delivery :=
  { receiveSequence := item.receiveSequence, routing := item.routing, bytes := item.bytes }

/-! ## §2. The slot. -/

inductive StreamOperation where
  | listen | waitFor
deriving DecidableEq, Repr

/-- `StreamIngressRequest`; `chatIds` are the first `chat_count` ids. -/
structure StreamIngressRequest where
  clientId : Int := 0
  generation : Nat := 0
  operation : StreamOperation := .listen
  typeMask : Nat := 0
  chatIds : List Int := []
deriving DecidableEq, Repr

def validRequest (request : StreamIngressRequest) : Prop :=
  0 < request.clientId ∧ request.generation ≠ 0 ∧ request.typeMask ≠ 0
    ∧ request.chatIds.length ≤ kStreamChatFilters ∧ request.chatIds.IsChain (· < ·)

instance (request : StreamIngressRequest) : Decidable (validRequest request) := by
  unfold validRequest
  infer_instance

structure PublishedIngressFilter where
  clientId : Int := 0
  generation : Nat := 0
  activationReceiveSequence : Nat := 0
  chatIds : List Int := []
  typeMask : Nat := 0
  operation : StreamOperation := .listen
deriving DecidableEq, Repr

/-- The part of `matches` on the projection; the chat ids are sorted, so the binary search
finds exactly the members. -/
def PublishedIngressFilter.wants (projection : PublishedIngressFilter) (item : StreamItemView) :
    Bool :=
  if projection.clientId ≤ 0 ∨ projection.generation = 0
      ∨ item.receiveSequence ≤ projection.activationReceiveSequence
      ∨ projection.typeMask &&& streamEventMask item.routing.eventClass = 0 then false
  else projection.chatIds.isEmpty || projection.chatIds.contains item.routing.chatId

inductive StreamIngressState where
  | free | reserved | armed | installing | published | removing | removed | reclaimable
deriving DecidableEq, Repr

inductive ActivationCommit where
  | opened | prepared | terminalClaiming | cancelled | promotionCommitted
deriving DecidableEq, Repr

/-- The causes that end a subscription. -/
inductive Cause where
  | counterExhausted | itemBytes | queueItems | queueBytes | historyOverlap | tdlibError
  | rateLimited | paginationInvalid | internal | authorizationLost | generationReplaced
  | shutdown | metadataFailure | plannedSuccess | deadline | disconnected
  | protocolAnswerInvalid
deriving DecidableEq, Repr

inductive StreamTerminalCause where
  | opened
  | claiming (cause : Cause)
  | ready (cause : Cause)
deriving DecidableEq, Repr

def claimingCause : StreamTerminalCause → StreamTerminalCause
  | .ready cause => .claiming cause
  | _ => .opened

structure StreamTerminalPayload where
  cause : StreamTerminalCause := .opened
  operation : StreamOperation := .listen
  queuedItems : Nat := 0
  queuedBytes : Nat := 0
  incomingBytes : Nat := 0
deriving DecidableEq, Repr

/-- An entry of the registries `dormant` and `published`. -/
inductive Pointer where
  | null | marker | slot
deriving DecidableEq, Repr

/-- `RetainedGenerationTerminal`. -/
structure Retained where
  clientId : Int := 0
  generation : Nat := 0
  cause : StreamTerminalCause := .opened
deriving DecidableEq, Repr

inductive NormalizerPhase where
  | empty | bootstrap | ready | failed
deriving DecidableEq, Repr

/-- What the receive thread keeps: the number of the client's last event, and the sequence
and the phase of the normalizer's status. -/
structure Reception where
  received : Nat := 0
  lastSequence : Nat := 0
  phase : NormalizerPhase := .empty
deriving DecidableEq, Repr

/-- `handle_event` numbers the events of all generations with one counter. -/
def Reception.next (r : Reception) : Reception := { r with received := r.received + 1 }

def Reception.fail (r : Reception) : Reception := { r with phase := .failed }

/-- `begin` of the normalizer. -/
def Reception.begin (r : Reception) : Reception := { r with lastSequence := 0, phase := .bootstrap }

/-- An event for `update` of the normalizer, and what `drain` then hands over.  `items` are the
candidates that are complete by then; there are none if the update is refused. -/
def Reception.update (r : Reception) (items : Nat → Option (List StreamItemView)) :
    Reception × List StreamItemView :=
  let r := r.next
  if r.phase = .failed ∨ r.phase = .empty then (r, [])
  else if r.received ≤ r.lastSequence then (r.fail, [])
  else match items r.received with
    | none => ({ r.fail with lastSequence := r.received }, [])
    | some due => ({ r with lastSequence := r.received }, if r.phase = .ready then due else [])

/-- An event for `current_state`, which the normalizer may refuse. -/
def Reception.currentState (r : Reception) (accepted : Bool) : Reception :=
  let r := r.next
  if r.phase ≠ .bootstrap then r
  else if accepted then { r with lastSequence := max r.lastSequence r.received, phase := .ready }
  else r.fail

/-- The slot, its entries in the registries, the hub's generation and the receive thread's
own state, which no other thread reads. -/
structure Hub where
  state : StreamIngressState := .free
  borrowEpoch : Nat := 0
  activeBorrows : Nat := 0
  publicationReady : Bool := false
  activation : ActivationCommit := .opened
  ownerClientId : Int := 0
  ownerGeneration : Nat := 0
  ownerOperation : StreamOperation := .listen
  staged : StreamIngressRequest := {}
  projection : PublishedIngressFilter := {}
  descriptors : Nat → StreamIngressDescriptor := fun _ => {}
  bytes : Nat → UInt8 := fun _ => 0
  descriptorProducer : Nat := 0
  descriptorConsumer : Nat := 0
  byteProducer : Nat := 0
  byteConsumer : Nat := 0
  terminal : StreamTerminalCause := .opened
  payload : StreamTerminalPayload := {}
  dormant : Pointer := .null
  published : Pointer := .null
  publisherCount : Nat := 0
  currentClientId : Int := 0
  currentGeneration : Nat := 0
  retained : Retained := {}
  reception : Reception := {}
  /-- the items passed to `publish` -/
  log : List StreamItemView := []
  /-- the items in the order of their descriptor tickets -/
  queued : List StreamItemView := []
  /-- what `visit_front` returned `Consumed` for -/
  consumed : List Delivery := []
  /-- what the visitor copied, with the ticket of its descriptor -/
  visited : List (Nat × Delivery) := []

/-- A byte of the byte ring written. -/
def Hub.setByte (s : Hub) (position : Nat) (byte : UInt8) : Hub :=
  { s with bytes := Function.update s.bytes position byte }

/-- A descriptor written. -/
def Hub.setDescriptor (s : Hub) (position : Nat) (descriptor : StreamIngressDescriptor) : Hub :=
  { s with descriptors := Function.update s.descriptors position descriptor }

/-- The stores of `reserve` to a slot it found free. -/
def Hub.reserveSlot (s : Hub) (request : StreamIngressRequest) : Hub :=
  { s with
    staged := request
    projection := {}
    descriptorProducer := 0, descriptorConsumer := 0, byteProducer := 0, byteConsumer := 0
    payload := {}
    terminal := .opened
    publicationReady := false
    activation := .opened
    ownerClientId := request.clientId
    ownerGeneration := request.generation
    ownerOperation := request.operation
    state := .reserved }

/-- `reserve`, when it comes to the slot.  The stores are one step: they are made under the
control mutex, and no other thread uses a slot that is free. -/
def reserve (request : StreamIngressRequest) : Act Hub Bool :=
  exchange (fun s => if validRequest request ∧ s.state = .free then s.reserveSlot request else s)
    fun s => decide (validRequest request ∧ s.state = .free)

/-- `valid` for the reservation of the epoch: its slot is not free before it ends. -/
def valid : Act Hub Bool := load fun s => decide (s.state ≠ .free)

/-! ## §3. Terminal causes. -/

/-- The first cause wins the terminal. -/
def claim (payload : StreamTerminalPayload) : Act Hub Bool :=
  if claimingCause payload.cause = .opened then pure false
  else do
    let activationClaimed ← exchange
      (fun s => if s.activation = .opened ∨ s.activation = .prepared
        then { s with activation := .terminalClaiming } else s)
      (fun s => decide (s.activation = .opened ∨ s.activation = .prepared))
    let won ← exchange
      (fun s => if s.terminal = .opened then { s with terminal := claimingCause payload.cause } else s)
      (fun s => decide (s.terminal = .opened))
    if won = false then do
      onlyIf (activationClaimed = true) (store fun s => { s with activation := .cancelled })
      pure false
    else do
      store fun s => { s with payload := payload }
      store fun s => { s with terminal := payload.cause }
      onlyIf (activationClaimed = true) (store fun s => { s with activation := .cancelled })
      pure true

/-- Ends the slot with what did not fit. -/
def overflow (cause : Cause) (queuedItems queuedBytes incoming : Nat) : Act Hub Unit := do
  let operation ← load fun s => s.projection.operation
  (claim { cause := .ready cause, operation := operation, queuedItems := queuedItems
           queuedBytes := queuedBytes, incomingBytes := incoming }).forget

/-! ## §4. The receive thread. -/

/-- `PublisherGuard` around a scan. -/
def guarded (scan : Act Hub Unit) : Act Hub Unit := do
  let previous ← exchange (fun s => { s with publisherCount := s.publisherCount + 1 })
    fun s => s.publisherCount
  if previous ≠ 0 then store fun s => { s with publisherCount := s.publisherCount - 1 }
  else do
    scan
    store fun s => { s with publisherCount := s.publisherCount - 1 }

/-- `std::memcpy` into the byte ring. -/
def writeBytes : Nat → List UInt8 → Act Hub Unit
  | _, [] => pure ()
  | destination, byte :: rest => do
      store fun s => s.setByte destination byte
      writeBytes (destination + 1) rest

/-- One source span: what fits before the end of the ring, and the rest from its start. -/
def copySpan (source : List UInt8) (destination remainingFirst sourceOffset : Nat) :
    Act Hub (Nat × Nat × Nat) := do
  let intoFirst := min remainingFirst source.length
  writeBytes destination (source.take intoFirst)
  writeBytes sourceOffset (source.drop intoFirst)
  pure (destination + intoFirst, remainingFirst - intoFirst,
    sourceOffset + (source.length - intoFirst))

/-- The write part of `enqueue`. -/
def writeItem (item : StreamItemView) (producer byteProducer : Nat) : Act Hub Unit := do
  let physical := byteProducer % kStreamQueueBytes
  let firstSize := min item.size (kStreamQueueBytes - physical)
  let (destination, remainingFirst, sourceOffset) ← copySpan item.first physical firstSize 0
  let _ ← copySpan item.second destination remainingFirst sourceOffset
  store fun s => s.setDescriptor (producer % kStreamQueueItems)
    { byteTicket := byteProducer, receiveSequence := item.receiveSequence
      jsonSize := item.size, routing := item.routing }
  store fun s => { s with byteProducer := byteProducer + item.size }
  store fun s => { s with descriptorProducer := producer + 1, queued := s.queued ++ [item] }

/-- Room for the item, its bytes, then the producer ticket. -/
def enqueue (item : StreamItemView) : Act Hub Unit := do
  let cause ← load fun s => s.terminal
  if cause ≠ .opened then pure ()
  else do
    let state ← load fun s => s.state
    if state ≠ .published then pure ()
    else do
      let projection ← load fun s => s.projection
      if projection.wants item = false then pure ()
      else do
        let producer ← load fun s => s.descriptorProducer
        let consumer ← load fun s => s.descriptorConsumer
        let byteProducer ← load fun s => s.byteProducer
        let byteConsumer ← load fun s => s.byteConsumer
        let queuedItems := producer - consumer
        let queuedBytes := byteProducer - byteConsumer
        if producer = kMaximumTicket ∨ kMaximumTicket - byteProducer < item.size then
          overflow .counterExhausted queuedItems queuedBytes item.size
        else if kStreamQueueItemBytes < item.size then
          overflow .itemBytes queuedItems queuedBytes item.size
        else if kStreamQueueItems ≤ queuedItems then
          overflow .queueItems queuedItems queuedBytes item.size
        else if kStreamQueueBytes - queuedBytes < item.size then
          overflow .queueBytes queuedItems queuedBytes item.size
        else writeItem item producer byteProducer

/-- An item for the slot, if it is registered. -/
def publish (item : StreamItemView) : Act Hub Unit := do
  store fun s => { s with log := s.log ++ [item] }
  guarded do
    let pointer ← load fun s => s.published
    if pointer = .slot then enqueue item else pure ()

/-- `compare_state_strong`. -/
def compareState (expected desired : StreamIngressState) : Act Hub Bool :=
  exchange (fun s => if s.state = expected then { s with state := desired } else s)
    fun s => decide (s.state = expected)

/-- The hub's generation is not another one, by one load of it. -/
def isCurrent (clientId : Int) (generation : Nat) : Act Hub Bool := do
  let current ← load fun s => s.currentGeneration
  if current = 0 then pure true
  else do
    let client ← load fun s => s.currentClientId
    pure (decide (client = clientId) && decide (current = generation))

/-- The second look at it, when the slot is installed. -/
def stillCurrent (clientId : Int) (generation : Nat) : Act Hub Bool := do
  let current ← load fun s => s.currentGeneration
  if current = 0 then pure true
  else do
    let client ← load fun s => s.currentClientId
    let again ← load fun s => s.currentGeneration
    pure (decide (client = clientId) && decide (again = generation))

/-- The part of `activate_armed` that fills the projection and publishes the slot. -/
def install (clientId : Int) (generation receiveSequence : Nat) : Act Hub Unit := do
  store fun s => { s with projection :=
    { clientId := clientId, generation := generation
      activationReceiveSequence := receiveSequence, chatIds := s.staged.chatIds
      typeMask := s.staged.typeMask, operation := s.staged.operation } }
  let observed ← load fun s => s.published
  let current ← stillCurrent clientId generation
  let cause ← load fun s => s.terminal
  let go ← test (observed = .marker ∧ current = true ∧ cause = .opened)
    (compareState .installing .published)
  if go = false then do
    store fun s => { s with published := .null }
    store fun s => { s with dormant := .null }
    store fun s => { s with state := .removed }
  else do
    let installed ← exchange
      (fun s => if s.published = .marker then { s with published := .slot } else s)
      fun s => decide (s.published = .marker)
    if installed = false then do
      store fun s => { s with publicationReady := false }
      store fun s => { s with state := .removed }
    else do
      store fun s => { s with publicationReady := true }
      store fun s => { s with dormant := .null }

/-- Registers the armed slot at a boundary. -/
def activateArmed (clientId : Int) (generation receiveSequence : Nat) (ready : Bool) :
    Act Hub Unit := do
  let current ← isCurrent clientId generation
  if ready = false ∨ current = false then pure ()
  else guarded do
    let pointer ← load fun s => s.dormant
    let staged ← load fun s => s.staged
    if pointer ≠ .slot ∨ staged.clientId ≠ clientId ∨ staged.generation ≠ generation then pure ()
    else do
      let marked ← exchange
        (fun s => if s.published = .null then { s with published := .marker } else s)
        fun s => decide (s.published = .null)
      if marked = false then pure ()
      else do
        let installing ← compareState .armed .installing
        if installing = false then store fun s => { s with published := .null }
        else install clientId generation receiveSequence

/-- `on_receive_boundary` of the generation's observer; `admission` is what it knows of the
authorization, and that no candidate is held back. -/
def onReceiveBoundary (clientId : Int) (generation receiveSequence : Nat) (admission : Bool) :
    Act Hub Unit := do
  let status ← load fun s => s.reception
  activateArmed clientId generation receiveSequence
    (admission && decide (status.phase = .ready ∧ status.lastSequence ≤ receiveSequence))

/-- The sink of `drain` gets the items one by one. -/
def publishAll : List StreamItemView → Act Hub Unit
  | [] => pure ()
  | item :: rest => do
      publish item
      publishAll rest

/-- A step on the receive thread's own state. -/
def receive (f : Reception → Reception) : Act Hub Unit :=
  store fun s => { s with reception := f s.reception }

/-- `on_update` of the generation's observer. -/
def onUpdate (items : Nat → Option (List StreamItemView)) : Act Hub Unit := do
  let due ← exchange (fun s => { s with reception := (s.reception.update items).1 })
    fun s => (s.reception.update items).2
  publishAll due

/-- `receive_claim_slots`, the pass over the owners. -/
def claimOwner (clientId : Int) (generation : Nat) (payload : StreamTerminalPayload)
    (matching : Bool) : Act Hub Unit := do
  let ownerClient ← load fun s => s.ownerClientId
  let ownerGeneration ← load fun s => s.ownerGeneration
  let state ← load fun s => s.state
  let operation ← load fun s => s.ownerOperation
  let same := decide (ownerClient = clientId ∧ ownerGeneration = generation)
  if ownerClient = 0 ∨ ownerGeneration = 0 ∨ same ≠ matching ∨ state = .free then pure ()
  else (claim { payload with operation := operation }).forget

/-- The pass over the registries. -/
def claimRegistered (clientId : Int) (generation : Nat) (payload : StreamTerminalPayload)
    (matching : Bool) : Act Hub Unit := do
  let staged ← load fun s => s.staged
  let same := decide (staged.clientId = clientId ∧ staged.generation = generation)
  let first ← load fun s => s.dormant
  onlyIf (first = .slot ∧ same = matching)
    (claim { payload with operation := staged.operation }).forget
  let second ← load fun s => s.published
  onlyIf (second = .slot ∧ second ≠ first ∧ same = matching)
    (claim { payload with operation := staged.operation }).forget

def receiveClaimSlots (clientId : Int) (generation : Nat) (payload : StreamTerminalPayload)
    (matching : Bool) : Act Hub Unit :=
  guarded do
    claimOwner clientId generation payload matching
    claimRegistered clientId generation payload matching

/-- Ends the slots of the generation before. -/
def beginGeneration (clientId : Int) (generation : Nat) : Act Hub Unit := do
  store fun s => { s with retained := { clientId := clientId, generation := generation } }
  store fun s => { s with currentClientId := clientId }
  store fun s => { s with currentGeneration := generation }
  receiveClaimSlots clientId generation { cause := .ready .generationReplaced } false

/-- A new `GenerationObserver`: the normalizer begins again. -/
def newGeneration (clientId : Int) (generation : Nat) : Act Hub Unit := do
  beginGeneration clientId generation
  receive (·.begin)

def Retained.publish (retained : Retained) (clientId : Int) (generation : Nat)
    (payload : StreamTerminalPayload) : Retained :=
  if payload.cause = .ready .protocolAnswerInvalid ∨ retained.clientId ≠ clientId
      ∨ retained.generation ≠ generation ∨ claimingCause payload.cause = .opened
      ∨ retained.cause ≠ .opened then retained
  else { retained with cause := payload.cause }

def Retained.snapshot (retained : Retained) (clientId : Int) (generation : Nat)
    (operation : StreamOperation) : Option StreamTerminalPayload :=
  if retained.cause = .opened ∨ retained.clientId ≠ clientId ∨ retained.generation ≠ generation
  then none
  else some { cause := retained.cause, operation := operation }

/-- Ends the slots of a generation. -/
def claimGeneration (clientId : Int) (generation : Nat) (payload : StreamTerminalPayload) :
    Act Hub Unit := do
  store fun s => { s with retained := s.retained.publish clientId generation payload }
  let retained ← load fun s => s.retained.snapshot clientId generation .listen
  match retained with
  | none => pure ()
  | some payload => receiveClaimSlots clientId generation payload true

/-! ## §5. The worker. -/

inductive StreamIngressFrontAction where
  | keep | consume
deriving DecidableEq, Repr

inductive StreamIngressFrontResult where
  | invalidReservation | empty | visited | consumed | invalidated
deriving DecidableEq, Repr

def kReclaimedPoison : UInt8 := 0xA7

/-- `poison` of a descriptor. -/
def poisoned : StreamIngressDescriptor where
  byteTicket := 0xA7A7A7A7A7A7A7A7
  receiveSequence := 0xA7A7A7A7A7A7A7A7
  jsonSize := 0xA7A7A7A7

/-- A copy out of a span of the byte ring. -/
def readBytes : Nat → Nat → Act Hub (List UInt8)
  | _, 0 => pure []
  | position, n + 1 => do
      let byte ← load fun s => s.bytes position
      let rest ← readBytes (position + 1) n
      pure (byte :: rest)

/-- `std::memset` on the byte ring. -/
def fillBytes : Nat → Nat → Act Hub Unit
  | _, 0 => pure ()
  | position, n + 1 => do
      store fun s => s.setByte position kReclaimedPoison
      fillBytes (position + 1) n

def advanceBorrowEpoch (expected desired : Nat) : Act Hub Bool :=
  exchange (fun s => if s.borrowEpoch = expected then { s with borrowEpoch := desired } else s)
    fun s => decide (s.borrowEpoch = expected)

/-- `StreamIngressFrontCursor::valid`. -/
def cursorValid (borrow : Nat) : Act Hub Bool := do
  let current ← load fun s => s.borrowEpoch
  let state ← load fun s => s.state
  pure (decide (current = borrow) && decide (borrow % 2 = 1) && decide (state = .published))

/-- The end of `visit_front` for an item that is consumed. -/
def consumeFront (consumer : Nat) (descriptor : StreamIngressDescriptor) (delivery : Delivery) :
    Act Hub StreamIngressFrontResult := do
  let currentConsumer ← load fun s => s.descriptorConsumer
  let currentProducer ← load fun s => s.descriptorProducer
  let front ← load fun s => s.descriptors (currentConsumer % kStreamQueueItems)
  if currentConsumer ≠ consumer ∨ currentConsumer = currentProducer
      ∨ front.byteTicket ≠ descriptor.byteTicket then pure .invalidated
  else do
    let physical := descriptor.byteTicket % kStreamQueueBytes
    let firstSize := min descriptor.jsonSize (kStreamQueueBytes - physical)
    fillBytes physical firstSize
    fillBytes 0 (descriptor.jsonSize - firstSize)
    store fun s => s.setDescriptor (currentConsumer % kStreamQueueItems) poisoned
    store fun s => { s with byteConsumer := descriptor.byteTicket + descriptor.jsonSize }
    store fun s => { s with descriptorConsumer := currentConsumer + 1
                            consumed := s.consumed ++ [delivery] }
    pure .consumed

/-- What the visitor gets: it copies both spans. -/
def visitItem (consumer : Nat) (descriptor : StreamIngressDescriptor) : Act Hub Delivery := do
  let physical := descriptor.byteTicket % kStreamQueueBytes
  let firstSize := min descriptor.jsonSize (kStreamQueueBytes - physical)
  let first ← readBytes physical firstSize
  let second ← readBytes 0 (descriptor.jsonSize - firstSize)
  let delivery : Delivery := { receiveSequence := descriptor.receiveSequence
                               routing := descriptor.routing, bytes := first ++ second }
  store fun s => { s with visited := s.visited ++ [(consumer, delivery)] }
  pure delivery

/-- `visit_front`, with a visitor that answers with this action. -/
def visitFront (action : StreamIngressFrontAction) : Act Hub StreamIngressFrontResult := do
  let held ← valid
  let state ← load fun s => s.state
  let cause ← load fun s => s.terminal
  if held = false then pure .invalidReservation
  else if state ≠ .published ∨ cause ≠ .opened then pure .empty
  else do
    let consumer ← load fun s => s.descriptorConsumer
    let producer ← load fun s => s.descriptorProducer
    if consumer = producer then pure .empty
    else do
      let borrow ← load fun s => s.borrowEpoch
      let taken ← exchange (fun s => if s.activeBorrows = 0 then { s with activeBorrows := 1 } else s)
        fun s => decide (s.activeBorrows = 0)
      if taken = false then pure .invalidated
      else do
        let advanced ← test (borrow % 2 = 0 ∧ borrow ≠ kMaximumTicket)
          (advanceBorrowEpoch borrow (borrow + 1))
        if advanced = false then do
          store fun s => { s with activeBorrows := 0 }
          pure .invalidated
        else do
          let descriptor ← load fun s => s.descriptors (consumer % kStreamQueueItems)
          let delivery ← visitItem consumer descriptor
          let retained ← cursorValid (borrow + 1)
          let _ ← advanceBorrowEpoch (borrow + 1) (borrow + 2)
          store fun s => { s with activeBorrows := 0 }
          if retained = false then pure .invalidated
          else if action = .keep then pure .visited
          else consumeFront consumer descriptor delivery

/-! ## §6. The control threads. -/

def invalidateBorrow : Act Hub Unit :=
  store fun s =>
    let increment := if s.borrowEpoch % 2 = 1 then 1 else 2
    if kMaximumTicket - increment < s.borrowEpoch then s
    else { s with borrowEpoch := s.borrowEpoch + increment }

/-- `detach`; the state of a slot always decodes. -/
def detach : Act Hub Bool := do
  let held ← valid
  if held = false then pure false
  else do
    let state ← exchange
      (fun s => if s.state = .armed ∨ s.state = .installing ∨ s.state = .published
        then { s with state := .removing } else s)
      fun s => s.state
    match state with
    | .armed | .installing | .published => do
        invalidateBorrow
        store fun s => { s with publicationReady := false }
        store fun s => { s with published := .null }
        store fun s => { s with dormant := .null }
        store fun s => { s with state := .removed }
        pure true
    | .reserved => pure false
    | .removed | .reclaimable => pure true
    | .removing => pure false
    | .free => do
        store fun s => { s with published := .null }
        store fun s => { s with dormant := .null }
        store fun s => { s with publicationReady := false }
        store fun s => { s with state := .removed }
        pure true

/-- `claim` with a reservation. -/
def claimReservation (payload : StreamTerminalPayload) : Act Hub Bool := do
  let held ← valid
  if held = false then pure false
  else claim payload

/-- `prepare_activation` after its claims. -/
def prepareUnclaimed (claimed : Bool) : Act Hub Bool := do
  let cause ← load fun s => s.terminal
  if claimed = true ∨ cause ≠ .opened then do
    store fun s => { s with state := .removed }
    pure false
  else do
    let prepared ← exchange
      (fun s => if s.activation = .opened then { s with activation := .prepared } else s)
      fun s => decide (s.activation = .opened)
    if prepared = false then do
      store fun s => { s with state := .removed }
      pure false
    else pure true

def prepareActivation : Act Hub Bool := do
  let held ← valid
  let state ← load fun s => s.state
  if held = false ∨ state ≠ .reserved then pure false
  else do
    let staged ← load fun s => s.staged
    let current ← isCurrent staged.clientId staged.generation
    onlyIf (current = false)
      (claim { cause := .ready .generationReplaced, operation := staged.operation }).forget
    let retained ← load fun s =>
      s.retained.snapshot staged.clientId staged.generation staged.operation
    onlyIf (retained.isSome = true) (claim (retained.getD {})).forget
    prepareUnclaimed (!current || retained.isSome)

def commitActivationPromotion : Act Hub Bool := do
  let held ← valid
  if held = false then pure false
  else
    exchange (fun s => if s.activation = .prepared
        then { s with activation := .promotionCommitted } else s)
      fun s => decide (s.activation = .prepared)

/-- `publish_prepared`; `std::terminate` ends the process. -/
def publishPrepared : Act Hub Unit := do
  let held ← valid
  let activation ← load fun s => s.activation
  if held = false ∨ activation ≠ .promotionCommitted then pure ()
  else do
    let armed ← compareState .reserved .armed
    if armed = false then pure ()
    else store fun s => { s with dormant := .slot }

def commitActivation : Act Hub Bool := do
  let prepared ← prepareActivation
  let promoted ← test (prepared = true) commitActivationPromotion
  if promoted = false then do
    let held ← valid
    onlyIf (held = true) (store fun s => { s with state := .removed })
    pure false
  else do
    publishPrepared
    pure true

def claimControlGeneration (clientId : Int) (generation : Nat) (payload : StreamTerminalPayload) :
    Act Hub Unit := do
  let ownerClient ← load fun s => s.ownerClientId
  let ownerGeneration ← load fun s => s.ownerGeneration
  let state ← load fun s => s.state
  if ownerClient ≠ clientId ∨ ownerGeneration ≠ generation ∨ state = .free then pure ()
  else do
    let operation ← load fun s => s.ownerOperation
    (claim { payload with operation := operation }).forget

/-- `abandon`, up to the transfer to the retired slots. -/
def abandon : Act Hub Unit := do
  let held ← valid
  let state ← load fun s => s.state
  if held = false then pure ()
  else if state = .reserved then
    exchange (fun s => if s.state = .reserved then { s with state := .removed } else s) fun _ => ()
  else detach.forget

/-! ## §7. The threads. -/

inductive Thread where
  | publisher
  | consumer
  | control (index : Nat)
deriving DecidableEq, Repr

/-- **The calls of each thread**, with the reservation of the epoch.  Reclamation is not among
them: it ends the epoch.  What the observer claims after a failed update is a call of its own. -/
inductive Calls : Thread → Act Hub Unit → Prop
  /-- an item carries the sequence of this update or of an earlier one -/
  | update (items : Nat → Option (List StreamItemView))
      (hitems : ∀ sequence, ∀ due ∈ items sequence, ∀ item ∈ due, item.receiveSequence ≤ sequence) :
      Calls .publisher (onUpdate items)
  | currentState (accepted : Bool) : Calls .publisher (receive (·.currentState accepted))
  | currentStateFailure : Calls .publisher (receive (·.fail))
  | otherEvent : Calls .publisher (receive (·.next))
  | boundary (clientId : Int) (generation receiveSequence : Nat) (admission : Bool) :
      Calls .publisher (onReceiveBoundary clientId generation receiveSequence admission)
  | newGeneration (clientId : Int) (generation : Nat) :
      Calls .publisher (newGeneration clientId generation)
  | claimGeneration (clientId : Int) (generation : Nat) (payload : StreamTerminalPayload) :
      Calls .publisher (claimGeneration clientId generation payload)
  | visitFront (action : StreamIngressFrontAction) : Calls .consumer (visitFront action).forget
  | reserve (index : Nat) (request : StreamIngressRequest) :
      Calls (.control index) (reserve request).forget
  | claim (index : Nat) (payload : StreamTerminalPayload) :
      Calls (.control index) (claimReservation payload).forget
  | claimControlGeneration (index : Nat) (clientId : Int) (generation : Nat)
      (payload : StreamTerminalPayload) :
      Calls (.control index) (claimControlGeneration clientId generation payload)
  | detach (index : Nat) : Calls (.control index) detach.forget
  | abandon (index : Nat) : Calls (.control index) abandon
  | prepareActivation (index : Nat) : Calls (.control index) prepareActivation.forget
  | commitActivationPromotion (index : Nat) :
      Calls (.control index) commitActivationPromotion.forget
  | publishPrepared (index : Nat) : Calls (.control index) publishPrepared
  | commitActivation (index : Nat) : Calls (.control index) commitActivation.forget

/-! ## §8. Where an item lies. -/

/-- The bytes of a list of items. -/
def total (items : List StreamItemView) : Nat := (items.map StreamItemView.size).sum

/-- The byte ticket of the item with this descriptor ticket. -/
def start (items : List StreamItemView) (j : Nat) : Nat := total (items.take j)

theorem total_append (l l' : List StreamItemView) : total (l ++ l') = total l + total l' := by
  simp [total]

variable {j : Nat} {s s' : Hub}

theorem start_succ
    (h : items[j]? = some item) : start items (j + 1) = start items j + item.size := by
  rw [start, take_add_one, total_append, h]
  simp [start, total]

theorem start_mono (items : List StreamItemView) (h : i ≤ j) : start items i ≤ start items j := by
  have hsplit := take_append_drop i (items.take j)
  rw [take_take, min_eq_left h] at hsplit
  rw [start, start, ← hsplit, total_append]
  omega

theorem start_le_total (items : List StreamItemView) (j : Nat) : start items j ≤ total items := by
  rw [start]
  conv_rhs => rw [← take_append_drop j items, total_append]
  omega

theorem start_append {items more : List StreamItemView} (h : j ≤ items.length) :
    start (items ++ more) j = start items j := by
  rw [start, start, take_append_of_le_length h]

/-- The descriptor of an item at a byte ticket. -/
def describe (ticket : Nat) (item : StreamItemView) : StreamIngressDescriptor :=
  { byteTicket := ticket, receiveSequence := item.receiveSequence, jsonSize := item.size
    routing := item.routing }

theorem length_bytes (item : StreamItemView) : item.bytes.length = item.size :=
  length_append

/-- The places of the item's bytes. -/
theorem front_places (hsize : size ≤ kStreamQueueBytes) :
    (∀ i, i < min size (kStreamQueueBytes - t % kStreamQueueBytes) →
        (t + i) % kStreamQueueBytes = t % kStreamQueueBytes + i)
      ∧ ∀ i, i < size - min size (kStreamQueueBytes - t % kStreamQueueBytes) →
        (t + (min size (kStreamQueueBytes - t % kStreamQueueBytes) + i)) % kStreamQueueBytes
          = i := by
  have hpos : 0 < kStreamQueueBytes := by decide
  have hplace : t % kStreamQueueBytes < kStreamQueueBytes := Nat.mod_lt _ hpos
  refine ⟨fun i hi => Ring.mod_add (by omega), fun i hi => ?_⟩
  rw [Ring.mod_add_wrap (by omega) (by omega)]
  omega

/-- The item lies in the rings where its tickets say. -/
structure Placed (s : Hub) (j : Nat) (item : StreamItemView) : Prop where
  descriptor : s.descriptors (j % kStreamQueueItems) = describe (start s.queued j) item
  bytes : Ring.Holds kStreamQueueBytes s.bytes (start s.queued j) item.bytes

/-- All items from this ticket on do. -/
def Ready (s : Hub) (low : Nat) : Prop :=
  ∀ j item, low ≤ j → s.queued[j]? = some item → Placed s j item

theorem Ready.congr (h : Ready s low) (hqd : s'.queued = s.queued)
    (hdescs : s'.descriptors = s.descriptors) (hbytes : s'.bytes = s.bytes) :
    Ready s' low := by
  intro j item hj hat
  rw [hqd] at hat
  obtain ⟨hdesc, hholds⟩ := h j item hj hat
  exact ⟨by rw [hdescs, hqd]; exact hdesc, by rw [hbytes, hqd]; exact hholds⟩

/-! ## §9. The invariant. -/

/-- How far a slot has come in its epoch. -/
def rank : StreamIngressState → Nat
  | .free => 0
  | .reserved => 1
  | .armed => 2
  | .installing => 3
  | .published => 4
  | .removing => 5
  | .removed => 6
  | .reclaimable => 6

/-- The slot is being detached, or is. -/
def Gone (s : Hub) : Prop := rank .removing ≤ rank s.state

/-- The slot was published. -/
def Started (s : Hub) : Prop := rank .published ≤ rank s.state

/-- The slot is reserved. -/
def Live (s : Hub) : Prop := rank .reserved ≤ rank s.state

/-- **Nothing more is queued.** -/
def Closed (s : Hub) : Prop := (Live s ∧ s.terminal ≠ .opened) ∨ Gone s

/-- A projection that wants nothing: of a slot that was not published in this epoch. -/
def Blank (projection : PublishedIngressFilter) : Prop := projection.wants = fun _ => false

/-- The client has given this number, and a normalizer that is ready has reached it. -/
def Reception.Covers (r : Reception) (sequence : Nat) : Prop :=
  sequence ≤ r.received ∧ (r.phase = .ready → sequence ≤ r.lastSequence)

def Numbered (s : Hub) : Prop := ∀ item ∈ s.log, s.reception.Covers item.receiveSequence

/-- **The invariant of a slot**: tickets, what was delivered, and the order of the queue. -/
structure Inv (s : Hub) : Prop where
  vacant : s.state = .free → Blank s.projection ∧ s.byteProducer = 0
  items : s.descriptorProducer = s.queued.length
  consumed_le : s.descriptorConsumer ≤ s.queued.length
  consumed : s.consumed = (s.queued.map StreamItemView.delivery).take s.descriptorConsumer
  produced : total s.queued ≤ s.byteProducer
  front : start s.queued s.descriptorConsumer ≤ s.byteConsumer
  behind : s.byteConsumer ≤ total s.queued
  itemRoom : s.descriptorProducer ≤ s.descriptorConsumer + kStreamQueueItems
  byteRoom : s.byteProducer ≤ s.byteConsumer + kStreamQueueBytes
  visited : ∀ visit ∈ s.visited, (s.queued.map StreamItemView.delivery)[visit.1]? = some visit.2
  inOrder : s.queued <+: s.log.filter s.projection.wants
  numbered : Numbered s

/-- What the invariant is about, unchanged. -/
structure SameCounts (s s' : Hub) : Prop where
  wants : s'.projection.wants = s.projection.wants
  descriptorProducer : s'.descriptorProducer = s.descriptorProducer
  descriptorConsumer : s'.descriptorConsumer = s.descriptorConsumer
  byteProducer : s'.byteProducer = s.byteProducer
  byteConsumer : s'.byteConsumer = s.byteConsumer
  log : s'.log = s.log
  queued : s'.queued = s.queued
  consumed : s'.consumed = s.consumed
  visited : s'.visited = s.visited
  reception : s'.reception = s.reception

theorem rank_pos_iff : 1 ≤ rank state ↔ state ≠ .free := by
  cases state <;> decide

/-- A slot does not become free. -/
theorem free_of_rank_le (h : rank state ≤ rank state')
    (hfree : state' = .free) : state = .free := by
  by_contra hne
  exact rank_pos_iff.mp (le_trans (rank_pos_iff.mpr hne) h) hfree

theorem Inv.of_same (h : Inv s) (hrank : rank s.state ≤ rank s'.state)
    (hsame : SameCounts s s' := by constructor <;> rfl) : Inv s' := by
  obtain ⟨h1, h2, h3, h4, h5, h6, h7, h8, h9, h10⟩ := hsame
  refine ⟨fun hfree => ?_, ?_, ?_, ?_, ?_, ?_, ?_, ?_, ?_, ?_, ?_, ?_⟩
  · obtain ⟨hblank, hbyte⟩ := h.vacant (free_of_rank_le hrank hfree)
    exact ⟨h1.trans hblank, h4.trans hbyte⟩
  · rw [h2, h7]; exact h.items
  · rw [h3, h7]; exact h.consumed_le
  · rw [h3, h7, h8]; exact h.consumed
  · rw [h4, h7]; exact h.produced
  · rw [h3, h5, h7]; exact h.front
  · rw [h5, h7]; exact h.behind
  · rw [h2, h3]; exact h.itemRoom
  · rw [h4, h5]; exact h.byteRoom
  · rw [h7, h9]; exact h.visited
  · rw [h1, h6, h7]; exact h.inOrder
  · unfold Numbered; rw [h6, h10]; exact h.numbered

/-! ## §10. What each thread does. -/

/-- What the worker relies on. -/
structure ConRely (s s' : Hub) : Prop where
  descriptorConsumer : s'.descriptorConsumer = s.descriptorConsumer
  byteConsumer : s'.byteConsumer = s.byteConsumer
  bytes : ∀ t, s.byteConsumer ≤ t → t < s.byteProducer →
    s'.bytes (t % kStreamQueueBytes) = s.bytes (t % kStreamQueueBytes)
  descriptors : ∀ j, s.descriptorConsumer ≤ j → j < s.descriptorProducer →
    s'.descriptors (j % kStreamQueueItems) = s.descriptors (j % kStreamQueueItems)
  queued : s'.queued = s.queued
    ∨ ∃ item, s'.queued = s.queued ++ [item] ∧ Placed s' s.queued.length item

/-- **A step of the receive thread** on the slot. -/
structure PubStep (s s' : Hub) : Prop extends ConRely s s' where
  inv : Inv s'
  rank_le : rank s.state ≤ rank s'.state
  reception : s'.reception = s.reception

/-- The receive thread numbers an event, or its normalizer moves. -/
def Receives (s s' : Hub) : Prop := Inv s' ∧ ∃ reception, s' = { s with reception := reception }

/-- What neither the worker nor another thread touches: the receive thread's part. -/
structure PubFrame (s s' : Hub) : Prop where
  wants : s'.projection.wants = s.projection.wants
  log : s'.log = s.log
  queued : s'.queued = s.queued
  descriptorProducer : s'.descriptorProducer = s.descriptorProducer
  byteProducer : s'.byteProducer = s.byteProducer
  publisherCount : s'.publisherCount = s.publisherCount
  reception : s'.reception = s.reception
  descriptorConsumer_le : s.descriptorConsumer ≤ s'.descriptorConsumer
  byteConsumer_le : s.byteConsumer ≤ s'.byteConsumer
  bytes : ∀ t, total s.queued ≤ t → t < s.byteConsumer + kStreamQueueBytes →
    s'.bytes (t % kStreamQueueBytes) = s.bytes (t % kStreamQueueBytes)
  descriptors : ∀ j, s.descriptorProducer ≤ j → j < s.descriptorConsumer + kStreamQueueItems →
    s'.descriptors (j % kStreamQueueItems) = s.descriptors (j % kStreamQueueItems)

/-- **A step of the worker.** -/
structure ConStep (s s' : Hub) : Prop extends PubFrame s s' where
  inv : Inv s'
  state : s'.state = s.state
  terminal : s'.terminal = s.terminal
  published : s'.published = s.published

/-- **A step of another thread.** -/
structure CtlStep (s s' : Hub) : Prop extends SameCounts s s' where
  bytes : s'.bytes = s.bytes
  descriptors : s'.descriptors = s.descriptors
  publisherCount : s'.publisherCount = s.publisherCount
  rank_le : rank s.state ≤ rank s'.state
  terminal : Live s → s.terminal ≠ .opened → s'.terminal ≠ .opened
  published : s'.published = s.published ∨ Gone s

theorem CtlStep.inv (h : CtlStep s s') (hinv : Inv s) : Inv s' :=
  hinv.of_same h.rank_le h.toSameCounts

/-- What the receive thread relies on. -/
structure PubRely (s s' : Hub) : Prop extends PubFrame s s' where
  rank_le : rank s.state ≤ rank s'.state
  terminal : Live s → s.terminal ≠ .opened → s'.terminal ≠ .opened
  published : s'.published = s.published ∨ Gone s

theorem ConStep.pubRely (h : ConStep s s') : PubRely s s' where
  __ := h
  rank_le := by rw [h.state]
  terminal := by rw [h.terminal]; exact fun _ => id
  published := .inl h.published

theorem CtlStep.pubRely (h : CtlStep s s') : PubRely s s' where
  __ := h
  descriptorConsumer_le := h.descriptorConsumer.ge
  byteConsumer_le := h.byteConsumer.ge
  bytes := fun _ _ _ => by rw [h.bytes]
  descriptors := fun _ _ _ => by rw [h.descriptors]

theorem Receives.conRely (h : Receives s s') : ConRely s s' := by
  obtain ⟨-, reception, rfl⟩ := h
  exact ⟨rfl, rfl, fun _ _ _ => rfl, fun _ _ _ => rfl, .inl rfl⟩

theorem CtlStep.conRely (h : CtlStep s s') : ConRely s s' :=
  ⟨h.descriptorConsumer, h.byteConsumer, fun _ _ _ => by rw [h.bytes],
    fun _ _ _ => by rw [h.descriptors], .inl h.queued⟩

/-- What the other threads rely on. -/
def CtlRely (s s' : Hub) : Prop := rank s.state ≤ rank s'.state

/-! ## §11. Steps that leave the queue alone. -/

/-- A step of the receive thread on the registries, the state and the terminal. -/
theorem pubStep_of_same (hinv : Inv s) (hrank : rank s.state ≤ rank s'.state)
    (hsame : SameCounts s s' := by constructor <;> rfl) (hbytes : s'.bytes = s.bytes := by rfl)
    (hdescs : s'.descriptors = s.descriptors := by rfl) : PubStep s s' where
  __ := hsame
  inv := hinv.of_same hrank hsame
  rank_le := hrank
  bytes := fun _ _ _ => by rw [hbytes]
  descriptors := fun _ _ _ => by rw [hdescs]
  queued := .inl hsame.queued

/-- Steps of `claim`. -/
def ClaimStep (s s' : Hub) : Prop :=
  ∃ activation terminal payload,
    s' = { s with activation := activation, terminal := terminal, payload := payload }
      ∧ (s.terminal ≠ .opened → terminal ≠ .opened)

theorem ClaimStep.ctl (h : ClaimStep s s') : CtlStep s s' := by
  obtain ⟨activation, terminal, payload, rfl, hterm⟩ := h
  exact ⟨⟨rfl, rfl, rfl, rfl, rfl, rfl, rfl, rfl, rfl, rfl⟩, rfl, rfl, rfl, le_rfl,
    fun _ => hterm, .inl rfl⟩

theorem CtlStep.pubStep (h : CtlStep s s') (hinv : Inv s) : PubStep s s' :=
  pubStep_of_same hinv h.rank_le h.toSameCounts h.bytes h.descriptors

theorem CtlStep.refl (s : Hub) : CtlStep s s :=
  ⟨⟨rfl, rfl, rfl, rfl, rfl, rfl, rfl, rfl, rfl, rfl⟩, rfl, rfl, rfl, le_rfl, fun _ => id,
    .inl rfl⟩

/-- **`claim` closes the slot**, whoever calls it; `T` is what the caller can keep of that. -/
theorem meets_claim {R G : Hub → Hub → Prop} {P T : Hub → Prop} (hP : Stable Inv R P)
    (hG : ∀ s s', Inv s → ClaimStep s s' → G s s')
    (hkeep : ∀ s s', P s → ClaimStep s s' → P s') (hT : Stable Inv R T)
    (hTkeep : ∀ s s', T s → ClaimStep s s' → T s')
    (hTclosed : ∀ s, P s → s.terminal ≠ .opened → T s)
    (payload : StreamTerminalPayload) :
    (claim payload).Meets Inv R G P
      (fun _ s => P s ∧ (claimingCause payload.cause ≠ .opened → T s)) := by
  have hcl : Stable Inv R fun s => P s ∧ T s := hP.and hT
  have hboth : ∀ s s', P s ∧ T s → ClaimStep s s' → P s' ∧ T s' :=
    fun s s' h hstep => ⟨hkeep s s' h.1 hstep, hTkeep s s' h.2 hstep⟩
  -- the last store of either branch
  have hcancel : ∀ claimed : Bool, (onlyIf (claimed = true)
      (store fun s : Hub => { s with activation := .cancelled })).Meets Inv R G
        (fun s => P s ∧ T s) fun _ s => P s ∧ T s := by
    intro claimed
    refine meets_onlyIf (fun _ => meets_last ?_ (fun _ => hcl) ?_) fun _ _ _ h => h
    · exact fun s hJ _ => hG s _ hJ ⟨_, _, _, rfl, id⟩
    · exact fun s _ h => hboth s _ h ⟨_, _, _, rfl, id⟩
  refine meets_ite (fun hopen => meets_done fun s _ h => ⟨h, fun hne => absurd hopen hne⟩) ?_
  intro hready
  have hactn : ∀ s : Hub, ClaimStep s (if s.activation = .opened ∨ s.activation = .prepared
      then { s with activation := .terminalClaiming } else s) := by
    intro s
    split
    · exact ⟨_, _, _, rfl, id⟩
    · exact ⟨_, _, _, rfl, id⟩
  have hterm : ∀ s : Hub, ClaimStep s (if s.terminal = .opened
      then { s with terminal := claimingCause payload.cause } else s) := by
    intro s
    split
    · rename_i hopn
      exact ⟨_, _, _, rfl, fun hne => absurd hopn hne⟩
    · exact ⟨_, _, _, rfl, id⟩
  refine meets_exchange (A := fun _ => P) (fun s hJ _ => hG s _ hJ (hactn s))
    (fun _ => hP) (fun s _ h => hkeep s _ h (hactn s)) fun claimed => ?_
  refine meets_exchange (A := fun _ s => P s ∧ T s) (fun s hJ _ => hG s _ hJ (hterm s))
    (fun _ => hcl) (fun s _ h => ⟨hkeep s _ h (hterm s), hTclosed _ (hkeep s _ h (hterm s)) ?_⟩)
    fun won => ?_
  · by_cases hopn : s.terminal = .opened
    · rw [if_pos hopn]
      exact hready
    · rw [if_neg hopn]
      exact hopn
  refine meets_ite (fun _ => meets_bind (hcancel claimed) fun _ => meets_done ?_) fun _ => ?_
  · exact fun s _ h => ⟨h.1, fun _ => h.2⟩
  have hcause : payload.cause ≠ .opened := by
    intro hcause
    rw [hcause] at hready
    exact hready rfl
  refine meets_store (A := fun s => P s ∧ T s) (fun s hJ _ => hG s _ hJ ⟨_, _, _, rfl, id⟩)
    hcl (fun s _ h => hboth s _ h ⟨_, _, _, rfl, id⟩) ?_
  refine meets_store (A := fun s => P s ∧ T s)
    (fun s hJ _ => hG s _ hJ ⟨_, _, _, rfl, fun _ => hcause⟩) hcl
    (fun s _ h => hboth s _ h ⟨_, _, _, rfl, fun _ => hcause⟩) ?_
  exact meets_bind (hcancel claimed) fun _ => meets_done fun s _ h => ⟨h.1, fun _ => h.2⟩

end TgCli.Ingress
