import Hypeterm.Relay.Ring
import Hypeterm.Db.Output
import Hypeterm.Library.Channel

/-! In-memory terminal state: the replay ring, the offset trio and subscriber
fan-out.  Everything a method does under the handle's lock is one function
here, so a subscriber sees the state before an append or the state after it. -/
namespace Hypeterm.Relay

open Library
open Db (TerminalRow TerminalCheckpoint)

inductive Lifecycle where
  | opened
  | closing (reason : String)
  | closed (reason : String)
  deriving DecidableEq

def Lifecycle.asState : Lifecycle → TerminalState
  | .opened | .closing _ => .opened
  | .closed _ => .closed

/-- The reason a checkpoint must commit with the terminal's last bytes. -/
def Lifecycle.closeReason : Lifecycle → Option String
  | .closing reason => some reason
  | .opened | .closed _ => none

/-- An event delivered to one mirror subscriber, in stream order. -/
inductive MirrorEvent where
  | output (startOffset : Nat) (payload : Bytes)
  | durable (durableOffset : Nat)
  | resize (cols rows : Nat)
  | closed (reason : String) (nextOffset durableOffset : Nat)

def MirrorEvent.queueCost : MirrorEvent → Nat
  | .output _ payload => payload.length
  | _ => 0

structure Termination where
  closeCode : Nat
  errorCode : String
  message : String
  deriving DecidableEq

def Termination.slowConsumer : Termination where
  closeCode := 4003
  errorCode := "slow_consumer"
  message := "subscriber exceeded its outbound queue bound; reconnect from the last processed offset"

def Termination.serverShutdown : Termination where
  closeCode := 4007
  errorCode := "server_shutdown"
  message := "server is shutting down; reconnect and resume from the last processed offset"

def Termination.revoked : Termination where
  closeCode := 4006
  errorCode := "revoked"
  message := "credential was revoked"

/-- What a subscriber and its mirror task share: the event channel, the count of
queued bytes and the out-of-band signal.  It outlives the subscriber's removal
from the fan-out list, since the task still drains what was queued. -/
structure Mailbox where
  channel : Channel MirrorEvent
  queuedBytes : Nat
  overflowed : Bool
  terminate : Option Termination

def Mailbox.new (queueMessages : Nat) : Mailbox :=
  ⟨Channel.new queueMessages, 0, false, none⟩

structure Subscriber where
  id : Nat
  maxQueuedBytes : Nat

structure TerminalInner where
  ring : Ring
  nextOffset : Nat
  durableOffset : Nat
  framesSinceCheckpoint : Nat
  lifecycle : Lifecycle
  label : String
  cols : Option Nat
  rows : Option Nat
  term : Option String
  acceptsInput : Bool
  nextInputSequence : Nat
  subscribers : List Subscriber
  nextSubscriberId : Nat
  retired : Bool

/-- `mailboxes` is indexed by subscriber id; ids are never reused. -/
structure TerminalHandle where
  terminalId : Uuid
  deviceId : Uuid
  identityId : String
  localRef : String
  inner : TerminalInner
  mailboxes : Nat → Mailbox

structure Offsets where
  earliestOffset : Nat
  nextOffset : Nat
  durableOffset : Nat
  deriving DecidableEq

inductive AppendOutcome where
  | accepted (nextOffset durableOffset : Nat)
  | offsetMismatch (nextOffset durableOffset : Nat)
  | notOpen
  deriving DecidableEq

structure Subscription where
  subscriberId : Nat
  replay : List (Nat × Bytes)
  replayStartOffset : Nat
  offsets : Offsets
  gap : Option (Nat × Nat)
  lifecycle : Lifecycle
  label : String
  cols : Option Nat
  rows : Option Nat
  term : Option String

inductive SubscribeError where
  | offsetAhead (nextOffset durableOffset : Nat)

/-- Work handed to the checkpoint task for one terminal. -/
structure PendingCheckpoint where
  terminalId : Uuid
  chunkStart : Nat
  chunk : Bytes
  earliestOffset : Nat
  durableTarget : Nat
  closeReason : Option String
  frames : Nat
  deriving DecidableEq

namespace TerminalHandle

/-- Rebuild from durable state.  `nextOffset` starts at the durable offset, so
bytes relayed live but never committed are retransmitted by the publisher. -/
def fromRow (row : TerminalRow) (capacity : Nat) (retained : Bytes) : TerminalHandle :=
  let ring := Ring.fromRetained capacity row.earliestOffset retained
  { terminalId := row.terminalId
    deviceId := row.deviceId
    identityId := row.identityId
    localRef := row.localRef
    inner :=
      { ring := ring
        nextOffset := max ring.endOffset row.durableOffset
        durableOffset := row.durableOffset
        framesSinceCheckpoint := 0
        lifecycle :=
          match row.state with
          | .opened => .opened
          | .closed => .closed (row.closeReason.getD "closed")
        label := row.label
        cols := row.cols
        rows := row.rows
        term := row.term
        acceptsInput := row.acceptsInput
        nextInputSequence := 1
        subscribers := []
        nextSubscriberId := 1
        retired := false }
    mailboxes := fun _ => Mailbox.new 0 }

def newOpen (row : TerminalRow) (capacity : Nat) : TerminalHandle := fromRow row capacity []

def offsets (handle : TerminalHandle) : Offsets :=
  ⟨handle.inner.ring.earliestOffset, handle.inner.nextOffset, handle.inner.durableOffset⟩

def dirtyBytes (handle : TerminalHandle) : Nat :=
  handle.inner.nextOffset - handle.inner.durableOffset

def subscriberCount (handle : TerminalHandle) : Nat := handle.inner.subscribers.length

def nextInputSequence (handle : TerminalHandle) : TerminalHandle × Nat :=
  ({ handle with
     inner := { handle.inner with nextInputSequence := handle.inner.nextInputSequence + 1 } },
   handle.inner.nextInputSequence)

def updateMetadata (handle : TerminalHandle) (label : Option String) (cols rows : Option Nat)
    (term : Option String) : TerminalHandle :=
  { handle with
    inner := { handle.inner with
      label := label.getD handle.inner.label
      cols := cols.or handle.inner.cols
      rows := rows.or handle.inner.rows
      term := term.or handle.inner.term } }

end TerminalHandle

/-- Queue one event to one subscriber.  The second component says that the
subscriber is to be dropped: over its byte bound, its channel full, or its
receiver gone. -/
def offer (event : MirrorEvent) (subscriber : Subscriber) (mailbox : Mailbox) : Mailbox × Bool :=
  let cost := event.queueCost
  if subscriber.maxQueuedBytes < mailbox.queuedBytes + cost then
    ({ mailbox with overflowed := true }, true)
  else
    match mailbox.channel.trySend event with
    | .ok channel => ({ mailbox with channel, queuedBytes := mailbox.queuedBytes + cost }, false)
    | .full => ({ mailbox with overflowed := true }, true)
    | .closed => (mailbox, true)

/-- The fan-out loop: the mailboxes after it and the ids it drops. -/
def offerAll (event : MirrorEvent) :
    List Subscriber → (Nat → Mailbox) → (Nat → Mailbox) × List Nat
  | [], mailboxes => (mailboxes, [])
  | subscriber :: rest, mailboxes =>
      let offered := offer event subscriber (mailboxes subscriber.id)
      let swept := offerAll event rest (Function.update mailboxes subscriber.id offered.1)
      (swept.1, if offered.2 then subscriber.id :: swept.2 else swept.2)

namespace TerminalHandle

/-- Queue an event to every subscriber, dropping any that exceeded its bound. -/
def fanOut (handle : TerminalHandle) (event : MirrorEvent) : TerminalHandle :=
  let swept := offerAll event handle.inner.subscribers handle.mailboxes
  { handle with
    inner := { handle.inner with
      subscribers := handle.inner.subscribers.filter fun subscriber =>
        !swept.2.contains subscriber.id }
    mailboxes := swept.1 }

/-- The accepted part of an append: the payload enters the ring, the offset moves
and the frame is fanned out in the same critical section. -/
def accept (handle : TerminalHandle) (payload : Bytes) (capacity : Nat) : TerminalHandle :=
  let inner := handle.inner
  let grown : TerminalHandle :=
    { handle with
      inner := { inner with
        ring := ((inner.ring.setCapacity capacity).1.append payload).1
        nextOffset := inner.nextOffset + payload.length
        framesSinceCheckpoint := inner.framesSinceCheckpoint + 1 } }
  grown.fanOut (.output inner.nextOffset payload)

/-- Append one output frame.  `capacity` comes from the caller's settings
snapshot, so a capacity change takes effect here. -/
def append (handle : TerminalHandle) (expectedOffset : Nat) (payload : Bytes) (capacity : Nat) :
    TerminalHandle × AppendOutcome :=
  let inner := handle.inner
  if inner.lifecycle ≠ .opened then (handle, .notOpen)
  else if expectedOffset ≠ inner.nextOffset then
    (handle, .offsetMismatch inner.nextOffset inner.durableOffset)
  else if payload.isEmpty then
    ({ handle with inner := { inner with ring := (inner.ring.setCapacity capacity).1 } },
      .accepted inner.nextOffset inner.durableOffset)
  else
    (handle.accept payload capacity,
      .accepted (inner.nextOffset + payload.length) inner.durableOffset)

def resize (handle : TerminalHandle) (cols rows : Nat) : TerminalHandle × Bool :=
  if handle.inner.lifecycle ≠ .opened then (handle, false)
  else
    let sized : TerminalHandle :=
      { handle with inner := { handle.inner with cols := some cols, rows := some rows } }
    (sized.fanOut (.resize cols rows), true)

end TerminalHandle

/-- The replay loop: chunks of at most `chunkBytes` from `cursor` up to `next`,
stopping early at a range the ring no longer holds.  `fuel` bounds the number
of chunks; `next` of them always suffice. -/
def replayChunks (ring : Ring) (chunkBytes next : Nat) : Nat → Nat → List (Nat × Bytes)
  | 0, _ => []
  | fuel + 1, cursor =>
      if cursor < next then
        let stop := min (cursor + chunkBytes) next
        match ring.readRange cursor stop with
        | some bytes => (cursor, bytes) :: replayChunks ring chunkBytes next fuel stop
        | none => []
      else []

namespace TerminalHandle

/-- Register a subscriber and capture its replay range in one critical section. -/
def subscribe (handle : TerminalHandle) (fromOffset : Option Nat)
    (chunkBytes queueMessages queueBytes : Nat) :
    Except SubscribeError (TerminalHandle × Subscription) :=
  let inner := handle.inner
  let earliest := inner.ring.earliestOffset
  let requested := fromOffset.getD earliest
  if inner.nextOffset < requested then
    .error (.offsetAhead inner.nextOffset inner.durableOffset)
  else
    let replayStart := if requested < earliest then earliest else requested
    let gap := if requested < earliest then some (requested, earliest) else none
    let subscriberId := inner.nextSubscriberId
    .ok
      ({ handle with
         inner := { inner with
           subscribers := inner.subscribers ++ [⟨subscriberId, queueBytes⟩]
           nextSubscriberId := subscriberId + 1 }
         mailboxes := Function.update handle.mailboxes subscriberId (Mailbox.new queueMessages) },
       { subscriberId := subscriberId
         replay := replayChunks inner.ring (max chunkBytes 1) inner.nextOffset inner.nextOffset
           replayStart
         replayStartOffset := replayStart
         offsets := handle.offsets
         gap := gap
         lifecycle := inner.lifecycle
         label := inner.label
         cols := inner.cols
         rows := inner.rows
         term := inner.term })

def unsubscribe (handle : TerminalHandle) (subscriberId : Nat) : TerminalHandle :=
  { handle with
    inner := { handle.inner with
      subscribers := handle.inner.subscribers.filter fun subscriber =>
        subscriber.id ≠ subscriberId } }

def beginClose (handle : TerminalHandle) (reason : String) : TerminalHandle × Bool :=
  if handle.inner.lifecycle ≠ .opened then (handle, false)
  else ({ handle with inner := { handle.inner with lifecycle := .closing reason } }, true)

/-- Snapshot the work a checkpoint must commit: the dirty range intersected with
what is still retained, since an oversized frame can push the earliest offset
past the durable one. -/
def takeCheckpoint (handle : TerminalHandle) : Option PendingCheckpoint :=
  let inner := handle.inner
  if inner.nextOffset ≤ inner.durableOffset ∧ inner.lifecycle.closeReason.isNone then none
  else
    let lo := max inner.durableOffset inner.ring.earliestOffset
    let hi := inner.nextOffset
    some
      { terminalId := handle.terminalId
        chunkStart := lo
        chunk := if lo < hi then (inner.ring.readRange lo hi).getD [] else []
        earliestOffset := inner.ring.earliestOffset
        durableTarget := hi
        closeReason := inner.lifecycle.closeReason
        frames := inner.framesSinceCheckpoint }

def advanceDurable (handle : TerminalHandle) (durableTarget : Nat) : TerminalHandle :=
  let advanced : TerminalHandle :=
    if handle.inner.durableOffset < durableTarget then
      ({ handle with inner := { handle.inner with durableOffset := durableTarget } }
        : TerminalHandle).fanOut (.durable durableTarget)
    else handle
  { advanced with inner := { advanced.inner with framesSinceCheckpoint := 0 } }

/-- Publish a committed checkpoint.  Subscribers learn of a close only here,
after every accepted byte was queued ahead of it and committed. -/
def commitDurable (handle : TerminalHandle) (durableTarget : Nat) (closed : Option String) :
    TerminalHandle :=
  let advanced := handle.advanceDurable durableTarget
  match closed with
  | none => advanced
  | some reason =>
      let marked : TerminalHandle :=
        { advanced with inner := { advanced.inner with lifecycle := .closed reason } }
      let told := marked.fanOut
        (.closed reason marked.inner.nextOffset marked.inner.durableOffset)
      { told with inner := { told.inner with retired := true } }

/-- Drop every subscriber with an out-of-band reason. -/
def terminateSubscribers (handle : TerminalHandle) (termination : Termination) : TerminalHandle :=
  { handle with
    inner := { handle.inner with subscribers := [] }
    mailboxes := fun id =>
      if handle.inner.subscribers.any fun subscriber => subscriber.id = id then
        { handle.mailboxes id with terminate := some termination }
      else handle.mailboxes id }

/-- Apply a reduced replay capacity immediately; a larger one waits for the next
append. -/
def shrinkToCapacity (handle : TerminalHandle) (capacity : Nat) : TerminalHandle :=
  if handle.inner.ring.capacity ≤ capacity then handle
  else
    { handle with
      inner := { handle.inner with ring := (handle.inner.ring.setCapacity capacity).1 } }

end TerminalHandle

end Hypeterm.Relay
