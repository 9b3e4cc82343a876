import Hypeterm.Relay.Terminal
import Hypeterm.Library.Runs

/-! The resident terminals, the checkpoint task and the database as one system.
Every action is one critical section of the source: a method under a handle's
lock, a transaction, or one step of `flush_once` under the flush lock. -/
namespace Hypeterm.Relay

open Library
open Db

/-- What the tasks of the relay do to one handle, each under its lock. -/
inductive HandleOp where
  | append (expectedOffset : Nat) (payload : Bytes) (capacity : Nat)
  | shrinkToCapacity (capacity : Nat)
  | resize (cols rows : Nat)
  | updateMetadata (label : Option String) (cols rows : Option Nat) (term : Option String)
  | nextInputSequence
  | subscribe (fromOffset : Option Nat) (chunkBytes queueMessages queueBytes : Nat)
  | unsubscribe (subscriberId : Nat)
  | beginClose (reason : String)
  | terminateSubscribers (termination : Termination)
  | receive (subscriberId : Nat)
  | release (subscriberId bytes : Nat)
  | dropReceiver (subscriberId : Nat)
  deriving DecidableEq

def Mailbox.receive (mailbox : Mailbox) : Mailbox :=
  match mailbox.channel.recv with
  | some (_, channel) => { mailbox with channel }
  | none => mailbox

/-- It then no longer counts the event's bytes as queued. -/
def Mailbox.release (mailbox : Mailbox) (bytes : Nat) : Mailbox :=
  { mailbox with queuedBytes := mailbox.queuedBytes - bytes }

def Mailbox.dropReceiver (mailbox : Mailbox) : Mailbox :=
  { mailbox with channel := mailbox.channel.closeReceiver }

namespace TerminalHandle

def updateMailbox (handle : TerminalHandle) (subscriberId : Nat) (f : Mailbox → Mailbox) :
    TerminalHandle :=
  { handle with
    mailboxes := Function.update handle.mailboxes subscriberId (f (handle.mailboxes subscriberId)) }

def apply (handle : TerminalHandle) : HandleOp → TerminalHandle
  | .append expectedOffset payload capacity => (handle.append expectedOffset payload capacity).1
  | .shrinkToCapacity capacity => handle.shrinkToCapacity capacity
  | .resize cols rows => (handle.resize cols rows).1
  | .updateMetadata label cols rows term => handle.updateMetadata label cols rows term
  | .nextInputSequence => handle.nextInputSequence.1
  | .subscribe fromOffset chunkBytes queueMessages queueBytes =>
      match handle.subscribe fromOffset chunkBytes queueMessages queueBytes with
      | .ok (subscribed, _) => subscribed
      | .error _ => handle
  | .unsubscribe subscriberId => handle.unsubscribe subscriberId
  | .beginClose reason => (handle.beginClose reason).1
  | .terminateSubscribers termination => handle.terminateSubscribers termination
  -- The mirror task receives an event and releases its bytes in two steps; an
  -- append may come between them and still see the bytes as queued.
  | .receive subscriberId => handle.updateMailbox subscriberId Mailbox.receive
  | .release subscriberId bytes =>
      handle.updateMailbox subscriberId fun mailbox => mailbox.release bytes
  | .dropReceiver subscriberId => handle.updateMailbox subscriberId Mailbox.dropReceiver

def acceptedBytes (handle : TerminalHandle) : HandleOp → Bytes
  | .append expectedOffset payload capacity =>
      match (handle.append expectedOffset payload capacity).2 with
      | .accepted _ _ => payload
      | _ => []
  | _ => []

end TerminalHandle

/-- A subscription as its mirror task received it, with the offset it asked for. -/
structure Subscribed where
  terminalId : Uuid
  requested : Nat
  subscription : Subscription

def TerminalHandle.subscribedBy (handle : TerminalHandle) : HandleOp → List Subscribed
  | .subscribe fromOffset chunkBytes queueMessages queueBytes =>
      match handle.subscribe fromOffset chunkBytes queueMessages queueBytes with
      | .ok (_, subscription) =>
          [⟨handle.terminalId, fromOffset.getD handle.inner.ring.earliestOffset, subscription⟩]
      | .error _ => []
  | _ => []

/-- Where the holder of the flush lock stands in `flush_once`. -/
inductive FlushPhase where
  | idle
  | taking (remaining : List Uuid) (pending : List PendingCheckpoint)
  | committing (pending : List PendingCheckpoint)
  | publishing (pending : List PendingCheckpoint)
  deriving DecidableEq

/-- `accepted` and `subscribed` are histories: no step reads them.  A crash cuts
the accepted bytes of a terminal to the committed ones, since the publisher
sends the rest again and may send other bytes. -/
structure System where
  store : Store
  terminals : List TerminalHandle
  flush : FlushPhase
  accepted : Uuid → Bytes
  subscribed : List Subscribed

def System.initial : System := ⟨Store.empty, [], .idle, fun _ => [], []⟩

def System.resident (system : System) (terminalId : Uuid) : Option TerminalHandle :=
  lookup TerminalHandle.terminalId terminalId system.terminals

inductive Action where
  | insertTerminal (terminalId deviceId : Uuid) (identityId localRef label : String)
      (cols rows : Option Nat) (term : Option String) (acceptsInput : Bool)
  | load (terminalId : Uuid) (capacity : Nat)
  | handle (terminalId : Uuid) (op : HandleOp)
  | flushBegin (order : List Uuid)
  | flushTake
  | flushCommit
  | flushFail (retry : Bool)
  | flushPublish
  | crash
  deriving DecidableEq

def PendingCheckpoint.toCheckpoint (pending : PendingCheckpoint) : TerminalCheckpoint where
  terminalId := pending.terminalId
  chunkStart := pending.chunkStart
  chunk := pending.chunk
  earliestOffset := pending.earliestOffset
  durableOffset := pending.durableTarget
  closeReason := pending.closeReason

namespace System

def insertTerminal (system : System) (terminalId deviceId : Uuid)
    (identityId localRef label : String) (cols rows : Option Nat) (term : Option String)
    (acceptsInput : Bool) : System :=
  match Db.insertTerminal system.store terminalId deviceId identityId localRef label cols rows term
      acceptsInput with
  | .ok (_, store) => { system with store }
  | .error _ => system

/-- `insert_or_load_handle`.  A terminal that is not resident has no checkpoint in
flight, so its row and its output are read in one step. -/
def load (system : System) (terminalId : Uuid) (capacity : Nat) : System :=
  match system.resident terminalId, getTerminal system.store terminalId with
  | none, some row =>
      match loadTerminalOutput system.store terminalId row.earliestOffset with
      | .ok retained =>
          { system with
            terminals := system.terminals ++ [TerminalHandle.fromRow row capacity retained] }
      | .error _ => system
  | _, _ => system

def applyOp (system : System) (handle : TerminalHandle) (op : HandleOp) : System :=
  { system with
    terminals := update TerminalHandle.terminalId handle.terminalId (fun stored => stored.apply op)
      system.terminals
    accepted := Function.update system.accepted handle.terminalId
      (system.accepted handle.terminalId ++ handle.acceptedBytes op)
    subscribed := system.subscribed ++ handle.subscribedBy op }

/-- The next handle in the task's list; one with nothing to do contributes nothing. -/
def takeNext (system : System) (terminalId : Uuid) (remaining : List Uuid)
    (pending : List PendingCheckpoint) : System :=
  let taken := (system.resident terminalId).bind TerminalHandle.takeCheckpoint
  { system with flush := .taking remaining (pending ++ taken.toList) }

def publish (system : System) (checkpoint : PendingCheckpoint)
    (rest : List PendingCheckpoint) : System :=
  { system with
    terminals := update TerminalHandle.terminalId checkpoint.terminalId
      (fun stored => stored.commitDurable checkpoint.durableTarget checkpoint.closeReason)
      system.terminals
    flush := .publishing rest }

def crash (system : System) : System :=
  { system with
    terminals := []
    flush := .idle
    accepted := fun terminalId =>
      match getTerminal system.store terminalId with
      | some row => (system.accepted terminalId).take row.durableOffset
      | none => system.accepted terminalId
    subscribed := [] }

end System

/-- One action.  A hash map yields its values in any order, so `flushBegin` carries
the order; a commit attempt fails, and is given up, when the label says so. -/
def step (system : System) : Action → Option System
  | .insertTerminal terminalId deviceId identityId localRef label cols rows term acceptsInput =>
      some (system.insertTerminal terminalId deviceId identityId localRef label cols rows term
        acceptsInput)
  | .load terminalId capacity => some (system.load terminalId capacity)
  | .handle terminalId op => (system.resident terminalId).map fun handle => system.applyOp handle op
  | .flushBegin order =>
      match system.flush with
      | .idle =>
          if order.Perm (system.terminals.map TerminalHandle.terminalId) then
            some { system with flush := .taking order [] }
          else none
      | _ => none
  | .flushTake =>
      match system.flush with
      | .taking (terminalId :: remaining) pending =>
          some (system.takeNext terminalId remaining pending)
      | .taking [] pending =>
          some { system with flush := if pending.isEmpty then .idle else .committing pending }
      | _ => none
  | .flushCommit =>
      match system.flush with
      | .committing pending =>
          match commitCheckpoints system.store (pending.map PendingCheckpoint.toCheckpoint) with
          | .ok store => some { system with store, flush := .publishing pending }
          | .error _ => some system
      | _ => none
  | .flushFail retry =>
      match system.flush with
      | .committing pending =>
          some { system with flush := if retry then .committing pending else .idle }
      | _ => none
  | .flushPublish =>
      match system.flush with
      | .publishing (checkpoint :: rest) => some (system.publish checkpoint rest)
      | .publishing [] => some { system with flush := .idle }
      | _ => none
  | .crash => some system.crash

section
variable (system : System) (terminalId deviceId : Uuid) (identityId localRef label : String)
    (cols rows : Option Nat) (term : Option String) (acceptsInput : Bool) (capacity : Nat)

@[simp] theorem terminals_insertTerminal :
    (system.insertTerminal terminalId deviceId identityId localRef label cols rows term
      acceptsInput).terminals = system.terminals := by
  unfold System.insertTerminal
  split <;> rfl

@[simp] theorem flush_insertTerminal :
    (system.insertTerminal terminalId deviceId identityId localRef label cols rows term
      acceptsInput).flush = system.flush := by
  unfold System.insertTerminal
  split <;> rfl

@[simp] theorem flush_load : (system.load terminalId capacity).flush = system.flush := by
  unfold System.load
  split
  · split <;> rfl
  · rfl

@[simp] theorem store_load : (system.load terminalId capacity).store = system.store := by
  unfold System.load
  split
  · split <;> rfl
  · rfl

end

inductive Stepped (system : System) : Action → System → Prop where
  | inserts (terminalId deviceId : Uuid) (identityId localRef label : String)
      (cols rows : Option Nat) (term : Option String) (acceptsInput : Bool) :
      Stepped system
        (.insertTerminal terminalId deviceId identityId localRef label cols rows term acceptsInput)
        (system.insertTerminal terminalId deviceId identityId localRef label cols rows term
          acceptsInput)
  | loads (terminalId : Uuid) (capacity : Nat) :
      Stepped system (.load terminalId capacity) (system.load terminalId capacity)
  | applies (terminalId : Uuid) (op : HandleOp) (handle : TerminalHandle)
      (found : system.resident terminalId = some handle) :
      Stepped system (.handle terminalId op) (system.applyOp handle op)
  | begins (order : List Uuid) (idle : system.flush = .idle)
      (complete : order.Perm (system.terminals.map TerminalHandle.terminalId)) :
      Stepped system (.flushBegin order) { system with flush := .taking order [] }
  | takes (terminalId : Uuid) (remaining : List Uuid) (pending : List PendingCheckpoint)
      (taking : system.flush = .taking (terminalId :: remaining) pending) :
      Stepped system .flushTake (system.takeNext terminalId remaining pending)
  | took (pending : List PendingCheckpoint) (taking : system.flush = .taking [] pending) :
      Stepped system .flushTake
        { system with flush := if pending.isEmpty then .idle else .committing pending }
  | commits (pending : List PendingCheckpoint) (store : Store)
      (committing : system.flush = .committing pending)
      (committed : commitCheckpoints system.store (pending.map PendingCheckpoint.toCheckpoint) =
        .ok store) :
      Stepped system .flushCommit { system with store, flush := .publishing pending }
  | refuses (pending : List PendingCheckpoint) (error : ApiError)
      (committing : system.flush = .committing pending)
      (refused : commitCheckpoints system.store (pending.map PendingCheckpoint.toCheckpoint) =
        .error error) :
      Stepped system .flushCommit system
  | fails (retry : Bool) (pending : List PendingCheckpoint)
      (committing : system.flush = .committing pending) :
      Stepped system (.flushFail retry)
        { system with flush := if retry then .committing pending else .idle }
  | publishes (checkpoint : PendingCheckpoint) (rest : List PendingCheckpoint)
      (publishing : system.flush = .publishing (checkpoint :: rest)) :
      Stepped system .flushPublish (system.publish checkpoint rest)
  | published (publishing : system.flush = .publishing []) :
      Stepped system .flushPublish { system with flush := .idle }
  | crashes : Stepped system .crash system.crash

theorem step_stepped {system next : System} {action : Action}
    (taken : step system action = some next) : Stepped system action next := by
  cases action with
  | insertTerminal =>
    cases taken
    exact .inserts ..
  | load =>
    cases taken
    exact .loads ..
  | handle terminalId op =>
    obtain ⟨handle, found, rfl⟩ := Option.map_eq_some_iff.mp taken
    exact .applies terminalId op handle found
  | flushBegin order =>
    simp only [step] at taken
    split at taken
    · rename_i hidle
      split at taken
      · rename_i hcomplete
        cases taken
        exact .begins order hidle hcomplete
      · cases taken
    · cases taken
  | flushTake =>
    simp only [step] at taken
    split at taken
    · rename_i htaking
      cases taken
      exact .takes _ _ _ htaking
    · rename_i htaking
      cases taken
      exact .took _ htaking
    · cases taken
  | flushCommit =>
    simp only [step] at taken
    split at taken
    · rename_i hcommitting
      split at taken
      · rename_i hcommitted
        cases taken
        exact .commits _ _ hcommitting hcommitted
      · rename_i hrefused
        cases taken
        exact .refuses _ _ hcommitting hrefused
    · cases taken
  | flushFail retry =>
    simp only [step] at taken
    split at taken
    · rename_i hcommitting
      cases taken
      exact .fails retry _ hcommitting
    · cases taken
  | flushPublish =>
    simp only [step] at taken
    split at taken
    · rename_i hpublishing
      cases taken
      exact .publishes _ _ hpublishing
    · rename_i hpublishing
      cases taken
      exact .published hpublishing
    · cases taken
  | crash =>
    cases taken
    exact .crashes

end Hypeterm.Relay
