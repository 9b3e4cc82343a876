import Mathlib.Data.List.Basic

/-! Bounded multi-producer channels and watched values, with the behaviour their
runtime documents: a refused send leaves the channel as it was, closing the
receiver refuses every later send, and a value sent to a watch without a
receiver is not kept. -/
namespace Hypeterm.Library

variable {α : Type*}

/-- A bounded channel.  `sent` is the history of everything that ever entered
the queue; the queue itself is the part of it not yet received. -/
structure Channel (α : Type*) where
  capacity : Nat
  queue : List α
  receiverAlive : Bool
  senderAlive : Bool
  sent : List α
  deriving DecidableEq

def Channel.new (capacity : Nat) : Channel α :=
  ⟨max capacity 1, [], true, true, []⟩

inductive SendResult (α : Type*) where
  | ok (channel : Channel α)
  | full
  | closed

def Channel.trySend (channel : Channel α) (value : α) : SendResult α :=
  if !channel.receiverAlive then .closed
  else if channel.capacity ≤ channel.queue.length then .full
  else .ok { channel with queue := channel.queue ++ [value], sent := channel.sent ++ [value] }

/-- Take the oldest queued value.  An empty queue yields nothing: the receiver
then waits, or learns that every sender is gone. -/
def Channel.recv (channel : Channel α) : Option (α × Channel α) :=
  match channel.queue with
  | [] => none
  | value :: rest => some (value, { channel with queue := rest })

def Channel.closeReceiver (channel : Channel α) : Channel α :=
  { channel with receiverAlive := false, queue := [] }

def Channel.closeSender (channel : Channel α) : Channel α :=
  { channel with senderAlive := false }

theorem Channel.trySend_ok {channel sent : Channel α} {value : α}
    (ok : channel.trySend value = .ok sent) :
    channel.receiverAlive = true ∧ channel.queue.length < channel.capacity ∧
      sent = { channel with queue := channel.queue ++ [value], sent := channel.sent ++ [value] } := by
  unfold Channel.trySend at ok
  split at ok
  · cases ok
  · rename_i halive
    split at ok
    · cases ok
    · rename_i hroom
      refine ⟨by simpa using halive, Nat.lt_of_not_le hroom, ?_⟩
      cases ok
      rfl

@[simp] theorem Channel.sent_recv {channel rest : Channel α} {value : α}
    (received : channel.recv = some (value, rest)) : rest.sent = channel.sent := by
  unfold Channel.recv at received
  split at received
  · cases received
  · cases received
    rfl

theorem Channel.senderAlive_recv {channel rest : Channel α} {value : α}
    (received : channel.recv = some (value, rest)) : rest.senderAlive = channel.senderAlive := by
  unfold Channel.recv at received
  split at received
  · cases received
  · cases received
    rfl

/-- A watched value: the latest one published, and how many receivers there are. -/
structure Watch (α : Type*) where
  value : Option α
  receivers : Nat
  senderAlive : Bool

def Watch.new : Watch α := ⟨none, 1, true⟩

def Watch.subscribe (watch : Watch α) : Watch α :=
  { watch with receivers := watch.receivers + 1 }

/-- Publishing fails, and changes nothing, when every receiver has been dropped. -/
def Watch.send (watch : Watch α) (value : α) : Watch α :=
  if watch.receivers = 0 then watch else { watch with value := some value }

def Watch.dropReceiver (watch : Watch α) : Watch α :=
  { watch with receivers := watch.receivers - 1 }

def Watch.dropSender (watch : Watch α) : Watch α :=
  { watch with senderAlive := false }

end Hypeterm.Library
