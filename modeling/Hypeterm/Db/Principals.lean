import Hypeterm.Error

/-! Devices, token cutoffs and WebSocket tickets.  Each function is one statement or
one transaction of the repository layer. -/
namespace Hypeterm.Db

structure Device where
  deviceId : Uuid
  identityId : String
  role : DeviceRole
  revokedAt : Option Nat
  deriving DecidableEq

/-- Whom a credential speaks for.  The source keeps a kind and a text; the text of a
device is that of its identifier. -/
inductive Principal where
  | identity (identityId : String)
  | device (deviceId : Uuid)
  deriving DecidableEq

structure Ticket where
  ticketHash : Digest
  principal : Principal
  identityId : String
  path : String
  scopes : List String
  expiresAt : Nat
  consumedAt : Option Nat

structure TicketRecord where
  principal : Principal
  identityId : String
  scopes : List String

structure Accounts where
  devices : Uuid → Option Device
  tokenCutoffs : Principal → Option Nat
  tickets : List Ticket

namespace Accounts

def empty : Accounts := ⟨fun _ => none, fun _ => none, []⟩

def getDevice (accounts : Accounts) (deviceId : Uuid) : Option Device := accounts.devices deviceId

/-- A device is registered unrevoked, under an identifier of its own. -/
def insertDevice (accounts : Accounts) (deviceId : Uuid) (identityId : String) (role : DeviceRole) :
    Except ApiError Accounts :=
  match accounts.devices deviceId with
  | some _ => .error (.internal "database error: UNIQUE constraint failed: devices.device_id")
  | none =>
      .ok { accounts with
        devices := Function.update accounts.devices deviceId
          (some ⟨deviceId, identityId, role, none⟩) }

/-- Revoke a device, invalidate its tokens and delete its unused tickets.  Revoking
twice keeps the first timestamp. -/
def revokeDevice (accounts : Accounts) (deviceId : Uuid) (now : Nat) : Accounts × Bool :=
  let changed :=
    match accounts.devices deviceId with
    | some device => device.revokedAt.isNone
    | none => false
  ({ devices := fun id =>
      if id = deviceId then
        (accounts.devices id).map fun device =>
          { device with revokedAt := device.revokedAt.or (some now) }
      else accounts.devices id
     tokenCutoffs := Function.update accounts.tokenCutoffs (.device deviceId) (some now)
     tickets := accounts.tickets.filter fun ticket =>
      !(ticket.principal = .device deviceId && ticket.consumedAt.isNone) },
   changed)

def tokenCutoff (accounts : Accounts) (principal : Principal) : Option Nat :=
  accounts.tokenCutoffs principal

def insertTicket (accounts : Accounts) (ticket : Ticket) : Except ApiError Accounts :=
  if accounts.tickets.any fun stored => stored.ticketHash = ticket.ticketHash then
    .error (.internal "database error: UNIQUE constraint failed: websocket_tickets.ticket_hash")
  else .ok { accounts with tickets := accounts.tickets ++ [ticket] }

def consumeTicket (accounts : Accounts) (ticketHash : Digest) (path : String) (now : Nat) :
    Accounts × Option TicketRecord :=
  match accounts.tickets.find? fun ticket => ticket.ticketHash = ticketHash with
  | none => (accounts, none)
  | some ticket =>
      if ticket.consumedAt.isSome then (accounts, none)
      else
        let consumed : Accounts :=
          { accounts with
            tickets := accounts.tickets.map fun stored =>
              if stored.ticketHash = ticketHash then { stored with consumedAt := some now }
              else stored }
        if ticket.path ≠ path then (consumed, none)
        else if ticket.expiresAt < now then (consumed, none)
        else (consumed, some ⟨ticket.principal, ticket.identityId, ticket.scopes⟩)

/-- Whether a device may no longer act: revoked, or not there. -/
def deviceRevoked (accounts : Accounts) (deviceId : Uuid) : Bool :=
  match accounts.getDevice deviceId with
  | some device => device.revokedAt.isSome
  | none => true

/-- The check every bearer token passes: issued after its principal's cutoff, and the
device, if it is one, not revoked. -/
def tokenRevoked (accounts : Accounts) (principal : Principal) (issuedAt : Nat) : Bool :=
  if (accounts.tokenCutoff principal).any fun cutoff => issuedAt ≤ cutoff then true
  else
    match principal with
    | .device deviceId => accounts.deviceRevoked deviceId
    | .identity _ => false

def Revoked (accounts : Accounts) (deviceId : Uuid) : Prop :=
  ∃ device revokedAt, accounts.devices deviceId = some device ∧ device.revokedAt = some revokedAt

variable {accounts : Accounts} {deviceId other : Uuid} {now : Nat}

theorem Revoked.deviceRevoked
    (revoked : accounts.Revoked deviceId) : accounts.deviceRevoked deviceId = true := by
  obtain ⟨device, revokedAt, hdevice, hrevokedAt⟩ := revoked
  simp [Accounts.deviceRevoked, getDevice, hdevice, hrevokedAt]

theorem Revoked.tokenRevoked (revoked : accounts.Revoked deviceId) (issuedAt : Nat) :
    accounts.tokenRevoked (.device deviceId) issuedAt = true := by
  unfold Accounts.tokenRevoked
  split
  · rfl
  · exact revoked.deviceRevoked

theorem revoked_revokeDevice : (accounts.revokeDevice deviceId now).1.Revoked other ↔
      accounts.Revoked other ∨ (other = deviceId ∧ (accounts.devices deviceId).isSome = true) := by
  unfold Revoked revokeDevice
  dsimp only
  split
  · rename_i hother
    subst hother
    cases hdevice : accounts.devices other with
    | none => simp
    | some device =>
      cases hrevokedAt : device.revokedAt with
      | none => simp [hrevokedAt]
      | some revokedAt => simp [hrevokedAt]
  · rename_i hother
    simp [hother]

theorem revoked_insertDevice {inserted : Accounts} {identityId : String} {role : DeviceRole}
    (ok : accounts.insertDevice deviceId identityId role = .ok inserted)
    (revoked : inserted.Revoked other) : accounts.Revoked other := by
  unfold insertDevice at ok
  split at ok
  · cases ok
  · cases ok
    obtain ⟨device, revokedAt, hdevice, hrevokedAt⟩ := revoked
    simp only [Function.update_apply] at hdevice
    split at hdevice
    · cases hdevice
      cases hrevokedAt
    · exact ⟨device, revokedAt, hdevice, hrevokedAt⟩

theorem Revoked.insertDevice {inserted : Accounts}
    {identityId : String} {role : DeviceRole} (revoked : accounts.Revoked other)
    (ok : accounts.insertDevice deviceId identityId role = .ok inserted) : inserted.Revoked other := by
  obtain ⟨device, revokedAt, hdevice, hrevokedAt⟩ := revoked
  unfold Accounts.insertDevice at ok
  split at ok
  · cases ok
  · rename_i habsent
    cases ok
    have hother : other ≠ deviceId := by
      intro hother
      rw [hother, habsent] at hdevice
      cases hdevice
    exact ⟨device, revokedAt, by simp [hother, hdevice], hrevokedAt⟩

theorem consumeTicket_some {ticketHash : Digest} {path : String}
    {record : TicketRecord} (ok : (accounts.consumeTicket ticketHash path now).2 = some record) :
    ∃ ticket ∈ accounts.tickets, ticket.consumedAt = none ∧ ticket.principal = record.principal := by
  unfold consumeTicket at ok
  split at ok
  · cases ok
  · rename_i ticket hticket
    split at ok
    · cases ok
    · rename_i hunused
      split at ok
      · cases ok
      · split at ok
        · cases ok
        · cases ok
          exact ⟨ticket, List.mem_of_find?_eq_some hticket, by simpa using hunused, rfl⟩

theorem consumeTicket_devices (accounts : Accounts) (ticketHash : Digest) (path : String)
    (now : Nat) : (accounts.consumeTicket ticketHash path now).1.devices = accounts.devices := by
  unfold consumeTicket
  split
  · rfl
  · split
    · rfl
    · dsimp only
      split
      · rfl
      · split <;> rfl

theorem mem_consumeTicket {ticketHash : Digest} {path : String}
    {ticket : Ticket} (mem : ticket ∈ (accounts.consumeTicket ticketHash path now).1.tickets)
    (unused : ticket.consumedAt = none) : ticket ∈ accounts.tickets := by
  have hmapped : ticket ∈ accounts.tickets.map (fun stored =>
      if stored.ticketHash = ticketHash then { stored with consumedAt := some now } else stored) →
      ticket ∈ accounts.tickets := by
    intro hmem
    simp only [List.mem_map] at hmem
    obtain ⟨stored, hstored, heq⟩ := hmem
    split at heq
    · rw [← heq] at unused
      cases unused
    · exact heq ▸ hstored
  unfold consumeTicket at mem
  split at mem
  · exact mem
  · split at mem
    · exact mem
    · dsimp only at mem
      split at mem
      · exact hmapped mem
      · split at mem
        · exact hmapped mem
        · exact hmapped mem

end Accounts

end Hypeterm.Db
