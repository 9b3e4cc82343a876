import Hypeterm.Db.Principals

/-! The rows stored under one ticket hash, and what each statement of the repository
layer does to them. -/
namespace Hypeterm.Db

open List

namespace Accounts

def deleteExpiredTickets (accounts : Accounts) (now : Nat) : Accounts :=
  { accounts with tickets := accounts.tickets.filter fun ticket => !(ticket.expiresAt + 3600 < now) }

def entries (accounts : Accounts) (ticketHash : Digest) : List Ticket :=
  accounts.tickets.filter fun ticket => ticket.ticketHash = ticketHash

def Spent (accounts : Accounts) (ticketHash : Digest) : Prop :=
  ∀ ticket ∈ accounts.entries ticketHash, ticket.consumedAt.isSome = true

variable {accounts inserted : Accounts} {ticketHash : Digest} {now : Nat}

theorem entries_deleteExpiredTickets : (accounts.deleteExpiredTickets now).entries ticketHash =
      (accounts.entries ticketHash).filter fun ticket => !(ticket.expiresAt + 3600 < now) := by
  simp only [entries, deleteExpiredTickets, filter_filter, Bool.and_comm]

theorem entries_revokeDevice (deviceId : Uuid) :
    (accounts.revokeDevice deviceId now).1.entries ticketHash =
      (accounts.entries ticketHash).filter fun ticket =>
        !(ticket.principal = .device deviceId && ticket.consumedAt.isNone) := by
  simp only [entries, revokeDevice, filter_filter, Bool.and_comm]

theorem entries_insertDevice {deviceId : Uuid} {identityId : String} {role : DeviceRole}
    (ok : accounts.insertDevice deviceId identityId role = .ok inserted) :
    inserted.entries ticketHash = accounts.entries ticketHash := by
  unfold insertDevice at ok
  split at ok
  · cases ok
  · cases ok
    rfl

theorem entries_insertTicket {ticket : Ticket} (ok : accounts.insertTicket ticket = .ok inserted) :
    inserted.entries ticket.ticketHash = [ticket] := by
  unfold insertTicket at ok
  split at ok
  · cases ok
  · rename_i hfresh
    cases ok
    have hnone : accounts.entries ticket.ticketHash = [] := by
      simpa [entries] using hfresh
    simpa [entries] using hnone

theorem entries_insertTicket_of_ne {ticket : Ticket}
    (ok : accounts.insertTicket ticket = .ok inserted) (other : ticket.ticketHash ≠ ticketHash) :
    inserted.entries ticketHash = accounts.entries ticketHash := by
  unfold insertTicket at ok
  split at ok
  · cases ok
  · cases ok
    simp [entries, other]

/-- The rows under the consumed hash carry the time, the others are as they were. -/
def marked (accounts : Accounts) (consumed : Digest) (now : Nat) : Accounts :=
  { accounts with
    tickets := accounts.tickets.map fun stored =>
      if stored.ticketHash = consumed then { stored with consumedAt := some now } else stored }

theorem entries_marked_of_ne {consumed : Digest} (other : ticketHash ≠ consumed) :
    (accounts.marked consumed now).entries ticketHash = accounts.entries ticketHash := by
  unfold entries marked
  induction accounts.tickets with
  | nil => rfl
  | cons stored rest ih =>
    by_cases hstored : stored.ticketHash = consumed
    · have hother : stored.ticketHash ≠ ticketHash := fun heq => other (heq.symm.trans hstored)
      have hconsumed : consumed ≠ ticketHash := Ne.symm other
      simp [hstored, hconsumed, ih]
    · simp only [map_cons, if_neg hstored, filter_cons, ih]

theorem entries_marked_self : (accounts.marked ticketHash now).entries ticketHash =
      (accounts.entries ticketHash).map fun stored => { stored with consumedAt := some now } := by
  unfold entries marked
  induction accounts.tickets with
  | nil => rfl
  | cons stored rest ih =>
    by_cases hstored : stored.ticketHash = ticketHash
    · simp [hstored, ih]
    · simp [hstored, ih]

theorem consumeTicket_of_nil (path : String) (absent : accounts.entries ticketHash = []) :
    accounts.consumeTicket ticketHash path now = (accounts, none) := by
  have hnone : (accounts.tickets.find? fun ticket => ticket.ticketHash = ticketHash) = none := by
    rw [← head?_filter]
    exact congrArg head? absent
  simp [consumeTicket, hnone]

theorem consumeTicket_of_unused {ticket : Ticket} (path : String)
    (only : accounts.entries ticketHash = [ticket]) (unused : ticket.consumedAt = none) :
    accounts.consumeTicket ticketHash path now =
      (accounts.marked ticketHash now,
        if ticket.path = path ∧ now ≤ ticket.expiresAt then
          some ⟨ticket.principal, ticket.identityId, ticket.scopes⟩
        else none) := by
  have hfound :
      (accounts.tickets.find? fun stored => stored.ticketHash = ticketHash) = some ticket := by
    rw [← head?_filter]
    exact congrArg head? only
  simp only [consumeTicket, hfound, unused, Option.isSome_none, Bool.false_eq_true, if_false]
  by_cases hpath : ticket.path = path
  · by_cases hexpired : ticket.expiresAt < now
    · simp [marked, hpath, hexpired, Nat.not_le.mpr hexpired]
    · simp [marked, hpath, hexpired, Nat.not_lt.mp hexpired]
  · simp [marked, hpath]

theorem Spent.consumeTicket_none (spent : accounts.Spent ticketHash) (path : String) :
    (accounts.consumeTicket ticketHash path now).2 = none := by
  unfold consumeTicket
  split
  · rfl
  · rename_i ticket hticket
    have hused : ticket.consumedAt.isSome = true := by
      apply spent
      have hhash := find?_some hticket
      exact mem_filter.mpr ⟨mem_of_find?_eq_some hticket, hhash⟩
    rw [if_pos hused]

theorem Spent.of_filter {next : Accounts} {keep : Ticket → Bool} (spent : accounts.Spent ticketHash)
    (filtered : next.entries ticketHash = (accounts.entries ticketHash).filter keep) :
    next.Spent ticketHash := by
  intro ticket hticket
  rw [filtered] at hticket
  exact spent ticket (mem_filter.mp hticket).1

theorem Spent.of_eq {next : Accounts} (spent : accounts.Spent ticketHash)
    (same : next.entries ticketHash = accounts.entries ticketHash) : next.Spent ticketHash := by
  intro ticket hticket
  exact spent ticket (same ▸ hticket)

theorem spent_marked : (accounts.marked ticketHash now).Spent ticketHash := by
  intro ticket hticket
  rw [entries_marked_self] at hticket
  obtain ⟨stored, -, rfl⟩ := mem_map.mp hticket
  rfl

theorem consumeTicket_cases (consumed : Digest) (path : String) :
    (accounts.consumeTicket consumed path now).1 = accounts ∨
      (accounts.consumeTicket consumed path now).1 = accounts.marked consumed now := by
  unfold consumeTicket
  split
  · exact .inl rfl
  · split
    · exact .inl rfl
    · right
      split
      · rfl
      · split <;> rfl

theorem entries_consumeTicket_of_ne {consumed : Digest} (path : String)
    (other : ticketHash ≠ consumed) :
    (accounts.consumeTicket consumed path now).1.entries ticketHash =
      accounts.entries ticketHash := by
  cases accounts.consumeTicket_cases consumed path with
  | inl same => rw [same]
  | inr marked => rw [marked, entries_marked_of_ne other]

theorem Spent.consumeTicket (spent : accounts.Spent ticketHash) (consumed : Digest)
    (path : String) : (accounts.consumeTicket consumed path now).1.Spent ticketHash := by
  by_cases hconsumed : ticketHash = consumed
  · subst hconsumed
    cases accounts.consumeTicket_cases ticketHash path with
    | inl same => rwa [same]
    | inr marked =>
      rw [marked]
      exact spent_marked
  · exact spent.of_eq (entries_consumeTicket_of_ne path hconsumed)

end Accounts

end Hypeterm.Db
