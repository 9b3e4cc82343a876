import Hypeterm.Db.Tickets
import Hypeterm.Http.UpgradeBarrier
import Hypeterm.Http.WsPath

/-! What a WebSocket ticket can be used for. The issuer reads a path leniently and stores the text
it was given; an upgrade writes the path of its resource anew and compares the two texts. -/
namespace Hypeterm.Http.Upgrade

open Library Option
open Db
open Relay

/-- The system and the sweep of the expired tickets. -/
inductive TicketAction where
  | upgrade (action : Action)
  | deleteExpiredTickets

def ticketStep (parseUuid : List Char → Option Uuid) (system : System) :
    TicketAction → Option System
  | .upgrade action => step parseUuid system action
  | .deleteExpiredTickets =>
      some { system with accounts := system.accounts.deleteExpiredTickets system.now }

def presents (ticketHash : Digest) (system : System) : TicketAction → Bool
  | .upgrade (.advance id _) =>
      match system.requests id with
      | some (.upgradeStarted _ _ (.ticket presented)) => presented = ticketHash
      | _ => false
  | _ => false

/-- A ticket is inserted under this hash in this step. -/
def issues (ticketHash : Digest) (system : System) : TicketAction → Bool
  | .upgrade (.advance id draw) =>
      match system.requests id with
      | some (.ticketAuthorised _ _ _) => draw.ticketHash = ticketHash
      | _ => false
  | _ => false

def revokes (principal : Principal) : TicketAction → Bool
  | .upgrade (.revoke deviceId) => principal = .device deviceId
  | _ => false

/-- Whether a row outlives a step in which it is not presented. -/
def survives (system : System) (ticket : Ticket) : TicketAction → Bool
  | .deleteExpiredTickets => !(ticket.expiresAt + 3600 < system.now)
  | .upgrade (.revoke deviceId) =>
      !(ticket.principal = .device deviceId && ticket.consumedAt.isNone)
  | .upgrade _ => true

variable {parseUuid : List Char → Option Uuid} {system next : System} {id : Nat}
  {ticketHash : Digest}

/-! Every step either leaves the rows under a hash alone or does to them what one
statement does. -/

theorem authoriseTicket_accounts (auth : Auth) (path : String) (ttl : Nat) :
    (system.authoriseTicket parseUuid id auth path ttl).accounts = system.accounts := by
  unfold System.authoriseTicket
  split
  · rfl
  · split <;> rfl
  · split <;> rfl

section

variable (target : WsPath) (version : ProtocolVersion)
include target version

theorem checkUpgrade_accounts (auth : Auth) :
    (system.checkUpgrade id target version auth).accounts = system.accounts := by
  unfold System.checkUpgrade
  dsimp only
  split <;> rfl

theorem completeUpgrade_accounts (auth : Auth) (draw : Draw) :
    (system.completeUpgrade id target version auth draw).accounts = system.accounts := by
  unfold System.completeUpgrade
  split
  · rfl
  · split
    · rfl
    · split
      · rfl
      · split <;> rfl

theorem authenticateUpgrade_ticket_accounts :
    (system.authenticateUpgrade id target version (.ticket ticketHash)).accounts =
      (system.accounts.consumeTicket ticketHash target.text system.now).1 := by
  simp only [System.authenticateUpgrade]
  split <;> rfl

theorem authenticateUpgrade_token_accounts (claims : Claims) :
    (system.authenticateUpgrade id target version (.token claims)).accounts = system.accounts := by
  simp only [System.authenticateUpgrade]
  split <;> rfl

end

theorem entries_insertTicket_ne {auth : Auth} {path : String} {ttl : Nat} {issued : Digest}
    (other : issued ≠ ticketHash) :
    (system.insertTicket id auth path ttl issued).accounts.entries ticketHash =
      system.accounts.entries ticketHash := by
  unfold System.insertTicket
  split
  · rfl
  · rename_i inserted
    exact Accounts.entries_insertTicket_of_ne inserted other

theorem commit_accounts {terminalId : Uuid} {durableTarget : Nat} {closed : Option String}
    (taken : system.commit terminalId durableTarget closed = some next) :
    next.accounts = system.accounts := by
  unfold System.commit at taken
  split at taken
  · cases taken
  · cases taken
    rfl

theorem requestTicket_accounts (claims : Claims) (path : String) (ttl : Nat) :
    (system.requestTicket claims path ttl).accounts = system.accounts := by
  unfold System.requestTicket
  split <;> rfl

variable {phase : RequestPhase} {draw : Draw} {action : TicketAction}
  {connection : MirrorConnection} {ticket : Ticket} {actions : List TicketAction}
  {target : WsPath}

theorem entries_advance (here : system.requests id = some phase)
    (taken : system.advance parseUuid id draw phase = some next)
    (unissued : issues ticketHash system (.upgrade (.advance id draw)) = false) :
    next.accounts.entries ticketHash = system.accounts.entries ticketHash ∨
      presents ticketHash system (.upgrade (.advance id draw)) = true ∧
        ∃ path, next.accounts = (system.accounts.consumeTicket ticketHash path system.now).1 := by
  cases phase with
  | ticketAuthenticated auth path ttl =>
    cases taken
    rw [authoriseTicket_accounts]
    exact .inl rfl
  | ticketAuthorised auth path ttl =>
    cases taken
    have hother : draw.ticketHash ≠ ticketHash := by simpa [issues, here] using unissued
    exact .inl (entries_insertTicket_ne hother)
  | upgradeStarted target version credential =>
    cases taken
    cases credential with
    | token claims =>
      rw [authenticateUpgrade_token_accounts]
      exact .inl rfl
    | ticket presented =>
      rw [authenticateUpgrade_ticket_accounts]
      by_cases hpresented : presented = ticketHash
      · right
        subst hpresented
        exact ⟨by simp [presents, here], target.text, rfl⟩
      · exact .inl (Accounts.entries_consumeTicket_of_ne _ (Ne.symm hpresented))
  | upgradeAuthenticated target version auth =>
    cases taken
    rw [checkUpgrade_accounts]
    exact .inl rfl
  | upgradeChecked target version auth =>
    cases taken
    rw [completeUpgrade_accounts]
    exact .inl rfl
  | finished => cases taken

theorem survives_of_ne {action : Action} (other : ∀ deviceId, action ≠ .revoke deviceId)
    (ticket : Ticket) : survives system ticket (.upgrade action) = true := by
  cases action with
  | revoke deviceId => exact absurd rfl (other deviceId)
  | _ => rfl

theorem entries_of_ne_revoke {action : Action} (other : ∀ deviceId, action ≠ .revoke deviceId)
    (taken : step parseUuid system action = some next)
    (unissued : issues ticketHash system (.upgrade action) = false) :
    next.accounts.entries ticketHash = system.accounts.entries ticketHash ∨
      presents ticketHash system (.upgrade action) = true ∧
        ∃ path, next.accounts = (system.accounts.consumeTicket ticketHash path system.now).1 := by
  cases step_stepped taken with
  | tick | openTerminal | relay | beginUpgrade | refuse => exact .inl rfl
  | registerDevice inserted => exact .inl (Accounts.entries_insertDevice inserted)
  | revoke deviceId => exact absurd rfl (other deviceId)
  | enforce taken => exact .inl (by rw [(enforce_same taken).accounts_eq])
  | requestTicket claims path ttl => exact .inl (by rw [requestTicket_accounts])
  | advance here taken => exact entries_advance here taken unissued
  | mirror _ here running taken => exact .inl (by rw [(mirrorStep_same taken).accounts_eq])
  | commit taken => exact .inl (by rw [commit_accounts taken])

theorem entries_step (taken : ticketStep parseUuid system action = some next)
    (unissued : issues ticketHash system action = false) :
    next.accounts.entries ticketHash =
        (system.accounts.entries ticketHash).filter (survives system · action) ∨
      presents ticketHash system action = true ∧
        ∃ path, next.accounts = (system.accounts.consumeTicket ticketHash path system.now).1 := by
  cases action with
  | deleteExpiredTickets =>
    cases taken
    exact .inl Accounts.entries_deleteExpiredTickets
  | upgrade action =>
    by_cases hrevoke : ∃ deviceId, action = .revoke deviceId
    · obtain ⟨deviceId, rfl⟩ := hrevoke
      simp only [ticketStep, step] at taken
      split at taken
      · cases taken
        exact .inl (Accounts.entries_revokeDevice deviceId)
      · cases taken
    · have hother : ∀ deviceId, action ≠ .revoke deviceId := not_exists.mp hrevoke
      refine (entries_of_ne_revoke hother taken unissued).imp_left ?_
      intro same
      simp [survives_of_ne hother, same]

theorem leave_now (connection : MirrorConnection) (mirror subscriberId : Nat) :
    (system.leave id connection mirror subscriberId).now = system.now := by
  unfold System.leave
  dsimp only
  split <;> split <;> rfl

theorem subscribe_now (connection : MirrorConnection) (fromOffset : Option Nat)
    (chunkBytes queueMessages queueBytes : Nat) :
    (system.subscribe id connection fromOffset chunkBytes queueMessages queueBytes).now =
      system.now := by
  unfold System.subscribe
  split
  · rfl
  · split
    · rfl
    · split
      · rfl
      · dsimp only
        split <;> rfl

theorem event_now {mirror subscriberId : Nat}
    (taken : system.event id connection mirror subscriberId = some next) :
    next.now = system.now := by
  unfold System.event at taken
  split at taken
  · cases taken
  · split at taken
    · dsimp only at taken
      split at taken
      · cases taken
        rfl
      · cases taken
        exact leave_now _ _ _
      · cases taken
        rfl
      · cases taken
        rfl
    · split at taken
      · cases taken
      · cases taken
        exact leave_now _ _ _

theorem input_now {mirror subscriberId : Nat} {action : Input.Action}
    (taken : system.input id connection mirror subscriberId action = some next) :
    next.now = system.now := by
  unfold System.input at taken
  split at taken
  · cases taken
  · rename_i relay _
    dsimp only at taken
    have hacted :
        (if system.relay.delivered.length < relay.delivered.length then
          ({ system with relay } : System).act id connection .input
        else { system with relay }).now = system.now := by
      split <;> rfl
    split at taken
    · split at taken
      · cases taken
        rw [leave_now]
        exact hacted
      · cases taken
        exact hacted
      · cases taken
        exact hacted
    · cases taken

theorem mirrorStep_now (taken : MirrorStep system id connection next) : next.now = system.now := by
  cases taken with
  | subscribe => exact subscribe_now _ _ _ _ _
  | event taken => exact event_now taken
  | input taken => exact input_now taken
  | leave => exact leave_now _ _ _
  | heartbeat | abort => rfl

theorem enforce_now {deviceId : Uuid} (taken : system.enforce deviceId = some next) :
    next.now = system.now := by
  unfold System.enforce at taken
  split at taken
  · split at taken
    · cases taken
      rfl
    · cases taken
  · cases taken
    rfl
  · cases taken
    rfl
  · cases taken
    split <;> rfl
  · cases taken
    rfl
  · cases taken

theorem advance_now
    (taken : system.advance parseUuid id draw phase = some next) : next.now = system.now := by
  cases phase with
  | ticketAuthenticated auth path ttl =>
    cases taken
    unfold System.authoriseTicket
    split
    · rfl
    · split <;> rfl
    · split <;> rfl
  | ticketAuthorised auth path ttl =>
    cases taken
    unfold System.insertTicket
    split <;> rfl
  | upgradeStarted target version credential =>
    cases taken
    cases credential with
    | token claims =>
      simp only [System.authenticateUpgrade]
      split <;> rfl
    | ticket presented =>
      simp only [System.authenticateUpgrade]
      split <;> rfl
  | upgradeAuthenticated target version auth =>
    cases taken
    unfold System.checkUpgrade
    dsimp only
    split <;> rfl
  | upgradeChecked target version auth =>
    cases taken
    unfold System.completeUpgrade
    split
    · rfl
    · split
      · rfl
      · split
        · rfl
        · split <;> rfl
  | finished => cases taken

theorem now_le_of_step
    (taken : ticketStep parseUuid system action = some next) : system.now ≤ next.now := by
  cases action with
  | deleteExpiredTickets =>
    cases taken
    exact Nat.le_refl _
  | upgrade action =>
    cases step_stepped taken with
    | tick => exact Nat.le_succ _
    | registerDevice | openTerminal | revoke | relay | beginUpgrade | refuse =>
      exact Nat.le_refl _
    | enforce taken => exact Nat.le_of_eq (enforce_now taken).symm
    | requestTicket claims path ttl =>
      unfold System.requestTicket
      split <;> exact Nat.le_refl _
    | advance here taken => exact Nat.le_of_eq (advance_now taken).symm
    | mirror _ here running taken => exact Nat.le_of_eq (mirrorStep_now taken).symm
    | commit taken =>
      unfold System.commit at taken
      split at taken
      · cases taken
      · cases taken
        exact Nat.le_refl _

/-- The steps that neither present the ticket nor issue another under its hash. -/
def awaits (ticketHash : Digest) (system : System) (action : TicketAction) : Bool :=
  !presents ticketHash system action && !issues ticketHash system action

theorem survives_of_valid (unused : ticket.consumedAt = none)
    (valid : system.now ≤ ticket.expiresAt) (action : TicketAction) :
    survives system ticket action = !revokes ticket.principal action := by
  cases action with
  | deleteExpiredTickets =>
    have hkept : ¬ ticket.expiresAt + 3600 < system.now := by omega
    simp [survives, revokes, hkept]
  | upgrade action =>
    cases action with
    | revoke deviceId => simp [survives, revokes, unused]
    | _ => rfl

theorem entries_of_awaits (awaited : awaits ticketHash system action = true)
    (taken : ticketStep parseUuid system action = some next) :
    next.accounts.entries ticketHash =
      (system.accounts.entries ticketHash).filter (survives system · action) := by
  simp only [awaits, Bool.and_eq_true, Bool.not_eq_true'] at awaited
  cases entries_step taken awaited.2 with
  | inl filtered => exact filtered
  | inr consumed =>
    rw [awaited.1] at consumed
    cases consumed.1

theorem now_le_of_run (taken : run (restrict (ticketStep parseUuid) fun system action =>
      awaits ticketHash system action) system actions = some next) : system.now ≤ next.now := by
  refine @run_invariant _ _ _ (fun reached => system.now ≤ reached.now) ?_ _ _ _ (Nat.le_refl _) taken
  intro state action after hreached hstep
  exact hreached.trans (now_le_of_step (restrict_eq_some.mp hstep).2)

theorem entries_run_of_nil (absent : system.accounts.entries ticketHash = [])
    (taken : run (restrict (ticketStep parseUuid) fun system action =>
      awaits ticketHash system action) system actions = some next) :
    next.accounts.entries ticketHash = [] := by
  refine @restrict_invariant _ _ _ _ _ (fun reached => reached.accounts.entries ticketHash = []) ?_
    _ _ _ absent taken
  intro state action after hreached hawaits hstep
  rw [entries_of_awaits hawaits hstep, hreached]
  rfl

theorem entries_run
    (only : system.accounts.entries ticketHash = [ticket]) (unused : ticket.consumedAt = none)
    (taken : run (restrict (ticketStep parseUuid) fun system action =>
      awaits ticketHash system action) system actions = some next)
    (valid : next.now ≤ ticket.expiresAt) :
    next.accounts.entries ticketHash =
      if actions.all fun action => !revokes ticket.principal action then [ticket] else [] := by
  induction actions generalizing system with
  | nil =>
    cases taken
    exact only
  | cons action rest ih =>
    obtain ⟨after, hstep, hrest⟩ := run_cons_eq_some.mp taken
    obtain ⟨hawaits, hstep⟩ := restrict_eq_some.mp hstep
    have hnow : system.now ≤ ticket.expiresAt :=
      (now_le_of_step hstep).trans ((now_le_of_run hrest).trans valid)
    have hentries := entries_of_awaits hawaits hstep
    rw [only, List.filter_singleton, survives_of_valid unused hnow] at hentries
    cases hrevokes : revokes ticket.principal action with
    | true =>
      have habsent : after.accounts.entries ticketHash = [] := by simpa [hrevokes] using hentries
      rw [entries_run_of_nil habsent hrest]
      simp [hrevokes]
    | false =>
      have honly : after.accounts.entries ticketHash = [ticket] := by
        simpa [hrevokes] using hentries
      rw [ih honly hrest]
      simp [hrevokes]

theorem spent_step (spent : system.accounts.Spent ticketHash)
    (unissued : issues ticketHash system action = false)
    (taken : ticketStep parseUuid system action = some next) :
    next.accounts.Spent ticketHash := by
  cases entries_step taken unissued with
  | inl filtered => exact spent.of_filter filtered
  | inr consumed =>
    obtain ⟨-, path, hconsumed⟩ := consumed
    rw [hconsumed]
    exact spent.consumeTicket ticketHash path

def Refuses (system : System) (ticketHash : Digest) : Prop :=
  ∀ id target version,
    (system.authenticateUpgrade id target version (.ticket ticketHash)).requests id =
      some (.finished (.error (.unauthorized
        "websocket ticket is invalid, expired, already used, or not valid for this path")))

theorem authenticateUpgrade_of_none (version : ProtocolVersion)
    (refused : (system.accounts.consumeTicket ticketHash target.text system.now).2 = none) :
    (system.authenticateUpgrade id target version (.ticket ticketHash)).requests id =
      some (.finished (.error (.unauthorized
        "websocket ticket is invalid, expired, already used, or not valid for this path"))) := by
  simp [System.authenticateUpgrade, refused, System.finish, System.setRequest]

theorem authenticateUpgrade_of_some (version : ProtocolVersion) {record : TicketRecord}
    (accepted : (system.accounts.consumeTicket ticketHash target.text system.now).2 =
      some record) :
    (system.authenticateUpgrade id target version (.ticket ticketHash)).requests id =
      some (.upgradeAuthenticated target version
        ⟨record.principal, record.identityId, record.scopes⟩) := by
  simp [System.authenticateUpgrade, accepted, System.setRequest]

theorem refuses_of_spent (spent : system.accounts.Spent ticketHash) : Refuses system ticketHash :=
  fun _ _ version => authenticateUpgrade_of_none version (spent.consumeTicket_none _)

def RefusesEver (parseUuid : List Char → Option Uuid) (system : System) (ticketHash : Digest) :
    Prop :=
  ∀ actions last, run (restrict (ticketStep parseUuid) fun system action =>
    !issues ticketHash system action) system actions = some last → Refuses last ticketHash

theorem refusesEver_of_spent (spent : system.accounts.Spent ticketHash) :
    RefusesEver parseUuid system ticketHash := by
  intro actions last taken
  apply refuses_of_spent
  refine @restrict_invariant _ _ _ _ _ (fun reached => reached.accounts.Spent ticketHash) ?_
    _ _ _ spent taken
  intro state action after hspent hunissued hstep
  exact spent_step hspent (by simpa using hunissued) hstep

/-- What an issued ticket is for: the upgrade of its resource is accepted once, and an
attempt on another resource uses it up. -/
structure UsableOnce (parseUuid : List Char → Option Uuid) (system : System)
    (ticketHash : Digest) (target : WsPath) (auth : Auth) : Prop where
  accepted : ∀ id version,
    (system.authenticateUpgrade id target version (.ticket ticketHash)).requests id =
      some (.upgradeAuthenticated target version auth)
  once : ∀ id version, RefusesEver parseUuid
    (system.authenticateUpgrade id target version (.ticket ticketHash)) ticketHash
  refused : ∀ id other version, other ≠ target →
    (system.authenticateUpgrade id other version (.ticket ticketHash)).requests id =
      some (.finished (.error (.unauthorized
        "websocket ticket is invalid, expired, already used, or not valid for this path")))
  consumed : ∀ id other version, other ≠ target → RefusesEver parseUuid
    (system.authenticateUpgrade id other version (.ticket ticketHash)) ticketHash

theorem refusesEver_of_unused
    (only : system.accounts.entries ticketHash = [ticket]) (unused : ticket.consumedAt = none)
    (target : WsPath) (version : ProtocolVersion) :
    RefusesEver parseUuid (system.authenticateUpgrade id target version (.ticket ticketHash))
      ticketHash := by
  apply refusesEver_of_spent
  rw [authenticateUpgrade_ticket_accounts, Accounts.consumeTicket_of_unused target.text only unused]
  exact Accounts.spent_marked

def Authorised (parseUuid : List Char → Option Uuid) (system : System) : Prop :=
  ∀ id auth path ttl, system.requests id = some (.ticketAuthorised auth path ttl) →
    ∃ target, parseWsPath parseUuid path = some target

section

variable (authorised : Authorised parseUuid system)
include authorised

theorem Authorised.of_eq (same : next.requests = system.requests) : Authorised parseUuid next := by
  intro id auth path ttl here
  exact authorised id auth path ttl (same ▸ here)

theorem Authorised.update (parsed : ∀ auth path ttl, phase = .ticketAuthorised auth path ttl →
      ∃ target, parseWsPath parseUuid path = some target)
    (updated : next.requests = Function.update system.requests id (some phase)) :
    Authorised parseUuid next := by
  intro other auth path ttl here
  rw [updated, Function.update_apply] at here
  split at here
  · cases here
    exact parsed auth path ttl rfl
  · exact authorised other auth path ttl here

theorem Authorised.finish
    (result : Except ApiError Unit) : Authorised parseUuid (system.finish id result) :=
  authorised.update (fun _ _ _ h => by cases h) rfl

theorem Authorised.advance (here : system.requests id = some phase)
    (taken : system.advance parseUuid id draw phase = some next) : Authorised parseUuid next := by
  cases phase with
  | ticketAuthenticated auth path ttl =>
    cases taken
    unfold System.authoriseTicket
    split
    · exact authorised.finish _
    · rename_i hparsed
      split
      · refine authorised.update ?_ rfl
        intro _ _ _ hphase
        cases hphase
        exact ⟨_, hparsed⟩
      · exact authorised.finish _
    · rename_i hparsed
      split
      · refine authorised.update ?_ rfl
        intro _ _ _ hphase
        cases hphase
        exact ⟨_, hparsed⟩
      · exact authorised.finish _
  | ticketAuthorised auth path ttl =>
    cases taken
    unfold System.insertTicket
    split
    · exact authorised.finish _
    · exact authorised.update (fun _ _ _ h => by cases h) rfl
  | upgradeStarted target version credential =>
    cases taken
    cases credential with
    | token claims =>
      simp only [System.authenticateUpgrade]
      split
      · exact authorised.finish _
      · exact authorised.update (fun _ _ _ h => by cases h) rfl
    | ticket presented =>
      simp only [System.authenticateUpgrade]
      split <;> exact authorised.update (fun _ _ _ h => by cases h) rfl
  | upgradeAuthenticated target version auth =>
    cases taken
    unfold System.checkUpgrade
    dsimp only
    split
    · exact authorised.finish _
    · exact authorised.update (fun _ _ _ h => by cases h) rfl
  | upgradeChecked target version auth =>
    cases taken
    unfold System.completeUpgrade
    split
    · exact authorised.update (fun _ _ _ h => by cases h) rfl
    · split
      · exact authorised.finish _
      · split
        · exact authorised.finish _
        · split
          · exact authorised.finish _
          · exact authorised.update (fun _ _ _ h => by cases h) rfl
  | finished => cases taken

end

theorem Authorised.step (authorised : Authorised parseUuid system)
    (taken : ticketStep parseUuid system action = some next) : Authorised parseUuid next := by
  cases action with
  | deleteExpiredTickets =>
    cases taken
    exact authorised.of_eq rfl
  | upgrade action =>
    cases step_stepped taken with
    | tick | openTerminal | relay | registerDevice | revoke => exact authorised.of_eq rfl
    | enforce taken => exact authorised.of_eq (enforce_same taken).requests_eq
    | requestTicket claims path ttl =>
      unfold System.requestTicket
      split <;> exact authorised.update (fun _ _ _ h => by cases h) rfl
    | beginUpgrade => exact authorised.update (fun _ _ _ h => by cases h) rfl
    | refuse => exact authorised.finish _
    | advance here taken => exact authorised.advance here taken
    | mirror _ here running taken => exact authorised.of_eq (mirrorStep_same taken).requests_eq
    | commit taken =>
      unfold System.commit at taken
      split at taken
      · cases taken
      · cases taken
        exact authorised.of_eq rfl

theorem Authorised.run (reached : run (ticketStep parseUuid) System.initial actions = some system) :
    Authorised parseUuid system := by
  have hstart : Authorised parseUuid System.initial := by
    intro id auth path ttl here
    cases here
  exact run_invariant (fun _ _ _ authorised hstep => authorised.step hstep) hstart reached

theorem entries_of_issued {auth : Auth} {path : String} {ttl : Nat}
    (here : system.requests id = some (.ticketAuthorised auth path ttl))
    (taken : ticketStep parseUuid system (.upgrade (.advance id draw)) = some next)
    (issued : next.requests id = some (.finished (.ok ()))) :
    next.accounts.entries draw.ticketHash = [⟨draw.ticketHash, auth.principal, auth.identityId, path,
      auth.scopes, system.now + ttl, none⟩] := by
  simp only [ticketStep, step, here, System.advance] at taken
  cases taken
  unfold System.insertTicket at issued ⊢
  split at issued
  · simp [System.finish, System.setRequest] at issued
  · rename_i inserted
    exact Accounts.entries_insertTicket inserted

theorem usableOnce_iff (parse_uuidText : ∀ uuid, parseUuid (uuidText uuid).toList = some uuid)
    (only : system.accounts.entries ticketHash = [ticket]) (unused : ticket.consumedAt = none)
    (valid : system.now ≤ ticket.expiresAt)
    (parsed : parseWsPath parseUuid ticket.path = some target) :
    UsableOnce parseUuid system ticketHash target
        ⟨ticket.principal, ticket.identityId, ticket.scopes⟩ ↔
      ticket.path = target.text := by
  have hconsume : ∀ path, (system.accounts.consumeTicket ticketHash path system.now).2 =
      if ticket.path = path then some ⟨ticket.principal, ticket.identityId, ticket.scopes⟩
      else none := by
    intro path
    rw [Accounts.consumeTicket_of_unused path only unused]
    simp [valid]
  constructor
  · intro usable
    by_contra hpath
    have haccepted := usable.accepted 0 .v1
    rw [authenticateUpgrade_of_none] at haccepted
    · cases haccepted
    · rw [hconsume, if_neg hpath]
  · intro hpath
    have hother : ∀ other, other ≠ target → ticket.path ≠ other.text := by
      intro other hother hsame
      rw [hsame, parseWsPath_text parse_uuidText] at parsed
      exact hother (Option.some.inj parsed)
    refine ⟨?_, ?_, ?_, ?_⟩
    · intro id version
      rw [authenticateUpgrade_of_some version (by rw [hconsume, if_pos hpath])]
    · exact fun id version => refusesEver_of_unused only unused target version
    · intro id other version hne
      apply authenticateUpgrade_of_none
      rw [hconsume, if_neg (hother other hne)]
    · exact fun id other version _ => refusesEver_of_unused only unused other version

/-- A ticket that was issued for the path `path`, and has been neither presented nor
outlived, can be used once and for its own resource exactly when `path` is how an
upgrade writes that resource, and its device has not been revoked since. -/
theorem ticket_usable_once_iff
    (parse_uuidText : ∀ uuid, parseUuid (uuidText uuid).toList = some uuid)
    {actions between : List TicketAction} {before issued later : System} {id : Nat} {auth : Auth}
    {path : String} {ttl : Nat} {draw : Draw}
    (reached : run (ticketStep parseUuid) System.initial actions = some before)
    (here : before.requests id = some (.ticketAuthorised auth (trim path) ttl))
    (taken : ticketStep parseUuid before (.upgrade (.advance id draw)) = some issued)
    (created : issued.requests id = some (.finished (.ok ())))
    (waited : run (restrict (ticketStep parseUuid) fun system action =>
      awaits draw.ticketHash system action) issued between = some later)
    (valid : later.now ≤ before.now + ttl) :
    ∃ target, parseWsPath parseUuid (trim path) = some target ∧
      (UsableOnce parseUuid later draw.ticketHash target auth ↔
        trim path = target.text ∧
          between.all fun action => !revokes auth.principal action) := by
  obtain ⟨target, hparsed⟩ := Authorised.run reached id auth (trim path) ttl here
  refine ⟨target, hparsed, ?_⟩
  have hissued := entries_of_issued here taken created
  have hentries := entries_run hissued rfl waited valid
  cases hkept : between.all fun action => !revokes auth.principal action with
  | true =>
    rw [hkept, if_pos rfl] at hentries
    rw [and_iff_left rfl]
    exact usableOnce_iff parse_uuidText hentries rfl valid hparsed
  | false =>
    rw [hkept, if_neg Bool.false_ne_true] at hentries
    constructor
    · intro usable
      have haccepted := usable.accepted 0 .v1
      rw [authenticateUpgrade_of_none] at haccepted
      · cases haccepted
      · rw [Accounts.consumeTicket_of_nil _ hentries]
    · intro hboth
      cases hboth.2

/-- Device 2 asks for a ticket to mirror terminal 7 under the given path. -/
def ticketRequest (path : String) : List TicketAction :=
  (clientSetup ++ [Action.requestTicket ⟨clientAuth, 1⟩ path 60, .advance 0 ticketDraw]).map .upgrade

def ticketWait : List TicketAction := [.upgrade .tick, .deleteExpiredTickets, .upgrade .tick]

theorem ticket_usable_in_ticketRequest : ∃ before issued later,
      run (ticketStep readUuid) System.initial (ticketRequest mirrorPath) = some before ∧
      ticketStep readUuid before (.upgrade (.advance 0 ticketDraw)) = some issued ∧
      run (restrict (ticketStep readUuid) fun system action =>
        awaits ticketDraw.ticketHash system action) issued ticketWait = some later ∧
      ∃ target, parseWsPath readUuid (trim mirrorPath) = some target ∧
        (UsableOnce readUuid later ticketDraw.ticketHash target clientAuth ↔
          trim mirrorPath = target.text ∧
            ticketWait.all fun action => !revokes clientAuth.principal action) := by
  have hoverall : ((run (ticketStep readUuid) System.initial (ticketRequest mirrorPath)).bind
      fun before => (ticketStep readUuid before (.upgrade (.advance 0 ticketDraw))).bind
        fun issued => (run (restrict (ticketStep readUuid) fun system action =>
          awaits ticketDraw.ticketHash system action) issued ticketWait).map fun later =>
            (before.requests 0, issued.requests 0, before.now, later.now)) =
      some (some (.ticketAuthorised clientAuth (trim mirrorPath) 60), some (.finished (.ok ())),
        1, 3) := by decide
  obtain ⟨before, hbefore, hrest⟩ := bind_eq_some_iff.mp hoverall
  obtain ⟨issued, hissued, hrest⟩ := bind_eq_some_iff.mp hrest
  obtain ⟨later, hlater, hseen⟩ := map_eq_some_iff.mp hrest
  simp only [Prod.mk.injEq] at hseen
  obtain ⟨here, created, hstart, hend⟩ := hseen
  have hvalid : later.now ≤ before.now + 60 := by rw [hstart, hend]; decide
  exact ⟨before, issued, later, hbefore, hissued, hlater,
    ticket_usable_once_iff readUuid_uuidText hbefore here hissued created hlater hvalid⟩

def slashlessPath : String := "v1/terminals/00000000-0000-0000-0000-000000000007/mirror"

theorem slashless_ticket_opens_nothing :
    ¬ ∀ (actions between : List TicketAction) (before issued later : System) (auth : Auth)
        (path : String) (ttl : Nat) (target : WsPath),
      run (ticketStep readUuid) System.initial actions = some before →
      before.requests 0 = some (.ticketAuthorised auth (trim path) ttl) →
      ticketStep readUuid before (.upgrade (.advance 0 ticketDraw)) = some issued →
      issued.requests 0 = some (.finished (.ok ())) →
      run (restrict (ticketStep readUuid) fun system action =>
        awaits ticketDraw.ticketHash system action && !revokes auth.principal action)
          issued between = some later →
      later.now ≤ before.now + ttl →
      parseWsPath readUuid (trim path) = some target →
      UsableOnce readUuid later ticketDraw.ticketHash target auth := by
  intro claim
  have hoverall : ((run (ticketStep readUuid) System.initial (ticketRequest slashlessPath)).bind
      fun before => (ticketStep readUuid before (.upgrade (.advance 0 ticketDraw))).map
        fun issued => (before.requests 0, issued.requests 0, before.now, issued.now,
          (issued.authenticateUpgrade 1 (.mirror 7) .v2 (.ticket 0x51)).requests 1)) =
      some (some (.ticketAuthorised clientAuth (trim slashlessPath) 60),
        some (.finished (.ok ())), 1, 1, some (.finished (.error (.unauthorized
          "websocket ticket is invalid, expired, already used, or not valid for this path")))) := by
    decide
  obtain ⟨before, hbefore, hrest⟩ := bind_eq_some_iff.mp hoverall
  obtain ⟨issued, hissued, hseen⟩ := map_eq_some_iff.mp hrest
  simp only [Prod.mk.injEq] at hseen
  obtain ⟨here, created, hstart, hend, hrefused⟩ := hseen
  have husable := claim _ [] before issued issued clientAuth slashlessPath 60 (.mirror 7) hbefore here
    hissued created rfl (by rw [hstart, hend]; decide) (by decide)
  have haccepted := husable.accepted 1 .v2
  have hhash : ticketDraw.ticketHash = 0x51 := rfl
  rw [hhash, hrefused] at haccepted
  cases haccepted

end Hypeterm.Http.Upgrade
