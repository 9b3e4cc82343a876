import Hypeterm.Http.Upgrade

/-! Revocation as a barrier for upgrades. Revoking deletes the tickets there are; a request that
was authorised before and inserts its ticket afterwards slips past it, since `mirror_upgrade`
trusts the ticket. -/
namespace Hypeterm.Http.Upgrade

open Library List
open Db
open Relay

/-- Whom an upgrade in flight has been authenticated as. -/
def RequestPhase.auth : RequestPhase → Option Auth
  | .upgradeAuthenticated _ _ auth | .upgradeChecked _ _ auth => some auth
  | .ticketAuthenticated _ _ _ | .ticketAuthorised _ _ _ | .upgradeStarted _ _ _ | .finished _ => none

/-- A ticket of a device is inserted only while the device is not revoked. -/
def insertsUnrevoked (system : System) : Action → Bool
  | .advance id _ =>
      match system.requests id with
      | some (.ticketAuthorised auth _ _) =>
          match auth.principal with
          | .device deviceId => !system.revoked deviceId
          | .identity _ => true
      | _ => true
  | _ => true

structure Barred (system : System) : Prop where
  begun : ∀ id deviceId, system.revokedAtStart id deviceId = true →
    system.accounts.Revoked deviceId
  tickets : ∀ ticket ∈ system.accounts.tickets, ∀ deviceId, ticket.principal = .device deviceId →
    system.accounts.Revoked deviceId → ticket.consumedAt ≠ none
  authenticated : ∀ id phase auth deviceId, system.requests id = some phase →
    phase.auth = some auth → auth.principal = .device deviceId →
    system.revokedAtStart id deviceId = false
  barred : ∀ success ∈ system.successes, success.begunRevoked = false

variable {parseUuid : List Char → Option Uuid} {system next : System} {id : Nat}

/-- What the task of a mirror connection does in one step while it runs. -/
inductive MirrorStep (system : System) (id : Nat) (connection : MirrorConnection) : System → Prop
  | subscribe (fromOffset : Option Nat) (chunkBytes queueMessages queueBytes : Nat) :
      MirrorStep system id connection
        (system.subscribe id connection fromOffset chunkBytes queueMessages queueBytes)
  | event {mirror subscriberId : Nat} {next : System}
      (taken : system.event id connection mirror subscriberId = some next) :
      MirrorStep system id connection next
  | input {mirror subscriberId : Nat} {action : Input.Action} {next : System}
      (taken : system.input id connection mirror subscriberId action = some next) :
      MirrorStep system id connection next
  | heartbeat : MirrorStep system id connection (system.setConnection id (system.turn connection))
  | leave (mirror subscriberId : Nat) :
      MirrorStep system id connection (system.leave id connection mirror subscriberId)
  | abort : MirrorStep system id connection
      (system.setConnection id { connection with phase := .ended })

inductive Stepped (parseUuid : List Char → Option Uuid) (system : System) : Action → System → Prop
  | tick : Stepped parseUuid system .tick { system with now := system.now + 1 }
  | registerDevice {deviceId : Uuid} {identityId : String} {role : DeviceRole} {accounts : Accounts}
      (inserted : system.accounts.insertDevice deviceId identityId role = .ok accounts) :
      Stepped parseUuid system (.registerDevice deviceId identityId role) { system with accounts }
  | openTerminal (row : TerminalRow) (capacity : Nat) :
      Stepped parseUuid system (.openTerminal row capacity)
        (({ system with terminals := system.terminals ++ [row] } : System).setHandle
          row.terminalId (TerminalHandle.newOpen row capacity))
  | revoke (deviceId : Uuid) :
      Stepped parseUuid system (.revoke deviceId)
        { system with accounts := (system.accounts.revokeDevice deviceId system.now).1 }
  | enforce {deviceId : Uuid} {next : System} (taken : system.enforce deviceId = some next) :
      Stepped parseUuid system (.enforce deviceId) next
  | requestTicket (claims : Claims) (path : String) (ttl : Nat) :
      Stepped parseUuid system (.requestTicket claims path ttl)
        (system.requestTicket claims path ttl)
  | beginUpgrade (target : WsPath) (version : ProtocolVersion) (credential : Credential) :
      Stepped parseUuid system (.beginUpgrade target version credential)
        (system.beginRequest (.upgradeStarted target version credential))
  | advance {id : Nat} {draw : Draw} {phase : RequestPhase} {next : System}
      (here : system.requests id = some phase)
      (taken : system.advance parseUuid id draw phase = some next) :
      Stepped parseUuid system (.advance id draw) next
  | refuse {id : Nat} {phase : RequestPhase} (here : system.requests id = some phase)
      (error : ApiError) :
      Stepped parseUuid system (.refuse id error) (system.finish id (.error error))
  | mirror {id : Nat} {connection : MirrorConnection} {next : System} (action : Action)
      (here : system.connections id = some connection) (running : connection.phase ≠ .ended)
      (taken : MirrorStep system id connection next) : Stepped parseUuid system action next
  | relay (action : Input.Action) (relay : Input.System) :
      Stepped parseUuid system (.relay action) { system with relay }
  | commit {terminalId : Uuid} {durableTarget : Nat} {closed : Option String} {next : System}
      (taken : system.commit terminalId durableTarget closed = some next) :
      Stepped parseUuid system (.commit terminalId durableTarget closed) next

theorem step_stepped {action : Action} (taken : Upgrade.step parseUuid system action = some next) :
    Stepped parseUuid system action next := by
  have hlive : ∀ {phase : MirrorPhase} {mirror subscriberId : Nat},
      phase = .live mirror subscriberId → phase ≠ .ended := by
    rintro _ mirror subscriberId rfl hended
    cases hended
  cases action with
  | tick =>
    cases taken
    exact .tick
  | registerDevice deviceId identityId role =>
    simp only [Upgrade.step] at taken
    split at taken
    · rename_i inserted
      cases taken
      exact .registerDevice inserted
    · cases taken
  | openTerminal row capacity =>
    simp only [Upgrade.step] at taken
    split at taken
    · cases taken
    · cases taken
      exact .openTerminal row capacity
  | revoke deviceId =>
    simp only [Upgrade.step] at taken
    split at taken
    · cases taken
      exact .revoke deviceId
    · cases taken
  | enforce deviceId => exact .enforce taken
  | requestTicket claims path ttl =>
    cases taken
    exact .requestTicket claims path ttl
  | beginUpgrade target version credential =>
    cases taken
    exact .beginUpgrade target version credential
  | advance id draw =>
    simp only [Upgrade.step] at taken
    split at taken
    · rename_i here
      exact .advance here taken
    · cases taken
  | refuse id error =>
    simp only [Upgrade.step] at taken
    split at taken
    · cases taken
    · cases taken
    · rename_i here
      cases taken
      exact .refuse here error
  | subscribe id fromOffset chunkBytes queueMessages queueBytes =>
    simp only [Upgrade.step] at taken
    split at taken
    · rename_i here
      split at taken
      · rename_i hphase
        cases taken
        exact .mirror _ here (by rw [hphase]; decide) (.subscribe _ _ _ _)
      · cases taken
    · cases taken
  | event id =>
    simp only [Upgrade.step] at taken
    split at taken
    · rename_i here
      split at taken
      · rename_i hphase
        split at taken
        · exact .mirror _ here (hlive hphase) (.event taken)
        · cases taken
      · cases taken
    · cases taken
  | frame id bytes settings =>
    simp only [Upgrade.step] at taken
    split at taken
    · rename_i here
      split at taken
      · rename_i hphase
        exact .mirror _ here (hlive hphase) (.input taken)
      · cases taken
    · cases taken
  | proceed id framesTaken bytesTaken =>
    simp only [Upgrade.step] at taken
    split at taken
    · rename_i here
      split at taken
      · rename_i hphase
        exact .mirror _ here (hlive hphase) (.input taken)
      · cases taken
    · cases taken
  | heartbeat id =>
    simp only [Upgrade.step] at taken
    split at taken
    · rename_i here
      split at taken
      · rename_i hphase
        split at taken
        · cases taken
          exact .mirror _ here (hlive hphase) .heartbeat
        · cases taken
      · cases taken
    · cases taken
  | close id =>
    simp only [Upgrade.step] at taken
    split at taken
    · rename_i here
      split at taken
      · rename_i hphase
        split at taken
        · cases taken
          exact .mirror _ here (hlive hphase) (.leave _ _)
        · cases taken
      · rename_i hphase
        cases taken
        exact .mirror _ here (by rw [hphase]; decide) .abort
      · cases taken
    · cases taken
  | relay action =>
    simp only [Upgrade.step] at taken
    split at taken
    · obtain ⟨relay, -, rfl⟩ := Option.map_eq_some_iff.mp taken
      exact .relay action relay
    · cases taken
  | commit terminalId durableTarget closed => exact .commit taken

theorem revoked_iff (deviceId : Uuid) :
    system.revoked deviceId = true ↔ system.accounts.Revoked deviceId := by
  unfold System.revoked Accounts.Revoked
  cases hdevice : system.accounts.devices deviceId with
  | none => simp
  | some device => simp [Option.isSome_iff_exists]

theorem Barred.initial : Barred System.initial where
  begun := by simp [System.initial]
  tickets := by simp [System.initial, Accounts.empty]
  authenticated := by simp [System.initial]
  barred := by simp [System.initial]

/-- The parts of the state that upgrades and tickets depend on. -/
structure SameAccess (system next : System) : Prop where
  accounts_eq : next.accounts = system.accounts
  requests_eq : next.requests = system.requests
  revokedAtStart_eq : next.revokedAtStart = system.revokedAtStart
  successes_eq : next.successes = system.successes

theorem SameAccess.refl (system : System) : SameAccess system system := ⟨rfl, rfl, rfl, rfl⟩

theorem Barred.of_same (barred : Barred system) (same : SameAccess system next) : Barred next where
  begun := by
    rw [same.revokedAtStart_eq, same.accounts_eq]
    exact barred.begun
  tickets := by
    rw [same.accounts_eq]
    exact barred.tickets
  authenticated := by
    rw [same.requests_eq, same.revokedAtStart_eq]
    exact barred.authenticated
  barred := by
    rw [same.successes_eq]
    exact barred.barred

variable {phase : RequestPhase} {auth : Auth} {draw : Draw} {target : WsPath}
  {version : ProtocolVersion} {connection : MirrorConnection}

section

variable (barred : Barred system)
include barred

theorem Barred.setRequest
    (authenticated : ∀ auth deviceId, phase.auth = some auth → auth.principal = .device deviceId →
      system.revokedAtStart id deviceId = false) : Barred (system.setRequest id phase) where
  begun := barred.begun
  tickets := barred.tickets
  authenticated := by
    intro other phase' auth deviceId hrequest hauth hprincipal
    simp only [System.setRequest, Function.update_apply] at hrequest
    split at hrequest
    · rename_i hother
      cases hrequest
      rw [hother]
      exact authenticated auth deviceId hauth hprincipal
    · exact barred.authenticated _ _ _ _ hrequest hauth hprincipal
  barred := barred.barred

theorem Barred.finish (result : Except ApiError Unit) : Barred (system.finish id result) :=
  barred.setRequest fun _ _ hauth => by cases hauth

theorem Barred.beginRequest
    (unauthenticated : phase.auth = none) : Barred (system.beginRequest phase) where
  begun := by
    intro other deviceId hrevoked
    simp only [System.beginRequest, Function.update_apply] at hrevoked
    split at hrevoked
    · exact (revoked_iff deviceId).mp hrevoked
    · exact barred.begun _ _ hrevoked
  tickets := barred.tickets
  authenticated := by
    intro other phase' auth deviceId hrequest hauth hprincipal
    simp only [System.beginRequest, Function.update_apply] at hrequest ⊢
    split at hrequest
    · cases hrequest
      rw [unauthenticated] at hauth
      cases hauth
    · rename_i hother
      rw [if_neg hother]
      exact barred.authenticated _ _ _ _ hrequest hauth hprincipal
  barred := barred.barred

theorem Barred.insertTicket {path : String} {ttl : Nat}
    (here : system.requests id = some (.ticketAuthorised auth path ttl))
    (allowed : insertsUnrevoked system (.advance id draw) = true) :
    Barred (system.insertTicket id auth path ttl draw.ticketHash) := by
  unfold System.insertTicket Accounts.insertTicket
  split
  · exact barred.finish _
  · rename_i inserted hinserted
    split at hinserted
    · cases hinserted
    · cases hinserted
      have hinsert : Barred { system with accounts := { system.accounts with
          tickets := system.accounts.tickets ++ [⟨draw.ticketHash, auth.principal, auth.identityId,
            path, auth.scopes, system.now + ttl, none⟩] } } := {
        begun := barred.begun
        tickets := by
          intro ticket hticket deviceId hprincipal hrevoked
          cases mem_append.mp hticket with
          | inl old => exact barred.tickets ticket old deviceId hprincipal hrevoked
          | inr new =>
            rw [mem_singleton.mp new] at hprincipal
            have hdevice : auth.principal = .device deviceId := hprincipal
            have hunrevoked : system.revoked deviceId = false := by
              simpa [insertsUnrevoked, here, hdevice] using allowed
            have hbefore : system.revoked deviceId = true := (revoked_iff deviceId).mpr hrevoked
            rw [hbefore] at hunrevoked
            cases hunrevoked
        authenticated := barred.authenticated
        barred := barred.barred }
      exact hinsert.finish _

/-- An unused ticket belongs to no revoked device, and a revoked device's token is
refused: an upgrade that began after the revocation is not authenticated. -/
theorem Barred.authenticateUpgrade (target : WsPath)
    (version : ProtocolVersion) (credential : Credential) :
    Barred (system.authenticateUpgrade id target version credential) := by
  have hunrevoked : ∀ deviceId, ¬ system.accounts.Revoked deviceId →
      system.revokedAtStart id deviceId = false := by
    intro deviceId hrevoked
    cases hstart : system.revokedAtStart id deviceId with
    | false => rfl
    | true => exact absurd (barred.begun _ _ hstart) hrevoked
  cases credential with
  | token claims =>
    simp only [System.authenticateUpgrade]
    split
    · exact barred.finish _
    · rename_i hvalid
      refine barred.setRequest ?_
      intro auth deviceId hauth hprincipal
      cases hauth
      apply hunrevoked
      intro hrevoked
      rw [hprincipal] at hvalid
      exact hvalid (hrevoked.tokenRevoked _)
  | ticket ticketHash =>
    have hdevices := Accounts.consumeTicket_devices system.accounts ticketHash target.text system.now
    have hconsumed : Barred { system with
        accounts := (system.accounts.consumeTicket ticketHash target.text system.now).1 } := {
      begun := by
        intro other deviceId hstart
        have := barred.begun other deviceId hstart
        unfold Accounts.Revoked at this ⊢
        rwa [hdevices]
      tickets := by
        intro ticket hticket deviceId hprincipal hrevoked hunused
        unfold Accounts.Revoked at hrevoked
        rw [hdevices] at hrevoked
        exact barred.tickets ticket (Accounts.mem_consumeTicket hticket hunused) deviceId hprincipal
          hrevoked hunused
      authenticated := barred.authenticated
      barred := barred.barred }
    simp only [System.authenticateUpgrade]
    split
    · exact hconsumed.finish _
    · rename_i record hrecord
      refine hconsumed.setRequest ?_
      intro auth deviceId hauth hprincipal
      cases hauth
      apply hunrevoked
      intro hrevoked
      obtain ⟨ticket, hticket, hunused, hsame⟩ := Accounts.consumeTicket_some hrecord
      exact barred.tickets ticket hticket deviceId (hsame.trans hprincipal) hrevoked hunused

theorem Barred.checkUpgrade
    (here : system.requests id = some (.upgradeAuthenticated target version auth)) :
    Barred (system.checkUpgrade id target version auth) := by
  unfold System.checkUpgrade
  dsimp only
  split
  · exact barred.finish _
  · refine barred.setRequest ?_
    intro auth' deviceId hauth hprincipal
    cases hauth
    exact barred.authenticated _ _ _ _ here rfl hprincipal

theorem Barred.succeed (here : system.requests id = some (.upgradeChecked target version auth)) :
    Barred (system.succeed id target auth) where
  begun := barred.begun
  tickets := barred.tickets
  authenticated := barred.authenticated
  barred := by
    intro success hsuccess
    cases mem_append.mp hsuccess with
    | inl old => exact barred.barred success old
    | inr new =>
      rw [mem_singleton.mp new]
      cases hprincipal : auth.principal with
      | identity => simp [System.begunRevoked]
      | device deviceId =>
        simp only [System.begunRevoked]
        exact barred.authenticated _ _ _ _ here rfl hprincipal

theorem Barred.completeUpgrade
    (here : system.requests id = some (.upgradeChecked target version auth)) :
    Barred (system.completeUpgrade id target version auth draw) := by
  unfold System.completeUpgrade
  split
  · refine Barred.finish ?_ _
    refine Barred.succeed ?_ here
    exact barred.of_same ⟨rfl, rfl, rfl, rfl⟩
  · split
    · exact barred.finish _
    · split
      · exact barred.finish _
      · split
        · exact barred.finish _
        · refine Barred.finish ?_ _
          refine Barred.succeed ?_ here
          exact barred.of_same ⟨rfl, rfl, rfl, rfl⟩

theorem Barred.authoriseTicket (auth : Auth) (path : String) (ttl : Nat) :
    Barred (system.authoriseTicket parseUuid id auth path ttl) := by
  have hauthorised : Barred (system.setRequest id (.ticketAuthorised auth path ttl)) :=
    barred.setRequest fun _ _ hauth => by cases hauth
  unfold System.authoriseTicket
  split
  · exact barred.finish _
  · split
    · exact hauthorised
    · exact barred.finish _
  · split
    · exact hauthorised
    · exact barred.finish _

theorem Barred.advance (here : system.requests id = some phase)
    (allowed : insertsUnrevoked system (.advance id draw) = true)
    (taken : system.advance parseUuid id draw phase = some next) : Barred next := by
  cases phase with
  | ticketAuthenticated auth path ttl =>
    cases taken
    exact barred.authoriseTicket auth path ttl
  | ticketAuthorised auth path ttl =>
    cases taken
    exact barred.insertTicket here allowed
  | upgradeStarted target version credential =>
    cases taken
    exact barred.authenticateUpgrade target version credential
  | upgradeAuthenticated target version auth =>
    cases taken
    exact barred.checkUpgrade here
  | upgradeChecked target version auth =>
    cases taken
    exact barred.completeUpgrade here
  | finished => cases taken

theorem Barred.revoke (deviceId : Uuid) :
    Barred { system with accounts := (system.accounts.revokeDevice deviceId system.now).1 } where
  begun := fun id other hstart =>
    Accounts.revoked_revokeDevice.mpr (.inl (barred.begun id other hstart))
  tickets := by
    intro ticket hticket other hprincipal hrevoked hunused
    simp only [Accounts.revokeDevice, mem_filter, hprincipal, hunused] at hticket
    cases Accounts.revoked_revokeDevice.mp hrevoked with
    | inl earlier => exact barred.tickets ticket hticket.1 other hprincipal earlier hunused
    | inr now =>
      have hother := now.1
      simp [hother] at hticket
  authenticated := barred.authenticated
  barred := barred.barred

theorem Barred.registerDevice {deviceId : Uuid} {identityId : String}
    {role : DeviceRole} {accounts : Accounts}
    (ok : system.accounts.insertDevice deviceId identityId role = .ok accounts) :
    Barred { system with accounts } where
  begun := fun id other hstart => Accounts.Revoked.insertDevice (barred.begun id other hstart) ok
  tickets := by
    intro ticket hticket other hprincipal hrevoked
    refine barred.tickets ticket ?_ other hprincipal (Accounts.revoked_insertDevice ok hrevoked)
    unfold Accounts.insertDevice at ok
    split at ok
    · cases ok
    · cases ok
      exact hticket
  authenticated := barred.authenticated
  barred := barred.barred

end

theorem setHandle_same (terminalId : Uuid) (handle : TerminalHandle) :
    SameAccess system (system.setHandle terminalId handle) := ⟨rfl, rfl, rfl, rfl⟩

theorem leave_same (connection : MirrorConnection) (mirror subscriberId : Nat) :
    SameAccess system (system.leave id connection mirror subscriberId) := by
  unfold System.leave
  dsimp only
  split <;> split <;> exact ⟨rfl, rfl, rfl, rfl⟩

theorem SameAccess.trans {third : System} (first : SameAccess system next)
    (second : SameAccess next third) : SameAccess system third :=
  ⟨second.accounts_eq.trans first.accounts_eq, second.requests_eq.trans first.requests_eq,
    second.revokedAtStart_eq.trans first.revokedAtStart_eq,
    second.successes_eq.trans first.successes_eq⟩

theorem subscribe_same (connection : MirrorConnection) (fromOffset : Option Nat)
    (chunkBytes queueMessages queueBytes : Nat) :
    SameAccess system
      (system.subscribe id connection fromOffset chunkBytes queueMessages queueBytes) := by
  unfold System.subscribe
  split
  · exact ⟨rfl, rfl, rfl, rfl⟩
  · split
    · exact ⟨rfl, rfl, rfl, rfl⟩
    · split
      · exact ⟨rfl, rfl, rfl, rfl⟩
      · dsimp only
        split
        · exact SameAccess.refl system
        · exact ⟨rfl, rfl, rfl, rfl⟩

theorem event_same {mirror subscriberId : Nat}
    (taken : system.event id connection mirror subscriberId = some next) :
    SameAccess system next := by
  unfold System.event at taken
  split at taken
  · cases taken
  · split at taken
    · dsimp only at taken
      split at taken
      · cases taken
        exact ⟨rfl, rfl, rfl, rfl⟩
      · cases taken
        exact (setHandle_same _ _).trans (leave_same _ _ _)
      · cases taken
        exact ⟨rfl, rfl, rfl, rfl⟩
      · cases taken
        exact ⟨rfl, rfl, rfl, rfl⟩
    · split at taken
      · cases taken
      · cases taken
        exact leave_same _ _ _

theorem input_same {mirror subscriberId : Nat} {action : Input.Action}
    (taken : system.input id connection mirror subscriberId action = some next) :
    SameAccess system next := by
  unfold System.input at taken
  split at taken
  · cases taken
  · rename_i relay _
    dsimp only at taken
    have hacted : SameAccess system
        (if system.relay.delivered.length < relay.delivered.length then
          ({ system with relay } : System).act id connection .input
        else { system with relay }) := by
      split <;> exact ⟨rfl, rfl, rfl, rfl⟩
    split at taken
    · split at taken
      · cases taken
        exact hacted.trans (leave_same _ _ _)
      · cases taken
        exact hacted.trans ⟨rfl, rfl, rfl, rfl⟩
      · cases taken
        exact hacted
    · cases taken

theorem enforce_same {deviceId : Uuid} (taken : system.enforce deviceId = some next) :
    SameAccess system next := by
  unfold System.enforce at taken
  split at taken
  · split at taken
    · cases taken
      exact ⟨rfl, rfl, rfl, rfl⟩
    · cases taken
  · cases taken
    exact ⟨rfl, rfl, rfl, rfl⟩
  · cases taken
    exact ⟨rfl, rfl, rfl, rfl⟩
  · cases taken
    split <;> exact ⟨rfl, rfl, rfl, rfl⟩
  · cases taken
    exact ⟨rfl, rfl, rfl, rfl⟩
  · cases taken

theorem mirrorStep_same
    (taken : MirrorStep system id connection next) : SameAccess system next := by
  cases taken with
  | subscribe => exact subscribe_same _ _ _ _ _
  | event taken => exact event_same taken
  | input taken => exact input_same taken
  | leave => exact leave_same _ _ _
  | heartbeat | abort => exact ⟨rfl, rfl, rfl, rfl⟩

theorem Barred.step (barred : Barred system) {action : Action}
    (allowed : insertsUnrevoked system action = true)
    (taken : Upgrade.step parseUuid system action = some next) : Barred next := by
  cases step_stepped taken with
  | tick | openTerminal | relay => exact barred.of_same ⟨rfl, rfl, rfl, rfl⟩
  | registerDevice inserted => exact barred.registerDevice inserted
  | revoke deviceId => exact barred.revoke deviceId
  | enforce taken => exact barred.of_same (enforce_same taken)
  | requestTicket claims path ttl =>
    unfold System.requestTicket
    split
    · exact barred.beginRequest rfl
    · exact barred.beginRequest rfl
  | beginUpgrade => exact barred.beginRequest rfl
  | advance here taken => exact barred.advance here allowed taken
  | refuse here error => exact barred.finish _
  | mirror _ here running taken => exact barred.of_same (mirrorStep_same taken)
  | commit taken =>
    unfold System.commit at taken
    split at taken
    · cases taken
    · cases taken
      exact barred.of_same ⟨rfl, rfl, rfl, rfl⟩

theorem Barred.run {actions : List Action}
    (taken : run (restrict (Upgrade.step parseUuid) fun system action =>
      insertsUnrevoked system action) System.initial actions = some system) : Barred system := by
  refine restrict_invariant ?_ Barred.initial taken
  intro state action after barred allowed hstep
  exact barred.step allowed hstep

/-- In every run where tickets of a device are inserted only while it is not revoked,
no upgrade that began after the device's revocation succeeds as it. -/
theorem no_upgrade_after_revocation {actions : List Action}
    (taken : Library.run (restrict (step parseUuid) fun system action =>
      insertsUnrevoked system action) System.initial actions = some system)
    {success : Success} (succeeded : success ∈ system.successes) :
    success.begunRevoked = false :=
  (Barred.run taken).barred success succeeded

def clientSetup : List Action :=
  [.registerDevice 1 "owner" .publisher, .registerDevice 2 "owner" .client,
    .openTerminal ⟨7, 1, "owner", "shell", "shell", .opened, none, none, none, true, none, 0, 0⟩ 8,
    .tick]

def clientAuth : Auth := ⟨.device 2, "owner", ["terminals:mirror", "terminals:input"]⟩

def mirrorPath : String := "/v1/terminals/00000000-0000-0000-0000-000000000007/mirror"

def parsesSeven : List Char → Option Uuid := fun _ => some 7

def ticketDraw : Draw := ⟨0x51, "mirror", 1⟩

def ticketUpgrade (request : Nat) : List Action :=
  [.beginUpgrade (.mirror 7) .v2 (.ticket 0x51), .advance request ticketDraw,
    .advance request ticketDraw, .advance request ticketDraw]

/-- A ticket is issued and used, and the device revoked afterwards. -/
def promptRun : List Action :=
  clientSetup ++ [.requestTicket ⟨clientAuth, 1⟩ mirrorPath 60, .advance 0 ticketDraw,
    .advance 0 ticketDraw] ++ ticketUpgrade 1 ++ [.revoke 2]

theorem upgrade_before_revocation_in_promptRun :
    ∃ system success, Library.run (restrict (step parsesSeven) fun system action =>
        insertsUnrevoked system action) System.initial promptRun = some system ∧
      success ∈ system.successes ∧ success.principal = .device 2 ∧ success.begunRevoked = false := by
  have hoverall : (Library.run (restrict (step parsesSeven) fun system action =>
      insertsUnrevoked system action) System.initial promptRun).map System.successes =
        some [⟨.device 2, .mirror 7, false⟩] := by decide
  obtain ⟨system, hrun, hsuccesses⟩ := Option.map_eq_some_iff.mp hoverall
  have hmem : (⟨.device 2, .mirror 7, false⟩ : Success) ∈ system.successes := by
    rw [hsuccesses]
    exact mem_singleton.mpr rfl
  exact ⟨system, _, hrun, hmem, rfl, no_upgrade_after_revocation hrun hmem⟩

def lateTicketRun : List Action :=
  clientSetup ++ [.requestTicket ⟨clientAuth, 1⟩ mirrorPath 60, .advance 0 ticketDraw, .revoke 2,
    .advance 0 ticketDraw] ++ ticketUpgrade 1

theorem late_ticket_passes_the_barrier : ¬ ∀ (actions : List Action) (system : System),
      Library.run (step parsesSeven) System.initial actions = some system →
      ∀ success ∈ system.successes, success.begunRevoked = false := by
  intro claim
  have hoverall : (Library.run (step parsesSeven) System.initial lateTicketRun).map
      System.successes = some [⟨.device 2, .mirror 7, true⟩] := by decide
  obtain ⟨system, hrun, hsuccesses⟩ := Option.map_eq_some_iff.mp hoverall
  have hbarred := claim lateTicketRun system hrun ⟨.device 2, .mirror 7, true⟩
    (by rw [hsuccesses]; exact mem_singleton.mpr rfl)
  cases hbarred

end Hypeterm.Http.Upgrade
