import Hypeterm.Http.UpgradeBarrier

/-! What revocation leaves to a device's own mirrors.  Enforcement takes the
publisher's slot and closes the device's terminals, and the mirror loop has no arm
that rechecks its principal; so access ends in the runs where enforcement finds no
mirror of the device, open or on its way. -/
namespace Hypeterm.Http.Upgrade

open Library List Function
open Db
open Relay

/-- Whom a mirror upgrade in flight has been authenticated as. -/
def RequestPhase.mirrorAuth : RequestPhase → Option Auth
  | .upgradeAuthenticated (.mirror _) _ auth | .upgradeChecked (.mirror _) _ auth => some auth
  | .upgradeAuthenticated (.relay _) _ _ | .upgradeChecked (.relay _) _ _
  | .ticketAuthenticated _ _ _ | .ticketAuthorised _ _ _ | .upgradeStarted _ _ _ | .finished _ => none

def openMirrors (system : System) (deviceId : Uuid) : Bool :=
  (range system.nextConnection).any fun id =>
    match system.connections id with
    | some connection => connection.principal = .device deviceId ∧ connection.phase ≠ .ended
    | none => false

def comingMirrors (system : System) (deviceId : Uuid) : Bool :=
  (range system.nextRequest).any fun id =>
    match system.requests id with
    | some phase => phase.mirrorAuth.any fun auth => auth.principal = .device deviceId
    | none => false

def completesAlone (system : System) : Action → Bool
  | .enforce deviceId =>
      match system.enforcement deviceId with
      | .closing [] => !openMirrors system deviceId && !comingMirrors system deviceId
      | _ => true
  | _ => true

structure Ended (system : System) : Prop where
  connection_lt : ∀ id connection, system.connections id = some connection →
    id < system.nextConnection
  request_lt : ∀ id phase, system.requests id = some phase → id < system.nextRequest
  revoked : ∀ deviceId, system.enforcement deviceId ≠ .idle → system.accounts.Revoked deviceId
  gone : ∀ deviceId, system.enforcement deviceId = .completed → ∀ id connection,
    system.connections id = some connection → connection.principal = .device deviceId →
      connection.phase = .ended
  unclaimed : ∀ deviceId, system.enforcement deviceId = .completed → ∀ id phase auth,
    system.requests id = some phase → phase.mirrorAuth = some auth →
      auth.principal ≠ .device deviceId
  acts : ∀ act ∈ system.acts, act.enforced = false

variable {parseUuid : List Char → Option Uuid} {system next : System} {id : Nat}
  {connection : MirrorConnection}

theorem Ended.initial : Ended System.initial where
  connection_lt := by simp [System.initial]
  request_lt := by simp [System.initial]
  revoked := by simp [System.initial]
  gone := by simp [System.initial]
  unclaimed := by simp [System.initial]
  acts := by simp [System.initial]

section

variable (ended : Ended system)
include ended

theorem Ended.of_eq
    (revoked : ∀ deviceId, system.accounts.Revoked deviceId → next.accounts.Revoked deviceId)
    (enforcement_eq : next.enforcement = system.enforcement)
    (connections_eq : next.connections = system.connections)
    (nextConnection_le : system.nextConnection ≤ next.nextConnection)
    (requests_eq : next.requests = system.requests)
    (nextRequest_eq : next.nextRequest = system.nextRequest)
    (acts_eq : next.acts = system.acts) : Ended next where
  connection_lt := by
    rw [connections_eq]
    exact fun id connection hconnection =>
      Nat.lt_of_lt_of_le (ended.connection_lt id connection hconnection) nextConnection_le
  request_lt := by
    rw [requests_eq, nextRequest_eq]
    exact ended.request_lt
  revoked := by
    rw [enforcement_eq]
    exact fun deviceId hstarted => revoked deviceId (ended.revoked deviceId hstarted)
  gone := by
    rw [enforcement_eq, connections_eq]
    exact ended.gone
  unclaimed := by
    rw [enforcement_eq, requests_eq]
    exact ended.unclaimed
  acts := by
    rw [acts_eq]
    exact ended.acts

theorem Ended.ofRelay (relay : Input.System) : Ended { system with relay } :=
  ended.of_eq (fun _ h => h) rfl rfl (Nat.le_refl _) rfl rfl rfl

theorem Ended.not_enforced (here : system.connections id = some connection)
    (running : connection.phase ≠ .ended) : system.enforced connection.principal = false := by
  cases hprincipal : connection.principal with
  | identity => rfl
  | device deviceId =>
    simp only [System.enforced, decide_eq_false_iff_not]
    intro hcompleted
    exact running (ended.gone deviceId hcompleted id connection here hprincipal)

theorem Ended.setConnection {after : MirrorConnection} (known : id < system.nextConnection)
    (enforced : ∀ deviceId, after.principal = .device deviceId →
      system.enforcement deviceId ≠ .completed) : Ended (system.setConnection id after) where
  connection_lt := by
    intro other connection' hconnection
    simp only [System.setConnection, update_apply] at hconnection
    split at hconnection
    · rename_i hother
      rw [hother]
      exact known
    · exact ended.connection_lt _ _ hconnection
  request_lt := ended.request_lt
  revoked := ended.revoked
  gone := by
    intro deviceId hcompleted other connection' hconnection hprincipal
    simp only [System.setConnection, update_apply] at hconnection
    split at hconnection
    · cases hconnection
      exact absurd hcompleted (enforced deviceId hprincipal)
    · exact ended.gone deviceId hcompleted other connection' hconnection hprincipal
  unclaimed := ended.unclaimed
  acts := ended.acts

theorem Ended.enforcement_ne (here : system.connections id = some connection)
    (running : connection.phase ≠ .ended) :
    ∀ deviceId, connection.principal = .device deviceId →
      system.enforcement deviceId ≠ .completed := by
  intro deviceId hprincipal hcompleted
  exact running (ended.gone deviceId hcompleted id connection here hprincipal)

theorem Ended.moveConnection {after : MirrorConnection}
    (here : system.connections id = some connection) (running : connection.phase ≠ .ended)
    (principal_eq : after.principal = connection.principal) :
    Ended (system.setConnection id after) := by
  refine ended.setConnection (ended.connection_lt _ _ here) ?_
  rw [principal_eq]
  exact ended.enforcement_ne here running

end

theorem Ended.act (ended : Ended system) (here : system.connections id = some connection)
    (running : connection.phase ≠ .ended) (kind : ActKind) :
    Ended (system.act id connection kind) where
  connection_lt := ended.connection_lt
  request_lt := ended.request_lt
  revoked := ended.revoked
  gone := ended.gone
  unclaimed := ended.unclaimed
  acts := by
    intro act hact
    cases mem_append.mp hact with
    | inl old => exact ended.acts act old
    | inr new =>
      rw [mem_singleton.mp new]
      exact ended.not_enforced here running

section

variable (ended : Ended system)
include ended

theorem Ended.setRequest {phase : RequestPhase} (known : id < system.nextRequest)
    (unclaimed : ∀ auth deviceId, phase.mirrorAuth = some auth → auth.principal = .device deviceId →
      system.enforcement deviceId ≠ .completed) : Ended (system.setRequest id phase) where
  connection_lt := ended.connection_lt
  request_lt := by
    intro other phase' hrequest
    simp only [System.setRequest, update_apply] at hrequest
    split at hrequest
    · rename_i hother
      rw [hother]
      exact known
    · exact ended.request_lt _ _ hrequest
  revoked := ended.revoked
  gone := ended.gone
  unclaimed := by
    intro deviceId hcompleted other phase' auth hrequest hauth hprincipal
    simp only [System.setRequest, update_apply] at hrequest
    split at hrequest
    · cases hrequest
      exact unclaimed auth deviceId hauth hprincipal hcompleted
    · exact ended.unclaimed deviceId hcompleted other phase' auth hrequest hauth hprincipal
  acts := ended.acts

theorem Ended.finish (known : id < system.nextRequest)
    (result : Except ApiError Unit) : Ended (system.finish id result) :=
  ended.setRequest known fun _ _ hauth => by cases hauth

theorem Ended.beginRequest {phase : RequestPhase}
    (unauthenticated : phase.mirrorAuth = none) : Ended (system.beginRequest phase) where
  connection_lt := ended.connection_lt
  request_lt := by
    intro other phase' hrequest
    simp only [System.beginRequest, update_apply] at hrequest ⊢
    split at hrequest
    · omega
    · exact Nat.lt_succ_of_lt (ended.request_lt _ _ hrequest)
  revoked := ended.revoked
  gone := ended.gone
  unclaimed := by
    intro deviceId hcompleted other phase' auth hrequest hauth
    simp only [System.beginRequest, update_apply] at hrequest
    split at hrequest
    · cases hrequest
      rw [unauthenticated] at hauth
      cases hauth
    · exact ended.unclaimed deviceId hcompleted other phase' auth hrequest hauth
  acts := ended.acts

theorem Ended.authenticateUpgrade (barred : Barred system)
    (known : id < system.nextRequest) (target : WsPath) (version : ProtocolVersion)
    (credential : Credential) :
    Ended (system.authenticateUpgrade id target version credential) := by
  have hrevoked : ∀ deviceId, ¬ system.accounts.Revoked deviceId →
      system.enforcement deviceId ≠ .completed := by
    intro deviceId hunrevoked hcompleted
    exact hunrevoked (ended.revoked deviceId (by rw [hcompleted]; decide))
  have hauth : ∀ auth auth', (RequestPhase.upgradeAuthenticated target version auth).mirrorAuth =
      some auth' → auth' = auth := by
    intro auth auth' hsome
    cases target with
    | relay => cases hsome
    | mirror =>
      cases hsome
      rfl
  cases credential with
  | token claims =>
    simp only [System.authenticateUpgrade]
    split
    · exact ended.finish known _
    · rename_i hvalid
      refine ended.setRequest known ?_
      intro auth deviceId hsome hprincipal
      rw [hauth _ _ hsome] at hprincipal
      apply hrevoked
      intro hdevice
      rw [hprincipal] at hvalid
      exact hvalid (hdevice.tokenRevoked _)
  | ticket ticketHash =>
    have hconsumed : Ended { system with
        accounts := (system.accounts.consumeTicket ticketHash target.text system.now).1 } := by
      refine ended.of_eq ?_ rfl rfl (Nat.le_refl _) rfl rfl rfl
      intro deviceId hdevice
      unfold Accounts.Revoked at hdevice ⊢
      rwa [Accounts.consumeTicket_devices]
    simp only [System.authenticateUpgrade]
    split
    · exact hconsumed.finish known _
    · rename_i record hrecord
      refine hconsumed.setRequest known ?_
      intro auth deviceId hsome hprincipal
      rw [hauth _ _ hsome] at hprincipal
      apply hrevoked
      intro hdevice
      obtain ⟨ticket, hticket, hunused, hsame⟩ := Accounts.consumeTicket_some hrecord
      exact barred.tickets ticket hticket deviceId (hsame.trans hprincipal) hdevice hunused

theorem Ended.checkUpgrade {target : WsPath} {version : ProtocolVersion}
    {auth : Auth} (here : system.requests id = some (.upgradeAuthenticated target version auth)) :
    Ended (system.checkUpgrade id target version auth) := by
  have hknown := ended.request_lt _ _ here
  unfold System.checkUpgrade
  dsimp only
  split
  · exact ended.finish hknown _
  · refine ended.setRequest hknown ?_
    intro auth' deviceId hauth hprincipal hcompleted
    cases target with
    | relay => cases hauth
    | mirror =>
      cases hauth
      exact ended.unclaimed deviceId hcompleted _ _ _ here rfl hprincipal

theorem Ended.completeUpgrade {target : WsPath} {version : ProtocolVersion}
    {auth : Auth} {draw : Draw}
    (here : system.requests id = some (.upgradeChecked target version auth)) :
    Ended (system.completeUpgrade id target version auth draw) := by
  have hknown := ended.request_lt _ _ here
  unfold System.completeUpgrade
  split
  · refine Ended.finish ?_ ?_ _
    · exact ended.of_eq (fun _ h => h) rfl rfl (Nat.le_refl _) rfl rfl rfl
    · exact hknown
  · rename_i terminalId
    split
    · exact ended.finish hknown _
    · split
      · exact ended.finish hknown _
      · split
        · exact ended.finish hknown _
        · have hcounted : Ended { system with nextConnection := system.nextConnection + 1 } :=
            ended.of_eq (fun _ h => h) rfl rfl (Nat.le_succ _) rfl rfl rfl
          have hconnected : Ended (({ system with nextConnection := system.nextConnection + 1 }
              : System).setConnection system.nextConnection
                ⟨auth.principal, auth.identityId, terminalId, version,
                  version.supportsInput && auth.scopes.contains "terminals:input", .handshake,
                  false⟩) := by
            refine hcounted.setConnection (Nat.lt_succ_self _) ?_
            intro deviceId hprincipal hcompleted
            exact ended.unclaimed deviceId hcompleted _ _ _ here rfl hprincipal
          refine Ended.finish ?_ ?_ _
          · exact hconnected.of_eq (fun _ h => h) rfl rfl (Nat.le_refl _) rfl rfl rfl
          · exact hknown

theorem Ended.advance (barred : Barred system) {phase : RequestPhase}
    {draw : Draw} (here : system.requests id = some phase)
    (taken : system.advance parseUuid id draw phase = some next) : Ended next := by
  have hknown := ended.request_lt _ _ here
  cases phase with
  | ticketAuthenticated auth path ttl =>
    cases taken
    have hauthorised : Ended (system.setRequest id (.ticketAuthorised auth path ttl)) :=
      ended.setRequest hknown fun _ _ hauth => by cases hauth
    unfold System.authoriseTicket
    split
    · exact ended.finish hknown _
    · split
      · exact hauthorised
      · exact ended.finish hknown _
    · split
      · exact hauthorised
      · exact ended.finish hknown _
  | ticketAuthorised auth path ttl =>
    cases taken
    unfold System.insertTicket Accounts.insertTicket
    split
    · exact ended.finish hknown _
    · rename_i hinserted
      split at hinserted
      · cases hinserted
      · cases hinserted
        refine Ended.finish ?_ ?_ _
        · exact ended.of_eq (fun _ h => h) rfl rfl (Nat.le_refl _) rfl rfl rfl
        · exact hknown
  | upgradeStarted target version credential =>
    cases taken
    exact ended.authenticateUpgrade barred hknown target version credential
  | upgradeAuthenticated target version auth =>
    cases taken
    exact ended.checkUpgrade here
  | upgradeChecked target version auth =>
    cases taken
    exact ended.completeUpgrade here
  | finished => cases taken

section

variable (here : system.connections id = some connection) (running : connection.phase ≠ .ended)
include here running

theorem Ended.leave (mirror subscriberId : Nat) :
    Ended (system.leave id connection mirror subscriberId) := by
  unfold System.leave
  dsimp only
  split
  · split
    · exact (ended.ofRelay _).moveConnection here running rfl
    · exact (ended.ofRelay _).moveConnection here running rfl
  · split
    · exact (ended.ofRelay _).moveConnection here running rfl
    · exact ended.moveConnection here running rfl

theorem Ended.subscribe (fromOffset : Option Nat) (chunkBytes queueMessages queueBytes : Nat) :
    Ended (system.subscribe id connection fromOffset chunkBytes queueMessages queueBytes) := by
  unfold System.subscribe
  split
  · exact ended.moveConnection here running rfl
  · split
    · exact ended.moveConnection here running rfl
    · split
      · exact ended.moveConnection here running rfl
      · dsimp only
        split
        · exact ended
        · exact (ended.ofRelay _).moveConnection here running rfl

theorem Ended.event {mirror subscriberId : Nat}
    (taken : system.event id connection mirror subscriberId = some next) : Ended next := by
  unfold System.event at taken
  split at taken
  · cases taken
  · split at taken
    · dsimp only at taken
      split at taken
      · cases taken
        refine Ended.moveConnection ?_ here running rfl
        refine Ended.act ?_ ?_ running .output
        · exact ended.ofRelay _
        · exact here
      · cases taken
        refine Ended.leave ?_ ?_ running mirror subscriberId
        · exact ended.ofRelay _
        · exact here
      · cases taken
        exact (ended.ofRelay _).moveConnection here running rfl
      · cases taken
        exact (ended.ofRelay _).moveConnection here running rfl
    · split at taken
      · cases taken
      · cases taken
        exact ended.leave here running mirror subscriberId

theorem Ended.input {mirror subscriberId : Nat} {action : Input.Action}
    (taken : system.input id connection mirror subscriberId action = some next) : Ended next := by
  unfold System.input at taken
  split at taken
  · cases taken
  · rename_i relay _
    dsimp only at taken
    have hacted : Ended
        (if system.relay.delivered.length < relay.delivered.length then
          ({ system with relay } : System).act id connection .input
        else { system with relay }) := by
      split
      · exact Ended.act (ended.ofRelay relay) here running .input
      · exact ended.ofRelay relay
    have hthere : (if system.relay.delivered.length < relay.delivered.length then
          ({ system with relay } : System).act id connection .input
        else { system with relay }).connections id = some connection := by
      split <;> exact here
    split at taken
    · split at taken
      · cases taken
        exact hacted.leave hthere running mirror subscriberId
      · cases taken
        exact hacted.moveConnection hthere running rfl
      · cases taken
        exact hacted
    · cases taken

end

theorem no_mirror {deviceId : Uuid} (alone : openMirrors system deviceId = false) :
    ∀ id connection, system.connections id = some connection →
      connection.principal = .device deviceId → connection.phase = .ended := by
  intro id connection hconnection hprincipal
  simp only [openMirrors, any_eq_false, mem_range] at alone
  have := alone id (ended.connection_lt _ _ hconnection)
  simpa [hconnection, hprincipal] using this

theorem no_coming {deviceId : Uuid} (alone : comingMirrors system deviceId = false) :
    ∀ id phase auth, system.requests id = some phase → phase.mirrorAuth = some auth →
      auth.principal ≠ .device deviceId := by
  intro id phase auth hrequest hauth
  simp only [comingMirrors, any_eq_false, mem_range] at alone
  have := alone id (ended.request_lt _ _ hrequest)
  simpa [hrequest, hauth] using this

theorem Ended.setEnforcement {deviceId : Uuid} {phase : EnforcePhase}
    (revoked : system.accounts.Revoked deviceId)
    (alone : phase = .completed → openMirrors system deviceId = false ∧
      comingMirrors system deviceId = false) :
    Ended (system.setEnforcement deviceId phase) where
  connection_lt := ended.connection_lt
  request_lt := ended.request_lt
  revoked := by
    intro other hstarted
    simp only [System.setEnforcement, update_apply] at hstarted
    split at hstarted
    · rename_i hother
      exact hother ▸ revoked
    · exact ended.revoked other hstarted
  gone := by
    intro other hcompleted
    simp only [System.setEnforcement, update_apply] at hcompleted
    split at hcompleted
    · rename_i hother
      rw [hother]
      exact no_mirror ended (alone hcompleted).1
    · exact ended.gone other hcompleted
  unclaimed := by
    intro other hcompleted
    simp only [System.setEnforcement, update_apply] at hcompleted
    split at hcompleted
    · rename_i hother
      rw [hother]
      exact no_coming ended (alone hcompleted).2
    · exact ended.unclaimed other hcompleted
  acts := ended.acts

theorem Ended.enforce {deviceId : Uuid} (allowed : completesAlone system (.enforce deviceId) = true)
    (taken : system.enforce deviceId = some next) : Ended next := by
  have hstarted : ∀ phase, system.enforcement deviceId = phase → phase ≠ .idle →
      system.accounts.Revoked deviceId := by
    intro phase hphase hidle
    exact ended.revoked deviceId (hphase ▸ hidle)
  unfold System.enforce at taken
  split at taken
  · split at taken
    · rename_i hrevoked
      cases taken
      exact (ended.ofRelay _).setEnforcement ((revoked_iff deviceId).mp hrevoked)
        (fun h => by cases h)
    · cases taken
  · rename_i hphase
    cases taken
    exact (ended.ofRelay _).setEnforcement (hstarted _ hphase (by decide)) (fun h => by cases h)
  · rename_i hphase
    cases taken
    exact ended.setEnforcement (hstarted _ hphase (by decide)) (fun h => by cases h)
  · rename_i hphase
    cases taken
    have hrevoked := hstarted _ hphase (fun h => by cases h)
    split
    · exact (ended.ofRelay _).setEnforcement hrevoked (fun h => by cases h)
    · exact ended.setEnforcement hrevoked (fun h => by cases h)
  · rename_i hphase
    cases taken
    refine ended.setEnforcement (hstarted _ hphase (by decide)) ?_
    intro _
    simpa [completesAlone, hphase] using allowed
  · cases taken

theorem Ended.mirrorStep (here : system.connections id = some connection)
    (running : connection.phase ≠ .ended) (taken : MirrorStep system id connection next) :
    Ended next := by
  cases taken with
  | subscribe => exact ended.subscribe here running _ _ _ _
  | event taken => exact ended.event here running taken
  | input taken => exact ended.input here running taken
  | leave mirror subscriberId => exact ended.leave here running mirror subscriberId
  | heartbeat | abort => exact ended.moveConnection here running rfl

end

theorem Ended.step (ended : Ended system) (barred : Barred system) {action : Action}
    (allowed : completesAlone system action = true)
    (taken : Upgrade.step parseUuid system action = some next) : Ended next := by
  cases step_stepped taken with
  | tick | openTerminal => exact ended.of_eq (fun _ h => h) rfl rfl (Nat.le_refl _) rfl rfl rfl
  | registerDevice inserted =>
    exact ended.of_eq (fun _ h => h.insertDevice inserted) rfl rfl (Nat.le_refl _) rfl rfl rfl
  | revoke deviceId =>
    exact ended.of_eq (fun _ h => Accounts.revoked_revokeDevice.mpr (.inl h)) rfl rfl
      (Nat.le_refl _) rfl rfl rfl
  | enforce taken => exact ended.enforce allowed taken
  | requestTicket claims path ttl =>
    unfold System.requestTicket
    split
    · exact ended.beginRequest rfl
    · exact ended.beginRequest rfl
  | beginUpgrade => exact ended.beginRequest rfl
  | advance here taken => exact ended.advance barred here taken
  | refuse here error => exact ended.finish (ended.request_lt _ _ here) _
  | mirror _ here running taken => exact ended.mirrorStep here running taken
  | relay action relay => exact ended.ofRelay relay
  | commit taken =>
    unfold System.commit at taken
    split at taken
    · cases taken
    · cases taken
      exact ended.of_eq (fun _ h => h) rfl rfl (Nat.le_refl _) rfl rfl rfl

/-- The revocation of device 2, up to the end of its enforcement. -/
def revocation : List Action :=
  [.revoke 2, .enforce 2, .enforce 2, .enforce 2, .enforce 2]

end Hypeterm.Http.Upgrade
