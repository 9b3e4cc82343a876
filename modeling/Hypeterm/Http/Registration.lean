import Hypeterm.Db.Output
import Hypeterm.Library.Runs
import Hypeterm.Library.Tasks

/-! Registration of devices. Only the insert is a transaction, and every call has a pooled
connection of its own, so that other calls may act between the three statements. -/
namespace Hypeterm.Http.Registration

open Library List
open Db

structure PublicKey where
  algorithm : String
  bytes : Bytes
  deriving DecidableEq

structure DeviceRow where
  deviceId : Uuid
  identityId : String
  algorithm : String
  publicKey : Bytes
  keyFingerprint : String
  name : String
  role : DeviceRole
  revokedAt : Option Nat
  deriving DecidableEq

/-- What reaches the database call: the identity is authenticated, and the possession of
the key is proved. -/
structure Request where
  identityId : String
  key : PublicKey
  name : String
  role : DeviceRole

def getDeviceByFingerprint (devices : List DeviceRow) (fingerprint : String) : Option DeviceRow :=
  devices.find? fun device => device.keyFingerprint = fingerprint

def countActiveDevices (devices : List DeviceRow) (identityId : String) : Nat :=
  (devices.filter fun device => device.identityId = identityId ∧ device.revokedAt = none).length

/-- `INSERT INTO devices`: both the identifier and the key must be new. -/
def insertDevice (fingerprint : PublicKey → String) (devices : List DeviceRow) (deviceId : Uuid)
    (request : Request) : Except ApiError (DeviceRow × List DeviceRow) :=
  let device : DeviceRow :=
    { deviceId, identityId := request.identityId, algorithm := request.key.algorithm
      publicKey := request.key.bytes, keyFingerprint := fingerprint request.key
      name := request.name, role := request.role, revokedAt := none }
  if devices.any fun stored => stored.deviceId = deviceId then
    .error (.internal "database error: UNIQUE constraint failed: devices.device_id")
  else if devices.any fun stored => stored.keyFingerprint = device.keyFingerprint then
    .error (.internal "database error: UNIQUE constraint failed: devices.key_fingerprint")
  else .ok (device, devices ++ [device])

def revokeDevice (devices : List DeviceRow) (deviceId : Uuid) (now : Nat) : List DeviceRow :=
  update DeviceRow.deviceId deviceId
    (fun device => { device with revokedAt := device.revokedAt.or (some now) }) devices

inductive Phase where
  | finding
  | counting
  | inserting
  | registered (device : DeviceRow)
  | failed (error : ApiError)
  deriving DecidableEq

structure Call where
  request : Request
  phase : Phase

structure System where
  devices : List DeviceRow
  calls : Nat → Option Call
  nextCall : Nat

def System.initial : System := ⟨[], fun _ => none, 0⟩

/-- `proceed` names the identifier that an insert would generate. -/
inductive Action where
  | register (request : Request)
  | proceed (call : Nat) (fresh : Uuid)
  | databaseFails (call : Nat) (error : ApiError)
  | revoke (deviceId : Uuid) (now : Nat)
  | crash

namespace System

def setPhase (system : System) (id : Nat) (call : Call) (phase : Phase) : System :=
  { system with calls := Function.update system.calls id (some { call with phase }) }

def find (fingerprint : PublicKey → String) (system : System) (id : Nat) (call : Call) : System :=
  match getDeviceByFingerprint system.devices (fingerprint call.request.key) with
  | some existing =>
      system.setPhase id call (.failed (.conflict
        ("this device key is already registered as device " ++ uuidText existing.deviceId)))
  | none => system.setPhase id call .counting

def count (maxDevices : Nat) (system : System) (id : Nat) (call : Call) : System :=
  let count := countActiveDevices system.devices call.request.identityId
  if maxDevices ≤ count then
    system.setPhase id call (.failed (.limitExceeded
      s!"identity already owns {count} devices, the limit is {maxDevices}"))
  else system.setPhase id call .inserting

def insert (fingerprint : PublicKey → String) (system : System) (id : Nat) (call : Call)
    (fresh : Uuid) : System :=
  match insertDevice fingerprint system.devices fresh call.request with
  | .ok (device, devices) =>
      ({ system with devices } : System).setPhase id call (.registered device)
  | .error error => system.setPhase id call (.failed error)

end System

def step (fingerprint : PublicKey → String) (maxDevices : Nat) (system : System) :
    Action → Option System
  | .register request =>
      some { system with
        calls := Function.update system.calls system.nextCall (some ⟨request, .finding⟩)
        nextCall := system.nextCall + 1 }
  | .proceed id fresh =>
      (system.calls id).bind fun call =>
        match call.phase with
        | .finding => some (system.find fingerprint id call)
        | .counting => some (system.count maxDevices id call)
        | .inserting => some (system.insert fingerprint id call fresh)
        | .registered _ | .failed _ => none
  | .databaseFails id error =>
      (system.calls id).bind fun call =>
        match call.phase with
        | .finding | .counting | .inserting => some (system.setPhase id call (.failed error))
        | .registered _ | .failed _ => none
  | .revoke deviceId now => some { system with devices := revokeDevice system.devices deviceId now }
  | .crash => some { system with calls := fun _ => none }

def Call.inserts (identityId : String) (call : Call) : Bool :=
  call.phase = .inserting ∧ call.request.identityId = identityId

def System.admitted (system : System) (identityId : String) : Nat :=
  countTasks (Call.inserts identityId) system.calls system.nextCall

/-- A registration passes its count only while there is room for every registration of
its identity that passed before and is still to insert. -/
def countsInTurn (maxDevices : Nat) (system : System) : Action → Bool
  | .proceed id _ =>
      match system.calls id with
      | some ⟨request, .counting⟩ =>
          maxDevices ≤ countActiveDevices system.devices request.identityId ||
            countActiveDevices system.devices request.identityId +
              system.admitted request.identityId < maxDevices
      | _ => true
  | _ => true

structure Limited (maxDevices : Nat) (system : System) : Prop where
  below : ∀ id call, system.calls id = some call → id < system.nextCall
  bound : ∀ identityId,
    countActiveDevices system.devices identityId + system.admitted identityId ≤ maxDevices

theorem Limited.initial (maxDevices : Nat) : Limited maxDevices System.initial where
  below := fun _ _ found => nomatch found
  bound := fun _ => Nat.zero_le _

variable {maxDevices id : Nat} {system : System} {call : Call} {fingerprint : PublicKey → String}

section

variable (limited : Limited maxDevices system) (found : system.calls id = some call)
include limited found

theorem Limited.move {devices : List DeviceRow} {phase : Phase}
    (paid : ∀ identityId, countActiveDevices devices identityId + system.admitted identityId +
        (if ({ call with phase } : Call).inserts identityId then 1 else 0) ≤
      maxDevices + if call.inserts identityId then 1 else 0) :
    Limited maxDevices (({ system with devices } : System).setPhase id call phase) where
  below := by
    intro other stored hstored
    change Function.update system.calls id _ other = _ at hstored
    rw [Function.update_apply] at hstored
    split at hstored
    · rename_i hsame
      rw [hsame]
      exact limited.below id call found
    · exact limited.below other stored hstored
  bound := fun identityId => limit_update found (limited.below id call found) (paid identityId)

theorem Limited.leave {phase : Phase}
    (leaves : phase ≠ .inserting) : Limited maxDevices (system.setPhase id call phase) := by
  refine limited.move found ?_
  intro identityId
  have hbound := limited.bound identityId
  simp only [Call.inserts, leaves, false_and, decide_false, Bool.false_eq_true, ↓reduceIte]
  omega

theorem Limited.count (counting : call.phase = .counting)
    (inTurn : countsInTurn maxDevices system (.proceed id 0) = true) :
    Limited maxDevices (system.count maxDevices id call) := by
  unfold System.count
  dsimp only
  split
  · exact limited.leave found nofun
  · rename_i hbelow
    have hroom : countActiveDevices system.devices call.request.identityId +
        system.admitted call.request.identityId < maxDevices := by
      obtain ⟨request, phase⟩ := call
      subst counting
      simp only [countsInTurn, found, Bool.or_eq_true, decide_eq_true_eq] at inTurn
      exact inTurn.resolve_left hbelow
    refine limited.move found ?_
    intro identityId
    have hbound := limited.bound identityId
    by_cases hown : call.request.identityId = identityId
    · subst hown
      simp [Call.inserts, counting]
      omega
    · simp [Call.inserts, hown]
      omega

end

theorem countActiveDevices_append (devices : List DeviceRow) (device : DeviceRow)
    (active : device.revokedAt = none) (identityId : String) :
    countActiveDevices (devices ++ [device]) identityId =
      countActiveDevices devices identityId +
        if device.identityId = identityId then 1 else 0 := by
  unfold countActiveDevices
  rw [filter_append, length_append]
  by_cases hown : device.identityId = identityId
  · simp [hown, active]
  · simp [hown]

theorem insertDevice_ok {devices after : List DeviceRow}
    {deviceId : Uuid} {request : Request} {device : DeviceRow}
    (inserted : insertDevice fingerprint devices deviceId request = .ok (device, after)) :
    device.identityId = request.identityId ∧ device.revokedAt = none ∧
      after = devices ++ [device] := by
  unfold insertDevice at inserted
  dsimp only at inserted
  split at inserted
  · cases inserted
  · split at inserted
    · cases inserted
    · cases inserted
      exact ⟨rfl, rfl, rfl⟩

theorem Limited.insert (limited : Limited maxDevices system)
    (found : system.calls id = some call) (inserting : call.phase = .inserting) (fresh : Uuid) :
    Limited maxDevices (system.insert fingerprint id call fresh) := by
  unfold System.insert
  split
  · rename_i device devices hinserted
    obtain ⟨hidentity, hactive, rfl⟩ := insertDevice_ok hinserted
    refine limited.move found ?_
    intro identityId
    have hbound := limited.bound identityId
    rw [countActiveDevices_append _ _ hactive, hidentity]
    by_cases hown : call.request.identityId = identityId
    · simp [Call.inserts, inserting, hown]
      omega
    · simp [Call.inserts, hown]
      omega
  · exact limited.leave found nofun

theorem countActiveDevices_revoke (devices : List DeviceRow) (deviceId : Uuid) (now : Nat)
    (identityId : String) :
    countActiveDevices (revokeDevice devices deviceId now) identityId ≤
      countActiveDevices devices identityId := by
  unfold countActiveDevices revokeDevice update
  rw [← countP_eq_length_filter, ← countP_eq_length_filter, countP_map]
  apply countP_mono_left
  intro device _ hactive
  simp only [Function.comp_apply, decide_eq_true_eq] at hactive ⊢
  split at hactive
  · obtain ⟨hidentity, hunrevoked⟩ := hactive
    cases hrevoked : device.revokedAt with
    | none => exact ⟨hidentity, rfl⟩
    | some _ =>
      rw [hrevoked] at hunrevoked
      cases hunrevoked
  · exact hactive

theorem Limited.step {next : System} {action : Action} (limited : Limited maxDevices system)
    (taken : Registration.step fingerprint maxDevices system action = some next)
    (inTurn : countsInTurn maxDevices system action = true) : Limited maxDevices next := by
  cases action with
  | register request =>
    cases taken
    constructor
    · intro id call found
      dsimp only at found ⊢
      rw [Function.update_apply] at found
      split at found
      · omega
      · have := limited.below id call found
        omega
    · intro identityId
      have hbound := limited.bound identityId
      unfold System.admitted at hbound ⊢
      rw [countTasks_start]
      simpa [Call.inserts] using hbound
  | proceed id fresh =>
    obtain ⟨call, found, hproceed⟩ := Option.bind_eq_some_iff.mp taken
    split at hproceed
    · cases hproceed
      unfold System.find
      split
      · exact limited.leave found nofun
      · exact limited.leave found nofun
    · rename_i hphase
      cases hproceed
      exact limited.count found hphase inTurn
    · rename_i hphase
      cases hproceed
      exact limited.insert found hphase fresh
    · cases hproceed
    · cases hproceed
  | databaseFails id error =>
    obtain ⟨call, found, hfails⟩ := Option.bind_eq_some_iff.mp taken
    split at hfails
    · cases hfails
      exact limited.leave found nofun
    · cases hfails
      exact limited.leave found nofun
    · cases hfails
      exact limited.leave found nofun
    · cases hfails
    · cases hfails
  | revoke deviceId now =>
    cases taken
    refine ⟨limited.below, ?_⟩
    intro identityId
    exact (Nat.add_le_add_right (countActiveDevices_revoke system.devices deviceId now identityId)
      _).trans (limited.bound identityId)
  | crash =>
    cases taken
    refine ⟨(fun _ _ found => nomatch found), ?_⟩
    intro identityId
    have hbound := limited.bound identityId
    unfold System.admitted
    rw [countTasks_none]
    exact (Nat.le_add_right _ _).trans hbound

end Hypeterm.Http.Registration
