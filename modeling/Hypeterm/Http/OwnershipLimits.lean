import Hypeterm.Http.Registration
import Hypeterm.Relay.TerminalLimit

/-! Limits on what an identity and a device own.  The count and the insert are separate
statements, so a limit holds as long as every call that passes its count leaves room for
the calls that passed before and have yet to insert. -/
namespace Hypeterm.Http

open Library
open Db

/-- In every run where each registration, and each open, passes its count only while there
is room for those that passed before and have yet to insert, no identity has more active
devices and no device more open terminals than the limits allow. -/
theorem ownership_limits_hold (fingerprint : Registration.PublicKey → String) :
    (∀ maxDevices actions system,
      run (restrict (Registration.step fingerprint maxDevices) fun system action =>
        Registration.countsInTurn maxDevices system action = true)
        Registration.System.initial actions = some system →
      ∀ identityId, Registration.countActiveDevices system.devices identityId ≤ maxDevices) ∧
    ∀ maxTerminals actions system,
      run (restrict (Relay.Opening.step maxTerminals) fun system action =>
        Relay.Opening.countsInTurn maxTerminals system action = true)
        Relay.Opening.System.initial actions = some system →
      ∀ deviceId, countOpenTerminalsForDevice system.relay.store deviceId ≤ maxTerminals := by
  constructor
  · intro maxDevices actions system taken identityId
    have hlimited : Registration.Limited maxDevices system := by
      refine restrict_invariant ?_ (Registration.Limited.initial maxDevices) taken
      intro state action after limited inTurn hstep
      exact limited.step hstep inTurn
    exact Nat.le_of_add_right_le (hlimited.bound identityId)
  · intro maxTerminals actions system taken deviceId
    have hlimited : Relay.Opening.Limited maxTerminals system := by
      refine restrict_invariant ?_ (Relay.Opening.Limited.initial maxTerminals) taken
      intro state action after limited inTurn hstep
      exact limited.step hstep inTurn
    exact Nat.le_of_add_right_le (hlimited.bound deviceId)

def laptopKey : Registration.PublicKey :=
  ⟨"ed25519", [215, 90, 152, 1, 130, 177, 10, 183, 213, 75, 254, 211, 201, 100, 7, 58, 14, 225,
    114, 243, 218, 166, 35, 37, 175, 2, 26, 104, 247, 7, 81, 26]⟩

def phoneKey : Registration.PublicKey :=
  ⟨"ed25519", [61, 64, 23, 195, 232, 67, 137, 90, 146, 183, 10, 167, 77, 27, 126, 188, 156, 152,
    44, 207, 46, 196, 150, 140, 192, 205, 85, 241, 42, 244, 102, 12]⟩

def fingerprintOf (key : Registration.PublicKey) : String :=
  if key = laptopKey then "ua-jroprt8woJ2nul4HHaz97CY8f7Glt6bqZijY7aCM"
  else "2dggsfizkwGx3xfca4g0HHikwrTdZc39damu5YyFOp4"

def registerKey (key : Registration.PublicKey) : Registration.Action :=
  .register ⟨"owner", key, "workshop", .publisher⟩

def registeredInTurn : List Registration.Action :=
  [registerKey laptopKey, .proceed 0 1, .proceed 0 1, .proceed 0 1, registerKey phoneKey,
    .proceed 1 2, .proceed 1 2, .proceed 1 2]

def openShell (localRef : String) : Relay.Opening.Action :=
  .openTerminal ⟨1, "owner", localRef, "shell", none, none, none, true⟩ 16

def openedInTurn : List Relay.Opening.Action :=
  [openShell "a", .proceed 0 7, .proceed 0 7, .proceed 0 7, openShell "b", .proceed 1 8,
    .proceed 1 8, .proceed 1 8]

theorem ownership_limits_hold_in_turn :
    (∃ system, run (restrict (Registration.step fingerprintOf 2) fun system action =>
        Registration.countsInTurn 2 system action = true)
        Registration.System.initial registeredInTurn = some system ∧
      system.devices.length = 2 ∧ Registration.countActiveDevices system.devices "owner" ≤ 2) ∧
    ∃ system, run (restrict (Relay.Opening.step 2) fun system action =>
        Relay.Opening.countsInTurn 2 system action = true)
        Relay.Opening.System.initial openedInTurn = some system ∧
      system.relay.store.terminals.length = 2 ∧
      countOpenTerminalsForDevice system.relay.store 1 ≤ 2 := by
  obtain ⟨hdevices, hterminals⟩ := ownership_limits_hold fingerprintOf
  have hregistered : (run (restrict (Registration.step fingerprintOf 2) fun system action =>
      Registration.countsInTurn 2 system action = true)
      Registration.System.initial registeredInTurn).map (fun system => system.devices.length) =
        some 2 := by
    decide
  have hopened : (run (restrict (Relay.Opening.step 2) fun system action =>
      Relay.Opening.countsInTurn 2 system action = true)
      Relay.Opening.System.initial openedInTurn).map (fun system =>
        system.relay.store.terminals.length) = some 2 := by
    decide
  constructor
  · obtain ⟨system, htaken, hlength⟩ := Option.map_eq_some_iff.mp hregistered
    exact ⟨system, htaken, hlength, hdevices 2 _ system htaken "owner"⟩
  · obtain ⟨system, htaken, hlength⟩ := Option.map_eq_some_iff.mp hopened
    exact ⟨system, htaken, hlength, hterminals 2 _ system htaken 1⟩

/-- Both calls are counted before either of them inserts. -/
def registeredTogether : List Registration.Action :=
  [registerKey laptopKey, registerKey phoneKey, .proceed 0 1, .proceed 0 1, .proceed 1 2,
    .proceed 1 2, .proceed 0 1, .proceed 1 2]

def openedTogether : List Relay.Opening.Action :=
  [openShell "a", openShell "b", .proceed 0 7, .proceed 0 7, .proceed 1 8, .proceed 1 8,
    .proceed 0 7, .proceed 1 8]

theorem ownership_limits_exceeded_together :
    (∃ system, run (Registration.step fingerprintOf 1) Registration.System.initial
        registeredTogether = some system ∧
      Registration.countActiveDevices system.devices "owner" = 2) ∧
    ∃ system, run (Relay.Opening.step 1) Relay.Opening.System.initial openedTogether =
        some system ∧ countOpenTerminalsForDevice system.relay.store 1 = 2 := by
  have hregistered : (run (Registration.step fingerprintOf 1) Registration.System.initial
      registeredTogether).map (fun system =>
        Registration.countActiveDevices system.devices "owner") = some 2 := by
    decide
  have hopened : (run (Relay.Opening.step 1) Relay.Opening.System.initial openedTogether).map
      (fun system => countOpenTerminalsForDevice system.relay.store 1) = some 2 := by
    decide
  exact ⟨Option.map_eq_some_iff.mp hregistered, Option.map_eq_some_iff.mp hopened⟩

end Hypeterm.Http
