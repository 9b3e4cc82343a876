import Hypeterm.Library.Tasks
import Hypeterm.Relay.Loading

/-! The open terminals of a device, with those whose open has passed its count. -/
namespace Hypeterm.Relay.Opening

open Library List
open Db

def Call.inserts (deviceId : Uuid) (call : Call) : Bool :=
  match call.phase with
  | .inserting request => request.deviceId = deviceId
  | _ => false

def System.admitted (system : System) (deviceId : Uuid) : Nat :=
  countTasks (Call.inserts deviceId) system.calls system.nextCall

/-- An open passes its count only while there is room for every open of its device that
passed before and is still to insert. -/
def countsInTurn (maxTerminals : Nat) (system : System) : Action → Bool
  | .proceed id _ =>
      match (system.calls id).map Call.phase with
      | some (.counting request) =>
          maxTerminals ≤ countOpenTerminalsForDevice system.relay.store request.deviceId ||
            countOpenTerminalsForDevice system.relay.store request.deviceId +
              system.admitted request.deviceId < maxTerminals
      | _ => true
  | _ => true

structure Limited (maxTerminals : Nat) (system : System) : Prop where
  shape : CallShape system
  bound : ∀ deviceId, countOpenTerminalsForDevice system.relay.store deviceId +
    system.admitted deviceId ≤ maxTerminals

theorem Limited.initial (maxTerminals : Nat) : Limited maxTerminals System.initial where
  shape := CallShape.initial
  bound := fun _ => Nat.zero_le _

variable {maxTerminals id : Nat} {system next : System} {call : Call}

section

variable (limited : Limited maxTerminals system)
include limited

theorem Limited.move (shape : CallShape next) {later : Call} (found : system.calls id = some call)
    (calls_eq : next.calls = Function.update system.calls id (some later))
    (nextCall_eq : next.nextCall = system.nextCall)
    (paid : ∀ deviceId, countOpenTerminalsForDevice next.relay.store deviceId +
        system.admitted deviceId + (if later.inserts deviceId then 1 else 0) ≤
      maxTerminals + if call.inserts deviceId then 1 else 0) : Limited maxTerminals next where
  shape := shape
  bound := by
    intro deviceId
    unfold System.admitted
    rw [calls_eq, nextCall_eq]
    exact limit_update found (limited.shape.below id call found) (paid deviceId)

theorem Limited.leave (shape : CallShape next) {later : Call} (found : system.calls id = some call)
    (calls_eq : next.calls = Function.update system.calls id (some later))
    (nextCall_eq : next.nextCall = system.nextCall)
    (store_eq : next.relay.store = system.relay.store)
    (leaves : ∀ request, later.phase ≠ .inserting request) : Limited maxTerminals next := by
  refine limited.move shape found calls_eq nextCall_eq ?_
  intro deviceId
  have hbound := limited.bound deviceId
  have hleaves : later.inserts deviceId = false := by
    unfold Call.inserts
    split
    · rename_i request hphase
      exact absurd hphase (leaves request)
    · rfl
  rw [store_eq, hleaves]
  simp only [Bool.false_eq_true, ↓reduceIte]
  omega

theorem Limited.begin {capacity : Nat} {phase : Phase}
    (shape : CallShape (system.begin capacity phase))
    (leaves : ∀ deviceId, Call.inserts deviceId ⟨capacity, phase⟩ = false) :
    Limited maxTerminals (system.begin capacity phase) where
  shape := shape
  bound := by
    intro deviceId
    have hbound := limited.bound deviceId
    unfold System.admitted System.begin
    rw [countTasks_start, leaves deviceId]
    exact hbound

theorem Limited.find
    (found : system.calls id = some call) (request : OpenRequest) {otherwise : Phase}
    (free : otherwise.row? = none) (leaves : ∀ request, otherwise ≠ .inserting request) :
    Limited maxTerminals (system.find id call request otherwise) := by
  have hshape := limited.shape.find found request free
  unfold System.find at hshape ⊢
  split at hshape
  · exact limited.leave hshape found rfl rfl rfl nofun
  · exact limited.leave hshape found rfl rfl rfl leaves

theorem Limited.count {request : OpenRequest}
    (found : system.calls id = some call) (counting : call.phase = .counting request)
    (inTurn : countsInTurn maxTerminals system (.proceed id 0) = true) :
    Limited maxTerminals (system.count maxTerminals id call request) := by
  have hshape := limited.shape.count maxTerminals found request
  rcases count_cases maxTerminals system id call request with ⟨message, hcount⟩ | ⟨hbelow, hcount⟩
  · rw [hcount] at hshape ⊢
    exact limited.leave hshape found rfl rfl rfl nofun
  · rw [hcount] at hshape ⊢
    have hroom : countOpenTerminalsForDevice system.relay.store request.deviceId +
        system.admitted request.deviceId < maxTerminals := by
      simp only [countsInTurn, found, Option.map_some, counting, Bool.or_eq_true,
        decide_eq_true_eq] at inTurn
      exact inTurn.resolve_left (Nat.not_le.mpr hbelow)
    refine limited.move hshape found rfl rfl ?_
    intro deviceId
    have hbound := limited.bound deviceId
    change countOpenTerminalsForDevice system.relay.store deviceId + _ + _ ≤ _
    by_cases hown : request.deviceId = deviceId
    · subst hown
      simp [Call.inserts, counting]
      omega
    · simp [Call.inserts, hown]
      omega

end

theorem countOpenTerminals_concat (store : Store) {row : TerminalRow} (opened : row.state = .opened)
    (deviceId : Uuid) :
    countOpenTerminalsForDevice { store with terminals := store.terminals ++ [row] } deviceId =
      countOpenTerminalsForDevice store deviceId +
        if row.deviceId = deviceId then 1 else 0 := by
  unfold countOpenTerminalsForDevice
  rw [filter_append, length_append]
  by_cases hown : row.deviceId = deviceId
  · simp [hown, opened]
  · simp [hown]

theorem countOpenTerminals_map {store after : Store} {f : TerminalRow → TerminalRow}
    (keeps : KeepsRows f) (terminals_eq : after.terminals = store.terminals.map f)
    (deviceId : Uuid) :
    countOpenTerminalsForDevice after deviceId ≤ countOpenTerminalsForDevice store deviceId := by
  unfold countOpenTerminalsForDevice
  rw [terminals_eq, ← countP_eq_length_filter, ← countP_eq_length_filter, countP_map]
  apply countP_mono_left
  intro row _ hopen
  simp only [Function.comp_apply, decide_eq_true_eq, keeps.deviceId_eq] at hopen ⊢
  refine ⟨hopen.1, ?_⟩
  cases hstate : row.state with
  | opened => rfl
  | closed => cases hopen.2.symm.trans (keeps.closed row hstate)

section

variable (limited : Limited maxTerminals system) (found : system.calls id = some call)
include limited found

theorem Limited.insert {request : OpenRequest} (inserting : call.phase = .inserting request)
    (fresh : Uuid) : Limited maxTerminals (system.insert id call request fresh) := by
  have hshape := limited.shape.insert found request fresh
  unfold System.insert at hshape ⊢
  split at hshape
  · rename_i row store hinserted
    obtain ⟨_, _, hdevice, _, hopened, rfl⟩ := insertTerminal_ok hinserted
    refine limited.move hshape found rfl rfl ?_
    intro deviceId
    have hbound := limited.bound deviceId
    change countOpenTerminalsForDevice { system.relay.store with
      terminals := system.relay.store.terminals ++ [row] } deviceId + _ + _ ≤ _
    rw [countOpenTerminals_concat system.relay.store hopened, hdevice]
    by_cases hown : request.deviceId = deviceId
    · simp [Call.inserts, inserting, hown]
      omega
    · simp [Call.inserts, hown]
      omega
  · exact limited.leave hshape found rfl rfl rfl nofun

theorem Limited.finish {row : TerminalRow} {origin : Origin}
    {handle : TerminalHandle} {resident : Bool}
    (shape : CallShape (system.finish id call row origin handle resident)) :
    Limited maxTerminals (system.finish id call row origin handle resident) := by
  obtain ⟨hstore, hnext, hcalls⟩ := store_finish system id call row origin handle resident
  exact limited.leave shape found hcalls hnext hstore nofun

theorem Limited.proceed {fresh : Uuid}
    (taken : system.proceed maxTerminals id call fresh = some next)
    (inTurn : countsInTurn maxTerminals system (.proceed id fresh) = true) :
    Limited maxTerminals next := by
  have hshape := limited.shape.proceed found taken
  cases proceed_proceeded taken with
  | finds | refinds => exact limited.find found _ rfl nofun
  | counts request phase_eq => exact limited.count found phase_eq inTurn
  | inserts request phase_eq => exact limited.insert found phase_eq fresh
  | looks | misses | reads | unknown | obtains | waits | acquires | releases | loads | builds
  | corrupt | attaches => exact limited.leave hshape found rfl rfl rfl nofun
  | finishesEvicted | finishes => exact limited.finish found hshape

end

theorem inserts_keepEvicted (relay : Relay.System) (deviceId : Uuid) (call : Call) :
    (System.keepEvicted relay call).inserts deviceId = call.inserts deviceId := by
  unfold System.keepEvicted
  split
  · rename_i hphase
    simp [Call.inserts, hphase]
  · rfl

theorem Limited.step {action : Action} (limited : Limited maxTerminals system)
    (taken : Opening.step maxTerminals system action = some next)
    (inTurn : countsInTurn maxTerminals system action = true) : Limited maxTerminals next := by
  have hshape := limited.shape.step taken
  cases step_stepped taken with
  | opens | loads => exact limited.begin hshape fun _ => rfl
  | proceeds id fresh call found proceeds => exact limited.proceed found proceeds inTurn
  | fails id call error found => exact limited.leave hshape found rfl rfl rfl nofun
  | retries id call request error found => exact limited.leave hshape found rfl rfl rfl nofun
  | abandons id call row origin error found => exact limited.leave hshape found rfl rfl rfl nofun
  | evicts =>
    refine ⟨hshape, ?_⟩
    intro deviceId
    have hsame : system.evictRetired.admitted deviceId = system.admitted deviceId := by
      apply countTasks_congr
      intro id _
      change ((system.calls id).map _).any _ = _
      cases system.calls id with
      | none => rfl
      | some call => exact inserts_keepEvicted system.relay deviceId call
    rw [hsame]
    exact limited.bound deviceId
  | relays action relay allowed running hstep =>
    obtain ⟨f, hkeeps, hterminals⟩ := terminals_step hstep (by
      rintro _ _ _ _ _ _ _ _ _ rfl
      cases allowed)
    refine ⟨hshape, ?_⟩
    intro deviceId
    exact (Nat.add_le_add_right (countOpenTerminals_map hkeeps hterminals deviceId) _).trans
      (limited.bound deviceId)
  | crashes relay hstep =>
    cases hstep
    refine ⟨hshape, ?_⟩
    intro deviceId
    unfold System.admitted
    rw [countTasks_none]
    exact Nat.le_of_add_right_le (limited.bound deviceId)

end Hypeterm.Relay.Opening
