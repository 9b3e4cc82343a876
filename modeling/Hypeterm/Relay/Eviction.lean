import Hypeterm.Relay.Residency

/-! Which closed terminals `evict_retired` takes out of memory.  Eviction asks whether a handle
is retired, and only a close that is committed while the handle is resident retires it. -/
namespace Hypeterm.Relay

open Library
open Db

def TerminalHandle.isClosed (handle : TerminalHandle) : Bool :=
  match handle.inner.lifecycle with
  | .closed _ => true
  | .opened | .closing _ => false

def TerminalHandle.spent (handle : TerminalHandle) : Bool :=
  handle.isClosed && handle.subscriberCount == 0 && handle.dirtyBytes == 0

theorem isClosed_of_closing {handle : TerminalHandle} {reason : String}
    (closing : handle.inner.lifecycle = .closing reason) : handle.isClosed = false := by
  unfold TerminalHandle.isClosed
  rw [closing]

/-- What became of a handle after it was built: a closed one stays as it was loaded, and any
other is retired once it is closed. -/
structure Since (loaded handle : TerminalHandle) : Prop where
  closed : loaded.isClosed = true → handle.isClosed = true
  retired : handle.inner.retired = (handle.isClosed && !loaded.isClosed)

theorem Since.fromRow (row : TerminalRow) (capacity : Nat) (retained : Bytes) :
    Since (TerminalHandle.fromRow row capacity retained)
      (TerminalHandle.fromRow row capacity retained) where
  closed := id
  retired := (Bool.and_not_self _).symm

theorem Since.apply {loaded handle : TerminalHandle} (since : Since loaded handle)
    (op : HandleOp) : Since loaded (handle.apply op) := by
  obtain ⟨hretired, hlifecycle⟩ := apply_lifecycle handle op
  have hclosed : (handle.apply op).isClosed = handle.isClosed := by
    rcases hlifecycle with hsame | ⟨reason, _, hopened, hclosing⟩
    · unfold TerminalHandle.isClosed
      rw [hsame]
    · rw [isClosed_of_closing hclosing]
      unfold TerminalHandle.isClosed
      rw [hopened]
  constructor
  · rw [hclosed]
    exact since.closed
  · rw [hretired, hclosed]
    exact since.retired

theorem Since.commitDurable {loaded handle : TerminalHandle} (since : Since loaded handle)
    (durableTarget : Nat) {closed : Option String}
    (closing : ∀ reason, closed = some reason → handle.inner.lifecycle = .closing reason) :
    Since loaded (handle.commitDurable durableTarget closed) := by
  obtain ⟨hlifecycle, hretired⟩ := commitDurable_lifecycle handle durableTarget closed
  cases closed with
  | none =>
    have hclosed : (handle.commitDurable durableTarget none).isClosed = handle.isClosed := by
      unfold TerminalHandle.isClosed
      rw [hlifecycle]
      rfl
    constructor
    · rw [hclosed]
      exact since.closed
    · rw [hretired, hclosed]
      exact since.retired
  | some reason =>
    have hloaded : loaded.isClosed = false := by
      cases hloaded : loaded.isClosed with
      | false => rfl
      | true =>
        have hopen := isClosed_of_closing (closing reason rfl)
        cases (since.closed hloaded).symm.trans hopen
    have hclosed : (handle.commitDurable durableTarget (some reason)).isClosed = true := by
      unfold TerminalHandle.isClosed
      rw [hlifecycle]
      rfl
    constructor
    · exact fun _ => hclosed
    · rw [hretired, hclosed, hloaded]
      rfl

theorem Since.lives {system next : System} {terminalId : Uuid}
    {loaded before after : TerminalHandle} (since : Since loaded before) (shape : Shape system)
    (found : system.resident terminalId = some before)
    (lives : Lives system next terminalId before after) : Since loaded after := by
  cases lives with
  | same heq =>
    subst heq
    exact since
  | apply op heq =>
    subst heq
    exact since.apply op
  | publish checkpoint rest hflush hnext hown heq =>
    subst heq
    apply since.commitDurable
    -- A checkpoint with a close belongs to the handle that is closing.
    intro reason hreason
    obtain ⟨holder, hholder, hclosing⟩ :=
      shape.closing checkpoint (publishing_mem_pending hflush) reason hreason
    rw [hown] at hholder
    cases found.symm.trans hholder
    exact hclosing

end Hypeterm.Relay

namespace Hypeterm.Relay.Opening

open Library
open Db

/-- The handle of a terminal as it was last put into the resident set. -/
def System.loaded (system : System) (terminalId : Uuid) : Option TerminalHandle :=
  (lookup (fun record => record.handle.terminalId) terminalId system.inserted.reverse).map
    Inserted.handle

/-- The resident handle of the terminal came from the row of a closed terminal. -/
def System.loadedClosed (system : System) (terminalId : Uuid) : Bool :=
  (system.loaded terminalId).any TerminalHandle.isClosed

structure Tracked (system : System) : Prop where
  shape : CallShape system
  since : ∀ terminalId handle, system.relay.resident terminalId = some handle →
    ∃ loaded, system.loaded terminalId = some loaded ∧ Since loaded handle

theorem Tracked.initial : Tracked System.initial where
  shape := CallShape.initial
  since := by
    intro terminalId handle found
    cases found

section

variable {system next : System}

section

variable (tracked : Tracked system) (shape : CallShape next)
include tracked shape

theorem Tracked.put (kept : ∀ terminalId handle, next.relay.resident terminalId = some handle →
      system.relay.resident terminalId = some handle)
    (inserted : next.inserted = system.inserted) : Tracked next where
  shape := shape
  since := by
    intro terminalId handle found
    unfold System.loaded
    rw [inserted]
    exact tracked.since terminalId handle (kept terminalId handle found)

theorem Tracked.still (terminals : next.relay.terminals = system.relay.terminals)
    (inserted : next.inserted = system.inserted) : Tracked next := by
  refine tracked.put shape ?_ inserted
  intro terminalId handle found
  unfold Relay.System.resident at found ⊢
  rw [← terminals]
  exact found

theorem Tracked.relayStep
    {action : Relay.Action} (taken : Relay.step system.relay action = some next.relay)
    (unloaded : ∀ terminalId capacity, action ≠ .load terminalId capacity)
    (running : action ≠ .crash) (inserted : next.inserted = system.inserted) : Tracked next where
  shape := shape
  since := by
    intro terminalId handle found
    rcases resident_of_next taken found with ⟨before, hbefore⟩ | ⟨capacity, hload, _⟩
    · obtain ⟨after, hafter, hlives⟩ := step_lives taken running hbefore
      cases found.symm.trans hafter
      obtain ⟨loaded, hloaded, hsince⟩ := tracked.since terminalId before hbefore
      refine ⟨loaded, ?_, hsince.lives tracked.shape.relay hbefore hlives⟩
      unfold System.loaded at hloaded ⊢
      rw [inserted]
      exact hloaded
    · exact absurd hload (unloaded terminalId capacity)

end

end

theorem loaded_concat (system : System) (record : Inserted) (terminalId : Uuid) :
    ({ system with inserted := system.inserted ++ [record] } : System).loaded terminalId =
      if record.handle.terminalId = terminalId then some record.handle
      else system.loaded terminalId := by
  unfold System.loaded
  rw [List.reverse_append, List.reverse_singleton, List.singleton_append, lookup_cons]
  split <;> rfl

variable {system next : System} {id : Nat} {call : Call}

theorem Tracked.insertHandle (tracked : Tracked system)
    {row : TerminalRow} {retained : Bytes} {origin : Origin} (found : system.calls id = some call)
    (built : call.phase = .built row retained origin) :
    Tracked (system.insertHandle id call row retained origin) := by
  have hmissing := tracked.shape.absent id call row found (by rw [built]; rfl)
  refine ⟨tracked.shape.insertHandle found built, ?_⟩
  intro terminalId handle hfound
  have hloaded : (system.insertHandle id call row retained origin).loaded terminalId =
      if row.terminalId = terminalId then
        some (TerminalHandle.fromRow row call.capacity retained)
      else system.loaded terminalId := loaded_concat system _ terminalId
  change Relay.System.resident { system.relay with
    terminals := system.relay.terminals.filter (fun stored =>
      stored.terminalId ≠ row.terminalId) ++ [TerminalHandle.fromRow row call.capacity retained] }
    terminalId = some handle at hfound
  rw [filter_of_missing hmissing, resident_insert hmissing] at hfound
  rw [hloaded]
  split at hfound
  · rename_i hsame
    cases hfound
    exact ⟨_, if_pos hsame.symm, Since.fromRow row call.capacity retained⟩
  · rename_i hother
    have hdifferent : row.terminalId ≠ terminalId := fun hsame => hother hsame.symm
    rw [if_neg hdifferent]
    exact tracked.since terminalId handle hfound

theorem inserted_finish (system : System) (id : Nat) (call : Call) (row : TerminalRow)
    (origin : Origin) (handle : TerminalHandle) (resident : Bool) :
    (system.finish id call row origin handle resident).inserted = system.inserted := by
  unfold System.finish
  split <;> rfl

theorem Tracked.finish (tracked : Tracked system)
    (found : system.calls id = some call) (row : TerminalRow) (origin : Origin)
    {handle : TerminalHandle} {resident : Bool}
    (present : resident = true → system.relay.resident handle.terminalId = some handle) :
    Tracked (system.finish id call row origin handle resident) := by
  have hshape := tracked.shape.finish found row origin present
  have hinserted := inserted_finish system id call row origin handle resident
  unfold System.finish at hshape hinserted ⊢
  split at hshape
  · exact tracked.still hshape rfl rfl
  · dsimp only at hshape hinserted ⊢
    split at hshape
    · rename_i hrefresh
      have hfound := present (Bool.and_eq_true_iff.mp hrefresh).2
      have hstep : Relay.step system.relay (.handle handle.terminalId
          (.updateMetadata (some row.label) row.cols row.rows row.term)) =
          some (system.relay.applyOp handle
            (.updateMetadata (some row.label) row.cols row.rows row.term)) := by
        simp only [Relay.step, hfound, Option.map_some]
      rw [if_pos hrefresh]
      exact tracked.relayStep hshape hstep (by simp) (by simp) rfl
    · rename_i hrefresh
      rw [if_neg hrefresh]
      exact tracked.still hshape rfl rfl

theorem Tracked.proceed {maxTerminals : Nat} (tracked : Tracked system)
    {fresh : Uuid} (found : system.calls id = some call)
    (taken : system.proceed maxTerminals id call fresh = some next) : Tracked next := by
  have hshape := tracked.shape.proceed found taken
  cases proceed_proceeded taken with
  | finds | refinds =>
    unfold System.find at hshape ⊢
    split at hshape <;> exact tracked.still hshape rfl rfl
  | counts =>
    unfold System.count at hshape ⊢
    dsimp only at hshape ⊢
    split at hshape
    · rename_i hfull
      rw [if_pos hfull]
      exact tracked.still hshape rfl rfl
    · rename_i hbelow
      rw [if_neg hbelow]
      exact tracked.still hshape rfl rfl
  | inserts =>
    unfold System.insert at hshape ⊢
    split at hshape <;> exact tracked.still hshape rfl rfl
  | looks | misses | reads | unknown | obtains | waits | acquires | releases | loads | builds
  | corrupt => exact tracked.still hshape rfl rfl
  | attaches row retained origin phase_eq => exact tracked.insertHandle found phase_eq
  | finishesEvicted => exact tracked.finish found _ _ nofun
  | finishes row origin handle phase_eq hfound =>
    refine tracked.finish found _ _ fun _ => ?_
    rw [terminalId_of_resident hfound, hfound]

theorem Tracked.evictRetired (tracked : Tracked system) : Tracked system.evictRetired := by
  refine tracked.put tracked.shape.evictRetired ?_ rfl
  intro terminalId handle found
  change system.relay.evictRetired.resident terminalId = some handle at found
  rw [resident_evictRetired tracked.shape.relay.resident_nodup] at found
  exact (Option.filter_eq_some_iff.mp found).1

theorem Tracked.step {maxTerminals : Nat} {action : Action}
    (tracked : Tracked system) (taken : Opening.step maxTerminals system action = some next) :
    Tracked next := by
  have hshape := tracked.shape.step taken
  cases step_stepped taken with
  | opens | loads | fails | retries | abandons => exact tracked.still hshape rfl rfl
  | proceeds id fresh call found proceeds => exact tracked.proceed found proceeds
  | evicts => exact tracked.evictRetired
  | relays action relay allowed running hstep =>
    exact tracked.relayStep hshape hstep (not_load_of_permitted allowed) running rfl
  | crashes relay hstep =>
    cases hstep
    refine ⟨hshape, ?_⟩
    intro terminalId handle found
    cases found

theorem Tracked.evictable_iff (tracked : Tracked system) {terminalId : Uuid}
    {handle : TerminalHandle} (found : system.relay.resident terminalId = some handle) :
    handle.evictable = (handle.spent && !system.loadedClosed terminalId) := by
  obtain ⟨loaded, hloaded, hsince⟩ := tracked.since terminalId handle found
  unfold TerminalHandle.evictable TerminalHandle.spent System.loadedClosed
  rw [hsince.retired, hloaded, Option.any_some]
  cases handle.isClosed <;> cases loaded.isClosed <;> simp

/-- An eviction leaves no closed handle without subscribers and dirty bytes if and only if
every resident handle that was loaded closed has some. -/
theorem no_spent_handle_left_iff {maxTerminals : Nat} {actions : List Action} {system : System}
    (taken : run (step maxTerminals) System.initial actions = some system) :
    (∀ terminalId handle, system.evictRetired.relay.resident terminalId = some handle →
      handle.spent = false) ↔
    ∀ terminalId handle, system.relay.resident terminalId = some handle →
      system.loadedClosed terminalId = true →
        handle.subscriberCount ≠ 0 ∨ handle.dirtyBytes ≠ 0 := by
  have htracked : Tracked system := by
    refine run_invariant ?_ Tracked.initial taken
    intro state action next tracked hstep
    exact tracked.step hstep
  have hkept : ∀ terminalId handle, system.evictRetired.relay.resident terminalId = some handle ↔
        system.relay.resident terminalId = some handle ∧ handle.evictable = false := by
    intro terminalId handle
    change system.relay.evictRetired.resident terminalId = some handle ↔ _
    rw [resident_evictRetired htracked.shape.relay.resident_nodup, Option.filter_eq_some_iff,
      Bool.not_eq_true']
  constructor
  · intro hspent terminalId handle hfound hclosed
    have hevictable := htracked.evictable_iff hfound
    rw [hclosed, Bool.not_true, Bool.and_false] at hevictable
    have hstays := hspent terminalId handle ((hkept terminalId handle).mpr ⟨hfound, hevictable⟩)
    obtain ⟨loaded, hloaded, hsince⟩ := htracked.since terminalId handle hfound
    unfold System.loadedClosed at hclosed
    rw [hloaded, Option.any_some] at hclosed
    unfold TerminalHandle.spent at hstays
    rw [hsince.closed hclosed, Bool.true_and] at hstays
    by_contra hidle
    push Not at hidle
    simp [hidle.1, hidle.2] at hstays
  · intro hbusy terminalId handle hfound
    obtain ⟨hbefore, hevictable⟩ := (hkept terminalId handle).mp hfound
    rw [htracked.evictable_iff hbefore] at hevictable
    cases hspent : handle.spent with
    | false => rfl
    | true =>
      rw [hspent, Bool.true_and, Bool.not_eq_false'] at hevictable
      unfold TerminalHandle.spent at hspent
      simp only [Bool.and_eq_true, beq_iff_eq] at hspent
      rcases hbusy terminalId handle hbefore hevictable with hsubscribers | hdirty
      · exact absurd hspent.1.2 hsubscribers
      · exact absurd hspent.2 hdirty

theorem loadedClosed_of_inserted
    (opened : system.inserted.all (fun record => !record.handle.isClosed) = true)
    (terminalId : Uuid) : system.loadedClosed terminalId = false := by
  unfold System.loadedClosed System.loaded
  cases hlast : lookup (fun record => record.handle.terminalId) terminalId
      system.inserted.reverse with
  | none => rfl
  | some record =>
    have hmember : record ∈ system.inserted := List.mem_reverse.mp (mem_of_lookup hlast)
    simpa using List.all_eq_true.mp opened record hmember

/-- A terminal that was closed in memory leaves it. -/
theorem no_spent_handle_left_after_closeSeven :
    ∃ system, run (step 8) System.initial (openSeven ++ closeSeven) = some system ∧
      (system.relay.resident 7).isSome = true ∧
      ∀ terminalId handle, system.evictRetired.relay.resident terminalId = some handle →
        handle.spent = false := by
  have hrun : (run (step 8) System.initial (openSeven ++ closeSeven)).map (fun system =>
      ((system.relay.resident 7).isSome,
        system.inserted.all fun record => !record.handle.isClosed)) = some (true, true) := by
    decide
  obtain ⟨system, htaken, hview⟩ := Option.map_eq_some_iff.mp hrun
  obtain ⟨hresident, hopened⟩ := Prod.mk.inj hview
  refine ⟨system, htaken, hresident, (no_spent_handle_left_iff htaken).mpr ?_⟩
  intro terminalId handle _ hclosed
  cases (loadedClosed_of_inserted hopened terminalId).symm.trans hclosed

/-- A terminal that was loaded closed stays, with nobody subscribed and nothing to commit. -/
theorem spent_handle_left_after_reloadedRun :
    ¬ ∀ (maxTerminals : Nat) (actions : List Action) (system : System),
      run (step maxTerminals) System.initial actions = some system →
      ∀ terminalId handle, system.evictRetired.relay.resident terminalId = some handle →
        handle.spent = false := by
  intro always
  have hrun : ((run (step 8) System.initial reloadedRun).bind fun system =>
      (system.evictRetired.relay.resident 7).map TerminalHandle.spent) = some true := by
    decide
  obtain ⟨system, htaken, hspent⟩ := Option.bind_eq_some_iff.mp hrun
  obtain ⟨handle, hfound, hspent⟩ := Option.map_eq_some_iff.mp hspent
  cases hspent.symm.trans (always 8 reloadedRun system htaken 7 handle hfound)

end Hypeterm.Relay.Opening
