import Hypeterm.Publisher.Wire
import Mathlib.Data.List.Flatten
import Mathlib.Data.List.Perm.Basic

/-! The answer to a request to open a terminal is the `terminal.open` that echoes its id.
The multiplexer echoes it while it knows no id of the relay's for the terminal. -/
namespace Hypeterm.Publisher

open Library List Option

def Outbound.echo (message : Outbound) : List String :=
  message.opens.flatMap fun opening => opening.2.2.toList

namespace Wire

namespace System

/-- The requests that were answered, and those that a message on its way may answer. -/
def echoes (system : System) : List String :=
  system.answered ++ (system.stale ++ system.uplink).flatMap Outbound.echo

def Unrepeated (system : System) : Prop := system.echoes.Nodup

/-- The requests that a step echoes: those of all entries without an id when a connection
comes up, and that of a terminal the local side opens on it. -/
def echoing (system : System) : Action → List String
  | .own action =>
      (system.session.opening action).flatMap fun opening => opening.2.2.toList
  | .ready limits maxActiveTerminals =>
      (system.session.opening (.ready limits maxActiveTerminals [])).flatMap fun opening =>
        opening.2.2.toList
  | _ => []

end System

def unanswered (system : System) (action : Action) : Bool :=
  decide (system.echoing action).Nodup &&
    (system.echoing action).all fun requestId => !system.echoes.contains requestId

section

variable {system : System}

theorem echo_step {session : Session} {action : SessionAction} {result : Session × List Outbound}
    (taken : session.step action = some result) :
    result.2.flatMap Outbound.echo =
      (session.opening action).flatMap fun opening => opening.2.2.toList := by
  rw [← Session.opens_step taken, flatMap_assoc]
  rfl

theorem echoes_afterStep (system : System) (result : Session × List Outbound) :
    (system.afterStep result).echoes = system.echoes ++ result.2.flatMap Outbound.echo := by
  have hwritten : (system.stale ++ (system.uplink ++ result.2)).flatMap Outbound.echo =
      (system.stale ++ system.uplink).flatMap Outbound.echo ++ result.2.flatMap Outbound.echo := by
    rw [← append_assoc, flatMap_append]
  unfold System.afterStep System.echoes
  split
  · rw [append_assoc, ← hwritten]
  · dsimp only
    rw [append_nil, append_assoc, ← hwritten]

theorem System.Unrepeated.afterStep (nodup : system.Unrepeated) {action : Action}
    (allowed : unanswered system action = true) {result : Session × List Outbound}
    (written : result.2.flatMap Outbound.echo = system.echoing action) :
    (system.afterStep result).Unrepeated := by
  unfold unanswered at allowed
  rw [Bool.and_eq_true, decide_eq_true_iff, List.all_eq_true] at allowed
  obtain ⟨hnodup, hfresh⟩ := allowed
  rw [System.Unrepeated, echoes_afterStep, written, nodup_append]
  refine ⟨nodup, hnodup, ?_⟩
  rintro requestId hold _ hnew rfl
  have hfresh := hfresh requestId hnew
  simp only [Bool.not_eq_true', contains_eq_mem, decide_eq_false_iff_not] at hfresh
  exact hfresh hold

theorem handle_fields {message : Outbound} {terminalId : Uuid} {nextOffset : Nat}
    {after : System} {frames : List Frame}
    (taken : system.handle message terminalId nextOffset = some (after, frames)) :
    (after.answered = system.answered ++ message.echo) ∧ after.stale = system.stale ∧
      after.uplink = system.uplink := by
  unfold System.handle at taken
  split at taken
  · obtain ⟨opened, hopened, htaken⟩ := map_eq_some_iff.mp taken
    cases htaken
    unfold System.openTerminal at hopened
    split at hopened
    · cases hopened
      exact ⟨by simp [Outbound.echo, Outbound.opens], rfl, rfl⟩
    · split at hopened
      · cases hopened
      · cases hopened
        exact ⟨by simp [Outbound.echo, Outbound.opens], rfl, rfl⟩
  · cases taken
    exact ⟨(append_nil _).symm, rfl, rfl⟩
  · rename_i hopen _
    cases taken
    refine ⟨?_, rfl, rfl⟩
    cases message with
    | terminalOpen => exact absurd rfl (hopen _ _ _ _ _ _ _ _)
    | capabilities | output | terminalResize | terminalClose | openDeclined | pong | pongFrame =>
      exact (append_nil _).symm

theorem System.Unrepeated.step {action : Action} {next : System} (nodup : system.Unrepeated)
    (allowed : unanswered system action = true) (taken : step system action = some next) :
    next.Unrepeated := by
  cases action with
  | own action =>
    simp only [Wire.step] at taken
    split at taken
    · obtain ⟨result, hstep, rfl⟩ := map_eq_some_iff.mp taken
      exact nodup.afterStep allowed (echo_step hstep)
    · cases taken
  | ready limits maxActiveTerminals =>
    simp only [Wire.step] at taken
    split at taken
    · obtain ⟨result, hstep, rfl⟩ := map_eq_some_iff.mp taken
      exact nodup.afterStep allowed ((echo_step hstep).trans rfl)
    · cases taken
  | receive =>
    simp only [Wire.step] at taken
    split at taken
    · rename_i frame downlink _
      obtain ⟨result, hstep, rfl⟩ := map_eq_some_iff.mp taken
      rw [System.Unrepeated, echoes_afterStep, echo_step hstep]
      simp only [Session.opening, flatMap_nil, append_nil]
      exact nodup
    · cases taken
  | restart openRequests =>
    cases taken
    unfold System.Unrepeated System.echoes
    rw [append_nil]
    exact nodup
  | serve terminalId nextOffset =>
    simp only [Wire.step] at taken
    split at taken
    · rename_i message uplink hqueued
      obtain ⟨⟨after, frames⟩, hhandle, rfl⟩ := map_eq_some_iff.mp taken
      obtain ⟨hanswered, hstale, huplink⟩ := handle_fields hhandle
      unfold System.Unrepeated System.echoes at nodup ⊢
      rw [hanswered, hstale, huplink, append_assoc, ← flatMap_cons]
      rw [hqueued] at nodup
      refine (Perm.nodup_iff ?_).mp nodup
      apply Perm.append_left
      exact perm_middle.flatMap_right _
    · cases taken
  | serveStale index terminalId =>
    simp only [Wire.step] at taken
    split at taken
    · rename_i message hfound
      obtain ⟨⟨after, frames⟩, hhandle, rfl⟩ := map_eq_some_iff.mp taken
      obtain ⟨hanswered, hstale, huplink⟩ := handle_fields hhandle
      unfold System.Unrepeated System.echoes at nodup ⊢
      rw [hanswered, hstale, huplink, append_assoc, ← flatMap_cons]
      refine (Perm.nodup_iff ?_).mp nodup
      apply Perm.append_left
      apply Perm.flatMap_right
      obtain ⟨hlt, rfl⟩ := List.getElem?_eq_some_iff.mp hfound
      exact ((getElem_cons_eraseIdx_perm hlt).append_right _).symm
    · cases taken
  | lose index =>
    cases taken
    unfold System.Unrepeated System.echoes at nodup ⊢
    refine Nodup.sublist ?_ nodup
    apply Sublist.append_left
    exact ((eraseIdx_sublist _ _).append (Sublist.refl _)).flatMap _
  | refuse code message =>
    simp only [Wire.step] at taken
    split at taken
    · rename_i hqueued
      cases taken
      unfold System.Unrepeated System.echoes at nodup ⊢
      rw [hqueued] at nodup
      refine Nodup.sublist ?_ nodup
      apply Sublist.append_left
      exact ((Sublist.refl _).append (sublist_cons_self _ _)).flatMap _
    · cases taken
  | tell frame =>
    simp only [Wire.step] at taken
    split at taken
    · split at taken
      · cases taken
      · cases taken
        exact nodup
    · cases taken
  | list succeeds =>
    simp only [Wire.step] at taken
    split at taken
    · cases taken
      exact nodup
    · cases taken
  | close terminalId =>
    cases taken
    exact nodup

end

def requested : TerminalSpec := { spec "shell" with inReplyTo := some "request" }

end Wire

end Hypeterm.Publisher
