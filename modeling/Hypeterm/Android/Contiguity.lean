import Hypeterm.Android.Following

/-! One interval on the screen. In every run in which no connection is lost between the two, what
the emulator was fed is one part of the stream, and the client asks for what follows it. -/
namespace Hypeterm.Android

open Library

/-- The relay has announced a gap, the emulator has not been reset for it, and it holds bytes
from before the gap. -/
def Mirroring.gapPending {Screen : Type} (system : Mirroring Screen) : Bool :=
  match system.serving with
  | some (.announced _ _) => !system.controller.emulator.fed.isEmpty
  | _ => false

/-- While a gap is pending, the connection is not lost, nor let go of but for another
attachment. -/
def keepsPendingGap {Screen : Type} (system : Mirroring Screen) (action : Action) : Bool :=
  !system.gapPending || (action ≠ .disconnect && action ≠ .detach)

/-- From where the client resumes, there is nothing it has missed or would see again. -/
def Resumes (fed : Bytes) (start : Nat) : Option Nat → Prop
  | none => fed = []
  | some offset => offset = start + fed.length

/-- What the emulator was fed since it was last reset is the part of the terminal's stream
from `start` on. -/
structure OneInterval {Screen : Type} (stream : Uuid → Bytes) (system : Mirroring Screen)
    (terminalId : Uuid) (start : Nat) : Prop where
  here : ∀ other, system.controller.desiredTerminalId = some other → other = terminalId
  bound : start + system.controller.emulator.fed.length ≤ (stream terminalId).length
  fed : system.controller.emulator.fed =
    slice (stream terminalId) start (start + system.controller.emulator.fed.length)
  resumes : system.gapPending = false →
    Resumes system.controller.emulator.fed start system.controller.fromOffset

namespace Following

def GapPending (client : Following) : Prop :=
  client.fed ≠ [] ∧ ∃ requestedFrom availableFrom,
    client.link = .announced requestedFrom availableFrom

structure Shown (stream : Uuid → Bytes) (client : Following) (terminalId : Uuid) (start : Nat) :
    Prop where
  here : ∀ other, client.terminalId = some other → other = terminalId
  bound : start + client.fed.length ≤ (stream terminalId).length
  fed : client.fed = slice (stream terminalId) start (start + client.fed.length)
  resumes : ¬client.GapPending → Resumes client.fed start client.resume

structure Contiguous (stream : Uuid → Bytes) (client : Following) : Prop where
  resuming : client.Resuming
  announced : ∀ requestedFrom availableFrom,
    client.link = .announced requestedFrom availableFrom → ∃ terminalId,
      client.terminalId = some terminalId ∧ availableFrom ≤ (stream terminalId).length
  shown : ∃ terminalId start, client.Shown stream terminalId start

variable {stream : Uuid → Bytes} {client after : Following} {action : Action}

theorem shown_nil {terminalId : Uuid} {start : Nat}
    (here : ∀ other, client.terminalId = some other → other = terminalId)
    (nothing : client.fed = []) (bound : start ≤ (stream terminalId).length)
    (resumes : client.resume = none ∨ client.resume = some start) :
    client.Shown stream terminalId start where
  here := here
  bound := by
    rw [nothing]
    exact bound
  fed := by
    rw [nothing]
    exact (slice_self _ _).symm
  resumes := by
    intro _
    rw [nothing]
    rcases resumes with hcold | hwarm
    · rw [hcold]
      rfl
    · rw [hwarm]
      rfl

theorem Contiguous.initial : Contiguous stream Following.initial where
  resuming := Resuming.initial
  announced := by
    intro requestedFrom availableFrom link
    cases link
  shown := by
    refine ⟨0, 0, shown_nil ?_ rfl (Nat.zero_le _) (Or.inl rfl)⟩
    intro other hother
    cases hother

section

variable (contiguous : Contiguous stream client)
include contiguous

theorem Contiguous.shown_letsGo (terminalId : Option Uuid)
    (same : terminalId = client.terminalId ∨ terminalId = none) (settled : ¬client.GapPending) :
    ∃ shownId start,
      Shown stream { client with terminalId, link := .gone } shownId start := by
  obtain ⟨shownId, start, hshown⟩ := contiguous.shown
  refine ⟨shownId, start, ?_, hshown.bound, hshown.fed, fun _ => hshown.resumes settled⟩
  rintro other rfl
  rcases same with hsame | hnone
  · exact hshown.here other hsame.symm
  · cases hnone

theorem Contiguous.shown_connects (link : client.link = .gone) : ∃ terminalId start,
      Shown stream { client with link := .asked client.resume } terminalId start := by
  obtain ⟨shownId, start, hshown⟩ := contiguous.shown
  refine ⟨shownId, start, hshown.here, hshown.bound, hshown.fed, fun _ => hshown.resumes ?_⟩
  rintro ⟨_, requestedFrom, availableFrom, hannounced⟩
  rw [link] at hannounced
  cases hannounced

theorem Contiguous.shown_subscribes {terminalId : Uuid}
    {fromOffset : Option Nat} {earliest : Nat} (here : client.terminalId = some terminalId)
    (link : client.link = .asked fromOffset) (within : earliest ≤ (stream terminalId).length) :
    ∃ start, Shown stream
      { client with
        resume := some (max (fromOffset.getD earliest) earliest)
        link :=
          if fromOffset.getD earliest < earliest then
            .announced (fromOffset.getD earliest) earliest
          else .flowing (fromOffset.getD earliest) (fromOffset.getD earliest) } terminalId start := by
  obtain ⟨shownId, start, hshown⟩ := contiguous.shown
  obtain rfl := hshown.here terminalId here
  have hresumes := hshown.resumes (by
    rintro ⟨_, requestedFrom, availableFrom, hannounced⟩
    rw [link] at hannounced
    cases hannounced)
  rw [contiguous.resuming.asked fromOffset link] at hresumes
  cases fromOffset with
  | none =>
    refine ⟨earliest, shown_nil hshown.here hresumes within (Or.inr ?_)⟩
    simp
  | some offset =>
    simp only [Option.getD_some]
    split
    · rename_i hgap
      rw [Nat.max_eq_right (Nat.le_of_lt hgap)]
      by_cases hnothing : client.fed = []
      · exact ⟨earliest, shown_nil hshown.here hnothing within (Or.inr rfl)⟩
      · refine ⟨start, hshown.here, hshown.bound, hshown.fed, fun hsettled => ?_⟩
        exact absurd ⟨hnothing, offset, earliest, rfl⟩ hsettled
    · rename_i hwindow
      rw [Nat.max_eq_left (Nat.le_of_not_lt hwindow)]
      exact ⟨start, hshown.here, hshown.bound, hshown.fed, fun _ => hresumes⟩

theorem Contiguous.shown_outputs {terminalId : Uuid}
    {replayStart upTo stop : Nat} (added : List Typed) (here : client.terminalId = some terminalId)
    (link : client.link = .flowing replayStart upTo)
    (within : upTo < stop ∧ stop ≤ (stream terminalId).length) :
    ∃ start, Shown stream
      { client with
        resume := some stop
        link := .flowing replayStart stop
        fed := client.fed ++ slice (stream terminalId) upTo stop
        typed := client.typed ++ added } terminalId start := by
  obtain ⟨shownId, start, hshown⟩ := contiguous.shown
  obtain rfl := hshown.here terminalId here
  have hresumes := hshown.resumes (by
    rintro ⟨_, requestedFrom, availableFrom, hannounced⟩
    rw [link] at hannounced
    cases hannounced)
  rw [(contiguous.resuming.flowing _ _ link).1] at hresumes
  have hstart : start ≤ upTo := hresumes ▸ Nat.le_add_right _ _
  have happended : client.fed ++ slice (stream terminalId) upTo stop =
      slice (stream terminalId) start stop := by
    rw [hshown.fed, ← hresumes]
    exact slice_append_slice _ hstart (Nat.le_of_lt within.1)
  have hlength : start + (slice (stream terminalId) start stop).length = stop := by
    rw [length_slice within.2]
    exact Nat.add_sub_cancel' (hstart.trans (Nat.le_of_lt within.1))
  refine ⟨start, hshown.here, ?_, ?_, fun _ => ?_⟩
  · dsimp only
    rw [happended, hlength]
    exact within.2
  · dsimp only
    rw [happended, hlength]
  · dsimp only
    rw [happended]
    exact hlength.symm

end

theorem Contiguous.moves (contiguous : Contiguous stream client)
    (allowed : client.GapPending → action ≠ .disconnect ∧ action ≠ .detach)
    (moved : client.Moves stream action after) : Contiguous stream after := by
  have hresuming := contiguous.resuming.moves moved
  cases moved with
  | aside => exact contiguous
  | letsGo action other same announced =>
    refine ⟨hresuming, by simp, contiguous.shown_letsGo other same fun hpending => ?_⟩
    obtain ⟨requestedFrom, availableFrom, hlink⟩ := hpending.2
    rcases announced _ _ hlink with hdisconnect | hdetach
    · exact (allowed hpending).1 hdisconnect
    · exact (allowed hpending).2 hdetach
  | restarts action other =>
    refine ⟨hresuming, by simp, other.getD 0, 0, shown_nil ?_ rfl (Nat.zero_le _) (Or.inl rfl)⟩
    rintro _ rfl
    rfl
  | connects protocolV2 link => exact ⟨hresuming, by simp, contiguous.shown_connects link⟩
  | @subscribes _ terminalId fromOffset earliest next here link within =>
    have hbound : earliest ≤ (stream terminalId).length := within.1.trans within.2.1
    refine ⟨hresuming, ?_, terminalId, contiguous.shown_subscribes here link hbound⟩
    intro requestedFrom availableFrom hannounced
    split at hannounced
    · cases hannounced
      exact ⟨terminalId, here, hbound⟩
    · cases hannounced
  | @startsOver _ requestedFrom availableFrom link =>
    obtain ⟨terminalId, hterminal, hbound⟩ := contiguous.announced _ _ link
    refine ⟨hresuming, by simp, terminalId, availableFrom, shown_nil ?_ rfl hbound (Or.inr rfl)⟩
    intro other hother
    exact Option.some.inj (hother.symm.trans hterminal)
  | @outputs _ terminalId replayStart upTo stop added here link within answers =>
    exact ⟨hresuming, by simp, terminalId, contiguous.shown_outputs added here link within⟩

end Following

theorem Follows.gapPending {Screen : Type} {system : Mirroring Screen} {client : Following}
    (follows : Follows system client) (pending : client.GapPending) : system.gapPending = true := by
  obtain ⟨hfed, _, _, hlink⟩ := pending
  obtain ⟨_, _, hserving, _⟩ := hlink ▸ follows.link
  simp [Mirroring.gapPending, hserving, follows.fed, hfed]

theorem Follows.oneInterval {Screen : Type} {stream : Uuid → Bytes} {system : Mirroring Screen}
    {client : Following} {terminalId : Uuid} {start : Nat} (follows : Follows system client)
    (shown : client.Shown stream terminalId start) :
    OneInterval stream system terminalId start where
  here := by
    rw [follows.terminalId]
    exact shown.here
  bound := by
    rw [follows.fed]
    exact shown.bound
  fed := by
    rw [follows.fed]
    exact shown.fed
  resumes := by
    intro settled
    rw [follows.fed, follows.resume]
    refine shown.resumes fun pending => ?_
    rw [follows.gapPending pending] at settled
    cases settled

def Mirroring.Contiguous {Screen : Type} (stream : Uuid → Bytes) (system : Mirroring Screen) :
    Prop :=
  ∃ client, Follows system client ∧ client.Contiguous stream

theorem Mirroring.Contiguous.step {Screen : Type} {display : Display Screen}
    {stream : Uuid → Bytes} {system next : Mirroring Screen} {action : Action}
    (contiguous : system.Contiguous stream) (keeps : keepsPendingGap system action = true)
    (taken : system.step display stream action = some next) : next.Contiguous stream := by
  obtain ⟨client, hfollows, hclient⟩ := contiguous
  obtain ⟨moved, hmoved, hmoves⟩ := hfollows.step taken
  refine ⟨moved, hmoved, hclient.moves ?_ hmoves⟩
  intro hpending
  simpa [keepsPendingGap, hfollows.gapPending hpending] using keeps

/-- In every run in which no connection is lost over a pending gap, the screen shows one
interval of the stream, and but for a pending gap the client resumes at its end. -/
theorem screen_shows_one_interval {Screen : Type} {display : Display Screen}
    {stream : Uuid → Bytes} {config : AppConfig} {actions : List Action}
    {system : Mirroring Screen}
    (taken : run (restrict (Mirroring.step display stream) fun system action =>
        keepsPendingGap system action = true)
      (Mirroring.initial display config) actions = some system) :
    ∃ terminalId start, OneInterval stream system terminalId start := by
  have hinv : system.Contiguous stream := by
    refine restrict_invariant ?_ ?_ taken
    · intro before action after hbefore hkeeps hstep
      exact hbefore.step hkeeps hstep
    · exact ⟨_, Follows.initial config, Following.Contiguous.initial⟩
  obtain ⟨client, hfollows, hcontiguous⟩ := hinv
  obtain ⟨terminalId, start, hshown⟩ := hcontiguous.shown
  exact ⟨terminalId, start, hfollows.oneInterval hshown⟩

def alphabet : Uuid → Bytes := fun _ => [97, 98, 99, 100, 101, 102]

/-- Output comes twice, and overlaps; the client reconnects, and is told of a gap. -/
def gappedRun : List Action :=
  [Action.attach 7, .connect true, .receive .ready 0,
    .receive (.subscribed 0 3 0 80 24 true) 0, .receive (.output 0 2) 0,
    .receive (.output 0 2) 0, .receive (.output 1 2) 0, .disconnect] ++
  [Action.connect true, .receive (.subscribed 4 5 0 80 24 true) 0, .receive .gap 0,
    .receive (.output 4 1) 0, .disconnect] ++
  [Action.connect true, .receive (.subscribed 4 6 0 80 24 true) 0, .receive (.output 4 2) 0]

theorem screen_shows_one_interval_in_gappedRun :
    ∃ system, run (restrict (Mirroring.step Display.blank alphabet) fun system action =>
        keepsPendingGap system action = true)
      (Mirroring.initial Display.blank ⟨80, 24, true⟩) gappedRun = some system ∧
      system.controller.emulator.fed = [101, 102] ∧ system.controller.fromOffset = some 6 ∧
      ∃ terminalId start, OneInterval alphabet system terminalId start := by
  obtain ⟨system, htaken, hfed, hresume⟩ : ∃ system,
      run (restrict (Mirroring.step Display.blank alphabet) fun system action =>
          keepsPendingGap system action = true)
        (Mirroring.initial Display.blank ⟨80, 24, true⟩) gappedRun = some system ∧
        system.controller.emulator.fed = [101, 102] ∧ system.controller.fromOffset = some 6 :=
    ⟨_, rfl, by decide, by decide⟩
  exact ⟨system, htaken, hfed, hresume, screen_shows_one_interval htaken⟩

/-- The connection is lost between the subscription and the gap it announced. -/
def splicedRun : List Action :=
  [Action.attach 7, .connect true, .receive (.subscribed 0 2 0 80 24 true) 0,
    .receive (.output 0 2) 0, .disconnect] ++
  [Action.connect true, .receive (.subscribed 4 6 0 80 24 true) 0, .disconnect] ++
  [Action.connect true, .receive (.subscribed 4 6 0 80 24 true) 0, .receive (.output 4 2) 0]

theorem lost_gap_splices_the_screen : ∃ system, run (Mirroring.step Display.blank alphabet)
        (Mirroring.initial Display.blank ⟨80, 24, true⟩) splicedRun = some system ∧
      system.controller.desiredTerminalId = some 7 ∧
      system.controller.emulator.fed = [97, 98, 101, 102] ∧
      ∀ start stop, system.controller.emulator.fed ≠ slice (alphabet 7) start stop := by
  refine ⟨_, rfl, by decide, by decide, ?_⟩
  intro start stop heq
  have hinfix : slice (alphabet 7) start stop <:+: alphabet 7 :=
    (List.take_prefix _ _).isInfix.trans (List.drop_suffix _ _).isInfix
  rw [← heq] at hinfix
  revert hinfix
  decide

end Hypeterm.Android
