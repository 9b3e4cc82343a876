import Hypeterm.Android.Controller
import Hypeterm.Library.Runs
import Hypeterm.Library.Stream

/-! How a client follows a stream, whatever its screen does: where it stands with the relay,
where it resumes, and what it has fed to the emulator.  Every step of the controller and the
relay is a move of this client. -/
namespace Hypeterm.Android

open Library List

inductive Link where
  | gone
  | asked (fromOffset : Option Nat)
  | announced (requestedFrom availableFrom : Nat)
  | flowing (replayStart upTo : Nat)

structure Following where
  terminalId : Option Uuid
  link : Link
  resume : Option Nat
  fed : Bytes
  resets : Nat
  typed : List Typed

def Following.initial : Following := ⟨none, .gone, none, [], 0, []⟩

/-- The replies to queries that output from `upTo` on completes. -/
structure Answers (client : Following) (replayStart upTo stop : Nat) (added : List Typed) :
    Prop where
  within : ∀ typed ∈ added, upTo ≤ typed.offset ∧ typed.offset < stop
  current : ∀ typed ∈ added, typed.info.replayStartOffset = replayStart ∧
    typed.inputAvailable = true ∧ typed.resets = client.resets
  increase : added.Pairwise fun earlier later => earlier.offset < later.offset

inductive Following.Moves (stream : Uuid → Bytes) (client : Following) :
    Action → Following → Prop where
  | aside (action : Action) : Moves stream client action client
  | letsGo (action : Action) (terminalId : Option Uuid)
      (same : terminalId = client.terminalId ∨ terminalId = none)
      (announced : ∀ requestedFrom availableFrom,
        client.link = .announced requestedFrom availableFrom →
          action = .disconnect ∨ action = .detach) :
      Moves stream client action { client with terminalId, link := .gone }
  | restarts (action : Action) (terminalId : Option Uuid) :
      Moves stream client action
        { client with terminalId, link := .gone, resume := none, fed := [], resets := client.resets + 1 }
  | connects (protocolV2 : Bool) (link : client.link = .gone) :
      Moves stream client (.connect protocolV2) { client with link := .asked client.resume }
  | subscribes (action : Action) {terminalId : Uuid} {fromOffset : Option Nat} {earliest next : Nat}
      (here : client.terminalId = some terminalId) (link : client.link = .asked fromOffset)
      (within : earliest ≤ next ∧ next ≤ (stream terminalId).length ∧
        fromOffset.getD earliest ≤ next) :
      Moves stream client action
        { client with
          resume := some (max (fromOffset.getD earliest) earliest)
          link :=
            if fromOffset.getD earliest < earliest then
              .announced (fromOffset.getD earliest) earliest
            else .flowing (fromOffset.getD earliest) (fromOffset.getD earliest) }
  | startsOver (action : Action) {requestedFrom availableFrom : Nat}
      (link : client.link = .announced requestedFrom availableFrom) :
      Moves stream client action
        { client with
          resume := some availableFrom
          link := .flowing availableFrom availableFrom
          fed := []
          resets := client.resets + 1 }
  | outputs (action : Action) {terminalId : Uuid} {replayStart upTo stop : Nat} {added : List Typed}
      (here : client.terminalId = some terminalId) (link : client.link = .flowing replayStart upTo)
      (within : upTo < stop ∧ stop ≤ (stream terminalId).length)
      (answers : Answers client replayStart upTo stop added) :
      Moves stream client action
        { client with
          resume := some stop
          link := .flowing replayStart stop
          fed := client.fed ++ slice (stream terminalId) upTo stop
          typed := client.typed ++ added }

/-- The client asks from where it resumes, and what it is sent moves that forward. -/
structure Following.Resuming (client : Following) : Prop where
  asked : ∀ fromOffset, client.link = .asked fromOffset → client.resume = fromOffset
  flowing : ∀ replayStart upTo, client.link = .flowing replayStart upTo →
    client.resume = some upTo ∧ replayStart ≤ upTo

theorem Following.Resuming.initial : Following.initial.Resuming := by
  constructor
  · intro fromOffset link
    cases link
  · intro replayStart upTo link
    cases link

theorem Following.Resuming.moves {stream : Uuid → Bytes} {client after : Following}
    {action : Action} (resuming : client.Resuming) (moved : client.Moves stream action after) :
    after.Resuming := by
  cases moved with
  | aside => exact resuming
  | letsGo | restarts => exact ⟨by simp, by simp⟩
  | connects protocolV2 link =>
    refine ⟨?_, by simp⟩
    intro fromOffset hasked
    cases hasked
    rfl
  | @subscribes _ _ fromOffset earliest next here link within =>
    by_cases hgap : fromOffset.getD earliest < earliest
    · rw [if_pos hgap]
      exact ⟨by simp, by simp⟩
    · rw [if_neg hgap, Nat.max_eq_left (Nat.le_of_not_lt hgap)]
      refine ⟨by simp, ?_⟩
      intro replayStart upTo hflowing
      cases hflowing
      exact ⟨rfl, Nat.le_refl _⟩
  | startsOver action link =>
    refine ⟨by simp, ?_⟩
    intro replayStart upTo hflowing
    cases hflowing
    exact ⟨rfl, Nat.le_refl _⟩
  | outputs action here link within answers =>
    refine ⟨by simp, ?_⟩
    intro replayStart upTo hflowing
    cases hflowing
    exact ⟨rfl, (resuming.flowing _ _ link).2.trans (Nat.le_of_lt within.1)⟩

/-- The connection and the relay's end of it, as the client sees them. -/
def Link.Joins (mirror : Option MirrorSession) (serving : Option Serving) : Link → Prop
  | .gone => mirror = none ∧ serving = none
  | .asked fromOffset =>
      ∃ session, mirror = some session ∧ serving = some (.asked fromOffset) ∧
        session.subscribed = false
  | .announced requestedFrom availableFrom =>
      ∃ session, mirror = some session ∧
        serving = some (.announced requestedFrom availableFrom) ∧ session.subscribed = true ∧
          session.nextExpectedOffset = availableFrom ∧
            session.info.replayStartOffset = availableFrom
  | .flowing replayStart upTo =>
      ∃ session, mirror = some session ∧ serving = some (.flowing upTo) ∧
        session.subscribed = true ∧ session.nextExpectedOffset = upTo ∧
          session.info.replayStartOffset = replayStart

structure Follows {Screen : Type} (system : Mirroring Screen) (client : Following) : Prop where
  settled : system.controller.pendingDisconnect = false
  terminalId : system.controller.desiredTerminalId = client.terminalId
  resume : system.controller.fromOffset = client.resume
  fed : system.controller.emulator.fed = client.fed
  resets : system.controller.emulator.resets = client.resets
  typed : system.controller.typed = client.typed
  link : client.link.Joins system.controller.mirror system.serving

variable {Screen : Type} {display : Display Screen} {stream : Uuid → Bytes}
  {system next : Mirroring Screen} {client : Following}

theorem Follows.initial (config : AppConfig) :
    Follows (Mirroring.initial display config) Following.initial :=
  ⟨rfl, rfl, rfl, rfl, rfl, rfl, rfl, rfl⟩

/-- The grid, and what the screen shows on it, have no part in it. -/
structure Controller.Resized (before after : Controller Screen) : Prop where
  terminalId : after.desiredTerminalId = before.desiredTerminalId
  mirror : after.mirror = before.mirror
  pending : after.pendingDisconnect = before.pendingDisconnect
  resume : after.fromOffset = before.fromOffset
  fed : after.emulator.fed = before.emulator.fed
  resets : after.emulator.resets = before.emulator.resets
  typed : after.typed = before.typed

theorem Controller.resizeGrid_resized (display : Display Screen) (controller : Controller Screen)
    (columns rows : Nat) :
    Controller.Resized controller (controller.resizeGrid display columns rows) := by
  unfold Controller.resizeGrid
  split
  · exact ⟨rfl, rfl, rfl, rfl, rfl, rfl, rfl⟩
  · exact ⟨rfl, rfl, rfl, rfl, Emulator.fed_resize _ _, Emulator.resets_resize _ _, rfl⟩

theorem Controller.setGridSize_resized (display : Display Screen) (controller : Controller Screen)
    (columns rows : Nat) :
    Controller.Resized controller (controller.setGridSize display columns rows) := by
  unfold Controller.setGridSize
  split
  · exact ⟨rfl, rfl, rfl, rfl, rfl, rfl, rfl⟩
  split
  · exact ⟨rfl, rfl, rfl, rfl, rfl, rfl, rfl⟩
  split
  · have hresized := Controller.resizeGrid_resized display
      { controller with
        localColumns := columns, localRows := rows, pendingColumns := columns, pendingRows := rows }
      columns rows
    exact ⟨hresized.terminalId, hresized.mirror, hresized.pending, hresized.resume, hresized.fed,
      hresized.resets, hresized.typed⟩
  · exact ⟨rfl, rfl, rfl, rfl, rfl, rfl, rfl⟩

variable {controller : Controller Screen} {session after : MirrorSession}
  {message : ServerMessage} {ok : Bool} {upTo : Nat}

theorem Follows.resized (follows : Follows system client)
    (resized : Controller.Resized system.controller controller) :
    Follows { system with controller } client where
  settled := resized.pending.trans follows.settled
  terminalId := resized.terminalId.trans follows.terminalId
  resume := resized.resume.trans follows.resume
  fed := resized.fed.trans follows.fed
  resets := resized.resets.trans follows.resets
  typed := resized.typed.trans follows.typed
  link := by
    change client.link.Joins controller.mirror system.serving
    rw [resized.mirror]
    exact follows.link

theorem Follows.drops (follows : Follows system client)
    (serving : Option Serving) (mirror : controller.mirror = none)
    (settled : controller.pendingDisconnect = false)
    (same : controller.fromOffset = system.controller.fromOffset ∧
      controller.emulator = system.controller.emulator ∧ controller.typed = system.controller.typed) :
    Follows (Mirroring.close controller serving)
      { client with terminalId := controller.desiredTerminalId, link := .gone } where
  settled := settled
  terminalId := rfl
  resume := same.1.trans follows.resume
  fed := (congrArg _ same.2.1).trans follows.fed
  resets := (congrArg _ same.2.1).trans follows.resets
  typed := same.2.2.trans follows.typed
  link := by
    refine ⟨mirror, ?_⟩
    simp [Mirroring.close, mirror]

theorem Follows.restarts (display : Display Screen) (follows : Follows system client)
    (serving : Option Serving) (mirror : controller.mirror = none)
    (settled : controller.pendingDisconnect = false)
    (cold : controller.resumeOffsetValid = false)
    (reset : controller.emulator = system.controller.emulator.reset display)
    (same : controller.typed = system.controller.typed) :
    Follows (Mirroring.close controller serving)
      { client with
        terminalId := controller.desiredTerminalId, link := .gone, resume := none, fed := [],
        resets := client.resets + 1 } where
  settled := settled
  terminalId := rfl
  resume := by
    simp [Mirroring.close, Controller.fromOffset, cold]
  fed := by
    simp [Mirroring.close, reset]
  resets := by
    simp [Mirroring.close, reset, follows.resets]
  typed := same.trans follows.typed
  link := by
    refine ⟨mirror, ?_⟩
    simp [Mirroring.close, mirror]

theorem Follows.attach (follows : Follows system client) (terminalId : Uuid) :
    ∃ after, Follows (Mirroring.close (system.controller.attach display terminalId) system.serving)
      after ∧ client.Moves stream (.attach terminalId) after := by
  unfold Controller.attach
  split
  · rename_i hsame
    refine ⟨client, ?_, .aside _⟩
    have hclose : Mirroring.close system.controller system.serving = system := by
      simp [Mirroring.close, hsame.1]
    rw [hclose]
    exact follows
  · exact ⟨_, follows.restarts display system.serving rfl follows.settled rfl rfl rfl,
      .restarts _ _⟩

theorem Follows.gone (follows : Follows system client) (mirror : system.controller.mirror = none) :
    client.link = .gone := by
  have hlink := follows.link
  rw [mirror] at hlink
  cases hclient : client.link with
  | gone => rfl
  | asked | announced | flowing =>
    rw [hclient] at hlink
    obtain ⟨_, heq, _⟩ := hlink
    cases heq

theorem Follows.connect (follows : Follows system client) (protocolV2 : Bool)
    (mirror : system.controller.mirror = none) :
    ∃ after, Follows ⟨system.controller.connect protocolV2,
        some (.asked system.controller.fromOffset)⟩ after ∧
      client.Moves stream (.connect protocolV2) after := by
  refine ⟨{ client with link := .asked client.resume }, ⟨follows.settled, follows.terminalId,
    follows.resume, follows.fed, follows.resets, follows.typed, ?_⟩,
    .connects protocolV2 (follows.gone mirror)⟩
  rw [← follows.resume]
  exact ⟨_, rfl, rfl, rfl⟩

/-- Events that change neither the emulator nor where the client resumes. -/
def MirrorEvent.isAside : MirrorEvent → Bool
  | .ready | .durable _ | .inputAck | .notice => true
  | .error code => code ≠ "offset_ahead"
  | _ => false

theorem Controller.handleMirrorEvent_aside (controller : Controller Screen)
    (session : MirrorSession) (writes : Nat) {event : MirrorEvent} (aside : event.isAside = true) :
    controller.handleMirrorEvent display session writes event = controller := by
  cases event with
  | ready | durable | inputAck | notice => rfl
  | error code =>
    have hcode : code ≠ "offset_ahead" := by simpa [MirrorEvent.isAside] using aside
    simp [Controller.handleMirrorEvent, Controller.onError, hcode]
  | subscribed | output | gap | resize | terminalClosed => cases aside

theorem Controller.pump_aside {event : Option MirrorEvent} (writes : Nat)
    (settled : controller.pendingDisconnect = false)
    (handled : session.handleMessage message = (after, event, ok))
    (aside : ∀ found, event = some found → found.isAside = true) :
    controller.pump display session writes message =
      { controller with mirror := if ok then some after else none } := by
  have hsettle : Controller.settle { controller with mirror := some after } ok =
      { controller with mirror := if ok then some after else none } := by
    unfold Controller.settle
    rw [if_neg (by simp [settled])]
    cases ok with
    | true => rfl
    | false => rfl
  rw [Controller.pump, handled]
  cases event with
  | none => exact hsettle
  | some found =>
    dsimp only
    rw [Controller.handleMirrorEvent_aside _ _ _ (aside found rfl)]
    exact hsettle

theorem Follows.aside (follows : Follows system client)
    {serving : Serving} {event : Option MirrorEvent}
    (writes : Nat) (action : Action) (mirror : system.controller.mirror = some session)
    (handled : session.handleMessage message = (after, event, ok))
    (aside : ∀ found, event = some found → found.isAside = true)
    (same : after.subscribed = session.subscribed ∧
      after.nextExpectedOffset = session.nextExpectedOffset ∧
        after.info.replayStartOffset = session.info.replayStartOffset)
    (serving_eq : ok = true → system.serving = some serving)
    (flowing : ∀ requestedFrom availableFrom,
      client.link ≠ .announced requestedFrom availableFrom) :
    ∃ after, Follows (Mirroring.close (system.controller.pump display session writes message)
        (some serving)) after ∧ client.Moves stream action after := by
  rw [Controller.pump_aside writes follows.settled handled aside]
  cases ok with
  | false =>
    refine ⟨_, follows.drops (some serving) rfl follows.settled ⟨rfl, rfl, rfl⟩, ?_⟩
    refine .letsGo action _ (Or.inl follows.terminalId) ?_
    intro requestedFrom availableFrom hlink
    exact absurd hlink (flowing requestedFrom availableFrom)
  | true =>
    refine ⟨client, ⟨follows.settled, follows.terminalId, follows.resume, follows.fed,
      follows.resets, follows.typed, ?_⟩, .aside action⟩
    have hlink := follows.link
    have hserving := serving_eq rfl
    change client.link.Joins (some after) (some serving)
    cases hclient : client.link with
    | gone =>
      rw [hclient, mirror] at hlink
      cases hlink.1
    | asked fromOffset =>
      rw [hclient, mirror, hserving] at hlink
      obtain ⟨_, heq, hasked, hsubscribed⟩ := hlink
      cases heq
      exact ⟨after, rfl, hasked, same.1.trans hsubscribed⟩
    | announced requestedFrom availableFrom => exact absurd hclient (flowing _ _)
    | flowing replayStart upTo =>
      rw [hclient, mirror, hserving] at hlink
      obtain ⟨_, heq, hflowing, hsubscribed, hnext, hinfo⟩ := hlink
      cases heq
      exact ⟨after, rfl, hflowing, same.1.trans hsubscribed, same.2.1.trans hnext,
        same.2.2.trans hinfo⟩

theorem Controller.onSubscribed_resized (display : Display Screen) (controller : Controller Screen)
    (session : MirrorSession) (info : SubscribedInfo) :
    Controller.Resized
      { controller with resumeOffsetValid := true, resumeOffset := session.nextExpectedOffset }
      (controller.onSubscribed display session info) := by
  unfold Controller.onSubscribed
  split
  · have hresized := Controller.resizeGrid_resized display controller info.columns
      info.rows
    exact ⟨hresized.terminalId, hresized.mirror, hresized.pending, rfl, hresized.fed,
      hresized.resets, hresized.typed⟩
  · have hresized := Controller.resizeGrid_resized display controller
      controller.localColumns controller.localRows
    exact ⟨hresized.terminalId, hresized.mirror, hresized.pending, rfl, hresized.fed,
      hresized.resets, hresized.typed⟩

theorem Controller.settle_true
    (settled : controller.pendingDisconnect = false) : controller.settle true = controller := by
  simp [Controller.settle, settled]

theorem Mirroring.close_mirror
    (serving : Option Serving) (mirror : controller.mirror = some session) :
    Mirroring.close controller serving = ⟨controller, serving⟩ := by
  simp [Mirroring.close, mirror]

theorem Controller.pump_event {event : MirrorEvent} (writes : Nat)
    (handled : session.handleMessage message = (after, some event, ok)) :
    controller.pump display session writes message =
      (Controller.handleMirrorEvent display { controller with mirror := some after } after writes
        event).settle ok := by
  rw [Controller.pump, handled]

theorem MirrorSession.handleSubscribed_eq {info : SubscribedInfo}
    (consistent : info.replayStartOffset ≤ info.nextOffset ∧ info.durableOffset ≤ info.nextOffset) :
    ∃ after : MirrorSession,
      session.handleMessage (.subscribed info) = (after, some (.subscribed info), true) ∧
        after.subscribed = true ∧ after.nextExpectedOffset = info.replayStartOffset ∧
          after.info = info := by
  have hconsistent : ¬ (info.nextOffset < info.replayStartOffset ∨
      info.nextOffset < info.durableOffset) := by omega
  simp only [MirrorSession.handleMessage, MirrorSession.handleSubscribed, if_neg hconsistent]
  exact ⟨_, rfl, rfl, rfl, rfl⟩

section

variable (follows : Follows system client)
include follows

theorem Follows.subscribed {terminalId : Uuid} (session : MirrorSession) {fromOffset : Option Nat}
    {earliest nextOffset durable columns rows : Nat} {inputAvailable : Bool}
    {sent : ServerMessage × Serving} (writes : Nat) (action : Action)
    (here : client.terminalId = some terminalId) (link : client.link = .asked fromOffset)
    (taken : Serving.subscribe (stream terminalId) fromOffset earliest nextOffset durable columns rows
      inputAvailable = some sent) :
    ∃ after, Follows (Mirroring.close (system.controller.pump display session writes sent.1)
        (some sent.2)) after ∧ client.Moves stream action after := by
  unfold Serving.subscribe at taken
  dsimp only at taken
  split at taken
  · rename_i hwithin
    cases taken
    refine ⟨_, ?_, .subscribes action here link ⟨hwithin.1, hwithin.2.1, hwithin.2.2.2⟩⟩
    obtain ⟨after, hhandled, hsubscribed, hnext, hinfo⟩ : ∃ after : MirrorSession,
        session.handleMessage (.subscribed ⟨fromOffset.getD earliest,
          max (fromOffset.getD earliest) earliest, nextOffset, durable, earliest, columns, rows,
          inputAvailable⟩) = (after, some (.subscribed ⟨fromOffset.getD earliest,
          max (fromOffset.getD earliest) earliest, nextOffset, durable, earliest, columns, rows,
          inputAvailable⟩), true) ∧ after.subscribed = true ∧
        after.nextExpectedOffset = max (fromOffset.getD earliest) earliest ∧ after.info = _ :=
      MirrorSession.handleSubscribed_eq ⟨by dsimp only; omega, hwithin.2.2.1⟩
    rw [Controller.pump_event writes hhandled, Controller.handleMirrorEvent]
    have hresized := Controller.onSubscribed_resized display
      { system.controller with mirror := some after } after
      ⟨fromOffset.getD earliest, max (fromOffset.getD earliest) earliest, nextOffset, durable,
        earliest, columns, rows, inputAvailable⟩
    have hpending := hresized.pending.trans follows.settled
    rw [Controller.settle_true hpending, Mirroring.close_mirror _ hresized.mirror]
    refine ⟨hpending, hresized.terminalId.trans follows.terminalId,
      hresized.resume.trans (congrArg some hnext), hresized.fed.trans follows.fed,
      hresized.resets.trans follows.resets, hresized.typed.trans follows.typed, ?_⟩
    rw [hresized.mirror]
    have hstart := congrArg SubscribedInfo.replayStartOffset hinfo
    split
    · rename_i hgap
      have hmax : max (fromOffset.getD earliest) earliest = earliest := by omega
      exact ⟨after, rfl, rfl, hsubscribed, hnext.trans hmax, hstart.trans hmax⟩
    · rename_i hnone
      have hmax : max (fromOffset.getD earliest) earliest = fromOffset.getD earliest := by omega
      exact ⟨after, rfl, rfl, hsubscribed, hnext.trans hmax, hstart.trans hmax⟩
  · cases taken

theorem Follows.offsetAhead (session : MirrorSession)
    (serving : Serving) (writes : Nat) (action : Action) :
    ∃ after, Follows (Mirroring.close (system.controller.pump display session writes
        (.error "offset_ahead")) (some serving)) after ∧ client.Moves stream action after := by
  have hinput : refusesInput "offset_ahead" = false := by decide +kernel
  have hhandled : session.handleMessage (.error "offset_ahead") =
      (session, some (.error "offset_ahead"), false) := by
    simp only [MirrorSession.handleMessage, hinput]
  rw [Controller.pump_event writes hhandled]
  simp only [Controller.handleMirrorEvent, Controller.onError, hinput, Bool.false_eq_true, if_false,
    if_true, Controller.settle, Controller.resetTerminal]
  exact ⟨_, follows.restarts display (some serving) rfl rfl rfl rfl rfl, .restarts _ _⟩

theorem Follows.closed (session : MirrorSession)
    (serving : Serving) (writes : Nat) (action : Action)
    (flowing : ∀ requestedFrom availableFrom,
      client.link ≠ .announced requestedFrom availableFrom) :
    ∃ after, Follows (Mirroring.close (system.controller.pump display session writes .closed)
        (some serving)) after ∧ client.Moves stream action after := by
  have hhandled : session.handleMessage .closed = (session, some .terminalClosed, true) := rfl
  rw [Controller.pump_event writes hhandled]
  simp only [Controller.handleMirrorEvent, Controller.onTerminalClosed, Controller.settle, if_true]
  refine ⟨_, follows.drops (some serving) rfl rfl ⟨rfl, rfl, rfl⟩, ?_⟩
  refine .letsGo action _ (Or.inr rfl) ?_
  intro requestedFrom availableFrom hlink
  exact absurd hlink (flowing requestedFrom availableFrom)

theorem Follows.gap {requestedFrom availableFrom : Nat} (writes : Nat) (action : Action)
    (mirror : system.controller.mirror = some session)
    (link : client.link = .announced requestedFrom availableFrom) :
    ∃ after, Follows (Mirroring.close (system.controller.pump display session writes
        (.gap requestedFrom availableFrom)) (some (.flowing availableFrom))) after ∧
      client.Moves stream action after := by
  obtain ⟨_, heq, _, hsubscribed, _, hinfo⟩ := link ▸ follows.link
  cases mirror.symm.trans heq
  have hhandled : session.handleMessage (.gap requestedFrom availableFrom) =
      ({ session with nextExpectedOffset := availableFrom }, some (.gap availableFrom), true) := rfl
  have hsettled : (Controller.onGap display { system.controller with
      mirror := some { session with nextExpectedOffset := availableFrom } }
      availableFrom).pendingDisconnect = false := follows.settled
  refine ⟨_, ?_, .startsOver action link⟩
  rw [Controller.pump_event writes hhandled, Controller.handleMirrorEvent,
    Controller.settle_true hsettled, Mirroring.close_mirror _ rfl]
  refine ⟨follows.settled, follows.terminalId, rfl, rfl, ?_, follows.typed, ?_⟩
  · exact congrArg (· + 1) follows.resets
  · exact ⟨_, rfl, rfl, hsubscribed, rfl, hinfo⟩

theorem Follows.resize {serving : Serving} {columns rows : Nat} (writes : Nat) (action : Action)
    (mirror : system.controller.mirror = some session)
    (serving_eq : system.serving = some serving) {replayStart : Nat}
    (link : client.link = .flowing replayStart upTo) :
    ∃ after, Follows (Mirroring.close (system.controller.pump display session writes
        (.resize columns rows)) (some serving)) after ∧ client.Moves stream action after := by
  have hflowing : ∀ requestedFrom availableFrom,
      client.link ≠ .announced requestedFrom availableFrom := by
    rw [link]
    simp
  by_cases hnonsense : columns = 0 ∨ rows = 0
  · have hhandled : session.handleMessage (.resize columns rows) = (session, none, true) := by
      simp only [MirrorSession.handleMessage, if_pos hnonsense]
    exact follows.aside writes action mirror hhandled (by simp) ⟨rfl, rfl, rfl⟩
      (fun _ => serving_eq) hflowing
  · have hhandled : session.handleMessage (.resize columns rows) =
        ({ session with info := { session.info with columns, rows } }, some (.resize columns rows),
          true) := by
      simp only [MirrorSession.handleMessage, if_neg hnonsense]
    have hresized := Controller.resizeGrid_resized display
      { system.controller with
        mirror := some { session with info := { session.info with columns, rows } } } columns rows
    have hpending := hresized.pending.trans follows.settled
    refine ⟨client, ?_, .aside action⟩
    rw [Controller.pump_event writes hhandled, Controller.handleMirrorEvent,
      Controller.settle_true hpending, Mirroring.close_mirror _ hresized.mirror]
    refine ⟨hpending, hresized.terminalId.trans follows.terminalId,
      hresized.resume.trans follows.resume, hresized.fed.trans follows.fed,
      hresized.resets.trans follows.resets, hresized.typed.trans follows.typed, ?_⟩
    obtain ⟨_, heq, hserving, hjoined⟩ := link ▸ follows.link
    cases mirror.symm.trans heq
    rw [hresized.mirror, link]
    exact ⟨_, rfl, serving_eq.symm.trans hserving, hjoined⟩

end

theorem Controller.sendReplies_eq (controller : Controller Screen) (session : MirrorSession)
    (writes : Nat) {replies : List (Nat × String)} {stop : Nat}
    (resets : controller.emulator.resets = client.resets)
    (within : ∀ reply ∈ replies, upTo ≤ reply.1 ∧ reply.1 < stop)
    (increase : replies.Pairwise fun earlier later => earlier.1 < later.1) :
    ∃ added, controller.sendReplies session writes replies =
        { controller with typed := controller.typed ++ added } ∧
      Answers client session.info.replayStartOffset upTo stop added := by
  unfold Controller.sendReplies
  split
  · rename_i hallowed
    have havailable : session.inputAvailable = true := (Bool.and_eq_true_iff.mp hallowed).1
    refine ⟨_, rfl, ?_, ?_, ?_⟩
    · intro typed member
      obtain ⟨reply, hreply, rfl⟩ := mem_map.mp member
      exact within reply (mem_of_mem_take hreply)
    · intro typed member
      obtain ⟨reply, _, rfl⟩ := mem_map.mp member
      exact ⟨rfl, havailable, resets⟩
    · rw [pairwise_map]
      exact increase.sublist (take_sublist _ _)
  · refine ⟨[], ?_, by simp, by simp, List.Pairwise.nil⟩
    rw [append_nil]

/-- What output does to the controller, the screen apart. -/
structure Controller.Applied (client : Following) (session : MirrorSession) (startOffset : Nat)
    (payload : Bytes) (before after : Controller Screen) : Prop where
  terminalId : after.desiredTerminalId = before.desiredTerminalId
  mirror : after.mirror = before.mirror
  pending : after.pendingDisconnect = before.pendingDisconnect
  resume : after.fromOffset = some session.nextExpectedOffset
  fed : after.emulator.fed = before.emulator.fed ++ payload
  resets : after.emulator.resets = before.emulator.resets
  typed : ∃ added, after.typed = before.typed ++ added ∧
    Answers client session.info.replayStartOffset startOffset (startOffset + payload.length) added

theorem Controller.onOutput_applied (display : Display Screen) (client : Following)
    (controller : Controller Screen) (session : MirrorSession)
    (writes startOffset : Nat) (payload : Bytes)
    (resets : controller.emulator.resets = client.resets) :
    Controller.Applied client session startOffset payload controller
      (controller.onOutput display session writes startOffset payload) := by
  have hfed : (controller.emulator.feed display startOffset payload).1.fed = _ :=
    Emulator.fed_feed startOffset payload
  have hresets : (controller.emulator.feed display startOffset payload).1.resets = _ :=
    Emulator.resets_feed startOffset payload
  obtain ⟨added, heq, hanswers⟩ := Controller.sendReplies_eq
    { controller with
      emulator := (controller.emulator.feed display startOffset payload).1
      resumeOffsetValid := true
      resumeOffset := session.nextExpectedOffset } session writes (hresets.trans resets)
    (fun _ member => Emulator.replies_within member)
    (Emulator.replies_increase display controller.emulator startOffset payload)
  unfold Controller.onOutput
  rw [heq]
  exact ⟨rfl, rfl, rfl, rfl, hfed, hresets, added, rfl, hanswers⟩

theorem Follows.output (follows : Follows system client)
    {terminalId : Uuid} {sent : ServerMessage × Serving} {startOffset length : Nat} (writes : Nat)
    (action : Action) (mirror : system.controller.mirror = some session)
    {replayStart : Nat} (here : client.terminalId = some terminalId)
    (link : client.link = .flowing replayStart upTo)
    (taken : Serving.flow (stream terminalId) upTo startOffset length = some sent) :
    ∃ after, Follows (Mirroring.close (system.controller.pump display session writes sent.1)
        (some sent.2)) after ∧ client.Moves stream action after := by
  obtain ⟨_, heq, hserving, hsubscribed, hnext, hinfo⟩ := link ▸ follows.link
  cases mirror.symm.trans heq
  unfold Serving.flow at taken
  split at taken
  · rename_i hwithin
    obtain ⟨hstart, hlength, hbound⟩ := hwithin
    cases taken
    have hflowing : ∀ requestedFrom availableFrom,
        client.link ≠ .announced requestedFrom availableFrom := by
      rw [link]
      simp
    have hpayload : ((stream terminalId).drop startOffset).take length =
        slice (stream terminalId) startOffset (startOffset + length) := by
      unfold slice
      rw [Nat.add_sub_cancel_left]
    have hsize : (((stream terminalId).drop startOffset).take length).length = length := by
      rw [length_take, length_drop]
      omega
    have hsome : ((stream terminalId).drop startOffset).take length ≠ [] := by
      intro hnil
      rw [hnil] at hsize
      exact absurd hsize (Nat.ne_of_lt hlength)
    have hframe := fun frame => show session.handleMessage (.output startOffset frame) =
      session.handleBinaryFrame startOffset frame from rfl
    by_cases hoverflow : 2 ^ 64 ≤ startOffset + length
    · have hhandled : session.handleMessage (.output startOffset
          (((stream terminalId).drop startOffset).take length)) = (session, none, false) := by
        rw [hframe, MirrorSession.handleBinaryFrame, if_neg hsome, hsize, if_pos hoverflow]
      exact follows.aside writes action mirror hhandled (by simp) ⟨rfl, rfl, rfl⟩ (by simp) hflowing
    by_cases hduplicate : startOffset + length ≤ upTo
    · have hhandled : session.handleMessage (.output startOffset
          (((stream terminalId).drop startOffset).take length)) = (session, none, true) := by
        rw [hframe, MirrorSession.handleBinaryFrame, if_neg hsome, hsize, if_neg hoverflow, hnext,
          if_neg (Nat.not_lt.mpr hstart), if_pos hduplicate]
      refine follows.aside writes action mirror hhandled (by simp) ⟨rfl, rfl, rfl⟩ ?_ hflowing
      intro _
      rw [hserving, Nat.max_eq_left hduplicate]
    · have hbeyond : upTo < startOffset + length := Nat.lt_of_not_le hduplicate
      have hhandled : session.handleMessage (.output startOffset
          (((stream terminalId).drop startOffset).take length)) =
            ({ session with nextExpectedOffset := startOffset + length },
              some (.output upTo (slice (stream terminalId) upTo (startOffset + length))), true) := by
        rw [hframe, MirrorSession.handleBinaryFrame, if_neg hsome, hsize, if_neg hoverflow, hnext,
          if_neg (Nat.not_lt.mpr hstart), if_neg hduplicate, hpayload, drop_slice,
          Nat.add_sub_cancel' hstart]
      have happlied := Controller.onOutput_applied display client
        { system.controller with
          mirror := some { session with nextExpectedOffset := startOffset + length } }
        { session with nextExpectedOffset := startOffset + length } writes upTo
        (slice (stream terminalId) upTo (startOffset + length)) follows.resets
      have hslice : upTo + (slice (stream terminalId) upTo (startOffset + length)).length =
          startOffset + length := by
        rw [length_slice hbound, Nat.add_sub_cancel' (Nat.le_of_lt hbeyond)]
      have hpending := happlied.pending.trans follows.settled
      obtain ⟨added, htyped, hanswers⟩ := happlied.typed
      rw [hslice, hinfo] at hanswers
      refine ⟨_, ?_, .outputs action here link ⟨hbeyond, hbound⟩ hanswers⟩
      rw [Controller.pump_event writes hhandled, Controller.handleMirrorEvent,
        Controller.settle_true hpending, Mirroring.close_mirror _ happlied.mirror]
      refine ⟨hpending, happlied.terminalId.trans follows.terminalId, happlied.resume, ?_,
        happlied.resets.trans follows.resets, ?_, ?_⟩
      · rw [happlied.fed]
        exact congrArg (· ++ _) follows.fed
      · rw [htyped]
        exact congrArg (· ++ _) follows.typed
      · rw [happlied.mirror]
        refine ⟨_, rfl, ?_, hsubscribed, rfl, hinfo⟩
        rw [Nat.max_eq_right (Nat.le_of_lt hbeyond)]
  · cases taken

theorem Follows.receive (follows : Follows system client) {arrival : Arrival} {writes : Nat}
    (action : Action) (taken : system.receive display stream arrival writes = some next) :
    ∃ after, Follows next after ∧ client.Moves stream action after := by
  unfold Mirroring.receive at taken
  split at taken
  · rename_i terminalId session serving hterminal hmirror hserving
    obtain ⟨sent, hsent, rfl⟩ := Option.map_eq_some_iff.mp taken
    have hhere : client.terminalId = some terminalId := follows.terminalId.symm.trans hterminal
    have hlink := follows.link
    rw [hmirror, hserving] at hlink
    cases hclient : client.link with
    | gone =>
      rw [hclient] at hlink
      cases hlink.1
    | asked fromOffset =>
      rw [hclient] at hlink
      obtain ⟨_, heq, hasked, _⟩ := hlink
      cases heq
      cases hasked
      have hflowing : ∀ requestedFrom availableFrom,
          client.link ≠ .announced requestedFrom availableFrom := by
        rw [hclient]
        simp
      cases arrival with
      | subscribed earliest nextOffset durable columns rows inputAvailable =>
        exact follows.subscribed session writes action hhere hclient hsent
      | offsetAhead nextOffset =>
        cases fromOffset with
        | none => cases hsent
        | some offset =>
          simp only [Serving.send] at hsent
          split at hsent
          · cases hsent
            exact follows.offsetAhead session .over writes action
          · cases hsent
      | ready =>
        cases hsent
        exact follows.aside writes action hmirror rfl (by simp [MirrorEvent.isAside])
          ⟨rfl, rfl, rfl⟩ (fun _ => hserving) hflowing
      | notice =>
        cases hsent
        exact follows.aside writes action hmirror rfl (by simp [MirrorEvent.isAside])
          ⟨rfl, rfl, rfl⟩ (fun _ => hserving) hflowing
      | error code =>
        simp only [Serving.send] at hsent
        split at hsent
        · cases hsent
        · rename_i hcode
          cases hsent
          refine follows.aside writes action hmirror rfl (by simp [MirrorEvent.isAside, hcode])
            ⟨rfl, rfl, rfl⟩ ?_ hflowing
          intro hrefuses
          rw [if_pos hrefuses]
          exact hserving
      | gap | output | durable | resize | closed | inputAck => cases hsent
    | announced requestedFrom availableFrom =>
      rw [hclient] at hlink
      obtain ⟨_, heq, hannounced, _⟩ := hlink
      cases heq
      cases hannounced
      cases arrival with
      | gap =>
        cases hsent
        exact follows.gap writes action hmirror hclient
      | ready | subscribed | offsetAhead | output | durable | resize | closed | inputAck | notice
      | error => cases hsent
    | flowing replayStart upTo =>
      rw [hclient] at hlink
      obtain ⟨_, heq, hflowing, _⟩ := hlink
      cases heq
      cases hflowing
      have hflowing : ∀ requestedFrom availableFrom,
          client.link ≠ .announced requestedFrom availableFrom := by
        rw [hclient]
        simp
      cases arrival with
      | output startOffset length =>
        exact follows.output writes action hmirror hhere hclient hsent
      | resize columns rows =>
        cases hsent
        exact follows.resize writes action hmirror hserving hclient
      | closed =>
        cases hsent
        exact follows.closed session .over writes action hflowing
      | durable offset =>
        cases hsent
        exact follows.aside writes action hmirror rfl (by simp [MirrorEvent.isAside])
          ⟨rfl, rfl, rfl⟩ (fun _ => hserving) hflowing
      | inputAck =>
        cases hsent
        exact follows.aside writes action hmirror rfl (by simp [MirrorEvent.isAside])
          ⟨rfl, rfl, rfl⟩ (fun _ => hserving) hflowing
      | notice =>
        cases hsent
        exact follows.aside writes action hmirror rfl (by simp [MirrorEvent.isAside])
          ⟨rfl, rfl, rfl⟩ (fun _ => hserving) hflowing
      | error code =>
        simp only [Serving.send] at hsent
        split at hsent
        · cases hsent
        · rename_i hcode
          cases hsent
          refine follows.aside writes action hmirror rfl (by simp [MirrorEvent.isAside, hcode])
            ⟨rfl, rfl, rfl⟩ ?_ hflowing
          intro hrefuses
          rw [if_pos hrefuses]
          exact hserving
      | ready | subscribed | offsetAhead | gap => cases hsent
  · cases taken

theorem Follows.step (follows : Follows system client) {action : Action}
    (taken : system.step display stream action = some next) :
    ∃ after, Follows next after ∧ client.Moves stream action after := by
  cases action with
  | attach terminalId =>
    cases taken
    exact follows.attach terminalId
  | detach =>
    cases taken
    exact ⟨_, follows.drops none rfl follows.settled ⟨rfl, rfl, rfl⟩,
      .letsGo _ none (Or.inr rfl) fun _ _ _ => .inr rfl⟩
  | setGridSize columns rows =>
    cases taken
    exact ⟨client, follows.resized (Controller.setGridSize_resized display _ columns rows), .aside _⟩
  | connect protocolV2 =>
    simp only [Mirroring.step] at taken
    split at taken
    · rename_i hready
      cases taken
      exact follows.connect protocolV2 hready.2
    · cases taken
  | notFound =>
    simp only [Mirroring.step] at taken
    split at taken
    · rename_i hcold
      cases taken
      have hclose : (⟨system.controller.notFound, none⟩ : Mirroring Screen) =
          Mirroring.close system.controller.notFound none := by
        simp [Mirroring.close]
      rw [hclose]
      refine ⟨_, follows.drops none hcold.2 follows.settled ⟨rfl, rfl, rfl⟩,
        .letsGo _ none (Or.inr rfl) ?_⟩
      intro requestedFrom availableFrom hlink
      rw [follows.gone hcold.2] at hlink
      cases hlink
    · cases taken
  | receive arrival writes => exact follows.receive _ taken
  | disconnect =>
    cases taken
    exact ⟨_, follows.drops none rfl follows.settled ⟨rfl, rfl, rfl⟩,
      .letsGo _ _ (Or.inl follows.terminalId) fun _ _ _ => .inl rfl⟩

end Hypeterm.Android
