import Hypeterm.Publisher.Isolation

/-! A publisher and the relay, with what is on its way between them.  The relay keeps the
open terminals of the device and gives a new id to a `local_ref` it has none open for. -/
namespace Hypeterm.Publisher.Wire

open Library

/-- `stale` is what was written to connections that are gone and may still be served.
`listing` is the list an attempt to connect took, and `used` holds every id that was ever
given.  `answered` is history: the requests whose echo was answered with
`terminal.opened`. -/
structure System where
  session : Session
  listing : Option (List Uuid)
  uplink : List Outbound
  stale : List Outbound
  downlink : List Frame
  terminals : List (String × Uuid)
  used : List Uuid
  answered : List String

/-- `own` is a step of the publisher that waits for nothing from the relay.  `serve` names
the id the relay would give. -/
inductive Action where
  | own (action : SessionAction)
  | list (succeeds : Bool)
  | ready (limits : Limits) (maxActiveTerminals : Nat)
  | receive
  | restart (openRequests : Option (Channel OpenRequest))
  | serve (terminalId : Uuid) (nextOffset : Nat)
  | serveStale (index : Nat) (terminalId : Uuid)
  | lose (index : Nat)
  | refuse (code message : String)
  | tell (frame : Frame)
  | close (terminalId : Uuid)

def isOpened : Frame → Bool
  | .text (some (.terminalOpened _ _ _)) => true
  | _ => false

/-- A step of the publisher that needs no part of the relay's. -/
def isOwn : SessionAction → Bool
  | .ready _ _ _ | .frame _ => false
  | _ => true

namespace System

def initial (openRequests : Option (Channel OpenRequest)) (allowRemoteOpen : Bool) : System :=
  ⟨.initial openRequests allowRemoteOpen, none, [], [], [], [], [], []⟩

def relayId (system : System) (localRef : String) : Option Uuid :=
  (lookup Prod.fst localRef system.terminals).map Prod.snd

/-- What the publisher writes is on its way; without a connection nothing is read. -/
def afterStep (system : System) (result : Session × List Outbound) : System :=
  match result.1.stage with
  | .connected _ => { system with session := result.1, uplink := system.uplink ++ result.2 }
  | _ =>
      { system with
        session := result.1, listing := none, uplink := [], downlink := []
        stale := system.stale ++ (system.uplink ++ result.2) }

def openTerminal (system : System) (localRef : String) (terminalId : Uuid) :
    Option (System × Uuid) :=
  match system.relayId localRef with
  | some existing => some (system, existing)
  | none =>
      if terminalId ∈ system.used then none
      else
        some ({ system with
          terminals := insertRow Prod.fst (localRef, terminalId) system.terminals
          used := system.used ++ [terminalId] }, terminalId)

def handle (system : System) (message : Outbound) (terminalId : Uuid) (nextOffset : Nat) :
    Option (System × List Frame) :=
  match message with
  | .terminalOpen requestId localRef _ _ _ _ _ inReplyTo =>
      (system.openTerminal localRef terminalId).map fun opened =>
        ({ opened.1 with answered := opened.1.answered ++ inReplyTo.toList },
          [.text (some (.terminalOpened requestId opened.2 nextOffset))])
  | .terminalClose terminalId _ =>
      some ({ system with
        terminals := system.terminals.filter fun row => row.2 ≠ terminalId }, [])
  | _ => some (system, [])

end System

def step (system : System) : Action → Option System
  | .own action =>
      if isOwn action then (system.session.step action).map system.afterStep else none
  | .list succeeds =>
      match system.session.stage with
      | .connecting =>
          some { system with
            listing := some (if succeeds then system.terminals.map Prod.snd else []) }
      | _ => none
  | .ready limits maxActiveTerminals =>
      match system.listing with
      | some listing =>
          (system.session.step (.ready limits maxActiveTerminals listing)).map system.afterStep
      | none => none
  | .receive =>
      match system.downlink with
      | frame :: downlink =>
          (system.session.step (.frame frame)).map ({ system with downlink } : System).afterStep
      | [] => none
  | .restart openRequests =>
      some { system with
        session := .initial openRequests system.session.allowRemoteOpen
        listing := none, uplink := [], downlink := []
        stale := system.stale ++ system.uplink }
  | .serve terminalId nextOffset =>
      match system.uplink with
      | message :: uplink =>
          (({ system with uplink } : System).handle message terminalId nextOffset).map fun handled =>
            { handled.1 with downlink := handled.1.downlink ++ handled.2 }
      | [] => none
  | .serveStale index terminalId =>
      match system.stale[index]? with
      | some message =>
          (({ system with stale := system.stale.eraseIdx index } : System).handle message terminalId
            0).map Prod.fst
      | none => none
  | .lose index => some { system with stale := system.stale.eraseIdx index }
  | .refuse code message =>
      match system.uplink with
      | .terminalOpen requestId _ _ _ _ _ _ _ :: uplink =>
          some { system with
            uplink
            downlink := system.downlink ++
              [.text (some (.error code message none (some requestId) none))] }
      | _ => none
  | .tell frame =>
      match system.session.stage with
      | .connected _ =>
          if isOpened frame then none
          else some { system with downlink := system.downlink ++ [frame] }
      | _ => none
  | .close terminalId =>
      some { system with terminals := system.terminals.filter fun row => row.2 ≠ terminalId }

end Hypeterm.Publisher.Wire

namespace Hypeterm.Publisher

open Library

def Outbound.opens : Outbound → List (String × String × Option String)
  | .terminalOpen requestId localRef _ _ _ _ _ inReplyTo => [(requestId, localRef, inReplyTo)]
  | _ => []

/-- An id that the relay waits for is echoed while the entry has no id of the relay's. -/
def Hosted.opening (hosted : Hosted) : String × String × Option String :=
  (hosted.spec.localRef, hosted.spec.localRef,
    if hosted.terminalId.isNone then hosted.spec.inReplyTo else none)

def Session.opening (session : Session) : SessionAction → List (String × String × Option String)
  | .ready _ _ _ =>
      session.mux.terminals.flatMap fun hosted =>
        (session.mux.get hosted.localRef).toList.map Hosted.opening
  | .control (.open spec _) =>
      match session.stage with
      | .connected connection =>
          if connection.maxTerminals ≤ session.mux.terminals.length ∨
            (session.mux.get spec.localRef).isSome then []
          else [(spec.localRef, spec.localRef, spec.inReplyTo)]
      | _ => []
  | _ => []

theorem opens_sendOpen (mux : Multiplexer) (localRef : String) :
    (mux.sendOpen localRef).flatMap Outbound.opens =
      (mux.get localRef).toList.map Hosted.opening := by
  unfold Multiplexer.sendOpen Hosted.opening
  split
  · rename_i hnone
    rw [hnone]
    rfl
  · rename_i hosted hfound
    rw [hfound]
    cases hreply : hosted.spec.inReplyTo <;> cases hknown : hosted.terminalId <;>
      simp [hreply, hknown, Outbound.opens]

theorem opens_closeFinished (mux : Multiplexer) :
    mux.closeFinished.2.flatMap Outbound.opens = [] := by
  rw [List.flatMap_eq_nil_iff]
  intro message member
  obtain ⟨hosted, _, hmessage⟩ := List.mem_flatMap.mp member
  obtain ⟨terminalId, _, rfl⟩ := List.mem_map.mp hmessage
  rfl

theorem opens_top (session : Session) (connection : Connection) (mux : Multiplexer)
    (written : List Outbound) :
    (session.top connection mux written).2.flatMap Outbound.opens =
      written.flatMap Outbound.opens := by
  have hwritten : (session.top connection mux written).2 = written ++ mux.closeFinished.2 := by
    unfold Session.top
    dsimp only
    split <;> rfl
  rw [hwritten, List.flatMap_append, opens_closeFinished, List.append_nil]

theorem opens_onControl (session : Session) {connection : Connection} (message : Control)
    (connected : session.stage = .connected connection) :
    (session.mux.onControl connection.limits connection.maxTerminals message).2.flatMap
      Outbound.opens = session.opening (.control message) := by
  cases message with
  | «open» spec events =>
    simp only [Multiplexer.onControl, Session.opening, connected]
    split
    · rename_i hfull
      rw [if_pos (Or.inl hfull)]
      rfl
    · rename_i hroom
      split
      · rename_i hused
        rw [if_pos (Or.inr hused)]
        rfl
      · rename_i hfree
        rw [if_neg (not_or.mpr ⟨hroom, hfree⟩), opens_sendOpen, Multiplexer.get_insert, if_pos rfl]
        rfl
  | output localRef startOffset bytes =>
    simp only [Multiplexer.onControl, Session.opening, Multiplexer.forward]
    split
    · rfl
    · rw [List.flatMap_eq_nil_iff]
      intro message member
      obtain ⟨frame, _, rfl⟩ := List.mem_map.mp member
      rfl
  | resize localRef cols rows =>
    simp only [Multiplexer.onControl, Session.opening, List.flatMap_eq_nil_iff]
    intro message member
    obtain ⟨terminalId, _, rfl⟩ := List.mem_map.mp member
    rfl
  | close | decline => rfl

theorem opens_onFrame (mux : Multiplexer) (limits : Limits) (allowRemoteOpen : Bool)
    (frame : Frame) :
    (mux.onFrame limits allowRemoteOpen frame).2.1.flatMap Outbound.opens = [] := by
  cases frame with
  | text message =>
    cases message with
    | none => rfl
    | some message =>
      cases message with
      | terminalOpenRequest requestId label cols rows =>
        simp only [Multiplexer.onFrame, Multiplexer.onMessage, Multiplexer.onOpenRequest]
        split
        · rfl
        · split
          · rfl
          · split <;> rfl
      | terminalClosed terminalId reason =>
        simp only [Multiplexer.onFrame, Multiplexer.onMessage]
        split <;> rfl
      | error code message terminalId requestId authoritative =>
        simp only [Multiplexer.onFrame, Multiplexer.onMessage]
        split
        · rfl
        · simp only [Multiplexer.onTerminalError]
          split
          · rfl
          · split
            · rfl
            · rw [List.flatMap_eq_nil_iff]
              intro message member
              obtain ⟨id, _, rfl⟩ := List.mem_map.mp member
              rfl
      | terminalOpened | outputAck | terminalResizeRequest | ready | notice | ping
      | unrecognised => rfl
  | binary bytes =>
    simp only [Multiplexer.onFrame]
    split <;> rfl
  | ping | pong | close => rfl

theorem Session.opens_step {session : Session} {action : SessionAction}
    {result : Session × List Outbound} (taken : session.step action = some result) :
    result.2.flatMap Outbound.opens = session.opening action := by
  cases Session.step_stepped taken with
  | connects limits maxActiveTerminals previouslyOpen result _ hresult =>
    have hcapable : (if session.allowRemoteOpen then [Outbound.capabilities true] else []).flatMap
        Outbound.opens = [] := by
      split <;> rfl
    rw [hresult, Session.connect, opens_top, List.flatMap_append, hcapable, List.nil_append,
      List.flatMap_assoc]
    simp only [opens_sendOpen]
    rfl
  | refuses result _ hresult | closes result _ hresult | hangsUp _ result _ hresult
  | retries _ result _ hresult | returns _ result _ hresult =>
    rw [hresult]
    rfl
  | controls message connection result hstage hresult =>
    rw [hresult, opens_top]
    exact opens_onControl session message hstage
  | stashes message result hstage hresult =>
    rw [hresult]
    cases message with
    | «open» =>
      simp only [Session.opening, hstage]
      rfl
    | output | resize | close | decline => rfl
  | lastHandle connection result _ hresult =>
    rw [hresult, opens_top]
    rfl
  | receives frame connection result _ hresult =>
    have hframe := opens_onFrame session.mux connection.limits session.allowRemoteOpen frame
    rw [hresult]
    unfold Session.onFrame
    dsimp only
    split
    · rw [opens_top]
      exact hframe
    · exact hframe
    · exact hframe
  | settles connection result _ _ hresult =>
    rw [hresult, opens_top]
    simp only [Session.opening, List.flatMap_eq_nil_iff]
    intro message member
    obtain ⟨orphan, _, rfl⟩ := List.mem_map.mp member
    rfl

end Hypeterm.Publisher
