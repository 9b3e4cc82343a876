import Hypeterm.Publisher.Wire

/-! The sweep for terminals that an earlier run left open.  It subtracts the ids this
connection was told about from a list taken before it opened anything. -/
namespace Hypeterm.Publisher

open Library List Option

namespace Multiplexer

def Holds (mux : Multiplexer) (localRef : String) (terminalId : Uuid) : Prop :=
  ∃ hosted ∈ mux.terminals, hosted.localRef = localRef ∧ hosted.terminalId = some terminalId

/-- Nothing more is known than before, and nothing that was told is forgotten. -/
structure Keeps (mux next : Multiplexer) : Prop where
  holds : ∀ localRef terminalId, next.Holds localRef terminalId → mux.Holds localRef terminalId
  opened : next.opened = mux.opened

variable {mux : Multiplexer}

theorem Keeps.refl (mux : Multiplexer) : mux.Keeps mux := ⟨fun _ _ holds => holds, rfl⟩

theorem Keeps.trans {middle next : Multiplexer} (first : mux.Keeps middle)
    (second : middle.Keeps next) : mux.Keeps next where
  holds localRef terminalId holds := first.holds localRef terminalId (second.holds _ _ holds)
  opened := second.opened.trans first.opened

theorem Keeps.of_eq {next : Multiplexer} (terminals : next.terminals = mux.terminals)
    (opened : next.opened = mux.opened) : mux.Keeps next where
  holds localRef terminalId holds := by
    unfold Holds at holds ⊢
    rw [← terminals]
    exact holds
  opened := opened

section

variable (mux)
include mux

theorem keeps_modify {f : Hosted → Hosted} (target : String)
    (keeps : ∀ hosted, (f hosted).localRef = hosted.localRef)
    (same : ∀ hosted, (f hosted).terminalId = hosted.terminalId) :
    mux.Keeps (mux.modify target f) where
  holds := by
    rintro localRef terminalId ⟨hosted, member, href, hid⟩
    obtain ⟨before, hbefore, rfl⟩ := List.mem_map.mp member
    refine ⟨before, hbefore, ?_, ?_⟩
    · split at href
      · exact (keeps before).symm.trans href
      · exact href
    · split at hid
      · exact (same before).symm.trans hid
      · exact hid
  opened := rfl

theorem keeps_filter (p : Hosted → Bool) (departed : List Hosted) :
    mux.Keeps { mux with terminals := mux.terminals.filter p, departed } where
  holds := by
    rintro localRef terminalId ⟨hosted, member, hknown⟩
    exact ⟨hosted, mem_of_mem_filter member, hknown⟩
  opened := rfl

theorem keeps_deliver (target : String) (event : Event) : mux.Keeps (mux.deliver target event) :=
  keeps_modify mux target (fun hosted => hosted.localRef_deliver event)
    fun hosted => hosted.terminalId_deliver event

theorem keeps_deliverTo (target : Uuid) (event : Event) :
    mux.Keeps (mux.deliverTo target event) := by
  unfold deliverTo
  split
  · exact keeps_deliver mux _ event
  · exact Keeps.refl mux

theorem keeps_depart (target : String) (last : Event) : mux.Keeps (mux.depart target last) := by
  unfold depart
  split
  · exact keeps_filter mux _ _
  · exact Keeps.refl mux

theorem keeps_insert (spec : TerminalSpec) (events : Channel Event) :
    mux.Keeps (mux.insert spec events) where
  holds := by
    rintro localRef terminalId ⟨hosted, member, href, hid⟩
    rcases mem_append.mp member with hold | hnew
    · exact ⟨hosted, mem_of_mem_filter hold, href, hid⟩
    · rw [mem_singleton.mp hnew] at hid
      cases hid
  opened := rfl

theorem keeps_stash (message : Control) : mux.Keeps (mux.stash message) := by
  cases message with
  | «open» => exact keeps_insert mux _ _
  | resize | close => exact keeps_modify mux _ (by simp) (by simp)
  | output | decline => exact Keeps.refl mux

theorem keeps_onControl (limits : Limits) (maxTerminals : Nat)
    (message : Control) : mux.Keeps (mux.onControl limits maxTerminals message).1 := by
  cases message with
  | «open» =>
    simp only [onControl]
    split
    · exact Keeps.of_eq rfl rfl
    · split
      · exact Keeps.of_eq rfl rfl
      · exact keeps_insert mux _ _
  | resize => exact keeps_modify mux _ (by simp) (by simp)
  | close => exact (keeps_modify mux _ (by simp) (by simp)).trans (keeps_deliver _ _ _)
  | output | decline => exact Keeps.refl mux

theorem not_holds_detach (localRef : String) (terminalId : Uuid) :
    ¬ mux.detach.Holds localRef terminalId := by
  rintro ⟨hosted, member, _, hid⟩
  obtain ⟨before, _, rfl⟩ := List.mem_map.mp member
  rw [Hosted.terminalId_offer] at hid
  cases hid

theorem not_holds_endAll (reason localRef : String) (terminalId : Uuid) :
    ¬ (mux.endAll reason).Holds localRef terminalId := by
  rintro ⟨hosted, member, _⟩
  cases member

/-- A frame tells an id with `terminal.opened` only. -/
theorem keeps_onFrame (limits : Limits) (allowRemoteOpen : Bool)
    {frame : Frame} (other : Wire.isOpened frame = false) :
    mux.Keeps (mux.onFrame limits allowRemoteOpen frame).1 := by
  cases frame with
  | text message =>
    cases message with
    | none => exact Keeps.refl mux
    | some message =>
      cases message with
      | terminalOpened => cases other
      | outputAck | terminalResizeRequest => exact keeps_deliverTo mux _ _
      | terminalOpenRequest requestId label cols rows =>
        simp only [Multiplexer.onFrame, onMessage, onOpenRequest]
        split
        · exact Keeps.refl mux
        · split
          · exact Keeps.refl mux
          · split
            · exact Keeps.of_eq rfl rfl
            · exact Keeps.refl mux
      | terminalClosed terminalId reason =>
        simp only [Multiplexer.onFrame, onMessage]
        split
        · exact keeps_depart mux _ _
        · exact Keeps.refl mux
      | error code message terminalId requestId authoritative =>
        simp only [Multiplexer.onFrame, onMessage]
        split
        · exact Keeps.refl mux
        · simp only [onTerminalError]
          split
          · exact Keeps.refl mux
          · split
            · exact keeps_modify mux _ (fun hosted => hosted.localRef_offer _)
                fun hosted => hosted.terminalId_offer _
            · exact keeps_depart mux _ _
      | ready | notice | ping | unrecognised => exact Keeps.refl mux
  | binary bytes =>
    simp only [Multiplexer.onFrame]
    split
    · exact keeps_deliverTo mux _ _
    · exact Keeps.refl mux
  | ping | pong | close => exact Keeps.refl mux

end

/-- `terminal.opened` makes one entry known, and notes its id. -/
theorem holds_onOpened {limits : Limits} {requestId : String} {given : Uuid} {nextOffset : Nat}
    {localRef : String} {terminalId : Uuid}
    (holds : (mux.onOpened limits requestId given nextOffset).Holds localRef terminalId) :
    mux.Holds localRef terminalId ∨ localRef = requestId ∧ terminalId = given ∧
      given ∈ (mux.onOpened limits requestId given nextOffset).opened := by
  unfold onOpened at holds ⊢
  split
  · rename_i hfound
    rw [hfound] at holds
    obtain ⟨hosted, member, href, hid⟩ := (keeps_deliver _ _ _).holds _ _ holds
    obtain ⟨before, hbefore, rfl⟩ := List.mem_map.mp member
    split at hid
    · rename_i htarget
      rw [if_pos htarget] at href
      cases hid
      exact .inr ⟨href.symm.trans htarget, rfl, mem_append_right _
        (mem_singleton_self _)⟩
    · rename_i htarget
      rw [if_neg htarget] at href
      exact .inl ⟨before, hbefore, href, hid⟩
  · rename_i hnone
    rw [hnone] at holds
    exact .inl holds

theorem opened_onOpened (mux : Multiplexer) (limits : Limits) (requestId : String) (given : Uuid)
    (nextOffset : Nat) : mux.opened ⊆ (mux.onOpened limits requestId given nextOffset).opened := by
  unfold onOpened
  split
  · exact subset_append_left _ _
  · exact List.Subset.refl _

end Multiplexer

/-- Ids are known while there is a connection only, and each of them was told on it. -/
structure Session.Told (session : Session) : Prop where
  online : ∀ localRef terminalId, session.mux.Holds localRef terminalId →
    ∃ connection, session.stage = .connected connection
  opened : ∀ localRef terminalId, session.mux.Holds localRef terminalId →
    terminalId ∈ session.mux.opened

namespace Session

variable {session : Session}

theorem Told.initial (openRequests : Option (Channel OpenRequest)) (allowRemoteOpen : Bool) :
    (initial openRequests allowRemoteOpen).Told := by
  constructor
  · rintro localRef terminalId ⟨hosted, member, _⟩
    cases member
  · rintro localRef terminalId ⟨hosted, member, _⟩
    cases member

section

variable (session) (connection : Connection)
include session connection

theorem keeps_top (mux : Multiplexer)
    (written : List Outbound) : mux.Keeps (session.top connection mux written).1.mux := by
  have hclosed : mux.Keeps mux.closeFinished.1 := mux.keeps_filter _ _
  unfold top
  dsimp only
  split
  · exact ⟨fun localRef terminalId holds => absurd holds (Multiplexer.not_holds_endAll _ _ _ _),
      hclosed.opened⟩
  · exact hclosed

theorem online_top (mux : Multiplexer)
    (written : List Outbound) {localRef : String} {terminalId : Uuid}
    (holds : (session.top connection mux written).1.mux.Holds localRef terminalId) :
    (session.top connection mux written).1.stage = .connected connection := by
  unfold top at holds ⊢
  dsimp only at holds ⊢
  split
  · rename_i hidle
    rw [if_pos hidle] at holds
    exact absurd holds (Multiplexer.not_holds_endAll _ _ _ _)
  · rfl

theorem Told.top {mux : Multiplexer} (written : List Outbound)
    (opened : ∀ localRef terminalId, mux.Holds localRef terminalId → terminalId ∈ mux.opened) :
    (session.top connection mux written).1.Told where
  online localRef terminalId holds := ⟨connection, online_top session connection mux written holds⟩
  opened localRef terminalId holds := by
    have hkeeps := keeps_top session connection mux written
    rw [hkeeps.opened]
    exact opened localRef terminalId (hkeeps.holds localRef terminalId holds)

end

theorem Told.nothing {session : Session}
    (nothing : ∀ localRef terminalId, ¬ session.mux.Holds localRef terminalId) : session.Told :=
  ⟨fun localRef terminalId holds => absurd holds (nothing localRef terminalId),
    fun localRef terminalId holds => absurd holds (nothing localRef terminalId)⟩

theorem Told.offline (told : session.Told) (offline : ∀ connection, session.stage ≠ .connected connection)
    (localRef : String) (terminalId : Uuid) : ¬ session.mux.Holds localRef terminalId := by
  intro holds
  obtain ⟨connection, hstage⟩ := told.online localRef terminalId holds
  exact offline connection hstage

def Opens (action : SessionAction) (localRef : String) (terminalId : Uuid) : Prop :=
  ∃ nextOffset, action = .frame (.text (some (.terminalOpened localRef terminalId nextOffset)))

/-- After a step what is known was known before, or is what the step tells. -/
structure After (session : Session) (action : SessionAction) (after : Session) : Prop where
  told : after.Told
  holds : ∀ localRef terminalId, after.mux.Holds localRef terminalId →
    session.mux.Holds localRef terminalId ∨ Opens action localRef terminalId

theorem After.nothing {action : SessionAction} {after : Session}
    (nothing : ∀ localRef terminalId, ¬ after.mux.Holds localRef terminalId) :
    session.After action after :=
  ⟨Told.nothing nothing, fun localRef terminalId holds => absurd holds (nothing localRef terminalId)⟩

theorem After.top (told : session.Told) {action : SessionAction} (connection : Connection)
    {mux : Multiplexer} (written : List Outbound) (keeps : session.mux.Keeps mux) :
    session.After action (session.top connection mux written).1 := by
  constructor
  · apply Told.top
    intro localRef terminalId holds
    rw [keeps.opened]
    exact told.opened localRef terminalId (keeps.holds localRef terminalId holds)
  · intro localRef terminalId holds
    exact .inl (keeps.holds _ _ ((keeps_top _ _ _ _).holds _ _ holds))

theorem After.onFrame (told : session.Told) (connection : Connection) (frame : Frame) :
    session.After (.frame frame) (session.onFrame connection frame).1 := by
  cases hopened : Wire.isOpened frame with
  | false =>
    unfold Session.onFrame
    dsimp only
    split
    · exact After.top told connection _ (Multiplexer.keeps_onFrame _ _ _ hopened)
    · exact After.nothing (Multiplexer.not_holds_endAll _ _)
    · exact After.nothing (Multiplexer.not_holds_detach _)
  | true =>
    unfold Wire.isOpened at hopened
    split at hopened
    · rename_i requestId given nextOffset
      constructor
      · apply Told.top
        intro localRef terminalId holds
        rcases Multiplexer.holds_onOpened holds with hold | ⟨_, rfl, hnoted⟩
        · exact Multiplexer.opened_onOpened _ _ _ _ _ (told.opened _ _ hold)
        · exact hnoted
      · intro localRef terminalId holds
        rcases Multiplexer.holds_onOpened ((keeps_top _ _ _ _).holds _ _ holds) with
          hold | ⟨rfl, rfl, _⟩
        · exact .inl hold
        · exact .inr ⟨nextOffset, rfl⟩
    · cases hopened

theorem Told.step (told : session.Told) {action : SessionAction} {result : Session × List Outbound}
    (taken : session.step action = some result) : session.After action result.1 := by
  cases step_stepped taken with
  | connects limits maxActiveTerminals previouslyOpen result _ hresult =>
    rw [hresult]
    exact After.top told _ _ (Multiplexer.Keeps.refl _)
  | refuses result _ hresult =>
    rw [hresult]
    exact After.nothing (Multiplexer.not_holds_detach _)
  | controls message connection result _ hresult =>
    rw [hresult]
    exact After.top told _ _ (Multiplexer.keeps_onControl _ _ _ message)
  | stashes message result hstage hresult =>
    rw [hresult]
    apply After.nothing
    intro localRef terminalId holds
    exact told.offline (by simp [hstage]) _ _ ((Multiplexer.keeps_stash _ message).holds _ _ holds)
  | lastHandle connection result _ hresult =>
    rw [hresult]
    exact After.top told _ _ (Multiplexer.Keeps.refl _)
  | closes result hstage hresult =>
    rw [hresult]
    exact After.nothing (told.offline (by simp [hstage]))
  | receives frame connection result hstage hresult =>
    rw [hresult]
    exact After.onFrame told connection frame
  | hangsUp connection result _ hresult =>
    rw [hresult]
    exact After.nothing (Multiplexer.not_holds_detach _)
  | settles connection result _ _ hresult =>
    rw [hresult]
    exact After.top told _ _ (Multiplexer.Keeps.refl _)
  | retries closed result hstage hresult =>
    rw [hresult]
    apply After.nothing
    intro localRef terminalId holds
    exact told.offline (by simp [hstage]) _ _ ((Multiplexer.keeps_filter _ _ _).holds _ _ holds)
  | returns closed result _ hresult =>
    rw [hresult]
    exact After.nothing (Multiplexer.not_holds_endAll _ _)

theorem previouslyOpen_step {action : SessionAction} {result : Session × List Outbound}
    (taken : session.step action = some result) {after : Connection}
    (connected : result.1.stage = .connected after) :
    (∃ before, session.stage = .connected before ∧ after.previouslyOpen = before.previouslyOpen) ∨
      ∃ limits maxActiveTerminals,
        action = .ready limits maxActiveTerminals after.previouslyOpen := by
  have htop : ∀ {connection : Connection} {mux : Multiplexer} {written : List Outbound},
      (session.top connection mux written).1.stage = .connected after → after = connection := by
    intro connection mux written hstage
    unfold top at hstage
    dsimp only at hstage
    split at hstage
    · cases hstage
    · exact (Stage.connected.inj hstage).symm
  cases step_stepped taken with
  | connects limits maxActiveTerminals previouslyOpen result _ hresult =>
    rw [hresult] at connected
    rw [htop connected]
    exact .inr ⟨limits, maxActiveTerminals, rfl⟩
  | refuses result _ hresult | closes result _ hresult | hangsUp _ result _ hresult
  | retries _ result _ hresult | returns _ result _ hresult =>
    rw [hresult] at connected
    cases connected
  | stashes message result hstage hresult =>
    rw [hresult] at connected
    rw [hstage] at connected
    cases connected
  | controls _ connection result hstage hresult | lastHandle connection result hstage hresult
  | settles connection result hstage _ hresult =>
    rw [hresult] at connected
    rw [htop connected]
    exact .inl ⟨connection, hstage, rfl⟩
  | receives frame connection result hstage hresult =>
    rw [hresult] at connected
    unfold Session.onFrame at connected
    dsimp only at connected
    split at connected
    · rw [htop connected]
      exact .inl ⟨connection, hstage, rfl⟩
    · cases connected
    · cases connected

end Session

theorem Session.opening_named (session : Session) (action : SessionAction) :
    ∀ opening ∈ session.opening action, opening.1 = opening.2.1 := by
  intro opening member
  unfold Session.opening at member
  split at member
  · obtain ⟨_, _, hmember⟩ := mem_flatMap.mp member
    obtain ⟨hosted, _, rfl⟩ := List.mem_map.mp hmember
    rfl
  · split at member
    · split at member
      · cases member
      · rw [mem_singleton.mp member]
    · cases member
  · cases member

namespace Wire

def System.Current (system : System) (listing : List Uuid) (localRef : String)
    (terminalId : Uuid) : Prop :=
  ∀ other, system.relayId localRef = some other → other ∈ listing → other = terminalId

structure Inv (system : System) : Prop where
  told : system.session.Told
  listed : ∀ connection, system.session.stage = .connected connection →
    system.listing = some connection.previouslyOpen
  silent : (∀ connection, system.session.stage ≠ .connected connection) →
    system.downlink = [] ∧ system.uplink = []
  keyed : (system.terminals.map Prod.fst).Nodup
  used : ∀ row ∈ system.terminals, row.2 ∈ system.used
  usedListing : ∀ listing, system.listing = some listing → listing ⊆ system.used
  named : ∀ message ∈ system.uplink, ∀ opening ∈ message.opens, opening.1 = opening.2.1
  current : ∀ listing, system.listing = some listing → ∀ localRef terminalId,
    system.session.mux.Holds localRef terminalId → system.Current listing localRef terminalId
  coming : ∀ listing, system.listing = some listing → ∀ localRef terminalId nextOffset,
    .text (some (.terminalOpened localRef terminalId nextOffset)) ∈ system.downlink →
      system.Current listing localRef terminalId

theorem Inv.initial (openRequests : Option (Channel OpenRequest)) (allowRemoteOpen : Bool) :
    Inv (System.initial openRequests allowRemoteOpen) where
  told := .initial openRequests allowRemoteOpen
  listed connection connected := by cases connected
  silent _ := ⟨rfl, rfl⟩
  keyed := nodup_nil
  used row member := by cases member
  usedListing listing listed := by cases listed
  named message member := by cases member
  current listing listed := by cases listed
  coming listing listed := by cases listed

section

variable {system : System}

section

variable (inv : Inv system)
include inv

theorem Inv.afterStep {action : SessionAction}
    {result : Session × List Outbound} (taken : system.session.step action = some result)
    (ready : ∀ limits maxActiveTerminals listing,
      action = .ready limits maxActiveTerminals listing → system.listing = some listing)
    (opens : ∀ localRef terminalId, Session.Opens action localRef terminalId →
      ∀ listing, system.listing = some listing → system.Current listing localRef terminalId) :
    Inv (system.afterStep result) := by
  obtain ⟨htold, hholds⟩ := inv.told.step taken
  have hcurrent : ∀ listing, system.listing = some listing → ∀ localRef terminalId,
      result.1.mux.Holds localRef terminalId → system.Current listing localRef terminalId := by
    intro listing hlisting localRef terminalId holds
    rcases hholds localRef terminalId holds with hold | hopens
    · exact inv.current listing hlisting localRef terminalId hold
    · exact opens localRef terminalId hopens listing hlisting
  have hopening : ∀ message ∈ result.2, ∀ opening ∈ message.opens, opening.1 = opening.2.1 := by
    intro message member opening hmember
    apply Session.opening_named system.session action
    rw [← Session.opens_step taken]
    exact mem_flatMap.mpr ⟨message, member, hmember⟩
  unfold System.afterStep
  split
  · rename_i connection hstage
    refine ⟨htold, ?_, ?_, inv.keyed, inv.used, inv.usedListing, ?_, hcurrent, inv.coming⟩
    · intro after hconnected
      rcases Session.previouslyOpen_step taken hconnected with
        ⟨before, hbefore, hsame⟩ | ⟨limits, maxActiveTerminals, rfl⟩
      · rw [hsame]
        exact inv.listed before hbefore
      · exact ready _ _ _ rfl
    · intro hoffline
      exact absurd hstage (hoffline connection)
    · intro message member
      rcases mem_append.mp member with hold | hnew
      · exact inv.named message hold
      · exact hopening message hnew
  · rename_i hoffline
    refine ⟨htold, ?_, fun _ => ⟨rfl, rfl⟩, inv.keyed, inv.used, ?_, ?_, ?_, ?_⟩
    · intro connection hconnected
      exact absurd hconnected (hoffline connection)
    · intro listing hlisting
      cases hlisting
    · intro message member
      cases member
    · intro listing hlisting
      cases hlisting
    · intro listing hlisting
      cases hlisting

theorem Inv.relay (terminals : List (String × Uuid)) (added : List Uuid)
    (answered : List String) (stale : List Outbound)
    (keyed : (terminals.map Prod.fst).Nodup)
    (used : ∀ row ∈ terminals, row.2 ∈ system.used ++ added)
    (kept : ∀ localRef other, (lookup Prod.fst localRef terminals).map Prod.snd = some other →
      other ∈ system.used → system.relayId localRef = some other) :
    Inv { system with terminals, used := system.used ++ added, answered, stale } := by
  have hcurrent : ∀ {listing localRef terminalId}, system.listing = some listing →
      system.Current listing localRef terminalId →
      ({ system with terminals, used := system.used ++ added, answered, stale } : System).Current
        listing localRef terminalId := by
    intro listing localRef terminalId hlisting current other hother hmember
    exact current other (kept localRef other hother (inv.usedListing listing hlisting hmember)) hmember
  refine ⟨inv.told, inv.listed, inv.silent, keyed, used, ?_, inv.named, ?_, ?_⟩
  · intro listing hlisting
    exact List.Subset.trans (inv.usedListing listing hlisting) (subset_append_left _ _)
  · intro listing hlisting localRef terminalId holds
    exact hcurrent hlisting (inv.current listing hlisting localRef terminalId holds)
  · intro listing hlisting localRef terminalId nextOffset member
    exact hcurrent hlisting (inv.coming listing hlisting localRef terminalId nextOffset member)

theorem Inv.closed (terminalId : Uuid) {stale : List Outbound} : Inv { system with
      terminals := system.terminals.filter fun row => row.2 ≠ terminalId, stale } := by
  have hclosed := inv.relay (system.terminals.filter fun row => row.2 ≠ terminalId) [] system.answered stale
    ((filter_sublist.map _).nodup inv.keyed) ?_ ?_
  · rw [append_nil] at hclosed
    exact hclosed
  · intro row member
    exact mem_append_left _ (inv.used row (mem_of_mem_filter member))
  · intro localRef other hother _
    rw [lookup_filter inv.keyed] at hother
    obtain ⟨row, hrow, rfl⟩ := map_eq_some_iff.mp hother
    rw [System.relayId, (filter_eq_some_iff.mp hrow).1]
    rfl

theorem Inv.handle (stale : List Outbound) {message : Outbound}
    {terminalId : Uuid} {nextOffset : Nat} {after : System} {frames : List Frame}
    (taken : ({ system with stale } : System).handle message terminalId nextOffset =
      some (after, frames)) :
    Inv after ∧ after.session = system.session ∧ after.listing = system.listing ∧
      after.uplink = system.uplink ∧ after.downlink = system.downlink ∧
      ((∀ opening ∈ message.opens, opening.1 = opening.2.1) →
        ∀ localRef given offset, .text (some (.terminalOpened localRef given offset)) ∈ frames →
            after.relayId localRef = some given) := by
  unfold System.handle at taken
  split at taken
  · rename_i requestId localRef label cols rows term acceptsInput inReplyTo
    obtain ⟨opened, hopened, htaken⟩ := map_eq_some_iff.mp taken
    cases htaken
    have hframe : opened.1.relayId localRef = some opened.2 →
        (∀ opening ∈ (Outbound.terminalOpen requestId localRef label cols rows term acceptsInput
          inReplyTo).opens, opening.1 = opening.2.1) →
        ∀ target given offset, .text (some (.terminalOpened target given offset)) ∈
          [Frame.text (some (.terminalOpened requestId opened.2 nextOffset))] →
            opened.1.relayId target = some given := by
      intro hid hnamed target given offset member
      cases mem_singleton.mp member
      have hsame : requestId = localRef := hnamed (requestId, localRef, inReplyTo)
        (mem_singleton_self _)
      rw [hsame]
      exact hid
    unfold System.openTerminal at hopened
    split at hopened
    · rename_i existing hexisting
      cases hopened
      have hsame := inv.relay system.terminals [] (system.answered ++ inReplyTo.toList) stale inv.keyed
        (fun row member => mem_append_left _ (inv.used row member))
        fun localRef other hother _ => hother
      rw [append_nil] at hsame
      exact ⟨hsame, rfl, rfl, rfl, rfl, hframe hexisting⟩
    · rename_i hnone
      split at hopened
      · cases hopened
      · rename_i hfresh
        cases hopened
        refine ⟨?_, rfl, rfl, rfl, rfl, hframe ?_⟩
        · apply inv.relay
          · exact nodup_insertRow _ inv.keyed
          · intro row member
            rcases mem_append.mp member with hold | hnew
            · exact mem_append_left _ (inv.used row (mem_of_mem_filter hold))
            · rw [mem_singleton.mp hnew]
              exact mem_append_right _ (mem_singleton_self _)
          · intro target other hother hused
            rw [lookup_insertRow] at hother
            split at hother
            · cases hother
              exact absurd hused hfresh
            · exact hother
        · simp only [System.relayId, lookup_insertRow, if_true, map_some]
  · rename_i given reason
    cases taken
    exact ⟨inv.closed given, rfl, rfl, rfl, rfl, fun _ _ _ _ member => by cases member⟩
  · cases taken
    exact ⟨⟨inv.told, inv.listed, inv.silent, inv.keyed, inv.used, inv.usedListing, inv.named,
      inv.current, inv.coming⟩, rfl, rfl, rfl, rfl, fun _ _ _ _ member => by cases member⟩

theorem Inv.sent {message : Outbound} {uplink : List Outbound}
    (queued : system.uplink = message :: uplink) :
    (∃ connection, system.session.stage = .connected connection) ∧
      (∀ opening ∈ message.opens, opening.1 = opening.2.1) ∧ Inv { system with uplink } := by
  have hnamed := inv.named
  rw [queued] at hnamed
  by_cases honline : ∃ connection, system.session.stage = .connected connection
  · refine ⟨honline, hnamed message mem_cons_self, inv.told, inv.listed, ?_, inv.keyed,
      inv.used, inv.usedListing, ?_, inv.current, inv.coming⟩
    · intro hoffline
      obtain ⟨connection, hstage⟩ := honline
      exact absurd hstage (hoffline connection)
    · exact fun other member => hnamed other (mem_cons_of_mem _ member)
  · have hsilent := (inv.silent fun connection hstage => honline ⟨connection, hstage⟩).2
    rw [queued] at hsilent
    cases hsilent

end

theorem Inv.answer (inv : Inv system)
    (online : ∃ connection, system.session.stage = .connected connection) {frames : List Frame}
    (current : ∀ localRef terminalId nextOffset,
      .text (some (.terminalOpened localRef terminalId nextOffset)) ∈ frames →
        system.relayId localRef = some terminalId) :
    Inv { system with downlink := system.downlink ++ frames } := by
  refine ⟨inv.told, inv.listed, ?_, inv.keyed, inv.used, inv.usedListing, inv.named, inv.current, ?_⟩
  · intro hoffline
    obtain ⟨connection, hstage⟩ := online
    exact absurd hstage (hoffline connection)
  · intro listing hlisting localRef terminalId nextOffset member
    rcases mem_append.mp member with hold | hnew
    · exact inv.coming listing hlisting localRef terminalId nextOffset hold
    · intro other hother _
      have hid : system.relayId localRef = some other := hother
      rw [current localRef terminalId nextOffset hnew, Option.some.injEq] at hid
      exact hid.symm

theorem Inv.list (inv : Inv system) {listing : List Uuid}
    (offline : ∀ connection, system.session.stage ≠ .connected connection)
    (known : listing ⊆ system.used) : Inv { system with listing := some listing } := by
  refine ⟨inv.told, ?_, inv.silent, inv.keyed, inv.used, ?_, inv.named, ?_, ?_⟩
  · intro connection hconnected
    exact absurd hconnected (offline connection)
  · intro found hfound
    cases hfound
    exact known
  · intro found _ localRef terminalId holds
    exact absurd holds (inv.told.offline offline localRef terminalId)
  · intro found _ localRef terminalId nextOffset member
    rw [(inv.silent offline).1] at member
    cases member

theorem Inv.receive (inv : Inv system) {frame : Frame} {downlink : List Frame}
    (arrived : system.downlink = frame :: downlink) : Inv { system with downlink } := by
  refine ⟨inv.told, inv.listed, ?_, inv.keyed, inv.used, inv.usedListing, inv.named,
    inv.current, ?_⟩
  · intro hoffline
    have hsilent := (inv.silent hoffline).1
    rw [arrived] at hsilent
    cases hsilent
  · intro listing hlisting localRef terminalId nextOffset member
    apply inv.coming listing hlisting localRef terminalId nextOffset
    rw [arrived]
    exact mem_cons_of_mem _ member

theorem Inv.restart (inv : Inv system) (openRequests : Option (Channel OpenRequest)) :
    Inv { system with
      session := .initial openRequests system.session.allowRemoteOpen
      listing := none, uplink := [], downlink := []
      stale := system.stale ++ system.uplink } := by
  refine ⟨.initial _ _, ?_, fun _ => ⟨rfl, rfl⟩, inv.keyed, inv.used, ?_, ?_, ?_, ?_⟩
  · intro connection hconnected
    cases hconnected
  · intro listing hlisting
    cases hlisting
  · intro message member
    cases member
  · intro listing hlisting
    cases hlisting
  · intro listing hlisting
    cases hlisting

theorem Inv.step {next : System} {action : Action} (inv : Inv system)
    (taken : step system action = some next) : Inv next := by
  cases action with
  | own action =>
    simp only [Wire.step] at taken
    split at taken
    · rename_i hown
      obtain ⟨result, hstep, rfl⟩ := map_eq_some_iff.mp taken
      refine inv.afterStep hstep ?_ ?_
      · rintro limits maxActiveTerminals listing rfl
        cases hown
      · rintro localRef terminalId ⟨nextOffset, rfl⟩
        cases hown
    · cases taken
  | list succeeds =>
    simp only [Wire.step] at taken
    split at taken
    · rename_i hstage
      cases taken
      apply inv.list
      · simp [hstage]
      · split
        · intro id member
          obtain ⟨row, hrow, rfl⟩ := List.mem_map.mp member
          exact inv.used row hrow
        · exact nil_subset _
    · cases taken
  | ready limits maxActiveTerminals =>
    simp only [Wire.step] at taken
    split at taken
    · rename_i listing hlisting
      obtain ⟨result, hstep, rfl⟩ := map_eq_some_iff.mp taken
      refine inv.afterStep hstep ?_ ?_
      · intro _ _ other heq
        cases heq
        exact hlisting
      · rintro localRef terminalId ⟨nextOffset, heq⟩
        cases heq
    · cases taken
  | receive =>
    simp only [Wire.step] at taken
    split at taken
    · rename_i frame downlink harrived
      obtain ⟨result, hstep, rfl⟩ := map_eq_some_iff.mp taken
      refine (inv.receive harrived).afterStep hstep ?_ ?_
      · intro _ _ _ heq
        cases heq
      · rintro localRef terminalId ⟨nextOffset, heq⟩ listing hlisting
        cases heq
        apply inv.coming listing hlisting localRef terminalId nextOffset
        rw [harrived]
        exact mem_cons_self
    · cases taken
  | restart openRequests =>
    cases taken
    exact inv.restart openRequests
  | serve terminalId nextOffset =>
    simp only [Wire.step] at taken
    split at taken
    · rename_i message uplink hqueued
      obtain ⟨⟨after, frames⟩, hhandle, rfl⟩ := map_eq_some_iff.mp taken
      obtain ⟨honline, hnamed, hrest⟩ := inv.sent hqueued
      obtain ⟨hafter, hsession, _, _, _, hid⟩ := hrest.handle system.stale hhandle
      exact hafter.answer (hsession ▸ honline) (hid hnamed)
    · cases taken
  | serveStale index terminalId =>
    simp only [Wire.step] at taken
    split at taken
    · obtain ⟨⟨after, frames⟩, hhandle, rfl⟩ := map_eq_some_iff.mp taken
      exact (inv.handle _ hhandle).1
    · cases taken
  | lose index =>
    cases taken
    exact ⟨inv.told, inv.listed, inv.silent, inv.keyed, inv.used, inv.usedListing, inv.named,
      inv.current, inv.coming⟩
  | refuse code message =>
    simp only [Wire.step] at taken
    split at taken
    · rename_i hqueued
      cases taken
      obtain ⟨honline, _, hrest⟩ := inv.sent hqueued
      apply hrest.answer honline
      intro localRef terminalId nextOffset member
      cases mem_singleton.mp member
    · cases taken
  | tell frame =>
    simp only [Wire.step] at taken
    split at taken
    · rename_i connection hstage
      split at taken
      · cases taken
      · rename_i hother
        cases taken
        apply inv.answer ⟨connection, hstage⟩
        intro localRef terminalId nextOffset member
        rw [← mem_singleton.mp member] at hother
        exact absurd rfl hother
    · cases taken
  | close terminalId =>
    cases taken
    exact inv.closed terminalId

end

/-- In every state of every run with a connection: the sweep spares the relay's id of every
`local_ref` in the map exactly when each of them that is listed and has no id of the
relay's in the map was still told on this connection. -/
theorem sweep_spares_held_terminals_iff {openRequests : Option (Channel OpenRequest)}
    {allowRemoteOpen : Bool} {actions : List Action} {system : System} {connection : Connection}
    (taken : run step (System.initial openRequests allowRemoteOpen) actions = some system)
    (connected : system.session.stage = .connected connection) :
    (∀ orphan reason, .terminalClose orphan reason ∈
        system.session.mux.sweepOrphans connection.previouslyOpen →
      ∀ hosted ∈ system.session.mux.terminals, system.relayId hosted.localRef ≠ some orphan) ↔
    ∀ hosted ∈ system.session.mux.terminals, hosted.terminalId = none →
      ∀ terminalId ∈ connection.previouslyOpen, system.relayId hosted.localRef = some terminalId →
        terminalId ∈ system.session.mux.opened := by
  have hinv : Inv system :=
    run_invariant (fun _ _ _ inv hstep => inv.step hstep)
      (Inv.initial openRequests allowRemoteOpen) taken
  have hswept : ∀ orphan reason, .terminalClose orphan reason ∈
      system.session.mux.sweepOrphans connection.previouslyOpen ↔
      orphan ∈ connection.previouslyOpen ∧ orphan ∉ system.session.mux.opened ∧
        reason = "publisher_replaced" := by
    intro orphan reason
    unfold Multiplexer.sweepOrphans
    rw [List.mem_map]
    constructor
    · rintro ⟨listed, hlisted, heq⟩
      cases heq
      rw [mem_filter] at hlisted
      exact ⟨hlisted.1, by simpa using hlisted.2, rfl⟩
    · rintro ⟨hlisted, hunopened, rfl⟩
      exact ⟨orphan, mem_filter.mpr ⟨hlisted, by simpa using hunopened⟩, rfl⟩
  constructor
  · intro hspared hosted member _ terminalId hlisted hid
    by_contra hunopened
    exact hspared terminalId _ ((hswept _ _).mpr ⟨hlisted, hunopened, rfl⟩) hosted member hid
  · intro htold orphan reason hclose hosted member hid
    obtain ⟨hlisted, hunopened, _⟩ := (hswept _ _).mp hclose
    cases hknown : hosted.terminalId with
    | none => exact hunopened (htold hosted member hknown orphan hlisted hid)
    | some terminalId =>
      have hholds : system.session.mux.Holds hosted.localRef terminalId :=
        ⟨hosted, member, rfl, hknown⟩
      have hsame := hinv.current _ (hinv.listed connection connected) _ _ hholds orphan hid hlisted
      rw [hsame] at hunopened
      exact hunopened (hinv.told.opened _ _ hholds)

/-- The first daemon leaves a terminal behind; the second opens another one and is told of
it before the sweep. -/
def replacedRun : List Action :=
  [Action.list true, .ready ⟨1024, 65536⟩ 4, .own (.control (.open (spec "old") (Channel.new 8))),
    .serve 5 0, .restart none, .list true, .ready ⟨1024, 65536⟩ 4,
    .own (.control (.open (spec "shell") (Channel.new 8))), .serve 7 0, .receive]

theorem sweep_spares_held_terminals_in_replacedRun :
    ∃ system connection, run step (System.initial none false) replacedRun = some system ∧
      system.session.stage = .connected connection ∧
      .terminalClose 5 "publisher_replaced" ∈
        system.session.mux.sweepOrphans connection.previouslyOpen ∧
      ∀ orphan reason, .terminalClose orphan reason ∈
          system.session.mux.sweepOrphans connection.previouslyOpen →
        ∀ hosted ∈ system.session.mux.terminals, system.relayId hosted.localRef ≠ some orphan := by
  obtain ⟨system, connection, htaken, hconnected, hswept, htold⟩ : ∃ system connection,
      run step (System.initial none false) replacedRun = some system ∧
        system.session.stage = .connected connection ∧
        .terminalClose 5 "publisher_replaced" ∈
          system.session.mux.sweepOrphans connection.previouslyOpen ∧
        ∀ hosted ∈ system.session.mux.terminals, hosted.terminalId = none →
          ∀ terminalId ∈ connection.previouslyOpen,
            system.relayId hosted.localRef = some terminalId →
              terminalId ∈ system.session.mux.opened :=
    ⟨_, _, rfl, rfl, by decide, by decide⟩
  exact ⟨system, connection, htaken, hconnected, hswept,
    (sweep_spares_held_terminals_iff htaken hconnected).mpr htold⟩

/-- After a lost connection the terminal is opened again, and the answer is slow. -/
def slowRun : List Action :=
  [Action.list true, .ready ⟨1024, 65536⟩ 4,
    .own (.control (.open (spec "shell") (Channel.new 8))), .serve 7 0, .receive, .own .hangUp,
    .own .retry, .list true, .ready ⟨1024, 65536⟩ 4, .serve 9 0]

theorem sweep_closes_a_held_terminal :
    ∃ system next, run step (System.initial none false) slowRun = some system ∧
      step system (.own .settle) = some next ∧
      .terminalClose 7 "publisher_replaced" ∈ next.uplink ∧
      (∃ hosted ∈ system.session.mux.terminals, system.relayId hosted.localRef = some 7) ∧
      .text (some (.terminalOpened "shell" 7 0)) ∈ system.downlink :=
  ⟨_, _, rfl, rfl, by decide, by decide, by decide⟩

end Wire

end Hypeterm.Publisher
