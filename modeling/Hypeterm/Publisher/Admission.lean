import Hypeterm.Publisher.Session
import Hypeterm.Library.Runs

/-! Which requests to host a terminal are granted. On a connection the multiplexer refuses one
whose `local_ref` is taken or that is beyond the relay's limit; between connections it takes
whatever comes, and the next connection opens it all. -/
namespace Hypeterm.Publisher

open Library List

namespace Multiplexer

def refs (mux : Multiplexer) : List String := mux.terminals.map Hosted.localRef

variable (mux : Multiplexer)

theorem refs_modify {f : Hosted → Hosted} (target : String)
    (keeps : ∀ hosted, (f hosted).localRef = hosted.localRef) :
    (mux.modify target f).refs = mux.refs := by
  unfold refs modify update
  rw [map_map]
  apply map_congr_left
  intro hosted _
  simp only [Function.comp_apply]
  split
  · exact keeps hosted
  · rfl

theorem refs_deliver (target : String) (event : Event) : (mux.deliver target event).refs = mux.refs :=
  mux.refs_modify target fun hosted => hosted.localRef_deliver event

theorem refs_deliverTo (target : Uuid) (event : Event) :
    (mux.deliverTo target event).refs = mux.refs := by
  unfold deliverTo
  split
  · exact mux.refs_deliver _ event
  · rfl

theorem refs_depart (target : String) (last : Event) :
    ((mux.depart target last).refs).Sublist mux.refs := by
  unfold depart
  split
  · exact filter_sublist.map _
  · exact Sublist.refl _

theorem refs_detach : mux.detach.refs = mux.refs := by
  unfold refs detach
  rw [map_map]
  apply map_congr_left
  intro hosted _
  exact Hosted.localRef_offer _ _

theorem refs_closeFinished : (mux.closeFinished.1.refs).Sublist mux.refs :=
  filter_sublist.map _

theorem refs_prune : (mux.prune.refs).Sublist mux.refs := filter_sublist.map _

theorem refs_insert {spec : TerminalSpec} (fresh : mux.get spec.localRef = none)
    (events : Channel Event) : (mux.insert spec events).refs = mux.refs ++ [spec.localRef] := by
  have hkept : mux.terminals.filter (fun stored => Hosted.localRef stored ≠ spec.localRef) =
      mux.terminals := by
    apply filter_eq_self.mpr
    intro hosted member
    simpa using lookup_eq_none.mp fresh hosted member
  unfold refs insert insertRow
  rw [map_append]
  exact congrArg (· ++ [spec.localRef]) (congrArg (map Hosted.localRef) hkept)

theorem refs_onFrame (limits : Limits) (allowRemoteOpen : Bool) (frame : Frame) :
    ((mux.onFrame limits allowRemoteOpen frame).1.refs).Sublist mux.refs := by
  have hsame : (mux.refs).Sublist mux.refs := Sublist.refl _
  cases frame with
  | text message =>
    cases message with
    | none => exact hsame
    | some message =>
      cases message with
      | terminalOpened requestId terminalId nextOffset =>
        simp only [Multiplexer.onFrame, onMessage, onOpened]
        split
        · rw [refs_deliver]
          have hnamed : ((mux.modify requestId fun hosted =>
              { hosted with terminalId := some terminalId }).refs).Sublist mux.refs := by
            rw [mux.refs_modify]
            exact fun _ => rfl
          exact hnamed
        · exact hsame
      | outputAck | terminalResizeRequest => exact (mux.refs_deliverTo _ _) ▸ hsame
      | terminalOpenRequest requestId label cols rows =>
        simp only [Multiplexer.onFrame, onMessage, onOpenRequest]
        split
        · exact hsame
        · split
          · exact hsame
          · split
            · exact hsame
            · exact hsame
      | terminalClosed terminalId reason =>
        simp only [Multiplexer.onFrame, onMessage]
        split
        · exact mux.refs_depart _ _
        · exact hsame
      | error code message terminalId requestId authoritative =>
        simp only [Multiplexer.onFrame, onMessage]
        split
        · exact hsame
        · simp only [onTerminalError]
          split
          · exact hsame
          · split
            · exact (mux.refs_modify _ fun hosted => hosted.localRef_offer _) ▸ hsame
            · exact mux.refs_depart _ _
      | ready | notice | ping | unrecognised => exact hsame
  | binary bytes =>
    simp only [Multiplexer.onFrame]
    split
    · exact (mux.refs_deliverTo _ _) ▸ hsame
    · exact hsame
  | ping | pong | close => exact hsame

end Multiplexer

/-- One request to host a terminal, and the table and the departed before and after it. -/
structure OpenRecord where
  spec : TerminalSpec
  events : Channel Event
  before : Multiplexer
  after : Multiplexer

/-- If the `local_ref` is taken, nothing hosted is touched and the caller is told, as far as its
queue takes the news. -/
def OpenRecord.Undisturbed (record : OpenRecord) : Prop :=
  (record.before.get record.spec.localRef).isSome = true →
    record.after.terminals = record.before.terminals ∧
      ∃ caller : Hosted, record.after.departed = record.before.departed ++ [caller] ∧
        caller.spec = record.spec ∧
        (record.events.receiverAlive = true →
          record.events.queue.length < record.events.capacity →
            ∃ reason, caller.events.sent = record.events.sent ++ [.ended reason])

/-- A session, how many connections it has had, the `local_ref`s that it took on since the last
of them was lost, and every request to host a terminal. -/
structure Admission where
  session : Session
  connections : Nat
  outageOpens : List String
  opens : List OpenRecord

/-- What the relay advertises is the limit, unless it is zero. -/
def effectiveLimit (advertised : Nat) : Nat := if advertised = 0 then 2 ^ 64 - 1 else advertised

namespace Admission

def initial (openRequests : Option (Channel OpenRequest)) (allowRemoteOpen : Bool) : Admission :=
  ⟨Session.initial openRequests allowRemoteOpen, 0, [], []⟩

/-- The relay advertises `advertised n` on the `n`-th connection. -/
def advertises (advertised : Nat → Nat) (admission : Admission) : SessionAction → Bool
  | .ready _ maxActiveTerminals _ => maxActiveTerminals = advertised admission.connections
  | _ => true

def isReady : SessionAction → Bool
  | .ready _ _ _ => true
  | _ => false

/-- An outage begins when a connection is lost, and what is taken on in it counts until the
next one begins. -/
def outageOpensAfter (admission : Admission) (action : SessionAction) (after : Stage) :
    List String :=
  match admission.session.stage, after, action with
  | .connected _, .connected _, _ => admission.outageOpens
  | .connected _, _, _ => []
  | .waiting _, _, .control (.open spec _) => admission.outageOpens ++ [spec.localRef]
  | _, _, _ => admission.outageOpens

def recordOf (before after : Multiplexer) : SessionAction → List OpenRecord
  | .control (.open spec events) => [⟨spec, events, before, after⟩]
  | _ => []

def step (advertised : Nat → Nat) (admission : Admission) (action : SessionAction) :
    Option Admission :=
  if admission.advertises advertised action then
    (admission.session.step action).map fun result =>
      { session := result.1
        connections := admission.connections + (isReady action).toNat
        outageOpens := admission.outageOpensAfter action result.1.stage
        opens := admission.opens ++ recordOf admission.session.mux result.1.mux action }
  else none

/-- No more terminals are hosted than a limit allows, unless none of them was taken on during
the last outage. -/
def Fits (admission : Admission) (limit : Nat) : Prop :=
  admission.session.mux.terminals.length ≤ limit ∨
    ∀ hosted ∈ admission.session.mux.terminals, hosted.localRef ∉ admission.outageOpens

def WithinLimit (admission : Admission) : Prop :=
  ∀ connection, admission.session.stage = .connected connection →
    admission.Fits connection.maxTerminals

/-- A request that comes during an outage names a terminal that is not hosted yet, and the next
connection has room for it. -/
def admits (advertised : Nat → Nat) (admission : Admission) : SessionAction → Bool
  | .control (.open spec _) =>
      match admission.session.stage with
      | .waiting _ =>
          (admission.session.mux.get spec.localRef).isNone &&
            admission.session.mux.terminals.length <
              effectiveLimit (advertised admission.connections)
      | _ => true
  | _ => true

/-- `Fits` for whichever limit comes next. -/
def Room (advertised : Nat → Nat) (admission : Admission) : Prop :=
  match admission.session.stage with
  | .connected connection => admission.Fits connection.maxTerminals
  | .connecting | .waiting _ => admission.Fits (effectiveLimit (advertised admission.connections))
  | .over _ => True

structure Inv (advertised : Nat → Nat) (admission : Admission) : Prop where
  opens : ∀ record ∈ admission.opens, record.Undisturbed
  settled : ∀ connection, admission.session.stage = .connected connection →
    ∀ hosted ∈ admission.session.mux.terminals, hosted.finished = false
  room : admission.Room advertised

theorem fits_iff (admission : Admission) (limit : Nat) :
    admission.Fits limit ↔ admission.session.mux.refs.length ≤ limit ∨
      ∀ ref ∈ admission.session.mux.refs, ref ∉ admission.outageOpens := by
  unfold Fits Multiplexer.refs
  rw [length_map, forall_mem_map]

variable {admission next : Admission} {advertised : Nat → Nat} {session : Session}
  {connection : Connection} {mux : Multiplexer} {events : Channel Event} {spec : TerminalSpec}
  {action : SessionAction}

theorem Fits.of_sublist {limit : Nat} (fits : admission.Fits limit)
    (refs : (next.session.mux.refs).Sublist admission.session.mux.refs)
    (outageOpens : ∀ ref ∈ next.outageOpens, ref ∈ admission.outageOpens) : next.Fits limit := by
  rw [fits_iff] at fits ⊢
  rcases fits with hlength | hnone
  · exact .inl (Nat.le_trans refs.length_le hlength)
  · exact .inr fun ref member outage =>
      hnone ref (refs.subset member) (outageOpens ref outage)

theorem Inv.of_top {written : List Outbound}
    (top_eq : next.session = (session.top connection mux written).1)
    (opens : ∀ record ∈ next.opens, record.Undisturbed)
    (fits : mux.refs.length ≤ connection.maxTerminals ∨
      ∀ ref ∈ mux.refs, ref ∉ next.outageOpens) : Inv advertised next := by
  unfold Session.top at top_eq
  dsimp only at top_eq
  split at top_eq
  · refine ⟨opens, ?_, ?_⟩
    · intro other connected
      rw [top_eq] at connected
      cases connected
    · unfold Room
      rw [top_eq]
      trivial
  · refine ⟨opens, ?_, ?_⟩
    · intro other connected hosted member
      rw [top_eq] at member
      simpa using (mem_filter.mp member).2
    · unfold Room
      rw [top_eq]
      change next.Fits connection.maxTerminals
      rw [fits_iff, top_eq]
      rcases fits with hlength | hnone
      · exact .inl (Nat.le_trans mux.refs_closeFinished.length_le hlength)
      · exact .inr fun ref member => hnone ref (mux.refs_closeFinished.subset member)

theorem Inv.of_fail (fail_eq : next.session = session.fail mux)
    (opens : ∀ record ∈ next.opens, record.Undisturbed) (outageOpens : next.outageOpens = []) :
    Inv advertised next := by
  refine ⟨opens, ?_, ?_⟩
  · intro connection connected
    rw [fail_eq] at connected
    cases connected
  · unfold Room
    rw [fail_eq]
    change next.Fits _
    apply Or.inr
    intro hosted _
    rw [outageOpens]
    exact not_mem_nil

theorem outageOpensAfter_connected
    (connected : admission.session.stage = .connected connection) (action : SessionAction)
    (after : Stage) : ∀ ref ∈ admission.outageOpensAfter action after, ref ∈ admission.outageOpens := by
  intro ref member
  unfold outageOpensAfter at member
  rw [connected] at member
  cases after with
  | connected => exact member
  | connecting | waiting | «over» => cases member

theorem Inv.initial (advertised : Nat → Nat) (openRequests : Option (Channel OpenRequest))
    (allowRemoteOpen : Bool) : Inv advertised (initial openRequests allowRemoteOpen) where
  opens := fun record member => by cases member
  settled := fun connection connected => by cases connected
  room := Or.inl (Nat.zero_le _)

theorem trySend_room {event : Event} (alive : events.receiverAlive = true)
    (room : events.queue.length < events.capacity) :
    events.trySend event =
      .ok { events with queue := events.queue ++ [event], sent := events.sent ++ [event] } := by
  unfold Channel.trySend
  rw [alive, Bool.not_true, if_neg Bool.false_ne_true, if_neg (Nat.not_le.mpr room)]

theorem undisturbed_refused {after : Multiplexer}
    {reason : String} (terminals : after.terminals = mux.terminals)
    (departed : after.departed = mux.departed ++
      [(⟨spec, none, events, none⟩ : Hosted).offer (.ended reason)]) :
    OpenRecord.Undisturbed ⟨spec, events, mux, after⟩ := by
  intro _
  refine ⟨terminals, _, departed, Hosted.spec_offer _ _, ?_⟩
  intro alive room
  apply Exists.intro reason
  unfold Hosted.offer
  rw [trySend_room alive room]

theorem top_settled (session : Session) (connection : Connection) (mux : Multiplexer)
    (written : List Outbound) (settled : ∀ hosted ∈ mux.terminals, hosted.finished = false)
    (busy : mux.terminals ≠ []) :
    (session.top connection mux written).1.mux.terminals = mux.terminals ∧
      (session.top connection mux written).1.mux.departed = mux.departed := by
  have hkept : mux.terminals.filter (fun hosted => !hosted.finished) = mux.terminals := by
    apply filter_eq_self.mpr
    intro hosted member
    rw [settled hosted member]
    rfl
  have hgone : mux.terminals.filter Hosted.finished = [] := by
    apply filter_eq_nil_iff.mpr
    intro hosted member
    rw [settled hosted member]
    exact Bool.false_ne_true
  have hbusy : mux.terminals.isEmpty = false := by
    rw [← Bool.not_eq_true, List.isEmpty_iff]
    exact busy
  unfold Session.top Multiplexer.closeFinished Multiplexer.idle
  dsimp only
  rw [hkept, hgone, hbusy, Bool.false_and, if_neg Bool.false_ne_true]
  exact ⟨rfl, append_nil _⟩

theorem step_inversion (taken : admission.step advertised action = some next) :
    ∃ result, admission.advertises advertised action = true ∧
      Session.Stepped admission.session action result ∧
      next = { session := result.1
               connections := admission.connections + (isReady action).toNat
               outageOpens := admission.outageOpensAfter action result.1.stage
               opens := admission.opens ++
                 recordOf admission.session.mux result.1.mux action } := by
  unfold step at taken
  split at taken
  · rename_i advertises
    cases hresult : admission.session.step action with
    | none =>
      rw [hresult] at taken
      cases taken
    | some result =>
      rw [hresult] at taken
      cases taken
      exact ⟨result, advertises, Session.step_stepped hresult, rfl⟩
  · cases taken

theorem undisturbed_onControl
    (settled : ∀ hosted ∈ session.mux.terminals, hosted.finished = false) :
    OpenRecord.Undisturbed ⟨spec, events, session.mux, (session.top connection
        (session.mux.onControl connection.limits connection.maxTerminals (.open spec events)).1
        (session.mux.onControl connection.limits connection.maxTerminals
          (.open spec events)).2).1.mux⟩ := by
  intro taken
  change (session.mux.get spec.localRef).isSome = true at taken
  have hbusy : session.mux.terminals ≠ [] := by
    intro hempty
    unfold Multiplexer.get at taken
    rw [hempty, Library.lookup_nil] at taken
    cases taken
  -- both refusals leave the table and append the caller to the departed
  have hrefused : ∃ reason,
      session.mux.onControl connection.limits connection.maxTerminals (.open spec events) =
        ({ session.mux with
           departed := session.mux.departed ++
             [(⟨spec, none, events, none⟩ : Hosted).offer (.ended reason)] }, []) := by
    simp only [Multiplexer.onControl, taken]
    split
    · exact ⟨_, rfl⟩
    · exact ⟨_, rfl⟩
  obtain ⟨reason, hrefused⟩ := hrefused
  rw [hrefused]
  have htop := top_settled session connection { session.mux with
    departed := session.mux.departed ++
      [(⟨spec, none, events, none⟩ : Hosted).offer (.ended reason)] } [] settled hbusy
  exact undisturbed_refused htop.1 htop.2 taken

theorem refs_onControl (mux : Multiplexer) (limits : Limits) (maxTerminals : Nat)
    (message : Control) :
    ((mux.onControl limits maxTerminals message).1.refs).Sublist mux.refs ∨
      (mux.onControl limits maxTerminals message).1.refs.length ≤ maxTerminals := by
  cases message with
  | «open» spec events =>
    simp only [Multiplexer.onControl]
    split
    · exact .inl (Sublist.refl _)
    · rename_i hroom
      split
      · exact .inl (Sublist.refl _)
      · rename_i hfresh
        apply Or.inr
        rw [mux.refs_insert (by simpa using hfresh), length_append]
        unfold Multiplexer.refs
        rw [length_map]
        exact Nat.lt_of_not_le hroom
  | output => exact .inl (Sublist.refl _)
  | resize localRef cols rows =>
    apply Or.inl
    have hsame : (mux.modify localRef fun hosted => hosted.resize cols rows).refs = mux.refs :=
      mux.refs_modify localRef fun _ => rfl
    exact hsame ▸ Sublist.refl _
  | close localRef reason =>
    apply Or.inl
    have hsame : (mux.modify localRef fun hosted => hosted.setClosing reason).refs = mux.refs :=
      mux.refs_modify localRef fun _ => rfl
    simp only [Multiplexer.onControl]
    rw [Multiplexer.refs_deliver, hsame]
  | decline => exact .inl (Sublist.refl _)

theorem refs_stash (mux : Multiplexer) {message : Control}
    (other : ∀ spec events, message ≠ .open spec events) : (mux.stash message).refs = mux.refs := by
  cases message with
  | «open» spec events => exact absurd rfl (other spec events)
  | output | decline => rfl
  | resize localRef cols rows => exact mux.refs_modify localRef fun _ => rfl
  | close localRef reason =>
    apply mux.refs_modify localRef
    intro hosted
    exact Hosted.localRef_offer _ _

theorem opens_kept {after : Multiplexer} (opens : ∀ record ∈ admission.opens, record.Undisturbed)
    (new : ∀ spec events, action = .control (.open spec events) →
      OpenRecord.Undisturbed ⟨spec, events, admission.session.mux, after⟩) :
    ∀ record ∈ admission.opens ++ recordOf admission.session.mux after action,
      record.Undisturbed := by
  intro record member
  rcases mem_append.mp member with hold | hnew
  · exact opens record hold
  · unfold recordOf at hnew
    split at hnew
    · rename_i spec events
      rw [mem_singleton.mp hnew]
      exact new spec events rfl
    · cases hnew

theorem Inv.keeps_connection {written : List Outbound} (inv : Inv advertised admission)
    (connected : admission.session.stage = .connected connection) (after : Connection)
    (same_limit : after.maxTerminals = connection.maxTerminals)
    (refs : (mux.refs).Sublist admission.session.mux.refs ∨
      mux.refs.length ≤ connection.maxTerminals)
    (top_eq : next.session = (admission.session.top after mux written).1)
    (outage_eq : next.outageOpens = admission.outageOpensAfter action next.session.stage)
    (opens : ∀ record ∈ next.opens, record.Undisturbed) : Inv advertised next := by
  apply Inv.of_top top_eq opens
  rw [same_limit]
  rcases refs with hsub | hlength
  · have hroom := inv.room
    unfold Room at hroom
    rw [connected] at hroom
    rcases (fits_iff _ _).mp hroom with hroom | hnone
    · exact .inl (Nat.le_trans hsub.length_le hroom)
    · apply Or.inr
      intro ref member outage
      rw [outage_eq] at outage
      exact hnone ref (hsub.subset member) (outageOpensAfter_connected connected _ _ ref outage)
  · exact .inl hlength

theorem Inv.of_offline (offline : ∀ connection, next.session.stage ≠ .connected connection)
    (fits : next.Fits (effectiveLimit (advertised next.connections)))
    (opens : ∀ record ∈ next.opens, record.Undisturbed) : Inv advertised next where
  opens := opens
  settled := fun connection connected => absurd connected (offline connection)
  room := by
    unfold Room
    split
    · rename_i connection connected
      exact absurd connected (offline connection)
    · exact fits
    · exact fits
    · trivial

theorem Inv.keeps_outage (fits : admission.Fits (effectiveLimit (advertised admission.connections)))
    (offline : ∀ connection, next.session.stage ≠ .connected connection)
    (connections : next.connections = admission.connections)
    (refs : (next.session.mux.refs).Sublist admission.session.mux.refs)
    (outage_eq : next.outageOpens = admission.outageOpens)
    (opens : ∀ record ∈ next.opens, record.Undisturbed) : Inv advertised next := by
  apply Inv.of_offline offline _ opens
  rw [connections]
  apply fits.of_sublist refs
  intro ref member
  exact outage_eq ▸ member

theorem Inv.of_over {reason : String} (finish_eq : next.session = session.finish mux reason)
    (opens : ∀ record ∈ next.opens, record.Undisturbed) : Inv advertised next := by
  apply Inv.of_offline _ _ opens
  · intro connection connected
    rw [finish_eq] at connected
    cases connected
  · apply Or.inl
    rw [finish_eq]
    exact Nat.zero_le _

/-- A request that comes during an outage and that `admits` lets through. -/
theorem Inv.stash_open (inv : Inv advertised admission)
    (stage_eq : admission.session.stage = .waiting false)
    (admitted : admission.admits advertised (.control (.open spec events)) = true)
    (session_eq : next.session =
      { admission.session with mux := admission.session.mux.insert spec events })
    (connections : next.connections = admission.connections)
    (opens_eq : next.opens = admission.opens ++
      recordOf admission.session.mux next.session.mux (.control (.open spec events))) :
    Inv advertised next := by
  unfold admits at admitted
  rw [stage_eq] at admitted
  obtain ⟨hfresh, hfree⟩ := Bool.and_eq_true_iff.mp admitted
  rw [Option.isNone_iff_eq_none] at hfresh
  apply Inv.of_offline
  · intro connection connected
    rw [session_eq] at connected
    cases stage_eq.symm.trans connected
  · rw [fits_iff, connections, session_eq]
    apply Or.inl
    rw [Multiplexer.refs_insert _ hfresh, length_append]
    unfold Multiplexer.refs
    rw [length_map]
    exact of_decide_eq_true hfree
  · rw [opens_eq]
    apply opens_kept inv.opens
    intro other otherEvents same taken
    cases same
    rw [hfresh] at taken
    cases taken

theorem Inv.step
    (inv : Inv advertised admission) (admitted : admission.admits advertised action = true)
    (taken : admission.step advertised action = some next) : Inv advertised next := by
  obtain ⟨result, hadvertises, hstepped, hnext⟩ := step_inversion taken
  have hsession : next.session = result.1 := by rw [hnext]
  have hconnections : next.connections = admission.connections + (isReady action).toNat := by
    rw [hnext]
  have houtage : next.outageOpens = admission.outageOpensAfter action next.session.stage := by
    rw [hnext]
  have hrecords : next.opens =
      admission.opens ++ recordOf admission.session.mux next.session.mux action := by
    rw [hnext]
  have hopens (other : ∀ spec events, action ≠ .control (.open spec events)) :
      ∀ record ∈ next.opens, record.Undisturbed := by
    rw [hrecords]
    exact opens_kept inv.opens fun spec events hopen => absurd hopen (other spec events)
  have hroom := inv.room
  unfold Room at hroom
  clear hnext
  cases hstepped with
  | connects limits maxActiveTerminals previouslyOpen result hstage hresult =>
    rw [hstage] at hroom
    have hlimit : maxActiveTerminals = advertised admission.connections := by
      simpa [advertises] using hadvertises
    have hsame : next.outageOpens = admission.outageOpens := by
      rw [houtage]
      unfold outageOpensAfter
      rw [hstage]
    rw [hresult] at hsession
    apply Inv.of_top hsession (hopens fun _ _ => by simp)
    rw [hsame]
    change _ ≤ effectiveLimit maxActiveTerminals ∨ _
    rw [hlimit]
    exact (fits_iff _ _).mp hroom
  | refuses result hstage hresult =>
    rw [hstage] at hroom
    rw [hresult] at hsession
    apply Inv.keeps_outage hroom _ hconnections _ _ (hopens fun _ _ => by simp)
    · intro connection connected
      rw [hsession] at connected
      cases connected
    · rw [hsession]
      exact admission.session.mux.refs_detach ▸ Sublist.refl _
    · rw [houtage]
      unfold outageOpensAfter
      rw [hstage]
  | controls message connection result hstage hresult =>
    rw [hresult] at hsession
    apply Inv.keeps_connection inv hstage connection rfl
      (refs_onControl _ connection.limits connection.maxTerminals message) hsession houtage
    rw [hrecords, hsession]
    apply opens_kept inv.opens
    intro spec events hopen
    cases hopen
    apply undisturbed_onControl
    intro hosted member
    exact inv.settled connection hstage hosted member
  | stashes message result hstage hresult =>
    rw [hresult] at hsession
    by_cases hopen : ∃ spec events, message = .open spec events
    · obtain ⟨spec, events, rfl⟩ := hopen
      exact inv.stash_open hstage admitted hsession hconnections hrecords
    · have hother : ∀ spec events, message ≠ .open spec events :=
        fun spec events same => hopen ⟨spec, events, same⟩
      rw [hstage] at hroom
      apply Inv.keeps_outage hroom _ hconnections
      · rw [hsession]
        change ((admission.session.mux.stash message).refs).Sublist _
        rw [refs_stash _ hother]
      · rw [houtage]
        unfold outageOpensAfter
        rw [hstage]
        cases message with
        | «open» spec events => exact absurd rfl (hother spec events)
        | output | resize | close | decline => rfl
      · exact hopens fun spec events same => hother spec events (SessionAction.control.inj same)
      · intro connection connected
        rw [hsession] at connected
        cases hstage.symm.trans connected
  | lastHandle connection result hstage hresult =>
    rw [hresult] at hsession
    exact Inv.keeps_connection inv hstage { connection with accepting := false } rfl
      (Or.inl (Sublist.refl _)) hsession houtage (hopens fun _ _ => by simp)
  | closes result hstage hresult =>
    rw [hstage] at hroom
    rw [hresult] at hsession
    apply Inv.keeps_outage hroom _ hconnections _ _ (hopens fun _ _ => by simp)
    · intro connection connected
      rw [hsession] at connected
      cases connected
    · rw [hsession]
    · rw [houtage]
      unfold outageOpensAfter
      rw [hstage]
  | receives frame connection result hstage hresult =>
    have hrefs := admission.session.mux.refs_onFrame connection.limits
      admission.session.allowRemoteOpen frame
    rw [hresult] at hsession
    unfold Session.onFrame at hsession
    dsimp only at hsession
    split at hsession
    · exact Inv.keeps_connection inv hstage connection rfl (Or.inl hrefs) hsession houtage
        (hopens fun _ _ => by simp)
    · exact Inv.of_over hsession (hopens fun _ _ => by simp)
    · apply Inv.of_fail hsession (hopens fun _ _ => by simp)
      rw [houtage, hsession]
      unfold outageOpensAfter
      rw [hstage]
      rfl
  | hangsUp connection result hstage hresult =>
    rw [hresult] at hsession
    apply Inv.of_fail hsession (hopens fun _ _ => by simp)
    rw [houtage, hsession]
    unfold outageOpensAfter
    rw [hstage]
    rfl
  | settles connection result hstage _ hresult =>
    rw [hresult] at hsession
    exact Inv.keeps_connection inv hstage { connection with sweepAt := false } rfl
      (Or.inl (Sublist.refl _)) hsession houtage (hopens fun _ _ => by simp)
  | retries closed result hstage hresult =>
    rw [hstage] at hroom
    rw [hresult] at hsession
    apply Inv.keeps_outage hroom _ hconnections _ _ (hopens fun _ _ => by simp)
    · intro connection connected
      rw [hsession] at connected
      cases connected
    · rw [hsession]
      exact admission.session.mux.refs_prune
    · rw [houtage]
      unfold outageOpensAfter
      rw [hstage]
  | returns closed result hstage hresult =>
    rw [hresult] at hsession
    exact Inv.of_over hsession (hopens fun _ _ => by simp)

/-- In a run whose requests to host a terminal all pass `admits`, whatever the relay advertises
and whatever else happens on its connections and between them. -/
theorem opens_admitted_alike {advertised : Nat → Nat} {openRequests : Option (Channel OpenRequest)}
    {allowRemoteOpen : Bool} {actions : List SessionAction} {admission : Admission}
    (taken : run (restrict (step advertised)
        fun admission action => admission.admits advertised action = true)
      (initial openRequests allowRemoteOpen) actions = some admission) :
    (∀ record ∈ admission.opens, record.Undisturbed) ∧ admission.WithinLimit := by
  have hinv : Inv advertised admission := by
    apply restrict_invariant _ (Inv.initial advertised openRequests allowRemoteOpen) taken
    intro before action next inv admitted
    exact inv.step admitted
  constructor
  · exact hinv.opens
  · intro connection connected
    have hroom := hinv.room
    unfold Room at hroom
    rw [connected] at hroom
    exact hroom

/-- A terminal of this machine with a queue of its own. -/
def openOf (localRef : String) : SessionAction :=
  .control (.open ⟨localRef, localRef, 80, 24, "xterm-256color", none⟩ (Channel.new 8))

/-- The relay's limit is two.  One terminal is opened on the connection and one in the outage, and
on the next connection the first one's `local_ref` is asked for again. -/
theorem one_in_the_outage_admitted : ∃ admission, run (step fun _ => 2) (initial none false)
        [.ready ⟨1024, 65536⟩ 2 [], openOf "shell", .hangUp, openOf "build", .retry,
          .ready ⟨1024, 65536⟩ 2 [], openOf "shell"] = some admission ∧
      admission.session.mux.refs = ["shell", "build"] ∧ admission.opens.length = 3 ∧
      (∀ record ∈ admission.opens, record.Undisturbed) ∧ admission.WithinLimit :=
  ⟨_, rfl, rfl, rfl, @opens_admitted_alike (fun _ => 2) none false
    [.ready ⟨1024, 65536⟩ 2 [], openOf "shell", .hangUp, openOf "build", .retry,
      .ready ⟨1024, 65536⟩ 2 [], openOf "shell"] _ rfl⟩

/-- The relay's limit is one.  In the outage the hosted terminal's `local_ref` is asked for again,
and a second terminal is opened. -/
theorem outage_replaces_and_exceeds : ∃ admission, run (step fun _ => 1) (initial none false)
        [.ready ⟨1024, 65536⟩ 1 [], openOf "shell", .hangUp, openOf "shell", openOf "build", .retry,
          .ready ⟨1024, 65536⟩ 1 []] = some admission ∧
      (∃ record ∈ admission.opens, ¬record.Undisturbed) ∧ ¬admission.WithinLimit := by
  obtain ⟨admission, connection, htaken, hreplaced, hconnected, hover, hold⟩ :
      ∃ admission connection, run (step fun _ => 1) (initial none false)
          [.ready ⟨1024, 65536⟩ 1 [], openOf "shell", .hangUp, openOf "shell", openOf "build",
            .retry, .ready ⟨1024, 65536⟩ 1 []] = some admission ∧
        (∃ record ∈ admission.opens, (record.before.get record.spec.localRef).isSome = true ∧
          record.after.terminals ≠ record.before.terminals) ∧
        admission.session.stage = .connected connection ∧
        ¬admission.session.mux.terminals.length ≤ connection.maxTerminals ∧
        ∃ hosted ∈ admission.session.mux.terminals, hosted.localRef ∈ admission.outageOpens :=
    ⟨_, _, rfl, by decide, rfl, by decide, by decide⟩
  obtain ⟨record, hrecord, hhosted, hchanged⟩ := hreplaced
  obtain ⟨hosted, hmember, houtage⟩ := hold
  refine ⟨admission, htaken, ⟨record, hrecord, ?_⟩, ?_⟩
  · exact fun undisturbed => hchanged (undisturbed hhosted).1
  · intro within
    rcases within connection hconnected with hlength | hnone
    · exact hover hlength
    · exact hnone hosted hmember houtage

end Admission

end Hypeterm.Publisher
