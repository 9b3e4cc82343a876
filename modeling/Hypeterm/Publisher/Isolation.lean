import Hypeterm.Publisher.Session
import Hypeterm.Library.Runs

/-! The terminals of one connection do not disturb each other. -/
namespace Hypeterm.Publisher

open Library List Option

namespace Hosted

def hear (hosted : Hosted) (terminalId : Uuid) (event : Event) : Hosted :=
  if hosted.terminalId = some terminalId then hosted.deliver event else hosted

def opened (hosted : Hosted) (limits : Limits) (terminalId : Uuid) (nextOffset : Nat) : Hosted :=
  ({ hosted with terminalId := some terminalId } : Hosted).deliver
    (.attached terminalId nextOffset limits)

/-- An error about this entry, and whether the entry stays. -/
def onError (hosted : Hosted) (code message : String) (authoritative : Option Nat) :
    Hosted × Bool :=
  match (if code = "offset_mismatch" then authoritative else none) with
  | some nextOffset => (hosted.offer (.mismatch nextOffset), true)
  | none => (hosted.offer (.ended (code ++ ": " ++ message)), false)

/-- What a message does to one entry.  `target` is the entry an error is about. -/
def onMessage (hosted : Hosted) (limits : Limits) (target : Option String) :
    ServerMessage → Hosted × Bool
  | .terminalOpened requestId terminalId nextOffset =>
      (if requestId = hosted.localRef then hosted.opened limits terminalId nextOffset else hosted,
        true)
  | .outputAck terminalId durableOffset => (hosted.hear terminalId (.ack durableOffset), true)
  | .terminalResizeRequest terminalId cols rows =>
      (hosted.hear terminalId
        (.resizeRequest (Multiplexer.clampSize cols) (Multiplexer.clampSize rows)), true)
  | .terminalClosed terminalId reason =>
      if hosted.terminalId = some terminalId then
        (hosted.offer (.ended ("the relay closed the terminal: " ++ reason)), false)
      else (hosted, true)
  | .error code message _ _ authoritative =>
      if code ≠ "superseded" ∧ target = some hosted.localRef then
        hosted.onError code message authoritative
      else (hosted, true)
  | _ => (hosted, true)

def onFrame (hosted : Hosted) (limits : Limits) (target : Option String) : Frame → Hosted × Bool
  | .text (some message) => hosted.onMessage limits target message
  | .binary bytes =>
      match decodeInputFrame bytes with
      | .ok input => (hosted.hear input.terminalId (.input input.payload), true)
      | .error _ => (hosted, true)
  | _ => (hosted, true)

def kept (handled : Hosted × Bool) : Option Hosted := if handled.2 then some handled.1 else none

@[simp] theorem localRef_resize (hosted : Hosted) (cols rows : Nat) :
    (hosted.resize cols rows).localRef = hosted.localRef := rfl

@[simp] theorem terminalId_resize (hosted : Hosted) (cols rows : Nat) :
    (hosted.resize cols rows).terminalId = hosted.terminalId := rfl

@[simp] theorem localRef_setClosing (hosted : Hosted) (reason : String) :
    (hosted.setClosing reason).localRef = hosted.localRef := rfl

@[simp] theorem terminalId_setClosing (hosted : Hosted) (reason : String) :
    (hosted.setClosing reason).terminalId = hosted.terminalId := rfl

end Hosted

/-- The entry an error is about, by the table it arrives at. -/
def Multiplexer.target (mux : Multiplexer) : Frame → Option String
  | .text (some (.error _ _ terminalId requestId _)) => mux.errorTarget terminalId requestId
  | _ => none

namespace Multiplexer

variable {mux : Multiplexer}

theorem localRef_of_get {localRef : String} {hosted : Hosted}
    (found : mux.get localRef = some hosted) : hosted.localRef = localRef := key_of_lookup found

theorem get_modify {f : Hosted → Hosted} (keeps : ∀ hosted, (f hosted).localRef = hosted.localRef)
    (mux : Multiplexer) (target localRef : String) :
    (mux.modify target f).get localRef =
      if localRef = target then (mux.get target).map f else mux.get localRef :=
  lookup_update Hosted.localRef target localRef f keeps mux.terminals

theorem get_deliver (mux : Multiplexer) (target : String) (event : Event) (localRef : String) :
    (mux.deliver target event).get localRef =
      if localRef = target then (mux.get target).map fun hosted => hosted.deliver event
      else mux.get localRef :=
  get_modify (fun hosted => hosted.localRef_deliver event) mux target localRef

theorem get_depart (mux : Multiplexer) (target : String) (last : Event) (localRef : String) :
    (mux.depart target last).get localRef =
      if localRef = target then none else mux.get localRef := by
  unfold depart
  split
  · exact lookup_eraseRow Hosted.localRef target localRef mux.terminals
  · rename_i hnone
    split
    · rename_i hsame
      rw [hsame, hnone]
    · rfl

theorem get_insert (mux : Multiplexer) (spec : TerminalSpec) (events : Channel Event)
    (localRef : String) :
    (mux.insert spec events).get localRef =
      if localRef = spec.localRef then some ⟨spec, none, events, none⟩ else mux.get localRef :=
  lookup_insertRow Hosted.localRef _ localRef mux.terminals

theorem get_detach (mux : Multiplexer) (localRef : String) :
    mux.detach.get localRef = (mux.get localRef).map fun hosted =>
      ({ hosted with terminalId := none } : Hosted).offer .detached := by
  apply lookup_map
  intro hosted
  rw [Hosted.localRef_offer]
  rfl

def Keyed (mux : Multiplexer) : Prop := (mux.terminals.map Hosted.localRef).Nodup

theorem get_closeFinished (keyed : mux.Keyed) (localRef : String) :
    mux.closeFinished.1.get localRef = (mux.get localRef).filter fun hosted => !hosted.finished :=
  lookup_filter keyed _ localRef

theorem mem_iff_get (keyed : mux.Keyed) {hosted : Hosted} :
    hosted ∈ mux.terminals ↔ mux.get hosted.localRef = some hosted :=
  ⟨lookup_of_mem keyed, mem_of_lookup⟩

theorem Keyed.modify (keyed : mux.Keyed) {f : Hosted → Hosted}
    (keeps : ∀ hosted, (f hosted).localRef = hosted.localRef) (target : String) :
    (mux.modify target f).Keyed := by
  have hsame : (mux.modify target f).terminals.map Hosted.localRef =
      mux.terminals.map Hosted.localRef := by
    unfold Multiplexer.modify update
    rw [List.map_map]
    apply map_congr_left
    intro hosted _
    dsimp only [Function.comp]
    split
    · exact keeps hosted
    · rfl
  unfold Keyed
  rw [hsame]
  exact keyed

theorem Keyed.deliver (keyed : mux.Keyed) (target : String) (event : Event) :
    (mux.deliver target event).Keyed :=
  keyed.modify (fun hosted => hosted.localRef_deliver event) target

theorem Keyed.filter (keyed : mux.Keyed) (p : Hosted → Bool) :
    ((mux.terminals.filter p).map Hosted.localRef).Nodup :=
  (filter_sublist.map Hosted.localRef).nodup keyed

theorem Keyed.depart (keyed : mux.Keyed) (target : String) (last : Event) :
    (mux.depart target last).Keyed := by
  unfold Multiplexer.depart
  split
  · exact nodup_eraseRow target keyed
  · exact keyed

theorem Keyed.insert (keyed : mux.Keyed) (spec : TerminalSpec) (events : Channel Event) :
    (mux.insert spec events).Keyed := nodup_insertRow _ keyed

theorem Keyed.detach (keyed : mux.Keyed) : mux.detach.Keyed := by
  unfold Keyed Multiplexer.detach
  rw [List.map_map]
  have hsame : (Hosted.localRef ∘ fun hosted : Hosted =>
      ({ hosted with terminalId := none } : Hosted).offer .detached) = Hosted.localRef := by
    funext hosted
    exact Hosted.localRef_offer _ _
  rw [hsame]
  exact keyed

theorem Keyed.endAll (mux : Multiplexer) (reason : String) : (mux.endAll reason).Keyed :=
  nodup_nil

/-- The ids of the entries, each owned by the entry's `local_ref`. -/
structure Named (owner : Uuid → String) (mux : Multiplexer) : Prop where
  keyed : mux.Keyed
  owns : ∀ localRef hosted terminalId, mux.get localRef = some hosted →
    hosted.terminalId = some terminalId → owner terminalId = localRef

variable {owner : Uuid → String}

theorem Named.new (openRequests : Option (Channel OpenRequest)) :
    (new openRequests).Named owner where
  keyed := nodup_nil
  owns := by
    intro localRef hosted terminalId found
    cases found

section

variable (named : mux.Named owner)
include named

theorem Named.of_get {next : Multiplexer} (keyed : next.Keyed)
    (from_before : ∀ localRef hosted, next.get localRef = some hosted →
      hosted.terminalId = none ∨ ∃ before, mux.get localRef = some before ∧
        hosted.terminalId = before.terminalId) : next.Named owner where
  keyed := keyed
  owns := by
    intro localRef hosted terminalId found known
    rcases from_before localRef hosted found with hnone | ⟨before, hbefore, hsame⟩
    · rw [hnone] at known
      cases known
    · exact named.owns localRef before terminalId hbefore (hsame ▸ known)

variable {terminalId : Uuid}

theorem Named.localRef_eq {left right : String} {hosted other : Hosted}
    (leftFound : mux.get left = some hosted)
    (leftKnown : hosted.terminalId = some terminalId) (rightFound : mux.get right = some other)
    (rightKnown : other.terminalId = some terminalId) : left = right :=
  (named.owns left hosted terminalId leftFound leftKnown).symm.trans
    (named.owns right other terminalId rightFound rightKnown)

theorem Named.localRefOf_eq_some {localRef : String} : mux.localRefOf terminalId = some localRef ↔
      ∃ hosted, mux.get localRef = some hosted ∧ hosted.terminalId = some terminalId := by
  unfold localRefOf
  constructor
  · intro hfound
    obtain ⟨hosted, hfind, rfl⟩ := map_eq_some_iff.mp hfound
    have hmem := mem_of_find?_eq_some hfind
    have hid := find?_some hfind
    exact ⟨hosted, (mem_iff_get named.keyed).mp hmem, of_decide_eq_true hid⟩
  · rintro ⟨hosted, hget, hid⟩
    have hmem : hosted ∈ mux.terminals := mem_of_lookup hget
    have hsome : (mux.terminals.find? fun other => other.terminalId = some terminalId).isSome := by
      rw [find?_isSome]
      exact ⟨hosted, hmem, decide_eq_true hid⟩
    obtain ⟨other, hother⟩ := isSome_iff_exists.mp hsome
    have hotherGet := (mem_iff_get named.keyed).mp (mem_of_find?_eq_some hother)
    have hotherId := find?_some hother
    rw [decide_eq_true_eq] at hotherId
    rw [hother, map_some, named.localRef_eq hotherGet hotherId hget hid]

theorem Named.localRefOf_eq_none : mux.localRefOf terminalId = none ↔
      ∀ localRef hosted, mux.get localRef = some hosted → hosted.terminalId ≠ some terminalId := by
  constructor
  · intro hnone localRef hosted hget hid
    have := named.localRefOf_eq_some.mpr ⟨hosted, hget, hid⟩
    rw [hnone] at this
    cases this
  · intro habsent
    cases hfound : mux.localRefOf terminalId with
    | none => rfl
    | some localRef =>
      obtain ⟨hosted, hget, hid⟩ := named.localRefOf_eq_some.mp hfound
      exact absurd hid (habsent localRef hosted hget)

theorem Named.get_deliverTo (terminalId : Uuid) (event : Event) (localRef : String) :
    (mux.deliverTo terminalId event).get localRef =
      (mux.get localRef).map fun hosted => hosted.hear terminalId event := by
  have hdeaf : ∀ hosted, mux.get localRef = some hosted → hosted.terminalId ≠ some terminalId →
      mux.get localRef = (mux.get localRef).map fun hosted => hosted.hear terminalId event := by
    intro hosted hget hid
    rw [hget, map_some, Hosted.hear, if_neg hid]
  unfold deliverTo
  split
  · rename_i target htarget
    obtain ⟨owning, howning, hid⟩ := named.localRefOf_eq_some.mp htarget
    rw [get_deliver]
    split
    · rename_i hsame
      rw [hsame, howning, map_some, map_some, Hosted.hear, if_pos hid]
    · rename_i hother
      cases hget : mux.get localRef with
      | none => rfl
      | some hosted =>
        rw [← hget]
        exact hdeaf hosted hget fun hsame => hother (named.localRef_eq hget hsame howning hid)
  · rename_i hnone
    cases hget : mux.get localRef with
    | none => rfl
    | some hosted =>
      rw [← hget]
      exact hdeaf hosted hget (named.localRefOf_eq_none.mp hnone localRef hosted hget)

theorem Named.get_depart_localRefOf
    {target : String} (routed : mux.localRefOf terminalId = some target) (last : Event)
    (localRef : String) :
    (mux.depart target last).get localRef = (mux.get localRef).bind fun hosted =>
      Hosted.kept (if hosted.terminalId = some terminalId then (hosted.offer last, false)
        else (hosted, true)) := by
  obtain ⟨owning, howning, hid⟩ := named.localRefOf_eq_some.mp routed
  rw [get_depart]
  split
  · rename_i hsame
    rw [hsame, howning, bind_some, if_pos hid]
    rfl
  · rename_i hother
    cases hget : mux.get localRef with
    | none => rfl
    | some hosted =>
      have hdistinct : hosted.terminalId ≠ some terminalId :=
        fun hsame => hother (named.localRef_eq hget hsame howning hid)
      rw [bind_some, if_neg hdistinct]
      rfl

end

theorem get_onOpened (mux : Multiplexer) (limits : Limits) (requestId : String)
    (terminalId : Uuid) (nextOffset : Nat) (localRef : String) :
    (mux.onOpened limits requestId terminalId nextOffset).get localRef =
      (mux.get localRef).map fun hosted =>
        if requestId = hosted.localRef then hosted.opened limits terminalId nextOffset
        else hosted := by
  have hkeeps : ∀ hosted : Hosted,
      ({ hosted with terminalId := some terminalId } : Hosted).localRef = hosted.localRef :=
    fun _ => rfl
  unfold onOpened
  split
  · rename_i opening hopening
    rw [get_deliver]
    have hmodified : ∀ other, ({ mux.modify requestId (fun hosted =>
        { hosted with terminalId := some terminalId }) with
          opened := mux.opened ++ [terminalId] } : Multiplexer).get other =
        if other = requestId then (mux.get requestId).map fun hosted =>
          { hosted with terminalId := some terminalId }
        else mux.get other := get_modify hkeeps mux requestId
    rw [hmodified, hmodified, if_pos rfl]
    by_cases hsame : localRef = requestId
    · rw [if_pos hsame, hsame, hopening, map_some, map_some, map_some,
        if_pos (localRef_of_get hopening).symm]
      rfl
    · rw [if_neg hsame, if_neg hsame]
      cases hget : mux.get localRef with
      | none => rfl
      | some hosted =>
        have hother : requestId ≠ hosted.localRef :=
          fun heq => hsame ((localRef_of_get hget).symm.trans heq.symm)
        rw [map_some, if_neg hother]
  · rename_i hnone
    cases hget : mux.get localRef with
    | none => rfl
    | some hosted =>
      have hother : requestId ≠ hosted.localRef := by
        intro heq
        rw [localRef_of_get hget] at heq
        rw [heq, hget] at hnone
        cases hnone
      rw [map_some, if_neg hother]

theorem get_onTerminalError (mux : Multiplexer) (code message : String)
    (terminalId : Option Uuid) (requestId : Option String) (authoritative : Option Nat)
    (localRef : String) :
    (mux.onTerminalError code message terminalId requestId authoritative).1.get localRef =
      (mux.get localRef).bind fun hosted =>
        Hosted.kept (if mux.errorTarget terminalId requestId = some hosted.localRef then
          hosted.onError code message authoritative else (hosted, true)) := by
  have hspared : mux.errorTarget terminalId requestId ≠ some localRef →
      mux.get localRef = (mux.get localRef).bind fun hosted =>
        Hosted.kept (if mux.errorTarget terminalId requestId = some hosted.localRef then
          hosted.onError code message authoritative else (hosted, true)) := by
    intro hspare
    cases hget : mux.get localRef with
    | none => rfl
    | some hosted =>
      rw [bind_some, if_neg (by rw [localRef_of_get hget]; exact hspare)]
      rfl
  unfold onTerminalError
  cases htarget : mux.errorTarget terminalId requestId with
  | none =>
    rw [htarget] at hspared
    exact hspared (by simp)
  | some target =>
    rw [htarget] at hspared
    by_cases hsame : localRef = target
    · subst hsame
      have hpresent : (mux.get localRef).bind (fun hosted =>
          Hosted.kept (if some localRef = some hosted.localRef then
            hosted.onError code message authoritative else (hosted, true))) =
          (mux.get localRef).bind fun hosted =>
            Hosted.kept (hosted.onError code message authoritative) := by
        cases hget : mux.get localRef with
        | none => rfl
        | some hosted => rw [bind_some, bind_some, if_pos (by rw [localRef_of_get hget])]
      rw [hpresent]
      unfold Hosted.onError
      cases (if code = "offset_mismatch" then authoritative else none) with
      | some nextOffset =>
        rw [get_modify fun hosted => hosted.localRef_offer _, if_pos rfl]
        cases mux.get localRef <;> rfl
      | none =>
        rw [get_depart, if_pos rfl]
        cases mux.get localRef <;> rfl
    · rw [← hspared fun heq => hsame (Option.some.inj heq).symm]
      dsimp only
      split
      · rw [get_modify fun hosted => hosted.localRef_offer _, if_neg hsame]
      · rw [get_depart, if_neg hsame]

theorem get_onOpenRequest (mux : Multiplexer) (allowRemoteOpen : Bool) (request : OpenRequest)
    (localRef : String) :
    (mux.onOpenRequest allowRemoteOpen request).1.get localRef = mux.get localRef := by
  unfold onOpenRequest
  split
  · rfl
  · split
    · rfl
    · split <;> rfl

theorem Named.get_onFrame (named : mux.Named owner) (limits : Limits) (allowRemoteOpen : Bool)
    (frame : Frame) (localRef : String) :
    (mux.onFrame limits allowRemoteOpen frame).1.get localRef =
      (mux.get localRef).bind fun hosted =>
        Hosted.kept (hosted.onFrame limits (mux.target frame) frame) := by
  have hunchanged : mux.get localRef = (mux.get localRef).bind fun hosted =>
      Hosted.kept (hosted, true) := by
    cases mux.get localRef <;> rfl
  have hmapped : ∀ f : Hosted → Hosted, ((mux.get localRef).map f) =
      (mux.get localRef).bind fun hosted => Hosted.kept (f hosted, true) := by
    intro f
    cases mux.get localRef <;> rfl
  cases frame with
  | text message =>
    cases message with
    | none => exact hunchanged
    | some message =>
      cases message with
      | terminalOpened requestId terminalId nextOffset =>
        exact (get_onOpened mux limits requestId terminalId nextOffset localRef).trans (hmapped _)
      | outputAck terminalId durableOffset =>
        exact (named.get_deliverTo terminalId _ localRef).trans (hmapped _)
      | terminalResizeRequest terminalId cols rows =>
        exact (named.get_deliverTo terminalId _ localRef).trans (hmapped _)
      | terminalOpenRequest requestId label cols rows =>
        exact (get_onOpenRequest mux allowRemoteOpen _ localRef).trans hunchanged
      | terminalClosed terminalId reason =>
        simp only [onFrame, onMessage, Hosted.onFrame, Hosted.onMessage]
        cases hrouted : mux.localRefOf terminalId with
        | some target => exact named.get_depart_localRefOf hrouted _ localRef
        | none =>
          cases hget : mux.get localRef with
          | none => rfl
          | some hosted =>
            rw [bind_some, if_neg (named.localRefOf_eq_none.mp hrouted localRef hosted hget)]
            rfl
      | error code message terminalId requestId authoritative =>
        simp only [onFrame, onMessage, Hosted.onFrame, Hosted.onMessage, target]
        split
        · rename_i hsuperseded
          simp only [hsuperseded, ne_eq, not_true_eq_false, false_and, if_false]
          exact hunchanged
        · rename_i hcode
          simp only [ne_eq, hcode, not_false_eq_true, true_and]
          exact get_onTerminalError mux code message terminalId requestId authoritative localRef
      | ready | notice | ping | unrecognised => exact hunchanged
  | binary bytes =>
    simp only [onFrame, Hosted.onFrame]
    cases decodeInputFrame bytes with
    | ok input => exact (named.get_deliverTo _ _ localRef).trans (hmapped _)
    | error => exact hunchanged
  | ping | pong | close => exact hunchanged

end Multiplexer

namespace Hosted

@[simp] theorem terminalId_hear (hosted : Hosted) (terminalId : Uuid) (event : Event) :
    (hosted.hear terminalId event).terminalId = hosted.terminalId := by
  unfold hear
  split
  · exact hosted.terminalId_deliver event
  · rfl

theorem fields_onError (hosted : Hosted) (code message : String) (authoritative : Option Nat) :
    (hosted.onError code message authoritative).1.localRef = hosted.localRef ∧
      (hosted.onError code message authoritative).1.terminalId = hosted.terminalId := by
  unfold onError
  split <;> simp

theorem terminalId_onFrame (hosted : Hosted) (limits : Limits) (target : Option String)
    (frame : Frame) :
    (hosted.onFrame limits target frame).1.terminalId = hosted.terminalId ∨
      ∃ terminalId nextOffset,
        frame = .text (some (.terminalOpened hosted.localRef terminalId nextOffset)) ∧
        (hosted.onFrame limits target frame).1.terminalId = some terminalId := by
  cases frame with
  | text message =>
    cases message with
    | none => exact .inl rfl
    | some message =>
      cases message with
      | terminalOpened requestId terminalId nextOffset =>
        simp only [onFrame, onMessage]
        split
        · rename_i hsame
          subst hsame
          exact .inr ⟨terminalId, nextOffset, rfl, terminalId_deliver _ _⟩
        · exact .inl rfl
      | outputAck | terminalResizeRequest => exact .inl (terminalId_hear ..)
      | terminalClosed terminalId reason =>
        left
        simp only [onFrame, onMessage]
        split
        · exact terminalId_offer ..
        · rfl
      | error code message terminalId requestId authoritative =>
        left
        simp only [onFrame, onMessage]
        split
        · exact (fields_onError ..).2
        · rfl
      | ready | terminalOpenRequest | notice | ping | unrecognised => exact .inl rfl
  | binary bytes =>
    left
    simp only [onFrame]
    split
    · exact terminalId_hear ..
    · rfl
  | ping | pong | close => exact .inl rfl

end Hosted

namespace Multiplexer

variable {mux : Multiplexer} {owner : Uuid → String}

theorem Keyed.onFrame (keyed : mux.Keyed) (limits : Limits) (allowRemoteOpen : Bool)
    (frame : Frame) : (mux.onFrame limits allowRemoteOpen frame).1.Keyed := by
  have hdeliverTo : ∀ terminalId event, (mux.deliverTo terminalId event).Keyed := by
    intro terminalId event
    unfold deliverTo
    split
    · exact keyed.deliver _ _
    · exact keyed
  cases frame with
  | text message =>
    cases message with
    | none => exact keyed
    | some message =>
      cases message with
      | terminalOpened requestId terminalId nextOffset =>
        simp only [Multiplexer.onFrame, onMessage, onOpened]
        split
        · apply Keyed.deliver
          have hkeeps : ∀ hosted : Hosted,
              ({ hosted with terminalId := some terminalId } : Hosted).localRef =
                hosted.localRef := fun _ => rfl
          exact keyed.modify hkeeps requestId
        · exact keyed
      | outputAck | terminalResizeRequest => exact hdeliverTo _ _
      | terminalOpenRequest requestId label cols rows =>
        simp only [Multiplexer.onFrame, onMessage, onOpenRequest]
        split
        · exact keyed
        · split
          · exact keyed
          · split <;> exact keyed
      | terminalClosed terminalId reason =>
        simp only [Multiplexer.onFrame, onMessage]
        split
        · exact keyed.depart _ _
        · exact keyed
      | error code message terminalId requestId authoritative =>
        simp only [Multiplexer.onFrame, onMessage]
        split
        · exact keyed
        · simp only [onTerminalError]
          split
          · exact keyed
          · split
            · exact keyed.modify (fun hosted => hosted.localRef_offer _) _
            · exact keyed.depart _ _
      | ready | notice | ping | unrecognised => exact keyed
  | binary bytes =>
    simp only [Multiplexer.onFrame]
    split
    · exact hdeliverTo _ _
    · exact keyed
  | ping | pong | close => exact keyed

/-- A relay that gives an id to one `local_ref` only. -/
def assigns (owner : Uuid → String) : Frame → Bool
  | .text (some (.terminalOpened requestId terminalId _)) => owner terminalId = requestId
  | _ => true

theorem Named.onFrame (named : mux.Named owner) (limits : Limits) (allowRemoteOpen : Bool)
    {frame : Frame} (assigned : assigns owner frame = true) :
    (mux.onFrame limits allowRemoteOpen frame).1.Named owner := by
  refine ⟨named.keyed.onFrame limits allowRemoteOpen frame, ?_⟩
  intro localRef hosted terminalId found known
  rw [named.get_onFrame] at found
  obtain ⟨before, hbefore, hkept⟩ := bind_eq_some_iff.mp found
  have hhosted : hosted = (before.onFrame limits (mux.target frame) frame).1 := by
    unfold Hosted.kept at hkept
    split at hkept
    · exact (Option.some.inj hkept).symm
    · cases hkept
  rcases before.terminalId_onFrame limits (mux.target frame) frame with
    hsame | ⟨opened, nextOffset, rfl, hopened⟩
  · rw [hhosted, hsame] at known
    exact named.owns localRef before terminalId hbefore known
  · rw [hhosted, hopened, Option.some.injEq] at known
    rw [← known, ← localRef_of_get hbefore]
    exact of_decide_eq_true assigned

theorem Named.filter (named : mux.Named owner) {next : Multiplexer} {p : Hosted → Bool}
    (terminals_eq : next.terminals = mux.terminals.filter p) : next.Named owner := by
  apply named.of_get
  · unfold Keyed
    rw [terminals_eq]
    exact named.keyed.filter p
  · intro localRef hosted found
    right
    unfold get at found
    rw [terminals_eq, lookup_filter named.keyed, filter_eq_some_iff] at found
    exact ⟨hosted, found.1, rfl⟩

theorem Named.detach (named : mux.Named owner) : mux.detach.Named owner := by
  apply named.of_get named.keyed.detach
  intro localRef hosted found
  left
  rw [get_detach] at found
  obtain ⟨before, _, rfl⟩ := map_eq_some_iff.mp found
  exact Hosted.terminalId_offer _ _

theorem Named.endAll (mux : Multiplexer) (reason : String) : (mux.endAll reason).Named owner where
  keyed := Keyed.endAll mux reason
  owns := by
    intro localRef hosted terminalId found
    cases found

theorem Named.modify (named : mux.Named owner) {f : Hosted → Hosted}
    (keeps : ∀ hosted, (f hosted).localRef = hosted.localRef)
    (same : ∀ hosted, (f hosted).terminalId = hosted.terminalId) (target : String) :
    (mux.modify target f).Named owner := by
  apply named.of_get (named.keyed.modify keeps target)
  intro localRef hosted found
  right
  rw [get_modify keeps] at found
  split at found
  · rename_i htarget
    obtain ⟨before, hbefore, rfl⟩ := map_eq_some_iff.mp found
    exact ⟨before, htarget ▸ hbefore, same before⟩
  · exact ⟨hosted, found, rfl⟩

theorem Named.insert (named : mux.Named owner) (spec : TerminalSpec) (events : Channel Event) :
    (mux.insert spec events).Named owner := by
  apply named.of_get (named.keyed.insert spec events)
  intro localRef hosted found
  rw [get_insert] at found
  split at found
  · cases found
    exact .inl rfl
  · exact .inr ⟨hosted, found, rfl⟩

theorem Named.stash (named : mux.Named owner) (message : Control) :
    (mux.stash message).Named owner := by
  cases message with
  | «open» spec events => exact named.insert spec events
  | resize localRef cols rows =>
    exact named.modify (fun hosted => hosted.localRef_resize cols rows)
      (fun hosted => hosted.terminalId_resize cols rows) localRef
  | close localRef reason =>
    exact named.modify (fun hosted => by simp) (fun hosted => by simp) localRef
  | output | decline => exact named

theorem Named.onControl (named : mux.Named owner) (limits : Limits) (maxTerminals : Nat)
    (message : Control) : (mux.onControl limits maxTerminals message).1.Named owner := by
  cases message with
  | «open» spec events =>
    simp only [Multiplexer.onControl]
    split
    · exact ⟨named.keyed, named.owns⟩
    · split
      · exact ⟨named.keyed, named.owns⟩
      · exact named.insert spec events
  | resize localRef cols rows =>
    exact named.modify (fun hosted => hosted.localRef_resize cols rows)
      (fun hosted => hosted.terminalId_resize cols rows) localRef
  | close localRef reason =>
    have hclosing : (mux.modify localRef fun hosted => hosted.setClosing reason).Named owner :=
      named.modify (fun hosted => by simp) (fun hosted => by simp) localRef
    exact hclosing.modify (fun hosted => by simp) (fun hosted => by simp) localRef
  | output | decline => exact named

end Multiplexer

/-- The frame is about this entry: it names its terminal or opens it, or is an error
about it. -/
def Frame.concerns (frame : Frame) (target : Option String) (hosted : Hosted) : Prop :=
  match frame with
  | .text (some (.terminalOpened requestId _ _)) => requestId = hosted.localRef
  | .text (some (.outputAck terminalId _)) => hosted.terminalId = some terminalId
  | .text (some (.terminalResizeRequest terminalId _ _)) => hosted.terminalId = some terminalId
  | .text (some (.terminalClosed terminalId _)) => hosted.terminalId = some terminalId
  | .text (some (.error ..)) => target = some hosted.localRef
  | .binary bytes => ∃ input, decodeInputFrame bytes = .ok input ∧
      hosted.terminalId = some input.terminalId
  | _ => False

theorem Hosted.onFrame_unconcerned {hosted : Hosted} {limits : Limits} {target : Option String}
    {frame : Frame} (elsewhere : ¬ frame.concerns target hosted) :
    hosted.onFrame limits target frame = (hosted, true) := by
  cases frame with
  | text message =>
    cases message with
    | none => rfl
    | some message =>
      cases message with
      | terminalOpened =>
        simp only [Frame.concerns] at elsewhere
        simp only [Hosted.onFrame, onMessage]
        rw [if_neg elsewhere]
      | outputAck | terminalResizeRequest =>
        simp only [Frame.concerns] at elsewhere
        simp only [Hosted.onFrame, onMessage, hear]
        rw [if_neg elsewhere]
      | terminalClosed =>
        simp only [Frame.concerns] at elsewhere
        simp only [Hosted.onFrame, onMessage]
        rw [if_neg elsewhere]
      | error =>
        simp only [Frame.concerns] at elsewhere
        simp only [Hosted.onFrame, onMessage]
        rw [if_neg fun hboth => elsewhere hboth.2]
      | ready | terminalOpenRequest | notice | ping | unrecognised => rfl
  | binary bytes =>
    simp only [Hosted.onFrame, hear]
    split
    · rename_i input hdecoded
      rw [if_neg fun hsame => elsewhere ⟨input, hdecoded, hsame⟩]
    · rfl
  | ping | pong | close => rfl

def Session.advance (session : Session) (action : SessionAction) : Option Session :=
  (session.step action).map Prod.fst

def SessionAction.assigns (owner : Uuid → String) : SessionAction → Bool
  | .frame received => Multiplexer.assigns owner received
  | _ => true

/-- The ids are owned, and no pass of the loop leaves a finished entry behind. -/
structure Session.Tidy (owner : Uuid → String) (session : Session) : Prop where
  named : session.mux.Named owner
  unfinished : ∀ connection, session.stage = .connected connection →
    ∀ localRef hosted, session.mux.get localRef = some hosted → hosted.finished = false

namespace Session

variable {owner : Uuid → String} {session : Session}

theorem get_top (session : Session) (connection : Connection) {mux : Multiplexer}
    (keyed : mux.Keyed) (written : List Outbound) (localRef : String) :
    (session.top connection mux written).1.mux.get localRef =
      (mux.get localRef).filter fun hosted => !hosted.finished := by
  have hclosed := Multiplexer.get_closeFinished keyed localRef
  unfold top
  dsimp only
  split
  · rename_i hidle
    rw [Bool.and_eq_true] at hidle
    rw [← hclosed]
    unfold Multiplexer.get
    rw [List.isEmpty_iff.mp hidle.1]
    rfl
  · exact hclosed

theorem Tidy.top (session : Session) (connection : Connection) {mux : Multiplexer}
    (named : mux.Named owner) (written : List Outbound) :
    (session.top connection mux written).1.Tidy owner where
  named := by
    unfold Session.top
    dsimp only
    split
    · exact Multiplexer.Named.endAll _ _
    · exact named.filter rfl
  unfinished := by
    intro now _ localRef hosted found
    rw [get_top session connection named.keyed, filter_eq_some_iff] at found
    simpa using found.2

theorem Tidy.fail (session : Session) {mux : Multiplexer} (named : mux.Named owner) :
    (session.fail mux).Tidy owner where
  named := named.detach
  unfinished := by
    intro connection hstage
    cases hstage

theorem Tidy.finish (session : Session) (mux : Multiplexer) (reason : String) :
    (session.finish mux reason).Tidy owner where
  named := Multiplexer.Named.endAll mux reason
  unfinished := by
    intro connection hstage
    cases hstage

theorem Tidy.initial (openRequests : Option (Channel OpenRequest)) (allowRemoteOpen : Bool) :
    (initial openRequests allowRemoteOpen).Tidy owner where
  named := Multiplexer.Named.new openRequests
  unfinished := by
    intro connection hstage
    cases hstage

theorem Tidy.onFrame (tidy : session.Tidy owner) (connection : Connection) {frame : Frame}
    (assigned : Multiplexer.assigns owner frame = true) :
    (session.onFrame connection frame).1.Tidy owner := by
  have hhandled := tidy.named.onFrame connection.limits session.allowRemoteOpen assigned
  unfold Session.onFrame
  dsimp only
  split
  · exact Tidy.top session connection hhandled _
  · exact Tidy.finish session _ _
  · exact Tidy.fail session hhandled

theorem Tidy.advance (tidy : session.Tidy owner) {action : SessionAction} {next : Session}
    (assigned : action.assigns owner = true) (taken : session.advance action = some next) :
    next.Tidy owner := by
  obtain ⟨result, hstep, rfl⟩ := map_eq_some_iff.mp taken
  have hnamed := tidy.named
  have hdisconnected : ∀ after : Session, after.mux.Named owner →
      (∀ connection, after.stage ≠ .connected connection) → after.Tidy owner :=
    fun after named apart =>
      ⟨named, fun connection hstage => absurd hstage (apart connection)⟩
  cases step_stepped hstep with
  | connects | lastHandle | settles =>
    rename_i hresult
    rw [hresult]
    exact Tidy.top session _ hnamed _
  | refuses | hangsUp =>
    rename_i hresult
    rw [hresult]
    exact Tidy.fail session hnamed
  | controls message connection _ _ hresult =>
    rw [hresult]
    exact Tidy.top session connection (hnamed.onControl _ _ message) _
  | stashes message _ hstage hresult =>
    rw [hresult]
    exact hdisconnected _ (hnamed.stash message) fun connection => by simp [hstage]
  | closes _ _ hresult =>
    rw [hresult]
    exact hdisconnected _ hnamed fun connection => by simp
  | receives frame connection _ _ hresult =>
    rw [hresult]
    exact tidy.onFrame connection assigned
  | retries _ _ _ hresult =>
    rw [hresult]
    exact hdisconnected _ (hnamed.filter rfl) fun connection => by simp
  | returns _ _ _ hresult =>
    rw [hresult]
    exact Tidy.finish session _ _

theorem Tidy.run {openRequests : Option (Channel OpenRequest)} {allowRemoteOpen : Bool}
    {actions : List SessionAction}
    (taken : Library.run (restrict Session.advance fun _ action => action.assigns owner = true)
      (Session.initial openRequests allowRemoteOpen) actions = some session) :
    session.Tidy owner :=
  restrict_invariant (fun _ _ _ tidy assigned hstep => tidy.advance assigned hstep)
    (Tidy.initial openRequests allowRemoteOpen) taken

end Session

/-- The frames after which the connection does not go on: the socket's close, an error
about the connection, and the error that says another publisher took the device over. -/
def Frame.endsConnection : Frame → Bool
  | .text (some (.error code _ terminalId requestId _)) =>
      code = "superseded" || (terminalId.isNone && requestId.isNone)
  | .close => true
  | _ => false

theorem Multiplexer.onTerminalError_named (mux : Multiplexer) (code message : String)
    {terminalId : Option Uuid} {requestId : Option String} (authoritative : Option Nat)
    (names : (terminalId.isSome || requestId.isSome) = true) :
    (mux.onTerminalError code message terminalId requestId authoritative).2.2 = true := by
  unfold onTerminalError
  cases mux.errorTarget terminalId requestId with
  | none => exact names
  | some localRef =>
    cases (if code = "offset_mismatch" then authoritative else none) <;> rfl

theorem Multiplexer.onFrame_continues (mux : Multiplexer) (limits : Limits)
    (allowRemoteOpen : Bool) {frame : Frame} (goes_on : frame.endsConnection = false) :
    (mux.onFrame limits allowRemoteOpen frame).2.2 = .continues := by
  cases frame with
  | text message =>
    cases message with
    | none => rfl
    | some message =>
      cases message with
      | error code message terminalId requestId authoritative =>
        simp only [Frame.endsConnection, Bool.or_eq_false_iff, decide_eq_false_iff_not] at goes_on
        have hnames : (terminalId.isSome || requestId.isSome) = true := by
          cases terminalId <;> cases requestId <;> simp_all
        simp only [onFrame, onMessage, if_neg goes_on.1,
          mux.onTerminalError_named code message authoritative hnames, if_true]
      | terminalClosed terminalId reason =>
        simp only [onFrame, onMessage]
        split <;> rfl
      | terminalOpened | outputAck | terminalOpenRequest | terminalResizeRequest | ready | notice
      | ping | unrecognised => rfl
  | binary bytes =>
    simp only [onFrame]
    split <;> rfl
  | ping | pong => rfl
  | close => cases goes_on

theorem Session.stage_top (session : Session) (connection : Connection) (mux : Multiplexer)
    (written : List Outbound) :
    (session.top connection mux written).1.stage = .connected connection ∨
      connection.accepting = false ∧ (session.top connection mux written).1.mux.terminals = [] := by
  unfold top
  dsimp only
  split
  · rename_i hidle
    rw [Bool.and_eq_true] at hidle
    exact .inr ⟨by simpa using hidle.2, rfl⟩
  · exact .inl rfl

theorem Session.Tidy.get_frame {owner : Uuid → String} {session next : Session}
    {connection : Connection} {frame : Frame} (tidy : session.Tidy owner)
    (connected : session.stage = .connected connection) (goes_on : frame.endsConnection = false)
    (taken : session.advance (.frame frame) = some next) :
    (next.stage = .connected connection ∨
      connection.accepting = false ∧ next.mux.terminals = []) ∧
    ∀ localRef, next.mux.get localRef =
      ((session.mux.get localRef).bind fun hosted =>
        Hosted.kept (hosted.onFrame connection.limits (session.mux.target frame) frame)).filter
          fun hosted => !hosted.finished := by
  obtain ⟨result, hstep, rfl⟩ := map_eq_some_iff.mp taken
  have hresult : result = session.top connection
      (session.mux.onFrame connection.limits session.allowRemoteOpen frame).1
      (session.mux.onFrame connection.limits session.allowRemoteOpen frame).2.1 := by
    simp only [step, connected, Option.some.injEq] at hstep
    rw [← hstep]
    unfold Session.onFrame
    dsimp only
    rw [Multiplexer.onFrame_continues _ _ _ goes_on]
  rw [hresult]
  refine ⟨stage_top session connection _ _, ?_⟩
  intro localRef
  rw [← tidy.named.get_onFrame connection.limits session.allowRemoteOpen frame localRef]
  exact get_top session connection (tidy.named.keyed.onFrame _ _ _) _ localRef

/-- In every state of every run against a relay that gives no id to two `local_ref`s: no
two entries have one id; an error reaches the entry of the terminal it names, or where
it names none of this connection, that of the request; and a frame that does not end
the connection by its kind leaves every entry alone that it is not about, adds none and
ends nothing but a connection without terminals and handles.  The answer to an open is
applied to the entry of its request. -/
theorem terminals_are_isolated {owner : Uuid → String}
    {openRequests : Option (Channel OpenRequest)} {allowRemoteOpen : Bool}
    {actions : List SessionAction} {session : Session}
    (taken : run (restrict Session.advance fun _ action => action.assigns owner = true)
      (Session.initial openRequests allowRemoteOpen) actions = some session) :
    (∀ left ∈ session.mux.terminals, ∀ right ∈ session.mux.terminals, ∀ terminalId,
      left.terminalId = some terminalId → right.terminalId = some terminalId → left = right) ∧
    (∀ terminalId requestId localRef, session.mux.errorTarget terminalId requestId = some localRef →
      (∃ id hosted, terminalId = some id ∧ session.mux.get localRef = some hosted ∧
        hosted.terminalId = some id) ∨
      (requestId = some localRef ∧ ∀ id, terminalId = some id → ∀ hosted ∈ session.mux.terminals,
        hosted.terminalId ≠ some id)) ∧
    ∀ connection frame next, session.stage = .connected connection →
      frame.endsConnection = false → session.advance (.frame frame) = some next →
      (next.stage = .connected connection ∨
        connection.accepting = false ∧ next.mux.terminals = []) ∧
      (∀ localRef hosted, session.mux.get localRef = some hosted →
        ¬ frame.concerns (session.mux.target frame) hosted →
        next.mux.get localRef = some hosted) ∧
      (∀ localRef, session.mux.get localRef = none → next.mux.get localRef = none) ∧
      ∀ requestId terminalId nextOffset hosted,
        frame = .text (some (.terminalOpened requestId terminalId nextOffset)) →
        session.mux.get requestId = some hosted →
        next.mux.get requestId =
          (some (hosted.opened connection.limits terminalId nextOffset)).filter
            fun hosted => !hosted.finished := by
  have htidy := Session.Tidy.run taken
  have hkeyed := htidy.named.keyed
  refine ⟨?_, ?_, ?_⟩
  · intro left hleft right hright terminalId hleftId hrightId
    have hleftGet := (Multiplexer.mem_iff_get hkeyed).mp hleft
    have hrightGet := (Multiplexer.mem_iff_get hkeyed).mp hright
    rw [htidy.named.localRef_eq hleftGet hleftId hrightGet hrightId, hrightGet] at hleftGet
    exact (Option.some.inj hleftGet).symm
  · intro terminalId requestId localRef htarget
    unfold Multiplexer.errorTarget at htarget
    cases hrouted : terminalId.bind session.mux.localRefOf with
    | some target =>
      rw [hrouted, some_or, Option.some.injEq] at htarget
      subst htarget
      obtain ⟨id, rfl, hid⟩ := bind_eq_some_iff.mp hrouted
      obtain ⟨hosted, hget, hknown⟩ := htidy.named.localRefOf_eq_some.mp hid
      exact .inl ⟨id, hosted, rfl, hget, hknown⟩
    | none =>
      rw [hrouted, none_or, filter_eq_some_iff] at htarget
      refine .inr ⟨htarget.1, ?_⟩
      intro id hterminalId hosted hmem
      rw [hterminalId, bind_some] at hrouted
      exact htidy.named.localRefOf_eq_none.mp hrouted _ _ ((Multiplexer.mem_iff_get hkeyed).mp hmem)
  · intro connection frame next hconnected hgoes hstep
    obtain ⟨hstage, hget⟩ := htidy.get_frame hconnected hgoes hstep
    refine ⟨hstage, ?_, ?_, ?_⟩
    · intro localRef hosted hfound helsewhere
      have hunfinished := htidy.unfinished connection hconnected localRef hosted hfound
      rw [hget, hfound, bind_some, Hosted.onFrame_unconcerned helsewhere]
      simp [Hosted.kept, hunfinished]
    · intro localRef hnone
      rw [hget, hnone]
      rfl
    · rintro requestId terminalId nextOffset hosted rfl hfound
      rw [hget, hfound, bind_some]
      simp only [Hosted.onFrame, Hosted.onMessage, if_pos (Multiplexer.localRef_of_get hfound).symm]
      rfl

def spec (localRef : String) : TerminalSpec := ⟨localRef, localRef, 80, 24, "xterm-256color", none⟩

def twoTerminals : List SessionAction :=
  [SessionAction.ready ⟨1024, 65536⟩ 0 [], .control (.open (spec "a") (Channel.new 256)),
    .control (.open (spec "b") (Channel.new 256)),
    .frame (.text (some (.terminalOpened "b" 2 0))),
    .frame (.text (some (.terminalOpened "a" 1 0)))]

theorem terminals_are_isolated_in_twoTerminals :
    ∃ session, run (restrict Session.advance fun _ action =>
        action.assigns (fun terminalId => if terminalId = 1 then "a" else "b") = true)
        (Session.initial none false) twoTerminals = some session ∧
      session.mux.terminals.map Hosted.terminalId = [some 1, some 2] ∧
      ∀ left ∈ session.mux.terminals, ∀ right ∈ session.mux.terminals, ∀ terminalId,
        left.terminalId = some terminalId → right.terminalId = some terminalId → left = right := by
  let owner : Uuid → String := fun terminalId => if terminalId = 1 then "a" else "b"
  obtain ⟨session, htaken, hids⟩ : ∃ session,
      run (restrict Session.advance fun _ action => action.assigns owner = true)
        (Session.initial none false) twoTerminals = some session ∧
        session.mux.terminals.map Hosted.terminalId = [some 1, some 2] :=
    ⟨_, rfl, by decide⟩
  exact ⟨session, htaken, hids, (terminals_are_isolated htaken).1⟩

/-- An error that names a terminal ends the connection, and with it both terminals, when
its code says that another publisher took over. -/
theorem superseded_error_ends_connection :
    ∃ session next, run Session.advance (Session.initial none false) twoTerminals = some session ∧
      session.advance (.frame (.text (some (.error "superseded" "" (some 1) none none)))) =
        some next ∧
      session.mux.terminals.length = 2 ∧ next.mux.terminals = [] ∧
      next.stage = .over Multiplexer.supersededReason :=
  ⟨_, _, rfl, rfl, by decide, rfl, rfl⟩

end Hypeterm.Publisher
