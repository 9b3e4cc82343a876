import Hypeterm.Android.Following

/-! The replies that travel as input.  The emulator answers whatever bytes it is fed, replayed
ones too; between two of its resets it is fed no byte twice. -/
namespace Hypeterm.Android

open Library

/-- The order in which replies are sent: by the offset of the query, over again from each
reset of the emulator. -/
def Typed.Before (earlier later : Typed) : Prop :=
  earlier.resets < later.resets ∨
    earlier.resets = later.resets ∧ earlier.offset < later.offset

/-- Sent under a subscription that takes input, for a query at or beyond its start. -/
def Typed.Allowed (typed : Typed) : Prop :=
  typed.inputAvailable = true ∧ typed.info.replayStartOffset ≤ typed.offset

namespace Following

/-- The query lies in what the emulator was fed before its last reset, or before where the
client resumes. -/
def Behind (client : Following) (typed : Typed) : Prop :=
  typed.resets < client.resets ∨
    typed.resets = client.resets ∧ ∃ offset, client.resume = some offset ∧ typed.offset < offset

structure Answering (client : Following) : Prop where
  resuming : client.Resuming
  allowed : ∀ typed ∈ client.typed, typed.Allowed
  behind : ∀ typed ∈ client.typed, client.Behind typed
  once : client.typed.Pairwise Typed.Before

variable {stream : Uuid → Bytes} {client after : Following} {action : Action}

theorem Answering.initial : Following.initial.Answering where
  resuming := Resuming.initial
  allowed := by
    intro typed member
    cases member
  behind := by
    intro typed member
    cases member
  once := List.Pairwise.nil

theorem Answering.silent (answering : client.Answering) (resuming : after.Resuming)
    (same : after.typed = client.typed)
    (onward : client.resets < after.resets ∨
      after.resets = client.resets ∧ ∀ offset, client.resume = some offset →
        ∃ later, after.resume = some later ∧ offset ≤ later) : after.Answering where
  resuming := resuming
  allowed := by
    rw [same]
    exact answering.allowed
  behind := by
    rw [same]
    intro typed member
    rcases answering.behind typed member with hearlier | ⟨hcurrent, offset, hresume, hbelow⟩
    · rcases onward with hreset | ⟨hsame, _⟩
      · exact .inl (hearlier.trans hreset)
      · exact .inl (hsame ▸ hearlier)
    · rcases onward with hreset | ⟨hsame, honward⟩
      · exact .inl (hcurrent ▸ hreset)
      · obtain ⟨later, hlater, hle⟩ := honward offset hresume
        exact .inr ⟨hcurrent.trans hsame.symm, later, hlater, hbelow.trans_le hle⟩
  once := by
    rw [same]
    exact answering.once

theorem Answering.outputs (answering : client.Answering) {bytes : Bytes}
    {replayStart upTo stop : Nat} {added : List Typed} (link : client.link = .flowing replayStart upTo)
    (within : upTo < stop) (answers : Answers client replayStart upTo stop added)
    (resuming : Resuming
      { client with
        resume := some stop, link := .flowing replayStart stop, fed := bytes
        typed := client.typed ++ added }) :
    Answering
      { client with
        resume := some stop, link := .flowing replayStart stop, fed := bytes
        typed := client.typed ++ added } := by
  obtain ⟨hresume, hstart⟩ := answering.resuming.flowing _ _ link
  refine ⟨resuming, ?_, ?_, ?_⟩
  · intro typed member
    rcases List.mem_append.mp member with hbefore | hadded
    · exact answering.allowed typed hbefore
    · obtain ⟨hreplay, havailable, _⟩ := answers.current typed hadded
      refine ⟨havailable, ?_⟩
      rw [hreplay]
      exact hstart.trans (answers.within typed hadded).1
  · intro typed member
    rcases List.mem_append.mp member with hbefore | hadded
    · rcases answering.behind typed hbefore with hearlier | ⟨hcurrent, offset, hoffset, hbelow⟩
      · exact .inl hearlier
      · cases hresume.symm.trans hoffset
        exact .inr ⟨hcurrent, stop, rfl, hbelow.trans within⟩
    · exact .inr ⟨(answers.current typed hadded).2.2, stop, rfl, (answers.within typed hadded).2⟩
  · rw [List.pairwise_append]
    refine ⟨answering.once, ?_, ?_⟩
    · refine answers.increase.imp_of_mem ?_
      intro earlier later hearlier hlater hlt
      have hsame := (answers.current earlier hearlier).2.2.trans
        (answers.current later hlater).2.2.symm
      exact .inr ⟨hsame, hlt⟩
    · intro earlier hearlier later hlater
      obtain ⟨_, _, hresets⟩ := answers.current later hlater
      rcases answering.behind earlier hearlier with hbefore | ⟨hcurrent, offset, hoffset, hbelow⟩
      · exact .inl (hresets ▸ hbefore)
      · cases hresume.symm.trans hoffset
        exact .inr ⟨hcurrent.trans hresets.symm, hbelow.trans_le (answers.within later hlater).1⟩

theorem Answering.moves (answering : client.Answering)
    (moved : client.Moves stream action after) : after.Answering := by
  have hresuming := answering.resuming.moves moved
  cases moved with
  | aside => exact answering
  | letsGo =>
    exact answering.silent hresuming rfl
      (Or.inr ⟨rfl, fun offset hresume => ⟨offset, hresume, Nat.le_refl _⟩⟩)
  | restarts => exact answering.silent hresuming rfl (Or.inl (Nat.lt_succ_self _))
  | connects =>
    exact answering.silent hresuming rfl
      (Or.inr ⟨rfl, fun offset hresume => ⟨offset, hresume, Nat.le_refl _⟩⟩)
  | @subscribes _ _ fromOffset earliest next here link within =>
    refine answering.silent hresuming rfl (Or.inr ⟨rfl, ?_⟩)
    intro offset hresume
    refine ⟨_, rfl, ?_⟩
    rw [← answering.resuming.asked fromOffset link, hresume]
    exact Nat.le_max_left _ _
  | startsOver => exact answering.silent hresuming rfl (Or.inl (Nat.lt_succ_self _))
  | outputs action here link within answers =>
    exact answering.outputs link within.1 answers hresuming

end Following

def Mirroring.Answering {Screen : Type} (system : Mirroring Screen) : Prop :=
  ∃ client, Follows system client ∧ client.Answering

theorem Mirroring.Answering.step {Screen : Type} {display : Display Screen}
    {stream : Uuid → Bytes} {system next : Mirroring Screen} {action : Action}
    (answering : system.Answering) (taken : system.step display stream action = some next) :
    next.Answering := by
  obtain ⟨client, hfollows, hclient⟩ := answering
  obtain ⟨moved, hmoved, hmoves⟩ := hfollows.step taken
  exact ⟨moved, hmoved, hclient.moves hmoves⟩

/-- In every run, a reply is sent only for a query at or beyond the start of the current
subscription, and for each query once at most between two resets of the emulator. -/
theorem answered_once_between_resets {Screen : Type} {display : Display Screen}
    {stream : Uuid → Bytes} {config : AppConfig} {actions : List Action}
    {system : Mirroring Screen}
    (taken : run (Mirroring.step display stream) (Mirroring.initial display config) actions =
      some system) :
    (∀ typed ∈ system.controller.typed, typed.Allowed) ∧
      system.controller.typed.Pairwise Typed.Before := by
  have hinv : system.Answering := by
    refine run_invariant ?_ ?_ taken
    · intro before action after hbefore hstep
      exact hbefore.step hstep
    · exact ⟨_, Follows.initial config, Following.Answering.initial⟩
  obtain ⟨client, hfollows, hclient⟩ := hinv
  rw [hfollows.typed]
  exact ⟨hclient.allowed, hclient.once⟩

def queries : Uuid → Bytes := fun _ => [0x1b, 0x5b, 0x63, 0x1b, 0x5b, 0x63]

/-- The second query comes in two pieces, over a reconnect. -/
def resumedQuery : List Action :=
  [Action.attach 7, .connect true, .receive (.subscribed 0 3 0 80 24 true) 0,
    .receive (.output 0 3) 1, .receive (.output 3 1) 1, .disconnect] ++
  [Action.connect true, .receive (.subscribed 0 6 0 80 24 true) 0, .receive (.output 2 4) 1]

theorem answered_once_between_resets_in_resumedQuery :
    ∃ system, run (Mirroring.step Display.blank queries)
        (Mirroring.initial Display.blank ⟨80, 24, true⟩) resumedQuery = some system ∧
      system.controller.typed.map (fun typed => (typed.offset, typed.info.replayStartOffset)) =
        [(2, 0), (5, 4)] ∧
      (∀ typed ∈ system.controller.typed, typed.Allowed) ∧
        system.controller.typed.Pairwise Typed.Before := by
  obtain ⟨system, htaken, htyped⟩ : ∃ system, run (Mirroring.step Display.blank queries)
        (Mirroring.initial Display.blank ⟨80, 24, true⟩) resumedQuery = some system ∧
      system.controller.typed.map (fun typed => (typed.offset, typed.info.replayStartOffset)) =
        [(2, 0), (5, 4)] :=
    ⟨_, rfl, by decide⟩
  exact ⟨system, htaken, htyped, answered_once_between_resets htaken⟩

/-- A cold attach replays a query, and so does the next one. -/
def replayedQuery : List Action :=
  [Action.attach 7, .connect true, .receive (.subscribed 0 6 0 80 24 true) 0,
    .receive (.output 0 3) 1, .detach] ++
  [Action.attach 7, .connect true, .receive (.subscribed 0 6 0 80 24 true) 0,
    .receive (.output 0 3) 1]

theorem replayed_query_is_answered_again : ∃ system, run (Mirroring.step Display.blank queries)
        (Mirroring.initial Display.blank ⟨80, 24, true⟩) replayedQuery = some system ∧
      system.controller.typed.map (fun typed => (typed.offset, typed.bytes)) =
        [(2, primaryAttributes), (2, primaryAttributes)] ∧
      ∀ typed ∈ system.controller.typed, typed.offset < typed.info.nextOffset :=
  ⟨_, rfl, by decide, by decide⟩

end Hypeterm.Android
