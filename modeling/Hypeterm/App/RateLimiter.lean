import Hypeterm.Library.TokenBucket

/-! Request rate limiting.  Buckets are kept by scope and key, and maintenance drops those
that have been idle for ten minutes.  Time is rational, and tokens are exact. -/
namespace Hypeterm.App

open Library List Function Option

structure RateLimiter where
  buckets : String → Option (TokenBucket ℚ)

namespace RateLimiter

def new : RateLimiter := ⟨fun _ => none⟩

def composite (scope key : String) : String := scope ++ "\x01" ++ key

/-- Consume one token; false when the caller is over its allowance. -/
def checkWindow (limiter : RateLimiter) (scope key : String) (capacity windowSeconds : Int)
    (now : ℚ) : RateLimiter × Bool :=
  if capacity ≤ 0 ∨ windowSeconds ≤ 0 then (limiter, false)
  else
    let refillPerSecond : ℚ := capacity / windowSeconds
    let bucket := (limiter.buckets (composite scope key)).getD (.full capacity now)
    let requested := bucket.request capacity refillPerSecond now
    (⟨Function.update limiter.buckets (composite scope key) (some requested.1)⟩, requested.2)

/-- Drop the buckets that have been idle for ten minutes. -/
def sweep (limiter : RateLimiter) (now : ℚ) : RateLimiter :=
  ⟨fun composite => (limiter.buckets composite).filter fun bucket =>
    now - bucket.lastRefill < 600⟩

end RateLimiter

inductive LimiterCall where
  | checkWindow (scope key : String) (capacity windowSeconds : Int)
  | sweep

structure TimedCall where
  now : ℚ
  call : LimiterCall

def TimedCall.checks (timed : TimedCall) : Bool :=
  match timed.call with
  | .checkWindow .. => true
  | .sweep => false

def TimedCall.concerns (composite : String) (timed : TimedCall) : Bool :=
  match timed.call with
  | .checkWindow scope key _ _ => RateLimiter.composite scope key = composite
  | .sweep => false

namespace RateLimiter

/-- One call, and the answer of a check beside the name of its bucket. -/
def step (limiter : RateLimiter) (timed : TimedCall) : RateLimiter × List (String × Bool) :=
  match timed.call with
  | .checkWindow scope key capacity windowSeconds =>
      let checked := limiter.checkWindow scope key capacity windowSeconds timed.now
      (checked.1, [(composite scope key, checked.2)])
  | .sweep => (limiter.sweep timed.now, [])

def after (limiter : RateLimiter) (calls : List TimedCall) : RateLimiter :=
  calls.foldl (fun limiter timed => (limiter.step timed).1) limiter

def answers : RateLimiter → List TimedCall → List (String × Bool)
  | _, [] => []
  | limiter, timed :: later => (limiter.step timed).2 ++ answers (limiter.step timed).1 later

/-- How many of the checks of one bucket are admitted. -/
def admitted (limiter : RateLimiter) (composite : String) (calls : List TimedCall) : Nat :=
  (limiter.answers calls).count (composite, true)

end RateLimiter

def Chronological (calls : List TimedCall) : Prop :=
  (calls.map TimedCall.now).Pairwise (· ≤ ·)

instance (calls : List TimedCall) : Decidable (Chronological calls) :=
  inferInstanceAs (Decidable (List.Pairwise _ _))

def Within (allowed : Int → Int → Prop) (calls : List TimedCall) : Prop :=
  ∀ timed ∈ calls, ∀ scope key capacity windowSeconds,
    timed.call = .checkWindow scope key capacity windowSeconds → allowed capacity windowSeconds

def SweepsInvisible (allowed : Int → Int → Prop) : Prop :=
  ∀ calls, Chronological calls → Within allowed calls →
    RateLimiter.new.answers calls = RateLimiter.new.answers (calls.filter TimedCall.checks)

/-- In no interval does a bucket with one allowance admit more than its capacity and what it
gains in that time, whatever came before. -/
def AdmissionBounded (allowed : Int → Int → Prop) : Prop :=
  ∀ earlier calls, Chronological (earlier ++ calls) → Within allowed (earlier ++ calls) →
    ∀ composite (capacity windowSeconds : Int) (start stop : ℚ), 0 < capacity →
      0 < windowSeconds → start ≤ stop →
      (∀ timed ∈ calls, start ≤ timed.now ∧ timed.now ≤ stop) →
      Within (fun own window => own = capacity ∧ window = windowSeconds)
        (calls.filter (TimedCall.concerns composite)) →
      ((RateLimiter.new.after earlier).admitted composite calls : ℚ) ≤
        capacity + (stop - start) * (capacity / windowSeconds)

theorem chronological_cons {timed : TimedCall} {calls : List TimedCall} :
    Chronological (timed :: calls) ↔
      (∀ other ∈ calls, timed.now ≤ other.now) ∧ Chronological calls := by
  unfold Chronological
  rw [map_cons, pairwise_cons, List.forall_mem_map]

theorem Chronological.filter {calls : List TimedCall} (ordered : Chronological calls)
    (keep : TimedCall → Bool) : Chronological (calls.filter keep) :=
  ordered.sublist (filter_sublist.map _)

theorem Within.filter {allowed : Int → Int → Prop} {calls : List TimedCall}
    (within : Within allowed calls) (keep : TimedCall → Bool) :
    Within allowed (calls.filter keep) :=
  fun timed member => within timed (mem_filter.mp member).1

theorem exists_start (calls : List TimedCall) (ordered : Chronological calls) :
    ∃ now, ∀ timed ∈ calls, now ≤ timed.now := by
  cases calls with
  | nil => exact ⟨0, fun timed member => nomatch member⟩
  | cons timed later =>
    refine ⟨timed.now, ?_⟩
    intro other member
    rcases mem_cons.mp member with rfl | hlater
    · exact le_refl _
    · exact (chronological_cons.mp ordered).1 other hlater

namespace RateLimiter

variable {limiter swept plain : RateLimiter} {scope key : String} {capacity windowSeconds : Int}
  {now : ℚ}

theorem answers_append (limiter : RateLimiter) (earlier calls : List TimedCall) :
    limiter.answers (earlier ++ calls) =
      limiter.answers earlier ++ (limiter.after earlier).answers calls := by
  induction earlier generalizing limiter with
  | nil => rfl
  | cons timed rest ih =>
    rw [cons_append, answers, answers, ih, append_assoc]
    rfl

theorem admitted_append (limiter : RateLimiter) (composite : String)
    (earlier calls : List TimedCall) :
    limiter.admitted composite (earlier ++ calls) =
      limiter.admitted composite earlier + (limiter.after earlier).admitted composite calls := by
  unfold admitted
  rw [answers_append, count_append]

theorem checkWindow_of_positive (roomy : 0 < capacity) (positive : 0 < windowSeconds) :
    limiter.checkWindow scope key capacity windowSeconds now =
      let requested := ((limiter.buckets (composite scope key)).getD (.full capacity now)).request
        capacity (capacity / windowSeconds : ℚ) now
      (⟨Function.update limiter.buckets (composite scope key) (some requested.1)⟩, requested.2) :=
  if_neg (by omega)

theorem checkWindow_of_refused (refused : capacity ≤ 0 ∨ windowSeconds ≤ 0) :
    limiter.checkWindow scope key capacity windowSeconds now = (limiter, false) := if_pos refused

theorem checkWindow_other {other : String} (different : other ≠ composite scope key) :
    (limiter.checkWindow scope key capacity windowSeconds now).1.buckets other =
      limiter.buckets other := by
  unfold checkWindow
  split
  · rfl
  · exact update_of_ne different _ _

def Stocked (now : ℚ) (limiter : RateLimiter) : Prop :=
  ∀ composite bucket, limiter.buckets composite = some bucket →
    0 ≤ bucket.tokens ∧ bucket.lastRefill ≤ now

theorem Stocked.new : Stocked now RateLimiter.new := by
  intro composite bucket found
  cases found

theorem Stocked.later {later : ℚ} (stocked : Stocked now limiter) (passed : now ≤ later) :
    Stocked later limiter := by
  intro composite bucket found
  obtain ⟨htokens, hrefill⟩ := stocked composite bucket found
  exact ⟨htokens, hrefill.trans passed⟩

theorem Stocked.getD (stocked : Stocked now limiter) (roomy : 0 < capacity) (name : String) :
    0 ≤ ((limiter.buckets name).getD (.full capacity now)).tokens ∧
      ((limiter.buckets name).getD (.full capacity now)).lastRefill ≤ now := by
  cases hbucket : limiter.buckets name with
  | some bucket => exact stocked name bucket hbucket
  | none =>
    have hroomy : (0 : ℚ) ≤ capacity := by exact_mod_cast roomy.le
    exact ⟨hroomy, le_refl now⟩

theorem Stocked.checkWindow (stocked : Stocked now limiter) (scope key : String)
    (capacity windowSeconds : Int) :
    Stocked now (limiter.checkWindow scope key capacity windowSeconds now).1 := by
  intro name bucket found
  by_cases hother : name ≠ composite scope key
  · rw [checkWindow_other hother] at found
    exact stocked name bucket found
  · rw [not_not] at hother
    by_cases hrefused : capacity ≤ 0 ∨ windowSeconds ≤ 0
    · rw [checkWindow_of_refused hrefused] at found
      exact stocked name bucket found
    · push Not at hrefused
      rw [checkWindow_of_positive hrefused.1 hrefused.2, hother] at found
      dsimp only at found
      rw [update_self] at found
      cases found
      obtain ⟨htokens, hrefill⟩ := stocked.getD hrefused.1 (composite scope key)
      have hroomy : (0 : ℚ) ≤ capacity := by exact_mod_cast hrefused.1.le
      have hpositive : (0 : ℚ) ≤ windowSeconds := by exact_mod_cast hrefused.2.le
      refine ⟨TokenBucket.tokens_request_nonneg htokens hroomy
        (div_nonneg hroomy hpositive) hrefill, ?_⟩
      rw [TokenBucket.lastRefill_request]

/-- The swept limiter misses only buckets that have been idle for ten minutes. -/
structure Follows (now : ℚ) (swept plain : RateLimiter) : Prop where
  stocked : Stocked now plain
  kept : ∀ name, swept.buckets name = plain.buckets name ∨
    swept.buckets name = none ∧
      ∃ bucket, plain.buckets name = some bucket ∧ bucket.lastRefill + 600 ≤ now

theorem Follows.new : Follows now RateLimiter.new RateLimiter.new where
  stocked := Stocked.new
  kept := fun _ => .inl rfl

theorem Follows.later {later : ℚ} (follows : Follows now swept plain) (passed : now ≤ later) :
    Follows later swept plain where
  stocked := follows.stocked.later passed
  kept := by
    intro name
    rcases follows.kept name with hsame | ⟨hswept, bucket, hplain, hidle⟩
    · exact .inl hsame
    · exact .inr ⟨hswept, bucket, hplain, hidle.trans passed⟩

theorem Follows.request (follows : Follows now swept plain) (roomy : 0 < capacity)
    (positive : 0 < windowSeconds) (short : windowSeconds ≤ 600) (name : String) :
    ((swept.buckets name).getD (.full capacity now)).request capacity
        (capacity / windowSeconds : ℚ) now =
      ((plain.buckets name).getD (.full capacity now)).request capacity
        (capacity / windowSeconds : ℚ) now := by
  rcases follows.kept name with hsame | ⟨hswept, bucket, hplain, hidle⟩
  · rw [hsame]
  · have hroomy : (0 : ℚ) ≤ capacity := by exact_mod_cast roomy.le
    have hpositive : (0 : ℚ) < windowSeconds := by exact_mod_cast positive
    have hshort : (windowSeconds : ℚ) ≤ 600 := by exact_mod_cast short
    have hfull := TokenBucket.refill_eq_full (follows.stocked name bucket hplain).1 hroomy
      hpositive ((add_le_add_right hshort _).trans hidle)
    rw [hswept, hplain, getD_none, getD_some]
    unfold TokenBucket.request
    rw [hfull, TokenBucket.refill_full]

theorem Follows.checkWindow (follows : Follows now swept plain) (scope key : String)
    (small : capacity ≤ 0 ∨ windowSeconds ≤ 600) :
    (swept.checkWindow scope key capacity windowSeconds now).2 =
        (plain.checkWindow scope key capacity windowSeconds now).2 ∧
      Follows now (swept.checkWindow scope key capacity windowSeconds now).1
        (plain.checkWindow scope key capacity windowSeconds now).1 := by
  have hstocked := follows.stocked.checkWindow scope key capacity windowSeconds
  by_cases hrefused : capacity ≤ 0 ∨ windowSeconds ≤ 0
  · rw [checkWindow_of_refused hrefused, checkWindow_of_refused hrefused]
    exact ⟨rfl, follows⟩
  · push Not at hrefused
    have hshort := small.resolve_left (not_le.mpr hrefused.1)
    have hrequest := follows.request hrefused.1 hrefused.2 hshort (composite scope key)
    have hanswer : (swept.checkWindow scope key capacity windowSeconds now).2 =
        (plain.checkWindow scope key capacity windowSeconds now).2 := by
      rw [checkWindow_of_positive hrefused.1 hrefused.2,
        checkWindow_of_positive hrefused.1 hrefused.2]
      rw [hrequest]
    refine ⟨hanswer, hstocked, ?_⟩
    intro name
    by_cases hname : name = composite scope key
    · left
      rw [checkWindow_of_positive hrefused.1 hrefused.2,
        checkWindow_of_positive hrefused.1 hrefused.2, hname]
      dsimp only
      rw [update_self, update_self, hrequest]
    · rw [checkWindow_other hname, checkWindow_other hname]
      exact follows.kept name

theorem Follows.sweep (follows : Follows now swept plain) : Follows now (swept.sweep now) plain where
  stocked := follows.stocked
  kept := by
    intro name
    change (swept.buckets name).filter _ = _ ∨ (swept.buckets name).filter _ = none ∧ _
    rcases follows.kept name with hsame | ⟨hswept, hmissing⟩
    · rw [hsame]
      cases hbucket : plain.buckets name with
      | none => exact .inl rfl
      | some bucket =>
        by_cases hfresh : now - bucket.lastRefill < 600
        · exact .inl (filter_eq_some_iff.mpr ⟨rfl, decide_eq_true hfresh⟩)
        · refine .inr ⟨by simpa using hfresh, bucket, rfl, ?_⟩
          linarith
    · rw [hswept]
      exact .inr ⟨rfl, hmissing⟩

theorem Follows.step {timed : TimedCall} (follows : Follows now swept plain)
    (passed : now ≤ timed.now)
    (small : ∀ scope key capacity windowSeconds,
      timed.call = .checkWindow scope key capacity windowSeconds →
        capacity ≤ 0 ∨ windowSeconds ≤ 600) :
    swept.answers [timed] = plain.answers ([timed].filter TimedCall.checks) ∧
      Follows timed.now (swept.after [timed])
        (plain.after ([timed].filter TimedCall.checks)) := by
  obtain ⟨time, call⟩ := timed
  have hfollows := follows.later passed
  cases call with
  | checkWindow scope key capacity windowSeconds =>
    obtain ⟨hanswer, hnext⟩ := hfollows.checkWindow scope key
      (small scope key capacity windowSeconds rfl)
    refine ⟨?_, hnext⟩
    change [(composite scope key, _)] = [(composite scope key, _)]
    rw [hanswer]
  | sweep => exact ⟨rfl, hfollows.sweep⟩

theorem Follows.run {calls : List TimedCall} (follows : Follows now swept plain)
    (ordered : Chronological calls) (passed : ∀ timed ∈ calls, now ≤ timed.now)
    (within : Within (fun capacity windowSeconds => capacity ≤ 0 ∨ windowSeconds ≤ 600) calls) :
    swept.answers calls = plain.answers (calls.filter TimedCall.checks) ∧
      ∀ last, (∀ timed ∈ calls, timed.now ≤ last) → now ≤ last →
        Follows last (swept.after calls) (plain.after (calls.filter TimedCall.checks)) := by
  induction calls generalizing now swept plain with
  | nil => exact ⟨rfl, fun last _ hlast => follows.later hlast⟩
  | cons timed later ih =>
    obtain ⟨hbefore, hordered⟩ := chronological_cons.mp ordered
    obtain ⟨hanswers, hstep⟩ := follows.step (passed timed mem_cons_self)
      (within timed mem_cons_self)
    obtain ⟨hlater, hrest⟩ := ih hstep hordered hbefore
      fun other member => within other (mem_cons_of_mem _ member)
    have hsplit : (timed :: later).filter TimedCall.checks =
        [timed].filter TimedCall.checks ++ later.filter TimedCall.checks :=
      filter_append (p := TimedCall.checks) [timed] later
    rw [hsplit]
    constructor
    · rw [answers_append, ← hanswers, ← hlater, ← answers_append]
      rfl
    · intro last hends _
      have hfollows := hrest last (fun other member => hends other (mem_cons_of_mem _ member))
        (hends timed mem_cons_self)
      unfold after at hfollows ⊢
      rw [foldl_append]
      exact hfollows

theorem admitted_cons (limiter : RateLimiter) (name scope key : String)
    (capacity windowSeconds : Int) (now : ℚ) (later : List TimedCall) :
    limiter.admitted name (⟨now, .checkWindow scope key capacity windowSeconds⟩ :: later) =
      (if composite scope key = name ∧
          (limiter.checkWindow scope key capacity windowSeconds now).2 = true then 1 else 0) +
        (limiter.checkWindow scope key capacity windowSeconds now).1.admitted name later := by
  unfold admitted
  change List.count _ ([(composite scope key, _)] ++
    (limiter.checkWindow scope key capacity windowSeconds now).1.answers later) = _
  rw [count_append, count_singleton]
  simp

theorem admitted_eq_granted {name : String} {calls : List TimedCall} (roomy : 0 < capacity)
    (positive : 0 < windowSeconds) (checks : ∀ timed ∈ calls, timed.checks = true)
    (own : Within (fun own window => own = capacity ∧ window = windowSeconds)
      (calls.filter (TimedCall.concerns name))) :
    limiter.admitted name calls =
      let times := (calls.filter (TimedCall.concerns name)).map TimedCall.now
      TokenBucket.granted (capacity : ℚ) (capacity / windowSeconds)
        ((limiter.buckets name).getD (.full capacity (times.headD 0))) times := by
  induction calls generalizing limiter with
  | nil => rfl
  | cons timed later ih =>
    obtain ⟨time, call⟩ := timed
    have hlater := fun other member => checks other (mem_cons_of_mem _ member)
    cases call with
    | sweep => cases checks _ mem_cons_self
    | checkWindow scope key asked window =>
      rw [admitted_cons]
      by_cases hname : composite scope key = name
      · have hconcerns : TimedCall.concerns name ⟨time, .checkWindow scope key asked window⟩ =
            true := decide_eq_true hname
        rw [filter_cons_of_pos hconcerns] at own ⊢
        obtain ⟨rfl, rfl⟩ := own _ mem_cons_self scope key asked window rfl
        have hrest := @ih (limiter.checkWindow scope key asked window time).1 hlater
          fun other member => own other (mem_cons_of_mem _ member)
        subst hname
        rw [hrest, checkWindow_of_positive roomy positive]
        dsimp only
        rw [map_cons, headD_cons, TokenBucket.granted, update_self, getD_some]
        simp only [true_and]
      · have hconcerns : ¬ TimedCall.concerns name ⟨time, .checkWindow scope key asked window⟩ =
            true := by
          simpa [TimedCall.concerns] using hname
        rw [filter_cons_of_neg hconcerns] at own ⊢
        rw [ih hlater own, checkWindow_other (Ne.symm hname), if_neg (fun both => hname both.1),
          Nat.zero_add]

theorem Stocked.admitted_le {name : String} {calls : List TimedCall} {start stop : ℚ}
    (stocked : Stocked now limiter) (ordered : Chronological calls)
    (passed : ∀ timed ∈ calls, now ≤ timed.now) (checks : ∀ timed ∈ calls, timed.checks = true)
    (roomy : 0 < capacity) (positive : 0 < windowSeconds) (span : start ≤ stop)
    (within : ∀ timed ∈ calls, start ≤ timed.now ∧ timed.now ≤ stop)
    (own : Within (fun own window => own = capacity ∧ window = windowSeconds)
      (calls.filter (TimedCall.concerns name))) :
    (limiter.admitted name calls : ℚ) ≤ capacity + (stop - start) * (capacity / windowSeconds) := by
  have hroomy : (0 : ℚ) ≤ capacity := by exact_mod_cast roomy.le
  have hpositive : (0 : ℚ) ≤ windowSeconds := by exact_mod_cast positive.le
  have htimes : ∀ time ∈ (calls.filter (TimedCall.concerns name)).map TimedCall.now,
      ∃ timed ∈ calls, timed.now = time := by
    intro time member
    obtain ⟨timed, hmember, rfl⟩ := List.mem_map.mp member
    exact ⟨timed, (mem_filter.mp hmember).1, rfl⟩
  have hpairwise : ((calls.filter (TimedCall.concerns name)).map TimedCall.now).Pairwise (· ≤ ·) :=
    ordered.filter _
  rw [admitted_eq_granted roomy positive checks own]
  generalize (calls.filter (TimedCall.concerns name)).map TimedCall.now = times at *
  have hbucket : 0 ≤ ((limiter.buckets name).getD (.full (capacity : ℚ) (times.headD 0))).tokens ∧
      ∀ time ∈ times,
        ((limiter.buckets name).getD (.full (capacity : ℚ) (times.headD 0))).lastRefill ≤ time := by
    cases hfound : limiter.buckets name with
    | some bucket =>
      obtain ⟨htokens, hrefill⟩ := stocked name bucket hfound
      refine ⟨htokens, ?_⟩
      intro time member
      obtain ⟨timed, hmember, rfl⟩ := htimes time member
      exact hrefill.trans (passed timed hmember)
    | none =>
      refine ⟨hroomy, ?_⟩
      cases times with
      | nil => exact fun time member => nomatch member
      | cons first rest =>
        intro time member
        rcases mem_cons.mp member with rfl | hrest
        · exact le_refl _
        · exact (pairwise_cons.mp hpairwise).1 time hrest
  refine TokenBucket.granted_le hbucket.1 hroomy (div_nonneg hroomy hpositive)
    (pairwise_cons.mpr ⟨hbucket.2, hpairwise⟩) span ?_
  intro time member
  obtain ⟨timed, hmember, rfl⟩ := htimes time member
  exact within timed hmember

theorem admitted_burst (roomy : 0 < capacity) (positive : 0 < windowSeconds) (count : Nat)
    (enough : (count : Int) ≤ capacity)
    (level : (limiter.buckets (composite scope key)).getD (.full capacity now) =
      ⟨(count : ℚ), now⟩) :
    limiter.admitted (composite scope key)
        (List.replicate count ⟨now, .checkWindow scope key capacity windowSeconds⟩) = count ∧
      ((limiter.after (List.replicate count
        ⟨now, .checkWindow scope key capacity windowSeconds⟩)).buckets
          (composite scope key)).getD (.full capacity now) = ⟨0, now⟩ := by
  induction count generalizing limiter with
  | zero =>
    rw [Nat.cast_zero] at level
    exact ⟨rfl, level⟩
  | succ count ih =>
    have henough : ((count + 1 : Nat) : ℚ) ≤ capacity := by exact_mod_cast enough
    have hrequest : TokenBucket.request ⟨((count + 1 : Nat) : ℚ), now⟩ (capacity : ℚ)
        (capacity / windowSeconds) now = (⟨(count : ℚ), now⟩, true) := by
      unfold TokenBucket.request TokenBucket.refill TokenBucket.take
      rw [sub_self, zero_mul, add_zero, min_eq_left henough]
      simp
    have hchecked : limiter.checkWindow scope key capacity windowSeconds now =
        (⟨Function.update limiter.buckets (composite scope key) (some ⟨(count : ℚ), now⟩)⟩,
          true) := by
      rw [checkWindow_of_positive roomy positive, level, hrequest]
    obtain ⟨hadmitted, hafter⟩ := @ih
      ⟨Function.update limiter.buckets (composite scope key) (some ⟨(count : ℚ), now⟩)⟩
      (by omega) (by dsimp only; rw [update_self, getD_some])
    rw [replicate_succ]
    constructor
    · rw [admitted_cons, hchecked, hadmitted, if_pos ⟨rfl, rfl⟩, Nat.add_comm]
    · have hstep : limiter.after (⟨now, .checkWindow scope key capacity windowSeconds⟩ ::
          List.replicate count ⟨now, .checkWindow scope key capacity windowSeconds⟩) =
          (limiter.checkWindow scope key capacity windowSeconds now).1.after
            (List.replicate count ⟨now, .checkWindow scope key capacity windowSeconds⟩) := rfl
      rw [hstep, hchecked]
      exact hafter

/-- As many checks as the capacity, a sweep ten minutes later, and as many again. -/
def sweptBursts (capacity windowSeconds : Int) : List TimedCall :=
  List.replicate capacity.toNat ⟨0, .checkWindow "" "" capacity windowSeconds⟩ ++
    ⟨600, .sweep⟩ ::
      List.replicate capacity.toNat ⟨600, .checkWindow "" "" capacity windowSeconds⟩

theorem admitted_sweptBursts (roomy : 0 < capacity) (positive : 0 < windowSeconds) :
    (RateLimiter.new.admitted (composite "" "") (sweptBursts capacity windowSeconds) : ℚ) =
      capacity + capacity := by
  have hnat : ((capacity.toNat : Nat) : Int) = capacity := Int.toNat_of_nonneg roomy.le
  have hcapacity : ((capacity.toNat : Nat) : ℚ) = capacity := by exact_mod_cast hnat
  obtain ⟨hfirst, hemptied⟩ := @admitted_burst RateLimiter.new "" "" capacity windowSeconds 0 roomy
    positive capacity.toNat hnat.le (by rw [hcapacity]; rfl)
  generalize hafter : RateLimiter.new.after (List.replicate capacity.toNat
    ⟨0, .checkWindow "" "" capacity windowSeconds⟩) = emptied at hemptied
  have hswept : (emptied.sweep 600).buckets (composite "" "") = none := by
    change (emptied.buckets _).filter _ = none
    cases hbucket : emptied.buckets (composite "" "") with
    | none => rfl
    | some bucket =>
      rw [hbucket, getD_some] at hemptied
      simp [hemptied]
  obtain ⟨hsecond, _⟩ := @admitted_burst (emptied.sweep 600) "" "" capacity windowSeconds 600 roomy
    positive capacity.toNat hnat.le (by rw [hswept, hcapacity]; rfl)
  unfold sweptBursts
  rw [admitted_append, hfirst, hafter]
  change ((_ + (emptied.sweep 600).admitted _ _ : Nat) : ℚ) = _
  rw [hsecond, Nat.cast_add, hcapacity]

theorem sweptBursts_calls {timed : TimedCall}
    (member : timed ∈ sweptBursts capacity windowSeconds) :
    (timed.now = 0 ∨ timed.now = 600) ∧
      (timed.call = .sweep ∨ timed.call = .checkWindow "" "" capacity windowSeconds) := by
  unfold sweptBursts at member
  rcases mem_append.mp member with hfirst | hrest
  · cases eq_of_mem_replicate hfirst
    exact ⟨.inl rfl, .inr rfl⟩
  · rcases mem_cons.mp hrest with rfl | hsecond
    · exact ⟨.inr rfl, .inl rfl⟩
    · cases eq_of_mem_replicate hsecond
      exact ⟨.inr rfl, .inr rfl⟩

theorem sweptBursts_within {timed : TimedCall}
    (member : timed ∈ sweptBursts capacity windowSeconds) : 0 ≤ timed.now ∧ timed.now ≤ 600 := by
  rcases (sweptBursts_calls member).1 with hnow | hnow
  · rw [hnow]
    norm_num
  · rw [hnow]
    norm_num

theorem chronological_sweptBursts (capacity windowSeconds : Int) :
    Chronological (sweptBursts capacity windowSeconds) := by
  unfold Chronological sweptBursts
  rw [map_append, map_cons, map_replicate, map_replicate, pairwise_append, pairwise_cons]
  refine ⟨pairwise_replicate.mpr (.inr (le_refl _)),
    ⟨?_, pairwise_replicate.mpr (.inr (le_refl _))⟩, ?_⟩
  · intro time member
    exact (eq_of_mem_replicate member).ge
  · intro first hfirst second hsecond
    rw [eq_of_mem_replicate hfirst]
    rcases mem_cons.mp hsecond with rfl | hlater
    · norm_num
    · rw [eq_of_mem_replicate hlater]
      norm_num

theorem within_sweptBursts {allowed : Int → Int → Prop} (asked : allowed capacity windowSeconds) :
    Within allowed (sweptBursts capacity windowSeconds) := by
  intro timed member scope key own window hcall
  rcases (sweptBursts_calls member).2 with hsweep | hcheck
  · cases hsweep.symm.trans hcall
  · cases hcheck.symm.trans hcall
    exact asked

theorem bound_lt_sweptBursts (roomy : 0 < capacity) (long : 600 < windowSeconds) :
    (capacity : ℚ) + (600 - 0) * (capacity / windowSeconds) < capacity + capacity := by
  have hroomy : (0 : ℚ) < capacity := by exact_mod_cast roomy
  have hlong : (600 : ℚ) < windowSeconds := by exact_mod_cast long
  have hrate : (600 - 0) * (capacity / windowSeconds : ℚ) < capacity := by
    rw [sub_zero, ← mul_div_assoc, div_lt_iff₀ (by linarith), mul_comm]
    exact mul_lt_mul_of_pos_left hlong hroomy
  linarith

end RateLimiter

open RateLimiter

variable {allowed : Int → Int → Prop}

theorem sweepsInvisible_of_short (short : ∀ capacity windowSeconds, allowed capacity windowSeconds →
      capacity ≤ 0 ∨ windowSeconds ≤ 600) : SweepsInvisible allowed := by
  intro calls ordered within
  obtain ⟨now, hpassed⟩ := exists_start calls ordered
  have hnew : Follows now RateLimiter.new RateLimiter.new := Follows.new
  exact (hnew.run ordered hpassed fun timed member scope key capacity windowSeconds hcall =>
    short _ _ (within timed member scope key capacity windowSeconds hcall)).1

theorem admissionBounded_of_short
    (short : ∀ capacity windowSeconds, allowed capacity windowSeconds →
      capacity ≤ 0 ∨ windowSeconds ≤ 600) : AdmissionBounded allowed := by
  intro earlier calls ordered within name capacity windowSeconds start stop roomy positive span
    inside own
  have hsmall : Within (fun capacity windowSeconds => capacity ≤ 0 ∨ windowSeconds ≤ 600)
      (earlier ++ calls) :=
    fun timed member scope key own window hcall =>
      short _ _ (within timed member scope key own window hcall)
  have hordered := ordered
  unfold Chronological at hordered
  rw [map_append, pairwise_append] at hordered
  obtain ⟨hearlier, hcalls, hbetween⟩ := hordered
  obtain ⟨now, hpassed⟩ := exists_start (earlier ++ calls) ordered
  have hnew : Follows now RateLimiter.new RateLimiter.new := Follows.new
  obtain ⟨_, hafter⟩ := hnew.run hearlier
    (fun timed member => hpassed timed (mem_append_left _ member))
    fun timed member => hsmall timed (mem_append_left _ member)
  cases calls with
  | nil =>
    have hroomy : (0 : ℚ) ≤ capacity := by exact_mod_cast roomy.le
    have hpositive : (0 : ℚ) ≤ windowSeconds := by exact_mod_cast positive.le
    have hgrown := mul_nonneg (sub_nonneg.mpr span) (div_nonneg hroomy hpositive)
    exact add_nonneg hroomy hgrown
  | cons first rest =>
    -- The swept limiter follows the other one up to the first of the calls.
    have hfollows := hafter first.now
      (fun timed member => hbetween _ (List.mem_map_of_mem member) _ (List.mem_map_of_mem
        mem_cons_self))
      (hpassed first (mem_append_right _ mem_cons_self))
    have hfirst : ∀ timed ∈ first :: rest, first.now ≤ timed.now := by
      intro timed member
      rcases mem_cons.mp member with rfl | hrest
      · exact le_refl _
      · exact (chronological_cons.mp hcalls).1 timed hrest
    have hanswers := (hfollows.run hcalls hfirst
      fun timed member => hsmall timed (mem_append_right _ member)).1
    unfold admitted
    rw [hanswers]
    refine hfollows.stocked.admitted_le (Chronological.filter hcalls _) ?_ ?_ roomy positive span
      ?_ ?_
    · exact fun timed member => hfirst timed (mem_filter.mp member).1
    · exact fun timed member => (mem_filter.mp member).2
    · exact fun timed member => inside timed (mem_filter.mp member).1
    · intro timed member
      obtain ⟨hmember, hconcerns⟩ := mem_filter.mp member
      exact own timed (mem_filter.mpr ⟨(mem_filter.mp hmember).1, hconcerns⟩)

theorem short_of_sweepsInvisible (invisible : SweepsInvisible allowed) {capacity windowSeconds : Int}
    (asked : allowed capacity windowSeconds) : capacity ≤ 0 ∨ windowSeconds ≤ 600 := by
  by_contra hlong
  push Not at hlong
  obtain ⟨hroomy, hlong⟩ := hlong
  have hpositive : 0 < windowSeconds := by omega
  have hordered := chronological_sweptBursts capacity windowSeconds
  have hadmitted := @admitted_sweptBursts capacity windowSeconds hroomy hpositive
  have hown : Within (fun own window => own = capacity ∧ window = windowSeconds)
      (sweptBursts capacity windowSeconds) := within_sweptBursts ⟨rfl, rfl⟩
  -- Without the sweep the two bursts stay within the bound.
  have hstocked : Stocked 0 RateLimiter.new := Stocked.new
  have hbound := @Stocked.admitted_le _ capacity windowSeconds 0 (composite "" "") _ 0 600 hstocked
    (hordered.filter TimedCall.checks)
    (fun timed member => (sweptBursts_within (mem_filter.mp member).1).1)
    (fun timed member => (mem_filter.mp member).2) hroomy hpositive (by norm_num)
    (fun timed member => sweptBursts_within (mem_filter.mp member).1)
    ((hown.filter TimedCall.checks).filter _)
  unfold admitted at hadmitted hbound
  rw [invisible _ hordered (within_sweptBursts asked)] at hadmitted
  rw [hadmitted] at hbound
  exact absurd hbound (not_le.mpr (bound_lt_sweptBursts hroomy hlong))

/-- Sweeps are invisible, and no window admits too much, if and only if no check has a window of
more than the ten minutes after which a bucket is dropped. -/
theorem sweeps_invisible_iff (allowed : Int → Int → Prop) :
    SweepsInvisible allowed ∧ AdmissionBounded allowed ↔
      ∀ capacity windowSeconds, allowed capacity windowSeconds →
        capacity ≤ 0 ∨ windowSeconds ≤ 600 := by
  constructor
  · intro both capacity windowSeconds asked
    exact short_of_sweepsInvisible both.1 asked
  · intro short
    exact ⟨sweepsInvisible_of_short short, admissionBounded_of_short short⟩

/-- One terminal an hour: after ten minutes a sweep lets the next one through. -/
def sweptHour : List TimedCall :=
  [⟨0, .checkWindow "terminal_create_principal" "owner" 1 3600⟩, ⟨600, .sweep⟩,
    ⟨600, .checkWindow "terminal_create_principal" "owner" 1 3600⟩]

theorem sweep_refills_an_hourly_bucket : Chronological sweptHour ∧
      (RateLimiter.new.answers sweptHour).map Prod.snd = [true, true] ∧
      (RateLimiter.new.answers (sweptHour.filter TimedCall.checks)).map Prod.snd =
        [true, false] := by
  decide +kernel

end Hypeterm.App
