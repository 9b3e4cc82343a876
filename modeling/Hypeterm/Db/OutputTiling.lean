import Hypeterm.Db.Output

/-! What a checkpoint transaction does to stored output. -/
namespace Hypeterm.Db

open Library List

def OutputRow.segment (row : OutputRow) : Segment UInt8 :=
  ⟨row.startOffset, row.endOffset, row.bytes⟩

/-- The stored ranges of one terminal, in no particular order. -/
def segmentsOf (store : Store) (terminalId : Uuid) : List (Segment UInt8) :=
  (store.terminalOutput.filter fun row => row.terminalId = terminalId).map OutputRow.segment

def Tiled (store : Store) (terminalId : Uuid) (stream : Bytes) (lo hi : Nat) : Prop :=
  ∃ segments, (segmentsOf store terminalId).Perm segments ∧ Tiles stream lo segments hi

/-- Nothing stored about this terminal differs between the two stores. -/
def SameTerminal (before after : Store) (terminalId : Uuid) : Prop :=
  getTerminal after terminalId = getTerminal before terminalId ∧
    segmentsOf after terminalId = segmentsOf before terminalId

variable {terminalId : Uuid} {before after store : Store} {stream : Bytes} {lo hi cut : Nat}
  {row stored : TerminalRow} {checkpoint : TerminalCheckpoint} {batch : List TerminalCheckpoint}

theorem SameTerminal.trans {first second third : Store}
    (left : SameTerminal first second terminalId) (right : SameTerminal second third terminalId) :
    SameTerminal first third terminalId :=
  ⟨right.1.trans left.1, right.2.trans left.2⟩

theorem Tiled.sameTerminal
    (tiled : Tiled before terminalId stream lo hi) (same : SameTerminal before after terminalId) :
    Tiled after terminalId stream lo hi := by
  unfold Tiled
  rw [same.2]
  exact tiled

theorem mem_segmentsOf {segment : Segment UInt8} : segment ∈ segmentsOf store terminalId ↔
      ∃ row ∈ store.terminalOutput, row.terminalId = terminalId ∧ row.segment = segment := by
  unfold segmentsOf
  simp only [mem_map, mem_filter, decide_eq_true_eq, and_assoc]

theorem insertOutput_ok {row : OutputRow} (known : getTerminal store row.terminalId = some stored)
    (fresh : ∀ segment ∈ segmentsOf store row.terminalId, segment.start ≠ row.startOffset) :
    insertOutput store row = .ok { store with terminalOutput := store.terminalOutput ++ [row] } := by
  unfold insertOutput
  rw [known, if_neg (by simp), if_neg]
  intro clash
  obtain ⟨other, member, hclash⟩ := any_eq_true.mp clash
  obtain ⟨hid, hstart⟩ := of_decide_eq_true hclash
  exact fresh other.segment (mem_segmentsOf.mpr ⟨other, member, hid, rfl⟩) hstart

theorem segmentsOf_insert (store : Store) (row : OutputRow) (terminalId : Uuid) :
    segmentsOf { store with terminalOutput := store.terminalOutput ++ [row] } terminalId =
      segmentsOf store terminalId ++ if row.terminalId = terminalId then [row.segment] else [] := by
  unfold segmentsOf
  rw [filter_append, map_append]
  congr 1
  by_cases hid : row.terminalId = terminalId
  · simp [hid]
  · simp [hid]

theorem segmentsOf_delete (store : Store) (terminalId : Uuid) (doomed : Segment UInt8 → Bool) :
    segmentsOf (deleteOutput store terminalId fun row => doomed row.segment) terminalId =
      (segmentsOf store terminalId).filter fun segment => !doomed segment := by
  unfold segmentsOf deleteOutput
  rw [filter_filter, filter_map]
  congr 1
  rw [filter_filter]
  apply filter_congr
  intro row _
  by_cases hid : row.terminalId = terminalId
  · simp [hid, Function.comp]
  · simp [hid]

theorem segmentsOf_delete_other (store : Store) {other : Uuid}
    (doomed : OutputRow → Bool) (different : other ≠ terminalId) :
    segmentsOf (deleteOutput store terminalId doomed) other = segmentsOf store other := by
  unfold segmentsOf deleteOutput
  rw [filter_filter]
  congr 1
  apply filter_congr
  intro row _
  by_cases hid : row.terminalId = other
  · simp [hid, different]
  · simp [hid]

/-- Two stores that differ at most in the stored output of one terminal. -/
structure ChangesOnly (terminalId : Uuid) (before after : Store) : Prop where
  terminals : after.terminals = before.terminals
  segments : ∀ other, other ≠ terminalId → segmentsOf after other = segmentsOf before other

theorem ChangesOnly.refl (terminalId : Uuid) (store : Store) : ChangesOnly terminalId store store :=
  ⟨rfl, fun _ _ => rfl⟩

theorem ChangesOnly.trans {first second third : Store}
    (left : ChangesOnly terminalId first second) (right : ChangesOnly terminalId second third) :
    ChangesOnly terminalId first third where
  terminals := right.terminals.trans left.terminals
  segments := fun other different =>
    (right.segments other different).trans (left.segments other different)

theorem ChangesOnly.getTerminal_eq (changes : ChangesOnly terminalId before after) (other : Uuid) :
    getTerminal after other = getTerminal before other := by
  unfold getTerminal
  rw [changes.terminals]

theorem changesOnly_insert (store : Store) (row : OutputRow) : ChangesOnly row.terminalId store
      { store with terminalOutput := store.terminalOutput ++ [row] } where
  terminals := rfl
  segments := by
    intro other different
    rw [segmentsOf_insert, if_neg different.symm, append_nil]

theorem changesOnly_delete (store : Store) (terminalId : Uuid) (doomed : OutputRow → Bool) :
    ChangesOnly terminalId store (deleteOutput store terminalId doomed) where
  terminals := rfl
  segments := fun _ different => segmentsOf_delete_other store doomed different

theorem straddling_eq_none (above : ∀ segment ∈ segmentsOf store terminalId, cut ≤ segment.start) :
    straddling store terminalId cut = none := by
  unfold straddling
  rw [find?_eq_none]
  intro row member found
  simp only [Bool.and_eq_true, decide_eq_true_eq] at found
  have hstart := above row.segment (mem_segmentsOf.mpr ⟨row, member, found.1.1, rfl⟩)
  exact absurd found.1.2 (Nat.not_lt_of_le hstart)

theorem straddling_eq_some {first : Segment UInt8} {rest : List (Segment UInt8)}
    (stored : (segmentsOf store terminalId).Perm (first :: rest))
    (low : first.start < cut) (high : cut < first.stop)
    (above : ∀ segment ∈ rest, cut ≤ segment.start) :
    ∃ row, straddling store terminalId cut = some row ∧ row.terminalId = terminalId ∧
      row.segment = first := by
  have hfirst : first ∈ segmentsOf store terminalId := stored.mem_iff.mpr mem_cons_self
  obtain ⟨witness, member, hid, hsegment⟩ := mem_segmentsOf.mp hfirst
  cases hfound : straddling store terminalId cut with
  | none =>
    have hnone := find?_eq_none.mp hfound witness member
    have hstart : witness.startOffset < cut := by
      rw [← hsegment] at low
      exact low
    have hstop : cut < witness.endOffset := by
      rw [← hsegment] at high
      exact high
    simp [hid, hstart, hstop] at hnone
  | some row =>
    have hrow := find?_some hfound
    simp only [Bool.and_eq_true, decide_eq_true_eq] at hrow
    refine ⟨row, rfl, hrow.1.1, ?_⟩
    have hmem : row.segment ∈ first :: rest :=
      stored.mem_iff.mp (mem_segmentsOf.mpr ⟨row, mem_of_find?_eq_some hfound, hrow.1.1, rfl⟩)
    rcases mem_cons.mp hmem with heq | hrest
    · exact heq
    · exact absurd hrow.1.2 (Nat.not_lt_of_le (above _ hrest))

theorem rewriteStraddling_ok {row : OutputRow}
    {rest : List (Segment UInt8)} (known : getTerminal store row.terminalId = some stored)
    (kept : (segmentsOf store row.terminalId).Perm (row.segment :: rest))
    (low : row.startOffset < cut) (high : cut < row.endOffset)
    (above : ∀ segment ∈ rest, row.endOffset ≤ segment.start) :
    ∃ rewritten, insertOutput
          (deleteOutput store row.terminalId fun other => other.startOffset = row.startOffset)
          ⟨row.terminalId, cut, row.endOffset, row.bytes.drop (cut - row.startOffset)⟩ =
        .ok rewritten ∧
      ChangesOnly row.terminalId store rewritten ∧
      (segmentsOf rewritten row.terminalId).Perm (row.segment.above cut :: rest) := by
  have hremoved : (segmentsOf (deleteOutput store row.terminalId
      fun other => other.startOffset = row.startOffset) row.terminalId).Perm rest := by
    have hdelete := segmentsOf_delete store row.terminalId
      fun segment => segment.start = row.startOffset
    have hrest : ((row.segment :: rest).filter fun segment =>
        !decide (segment.start = row.startOffset)) = rest := by
      rw [filter_cons_of_neg (by simp [OutputRow.segment]), filter_eq_self]
      intro segment member
      have := above segment member
      simp only [Bool.not_eq_eq_eq_not, Bool.not_true, decide_eq_false_iff_not]
      omega
    rw [← hrest]
    exact (Perm.of_eq hdelete).trans (kept.filter _)
  have hdelete := changesOnly_delete store row.terminalId
    fun other => other.startOffset = row.startOffset
  refine ⟨_, insertOutput_ok ((hdelete.getTerminal_eq _).trans known) ?_,
    hdelete.trans (changesOnly_insert _ ⟨row.terminalId, cut, row.endOffset, _⟩), ?_⟩
  · intro segment member
    have := above segment (hremoved.mem_iff.mp member)
    change segment.start ≠ cut
    omega
  · rw [segmentsOf_insert, if_pos rfl]
    exact (hremoved.append_right _).trans (perm_append_singleton _ _)

/-- After the range delete at most one row starts below the window, and trimming
it leaves rows that tile what is retained. -/
theorem trimStraddling_ok {segments : List (Segment UInt8)}
    (known : getTerminal store terminalId = some stored)
    (tiles : Tiles stream lo segments hi) (low : lo ≤ cut) (high : cut ≤ hi)
    (kept : (segmentsOf store terminalId).Perm (segments.filter fun segment => cut < segment.stop)) :
    ∃ trimmed, trimStraddling store terminalId cut = .ok trimmed ∧
      ChangesOnly terminalId store trimmed ∧ Tiled trimmed terminalId stream cut hi := by
  unfold trimStraddling
  rcases tiles.cut low high with htiles | ⟨first, rest, hfilter, hstart, hstop, htiles⟩
  · have hnone : straddling store terminalId cut = none := by
      apply straddling_eq_none
      intro segment member
      exact (htiles.bounds (kept.mem_iff.mp member)).1
    rw [hnone]
    exact ⟨store, rfl, ChangesOnly.refl terminalId store, _, kept, htiles⟩
  · rw [hfilter] at kept
    have habove : ∀ segment ∈ rest, first.stop ≤ segment.start := by
      intro segment member
      exact (pairwise_cons.mp htiles.pairwise).1 segment member
    obtain ⟨row, hfound, hid, hrow⟩ := straddling_eq_some kept hstart hstop
      fun segment member => hstop.le.trans (habove segment member)
    subst hid
    subst hrow
    -- The evicted prefix is shorter than the chunk: what is left of it is not empty.
    have hskip : cut - row.startOffset < row.bytes.length := by
      obtain ⟨_, _, hbound, hpayload, _⟩ := htiles
      have hlen := congrArg List.length hpayload
      rw [length_slice hbound] at hlen
      have hdrop : (row.segment.above cut).payload.length =
          row.bytes.length - (cut - row.startOffset) := length_drop
      have hstopAbove : (row.segment.above cut).stop = row.segment.stop := rfl
      omega
    obtain ⟨rewritten, hrewrite, hchanges, hperm⟩ :=
      rewriteStraddling_ok known kept hstart hstop habove
    rw [hfound]
    simp only [hskip, ↓reduceIte]
    exact ⟨rewritten, hrewrite, hchanges, _, hperm, htiles⟩

/-- A checkpoint that continues what is stored: it was taken from a handle whose
accepted bytes are `stream` and whose durable offset is the stored one. -/
structure Fits (store : Store) (stream : Bytes) (row : TerminalRow)
    (checkpoint : TerminalCheckpoint) : Prop where
  known : getTerminal store checkpoint.terminalId = some row
  tiled : Tiled store checkpoint.terminalId stream row.earliestOffset row.durableOffset
  earliest_mono : row.earliestOffset ≤ checkpoint.earliestOffset
  durable_mono : row.durableOffset ≤ checkpoint.durableOffset
  chunkStart_eq : checkpoint.chunkStart = max row.durableOffset checkpoint.earliestOffset
  earliest_le : checkpoint.earliestOffset ≤ checkpoint.durableOffset
  durable_le : checkpoint.durableOffset ≤ stream.length
  chunk_eq : checkpoint.chunk = slice stream checkpoint.chunkStart checkpoint.durableOffset

/-- What is stored of a terminal after its checkpoint committed. -/
structure Committed (store : Store) (stream : Bytes) (row : TerminalRow)
    (checkpoint : TerminalCheckpoint) : Prop where
  published : getTerminal store checkpoint.terminalId = some (publishCheckpoint checkpoint row)
  tiled : Tiled store checkpoint.terminalId stream checkpoint.earliestOffset
    checkpoint.durableOffset

theorem Fits.sameTerminal (fits : Fits before stream row checkpoint)
    (same : SameTerminal before after checkpoint.terminalId) :
    Fits after stream row checkpoint :=
  { fits with
    known := same.1.trans fits.known
    tiled := fits.tiled.sameTerminal same }

theorem Committed.sameTerminal (committed : Committed before stream row checkpoint)
    (same : SameTerminal before after checkpoint.terminalId) :
    Committed after stream row checkpoint where
  published := same.1.trans committed.published
  tiled := committed.tiled.sameTerminal same

theorem insertChunk_ok (fits : Fits store stream row checkpoint) :
    ∃ inserted, insertChunk store checkpoint = .ok inserted ∧
      ChangesOnly checkpoint.terminalId store inserted ∧
      segmentsOf inserted checkpoint.terminalId = segmentsOf store checkpoint.terminalId ++
        rangeSegments stream checkpoint.chunkStart checkpoint.durableOffset := by
  have hlength : checkpoint.chunk.length = checkpoint.durableOffset - checkpoint.chunkStart := by
    rw [fits.chunk_eq, length_slice fits.durable_le]
  unfold insertChunk rangeSegments
  by_cases hgrows : checkpoint.chunkStart < checkpoint.durableOffset
  · have hchunk : ¬ checkpoint.chunk.isEmpty := by
      rw [isEmpty_iff_length_eq_zero]
      omega
    obtain ⟨segments, hperm, htiles⟩ := fits.tiled
    rw [if_neg hchunk, if_pos hgrows]
    refine ⟨_, insertOutput_ok fits.known ?_, changesOnly_insert store ⟨_, _, _, _⟩, ?_⟩
    · intro segment member
      have hbounds := htiles.bounds (hperm.mem_iff.mp member)
      have hstart := fits.chunkStart_eq
      change segment.start ≠ checkpoint.chunkStart
      omega
    · rw [segmentsOf_insert, if_pos rfl, ← fits.chunk_eq]
      rfl
  · have hchunk : checkpoint.chunk.isEmpty := by
      rw [isEmpty_iff_length_eq_zero]
      omega
    rw [if_pos hchunk, if_neg hgrows, append_nil]
    exact ⟨store, rfl, ChangesOnly.refl _ store, rfl⟩

/-- With the new chunk beside them, the rows that reach past the new earliest
offset are the ones a single tiling keeps.  When the window has moved past
everything stored, that tiling is the new chunk alone. -/
theorem Fits.kept (fits : Fits store stream row checkpoint) {segments : List (Segment UInt8)}
    (tiles : Tiles stream row.earliestOffset segments row.durableOffset) :
    ∃ lo kept, lo ≤ checkpoint.earliestOffset ∧ Tiles stream lo kept checkpoint.durableOffset ∧
      (segments ++ rangeSegments stream checkpoint.chunkStart checkpoint.durableOffset).filter
          (fun segment => checkpoint.earliestOffset < segment.stop) =
        kept.filter fun segment => checkpoint.earliestOffset < segment.stop := by
  have hstart := fits.chunkStart_eq
  by_cases hwindow : row.durableOffset < checkpoint.earliestOffset
  · rw [Nat.max_eq_right hwindow.le] at hstart
    rw [hstart]
    refine ⟨checkpoint.earliestOffset, _, Nat.le_refl _,
      tiles_range fits.earliest_le fits.durable_le, ?_⟩
    have hold : (segments.filter fun segment => checkpoint.earliestOffset < segment.stop) = [] := by
      rw [filter_eq_nil_iff]
      intro segment member
      have := tiles.bounds member
      simp only [decide_eq_true_eq]
      omega
    rw [filter_append, hold, nil_append]
  · rw [Nat.max_eq_left (Nat.le_of_not_lt hwindow)] at hstart
    rw [hstart]
    exact ⟨row.earliestOffset, _, fits.earliest_mono,
      tiles.append_range fits.durable_mono fits.durable_le, rfl⟩

theorem updateTerminal_ok (known : getTerminal store checkpoint.terminalId = some row)
    (order : checkpoint.earliestOffset ≤ checkpoint.durableOffset) :
    ∃ updated, updateTerminal store checkpoint = .ok updated ∧
      getTerminal updated checkpoint.terminalId = some (publishCheckpoint checkpoint row) ∧
      updated.terminalOutput = store.terminalOutput ∧
      ∀ other, other ≠ checkpoint.terminalId → getTerminal updated other = getTerminal store other := by
  have hkeeps : ∀ stored : TerminalRow,
      (publishCheckpoint checkpoint stored).terminalId = stored.terminalId := by
    intro stored
    unfold publishCheckpoint
    split <;> rfl
  unfold updateTerminal
  rw [if_neg (by simp [Nat.not_lt_of_le order])]
  refine ⟨_, rfl, ?_, rfl, ?_⟩
  · unfold getTerminal at known ⊢
    rw [lookup_update_same _ _ _ hkeeps, known, Option.map_some]
  · intro other different
    exact lookup_update_other _ _ hkeeps _ different

theorem segmentsOf_congr (same : after.terminalOutput = before.terminalOutput)
    (terminalId : Uuid) : segmentsOf after terminalId = segmentsOf before terminalId := by
  unfold segmentsOf
  rw [same]

/-- A fitting checkpoint always commits.  Its terminal's rows then tile the new
range, and no other terminal changes. -/
theorem commitCheckpoint_ok (fits : Fits store stream row checkpoint) :
    ∃ committed, commitCheckpoint store checkpoint = .ok committed ∧
      Committed committed stream row checkpoint ∧
      ∀ other, other ≠ checkpoint.terminalId → SameTerminal store committed other := by
  obtain ⟨inserted, hinsert, hinserted, hsegments⟩ := insertChunk_ok fits
  obtain ⟨segments, hperm, htiles⟩ := fits.tiled
  obtain ⟨lo, kept, hlow, hkept, hfilter⟩ := fits.kept htiles
  have hdeleted := hinserted.trans (changesOnly_delete inserted checkpoint.terminalId
    fun stored => stored.endOffset ≤ checkpoint.earliestOffset)
  have hleft : (segmentsOf (deleteOutput inserted checkpoint.terminalId
      fun stored => stored.endOffset ≤ checkpoint.earliestOffset) checkpoint.terminalId).Perm
      (kept.filter fun segment => checkpoint.earliestOffset < segment.stop) := by
    have hdelete := segmentsOf_delete inserted checkpoint.terminalId
      fun segment => segment.stop ≤ checkpoint.earliestOffset
    have hpast : (fun segment : Segment UInt8 =>
        !decide (segment.stop ≤ checkpoint.earliestOffset)) =
        fun segment => decide (checkpoint.earliestOffset < segment.stop) := by
      funext segment
      rw [← decide_not, decide_eq_decide]
      exact Nat.not_le
    rw [hsegments, hpast] at hdelete
    rw [← hfilter]
    exact (Perm.of_eq hdelete).trans ((hperm.append_right _).filter _)
  obtain ⟨trimmed, htrim, htrimmed, htiled⟩ :=
    trimStraddling_ok ((hdeleted.getTerminal_eq _).trans fits.known) hkept hlow fits.earliest_le hleft
  have hchanges := hdeleted.trans htrimmed
  obtain ⟨updated, hupdate, hpublished, houtput, hothers⟩ :=
    updateTerminal_ok ((hchanges.getTerminal_eq _).trans fits.known) fits.earliest_le
  refine ⟨updated, ?_, ⟨hpublished, ?_⟩, ?_⟩
  · unfold commitCheckpoint
    rw [hinsert]
    change (trimStraddling _ _ _ >>= _) = _
    rw [htrim]
    exact hupdate
  · unfold Tiled
    rw [segmentsOf_congr houtput]
    exact htiled
  · intro other different
    constructor
    · exact (hothers other different).trans (hchanges.getTerminal_eq other)
    · exact (segmentsOf_congr houtput other).trans (hchanges.segments other different)

theorem commitCheckpoints_ok {streams : Uuid → Bytes}
    (distinct : (batch.map TerminalCheckpoint.terminalId).Nodup)
    (fits : ∀ checkpoint ∈ batch, ∃ row, Fits store (streams checkpoint.terminalId) row checkpoint) :
    ∃ committed, commitCheckpoints store batch = .ok committed ∧
      (∀ checkpoint ∈ batch, ∀ row, getTerminal store checkpoint.terminalId = some row →
        Committed committed (streams checkpoint.terminalId) row checkpoint) ∧
      ∀ other, other ∉ batch.map TerminalCheckpoint.terminalId → SameTerminal store committed other := by
  induction batch generalizing store with
  | nil => exact ⟨store, rfl, by simp, fun _ _ => ⟨rfl, rfl⟩⟩
  | cons checkpoint rest ih =>
    obtain ⟨hfresh, hdistinct⟩ := nodup_cons.mp distinct
    obtain ⟨row, hfits⟩ := fits checkpoint mem_cons_self
    obtain ⟨first, hfirst, hcommitted, hsame⟩ := commitCheckpoint_ok hfits
    have hother : ∀ other ∈ rest, SameTerminal store first other.terminalId := by
      intro other member
      apply hsame
      intro heq
      exact hfresh (heq ▸ mem_map_of_mem member)
    have hrestFits : ∀ other ∈ rest, ∃ row, Fits first (streams other.terminalId) row other := by
      intro other member
      obtain ⟨otherRow, hotherFits⟩ := fits other (mem_cons_of_mem _ member)
      exact ⟨otherRow, hotherFits.sameTerminal (hother other member)⟩
    obtain ⟨last, hlast, hrest, hsameRest⟩ := ih hdistinct hrestFits
    refine ⟨last, ?_, ?_, ?_⟩
    · unfold commitCheckpoints
      rw [foldlM_cons, hfirst]
      exact hlast
    · intro other member otherRow known
      rcases mem_cons.mp member with rfl | member
      · rw [hfits.known] at known
        cases known
        exact hcommitted.sameTerminal (hsameRest _ hfresh)
      · exact hrest other member otherRow ((hother other member).1.trans known)
    · intro other habsent
      rw [map_cons, mem_cons, not_or] at habsent
      exact (hsame other habsent.1).trans (hsameRest other habsent.2)

theorem terminals_insertOutput {row : OutputRow}
    (inserted : insertOutput store row = .ok after) : after.terminals = store.terminals := by
  unfold insertOutput at inserted
  split at inserted
  · cases inserted
  · split at inserted
    · cases inserted
    · cases inserted
      rfl

theorem terminals_insertChunk
    (inserted : insertChunk store checkpoint = .ok after) : after.terminals = store.terminals := by
  unfold insertChunk at inserted
  split at inserted
  · cases inserted
    rfl
  · exact terminals_insertOutput inserted

theorem terminals_trimStraddling {earliest : Nat}
    (trimmed : trimStraddling store terminalId earliest = .ok after) :
    after.terminals = store.terminals := by
  unfold trimStraddling at trimmed
  split at trimmed
  · cases trimmed
    rfl
  · dsimp only at trimmed
    split at trimmed
    · exact (terminals_insertOutput trimmed :)
    · cases trimmed
      rfl

theorem terminalId_publishCheckpoint (checkpoint : TerminalCheckpoint) (row : TerminalRow) :
    (publishCheckpoint checkpoint row).terminalId = row.terminalId := by
  unfold publishCheckpoint
  split <;> rfl

theorem terminals_commitCheckpoint (committed : commitCheckpoint store checkpoint = .ok after) :
    after.terminals = update TerminalRow.terminalId checkpoint.terminalId
      (publishCheckpoint checkpoint) store.terminals := by
  unfold commitCheckpoint at committed
  obtain ⟨inserted, hinsert, committed⟩ := bind_eq_ok.mp committed
  obtain ⟨trimmed, htrim, committed⟩ := bind_eq_ok.mp committed
  have hkept := terminals_trimStraddling htrim
  have hinserted := terminals_insertChunk hinsert
  have hterminals : trimmed.terminals = store.terminals := hkept.trans hinserted
  unfold updateTerminal at committed
  split at committed
  · cases committed
  · cases committed
    rw [hterminals]

theorem getTerminal_commitCheckpoint
    (committed : commitCheckpoint store checkpoint = .ok after) (terminalId : Uuid) :
    getTerminal after terminalId =
      if terminalId = checkpoint.terminalId then
        (getTerminal store terminalId).map (publishCheckpoint checkpoint)
      else getTerminal store terminalId := by
  unfold getTerminal
  rw [terminals_commitCheckpoint committed,
    lookup_update _ _ _ _ (terminalId_publishCheckpoint checkpoint)]
  split
  · rename_i hsame
    rw [hsame]
  · rfl

/-- What a checkpoint may do to any row: nothing to what identifies it, and no row that was
closed is open after it. -/
structure KeepsRows (f : TerminalRow → TerminalRow) : Prop where
  terminalId_eq : ∀ row, (f row).terminalId = row.terminalId
  deviceId_eq : ∀ row, (f row).deviceId = row.deviceId
  localRef_eq : ∀ row, (f row).localRef = row.localRef
  closed : ∀ row, row.state = .closed → (f row).state = .closed

theorem keepsRows_id : KeepsRows id := ⟨fun _ => rfl, fun _ => rfl, fun _ => rfl, fun _ h => h⟩

theorem KeepsRows.comp {f g : TerminalRow → TerminalRow} (outer : KeepsRows g)
    (inner : KeepsRows f) : KeepsRows (g ∘ f) where
  terminalId_eq := fun row => (outer.terminalId_eq (f row)).trans (inner.terminalId_eq row)
  deviceId_eq := fun row => (outer.deviceId_eq (f row)).trans (inner.deviceId_eq row)
  localRef_eq := fun row => (outer.localRef_eq (f row)).trans (inner.localRef_eq row)
  closed := fun row closed => outer.closed (f row) (inner.closed row closed)

theorem keepsRows_publish (terminalId : Uuid) (checkpoint : TerminalCheckpoint) :
    KeepsRows fun row =>
      if row.terminalId = terminalId then publishCheckpoint checkpoint row else row := by
  have hfields : ∀ row : TerminalRow,
      (publishCheckpoint checkpoint row).terminalId = row.terminalId ∧
      (publishCheckpoint checkpoint row).deviceId = row.deviceId ∧
      (publishCheckpoint checkpoint row).localRef = row.localRef ∧
      (row.state = .closed → (publishCheckpoint checkpoint row).state = .closed) := by
    intro row
    unfold publishCheckpoint
    split
    · exact ⟨rfl, rfl, rfl, fun _ => rfl⟩
    · exact ⟨rfl, rfl, rfl, id⟩
  constructor
  · intro row
    split
    · exact (hfields row).1
    · rfl
  · intro row
    split
    · exact (hfields row).2.1
    · rfl
  · intro row
    split
    · exact (hfields row).2.2.1
    · rfl
  · intro row closed
    split
    · exact (hfields row).2.2.2 closed
    · exact closed

theorem terminals_commitCheckpoints (committed : commitCheckpoints store batch = .ok after) :
    ∃ f, KeepsRows f ∧ after.terminals = store.terminals.map f := by
  induction batch generalizing store with
  | nil =>
    cases committed
    exact ⟨id, keepsRows_id, (map_id _).symm⟩
  | cons checkpoint rest ih =>
    unfold commitCheckpoints at committed
    rw [foldlM_cons] at committed
    obtain ⟨first, hfirst, hrest⟩ := bind_eq_ok.mp committed
    obtain ⟨f, hkeeps, hterminals⟩ := ih hrest
    refine ⟨_, hkeeps.comp (keepsRows_publish checkpoint.terminalId checkpoint), ?_⟩
    rw [hterminals, terminals_commitCheckpoint hfirst, update, map_map]

theorem getTerminal_commitCheckpoints
    (committed : commitCheckpoints store batch = .ok after) (terminalId : Uuid) :
    getTerminal after terminalId = (getTerminal store terminalId).map fun row =>
      (batch.filter fun checkpoint => terminalId = checkpoint.terminalId).foldl
        (fun row checkpoint => publishCheckpoint checkpoint row) row := by
  induction batch generalizing store with
  | nil =>
    cases committed
    simp
  | cons checkpoint rest ih =>
    unfold commitCheckpoints at committed
    rw [foldlM_cons] at committed
    obtain ⟨first, hfirst, hrest⟩ := bind_eq_ok.mp committed
    rw [ih hrest, getTerminal_commitCheckpoint hfirst, filter_cons]
    by_cases hsame : terminalId = checkpoint.terminalId
    · simp [hsame, Function.comp_def]
    · simp [hsame]

theorem joinRows_ok (terminalId : Uuid) {rows : List OutputRow}
    (tiles : Tiles stream lo (rows.map OutputRow.segment) hi) (out : Bytes) :
    joinRows terminalId rows lo out = .ok (out ++ slice stream lo hi) := by
  induction rows generalizing lo out with
  | nil =>
    have hbound : lo = hi := tiles
    simp [joinRows, hbound]
  | cons row rest ih =>
    obtain ⟨hstart, hlt, hbound, hpayload, hrest⟩ := tiles
    change row.startOffset = lo at hstart
    change lo < row.endOffset at hlt
    change row.endOffset ≤ stream.length at hbound
    change Tiles stream row.endOffset (rest.map OutputRow.segment) hi at hrest
    change row.bytes = slice stream lo row.endOffset at hpayload
    have hlength : row.bytes.length = row.endOffset - lo := by
      rw [hpayload, length_slice hbound]
    have hend : row.startOffset + row.bytes.length = row.endOffset := by omega
    unfold joinRows
    simp only [hend]
    rw [if_neg (by omega), if_neg (by omega), ih hrest, hstart, Nat.sub_self, drop_zero,
      hpayload, append_assoc, slice_append_slice stream hlt.le hrest.le]

theorem loadTerminalOutput_ok (tiled : Tiled store terminalId stream lo hi) :
    loadTerminalOutput store terminalId lo = .ok (slice stream lo hi) := by
  obtain ⟨segments, hperm, htiles⟩ := tiled
  have hall : (store.terminalOutput.filter fun row =>
      row.terminalId = terminalId && lo < row.endOffset) =
      store.terminalOutput.filter fun row => row.terminalId = terminalId := by
    apply filter_congr
    intro row member
    by_cases hid : row.terminalId = terminalId
    · have hbounds := htiles.bounds
        (hperm.mem_iff.mp (mem_segmentsOf.mpr ⟨row, member, hid, rfl⟩))
      have hlow : lo < row.endOffset := Nat.lt_of_le_of_lt hbounds.1 hbounds.2.1
      simp [hid, hlow]
    · simp [hid]
  have hsorted : (outputAfter store terminalId lo).map OutputRow.segment = segments := by
    unfold outputAfter
    rw [hall]
    have hstored := ((perm_insertionSort
      (fun left right : OutputRow => left.startOffset ≤ right.startOffset)
      (store.terminalOutput.filter fun row => row.terminalId = terminalId)).map
        OutputRow.segment).trans hperm
    have hordered := pairwise_insertionSort
      (fun left right : OutputRow => left.startOffset ≤ right.startOffset)
      (store.terminalOutput.filter fun row => row.terminalId = terminalId)
    have hsegments : segments.Pairwise fun left right => left.start ≤ right.start :=
      htiles.pairwise.imp_of_mem fun leftMem _ hle => (htiles.bounds leftMem).2.1.le.trans hle
    -- Both lists are in offset order and no two segments share a start.
    refine Perm.eq_of_pairwise ?_ ?_ hsegments hstored
    · intro left right leftMem rightMem hle hge
      exact htiles.eq_of_start_eq (hstored.mem_iff.mp leftMem) rightMem (Nat.le_antisymm hle hge)
    · rw [pairwise_map]
      exact hordered
  unfold loadTerminalOutput
  rw [← hsorted] at htiles
  rw [joinRows_ok terminalId htiles, nil_append]

end Hypeterm.Db
