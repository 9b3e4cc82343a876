import Mathlib.Data.List.Sort

/-! Pages of a list in the order of a key.  A request names the key of the last row it
has seen, and asks for one row more than it shows to learn whether another page exists. -/
namespace Hypeterm.Library.Paging

open List

section Follow

variable {Cursor Row Failure : Type*}

/-- The rows of all pages from a cursor on, or `none` when the last page is not among the
first `fuel`. -/
def follow (page : Nat → Option Cursor → Except Failure (List Row × Option Cursor)) :
    Nat → Nat → Option Cursor → Except Failure (Option (List Row))
  | 0, _, _ => .ok none
  | fuel + 1, number, cursor =>
      match page number cursor with
      | .error e => .error e
      | .ok (rows, none) => .ok (some rows)
      | .ok (rows, some next) =>
          (follow page fuel (number + 1) (some next)).map (Option.map (rows ++ ·))

end Follow

variable {Row Item Key Cursor Failure : Type*} [LinearOrder Key] {key : Row → Key} {rows : List Row}

def rowsAfter (key : Row → Key) (rows : List Row) (after : Option Key) : List Row :=
  (rows.filter fun row => after.all fun last => last < key row).mergeSort fun a b => key a ≤ key b

def page (key : Row → Key) (rows : List Row) (after : Option Key) (limit : Nat) :
    List Row × Option Key :=
  let found := (rowsAfter key rows after).take (limit + 1)
  if limit < found.length then (found.take limit, (found.take limit).getLast?.map key)
  else (found, none)

theorem rowsAfter_perm (after : Option Key) :
    (rowsAfter key rows after).Perm (rows.filter fun row => after.all fun last => last < key row) :=
  mergeSort_perm _ _

theorem rowsAfter_sorted (distinct : (rows.map key).Nodup) (after : Option Key) :
    (rowsAfter key rows after).Pairwise fun a b => key a < key b := by
  have hle : (rowsAfter key rows after).Pairwise fun a b => key a ≤ key b := by
    have htrans : ∀ a b c : Row, decide (key a ≤ key b) = true → decide (key b ≤ key c) = true →
        decide (key a ≤ key c) = true := by
      intro a b c hab hbc
      exact decide_eq_true ((of_decide_eq_true hab).trans (of_decide_eq_true hbc))
    have htotal : ∀ a b : Row, (decide (key a ≤ key b) || decide (key b ≤ key a)) = true := by
      intro a b
      simpa using le_total (key a) (key b)
    have hsorted := pairwise_mergeSort htrans htotal
      (rows.filter fun row => after.all fun last => last < key row)
    exact hsorted.imp fun hab => of_decide_eq_true hab
  have hnodup : ((rowsAfter key rows after).map key).Nodup := by
    apply ((rowsAfter_perm after).map key).nodup_iff.mpr
    exact distinct.sublist (filter_sublist.map key)
  exact hle.imp₂ (fun a b hab hne => lt_of_le_of_ne hab hne) (pairwise_map.mp hnodup)

theorem eq_of_perm_of_sorted {first second : List Row} (perm : first.Perm second)
    (first_sorted : first.Pairwise fun a b => key a < key b)
    (second_sorted : second.Pairwise fun a b => key a < key b) : first = second := by
  apply perm.eq_of_pairwise ?_ first_sorted second_sorted
  intro a b _ _ hab hba
  exact absurd (hab.trans hba) (lt_irrefl _)

theorem rowsAfter_of_append (distinct : (rows.map key).Nodup) {after : Option Key}
    {first rest : List Row} {row : Row} (parts : rowsAfter key rows after = first ++ row :: rest) :
    rowsAfter key rows (some (key row)) = rest := by
  have hsorted := rowsAfter_sorted distinct after
  rw [parts] at hsorted
  obtain ⟨-, hback, hfront⟩ := pairwise_append.mp hsorted
  obtain ⟨hrow, hrest⟩ := pairwise_cons.mp hback
  apply eq_of_perm_of_sorted ?_ (rowsAfter_sorted distinct _) hrest
  have hmem : row ∈ rows.filter fun row => after.all fun last => last < key row := by
    apply (rowsAfter_perm after).mem_iff.mp
    rw [parts]
    simp
  have hafter : ∀ other : Row, key row < key other →
      (after.all fun last => decide (last < key other)) = true := by
    intro other hother
    rcases after with _ | last
    · rfl
    · have hlast : last < key row := by simpa using (mem_filter.mp hmem).2
      simpa using hlast.trans hother
  have hfilter : (rows.filter fun other => (some (key row)).all fun last => last < key other) =
      (rows.filter fun other => after.all fun last => last < key other).filter
        fun other => key row < key other := by
    rw [filter_filter]
    apply filter_congr
    intro other _
    by_cases hother : key row < key other
    · simpa [hother] using hafter other hother
    · simp [hother]
  have hsplit : (first ++ row :: rest).filter (fun other => key row < key other) = rest := by
    rw [filter_append, filter_cons_of_neg (by simp), filter_eq_nil_iff.mpr,
      nil_append, filter_eq_self]
    · exact fun other hother => decide_eq_true (hrow other hother)
    · intro other hother
      simpa using (hfront other hother row mem_cons_self).le
  have hperm : (rowsAfter key rows (some (key row))).Perm
      ((rowsAfter key rows after).filter fun other => key row < key other) := by
    refine (rowsAfter_perm (some (key row))).trans ?_
    rw [hfilter]
    exact ((rowsAfter_perm after).filter _).symm
  rw [parts, hsplit] at hperm
  exact hperm

theorem page_cases (distinct : (rows.map key).Nodup) (after : Option Key) {limit : Nat}
    (positive : 0 < limit) :
    page key rows after limit = (rowsAfter key rows after, none) ∨
      ∃ first row, (first ++ [row]) ++ rowsAfter key rows (some (key row)) =
          rowsAfter key rows after ∧
        page key rows after limit = (first ++ [row], some (key row)) := by
  unfold page
  by_cases hlength : (rowsAfter key rows after).length ≤ limit
  · left
    have htake : (rowsAfter key rows after).take (limit + 1) = rowsAfter key rows after :=
      take_of_length_le (hlength.trans (Nat.le_succ _))
    simp only [htake]
    exact if_neg (Nat.not_lt.mpr hlength)
  · right
    have htake : ((rowsAfter key rows after).take (limit + 1)).take limit =
        (rowsAfter key rows after).take limit := by
      rw [take_take, Nat.min_eq_left (Nat.le_succ _)]
    have hne : (rowsAfter key rows after).take limit ≠ [] := by
      intro hnil
      have hzero := congrArg List.length hnil
      rw [length_take, length_nil] at hzero
      omega
    obtain ⟨first, row, hparts⟩ := (eq_nil_or_concat' _).resolve_left hne
    have hwhole : rowsAfter key rows after =
        first ++ row :: (rowsAfter key rows after).drop limit := by
      conv_lhs => rw [← take_append_drop limit (rowsAfter key rows after), hparts]
      rw [append_assoc]
      rfl
    refine ⟨first, row, ?_, ?_⟩
    · rw [rowsAfter_of_append distinct hwhole, append_assoc]
      exact hwhole.symm
    · simp only [htake, hparts]
      rw [if_pos]
      · simp
      · rw [length_take]
        omega

theorem follow_eq (distinct : (rows.map key).Nodup) {limits : Nat → Nat}
    (positive : ∀ number, 0 < limits number) {view : Row → Item} {encode : Key → Cursor}
    {answer : Nat → Option Cursor → Except Failure (List Item × Option Cursor)}
    (answers : ∀ number after, (∀ last ∈ after, last ∈ rows.map key) →
      answer number (after.map encode) = .ok ((page key rows after (limits number)).1.map view,
        (page key rows after (limits number)).2.map encode))
    {fuel : Nat} (number : Nat) {after : Option Key} (known : ∀ last ∈ after, last ∈ rows.map key)
    (enough : (rowsAfter key rows after).length < fuel) :
    follow answer fuel number (after.map encode) =
      .ok (some ((rowsAfter key rows after).map view)) := by
  induction fuel generalizing number after with
  | zero => cases enough
  | succ fuel ih =>
    rw [follow, answers number after known]
    rcases page_cases distinct after (positive number) with hlast | ⟨first, row, hparts, hpage⟩
    · rw [hlast]
      rfl
    · have hmem : row ∈ rows := by
        have hrow : row ∈ rowsAfter key rows after := by
          rw [← hparts]
          simp
        exact mem_of_mem_filter ((rowsAfter_perm after).mem_iff.mp hrow)
      have hknown : ∀ last ∈ some (key row), last ∈ rows.map key := by
        rintro last hlast
        cases hlast
        exact mem_map_of_mem hmem
      have hshorter : (rowsAfter key rows (some (key row))).length < fuel := by
        rw [← hparts] at enough
        simp only [length_append, length_singleton] at enough
        omega
      rw [hpage]
      change (follow answer fuel (number + 1) ((some (key row)).map encode)).map
        (Option.map ((first ++ [row]).map view ++ ·)) = _
      rw [ih (number + 1) hknown hshorter, ← hparts]
      change Except.ok (some ((first ++ [row]).map view ++
        (rowsAfter key rows (some (key row))).map view)) = _
      rw [← map_append]

end Hypeterm.Library.Paging
