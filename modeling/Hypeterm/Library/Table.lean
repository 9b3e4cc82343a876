import Mathlib.Data.List.Basic

/-! Keyed tables.  A table is a list of rows and a key function; the operations
are the ones a database statement or a hash map performs on the row of one key. -/
namespace Hypeterm.Library

open List

variable {Row Key : Type*} [DecidableEq Key]

def lookup (key : Row → Key) (k : Key) (rows : List Row) : Option Row :=
  rows.find? fun row => key row = k

def update (key : Row → Key) (k : Key) (f : Row → Row) (rows : List Row) : List Row :=
  rows.map fun row => if key row = k then f row else row

/-- A hash map's `insert`: the row takes the place of the one its key has. -/
def insertRow (key : Row → Key) (row : Row) (rows : List Row) : List Row :=
  (rows.filter fun stored => key stored ≠ key row) ++ [row]

/-- A hash map's `remove`. -/
def eraseRow (key : Row → Key) (k : Key) (rows : List Row) : List Row :=
  rows.filter fun row => key row ≠ k

@[simp] theorem lookup_nil (key : Row → Key) (k : Key) : lookup key k [] = none := rfl

theorem lookup_cons (key : Row → Key) (k : Key) (row : Row) (rows : List Row) :
    lookup key k (row :: rows) = if key row = k then some row else lookup key k rows := by
  unfold lookup
  by_cases h : key row = k <;> simp [h]

variable {key : Row → Key} {rows : List Row}

theorem key_of_lookup {k : Key} {row : Row}
    (found : lookup key k rows = some row) : key row = k := by
  have := find?_some found
  simpa using this

theorem mem_of_lookup {key : Row → Key} {k : Key} {rows : List Row} {row : Row}
    (found : lookup key k rows = some row) : row ∈ rows :=
  mem_of_find?_eq_some found

theorem lookup_of_mem {row : Row}
    (unique : (rows.map key).Nodup) (stored : row ∈ rows) : lookup key (key row) rows = some row := by
  induction rows with
  | nil => simp at stored
  | cons first rest ih =>
    obtain ⟨fresh, unique⟩ := nodup_cons.mp unique
    rw [lookup_cons]
    rcases mem_cons.mp stored with rfl | stored
    · simp
    · have other : key first ≠ key row := fun h => fresh (h ▸ mem_map_of_mem stored)
      rw [if_neg other, ih unique stored]

theorem lookup_eq_none {k : Key} : lookup key k rows = none ↔ ∀ row ∈ rows, key row ≠ k := by
  simp [lookup]

theorem lookup_of_not_mem {k : Key} (fresh : k ∉ rows.map key) : lookup key k rows = none :=
  lookup_eq_none.mpr fun _ stored heq => fresh (heq ▸ mem_map_of_mem stored)

theorem lookup_update (key : Row → Key) (k k' : Key) (f : Row → Row)
    (keeps : ∀ row, key (f row) = key row) (rows : List Row) :
    lookup key k' (update key k f rows) =
      if k' = k then (lookup key k rows).map f else lookup key k' rows := by
  induction rows with
  | nil => simp [update]
  | cons row rows ih =>
    have hrest : lookup key k' (rows.map fun row => if key row = k then f row else row) =
        if k' = k then (lookup key k rows).map f else lookup key k' rows := ih
    by_cases hrow : key row = k
    · simp only [update, map_cons, hrow, ↓reduceIte, lookup_cons, keeps, hrest]
      by_cases hk : k = k'
      · subst hk
        simp
      · have hk' : ¬ k' = k := fun h => hk h.symm
        simp [hk, hk']
    · simp only [update, map_cons, hrow, ↓reduceIte, lookup_cons, hrest]
      by_cases hk : key row = k'
      · have hk' : ¬ k' = k := fun h => hrow (hk.trans h)
        simp [hk, hk']
      · simp [hk]

@[simp] theorem lookup_update_same (key : Row → Key) (k : Key) (f : Row → Row)
    (keeps : ∀ row, key (f row) = key row) (rows : List Row) :
    lookup key k (update key k f rows) = (lookup key k rows).map f := by
  rw [lookup_update key k k f keeps, if_pos rfl]

theorem lookup_update_other (key : Row → Key) {k k' : Key} (f : Row → Row)
    (keeps : ∀ row, key (f row) = key row) (rows : List Row) (other : k' ≠ k) :
    lookup key k' (update key k f rows) = lookup key k' rows := by
  rw [lookup_update key k k' f keeps, if_neg other]

theorem update_update (key : Row → Key) (k : Key) (f g : Row → Row)
    (keeps : ∀ row, key (f row) = key row) (rows : List Row) :
    update key k g (update key k f rows) = update key k (fun row => g (f row)) rows := by
  unfold update
  rw [map_map]
  apply map_congr_left
  intro row _
  by_cases hkey : key row = k
  · simp [hkey, keeps]
  · simp [hkey]

theorem lookup_filterMap {Item : Type*} {key' : Item → Key}
    {f : Row → Option Item} (keeps : ∀ row item, f row = some item → key' item = key row)
    (unique : (rows.map key).Nodup) (k : Key) :
    lookup key' k (rows.filterMap f) = (lookup key k rows).bind f := by
  induction rows with
  | nil => simp
  | cons row rest ih =>
    obtain ⟨fresh, unique⟩ := nodup_cons.mp unique
    rw [lookup_cons]
    cases h : f row with
    | none =>
      rw [filterMap_cons_none h, ih unique]
      by_cases hk : key row = k
      · simp [hk, h, lookup_of_not_mem (hk ▸ fresh)]
      · simp [hk]
    | some item =>
      rw [filterMap_cons_some h, lookup_cons, keeps row item h, ih unique]
      by_cases hk : key row = k <;> simp [hk, h]

theorem lookup_filter (unique : (rows.map key).Nodup)
    (p : Row → Bool) (k : Key) : lookup key k (rows.filter p) = (lookup key k rows).filter p := by
  induction rows with
  | nil => simp
  | cons row rest ih =>
    obtain ⟨fresh, unique⟩ := nodup_cons.mp unique
    rw [lookup_cons, filter_cons]
    by_cases hk : key row = k
    · have hrest : lookup key k (rest.filter p) = none := by
        rw [ih unique, lookup_of_not_mem (hk ▸ fresh), Option.filter_none]
      by_cases hp : p row = true
      · simp [hk, hp, lookup_cons, Option.filter]
      · simp [hk, hp, hrest, Option.filter]
    · by_cases hp : p row = true
      · simp [hk, hp, lookup_cons, ih unique]
      · simp [hk, hp, ih unique]

theorem lookup_map {Item : Type*} {key' : Item → Key} {f : Row → Item}
    (keeps : ∀ row, key' (f row) = key row) (rows : List Row) (k : Key) :
    lookup key' k (rows.map f) = (lookup key k rows).map f := by
  induction rows with
  | nil => simp
  | cons row rest ih =>
    rw [map_cons, lookup_cons, lookup_cons, keeps, ih]
    split <;> rfl

omit [DecidableEq Key] in
theorem nodup_filterMap {Item : Type*} {key' : Item → Key}
    {f : Row → Option Item} (keeps : ∀ row item, f row = some item → key' item = key row)
    (unique : (rows.map key).Nodup) : ((rows.filterMap f).map key').Nodup := by
  rw [Nodup, pairwise_map] at unique ⊢
  refine List.Pairwise.filterMap f ?_ unique
  intro row row' other item hitem item' hitem'
  rw [keeps row item hitem, keeps row' item' hitem']
  exact other

theorem filter_key (unique : (rows.map key).Nodup) (k : Key) :
    (rows.filter fun row => key row = k) = (lookup key k rows).toList := by
  induction rows with
  | nil => simp
  | cons row rest ih =>
    obtain ⟨fresh, unique⟩ := nodup_cons.mp unique
    rw [filter_cons, lookup_cons, ih unique]
    by_cases hk : key row = k
    · simp [hk, lookup_of_not_mem (hk ▸ fresh)]
    · simp [hk]

theorem lookup_append (key : Row → Key) (k : Key) (rows added : List Row) :
    lookup key k (rows ++ added) = (lookup key k rows).or (lookup key k added) := by
  simp [lookup]

theorem lookup_eraseRow (key : Row → Key) (k k' : Key) (rows : List Row) :
    lookup key k' (eraseRow key k rows) = if k' = k then none else lookup key k' rows := by
  induction rows with
  | nil => simp [eraseRow]
  | cons row rest ih =>
    have hrest : lookup key k' (rest.filter fun row => key row ≠ k) =
        if k' = k then none else lookup key k' rest := ih
    by_cases hrow : key row = k
    · rw [eraseRow, filter_cons_of_neg (by simpa using hrow), hrest, lookup_cons]
      by_cases hk : k' = k
      · rw [if_pos hk, if_pos hk]
      · have hother : key row ≠ k' := fun heq => hk (heq.symm.trans hrow)
        rw [if_neg hk, if_neg hk, if_neg hother]
    · rw [eraseRow, filter_cons_of_pos (by simpa using hrow), lookup_cons, lookup_cons, hrest]
      by_cases hk : k' = k
      · have hother : key row ≠ k' := fun heq => hrow (heq.trans hk)
        rw [if_neg hother, if_pos hk, if_pos hk]
      · rw [if_neg hk, if_neg hk]

theorem lookup_insertRow (key : Row → Key) (row : Row) (k : Key) (rows : List Row) :
    lookup key k (insertRow key row rows) = if k = key row then some row else lookup key k rows := by
  have herase : lookup key k (rows.filter fun stored => key stored ≠ key row) =
      if k = key row then none else lookup key k rows := lookup_eraseRow key (key row) k rows
  rw [insertRow, lookup_append, herase, lookup_cons, lookup_nil]
  by_cases hk : k = key row
  · rw [if_pos hk, if_pos hk, if_pos hk.symm, Option.none_or]
  · rw [if_neg hk, if_neg hk, if_neg (Ne.symm hk), Option.or_none]

theorem nodup_eraseRow (k : Key)
    (unique : (rows.map key).Nodup) : ((eraseRow key k rows).map key).Nodup :=
  (filter_sublist.map key).nodup unique

theorem nodup_insertRow (row : Row)
    (unique : (rows.map key).Nodup) : ((insertRow key row rows).map key).Nodup := by
  unfold insertRow
  rw [map_append, nodup_append]
  refine ⟨nodup_eraseRow (key row) unique, by simp, ?_⟩
  intro stored member other last heq
  obtain ⟨kept, hkept, rfl⟩ := mem_map.mp member
  rw [map_singleton, mem_singleton] at last
  exact of_decide_eq_true (mem_filter.mp hkept).2 (heq.trans last)

end Hypeterm.Library
