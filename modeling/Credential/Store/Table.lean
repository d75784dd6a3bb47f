/-!
# Tables

Rows under distinct keys, in the order in which the keys came.  The view of a
table is `get?`: each operation is known by what it does to it.
-/

namespace Credential.Store

/-- Rows under distinct keys. -/
structure Table (Row : Type) where
  entries : List (String × Row)
  distinct : (entries.map Prod.fst).Nodup
  deriving Repr

namespace Table

variable {Row : Type}

/-- The table without rows. -/
def empty : Table Row :=
  ⟨[], List.nodup_nil⟩

instance : Inhabited (Table Row) :=
  ⟨empty⟩

/-- The row under a key. -/
def get? (table : Table Row) (key : String) : Option Row :=
  table.entries.lookup key

/-- Whether there is a row under a key. -/
def contains (table : Table Row) (key : String) : Bool :=
  (table.get? key).isSome

/-- The rows in order. -/
def rows (table : Table Row) : List Row :=
  table.entries.map Prod.snd

/-- The keys in order. -/
def keys (table : Table Row) : List String :=
  table.entries.map Prod.fst

/-- Change the row under a key in some entries, or add it at the end. -/
def put (key : String) (row : Row) : List (String × Row) → List (String × Row)
  | [] => [(key, row)]
  | entry :: rest =>
      if entry.1 = key then (key, row) :: rest else entry :: put key row rest

/-- A key is among the entries with a changed row if it is the changed one or was there. -/
theorem mem_map_fst_put
    {key other : String}
    {row : Row}
    {entries : List (String × Row)} :
    other ∈ (put key row entries).map Prod.fst ↔
      other = key ∨ other ∈ entries.map Prod.fst := by
  induction entries with
  | nil => simp [put]
  | cons entry rest inductionHypothesis =>
      by_cases same : entry.1 = key
      · subst same
        simp [put]
      · simp only [put, same, ↓reduceIte, List.map_cons, List.mem_cons, inductionHypothesis]
        grind

/-- Changing a row keeps keys distinct. -/
theorem nodup_map_fst_put
    {key : String}
    {row : Row}
    {entries : List (String × Row)}
    (distinct : (entries.map Prod.fst).Nodup) :
    ((put key row entries).map Prod.fst).Nodup := by
  induction entries with
  | nil => simp [put]
  | cons entry rest inductionHypothesis =>
      rw [List.map_cons, List.nodup_cons] at distinct
      by_cases same : entry.1 = key
      · subst same
        simpa [put] using distinct
      · rw [put, if_neg same, List.map_cons, List.nodup_cons, mem_map_fst_put, not_or]
        exact ⟨⟨same, distinct.1⟩, inductionHypothesis distinct.2⟩

/-- Put a row under a key, in the place of the one that is there. -/
def insert (table : Table Row) (key : String) (row : Row) : Table Row :=
  ⟨put key row table.entries, nodup_map_fst_put table.distinct⟩

/-- Remove the row under a key. -/
def erase (table : Table Row) (key : String) : Table Row :=
  ⟨table.entries.filter (·.1 ≠ key), (table.distinct.sublist (List.filter_sublist.map Prod.fst))⟩

/-- The row put under a key is found there. -/
@[simp] theorem get?_insert_self (table : Table Row) (key : String) (row : Row) :
    (table.insert key row).get? key = some row := by
  simp only [get?, insert]
  induction table.entries with
  | nil => simp [put]
  | cons entry rest inductionHypothesis =>
      obtain ⟨name, value⟩ := entry
      by_cases same : name = key
      · simp [put, same]
      · have differs : (key == name) = false := by simpa using Ne.symm same
        simp [put, same, List.lookup_cons, differs, inductionHypothesis]

/-- Putting a row under a key leaves the rows under other keys. -/
theorem get?_insert_of_ne
    {key other : String}
    (differs : other ≠ key)
    (table : Table Row)
    (row : Row) :
    (table.insert key row).get? other = table.get? other := by
  simp only [get?, insert]
  induction table.entries with
  | nil => simp [put, List.lookup_cons, show (other == key) = false by simpa using differs]
  | cons entry rest inductionHypothesis =>
      obtain ⟨name, value⟩ := entry
      by_cases same : name = key
      · simp [put, same, List.lookup_cons, show (other == key) = false by simpa using differs]
      · simp only [put, same, ↓reduceIte, List.lookup_cons]
        split
        · rfl
        · exact inductionHypothesis

/-- No row is under a key that has been removed. -/
@[simp] theorem get?_erase_self (table : Table Row) (key : String) :
    (table.erase key).get? key = none := by
  rw [get?, erase, List.lookup_eq_none_iff]
  intro entry member
  have kept : entry.1 ≠ key := by simpa using (List.mem_filter.mp member).2
  simpa using kept.symm

/-- Removing a key leaves the rows under other keys. -/
theorem get?_erase_of_ne
    {key other : String}
    (differs : other ≠ key)
    (table : Table Row) :
    (table.erase key).get? other = table.get? other := by
  simp only [get?, erase]
  induction table.entries with
  | nil => rfl
  | cons entry rest inductionHypothesis =>
      obtain ⟨name, value⟩ := entry
      by_cases same : name = key
      · simp only [same, ne_eq, not_true_eq_false, decide_false, Bool.false_eq_true,
          not_false_eq_true, List.filter_cons_of_neg, List.lookup_cons,
          show (other == key) = false by simpa using differs]
        simpa [same] using inductionHypothesis
      · simp only [ne_eq, same, not_false_eq_true, decide_true, List.filter_cons_of_pos,
          List.lookup_cons]
        split
        · rfl
        · simpa using inductionHypothesis

end Table

end Credential.Store
