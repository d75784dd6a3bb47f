import Credential.Error
import Credential.Store.Table
import Mathlib.Data.List.Forall2
import Mathlib.Data.List.Nodup
import Mathlib.Logic.Function.Basic

/-!
# Tables and what they show

A table shows a view when every row reads as the record that the view has under
the row's key.  Operations on the table are then operations on the view, in
whatever order the rows stand.
-/

namespace Credential.Store.Table

variable {Row Record : Type}

/-! ## Rows -/

/-- The entries of a table are its keys with their rows. -/
theorem mem_entries_iff
    {table : Table Row}
    {key : String}
    {row : Row} :
    (key, row) ∈ table.entries ↔ table.get? key = some row := by
  rcases table with ⟨entries, distinct⟩
  rw [get?]
  dsimp only
  induction entries with
  | nil => simp
  | cons entry rest inductionHypothesis =>
      obtain ⟨first, firstRow⟩ := entry
      rw [List.map_cons, List.nodup_cons] at distinct
      rw [List.mem_cons, inductionHypothesis distinct.2, List.lookup_cons]
      by_cases same : key = first
      · subst same
        have others : rest.lookup key = none := by
          rw [List.lookup_eq_none_iff]
          intro entry member
          have differs : entry.1 ≠ key := by
            rintro rfl
            exact distinct.1 (List.mem_map.mpr ⟨entry, member, rfl⟩)
          simpa using differs.symm
        simp [others, eq_comm]
      · have differs : (key == first) = false := by simpa using same
        simp [same, differs]

/-- Tables have the same rows under the same keys if their entries differ in their order only. -/
theorem perm_entries_iff
    {first second : Table Row} :
    first.entries.Perm second.entries ↔ ∀ key, first.get? key = second.get? key := by
  rw [List.perm_ext_iff_of_nodup first.distinct.of_map second.distinct.of_map]
  constructor
  · intro same key
    ext row
    rw [← mem_entries_iff, ← mem_entries_iff, same]
  · rintro same ⟨key, row⟩
    rw [mem_entries_iff, mem_entries_iff, same]

/-- A row of a table is under some key. -/
theorem mem_rows_iff
    {table : Table Row}
    {row : Row} :
    row ∈ table.rows ↔ ∃ key, table.get? key = some row := by
  rw [rows, List.mem_map]
  constructor
  · rintro ⟨⟨key, _⟩, member, rfl⟩
    exact ⟨key, mem_entries_iff.mp member⟩
  · rintro ⟨key, found⟩
    exact ⟨(key, row), mem_entries_iff.mpr found, rfl⟩

/-- A key of a table has a row. -/
theorem mem_keys_iff
    {table : Table Row}
    {key : String} :
    key ∈ table.keys ↔ table.get? key ≠ none := by
  rw [keys, List.mem_map, Option.ne_none_iff_exists']
  constructor
  · rintro ⟨⟨_, row⟩, member, rfl⟩
    exact ⟨row, mem_entries_iff.mp member⟩
  · rintro ⟨row, found⟩
    exact ⟨(key, row), mem_entries_iff.mpr found, rfl⟩

/-- One comparison sorts two rows. -/
theorem mergeSort_pair (ordered : Row → Row → Bool) (first second : Row) :
    [first, second].mergeSort ordered =
      if ordered first second then [first, second] else [second, first] := by
  simp [List.mergeSort, List.MergeSort.Internal.splitInTwo, List.merge]

/-- Rows that have been sorted stand in some order of their keys. -/
theorem exists_keys_mergeSort
    (table : Table Row)
    (ordered : Row → Row → Bool) :
    ∃ keys : List String,
      keys.Perm table.keys ∧ keys.map table.get? = (table.rows.mergeSort ordered).map some := by
  let sorted := table.entries.mergeSort fun first second => ordered first.2 second.2
  have permuted : sorted.Perm table.entries := List.mergeSort_perm _ _
  have sortedRows : sorted.map Prod.snd = table.rows.mergeSort ordered :=
    List.map_mergeSort fun _ _ _ _ => rfl
  refine ⟨sorted.map Prod.fst, permuted.map Prod.fst, ?_⟩
  rw [← sortedRows, List.map_map, List.map_map]
  apply List.map_congr_left
  rintro ⟨key, row⟩ member
  exact mem_entries_iff.mp (permuted.mem_iff.mp member)

/-- The row under a key after a row has been put somewhere. -/
theorem get?_insert (table : Table Row) (key other : String) (row : Row) :
    (table.insert key row).get? other = if other = key then some row else table.get? other := by
  split
  case isTrue same => rw [same, get?_insert_self]
  case isFalse differs => exact get?_insert_of_ne differs table row

/-- The row under a key after one has been removed somewhere. -/
theorem get?_erase (table : Table Row) (key other : String) :
    (table.erase key).get? other = if other = key then none else table.get? other := by
  split
  case isTrue same => rw [same, get?_erase_self]
  case isFalse differs => exact get?_erase_of_ne differs table

/-- Putting a row where it is already changes nothing. -/
theorem insert_eq_self
    {table : Table Row}
    {key : String}
    {row : Row}
    (present : table.get? key = some row) :
    table.insert key row = table := by
  have entries : ∀ {entries : List (String × Row)},
      entries.lookup key = some row → put key row entries = entries := by
    intro entries found
    induction entries with
    | nil => simp at found
    | cons entry rest inductionHypothesis =>
        obtain ⟨first, firstRow⟩ := entry
        rw [List.lookup_cons] at found
        by_cases same : first = key
        · subst same
          simp at found
          simp [put, found]
        · have differs : (key == first) = false := by simpa using Ne.symm same
          rw [differs] at found
          simp [put, same, inductionHypothesis found]
  rcases table with ⟨list, distinct⟩
  rw [insert]
  congr
  exact entries present

/-- Of two rows put under one key, the later one stays. -/
theorem insert_insert (table : Table Row) (key : String) (first second : Row) :
    (table.insert key first).insert key second = table.insert key second := by
  have entries (entries : List (String × Row)) :
      put key second (put key first entries) = put key second entries := by
    induction entries with
    | nil => simp [put]
    | cons entry rest inductionHypothesis =>
        by_cases same : entry.1 = key
        · simp [put, same]
        · simp [put, same, inductionHypothesis]
  simp only [insert, entries]

/-- Removing a key that has no row changes nothing. -/
theorem erase_eq_self
    {table : Table Row}
    {key : String}
    (absent : table.get? key = none) :
    table.erase key = table := by
  have kept : ∀ entry ∈ table.entries, decide (entry.1 ≠ key) = true := by
    rintro ⟨first, row⟩ member
    rw [decide_eq_true_eq]
    rintro rfl
    rw [mem_entries_iff.mp member] at absent
    exact Option.some_ne_none row absent
  rcases table with ⟨list, distinct⟩
  rw [erase]
  congr
  exact List.filter_eq_self.mpr kept

/-! ## Views -/

/-- Whether the rows of a table hold the records of a view. -/
def Shows
    (table : Table Row)
    (holds : Row → Record → Prop)
    (view : String → Option Record) : Prop :=
  ∀ key, Option.Rel holds (table.get? key) (view key)

namespace Shows

variable {table : Table Row} {holds : Row → Record → Prop} {view : String → Option Record}

/-- A table without rows shows nothing. -/
theorem empty : (Table.empty : Table Row).Shows holds fun _ => none :=
  fun _ => Option.Rel.none

/-- A row of the table holds the record of the view. -/
theorem of_get?
    (showing : table.Shows holds view)
    {key : String}
    {row : Row}
    (found : table.get? key = some row) :
    ∃ record, view key = some record ∧ holds row record := by
  have related := showing key
  rw [found] at related
  cases shape : view key with
  | none =>
      rw [shape] at related
      cases related
  | some record =>
      rw [shape] at related
      cases related with
      | some held => exact ⟨record, rfl, held⟩

/-- A record of the view is held by some row of the table. -/
theorem of_view
    (showing : table.Shows holds view)
    {key : String}
    {record : Record}
    (present : view key = some record) :
    ∃ row, table.get? key = some row ∧ holds row record := by
  have related := showing key
  rw [present] at related
  cases shape : table.get? key with
  | none =>
      rw [shape] at related
      cases related
  | some row =>
      rw [shape] at related
      cases related with
      | some held => exact ⟨row, rfl, held⟩

/-- A key that the view has no record for has no row. -/
theorem get?_eq_none
    (showing : table.Shows holds view)
    {key : String}
    (absent : view key = none) :
    table.get? key = none := by
  cases found : table.get? key with
  | none => rfl
  | some row =>
      obtain ⟨record, present, _⟩ := showing.of_get? found
      rw [absent] at present
      cases present

/-- The table has a row for a key if the view has a record. -/
theorem contains_eq
    (showing : table.Shows holds view)
    (key : String) :
    table.contains key = (view key).isSome := by
  rw [contains]
  cases present : view key with
  | none => rw [showing.get?_eq_none present]; rfl
  | some record =>
      obtain ⟨row, found, _⟩ := showing.of_view present
      rw [found]
      rfl

/-- Putting a row that holds a record puts the record into the view. -/
theorem insert
    (showing : table.Shows holds view)
    (key : String)
    {row : Row}
    {record : Record}
    (held : holds row record) :
    (table.insert key row).Shows holds (Function.update view key (some record)) := by
  intro other
  rw [get?_insert, Function.update_apply]
  split
  case isTrue same => exact Option.Rel.some held
  case isFalse differs => exact showing other

/-- Removing a key removes its record from the view. -/
theorem erase
    (showing : table.Shows holds view)
    (key : String) :
    (table.erase key).Shows holds (Function.update view key none) := by
  intro other
  rw [get?_erase, Function.update_apply]
  split
  case isTrue same => exact Option.Rel.none
  case isFalse differs => exact showing other

/-- Some row passes a test if some record passes the same one. -/
theorem any_rows_iff
    (showing : table.Shows holds view)
    {test : Row → Bool}
    {accepts : Record → Prop}
    (agrees : ∀ row record, holds row record → (test row = true ↔ accepts record)) :
    table.rows.any test = true ↔ ∃ key record, view key = some record ∧ accepts record := by
  rw [List.any_eq_true]
  constructor
  · rintro ⟨row, member, passes⟩
    obtain ⟨key, found⟩ := mem_rows_iff.mp member
    obtain ⟨record, present, held⟩ := showing.of_get? found
    exact ⟨key, record, present, (agrees row record held).mp passes⟩
  · rintro ⟨key, record, present, accepted⟩
    obtain ⟨row, found, held⟩ := showing.of_view present
    exact ⟨row, mem_rows_iff.mpr ⟨key, found⟩, (agrees row record held).mpr accepted⟩

end Shows

/-! ## Finds -/

/-- Whether a result is a record of a view that a test accepts, or says that there is none. -/
def Finds
    (view : String → Option Record)
    (accepts : Record → Prop)
    (missing : Error)
    (result : Except Error Record) :
    Prop :=
  (∃ key record, view key = some record ∧ accepts record ∧ result = .ok record) ∨
    (∀ key record, view key = some record → ¬ accepts record) ∧ result = .error missing

/-- Looking for a row and reading it finds a record of the view. -/
theorem Shows.finds
    {table : Table Row}
    {holds : Row → Record → Prop}
    {view : String → Option Record}
    {read : Row → Except Error Record}
    {test : Row → Bool}
    {accepts : Record → Prop}
    (showing : table.Shows holds view)
    (reads : ∀ row record, holds row record → read row = .ok record)
    (agrees : ∀ row record, holds row record → (test row = true ↔ accepts record))
    (missing : Error) :
    Finds view accepts missing
      (match table.rows.find? test with
        | none => .error missing
        | some row => read row) := by
  cases found : table.rows.find? test with
  | none =>
      refine Or.inr ⟨fun key record present accepted => ?_, rfl⟩
      obtain ⟨row, inTable, held⟩ := showing.of_view present
      exact List.find?_eq_none.mp found row (mem_rows_iff.mpr ⟨key, inTable⟩)
        ((agrees row record held).mpr accepted)
  | some row =>
      obtain ⟨key, inTable⟩ := mem_rows_iff.mp (List.mem_of_find?_eq_some found)
      obtain ⟨record, present, held⟩ := showing.of_get? inTable
      exact Or.inl ⟨key, record, present, (agrees row record held).mp (List.find?_some found),
        reads row record held⟩

/-- What is found is determined if no two records are accepted. -/
theorem Finds.eq_of_unique
    {view : String → Option Record}
    {accepts : Record → Prop}
    {missing : Error}
    {first second : Except Error Record}
    (unique : ∀ firstKey secondKey firstRecord secondRecord,
      view firstKey = some firstRecord → view secondKey = some secondRecord →
        accepts firstRecord → accepts secondRecord → firstKey = secondKey)
    (firstFinds : Finds view accepts missing first)
    (secondFinds : Finds view accepts missing second) :
    first = second := by
  rcases firstFinds with ⟨firstKey, firstRecord, firstPresent, firstAccepted, rfl⟩ | ⟨none, rfl⟩
  · rcases secondFinds with
      ⟨secondKey, secondRecord, secondPresent, secondAccepted, rfl⟩ | ⟨none, rfl⟩
    · obtain rfl :=
        unique firstKey secondKey _ _ firstPresent secondPresent firstAccepted secondAccepted
      rw [Option.some.inj (firstPresent.symm.trans secondPresent)]
    · exact (none firstKey firstRecord firstPresent firstAccepted).elim
  · rcases secondFinds with ⟨secondKey, secondRecord, secondPresent, secondAccepted, rfl⟩ | ⟨_, rfl⟩
    · exact (none secondKey secondRecord secondPresent secondAccepted).elim
    · rfl

/-- What is found of records that are changed is what is found, changed. -/
theorem Finds.map
    {view : String → Option Record}
    {accepts : Record → Prop}
    {missing : Error}
    {result : Except Error Record}
    (finds : Finds view accepts missing result)
    {change : Record → Record}
    (agrees : ∀ record, accepts (change record) ↔ accepts record) :
    Finds (fun key => (view key).map change) accepts missing (result.map change) := by
  rcases finds with ⟨key, record, present, accepted, rfl⟩ | ⟨none, rfl⟩
  · exact Or.inl
      ⟨key, change record, congrArg (Option.map change) present, (agrees record).mpr accepted, rfl⟩
  · refine Or.inr ⟨fun key changed present accepted => ?_, rfl⟩
    obtain ⟨record, stored, rfl⟩ := Option.map_eq_some_iff.mp present
    exact none key record stored ((agrees record).mp accepted)

/-! ## Listings -/

/-- Whether a list holds the records of a view, each of them exactly once. -/
def Lists (view : String → Option Record) (records : List Record) : Prop :=
  ∃ keys : List String,
    keys.Nodup ∧ (∀ key, key ∈ keys ↔ view key ≠ none) ∧ keys.map view = records.map some

/-- A listed record is under some key. -/
theorem Lists.exists_key
    {view : String → Option Record}
    {records : List Record}
    (lists : Lists view records)
    {record : Record}
    (member : record ∈ records) :
    ∃ key, view key = some record := by
  obtain ⟨keys, _, _, keyRecords⟩ := lists
  have inMap : some record ∈ keys.map view := by
    rw [keyRecords]
    exact List.mem_map_of_mem member
  obtain ⟨key, _, present⟩ := List.mem_map.mp inMap
  exact ⟨key, present⟩

/-- The record of a key is listed in one place; those before and after it are of other keys. -/
theorem Lists.exists_split
    {view : String → Option Record}
    {records : List Record}
    (lists : Lists view records)
    {key : String}
    {record : Record}
    (present : view key = some record) :
    ∃ before after, records = before ++ record :: after ∧
      ∀ other ∈ before ++ after, ∃ otherKey, otherKey ≠ key ∧ view otherKey = some other := by
  obtain ⟨keys, nodup, member, keyRecords⟩ := lists
  have isKey : key ∈ keys := by
    rw [member, present]
    exact Option.some_ne_none record
  obtain ⟨keysBefore, keysAfter, rfl⟩ := List.append_of_mem isKey
  rw [List.map_append, List.map_cons, present] at keyRecords
  obtain ⟨before, rest, rfl, beforeRecords, restRecords⟩ :=
    List.map_eq_append_iff.mp keyRecords.symm
  obtain ⟨found, after, rfl, isFound, afterRecords⟩ := List.map_eq_cons_iff.mp restRecords
  obtain rfl := Option.some.inj isFound
  refine ⟨before, after, rfl, fun other among => ?_⟩
  have inMap : some other ∈ (keysBefore ++ keysAfter).map view := by
    rw [List.map_append, ← beforeRecords, ← afterRecords, ← List.map_append]
    exact List.mem_map_of_mem among
  obtain ⟨otherKey, isOther, otherPresent⟩ := List.mem_map.mp inMap
  refine ⟨otherKey, ?_, otherPresent⟩
  rintro rfl
  exact (List.nodup_middle.mp nodup).notMem isOther

/-- Lists of the records of one view differ in their order only. -/
theorem Lists.perm
    {view : String → Option Record}
    {first second : List Record}
    (firstLists : Lists view first)
    (secondLists : Lists view second) :
    first.Perm second := by
  obtain ⟨firstKeys, firstNodup, firstMember, firstRecords⟩ := firstLists
  obtain ⟨secondKeys, secondNodup, secondMember, secondRecords⟩ := secondLists
  have keys : firstKeys.Perm secondKeys := by
    rw [List.perm_ext_iff_of_nodup firstNodup secondNodup]
    intro key
    rw [firstMember, secondMember]
  have records : (first.map some).Perm (second.map some) := by
    rw [← firstRecords, ← secondRecords]
    exact keys.map view
  simpa using records.filterMap id

/-- Records that are changed are listed as they were. -/
theorem Lists.map
    {view : String → Option Record}
    {records : List Record}
    (lists : Lists view records)
    (change : Record → Record) :
    Lists (fun key => (view key).map change) (records.map change) := by
  obtain ⟨keys, nodup, member, keyRecords⟩ := lists
  refine ⟨keys, nodup, fun key => ?_, ?_⟩
  · rw [member, ne_eq, ne_eq, Option.map_eq_none_iff]
  · have changed := congrArg (List.map (Option.map change)) keyRecords
    rw [List.map_map, List.map_map] at changed
    rw [List.map_map]
    exact changed

/-- The records under keys whose rows are in a list stand beside those rows. -/
theorem Shows.exists_records
    {table : Table Row}
    {holds : Row → Record → Prop}
    {view : String → Option Record}
    (showing : table.Shows holds view)
    {keys : List String}
    {rows : List Row}
    (keyRows : keys.map table.get? = rows.map some) :
    ∃ records, List.Forall₂ holds rows records ∧ keys.map view = records.map some := by
  induction keys generalizing rows with
  | nil =>
      rw [List.map_nil, List.nil_eq, List.map_eq_nil_iff] at keyRows
      subst keyRows
      exact ⟨[], List.Forall₂.nil, rfl⟩
  | cons key keys inductionHypothesis =>
      cases rows with
      | nil => cases keyRows
      | cons row rows =>
          rw [List.map_cons, List.map_cons, List.cons.injEq] at keyRows
          obtain ⟨record, present, held⟩ := showing.of_get? keyRows.1
          obtain ⟨records, related, keyRecords⟩ := inductionHypothesis keyRows.2
          exact ⟨record :: records, List.Forall₂.cons held related,
            by rw [List.map_cons, List.map_cons, present, keyRecords]⟩

/-- The sorted rows of a table hold a list of the records of the view. -/
theorem Shows.lists
    {table : Table Row}
    {holds : Row → Record → Prop}
    {view : String → Option Record}
    (showing : table.Shows holds view)
    (ordered : Row → Row → Bool) :
    ∃ records,
      List.Forall₂ holds (table.rows.mergeSort ordered) records ∧ Lists view records := by
  obtain ⟨keys, permuted, keyRows⟩ := table.exists_keys_mergeSort ordered
  obtain ⟨records, related, keyRecords⟩ := showing.exists_records keyRows
  refine ⟨records, related, keys, permuted.nodup_iff.mpr table.distinct, ?_, keyRecords⟩
  intro key
  rw [permuted.mem_iff, mem_keys_iff, ne_eq, ne_eq, not_iff_not]
  have related := showing key
  generalize table.get? key = row at related
  generalize view key = record at related
  cases related <;> simp

/-- Reading the rows of a list gives the records that they hold. -/
theorem mapM_eq_ok
    {holds : Row → Record → Prop}
    {read : Row → Except Error Record}
    (reads : ∀ row record, holds row record → read row = .ok record)
    {rows : List Row}
    {records : List Record}
    (related : List.Forall₂ holds rows records) :
    rows.mapM read = .ok records := by
  induction related with
  | nil => rfl
  | cons held _ inductionHypothesis =>
      rw [List.mapM_cons, reads _ _ held, inductionHypothesis]
      rfl

/-- Every record is held by a row that stands beside it. -/
theorem exists_row_of_mem
    {holds : Row → Record → Prop}
    {rows : List Row}
    {records : List Record}
    (related : List.Forall₂ holds rows records)
    {record : Record}
    (member : record ∈ records) :
    ∃ row ∈ rows, holds row record := by
  induction related with
  | nil => cases member
  | cons held _ inductionHypothesis =>
      rcases List.mem_cons.mp member with rfl | later
      · exact ⟨_, List.mem_cons_self, held⟩
      · obtain ⟨row, rowMember, rowHeld⟩ := inductionHypothesis later
        exact ⟨row, List.mem_cons_of_mem _ rowMember, rowHeld⟩

/-- What holds of any two rows in order holds of the rows of any two records in order. -/
theorem pairwise_of_forall₂
    {holds : Row → Record → Prop}
    {ordered : Row → Row → Prop}
    {rows : List Row}
    {records : List Record}
    (related : List.Forall₂ holds rows records)
    (sorted : rows.Pairwise ordered) :
    records.Pairwise fun first second =>
      ∃ firstRow secondRow,
        holds firstRow first ∧ holds secondRow second ∧ ordered firstRow secondRow := by
  induction related with
  | nil => exact List.Pairwise.nil
  | cons held others inductionHypothesis =>
      rw [List.pairwise_cons] at sorted ⊢
      refine ⟨fun other member => ?_, inductionHypothesis sorted.2⟩
      obtain ⟨otherRow, rowMember, otherHeld⟩ := exists_row_of_mem others member
      exact ⟨_, otherRow, held, otherHeld, sorted.1 otherRow rowMember⟩

end Credential.Store.Table
