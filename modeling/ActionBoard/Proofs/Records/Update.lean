import ActionBoard.Records.Store

/-!
# Updating and searching agree

A table is searched and updated by two passes over its records that know nothing of each other.
Both compare the trimmed text of a cell, and both stop at the first record that matches; so the
record that an update changes is the one that a search would have found.  Whatever else is in the
store is left as it is.

* `FirstMatch`: the records in front of the first one that matches, this one, and those behind it.
  It is what `Table.search_eq_some_iff` says of a search, and all that `updateRecords_of_firstMatch`
  needs to know for an update.
* `RecordStore.updateFirst_of_search`, `RecordStore.updateFirst_of_search_eq_none`: what an update
  does to a store, by what a search in the same store finds.
* `RecordStore.update_agrees_with_search`: both together, with everything that stays the same.
-/

namespace ActionBoard

variable {column value target : String} {new : Value} {record : Record}
  {records earlier later : List Record}

namespace Table

/-- The records come apart into those that do not match, the first one that does, and the rest. -/
structure FirstMatch (column value : String) (records earlier : List Record) (record : Record)
    (later : List Record) : Prop where
  split : records = earlier ++ record :: later
  unmatched : ∀ r ∈ earlier, cellMatches r column value = false
  matched : cellMatches record column value = true

/-- Searching finds the first record that matches. -/
theorem search_eq_some_iff {table : Table} :
    table.search column value = some record ↔
      ∃ earlier later, FirstMatch column value table.data earlier record later := by
  rw [search, List.find?_eq_some_iff_append]
  constructor
  · rintro ⟨hmatched, earlier, later, hsplit, hearlier⟩
    exact ⟨earlier, later, hsplit, fun r hr => by simpa using hearlier r hr, hmatched⟩
  · rintro ⟨earlier, later, hsplit, hearlier, hmatched⟩
    exact ⟨hmatched, earlier, later, hsplit, fun r hr => by simp [hearlier r hr]⟩

theorem search_eq_none_iff {table : Table} :
    table.search column value = none ↔ ∀ r ∈ table.data, cellMatches r column value = false := by
  simp [search]

/-- Updating sets the cell in the first record that matches, and keeps the others in their
places. -/
theorem updateRecords_of_firstMatch (h : FirstMatch column value records earlier record later) :
    updateRecords column value target new records =
      earlier ++ record.insert target new :: later := by
  obtain ⟨rfl, hearlier, hmatched⟩ := h
  induction earlier with
  | nil => rw [List.nil_append, updateRecords, if_pos hmatched, List.nil_append]
  | cons r rest ih =>
    have hr : cellMatches r column value = false := hearlier r List.mem_cons_self
    rw [List.cons_append, updateRecords, hr, if_neg Bool.false_ne_true,
      ih fun s hs => hearlier s (List.mem_cons_of_mem r hs), List.cons_append]

theorem updateFirst_of_firstMatch {table : Table}
    (h : FirstMatch column value table.data earlier record later) :
    table.updateFirst column value target new =
      (true, { table with data := earlier ++ record.insert target new :: later }) := by
  have hfound : (table.data.any fun r => cellMatches r column value) = true :=
    List.any_eq_true.mpr ⟨record, by simp [h.split], h.matched⟩
  rw [updateFirst, hfound, updateRecords_of_firstMatch h]

theorem updateFirst_of_unmatched {table : Table}
    (h : ∀ r ∈ table.data, cellMatches r column value = false) :
    table.updateFirst column value target new = (false, table) := by
  have hfound : (table.data.any fun r => cellMatches r column value) = false := by
    simpa using h
  rw [updateFirst, hfound, updateRecords_of_none h]

end Table

namespace RecordStore

variable {store : RecordStore} {name : String}

/-- A search in a store is a search in one of its tables. -/
theorem search_eq_some_iff :
    store.search name column value = some record ↔
      ∃ table earlier later, store.find? name = some table ∧
        Table.FirstMatch column value table.data earlier record later := by
  rw [search, Option.bind_eq_some_iff]
  simp only [Table.search_eq_some_iff, exists_and_left]

/-- **An update changes the record that a search finds.** -/
theorem updateFirst_of_search {table : Table} (htable : store.find? name = some table)
    (h : Table.FirstMatch column value table.data earlier record later) :
    store.updateFirst name column value target new =
      (true, store.insert name { table with data := earlier ++ record.insert target new ::
        later }) := by
  rw [updateFirst, htable]
  simp only [Table.updateFirst_of_firstMatch h, if_pos]

/-- **Where a search finds nothing, an update changes nothing**, be it for want of a record
or of the table. -/
theorem updateFirst_of_search_eq_none (h : store.search name column value = none) :
    store.updateFirst name column value target new = (false, store) := by
  rw [search] at h
  rw [updateFirst]
  cases htable : store.find? name with
  | none => rfl
  | some table =>
    rw [htable, Option.bind_some, Table.search_eq_none_iff] at h
    simp only [Table.updateFirst_of_unmatched h, Bool.false_eq_true, if_false]

/-- **Updating and searching agree**, in every store, whatever was put into it and updated before.
An update succeeds if and only if a search with the same arguments finds a record, and otherwise
leaves the store as it is.  If one is found, then it is the first one in its table that matches; the
table keeps its columns, the number and the order of its records, and all records but this one.  Of
this record one cell is another.  All other tables are the same. -/
theorem update_agrees_with_search (store : RecordStore) (name column value target : String)
    (new : Value) :
    let updated := store.updateFirst name column value target new
    (updated.1 = true ↔ ∃ record, store.search name column value = some record) ∧
      (updated.1 = false → updated.2 = store) ∧
      ∀ record, store.search name column value = some record →
        ∃ columns earlier later changed,
          store.find? name = some ⟨columns, earlier ++ record :: later⟩ ∧
          updated.2.find? name = some ⟨columns, earlier ++ changed :: later⟩ ∧
          (∀ r ∈ earlier, Table.cellMatches r column value = false) ∧
            Table.cellMatches record column value = true ∧
          changed.find? target = some new ∧
          (∀ other, other ≠ target → changed.find? other = record.find? other) ∧
          ∀ other, other ≠ name → updated.2.find? other = store.find? other := by
  intro updated
  cases hsearch : store.search name column value with
  | none =>
    have hupdated : updated = (false, store) := updateFirst_of_search_eq_none hsearch
    simp [hupdated]
  | some found =>
    obtain ⟨⟨columns, records⟩, earlier, later, htable, hfirst⟩ := search_eq_some_iff.mp hsearch
    have hupdated : updated =
        (true, store.insert name ⟨columns, earlier ++ found.insert target new :: later⟩) :=
      updateFirst_of_search htable hfirst
    obtain ⟨rfl, hunmatched, hmatched⟩ := hfirst
    rw [hupdated]
    refine ⟨⟨fun _ => ⟨found, rfl⟩, fun _ => rfl⟩, Bool.noConfusion, ?_⟩
    rintro record ⟨⟩
    refine ⟨columns, earlier, later, found.insert target new, htable,
      Dictionary.find?_insert_self .., hunmatched,
      hmatched, Dictionary.find?_insert_self .., ?_, ?_⟩
    · exact fun other hother => Dictionary.find?_insert_of_ne found new hother
    · exact fun other hother => Dictionary.find?_insert_of_ne store _ hother

/-- A record with nothing but a name. -/
def alice : Record :=
  Dictionary.empty.insert "name" (.string "alice")

def bob : Record :=
  (Dictionary.empty.insert "name" (.string "bob")).insert "code" (.nat 7)

def carol : Record :=
  (Dictionary.empty.insert "name" (.string "carol")).insert "code" (.string " 7 ")

/-- Two tables; in the first one two records match, one by a number and one by a text
with white space. -/
def twoTables : RecordStore :=
  (Dictionary.empty.insert "people" ⟨["name", "code"], [alice, bob, carol]⟩).insert "places"
    ⟨["code"], [carol]⟩

/-- Of two records that match, the first one is found and gets a cell it did not have. -/
theorem update_agrees_with_search_of_repeated :
    let updated := twoTables.updateFirst "people" "code" "7 " "seen" (.string "yes")
    twoTables.search "people" "code" "7 " = some bob ∧ updated.1 = true ∧
      ∃ columns earlier later changed,
        twoTables.find? "people" = some ⟨columns, earlier ++ bob :: later⟩ ∧
        updated.2.find? "people" = some ⟨columns, earlier ++ changed :: later⟩ ∧
        changed.find? "seen" = some (.string "yes") ∧ changed.find? "code" = bob.find? "code" := by
  intro updated
  have hfirst : Table.FirstMatch "code" "7 " [alice, bob, carol] [alice] bob [carol] :=
    ⟨rfl, List.forall_mem_singleton.mpr (by decide +kernel), by decide +kernel⟩
  have htable : twoTables.find? "people" = some ⟨["name", "code"], [alice, bob, carol]⟩ :=
    (Dictionary.find?_insert_of_ne _ _ (by decide)).trans (Dictionary.find?_insert_self ..)
  have hsearch : twoTables.search "people" "code" "7 " = some bob :=
    search_eq_some_iff.mpr ⟨_, _, _, htable, hfirst⟩
  obtain ⟨hsucceeds, -, hchanges⟩ :=
    update_agrees_with_search twoTables "people" "code" "7 " "seen" (.string "yes")
  obtain ⟨columns, earlier, later, changed, hbefore, hafter, -, -, hnew, hothers, -⟩ :=
    hchanges bob hsearch
  exact ⟨hsearch, hsucceeds.mpr ⟨bob, hsearch⟩, columns, earlier, later, changed,
    hbefore, hafter, hnew,
    hothers "code" (by decide)⟩

end RecordStore

end ActionBoard
