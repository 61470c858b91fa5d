/-!
# Dictionaries in the order of their keys

Metadata, variables, records and tables are all looked up by name, and wherever one of them is shown
its names come in ascending order.  A dictionary is therefore a list of entries whose keys strictly
ascend.  Since the order fixes the list, two dictionaries with the same look-ups are equal
(`Dictionary.ext_find?`), so statements about them need not mention the list at all.

The operations on entries walk the list once and are characterised without assuming it sorted
(`lookup_insertEntry_self`, `lookup_insertEntry_of_ne`); order matters only for `Dictionary.insert`
being well defined (`sorted_insertEntry`) and for extensionality.
-/

namespace ActionBoard

universe u

/-! ## Lists of entries -/

/-- The value under the first entry with the key. -/
def lookupEntry {β : Type u} (key : String) : List (String × β) → Option β
  | [] => none
  | (k, v) :: rest => if k = key then some v else lookupEntry key rest

/-- The entry put in its place, over an entry with the same key. -/
def insertEntry {β : Type u} (key : String) (value : β) : List (String × β) → List (String × β)
  | [] => [(key, value)]
  | (k, v) :: rest =>
    if key < k then (key, value) :: (k, v) :: rest
    else if key = k then (key, value) :: rest
    else (k, v) :: insertEntry key value rest

/-- The keys strictly ascend. -/
abbrev SortedEntries {β : Type u} (entries : List (String × β)) : Prop :=
  entries.Pairwise fun a b => a.1 < b.1

theorem mem_insertEntry {β : Type u} {key : String} {value : β} {entry : String × β} :
    ∀ {entries : List (String × β)}, entry ∈ insertEntry key value entries →
      entry = (key, value) ∨ entry ∈ entries
  | [], h => by simpa [insertEntry] using h
  | (k, v) :: rest, h => by
    rw [insertEntry] at h
    split at h
    · simpa using h
    · split at h
      · rcases List.mem_cons.1 h with rfl | h
        · exact .inl rfl
        · exact .inr (List.mem_cons_of_mem _ h)
      · rcases List.mem_cons.1 h with rfl | h
        · exact .inr List.mem_cons_self
        · exact (mem_insertEntry h).imp id (List.mem_cons_of_mem _)

theorem sorted_insertEntry {β : Type u} (key : String) (value : β) :
    ∀ {entries : List (String × β)}, SortedEntries entries →
      SortedEntries (insertEntry key value entries)
  | [], _ => by simp [insertEntry]
  | (k, v) :: rest, h => by
    have headLess := (List.pairwise_cons.1 h).1
    have tailSorted := (List.pairwise_cons.1 h).2
    rw [insertEntry]
    split
    · rename_i less
      refine List.pairwise_cons.2 ⟨fun entry member => ?_, h⟩
      rcases List.mem_cons.1 member with rfl | member
      · exact less
      · exact String.lt_trans less (headLess entry member)
    · split
      · rename_i same
        subst same
        exact List.pairwise_cons.2 ⟨headLess, tailSorted⟩
      · rename_i notLess notSame
        refine List.pairwise_cons.2
          ⟨fun entry member => ?_, sorted_insertEntry key value tailSorted⟩
        rcases mem_insertEntry member with rfl | member
        · rcases Std.le_iff_lt_or_eq.1 (String.not_lt.1 notLess) with less | same
          · exact less
          · exact absurd same.symm notSame
        · exact headLess entry member

theorem lookup_insertEntry_self {β : Type u} (key : String) (value : β) :
    ∀ entries : List (String × β), lookupEntry key (insertEntry key value entries) = some value
  | [] => by simp [insertEntry, lookupEntry]
  | (k, v) :: rest => by
    rw [insertEntry]
    split
    · simp [lookupEntry]
    · split
      · simp [lookupEntry]
      · rename_i notSame
        simp [lookupEntry, Ne.symm notSame, lookup_insertEntry_self key value rest]

theorem lookup_insertEntry_of_ne {β : Type u} {key other : String} (value : β) (h : other ≠ key) :
    ∀ entries : List (String × β),
      lookupEntry other (insertEntry key value entries) = lookupEntry other entries
  | [] => by simp [insertEntry, lookupEntry, h.symm]
  | (k, v) :: rest => by
    rw [insertEntry]
    split
    · simp [lookupEntry, h.symm]
    · split
      · rename_i same
        subst same
        simp [lookupEntry, h.symm]
      · simp only [lookupEntry, lookup_insertEntry_of_ne value h rest]

theorem lookupEntry_append {β : Type u} (key : String) (xs ys : List (String × β)) :
    lookupEntry key (xs ++ ys) = (lookupEntry key xs).or (lookupEntry key ys) := by
  induction xs with
  | nil => rfl
  | cons entry rest ih =>
    rw [List.cons_append, lookupEntry, lookupEntry]
    split
    · rfl
    · exact ih

/-- A key behind all others is put at the end. -/
theorem insertEntry_of_forall_lt {β : Type u} {key : String} (value : β)
    {entries : List (String × β)}
    (h : ∀ entry ∈ entries, entry.1 < key) : insertEntry key value entries =
      entries ++ [(key, value)] := by
  induction entries with
  | nil => rfl
  | cons first rest ih =>
    have less : first.1 < key := h first List.mem_cons_self
    have notLess : ¬ key < first.1 := fun more => String.lt_irrefl key (String.lt_trans more less)
    have notSame : key ≠ first.1 := fun same => String.lt_irrefl key (same ▸ less)
    rw [insertEntry, if_neg notLess, if_neg notSame,
      ih fun entry member => h entry (List.mem_cons_of_mem _ member)]
    rfl

theorem lookupEntry_eq_none_of_lt {β : Type u} {key : String} {entries : List (String × β)}
    (h : ∀ entry ∈ entries, key < entry.1) : lookupEntry key entries = none := by
  induction entries with
  | nil => rfl
  | cons entry rest ih =>
    have ne : entry.1 ≠ key := fun same =>
      String.lt_irrefl key (same ▸ h entry List.mem_cons_self)
    simp only [lookupEntry, ne, if_false]
    exact ih fun e member => h e (List.mem_cons_of_mem _ member)

theorem mem_of_lookupEntry {β : Type u} {key : String} {value : β} {entries : List (String × β)}
    (h : lookupEntry key entries = some value) : (key, value) ∈ entries := by
  induction entries with
  | nil => cases h
  | cons entry rest ih =>
    obtain ⟨k, v⟩ := entry
    rw [lookupEntry] at h
    split at h
    case isTrue same =>
      cases h
      exact same ▸ List.mem_cons_self
    case isFalse => exact List.mem_cons_of_mem _ (ih h)

theorem ne_of_lookupEntry_eq_none {β : Type u} {key : String} {entries : List (String × β)}
    (h : lookupEntry key entries = none) : ∀ entry ∈ entries, key ≠ entry.1 := by
  induction entries with
  | nil => exact fun _ member => nomatch member
  | cons first rest ih =>
    rw [lookupEntry] at h
    split at h
    · cases h
    · rename_i ne
      intro entry member
      rcases List.mem_cons.1 member with rfl | member
      · exact Ne.symm ne
      · exact ih h entry member

theorem eq_of_lookupEntry_eq {β : Type u} :
    ∀ {xs ys : List (String × β)}, SortedEntries xs → SortedEntries ys →
      (∀ key, lookupEntry key xs = lookupEntry key ys) → xs = ys
  | [], [], _, _, _ => rfl
  | [], (k, v) :: ys, _, _, h => by simpa [lookupEntry] using h k
  | (k, v) :: xs, [], _, _, h => by simpa [lookupEntry] using h k
  | (k, v) :: xs, (l, w) :: ys, hx, hy, h => by
    have kLess := (List.pairwise_cons.1 hx).1
    have lLess := (List.pairwise_cons.1 hy).1
    have same : k = l := by
      by_cases less : k < l
      · have absent : lookupEntry k ((l, w) :: ys) = none := by
          refine lookupEntry_eq_none_of_lt fun entry member => ?_
          rcases List.mem_cons.1 member with rfl | member
          · exact less
          · exact String.lt_trans less (lLess entry member)
        have present := h k
        rw [absent] at present
        simp [lookupEntry] at present
      · by_cases more : l < k
        · have absent : lookupEntry l ((k, v) :: xs) = none := by
            refine lookupEntry_eq_none_of_lt fun entry member => ?_
            rcases List.mem_cons.1 member with rfl | member
            · exact more
            · exact String.lt_trans more (kLess entry member)
          have present := h l
          rw [absent] at present
          simp [lookupEntry] at present
        · exact String.le_antisymm (String.not_lt.1 more) (String.not_lt.1 less)
    subst same
    have value : v = w := by simpa [lookupEntry] using h k
    subst value
    have tails : xs = ys := by
      refine eq_of_lookupEntry_eq (List.pairwise_cons.1 hx).2 (List.pairwise_cons.1 hy).2 ?_
      intro key
      by_cases e : k = key
      · subst e
        rw [lookupEntry_eq_none_of_lt kLess, lookupEntry_eq_none_of_lt lLess]
      · simpa [lookupEntry, e] using h key
    rw [tails]

/-! ## Dictionaries -/

/-- Entries in strictly ascending order of their keys. -/
structure Dictionary (β : Type u) where
  entries : List (String × β)
  sorted : SortedEntries entries

namespace Dictionary

variable {β : Type u} {γ : Type u}

instance [DecidableEq β] : DecidableEq (Dictionary β) := fun a b =>
  decidable_of_iff (a.entries = b.entries) (by cases a; cases b; simp)

/-- The dictionary without entries. -/
def empty : Dictionary β :=
  ⟨[], List.Pairwise.nil⟩

instance : EmptyCollection (Dictionary β) := ⟨empty⟩

instance : Inhabited (Dictionary β) := ⟨empty⟩

def find? (d : Dictionary β) (key : String) : Option β :=
  lookupEntry key d.entries

/-- The dictionary with the value under the key, whatever was there before. -/
def insert (d : Dictionary β) (key : String) (value : β) : Dictionary β :=
  ⟨insertEntry key value d.entries, sorted_insertEntry key value d.sorted⟩

/-- All entries put in one after the other, so that the last one under a key stays. -/
def insertAll (d : Dictionary β) (entries : List (String × β)) : Dictionary β :=
  entries.foldl (fun d entry => d.insert entry.1 entry.2) d

/-- The dictionary of some entries; the last one under a key stays. -/
def ofList (entries : List (String × β)) : Dictionary β :=
  empty.insertAll entries

/-- The entries in the order of their keys. -/
def toList (d : Dictionary β) : List (String × β) :=
  d.entries

def keys (d : Dictionary β) : List String :=
  d.entries.map Prod.fst

def isEmpty (d : Dictionary β) : Bool :=
  d.entries.isEmpty

/-- The same keys with other values. -/
def map (f : β → γ) (d : Dictionary β) : Dictionary γ :=
  ⟨d.entries.map fun entry => (entry.1, f entry.2), List.Pairwise.map _ (fun _ _ h => h) d.sorted⟩

@[ext] theorem ext_find? {a b : Dictionary β} (h : ∀ key, a.find? key = b.find? key) : a = b := by
  cases a with
  | mk xs hx =>
    cases b with
    | mk ys hy =>
      have same : xs = ys := eq_of_lookupEntry_eq hx hy h
      subst same
      rfl

theorem mem_insertAll {entry : String × β} :
    ∀ {entries : List (String × β)} {d : Dictionary β},
      entry ∈ (d.insertAll entries).entries → entry ∈ d.entries ∨ entry ∈ entries
  | [], _, h => .inl h
  | (k, v) :: rest, d, h => by
    have later : entry ∈ (d.insert k v).entries ∨ entry ∈ rest := mem_insertAll h
    rcases later with h | h
    · rcases mem_insertEntry h with rfl | h
      · exact .inr List.mem_cons_self
      · exact .inl h
    · exact .inr (List.mem_cons_of_mem _ h)

/-- Every entry of the dictionary of some entries is one of them. -/
theorem mem_ofList {entry : String × β} {entries : List (String × β)}
    (h : entry ∈ (ofList entries).entries) : entry ∈ entries :=
  (mem_insertAll h).resolve_left List.not_mem_nil

/-- Entries whose keys come behind those of the dictionary stay in their order. -/
theorem entries_insertAll_of_sorted {d : Dictionary β} {entries : List (String × β)}
    (h : SortedEntries (d.entries ++ entries)) : (d.insertAll entries).entries =
      d.entries ++ entries := by
  induction entries generalizing d with
  | nil => exact (List.append_nil d.entries).symm
  | cons entry rest ih =>
    have less : ∀ earlier ∈ d.entries, earlier.1 < entry.1 := fun earlier member =>
      (List.pairwise_append.1 h).2.2 earlier member entry List.mem_cons_self
    have last : (d.insert entry.1 entry.2).entries = d.entries ++ [entry] :=
      insertEntry_of_forall_lt entry.2 less
    have sorted : SortedEntries ((d.insert entry.1 entry.2).entries ++ rest) := by
      rwa [last, List.append_assoc, List.singleton_append]
    show ((d.insert entry.1 entry.2).insertAll rest).entries = _
    rw [ih sorted, last, List.append_assoc, List.singleton_append]

theorem entries_ofList_of_sorted {entries : List (String × β)} (h : SortedEntries entries) :
    (ofList entries).entries = entries :=
  entries_insertAll_of_sorted (d := empty) h

/-- A dictionary is the dictionary of its entries. -/
theorem ofList_toList (d : Dictionary β) : ofList d.toList = d :=
  ext_find? fun key => by rw [find?, toList, entries_ofList_of_sorted d.sorted, find?]

@[simp] theorem find?_empty (key : String) : (empty : Dictionary β).find? key = none := rfl

@[simp] theorem find?_insert_self (d : Dictionary β) (key : String) (value : β) :
    (d.insert key value).find? key = some value :=
  lookup_insertEntry_self key value d.entries

theorem find?_insert_of_ne (d : Dictionary β) {key other : String} (value : β) (h : other ≠ key) :
    (d.insert key value).find? other = d.find? other :=
  lookup_insertEntry_of_ne value h d.entries

/-- Only entries under a key change what is found under it. -/
theorem find?_insertAll_of_ne {key : String} {entries : List (String × β)}
    (h : ∀ entry ∈ entries, key ≠ entry.1)
    (d : Dictionary β) : (d.insertAll entries).find? key = d.find? key := by
  induction entries generalizing d with
  | nil => rfl
  | cons entry rest ih =>
    show ((d.insert entry.1 entry.2).insertAll rest).find? key = _
    rw [ih fun e he => h e (List.mem_cons_of_mem entry he)]
    exact find?_insert_of_ne d entry.2 (h entry List.mem_cons_self)

/-- Of the entries that were put in, the last one under a key is found. -/
theorem find?_insertAll (d : Dictionary β) (entries : List (String × β)) (key : String) :
    (d.insertAll entries).find? key = (lookupEntry key entries.reverse).or (d.find? key) := by
  induction entries generalizing d with
  | nil => rfl
  | cons entry rest ih =>
    show ((d.insert entry.1 entry.2).insertAll rest).find? key = _
    rw [ih, List.reverse_cons, lookupEntry_append, Option.or_assoc, lookupEntry]
    split
    · rename_i same
      rw [← same, find?_insert_self, Option.some_or]
    · rename_i ne
      rw [find?_insert_of_ne d entry.2 (Ne.symm ne)]
      rfl

theorem find?_ofList (entries : List (String × β)) (key : String) :
    (ofList entries).find? key = lookupEntry key entries.reverse := by
  rw [ofList, find?_insertAll, find?_empty, Option.or_none]

/-- A dictionary put into another one covers what is found there. -/
theorem find?_insertAll_toList (d other : Dictionary β) (key : String) :
    (d.insertAll other.toList).find? key = (other.find? key).or (d.find? key) := by
  rw [find?_insertAll, ← find?_ofList, ofList_toList]

/-- No entry is under a key under which nothing is found. -/
theorem ne_of_find?_eq_none {d : Dictionary β} {key : String} (h : d.find? key = none) :
    ∀ entry ∈ d.toList, key ≠ entry.1 :=
  ne_of_lookupEntry_eq_none h

end Dictionary

end ActionBoard
