import ActionBoard.Json.Typed
import ActionBoard.Proofs.Dictionary

/-!
# Typed data that is read as it is written

Numbers of a fixed size, lists, options and records are read back from the trees that they are
written as.  An object whose members have different names is read field by field, each field by its
name (`Fields.ofJson?_object`).
-/

namespace ActionBoard

namespace Fields

theorem occurrences_le_one {name : String} {members : List (String × Json)}
    (h : (members.map Prod.fst).Nodup) : occurrences name members ≤ 1 := by
  exact length_filter_le_one h name

theorem occurrences_cons_self (name : String) (json : Json) (members : List (String × Json)) :
    occurrences name ((name, json) :: members) = occurrences name members + 1 := by
  simp [occurrences]

theorem occurrences_cons_of_ne {name other : String} (h : name ≠ other) (json : Json)
    (members : List (String × Json)) :
    occurrences other ((name, json) :: members) = occurrences other members := by
  simp [occurrences, h]

theorem occurrences_append (name : String) (members others : List (String × Json)) :
    occurrences name (members ++ others) = occurrences name members + occurrences name others := by
  rw [occurrences, List.filter_append, List.length_append, occurrences, occurrences]

theorem occurrences_perm {members members' : List (String × Json)} (h : members.Perm members')
    (name : String) : occurrences name members = occurrences name members' :=
  (h.filter fun member : String × Json => member.1 == name).length_eq

/-- The fields of an object. -/
def ofMembers (members : List (String × Json)) : Fields where
  find? name := lookupEntry name members

/-- Just where no name that is asked for is given twice, every field is the member of its name. -/
theorem ofJson?_object_eq_some_iff {names : List String} {members : List (String × Json)}
    {fields : Fields} :
    ofJson? names (.object members) = some fields ↔
      (∀ name ∈ names, occurrences name members ≤ 1) ∧ fields = ofMembers members := by
  have honce : (names.any fun name => decide (1 < occurrences name members)) = true ↔
      ¬∀ name ∈ names, occurrences name members ≤ 1 := by
    simp
  rw [ofJson?]
  split
  case isTrue h => simp [honce.mp h]
  case isFalse h =>
    have hall := not_not.mp (mt honce.mpr h)
    rw [and_iff_right hall, Option.some.injEq, ofMembers, eq_comm]

theorem ofJson?_eq_none_of_not_once {names : List String} {members : List (String × Json)}
    (h : ¬∀ name ∈ names, occurrences name members ≤ 1) : ofJson? names (.object members) = none :=
  Option.eq_none_iff_forall_ne_some.mpr fun _ hfields => h (ofJson?_object_eq_some_iff.mp hfields).1

theorem ofJson?_of_once {names : List String} {members : List (String × Json)}
    (h : ∀ name ∈ names, occurrences name members ≤ 1) :
    ofJson? names (.object members) = some (ofMembers members) :=
  ofJson?_object_eq_some_iff.mpr ⟨h, rfl⟩

/-- In an object in which no name is given twice, every field is the member of its name. -/
theorem ofJson?_object {names : List String} {members : List (String × Json)}
    (h : (members.map Prod.fst).Nodup) :
    ofJson? names (.object members) = some (ofMembers members) :=
  ofJson?_of_once fun _ _ => occurrences_le_one h

variable {α : Type} {members : List (String × Json)} {name : String} {json : Json}
  {read : Json → Option α} {value : α}

theorem required_ofMembers (name : String) (read : Json → Option α) :
    (ofMembers members).required name read = (lookupEntry name members).bind read :=
  rfl

theorem withDefault_ofMembers (name : String) (read : Json → Option α) (missing : α) :
    (ofMembers members).withDefault name read missing =
      ((lookupEntry name members).map read).getD (some missing) := by
  have hfind : (ofMembers members).find? name = lookupEntry name members := rfl
  rw [withDefault, hfind]
  cases lookupEntry name members <;> rfl

theorem required_eq_some (hfield : lookupEntry name members = some json)
    (hread : read json = some value) : (ofMembers members).required name read = some value := by
  rw [required_ofMembers, hfield, Option.bind_some, hread]

theorem withDefault_eq_some (hfield : lookupEntry name members = some json)
    (hread : read json = some value)
    (missing : α) : (ofMembers members).withDefault name read missing = some value := by
  rw [withDefault_ofMembers, hfield, Option.map_some, Option.getD_some, hread]

/-- A field that is left out has its default. -/
theorem withDefault_of_missing (hfield : lookupEntry name members = none) (read : Json → Option α)
    (missing : α) : (ofMembers members).withDefault name read missing = some missing := by
  rw [withDefault_ofMembers, hfield, Option.map_none, Option.getD_none]

end Fields

namespace Json

theorem string?_string (s : String) : string? (.string s) = some s := rfl

theorem bool?_bool (b : Bool) : bool? (.bool b) = some b := rfl

theorem natBelow?_ofWord {bound : Nat} {n : UInt64} (h : n.toNat < bound) :
    natBelow? bound (.int (.ofWord n)) = some n.toNat := by
  simp [natBelow?, int?, Json.int, WideInt.ofWord, h]

theorem word64?_ofWord (n : UInt64) : word64? (.int (.ofWord n)) = some n := by
  rw [word64?, natBelow?_ofWord n.toNat_lt]
  simp

theorem natBelow?_nat {bound n : Nat} (h : n < bound) (hbound : bound ≤ UInt64.size) :
    natBelow? bound (.nat n) = some n := by
  have hword : (UInt64.ofNat n).toNat = n := UInt64.toNat_ofNat_of_lt (Nat.lt_of_lt_of_le h hbound)
  have hread := @natBelow?_ofWord bound (UInt64.ofNat n) (by rwa [hword])
  rwa [hword] at hread

theorem word32?_nat (n : UInt32) : word32? (.nat n.toNat) = some n := by
  rw [word32?, natBelow?_nat n.toNat_lt (by decide)]
  simp

theorem word8?_nat (n : UInt8) : word8? (.nat n.toNat) = some n := by
  rw [word8?, natBelow?_nat n.toNat_lt (by decide)]
  simp

theorem int32?_ofInt32 (n : Int32) : int32? (.int (.ofInt32 n)) = some n := by
  have hlow := n.le_toInt
  have hhigh := n.toInt_lt
  have hbounds : (decide (-0x80000000 ≤ n.toInt) && decide (n.toInt < 0x80000000)) = true := by
    simp only [Bool.and_eq_true, decide_eq_true_eq]
    omega
  have hint : int? (.int (.ofInt32 n)) = some n.toInt := rfl
  rw [int32?, hint, Option.bind_some, hbounds, if_pos rfl, Int32.ofInt_toInt]

variable {α : Type} {read : Json → Option α} {write : α → Json}

/-- Where nothing is written as null, null is nothing. -/
theorem orNull_elim (hread : ∀ a, read (write a) = some a) (hnull : ∀ a, write a ≠ .null)
    (value : Option α) : orNull read (value.elim .null write) = some value := by
  cases value with
  | none => rfl
  | some a =>
    rw [Option.elim_some, orNull, hread a]
    · rfl
    · exact hnull a

theorem mapM_map {β γ : Type} {read : β → Option γ} {write : γ → β} {values : List γ}
    (hread : ∀ a ∈ values, read (write a) = some a) : (values.map write).mapM read =
      some values := by
  induction values with
  | nil => rfl
  | cons a values ih =>
    have hrest := ih fun b hb => hread b (List.mem_cons_of_mem a hb)
    rw [List.map_cons, List.mapM_cons, hread a List.mem_cons_self, hrest]
    rfl

/-- A record is read back from its entries, in whatever order they are written. -/
theorem record?_object {record : Record} {entries : List (String × Value)}
    (h : entries.Perm record.toList) :
    record? (.object (entries.map fun entry => (entry.1, entry.2.json))) = some record := by
  have hentries : ((entries.map fun entry => (entry.1, entry.2.json)).mapM fun member =>
      (some (Value.ofJson member.2)).map (member.1, ·)) = some entries :=
    mapM_map fun entry _ => by rw [Value.ofJson_json, Option.map_some]
  rw [record?, dictionary?, hentries, Option.map_some, Dictionary.ofList_of_perm h]

end Json

end ActionBoard
