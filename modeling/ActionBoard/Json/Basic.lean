import ActionBoard.Dictionary
import ActionBoard.Number.Binary64

/-!
# JSON trees and values

Two types stand for JSON.  A `Json` is a tree as somebody wrote it: the members of an object keep
their order, and a name may occur twice.  Readers of typed data work on it, because they refuse a
field that is given twice.  A `Value` is what a variable, a metadata entry or the cell of a record
holds: there an object is a set of names with one value each, so the tree is in its canonical form,
with the names of every object strictly ascending.

Numbers are whole numbers of 64 bits, with or without sign, or binary64 numbers.  The two kinds
never mix: `1` and `1.0` are different values with different texts.
-/

namespace ActionBoard

/-! ## Numbers -/

/-- A whole number that fits in 64 bits, with or without a sign. -/
structure WideInt where
  val : Int
  least : -0x8000000000000000 ≤ val
  below : val < 0x10000000000000000
  deriving DecidableEq

namespace WideInt

def ofInt? (n : Int) : Option WideInt :=
  if h : -0x8000000000000000 ≤ n ∧ n < 0x10000000000000000 then some ⟨n, h.1, h.2⟩ else none

/-- A word of 64 bits. -/
def ofWord (n : UInt64) : WideInt :=
  ⟨n.toNat, by have := n.toNat_lt; omega, by have := n.toNat_lt; omega⟩

/-- A number of 32 bits with a sign. -/
def ofInt32 (n : Int32) : WideInt :=
  ⟨n.toInt, by have := n.le_toInt; omega, by have := n.toInt_lt; omega⟩

/-- A natural number, reduced to 64 bits. -/
def ofNat (n : Nat) : WideInt :=
  ofWord (UInt64.ofNat n)

end WideInt

inductive JsonNumber where
  | int (n : WideInt)
  | float (x : Binary64)
  deriving DecidableEq

namespace JsonNumber

/-- Whether two numbers are the same: of one kind, and equal as numbers of that kind. -/
def same : JsonNumber → JsonNumber → Bool
  | .int m, .int n => m == n
  | .float x, .float y => x.sameNumber y
  | _, _ => false

/-- The number as a binary64 number, rounded. -/
def toBinary64 : JsonNumber → Binary64
  | .int n => .ofInt n.val
  | .float x => x

end JsonNumber

/-! ## Trees -/

/-- A JSON text as a tree. -/
inductive Json where
  | null
  | bool (b : Bool)
  | number (n : JsonNumber)
  | string (s : String)
  | array (items : List Json)
  | object (members : List (String × Json))
  deriving Inhabited

namespace Json

def int (n : WideInt) : Json :=
  .number (.int n)

/-- A natural number, reduced to 64 bits. -/
def nat (n : Nat) : Json :=
  int (.ofNat n)

/-- A list of texts. -/
def strings (texts : List String) : Json :=
  .array (texts.map .string)

/-- A text, or null for none. -/
def stringOrNull (text : Option String) : Json :=
  text.elim .null .string

/-- The value of a member of an object; the first one, if there are several. -/
def member? (name : String) : Json → Option Json
  | .object members => lookupEntry name members
  | _ => none

mutual

/-- Whether in every object of the tree the names strictly ascend. -/
def isCanonical : Json → Bool
  | .array items => allCanonical items
  | .object members => decide (SortedEntries members) && membersCanonical members
  | _ => true

def allCanonical : List Json → Bool
  | [] => true
  | item :: items => item.isCanonical && allCanonical items

def membersCanonical : List (String × Json) → Bool
  | [] => true
  | (_, value) :: members => value.isCanonical && membersCanonical members

end

mutual

/-- The tree with the members of every object in order; of several members of one name the last one
stays. -/
def canonicalize : Json → Json
  | .array items => .array (canonicalizeAll items)
  | .object members => .object (Dictionary.ofList (canonicalizeMembers members)).entries
  | json => json

def canonicalizeAll : List Json → List Json
  | [] => []
  | item :: items => item.canonicalize :: canonicalizeAll items

def canonicalizeMembers : List (String × Json) → List (String × Json)
  | [] => []
  | (name, value) :: members => (name, value.canonicalize) :: canonicalizeMembers members

end

mutual

/-- Whether two trees are the same, with the two floating zeros taken as one number. -/
def same : Json → Json → Bool
  | .null, .null => true
  | .bool a, .bool b => a == b
  | .number m, .number n => m.same n
  | .string s, .string t => s == t
  | .array xs, .array ys => sameAll xs ys
  | .object xs, .object ys => sameMembers xs ys
  | _, _ => false

def sameAll : List Json → List Json → Bool
  | [], [] => true
  | x :: xs, y :: ys => x.same y && sameAll xs ys
  | _, _ => false

def sameMembers : List (String × Json) → List (String × Json) → Bool
  | [], [] => true
  | (k, x) :: xs, (l, y) :: ys => k == l && x.same y && sameMembers xs ys
  | _, _ => false

end

/-! ### Canonical form -/

theorem allCanonical_iff {items : List Json} :
    allCanonical items = true ↔ ∀ item ∈ items, item.isCanonical = true := by
  induction items with
  | nil => simp [allCanonical]
  | cons item items ih => simp [allCanonical, ih]

theorem membersCanonical_iff {members : List (String × Json)} :
    membersCanonical members = true ↔ ∀ member ∈ members, member.2.isCanonical = true := by
  induction members with
  | nil => simp [membersCanonical]
  | cons member members ih =>
    obtain ⟨name, value⟩ := member
    simp [membersCanonical, ih]

mutual

theorem isCanonical_canonicalize : ∀ json : Json, json.canonicalize.isCanonical = true
  | .null | .bool _ | .number _ | .string _ => rfl
  | .array items => by
    rw [canonicalize, isCanonical]
    exact allCanonical_iff.2 (isCanonical_of_mem_canonicalizeAll items)
  | .object members => by
    rw [canonicalize, isCanonical, Bool.and_eq_true]
    refine ⟨decide_eq_true (Dictionary.ofList _).sorted, membersCanonical_iff.2 ?_⟩
    exact fun member h =>
      isCanonical_of_mem_canonicalizeMembers members member (Dictionary.mem_ofList h)

theorem isCanonical_of_mem_canonicalizeAll :
    ∀ (items : List Json), ∀ item ∈ canonicalizeAll items, item.isCanonical = true
  | [], _, h => by simp [canonicalizeAll] at h
  | first :: items, item, h => by
    rw [canonicalizeAll] at h
    rcases List.mem_cons.1 h with rfl | h
    · exact isCanonical_canonicalize first
    · exact isCanonical_of_mem_canonicalizeAll items item h

theorem isCanonical_of_mem_canonicalizeMembers :
    ∀ (members : List (String × Json)), ∀ member ∈ canonicalizeMembers members,
      member.2.isCanonical = true
  | [], _, h => by simp [canonicalizeMembers] at h
  | (name, value) :: members, member, h => by
    rw [canonicalizeMembers] at h
    rcases List.mem_cons.1 h with rfl | h
    · exact isCanonical_canonicalize value
    · exact isCanonical_of_mem_canonicalizeMembers members member h

end

mutual

/-- A canonical tree is its own canonical form. -/
theorem canonicalize_of_isCanonical : ∀ {json : Json}, json.isCanonical = true →
    json.canonicalize = json
  | .null, _ | .bool _, _ | .number _, _ | .string _, _ => rfl
  | .array items, h => by
    rw [canonicalize, canonicalizeAll_of_canonical h]
  | .object members, h => by
    rw [isCanonical, Bool.and_eq_true] at h
    rw [canonicalize, canonicalizeMembers_of_canonical h.2,
      Dictionary.entries_ofList_of_sorted (of_decide_eq_true h.1)]

theorem canonicalizeAll_of_canonical : ∀ {items : List Json}, allCanonical items = true →
    canonicalizeAll items = items
  | [], _ => rfl
  | item :: items, h => by
    rw [allCanonical, Bool.and_eq_true] at h
    rw [canonicalizeAll, canonicalize_of_isCanonical h.1, canonicalizeAll_of_canonical h.2]

theorem canonicalizeMembers_of_canonical :
    ∀ {members : List (String × Json)}, membersCanonical members = true →
      canonicalizeMembers members = members
  | [], _ => rfl
  | (name, value) :: members, h => by
    rw [membersCanonical, Bool.and_eq_true] at h
    rw [canonicalizeMembers, canonicalize_of_isCanonical h.1, canonicalizeMembers_of_canonical h.2]

end

end Json

/-! ## Values -/

/-- A JSON tree in canonical form. -/
structure Value where
  json : Json
  canonical : json.isCanonical = true

namespace Value

/-- The value that a tree stands for. -/
def ofJson (json : Json) : Value :=
  ⟨json.canonicalize, Json.isCanonical_canonicalize json⟩

/-- A value is what its tree stands for. -/
theorem ofJson_json (v : Value) : ofJson v.json = v := by
  cases v with
  | mk json canonical => simp only [ofJson, Json.canonicalize_of_isCanonical canonical]

def null : Value := ⟨.null, rfl⟩

instance : Inhabited Value := ⟨null⟩

def bool (b : Bool) : Value := ⟨.bool b, rfl⟩

def int (n : WideInt) : Value := ⟨.int n, rfl⟩

/-- A word of 64 bits. -/
def word (n : UInt64) : Value := int (.ofWord n)

/-- A natural number, reduced to 64 bits. -/
def nat (n : Nat) : Value := int (.ofNat n)

def string (s : String) : Value := ⟨.string s, rfl⟩

/-- The object with the entries of a dictionary. -/
def object (d : Dictionary Value) : Value :=
  ⟨.object (d.map Value.json).entries, by
    rw [Json.isCanonical, Bool.and_eq_true]
    refine ⟨decide_eq_true (d.map Value.json).sorted, Json.membersCanonical_iff.2 ?_⟩
    intro member h
    obtain ⟨entry, _, rfl⟩ := List.mem_map.1 h
    exact entry.2.canonical⟩

/-- The entries of a value that is an object. -/
def fields? (v : Value) : Option (Dictionary Value) :=
  match h : v.json with
  | .object members =>
    have canonical : SortedEntries members ∧ ∀ member ∈ members, member.2.isCanonical = true := by
      have whole := v.canonical
      rw [h, Json.isCanonical, Bool.and_eq_true] at whole
      exact ⟨of_decide_eq_true whole.1, Json.membersCanonical_iff.1 whole.2⟩
    some
      ⟨members.pmap (fun member c => (member.1, ⟨member.2, c⟩)) canonical.2,
        canonical.1.pmap canonical.2 fun _ _ _ _ less => less⟩
  | _ => none

def isNull (v : Value) : Bool :=
  v.json matches .null

/-- Whether two values are the same, with the two floating zeros taken as one number. -/
def same (v w : Value) : Bool :=
  v.json.same w.json

end Value

/-- A record of a table, and whatever else maps names to values. -/
abbrev Record := Dictionary Value

end ActionBoard
