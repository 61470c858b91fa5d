import ActionBoard.Dictionary
import Mathlib.Data.List.Nodup
import Mathlib.Data.List.Perm.Basic

/-!
# Entries in any order

A dictionary keeps its entries in the order of their keys.  Where entries come from outside, or are
written there, they may stand in any order, and this makes no difference as long as no key is given
twice: what is found under a key does not depend on where it stands (`lookupEntry_perm`), and the
entries make the same dictionary (`Dictionary.ofList_perm`).
-/

namespace ActionBoard

variable {β : Type} {key : String} {xs ys : List (String × β)}

theorem lookupEntry_eq_head? (key : String) (entries : List (String × β)) :
    lookupEntry key entries =
      (entries.filter fun entry => entry.1 == key).head?.map Prod.snd := by
  induction entries with
  | nil => rfl
  | cons entry rest ih =>
    obtain ⟨name, value⟩ := entry
    by_cases hname : name = key
    · simp [lookupEntry, hname]
    · simp [lookupEntry, hname, ih]

theorem lookupEntry_cons_self (name : String) (value : β) (entries : List (String × β)) :
    lookupEntry name ((name, value) :: entries) = some value := by
  rw [lookupEntry, if_pos rfl]

theorem lookupEntry_cons_of_ne {name other : String} (h : name ≠ other) (value : β)
    (entries : List (String × β)) :
    lookupEntry other ((name, value) :: entries) = lookupEntry other entries := by
  rw [lookupEntry, if_neg h]

/-- Lists of at most one item have no other order. -/
theorem eq_of_perm_of_length_le_one {α : Type} {as bs : List α} (h : as.Perm bs)
    (hlength : as.length ≤ 1) : as = bs := by
  match as, hlength with
  | [], _ => exact (List.nil_perm.mp h).symm
  | [a], _ => exact List.singleton_perm.mp h

/-- An entry whose key is given once is found wherever it stands. -/
theorem lookupEntry_perm (h : xs.Perm ys)
    (honce : (xs.filter fun entry => entry.1 == key).length ≤ 1) :
    lookupEntry key xs = lookupEntry key ys := by
  rw [lookupEntry_eq_head?, lookupEntry_eq_head?,
    eq_of_perm_of_length_le_one (h.filter _) honce]

/-- An entry whose key is given once is the one that is found. -/
theorem lookupEntry_of_mem {value : β} (hmem : (key, value) ∈ xs)
    (honce : (xs.filter fun entry => entry.1 == key).length ≤ 1) :
    lookupEntry key xs = some value := by
  have hfound : (key, value) ∈ xs.filter fun entry => entry.1 == key :=
    List.mem_filter.mpr ⟨hmem, beq_self_eq_true key⟩
  obtain ⟨entry, hentries⟩ := List.length_eq_one_iff.mp
    (Nat.le_antisymm honce (List.length_pos_of_mem hfound))
  rw [hentries, List.mem_singleton] at hfound
  rw [lookupEntry_eq_head?, hentries, ← hfound]
  rfl

/-- Where all keys are different, each is given at most once. -/
theorem length_filter_le_one (h : (xs.map Prod.fst).Nodup) (key : String) :
    (xs.filter fun entry => entry.1 == key).length ≤ 1 := by
  have hcount : (xs.filter fun entry => entry.1 == key).length =
      (xs.map Prod.fst).count key := by
    rw [List.count_eq_countP, List.countP_map, List.countP_eq_length_filter]
    rfl
  rw [hcount]
  exact List.nodup_iff_count_le_one.mp h key

namespace Dictionary

/-- The keys of a dictionary are different. -/
theorem nodup_keys (d : Dictionary β) : (d.toList.map Prod.fst).Nodup := by
  have hne : ∀ {a b : String × β}, a.1 < b.1 → a.1 ≠ b.1 := fun hless hsame =>
    String.lt_irrefl _ (hsame ▸ hless)
  exact List.pairwise_map.mpr (d.sorted.imp hne)

/-- Entries with different keys make the same dictionary in every order. -/
theorem ofList_perm (h : xs.Perm ys)
    (honce : ∀ key, (xs.filter fun entry => entry.1 == key).length ≤ 1) :
    ofList xs = ofList ys := by
  ext key : 1
  rw [find?_ofList, find?_ofList]
  refine lookupEntry_perm ?_ ?_
  · exact (List.reverse_perm xs).trans (h.trans (List.reverse_perm ys).symm)
  · rw [List.filter_reverse, List.length_reverse]
    exact honce key

/-- A dictionary is made of its entries in any order. -/
theorem ofList_of_perm {d : Dictionary β} (h : xs.Perm d.toList) : ofList xs = d := by
  have hnodup : (xs.map Prod.fst).Nodup := (h.map Prod.fst).nodup_iff.mpr d.nodup_keys
  rw [ofList_perm h (length_filter_le_one hnodup), ofList_toList]

end Dictionary

end ActionBoard
