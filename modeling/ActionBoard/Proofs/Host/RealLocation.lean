import ActionBoard.Host.FileTree
import Mathlib.Tactic.SplitIfs

/-!
# Real locations

Following a path gives a location on whose way there is no link any more (`FileTree.IsReal`).  The
path that one reads off such a location leads back to it, whatever directory one is in.  For a
location that was merely spelled, by following the parts of a path as if there were no links, this
holds only if there are none.

* `FileTree.isReal_locate`: what is located is real.
* `FileTree.eq_of_locate_path`: the path of a location leads there if no link stands in the way.

The induction is on the parts of a path and, around that, on the number of links that are still
followed; a link puts the parts of its target in front of those that are left.
-/

namespace ActionBoard

namespace Location

/-- What something in a directory can be called. -/
structure IsName (name : String) : Prop where
  ne_empty : name.toList ≠ []
  ne_dot : name.toList ≠ ['.']
  ne_dots : name.toList ≠ ['.', '.']
  noSlash : '/' ∉ name.toList

/-- Every step on the way from the root has a name. -/
def IsNamed (location : Location) : Prop :=
  ∀ name ∈ location, IsName name

theorem isNamed_nil : IsNamed [] := fun _ h => nomatch h

theorem IsNamed.dropLast {location : Location} (h : location.IsNamed) : IsNamed location.dropLast :=
  fun name hn => h name (List.dropLast_subset location hn)

theorem IsNamed.append {location other : Location} (h : location.IsNamed) (ho : other.IsNamed) :
    IsNamed (location ++ other) := by
  intro name hn
  rcases List.mem_append.mp hn with hn | hn
  · exact h name hn
  · exact ho name hn

/-- A part that is neither empty nor dots is a name. -/
theorem isName_ofList {part : List Char} (hslash : '/' ∉ part)
    (hdot : (part.isEmpty || part == ['.']) = false)
    (hdots : (part == ['.', '.']) = false) : IsName (String.ofList part) := by
  simp only [Bool.or_eq_false_iff, List.isEmpty_eq_false_iff, beq_eq_false_iff_ne] at hdot hdots
  constructor <;> rw [String.toList_ofList]
  · exact hdot.1
  · exact hdot.2
  · exact hdots
  · exact hslash

theorem IsNamed.step {location : Location} {part : List Char} (h : location.IsNamed)
    (hslash : '/' ∉ part) : (location.step part).IsNamed := by
  rw [Location.step]
  split
  · exact h
  · rename_i hdot
    split
    · exact h.dropLast
    · rename_i hdots
      refine h.append fun name hn => ?_
      rw [List.mem_singleton.mp hn]
      exact isName_ofList hslash (Bool.eq_false_iff.mpr hdot) (Bool.eq_false_iff.mpr hdots)

/-- What a path spells is named, if that holds of where it begins. -/
theorem IsNamed.follow {start : Location} (h : start.IsNamed) (path : String) :
    (Location.follow start path).IsNamed := by
  have hfold : ∀ (parts : List (List Char)) (location : Location), (∀ part ∈ parts, '/' ∉ part) →
      location.IsNamed → (parts.foldl Location.step location).IsNamed := by
    intro parts
    induction parts with
    | nil => exact fun _ _ h => h
    | cons part rest ih =>
      intro location hparts hl
      exact ih _ (fun p hp => hparts p (List.mem_cons_of_mem _ hp))
        (hl.step (hparts part List.mem_cons_self))
  refine hfold _ _ (fun part => Text.notMem_of_mem_splitAt) ?_
  split
  · exact isNamed_nil
  · exact h

/-- The parts of the path to a location: nothing before the first slash, and then the names. -/
theorem parts_path {location : Location} (h : location.IsNamed) (hne : location ≠ []) :
    Path.parts location.path = [] :: location.map String.toList := by
  have hjoin : location.path.toList = ['/'].intercalate ([] :: location.map String.toList) := by
    obtain ⟨first, rest, rfl⟩ := List.exists_cons_of_ne_nil hne
    simp [Location.path, String.toList_intercalate]
  rw [Path.parts, hjoin]
  refine Text.splitAt_intercalate (List.cons_ne_nil _ _) ?_
  intro part hpart
  rcases List.mem_cons.mp hpart with rfl | hpart
  · exact List.not_mem_nil
  · obtain ⟨name, hname, rfl⟩ := List.mem_map.mp hpart
    exact (h name hname).noSlash

end Location

namespace FileTree

variable {tree : FileTree} {location real : Location}

def isLinkAt (tree : FileTree) (location : Location) : Bool :=
  (tree.node? location) matches some (.link _)

/-- A location with names only and without a link on the way or at its end. -/
structure IsReal (tree : FileTree) (location : Location) : Prop where
  named : location.IsNamed
  noLink : ∀ place, place <+: location → tree.isLinkAt place = false

namespace IsReal

theorem root (tree : FileTree) : tree.IsReal [] := by
  refine ⟨Location.isNamed_nil, fun place hp => ?_⟩
  rw [List.prefix_nil.mp hp]
  rfl

theorem dropLast (h : tree.IsReal location) : tree.IsReal location.dropLast :=
  ⟨h.named.dropLast, fun place hp => h.noLink place (hp.trans (List.dropLast_prefix location))⟩

theorem append {name : String} (h : tree.IsReal location) (hname : Location.IsName name)
    (hlink : tree.isLinkAt (location ++ [name]) = false) : tree.IsReal (location ++ [name]) := by
  refine ⟨h.named.append fun n hn => List.mem_singleton.mp hn ▸ hname, fun place hp => ?_⟩
  rcases List.prefix_concat_iff.mp hp with rfl | hp
  · exact hlink
  · exact h.noLink place hp

theorem step {part : List Char} (h : tree.IsReal location) (hslash : '/' ∉ part)
    (hlink : tree.isLinkAt (location.step part) = false) : tree.IsReal (location.step part) := by
  refine ⟨h.named.step hslash, ?_⟩
  rw [Location.step] at hlink ⊢
  split_ifs at hlink ⊢
  · exact h.noLink
  · exact h.dropLast.noLink
  · intro place hp
    rcases List.prefix_concat_iff.mp hp with rfl | hp
    · exact hlink
    · exact h.noLink place hp

theorem startOf (h : tree.IsReal location) (path : String) :
    tree.IsReal (startOf location path) := by
  rw [FileTree.startOf]
  split
  · exact root tree
  · exact h

end IsReal

/-! ## What is located is real -/

/-- A way that comes to its end goes on behind its first part, or at a link. -/
theorem of_followWith_cons {onLink : Location → List (List Char) → Except FileError Location}
    {part : List Char} {rest : List (List Char)}
    (h : tree.followWith false onLink location (part :: rest) = .ok real) :
    ((location.step part <+: location ∨ tree.isLinkAt (location.step part) = false) ∧
        tree.followWith false onLink (location.step part) rest = .ok real) ∨
      ∃ target, tree.node? (location.step part) = some (.link target) ∧
        onLink (FileTree.startOf location target) (Path.parts target ++ rest) = .ok real := by
  rw [followWith] at h
  split at h
  · cases h
  · rw [Location.step]
    split at h
    · rename_i hdot
      rw [if_pos hdot]
      exact .inl ⟨.inl (List.prefix_refl location), h⟩
    · rename_i hdot
      rw [if_neg hdot]
      split at h
      · rename_i hdots
        rw [if_pos hdots]
        exact .inl ⟨.inl (List.dropLast_prefix location), h⟩
      · rename_i hdots
        rw [if_neg hdots]
        dsimp only at h
        split at h
        · cases h
        · split at h
          · simp at h
          · rename_i target htarget
            exact .inr ⟨target, htarget, h⟩
          · rename_i node hlink hnode
            refine .inl ⟨.inr ?_, h⟩
            rw [isLinkAt, hnode]
            cases node with
            | link target => exact (hlink target rfl).elim
            | directory => rfl
            | file content executable => rfl

/-- Following parts leads to a real location if going on at a link does. -/
theorem isReal_followWith {onLink : Location → List (List Char) → Except FileError Location}
    (honLink : ∀ location parts real, tree.IsReal location → (∀ part ∈ parts, '/' ∉ part) →
      onLink location parts = .ok real → tree.IsReal real)
    {parts : List (List Char)} (hparts : ∀ part ∈ parts, '/' ∉ part) (h : tree.IsReal location)
    (hl : tree.followWith false onLink location parts = .ok real) : tree.IsReal real := by
  induction parts generalizing location with
  | nil =>
    cases hl
    exact h
  | cons part rest ih =>
    have hrest : ∀ part ∈ rest, '/' ∉ part := fun p hp => hparts p (List.mem_cons_of_mem _ hp)
    rcases of_followWith_cons hl with ⟨hplace, hl⟩ | ⟨target, -, hl⟩
    · have hlink : tree.isLinkAt (location.step part) = false := by
        rcases hplace with hprefix | hlink
        · exact h.noLink _ hprefix
        · exact hlink
      exact ih hrest (h.step (hparts part List.mem_cons_self) hlink) hl
    · refine honLink _ _ _ (h.startOf target) (fun p hp => ?_) hl
      rcases List.mem_append.mp hp with hp | hp
      · exact Text.notMem_of_mem_splitAt hp
      · exact hrest p hp

theorem isReal_followLinks (links : Nat) {parts : List (List Char)}
    (hparts : ∀ part ∈ parts, '/' ∉ part)
    (h : tree.IsReal location) (hl : tree.followLinks false links location parts = .ok real) :
    tree.IsReal real := by
  induction links generalizing location parts real with
  | zero =>
    refine isReal_followWith (fun _ _ _ _ _ hl => ?_) hparts h hl
    cases hl
  | succ links ih => exact isReal_followWith (fun _ _ _ h hparts hl => ih hparts h hl) hparts h hl

/-- The location of something is real, if one is at a real location oneself. -/
theorem isReal_locate {start : Location} {path : String} (h : tree.IsReal start)
    (hl : tree.locate start path = .ok real) : tree.IsReal real := by
  rw [locate, follow] at hl
  split_ifs at hl
  exact isReal_followLinks linkLimit (fun _ => Text.notMem_of_mem_splitAt) (h.startOf path) hl

/-! ## The way back from a location -/

/-- Without links in the way, names lead to the location that they spell. -/
theorem eq_of_followWith_names {onLink : Location → List (List Char) → Except FileError Location}
    {names : List String} (hnames : ∀ name ∈ names, Location.IsName name)
    (hlink : ∀ place, place <+: location ++ names → tree.isLinkAt place = false)
    (hl : tree.followWith false onLink location (names.map String.toList) = .ok real) :
    real = location ++ names := by
  induction names generalizing location with
  | nil =>
    cases hl
    rw [List.append_nil]
  | cons name rest ih =>
    have hstep : location.step name.toList = location ++ [name] := by
      have hname := hnames name List.mem_cons_self
      simp [Location.step, hname.ne_empty, hname.ne_dot, hname.ne_dots]
    have hassoc : location ++ name :: rest = location ++ [name] ++ rest := by simp
    rw [hassoc] at hlink ⊢
    rw [List.map_cons] at hl
    rcases of_followWith_cons hl with ⟨-, hl⟩ | ⟨target, htarget, -⟩
    · rw [hstep] at hl
      exact ih (fun n hn => hnames n (List.mem_cons_of_mem _ hn)) hlink hl
    · have hno := hlink (location ++ [name]) (List.prefix_append _ _)
      rw [hstep] at htarget
      simp [isLinkAt, htarget] at hno

/-- The path of a location leads there from everywhere, if it leads anywhere and there is no
link in the way. -/
theorem eq_of_locate_path_of_noLink {start : Location} (h : location.IsNamed)
    (hlink : ∀ place, place <+: location → tree.isLinkAt place = false)
    (hl : tree.locate start location.path = .ok real) : real = location := by
  have honLink : ∃ onLink, tree.followLinks false linkLimit = tree.followWith false onLink :=
    ⟨_, rfl⟩
  obtain ⟨onLink, honLink⟩ := honLink
  have hrooted : Path.isRooted location.path = true := by
    simp [Path.isRooted, Location.path]
  rw [locate, follow] at hl
  split_ifs at hl
  rw [startOf, if_pos hrooted, honLink] at hl
  have hnames : tree.followWith false onLink [] (location.map String.toList) = .ok real := by
    by_cases hne : location = []
    · subst hne
      exact hl
    · rw [Location.parts_path h hne] at hl
      exact hl
  exact @eq_of_followWith_names tree [] real onLink location h hlink hnames

/-- **The path of a real location leads back to it.** -/
theorem eq_of_locate_path {start : Location} (h : tree.IsReal location)
    (hl : tree.locate start location.path = .ok real) : real = location :=
  eq_of_locate_path_of_noLink h.named h.noLink hl

end FileTree
end ActionBoard
