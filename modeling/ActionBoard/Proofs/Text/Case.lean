import ActionBoard.Text.Case

/-!
# Small letters

The small form of a word has no white space in it, so nothing is cut off its ends; it has no
plus sign in it either, unless the word has, and it is not empty.  The classes of characters
and the case mapping are tables; what has to be looked up in them is settled for a few code
points, once and for all.
-/

namespace ActionBoard.Text

/-- The code points of white space. -/
def blankPoints : List Nat :=
  [0x09, 0x0A, 0x0B, 0x0C, 0x0D, 0x20, 0x85, 0xA0, 0x1680, 0x2000, 0x2001, 0x2002, 0x2003,
    0x2004, 0x2005,
    0x2006, 0x2007, 0x2008, 0x2009, 0x200A, 0x2028, 0x2029, 0x202F, 0x205F, 0x3000]

theorem mem_blankPoints_of_isBlank {c : Char} (h : isBlank c = true) : c.toNat ∈ blankPoints := by
  simp only [isBlank, Bool.or_eq_true, Bool.and_eq_true, beq_iff_eq, decide_eq_true_eq] at h
  simp only [blankPoints, List.mem_cons, List.not_mem_nil, or_false]
  omega

theorem not_isWord_of_mem_blankPoints : ∀ n ∈ blankPoints, isWord (Char.ofNat n) = false := by
  decide +kernel

theorem isBlank_eq_false_of_isWord {c : Char} (h : isWord c = true) : isBlank c = false := by
  rw [Bool.eq_false_iff]
  intro hblank
  have hword := not_isWord_of_mem_blankPoints c.toNat (mem_blankPoints_of_isBlank hblank)
  rw [Char.ofNat_toNat, h] at hword
  cases hword

/-! ## The case mapping -/

/-- Code points that are no small form of anything else: those of white space and of the plus
sign. -/
def caselessPoints : List Nat :=
  0x2B :: blankPoints

theorem lowerRuns_avoid_caselessPoints : ∀ run ∈ lowerRuns, ∀ n ∈ caselessPoints,
    ¬ ((run.first : Int) + run.shift ≤ n ∧ (n : Int) ≤ run.last + run.shift) := by
  decide +kernel

theorem lowerSpecials_avoid_caselessPoints :
    ∀ entry ∈ lowerSpecials, ∀ n ∈ entry.2, n ∉ caselessPoints := by
  decide +kernel

theorem asciiLower_of_mem_caselessPoints :
    ∀ n < 0x80, (asciiLower (Char.ofNat n)).toNat ∈ caselessPoints →
    asciiLower (Char.ofNat n) = Char.ofNat n := by
  decide +kernel

/-- A number that is no code point is read as the null character, which is none of these either. -/
theorem toNat_ofNat_notMem_caselessPoints {n : Nat} (h : n ∉ caselessPoints) :
    (Char.ofNat n).toNat ∉ caselessPoints := by
  by_cases hvalid : n.isValidChar
  · have hpoint : (Char.ofNat n).toNat = n := by
      rw [Char.ofNat, dif_pos hvalid]
      rfl
    rwa [hpoint]
  · have hzero : Char.ofNat n = '\x00' := by
      simp [Char.ofNat, hvalid]
      rfl
    rw [hzero]
    decide

/-- The image of a code point under a run is none of these. -/
theorem image_notMem_caselessPoints {run : CaseRun} (hrun : run ∈ lowerRuns) {n image : Nat}
    (h : run.image? n = some image) : image ∉ caselessPoints := by
  intro hmem
  have havoid := lowerRuns_avoid_caselessPoints run hrun image hmem
  have hpos : 0 < image := by
    have hall : ∀ n ∈ caselessPoints, 0 < n := by decide
    exact hall image hmem
  rw [CaseRun.image?] at h
  split at h
  · rename_i hrange
    simp only [Bool.and_eq_true, decide_eq_true_eq] at hrange
    have himage : Int.toNat (n + run.shift) = image := Option.some.inj h
    omega
  · cases h

theorem eq_of_mem_mapCase {c d : Char} (hd : d ∈ mapCase lowerSpecials lowerRuns c)
    (h : d.toNat ∈ caselessPoints) : d = c := by
  rw [mapCase] at hd
  split at hd
  · rename_i image himage
    obtain ⟨n, hn, rfl⟩ := List.mem_map.mp hd
    obtain ⟨before, after, hentries, -⟩ := List.lookup_eq_some_iff.mp himage
    have hentry : (c.toNat, image) ∈ lowerSpecials :=
      hentries ▸ List.mem_append_right before List.mem_cons_self
    exact absurd h
      (toNat_ofNat_notMem_caselessPoints (lowerSpecials_avoid_caselessPoints _ hentry n hn))
  · split at hd
    · rename_i image himage
      obtain ⟨run, hrun, himage⟩ := List.exists_of_findSome?_eq_some himage
      rw [List.mem_singleton.mp hd] at h
      exact absurd h (toNat_ofNat_notMem_caselessPoints (image_notMem_caselessPoints hrun himage))
    · exact List.mem_singleton.mp hd

/-- One of these characters is a small form of itself only. -/
theorem eq_of_mem_lowerChar {c d : Char} (hd : d ∈ lowerChar c)
    (h : d.toNat ∈ caselessPoints) : d = c := by
  rw [lowerChar] at hd
  split at hd
  · rename_i hascii
    have hchar := asciiLower_of_mem_caselessPoints c.toNat hascii
    rw [Char.ofNat_toNat] at hchar
    rw [List.mem_singleton.mp hd] at h ⊢
    exact hchar h
  · exact eq_of_mem_mapCase hd h

theorem mem_of_mem_lowerFrom {before cs : List Char} {d : Char} (hd : d ∈ lowerFrom before cs)
    (h : d.toNat ∈ caselessPoints) : d ∈ cs := by
  induction cs generalizing before with
  | nil => cases hd
  | cons c rest ih =>
    rw [lowerFrom] at hd
    rcases List.mem_append.mp hd with hd | hd
    · split at hd
      · rw [List.mem_singleton.mp hd] at h
        split at h
        · exact absurd h (by decide)
        · exact absurd h (by decide)
      · rw [eq_of_mem_lowerChar hd h]
        exact List.mem_cons_self
    · exact List.mem_cons_of_mem c (ih hd)

/-- **White space and plus signs of the small form of a text are those of the text.** -/
theorem mem_of_mem_lower {s : String} {d : Char} (hd : d ∈ (lower s).toList)
    (h : d.toNat ∈ caselessPoints) : d ∈ s.toList := by
  rw [lower, String.toList_ofList] at hd
  exact mem_of_mem_lowerFrom hd h

/-- The small form of a text without white space has none in it. -/
theorem isBlank_of_mem_lower {s : String} (h : ∀ c ∈ s.toList, isBlank c = false) :
    ∀ d ∈ (lower s).toList, isBlank d = false := by
  intro d hd
  by_cases hblank : isBlank d = true
  · exact h d (mem_of_mem_lower hd (List.mem_cons_of_mem _ (mem_blankPoints_of_isBlank hblank)))
  · exact Bool.eq_false_iff.mpr hblank

/-! ## No character is lost -/

theorem lowerSpecials_ne_nil : ∀ entry ∈ lowerSpecials, entry.2 ≠ [] := by
  decide +kernel

theorem lowerChar_ne_nil (c : Char) : lowerChar c ≠ [] := by
  rw [lowerChar]
  split
  · exact List.cons_ne_nil _ _
  · rw [mapCase]
    split
    · rename_i image himage
      obtain ⟨before, after, hentries, -⟩ := List.lookup_eq_some_iff.mp himage
      have hentry : (c.toNat, image) ∈ lowerSpecials :=
        hentries ▸ List.mem_append_right before List.mem_cons_self
      exact mt List.map_eq_nil_iff.mp (lowerSpecials_ne_nil _ hentry)
    · split
      · exact List.cons_ne_nil _ _
      · exact List.cons_ne_nil _ _

/-- The small form of a text is not empty unless the text is. -/
theorem lower_ne_empty {s : String} (h : s ≠ "") : lower s ≠ "" := by
  intro hempty
  have hfrom : lowerFrom [] s.toList = [] := by
    have hlist := congrArg String.toList hempty
    rwa [lower, String.toList_ofList] at hlist
  cases hs : s.toList with
  | nil => exact h (String.toList_eq_nil_iff.mp hs)
  | cons c rest =>
    rw [hs, lowerFrom] at hfrom
    have himage := (List.append_eq_nil_iff.mp hfrom).1
    split at himage
    · cases himage
    · exact lowerChar_ne_nil c himage

end ActionBoard.Text
