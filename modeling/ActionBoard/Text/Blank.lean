/-!
# White space, and what is cut off the ends of a text

Script lines, metadata texts and record cells are compared and read with the white space at their
ends removed.  White space means the Unicode property White_Space, which is wider than the blanks
of ASCII: a no-break space or an ideographic space at the end of a line counts as well, a zero-width
space does not.

Cutting is stated for an arbitrary class of characters, because quotes and braces are cut off the
ends of arguments by the same operation.

`stripStart_cons_of_not` and `stripEnd_append_of_not` say when nothing is cut; a text without white
space at its ends is kept as it is (`trim_eq_self`).
-/

namespace ActionBoard.Text

/-- Whether `n` lies in one of the inclusive ranges. -/
def inRanges (ranges : List (Nat × Nat)) (n : Nat) : Bool :=
  ranges.any fun range => range.1 ≤ n && n ≤ range.2

/-- The 25 code points with the property White_Space. -/
def isBlank (c : Char) : Bool :=
  let n := c.toNat
  n == 0x20 || (0x09 ≤ n && n ≤ 0x0D) || n == 0x85 || n == 0xA0 || n == 0x1680
    || (0x2000 ≤ n && n ≤ 0x200A) || n == 0x2028 || n == 0x2029 || n == 0x202F || n == 0x205F
    || n == 0x3000

/-! ## Cutting a class of characters off the ends -/

/-- The text without the characters of the class at its start. -/
def stripStart (p : Char → Bool) (cs : List Char) : List Char :=
  cs.dropWhile p

/-- The text without the characters of the class at its end. -/
def stripEnd (p : Char → Bool) (cs : List Char) : List Char :=
  (cs.reverse.dropWhile p).reverse

/-- The text without the characters of the class at either end. -/
def strip (p : Char → Bool) (cs : List Char) : List Char :=
  stripEnd p (stripStart p cs)

/-- The text without white space at either end. -/
def trim (cs : List Char) : List Char :=
  strip isBlank cs

/-- `trim` on strings. -/
def trimmed (s : String) : String :=
  String.ofList (trim s.toList)

/-- Whether nothing but white space is left. -/
def allBlank (s : String) : Bool :=
  s.toList.all isBlank

@[simp] theorem stripStart_nil (p : Char → Bool) : stripStart p [] = [] := rfl

@[simp] theorem stripEnd_nil (p : Char → Bool) : stripEnd p [] = [] := rfl

@[simp] theorem strip_nil (p : Char → Bool) : strip p [] = [] := rfl

/-- A text that starts outside the class keeps its start. -/
theorem stripStart_cons_of_not {p : Char → Bool} {c : Char} {cs : List Char} (h : p c = false) :
    stripStart p (c :: cs) = c :: cs := by
  simp [stripStart, h]

/-- A text that ends outside the class keeps its end. -/
theorem stripEnd_append_of_not {p : Char → Bool} {c : Char} {cs : List Char} (h : p c = false) :
    stripEnd p (cs ++ [c]) = cs ++ [c] := by
  simp [stripEnd, h]

theorem mem_of_mem_stripEnd {p : Char → Bool} {c : Char} {cs : List Char}
    (h : c ∈ stripEnd p cs) : c ∈ cs := by
  rw [stripEnd, List.mem_reverse] at h
  exact List.mem_reverse.mp ((List.dropWhile_subset p) h)

theorem stripEnd_append_of_pos {p : Char → Bool} {c : Char} {cs : List Char} (h : p c = true) :
    stripEnd p (cs ++ [c]) = stripEnd p cs := by
  simp [stripEnd, h]

/-- A text without characters of the class keeps everything. -/
theorem strip_eq_self {p : Char → Bool} {cs : List Char} (h : ∀ c ∈ cs, p c = false) :
    strip p cs = cs := by
  have hdrop : ∀ {cs : List Char}, (∀ c ∈ cs, p c = false) → cs.dropWhile p = cs := by
    intro cs h
    cases cs with
    | nil => rfl
    | cons c rest => exact stripStart_cons_of_not (h c List.mem_cons_self)
  have hstart : stripStart p cs = cs := hdrop h
  have hend : cs.reverse.dropWhile p = cs.reverse := hdrop fun c hc => h c (List.mem_reverse.mp hc)
  rw [strip, hstart, stripEnd, hend, List.reverse_reverse]

/-- What stands between two characters of the class is cut free, if none of the class is in it. -/
theorem strip_enclosed {p : Char → Bool} {first last : Char} {cs : List Char}
    (hfirst : p first = true) (hlast : p last = true) (h : ∀ c ∈ cs, p c = false) :
    strip p (first :: (cs ++ [last])) = cs := by
  have hstart : stripStart p (first :: (cs ++ [last])) = stripStart p (cs ++ [last]) := by
    simp [stripStart, hfirst]
  cases cs with
  | nil => simp [strip, stripStart, hfirst, hlast]
  | cons c rest =>
    have hc : p c = false := h c List.mem_cons_self
    have hkept : stripStart p (c :: rest ++ [last]) = c :: rest ++ [last] :=
      stripStart_cons_of_not hc
    have hself : strip p (c :: rest) = c :: rest := strip_eq_self h
    rw [strip, hstart, hkept, stripEnd_append_of_pos hlast]
    rwa [strip, stripStart_cons_of_not hc] at hself

theorem stripEnd_eq_self {p : Char → Bool} {cs : List Char} (h : ∀ c ∈ cs.getLast?, p c = false) :
    stripEnd p cs = cs := by
  cases hcs : cs.getLast? with
  | none =>
    rw [List.getLast?_eq_none_iff.mp hcs]
    rfl
  | some c =>
    obtain ⟨before, rfl⟩ := List.getLast?_eq_some_iff.mp hcs
    exact stripEnd_append_of_not (h c hcs)

/-- A text without white space at its ends keeps everything. -/
theorem trim_eq_self {cs : List Char} (hfirst : ∀ c ∈ cs.head?, isBlank c = false)
    (hlast : ∀ c ∈ cs.getLast?, isBlank c = false) : trim cs = cs := by
  have hstart : stripStart isBlank cs = cs := by
    cases cs with
    | nil => rfl
    | cons c rest => exact stripStart_cons_of_not (hfirst c rfl)
  rw [trim, strip, hstart, stripEnd_eq_self hlast]

/-- White space in front of a text is cut. -/
theorem trim_cons_of_isBlank {c : Char} (h : isBlank c = true) (cs : List Char) :
    trim (c :: cs) = trim cs := by
  rw [trim, trim, strip, strip, stripStart, stripStart, List.dropWhile_cons_of_pos h]

/-- White space behind a text is cut. -/
theorem trim_append_of_isBlank {c : Char} (h : isBlank c = true) (cs : List Char) :
    trim (cs ++ [c]) = trim cs := by
  rw [trim, trim, strip, strip, stripStart, stripStart, List.dropWhile_append]
  split
  · rename_i hnil
    rw [List.isEmpty_iff.mp hnil, List.dropWhile_cons_of_pos h]
    rfl
  · exact stripEnd_append_of_pos h

/-- White space at the ends is all that is cut off. -/
theorem mem_dropWhile_of_not {p : Char → Bool} {c : Char} {cs : List Char} (hc : c ∈ cs)
    (hp : p c = false) : c ∈ cs.dropWhile p := by
  induction cs with
  | nil => cases hc
  | cons d rest ih =>
    rw [List.dropWhile_cons]
    split
    · rename_i hd
      rcases List.mem_cons.mp hc with rfl | hrest
      · rw [hp] at hd
        cases hd
      · exact ih hrest
    · exact hc

theorem mem_trim {c : Char} {cs : List Char} (hc : c ∈ cs) (hblank : isBlank c = false) :
    c ∈ trim cs := by
  have hstart : c ∈ stripStart isBlank cs := mem_dropWhile_of_not hc hblank
  exact List.mem_reverse.mpr (mem_dropWhile_of_not (List.mem_reverse.mpr hstart) hblank)

end ActionBoard.Text
