import ActionBoard.Text.Blank
import Mathlib.Data.List.Basic
import Mathlib.Data.List.Induction
import Mathlib.Data.List.TakeWhile

/-!
# White space around texts

* `notMem_of_isBlank`: white space is none of the marks of a notation.
* `exists_eq_append_trim_append`, `trim_append_append`: what is cut off is white space, and
  white space is cut off.
* `isBlank_head?_trim`, `isBlank_getLast?_trim`: none is left at the ends.
* `trim_suffix`: a text at the end of another one, where this has no white space behind it.
-/

namespace ActionBoard.Text

variable {p : Char → Bool} {c : Char} {text : List Char}

/-- Characters that are no white space, looked up for white space. -/
theorem notMem_of_isBlank {marks : List Char} (hmarks : (marks.all fun c => !isBlank c) = true)
    (h : isBlank c = true) : c ∉ marks := by
  intro hc
  have hblank : (!isBlank c) = true := List.all_eq_true.mp hmarks c hc
  rw [h] at hblank
  cases hblank

/-! ## One end -/

/-- Only what stands in front of a character outside of the class is cut off the start. -/
theorem stripStart_append_cons_of_not (h : p c = false) (before after : List Char) :
    stripStart p (before ++ c :: after) = stripStart p before ++ c :: after := by
  rw [stripStart, List.dropWhile_append, ← stripStart]
  split
  · rename_i hnil
    rw [List.isEmpty_iff.mp hnil, ← stripStart, stripStart_cons_of_not h, List.nil_append]
  · rfl

theorem stripEnd_append_cons_of_not (h : p c = false) (before after : List Char) :
    stripEnd p (before ++ c :: after) = before ++ c :: stripEnd p after := by
  have hreverse : (before ++ c :: after).reverse = after.reverse ++ c :: before.reverse := by simp
  have hstart : (after.reverse ++ c :: before.reverse).dropWhile p = after.reverse.dropWhile p ++
      c :: before.reverse :=
    stripStart_append_cons_of_not h _ _
  rw [stripEnd, hreverse, hstart, stripEnd]
  simp

/-- What is cut off the end is in the class. -/
theorem exists_eq_stripEnd_append (p : Char → Bool) (text : List Char) :
    ∃ cut, text = stripEnd p text ++ cut ∧ ∀ c ∈ cut, p c = true := by
  refine ⟨(text.reverse.takeWhile p).reverse, ?_, fun c hc => ?_⟩
  · rw [stripEnd, ← List.reverse_append, List.takeWhile_append_dropWhile, List.reverse_reverse]
  · exact List.mem_takeWhile_imp (List.mem_reverse.mp hc)

/-! ## Both ends -/

/-- A text is what is left of it when its ends are cut off, with white space around it. -/
theorem exists_eq_append_trim_append (text : List Char) :
    ∃ front back, text = front ++ (trim text ++ back) ∧ (∀ c ∈ front, isBlank c = true) ∧
      ∀ c ∈ back, isBlank c = true := by
  obtain ⟨back, hback, hblank⟩ := exists_eq_stripEnd_append isBlank (stripStart isBlank text)
  refine ⟨text.takeWhile isBlank, back, ?_, fun c hc => List.mem_takeWhile_imp hc, hblank⟩
  rw [trim, strip, ← hback, stripStart, List.takeWhile_append_dropWhile]

/-- White space around a text is cut. -/
theorem trim_append_append {front back : List Char} (hfront : ∀ c ∈ front, isBlank c = true)
    (hback : ∀ c ∈ back, isBlank c = true) (text : List Char) :
    trim (front ++ (text ++ back)) = trim text := by
  induction front with
  | nil =>
    induction back using List.reverseRecOn with
    | nil => rw [List.nil_append, List.append_nil]
    | append_singleton back c ih =>
      obtain ⟨hback, hc⟩ := List.forall_mem_append.mp hback
      rw [List.nil_append, ← List.append_assoc, trim_append_of_isBlank (hc c List.mem_cons_self)]
      exact ih hback
  | cons c front ih =>
    obtain ⟨hc, hfront⟩ := List.forall_mem_cons.mp hfront
    rw [List.cons_append, trim_cons_of_isBlank hc, ih hfront]

theorem isBlank_head?_trim (text : List Char) : ∀ c ∈ (trim text).head?, isBlank c = false := by
  intro c hc
  obtain ⟨cut, hcut, -⟩ := exists_eq_stripEnd_append isBlank (stripStart isBlank text)
  have hhead : (stripStart isBlank text).head? = some c := by
    rw [hcut, List.head?_append, ← strip, ← trim, Option.mem_def.mp hc]
    rfl
  have hnot := List.head?_dropWhile_not isBlank text
  rw [← stripStart, hhead] at hnot
  exact hnot

/-- A text without white space at its end has none at the end of what is left of its end. -/
theorem isBlank_getLast?_of_suffix {part whole : List Char} (hpart : part <:+ whole)
    (hlast : ∀ c ∈ whole.getLast?, isBlank c = false) : ∀ c ∈ part.getLast?, isBlank c = false := by
  intro c hc
  have hne : part ≠ [] := by
    rintro rfl
    cases hc
  obtain ⟨before, rfl⟩ := hpart
  exact hlast c (by rwa [List.getLast?_append_of_ne_nil before hne])

theorem isBlank_getLast?_trim (cs : List Char) : ∀ c ∈ (trim cs).getLast?, isBlank c = false := by
  intro c hc
  rw [trim, strip, stripEnd, List.getLast?_reverse] at hc
  exact Bool.eq_false_iff.mpr fun hblank => by
    have hnot := List.head?_dropWhile_not isBlank (stripStart isBlank cs).reverse
    rw [Option.mem_def.mp hc] at hnot
    simp [hblank] at hnot

/-- What is cut from the end of a text that has no white space at its end is left at its end. -/
theorem trim_suffix {part whole : List Char} (hpart : part <:+ whole)
    (hlast : ∀ c ∈ whole.getLast?, isBlank c = false) : trim part <:+ whole := by
  have hstart : stripStart isBlank part <:+ whole := (List.dropWhile_suffix isBlank).trans hpart
  rw [trim, strip, stripEnd_eq_self (isBlank_getLast?_of_suffix hstart hlast)]
  exact hstart

end ActionBoard.Text
