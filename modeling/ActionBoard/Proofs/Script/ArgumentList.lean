import ActionBoard.Proofs.Script.Openings
import Mathlib.Data.List.Basic

/-!
# Lists of arguments

What is open behind a part depends on what is open in front of it; but a part begins behind a
separating comma, where nothing is open, so a part is read the same alone and in its list.  White
space opens and closes nothing, so cutting it off changes nothing either.

Only the last argument may leave a quote or parentheses open: every other one is in front of a
comma that separates.

* `Cut`: the parts of a text; `cut_partsFrom` is the reader, and what is said of lists of arguments
  follows by induction on `Cut`.
* `IsArgumentList`: the lists of arguments that come out, and `splitArgs_intercalate` reads them
  back.
* `Lists`: how a list of arguments stands in a text.
-/

namespace ActionBoard.Script

open Openings

variable {text front rest arg : List Char} {args parts : List (List Char)}

/-! ## Parts of a text -/

/-- A text stays together, or there is a first comma that separates. -/
theorem isWhole_or_exists_comma (s : Openings) (text : List Char) :
    IsWhole s text ∨ ∃ front rest, text = front ++ ',' :: rest ∧ IsWhole s front ∧
      s.behind front = closed := by
  induction text generalizing s with
  | nil => exact .inl (isWhole_nil s)
  | cons c text ih =>
    by_cases hfirst : c = ',' ∧ s = closed
    · obtain ⟨rfl, rfl⟩ := hfirst
      exact .inr ⟨[], text, rfl, isWhole_nil closed, rfl⟩
    · rcases ih (s.after c) with hwhole | ⟨front, rest, rfl, hwhole, hclosed⟩
      · exact .inl (isWhole_cons.mpr ⟨hfirst, hwhole⟩)
      · exact .inr ⟨c :: front, rest, rfl, isWhole_cons.mpr ⟨hfirst, hwhole⟩, hclosed⟩

/-- A text and its parts: each stays together, and nothing is open behind those that have a
comma behind them. -/
inductive Cut : List Char → List (List Char) → Prop
  | last {part : List Char} (whole : IsWhole closed part) : Cut part [part]
  | comma {part rest : List Char} {parts : List (List Char)} (whole : IsWhole closed part)
      (hclosed : closed.behind part = closed) (hrest : Cut rest parts) :
        Cut (part ++ ',' :: rest) (part :: parts)

/-- **A text is read as its parts.** -/
theorem cut_partsFrom (text : List Char) : Cut text (partsFrom none 0 text) := by
  induction hlength : text.length using Nat.strongRecOn generalizing text with
  | ind length ih =>
    rcases isWhole_or_exists_comma closed text with hwhole | ⟨front, rest, rfl, hwhole, hclosed⟩
    · rw [partsFrom_of_isWhole hwhole]
      exact .last hwhole
    · have hshorter : rest.length < length := by
        rw [← hlength, List.length_append, List.length_cons]
        omega
      rw [partsFrom_append_comma_of_isWhole hwhole hclosed]
      exact .comma hwhole hclosed (ih rest.length hshorter rest rfl)

/-- Cut off white space, and drop what is empty then. -/
theorem trimmed_cons (part : List Char) (parts : List (List Char)) :
    ((part :: parts).map Text.trim).filter (fun part => !part.isEmpty) =
      if Text.trim part = [] then (parts.map Text.trim).filter fun part => !part.isEmpty
      else Text.trim part :: (parts.map Text.trim).filter fun part => !part.isEmpty := by
  by_cases h : Text.trim part = []
  · simp [h]
  · simp [h]

/-! ## The arguments of a list -/

/-- Arguments that come out of a list together: only the last one may leave something open. -/
inductive IsArgumentList : List (List Char) → Prop
  | nil : IsArgumentList []
  | last {arg : List Char} (part : IsPart arg) : IsArgumentList [arg]
  | cons {arg : List Char} {args : List (List Char)} (part : IsPart arg)
      (hclosed : closed.behind arg = closed)
      (hrest : IsArgumentList args) : IsArgumentList (arg :: args)

theorem IsArgumentList.isPart_of_mem (h : IsArgumentList args) : ∀ arg ∈ args, IsPart arg := by
  induction h with
  | nil => exact fun arg harg => nomatch harg
  | last part => exact List.forall_mem_singleton.mpr part
  | cons part _ _ ih => exact List.forall_mem_cons.mpr ⟨part, ih⟩

theorem Cut.isArgumentList (h : Cut text parts) :
    IsArgumentList ((parts.map Text.trim).filter fun part => !part.isEmpty) := by
  induction h with
  | @last part whole =>
    rw [trimmed_cons]
    split
    · exact .nil
    · rename_i hne
      exact .last (whole.isPart hne)
  | @comma part rest parts whole hclosed _ ih =>
    rw [trimmed_cons]
    split
    · exact ih
    · rename_i hne
      exact .cons (whole.isPart hne) (by rw [behind_trim, hclosed]) ih

/-- **Arguments that come out of a list together are read back** when they are joined by commas. -/
theorem IsArgumentList.splitArgs_intercalate (h : IsArgumentList args) :
    splitArgs ([','].intercalate args) = args := by
  induction h with
  | nil => rfl
  | last part => rw [List.intercalate_singleton, part.splitArgs_eq]
  | @cons arg args part hclosed _ ih =>
    cases args with
    | nil => rw [List.intercalate_singleton, part.splitArgs_eq]
    | cons next args =>
      have hjoin : [','].intercalate (arg :: next :: args) =
          arg ++ ',' :: [','].intercalate (next :: args) := by
        rw [List.intercalate_cons_cons]
        simp
      rw [hjoin, part.splitArgs_append_comma hclosed, ih]

/-! ## Arguments in their text -/

/-- Commas and white space. -/
def IsGap (gap : List Char) : Prop :=
  ∀ c ∈ gap, c = ',' ∨ Text.isBlank c = true

theorem isGap_of_blank (h : ∀ c ∈ text, Text.isBlank c = true) :
    IsGap text := fun c hc => .inr (h c hc)

theorem IsGap.append (hfront : IsGap front) (hrest : IsGap rest) : IsGap (front ++ rest) :=
  List.forall_mem_append.mpr ⟨hfront, hrest⟩

/-- A text with arguments in it, one after the other: there is a comma behind every argument but the
last, and there are only commas and white space around them. -/
inductive Lists : List Char → List (List Char) → Prop
  | nothing {gap : List Char} (isGap : IsGap gap) : Lists gap []
  | last {before arg behind : List Char} (isGap : IsGap before) (isGap' : IsGap behind) :
      Lists (before ++ (arg ++ behind)) [arg]
  | comma {before arg blanks rest : List Char} {args : List (List Char)} (isGap : IsGap before)
      (blank : ∀ c ∈ blanks, Text.isBlank c = true) (hrest : Lists rest args) :
      Lists (before ++ (arg ++ (blanks ++ ',' :: rest))) (arg :: args)

theorem isGap_of_trim_eq_nil (h : Text.trim text = []) : IsGap text := by
  obtain ⟨front, back, htext, hfront, hback⟩ := Text.exists_eq_append_trim_append text
  rw [h, List.nil_append] at htext
  rw [htext]
  exact (isGap_of_blank hfront).append (isGap_of_blank hback)

theorem Lists.gap_append (h : Lists text args) (hfront : IsGap front) :
    Lists (front ++ text) args := by
  cases h with
  | nothing isGap => exact .nothing (hfront.append isGap)
  | last isGap isGap' =>
    rw [← List.append_assoc]
    exact .last (hfront.append isGap) isGap'
  | comma isGap blank hrest =>
    rw [← List.append_assoc]
    exact .comma (hfront.append isGap) blank hrest

theorem Cut.lists (h : Cut text parts) :
    Lists text ((parts.map Text.trim).filter fun part => !part.isEmpty) := by
  induction h with
  | @last part whole =>
    rw [trimmed_cons]
    split
    · rename_i hnil
      exact .nothing (isGap_of_trim_eq_nil hnil)
    · obtain ⟨front, back, hpart, hfront, hback⟩ := Text.exists_eq_append_trim_append part
      conv => arg 1; rw [hpart]
      exact .last (isGap_of_blank hfront) (isGap_of_blank hback)
  | @comma part rest parts whole hclosed _ ih =>
    rw [trimmed_cons]
    split
    · rename_i hnil
      have hgap : IsGap (part ++ [',']) :=
        (isGap_of_trim_eq_nil hnil).append (List.forall_mem_singleton.mpr (.inl rfl))
      rw [List.append_cons]
      exact ih.gap_append hgap
    · obtain ⟨front, back, hpart, hfront, hback⟩ := Text.exists_eq_append_trim_append part
      conv => arg 1; rw [hpart, List.append_assoc, List.append_assoc]
      exact .comma (isGap_of_blank hfront) hback ih

/-- **Splitting arguments is a normal form**, whatever is left open in the text.  What comes out is
not empty, has no white space at its ends and no comma that separates; each of the arguments is one
argument alone; joined by commas they are the same arguments again; and they are all there is in the
text but commas and white space. -/
theorem splitArgs_normal_form (text : List Char) :
    (∀ arg ∈ splitArgs text, arg ≠ [] ∧ (∀ c ∈ arg.head?, Text.isBlank c = false) ∧
      (∀ c ∈ arg.getLast?, Text.isBlank c = false) ∧ IsWhole closed arg) ∧
    (∀ arg ∈ splitArgs text, splitArgs arg = [arg]) ∧
    splitArgs ([','].intercalate (splitArgs text)) = splitArgs text ∧
    Lists text (splitArgs text) := by
  have hcut : Cut text (partsFrom none 0 text) := cut_partsFrom text
  have hlist : IsArgumentList (splitArgs text) := hcut.isArgumentList
  refine ⟨fun arg harg => ?_, fun arg harg => (hlist.isPart_of_mem arg harg).splitArgs_eq,
    hlist.splitArgs_intercalate, hcut.lists⟩
  have hpart : IsPart arg := hlist.isPart_of_mem arg harg
  exact ⟨hpart.ne_nil, hpart.head_not_blank, hpart.last_not_blank, hpart.whole⟩

/-- A call with a comma of its own and a quote that is left open; with an empty argument between
them, and without. -/
example : splitArgs "Max(1, 2) ,, 'a, b".toList = ["Max(1, 2)".toList, "'a, b".toList] ∧
    splitArgs "Max(1, 2),'a, b".toList = ["Max(1, 2)".toList, "'a, b".toList] := by decide

end ActionBoard.Script
