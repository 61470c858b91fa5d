import ActionBoard.Action.Metadata
import ActionBoard.Proofs.Text.Case
import ActionBoard.Script.Source
import ActionBoard.Script.Translation
import Mathlib.Data.List.TakeWhile

/-!
# Names of functions

A function of a script that was read from a text is named by a word: that is what a header has in
front of its parentheses.  The reader goes through the lines once, and only a header declares a
function, so it is an invariant of the reading that the names declared so far are words, each the
name of the function it stands for.

A word has no white space in it, and neither has its small form.  So the identifier of the row of a
function is read back from the metadata of a call as it was written.
-/

namespace ActionBoard.Script

/-- A text of word characters. -/
def IsWord (name : String) : Prop :=
  ∀ c ∈ name.toList, Text.isWord c = true

theorem isWord_of_startsName {c : Char} (h : Text.startsName c = true) : Text.isWord c = true := by
  simp only [Text.startsName, Bool.or_eq_true] at h
  simp only [Text.isWord, Bool.or_eq_true]
  rcases h with h | h
  · exact .inl (.inl (.inl h))
  · exact .inl (.inr h)

/-- What is read as a name is a word. -/
theorem isWord_of_readName? {text name rest : List Char} (h : readName? text = some (name, rest)) :
    IsWord (String.ofList name) := by
  cases text with
  | nil => cases h
  | cons c after =>
    rw [readName?] at h
    split at h
    · rename_i hstart
      cases h
      intro d hd
      rw [String.toList_ofList] at hd
      rcases List.mem_cons.mp hd with rfl | hd
      · exact isWord_of_startsName hstart
      · exact List.mem_takeWhile_imp hd
    · cases h

theorem isWord_of_readCall? {text name args : List Char} (h : readCall? text = some (name, args)) :
    IsWord (String.ofList name) := by
  rw [readCall?] at h
  obtain ⟨⟨read, rest⟩, hread, h⟩ := Option.bind_eq_some_iff.mp h
  have hname : read = name := by
    dsimp only at h
    split at h
    · obtain ⟨inner, -, h⟩ := Option.bind_eq_some_iff.mp h
      split at h
      · cases h
        rfl
      · cases h
    · cases h
  exact hname ▸ isWord_of_readName? hread

theorem isWord_of_readHeader? {line : List Char} {name : String} {params : List String}
    (h : readHeader? line = some (name, params)) : IsWord name := by
  rw [readHeader?] at h
  obtain ⟨head, -, h⟩ := Option.bind_eq_some_iff.mp h
  obtain ⟨⟨read, args⟩, hread, h⟩ := Option.bind_eq_some_iff.mp h
  cases h
  exact isWord_of_readCall? hread

theorem isWord_of_ofLine {line : List Char} {name : String} {params : List String}
    (h : Construct.ofLine line = .function name params) : IsWord name := by
  unfold Construct.ofLine at h
  repeat' split at h
  all_goals cases h
  rename_i hheader
  exact isWord_of_readHeader? hheader

/-- Reading lines declares functions under words only. -/
theorem isWord_of_mem_names_readLines {script : Script} {lines : List SourceLine}
    (h : ∀ name ∈ script.functions.names, IsWord name) :
    ∀ name ∈ (readLines script lines).functions.names, IsWord name := by
  induction script, lines using readLines.induct with
  | case1 script =>
    rw [readLines]
    exact h
  | case5 script line rest name params hline function ih =>
    rw [readLines, hline]
    refine ih fun other hother => ?_
    rcases Declarations.mem_names_declare.mp hother with rfl | hother
    · exact isWord_of_ofLine hline
    · exact h other hother
  | case2 script line rest version hline ih =>
    rw [readLines, hline]
    exact ih h
  | case3 script line rest hline ih =>
    rw [readLines, hline]
    exact ih h
  | case4 script line rest list hline ih =>
    rw [readLines, hline]
    exact ih h
  | case6 script line rest label inline hline body ih =>
    rw [readLines, hline]
    exact ih h
  | case7 script line rest name value hline ih =>
    rw [readLines, hline]
    exact ih h
  | case8 script line rest hline c ih =>
    rw [readLines, hline]
    exact ih h

/-- **The functions of a script that was read are named by words.** -/
theorem isWord_of_mem_names_ofText (text : String) :
    ∀ name ∈ (ofText text).functions.names, IsWord name :=
  isWord_of_mem_names_readLines fun _ hname => nomatch hname

/-! ## Identifiers of rows -/

theorem toList_functionRowId (name : String) :
    (functionRowId name).toList = "row_fn_".toList ++ (Text.lower name).toList :=
  String.toList_append

/-- No row of a function is the main row. -/
theorem functionRowId_ne_mainRowId (name : String) : functionRowId name ≠ mainRowId := by
  intro h
  have hlists := congrArg String.toList h
  rw [toList_functionRowId] at hlists
  have hfifth := congrArg (fun cs : List Char => cs[4]?) hlists
  revert hfifth
  simp [mainRowId]

theorem isBlank_of_mem_functionRowId {name : String} (h : IsWord name) :
    ∀ c ∈ (functionRowId name).toList, Text.isBlank c = false := by
  have hprefix : "row_fn_".toList.any Text.isBlank = false := by decide
  intro c hc
  rw [toList_functionRowId] at hc
  rcases List.mem_append.mp hc with hc | hc
  · exact Bool.eq_false_iff.mpr (List.any_eq_false.mp hprefix c hc)
  · exact Text.isBlank_of_mem_lower (fun d hd => Text.isBlank_eq_false_of_isWord (h d hd)) c hc

theorem trimmed_functionRowId {name : String} (h : IsWord name) :
    Text.trimmed (functionRowId name) = functionRowId name := by
  rw [Text.trimmed, Text.trim, Text.strip_eq_self (isBlank_of_mem_functionRowId h),
    String.ofList_toList]

theorem allBlank_functionRowId (name : String) : Text.allBlank (functionRowId name) = false := by
  rw [Text.allBlank, toList_functionRowId, List.all_append]
  rfl

/-- The call of a function names the row of the function. -/
theorem metaTextOr_callAction {c : Command} (h : IsWord c.name) :
    (callAction c).metaTextOr "row_id" "" = functionRowId c.name := by
  have hmeta : (callAction c).metaText? "row_id" = some (functionRowId c.name) := by
    have hfind : (callAction c).metadata.find? "row_id" =
        some (.string (functionRowId c.name)) := by
      rw [callAction, Action.withMeta, Dictionary.find?_insert_of_ne _ _ (by decide)]
      exact Dictionary.find?_insert_self ..
    rw [Action.metaText?, Action.meta?, hfind]
    rfl
  rw [Action.metaTextOr, hmeta]
  dsimp only
  rw [allBlank_functionRowId, if_neg Bool.false_ne_true, trimmed_functionRowId h]

end ActionBoard.Script
