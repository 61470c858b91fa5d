import ActionBoard.Proofs.Script.Provenance
import Mathlib.Data.List.Pairwise

/-!
# The parts of a script

The reader goes through the lines and takes bodies away as it meets their headers and labels.  What
it sees at its own level are the parts of the script: a line at the top level, or the header of a
function or the label of a hotkey with the lines of its body.  The parts of a text depend on its
lines only, and the script is what they add to it one after the other (`readLines_eq_foldl`).

So a question about a script is a question about its parts.  A part leaves its mark when it is added
(`isRecordedIn_addTo`), and the mark stays unless a later part declares the same thing
(`IsRecordedIn.addTo`).

* `parts`, `Part.addTo`: the parts of lines, and what a part adds to a script.
* `IsKept`: nothing that stands behind a part declares again what it declares.
* `isRecordedIn_readLines`: every part that is kept is found in the script.
* `Part.HasInBody`: the lines that are read as commands in a body; those of a body that is kept are
  commands of the script (`Part.HasInBody.command_mem`).
-/

namespace ActionBoard.Declarations

variable {β : Type} {name other : String} {value : β}

theorem find?_declare_self (name : String) (value : β) (declarations : Declarations β) :
    (declarations.declare name value).find? name = some value := by
  induction declarations with
  | nil => simp [declare, find?, lookupEntry]
  | cons first rest ih =>
    obtain ⟨key, old⟩ := first
    rw [declare]
    split
    · simp [find?, lookupEntry]
    · rename_i hne
      rw [find?, lookupEntry, if_neg hne]
      exact ih

theorem find?_declare_of_ne (hne : other ≠ name) (value : β) (declarations : Declarations β) :
    (declarations.declare name value).find? other = declarations.find? other := by
  induction declarations with
  | nil => simp [declare, find?, lookupEntry, hne.symm]
  | cons first rest ih =>
    obtain ⟨key, old⟩ := first
    rw [declare]
    split
    · rename_i hkey
      subst key
      simp [find?, lookupEntry, hne.symm]
    · rw [find?, find?, lookupEntry, lookupEntry]
      split
      · rfl
      · exact ih

end ActionBoard.Declarations

namespace ActionBoard.Script

open scoped List

variable {lines : List SourceLine} {line : SourceLine} {script : Script} {c : Command}

/-! ## Parts -/

/-- A line that is read at the top level, with the lines of its body if it is a header or a
label. -/
structure Part where
  head : SourceLine
  body : List SourceLine
  deriving DecidableEq

/-- Whether the body of a hotkey is a block, and not what stands behind its label. -/
def opensBlock (inline : List Char) : Bool :=
  inline.isEmpty || inline == ['{']

/-- The lines of the body that a line begins, and the lines after it. -/
def bodyBehind (line : SourceLine) (rest : List SourceLine) : List SourceLine × List SourceLine :=
  match Construct.ofLine line.text with
  | .function _ _ => collectBlock 1 rest
  | .hotkey _ inline =>
    if opensBlock inline then collectBlock 1 (if inline.isEmpty then skipOpening rest else rest)
      else ([], rest)
  | _ => ([], rest)

theorem bodyBehind_length_le (line : SourceLine) (rest : List SourceLine) :
    (bodyBehind line rest).2.length ≤ rest.length := by
  unfold bodyBehind
  split
  · exact collectBlock_length_le 1 rest
  · split
    · refine Nat.le_trans (collectBlock_length_le 1 _) ?_
      split
      · exact skipOpening_length_le rest
      · exact Nat.le_refl _
    · exact Nat.le_refl _
  · exact Nat.le_refl _

/-- The parts that lines consist of. -/
def parts : List SourceLine → List Part
  | [] => []
  | line :: rest => ⟨line, (bodyBehind line rest).1⟩ :: parts (bodyBehind line rest).2
termination_by lines => lines.length
decreasing_by exact Nat.lt_succ_of_le (bodyBehind_length_le line rest)

/-- What a part declares: a function, or a hotkey. -/
inductive Declared where
  | function (name : String)
  | hotkey (label : String)
  deriving DecidableEq

namespace Part

/-- The commands of a hotkey, which stand behind its label or in its body. -/
def hotkeyCommands (part : Part) (inline : List Char) : List Command :=
  if opensBlock inline then bodyCommands part.body else [Command.ofText inline part.head.number]

/-- The script with what a part adds to it. -/
def addTo (script : Script) (part : Part) : Script :=
  match Construct.ofLine part.head.text with
  | .requires version => { script with requires := some version }
  | .directive => { script with directives := script.directives ++ [String.ofList part.head.text] }
  | .globals list => declareGlobals script list
  | .function name params =>
    { script with
      functions := script.functions.declare name ⟨name, params, bodyCommands part.body⟩ }
  | .hotkey label inline =>
    { script with hotkeys := script.hotkeys.declare label (part.hotkeyCommands inline) }
  | .assignment name value => { script with globals := script.globals.declare name value }
  | .command => { script with topLevel := script.topLevel ++ [part.head.command] }

def declares? (part : Part) : Option Declared :=
  match Construct.ofLine part.head.text with
  | .function name _ => some (.function name)
  | .hotkey label _ => some (.hotkey label)
  | _ => none

/-- What there is of a part in a script: its command is one of the top level, or its function or
hotkey has the commands of its body. -/
structure IsRecordedIn (part : Part) (script : Script) : Prop where
  command : Construct.ofLine part.head.text = .command → part.head.command ∈ script.topLevel
  function : ∀ name params, Construct.ofLine part.head.text = .function name params →
    script.functions.find? name = some ⟨name, params, bodyCommands part.body⟩
  hotkey : ∀ label inline, Construct.ofLine part.head.text = .hotkey label inline →
    script.hotkeys.find? label = some (part.hotkeyCommands inline)

end Part

/-- A part that nothing behind it declares again. -/
def IsKept (parts : List Part) (part : Part) : Prop :=
  ∃ before after, parts = before ++ part :: after ∧
    ∀ later ∈ after, part.declares? ≠ none → later.declares? ≠ part.declares?

/-! ## Reading part by part -/

/-- The body of a hotkey and the lines after it, by way of the lines of the body. -/
theorem hotkeyBody_eq {label : String} {inline : List Char}
    (hline : Construct.ofLine line.text = .hotkey label inline) (rest : List SourceLine) :
    hotkeyBody inline line.number rest =
      (Part.hotkeyCommands ⟨line, (bodyBehind line rest).1⟩ inline, (bodyBehind line rest).2) := by
  rw [hotkeyBody, Part.hotkeyCommands, bodyBehind, hline]
  dsimp only
  by_cases hblock : opensBlock inline = true
  · rw [if_pos hblock, if_pos hblock, opensBlock] at *
    rw [if_pos hblock]
  · rw [if_neg hblock, if_neg hblock]
    rw [opensBlock] at hblock
    rw [if_neg hblock]

/-- **A script is what its parts add to it**, one after the other. -/
theorem readLines_eq_foldl (script : Script) (lines : List SourceLine) :
    readLines script lines = (parts lines).foldl Part.addTo script := by
  induction script, lines using readLines.induct with
  | case1 script => rw [readLines, parts, List.foldl_nil]
  | case2 script line rest version hline ih =>
    rw [readLines, parts, List.foldl_cons, Part.addTo, bodyBehind, hline]
    exact ih
  | case3 script line rest hline ih =>
    rw [readLines, parts, List.foldl_cons, Part.addTo, bodyBehind, hline]
    exact ih
  | case4 script line rest list hline ih =>
    rw [readLines, parts, List.foldl_cons, Part.addTo, bodyBehind, hline]
    exact ih
  | case5 script line rest name params hline function =>
    rename_i ih
    rw [readLines, parts, List.foldl_cons, Part.addTo, bodyBehind, hline]
    exact ih
  | case6 script line rest label inline hline body =>
    rename_i ih
    have hbody : body = Part.hotkeyCommands ⟨line, (bodyBehind line rest).1⟩ inline :=
      congrArg Prod.fst (hotkeyBody_eq hline rest)
    rw [hotkeyBody_eq hline rest, hbody] at ih
    rw [readLines, parts, List.foldl_cons, Part.addTo, hline]
    dsimp only
    rw [hotkeyBody_eq hline rest]
    exact ih
  | case7 script line rest name value hline ih =>
    rw [readLines, parts, List.foldl_cons, Part.addTo, bodyBehind, hline]
    exact ih
  | case8 script line rest hline c =>
    rename_i ih
    rw [readLines, parts, List.foldl_cons, Part.addTo, bodyBehind, hline]
    exact ih

/-! ## Lines of parts -/

theorem bodyBehind_sublist (line : SourceLine) (rest : List SourceLine) :
    (bodyBehind line rest).1 ++ (bodyBehind line rest).2 <+ rest := by
  have hblock : ∀ lines : List SourceLine, lines <:+ rest →
      (collectBlock 1 lines).1 ++ (collectBlock 1 lines).2 <+ rest := by
    intro lines hlines
    obtain ⟨closing, hsplit⟩ := collectBlock_split 1 lines
    refine List.Sublist.trans ?_ hlines.sublist
    conv_rhs => rw [hsplit]
    exact (List.sublist_append_left _ closing).append_right _
  unfold bodyBehind
  split
  · exact hblock rest (List.suffix_refl rest)
  · split
    · refine hblock _ ?_
      split
      · exact skipOpening_suffix rest
      · exact List.suffix_refl rest
    · exact List.Sublist.refl rest
  · exact List.Sublist.refl rest

/-- The parts are made of the lines, in their order. -/
theorem flatMap_parts_sublist (lines : List SourceLine) :
    (parts lines).flatMap (fun part => part.head :: part.body) <+ lines := by
  induction lines using parts.induct with
  | case1 => rw [parts, List.flatMap_nil]
  | case2 line rest ih =>
    rw [parts, List.flatMap_cons, List.cons_append]
    exact (((List.Sublist.refl _).append ih).trans (bodyBehind_sublist line rest)).cons_cons line

theorem head_mem_of_mem_parts {part : Part} (h : part ∈ parts lines) : part.head ∈ lines :=
  (flatMap_parts_sublist lines).subset (List.mem_flatMap.mpr ⟨part, h, List.mem_cons_self⟩)

theorem mem_of_mem_body {part : Part} (h : part ∈ parts lines) (hline : line ∈ part.body) :
    line ∈ lines :=
  (flatMap_parts_sublist lines).subset (List.mem_flatMap.mpr ⟨part, h,
    List.mem_cons_of_mem part.head hline⟩)

/-- No line is the head of a part and in the body of one. -/
theorem head_notMem_body (hlines : lines.Nodup) {part other : Part} (hpart : part ∈ parts lines)
    (hother : other ∈ parts lines) : part.head ∉ other.body := by
  obtain ⟨hinner, hapart⟩ := List.nodup_flatMap.mp (hlines.sublist (flatMap_parts_sublist lines))
  by_cases heq : part = other
  · exact heq ▸ (List.nodup_cons.mp (hinner part hpart)).1
  · intro hbody
    have hsymm :
        Std.Symm (Function.onFun List.Disjoint fun part : Part => part.head :: part.body) :=
      ⟨fun _ _ h => List.disjoint_symm h⟩
    exact hapart.forall hpart hother heq List.mem_cons_self (List.mem_cons_of_mem other.head hbody)

theorem exists_rest_of_mem_parts {part : Part} (h : part ∈ parts lines) :
    ∃ rest, part.body = (bodyBehind part.head rest).1 := by
  induction lines using parts.induct with
  | case1 =>
    rw [parts] at h
    cases h
  | case2 line rest ih =>
    rw [parts] at h
    rcases List.mem_cons.mp h with rfl | h
    · exact ⟨rest, rfl⟩
    · exact ih h

/-! ## Parts that are kept -/

namespace Part

variable {part later : Part}

/-- A part is there when it has been added. -/
theorem isRecordedIn_addTo (part : Part) (script : Script) :
    part.IsRecordedIn (part.addTo script) where
  command := by
    intro hline
    rw [addTo, hline]
    exact List.mem_append_right _ List.mem_cons_self
  function := by
    intro name params hline
    rw [addTo, hline]
    exact Declarations.find?_declare_self name _ _
  hotkey := by
    intro label inline hline
    rw [addTo, hline]
    exact Declarations.find?_declare_self label _ _

theorem topLevel_subset_addTo (later : Part) (script : Script) :
    script.topLevel ⊆ (later.addTo script).topLevel := by
  unfold addTo
  split
  case h_7 => exact List.subset_append_left _ _
  all_goals exact fun _ h => h

theorem functions_addTo {name : String} (h : later.declares? ≠ some (.function name))
    (script : Script) :
    (later.addTo script).functions.find? name = script.functions.find? name := by
  rw [declares?] at h
  unfold addTo
  split
  case h_4 other params hline =>
    rw [hline] at h
    exact Declarations.find?_declare_of_ne (fun heq => h (by rw [heq])) _ _
  all_goals rfl

theorem hotkeys_addTo {label : String} (h : later.declares? ≠ some (.hotkey label))
    (script : Script) : (later.addTo script).hotkeys.find? label = script.hotkeys.find? label := by
  rw [declares?] at h
  unfold addTo
  split
  case h_5 other inline hline =>
    rw [hline] at h
    exact Declarations.find?_declare_of_ne (fun heq => h (by rw [heq])) _ _
  all_goals rfl

/-- A part that was there stays there when nothing is declared in its place. -/
theorem IsRecordedIn.addTo (h : part.IsRecordedIn script)
    (hlater : part.declares? ≠ none → later.declares? ≠ part.declares?) :
    part.IsRecordedIn (later.addTo script) where
  command := fun hline => topLevel_subset_addTo later script (h.command hline)
  function := by
    intro name params hline
    rw [declares?, hline] at hlater
    rw [functions_addTo (hlater (Option.some_ne_none _)) script]
    exact h.function name params hline
  hotkey := by
    intro label inline hline
    rw [declares?, hline] at hlater
    rw [hotkeys_addTo (hlater (Option.some_ne_none _)) script]
    exact h.hotkey label inline hline

theorem IsRecordedIn.foldl_addTo {after : List Part} (h : part.IsRecordedIn script)
    (hafter : ∀ later ∈ after, part.declares? ≠ none → later.declares? ≠ part.declares?) :
    part.IsRecordedIn (after.foldl Part.addTo script) := by
  induction after generalizing script with
  | nil => exact h
  | cons later rest ih =>
    exact ih (h.addTo (hafter later List.mem_cons_self)) fun other hother =>
      hafter other (List.mem_cons_of_mem later hother)

end Part

/-- **Every part that is kept is found in the script.** -/
theorem isRecordedIn_readLines {part : Part} (h : IsKept (parts lines) part) (script : Script) :
    part.IsRecordedIn (readLines script lines) := by
  obtain ⟨before, after, hparts, hafter⟩ := h
  rw [readLines_eq_foldl, hparts, List.foldl_append, List.foldl_cons]
  exact (part.isRecordedIn_addTo _).foldl_addTo hafter

/-- A part that declares nothing is always kept. -/
theorem isKept_of_declares?_eq_none {part : Part} {parts : List Part} (hpart : part ∈ parts)
    (h : part.declares? = none) : IsKept parts part := by
  obtain ⟨before, after, hparts⟩ := List.append_of_mem hpart
  exact ⟨before, after, hparts, fun _ _ hne => absurd h hne⟩

theorem IsKept.mem {parts : List Part} {part : Part} (h : IsKept parts part) : part ∈ parts := by
  obtain ⟨before, after, rfl, -⟩ := h
  exact List.mem_append_right before List.mem_cons_self

/-! ## Commands of parts -/

theorem mem_topLevel_addTo {part : Part} :
    c ∈ (part.addTo script).topLevel ↔
      c ∈ script.topLevel ∨ Construct.ofLine part.head.text = .command ∧ c = part.head.command := by
  unfold Part.addTo
  split
  case h_7 hline => simp [hline]
  all_goals simp [*, declareGlobals]

/-- The commands of the top level are those of the parts that are commands. -/
theorem mem_topLevel_readLines :
    c ∈ (readLines script lines).topLevel ↔ c ∈ script.topLevel ∨
      ∃ part ∈ parts lines, Construct.ofLine part.head.text = .command ∧ c = part.head.command := by
  rw [readLines_eq_foldl]
  induction parts lines generalizing script with
  | nil => simp
  | cons part rest ih =>
    rw [List.foldl_cons, ih, mem_topLevel_addTo, List.exists_mem_cons_iff, or_assoc]

/-- The command of a line of the top level is one of the script. -/
theorem command_head_mem {part : Part} (hpart : part ∈ parts lines)
    (hline : Construct.ofLine part.head.text = .command) (script : Script) :
    part.head.command ∈ (readLines script lines).allCommands := by
  have hdeclares : part.declares? = none := by rw [Part.declares?, hline]
  have hrecorded := isRecordedIn_readLines (isKept_of_declares?_eq_none hpart hdeclares) script
  exact mem_allCommands.mpr (.inl (hrecorded.command hline))

/-- The commands of a hotkey that is kept are among those of the script. -/
theorem hotkeyCommands_subset {part : Part} (hkept : IsKept (parts lines) part) {label : String}
    {inline : List Char}
    (hline : Construct.ofLine part.head.text = .hotkey label inline) (script : Script) :
    part.hotkeyCommands inline ⊆ (readLines script lines).allCommands := by
  intro c hc
  have hfind := (isRecordedIn_readLines hkept script).hotkey label inline hline
  exact mem_allCommands.mpr (.inr (.inl ⟨_, Declarations.mem_of_find?_eq_some hfind, hc⟩))

/-- A line of a body that is kept is a command of the script, unless it is a closing brace. -/
theorem command_mem_of_mem_body {part : Part} (hkept : IsKept (parts lines) part)
    (hline : line ∈ part.body)
    (hbrace : line.text ≠ ['}']) (script : Script) :
    line.command ∈ (readLines script lines).allCommands := by
  have hcommand : line.command ∈ bodyCommands part.body :=
    List.mem_map_of_mem (List.mem_filter.mpr ⟨hline, by simpa using hbrace⟩)
  obtain ⟨rest, hbody⟩ := exists_rest_of_mem_parts hkept.mem
  rw [bodyBehind] at hbody
  split at hbody
  case h_1 name params hhead =>
    have hfind := (isRecordedIn_readLines hkept script).function name params hhead
    exact mem_allCommands.mpr (.inr (.inr ⟨_, Declarations.mem_of_find?_eq_some hfind, hcommand⟩))
  case h_2 label inline hhead =>
    split at hbody
    · rename_i hblock
      refine hotkeyCommands_subset hkept hhead script ?_
      rw [Part.hotkeyCommands, if_pos hblock]
      exact hcommand
    · rw [hbody] at hline
      cases hline
  case h_3 =>
    rw [hbody] at hline
    cases hline

/-- The command that stands behind its label is one of the script, if its hotkey is kept. -/
theorem command_mem_of_behindLabel {part : Part} (hkept : IsKept (parts lines) part)
    {label : String}
    {inline : List Char} (hline : Construct.ofLine part.head.text = .hotkey label inline)
    (hblock : opensBlock inline = false) (script : Script) :
    Command.ofText inline part.head.number ∈ (readLines script lines).allCommands := by
  refine hotkeyCommands_subset hkept hline script ?_
  rw [Part.hotkeyCommands, hblock]
  exact List.mem_cons_self

/-- The lines that are commands in the body of a part; what stands behind a label counts as a
line. -/
inductive Part.HasInBody (part : Part) : SourceLine → Prop
  | line {line : SourceLine} (hline : line ∈ part.body) : part.HasInBody line
  | behindLabel {label : String} {inline : List Char} (hlabel : Construct.ofLine part.head.text =
      .hotkey label inline)
      (hblock : opensBlock inline = false) : part.HasInBody ⟨part.head.number, inline⟩

/-- What is a command in a body that is kept is one of the script, unless it is a closing brace. -/
theorem Part.HasInBody.command_mem {part : Part} (h : part.HasInBody line)
    (hkept : IsKept (parts lines) part)
    (hbrace : line.text ≠ ['}']) (script : Script) :
    line.command ∈ (readLines script lines).allCommands := by
  cases h with
  | line hline => exact command_mem_of_mem_body hkept hline hbrace script
  | behindLabel hlabel hblock => exact command_mem_of_behindLabel hkept hlabel hblock script

end ActionBoard.Script
