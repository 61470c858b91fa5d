import ActionBoard.Proofs.Script.Colons
import Mathlib.Data.List.Infix

/-!
# Labels without a brace

A body begins behind the brace that opens it and ends with the line in which as many braces are
closed as are opened.  A label may also stand alone, with nothing behind it and no brace in the next
line.  Such a bare label opens no brace, but a body is collected behind it all the same, as if one
were open.  Where all braces are closed there is no further brace to end this body, so it takes in
every line up to the end of the text, the headers and labels among them.

So headers and labels that stand where all braces are closed are read as what they are if and only
if no bare label stands before them where all braces are closed.  Between open braces a bare label
does no such harm: its body ends at the closing brace, and reading goes on behind it.

* `BracesInPlace`: lines whose headers and labels have braces at their ends only, and in which
  nothing is closed that is not open.
* `exists_behind`: the step.  The body that a line begins ends before a place where all braces are
  closed, unless the line is a bare label itself.
* `exists_front`: the run.  What is read up to such a place leaves the lines behind it as they are.
* `exists_last_part`: the first bare label where all braces are closed is the last thing that is
  read.
* `definitions_are_recorded_unless_behind_a_bare_label`: what becomes of a header or a label.
-/

namespace ActionBoard.Script

variable {lines earlier between before after behind rest : List SourceLine} {line next : SourceLine}
variable {text inline : List Char} {name label : String} {params : List String} {depth : Int}

/-! ## Counting braces -/

/-- How many braces lines open more than they close. -/
def braceDepth : List SourceLine → Int
  | [] => 0
  | line :: rest => braceBalance line.text + braceDepth rest

@[simp] theorem braceDepth_nil : braceDepth [] = 0 := rfl

@[simp] theorem braceDepth_cons (line : SourceLine) (rest : List SourceLine) :
    braceDepth (line :: rest) = braceBalance line.text + braceDepth rest := rfl

@[simp] theorem braceDepth_append (before after : List SourceLine) :
    braceDepth (before ++ after) = braceDepth before + braceDepth after := by
  induction before with
  | nil => rw [List.nil_append, braceDepth_nil, Int.zero_add]
  | cons line before ih =>
    rw [List.cons_append, braceDepth_cons, braceDepth_cons, ih, Int.add_assoc]

/-- A line with a brace at its end, or none, opens one or none. -/
theorem braceBalance_of_notMem (hopening : '{' ∉ text.dropLast) (hclosing : '}' ∉ text) :
    braceBalance text = if '{' ∈ text then 1 else 0 := by
  rw [braceBalance, List.count_eq_zero_of_not_mem hclosing]
  split
  · rename_i hmem
    have hne : text ≠ [] := List.ne_nil_of_mem hmem
    have hlast : '{' = text.getLast hne := by
      rw [← List.dropLast_append_getLast hne, List.mem_append, List.mem_singleton] at hmem
      exact hmem.resolve_left hopening
    rw [← List.dropLast_append_getLast hne, ← hlast, List.count_append,
      List.count_eq_zero_of_not_mem hopening]
    rfl
  · rename_i hmem
    rw [List.count_eq_zero_of_not_mem hmem]
    rfl

/-- A body ends where it closes more braces than it opens. -/
theorem exists_closing (hopen : 0 < depth) (hclosed : depth + braceDepth before ≤ 0) :
    ∃ body closing behind, before = body ++ closing :: behind ∧
      ∀ rest, collectBlock depth (before ++ rest) = (body, behind ++ rest) := by
  induction before generalizing depth with
  | nil =>
    rw [braceDepth_nil] at hclosed
    omega
  | cons line before ih =>
    by_cases hend : depth + braceBalance line.text ≤ 0
    · refine ⟨[], line, before, rfl, fun rest => ?_⟩
      rw [List.cons_append, collectBlock]
      exact if_pos hend
    · rw [braceDepth_cons] at hclosed
      obtain ⟨body, closing, behind, rfl, hcollect⟩ := ih (Int.not_le.mp hend) (by omega)
      refine ⟨line :: body, closing, behind, rfl, fun rest => ?_⟩
      rw [List.cons_append, collectBlock]
      dsimp only
      rw [if_neg hend, hcollect rest]

/-- A body that is not closed goes on to the end. -/
theorem collectBlock_of_open (hopen : ∀ start, start <+: lines → 0 < depth + braceDepth start) :
    collectBlock depth lines = (lines, []) := by
  induction lines generalizing depth with
  | nil => rfl
  | cons line rest ih =>
    have hline : 0 < depth + braceBalance line.text := by
      simpa using hopen [line] (List.prefix_append [line] rest)
    have hrest : collectBlock (depth + braceBalance line.text) rest = (rest, []) :=
      ih fun start hstart => by
      have hlonger := hopen (line :: start) (List.cons_prefix_cons.mpr ⟨rfl, hstart⟩)
      rw [braceDepth_cons] at hlonger
      omega
    rw [collectBlock]
    dsimp only
    rw [if_neg (Int.not_le.mpr hline), hrest]

/-! ## Headers and labels -/

/-- Whether a line is the header of a function or the label of a hotkey. -/
def isDefinition (text : List Char) : Bool :=
  match Construct.ofLine text with
  | .function _ _ | .hotkey _ _ => true
  | _ => false

theorem isDefinition_of_function (h : Construct.ofLine text = .function name params) :
    isDefinition text = true := by
  rw [isDefinition, h]

theorem isDefinition_of_hotkey (h : Construct.ofLine text = .hotkey label inline) :
    isDefinition text = true := by
  rw [isDefinition, h]

/-- A line with a brace and nothing else is no header and no label. -/
theorem ne_brace_of_isDefinition (h : isDefinition text = true) : text ≠ ['{'] := by
  rintro rfl
  exact absurd h (by decide)

/-- Lines with their braces in place: in a header or a label the only brace is an opening one at the
end, and no line closes a brace that is not open. -/
structure BracesInPlace (lines : List SourceLine) : Prop where
  definitions : ∀ line ∈ lines, isDefinition line.text = true →
    '{' ∉ line.text.dropLast ∧ '}' ∉ line.text
  closings : ∀ start, start <+: lines → 0 ≤ braceDepth start

theorem bracesInPlace_iff : BracesInPlace lines ↔
    (∀ line ∈ lines, isDefinition line.text = true → '{' ∉ line.text.dropLast ∧ '}' ∉ line.text) ∧
      ∀ start ∈ lines.inits, 0 ≤ braceDepth start := by
  simp only [List.mem_inits]
  exact ⟨fun h => ⟨h.definitions, h.closings⟩, fun h => ⟨h.1, h.2⟩⟩

instance (lines : List SourceLine) : Decidable (BracesInPlace lines) :=
  decidable_of_iff _ bracesInPlace_iff.symm

theorem BracesInPlace.braceBalance (h : BracesInPlace lines) (hline : line ∈ lines)
    (hdefinition : isDefinition line.text = true) :
    Script.braceBalance line.text = if '{' ∈ line.text then 1 else 0 := by
  obtain ⟨hopening, hclosing⟩ := h.definitions line hline hdefinition
  exact braceBalance_of_notMem hopening hclosing

theorem mem_of_ofLine_function (h : Construct.ofLine text = .function name params) :
    '{' ∈ text := by
  unfold Construct.ofLine at h
  repeat' split at h
  all_goals cases h
  rename_i hheader
  rw [readHeader?] at hheader
  obtain ⟨head, hhead, -⟩ := Option.bind_eq_some_iff.mp hheader
  rw [dropLast?] at hhead
  split at hhead
  · rename_i hlast
    exact List.mem_of_getLast? hlast
  · cases hhead

theorem mem_of_ofLine_hotkey (h : Construct.ofLine text = .hotkey label ['{']) : '{' ∈ text := by
  obtain ⟨written, after, hsplit, -, htrim⟩ := splitLabel?_of_ofLine h
  have hafter : '{' ∈ after := trim_subset after (htrim ▸ List.mem_cons_self)
  rw [eq_of_splitLabel? hsplit]
  exact List.mem_append_right written (List.mem_cons_of_mem _ (List.mem_cons_of_mem _ hafter))

/-- A brace at the end of the line of a label stands behind the label. -/
theorem notMem_of_ofLine_hotkey (h : Construct.ofLine text = .hotkey label [])
    (hopening : '{' ∉ text.dropLast) :
    '{' ∉ text := by
  obtain ⟨written, after, hsplit, -, htrim⟩ := splitLabel?_of_ofLine h
  rw [eq_of_splitLabel? hsplit] at hopening ⊢
  have hbehind : '{' ∉ after := fun hmem => by
    have hleft := Text.mem_trim hmem (by decide)
    rw [← htrim] at hleft
    cases hleft
  have hlabel : '{' ∉ written := by
    intro hmem
    rw [List.dropLast_append_of_ne_nil (List.cons_ne_nil _ _)] at hopening
    exact hopening (List.mem_append_left _ hmem)
  simp [hlabel, hbehind]

/-! ## Bare labels -/

/-- A label with nothing behind it, and no opening brace in the next line. -/
def IsBareLabel (line : SourceLine) (rest : List SourceLine) : Prop :=
  (∃ label, Construct.ofLine line.text = .hotkey label []) ∧ ∀ next ∈ rest.head?, next.text ≠ ['{']

/-- Lines that stand behind a bare label which itself stands where all braces are closed. -/
def FollowsBareLabel (before behind : List SourceLine) : Prop :=
  ∃ earlier opening between, before = earlier ++ opening :: between ∧ braceDepth earlier = 0 ∧
    IsBareLabel opening (between ++ behind)

theorem skipOpening_of_ne
    (h : ∀ next ∈ lines.head?, next.text ≠ ['{']) : skipOpening lines = lines := by
  cases lines with
  | nil => rfl
  | cons next rest => exact if_neg (h next rfl)

theorem skipOpening_of_eq
    (h : next.text = ['{']) (rest : List SourceLine) : skipOpening (next :: rest) = rest :=
  if_pos h

/-- Where a bare label is followed, there is a first one. -/
theorem exists_first_bare_label (h : FollowsBareLabel before behind) :
    ∃ earlier opening between, before = earlier ++ opening :: between ∧ braceDepth earlier = 0 ∧
      IsBareLabel opening (between ++ behind) ∧
        ¬ FollowsBareLabel earlier (opening :: between ++ behind) := by
  obtain ⟨earlier, opening, between, hsplit, hclosed, hbare⟩ := h
  induction hlength : earlier.length
    using Nat.strong_induction_on generalizing earlier opening between with
  | _ length ih =>
    by_cases hfollows : FollowsBareLabel earlier (opening :: between ++ behind)
    · obtain ⟨first, other, inner, rfl, hfirst, hother⟩ := hfollows
      refine ih first.length ?_ first other (inner ++ opening :: between) ?_ hfirst ?_ rfl
      · rw [← hlength, List.length_append, List.length_cons]
        omega
      · rw [hsplit, List.append_assoc, List.cons_append]
      · rwa [List.append_assoc]
    · exact ⟨earlier, opening, between, hsplit, hclosed, hbare, hfollows⟩

/-! ## Reading up to a place where all braces are closed -/

/-- A body that begins behind an open brace ends before a place where all braces are closed. -/
theorem exists_behind_block (hopen : 1 + braceDepth before ≤ 0) (after : List SourceLine) :
    ∃ taken behind, before = taken ++ behind ∧ (collectBlock 1 (before ++ after)).2 =
      behind ++ after := by
  obtain ⟨body, closing, behind, hsplit, hcollect⟩ := exists_closing Int.one_pos hopen
  refine ⟨body ++ [closing], behind, ?_, ?_⟩
  · rw [hsplit, List.append_assoc, List.singleton_append]
  · rw [hcollect after]

/-- So does the body of a label with nothing behind it if its brace is in the next line, or else if
another brace is open. -/
theorem exists_behind_skipOpening
    (hafter : ∀ next ∈ after.head?, next.text ≠ ['{']) (hopen : braceDepth before ≤ 0)
    (hbare : (∀ next ∈ (before ++ after).head?, next.text ≠ ['{']) → braceDepth before < 0) :
    ∃ taken behind, before = taken ++ behind ∧
      (collectBlock 1 (skipOpening (before ++ after))).2 = behind ++ after := by
  by_cases hnext : ∀ next ∈ (before ++ after).head?, next.text ≠ ['{']
  · rw [skipOpening_of_ne hnext]
    have hless : 1 + braceDepth before ≤ 0 := by
      have hopening := hbare hnext
      omega
    exact exists_behind_block hless after
  · cases before with
    | nil => exact absurd hafter hnext
    | cons next before =>
      have hbrace : next.text = ['{'] := by
        by_contra hne
        exact hnext (by rintro _ ⟨⟩; exact hne)
      have hbalance : braceBalance next.text = 1 := by rw [hbrace]; rfl
      rw [braceDepth_cons, hbalance] at hopen
      obtain ⟨taken, behind, rfl, hbehind⟩ := exists_behind_block hopen after
      refine ⟨next :: taken, behind, rfl, ?_⟩
      rw [List.cons_append, skipOpening_of_eq hbrace]
      exact hbehind

/-- **What a line begins ends before a place where all braces are closed**, unless the line is a
bare label that stands where they are closed. -/
theorem exists_behind (hlines : BracesInPlace (earlier ++ line :: before ++ after))
    (hclosed : braceDepth (earlier ++ line :: before) = 0)
    (hafter : ∀ next ∈ after.head?, next.text ≠ ['{'])
    (hbare : braceDepth earlier = 0 → ¬ IsBareLabel line (before ++ after)) :
    ∃ taken behind, before = taken ++ behind ∧ (bodyBehind line (before ++ after)).2 =
      behind ++ after := by
  have hmem : line ∈ earlier ++ line :: before ++ after := by simp
  have hearlier : 0 ≤ braceDepth earlier :=
    hlines.closings earlier ⟨line :: before ++ after, by simp⟩
  rw [braceDepth_append, braceDepth_cons] at hclosed
  unfold bodyBehind
  split
  case h_1 name params hline =>
    have hbalance := hlines.braceBalance hmem (isDefinition_of_function hline)
    rw [if_pos (mem_of_ofLine_function hline)] at hbalance
    exact exists_behind_block (by omega) after
  case h_2 label inline hline =>
    have hbalance := hlines.braceBalance hmem (isDefinition_of_hotkey hline)
    by_cases hempty : inline = []
    · subst hempty
      have hnone := notMem_of_ofLine_hotkey hline
        (hlines.definitions line hmem (isDefinition_of_hotkey hline)).1
      rw [if_neg hnone] at hbalance
      have hopen : braceDepth before ≤ 0 := by omega
      have htaken := exists_behind_skipOpening hafter hopen fun hnext => by
        -- a bare label stands between open braces, and the brace that closes them ends its body
        have hinside : braceDepth earlier ≠ 0 := fun hzero => hbare hzero ⟨⟨label, hline⟩, hnext⟩
        omega
      simpa [opensBlock] using htaken
    · by_cases hbrace : inline = ['{']
      · subst hbrace
        rw [if_pos (mem_of_ofLine_hotkey hline)] at hbalance
        have hopen : 1 + braceDepth before ≤ 0 := by omega
        simpa [opensBlock] using exists_behind_block hopen after
      · exact ⟨[], before, rfl, by simp [opensBlock, hempty, hbrace]⟩
  case h_3 => exact ⟨[], before, rfl, rfl⟩

/-- **Reading up to a place where all braces are closed leaves what is behind it**, as long as
no bare label comes before.  The induction is on the lines in front of the place; those read
already are `earlier`. -/
theorem exists_front (earlier : List SourceLine)
    (hlines : BracesInPlace (earlier ++ before ++ after))
    (hclosed : braceDepth (earlier ++ before) = 0)
    (hafter : ∀ next ∈ after.head?, next.text ≠ ['{'])
    (hfree : ¬ FollowsBareLabel (earlier ++ before) after) :
    ∃ front, parts (before ++ after) = front ++ parts after := by
  induction hlength : before.length using Nat.strong_induction_on generalizing earlier before with
  | _ length ih =>
    cases before with
    | nil => exact ⟨[], rfl⟩
    | cons line before =>
      have hbare : braceDepth earlier = 0 → ¬ IsBareLabel line (before ++ after) :=
        fun hzero hlabel =>
        hfree ⟨earlier, line, before, rfl, hzero, hlabel⟩
      obtain ⟨taken, behind, rfl, hbehind⟩ := exists_behind hlines hclosed hafter hbare
      have hmoved : earlier ++ line :: taken ++ behind = earlier ++ line :: (taken ++ behind) := by
        simp
      have hshorter : behind.length < length := by
        rw [← hlength, List.length_cons, List.length_append]
        omega
      rw [← hmoved] at hlines hclosed hfree
      obtain ⟨front, hfront⟩ :=
        ih behind.length hshorter (earlier ++ line :: taken) hlines hclosed hfree rfl
      refine ⟨⟨line, (bodyBehind line (taken ++ behind ++ after)).1⟩ :: front, ?_⟩
      rw [List.cons_append, parts, hbehind, hfront, List.cons_append]

/-- A line where all braces are closed is read at the top level. -/
theorem mem_parts_of_closed (hlines : BracesInPlace (before ++ line :: after))
    (hclosed : braceDepth before = 0)
    (hbrace : line.text ≠ ['{']) (hfree : ¬ FollowsBareLabel before (line :: after)) :
    ⟨line, (bodyBehind line after).1⟩ ∈ parts (before ++ line :: after) := by
  have hnext : ∀ next ∈ (line :: after).head?, next.text ≠ ['{'] := by
    rintro _ ⟨⟩
    exact hbrace
  obtain ⟨front, hfront⟩ := exists_front [] hlines hclosed hnext hfree
  rw [hfront, parts]
  exact List.mem_append_right front List.mem_cons_self

/-- **A bare label where all braces are closed is the last thing that is read**: its body is
everything behind it. -/
theorem parts_of_bare_label (hlines : BracesInPlace (earlier ++ line :: rest))
    (hclosed : braceDepth earlier = 0)
    (hbare : IsBareLabel line rest) : parts (line :: rest) = [⟨line, rest⟩] := by
  obtain ⟨⟨label, hline⟩, hnext⟩ := hbare
  have hmem : line ∈ earlier ++ line :: rest := by simp
  have hdefinition : isDefinition line.text = true := isDefinition_of_hotkey hline
  have hbalance := hlines.braceBalance hmem hdefinition
  rw [if_neg (notMem_of_ofLine_hotkey hline (hlines.definitions line hmem hdefinition).1)]
    at hbalance
  have hopen : ∀ start, start <+: rest → 0 < 1 + braceDepth start := fun start hstart => by
    have hlonger := hlines.closings (earlier ++ line :: start)
      ((List.prefix_append_right_inj earlier).mpr (List.cons_prefix_cons.mpr ⟨rfl, hstart⟩))
    rw [braceDepth_append, braceDepth_cons] at hlonger
    omega
  have hbody : bodyBehind line rest = (rest, []) := by
    rw [bodyBehind, hline]
    simpa [opensBlock, skipOpening_of_ne hnext] using collectBlock_of_open hopen
  rw [parts, hbody, parts]

/-! ## What becomes of a header or a label -/

/-- Behind a bare label nothing is read as what it is: the first such label is the last part. -/
theorem exists_last_part (hlines : BracesInPlace (before ++ behind))
    (h : FollowsBareLabel before behind) :
    ∃ front earlier opening between, before = earlier ++ opening :: between ∧
      (∃ label, Construct.ofLine opening.text = .hotkey label []) ∧
        parts (before ++ behind) = front ++ [⟨opening, between ++ behind⟩] := by
  obtain ⟨earlier, opening, between, rfl, hclosed, hbare, hfree⟩ := exists_first_bare_label h
  have hsplit : earlier ++ opening :: between ++ behind =
      earlier ++ opening :: (between ++ behind) := by simp
  rw [hsplit] at hlines ⊢
  have hopening : ∀ next ∈ (opening :: (between ++ behind)).head?, next.text ≠ ['{'] := by
    rintro _ ⟨⟩
    obtain ⟨⟨label, hline⟩, -⟩ := hbare
    exact ne_brace_of_isDefinition (isDefinition_of_hotkey hline)
  obtain ⟨front, hfront⟩ := exists_front [] hlines hclosed hopening hfree
  refine ⟨front, earlier, opening, between, rfl, hbare.1, ?_⟩
  rw [hfront, parts_of_bare_label hlines hclosed hbare]

/-- **Headers and labels are recorded unless they stand behind a bare label.**  This is so for
every text whose braces are in place and every header or label in it that stands where all
braces are closed.  If no bare label stands before it, it is read with its own body, and
recorded as long as nothing behind it declares the same again.  Otherwise it is not read as a
header or a label: everything behind the first bare label, up to the end of the text, is the
body of that label's hotkey. -/
theorem definitions_are_recorded_unless_behind_a_bare_label (text : String)
    (hlines : BracesInPlace (sourceLines text.toList))
    (hsplit : sourceLines text.toList = before ++ line :: after)
    (hclosed : braceDepth before = 0) (hline : isDefinition line.text = true) :
    let script := ofText text
    let whole := parts (sourceLines text.toList)
    let part : Part := ⟨line, (bodyBehind line after).1⟩
    (¬ FollowsBareLabel before (line :: after) →
        part ∈ whole ∧ (IsKept whole part → part.IsRecordedIn script)) ∧
      (FollowsBareLabel before (line :: after) → (∀ other ∈ whole, other.head ≠ line) ∧
        ∃ earlier opening between label, before = earlier ++ opening :: between ∧
          Construct.ofLine opening.text = .hotkey label [] ∧
            script.hotkeys.find? label = some (bodyCommands (between ++ line :: after))) := by
  intro script whole part
  have hparts : whole = parts (before ++ line :: after) := congrArg parts hsplit
  rw [hsplit] at hlines
  refine ⟨fun hfree => ?_, fun hfollows => ?_⟩
  · refine ⟨?_, fun hkept => isRecordedIn_readLines hkept {}⟩
    rw [hparts]
    exact mem_parts_of_closed hlines hclosed (ne_brace_of_isDefinition hline) hfree
  · obtain ⟨front, earlier, opening, between, hbefore, ⟨label, hlabel⟩, hlast⟩ :=
      exists_last_part hlines hfollows
    have hend : whole = front ++ [⟨opening, between ++ line :: after⟩] := hparts.trans hlast
    refine ⟨fun other hother heq => ?_, earlier, opening, between, label, hbefore, hlabel, ?_⟩
    · have hbare : ⟨opening, between ++ line :: after⟩ ∈ whole :=
        hend ▸ List.mem_append_right front List.mem_cons_self
      refine head_notMem_body (nodup_sourceLines text.toList) hother hbare ?_
      rw [heq]
      exact List.mem_append_right between List.mem_cons_self
    · have hkept : IsKept whole ⟨opening, between ++ line :: after⟩ :=
        ⟨front, [], hend, fun _ hnone => nomatch hnone⟩
      exact (isRecordedIn_readLines hkept {}).hotkey label [] hlabel

/-- A function behind a block with a label in it. -/
theorem definitions_are_recorded_unless_behind_a_bare_label_of_block :
    let text := "F1::\n\x7b\nF2::\nClick(1, 2)\n\x7d\nGo() \x7b\nClick(3, 4)\n\x7d"
    let before : List SourceLine :=
      [⟨1, "F1::".toList⟩, ⟨2, ['{']⟩, ⟨3, "F2::".toList⟩, ⟨4, "Click(1, 2)".toList⟩, ⟨5, ['}']⟩]
    let line : SourceLine := ⟨6, "Go() \x7b".toList⟩
    let after : List SourceLine := [⟨7, "Click(3, 4)".toList⟩, ⟨8, ['}']⟩]
    BracesInPlace (sourceLines text.toList) ∧ sourceLines text.toList = before ++ line :: after ∧
      braceDepth before = 0 ∧ isDefinition line.text = true ∧
        ¬ FollowsBareLabel before (line :: after) ∧
      (ofText text).functions.find? "Go" =
        some ⟨"Go", [], [⟨"Click", ["3", "4"], "Click(3, 4)", 7⟩]⟩ := by
  intro text before line after
  have hlines : BracesInPlace (sourceLines text.toList) := by decide +kernel
  have hsplit : sourceLines text.toList = before ++ line :: after := by decide +kernel
  have hclosed : braceDepth before = 0 := by decide +kernel
  have hline : isDefinition line.text = true := by decide +kernel
  have hheader : Construct.ofLine line.text = .function "Go" [] := by decide +kernel
  have hkept : IsKept (parts (sourceLines text.toList)) ⟨line, (bodyBehind line after).1⟩ :=
    ⟨[⟨⟨1, "F1::".toList⟩, [⟨3, "F2::".toList⟩, ⟨4, "Click(1, 2)".toList⟩]⟩], [], by decide +kernel,
      fun _ hnone => nomatch hnone⟩
  have hcommands : bodyCommands (bodyBehind line after).1 =
      [⟨"Click", ["3", "4"], "Click(3, 4)", 7⟩] := by
    decide +kernel
  obtain ⟨hread, hlost⟩ :=
    definitions_are_recorded_unless_behind_a_bare_label text hlines hsplit hclosed hline
  have hfree : ¬ FollowsBareLabel before (line :: after) :=
    fun hfollows => (hlost hfollows).1 _ hkept.mem rfl
  have hfound := ((hread hfree).2 hkept).function "Go" [] hheader
  rw [hcommands] at hfound
  exact ⟨hlines, hsplit, hclosed, hline, hfree, hfound⟩

/-- **A bare label takes in a function behind it**: all braces are in place, and the function
is not declared. -/
theorem bare_label_takes_in_a_function :
    let text := "F1::\nGo() \x7b\nClick(1, 2)\n\x7d"
    let before : List SourceLine := [⟨1, "F1::".toList⟩]
    let line : SourceLine := ⟨2, "Go() \x7b".toList⟩
    let after : List SourceLine := [⟨3, "Click(1, 2)".toList⟩, ⟨4, ['}']⟩]
    BracesInPlace (sourceLines text.toList) ∧ sourceLines text.toList = before ++ line :: after ∧
      braceDepth before = 0 ∧ Construct.ofLine line.text = .function "Go" [] ∧
        (ofText text).functions = [] ∧
      (ofText text).hotkeys =
        [("F1", [⟨"Go()", ["\x7b"], "Go() \x7b", 2⟩,
          ⟨"Click", ["1", "2"], "Click(1, 2)", 3⟩])] := by
  refine ⟨?_, ?_, ?_, ?_, ?_, ?_⟩ <;> decide +kernel

end ActionBoard.Script
