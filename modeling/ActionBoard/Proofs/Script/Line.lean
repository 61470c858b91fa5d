import ActionBoard.Proofs.Script.Argument
import ActionBoard.Proofs.Text.Case
import ActionBoard.Script.Construct
import ActionBoard.Text.Mark
import Mathlib.Data.List.Basic

/-!
# Lines that are written for one construct

A line is tried against the constructs in a fixed order, and the first that fits is taken.  Here
are the four kinds of lines that a script is written in, each with the reason why nothing before
its own construct fits:

* `ofLine_callText`: a call is a command,
* `ofLine_headerText`: a header begins a function,
* `ofLine_labelText`: a label with a brace behind it begins a hotkey,
* `ofLine_globalText`: `global` with an assignment declares a global.

Of a call this is said for any text between its parentheses: it is a command or else, where two
colons stand in it, the label of a hotkey (`ofLine_call_eq`).

The keywords of directives and globals are followed by white space.  So none of them is found where
a character that is in no keyword comes before the first white space (`afterKeyword?_eq_none`): the
parenthesis of a call or a header, the colon of a label.
-/

namespace ActionBoard.Script

/-! ## Names and labels -/

/-- A name of letters, digits and underscores of ASCII that begins with no digit. -/
structure IsIdentifier (name : List Char) : Prop where
  starts : ∃ c ∈ name.head?, Text.startsName c = true
  ascii : ∀ c ∈ name, (Text.isAsciiLetter c || Text.isAsciiDigit c || c == '_') = true

theorem isIdentifier_iff {name : List Char} :
    IsIdentifier name ↔ name.head?.any Text.startsName = true ∧
    (name.all fun c => Text.isAsciiLetter c || Text.isAsciiDigit c || c == '_') = true := by
  rw [Option.any_eq_true, List.all_eq_true]
  exact ⟨fun h => ⟨h.starts, h.ascii⟩, fun h => ⟨h.1, h.2⟩⟩

instance (name : List Char) : Decidable (IsIdentifier name) :=
  decidable_of_iff _ isIdentifier_iff.symm

/-- A character of a label: a word character, or the symbol of a modifier key. -/
def isLabelChar (c : Char) : Bool :=
  Text.isWord c || ['^', '!', '+', '#'].contains c

/-- A label of a hotkey. -/
structure IsLabel (label : List Char) : Prop where
  ne_nil : label ≠ []
  chars : ∀ c ∈ label, isLabelChar c = true

/-- A character outside of a class is not in a text of that class. -/
theorem notMem_of_forall {p : Char → Bool} {text : List Char}
    (h : ∀ c ∈ text, p c = true) {c : Char} (hc : p c = false) : c ∉ text := by
  intro hmem
  rw [h c hmem] at hc
  cases hc

theorem isBlank_eq_false_of_isLabelChar {c : Char} (h : isLabelChar c = true) :
    Text.isBlank c = false := by
  rw [isLabelChar, Bool.or_eq_true] at h
  rcases h with h | h
  · exact Text.isBlank_eq_false_of_isWord h
  · simp only [List.contains_eq_mem, List.mem_cons, List.not_mem_nil, or_false, decide_eq_true_eq]
      at h
    rcases h with rfl | rfl | rfl | rfl <;> decide

/-- Characters of labels and names mark nothing. -/
theorem isMarking_eq_false_of_isLabelChar {c : Char} (h : isLabelChar c = true) :
    isMarking c = false := by
  rw [Bool.eq_false_iff]
  intro hmark
  simp only [isMarking, List.contains_eq_mem, List.mem_cons, List.not_mem_nil, or_false,
    decide_eq_true_eq] at hmark
  rcases hmark with rfl | rfl | rfl | rfl | rfl | rfl
  all_goals exact absurd h (by decide)

namespace IsIdentifier

variable {name : List Char}

theorem isWord (h : IsIdentifier name) : ∀ c ∈ name, Text.isWord c = true := by
  intro c hc
  rw [Text.isWord, h.ascii c hc]
  rfl

theorem isLabelChar (h : IsIdentifier name) : ∀ c ∈ name, Script.isLabelChar c = true := by
  intro c hc
  rw [Script.isLabelChar, h.isWord c hc]
  rfl

theorem exists_cons (h : IsIdentifier name) :
    ∃ c rest, name = c :: rest ∧ Text.startsName c = true := by
  obtain ⟨c, hc, hstart⟩ := h.starts
  cases name with
  | nil => cases hc
  | cons d rest =>
    cases hc
    exact ⟨c, rest, rfl, hstart⟩

/-- A name is read up to the first character that is in no name. -/
theorem readName?_append (h : IsIdentifier name) {rest : List Char}
    (hrest : ∀ c ∈ rest.head?, Text.isWord c = false) : readName? (name ++ rest) =
      some (name, rest) := by
  obtain ⟨c, others, rfl, hstart⟩ := h.exists_cons
  have hothers : ∀ d ∈ others, Text.isWord d = true :=
    fun d hd => h.isWord d (List.mem_cons_of_mem c hd)
  have htake : rest.takeWhile Text.isWord = [] := by
    cases rest with
    | nil => rfl
    | cons d rest => rw [List.takeWhile_cons, hrest d rfl, if_neg Bool.false_ne_true]
  have hdrop : rest.dropWhile Text.isWord = rest := by
    cases rest with
    | nil => rfl
    | cons d rest => rw [List.dropWhile_cons, hrest d rfl, if_neg Bool.false_ne_true]
  rw [List.cons_append, readName?, if_pos hstart, List.takeWhile_append_of_pos hothers,
    List.dropWhile_append_of_pos hothers, htake, hdrop, List.append_nil]

end IsIdentifier

/-! ## Keywords -/

/-- No keyword is at the start of a text where a character that is in no keyword comes before
any white space. -/
theorem afterKeyword?_eq_none {word before : List Char} {c : Char} {rest : List Char}
    (hbefore : ∀ d ∈ before, Text.isBlank d = false) (hc : Text.isBlank c = false)
    (hword : ∀ letter ∈ word, Text.sameLetter letter c = false) :
    afterKeyword? word (before ++ c :: rest) = none := by
  induction word generalizing before with
  | nil =>
    cases before with
    | nil => simp [afterKeyword?, Text.dropWord?, afterBlanks?, hc]
    | cons d before =>
      simp [afterKeyword?, Text.dropWord?, afterBlanks?, hbefore d List.mem_cons_self]
  | cons letter word ih =>
    cases before with
    | nil => simp [afterKeyword?, Text.dropWord?, hword letter List.mem_cons_self]
    | cons d before =>
      have hrest := ih (fun e he => hbefore e (List.mem_cons_of_mem d he)) fun other hother =>
        hword other (List.mem_cons_of_mem letter hother)
      rw [afterKeyword?] at hrest
      rw [afterKeyword?, List.cons_append, Text.dropWord?]
      split
      · exact hrest
      · rfl

/-- No keyword has a parenthesis or a colon in it. -/
theorem sameLetter_keywords {c : Char} (hc : c ∈ ['(', ':']) : Text.isBlank c = false ∧
    (∀ letter ∈ "#requires".toList, Text.sameLetter letter c = false) ∧
      ∀ letter ∈ "global".toList, Text.sameLetter letter c = false := by
  have hletters : Text.isBlank c = false ∧
      ("#requires".toList.all fun letter => !Text.sameLetter letter c) = true ∧
        ("global".toList.all fun letter => !Text.sameLetter letter c) = true := by
    simp only [List.mem_cons, List.not_mem_nil, or_false] at hc
    rcases hc with rfl | rfl
    · decide
    · decide
  simpa only [List.all_eq_true, Bool.not_eq_true'] using hletters

/-- A line is no directive that requires a version and declares no globals. -/
theorem no_keyword {before : List Char} {c : Char} (h : ∀ d ∈ before, isLabelChar d = true)
    (hc : c ∈ ['(', ':'])
    (rest : List Char) :
    requiredVersion? (before ++ c :: rest) = none ∧
      afterKeyword? "global".toList (before ++ c :: rest) = none := by
  obtain ⟨hblank, hrequires, hglobal⟩ := sameLetter_keywords hc
  have hbefore : ∀ d ∈ before, Text.isBlank d = false :=
    fun d hd => isBlank_eq_false_of_isLabelChar (h d hd)
  refine ⟨?_, afterKeyword?_eq_none hbefore hblank hglobal⟩
  rw [requiredVersion?, afterKeyword?_eq_none hbefore hblank hrequires]
  rfl

/-! ## Labels -/

theorem splitLabel?_eq_none {text : List Char} (h : ¬ [':', ':'] <:+: text) :
    splitLabel? text = none := by
  induction text using splitLabel?.induct with
  | case1 => rfl
  | case2 c body => exact absurd ⟨[c], body, rfl⟩ h
  | case3 c rest hrest ih =>
    have hinner : ¬ [':', ':'] <:+: rest := fun hinside => h (List.infix_cons hinside)
    rw [splitLabel?, ih hinner]
    · rfl
    · exact hrest

theorem not_infix_cons {rest : List Char} {c : Char} (hc : c ≠ ':')
    (hrest : ¬ [':', ':'] <:+: rest) : ¬ [':', ':'] <:+: c :: rest := by
  rw [List.infix_cons_iff]
  rintro (hstart | hinside)
  · exact hc (List.cons_prefix_cons.mp hstart).1.symm
  · exact hrest hinside

/-- Two colons in a row are on one side of any other character. -/
theorem not_infix_append {before rest : List Char} {c : Char} (hc : c ≠ ':')
    (hbefore : ¬ [':', ':'] <:+: before)
    (hrest : ¬ [':', ':'] <:+: rest) : ¬ [':', ':'] <:+: before ++ c :: rest := by
  induction before with
  | nil => exact not_infix_cons hc hrest
  | cons d before ih =>
    rw [List.cons_append, List.infix_cons_iff]
    rintro (hstart | hinside)
    · obtain ⟨rfl, hsecond⟩ := List.cons_prefix_cons.mp hstart
      cases before with
      | nil => exact hc (List.cons_prefix_cons.mp hsecond).1.symm
      | cons e before =>
        obtain ⟨rfl, -⟩ := List.cons_prefix_cons.mp hsecond
        exact hbefore ⟨[], before, rfl⟩
    · exact ih (fun hinner => hbefore (List.infix_cons hinner)) hinside

theorem not_infix_of_notMem {text : List Char} (h : ':' ∉ text) : ¬ [':', ':'] <:+: text :=
  fun hinside => h (hinside.subset List.mem_cons_self)

theorem no_label_mark_commaSeparated {args : List String}
    (h : ∀ arg ∈ args, ¬ [':', ':'] <:+: arg.toList) : ¬ [':', ':'] <:+: commaSeparated args := by
  induction args with
  | nil => exact not_infix_of_notMem List.not_mem_nil
  | cons arg rest ih =>
    cases rest with
    | nil =>
      rw [commaSeparated, List.map_singleton, List.intercalate_singleton]
      exact h arg List.mem_cons_self
    | cons next rest =>
      have hrest := ih fun other hother => h other (List.mem_cons_of_mem arg hother)
      rw [commaSeparated_cons_cons]
      refine not_infix_append (by decide) (h arg List.mem_cons_self) ?_
      exact not_infix_cons (by decide) hrest

/-! ## The texts of lines -/

/-- A name with arguments in parentheses. -/
def callText (name : List Char) (args : List String) : List Char :=
  name ++ '(' :: (commaSeparated args ++ [')'])

/-- The header of a function. -/
def headerText (name : List Char) (params : List String) : List Char :=
  callText name params ++ [' ', '{']

/-- A label of a hotkey with an opening brace behind it. -/
def labelText (label : List Char) : List Char :=
  label ++ [':', ':', ' ', '{']

/-- A value assigned to a name. -/
def assignmentText (name value : List Char) : List Char :=
  name ++ ' ' :: ':' :: '=' :: ' ' :: value

/-- The declaration of one global. -/
def globalText (name value : List Char) : List Char :=
  "global".toList ++ ' ' :: assignmentText name value

theorem mem_commaSeparated {texts : List String} {c : Char} (h : c ∈ commaSeparated texts) :
    c = ',' ∨ c = ' ' ∨ ∃ text ∈ texts, c ∈ text.toList := by
  induction texts with
  | nil => cases h
  | cons text rest ih =>
    cases rest with
    | nil =>
      rw [commaSeparated, List.map_singleton, List.intercalate_singleton] at h
      exact .inr (.inr ⟨text, List.mem_cons_self, h⟩)
    | cons next rest =>
      rw [commaSeparated_cons_cons, List.mem_append, List.mem_cons, List.mem_cons] at h
      rcases h with h | h | h | h
      · exact .inr (.inr ⟨text, List.mem_cons_self, h⟩)
      · exact .inl h
      · exact .inr (.inl h)
      · rcases ih h with h | h | ⟨other, hother, h⟩
        · exact .inl h
        · exact .inr (.inl h)
        · exact .inr (.inr ⟨other, List.mem_cons_of_mem text hother, h⟩)

/-- What is in no argument, and neither comma nor blank, is not between parentheses. -/
theorem notMem_commaSeparated {texts : List String} {c : Char} (h : ∀ text ∈ texts, c ∉ text.toList)
    (hcomma : c ≠ ',') (hblank : c ≠ ' ') : c ∉ commaSeparated texts := by
  intro hmem
  rcases mem_commaSeparated hmem with rfl | rfl | ⟨text, htext, hc⟩
  · exact hcomma rfl
  · exact hblank rfl
  · exact h text htext hc

variable {name : List Char} {args params : List String}

/-- A name is an argument. -/
theorem IsIdentifier.isArgument (h : IsIdentifier name) : IsArgument name := by
  have hblank : ∀ c ∈ name, Text.isBlank c = false :=
    fun c hc => isBlank_eq_false_of_isLabelChar (h.isLabelChar c hc)
  obtain ⟨c, rest, hcons, -⟩ := h.exists_cons
  refine ⟨hcons ▸ List.cons_ne_nil c rest, fun c hc => hblank c (List.mem_of_mem_head? hc),
    fun c hc => hblank c (List.mem_of_mem_getLast? hc), ?_,
      notMem_of_forall h.isLabelChar (by decide),
    notMem_of_forall h.isLabelChar (by decide),
      not_infix_of_notMem (notMem_of_forall h.isLabelChar (by decide)),
    notMem_of_forall h.isLabelChar (by decide)⟩
  exact .of_unmarked fun c hc => isMarking_eq_false_of_isLabelChar (h.isLabelChar c hc)

/-! ## Calls and headers -/

theorem isOneLine_of_notMem {text : List Char} (h : '\n' ∉ text) : isOneLine text = true := by
  simpa [isOneLine] using h

theorem readName?_call (hname : IsIdentifier name) (inner : List Char) :
    readName? (name ++ '(' :: inner) = some (name, '(' :: inner) := by
  refine hname.readName?_append ?_
  rintro c ⟨⟩
  decide

/-- The arguments of a call stand between its parentheses. -/
theorem readCall?_call (hname : IsIdentifier name) {inner : List Char} (hinner : '\n' ∉ inner) :
    readCall? (name ++ '(' :: (inner ++ [')'])) = some (name, inner) := by
  have hlast : dropLast? ')' (inner ++ [')']) = some inner := by
    simp [dropLast?]
  rw [readCall?, readName?_call hname]
  simp [hlast, isOneLine_of_notMem hinner]

theorem readCall?_callText (hname : IsIdentifier name) (hargs : '\n' ∉ commaSeparated args) :
    readCall? (callText name args) = some (name, commaSeparated args) :=
  readCall?_call hname hargs

theorem readHeader?_eq_none {text : List Char} {c : Char}
    (h : c ≠ '{') : readHeader? (text ++ [c]) = none := by
  have hlast : dropLast? '{' (text ++ [c]) = none := by
    simp [dropLast?, h]
  rw [readHeader?, hlast]
  rfl

/-- Nothing is assigned in a call. -/
theorem readAssignment?_call (hname : IsIdentifier name) (inner : List Char) :
    readAssignment? (name ++ '(' :: inner) = none := by
  have hblank : Text.isBlank '(' = false := rfl
  rw [readAssignment?, readName?_call hname]
  simp [Text.stripStart_cons_of_not hblank]

theorem readCall?_eq_none {text : List Char} (h : '(' ∉ text) : readCall? text = none := by
  cases text with
  | nil => rfl
  | cons c rest =>
    have hsuffix : rest.dropWhile Text.isWord <:+ c :: rest :=
      (List.dropWhile_suffix Text.isWord).trans (List.suffix_cons c rest)
    rw [readCall?, readName?]
    by_cases hstart : Text.startsName c = true
    · rw [if_pos hstart, Option.bind_eq_bind, Option.bind_some]
      dsimp only
      split
      · rename_i inner heq
        exact absurd (hsuffix.subset (heq ▸ List.mem_cons_self)) h
      · rfl
    · rw [if_neg hstart]
      rfl

/-- A header has a parenthesis. -/
theorem readHeader?_eq_none_of_notMem {text : List Char}
    (h : '(' ∉ text) : readHeader? text = none := by
  rw [readHeader?, dropLast?]
  split
  · have hhead : '(' ∉ Text.stripEnd Text.isBlank text.dropLast := fun hmem =>
      h ((List.dropLast_subset text) (Text.mem_of_mem_stripEnd hmem))
    rw [Option.bind_eq_bind, Option.bind_some, readCall?_eq_none hhead]
    rfl
  · rfl

/-- Where nothing is quoted and nothing in parentheses, parameters are read like arguments. -/
theorem parameters_eq_arguments {text : List Char} (h : ∀ c ∈ text, c = ',' ∨ isMarking c = false) :
    parameters text = arguments text := by
  have hparts : partsFrom none 0 text = Text.splitAt ',' text := by
    induction text with
    | nil => rfl
    | cons c rest ih =>
      have hrest := ih fun d hd => h d (List.mem_cons_of_mem c hd)
      rcases h c List.mem_cons_self with rfl | hc
      · have hcomma : partsFrom none 0 (',' :: rest) = [] :: partsFrom none 0 rest := rfl
        rw [hcomma, hrest, Text.splitAt, if_pos (beq_self_eq_true ',')]
      · have hne : c ≠ ',' := by
          rintro rfl
          exact absurd hc (by decide)
        rw [partsFrom_cons_of_after_eq hne (after_of_not_isMarking hc), hrest, Text.splitAt,
          if_neg (by simpa using hne)]
        cases Text.splitAt ',' rest <;> rfl
  rw [parameters, arguments, splitArgs, hparts]

/-- A header is read back. -/
theorem readHeader?_headerText (hname : IsIdentifier name)
    (hparams : ∀ p ∈ params, IsIdentifier p.toList) :
    readHeader? (headerText name params) = some (String.ofList name, params) := by
  have hline : '\n' ∉ commaSeparated params :=
    notMem_commaSeparated (fun p hp => (hparams p hp).isArgument.one_line) (by decide) (by decide)
  have hmarks : ∀ c ∈ commaSeparated params, c = ',' ∨ isMarking c = false := by
    intro c hc
    rcases mem_commaSeparated hc with rfl | rfl | ⟨p, hp, hc⟩
    · exact .inl rfl
    · exact .inr rfl
    · exact .inr (isMarking_eq_false_of_isLabelChar ((hparams p hp).isLabelChar c hc))
  have hlast : dropLast? '{' (headerText name params) = some (callText name params ++ [' ']) := by
    have hsplit : headerText name params = (callText name params ++ [' ']) ++
        ['{'] := by simp [headerText]
    simp [hsplit, dropLast?]
  have hblank : Text.isBlank ' ' = true := rfl
  have hparen : Text.isBlank ')' = false := rfl
  have hcall : callText name params = (name ++ '(' :: commaSeparated params) ++ [')'] := by
    simp [callText]
  have hstrip : Text.stripEnd Text.isBlank (callText name params ++ [' ']) =
      callText name params := by
    rw [hcall, Text.stripEnd_append_of_pos hblank, Text.stripEnd_append_of_not hparen]
  rw [readHeader?, hlast]
  simp [hstrip, readCall?_callText hname hline, parameters_eq_arguments hmarks,
    arguments_commaSeparated fun p hp => (hparams p hp).isArgument]

/-! ## The construct of each kind of line -/

/-- A call behind which more is written is no label. -/
theorem no_label_mark_callText (hname : IsIdentifier name)
    (hargs : ∀ arg ∈ args, IsArgument arg.toList)
    {rest : List Char} (hrest : ¬ [':', ':'] <:+: rest) :
    ¬ [':', ':'] <:+: callText name args ++ rest := by
  have hbetween : ¬ [':', ':'] <:+: commaSeparated args ++ ')' :: rest :=
    not_infix_append (by decide)
      (no_label_mark_commaSeparated fun arg harg => (hargs arg harg).no_label_mark) hrest
  rw [callText, List.append_assoc, List.cons_append, List.append_assoc, List.singleton_append]
  exact not_infix_append (by decide) hname.isArgument.no_label_mark hbetween

theorem IsIdentifier.head?_ne_sign (hname : IsIdentifier name) (rest : List Char) :
    (name ++ rest).head? ≠ some '#' := by
  obtain ⟨c, others, rfl, hstart⟩ := hname.exists_cons
  rintro ⟨⟩
  exact absurd hstart (by decide)

/-- A call is a command, or the label of a hotkey if two colons stand in it. -/
theorem ofLine_call_eq (hname : IsIdentifier name) (inner : List Char) :
    Construct.ofLine (name ++ '(' :: (inner ++ [')'])) =
      match splitLabel? (name ++ '(' :: (inner ++ [')'])) with
      | some (label, body) => .hotkey (String.ofList (Text.trim label)) (Text.trim body)
      | none => .command := by
  obtain ⟨hrequires, hglobal⟩ :=
    no_keyword hname.isLabelChar (List.mem_cons_self (a := '(')) (inner ++ [')'])
  have hhead : (name ++ '(' :: (inner ++ [')'])).head? ≠ some '#' := hname.head?_ne_sign _
  have hheader : readHeader? (name ++ '(' :: (inner ++ [')'])) = none := by
    have hsplit : name ++ '(' :: (inner ++ [')']) = (name ++ '(' :: inner) ++ [')'] := by simp
    rw [hsplit]
    exact readHeader?_eq_none (by decide)
  simp only [Construct.ofLine, hrequires, hhead, hglobal, hheader,
    readAssignment?_call hname, decide_false, Bool.false_and, Bool.false_eq_true, if_false]
  cases splitLabel? (name ++ '(' :: (inner ++ [')'])) with
  | none => rfl
  | some split => rfl

theorem ofLine_call (hname : IsIdentifier name) {inner : List Char}
    (hlabel : ¬ [':', ':'] <:+: name ++ '(' :: (inner ++ [')'])) :
    Construct.ofLine (name ++ '(' :: (inner ++ [')'])) = .command := by
  rw [ofLine_call_eq hname, splitLabel?_eq_none hlabel]

/-- **A call is a command.** -/
theorem ofLine_callText (hname : IsIdentifier name) (hargs : ∀ arg ∈ args, IsArgument arg.toList) :
    Construct.ofLine (callText name args) = .command := by
  have hlabel := no_label_mark_callText hname hargs (not_infix_of_notMem List.not_mem_nil)
  rw [List.append_nil] at hlabel
  exact ofLine_call hname hlabel

/-- **A header begins a function.** -/
theorem ofLine_headerText (hname : IsIdentifier name)
    (hparams : ∀ p ∈ params, IsIdentifier p.toList) :
    Construct.ofLine (headerText name params) = .function (String.ofList name) params := by
  have hsplit : headerText name params =
      name ++ '(' :: (commaSeparated params ++ [')', ' ', '{']) := by
    simp [headerText, callText]
  obtain ⟨hrequires, hglobal⟩ := no_keyword hname.isLabelChar (List.mem_cons_self (a := '('))
    (commaSeparated params ++ [')', ' ', '{'])
  rw [← hsplit] at hrequires hglobal
  have hhead : (headerText name params).head? ≠ some '#' := hsplit ▸ hname.head?_ne_sign _
  simp only [Construct.ofLine, hrequires, hhead, hglobal,
    readHeader?_headerText hname hparams, decide_false,
    Bool.false_and, Bool.false_eq_true, if_false]

/-- The text before the first double colon is the label. -/
theorem splitLabel?_append {label : List Char} (hne : label ≠ [])
    (hfirst : ¬ [':', ':'] <:+: label ++ [':'])
    (body : List Char) : splitLabel? (label ++ ':' :: ':' :: body) = some (label, body) := by
  induction label with
  | nil => exact absurd rfl hne
  | cons c rest ih =>
    cases rest with
    | nil => rfl
    | cons d rest =>
      have hrest : ¬ [':', ':'] <:+: d :: rest ++ [':'] :=
        fun hinside => hfirst (List.infix_cons hinside)
      rw [List.cons_append, splitLabel?, ih (List.cons_ne_nil d rest) hrest]
      · rfl
      · -- Two colons behind the first character would be in the label, or end with the first colon
        -- behind it.
        rintro other heq
        obtain ⟨rfl, hbehind⟩ := List.cons.inj heq
        refine hrest ?_
        cases rest with
        | nil => exact List.infix_refl _
        | cons e rest =>
          obtain ⟨rfl, -⟩ := List.cons.inj hbehind
          exact ⟨[], rest ++ [':'], rfl⟩

theorem not_infix_append_colon {label : List Char} (h : ':' ∉ label) :
    ¬ [':', ':'] <:+: label ++ [':'] := by
  intro hinside
  have hcount := hinside.sublist.count_le ':'
  simp [List.count_eq_zero.mpr h] at hcount

theorem hasLabelMark_cons {rest : List Char} (h : hasLabelMark rest = true) (c : Char) :
    hasLabelMark (c :: rest) = true := by
  rw [hasLabelMark.eq_def]
  split
  · rfl
  · rename_i heq
    rwa [← (List.cons.inj heq).2]
  · rename_i heq
    cases heq

theorem hasLabelMark_append (label body : List Char) :
    hasLabelMark (label ++ ':' :: ':' :: body) = true := by
  induction label with
  | nil => rfl
  | cons c rest ih => exact hasLabelMark_cons ih c

/-- **A label with a brace behind it begins a hotkey.** -/
theorem ofLine_labelText {label : List Char} (h : IsLabel label) :
    Construct.ofLine (labelText label) = .hotkey (String.ofList label) ['{'] := by
  obtain ⟨hrequires, hglobal⟩ :=
    no_keyword h.chars (List.mem_cons_of_mem '(' (List.mem_cons_self (a := ':')))
    [':', ' ', '{']
  rw [← labelText] at hrequires hglobal
  have hmark : hasLabelMark (labelText label) = true := hasLabelMark_append label [' ', '{']
  have hsplit : splitLabel? (labelText label) = some (label, [' ', '{']) :=
    splitLabel?_append h.ne_nil (not_infix_append_colon (notMem_of_forall h.chars (by decide)))
      [' ', '{']
  have hblank : ∀ c ∈ label, Text.isBlank c = false :=
    fun c hc => isBlank_eq_false_of_isLabelChar (h.chars c hc)
  have htrim : Text.trim label = label := Text.strip_eq_self hblank
  have hbrace : Text.trim [' ', '{'] = ['{'] := by decide
  have hheader : readHeader? (labelText label) = none := readHeader?_eq_none_of_notMem (by
    simpa [labelText] using notMem_of_forall h.chars (c := '(') (by decide))
  simp only [Construct.ofLine, hrequires, hmark, hglobal, hheader, hsplit, htrim, hbrace,
    Bool.not_true, Bool.and_false, Bool.false_eq_true, if_false]

/-- An assignment is read back. -/
theorem readAssignment?_assignmentText {value : List Char} (hname : IsIdentifier name)
    (hvalue : IsArgument value) :
    readAssignment? (assignmentText name value) =
      some (String.ofList name, String.ofList value) := by
  have hend : ∀ c ∈ (' ' :: ':' :: '=' :: ' ' :: value).head?, Text.isWord c = false := by
    rintro c ⟨⟩
    decide
  have hblank : Text.isBlank ' ' = true := rfl
  have hstrip : Text.stripStart Text.isBlank (' ' :: ':' :: '=' :: ' ' :: value) =
      ':' :: '=' :: ' ' :: value := rfl
  have htrim : Text.trim (' ' :: value) = value := by
    rw [Text.trim_cons_of_isBlank hblank,
      Text.trim_eq_self hvalue.head_not_blank hvalue.last_not_blank]
  rw [readAssignment?, assignmentText, hname.readName?_append hend]
  simp [hstrip, htrim, hvalue.ne_nil]

/-- An assignment is one argument. -/
theorem isArgument_assignmentText {value : List Char} (hname : IsIdentifier name)
    (hvalue : IsArgument value) : IsArgument (assignmentText name value) := by
  have harg : IsArgument name := hname.isArgument
  have hsplit : assignmentText name value = (name ++ [' ', ':', '=', ' ']) ++ value := by
    simp [assignmentText]
  refine ⟨by simp [assignmentText], ?_, ?_,
    ?_, by simp [assignmentText, harg.no_opening, hvalue.no_opening],
    by simp [assignmentText, harg.no_closing, hvalue.no_closing], ?_,
    by simp [assignmentText, harg.one_line, hvalue.one_line]⟩
  · rw [assignmentText, List.head?_append_of_ne_nil name harg.ne_nil]
    exact harg.head_not_blank
  · rw [hsplit, List.getLast?_append_of_ne_nil _ hvalue.ne_nil]
    exact hvalue.last_not_blank
  · rw [hsplit]
    exact (harg.balanced.append (.of_all rfl)).append hvalue.balanced
  · have hbehind : ¬ [':', ':'] <:+: ' ' :: value :=
      not_infix_cons (by decide) hvalue.no_label_mark
    have hsign : ¬ [':', ':'] <:+: [':'] ++ '=' :: ' ' :: value :=
      not_infix_append (by decide) (by decide) hbehind
    exact not_infix_append (by decide) harg.no_label_mark hsign

theorem dropWord?_append {word : List Char}
    (h : (word.all fun letter => Text.sameLetter letter letter) = true)
    (rest : List Char) : Text.dropWord? word (word ++ rest) = some rest := by
  induction word with
  | nil => rfl
  | cons letter word ih =>
    rw [List.all_cons, Bool.and_eq_true] at h
    rw [List.cons_append, Text.dropWord?, if_pos h.1]
    exact ih h.2

/-- **A declaration of a global declares it.** -/
theorem ofLine_globalText {value : List Char} (hname : IsIdentifier name) :
    Construct.ofLine (globalText name value) = .globals (assignmentText name value) := by
  obtain ⟨c, rest, rfl, hstart⟩ := hname.exists_cons
  have hblank : Text.isBlank c = false :=
    isBlank_eq_false_of_isLabelChar (hname.isLabelChar c List.mem_cons_self)
  have hspace : Text.isBlank ' ' = true := rfl
  have hrequires : requiredVersion? (globalText (c :: rest) value) = none := rfl
  have hhead : (globalText (c :: rest) value).head? ≠ some '#' := by
    rintro ⟨⟩
  have hstrip : Text.stripStart Text.isBlank (assignmentText (c :: rest) value) =
      assignmentText (c :: rest) value :=
    Text.stripStart_cons_of_not hblank
  have hglobal : afterKeyword? "global".toList (globalText (c :: rest) value) =
      some (assignmentText (c :: rest) value) := by
    have hword : Text.dropWord? "global".toList (globalText (c :: rest) value) =
        some (' ' :: assignmentText (c :: rest) value) := dropWord?_append (by decide) _
    rw [afterKeyword?, hword, Option.bind_some, afterBlanks?, if_pos hspace, hstrip]
  simp only [Construct.ofLine, hrequires, hhead, hglobal, decide_false, Bool.false_and,
    Bool.false_eq_true, if_false]

end ActionBoard.Script
