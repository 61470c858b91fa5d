import ActionBoard.Proofs.Text.Blank
import ActionBoard.Yaml.Reader

/-!
# Texts that are one scalar

A text of a single line is one scalar without quotes, unless a sign in it has a meaning of its own:
one of the indicators at its start, a colon at the end of a word, or a `#` behind a blank.  Such a
text is what it looks like as a scalar, to the last character.  This is what the texts of
environment variables are as a rule, paths among them.

A text of white space only is one scalar as well, or none.

This is all that is asked here of a reader of YAML (`YamlReader.ReadsScalars`): what it makes of
quotes, blocks, anchors and tags is left open.

* `ofPlain?_eq_some`: what a scalar looks like; only five words look like null.
* `readPlain_of_goesOn`: reading a scalar without quotes loses none of its characters.
* `parse?_of_isPlainLine`: a plain line is read as the scalar that it looks like.
* `parse?_ne_mapping_of_isBlank`: white space is not read as a mapping.
* `readsScalars_parse?`: both together.
-/

namespace ActionBoard

namespace Yaml

/-! ## What scalars look like -/

/-- The words for null. -/
def nullWords : List String :=
  ["", "null", "Null", "NULL", "~"]

/-- A scalar without quotes looks like null, like a truth value or a number, or else like the
text that it is. -/
theorem ofPlain?_eq_some {text : List Char} {tree : Yaml} (h : ofPlain? text = some tree) :
    tree = .null ∧ String.ofList text ∈ nullWords ∨ tree = .string (String.ofList text) ∨
      (∃ b, tree = .bool b) ∨ (∃ n, tree = .int n) ∨ ∃ x, tree = .float x := by
  unfold ofPlain? ofWord at h
  simp only [List.contains_eq_mem] at h
  grind [nullWords]

/-! ## Plain lines -/

/-- The signs with which a scalar without quotes does not begin, whatever follows. -/
def indicators : List Char :=
  ['-', '?', ':', ',', '[', ']', '\x7b', '\x7d', '#', '&', '*', '!', '|', '>', '\'', '"',
    '%', '@', '\x60']

/-- The characters that end a line. -/
def lineEnds : List Char :=
  ['\n', '\r', '\u0085', '\u2028', '\u2029']

/-- Whether a scalar without quotes goes on to the end of a text that is all in one line. -/
def goesOn : List Char → Bool
  | [] => true
  | c :: rest =>
    isAdmitted c && !lineEnds.contains c
      && (if isSpace c then !rest.isEmpty && rest.head? != some '#' else c != ':' || !endsWord rest)
      && goesOn rest

/-- Whether a text is a single line and, if it is not empty, one scalar without quotes. -/
def isPlainLine (text : List Char) : Bool :=
  !(text.head?.any fun c => isSpace c || c == '\uFEFF' || indicators.contains c)
    && !isDocumentMark text && goesOn text

theorem goesOn_cons {c : Char} {rest : List Char} :
    goesOn (c :: rest) = true ↔
      (isAdmitted c = true ∧ c ∉ lineEnds) ∧
        (if isSpace c then rest ≠ [] ∧ rest.head? ≠ some '#' else c = ':' → endsWord rest = false) ∧
        goesOn rest = true := by
  by_cases hspace : isSpace c = true <;>
    simp [goesOn, hspace, and_assoc, Classical.or_iff_not_imp_left]

theorem forall_mem_of_goesOn {text : List Char} (h : goesOn text = true) :
    ∀ c ∈ text, isAdmitted c = true ∧ c ∉ lineEnds := by
  induction text with
  | nil => exact fun _ hc => nomatch hc
  | cons c rest ih =>
    obtain ⟨hc, -, hrest⟩ := goesOn_cons.mp h
    exact List.forall_mem_cons.mpr ⟨hc, ih hrest⟩

theorem isBreak_of_notMem_lineEnds {c : Char} (h : c ∉ lineEnds) : isBreak c = false := by
  simp only [lineEnds, List.mem_cons, not_or] at h
  simp [isBreak, h]

/-! ## Reading to the end -/

section

variable {f : Fold} {c : Char} {rest : List Char} {p : Position}

theorem Fold.blank_of_not_broken (hf : f.broken = false) (hc : isBreak c = false) :
    f.blank c = { f with blanks := c :: f.blanks } := by
  simp [blank, hc, hf]

theorem Fold.push_of_not_broken (hf : f.broken = false) (c : Char) :
    f.push c = { text := c :: (f.blanks ++ f.text) } := by
  simp [push, settle, gap, hf]

/-- A blank or a line break does not end a scalar without quotes, where no block is open. -/
theorem readPlain_cons_of_gap (h : (isSpace c || isBreak c) = true) :
    readPlain false 0 f (c :: rest) p = readPlain false 0 (f.blank c) rest (p.after c) := by
  rw [readPlain, if_pos h, if_neg (by simp)]

theorem readPlain_cons_of_not_gap (h : (isSpace c || isBreak c) = false)
    (hpending : f.isPending = true → endsBehindBlanks false 0 (c :: rest) p = false)
    (hends : endsPlain false c rest = false) :
    readPlain false 0 f (c :: rest) p = readPlain false 0 (f.push c) rest p.next := by
  have hgoes : (f.isPending && endsBehindBlanks false 0 (c :: rest) p) = false := by
    simpa using hpending
  rw [readPlain, if_neg (by simp [h]), if_neg (by simp [hgoes]), if_neg (by simp),
    if_neg (by simp [hends])]

end

/-- In a line that goes on, a scalar without quotes is all that is left of the text.  The blanks
that are pending are followed by something, and there is something in front of them in the line. -/
theorem readPlain_of_goesOn {text : List Char} (h : goesOn text = true) {f : Fold}
    (hf : f.broken = false)
    {p : Position} (hblank : f.blanks ≠ [] → 0 < p.column ∧ text ≠ [] ∧ text.head? ≠ some '#') :
    ∃ q, readPlain false 0 f text p =
      some ⟨String.ofList ((f.blanks ++ f.text).reverse ++ text), false, [], q⟩ := by
  induction text generalizing f p with
  | nil =>
    have hnone : f.blanks = [] := Classical.byContradiction fun hsome => (hblank hsome).2.1 rfl
    exact ⟨p, by simp [readPlain, Fold.string, hf, hnone]⟩
  | cons c rest ih =>
    obtain ⟨⟨-, hline⟩, hmeaning, hrest⟩ := goesOn_cons.mp h
    have hbreak := isBreak_of_notMem_lineEnds hline
    by_cases hspace : isSpace c = true
    · -- The blank is kept apart until the next character shows that the scalar goes on.
      rw [if_pos hspace] at hmeaning
      rw [readPlain_cons_of_gap (by simp [hspace]), Fold.blank_of_not_broken hf hbreak]
      obtain ⟨q, hq⟩ := ih hrest (f := { f with blanks := c :: f.blanks }) (p := p.after c) hf
        fun _ => ⟨by simp [Position.after, hbreak, Position.next], hmeaning⟩
      exact ⟨q, by rw [hq]; simp⟩
    · rw [if_neg hspace] at hmeaning
      have hpending : f.isPending = true → endsBehindBlanks false 0 (c :: rest) p = false :=
        fun hpending => by
        obtain ⟨hcolumn, -, hsign⟩ := hblank (by simpa [Fold.isPending, hf] using hpending)
        have hne : (p.column == 0) = false := by simpa using Nat.pos_iff_ne_zero.mp hcolumn
        have hc : c ≠ '#' := by simpa using hsign
        simp [endsBehindBlanks, hne, hc]
      rw [readPlain_cons_of_not_gap (by simp [hspace, hbreak]) hpending
        (by simpa [endsPlain] using hmeaning), Fold.push_of_not_broken hf]
      obtain ⟨q, hq⟩ :=
        ih hrest (f := { text := c :: (f.blanks ++ f.text) }) (p := p.next) rfl (by simp)
      exact ⟨q, by rw [hq]; simp⟩

/-! ## Scanning -/

namespace Scanner

/-- At a character that is no indicator a scalar without quotes is read, unless a document
begins or ends there. -/
theorem next?_eq_plain? {s : Scanner} {c : Char} {rest : List Char} (hc : c ∉ indicators)
    (hmark : isDocumentMark s.rest = false) : s.next? c rest = s.plain? := by
  have hne : ∀ d, d ∈ indicators → (c == d) = false := fun d hd => by
    simpa using fun h : c = d => hc (h ▸ hd)
  have hstarts : startsPlain s.inFlow c rest = true := by
    have hlist : "-?:,[]\x7b\x7d#&*!|>'\"%@`".toList = indicators := by decide
    have hcontains : indicators.contains c = false := by simpa using hc
    rw [startsPlain, hlist, hcontains]
    rfl
  simp only [indicators, List.forall_mem_cons] at hne
  simp [next?, hne, hmark, hstarts]

/-- With nothing open and no key to come, a scalar without quotes is read; it is no key so far. -/
theorem plain?_of_readPlain {text : List Char} {p : Position} (allowed : Bool) {read : ScalarRead}
    (hread : readPlain false 0 {} text p = some read) :
    ∃ key : Option PossibleKey, key.all (!·.required) = true ∧
      ({ rest := text, position := p, keyAllowed := allowed } : Scanner).plain? =
        some
          { rest := read.rest
            position := read.position
            tokens := [.scalar read.text true]
            key
            keyAllowed := read.broken } := by
  cases allowed with
  | false => exact ⟨none, rfl, by simp [plain?, saveKey?, inFlow, indent, hread, scalar, emit]⟩
  | true =>
    refine ⟨some ⟨false, 0, p⟩, rfl, ?_⟩
    have hindent : ((-1 : Int) == (p.column : Int)) = false := by simp
    simp [plain?, saveKey?, dropKey?, inFlow, indent, hindent, hread, scalar, emit]

/-- Nothing more comes at the end of a text, where no key is missing its colon. -/
theorem scan?_end {p : Position} {tokens : List Token} {key : Option PossibleKey} {allowed : Bool}
    (hkey : key.all (!·.required) = true) (n : Nat) :
    scan? (n + 1) { rest := [], position := p, tokens, key, keyAllowed := allowed } =
      some tokens.reverse := by
  cases key with
  | none =>
    simp [scan?, toNextToken, skipBlanks, dropStale?, refresh?, finish?, unroll, inFlow, dropKey?]
  | some key =>
    have hrequired : key.required = false := by simpa using hkey
    by_cases hstale : key.isStale p = true <;>
      simp [scan?, toNextToken, skipBlanks, dropStale?, refresh?, finish?, unroll, inFlow,
        dropKey?, hstale, hrequired]

/-- Before the first token only blanks are passed over. -/
theorem dropStale?_toNextToken {text rest : List Char} {p : Position} {allowed : Bool}
    (hblanks : skipBlanks false false true text {} = (rest, p, allowed)) :
    ({ rest := text } : Scanner).toNextToken.dropStale? =
      some { rest, position := p, keyAllowed := allowed } := by
  simp [toNextToken, inFlow, hblanks, dropStale?, refresh?]

/-- A text with one scalar without quotes up to its end, behind blanks. -/
theorem scan?_of_readPlain {text rest : List Char} {c : Char} {p q : Position} {allowed : Bool}
    {read : String}
    {broken : Bool} (hblanks : skipBlanks false false true text {} = (c :: rest, p, allowed))
    (hc : c ∉ indicators) (hmark : isDocumentMark (c :: rest) = false)
    (hread : readPlain false 0 {} (c :: rest) p = some ⟨read, broken, [], q⟩) (n : Nat) :
    scan? (n + 2) { rest := text } = some [.scalar read true] := by
  obtain ⟨key, hkey, hplain⟩ := plain?_of_readPlain allowed hread
  have hunroll :
      ({ rest := c :: rest, position := p, keyAllowed := allowed } : Scanner).unroll p.column =
      { rest := c :: rest, position := p, keyAllowed := allowed } := by
    simp [unroll, inFlow]
  rw [scan?, dropStale?_toNextToken hblanks, Option.bind_some, hunroll]
  dsimp only
  rw [next?_eq_plain? hc hmark, hplain, Option.bind_some, scan?_end hkey]
  rfl

end Scanner

/-! ## Trees -/

theorem unifyBreaks_of_notMem {text : List Char} (h : ∀ c ∈ text, c ∉ lineEnds) :
    unifyBreaks text = text := by
  fun_induction unifyBreaks text with
  | case1 rest ih => exact absurd (by decide) (h '\r' (List.mem_cons_self ..))
  | case2 c rest _ ih =>
    obtain ⟨hc, hrest⟩ := List.forall_mem_cons.mp h
    simp only [lineEnds, List.mem_cons, not_or] at hc
    simp [hc, ih hrest]
  | case3 => rfl

/-- The tokens of a text without a byte order mark. -/
theorem tokens?_of_head?_ne {text : List Char} (h : text.head? ≠ some '\uFEFF') :
    tokens? text =
      if text.all isAdmitted then
        Scanner.scan? ((unifyBreaks text).length + 1) { rest := unifyBreaks text }
      else none := by
  cases text with
  | nil => rfl
  | cons c rest =>
    have hc : c ≠ '\uFEFF' := by simpa using h
    simp only [tokens?, beq_iff_eq, hc, if_false]

/-- A text whose only token is a scalar without quotes is what that looks like. -/
theorem parse?_of_tokens? {text : List Char} {read : String}
    (h : tokens? text = some [.scalar read true]) : parse? text = ofPlain? read.toList := by
  simp only [parse?, h, readNode, ofScalar?, Option.bind_eq_bind, Option.bind_some]
  cases ofPlain? read.toList <;> simp

/-- **Plain lines are what they look like.** -/
theorem parse?_of_isPlainLine {text : List Char} (h : isPlainLine text = true) :
    parse? text = ofPlain? text := by
  cases text with
  | nil => rfl
  | cons c rest =>
    simp only [isPlainLine, List.head?_cons, Option.any_some, Bool.and_eq_true, Bool.not_eq_true',
      Bool.or_eq_false_iff, beq_eq_false_iff_ne, List.contains_eq_mem, decide_eq_false_iff_not] at h
    obtain ⟨⟨⟨⟨hspace, hmark⟩, hc⟩, hdocument⟩, hgo⟩ := h
    have hmem := forall_mem_of_goesOn hgo
    have hbreak := isBreak_of_notMem_lineEnds (hmem c (List.mem_cons_self ..)).2
    have hsign : c ≠ '#' := fun h => hc (h ▸ by decide)
    have hblanks : Scanner.skipBlanks false false true (c :: rest) {} = (c :: rest, {}, true) := by
      simp [isSpace] at hspace
      simp [Scanner.skipBlanks, hbreak, hsign, hspace]
    obtain ⟨q, hread⟩ := readPlain_of_goesOn hgo (f := {}) rfl (p := {}) fun h => absurd rfl h
    have htokens : tokens? (c :: rest) = some [.scalar (String.ofList (c :: rest)) true] := by
      have hadmitted : (c :: rest).all isAdmitted = true :=
        List.all_eq_true.mpr fun d hd => (hmem d hd).1
      have hscan := Scanner.scan?_of_readPlain hblanks hc hdocument hread rest.length
      rw [tokens?_of_head?_ne (by simpa using hmark), if_pos hadmitted,
        unifyBreaks_of_notMem fun d hd => (hmem d hd).2]
      exact hscan
    rw [parse?_of_tokens? htokens, String.toList_ofList]

example : parse? "~/my scripts".toList = some (.string "~/my scripts") :=
  parse?_of_isPlainLine (by decide)

/-! ## White space -/

theorem notMem_indicators_of_isBlank {c : Char} (h : Text.isBlank c = true) : c ∉ indicators :=
  Text.notMem_of_isBlank (by decide) h

theorem isDocumentMark_of_isBlank {c : Char} {rest : List Char} (h : Text.isBlank c = true) :
    isDocumentMark (c :: rest) = false := by
  unfold isDocumentMark
  split <;> simp_all [Text.isBlank]

theorem readPlain_of_isBlank {text : List Char} (h : ∀ c ∈ text, Text.isBlank c = true) (f : Fold)
    (p : Position) : ∃ read broken q, readPlain false 0 f text p = some ⟨read, broken, [], q⟩ := by
  induction text generalizing f p with
  | nil => exact ⟨_, _, _, rfl⟩
  | cons c rest ih =>
    obtain ⟨hc, hrest⟩ := List.forall_mem_cons.mp h
    have hindicator := notMem_indicators_of_isBlank hc
    simp only [indicators, List.mem_cons, not_or] at hindicator
    cases hgap : isSpace c || isBreak c with
    | true =>
      rw [readPlain_cons_of_gap hgap]
      exact ih hrest _ _
    | false =>
      rw [readPlain_cons_of_not_gap hgap
        (fun _ => by simp [endsBehindBlanks, isDocumentMark_of_isBlank hc, hindicator])
        (by simp [endsPlain, hindicator])]
      exact ih hrest _ _

theorem mem_unifyBreaks {text : List Char} {c : Char} (h : c ∈ unifyBreaks text) :
    c ∈ text ∨ c = '\n' := by
  fun_induction unifyBreaks text with
  | case1 rest ih => grind
  | case2 d rest _ ih => grind
  | case3 => exact absurd h List.not_mem_nil

theorem Scanner.mem_of_mem_skipBlanks {flow comment allowed : Bool} {text : List Char}
    {p : Position} {c : Char} (h : c ∈ (skipBlanks flow comment allowed text p).1) : c ∈ text := by
  fun_induction skipBlanks flow comment allowed text p <;> simp_all

/-- White space is at most one scalar. -/
theorem Scanner.scan?_of_isBlank {text : List Char} (h : ∀ c ∈ text, Text.isBlank c = true)
    {tokens : List Token} (hscan : scan? (text.length + 1) { rest := text } = some tokens) :
    tokens = [] ∨ ∃ read, tokens = [.scalar read true] := by
  have hmem := @mem_of_mem_skipBlanks false false true text {}
  rcases hblanks : skipBlanks false false true text {} with ⟨rest, p, allowed⟩
  rw [hblanks] at hmem
  cases rest with
  | nil =>
    rw [scan?, dropStale?_toNextToken hblanks, Option.bind_some] at hscan
    exact .inl (Option.some.inj hscan).symm
  | cons c rest =>
    right
    have hrest : ∀ d ∈ c :: rest, Text.isBlank d = true := fun d hd => h d (hmem hd)
    have hc := hrest c (List.mem_cons_self ..)
    obtain ⟨read, broken, q, hread⟩ := readPlain_of_isBlank hrest {} p
    obtain ⟨n, hn⟩ : ∃ n, text.length = n + 1 :=
      Nat.exists_eq_add_one.mpr (List.length_pos_of_mem (hmem (List.mem_cons_self ..)))
    rw [hn, scan?_of_readPlain hblanks (notMem_indicators_of_isBlank hc)
      (isDocumentMark_of_isBlank hc) hread]
      at hscan
    exact ⟨read, (Option.some.inj hscan).symm⟩

theorem tokens?_of_isBlank {text : List Char} (h : ∀ c ∈ text, Text.isBlank c = true)
    {tokens : List Token} (htokens : tokens? text = some tokens) : tokens = [] ∨ ∃ read, tokens =
      [.scalar read true] := by
  have hmark : text.head? ≠ some '\uFEFF' := fun hhead =>
    absurd (h _ (List.mem_of_mem_head? hhead)) (by decide)
  have hblank : ∀ c ∈ unifyBreaks text, Text.isBlank c = true := fun c hc => by
    rcases mem_unifyBreaks hc with hmem | rfl
    · exact h c hmem
    · rfl
  rw [tokens?_of_head?_ne hmark] at htokens
  split at htokens
  · exact Scanner.scan?_of_isBlank hblank htokens
  · cases htokens

theorem parse?_ne_mapping_of_isBlank {text : List Char} (h : ∀ c ∈ text, Text.isBlank c = true)
    {members : List (Yaml × Yaml)} : parse? text ≠ some (.mapping members) := by
  intro hparse
  obtain ⟨tokens, htokens, -⟩ := Option.bind_eq_some_iff.mp hparse
  rcases tokens?_of_isBlank h htokens with rfl | ⟨read, rfl⟩
  · simp [parse?, htokens] at hparse
  · rcases ofPlain?_eq_some ((parse?_of_tokens? htokens).symm.trans hparse) with
      ⟨h, -⟩ | h | ⟨b, h⟩ | ⟨n, h⟩ | ⟨x, h⟩ <;> cases h

end Yaml

/-! ## Readers -/

/-- A reader that takes plain lines for the scalars that they look like, and white space
for no mapping. -/
structure YamlReader.ReadsScalars (yaml : YamlReader) : Prop where
  plain : ∀ line, Yaml.isPlainLine line = true → yaml line = Yaml.ofPlain? line
  blank : ∀ text, (∀ c ∈ text, Text.isBlank c = true) → ∀ members, yaml text ≠
    some (.mapping members)

theorem Yaml.readsScalars_parse? : YamlReader.ReadsScalars parse? where
  plain _ := parse?_of_isPlainLine
  blank _ h _ := parse?_ne_mapping_of_isBlank h

end ActionBoard
