import ActionBoard.Proofs.Script.Parts
import ActionBoard.Script.Check
import Mathlib.Data.List.Induction
import Mathlib.Data.List.TakeWhile

/-!
# Which versions are accepted

A script is valid unless it requires a version that is not supported, for nothing else that is found
in a script is an error.  The version is what a directive has behind its `v`, digits of any script
and points; the last directive counts.  Whether it is supported is told from its first character,
and not from the number in front of its first point.  So a major version that begins with a two is
accepted however long it is, `20` and `2147` as well as `2`; and a two is refused if it is written
with zeros before it, or with a digit that is not one of ASCII.

* `majorVersion`, `numberOf`: the digits in front of the first point, and the number they stand for.
* `isVersion_requires`: what can be recorded as a version.
* `numberOf_eq_two_iff`: the ways to write the number two.
* `starts_with_two_and_ne_two_iff`, `eq_two_and_not_starts_with_two_iff`: where the first character
  and the number disagree.
* `version_is_told_by_its_first_digit`: what is accepted, what is said about the rest, and where
  that is not what the number asks for.
-/

namespace ActionBoard.Script

variable {text version : String} {digits : List Char} {script : Script} {c : Command} {part : Part}

/-! ## Versions and their numbers -/

/-- The text of a version in front of its first point, or all of it. -/
def majorVersion (version : String) : List Char :=
  version.toList.takeWhile fun c => c != '.'

/-- The number that a decimal digit of any script stands for.  The digits of a script are in order,
and where several scripts follow each other, each of them has ten. -/
def decimalOf (c : Char) : Nat :=
  match (('0'.toNat, '9'.toNat) :: Text.digitRanges).find? fun range => range.1 ≤
    c.toNat && c.toNat ≤ range.2 with
  | some range => (c.toNat - range.1) % 10
  | none => 0

/-- The number written by decimal digits of any scripts. -/
def numberOf (digits : List Char) : Nat :=
  digits.foldl (fun number c => 10 * number + decimalOf c) 0

theorem decimalOf_lt (c : Char) : decimalOf c < 10 := by
  unfold decimalOf
  split <;> omega

theorem numberOf_append_singleton (digits : List Char) (c : Char) :
    numberOf (digits ++ [c]) = 10 * numberOf digits + decimalOf c := by
  simp [numberOf]

theorem numberOf_eq_zero_iff : numberOf digits = 0 ↔ ∀ c ∈ digits, decimalOf c = 0 := by
  induction digits using List.reverseRecOn with
  | nil => simp [numberOf]
  | append_singleton digits c ih =>
    rw [numberOf_append_singleton, List.forall_mem_append, List.forall_mem_singleton, ← ih]
    omega

/-- **The number two is a digit for it behind zeros.** -/
theorem numberOf_eq_two_iff :
    numberOf digits = 2 ↔
      ∃ zeros two, digits = zeros ++ [two] ∧ (∀ c ∈ zeros, decimalOf c = 0) ∧
        decimalOf two = 2 := by
  constructor
  · intro h
    rcases List.eq_nil_or_concat digits with rfl | ⟨zeros, two, rfl⟩
    · cases h
    · rw [List.concat_eq_append, numberOf_append_singleton] at h
      have hlt := decimalOf_lt two
      exact ⟨zeros, two, List.concat_eq_append, numberOf_eq_zero_iff.mp (by omega), by omega⟩
  · rintro ⟨zeros, two, rfl, hzeros, htwo⟩
    rw [numberOf_append_singleton, numberOf_eq_zero_iff.mpr hzeros, htwo]

/-- Behind a two there is nothing more in the number two. -/
theorem numberOf_cons_two {rest : List Char} : numberOf ('2' :: rest) = 2 ↔ rest = [] := by
  constructor
  · intro h
    obtain ⟨zeros, two, hsplit, hzeros, -⟩ := numberOf_eq_two_iff.mp h
    cases zeros with
    | nil => exact (List.cons.inj hsplit).2
    | cons zero zeros =>
      obtain ⟨rfl, -⟩ := List.cons.inj hsplit
      exact absurd (hzeros '2' List.mem_cons_self) (by decide)
  · rintro rfl
    decide

/-- What begins with a two and is not the number two is longer. -/
theorem starts_with_two_and_ne_two_iff :
    digits.head? = some '2' ∧ numberOf digits ≠ 2 ↔ ∃ next more, digits = '2' :: next :: more := by
  constructor
  · rintro ⟨hhead, hnumber⟩
    obtain ⟨rest, rfl⟩ := List.head?_eq_some_iff.mp hhead
    rw [Ne, numberOf_cons_two] at hnumber
    obtain ⟨next, more, rfl⟩ := List.exists_cons_of_ne_nil hnumber
    exact ⟨next, more, rfl⟩
  · rintro ⟨next, more, rfl⟩
    exact ⟨rfl, fun hnumber => List.cons_ne_nil next more (numberOf_cons_two.mp hnumber)⟩

/-- What is the number two and does not begin with a two has zeros in front of it, or
another script's two. -/
theorem eq_two_and_not_starts_with_two_iff :
    digits.head? ≠ some '2' ∧ numberOf digits = 2 ↔
      ∃ zeros two, digits = zeros ++ [two] ∧ (∀ c ∈ zeros, decimalOf c = 0) ∧ decimalOf two = 2 ∧
        digits ≠ ['2'] := by
  constructor
  · rintro ⟨hhead, hnumber⟩
    obtain ⟨zeros, two, hsplit, hzeros, htwo⟩ := numberOf_eq_two_iff.mp hnumber
    exact ⟨zeros, two, hsplit, hzeros, htwo, fun heq => hhead (heq ▸ rfl)⟩
  · rintro ⟨zeros, two, hsplit, hzeros, htwo, hne⟩
    have hnumber : numberOf digits = 2 := numberOf_eq_two_iff.mpr ⟨zeros, two, hsplit, hzeros, htwo⟩
    refine ⟨fun hhead => hne ?_, hnumber⟩
    obtain ⟨rest, rfl⟩ := List.head?_eq_some_iff.mp hhead
    rw [numberOf_cons_two.mp hnumber]

/-- A version begins like its major version. -/
theorem head?_majorVersion {c : Char} (hc : c ≠ '.') :
    (majorVersion version).head? = some c ↔ version.toList.head? = some c := by
  rw [majorVersion]
  cases version.toList with
  | nil => rfl
  | cons first rest =>
    rw [List.takeWhile_cons]
    by_cases hfirst : first = '.'
    · subst first
      simp [hc.symm]
    · simp [hfirst]

/-! ## What is recorded -/

/-- What a directive can ask for: digits and points, but not nothing. -/
structure IsVersion (version : String) : Prop where
  ne_nil : version.toList ≠ []
  chars : ∀ c ∈ version.toList, Text.isDigit c = true ∨ c = '.'

theorem isVersion_of_requiredVersion? {line : List Char}
    (h : requiredVersion? line = some version) : IsVersion version := by
  rw [requiredVersion?] at h
  obtain ⟨behind, -, h⟩ := Option.bind_eq_some_iff.mp h
  obtain ⟨keyword, -, h⟩ := Option.bind_eq_some_iff.mp h
  obtain ⟨rest, -, h⟩ := Option.bind_eq_some_iff.mp h
  dsimp only at h
  split at h
  · cases h
  · rename_i hne
    cases h
    rw [List.isEmpty_iff] at hne
    constructor
    · rwa [String.toList_ofList]
    · intro c hc
      rw [String.toList_ofList] at hc
      simpa using List.mem_takeWhile_imp hc

theorem requiredVersion?_of_ofLine {line : List Char}
    (h : Construct.ofLine line = .requires version) : requiredVersion? line = some version := by
  unfold Construct.ofLine at h
  repeat' split at h
  all_goals cases h
  assumption

/-- A part leaves the version as it is, unless it is a directive that asks for one. -/
theorem isVersion_requires_addTo (h : ∀ version, script.requires = some version → IsVersion version)
    (part : Part) : ∀ version, (part.addTo script).requires = some version → IsVersion version := by
  unfold Part.addTo
  split
  case h_1 asked hline =>
    rintro version ⟨⟩
    exact isVersion_of_requiredVersion? (requiredVersion?_of_ofLine hline)
  all_goals exact h

/-- **What is recorded as a version is one.**  The induction is on the parts of the text. -/
theorem isVersion_requires (text : String) : ∀ version, (ofText text).requires = some version →
    IsVersion version := by
  have hparts : ∀ (parts : List Part) (script : Script),
      (∀ version, script.requires = some version → IsVersion version) →
        ∀ version, (parts.foldl Part.addTo script).requires = some version → IsVersion version := by
    intro parts
    induction parts with
    | nil => exact fun _ h => h
    | cons part rest ih =>
      exact fun script h => ih (part.addTo script) (isVersion_requires_addTo h part)
  rw [ofText, readLines_eq_foldl]
  refine hparts _ {} fun version hnone => ?_
  cases hnone

theorem IsVersion.isDigit (h : IsVersion version) :
    ∀ c ∈ majorVersion version, Text.isDigit c = true := by
  intro c hc
  have hpoint : c ≠ '.' := by simpa using List.mem_takeWhile_imp hc
  exact (h.chars c ((List.takeWhile_sublist _).subset hc)).resolve_right hpoint

/-! ## What is said about it -/

theorem severity_of_mem_checkCommand {native : Bool} {d : Diagnostic}
    (h : d ∈ checkCommand native c) : d.severity ≠ .error := by
  rw [checkCommand, List.mem_append] at h
  rcases h with h | h
  · split at h
    · rw [List.mem_singleton.mp h]
      exact Severity.noConfusion
    · cases h
  · split at h
    · rw [List.mem_singleton.mp h]
      exact Severity.noConfusion
    · cases h

/-- The errors of a script. -/
def errors (validation : Validation) : List Diagnostic :=
  validation.diagnostics.filter fun d => d.severity == .error

/-- Nothing but the version is an error. -/
theorem errors_validate (native : Bool) (script : Script) :
    errors (validate native script) = (checkVersion script.requires).filter fun d =>
      d.severity == .error := by
  have hcommands : (script.allCommands.flatMap (checkCommand native)).filter (fun d => d.severity ==
      .error) = [] := by
    refine List.filter_eq_nil_iff.mpr fun d hd => ?_
    obtain ⟨c, -, hc⟩ := List.mem_flatMap.mp hd
    simpa using severity_of_mem_checkCommand hc
  rw [errors, validate, List.filter_append, hcommands, List.append_nil]

theorem isValid_iff_errors (validation : Validation) :
    validation.isValid = true ↔ errors validation = [] := by
  simp [Validation.isValid, errors]

theorem checkVersion_some (version : String) :
    checkVersion (some version) =
      if version.toList.head? = some '2' then []
        else [.error ("Unsupported AHK version: " ++ version) 0] := by
  have htwo : supportedVersion.toList = ['2'] := rfl
  rw [checkVersion, htwo]
  cases version.toList with
  | nil => rfl
  | cons first rest =>
    by_cases hfirst : first = '2'
    · simp [hfirst]
    · simp [hfirst, Ne.symm hfirst]

theorem errors_validate_of_some (native : Bool) (h : script.requires = some version) :
    errors (validate native script) =
      if (majorVersion version).head? = some '2' then []
      else [.error ("Unsupported AHK version: " ++ version) 0] := by
  rw [errors_validate, h, checkVersion_some]
  simp only [head?_majorVersion (c := '2') (by decide)]
  split
  · rfl
  · rfl

/-- **A version is told by its first digit.**  Every text is valid that asks for no version.  If it
asks for one, then its major version consists of digits, and it is valid if and only if the first of
them is a two of ASCII; if not, there is one error, which names the version.  So a text is valid
whose major version is not the number two exactly where the digits go on behind the two, and a major
version that is the number two is an error exactly where it is not written as one two of ASCII. -/
theorem version_is_told_by_its_first_digit (native : Bool) (text : String) :
    let script := ofText text
    let validation := validate native script
    (script.requires = none → validation.isValid = true) ∧
      ∀ version, script.requires = some version →
        (∀ c ∈ majorVersion version, Text.isDigit c = true) ∧
          (validation.isValid = true ↔ (majorVersion version).head? = some '2') ∧
          errors validation =
            (if validation.isValid then []
              else [.error ("Unsupported AHK version: " ++ version) 0]) ∧
          (validation.isValid = true ∧ numberOf (majorVersion version) ≠ 2 ↔
            ∃ next more, majorVersion version = '2' :: next :: more) ∧
          (validation.isValid = false ∧ numberOf (majorVersion version) = 2 ↔
            ∃ zeros two, majorVersion version = zeros ++ [two] ∧ (∀ c ∈ zeros, decimalOf c = 0) ∧
              decimalOf two = 2 ∧ majorVersion version ≠ ['2']) := by
  intro script validation
  refine ⟨fun hnone => ?_, fun version hversion => ?_⟩
  · rw [isValid_iff_errors, errors_validate, hnone]
    rfl
  · have herrors := errors_validate_of_some native hversion
    have hvalid : validation.isValid = true ↔ (majorVersion version).head? = some '2' := by
      rw [isValid_iff_errors, herrors, ite_eq_left_iff]
      simp
    refine ⟨(isVersion_requires text version hversion).isDigit, hvalid, ?_, ?_, ?_⟩
    · rw [herrors]
      simp only [hvalid]
    · rw [hvalid]
      exact starts_with_two_and_ne_two_iff
    · rw [← Bool.not_eq_true, hvalid]
      exact eq_two_and_not_starts_with_two_iff

/-- A text that asks for the version after the supported one. -/
theorem version_is_told_by_its_first_digit_of_three :
    let text := "#Requires AutoHotkey v3.1\nClick(1, 2)"
    (ofText text).requires = some "3.1" ∧
      errors (validate false (ofText text)) =
        [.error ("Unsupported AHK version: " ++ "3.1") 0] := by
  intro text
  have hversion : (ofText text).requires = some "3.1" := by decide +kernel
  obtain ⟨-, hrequired⟩ := version_is_told_by_its_first_digit false text
  obtain ⟨-, hvalid, herrors, -⟩ := hrequired "3.1" hversion
  have hinvalid : (validate false (ofText text)).isValid = false :=
    Bool.eq_false_iff.mpr fun h => absurd (hvalid.mp h) (by decide)
  rw [hinvalid] at herrors
  exact ⟨hversion, herrors⟩

/-- **Version twenty is accepted**, and so is every other one that begins with a two; and a two
behind a zero is not. -/
theorem version_twenty_is_accepted :
    let twenty := ofText "#Requires AutoHotkey v20.0\nClick(1, 2)"
    let zeroTwo := ofText "#Requires AutoHotkey v02.0\nClick(1, 2)"
    twenty.requires = some "20.0" ∧ numberOf (majorVersion "20.0") = 20 ∧
      (validate false twenty).isValid = true ∧
      (validate false twenty).diagnostics = [] ∧
      zeroTwo.requires = some "02.0" ∧ numberOf (majorVersion "02.0") = 2 ∧
      (validate false zeroTwo).isValid = false := by
  decide +kernel

end ActionBoard.Script
