import ActionBoard.Json.Printer
import ActionBoard.Json.Reader
import Mathlib.Tactic.SplitIfs

/-!
# JSON documents that are read as they are written

A tree that is written with indentation is read back from its text, if its numbers are whole and if
it nests no deeper than the reader goes:

* `readChars_flatMap_escape`: the characters of a string are read back, escaped or not,
* `readMagnitude_decimal`: so is a whole number, where what follows does not go on with it,
* `readValue_indented`: and so is a tree, with whatever is behind it left over.

The last one is by induction on the tree.  The depth that is left to the reader is what bounds the
nesting, and the rounds of its loops are bounded by the length of the text, because every item but
the first has a comma before it.
-/

namespace ActionBoard.Json

/-! ## Trees -/

/-- What holds for the items of an array and for the values of an object, and is handed on by them,
holds for every tree. -/
@[elab_as_elim]
theorem induction {motive : Json → Prop} (null : motive .null) (bool : ∀ b, motive (.bool b))
    (number : ∀ n, motive (.number n)) (string : ∀ s, motive (.string s))
    (array : ∀ items : List Json, (∀ item ∈ items, motive item) → motive (.array items))
    (object : ∀ members : List (String × Json), (∀ member ∈ members, motive member.2) →
      motive (.object members)) :
    ∀ json, motive json := by
  intro json
  induction hsize : sizeOf json using Nat.strongRecOn generalizing json with
  | ind size ih =>
    subst hsize
    cases json with
    | null => exact null
    | bool b => exact bool b
    | number n => exact number n
    | string s => exact string s
    | array items =>
      refine array items fun item member => ih (sizeOf item) ?_ item rfl
      have hitem := List.sizeOf_lt_of_mem member
      rw [Json.array.sizeOf_spec]
      omega
    | object members =>
      refine object members fun member hmember => ih (sizeOf member.2) ?_ member.2 rfl
      have hmembers := List.sizeOf_lt_of_mem hmember
      have hvalue : sizeOf member = 1 + sizeOf member.1 + sizeOf member.2 := by
        cases member
        rfl
      rw [Json.object.sizeOf_spec]
      omega

mutual

/-- How deep arrays and objects are nested. -/
def depth : Json → Nat
  | .array items => depthAll items + 1
  | .object members => depthMembers members + 1
  | .null | .bool _ | .number _ | .string _ => 0

def depthAll : List Json → Nat
  | [] => 0
  | item :: items => max item.depth (depthAll items)

def depthMembers : List (String × Json) → Nat
  | [] => 0
  | (_, value) :: members => max value.depth (depthMembers members)

end

mutual

/-- Whether all numbers of a tree are whole. -/
def isWhole : Json → Bool
  | .number (.float _) => false
  | .array items => allWhole items
  | .object members => membersWhole members
  | .null | .bool _ | .number (.int _) | .string _ => true

def allWhole : List Json → Bool
  | [] => true
  | item :: items => item.isWhole && allWhole items

def membersWhole : List (String × Json) → Bool
  | [] => true
  | (_, value) :: members => value.isWhole && membersWhole members

end

theorem depthAll_le_iff {items : List Json} {bound : Nat} :
    depthAll items ≤ bound ↔ ∀ item ∈ items, item.depth ≤ bound := by
  induction items with
  | nil => simp [depthAll]
  | cons item items ih => simp only [depthAll, Nat.max_le, ih, List.forall_mem_cons]

theorem depthMembers_le_iff {members : List (String × Json)} {bound : Nat} :
    depthMembers members ≤ bound ↔ ∀ member ∈ members, member.2.depth ≤ bound := by
  induction members with
  | nil => simp [depthMembers]
  | cons member members ih => simp only [depthMembers, Nat.max_le, ih, List.forall_mem_cons]

theorem allWhole_iff {items : List Json} :
    allWhole items = true ↔ ∀ item ∈ items, item.isWhole = true := by
  induction items with
  | nil => simp [allWhole]
  | cons item items ih => simp [allWhole, ih]

theorem membersWhole_iff {members : List (String × Json)} :
    membersWhole members = true ↔ ∀ member ∈ members, member.2.isWhole = true := by
  induction members with
  | nil => simp [membersWhole]
  | cons member members ih => simp [membersWhole, ih]

/-! ## White space -/

theorem skipSpace_newLine (level : Nat) (text : List Char) :
    skipSpace (newLine level ++ text) = skipSpace text := by
  have hblanks : ∀ c ∈ newLine level, isSpace c = true := by
    intro c hc
    rcases List.mem_cons.mp hc with rfl | hc
    · rfl
    · rw [List.eq_of_mem_replicate hc]
      rfl
  exact List.dropWhile_append_of_pos hblanks

theorem skipSpace_cons_of_not {c : Char} (h : isSpace c = false) (text : List Char) :
    skipSpace (c :: text) = c :: text := by
  simp [skipSpace, h]

/-! ## Strings -/

theorem hexUnit?_of_lt :
    ∀ n < 32, hexUnit? '0' '0' (hexDigit (n / 16)) (hexDigit (n % 16)) = some n := by
  decide

/-- A character is read as it is written, escaped or not. -/
theorem readChars_escape (c : Char) (read rest : List Char) :
    readChars read (escape c ++ rest) = readChars (c :: read) rest := by
  unfold escape
  split_ifs with hquote hback hb hf hn hr ht hcontrol
  · rw [beq_iff_eq.mp hquote]
    rfl
  · rw [beq_iff_eq.mp hback]
    rfl
  · rw [beq_iff_eq.mp hb]
    rfl
  · rw [beq_iff_eq.mp hf]
    rfl
  · rw [beq_iff_eq.mp hn]
    rfl
  · rw [beq_iff_eq.mp hr]
    rfl
  · rw [beq_iff_eq.mp ht]
    rfl
  · have hlt : c.toNat < 32 := hcontrol
    have hunit : hexUnit? '0' '0' (hexDigit (c.toNat / 16)) (hexDigit (c.toNat % 16)) =
        some c.toNat :=
      hexUnit?_of_lt c.toNat hlt
    have hlow : c.toNat < 0xD800 := by omega
    simp [readChars, hunit, hlow]
  · have hne : c ≠ '\\' := by simpa using hback
    have hplain : (c == '\\' || decide (c < ' ')) = false := by simpa [hne] using hcontrol
    rw [List.singleton_append, readChars, hplain]
    · rfl
    · exact fun heq => hquote (beq_iff_eq.mpr heq)
    · exact fun _ _ _ _ _ heq _ => hne heq
    · exact fun _ _ heq _ => hne heq

/-- **The characters of a string are read back.** -/
theorem readChars_flatMap_escape (chars read rest : List Char) :
    readChars read (chars.flatMap escape ++ '"' :: rest) = some (read.reverse ++ chars, rest) := by
  induction chars generalizing read with
  | nil => simp [readChars]
  | cons c chars ih =>
    rw [List.flatMap_cons, List.append_assoc, readChars_escape, ih]
    simp

theorem readStringBody_quoted (s : String) (rest : List Char) :
    readStringBody (s.toList.flatMap escape ++ '"' :: rest) = some (s, rest) := by
  rw [readStringBody, readChars_flatMap_escape]
  simp

/-! ## Numbers -/

/-- A text that does not go on with a number. -/
def EndsNumber (text : List Char) : Prop :=
  ∀ c ∈ text.head?, Text.isAsciiDigit c = false ∧ c ≠ '.' ∧ c ≠ 'e' ∧ c ≠ 'E'

theorem readPlaces_of_endsNumber {rest : List Char} (h : EndsNumber rest) :
    readPlaces rest = some (none, rest) := by
  cases rest with
  | nil => rfl
  | cons c rest =>
    obtain ⟨-, hpoint, -, -⟩ := h c rfl
    rw [readPlaces]
    exact fun _ heq => hpoint (List.cons.inj heq).1

theorem readExponent_of_endsNumber {rest : List Char} (h : EndsNumber rest) :
    readExponent rest = some (none, rest) := by
  cases rest with
  | nil => rfl
  | cons c rest =>
    obtain ⟨-, -, hsmall, hlarge⟩ := h c rfl
    simp [readExponent, hsmall, hlarge]

/-- The digits of a number end where the number ends. -/
theorem decimal_span {rest : List Char} (h : EndsNumber rest) (n : Nat) :
    (Text.decimal n ++ rest).takeWhile Text.isAsciiDigit = Text.decimal n ∧
      (Text.decimal n ++ rest).dropWhile Text.isAsciiDigit = rest := by
  have hdigits : ∀ c ∈ Text.decimal n, Text.isAsciiDigit c = true :=
    List.all_eq_true.mp (Text.all_isAsciiDigit_decimal n)
  have hend : rest.takeWhile Text.isAsciiDigit = [] ∧ rest.dropWhile Text.isAsciiDigit = rest := by
    cases rest with
    | nil => exact ⟨rfl, rfl⟩
    | cons c rest =>
      obtain ⟨hdigit, -⟩ := h c rfl
      simp [hdigit]
  rw [List.takeWhile_append_of_pos hdigits, List.dropWhile_append_of_pos hdigits, hend.1, hend.2,
    List.append_nil]
  exact ⟨rfl, rfl⟩

/-- **A whole number is read back**, unless it is minus zero. -/
theorem readMagnitude_decimal {negative : Bool} {n : Nat} {value : WideInt}
    (hvalue : value.val = if negative then -(n : Int) else n) (hzero : negative = true → n ≠ 0)
    {rest : List Char} (hrest : EndsNumber rest) :
    readMagnitude negative (Text.decimal n ++ rest) = some (.int value, rest) := by
  obtain ⟨htake, hdrop⟩ := decimal_span hrest n
  have hwhole : wholeNumber? negative (Text.decimal n) = some (.int value) := by
    have hsome : WideInt.ofInt? (if negative then -(n : Int) else n) = some value := by
      rw [← hvalue, WideInt.ofInt?, dif_pos ⟨value.least, value.below⟩]
    have hsign : (negative && n == 0) = false := by
      cases negative with
      | false => rfl
      | true => simpa using hzero rfl
    rw [wholeNumber?, Text.digitsValue_decimal, hsign, hsome]
    rfl
  have hleading : (Text.decimal n).isEmpty = false ∧
      ((Text.decimal n).head? == some '0' && (Text.decimal n).length != 1) = false := by
    refine ⟨by simpa using Text.decimal_ne_nil n, ?_⟩
    rcases Nat.eq_zero_or_pos n with rfl | hpos
    · rw [Text.decimal]
      rfl
    · simp [Text.head?_decimal_ne_zero hpos]
  rw [readMagnitude, htake, hdrop, hleading.1, hleading.2, readPlaces_of_endsNumber hrest]
  simp [readExponent_of_endsNumber hrest, hwhole]

/-! ## Values -/

/-- What a tree is written with first: no white space, and no bracket that closes. -/
def Opens (text : List Char) : Prop :=
  ∃ c rest, text = c :: rest ∧ isSpace c = false ∧ c ≠ ']'

theorem opens_of_isAsciiDigit {c : Char} (h : Text.isAsciiDigit c = true) (rest : List Char) :
    Opens (c :: rest) := by
  have hne : ∀ d, Text.isAsciiDigit d = false → c ≠ d := by
    rintro d hd rfl
    exact Bool.false_ne_true (hd ▸ h)
  refine ⟨c, rest, rfl, ?_, hne _ (by decide)⟩
  simp [isSpace, hne ' ' (by decide), hne '\n' (by decide), hne '\t' (by decide),
    hne '\r' (by decide)]

theorem opens_indented {json : Json} (h : json.isWhole = true) (level : Nat) :
    Opens (indented level json) := by
  cases json with
  | null => exact ⟨'n', _, rfl, by decide, by decide⟩
  | bool b =>
    cases b with
    | false => exact ⟨'f', _, rfl, by decide, by decide⟩
    | true => exact ⟨'t', _, rfl, by decide, by decide⟩
  | string s => exact ⟨'"', _, rfl, by decide, by decide⟩
  | array items =>
    cases items with
    | nil => exact ⟨'[', _, rfl, by decide, by decide⟩
    | cons item items => exact ⟨'[', _, rfl, by decide, by decide⟩
  | object members =>
    cases members with
    | nil => exact ⟨'{', _, rfl, by decide, by decide⟩
    | cons member members => exact ⟨'{', _, rfl, by decide, by decide⟩
  | number n =>
    cases n with
    | float x => cases h
    | int n =>
      rw [indented, numberText, Text.decimalInt]
      split
      · exact ⟨'-', _, rfl, by decide, by decide⟩
      · cases hdigits : Text.decimal n.val.natAbs with
        | nil => exact absurd hdigits (Text.decimal_ne_nil _)
        | cons c rest =>
          have hall := List.all_eq_true.mp (Text.all_isAsciiDigit_decimal n.val.natAbs)
          exact opens_of_isAsciiDigit (hall c (hdigits ▸ List.mem_cons_self)) rest

theorem Opens.skipSpace_append {text : List Char} (h : Opens text) (rest : List Char) :
    skipSpace (text ++ rest) = text ++ rest := by
  obtain ⟨c, others, rfl, hspace, -⟩ := h
  exact skipSpace_cons_of_not hspace _

theorem Opens.skipSpace_ne {text : List Char} (h : Opens text) (rest behind : List Char) :
    skipSpace (text ++ rest) ≠ ']' :: behind := by
  rw [h.skipSpace_append]
  obtain ⟨c, others, rfl, -, hne⟩ := h
  exact fun heq => hne (List.cons.inj heq).1

/-- White space before a value does not count. -/
theorem readValue_of_skipSpace {text other : List Char} (h : skipSpace text = skipSpace other)
    (depth : Nat) : readValue depth text = readValue depth other := by
  cases depth with
  | zero => simp only [readValue, h]
  | succ depth => simp only [readValue, h]

/-- A tree is read back, with what is behind it left over. -/
def IsReadBack (json : Json) : Prop :=
  json.isWhole = true → ∀ (level depth : Nat) (rest : List Char), json.depth ≤ depth →
    EndsNumber rest →
    readValue depth (indented level json ++ rest) = some (json, rest)

/-- A digit begins a number. -/
theorem readValue_digit {c : Char} (h : Text.isAsciiDigit c = true) (depth : Nat)
    (rest : List Char) :
    readValue depth (c :: rest) = (readMagnitude false (c :: rest)).map fun (n, rest) =>
      (.number n, rest) := by
  obtain ⟨_, _, ⟨⟩, hspace, -⟩ := opens_of_isAsciiDigit h rest
  have hne : ∀ d, Text.isAsciiDigit d = false → c ≠ d := by
    rintro d hd rfl
    exact Bool.false_ne_true (hd ▸ h)
  rw [readValue.eq_def]
  simp only [skipSpace_cons_of_not hspace]
  -- A digit is none of the characters that the other values begin with.
  split
  case h_8 heq =>
    obtain ⟨rfl, rfl⟩ := List.cons.inj heq
    rw [if_pos h]
  case h_9 heq => cases heq
  all_goals exact absurd (List.cons.inj ‹_›).1 (hne _ (by decide))

theorem isReadBack_number (n : JsonNumber) : IsReadBack (.number n) := by
  intro hwhole level depth rest _ hrest
  cases n with
  | float x => cases hwhole
  | int n =>
    rw [indented, numberText, Text.decimalInt]
    split
    · rename_i hnegative
      have hread : readMagnitude true (Text.decimal n.val.natAbs ++ rest) = some (.int n, rest) :=
        readMagnitude_decimal (by rw [if_pos rfl]; omega) (fun _ => by omega) hrest
      have hminus : readValue depth ('-' :: (Text.decimal n.val.natAbs ++ rest)) =
          (readMagnitude true (Text.decimal n.val.natAbs ++ rest)).map fun (n, rest) =>
            (.number n, rest) := by
        rw [readValue.eq_def]
        rfl
      rw [List.cons_append, hminus, hread]
      rfl
    · have hread : readMagnitude false (Text.decimal n.val.natAbs ++ rest) = some (.int n, rest) :=
        readMagnitude_decimal (by rw [if_neg Bool.false_ne_true]; omega) Bool.noConfusion hrest
      cases hdigits : Text.decimal n.val.natAbs with
      | nil => exact absurd hdigits (Text.decimal_ne_nil _)
      | cons c digits =>
        have hdigit : Text.isAsciiDigit c = true :=
          List.all_eq_true.mp (Text.all_isAsciiDigit_decimal n.val.natAbs) c
            (hdigits ▸ List.mem_cons_self)
        rw [List.cons_append, readValue_digit hdigit, ← List.cons_append, ← hdigits, hread]
        rfl

theorem isReadBack_null : IsReadBack .null := by
  intro _ level depth rest _ _
  rw [readValue.eq_def]
  rfl

theorem isReadBack_bool (b : Bool) : IsReadBack (.bool b) := by
  intro _ level depth rest _ _
  cases b with
  | false =>
    rw [readValue.eq_def]
    rfl
  | true =>
    rw [readValue.eq_def]
    rfl

theorem isReadBack_string (s : String) : IsReadBack (.string s) := by
  intro _ level depth rest _ _
  have hbody : readValue depth ('"' :: (s.toList.flatMap escape ++ '"' :: rest)) =
      (readStringBody (s.toList.flatMap escape ++ '"' :: rest)).map fun read =>
        (.string read.1, read.2) := by
    rw [readValue.eq_def]
    rfl
  rw [indented, quoted, List.cons_append, List.cons_append, List.append_assoc,
    List.singleton_append, hbody, readStringBody_quoted]
  rfl

/-! ## Arrays -/

theorem length_lt_indentedItems (level : Nat) (items : List Json) :
    items.length < (indentedItems level items).length := by
  induction items with
  | nil => simp [indentedItems]
  | cons item items ih =>
    simp only [indentedItems, List.length_cons, List.cons_append, List.length_append]
    omega

/-- What stands behind an item does not go on with a number. -/
theorem endsNumber_indentedItems (level : Nat) (items : List Json) (rest : List Char) :
    EndsNumber (indentedItems level items ++ rest) := by
  cases items with
  | nil =>
    rintro c ⟨⟩
    decide
  | cons item items =>
    rintro c ⟨⟩
    decide

/-- A bracket without the closing one behind it begins an array with items. -/
theorem readValue_bracket {inner : List Char} (h : ∀ behind, skipSpace inner ≠ ']' :: behind)
    (depth : Nat) :
    readValue (depth + 1) ('[' :: inner) =
      (readItems (readValue depth) (inner.length + 1) [] inner).map fun (items, rest) =>
        (.array items, rest) := by
  have hbracket : skipSpace ('[' :: inner) = '[' :: inner := skipSpace_cons_of_not (by decide) inner
  rw [readValue]
  simp only [hbracket]

section

variable {item : Reader Json} {json : Json} {text rest behind : List Char} {rounds : Nat}
  {read : List Json}

theorem readItems_last (hitem : item text = some (json, rest))
    (hclose : skipSpace rest = ']' :: behind) :
    readItems item (rounds + 1) read text = some (read.reverse ++ [json], behind) := by
  simp [readItems, hitem, hclose]

theorem readItems_comma (hitem : item text = some (json, rest))
    (hcomma : skipSpace rest = ',' :: behind) :
    readItems item (rounds + 1) read text = readItems item rounds (json :: read) behind := by
  simp [readItems, hitem, hcomma]

end

/-- The items of an array are read one after the other. -/
theorem readItems_indented {reader : Reader Json} {level : Nat} {item : Json} {items : List Json}
    (hitems : ∀ json ∈ item :: items, ∀ rest, EndsNumber rest →
      reader (newLine (level + 1) ++ (indented (level + 1) json ++ rest)) = some (json, rest))
    {rounds : Nat} (hrounds : items.length < rounds) (read : List Json) (rest : List Char) :
    readItems reader rounds read
        (newLine (level + 1) ++
          (indented (level + 1) item ++ (indentedItems level items ++ rest))) =
      some (read.reverse ++ item :: items, rest) := by
  induction items generalizing item read rounds with
  | nil =>
    obtain ⟨rounds, rfl⟩ := Nat.exists_eq_succ_of_ne_zero (Nat.ne_zero_of_lt hrounds)
    have hclose : skipSpace (indentedItems level [] ++ rest) = ']' :: rest := by
      rw [indentedItems, List.append_assoc, skipSpace_newLine]
      exact skipSpace_cons_of_not (by decide) rest
    exact readItems_last (hitems item List.mem_cons_self _ (endsNumber_indentedItems level [] rest))
      hclose
  | cons next items ih =>
    obtain ⟨rounds, rfl⟩ := Nat.exists_eq_succ_of_ne_zero (Nat.ne_zero_of_lt hrounds)
    have hcomma : skipSpace (indentedItems level (next :: items) ++ rest) =
        ',' :: (newLine (level + 1) ++
          (indented (level + 1) next ++ (indentedItems level items ++ rest))) := by
      rw [indentedItems, List.append_assoc, List.append_assoc, List.cons_append]
      exact skipSpace_cons_of_not (by decide) _
    have hothers := ih (fun json hjson => hitems json (List.mem_cons_of_mem item hjson))
      (Nat.lt_of_succ_lt_succ hrounds) (item :: read)
    rw [readItems_comma (hitems item List.mem_cons_self _
      (endsNumber_indentedItems level (next :: items) rest)) hcomma,
      hothers, List.reverse_cons, List.append_assoc, List.singleton_append]

theorem isReadBack_array {items : List Json} (h : ∀ item ∈ items, IsReadBack item) :
    IsReadBack (.array items) := by
  intro hwhole level depth rest hdepth _
  obtain ⟨depth, rfl⟩ := Nat.exists_eq_succ_of_ne_zero (Nat.ne_zero_of_lt hdepth)
  cases items with
  | nil =>
    rw [readValue.eq_def]
    rfl
  | cons item items =>
    have hitems : ∀ json ∈ item :: items, ∀ rest, EndsNumber rest →
        readValue depth (newLine (level + 1) ++ (indented (level + 1) json ++ rest)) =
          some (json, rest) := by
      intro json hjson rest hrest
      rw [readValue_of_skipSpace (skipSpace_newLine _ _)]
      exact h json hjson (allWhole_iff.mp hwhole json hjson) (level + 1) depth rest
        (depthAll_le_iff.mp (Nat.le_of_succ_le_succ hdepth) json hjson) hrest
    have htext : indented level (.array (item :: items)) ++ rest =
        '[' :: (newLine (level + 1) ++
          (indented (level + 1) item ++ (indentedItems level items ++ rest))) := by
      simp [indented]
    have hopen : ∀ behind, skipSpace
        (newLine (level + 1) ++
          (indented (level + 1) item ++ (indentedItems level items ++ rest))) ≠
          ']' :: behind := by
      intro behind
      rw [skipSpace_newLine]
      exact (opens_indented (allWhole_iff.mp hwhole item List.mem_cons_self)
        (level + 1)).skipSpace_ne _ behind
    rw [htext, readValue_bracket hopen, readItems_indented hitems]
    · rfl
    · have hlength := length_lt_indentedItems level items
      simp only [List.length_append]
      omega

/-! ## Objects -/

theorem length_lt_indentedMembers (level : Nat) (members : List (String × Json)) :
    members.length < (indentedMembers level members).length := by
  induction members with
  | nil => simp [indentedMembers]
  | cons member members ih =>
    simp only [indentedMembers, List.length_cons, List.cons_append, List.length_append]
    omega

/-- What stands behind a member does not go on with a number. -/
theorem endsNumber_indentedMembers (level : Nat) (members : List (String × Json))
    (rest : List Char) : EndsNumber (indentedMembers level members ++ rest) := by
  cases members with
  | nil =>
    rintro c ⟨⟩
    decide
  | cons member members =>
    rintro c ⟨⟩
    decide

/-- A brace without the closing one behind it begins an object with members. -/
theorem readValue_brace {inner : List Char} (h : ∀ behind, skipSpace inner ≠ '}' :: behind)
    (depth : Nat) :
    readValue (depth + 1) ('{' :: inner) =
      (readMembers (readValue depth) (inner.length + 1) [] inner).map
        fun (members, rest) => (.object members, rest) := by
  have hbrace : skipSpace ('{' :: inner) = '{' :: inner := skipSpace_cons_of_not (by decide) inner
  rw [readValue]
  simp only [hbrace]

/-- A member in its own line, without the comma before it. -/
def indentedMember (level : Nat) (member : String × Json) : List Char :=
  newLine level ++ (quoted member.1 ++ ':' :: ' ' :: indented level member.2)

/-- A member begins with the quote of its name. -/
theorem skipSpace_indentedMember (level : Nat) (member : String × Json) (rest : List Char) :
    skipSpace (indentedMember level member ++ rest) =
      '"' :: (member.1.toList.flatMap escape ++ '"' ::
        (':' :: ' ' :: indented level member.2 ++ rest)) := by
  rw [indentedMember, List.append_assoc, skipSpace_newLine, quoted]
  simp [skipSpace, isSpace]

theorem readName_indentedMember (level : Nat) (member : String × Json) (rest : List Char) :
    readName (indentedMember level member ++ rest) =
      some (member.1, ':' :: ' ' :: indented level member.2 ++ rest) := by
  rw [readName, skipSpace_indentedMember]
  exact readStringBody_quoted member.1 _

theorem readColon_colon (text : List Char) : readColon (':' :: text) = some text := rfl

section

variable {reader : Reader Json} {member : String × Json} {text colon value rest behind : List Char}
  {rounds : Nat} {read : List (String × Json)}

theorem readMembers_last (hname : readName text = some (member.1, colon))
    (hcolon : readColon colon = some value)
    (hvalue : reader value = some (member.2, rest)) (hclose : skipSpace rest = '}' :: behind) :
    readMembers reader (rounds + 1) read text = some (read.reverse ++ [member], behind) := by
  simp [readMembers, hname, hcolon, hvalue, hclose]

theorem readMembers_comma (hname : readName text = some (member.1, colon))
    (hcolon : readColon colon = some value)
    (hvalue : reader value = some (member.2, rest)) (hcomma : skipSpace rest = ',' :: behind) :
    readMembers reader (rounds + 1) read text =
      readMembers reader rounds (member :: read) behind := by
  simp [readMembers, hname, hcolon, hvalue, hcomma]

end

theorem skipSpace_indentedMembers_nil (level : Nat) (rest : List Char) :
    skipSpace (indentedMembers level [] ++ rest) = '}' :: rest := by
  rw [indentedMembers, List.append_assoc, skipSpace_newLine]
  exact skipSpace_cons_of_not (by decide) rest

theorem skipSpace_indentedMembers_cons (level : Nat) (member : String × Json)
    (members : List (String × Json)) (rest : List Char) :
    skipSpace (indentedMembers level (member :: members) ++ rest) =
      ',' :: (indentedMember (level + 1) member ++ (indentedMembers level members ++ rest)) := by
  simp [indentedMembers, indentedMember, skipSpace, isSpace]

/-- The text of an object with members. -/
theorem indented_object (level : Nat) (member : String × Json) (members : List (String × Json))
    (rest : List Char) :
    indented level (.object (member :: members)) ++ rest =
      '{' :: (indentedMember (level + 1) member ++ (indentedMembers level members ++ rest)) := by
  simp [indented, indentedMember]

/-- The members of an object are read one after the other. -/
theorem readMembers_indented {reader : Reader Json} {level : Nat} {member : String × Json}
    {members : List (String × Json)}
    (hmembers : ∀ m ∈ member :: members, ∀ rest, EndsNumber rest →
      reader (' ' :: indented (level + 1) m.2 ++ rest) = some (m.2, rest))
    {rounds : Nat} (hrounds : members.length < rounds) (read : List (String × Json))
    (rest : List Char) :
    readMembers reader rounds read
        (indentedMember (level + 1) member ++ (indentedMembers level members ++ rest)) =
      some (read.reverse ++ member :: members, rest) := by
  induction members generalizing member read rounds with
  | nil =>
    obtain ⟨rounds, rfl⟩ := Nat.exists_eq_succ_of_ne_zero (Nat.ne_zero_of_lt hrounds)
    exact readMembers_last (readName_indentedMember _ _ _) (readColon_colon _)
      (hmembers member List.mem_cons_self _ (endsNumber_indentedMembers level [] rest))
      (skipSpace_indentedMembers_nil level rest)
  | cons next members ih =>
    obtain ⟨rounds, rfl⟩ := Nat.exists_eq_succ_of_ne_zero (Nat.ne_zero_of_lt hrounds)
    have hothers := ih (fun m hm => hmembers m (List.mem_cons_of_mem member hm))
      (Nat.lt_of_succ_lt_succ hrounds) (member :: read)
    rw [readMembers_comma (readName_indentedMember _ _ _) (readColon_colon _)
      (hmembers member List.mem_cons_self _
        (endsNumber_indentedMembers level (next :: members) rest))
      (skipSpace_indentedMembers_cons level next members rest), hothers,
      List.reverse_cons, List.append_assoc, List.singleton_append]

/-- A value behind a colon is read like any other. -/
theorem readValue_blank (depth : Nat) (text : List Char) :
    readValue depth (' ' :: text) = readValue depth text := by
  have hblank : skipSpace (' ' :: text) = skipSpace text := rfl
  exact readValue_of_skipSpace hblank depth

theorem isReadBack_object {members : List (String × Json)}
    (h : ∀ member ∈ members, IsReadBack member.2) : IsReadBack (.object members) := by
  intro hwhole level depth rest hdepth _
  obtain ⟨depth, rfl⟩ := Nat.exists_eq_succ_of_ne_zero (Nat.ne_zero_of_lt hdepth)
  cases members with
  | nil =>
    rw [readValue.eq_def]
    rfl
  | cons member members =>
    have hmembers : ∀ m ∈ member :: members, ∀ rest, EndsNumber rest →
        readValue depth (' ' :: indented (level + 1) m.2 ++ rest) = some (m.2, rest) := by
      intro m hm rest hrest
      rw [List.cons_append, readValue_blank]
      exact h m hm (membersWhole_iff.mp hwhole m hm) (level + 1) depth rest
        (depthMembers_le_iff.mp (Nat.le_of_succ_le_succ hdepth) m hm) hrest
    have hopen : ∀ behind,
        skipSpace (indentedMember (level + 1) member ++ (indentedMembers level members ++ rest)) ≠
          '}' :: behind := by
      intro behind
      rw [skipSpace_indentedMember]
      exact fun heq => absurd (List.cons.inj heq).1 (by decide)
    rw [indented_object, readValue_brace hopen, readMembers_indented hmembers]
    · rfl
    · have hlength := length_lt_indentedMembers level members
      simp only [List.length_append]
      omega

/-! ## Every tree -/

theorem isReadBack (json : Json) : IsReadBack json := by
  induction json using Json.induction with
  | null => exact isReadBack_null
  | bool b => exact isReadBack_bool b
  | number n => exact isReadBack_number n
  | string s => exact isReadBack_string s
  | array items h => exact isReadBack_array h
  | object members h => exact isReadBack_object h

/-- **A tree with whole numbers that nests no deeper than the reader goes is read back
from its text.** -/
theorem readValue_indented {json : Json} (hwhole : json.isWhole = true) {depth : Nat}
    (hdepth : json.depth ≤ depth) (level : Nat) {rest : List Char} (hrest : EndsNumber rest) :
    readValue depth (indented level json ++ rest) = some (json, rest) :=
  isReadBack json hwhole level depth rest hdepth hrest

/-- **A tree with whole numbers is the tree of its document**, if it does not nest too deep. -/
theorem parse?_document {json : Json} (hwhole : json.isWhole = true)
    (hdepth : json.depth ≤ nestingLimit) : parse? json.document.toList = some json := by
  have hends : EndsNumber [] := fun _ h => nomatch h
  have hread := readValue_indented hwhole hdepth 0 hends
  rw [List.append_nil] at hread
  rw [document, String.toList_ofList, parse?, hread]
  rfl

end ActionBoard.Json
