import ActionBoard.Device.Recorder
import ActionBoard.Proofs.Engine.Handling
import ActionBoard.Proofs.Script.Dangers
import ActionBoard.Proofs.Script.Inlining

/-!
# Keys that are sent

The keys that a script sends are written down twice before they are pressed.  The script has signs
for the modifiers and a word in braces; the action has the names of the keys, joined by plus signs;
the keyboard is given the names one by one.  The first reading takes signs for modifiers wherever
the text begins with them, and that is within the braces if nothing stands before them.  The second
reading cuts at every plus sign.  So what arrives is what was sent if there is no plus sign in the
word that is left.

* `sendText`: the line that sends a key.  `ofText_sendText` is the command that it is read as.
* `readKey`, `keysOf`: the modifiers and the word as they are read, and the names that they have.
* `IsKeyName`: a name that is kept by the second reading; `combination_intercalate` says that joined
  names are.  The names of keys are such names (`isKeyName_of_mem_keysOf`), because nothing becomes
  a plus sign in small letters.
* `Presses`: an action that is one call of the keyboard and nothing else.
* `sent_keys_reach_the_keyboard`: the whole way, from a line anywhere in a text to the keyboard.
-/

namespace ActionBoard

variable {σ : Type} {a : Action}

/-! ## One call of the keyboard -/

/-- The call by which keys are pressed. -/
def keyboardCall : List String → DeviceCall
  | [key] => .press key
  | keys => .pressTogether keys

theorem handle_pressKeys (devices : Devices σ) (keys : List String) {outcome : Outcome}
    (hsuccess : outcome.success = true) (a : Action) (ctx : Context) (stage : Stage σ) :
    let handled := stage.handle devices (Handler.pressKeys keys >>= fun _ => pure outcome) a ctx
    let called := stage.call devices (keyboardCall keys)
    handled.2 = called.2 ∧ handled.1.1.success = called.1.isOk := by
  have hone : ∀ call : DeviceCall,
      let handled := stage.handle devices (Handling.device call >>= fun _ => pure outcome) a ctx
      let called := stage.call devices call
      handled.2 = called.2 ∧ handled.1.1.success = called.1.isOk := fun call =>
    ⟨stage.handle_device devices call (fun _ _ => ⟨_, rfl⟩) a ctx,
      stage.success_handle_device devices call hsuccess a ctx⟩
  match keys with
  | [] => exact hone (.pressTogether [])
  | [key] => exact hone (.press key)
  | key :: next :: rest => exact hone (.pressTogether (key :: next :: rest))

/-- An action by which keys are pressed.  The standard handlers, if there is a keyboard, make one
call of it and leave nothing else behind, and they succeed if the keyboard does. -/
structure Presses (a : Action) (keys : List String) : Prop where
  kind : a.kind = .keyPress
  executed : ∀ {σ : Type} (devices : Devices σ) (enumeration : Enumeration) (ports : PortSet)
    (settings : EngineSettings) (limit : Nat) (ctx : Context) (stage : Stage σ), stage.registry =
      .standard enumeration ports settings → ports.keys = true →
      let ran := (execute limit a ctx).run (Stage.answer devices) stage
      let called := stage.call devices (keyboardCall keys)
      ran.2 = called.2 ∧ ran.1.1.success = called.1.isOk

theorem presses_of_key (hkind : a.kind = .keyPress) (hprompt : a.IsPrompt) {descriptor : String}
    (hkey : a.key = some descriptor) (hne : descriptor ≠ "") :
    Presses a (Handler.combination descriptor) where
  kind := hkind
  executed := by
    intro σ devices enumeration ports settings limit ctx stage hregistry hkeys ran called
    have hhandler : Handler.standard enumeration ports settings a.kind =
        .simple (Handler.press ports) := by
      rw [hkind]
      rfl
    have hpress : Handler.press ports a =
        Handler.pressKeys (Handler.combination descriptor) >>= fun _ =>
        pure (.succeeded a ("pressed " ++ descriptor)) := by
      have hfilter : a.key.filter (!·.isEmpty) = some descriptor := by
        rw [hkey]
        exact Option.filter_some_pos (by simpa using hne)
      rw [Handler.press, hkeys, hfilter]
      rfl
    have hran : ran = stage.handle devices (Handler.press ports a) a ctx :=
      run_execute_of_simple hprompt hregistry hhandler limit
    rw [hran, hpress]
    exact handle_pressKeys devices _ rfl a ctx stage

/-! ## Names that are joined -/

/-- A name that is not cut when names are joined by plus signs and taken apart again. -/
structure IsKeyName (name : String) : Prop where
  ne_empty : name ≠ ""
  not_blank : ∀ c ∈ name.toList, Text.isBlank c = false
  no_plus : '+' ∉ name.toList

theorem isKeyName_iff {name : String} :
    IsKeyName name ↔ name ≠ "" ∧ (name.toList.all fun c => !Text.isBlank c && c != '+') = true := by
  simp only [List.all_eq_true, Bool.and_eq_true, Bool.not_eq_true', bne_iff_ne, ne_eq]
  constructor
  · rintro ⟨hne, hblank, hplus⟩
    exact ⟨hne, fun c hc => ⟨hblank c hc, fun heq => hplus (heq ▸ hc)⟩⟩
  · rintro ⟨hne, hall⟩
    exact ⟨hne, fun c hc => (hall c hc).1, fun hplus => (hall _ hplus).2 rfl⟩

instance (name : String) : Decidable (IsKeyName name) :=
  decidable_of_iff _ isKeyName_iff.symm

/-- **Joined names are taken apart again.** -/
theorem combination_intercalate {keys : List String} (hne : keys ≠ [])
    (hkeys : ∀ key ∈ keys, IsKeyName key) : Handler.combination ("+".intercalate keys) = keys := by
  match keys with
  | [key] =>
    have hplus : '+' ∉ key.toList := (hkeys key List.mem_cons_self).no_plus
    simp [Handler.combination, hplus]
  | key :: next :: rest =>
    have hplus : ("+".intercalate (key :: next :: rest)).toList.contains '+' = true := by
      rw [String.toList_intercalate, List.map_cons, List.map_cons, List.intercalate_cons_cons]
      simp
    have hparts : Text.splitAt '+' ("+".intercalate (key :: next :: rest)).toList =
        (key :: next :: rest).map String.toList := by
      rw [String.toList_intercalate]
      refine Text.splitAt_intercalate (List.cons_ne_nil _ _) fun part hpart => ?_
      obtain ⟨name, hname, rfl⟩ := List.mem_map.mp hpart
      exact (hkeys name hname).no_plus
    have htrimmed : ((key :: next :: rest).map String.toList).map Text.trim =
        (key :: next :: rest).map String.toList := by
      rw [List.map_map]
      exact List.map_congr_left fun name hname => Text.strip_eq_self (hkeys name hname).not_blank
    have hfilled : ((key :: next :: rest).map String.toList).filter (!·.isEmpty) =
        (key :: next :: rest).map String.toList := by
      refine List.filter_eq_self.mpr fun part hpart => ?_
      obtain ⟨name, hname, rfl⟩ := List.mem_map.mp hpart
      simpa using (hkeys name hname).ne_empty
    have hread : ((key :: next :: rest).map String.toList).map String.ofList =
        key :: next :: rest := by
      simp [List.map_map, Function.comp_def]
    rw [Handler.combination, if_pos hplus, hparts, htrimmed, hfilled]
    exact hread

theorem intercalate_ne_empty {keys : List String} (hne : keys ≠ [])
    (hkeys : ∀ key ∈ keys, IsKeyName key) : "+".intercalate keys ≠ "" := by
  intro hempty
  have hread := combination_intercalate hne hkeys
  rw [hempty] at hread
  have hmem : "" ∈ keys := hread ▸ List.mem_cons_self
  exact (hkeys "" hmem).ne_empty rfl

namespace Script

variable {ms b word : List Char} {line : SourceLine}

/-! ## Names of keys -/

/-- The names that signs of modifiers and a word have. -/
def keysOf (modifiers word : List Char) : List String :=
  modifiers.filterMap modifier? ++ if word.isEmpty then [] else [keyName (String.ofList word)]

theorem isKeyName_of_modifier? {c : Char} {name : String} (h : modifier? c = some name) :
    IsKeyName name := by
  have hnames : name ∈ ["ctrl", "shift", "alt", "win"] := by
    unfold modifier? at h
    split at h
    case h_5 => cases h
    all_goals
      cases h
      decide
  have hall : ∀ name ∈ ["ctrl", "shift", "alt", "win"], IsKeyName name := by decide
  exact hall name hnames

theorem isKeyName_of_mem_keyNames : ∀ entry ∈ keyNames, IsKeyName entry.2 := by
  decide

theorem isKeyName_keyName {word : String} (h : IsKeyName word) : IsKeyName (keyName word) := by
  rw [keyName]
  cases hword : keyNames.lookup word with
  | some name =>
    obtain ⟨before, after, hentries, -⟩ := List.lookup_eq_some_iff.mp hword
    have hentry : (word, name) ∈ keyNames :=
      hentries ▸ List.mem_append_right before List.mem_cons_self
    exact isKeyName_of_mem_keyNames _ hentry
  | none =>
    refine ⟨Text.lower_ne_empty h.ne_empty, Text.isBlank_of_mem_lower h.not_blank, fun hplus => ?_⟩
    exact h.no_plus (Text.mem_of_mem_lower hplus (by decide))

theorem isKeyName_of_mem_keysOf {modifiers : List Char}
    (hblank : ∀ c ∈ word, Text.isBlank c = false)
    (hplus : '+' ∉ word) : ∀ key ∈ keysOf modifiers word, IsKeyName key := by
  intro key hkey
  rcases List.mem_append.mp hkey with hkey | hkey
  · obtain ⟨c, -, hc⟩ := List.mem_filterMap.mp hkey
    exact isKeyName_of_modifier? hc
  · split at hkey
    · cases hkey
    · rename_i hne
      rw [List.mem_singleton.mp hkey]
      refine isKeyName_keyName ⟨?_, ?_, ?_⟩
      · simpa using hne
      · simpa using hblank
      · simpa using hplus

/-! ## Reading what is sent -/

/-- A word that can be sent in braces. -/
structure IsKeyWord (b : List Char) : Prop where
  ne_nil : b ≠ []
  not_blank : ∀ c ∈ b, Text.isBlank c = false
  not_brace : ∀ c ∈ b, isBrace c = false
  no_quote : '"' ∉ b
  no_colon : ':' ∉ b

theorem isKeyWord_iff : IsKeyWord b ↔
    b ≠ [] ∧ (b.all fun c => !Text.isBlank c && !isBrace c && c != '"' && c != ':') = true := by
  simp only [List.all_eq_true, Bool.and_eq_true, Bool.not_eq_true', bne_iff_ne, ne_eq]
  constructor
  · rintro ⟨hne, hblank, hbrace, hquote, hcolon⟩
    exact ⟨hne, fun c hc => ⟨⟨⟨hblank c hc, hbrace c hc⟩, fun heq => hquote (heq ▸ hc)⟩,
      fun heq => hcolon (heq ▸ hc)⟩⟩
  · rintro ⟨hne, hall⟩
    exact ⟨hne, fun c hc => (hall c hc).1.1.1, fun c hc => (hall c hc).1.1.2,
      fun hquote => (hall _ hquote).1.2 rfl,
      fun hcolon => (hall _ hcolon).2 rfl⟩

instance (b : List Char) : Decidable (IsKeyWord b) :=
  decidable_of_iff _ isKeyWord_iff.symm

/-- Signs of modifiers before a word in braces. -/
def keyText (ms b : List Char) : List Char :=
  ms ++ '{' :: (b ++ ['}'])

def quoted (text : List Char) : List Char :=
  '"' :: (text ++ ['"'])

/-- The line by which a key is sent. -/
def sendText (ms b : List Char) : List Char :=
  "Send".toList ++ '(' :: (quoted (keyText ms b) ++ [')'])

/-- The modifiers and the word that are read: if no sign stands before the braces, the signs that
the word begins with are taken for modifiers. -/
def readKey (ms b : List Char) : List Char × List Char :=
  if ms.isEmpty then (b.takeWhile isModifier, b.dropWhile isModifier) else (ms, b)

theorem keyParts_keyText (hms : ∀ c ∈ ms, isModifier c = true) (hb : IsKeyWord b) :
    keyParts (keyText ms b) = keysOf (readKey ms b).1 (readKey ms b).2 := by
  have hmodifiers : ∀ modifiers word : List Char,
      (if word.isEmpty then modifiers.filterMap modifier?
      else modifiers.filterMap modifier? ++ [keyName (String.ofList word)]) =
        keysOf modifiers word := by
    intro modifiers word
    rw [keysOf]
    split
    · exact (List.append_nil _).symm
    · rfl
  cases ms with
  | nil =>
    -- the braces enclose the whole text, so they are gone before the signs are looked for
    have hwithout : withoutBraces (keyText [] b) = b := by
      simp [withoutBraces, keyText]
    have hword : Text.strip isBrace (b.dropWhile isModifier) = b.dropWhile isModifier :=
      Text.strip_eq_self fun c hc => hb.not_brace c (List.dropWhile_subset _ hc)
    rw [keyParts, hwithout, hword]
    exact hmodifiers _ _
  | cons sign ms =>
    -- the signs end at the opening brace, and the braces are cut off the word
    have hsign : sign ≠ '{' := by
      rintro rfl
      exact absurd (hms '{' List.mem_cons_self) (by decide)
    have hwithout : withoutBraces (keyText (sign :: ms) b) = keyText (sign :: ms) b := by
      rw [keyText, withoutBraces]
      rintro rest ⟨⟩
      exact hsign rfl
    have hbrace : isModifier '{' = false := by decide
    have htaken : (keyText (sign :: ms) b).takeWhile isModifier = sign :: ms := by
      rw [keyText, List.takeWhile_append_of_pos hms,
        List.takeWhile_cons_of_neg (by rw [hbrace]; decide),
        List.append_nil]
    have hdropped : (keyText (sign :: ms) b).dropWhile isModifier = '{' :: (b ++ ['}']) := by
      rw [keyText, List.dropWhile_append_of_pos hms,
        List.dropWhile_cons_of_neg (by rw [hbrace]; decide)]
    have hword : Text.strip isBrace ('{' :: (b ++ ['}'])) = b :=
      Text.strip_enclosed rfl rfl hb.not_brace
    rw [keyParts, hwithout, htaken, hdropped, hword]
    exact hmodifiers _ _

theorem readKey_subset (ms b : List Char) : (readKey ms b).2 ⊆ b := by
  rw [readKey]
  split
  · exact List.dropWhile_subset _
  · exact List.Subset.refl b

theorem keysOf_ne_nil {modifiers : List Char} (hmodifiers : ∀ c ∈ modifiers, isModifier c = true)
    (hne : modifiers ++ word ≠ []) : keysOf modifiers word ≠ [] := by
  rw [keysOf]
  cases modifiers with
  | nil =>
    have hword : word.isEmpty = false := by simpa using hne
    simp [hword]
  | cons sign rest =>
    obtain ⟨name, hname⟩ := Option.isSome_iff_exists.mp (hmodifiers sign List.mem_cons_self)
    simp [hname]

/-- Something is read from every word. -/
theorem keysOf_readKey_ne_nil (hms : ∀ c ∈ ms, isModifier c = true) (hb : IsKeyWord b) :
    keysOf (readKey ms b).1 (readKey ms b).2 ≠ [] := by
  rw [readKey]
  split
  · refine keysOf_ne_nil (fun c hc => List.mem_takeWhile_imp hc) ?_
    rw [List.takeWhile_append_dropWhile]
    exact hb.ne_nil
  · exact keysOf_ne_nil hms fun hnil => hb.ne_nil (List.append_eq_nil_iff.mp hnil).2

/-! ## The line as a command -/

theorem notMem_keyText (hms : ∀ c ∈ ms, isModifier c = true) {c : Char} (hc : isModifier c = false)
    (hbrace : isBrace c = false) (hb : c ∉ b) : c ∉ keyText ms b := by
  have hsign : c ∉ ms := fun hmem => Bool.noConfusion ((hms c hmem).symm.trans hc)
  have hopening : c ≠ '{' := by
    rintro rfl
    exact absurd hbrace (by decide)
  have hclosing : c ≠ '}' := by
    rintro rfl
    exact absurd hbrace (by decide)
  simp [keyText, hsign, hopening, hclosing, hb]

/-- Quotes keep the white space within them. -/
theorem trim_quoted (inner : List Char) : Text.trim (quoted inner) = quoted inner := by
  refine Text.trim_eq_self ?_ ?_
  · rintro c ⟨⟩
    decide
  · intro c hc
    rw [quoted, ← List.cons_append, List.getLast?_concat] at hc
    cases hc
    decide

theorem arguments_quoted {inner : List Char} (h : '"' ∉ inner) :
    arguments (quoted inner) = [String.ofList (quoted inner)] := by
  have hbalanced : Balanced false (quoted inner) := .quotes (.inl rfl) h .nil
  have hwhole : IsWhole Openings.closed (quoted inner) :=
    (hbalanced.isNeutral rfl Bool.noConfusion).whole
  have hne : Text.trim (quoted inner) ≠ [] := by
    rw [trim_quoted]
    exact List.cons_ne_nil _ _
  rw [arguments, splitArgs_of_isWhole hwhole hne, trim_quoted, List.map_singleton]

theorem isPlainName_send : IsPlainName "Send".toList := by
  decide

/-- **The line is read as a command with what is sent as its argument.** -/
theorem ofText_sendText (hms : ∀ c ∈ ms, isModifier c = true) (hb : IsKeyWord b) (number : Nat) :
    Command.ofText (sendText ms b) number =
      ⟨"Send", [String.ofList (quoted (keyText ms b))], String.ofList (sendText ms b), number⟩ := by
  have hquote : '"' ∉ keyText ms b := notMem_keyText hms (by decide) (by decide) hb.no_quote
  have hfeed : '\n' ∉ keyText ms b := by
    refine notMem_keyText hms (by decide) (by decide) fun hmem => ?_
    exact absurd (hb.not_blank _ hmem) (by decide)
  have honeLine : isOneLine (quoted (keyText ms b)) = true := by
    refine isOneLine_of_notMem ?_
    simpa [quoted] using hfeed
  have hinner : dropLast? ')' (quoted (keyText ms b) ++ [')']) = some (quoted (keyText ms b)) := by
    simp [dropLast?]
  have hcall : readCall? (sendText ms b) = some ("Send".toList, quoted (keyText ms b)) := by
    rw [sendText, readCall?, readName?_call isPlainName_send.isIdentifier]
    simp [hinner, honeLine]
  rw [Command.ofText, hcall]
  dsimp only
  rw [arguments_quoted hquote, String.ofList_toList]

/-- At the top level it is a command as well. -/
theorem ofLine_sendText (hms : ∀ c ∈ ms, isModifier c = true) (hb : IsKeyWord b) :
    Construct.ofLine (sendText ms b) = .command := by
  have hcolon : ':' ∉ keyText ms b := notMem_keyText hms (by decide) (by decide) hb.no_colon
  refine ofLine_call isPlainName_send.isIdentifier (not_infix_of_notMem ?_)
  simpa [quoted] using hcolon

theorem mapSentKey_quoted {inner : List Char} (h : '"' ∉ inner) :
    mapSentKey (quoted inner) = mapKey inner := by
  have hstripped : Text.strip (· == '"') (quoted inner) = inner := by
    refine Text.strip_enclosed rfl rfl fun c hc => beq_eq_false_iff_ne.mpr ?_
    rintro rfl
    exact h hc
  rw [mapSentKey, trim_quoted, hstripped]

theorem builtinCommand_send {c : Command} (hname : c.name = "Send") {argument : String}
    (hargs : c.args = [argument]) :
    (builtinCommand c).1 = (Action.new (actionId c) .keyPress "Send").withKey
      (mapSentKey argument.toList) := by
  have hlower : Text.lower c.name = "send" := by
    rw [hname]
    decide
  simp only [builtinCommand, hlower]
  rw [hargs, hname, List.head?_cons, Option.map_some, Option.getD_some]

/-- The lines of a text that are read where commands can stand: those of the top level, and those of
bodies that are kept. -/
inductive IsPlacedIn (parts : List Part) : SourceLine → Prop
  | topLevel {part : Part} (hpart : part ∈ parts) : IsPlacedIn parts part.head
  | body {part : Part} {line : SourceLine} (kept : IsKept parts part)
      (hline : part.HasInBody line) :
      IsPlacedIn parts line

theorem command_mem_of_sendText {lines : List SourceLine} (h : IsPlacedIn (parts lines) line)
    (hms : ∀ c ∈ ms, isModifier c = true) (hb : IsKeyWord b) (htext : line.text = sendText ms b)
    (script : Script) : line.command ∈ (readLines script lines).allCommands := by
  cases h with
  | topLevel hpart =>
    refine command_head_mem hpart ?_ script
    rw [htext]
    exact ofLine_sendText hms hb
  | body kept hline =>
    refine hline.command_mem kept ?_ script
    rw [htext]
    rintro ⟨⟩

/-- **Sent keys reach the keyboard.**  Let a line of a text send a key, at the top level or in a
body that is kept, and let no function be declared under the name of the command.  The line is a
command of the script.  Executing its action makes one call of the keyboard, for the names of the
modifiers and of the word as they are read, in this order, and does nothing else, if there is no
plus sign in that word. -/
theorem sent_keys_reach_the_keyboard (text : String)
    (hline : IsPlacedIn (parts (sourceLines text.toList)) line)
    (hms : ∀ c ∈ ms, isModifier c = true) (hb : IsKeyWord b) (htext : line.text = sendText ms b)
    (hundeclared : "Send" ∉ (ofText text).functions.names) (hplus : '+' ∉ (readKey ms b).2) :
    let script := ofText text
    let a := (commandAction script.functions line.command).1
    line.command ∈ script.allCommands ∧ Presses a (keysOf (readKey ms b).1 (readKey ms b).2) := by
  intro script a
  have hcommand : line.command =
      ⟨"Send", [String.ofList (quoted (keyText ms b))], String.ofList (sendText ms b),
        line.number⟩ := by
    rw [SourceLine.command, htext]
    exact ofText_sendText hms hb line.number
  have hquote : '"' ∉ keyText ms b := notMem_keyText hms (by decide) (by decide) hb.no_quote
  have haction : a =
      (Action.new (actionId line.command) .keyPress "Send").withKey (mapKey (keyText ms b)) := by
    have hname : line.command.name = "Send" := congrArg Command.name hcommand
    show (commandAction script.functions line.command).1 = _
    rw [commandAction_of_notMem (by rwa [hname]),
      builtinCommand_send hname (congrArg Command.args hcommand),
      String.toList_ofList, mapSentKey_quoted hquote]
  have hkeys : ∀ key ∈ keysOf (readKey ms b).1 (readKey ms b).2, IsKeyName key :=
    isKeyName_of_mem_keysOf (fun c hc => hb.not_blank c (readKey_subset ms b hc)) hplus
  have hne := keysOf_readKey_ne_nil hms hb
  have hkey : a.key = some ("+".intercalate (keysOf (readKey ms b).1 (readKey ms b).2)) := by
    rw [haction, mapKey, keyParts_keyText hms hb]
    rfl
  refine ⟨command_mem_of_sendText hline hms hb htext {}, ?_⟩
  rw [← combination_intercalate hne hkeys]
  exact presses_of_key (congrArg Action.kind haction) (commandAction_isPrompt _ _) hkey
    (intercalate_ne_empty hne hkeys)

/-- A key with two modifiers that a function sends. -/
theorem sent_keys_reach_the_keyboard_of_function :
    let text := "Go() \x7b\nSend(\"^+\x7bTab\x7d\")\n\x7d"
    let line : SourceLine := ⟨2, "Send(\"^+\x7bTab\x7d\")".toList⟩
    let script := ofText text
    IsPlacedIn (parts (sourceLines text.toList)) line ∧ line.text =
      sendText ['^', '+'] "Tab".toList ∧
      "Send" ∉ script.functions.names ∧ line.command ∈ script.allCommands ∧
      Presses (commandAction script.functions line.command).1 ["ctrl", "shift", "tab"] := by
  intro text line script
  have hparts : parts (sourceLines text.toList) = [⟨⟨1, "Go() \x7b".toList⟩, [line]⟩] := by
    decide +kernel
  have hline : IsPlacedIn (parts (sourceLines text.toList)) line := by
    rw [hparts]
    exact .body ⟨[], [], rfl, fun _ hlater => nomatch hlater⟩ (.line List.mem_cons_self)
  have hms : ∀ c ∈ ['^', '+'], isModifier c = true := List.all_eq_true.mp (by decide)
  have hb : IsKeyWord "Tab".toList := by decide
  have hundeclared : "Send" ∉ script.functions.names := by decide +kernel
  obtain ⟨hcommand, hpresses⟩ :=
    sent_keys_reach_the_keyboard text hline hms hb rfl hundeclared (by decide)
  exact ⟨hline, rfl, hundeclared, hcommand, hpresses⟩

/-- What recording devices remember of the run of a script. -/
def recorded (text : String) : Recorder :=
  let board := (ofText text).toBoard "script" "" .epoch
  let stage : Stage Recorder := { devices := {}, registry := .standard .byName .everything {} }
  ((runBoard 16 board (.forBoard board)).run (Stage.answer Recorder.devices) stage).2.devices

/-- **Not every word in braces is pressed as one key.**  A sign at its beginning is read as a
modifier if none stands before the braces, a plus sign behind a modifier is lost, and a function may
take the place of the command. -/
theorem sent_keys_do_not_always_arrive :
    IsKeyWord "^c".toList ∧ sendText [] "^c".toList = "Send(\"\x7b^c\x7d\")".toList ∧
      keysOf [] "^c".toList = ["^c"] ∧ (recorded "Send(\"\x7b^c\x7d\")").presses = [] ∧
      (recorded "Send(\"\x7b^c\x7d\")").combinations = [["ctrl", "c"]] ∧
      IsKeyWord "+".toList ∧ sendText ['^'] "+".toList = "Send(\"^\x7b+\x7d\")".toList ∧
      keysOf ['^'] "+".toList = ["ctrl", "+"] ∧
        (recorded "Send(\"^\x7b+\x7d\")").presses = ["ctrl"] ∧
      (recorded "Send(\"^\x7b+\x7d\")").combinations = [] ∧
      keysOf [] "a".toList = ["a"] ∧
        (recorded "Send(key) \x7b\n\x7d\nSend(\"\x7ba\x7d\")").presses = [] := by
  exact ⟨by decide, rfl, by decide, by decide +kernel, by decide +kernel, by decide, rfl, by decide,
    by decide +kernel, by decide +kernel, by decide, by decide +kernel⟩

end Script

end ActionBoard
