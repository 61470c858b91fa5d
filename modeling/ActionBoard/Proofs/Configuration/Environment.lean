import ActionBoard.Configuration.Reader
import ActionBoard.Proofs.Dialogue
import ActionBoard.Proofs.Yaml.Plain
import ActionBoard.Simulation.Machine

/-!
# Paths from the environment

The interpreter and the allowed root for scripts are paths, and either may be taken from an
environment variable.  The text of the variable is read by a reader of YAML before it is a path.
Mostly it is the path itself, but it need not be: what is in quotes loses them, and a text that is
read as null stands for no path at all.  Without an allowed root scripts may be anywhere, so it is
worth knowing which texts these are.  What is read as a number, a truth value or a collection is no
path, and no configuration is made of it.

The reader may be any that takes plain lines for what they look like (`YamlReader.ReadsScalars`).
For texts of other forms the path is expressed by what is read of them: `&root ~` is no path for a
reader that knows anchors, and is itself the path for one that refuses them.

* `HasMember.fieldOr_eq`: a field of a section is read off the one member of its name.
* `yields_substituted_member`: a member of a mapping is replaced by what its value is replaced by.
* `standsFor_iff`: what the text of a variable stands for is what is read of it.
* `gives_ofText_alone`: a configuration with nothing but a path is made of every text that stands
  for one, or for none.
* `paths_from_environment`: whatever else is in a configuration, what the text stands for is the
  path that is set.
-/

namespace ActionBoard

/-! ## Members -/

namespace Yaml

/-- A mapping with a member of a name. -/
def HasMember (tree : Yaml) (name : String) (value : Yaml) : Prop :=
  ∃ members key, tree = .mapping members ∧ (key, value) ∈ members ∧ key.text? = some name

theorem mem_of_mapM_field? {members : List (Yaml × Yaml)} {fields : List (String × Yaml)}
    (h : members.mapM field? = some fields) {key value : Yaml} (hmem : (key, value) ∈ members)
    {name : String} (hkey : key.text? = some name) : (name, value) ∈ fields := by
  induction members generalizing fields with
  | nil => exact nomatch hmem
  | cons member rest ih =>
    simp only [List.mapM_cons, Option.bind_eq_bind, Option.bind_eq_some_iff, Option.pure_def,
      Option.some.injEq] at h
    obtain ⟨field, hfield, fields', hrest, rfl⟩ := h
    rcases List.mem_cons.mp hmem with rfl | hmem
    · simp only [field?, hkey, Option.map_some, Option.some.injEq] at hfield
      exact hfield ▸ List.mem_cons_self ..
    · exact List.mem_cons_of_mem _ (ih hrest hmem)

theorem lookup_eq_of_countP {α : Type} {fields : List (String × α)} {name : String} {value : α}
    (hmem : (name, value) ∈ fields) (honce : fields.countP (·.1 == name) ≤ 1) :
    fields.lookup name = some value := by
  induction fields with
  | nil => exact nomatch hmem
  | cons field rest ih =>
    obtain ⟨other, value'⟩ := field
    by_cases hname : other = name
    · subst hname
      have hnone : rest.countP (·.1 == other) = 0 := by simpa using honce
      rcases List.mem_cons.mp hmem with heq | hmem
      · cases heq
        simp
      · exact absurd (beq_self_eq_true other) (List.countP_eq_zero.mp hnone _ hmem)
    · have hmem' : (name, value) ∈ rest :=
        (List.mem_cons.mp hmem).resolve_left fun heq => hname (congrArg Prod.fst heq).symm
      have honce' : rest.countP (·.1 == name) ≤ 1 := by simpa [hname] using honce
      have hne : (name == other) = false := by simpa using Ne.symm hname
      simp only [List.lookup_cons, hne]
      exact ih hmem' honce'

/-- What is read of a field is what its member is; there is no second one of the name. -/
theorem HasMember.fieldOr_eq {tree value : Yaml} {name : String} (h : tree.HasMember name value)
    {known : List String} (hknown : name ∈ known) {fields : List (String × Yaml)}
    (hfields : tree.fields? known = some fields) {α : Type} (read : Yaml → Option α) (missing : α) :
    fieldOr fields name read missing = read value := by
  obtain ⟨members, key, rfl, hmem, hkey⟩ := h
  simp only [fields?, untagged, Option.filter_eq_some_iff, List.all_eq_true, decide_eq_true_eq]
    at hfields
  obtain ⟨hall, honce⟩ := hfields
  rw [fieldOr, lookup_eq_of_countP (mem_of_mapM_field? hall hmem hkey) (honce name hknown)]

theorem fields?_singleton (known : List String) (name : String) (value : Yaml) :
    (mapping [(string name, value)]).fields? known = some [(name, value)] := by
  have hmapM : [(string name, value)].mapM field? = some [(name, value)] := rfl
  have honce : ∀ other ∈ known, [(name, value)].countP (·.1 == other) ≤ 1 :=
    fun other _ => List.countP_le_length
  simp only [fields?, untagged, hmapM, Option.filter_eq_some_iff, List.all_eq_true,
    decide_eq_true_eq]
  exact ⟨trivial, honce⟩

theorem fieldOr_singleton {α : Type} (name other : String) (value : Yaml) (read : Yaml → Option α)
    (missing : α) :
    fieldOr [(name, value)] other read missing = if other = name then read value
      else some missing := by
  by_cases h : other = name
  · simp [fieldOr, h]
  · have hne : (other == name) = false := by simpa using h
    simp [fieldOr, List.lookup_cons, h, hne]

/-- What can be a path or none is null or a text. -/
theorem optionalText?_eq_some {tree : Yaml} {path : Option String}
    (h : tree.optionalText? = some path) :
    tree = .null ∧ path = none ∨ ∃ s, tree.untagged = .string s ∧ path = some s := by
  unfold optionalText? at h
  split at h
  · exact .inl ⟨rfl, (Option.some.inj h).symm⟩
  · obtain ⟨s, hs, rfl⟩ := Option.map_eq_some_iff.mp h
    unfold text? at hs
    split at hs
    · cases hs
      exact .inr ⟨_, ‹_›, rfl⟩
    · cases hs

theorem optionalText?_of_untagged {tree : Yaml} {s : String} (h : tree.untagged = .string s) :
    tree.optionalText? = some (some s) := by
  unfold optionalText?
  split
  · cases h
  · rw [text?, h]
    rfl

end Yaml

/-! ## Programs that may fail -/

namespace ConfigurationProgram

variable {α β : Type} {expected : (q : HostRequest) → q.Answer → Prop} {P : α → Prop} {R : β → Prop}

/-- As long as the answers are as expected, a result is as described, if there is one. -/
def Yields (expected : (q : HostRequest) → q.Answer → Prop) (P : α → Prop)
    (program : ConfigurationProgram α) : Prop :=
  Dialogue.EnsuresWhere expected (fun result => ∀ a, result = .ok a → P a) program.run

theorem yields_pure {a : α} (h : P a) : Yields expected P (pure a) := by
  rintro _ ⟨⟩
  exact h

theorem yields_throw (error : ConfigurationError) : Yields expected P (throw error) :=
  fun _ h => nomatch h

theorem yields_true (program : ConfigurationProgram α) : Yields expected (fun _ => True) program :=
  .of_forall (fun _ _ _ => trivial) program.run

theorem Yields.bind {first : ConfigurationProgram α} {next : α → ConfigurationProgram β}
    (h : Yields expected P first) (hnext : ∀ a, P a → Yields expected R (next a)) :
    Yields expected R (first >>= next) := by
  refine Dialogue.EnsuresWhere.bind h fun result hresult => ?_
  cases result with
  | ok a => exact hnext a (hresult a rfl)
  | error e => exact fun _ h => nomatch h

/-- As long as the answers are as expected, there is a result, and it is this one. -/
def Gives (expected : (q : HostRequest) → q.Answer → Prop) (a : α)
    (program : ConfigurationProgram α) : Prop :=
  Dialogue.EnsuresWhere expected (· = .ok a) program.run

theorem gives_pure (a : α) : Gives expected a (pure a) :=
  rfl

theorem Gives.bind {first : ConfigurationProgram α} {next : α → ConfigurationProgram β}
    {a : α} {b : β}
    (h : Gives expected a first) (hnext : Gives expected b (next a)) :
    Gives expected b (first >>= next) := by
  refine Dialogue.EnsuresWhere.bind h ?_
  rintro _ rfl
  exact hnext

theorem Gives.yields {program : ConfigurationProgram α} {a : α} (h : Gives expected a program) :
    Yields expected (· = a) program := by
  refine Dialogue.EnsuresWhere.mono ?_ h
  rintro _ rfl _ ⟨⟩
  rfl

/-- The result of two programs one after the other is a result of the second one. -/
theorem result_bind_eq_ok {σ : Type} {answer : (q : HostRequest) → σ → q.Answer × σ}
    {first : ConfigurationProgram α} {next : α → ConfigurationProgram β} {s : σ} {b : β}
    (h : (Dialogue.run answer (first >>= next).run s).1 = .ok b) :
    ∃ a, (Dialogue.run answer first.run s).1 = .ok a ∧
      (Dialogue.run answer (next a).run (Dialogue.run answer first.run s).2).1 = .ok b := by
  change (Dialogue.run answer (Dialogue.bind first.run (ExceptT.bindCont next)) s).1 = _ at h
  rw [Dialogue.run_bind] at h
  cases hfirst : (Dialogue.run answer first.run s).1 with
  | ok a =>
    rw [hfirst] at h
    exact ⟨a, rfl, h⟩
  | error error =>
    rw [hfirst] at h
    cases h

end ConfigurationProgram

namespace Configuration

open ConfigurationProgram

/-! ## Values from the environment -/

/-- The answers of a host on which a variable is set to a text. -/
def IsSet (name value : String) : (q : HostRequest) → q.Answer → Prop
  | .environmentVariable asked, answer => asked = name → answer = some value
  | _, _ => True

section

variable {yaml : YamlReader}

/-- A variable that is set is read, whether there is a default or not. -/
theorem gives_environmentValue {argument name value : String}
    (hname : (splitDefault argument.toList).1 = name) :
    Gives (IsSet name value) (valueOfText yaml value) (environmentValue yaml argument) := by
  intro answer hanswer
  obtain rfl : answer = some value := hanswer hname
  rfl

theorem gives_substituted_environment {argument name : String}
    (hname : (splitDefault argument.toList).1 = name) (value : String) :
    Gives (IsSet name value) (valueOfText yaml value)
      (substituted yaml (.tagged environmentTag (.string argument))) := by
  rw [substituted, if_pos rfl]
  exact gives_environmentValue hname

variable {expected : (q : HostRequest) → q.Answer → Prop} {P : Yaml → Prop}

theorem gives_substituted_singleton {value value' : Yaml}
    (h : Gives expected value' (substituted yaml value)) (key : Yaml) :
    Gives expected (.mapping [(key, value')]) (substituted yaml (.mapping [(key, value)])) := by
  rw [substituted, substitutedMembers, substitutedMembers]
  refine Gives.bind (a := [(key, value')]) (h.bind ?_) (gives_pure _)
  exact Gives.bind (gives_pure []) (gives_pure _)

theorem yields_substitutedMembers {members : List (Yaml × Yaml)} {key value : Yaml}
    (hmem : (key, value) ∈ members) (hvalue : Yields expected P (substituted yaml value)) :
    Yields expected (fun members' => ∃ value', (key, value') ∈ members' ∧ P value')
      (substitutedMembers yaml members) := by
  induction members with
  | nil => exact nomatch hmem
  | cons member rest ih =>
    rw [substitutedMembers]
    rcases List.mem_cons.mp hmem with rfl | hmem
    · exact hvalue.bind fun value' hP => (yields_true _).bind fun rest' _ =>
        yields_pure ⟨value', List.mem_cons_self .., hP⟩
    · exact (yields_true _).bind fun _ _ => (ih hmem).bind fun rest' ⟨value', hmem', hP⟩ =>
        yields_pure ⟨value', List.mem_cons_of_mem _ hmem', hP⟩

/-- A member of a mapping is replaced by what its value is replaced by. -/
theorem yields_substituted_member {tree value : Yaml} {name : String}
    (h : tree.HasMember name value) (hvalue : Yields expected P (substituted yaml value)) :
    Yields expected (fun tree' => ∃ value', tree'.HasMember name value' ∧ P value')
      (substituted yaml tree) := by
  obtain ⟨members, key, rfl, hmem, hkey⟩ := h
  rw [substituted]
  exact (yields_substitutedMembers hmem hvalue).bind fun members' ⟨value', hmem', hP⟩ =>
    yields_pure ⟨value', ⟨members', key, rfl, hmem', hkey⟩, hP⟩

end

/-! ## Paths -/

/-- The settings for scripts that are paths. -/
inductive PathSetting where
  | interpreter
  | allowedRoot

namespace PathSetting

/-- The name of the setting in its section. -/
def key : PathSetting → String
  | interpreter => "interpreter_path"
  | allowedRoot => "allowed_root"

/-- What is set, if anything. -/
def path : PathSetting → ScriptSettings → Option String
  | interpreter => ScriptSettings.interpreter
  | allowedRoot => ScriptSettings.allowedRoot

/-- The settings with nothing but this path. -/
def only (path : Option String) : PathSetting → ScriptSettings
  | interpreter => { interpreter := path }
  | allowedRoot => { allowedRoot := path }

/-- The tree of a configuration with nothing but this setting, which is taken from the
environment. -/
def alone (setting : PathSetting) (argument : String) : Yaml :=
  .mapping [(.string "script",
    .mapping [(.string setting.key, .tagged environmentTag (.string argument))])]

end PathSetting

section

variable (yaml : YamlReader)

/-- The configuration in a text takes a path from an environment variable, with or without a
default. -/
def TakesPath (text : String) (setting : PathSetting) (name : String) : Prop :=
  ∃ tree script argument, yaml text.toList = some tree ∧ tree.HasMember "script" script ∧
    script.HasMember setting.key (.tagged environmentTag (.string argument)) ∧
    (splitDefault argument.toList).1 = name

/-- What the text of a variable stands for as a path, which may be none. -/
structure StandsFor (value : String) (path : Option String) : Prop where
  /-- What cannot be read is the path itself. -/
  unread : yaml value.toList = none → path = some value
  /-- What can be read is null or a text; anything else stands for nothing. -/
  read : ∀ tree, yaml value.toList = some tree →
    tree = .null ∧ path = none ∨ ∃ s, tree.untagged = .string s ∧ path = some s
  /-- A plain line is the path itself, unless it is a word for null. -/
  plain : Yaml.isPlainLine value.toList = true →
    path = some value ∨ path = none ∧ value ∈ Yaml.nullWords

end

section

variable {yaml : YamlReader}

/-- The one setting in a configuration with nothing else is the one that takes a path. -/
theorem TakesPath.name_eq_of_alone {text name argument : String} {setting : PathSetting}
    (h : TakesPath yaml text setting name)
    (hread : yaml text.toList = some (setting.alone argument)) :
    (splitDefault argument.toList).1 = name := by
  obtain ⟨tree, script, argument', hread', ⟨_, _, hmembers, hscript, -⟩,
    ⟨_, _, hfields, hvalue, -⟩, hname⟩ := h
  cases hread.symm.trans hread'
  cases hmembers
  obtain ⟨-, rfl⟩ := Prod.mk.inj (List.mem_singleton.mp hscript)
  cases hfields
  obtain ⟨-, heq⟩ := Prod.mk.inj (List.mem_singleton.mp hvalue)
  cases heq
  exact hname

theorem StandsFor.optionalText?_eq {value : String} {path : Option String}
    (h : StandsFor yaml value path) : (valueOfText yaml value).optionalText? = some path := by
  unfold valueOfText
  cases hread : yaml value.toList with
  | none =>
    obtain rfl := h.unread hread
    rfl
  | some tree =>
    rcases h.read tree hread with ⟨rfl, rfl⟩ | ⟨s, hs, rfl⟩
    · rfl
    · exact Yaml.optionalText?_of_untagged hs

theorem standsFor_of_optionalText? (hyaml : yaml.ReadsScalars) {value : String}
    {path : Option String} (h : (valueOfText yaml value).optionalText? = some path) :
    StandsFor yaml value path := by
  unfold valueOfText at h
  cases hread : yaml value.toList with
  | none =>
    rw [hread] at h
    have hpath : path = some value := (Option.some.inj h).symm
    exact { unread := fun _ => hpath, read := by simp [hread], plain := fun _ => .inl hpath }
  | some tree =>
    rw [hread] at h
    have hpath := Yaml.optionalText?_eq_some h
    refine { unread := by simp [hread], read := ?_, plain := fun hplain => ?_ }
    · rintro _ htree
      cases hread.symm.trans htree
      exact hpath
    · rw [hyaml.plain _ hplain] at hread
      rcases Yaml.ofPlain?_eq_some hread with ⟨rfl, hnull⟩ | rfl | ⟨b, rfl⟩ | ⟨n, rfl⟩ | ⟨x, rfl⟩
      · rw [String.ofList_toList] at hnull
        exact .inr ⟨by simpa [Yaml.untagged] using hpath, hnull⟩
      · exact .inl (by simpa [Yaml.untagged] using hpath)
      all_goals simp [Yaml.untagged] at hpath

/-- What a text stands for is what is read of it as a path. -/
theorem standsFor_iff (hyaml : yaml.ReadsScalars) {value : String} {path : Option String} :
    StandsFor yaml value path ↔ (valueOfText yaml value).optionalText? = some path :=
  ⟨StandsFor.optionalText?_eq, standsFor_of_optionalText? hyaml⟩

theorem script_of_ofYaml? {tree : Yaml} {c : Configuration} (h : ofYaml? tree = some c)
    {script : Yaml}
    (hmember : tree.HasMember "script" script) : ScriptSettings.ofYaml? script = some c.script := by
  simp only [ofYaml?, Option.bind_eq_bind, Option.bind_eq_some_iff, Option.some.injEq] at h
  obtain ⟨fields, hfields, engine, -, settings, hsettings, level, -, rfl⟩ := h
  exact (hmember.fieldOr_eq (by decide) hfields ScriptSettings.ofYaml? {}).symm.trans hsettings

theorem path_of_ofYaml? {script : Yaml} {settings : ScriptSettings}
    (h : ScriptSettings.ofYaml? script = some settings) {setting : PathSetting} {value : Yaml}
    (hmember : script.HasMember setting.key value) : value.optionalText? =
      some (setting.path settings) := by
  simp only [ScriptSettings.ofYaml?, Option.bind_eq_bind, Option.bind_eq_some_iff,
    Option.some.injEq] at h
  obtain ⟨fields, hfields, interpreter, hinterpreter, timeLimit, -, allowedRoot, hroot, rfl⟩ := h
  have hfield := hmember.fieldOr_eq (by cases setting <;> decide) hfields Yaml.optionalText? none
  cases setting with
  | interpreter => exact hfield.symm.trans hinterpreter
  | allowedRoot => exact hfield.symm.trans hroot

/-- A text of white space only has no section. -/
theorem allBlank_eq_false (hyaml : yaml.ReadsScalars) {text : String}
    {members : List (Yaml × Yaml)} (hread : yaml text.toList = some (.mapping members)) :
    Text.allBlank text = false :=
  Bool.eq_false_iff.mpr fun hblank =>
    hyaml.blank _ (List.all_eq_true.mp hblank) members hread

theorem yields_read (hyaml : yaml.ReadsScalars) {text name value : String} {setting : PathSetting}
    (h : TakesPath yaml text setting name) (source : String) :
    Yields (IsSet name value) (fun c => StandsFor yaml value (setting.path c.script))
      (Configuration.read yaml source text) := by
  obtain ⟨tree, script, argument, hread, hscript, hmember, hname⟩ := h
  have hblank : Text.allBlank text = false := by
    obtain ⟨members, -, rfl, -⟩ := hscript
    exact allBlank_eq_false hyaml hread
  have hvalue := (@gives_substituted_environment yaml _ _ hname value).yields
  rw [Configuration.read, hblank, if_neg Bool.false_ne_true, hread]
  refine (yields_substituted_member hscript (yields_substituted_member hmember hvalue)).bind ?_
  rintro tree' ⟨script', hscript', _, hmember', rfl⟩
  cases hc : ofYaml? tree' with
  | none => exact yields_throw _
  | some c =>
    have hpath := path_of_ofYaml? (script_of_ofYaml? hc hscript') hmember'
    exact yields_pure ((standsFor_iff hyaml).mpr hpath)

theorem ofYaml?_alone {value : Yaml} {path : Option String} (h : value.optionalText? = some path)
    (setting : PathSetting) :
    ofYaml? (.mapping [(.string "script", .mapping [(.string setting.key, value)])]) =
      some { script := setting.only path } := by
  have hscript : ScriptSettings.ofYaml? (.mapping [(.string setting.key, value)]) =
      some (setting.only path) := by
    rw [ScriptSettings.ofYaml?, Yaml.fields?_singleton]
    cases setting <;> simp [Yaml.fieldOr_singleton, PathSetting.key, PathSetting.only, h]
  rw [ofYaml?, Yaml.fields?_singleton]
  simp [Yaml.fieldOr_singleton, hscript]

/-- Paths do not make a configuration invalid. -/
theorem validated_only (setting : PathSetting) (path : Option String) :
    ({ script := setting.only path } : Configuration).validated =
      .ok { script := setting.only path } := by
  have hdefault : ({} : Configuration).fault? = none := by decide +kernel
  have hfault : ({ script := setting.only path } : Configuration).fault? =
      ({} : Configuration).fault? := by
    cases setting <;> rfl
  rw [validated, hfault, hdefault]

/-- A configuration with nothing but a path from the environment is made of every text that stands
for one, or for none. -/
theorem gives_ofText_alone (hyaml : yaml.ReadsScalars) {text name value argument : String}
    {setting : PathSetting} (hread : yaml text.toList = some (setting.alone argument))
    (hname : (splitDefault argument.toList).1 = name) {path : Option String}
    (h : StandsFor yaml value path) :
    Gives (IsSet name value) { script := setting.only path } (ofText yaml text) := by
  have hvalue := @gives_substituted_environment yaml _ _ hname value
  have hsubstituted := gives_substituted_singleton
    (gives_substituted_singleton hvalue (.string setting.key)) (.string "script")
  refine Gives.bind (a := { script := setting.only path }) ?_ ?_
  · rw [Configuration.read, allBlank_eq_false hyaml hread, if_neg Bool.false_ne_true, hread]
    refine hsubstituted.bind ?_
    rw [ofYaml?_alone h.optionalText?_eq]
    exact gives_pure _
  · rw [validated_only]
    exact gives_pure _

end

/-! ## Runs -/

/-- A host on which a variable is set to a text in all states of some kind, and stays so
whatever it is asked. -/
structure KeepsSet {σ : Type} (answer : (q : HostRequest) → σ → q.Answer × σ) (kind : σ → Prop)
    (name value : String) : Prop where
  isSet : ∀ s, kind s → (answer (.environmentVariable name) s).1 = some value
  kept : ∀ q s, kind s → kind (answer q s).2

/-- A path as it is when it is read from a file: a relative one begins at the directory of that
file. -/
def located (file : String) (path : Option String) : Option String :=
  match Path.parent? file with
  | some directory => path.map (Path.join directory)
  | none => path

section

variable {σ : Type} {answer : (q : HostRequest) → σ → q.Answer × σ} {kind : σ → Prop}
  {name value : String}

theorem KeepsSet.run (h : KeepsSet answer kind name value) {α : Type}
    (program : HostProgram α) {s : σ} (hs : kind s) : kind (program.run answer s).2 := by
  induction program generalizing s with
  | done result => exact hs
  | ask q rest ih => exact ih _ (h.kept q s hs)

/-- On a host on which a variable is set all answers are as expected. -/
theorem KeepsSet.result (h : KeepsSet answer kind name value) {α : Type}
    {P : Except ConfigurationError α → Prop} {program : ConfigurationProgram α}
    (hensures : Dialogue.EnsuresWhere (IsSet name value) P program.run) {s : σ} (hs : kind s) :
    P (Dialogue.run answer program.run s).1 := by
  refine hensures.run h.kept (fun q s hs => ?_) hs
  cases q with
  | environmentVariable asked =>
    rintro rfl
    exact h.isSet s hs
  | _ => trivial

theorem validated_eq_ok {c c' : Configuration} (h : c.validated = .ok c') : c' = c := by
  unfold validated at h
  split at h <;> cases h
  rfl

end

/-! ## A described machine -/

/-- On a described machine a variable stays set. -/
theorem keepsSet_machine (name value : String) :
    KeepsSet Machine.answer (fun m => m.environment.lookup name = some value) name value where
  isSet m h := h
  kept q m h := by
    cases q <;> simp only [Machine.answer] <;> (try split) <;> exact h

/-- A configuration whose allowed root is in a variable. -/
def rootFromEnvironment : String :=
  "script:\n  allowed_root: !env_var ROOT\n"

/-- A machine with that configuration in a file, where the variable is set. -/
def machineWithRoot (value : String) : Machine :=
  { tree := ⟨[(["board.yaml"], .file rootFromEnvironment.toUTF8 false)]⟩
    directory := []
    environment := [("ROOT", value)]
    programs := fun _ => .error .notFound }

/-- What a program makes on that machine. -/
def resultOn (value : String) (program : ConfigurationProgram Configuration) :
    Except ConfigurationError Configuration :=
  (Dialogue.run Machine.answer program.run (machineWithRoot value)).1

theorem parse?_rootFromEnvironment :
    Yaml.parse? rootFromEnvironment.toList = some (PathSetting.allowedRoot.alone "ROOT") := by
  have htokens : Yaml.tokens? rootFromEnvironment.toList =
      some [.blockMappingStart, .key, .scalar "script" true, .value, .blockMappingStart, .key,
        .scalar "allowed_root" true, .value, .tag "!env_var", .scalar "ROOT" true, .blockEnd,
          .blockEnd] := by
    decide +kernel
  have hscript : Yaml.ofScalar? none "script" true = some (.string "script") := rfl
  have hkey : Yaml.ofScalar? none "allowed_root" true = some (.string "allowed_root") := rfl
  have hvalue : Yaml.ofScalar? (some "!env_var") "ROOT" true =
      some (.tagged environmentTag (.string "ROOT")) := rfl
  simp [Yaml.parse?, htokens, Yaml.readNode, Yaml.nestingLimit, Yaml.startsCollection,
    Yaml.readCollection,
    Yaml.readBlockMembers, Yaml.orMissing, Yaml.readValuePart, Yaml.addMember?, Yaml.withTag,
    hscript, hkey, hvalue, PathSetting.alone, PathSetting.key]

theorem takesPath_rootFromEnvironment :
    TakesPath Yaml.parse? rootFromEnvironment .allowedRoot "ROOT" :=
  ⟨_, _, "ROOT", parse?_rootFromEnvironment, ⟨_, _, rfl, List.mem_singleton_self _, rfl⟩,
    ⟨_, _, rfl, List.mem_singleton_self _, rfl⟩, rfl⟩

theorem eq_ok_of_toOption {ε α : Type} {result : Except ε α} {a : α}
    (h : result.toOption = some a) : result = .ok a := by
  cases result <;> cases h
  rfl

/-! ## What is set -/

/-- **A path from the environment is what the text of the variable stands for.**  Where a
configuration takes a path from a variable that is set, making the configuration fails, or the path
is the one that the text of the variable stands for: none where that is read as null, and otherwise
a path.  A configuration with nothing else in it is made just if the text stands for something. -/
theorem paths_from_environment {yaml : YamlReader} (hyaml : yaml.ReadsScalars) {σ : Type}
    {answer : (q : HostRequest) → σ → q.Answer × σ} {kind : σ → Prop}
    {text name value : String} {setting : PathSetting} (htext : TakesPath yaml text setting name)
    (hset : KeepsSet answer kind name value) {s : σ} (hs : kind s) :
    (∀ c, (Dialogue.run answer (ofText yaml text).run s).1 = .ok c →
      StandsFor yaml value (setting.path c.script)) ∧
    (∀ file c, ((HostProgram.readText file).run answer s).1 = .ok text →
      (Dialogue.run answer (load yaml file).run s).1 = .ok c →
        ∃ path, StandsFor yaml value path ∧ setting.path c.script = located file path) ∧
    ∀ argument, yaml text.toList = some (setting.alone argument) →
      ((∃ c, (Dialogue.run answer (ofText yaml text).run s).1 = .ok c) ↔
        ∃ path, StandsFor yaml value path) := by
  have hpath : ∀ c, (Dialogue.run answer (ofText yaml text).run s).1 = .ok c →
      StandsFor yaml value (setting.path c.script) := by
    intro c hresult
    obtain ⟨c', hread, hvalid⟩ := result_bind_eq_ok hresult
    obtain rfl := validated_eq_ok hvalid
    exact hset.result (yields_read hyaml htext unnamedSource) hs _ hread
  refine ⟨hpath, fun file c hfile hresult => ?_, fun argument halone => ⟨?_, ?_⟩⟩
  · obtain ⟨content, hcontent, hresult⟩ := result_bind_eq_ok hresult
    obtain rfl : content = text := by
      rw [ExceptT.run_mk, Dialogue.run_bind, hfile] at hcontent
      cases hcontent
      rfl
    obtain ⟨written, hread, hvalid⟩ := result_bind_eq_ok hresult
    have hwritten := hset.result (yields_read hyaml htext file) (hset.run _ hs) written hread
    obtain rfl := validated_eq_ok hvalid
    refine ⟨setting.path written.script, hwritten, ?_⟩
    unfold located
    cases Path.parent? file <;> cases setting <;> rfl
  · rintro ⟨c, hresult⟩
    exact ⟨_, hpath c hresult⟩
  · rintro ⟨path, hstands⟩
    have hname := htext.name_eq_of_alone halone
    exact ⟨_, hset.result (gives_ofText_alone hyaml halone hname hstands) hs⟩

/-- A root that is a relative path, in a configuration that is at hand and in one that is in a
file. -/
theorem paths_from_environment_of_relative :
    (resultOn "scripts" (ofText Yaml.parse? rootFromEnvironment) =
        .ok { script := { allowedRoot := some "scripts" } } ∧
      StandsFor Yaml.parse? "scripts" (some "scripts")) ∧
    (resultOn "scripts" (load Yaml.parse? "/board.yaml") =
        .ok { script := { allowedRoot := some "/scripts" } } ∧
      ∃ path, StandsFor Yaml.parse? "scripts" path ∧
        some "/scripts" = located "/board.yaml" path) ∧
    ((∃ c, resultOn "scripts" (ofText Yaml.parse? rootFromEnvironment) = .ok c) ↔
      ∃ path, StandsFor Yaml.parse? "scripts" path) := by
  have hroot : (machineWithRoot "scripts").environment.lookup "ROOT" = some "scripts" := rfl
  obtain ⟨hpath, hlocated, hmade⟩ := paths_from_environment Yaml.readsScalars_parse?
    takesPath_rootFromEnvironment (keepsSet_machine "ROOT" "scripts") hroot
  have hresult : resultOn "scripts" (ofText Yaml.parse? rootFromEnvironment) =
      .ok { script := { allowedRoot := some "scripts" } } := eq_ok_of_toOption (by decide +kernel)
  have hfile : ((HostProgram.readText "/board.yaml").run Machine.answer
      (machineWithRoot "scripts")).1 =
        .ok rootFromEnvironment := eq_ok_of_toOption (by decide +kernel)
  have hload : resultOn "scripts" (load Yaml.parse? "/board.yaml") =
      .ok { script := { allowedRoot := some "/scripts" } } := eq_ok_of_toOption (by decide +kernel)
  exact ⟨⟨hresult, hpath _ hresult⟩, ⟨hload, hlocated "/board.yaml" _ hfile hload⟩,
    hmade "ROOT" parse?_rootFromEnvironment⟩

/-- A root that is set to a word for null is none. -/
theorem null_root_is_none :
    TakesPath Yaml.parse? rootFromEnvironment .allowedRoot "ROOT" ∧
      KeepsSet Machine.answer (fun m => m.environment.lookup "ROOT" = some "null") "ROOT" "null" ∧
      (machineWithRoot "null").environment.lookup "ROOT" = some "null" ∧
      resultOn "null" (ofText Yaml.parse? rootFromEnvironment) =
        .ok { script := { allowedRoot := none } } :=
  ⟨takesPath_rootFromEnvironment, keepsSet_machine "ROOT" "null", rfl,
    eq_ok_of_toOption (by decide +kernel)⟩

end Configuration

end ActionBoard
