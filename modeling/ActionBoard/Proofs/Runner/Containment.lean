import ActionBoard.Proofs.Dialogue
import ActionBoard.Proofs.Host.RealLocation
import ActionBoard.Simulation.Scene
import Mathlib.Tactic.ByContra

/-!
# Containment

A runner with an allowed root is meant to touch only scripts that are really inside of it.  The
location of a script is settled before it is compared with the root, and it is the settled
location that is opened.  If the path leads somewhere, that location is real, and opening it leads
nowhere else.  If it does not, the location is only spelled by the parts of the path, and there
may be a link at it all the same: a path through a missing directory and back leads nowhere, but
without that detour it does.

* `scriptPath?_of_mem_asked`: only the settled location is ever touched, and only if it
  is within the root.
* `contained_iff`: the scripts that are touched are really inside of the root, unless the path
  escapes.
* `Escapes.exists_link`: a path can only escape through a link below the root.
-/

namespace ActionBoard

/-! ## Touching scripts -/

/-- The path of the script file that a request reads or hands to an interpreter. -/
def RunnerRequest.scriptPath? : RunnerRequest → Option String
  | .host (.readFile path) => some path
  | .host (.launch _ script _) => some script
  | _ => none

/-- The location that is settled for a path: the real one, or else the one that it spells. -/
def FileTree.settled (tree : FileTree) (start : Location) (path : String) : Location :=
  match tree.locate start path with
  | .ok location => location
  | .error _ => Location.follow start path

namespace Containment

/-- Every script file that some requests touch is really inside of a root. -/
def Contained (tree : FileTree) (start root : Location) (requests : List RunnerRequest) : Prop :=
  ∀ request ∈ requests, ∀ path, request.scriptPath? = some path →
    ∀ real, tree.locate start path = .ok real → tree.isFileAt real = true →
      real.isWithin root = true

/-- A path that leads nowhere, but spells a location within a root that leads to a file outside. -/
structure Escapes (tree : FileTree) (start root : Location) (path : String) : Prop where
  missing : ∀ real, tree.locate start path ≠ .ok real
  spelled : (Location.follow start path).isWithin root = true
  outside : ∃ real, tree.locate start (Location.follow start path).path = .ok real ∧
    tree.isFileAt real = true ∧ real.isWithin root = false

/-! ## What is asked -/

/-- A request that touches no script. -/
def TouchesNone (request : RunnerRequest) : Prop :=
  request.scriptPath? = none

/-- A request that touches no script but the one at a path. -/
def TouchesOnly (path : String) (request : RunnerRequest) : Prop :=
  ∀ touched, request.scriptPath? = some touched → touched = path

theorem TouchesNone.touchesOnly {request : RunnerRequest} (h : TouchesNone request)
    (path : String) : TouchesOnly path request := by
  intro touched ht
  rw [h] at ht
  cases ht

theorem onHost_bind {α β : Type} (program : HostProgram α) (next : α → HostProgram β) :
    RunnerProgram.onHost (program.bind next) =
      (RunnerProgram.onHost program).bind fun a => RunnerProgram.onHost (next a) :=
  Dialogue.translate_bind _ _ program next

/-- Settling a route asks where the path leads, and where one is. -/
theorem asks_resolve {P : RunnerRequest → Prop} {path : String}
    (hreal : P (.host (.realLocation path))) (hdirectory : P (.host .workingDirectory)) :
    (RunnerProgram.onHost (HostProgram.resolve path)).Asks P := by
  refine ⟨hreal, fun found => ?_⟩
  cases found with
  | some location => trivial
  | none =>
    show (RunnerProgram.onHost (if Path.isRooted path then _ else _)).Asks P
    split
    · trivial
    · exact ⟨hdirectory, fun _ => trivial⟩

theorem asks_isAllowed {P : RunnerRequest → Prop} (hreal : ∀ path, P (.host (.realLocation path)))
    (hdirectory : P (.host .workingDirectory)) (route : Route) (root : Option String) :
    (RunnerProgram.onHost (Runner.isAllowed route root)).Asks P := by
  cases root with
  | none => trivial
  | some root =>
    rw [Runner.isAllowed, Dialogue.bind_eq, onHost_bind]
    exact (asks_resolve (hreal root) hdirectory).bind fun _ => trivial

theorem touchesNone_resolve (path : String) :
    (RunnerProgram.onHost (HostProgram.resolve path)).Asks TouchesNone :=
  asks_resolve (P := TouchesNone) rfl rfl

theorem touchesNone_isAllowed (route : Route) (root : Option String) :
    (RunnerProgram.onHost (Runner.isAllowed route root)).Asks TouchesNone :=
  asks_isAllowed (P := TouchesNone) (fun _ => rfl) rfl route root

theorem asks_firstFile? (paths : List String) :
    (RunnerProgram.onHost (HostProgram.firstFile? paths)).Asks TouchesNone := by
  induction paths with
  | nil => trivial
  | cons path rest ih =>
    refine ⟨rfl, fun isFile => ?_⟩
    cases isFile with
    | true => trivial
    | false => exact ih

theorem asks_interpreterFor (runner : Runner) (mode : RunMode) :
    (RunnerProgram.onHost (runner.interpreterFor mode)).Asks TouchesNone := by
  cases mode with
  | emulated => trivial
  | auto => exact ⟨rfl, fun named => asks_firstFile? _⟩
  | native => exact ⟨rfl, fun named => asks_firstFile? _⟩

/-- What the gate says about the content of a script file. -/
def verdict (runner : Runner) (route : Route) :
    Except FileError String → Except (List Diagnostic) Admission
  | .error e => .error [.error (StorageError.unreadableScript route.path e).message 0]
  | .ok text => runner.judge (Script.ofText text)

/-- The gate reads a script once and asks for nothing else. -/
theorem check_eq (runner : Runner) (route : Route) :
    runner.check route =
      (HostProgram.readText route.path).bind fun content => .done
        (verdict runner route content) := by
  show Dialogue.bind (Script.load route.path).run _ = _
  rw [Script.run_load, Dialogue.bind_assoc]
  congr 1
  funext content
  cases content with
  | error e => rfl
  | ok text => rfl

/-- The only script that is read is the one on the route. -/
theorem asks_check (runner : Runner) (route : Route) :
    (RunnerProgram.onHost (runner.check route)).Asks (TouchesOnly route.path) := by
  rw [check_eq]
  exact ⟨fun touched ht => (Option.some.inj ht).symm, fun _ => trivial⟩

/-- The only script that is handed to an interpreter is the one on the route. -/
theorem asks_runAdmitted (runner : Runner) (route : Route) (options : RunOptions)
    (admission : Admission) :
    (runner.runAdmitted route options admission).Asks (TouchesOnly route.path) := by
  refine Dialogue.Asks.bind ((asks_interpreterFor runner options.mode).mono fun _ h =>
    h.touchesOnly _)
    fun interpreter => ?_
  obtain ⟨mode, limit, root⟩ := options
  cases interpreter with
  | some interpreter => exact ⟨fun touched ht => (Option.some.inj ht).symm, fun _ => trivial⟩
  | none =>
    cases mode with
    | native => trivial
    | auto => exact ⟨fun touched ht => (nomatch ht), fun _ => trivial⟩
    | emulated => exact ⟨fun touched ht => (nomatch ht), fun _ => trivial⟩

/-! ## What is touched on a scene -/

variable {σ : Type} {scene : Scene σ} {runner : Runner} {path root : String}
  {rootLocation : Location} {options : RunOptions}

/-- The location that is settled for a path on a scene. -/
def settled (scene : Scene σ) (path : String) : Location :=
  scene.machine.tree.settled scene.machine.directory path

/-- The requests that are made while a script is executed. -/
def requests (scene : Scene σ) (runner : Runner) (path : String) (options : RunOptions) :
    List RunnerRequest :=
  (runner.execute path options).asked Scene.answer scene

/-- On a scene a working directory exists, so every route begins at the root. -/
theorem run_resolve (scene : Scene σ) (path : String) :
    (RunnerProgram.onHost (HostProgram.resolve path)).run Scene.answer scene =
      (.ofLocation (settled scene path), scene) := by
  have hanswer : Scene.answer (.host (.realLocation path)) scene =
      ((scene.machine.tree.locate scene.machine.directory path).toOption, scene) := rfl
  show (Dialogue.ask _ _).run Scene.answer scene = _
  rw [Dialogue.run_ask, hanswer, settled, FileTree.settled]
  cases scene.machine.tree.locate scene.machine.directory path with
  | ok location => rfl
  | error e =>
    show (RunnerProgram.onHost (if Path.isRooted path then _ else _)).run Scene.answer scene = _
    split
    · rename_i hrooted
      rw [Route.follow_of_isRooted hrooted .here scene.machine.directory]
      rfl
    · rfl

/-- The comparison with a root that exists. -/
theorem run_isAllowed
    (hexists : scene.machine.tree.locate scene.machine.directory root = .ok rootLocation)
    (location : Location) :
    (RunnerProgram.onHost (Runner.isAllowed (.ofLocation location) (some root))).run Scene.answer
      scene = (location.isWithin rootLocation, scene) := by
  have hsettled : settled scene root = rootLocation := by
    rw [settled, FileTree.settled, hexists]
  rw [Runner.isAllowed, Dialogue.bind_eq, onHost_bind, Dialogue.run_bind, run_resolve, hsettled]
  rfl

/-- Of a script that is not within the root nothing is touched. -/
theorem touchesNone_of_mem_requests (hroot : runner.root? options = some root)
    (hexists : scene.machine.tree.locate scene.machine.directory root = .ok rootLocation)
    (hout : (settled scene path).isWithin rootLocation = false) :
    ∀ request ∈ requests scene runner path options, TouchesNone request := by
  intro request h
  have hgate := run_isAllowed hexists (settled scene path)
  rw [hout] at hgate
  rw [requests, Runner.execute, Dialogue.bind_eq, Dialogue.asked_bind, run_resolve, hroot,
    Runner.pass] at h
  simp only [Dialogue.bind_eq, onHost_bind, Dialogue.bind_assoc, Dialogue.asked_bind, hgate] at h
  rcases List.mem_append.mp h with h | h
  · exact (touchesNone_resolve path).asked scene request h
  · rcases List.mem_append.mp h with h | h
    · exact (touchesNone_isAllowed _ _).asked scene request h
    · cases h

/-- Of a script that is within the root the file is read, and no other is touched. -/
theorem touchesOnly_of_mem_requests (hroot : runner.root? options = some root)
    (hexists : scene.machine.tree.locate scene.machine.directory root = .ok rootLocation)
    (hin : (settled scene path).isWithin rootLocation = true) :
    RunnerRequest.host (.readFile (settled scene path).path) ∈ requests scene runner path options ∧
      ∀ request ∈ requests scene runner path options,
        TouchesOnly (settled scene path).path request := by
  have hgate := run_isAllowed hexists (settled scene path)
  have hread : RunnerRequest.host (.readFile (settled scene path).path) ∈
      (RunnerProgram.onHost (runner.check (.ofLocation (settled scene path)))).asked
        Scene.answer scene := by
    rw [check_eq]
    exact List.mem_cons_self
  rw [hin] at hgate
  rw [requests, Runner.execute, Dialogue.bind_eq, Dialogue.asked_bind, run_resolve,
    hroot, Runner.pass]
  simp only [Dialogue.bind_eq, onHost_bind, Dialogue.bind_assoc, Dialogue.asked_bind,
    hgate, if_true]
  constructor
  · exact List.mem_append_right _ (List.mem_append_right _ (List.mem_append_left _ hread))
  · intro request h
    rcases List.mem_append.mp h with h | h
    · exact ((touchesNone_resolve path).asked scene request h).touchesOnly _
    · rcases List.mem_append.mp h with h | h
      · exact ((touchesNone_isAllowed _ _).asked scene request h).touchesOnly _
      · rcases List.mem_append.mp h with h | h
        · exact (asks_check runner _).asked scene request h
        · split at h
          · cases h
          · exact (asks_runAdmitted runner _ options _).asked _ request h

/-- Whether scripts are touched outside of the root depends on where the settled location leads. -/
theorem contained_iff_settled (hroot : runner.root? options = some root)
    (hexists : scene.machine.tree.locate scene.machine.directory root = .ok rootLocation) :
    Contained scene.machine.tree scene.machine.directory rootLocation
      (requests scene runner path options) ↔
      ((settled scene path).isWithin rootLocation = true → ∀ real,
        scene.machine.tree.locate scene.machine.directory (settled scene path).path = .ok real →
          scene.machine.tree.isFileAt real = true → real.isWithin rootLocation = true) := by
  constructor
  · intro h hin
    exact h _ (touchesOnly_of_mem_requests hroot hexists hin).1 _ rfl
  · intro h request hrequest touched htouched
    by_cases hin : (settled scene path).isWithin rootLocation = true
    · rw [(touchesOnly_of_mem_requests hroot hexists hin).2 request hrequest touched htouched]
      exact h hin
    · have hnone :=
        touchesNone_of_mem_requests hroot hexists (Bool.eq_false_iff.mpr hin) request hrequest
      rw [hnone] at htouched
      cases htouched

/-! ## Containment -/

/-- A path can only escape through a link below the root: the location that it spells
goes through one. -/
theorem Escapes.exists_link {tree : FileTree} {start : Location}
    (h : Escapes tree start rootLocation path)
    (hstart : tree.IsReal start) (hroot : tree.IsReal rootLocation) :
    ∃ place, rootLocation <+: place ∧ place <+: Location.follow start path ∧
      tree.isLinkAt place = true := by
  obtain ⟨real, hreal, -, hout⟩ := h.outside
  have hspelled : rootLocation <+: Location.follow start path :=
    List.isPrefixOf_iff_prefix.mp h.spelled
  by_contra hno
  have hlink : ∀ place, place <+: Location.follow start path → tree.isLinkAt place = false := by
    intro place hplace
    rcases List.prefix_or_prefix_of_prefix hplace hspelled with habove | hbelow
    · exact hroot.noLink place habove
    · refine Bool.eq_false_iff.mpr fun hl => hno ⟨place, hbelow, hplace, hl⟩
  have hback := FileTree.eq_of_locate_path_of_noLink (hstart.named.follow path) hlink hreal
  rw [hback, h.spelled] at hout
  cases hout

/-- **Scripts are contained unless the path escapes**: every script file that is read or handed to
an interpreter while a script is executed is really inside of the root that is in force, if that
root exists.  The working directory is a real location, as a system gives it. -/
theorem contained_iff (scene : Scene σ) (runner : Runner) (path : String) (options : RunOptions)
    (hroot : runner.root? options = some root)
    (hexists : scene.machine.tree.locate scene.machine.directory root = .ok rootLocation)
    (hdirectory : scene.machine.tree.IsReal scene.machine.directory) :
    Contained scene.machine.tree scene.machine.directory rootLocation
      (requests scene runner path options) ↔
      ¬ Escapes scene.machine.tree scene.machine.directory rootLocation path := by
  rw [contained_iff_settled hroot hexists, settled, FileTree.settled]
  cases hl : scene.machine.tree.locate scene.machine.directory path with
  | ok location =>
    refine iff_of_true (fun hin real hreal _ => ?_) fun he => he.missing location hl
    rw [FileTree.eq_of_locate_path (FileTree.isReal_locate hdirectory hl) hreal]
    exact hin
  | error e =>
    constructor
    · intro h he
      obtain ⟨real, hreal, hfile, hout⟩ := he.outside
      rw [h he.spelled real hreal hfile] at hout
      cases hout
    · intro h hin real hreal hfile
      by_contra hout
      refine h ⟨fun found hfound => ?_, hin, real, hreal, hfile, Bool.eq_false_iff.mpr hout⟩
      rw [hl] at hfound
      cases hfound

/-! ## A link out of the root -/

/-- A scene with a link in the directory `root` to a script beside that directory. -/
def linkedScene : Scene Unit where
  setting := { devices := fun _ s => (.error (.unavailable ""), s), settings := {} }
  session := { stage := { devices := (), registry := .empty } }
  machine :=
    { directory := []
      tree :=
        ⟨[(["root"], .directory), (["root", "link"], .link "../script"),
          (["script"], .file .empty false)]⟩
      programs := fun _ => .error .notFound }

/-- A runner that is to run the scripts in the directory `root` only. -/
def rootedRunner : Runner where
  settings := { allowedRoot := some "root" }
  stamp := { now := .epoch, milliseconds := 0, process := 0, first := 0 }

/-- The link itself is no way out. -/
theorem contained_of_link :
    linkedScene.machine.tree.locate [] "root" = .ok ["root"] ∧
      Contained linkedScene.machine.tree [] ["root"]
        (requests linkedScene rootedRunner "root/link" {}) := by
  have hexists : linkedScene.machine.tree.locate [] "root" = .ok ["root"] := rfl
  refine ⟨hexists,
    (contained_iff linkedScene rootedRunner "root/link" {} rfl hexists (.root _)).mpr ?_⟩
  intro h
  have hlink : linkedScene.machine.tree.locate [] "root/link" = .ok ["script"] := rfl
  exact h.missing _ hlink

/-- A detour to it through a missing directory is one: the file of the script is read. -/
theorem not_contained_of_detour :
    ¬ Contained linkedScene.machine.tree [] ["root"]
      (requests linkedScene rootedRunner "root/missing/../link" {}) := by
  have hexists : linkedScene.machine.tree.locate [] "root" = .ok ["root"] := rfl
  intro h
  have hout := (contained_iff_settled rfl hexists).mp h (by decide) ["script"] rfl (by decide)
  exact absurd hout (by decide)

end Containment
end ActionBoard
