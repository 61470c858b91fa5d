import ActionBoard.Device.Recorder
import ActionBoard.Proofs.Engine.Handling
import ActionBoard.Proofs.Handler.Substitution
import ActionBoard.Proofs.Records.Update

/-!
# Saved values are read back

What an action saves in a record, another action finds there.  The two look for the record by the
same text, but only saving puts variables into that text, and what is saved must not change which
record is found.  It does not as long as another cell is updated than the one that is compared: then
the record that was updated still matches, and those in front of it still do not.

* `Table.FirstMatch.insert`, `RecordStore.search_updateFirst`: the first record that matches, after
  the update of another cell of it.
* `Action.reading`: what a search makes of the record it finds, and `handle_dbSearch` that
  this is all it makes.
* `handle_saveInOrder_of_success`: what a successful saving leaves behind, whatever the order
  of the variables is.
-/

namespace ActionBoard

variable {column value target : String} {new : Value} {record : Record}
  {records earlier later : List Record}

/-! ## Records after an update -/

namespace Table

/-- Only the cell that is compared decides whether a record matches. -/
theorem cellMatches_insert (hne : column ≠ target) :
    cellMatches (record.insert target new) column value = cellMatches record column value := by
  rw [cellMatches, Dictionary.find?_insert_of_ne record new hne, cellMatches]

theorem FirstMatch.insert (h : FirstMatch column value records earlier record later)
    (hne : column ≠ target) :
    FirstMatch column value (earlier ++ record.insert target new :: later) earlier
      (record.insert target new) later :=
  ⟨rfl, h.unmatched, (cellMatches_insert hne).trans h.matched⟩

end Table

namespace RecordStore

variable {store : RecordStore} {name : String}

/-- An update succeeds where a search finds something. -/
theorem exists_search_of_updateFirst
    (h : (store.updateFirst name column value target new).1 = true) :
    ∃ record, store.search name column value = some record := by
  rw [← Option.ne_none_iff_exists']
  intro hnone
  rw [updateFirst_of_search_eq_none hnone] at h
  cases h

/-- **After the update of another cell the same record is found**, with the new value in that
cell. -/
theorem search_updateFirst (hne : column ≠ target)
    (h : store.search name column value = some record) (new : Value) :
    (store.updateFirst name column value target new).2.search name column value =
      some (record.insert target new) := by
  obtain ⟨table, earlier, later, htable, hfirst⟩ := search_eq_some_iff.mp h
  rw [updateFirst_of_search htable hfirst]
  exact search_eq_some_iff.mpr
    ⟨_, earlier, later, Dictionary.find?_insert_self .., hfirst.insert hne⟩

end RecordStore

/-! ## Searching -/

namespace Action

/-- What a search makes of the record that it finds, if it finds one: its outcome and the value
of its variable. -/
def reading (a : Action) : Option Record → Outcome × Value
  | some record =>
    let found := Handler.searchResult record (a.metaTextOr "result_column" "")
    (.succeeded a ("found in " ++ a.metaTextOr "database" "" ++ ": " ++
      a.metaTextOr "result_variable" "db_result" ++ "="
      ++ found.text), found)
  | none => (.unmet a "not found", .null)

/-- Of a record that has the wanted cell, only this cell is read. -/
theorem reading_of_find? {a : Action} {cell : Value}
    (hcolumn : a.metaTextOr "result_column" "" ≠ "")
    (h : record.find? (a.metaTextOr "result_column" "") = some cell) :
    a.reading (some record) =
      (.succeeded a ("found in " ++ a.metaTextOr "database" "" ++ ": " ++
        a.metaTextOr "result_variable" "db_result"
        ++ "=" ++ cell.text), cell) := by
  have hcell : Handler.searchResult record (a.metaTextOr "result_column" "") = cell := by
    rw [Handler.searchResult, if_neg (mt String.isEmpty_iff.mp hcolumn), h, Option.getD_some]
  rw [reading, hcell]

/-- What a dispatched search gives: its outcome, and what its variable holds then. -/
def given (a : Action) (ran : (Outcome × Context) × Stage Recorder) : Outcome × Option Value :=
  (ran.1.1, ran.1.2.vars.find? (a.metaTextOr "result_variable" "db_result"))

end Action

variable {ports : PortSet} {a : Action} {ctx : Context} {stage : Stage Recorder}

/-- A call of the recording devices is answered. -/
theorem play_device_recorder (call : DeviceCall) (vars : Variables) (stage : Stage Recorder) :
    Stage.play Recorder.devices ((Handling.device call).run vars) stage =
      ((.ok (stage.devices.respond call).1, vars), (stage.call Recorder.devices call).2) :=
  Stage.play_device Recorder.devices call vars stage

theorem play_requireStore (hrecords : ports.records = true) (vars : Variables)
    (stage : Stage Recorder) :
    Stage.play Recorder.devices ((Handler.requireStore ports).run vars) stage =
      ((.ok (), vars), stage) := by
  rw [Handler.requireStore, Handling.requirePort, if_pos hrecords]
  rfl

/-- A search stores its reading of the record that the tables have for it. -/
theorem handle_dbSearch (hrecords : ports.records = true) (a : Action) (ctx : Context)
    (stage : Stage Recorder) :
    let found :=
      stage.devices.tables.search (a.metaTextOr "database" "") (a.metaTextOr "search_column" "")
        ((a.metaText? "search_value").getD "")
    let handled := stage.handle Recorder.devices (Handler.dbSearch ports a) a ctx
    handled.1.1 = (a.reading found).1 ∧
      handled.1.2.vars = ctx.vars.insert (a.metaTextOr "result_variable" "db_result")
        (a.reading found).2 := by
  intro found handled
  have hstore := play_requireStore hrecords ctx.vars stage
  have hcall := play_device_recorder
    (.searchRecord (a.metaTextOr "database" "") (a.metaTextOr "search_column" "")
    ((a.metaText? "search_value").getD "")) ctx.vars stage
  have hanswer :
      (stage.devices.respond
        (.searchRecord (a.metaTextOr "database" "") (a.metaTextOr "search_column" "")
    ((a.metaText? "search_value").getD ""))).1 = found := rfl
  rw [hanswer] at hcall
  have hhandled : handled = stage.handle Recorder.devices (Handler.dbSearch ports a) a ctx := rfl
  rw [Stage.handle, Handler.dbSearch, Stage.play_bind_of_ok hstore] at hhandled
  dsimp only at hhandled
  rw [Stage.play_bind_of_ok hcall] at hhandled
  rw [hhandled]
  cases found with
  | none => exact ⟨rfl, rfl⟩
  | some record => exact ⟨rfl, rfl⟩

/-- A table that has to be there is looked up. -/
theorem play_requireTable (hrecords : ports.records = true) (name : String) (vars : Variables)
    (stage : Stage Recorder) :
    Stage.play Recorder.devices ((Handler.requireTable ports name).run vars) stage =
      (((stage.devices.tables.find? name).elim (.error (.storeNotFound name)) .ok, vars),
        (stage.call Recorder.devices (.readTable name)).2) := by
  have hstore : Stage.play Recorder.devices ((Handler.requireStore ports).run vars) stage =
      ((.ok (), vars), stage) :=
    play_requireStore hrecords vars stage
  rw [Handler.requireTable, Stage.play_bind_of_ok hstore,
    Stage.play_bind_of_ok (play_device_recorder (.readTable name) vars stage)]
  show Stage.play Recorder.devices ((Handling.require (stage.devices.tables.find? name) _).run vars)
      _ = _
  cases stage.devices.tables.find? name with
  | none => rfl
  | some table => rfl

/-- Saving succeeds only by an update, and remembers the text. -/
theorem play_saveText (hrecords : ports.records = true) (searchValue saveValue : String)
    (vars : Variables) :
    let updated := stage.devices.tables.updateFirst (a.metaTextOr "database" "")
      (a.metaTextOr "search_column" "")
      searchValue (a.metaTextOr "update_column" "") (.string saveValue)
    let played :=
      Stage.play Recorder.devices ((Handler.saveText ports a searchValue saveValue).run vars) stage
    (outcomeOf a played.1.1).success = true → updated.1 = true ∧
      played.2.devices.tables = updated.2 ∧
      played.1.2 = vars.insert "db_last_saved_value" (.string saveValue) := by
  intro updated played hsuccess
  have htable := play_requireTable hrecords (a.metaTextOr "database" "") vars stage
  have hplayed : played = Stage.play Recorder.devices
      ((Handler.saveText ports a searchValue saveValue).run vars) stage :=
    rfl
  rw [Handler.saveText] at hplayed
  cases hfound : stage.devices.tables.find? (a.metaTextOr "database" "") with
  | none =>
    rw [hfound] at htable
    rw [Stage.play_bind_of_error htable] at hplayed
    rw [hplayed] at hsuccess
    cases hsuccess
  | some table =>
    rw [hfound] at htable
    have hupdate := play_device_recorder
      (.updateRecord (a.metaTextOr "database" "") (a.metaTextOr "search_column" "")
      searchValue (a.metaTextOr "update_column" "") (.string saveValue)) vars
      (stage.call Recorder.devices (.readTable (a.metaTextOr "database" ""))).2
    rw [Stage.play_bind_of_ok htable, Stage.play_bind_of_ok hupdate] at hplayed
    have hanswer :
        (((stage.call Recorder.devices (.readTable (a.metaTextOr "database" ""))).2.devices.respond
      (.updateRecord (a.metaTextOr "database" "") (a.metaTextOr "search_column" "")
      searchValue (a.metaTextOr "update_column" "") (.string saveValue)))).1 = updated.1 := rfl
    rw [hanswer] at hplayed
    cases hupdated : updated.1 with
    | false =>
      rw [hupdated] at hplayed
      rw [hplayed] at hsuccess
      cases hsuccess
    | true =>
      rw [hupdated] at hplayed
      rw [hplayed]
      exact ⟨rfl, rfl, rfl⟩

/-- A successful saving has updated the record, with the variables filled in, and
remembers the text. -/
theorem handle_saveInOrder_of_success {enumerate : Variables → List (String × Value)}
    (h : (stage.handle Recorder.devices (Handler.saveInOrder enumerate ports a) a ctx).1.1.success =
      true) :
    let text (key : String) := substituteIn (enumerate ctx.vars) ((a.metaText? key).getD "")
    let updated := stage.devices.tables.updateFirst (a.metaTextOr "database" "")
      (a.metaTextOr "search_column" "")
      (text "search_value") (a.metaTextOr "update_column" "") (.string (text "save_value"))
    let handled := stage.handle Recorder.devices (Handler.saveInOrder enumerate ports a) a ctx
    ports.records = true ∧ updated.1 = true ∧ handled.2.devices.tables = updated.2 ∧
      handled.1.2.vars = ctx.vars.insert "db_last_saved_value" (.string (text "save_value")) := by
  intro text updated handled
  have hhandled :
      handled = stage.handle Recorder.devices (Handler.saveInOrder enumerate ports a) a ctx := rfl
  rw [← hhandled] at h
  rw [Stage.handle, run_saveInOrder] at hhandled
  cases hrecords : ports.records with
  | false =>
    rw [hrecords] at hhandled
    rw [hhandled] at h
    cases h
  | true =>
    rw [if_pos hrecords] at hhandled
    rw [hhandled] at h ⊢
    exact ⟨rfl, play_saveText hrecords (text "search_value") (text "save_value") ctx.vars h⟩

/-! ## Saving and then searching -/

/-- A registry that searches in the standard way, and saves with the variables gone
through in some order. -/
structure Registry.HandlesRecords (registry : Registry)
    (enumerate : Variables → List (String × Value)) (ports : PortSet) : Prop where
  search : registry.handler? .dbSearch = some (.simple (Handler.dbSearch ports))
  save : registry.handler? .dbSave = some (.simple (Handler.saveInOrder enumerate ports))

/-- A standard registry goes through them in the order of its enumeration. -/
theorem Registry.handlesRecords_standard (enumeration : Enumeration) (ports : PortSet)
    (settings : EngineSettings) :
    (standard enumeration ports settings).HandlesRecords enumeration.entries ports :=
  ⟨rfl, rfl⟩

/-- A search in the table and the column of another action, for a text. -/
structure Action.SearchesLike (search other : Action) (text : String) : Prop where
  kind : search.kind = .dbSearch
  table : search.metaTextOr "database" "" = other.metaTextOr "database" ""
  column : search.metaTextOr "search_column" "" = other.metaTextOr "search_column" ""
  text : (search.metaText? "search_value").getD "" = text

/-- Dispatching a search is reading what the tables have. -/
theorem given_of_searchesLike {enumerate : Variables → List (String × Value)} {search : Action}
    {text : String}
    {found : Option Record} (hregistry : stage.registry.HandlesRecords enumerate ports)
    (hrecords : ports.records = true) (h : search.SearchesLike a text)
    (hfound : stage.devices.tables.search (a.metaTextOr "database" "")
      (a.metaTextOr "search_column" "") text = found)
    (limit : Nat) :
    search.given ((dispatch limit search ctx).run (Stage.answer Recorder.devices) stage) =
      ((search.reading found).1, some (search.reading found).2) := by
  have hhandler : stage.registry.handler? search.kind =
      some (.simple (Handler.dbSearch ports)) := by
    rw [h.kind]
    exact hregistry.search
  obtain ⟨houtcome, hvars⟩ := handle_dbSearch hrecords search ctx stage
  rw [h.table, h.column, h.text, hfound] at houtcome hvars
  rw [run_dispatch_of_handler? hhandler limit, Action.given, houtcome, hvars,
    Dictionary.find?_insert_self]

/-- **Saved values are read back.**  Let an action save something, in a column that is not the one
it searches, and let this succeed.  The text that was saved, with its variables filled in, is
remembered as the last one.  As long as the tables stay as they are then, every search for the same
record, by the text that was searched for, succeeds with this text if it is for the column that was
updated.  If it is for another one that the record has, then it gives what it would have given
before.  This holds in whatever order the variables are put into the two texts. -/
theorem saved_values_are_read_back (enumerate : Variables → List (String × Value))
    (ports : PortSet) (limit : Nat) (stage : Stage Recorder) (ctx : Context) (save : Action)
    (hregistry : stage.registry.HandlesRecords enumerate ports) (hkind : save.kind = .dbSave)
    (hcolumn : save.metaTextOr "update_column" "" ≠ "")
    (hdiffers : save.metaTextOr "update_column" "" ≠ save.metaTextOr "search_column" "") :
    let dispatched (a : Action) (ctx : Context) (stage : Stage Recorder) :=
      (dispatch limit a ctx).run (Stage.answer Recorder.devices) stage
    let saved := dispatched save ctx stage
    let sought := substituteIn (enumerate ctx.vars) ((save.metaText? "search_value").getD "")
    let text :=
      Value.string (substituteIn (enumerate ctx.vars) ((save.metaText? "save_value").getD ""))
    saved.1.1.success = true →
      saved.1.2.vars.find? "db_last_saved_value" = some text ∧ saved.2.registry = stage.registry ∧
      ∀ search : Action, search.SearchesLike save sought →
        ∀ (later : Stage Recorder) (ctx' : Context), later.registry = stage.registry →
          later.devices.tables = saved.2.devices.tables →
          let read := search.given (dispatched search ctx' later)
          let column := search.metaTextOr "result_column" ""
          (column = save.metaTextOr "update_column" "" → read.1.success = true ∧
            read.2 = some text) ∧
          ∀ record, stage.devices.tables.search (save.metaTextOr "database" "")
            (save.metaTextOr "search_column" "")
              sought = some record →
            column ≠ "" → column ≠ save.metaTextOr "update_column" "" →
              (record.find? column).isSome = true →
            ∀ before : Context, read = search.given (dispatched search before stage) := by
  intro dispatched saved sought text hsuccess
  have hhandler : stage.registry.handler? save.kind =
      some (.simple (Handler.saveInOrder enumerate ports)) := by
    rw [hkind]
    exact hregistry.save
  have hsaved :
      saved = stage.handle Recorder.devices (Handler.saveInOrder enumerate ports save) save ctx :=
    run_dispatch_of_handler? hhandler limit
  rw [hsaved] at hsuccess
  obtain ⟨hrecords, hupdated, htables, hvars⟩ := handle_saveInOrder_of_success hsuccess
  rw [← hsaved] at htables hvars
  refine ⟨?_, ?_, ?_⟩
  · rw [hvars]
    exact Dictionary.find?_insert_self ..
  · rw [hsaved]
    exact Stage.play_registry ..
  intro search hsearch later ctx' hlater hsame read column
  obtain ⟨record, hrecord⟩ := RecordStore.exists_search_of_updateFirst hupdated
  have hafter := RecordStore.search_updateFirst hdiffers.symm hrecord text
  rw [← htables, ← hsame] at hafter
  have hread : read = _ := given_of_searchesLike (hlater ▸ hregistry) hrecords hsearch hafter limit
  refine ⟨fun hupdate => ?_, fun found hfound hne hother hpresent before => ?_⟩
  · have hcell : (record.insert (save.metaTextOr "update_column" "") text).find? column =
        some text := by
      rw [hupdate]
      exact Dictionary.find?_insert_self ..
    have hne : column ≠ "" := fun hempty => hcolumn (hupdate.symm.trans hempty)
    rw [hread, Action.reading_of_find? hne hcell]
    exact ⟨rfl, rfl⟩
  · obtain rfl : found = record := Option.some.inj (hfound.symm.trans hrecord)
    obtain ⟨cell, hcell⟩ := Option.isSome_iff_exists.mp hpresent
    have hkept :
        (found.insert (save.metaTextOr "update_column" "") text).find? column = some cell :=
      (Dictionary.find?_insert_of_ne found text hother).trans hcell
    have hbefore : search.given (dispatched search before stage) = _ :=
      given_of_searchesLike hregistry hrecords hsearch hfound limit
    rw [hread, hbefore, Action.reading_of_find? hne hkept, Action.reading_of_find? hne hcell]

/-- An action that saves a number with a word behind it. -/
def savingPieces : Action :=
  savingOf "\x7bname\x7d" "\x7bcode\x7d pieces"

/-- A search for a cell of the record that a text names. -/
def searchingFor (value column : String) : Action :=
  ((((Action.new "2" .dbSearch "").withMeta "database" (.string " T ")).withMeta "search_column"
    (.string "k")).withMeta
    "search_value" (.string value)).withMeta "result_column" (.string column)

/-- A record with white space in the cell that is searched. -/
def spacedRecord : Record :=
  (Dictionary.empty.insert "k" (.string " alice")).insert "since" (.nat 3)

/-- A table in which two records match. -/
def stockedStage : Stage Recorder where
  devices :=
    { tables := Dictionary.empty.insert "T"
        ⟨["k", "v"], [Dictionary.empty.insert "k" (.string "bob"), spacedRecord,
          Dictionary.empty.insert "k" (.string "alice")]⟩ }
  registry := .standard .byName .everything {}

/-- The first of them gets a new cell, and keeps the one that it has. -/
theorem saved_values_are_read_back_of_spaced :
    let dispatched (a : Action) (ctx : Context) (stage : Stage Recorder) :=
      (dispatch 1 a ctx).run (Stage.answer Recorder.devices) stage
    let saved := dispatched savingPieces { vars := plainVariables } stockedStage
    let read (column : String) :=
      (searchingFor "alice" column).given (dispatched (searchingFor "alice" column)
        saved.1.2 saved.2)
    saved.1.1.success = true ∧ saved.1.2.vars.find? "db_last_saved_value" =
      some (.string "7 pieces") ∧
      (read "v").1.success = true ∧ (read "v").2 = some (.string "7 pieces") ∧
      read "since" = (searchingFor "alice" "since").given (dispatched (searchingFor "alice" "since")
        {} stockedStage) := by
  intro dispatched saved read
  have hsuccess : saved.1.1.success = true := by decide +kernel
  have htext : substituteIn plainVariables.toList ((savingPieces.metaText? "save_value").getD "") =
      "7 pieces" := by
    decide +kernel
  have hvalue := congrArg (fun text => some (Value.string text)) htext
  have hsought : ∀ column ∈ ["v", "since"], (searchingFor "alice" column).SearchesLike savingPieces
      (substituteIn plainVariables.toList ((savingPieces.metaText? "search_value").getD "")) := by
    refine List.forall_mem_cons.mpr ⟨?_, List.forall_mem_singleton.mpr ?_⟩
    · exact ⟨rfl, by decide +kernel, by decide +kernel, by decide +kernel⟩
    · exact ⟨rfl, by decide +kernel, by decide +kernel, by decide +kernel⟩
  obtain ⟨hlast, hregistry, hreads⟩ :=
    saved_values_are_read_back Dictionary.toList .everything 1 stockedStage
    { vars := plainVariables } savingPieces
      (Registry.handlesRecords_standard .byName .everything {}) rfl (by decide +kernel)
    (by decide +kernel) hsuccess
  obtain ⟨hupdated, -⟩ := hreads _ (hsought "v" (by decide)) saved.2 saved.1.2 hregistry rfl
  obtain ⟨-, hkept⟩ := hreads _ (hsought "since" (by decide)) saved.2 saved.1.2 hregistry rfl
  have hfound : stockedStage.devices.tables.search (savingPieces.metaTextOr "database" "")
      (savingPieces.metaTextOr "search_column" "")
      (substituteIn plainVariables.toList ((savingPieces.metaText? "search_value").getD "")) =
        some spacedRecord := by
    have hname : substituteIn plainVariables.toList
        ((savingPieces.metaText? "search_value").getD "") = "alice" := by
      decide +kernel
    have htable : savingPieces.metaTextOr "database" "" = "T" := by decide +kernel
    have hcolumn : savingPieces.metaTextOr "search_column" "" = "k" := by decide +kernel
    rw [hname, htable, hcolumn]
    rfl
  obtain ⟨hsucceeds, hread⟩ := hupdated (by decide +kernel)
  exact ⟨hsuccess, hlast.trans hvalue, hsucceeds, hread.trans hvalue,
    hkept spacedRecord hfound (by decide +kernel) (by decide +kernel) (by decide +kernel) {}⟩

end ActionBoard
