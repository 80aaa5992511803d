import OpenUrl.Proofs.Settings.Written

/-!
# Layers of settings

The settings of a run are what the variables give over what the file in use gives over the
defaults, with a wait among the arguments on top. They are judged twice: the file's settings alone,
before any variable is looked at, and the result.
-/
namespace OpenUrl

open OpenUrl.Surroundings
open OpenUrl.Text (IntegerFault)

namespace Settings

variable {e : Environment} {suffix : String}

/-! ## Variables over settings -/

/-- The value of an override in milliseconds, or the one below it. -/
def millisOver (e : Environment) (suffix : String) (fault : IntegerFault → Fault)
    (below : UInt64) : Except Fault UInt64 :=
  match override? e suffix with
  | some v => (readMillis v).mapError fault
  | none => .ok below

theorem applyVariables_eq (e : Environment) (s : Settings) :
    applyVariables e s =
      (millisOver e "POLL_INTERVAL_MS" .badPollInterval s.pollInterval).bind fun pollInterval =>
        (millisOver e "WAIT_TIMEOUT_MS" .badWaitTimeout s.waitTimeout).bind fun waitTimeout =>
          validate ⟨pollInterval, waitTimeout, (override? e "LOG_LEVEL").getD s.logLevel,
            ((override? e "JSON_LOGS").map readSwitch).getD s.jsonLogs⟩ := by
  unfold applyVariables millisOver
  -- The block continues separately behind a variable that is set and one that is not.
  cases override? e "POLL_INTERVAL_MS" <;> cases override? e "WAIT_TIMEOUT_MS" <;>
    cases override? e "JSON_LOGS" <;> rfl

theorem Gives.millisOver {o : Option UInt64} (h : Gives e suffix Millis o)
    (fault : IntegerFault → Fault) (below : UInt64) :
    millisOver e suffix fault below = .ok (o.getD below) := by
  unfold Settings.millisOver
  cases h with
  | unset hunset => rw [override?_eq_none.mpr hunset, Option.getD_none]
  | set hset hmillis =>
    rw [override?_eq_some.mpr hset]
    simp only [readMillis_eq_ok.mpr hmillis, Except.mapError, Option.getD_some]

theorem misspelt_iff :
    Misspelt e suffix ↔
      ∃ value f, override? e suffix = some value ∧ readMillis value = .error f := by
  simp only [Misspelt, ← override?_eq_some, ← readMillis_eq_ok]
  refine exists_congr fun value => ?_
  constructor
  · rintro ⟨hset, hno⟩
    cases hread : readMillis value with
    | ok n => exact absurd hread (hno n)
    | error f => exact ⟨f, hset, rfl⟩
  · rintro ⟨f, hset, hread⟩
    exact ⟨hset, fun n hn => by simp [hread] at hn⟩

theorem Misspelt.millisOver (h : Misspelt e suffix) (fault : IntegerFault → Fault)
    (below : UInt64) : ∃ f, millisOver e suffix fault below = .error (fault f) := by
  obtain ⟨value, f, hset, hread⟩ := misspelt_iff.mp h
  unfold Settings.millisOver
  rw [hset]
  exact ⟨f, by simp only [hread, Except.mapError]⟩

/-- An override for milliseconds gives something, if only nothing, or it is misspelt. -/
theorem exists_gives_or_misspelt (e : Environment) (suffix : String) :
    (∃ o, Gives e suffix Millis o) ∨ Misspelt e suffix := by
  by_cases hset : ∃ value, SetTo e suffix value
  · obtain ⟨value, hset⟩ := hset
    by_cases hmillis : ∃ n, Millis value n
    · obtain ⟨n, hn⟩ := hmillis
      exact .inl ⟨some n, .set hset hn⟩
    · exact .inr ⟨value, hset, not_exists.mp hmillis⟩
  · exact .inl ⟨none, .unset (not_exists.mp hset)⟩

/-- An override whose texts all stand for a value gives what is read of it. -/
theorem gives_iff {α : Type} {means : String → α → Prop} {read : String → α}
    (hmeans : ∀ value a, means value a ↔ a = read value) {o : Option α} :
    Gives e suffix means o ↔ o = (override? e suffix).map read := by
  constructor
  · intro h
    cases h with
    | unset hunset => rw [override?_eq_none.mpr hunset, Option.map_none]
    | set hset ha => rw [override?_eq_some.mpr hset, Option.map_some, (hmeans _ _).mp ha]
  · rintro rfl
    cases hover : override? e suffix with
    | none => exact .unset (override?_eq_none.mp hover)
    | some value => exact .set (override?_eq_some.mp hover) ((hmeans _ _).mpr rfl)

theorem gives_logLevel {o : Option String} :
    Gives e suffix (fun value level => level = value) o ↔ o = override? e suffix := by
  have hmeans : ∀ value level : String, level = value ↔ level = id value := fun _ _ => Iff.rfl
  have hiff : Gives e suffix (fun value level => level = value) o ↔
      o = (override? e suffix).map id := gives_iff hmeans
  rwa [Option.map_id] at hiff

theorem gives_jsonLogs {o : Option Bool} :
    Gives e suffix (fun value json => json = true ↔ Affirms value) o ↔
      o = (override? e suffix).map readSwitch := by
  refine gives_iff fun value json => ?_
  rw [← readSwitch_eq_true]
  exact Bool.eq_iff_iff.symm

/-- The overrides give something together, or one for milliseconds is misspelt. -/
theorem exists_variablesGive_or_misspelt (e : Environment) :
    (∃ g, VariablesGive e g) ∨ Misspelt e "POLL_INTERVAL_MS" ∨ Misspelt e "WAIT_TIMEOUT_MS" := by
  rcases exists_gives_or_misspelt e "POLL_INTERVAL_MS" with ⟨p, hp⟩ | hp
  · rcases exists_gives_or_misspelt e "WAIT_TIMEOUT_MS" with ⟨w, hw⟩ | hw
    · exact .inl ⟨⟨p, w, _, _⟩, hp, hw, gives_logLevel.mpr rfl, gives_jsonLogs.mpr rfl⟩
    · exact .inr (.inr hw)
  · exact .inr (.inl hp)

theorem VariablesGive.applyVariables {g : Given} (h : VariablesGive e g) (s : Settings) :
    applyVariables e s = validate (g.onto s) := by
  rw [applyVariables_eq, h.pollInterval.millisOver, h.waitTimeout.millisOver,
    ← gives_logLevel.mp h.logLevel, ← gives_jsonLogs.mp h.jsonLogs]
  rfl

theorem applyVariables_of_misspelt
    (h : Misspelt e "POLL_INTERVAL_MS" ∨ Misspelt e "WAIT_TIMEOUT_MS") (s : Settings) :
    ∃ f, applyVariables e s = .error f := by
  rw [applyVariables_eq]
  rcases h with h | h
  · obtain ⟨f, hf⟩ := h.millisOver .badPollInterval s.pollInterval
    exact ⟨.badPollInterval f, by rw [hf]; rfl⟩
  · obtain ⟨f, hf⟩ := h.millisOver .badWaitTimeout s.waitTimeout
    cases hpoll : millisOver e "POLL_INTERVAL_MS" .badPollInterval s.pollInterval with
    | error f' => exact ⟨f', rfl⟩
    | ok p => exact ⟨.badWaitTimeout f, by rw [hf]; rfl⟩

/-! ## Settings of a file -/

variable {s : Surroundings} {a : Arguments}

/-- Over settings with an interval, only a given zero takes it away. -/
theorem pollInterval_onto_eq_zero {g : Given} {c : Settings} (h : c.pollInterval ≠ 0) :
    (g.onto c).pollInterval = 0 ↔ g.pollInterval = some 0 := by
  cases hg : g.pollInterval with
  | none => simp [hg, h]
  | some n => simp [hg]

theorem validate_onto_of_zero {g : Given} (c : Settings) (h : g.pollInterval = some 0) :
    validate (g.onto c) = .error .zeroPollInterval := by
  unfold validate
  rw [if_pos (by simp [h])]

theorem validate_onto {g : Given} {c : Settings} (hc : c.pollInterval ≠ 0)
    (hg : g.pollInterval ≠ some 0) : validate (g.onto c) = .ok (g.onto c) := by
  have hne : (g.onto c).pollInterval ≠ 0 := (pollInterval_onto_eq_zero hc).not.mpr hg
  exact validate_eq_ok.mpr ⟨hne, rfl⟩

theorem default_pollInterval_ne : default.pollInterval ≠ 0 := by decide

theorem present_of_readText {t : FileTree} {path text : String}
    (h : t.readText path = .ok text) : t.present path = true := by
  unfold FileTree.readText FileTree.readBytes FileTree.node? at h
  unfold FileTree.present
  cases hresolve : t.resolve path with
  | error f => simp [hresolve, Except.map] at h
  | ok p => rfl

theorem ofFile_eq {t : FileTree} {path text : String} (h : t.readText path = .ok text) :
    ofFile t path = (ofText path text).bind validate := by
  unfold ofFile
  rw [h]
  rfl

theorem ofFile_of_error {t : FileTree} {path : String} {f : TextFault}
    (h : t.readText path = .error f) : ofFile t path = .error (.unreadable f) := by
  unfold ofFile
  rw [h]
  rfl

end Settings

namespace Probe

open OpenUrl.Settings

variable {s : Surroundings} {a : Arguments} {file vars : Given}

theorem fileSettings_of_some {path : String} (h : fileInUse s a = some path) :
    fileSettings s a = (loadFile s (some path)).1.bind (applyVariables s.environment) := by
  unfold fileInUse at h
  unfold fileSettings
  cases hasked : a.configPath with
  | some p =>
    rw [hasked, Option.some_or, Option.some.injEq] at h
    rw [h]
  | none =>
    rw [hasked, Option.none_or] at h
    simp only [load, h]

theorem fileSettings_of_none (h : fileInUse s a = none) :
    fileSettings s a = applyVariables s.environment default := by
  obtain ⟨hasked, hlocate⟩ := Option.or_eq_none_iff.mp h
  simp only [fileSettings, hasked, load, hlocate]

/-- The file's settings are judged before the variables are laid over them. -/
theorem fileSettings_eq (h : FileGives s a file) :
    fileSettings s a = (validate (file.onto default)).bind (applyVariables s.environment) := by
  cases h with
  | absent hnone hgiven =>
    rw [fileSettings_of_none hnone, hgiven, validate_onto default_pollInterval_ne (by decide)]
    rfl
  | file hsome hread hsays =>
    rw [fileSettings_of_some hsome, loadFile, if_pos (present_of_readText hread),
      ofFile_eq hread, hsays.ofText]
    rfl

/-- A file that cannot be read, or whose text says nothing, leaves no settings. -/
theorem fileSettings_of_not_gives (h : ∀ file, ¬ FileGives s a file) :
    ∃ f, fileSettings s a = .error f := by
  cases huse : fileInUse s a with
  | none => exact absurd (.absent huse rfl) (h .nothing)
  | some path =>
    rw [fileSettings_of_some huse, loadFile]
    by_cases hpresent : s.files.present path = true
    · rw [if_pos hpresent]
      cases hread : s.files.readText path with
      | error f => exact ⟨_, by rw [ofFile_of_error hread]; rfl⟩
      | ok text =>
        rw [ofFile_eq hread]
        cases htext : ofText path text with
        | error f => exact ⟨f, rfl⟩
        | ok c =>
          obtain ⟨file, hsays, -⟩ := says_of_ofText htext
          exact absurd (.file huse hread hsays) (h file)
    · rw [if_neg hpresent]
      exact ⟨_, rfl⟩

/-- A misspelt variable leaves no settings, whatever the file gives. -/
theorem fileSettings_of_misspelt (h : Misspelt s.environment "POLL_INTERVAL_MS" ∨
    Misspelt s.environment "WAIT_TIMEOUT_MS") : ∃ f, fileSettings s a = .error f := by
  cases huse : fileInUse s a with
  | none =>
    rw [fileSettings_of_none huse]
    exact applyVariables_of_misspelt h default
  | some path =>
    rw [fileSettings_of_some huse]
    cases hload : (loadFile s (some path)).1 with
    | error f => exact ⟨f, rfl⟩
    | ok c => exact applyVariables_of_misspelt h c

/-! ## Settings of a run -/

/-- A wait among the arguments replaces the one below it. -/
def waiting (a : Arguments) (c : Settings) : Settings :=
  { c with waitTimeout := a.timeout.getD c.waitTimeout }

theorem settings_of_ok {c : Settings} (h : fileSettings s a = .ok c) :
    settings s a = .ok (waiting a c) := by
  rw [settings, h]
  rfl

theorem settings_of_error {f : Settings.Fault} (h : fileSettings s a = .error f) :
    settings s a = .error f := by
  rw [settings, h]
  rfl

/-- The file or a variable gives an interval of zero. -/
def ZeroGiven (vars file : Given) : Prop :=
  file.pollInterval = some 0 ∨ vars.pollInterval = some 0

/-- Where neither source gives a zero, an interval is left. -/
theorem pollInterval_ne_of_not_zero (h : ¬ ZeroGiven vars file) :
    (vars.onto (file.onto default)).pollInterval ≠ 0 := by
  obtain ⟨hfile, hvars⟩ := not_or.mp h
  have hbase : (file.onto default).pollInterval ≠ 0 :=
    (pollInterval_onto_eq_zero default_pollInterval_ne).not.mpr hfile
  exact (pollInterval_onto_eq_zero hbase).not.mpr hvars

/-- A zero of the file is refused even where a variable would replace it. -/
theorem fileSettings_of_zero (hfile : FileGives s a file)
    (hvars : VariablesGive s.environment vars) (h : ZeroGiven vars file) :
    fileSettings s a = .error .zeroPollInterval := by
  rw [fileSettings_eq hfile]
  -- The file is judged first, so a zero of a variable only counts behind a file without one.
  by_cases hzero : file.pollInterval = some 0
  · rw [validate_onto_of_zero default hzero]
    rfl
  · have hvars' : vars.pollInterval = some 0 := Or.resolve_left h hzero
    rw [validate_onto default_pollInterval_ne hzero]
    exact (hvars.applyVariables _).trans (validate_onto_of_zero _ hvars')

theorem fileSettings_of_not_zero (hfile : FileGives s a file)
    (hvars : VariablesGive s.environment vars) (h : ¬ ZeroGiven vars file) :
    fileSettings s a = .ok (vars.onto (file.onto default)) := by
  obtain ⟨hzero, -⟩ := not_or.mp h
  rw [fileSettings_eq hfile, validate_onto default_pollInterval_ne hzero]
  exact (hvars.applyVariables _).trans (validate_eq_ok.mpr ⟨pollInterval_ne_of_not_zero h, rfl⟩)

/-- Each value comes from the topmost source that gives it. -/
structure Layered (a : Arguments) (vars file : Given) (c : Settings) : Prop where
  pollInterval : c.pollInterval = (vars.pollInterval.or file.pollInterval).getD defaultPollInterval
  waitTimeout : c.waitTimeout =
    (a.timeout.or (vars.waitTimeout.or file.waitTimeout)).getD defaultWaitTimeout
  logLevel : c.logLevel = (vars.logLevel.or file.logLevel).getD defaultLogLevel
  jsonLogs : c.jsonLogs = (vars.jsonLogs.or file.jsonLogs).getD false

theorem layered_iff {c : Settings} :
    Layered a vars file c ↔ c = waiting a (vars.onto (file.onto default)) := by
  constructor
  · rintro ⟨hpoll, hwait, hlevel, hjson⟩
    obtain ⟨_, _, _, _⟩ := c
    simp only [Option.getD_or] at hpoll hwait hlevel hjson
    subst hpoll hwait hlevel hjson
    rfl
  · rintro rfl
    exact ⟨Option.getD_or.symm, by rw [Option.getD_or, Option.getD_or]; rfl,
      Option.getD_or.symm, Option.getD_or.symm⟩

theorem settings_eq_ok (hfile : FileGives s a file) (hvars : VariablesGive s.environment vars)
    {c : Settings} : settings s a = .ok c ↔
      Layered a vars file c ∧ file.pollInterval ≠ some 0 ∧ c.pollInterval ≠ 0 := by
  rw [layered_iff]
  by_cases hzero : ZeroGiven vars file
  · rw [settings_of_error (fileSettings_of_zero hfile hvars hzero)]
    constructor
    · intro h
      cases h
    · rintro ⟨rfl, hfile', hne⟩
      have hvars' : vars.pollInterval = some 0 := Or.resolve_left hzero hfile'
      exact absurd (by simp [waiting, hvars']) hne
  · obtain ⟨hfile', -⟩ := not_or.mp hzero
    rw [settings_of_ok (fileSettings_of_not_zero hfile hvars hzero), Except.ok.injEq]
    constructor
    · rintro rfl
      exact ⟨rfl, hfile', pollInterval_ne_of_not_zero hzero⟩
    · rintro ⟨rfl, -⟩
      rfl

theorem exists_gives_of_settings {c : Settings} (h : settings s a = .ok c) :
    ∃ file vars, FileGives s a file ∧ VariablesGive s.environment vars := by
  have hno (herror : ∃ f, fileSettings s a = .error f) : False := by
    obtain ⟨f, hf⟩ := herror
    rw [settings_of_error hf] at h
    cases h
  have hfile : ∃ file, FileGives s a file := by
    by_contra hnone
    exact hno (fileSettings_of_not_gives (not_exists.mp hnone))
  have hvars : ∃ vars, VariablesGive s.environment vars :=
    (exists_variablesGive_or_misspelt s.environment).resolve_right fun hmisspelt =>
      hno (fileSettings_of_misspelt hmisspelt)
  obtain ⟨file, hfile⟩ := hfile
  obtain ⟨vars, hvars⟩ := hvars
  exact ⟨file, vars, hfile, hvars⟩

/-- Settings are found if the file in use and the variables give something and no interval is
zero. Then each value comes from the topmost source that gives it, and sources of the other values
do not matter. A file that gives nothing and a misspelt variable are failures of the settings, also
where a source above would replace their values. If the text of the file in use holds some values in
the format of its name, these are what it gives. -/
theorem settings_layered (s : Surroundings) (a : Arguments) :
    (∀ c, settings s a = .ok c →
      ∃ file vars, FileGives s a file ∧ VariablesGive s.environment vars) ∧
    (∀ path text file, fileInUse s a = some path → s.files.readText path = .ok text →
      Holds path text file → ∀ g, FileGives s a g ↔ g = file) ∧
    (∀ file vars, FileGives s a file → VariablesGive s.environment vars → ∀ c,
      settings s a = .ok c ↔
        Layered a vars file c ∧ file.pollInterval ≠ some 0 ∧ c.pollInterval ≠ 0) ∧
    ((∀ file, ¬ FileGives s a file) ∨ Misspelt s.environment "POLL_INTERVAL_MS" ∨
        Misspelt s.environment "WAIT_TIMEOUT_MS" →
      ∃ reason, (settings s a).mapError Fault.failure = .error (.config reason)) := by
  refine ⟨fun c => exists_gives_of_settings, fun path text file huse hread hholds g =>
    hholds.fileGives_iff huse hread, fun file vars hfile hvars c => settings_eq_ok hfile hvars,
    fun h => ?_⟩
  have herror : ∃ f, fileSettings s a = .error f := by
    rcases h with hfile | hvars
    · exact fileSettings_of_not_gives hfile
    · exact fileSettings_of_misspelt hvars
  obtain ⟨f, hf⟩ := herror
  exact ⟨f.message, by rw [settings_of_error hf]; rfl⟩

/-- A working folder with one file, and variables. -/
def furnished (name text : String) (set : List (String × String)) : Surroundings :=
  ⟨⟨[(["w"], .folder), (["w", name], .file text.toUTF8)], ["w"], false⟩,
    ⟨set.map fun v => (v.1, .text v.2)⟩, none⟩

/-- A wait and a level. -/
def waitAndLevel : String := "\x7b\"wait_timeout_ms\": 8, \"log_level\": \" warn\"\x7d"

theorem holds_waitAndLevel :
    Holds "/w/urlbridge.json" waitAndLevel ⟨none, some 8, some " warn", none⟩ := by
  let g : Given := ⟨none, some 8, some " warn", none⟩
  have hnone : Json.Blanks [] := List.forall_mem_nil _
  have hblank : Json.Blanks [' '] := by simp [Json.Blanks, Json.isBlank]
  have hlevel : Json.SpellsText " warn".toList _ := .mk (Json.inside_self (by simp))
  have hlast : Json.Members g false [Given.record.fields[2]] _ :=
    .some hnone hblank (.mk (Json.inside_self (by simp [Given.record]))) hnone hblank (.text hlevel)
      (.none hnone)
  have hboth : Json.Members g true [Given.record.fields[1], Given.record.fields[2]] _ :=
    .some hnone hnone (.mk (Json.inside_self (by simp [Given.record]))) hnone hblank (.whole 8)
      hlast
  have hperm : [Given.record.fields[1], Given.record.fields[2]].Perm g.fields := .of_eq rfl
  refine .json (by decide +kernel) hperm ?_
  convert Json.Writes.mk hnone hboth hnone using 1
  decide +kernel

/-- An interval over none, no level over one, and a flag that is set. -/
def crowded : Surroundings :=
  furnished "urlbridge.json" waitAndLevel
    [("URLBRIDGE_POLL_INTERVAL_MS", " +9 "), ("URLBRIDGE_LOG_LEVEL", " "),
      ("URLBRIDGE_JSON_LOGS", "Yes\n")]

theorem settings_layered_below_flag :
    settings crowded { Arguments.none with timeout := some 5 } = .ok ⟨9, 5, " warn", true⟩ ∧
    ∃ reason, (settings (furnished "urlbridge.json" "" [("URLBRIDGE_WAIT_TIMEOUT_MS", "4s")])
      { Arguments.none with timeout := some 5 }).mapError Fault.failure =
        .error (.config reason) := by
  constructor
  · have hplace : fileInUse crowded { Arguments.none with timeout := some 5 } =
        some "/w/urlbridge.json" := by decide +kernel
    have htext : crowded.files.readText "/w/urlbridge.json" = .ok waitAndLevel := by
      decide +kernel
    have hfile : FileGives crowded { Arguments.none with timeout := some 5 }
        ⟨none, some 8, some " warn", none⟩ :=
      ((settings_layered _ _).2.1 _ _ _ hplace htext holds_waitAndLevel _).mpr rfl
    have hpoll : override? crowded.environment "POLL_INTERVAL_MS" = some " +9 " := by
      decide +kernel
    have hjson : override? crowded.environment "JSON_LOGS" = some "Yes\n" := by decide +kernel
    have hvars : VariablesGive crowded.environment ⟨some 9, none, none, some true⟩ :=
      ⟨.set (override?_eq_some.mp hpoll) (readMillis_eq_ok.mp (by decide +kernel)),
        .unset (override?_eq_none.mp (by decide +kernel)),
        .unset (override?_eq_none.mp (by decide +kernel)),
        .set (override?_eq_some.mp hjson) (by rw [← readSwitch_eq_true]; decide +kernel)⟩
    exact ((settings_layered _ _).2.2.1 _ _ hfile hvars _).mpr
      ⟨⟨rfl, rfl, rfl, rfl⟩, by decide, by decide⟩
  · have hset : override? (furnished "urlbridge.json" ""
        [("URLBRIDGE_WAIT_TIMEOUT_MS", "4s")]).environment "WAIT_TIMEOUT_MS" = some "4s" := by
      decide +kernel
    have hread : readMillis "4s" = .error .invalidDigit := by decide +kernel
    exact (settings_layered _ _).2.2.2 (.inr (.inr (misspelt_iff.mpr ⟨"4s", _, hset, hread⟩)))

/-! ## The interval -/

/-- With a file and variables that can be read, settings are refused for a zero interval if the
interval that is left is zero, and also if the file's own is, whatever replaces it. -/
theorem zeroPollInterval_iff {r : Except Settings.Fault Settings}
    (hr : r = settings s a ∨ a.configPath = none ∧ r = (load s).1) (hfile : FileGives s a file)
    (hvars : VariablesGive s.environment vars) :
    (r = .error .zeroPollInterval ↔
      (vars.pollInterval.or file.pollInterval).getD defaultPollInterval = 0 ∨
        file.pollInterval = some 0) ∧
    (r ≠ .error .zeroPollInterval → ∃ c, r = .ok c ∧ c.pollInterval ≠ 0 ∧
      c.pollInterval = (vars.pollInterval.or file.pollInterval).getD defaultPollInterval) := by
  have hload (h : a.configPath = none) : (load s).1 = fileSettings s a := by
    simp only [fileSettings, h]
  have hleft : (vars.pollInterval.or file.pollInterval).getD defaultPollInterval =
      (vars.onto (file.onto default)).pollInterval := Option.getD_or
  rw [hleft]
  by_cases hzero : ZeroGiven vars file
  · have hbelow := fileSettings_of_zero hfile hvars hzero
    have herror : r = .error .zeroPollInterval := by
      rcases hr with rfl | ⟨hnone, rfl⟩
      · exact settings_of_error hbelow
      · exact (hload hnone).trans hbelow
    have hjudged : (vars.onto (file.onto default)).pollInterval = 0 ∨
        file.pollInterval = some 0 := by
      rcases hzero with hzero | hzero
      · exact .inr hzero
      · exact .inl (by simp [hzero])
    exact ⟨iff_of_true herror hjudged, fun hne => absurd herror hne⟩
  · have hbelow := fileSettings_of_not_zero hfile hvars hzero
    have hne := pollInterval_ne_of_not_zero hzero
    have hok : ∃ c, r = .ok c ∧ c.pollInterval = (vars.onto (file.onto default)).pollInterval := by
      rcases hr with rfl | ⟨hnone, rfl⟩
      · exact ⟨_, settings_of_ok hbelow, rfl⟩
      · exact ⟨_, (hload hnone).trans hbelow, rfl⟩
    obtain ⟨c, rfl, hpoll⟩ := hok
    have hjudged : ¬ ((vars.onto (file.onto default)).pollInterval = 0 ∨
        file.pollInterval = some 0) := not_or.mpr ⟨hne, (not_or.mp hzero).1⟩
    refine ⟨iff_of_false ?_ hjudged, fun _ => ⟨c, rfl, hpoll ▸ hne, hpoll⟩⟩
    intro h
    cases h

/-- A zero in the file, and an interval over it. -/
def zeroBelow : Surroundings :=
  furnished "urlbridge.toml" "poll_interval_ms = 0" [("URLBRIDGE_POLL_INTERVAL_MS", "5")]

theorem fileGives_zeroBelow : FileGives zeroBelow Arguments.none ⟨some 0, none, none, none⟩ := by
  have hplace : fileInUse zeroBelow Arguments.none = some "/w/urlbridge.toml" := by decide +kernel
  have htext : zeroBelow.files.readText "/w/urlbridge.toml" = .ok "poll_interval_ms = 0" := by
    decide +kernel
  exact .file hplace htext (.toml (by decide +kernel) (by decide +kernel))

theorem variablesGive_zeroBelow :
    VariablesGive zeroBelow.environment ⟨some 5, none, none, none⟩ := by
  have hpoll : override? zeroBelow.environment "POLL_INTERVAL_MS" = some "5" := by decide +kernel
  exact ⟨.set (override?_eq_some.mp hpoll) (readMillis_eq_ok.mp (by decide +kernel)),
    .unset (override?_eq_none.mp (by decide +kernel)),
    .unset (override?_eq_none.mp (by decide +kernel)),
    .unset (override?_eq_none.mp (by decide +kernel))⟩

theorem zeroPollInterval_iff_of_zero_below :
    settings zeroBelow Arguments.none = .error .zeroPollInterval ∧
    (load zeroBelow).1 = .error .zeroPollInterval :=
  ⟨(zeroPollInterval_iff (.inl rfl) fileGives_zeroBelow variablesGive_zeroBelow).1.mpr (.inr rfl),
    (zeroPollInterval_iff (.inr ⟨rfl, rfl⟩) fileGives_zeroBelow variablesGive_zeroBelow).1.mpr
      (.inr rfl)⟩

/-- The interval that is left is not zero, and still the settings are refused for a zero. -/
theorem zeroPollInterval_with_interval_left :
    ∃ file vars, FileGives zeroBelow Arguments.none file ∧
      VariablesGive zeroBelow.environment vars ∧
      (vars.pollInterval.or file.pollInterval).getD defaultPollInterval = 5 ∧
      settings zeroBelow Arguments.none = .error .zeroPollInterval ∧
      (load zeroBelow).1 = .error .zeroPollInterval :=
  ⟨_, _, fileGives_zeroBelow, variablesGive_zeroBelow, rfl, by decide +kernel, by decide +kernel⟩

end Probe

end OpenUrl
