import OpenUrl.Probe.Context
import OpenUrl.Proofs.Record
import OpenUrl.Proofs.Text.Blank
import OpenUrl.Proofs.Text.Integer

/-!
# What each source gives

A source of settings gives some of the four values and is silent about the others. A file gives
the values whose names it has; a variable gives its value if it is set to a text that is not
blank. `Given.onto` lays what a source gives over the settings below it, field by field.
-/
namespace OpenUrl

namespace Settings

open OpenUrl.Surroundings
open OpenUrl.Text (Padded Spells isBlank)

/-- The values that one source gives. -/
structure Given where
  pollInterval : Option UInt64
  waitTimeout : Option UInt64
  logLevel : Option String
  jsonLogs : Option Bool
  deriving DecidableEq

namespace Given

def nothing : Given := ⟨none, none, none, none⟩

/-- Settings under what is given. -/
def onto (g : Given) (s : Settings) : Settings :=
  ⟨g.pollInterval.getD s.pollInterval, g.waitTimeout.getD s.waitTimeout,
    g.logLevel.getD s.logLevel, g.jsonLogs.getD s.jsonLogs⟩

@[simp] theorem pollInterval_onto (g : Given) (s : Settings) :
    (g.onto s).pollInterval = g.pollInterval.getD s.pollInterval := rfl

/-- The written form of settings, of which only what is there is taken over. -/
def record : Record Given where
  name := "BridgeConfig"
  blank := nothing
  fields := [
    { name := "poll_interval_ms", kind := .natural,
      get := fun g => g.pollInterval.getD defaultPollInterval,
      put := fun v g => { g with pollInterval := some v } },
    { name := "wait_timeout_ms", kind := .natural,
      get := fun g => g.waitTimeout.getD defaultWaitTimeout,
      put := fun v g => { g with waitTimeout := some v } },
    { name := "log_level", kind := .text,
      get := fun g => g.logLevel.getD defaultLogLevel,
      put := fun v g => { g with logLevel := some v } },
    { name := "json_logs", kind := .flag,
      get := fun g => g.jsonLogs.getD false,
      put := fun v g => { g with jsonLogs := some v } }]
  complete := false
  closed := false

end Given

theorem maps_record : Given.record.Maps (·.onto default) record where
  name := rfl
  blank := rfl
  fields := .cons (.mk _ _ fun _ _ => rfl) <| .cons (.mk _ _ fun _ _ => rfl) <|
    .cons (.mk _ _ fun _ _ => rfl) <| .cons (.mk _ _ fun _ _ => rfl) .nil
  complete := rfl
  closed := rfl

/-! ## Files -/

/-- What the text of a file gives, in the format that its name tells. -/
inductive Says (path text : String) (g : Given) : Prop
  | toml : (Path.extension? path).getD "toml" = "toml" → Given.record.ofToml text = .ok g →
      Says path text g
  | json : Path.extension? path = some "json" → Given.record.ofJson text = .ok g →
      Says path text g

theorem says_of_ofText {path text : String} {c : Settings} (h : ofText path text = .ok c) :
    ∃ g, Says path text g ∧ c = g.onto default := by
  unfold ofText at h
  split at h
  · rename_i hext
    rw [maps_record.ofToml text] at h
    cases hread : Given.record.ofToml text with
    | error e =>
      rw [hread] at h
      cases h
    | ok g =>
      rw [hread] at h
      exact ⟨g, .toml hext hread, (Except.ok.inj h).symm⟩
  · rename_i hext
    rw [maps_record.ofJson text] at h
    cases hread : Given.record.ofJson text with
    | error e =>
      rw [hread] at h
      cases h
    | ok g =>
      rw [hread] at h
      have hjson : Path.extension? path = some "json" := by
        cases hp : Path.extension? path with
        | none => simp [hp] at hext
        | some e => simpa [hp] using hext
      exact ⟨g, .json hjson hread, (Except.ok.inj h).symm⟩
  · cases h

theorem Says.ofText {path text : String} {g : Given} (h : Says path text g) :
    ofText path text = .ok (g.onto default) := by
  cases h with
  | toml hext hread =>
    simp only [Settings.ofText, hext, maps_record.ofToml text, hread]
    rfl
  | json hext hread =>
    simp only [Settings.ofText, hext, Option.getD_some, maps_record.ofJson text, hread]
    rfl

/-- The file in use: the one that is asked for, else the one in a standard place. -/
def fileInUse (s : Surroundings) (a : Arguments) : Option String := a.configPath.or (locate s)

/-- What the file in use gives; without one, nothing. -/
inductive FileGives (s : Surroundings) (a : Arguments) (g : Given) : Prop
  | absent : fileInUse s a = none → g = .nothing → FileGives s a g
  | file {path text : String} : fileInUse s a = some path → s.files.readText path = .ok text →
      Says path text g → FileGives s a g

/-! ## Variables -/

/-- The override is set to a text that is not blank. -/
def SetTo (e : Environment) (suffix value : String) : Prop :=
  e.find? (variableStem ++ suffix) = some (.text value) ∧ ∃ c ∈ value.toList, isBlank c = false

/-- Digits for milliseconds, perhaps behind a plus sign, between blanks. -/
def Millis (value : String) (n : UInt64) : Prop :=
  ∃ ds, (Padded value ds ∨ Padded value ('+' :: ds)) ∧ Spells ds n.toNat

/-- One of the words for yes, in any case, between blanks. -/
def Affirms (value : String) : Prop :=
  ∃ word, Padded value word ∧
    String.ofList (word.map Char.toLower) ∈ ["1", "true", "yes", "on"]

/-- What an override gives whose texts stand for values. -/
inductive Gives {α : Type} (e : Environment) (suffix : String) (means : String → α → Prop) :
    Option α → Prop
  | unset : (∀ value, ¬ SetTo e suffix value) → Gives e suffix means none
  | set {value : String} {a : α} : SetTo e suffix value → means value a →
      Gives e suffix means (some a)

/-- What the overrides give together. -/
structure VariablesGive (e : Environment) (g : Given) : Prop where
  pollInterval : Gives e "POLL_INTERVAL_MS" Millis g.pollInterval
  waitTimeout : Gives e "WAIT_TIMEOUT_MS" Millis g.waitTimeout
  logLevel : Gives e "LOG_LEVEL" (fun value level => level = value) g.logLevel
  jsonLogs : Gives e "JSON_LOGS" (fun value json => json = true ↔ Affirms value) g.jsonLogs

/-- The override is set to a text that is not blank and no number of milliseconds. -/
def Misspelt (e : Environment) (suffix : String) : Prop :=
  ∃ value, SetTo e suffix value ∧ ∀ n, ¬ Millis value n

theorem override?_eq_some {e : Environment} {suffix value : String} :
    override? e suffix = some value ↔ SetTo e suffix value := by
  unfold override? SetTo
  rw [Option.filter_eq_some_iff, Bool.not_eq_true', Text.allBlank_eq_false]
  refine and_congr_left fun _ => ?_
  unfold Environment.text?
  constructor
  · intro h
    split at h
    · rename_i v hv
      rw [hv, Option.some.inj h]
    · cases h
  · intro h
    rw [h]

theorem override?_eq_none {e : Environment} {suffix : String} :
    override? e suffix = none ↔ ∀ value, ¬ SetTo e suffix value := by
  simp only [← override?_eq_some, Option.eq_none_iff_forall_ne_some, ne_eq]

theorem readMillis_eq_ok {value : String} {n : UInt64} :
    readMillis value = .ok n ↔ Millis value n := by
  rw [readMillis, Text.readUInt64_eq_ok]
  have hpadded := Text.padded_trim value
  constructor
  · rintro ⟨ds, htrim, hspells⟩
    refine ⟨ds, ?_, hspells⟩
    rcases htrim with htrim | htrim
    · exact .inl (htrim ▸ hpadded)
    · exact .inr (htrim ▸ hpadded)
  · rintro ⟨ds, hvalue, hspells⟩
    refine ⟨ds, ?_, hspells⟩
    have hdigits : ∀ c ∈ ds, isBlank c = false := fun c hc =>
      Text.isBlank_of_isDigit (hspells.digits c hc)
    rcases hvalue with hvalue | hvalue
    · exact .inl (hvalue.trim_eq_of_forall hdigits)
    · exact .inr (hvalue.trim_eq_of_forall (List.forall_mem_cons.mpr ⟨by decide, hdigits⟩))

theorem readSwitch_eq_true {value : String} : readSwitch value = true ↔ Affirms value := by
  have hlower : Text.lower (Text.trim value) =
      String.ofList ((Text.trim value).toList.map Char.toLower) := by
    rw [Text.lower, ← String.toList_map, String.ofList_toList]
  rw [readSwitch, List.contains_iff_mem, hlower]
  constructor
  · exact fun h => ⟨_, Text.padded_trim value, h⟩
  · rintro ⟨word, hpadded, hword⟩
    have hnot : ∀ c ∈ word, isBlank c = false := by
      intro c hc
      by_contra hblank
      have hblank' : isBlank c = true := by simpa using hblank
      have hmem : c ∈ word.map Char.toLower :=
        List.mem_map.mpr ⟨c, hc, Text.toLower_of_isBlank hblank'⟩
      have hwords : ["1", "true", "yes", "on"].all (fun w => w.toList.all (!isBlank ·)) = true := by
        decide
      have hno := List.all_eq_true.mp (List.all_eq_true.mp hwords _ hword) c
        (by rwa [String.toList_ofList])
      simp [hblank'] at hno
    rwa [hpadded.trim_eq_of_forall hnot]

end Settings

end OpenUrl
