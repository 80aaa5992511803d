import OpenUrl.Proofs.Json.Record
import OpenUrl.Proofs.Settings.Layers
import OpenUrl.Proofs.Toml.Record

/-!
# The two formats of a settings file agree

A file may write any of the four values, in any order and in either format; the values it does not
write keep their defaults. The name of the file tells the format, and a file of the same values in
the other format loads as the same settings, or is refused for the same reason.
-/
namespace OpenUrl.Settings

open OpenUrl.Surroundings
open OpenUrl.Record (copy)

variable {s : Surroundings} {c : Settings} {fs : List (Field Settings)} {path text : String}

/-- The settings that have the given fields of `c`, and defaults elsewhere. -/
def Filled (c : Settings) (fs : List (Field Settings)) (t : Settings) : Prop :=
  ∀ f ∈ record.fields,
    f.get t = if f.name ∈ fs.map Field.name then f.get c else f.get default

theorem filled_copy (hfs : fs ⊆ record.fields) : Filled c fs (copy c fs default) :=
  fun _ hf => separate_record.get_copy hfs hf c default

theorem ofText_toml (hpath : (Path.extension? path).getD "toml" = "toml") (hfs : fs ⊆ record.fields)
    (hnodup : (fs.map Field.name).Nodup) (h : Toml.Writes c fs text.toList) :
    ofText path text = .ok (copy c fs default) := by
  have hread := Record.ofToml_eq separate_record hfs hnodup rfl h
  simp only [ofText, hpath, hread]
  rfl

theorem ofText_json (hpath : Path.extension? path = some "json") (hfs : fs ⊆ record.fields)
    (hnodup : (fs.map Field.name).Nodup) (h : Json.Writes c fs text.toList) :
    ofText path text = .ok (copy c fs default) := by
  have hread := Record.ofJson_eq lawful_record.nodup hfs hnodup rfl h
  simp only [ofText, hpath, Option.getD_some, hread]
  rfl

theorem ofText_of_ne {extension : String} (hpath : Path.extension? path = some extension)
    (htoml : extension ≠ "toml") (hjson : extension ≠ "json") (text : String) :
    ofText path text = .error (.unknownFormat extension) := by
  unfold ofText
  rw [hpath, Option.getD_some]
  split
  · exact absurd rfl htoml
  · exact absurd rfl hjson
  · rfl

theorem loadFile_eq (hread : s.files.readText path = .ok text) :
    (loadFile s (some path)).1 = (ofText path text).bind validate := by
  rw [loadFile, if_pos (present_of_readText hread), ofFile_eq hread]

/-- Any fields of any settings can be written in both formats, and in any order. Whatever texts
write the same fields of the same settings, a file of each format loads as these fields with
defaults elsewhere, or is refused for an interval of zero. A file of another extension is refused
for its format, whatever its text. -/
theorem formats_agree (s : Surroundings) (c : Settings) :
    (∀ fs gs : List (Field Settings), fs ⊆ record.fields → (fs.map Field.name).Nodup →
      gs.Perm fs →
        (∃ json toml : String, Json.Writes c fs json.toList ∧ Toml.Writes c gs toml.toList) ∧
        ∀ p q json toml, Path.extension? p = some "json" →
          (Path.extension? q = some "toml" ∨ Path.extension? q = none) →
            s.files.readText p = .ok json → s.files.readText q = .ok toml →
              Json.Writes c fs json.toList → Toml.Writes c gs toml.toList →
                ∃ t, Filled c fs t ∧
                  (loadFile s (some p)).1 =
                    (if t.pollInterval = 0 then .error .zeroPollInterval else .ok t) ∧
                  (loadFile s (some q)).1 = (loadFile s (some p)).1) ∧
    ∀ path extension text, Path.extension? path = some extension → extension ≠ "toml" →
      extension ≠ "json" → s.files.readText path = .ok text →
        (loadFile s (some path)).1 = .error (.unknownFormat extension) := by
  refine ⟨fun fs gs hfs hnodup hperm => ⟨?_, ?_⟩, ?_⟩
  · have hgs : ∀ f ∈ gs, (f.kind.toToml? (f.get c)).isSome = true := by
      have hall : ∀ f ∈ record.fields, (f.kind.toToml? (f.get c)).isSome = true := by
        simp [record, Kind.toToml?]
      exact fun f hf => hall f (hfs (hperm.subset hf))
    obtain ⟨json, hjson⟩ := Json.exists_writes c fs
    obtain ⟨toml, htoml⟩ := Toml.exists_writes hgs
    exact ⟨String.ofList json, String.ofList toml, by rwa [String.toList_ofList],
      by rwa [String.toList_ofList]⟩
  · intro p q json toml hp hq hreadp hreadq hjson htoml
    have hgs : gs ⊆ record.fields := fun f hf => hfs (hperm.subset hf)
    have hnodup' : (gs.map Field.name).Nodup := (hperm.map Field.name).nodup_iff.mpr hnodup
    have hq' : (Path.extension? q).getD "toml" = "toml" := by
      rcases hq with hq | hq <;> rw [hq] <;> rfl
    have hloadp := loadFile_eq hreadp
    have hloadq := loadFile_eq hreadq
    rw [ofText_json hp hfs hnodup hjson] at hloadp
    rw [ofText_toml hq' hgs hnodup' htoml,
      separate_record.copy_eq_of_perm hfs hperm] at hloadq
    exact ⟨copy c fs default, filled_copy hfs, hloadp, hloadq.trans hloadp.symm⟩
  · intro path extension text hpath htoml hjson hread
    rw [loadFile_eq hread, ofText_of_ne hpath htoml hjson]
    rfl

def accented : Settings := ⟨7, 9, "é", true⟩

/-- Their level and then their interval. -/
def accentedJson : String :=
  " \x7b\"log_level\" : \"\\u00E9\",\n\"poll_interval_ms\":7\x7d"

/-- Their interval and then their level, spelt in other ways. -/
def accentedToml : String :=
  "poll_interval_ms=0x7 # ms\r\nlog_level = \"\\xe9\"\n"

theorem writes_accentedJson :
    Json.Writes accented [record.fields[2], record.fields[0]] accentedJson.toList := by
  have hnone : Json.Blanks [] := List.forall_mem_nil _
  have hblank : Json.Blanks [' '] := by simp [Json.Blanks, Json.isBlank]
  have hline : Json.Blanks ['\n'] := by simp [Json.Blanks, Json.isBlank]
  have hdigits : Text.Digits 16 ['0', '0', 'E', '9'] 'é'.toNat :=
    ⟨[0, 0, 14, 9], .cons (by decide) (.cons (by decide) (.cons (by decide)
      (.cons (by decide) .nil))), by decide⟩
  have hlevel : Json.SpellsText accented.logLevel.toList _ :=
    .mk (.cons (.escaped (.code rfl hdigits)) .nil)
  have hlast : Json.Members accented false [record.fields[0]] _ :=
    .some hnone hline (.mk (Json.inside_self (by simp [record]))) hnone hnone (.whole 7)
      (.none hnone)
  have hboth : Json.Members accented true [record.fields[2], record.fields[0]] _ :=
    .some hnone hnone (.mk (Json.inside_self (by simp [record]))) hblank hblank (.text hlevel) hlast
  convert Json.Writes.mk hblank hboth hnone using 1
  decide +kernel

theorem writes_accentedToml :
    Toml.Writes accented ([record.fields[0]] ++ [record.fields[2]]) accentedToml.toList := by
  have hnone : Toml.Spaces [] := List.forall_mem_nil _
  have hblank : Toml.Spaces [' '] := by simp [Toml.Spaces, Toml.isSpace]
  have hcomment : Toml.Comment ['#', ' ', 'm', 's'] := .some (by simp [Toml.Visible])
  have hdigits : Text.Digits 16 ['e', '9'] 'é'.toNat :=
    ⟨[14, 9], .cons (by decide) (.cons (by decide) .nil), by decide⟩
  have hlevel : Toml.SpellsText accented.logLevel.toList _ :=
    .line (.inl rfl) (.cons (.escaped rfl (.code (.head _) rfl hdigits)) .nil)
  have hseven : Toml.Run 16 [7] ['7'] := .one (by decide)
  have hpoll : Toml.Entry accented record.fields[0] _ :=
    .mk (.bare (by simp [record]) (by simp [record, Toml.isBare])) hnone hnone rfl
      (.integer (.based (.head _) hseven rfl))
  have hname : Toml.Entry accented record.fields[2] _ :=
    .mk (.bare (by simp [record]) (by simp [record, Toml.isBare])) hblank hblank rfl (.text hlevel)
  have hlast : Toml.Lines accented [record.fields[2]] _ :=
    .cons (.entry hnone hname hnone .none) .lineFeed (.last (.blank hnone .none))
  have hboth : Toml.Lines accented ([record.fields[0]] ++ [record.fields[2]]) _ :=
    .cons (.entry hnone hpoll hblank hcomment) .both hlast
  convert Toml.Writes.plain hboth using 1
  decide +kernel

/-- Files that hold two values in either format, and one of a format that is unknown. -/
def twofold : Surroundings :=
  ⟨⟨[(["w"], .folder), (["w", "c.json"], .file accentedJson.toUTF8),
      (["w", "c"], .file accentedToml.toUTF8), (["w", "c.yaml"], .file "log_level: é".toUTF8)],
    ["w"], false⟩, ⟨[]⟩, none⟩

theorem formats_agree_of_other_order :
    (loadFile twofold (some "/w/c.json")).1 = .ok ⟨7, defaultWaitTimeout, "é", false⟩ ∧
    (loadFile twofold (some "/w/c")).1 = .ok ⟨7, defaultWaitTimeout, "é", false⟩ ∧
    (loadFile twofold (some "/w/c.yaml")).1 = .error (.unknownFormat "yaml") := by
  obtain ⟨hagree, hother⟩ := formats_agree twofold accented
  have hfields : [record.fields[2], record.fields[0]] ⊆ record.fields := by simp
  obtain ⟨t, ht, hjson, htoml⟩ := (hagree _ _ hfields (by decide) (.swap ..)).2 "/w/c.json" "/w/c"
    accentedJson accentedToml (by decide +kernel) (.inr (by decide +kernel)) (by decide +kernel)
    (by decide +kernel) writes_accentedJson writes_accentedToml
  obtain rfl : t = ⟨7, defaultWaitTimeout, "é", false⟩ := by
    obtain ⟨_, _, _, _⟩ := t
    simpa [Filled, record, accented, default] using ht
  exact ⟨hjson, htoml.trans hjson, hother "/w/c.yaml" _ "log_level: é" (by decide +kernel)
    (by decide) (by decide) (by decide +kernel)⟩

end OpenUrl.Settings
