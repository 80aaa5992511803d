import OpenUrl.Proofs.Json.Record
import OpenUrl.Proofs.Settings.Given
import OpenUrl.Proofs.Toml.Record

/-!
# What the text of a file says

A file says what its text writes: an object or a document that holds some of the four values, in any
order, gives these and nothing else.
-/
namespace OpenUrl.Settings

open OpenUrl.Record (copy)
open OpenUrl.Surroundings

variable {g file : Given} {gs : List (Field Given)} {path text : String}

namespace Given

/-- The fields that are given. Putting in their values once more changes nothing. -/
def fields (g : Given) : List (Field Given) := record.fields.filter fun f => f.put (f.get g) g = g

theorem separate_record : record.Separate where
  nodup := by decide
  get_put := by simp [record]
  get_put_of_ne := by simp [record]
  put_comm := by simp [record]

theorem fields_subset (g : Given) : g.fields ⊆ record.fields :=
  (List.filter_sublist (l := record.fields)).subset

theorem nodup_fields (g : Given) : (g.fields.map Field.name).Nodup :=
  separate_record.nodup.sublist (List.filter_sublist.map Field.name)

/-- All that is given lies in these fields. -/
theorem copy_fields (g : Given) : copy g g.fields nothing = g := by
  obtain ⟨pollInterval, waitTimeout, logLevel, jsonLogs⟩ := g
  cases pollInterval <;> cases waitTimeout <;> cases logLevel <;> cases jsonLogs <;>
    simp [fields, record, copy, nothing]

end Given

/-- The text holds the values that are given, in any order and in the format that the name of the
file tells. -/
inductive Holds (path text : String) (g : Given) : Prop
  | toml {gs : List (Field Given)} : (Path.extension? path).getD "toml" = "toml" →
      gs.Perm g.fields → Toml.Writes g gs text.toList → Holds path text g
  | json {gs : List (Field Given)} : Path.extension? path = some "json" →
      gs.Perm g.fields → Json.Writes g gs text.toList → Holds path text g

theorem subset_of_perm (h : gs.Perm g.fields) : gs ⊆ Given.record.fields :=
  fun _ hf => g.fields_subset (h.subset hf)

theorem nodup_of_perm (h : gs.Perm g.fields) : (gs.map Field.name).Nodup :=
  (h.map Field.name).nodup_iff.mpr g.nodup_fields

theorem copy_of_perm (h : gs.Perm g.fields) : copy g gs Given.record.blank = g :=
  (Given.separate_record.copy_eq_of_perm g.fields_subset h g _).trans g.copy_fields

theorem Holds.says (h : Holds path text g) : Says path text g := by
  cases h with
  | toml hext hperm hwrites =>
    have hread := Record.ofToml_eq Given.separate_record (subset_of_perm hperm)
      (nodup_of_perm hperm) rfl hwrites
    rw [copy_of_perm hperm] at hread
    exact .toml hext hread
  | json hext hperm hwrites =>
    have hread := Record.ofJson_eq Given.separate_record.nodup (subset_of_perm hperm)
      (nodup_of_perm hperm) rfl hwrites
    rw [copy_of_perm hperm] at hread
    exact .json hext hread

/-- A text says one thing at most. -/
theorem Says.unique (h : Says path text g) (h' : Says path text file) : g = file := by
  cases h with
  | toml hext hread =>
    cases h' with
    | toml _ hread' => exact Except.ok.inj (hread.symm.trans hread')
    | json hjson => simp [hjson] at hext
  | json hjson hread =>
    cases h' with
    | toml hext => simp [hjson] at hext
    | json _ hread' => exact Except.ok.inj (hread.symm.trans hread')

/-- The file in use gives what its text holds, and nothing else. -/
theorem Holds.fileGives_iff {s : Surroundings} {a : Arguments} (h : Holds path text file)
    (huse : fileInUse s a = some path) (hread : s.files.readText path = .ok text) :
    FileGives s a g ↔ g = file := by
  constructor
  · intro hgives
    cases hgives with
    | absent hnone => simp [huse] at hnone
    | file huse' hread' hsays =>
      obtain rfl : path = _ := Option.some.inj (huse.symm.trans huse')
      obtain rfl : text = _ := Except.ok.inj (hread.symm.trans hread')
      exact hsays.unique h.says
  · rintro rfl
    exact .file huse hread h.says

end OpenUrl.Settings
