import OpenUrl.Proofs.Settings.Layers
import OpenUrl.Proofs.Surroundings.Walk

/-!
# The file that is found

Of the standard places, the first where anything stands is taken, be it a file or a folder. Behind
a folder that bears the name of a file, files in later places are not looked at.
-/
namespace OpenUrl.Settings

open OpenUrl.Surroundings

variable {s : Surroundings} {path : String}

/-- The first of the paths of which `P` holds. -/
def FirstOf (P : String → Prop) (paths : List String) (path : String) : Prop :=
  ∃ before after, paths = before ++ path :: after ∧ P path ∧ ∀ p ∈ before, ¬ P p

/-- If the first of which `P` holds has a narrower property, it is the first to have it. -/
theorem FirstOf.narrow {P Q : String → Prop} {paths : List String} (h : FirstOf P paths path)
    (hnarrow : ∀ p, Q p → P p) (hpath : Q path) : FirstOf Q paths path := by
  obtain ⟨before, after, hpaths, -, hbefore⟩ := h
  exact ⟨before, after, hpaths, hpath, fun p hp hq => hbefore p hp (hnarrow p hq)⟩

theorem locate_eq_some :
    locate s = some path ↔ FirstOf s.files.Stands (candidates s) path := by
  unfold locate FirstOf
  rw [List.find?_eq_some_iff_append, FileTree.present_iff]
  constructor
  · rintro ⟨hpath, before, after, hpaths, hbefore⟩
    refine ⟨before, after, hpaths, hpath, fun p hp hstands => ?_⟩
    have hpresent := FileTree.present_iff.mpr hstands
    have hnot := hbefore p hp
    simp [hpresent] at hnot
  · rintro ⟨before, after, hpaths, hpath, hbefore⟩
    refine ⟨hpath, before, after, hpaths, fun p hp => ?_⟩
    have hnot := FileTree.present_iff.not.mpr (hbefore p hp)
    simp [hnot]

theorem locate_eq_none : locate s = none ↔ ∀ p ∈ candidates s, ¬ s.files.Stands p := by
  unfold locate
  rw [List.find?_eq_none]
  simp only [FileTree.present_iff]

/-- What is taken for a file and is none cannot be read. -/
theorem load_of_not_holdsFile (hlocate : locate s = some path)
    (hno : ¬ s.files.HoldsFile path) :
    load s = (.error (.unreadable .isFolder), [.settingsFile path]) := by
  obtain ⟨_, _, _, hstands, _⟩ := locate_eq_some.mp hlocate
  have hread := FileTree.readText_of_not_holdsFile hstands hno
  have hfile : loadFile s (some path) =
      (.error (.unreadable .isFolder), [.settingsFile path]) := by
    rw [loadFile, if_pos (FileTree.present_iff.mpr hstands), ofFile_of_error hread]
  simp only [load, hlocate, hfile]
  rfl

/-- The first standard place where anything stands is taken, and none only if nothing stands in
any. If that is a file, it is the first file. If not, there are no settings, whatever files stand
in later places. -/
theorem locate_first (s : Surroundings) :
    (∀ path, locate s = some path ↔ FirstOf s.files.Stands (candidates s) path) ∧
    (locate s = none ↔ ∀ p ∈ candidates s, ¬ s.files.Stands p) ∧
    (∀ path, locate s = some path → s.files.HoldsFile path →
      FirstOf s.files.HoldsFile (candidates s) path) ∧
    (∀ path, locate s = some path → ¬ s.files.HoldsFile path →
      load s = (.error (.unreadable .isFolder), [.settingsFile path])) := by
  refine ⟨fun path => locate_eq_some, locate_eq_none, fun path hlocate hfile => ?_,
    fun path => load_of_not_holdsFile⟩
  have hfirst := locate_eq_some.mp hlocate
  exact hfirst.narrow (fun p hp => hp.stands) hfile

/-- A link to nothing, a link to a file elsewhere, and a file of the user. -/
def linked : Surroundings :=
  ⟨⟨[(["w"], .folder), (["w", "urlbridge.toml"], .link "gone.toml"),
      (["w", "urlbridge.json"], .link "../etc/./real.json"), (["etc"], .folder),
      (["etc", "real.json"], .file "\x7b\x7d".toUTF8), (["home"], .folder),
      (["home", ".config"], .folder), (["home", ".config", "urlbridge.toml"], .file "".toUTF8)],
      ["w"], false⟩, ⟨[("HOME", .text "/home")]⟩, some "/bin/probe"⟩

theorem locate_first_through_links :
    locate linked = some "/w/urlbridge.json" ∧
    FirstOf linked.files.HoldsFile (candidates linked) "/w/urlbridge.json" := by
  have hgone : ¬ linked.files.Stands "/w/urlbridge.toml" := by
    rw [← FileTree.present_iff]
    decide +kernel
  have hfile : linked.files.HoldsFile "/w/urlbridge.json" := by
    rw [← FileTree.isFile_iff]
    decide +kernel
  have hlocate : locate linked = some "/w/urlbridge.json" :=
    ((locate_first linked).1 _).mpr ⟨["/w/urlbridge.toml"], (candidates linked).drop 2,
      by decide +kernel, hfile.stands, by simpa using hgone⟩
  exact ⟨hlocate, (locate_first linked).2.2.1 _ hlocate hfile⟩

/-- A folder under the first name, and a file under the second. -/
def shadowed : Surroundings :=
  ⟨⟨[(["w"], .folder), (["w", "urlbridge.toml"], .folder),
      (["w", "urlbridge.json"], .file "\x7b\x7d".toUTF8)], ["w"], false⟩, .empty, none⟩

/-- The folder is taken for the settings file, and the file behind it is missed. -/
theorem locate_shadowed_by_folder :
    FirstOf shadowed.files.HoldsFile (candidates shadowed) "/w/urlbridge.json" ∧
    locate shadowed = some "/w/urlbridge.toml" ∧
    load shadowed = (.error (.unreadable .isFolder), [.settingsFile "/w/urlbridge.toml"]) := by
  have hfolder : ¬ shadowed.files.HoldsFile "/w/urlbridge.toml" := by
    rw [← FileTree.isFile_iff]
    decide +kernel
  have hfile : shadowed.files.HoldsFile "/w/urlbridge.json" := by
    rw [← FileTree.isFile_iff]
    decide +kernel
  have hlocate : locate shadowed = some "/w/urlbridge.toml" := by decide +kernel
  exact ⟨⟨["/w/urlbridge.toml"], (candidates shadowed).drop 2, by decide +kernel, hfile,
    by simpa using hfolder⟩, hlocate, load_of_not_holdsFile hlocate hfolder⟩

end OpenUrl.Settings
