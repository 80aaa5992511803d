import Mathlib.Data.List.Perm.Basic
import OpenUrl.Proofs.Copy
import OpenUrl.Proofs.Toml.Document

/-!
# Records from documents that hold their fields

The entries of a document are taken over in the order of their names. As the fields of a record are
stored by themselves, that gives the same record as the order in which they were written.
-/
namespace OpenUrl

open Record (copy)

namespace Toml

variable {σ : Type} {r : Record σ} {s : σ} {f : Field σ} {fs : List (Field σ)}
  {es : List (Key × Value)} {text : List Char}

/-- An entry that holds a field of `s`. -/
abbrev Holding (s : σ) (f : Field σ) (e : Key × Value) : Prop := e.1.name = f.name ∧ Stores s f e.2

theorem readKind_eq {k : Kind} {v : k.Value} {x : Scalar} (h : k.toToml? v = some x) (span : Span) :
    readKind k (.scalar x span) = .ok v := by
  cases k with
  | natural =>
    change UInt64 at v
    obtain rfl := Option.some.inj h
    have hlt : v.toNat < UInt64.size := v.toNat_lt_size
    have hfits : (0 : Int) ≤ v.toNat ∧ (v.toNat : Int) ≤ UInt64.size - 1 := by omega
    simp only [readKind, readWhole, if_pos hfits, Except.map, Int.toNat_natCast, UInt64.ofNat_toNat]
  | integer =>
    change Int32 at v
    obtain rfl := Option.some.inj h
    have hfits := And.intro v.minValue_le_toInt v.toInt_le
    simp only [readKind, readWhole, if_pos hfits, Except.map, Int32.ofInt_toInt]
  | text | flag =>
    obtain rfl := Option.some.inj h
    rfl
  | optionalText =>
    obtain ⟨s, rfl, rfl⟩ := Option.map_eq_some_iff.mp h
    rfl

/-- Entries that hold fields of `s` are taken over one after the other. -/
theorem readEntries_eq (hr : r.names.Nodup) (hfs : fs ⊆ r.fields)
    (h : List.Forall₂ (Holding s) fs es) (t : σ) : readEntries r es t = .ok (copy s fs t) := by
  induction h generalizing t with
  | nil => rfl
  | @cons f e fs es he _ ih =>
    obtain ⟨hf, htail⟩ := List.cons_subset.mp hfs
    obtain ⟨k, v⟩ := e
    obtain ⟨hname, x, span, hx, rfl⟩ := he
    have hname' : k.name = f.name := hname
    simp only [readEntries, hname', Record.field?_of_mem hr hf, readKind_eq hx]
    exact ih htail _

theorem readRecord_eq (hr : r.Separate) (hfs : fs ⊆ r.fields)
    (h : List.Forall₂ (Holding s) fs es) (habsent : r.absent? (fs.map Field.name) = none) :
    readRecord r es = .ok (copy s fs r.blank) := by
  obtain ⟨fs', hperm, hsorted⟩ : ∃ fs', fs'.Perm fs ∧ List.Forall₂ (Holding s) fs' (sorted es) := by
    have hcomp : (Relation.Comp (List.Forall₂ (Holding s)) List.Perm) fs (sorted es) :=
      ⟨es, h, (List.mergeSort_perm es _).symm⟩
    rw [List.forall₂_comp_perm_eq_perm_comp_forall₂] at hcomp
    obtain ⟨fs', hperm, hsorted⟩ := hcomp
    exact ⟨fs', hperm.symm, hsorted⟩
  have hnames : es.map (fun e => e.1.name) = fs.map Field.name := by
    clear hsorted hfs habsent hperm
    induction h with
    | nil => rfl
    | cons he _ ih => rw [List.map_cons, List.map_cons, ih, he.1]
  have hread := readEntries_eq hr.nodup (fun f hf => hfs (hperm.subset hf)) hsorted r.blank
  rw [readRecord, hread, hnames, habsent, hr.copy_eq_of_perm hfs hperm]

end Toml

/-- A document that writes fields of `s` gives the record that took over these fields. -/
theorem Record.ofToml_eq {σ : Type} {r : Record σ} {s : σ} {fs : List (Field σ)} {text : String}
    (hr : r.Separate) (hfs : fs ⊆ r.fields)
    (hnodup : (fs.map Field.name).Nodup) (habsent : r.absent? (fs.map Field.name) = none)
    (h : Toml.Writes s fs text.toList) : r.ofToml text = .ok (copy s fs r.blank) := by
  obtain ⟨es, hread, hes⟩ := Toml.read_eq h hnodup
  rw [String.ofList_toList] at hread
  simp only [ofToml, Toml.readAll, hread, Toml.readRecord_eq hr hfs hes habsent]

end OpenUrl
