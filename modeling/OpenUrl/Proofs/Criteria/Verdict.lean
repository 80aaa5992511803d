import OpenUrl.Proofs.Criteria.Pairs
import OpenUrl.Report

/-!
# The verdict of pairs

There is a verdict once there is a pair, and it is good if for each key that occurs the part of the
sender has the last text of that key. Only the order of pairs with one key matters, and a further
key can only spoil a verdict. A sender that was not found has empty parts, so it is turned down
just if some key wants a text that is not empty.
-/
namespace OpenUrl.Criteria

variable {pair : String} {ps qs before after : List String} {p q : Criterion} {w : String}
  {c d : Criteria} {s : Application}

/-! ## Criteria and the sender -/

theorem holds_iff : c.holds s = true ↔ ∀ p w, c.get p = some w → p.part s = w := by
  unfold holds
  rw [List.all_eq_true]
  constructor
  · intro h p w hget
    have hp := h p (Criterion.mem_all p)
    rw [hget] at hp
    exact (beq_iff_eq.mp hp).symm
  · intro h p _
    cases hget : c.get p with
    | none => rfl
    | some w => exact beq_iff_eq.mpr (h p w hget).symm

theorem isEmpty_iff : c.isEmpty = true ↔ ∀ p, c.get p = .none := by
  constructor
  · intro h p
    simp only [isEmpty, Bool.and_eq_true, Option.isNone_iff_eq_none] at h
    obtain ⟨⟨⟨hname, hid⟩, hbundle⟩, hexecutable⟩ := h
    cases p <;> assumption
  · intro h
    have hc : c = none := ext_get fun p => by rw [h p, get_none]
    rw [hc]
    rfl

/-- Criteria are empty just if there was no pair. -/
theorem isEmpty_of_ofPairs (h : ofPairs ps = .ok c) : c.isEmpty = true ↔ ps = [] := by
  obtain ⟨hps, hget⟩ := ofPairs_eq_ok.mp h
  rw [isEmpty_iff]
  constructor
  · intro hnone
    cases ps with
    | nil => rfl
    | cons first ps =>
      obtain ⟨p, w, hasks⟩ := hps first List.mem_cons_self
      have hoccurs : ¬ Silent (first :: ps) p := fun hsilent =>
        hsilent first List.mem_cons_self w hasks
      obtain ⟨v, hlast⟩ := exists_last hoccurs
      rw [← hget, hnone p] at hlast
      cases hlast
  · rintro rfl p
    cases hp : c.get p with
    | none => rfl
    | some w => exact absurd ((hget p w).mp hp) not_last_nil

theorem holds_of_ofPairs (h : ofPairs ps = .ok c) :
    c.holds s = true ↔ ∀ p w, Last ps p w → p.part s = w := by
  have hget := (ofPairs_eq_ok.mp h).2
  simp only [holds_iff, hget]

theorem matched_eq_some (h : ofPairs ps = .ok c) (e : Event) (s : Application) (b : Bool) :
    (Report.ofEvent e s c).matched = some b ↔ ps ≠ [] ∧ c.holds s = b := by
  rw [ne_eq, ← isEmpty_of_ofPairs h]
  change Report.verdict c s = some b ↔ _
  unfold Report.verdict
  split <;> simp_all

/-! ## Order -/

/-- A pair for the criterion. -/
def written (p : Criterion) (wanted : String) : String := p.key ++ "=" ++ wanted

/-- A pair for each criterion given. -/
def pairs (c : Criteria) : List String :=
  Criterion.all.filterMap fun p => (c.get p).map (written p)

theorem part_of_isEmpty (h : s.isEmpty = true) (p : Criterion) : p.part s = "" := by
  simp only [Application.isEmpty, Bool.and_eq_true, String.isEmpty_iff] at h
  obtain ⟨⟨⟨hname, hid⟩, hbundle⟩, hexecutable⟩ := h
  cases p <;> assumption

/-- A sender that was not found is turned down just if some key wants a text that is not empty. If
all that is wanted is empty, it passes like a sender that has the empty texts. -/
theorem verdict_of_missing_sender (hc : ofPairs ps = .ok c) (hps : ps ≠ [])
    (hs : s.isEmpty = true) (e : Event) :
    ((Report.ofEvent e s c).matched = some false ↔ ∃ p w, Last ps p w ∧ w ≠ "") ∧
    ((Report.ofEvent e s c).matched = some true ↔ ∀ p w, Last ps p w → w = "") := by
  have hholds : c.holds s = true ↔ ∀ p w, Last ps p w → w = "" := by
    rw [holds_of_ofPairs hc]
    simp only [part_of_isEmpty hs, eq_comm]
  constructor
  · rw [matched_eq_some hc, and_iff_right hps, Bool.eq_false_iff, ne_eq, hholds]
    simp only [not_forall, exists_prop]
  · rw [matched_eq_some hc, and_iff_right hps, hholds]

theorem verdict_of_missing_sender_by_name :
    (Report.ofEvent ⟨"u", 7⟩ Application.none ⟨some "Mail", some "", .none, .none⟩).matched =
      some false := by
  have hc : ofPairs ["bundle_id=", "display_name=Mail"] =
      .ok ⟨some "Mail", some "", .none, .none⟩ := by decide +kernel
  have hlast : Last ["bundle_id=", "display_name=Mail"] .displayName "Mail" :=
    ((ofPairs_eq_ok.mp hc).2 .displayName "Mail").mp rfl
  exact ((verdict_of_missing_sender hc (by decide) Application.isEmpty_none ⟨"u", 7⟩).1).mpr
    ⟨.displayName, "Mail", hlast, by decide⟩

/-- A pair is given, nobody is found behind the process, and the verdict is good all the same. -/
theorem missing_sender_passes :
    ∃ c, ofPairs ["display_name="] = .ok c ∧ Application.none.isEmpty = true ∧
      (Report.ofEvent ⟨"myapp://x", 42⟩ Application.none c).matched = some true :=
  ⟨⟨some "", .none, .none, .none⟩, by decide +kernel, Application.isEmpty_none, by decide⟩

end OpenUrl.Criteria
