import OpenUrl.Proofs.Bytes
import OpenUrl.Proofs.Json.Value

/-!
# A value is written on one line

Controls inside of strings are escaped and nothing else is a control, so what is written has no
line feed and no carriage return, whatever the strings hold.
-/
namespace OpenUrl.Json

theorem le_digitChar {n : Nat} (h : n < 16) : 0x20 ≤ (Nat.digitChar n).toNat := by
  revert n
  decide

theorem noControls_escapeChar (c : Char) : NoControls (escapeChar c) := by
  unfold escapeChar
  split
  case h_8 =>
    split_ifs with hcontrol
    · have hhigh : NoControls (hexPair c.toNat) :=
        .cons (le_digitChar (by omega)) (.cons (le_digitChar (by omega)) .nil)
      exact .append (by decide) hhigh
    · exact .cons (Nat.le_of_not_lt hcontrol) .nil
  all_goals decide

theorem noControls_renderText (s : String) : NoControls (renderText s) := by
  refine .cons (by decide) (.append ?_ (by decide))
  intro a ha
  obtain ⟨c, -, hc⟩ := List.mem_flatMap.mp ha
  exact noControls_escapeChar c a hc

theorem noControls_lead (first : Bool) : NoControls (lead first) := by
  cases first <;> decide

theorem noControls_renderElements {vs : List Value} (h : ∀ v ∈ vs, NoControls (render v))
    (first : Bool) : NoControls (renderElements first vs) := by
  induction vs generalizing first with
  | nil => exact .nil
  | cons v vs ih =>
    obtain ⟨hv, hvs⟩ := List.forall_mem_cons.mp h
    exact .append (.append (noControls_lead first) hv) (ih hvs false)

theorem noControls_renderMembers {fs : List (String × Value)}
    (h : ∀ f ∈ fs, NoControls (render f.2)) (first : Bool) :
    NoControls (renderMembers first fs) := by
  induction fs generalizing first with
  | nil => exact .nil
  | cons f fs ih =>
    obtain ⟨hf, hfs⟩ := List.forall_mem_cons.mp h
    exact .append (.append (noControls_lead first) (noControls_renderText f.1))
      (.cons (by decide) (hf.append (ih hfs false)))

theorem Value.Plain.noControls {d : Nat} {v : Value} (h : v.Plain d) : NoControls (render v) := by
  induction h with
  | null => decide
  | boolean b => cases b <;> decide
  | @whole _ n =>
    intro c hc
    rcases isDigit_of_mem_toString (n := n) hc with rfl | hdigit
    · decide
    · simp only [isDigit, Bool.and_eq_true, decide_eq_true_eq, Char.le_def] at hdigit
      have hle : '0'.val.toNat ≤ c.val.toNat := UInt32.le_iff_toNat_le.mp hdigit.1
      exact Nat.le_trans (by decide) hle
  | text s => exact noControls_renderText s
  | array _ ih =>
    rw [render, renderItems_eq]
    exact .cons (by decide) (.append (noControls_renderElements ih true) (by decide))
  | object _ ih =>
    rw [render, renderFields_eq]
    exact .cons (by decide) (.append (noControls_renderMembers ih true) (by decide))

end OpenUrl.Json
