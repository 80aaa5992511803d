import Mathlib.Tactic.Common
import OpenUrl.Criteria

/-!
# Criteria from pairs

A pair names a criterion before its first equals sign and gives the wanted text behind it. Pairs
are taken one after the other, so of several with one key the last counts, and the first that
cannot be read decides that there are no criteria.
-/
namespace OpenUrl.Criteria

variable {pair : String} {ps qs : List String} {p q : Criterion} {w : String} {c d : Criteria}
  {f : Failure}

/-- The pair asks for the text under the criterion's key. Blanks around the key do not count. -/
def Asks (pair : String) (p : Criterion) (wanted : String) : Prop :=
  ∃ key, pair.toList = key ++ '=' :: wanted.toList ∧ '=' ∉ key ∧
    Text.trim (String.ofList key) = p.key

/-- The pair cannot be read, for a reason. -/
inductive Offends (pair : String) : Failure → Prop
  | noText (h : '=' ∉ pair.toList) :
      Offends pair (.invalidInput ("expected key=value, got '" ++ pair ++ "'"))
  | unknownKey {key text : List Char} (hpair : pair.toList = key ++ '=' :: text) (hkey : '=' ∉ key)
      (hunknown : ∀ p : Criterion, Text.trim (String.ofList key) ≠ p.key) :
      Offends pair
        (.invalidInput ("unknown app criterion '" ++ Text.trim (String.ofList key) ++ "'"))

/-! ## One pair -/

theorem splitPair_cons {c : Char} (h : c ≠ '=') (cs : List Char) :
    splitPair (c :: cs) = (splitPair cs).map fun kt => (c :: kt.1, kt.2) := by
  rw [splitPair]
  exact h

theorem splitPair_append {key : List Char} (hkey : '=' ∉ key) (text : List Char) :
    splitPair (key ++ '=' :: text) = some (key, text) := by
  induction key with
  | nil => rfl
  | cons c key ih =>
    obtain ⟨hc, hkey⟩ := not_or.mp (List.mem_cons.not.mp hkey)
    rw [List.cons_append, splitPair_cons (Ne.symm hc), ih hkey]
    rfl

theorem splitPair_eq_none {cs : List Char} : splitPair cs = .none ↔ '=' ∉ cs := by
  constructor
  · intro h hmem
    obtain ⟨key, text, rfl, hkey⟩ := List.eq_append_cons_of_mem hmem
    rw [splitPair_append hkey] at h
    cases h
  · intro h
    induction cs with
    | nil => rfl
    | cons c cs ih =>
      obtain ⟨hc, hcs⟩ := not_or.mp (List.mem_cons.not.mp h)
      rw [splitPair_cons (Ne.symm hc), ih hcs]
      rfl

theorem splitPair_eq_some {cs key text : List Char} :
    splitPair cs = some (key, text) ↔ cs = key ++ '=' :: text ∧ '=' ∉ key := by
  constructor
  · intro h
    have hmem : '=' ∈ cs := by
      by_contra hno
      rw [splitPair_eq_none.mpr hno] at h
      cases h
    obtain ⟨key', text', rfl, hkey⟩ := List.eq_append_cons_of_mem hmem
    rw [splitPair_append hkey] at h
    cases h
    exact ⟨rfl, hkey⟩
  · rintro ⟨rfl, hkey⟩
    exact splitPair_append hkey text

theorem ofKey?_eq_none {k : String} :
    Criterion.ofKey? k = .none ↔ ∀ p : Criterion, k ≠ p.key := by
  constructor
  · rintro h p rfl
    rw [Criterion.ofKey?_key] at h
    cases h
  · intro h
    cases hk : Criterion.ofKey? k with
    | none => rfl
    | some p => exact absurd (Criterion.ofKey?_eq_some hk) (h p)

theorem key_injective {p q : Criterion} (h : p.key = q.key) : p = q := by
  have hof := congrArg Criterion.ofKey? h
  rw [Criterion.ofKey?_key, Criterion.ofKey?_key] at hof
  exact Option.some.inj hof

/-- A pair asks for one text under one key. -/
theorem Asks.unique {v : String} (h : Asks pair p w) (h' : Asks pair q v) : p = q ∧ w = v := by
  obtain ⟨key, hpair, hkey, hname⟩ := h
  obtain ⟨key', hpair', hkey', hname'⟩ := h'
  have hsplit := splitPair_eq_some.mpr ⟨hpair, hkey⟩
  rw [splitPair_eq_some.mpr ⟨hpair', hkey'⟩] at hsplit
  obtain ⟨rfl, htext⟩ := Prod.mk.inj (Option.some.inj hsplit)
  exact ⟨key_injective (hname.symm.trans hname'), String.toList_injective htext.symm⟩

theorem readPair_eq_ok : readPair pair = .ok (p, w) ↔ Asks pair p w := by
  unfold readPair
  constructor
  · intro h
    split at h
    · cases h
    · rename_i key text hsplit
      obtain ⟨hpair, hkey⟩ := splitPair_eq_some.mp hsplit
      dsimp only at h
      split at h
      · cases h
      · rename_i hof
        cases h
        exact ⟨key, by rw [hpair, String.toList_ofList], hkey, Criterion.ofKey?_eq_some hof⟩
  · rintro ⟨key, hpair, hkey, hname⟩
    rw [splitPair_eq_some.mpr ⟨hpair, hkey⟩]
    simp only [hname, Criterion.ofKey?_key, String.ofList_toList]

theorem readPair_eq_error : readPair pair = .error f ↔ Offends pair f := by
  unfold readPair
  constructor
  · intro h
    split at h
    · rename_i hsplit
      cases h
      exact .noText (splitPair_eq_none.mp hsplit)
    · rename_i key text hsplit
      obtain ⟨hpair, hkey⟩ := splitPair_eq_some.mp hsplit
      dsimp only at h
      split at h
      · rename_i hof
        cases h
        exact .unknownKey hpair hkey (ofKey?_eq_none.mp hof)
      · cases h
  · intro h
    cases h with
    | noText h => rw [splitPair_eq_none.mpr h]
    | unknownKey hpair hkey hunknown =>
      rw [splitPair_eq_some.mpr ⟨hpair, hkey⟩]
      simp only [ofKey?_eq_none.mpr hunknown]

/-- A pair can be read, or there is a reason why not. -/
theorem asks_or_offends (pair : String) : (∃ p w, Asks pair p w) ∨ ∃ f, Offends pair f := by
  cases h : readPair pair with
  | ok pw => exact .inl ⟨pw.1, pw.2, readPair_eq_ok.mp h⟩
  | error f => exact .inr ⟨f, readPair_eq_error.mp h⟩

/-! ## Several pairs -/

/-- All pairs can be read. -/
def Readable (ps : List String) : Prop := ∀ q ∈ ps, ∃ p w, Asks q p w

/-- No pair has the criterion's key. -/
def Silent (ps : List String) (p : Criterion) : Prop := ∀ q ∈ ps, ∀ v, ¬ Asks q p v

/-- The text of the last pair with the criterion's key. -/
def Last (ps : List String) (p : Criterion) (wanted : String) : Prop :=
  ∃ before pair after, ps = before ++ pair :: after ∧ Asks pair p wanted ∧ Silent after p

theorem silent_nil (p : Criterion) : Silent [] p := fun _ hq => absurd hq List.not_mem_nil

theorem silent_cons : Silent (pair :: ps) p ↔ (∀ v, ¬ Asks pair p v) ∧ Silent ps p :=
  List.forall_mem_cons

theorem not_last_nil : ¬ Last [] p w := by
  rintro ⟨before, pair, after, h, -⟩
  simp at h

theorem last_cons : Last (pair :: ps) p w ↔ Last ps p w ∨ Asks pair p w ∧ Silent ps p := by
  constructor
  · rintro ⟨before, pair', after, h, hasks, hafter⟩
    cases before with
    | nil =>
      obtain ⟨rfl, rfl⟩ := List.cons.inj h
      exact .inr ⟨hasks, hafter⟩
    | cons first before =>
      obtain ⟨rfl, rfl⟩ := List.cons.inj h
      exact .inl ⟨before, pair', after, rfl, hasks, hafter⟩
  · rintro (⟨before, pair', after, rfl, hasks, hafter⟩ | ⟨hasks, hsilent⟩)
    · exact ⟨pair :: before, pair', after, rfl, hasks, hafter⟩
    · exact ⟨[], pair, ps, rfl, hasks, hsilent⟩

/-- A key that occurs has a last text. -/
theorem exists_last (h : ¬ Silent ps p) : ∃ w, Last ps p w := by
  induction ps with
  | nil => exact absurd (silent_nil p) h
  | cons first ps ih =>
    by_cases hsilent : Silent ps p
    · -- No later pair has the key, so the first one must have it.
      have hfirst : ¬ ∀ v, ¬ Asks first p v := fun hno => h (silent_cons.mpr ⟨hno, hsilent⟩)
      obtain ⟨w, hw⟩ := not_forall_not.mp hfirst
      exact ⟨w, last_cons.mpr (.inr ⟨hw, hsilent⟩)⟩
    · obtain ⟨w, hw⟩ := ih hsilent
      exact ⟨w, last_cons.mpr (.inl hw)⟩

/-- Under the key of the pair its text is found, and under other keys what was there. -/
theorem get_set_eq_some (h : Asks pair p w) (c : Criteria) (q : Criterion) (v : String) :
    (c.set p w).get q = some v ↔
      Asks pair q v ∨ c.get q = some v ∧ ∀ u, ¬ Asks pair q u := by
  rw [get_set]
  by_cases hq : q = p
  · subst hq
    rw [if_pos rfl, Option.some.injEq]
    constructor
    · rintro rfl
      exact .inl h
    · rintro (hv | ⟨-, hno⟩)
      · exact (h.unique hv).2
      · exact absurd h (hno w)
  · have hno (u : String) : ¬ Asks pair q u := fun hu => hq (hu.unique h).1
    rw [if_neg hq]
    constructor
    · exact fun hv => .inr ⟨hv, hno⟩
    · rintro (hv | ⟨hv, -⟩)
      · exact absurd hv (hno v)
      · exact hv

/-- Pairs that can be read are all added: each key has its last text, or what was there. -/
theorem Readable.exists_addPairs (h : Readable ps) (c : Criteria) :
    ∃ d, c.addPairs ps = .ok d ∧
      ∀ p w, d.get p = some w ↔ Last ps p w ∨ c.get p = some w ∧ Silent ps p := by
  induction ps generalizing c with
  | nil =>
    refine ⟨c, rfl, fun p w => ?_⟩
    constructor
    · exact fun hget => .inr ⟨hget, silent_nil p⟩
    · rintro (hlast | ⟨hget, -⟩)
      · exact absurd hlast not_last_nil
      · exact hget
  | cons pair ps ih =>
    obtain ⟨⟨p, w, hasks⟩, hps⟩ := List.forall_mem_cons.mp h
    obtain ⟨d, hadd, hget⟩ := ih hps (c.set p w)
    refine ⟨d, ?_, fun q v => ?_⟩
    · rw [addPairs, readPair_eq_ok.mpr hasks]
      exact hadd
    · rw [hget, get_set_eq_some hasks, last_cons, silent_cons]
      tauto

theorem Readable.addPairs_offends (h : Readable ps) (hoffends : Offends pair f) (c : Criteria) :
    c.addPairs (ps ++ pair :: qs) = .error f := by
  induction ps generalizing c with
  | nil => rw [List.nil_append, addPairs, readPair_eq_error.mpr hoffends]
  | cons first ps ih =>
    obtain ⟨⟨p, w, hasks⟩, hps⟩ := List.forall_mem_cons.mp h
    rw [List.cons_append, addPairs, readPair_eq_ok.mpr hasks]
    exact ih hps (c.set p w)

/-- All pairs can be read, or one is the first that cannot. -/
theorem readable_or_offends (ps : List String) :
    Readable ps ∨ ∃ before pair after f, ps = before ++ pair :: after ∧ Readable before ∧
      Offends pair f := by
  induction ps with
  | nil => exact .inl fun q hq => absurd hq List.not_mem_nil
  | cons first ps ih =>
    rcases asks_or_offends first with hfirst | ⟨f, hoffends⟩
    · rcases ih with hps | ⟨before, pair, after, f, rfl, hbefore, hoffends⟩
      · exact .inl (List.forall_mem_cons.mpr ⟨hfirst, hps⟩)
      · exact .inr ⟨first :: before, pair, after, f, rfl,
          List.forall_mem_cons.mpr ⟨hfirst, hbefore⟩, hoffends⟩
    · exact .inr ⟨[], first, ps, f, rfl, fun q hq => absurd hq List.not_mem_nil, hoffends⟩

/-- Criteria from pairs: all can be read, and each key has its last text. -/
theorem ofPairs_eq_ok :
    ofPairs ps = .ok c ↔ Readable ps ∧ ∀ p w, c.get p = some w ↔ Last ps p w := by
  have hnone (p : Criterion) (w : String) :
      Last ps p w ∨ none.get p = some w ∧ Silent ps p ↔ Last ps p w := by simp
  constructor
  · intro h
    rcases readable_or_offends ps with hps | ⟨before, pair, after, f, rfl, hbefore, hoffends⟩
    · obtain ⟨d, hadd, hget⟩ := hps.exists_addPairs none
      obtain rfl : d = c := Except.ok.inj (hadd.symm.trans h)
      exact ⟨hps, fun p w => (hget p w).trans (hnone p w)⟩
    · rw [ofPairs, hbefore.addPairs_offends hoffends] at h
      cases h
  · rintro ⟨hps, hc⟩
    obtain ⟨d, hadd, hget⟩ := hps.exists_addPairs none
    have hcd : d = c := ext_get fun p => Option.ext fun w =>
      (hget p w).trans ((hnone p w).trans (hc p w).symm)
    rw [ofPairs, hadd, hcd]

end OpenUrl.Criteria
