import Mathlib.Data.List.Induction
import OpenUrl.Arguments
import OpenUrl.Proofs.Text.Signed

/-!
# The grammar of a command line

A command line is a row of groups: a flag, and behind some flags a value, whatever it looks like.
Reading takes exactly such rows, and gives what their options mean together: the last value of
each kind, every criterion in order, and the switches that occur. What is no such row is refused
for its first group that cannot be completed, whatever stands behind it.
-/
namespace OpenUrl

open OpenUrl.Text (IntegerFault SpellsInteger SpellsNatural MisspellsInteger MisspellsNatural)

namespace CommandOption

/-- The flag under which an option is given. -/
def flag : CommandOption → Flag
  | help => .help
  | json => .json
  | config _ => .valued .config
  | pid _ => .valued .pid
  | timeout _ => .valued .timeout
  | criterion _ => .valued .criterion

def path? : CommandOption → Option String
  | config path => some path
  | _ => none

def pid? : CommandOption → Option Int32
  | pid n => some n
  | _ => none

def timeout? : CommandOption → Option UInt64
  | timeout ms => some ms
  | _ => none

def criterion? : CommandOption → Option String
  | criterion pair => some pair
  | _ => none

/-- The words by which an option is given. -/
def words : CommandOption → List String
  | help => ["--help"]
  | json => ["--json"]
  | config path => ["--config", path]
  | pid n => ["--pid", toString n]
  | timeout ms => ["--timeout-ms", toString ms]
  | criterion pair => ["--match", pair]

end CommandOption

namespace Arguments

/-- The words that stand alone. -/
def switchWords : List String := ["-h", "--help", "--json"]

/-- The words behind which a value stands. -/
def valuedWords : List String := ["--config", "--pid", "--timeout-ms", "--match"]

/-- The options that arguments stand for. -/
def given (a : Arguments) : List CommandOption :=
  a.configPath.toList.map .config ++ a.pid.toList.map .pid ++ a.timeout.toList.map .timeout ++
    a.criteria.map .criterion ++ (if a.json then [.json] else []) ++
    if a.help then [.help] else []

/-- A command line for the arguments. -/
def words (a : Arguments) : List String := a.given.flatMap CommandOption.words

variable {words group front back : List String} {os : List CommandOption}
  {o p : CommandOption} {f : Fault} {a : Arguments}

/-- The words of one group and the option that they give. -/
inductive Group : List String → CommandOption → Prop
  | shortHelp : Group ["-h"] .help
  | help : Group ["--help"] .help
  | json : Group ["--json"] .json
  | config (path : String) : Group ["--config", path] (.config path)
  | pid {text : String} {n : Int32} (h : SpellsInteger text n.toInt) :
      Group ["--pid", text] (.pid n)
  | timeout {text : String} {ms : UInt64} (h : SpellsNatural text ms.toNat) :
      Group ["--timeout-ms", text] (.timeout ms)
  | criterion (pair : String) : Group ["--match", pair] (.criterion pair)

/-- Words that are groups one after the other. -/
inductive Row : List String → List CommandOption → Prop
  | nil : Row [] []
  | cons {group words : List String} {o : CommandOption} {os : List CommandOption}
      (h : Group group o) (hs : Row words os) : Row (group ++ words) (o :: os)

/-- A group in front cannot be completed, whatever stands behind it. -/
inductive Stuck : List String → Fault → Prop
  | unknown {word : String} (back : List String) (hswitch : word ∉ switchWords)
      (hvalued : word ∉ valuedWords) : Stuck (word :: back) (.unknown word)
  | missingValue {word : String} (h : word ∈ valuedWords) : Stuck [word] (.missingValue word)
  | badPid {text : String} {f : IntegerFault} (back : List String) (h : MisspellsInteger text f) :
      Stuck ("--pid" :: text :: back) (.badPid text f)
  | badTimeout {text : String} {f : IntegerFault} (back : List String)
      (h : MisspellsNatural text f) : Stuck ("--timeout-ms" :: text :: back) (.badTimeout text f)

/-- What options mean together. -/
structure Means (os : List CommandOption) (a : Arguments) : Prop where
  configPath : a.configPath = (os.filterMap CommandOption.path?).getLast?
  pid : a.pid = (os.filterMap CommandOption.pid?).getLast?
  timeout : a.timeout = (os.filterMap CommandOption.timeout?).getLast?
  criteria : a.criteria = os.filterMap CommandOption.criterion?
  json : a.json = true ↔ .json ∈ os
  help : a.help = true ↔ .help ∈ os

/-! ## Cutting -/

theorem mem_switchWords {word : String} :
    word ∈ switchWords ↔ word = "-h" ∨ word = "--help" ∨ word = "--json" := by
  simp [switchWords]

theorem mem_valuedWords {word : String} : word ∈ valuedWords ↔
    word = "--config" ∨ word = "--pid" ∨ word = "--timeout-ms" ∨ word = "--match" := by
  simp [valuedWords]

theorem Group.options_append (h : Group group o) (words : List String) :
    options (group ++ words) = (options words).map (o :: ·) := by
  cases h with
  | shortHelp => rfl
  | help => rfl
  | json => rfl
  | config path => rfl
  | pid h =>
    refine (options_valued (v := .pid) rfl _ words).trans ?_
    rw [readValue, Text.readInt32_eq_ok.mpr h]
  | timeout h =>
    refine (options_valued (v := .timeout) rfl _ words).trans ?_
    rw [readValue, Text.readUInt64_eq_ok.mpr h]
  | criterion pair => rfl

/-- Behind whole groups reading starts anew. -/
theorem Row.options_append (h : Row front os) (back : List String) :
    options (front ++ back) = (options back).map (os ++ ·) := by
  induction h with
  | nil => cases hback : options back <;> simp [hback, Except.map]
  | cons hgroup hs ih =>
    rw [List.append_assoc, hgroup.options_append, ih]
    cases options back <;> rfl

theorem ofWord?_eq_none {word : String} (hswitch : word ∉ switchWords)
    (hvalued : word ∉ valuedWords) : Flag.ofWord? word = .none := by
  rw [mem_switchWords] at hswitch
  rw [mem_valuedWords] at hvalued
  unfold Flag.ofWord?
  split <;> simp_all

theorem Stuck.options_eq (h : Stuck words f) : options words = .error f := by
  cases h with
  | unknown back hswitch hvalued => exact options_unknown (ofWord?_eq_none hswitch hvalued) back
  | missingValue h => rcases mem_valuedWords.mp h with rfl | rfl | rfl | rfl <;> rfl
  | badPid back h =>
    refine (options_valued (v := .pid) rfl _ back).trans ?_
    rw [readValue, Text.readInt32_eq_error.mpr h]
  | badTimeout back h =>
    refine (options_valued (v := .timeout) rfl _ back).trans ?_
    rw [readValue, Text.readUInt64_eq_error.mpr h]

theorem begins_valued {word : String} (hword : word ∈ valuedWords) (words : List String) :
    (∃ group o back, word :: words = group ++ back ∧ Group group o) ∨
      ∃ f, Stuck (word :: words) f := by
  cases words with
  | nil => exact .inr ⟨_, .missingValue hword⟩
  | cons value back =>
    rcases mem_valuedWords.mp hword with rfl | rfl | rfl | rfl
    · exact .inl ⟨_, _, back, rfl, .config value⟩
    · cases h : Text.readInt32 value with
      | ok n => exact .inl ⟨_, _, back, rfl, .pid (Text.readInt32_eq_ok.mp h)⟩
      | error f => exact .inr ⟨_, .badPid back (Text.readInt32_eq_error.mp h)⟩
    · cases h : Text.readUInt64 value with
      | ok n => exact .inl ⟨_, _, back, rfl, .timeout (Text.readUInt64_eq_ok.mp h)⟩
      | error f => exact .inr ⟨_, .badTimeout back (Text.readUInt64_eq_error.mp h)⟩
    · exact .inl ⟨_, _, back, rfl, .criterion value⟩

/-- Words begin with a group or with one that cannot be completed. -/
theorem begins (word : String) (words : List String) :
    (∃ group o back, word :: words = group ++ back ∧ Group group o) ∨
      ∃ f, Stuck (word :: words) f := by
  by_cases hvalued : word ∈ valuedWords
  · exact begins_valued hvalued words
  by_cases hswitch : word ∈ switchWords
  · rcases mem_switchWords.mp hswitch with rfl | rfl | rfl
    · exact .inl ⟨_, _, words, rfl, .shortHelp⟩
    · exact .inl ⟨_, _, words, rfl, .help⟩
    · exact .inl ⟨_, _, words, rfl, .json⟩
  · exact .inr ⟨_, .unknown words hswitch hvalued⟩

theorem Group.ne_nil (h : Group group o) : group ≠ [] := by
  cases h <;> exact List.cons_ne_nil _ _

/-- Whole groups stand in front, and behind them nothing or a group that cannot be completed. -/
theorem exists_row (words : List String) :
    ∃ front os back, words = front ++ back ∧ Row front os ∧ (back = [] ∨ ∃ f, Stuck back f) := by
  induction hlen : words.length using Nat.strongRecOn generalizing words with
  | ind n ih =>
    cases words with
    | nil => exact ⟨[], [], [], rfl, .nil, .inl rfl⟩
    | cons word words =>
      rcases begins word words with ⟨group, o, rest, heq, hgroup⟩ | hstuck
      · have hshorter : rest.length < n := by
          have hpos := List.length_pos_iff.mpr hgroup.ne_nil
          have hsum := congrArg List.length heq
          rw [List.length_append] at hsum
          omega
        obtain ⟨front, os, back, rfl, hrow, hback⟩ := ih rest.length hshorter rest rfl
        exact ⟨group ++ front, o :: os, back, by rw [heq, List.append_assoc],
          .cons hgroup hrow, hback⟩
      · exact ⟨[], [], word :: words, rfl, .nil, .inr hstuck⟩

theorem Row.options_eq (h : Row words os) : options words = .ok os := by
  have hback := h.options_append []
  rwa [List.append_nil, options_nil, Except.map, List.append_nil] at hback

theorem Row.options_stuck (h : Row front os) (hback : Stuck back f) :
    options (front ++ back) = .error f := by
  rw [h.options_append, hback.options_eq]
  rfl

theorem options_eq_ok : options words = .ok os ↔ Row words os := by
  refine ⟨fun h => ?_, Row.options_eq⟩
  obtain ⟨front, os', back, rfl, hrow, rfl | ⟨f, hstuck⟩⟩ := exists_row words
  · rw [List.append_nil, hrow.options_eq] at h
    rw [List.append_nil]
    exact Except.ok.inj h ▸ hrow
  · rw [hrow.options_stuck hstuck] at h
    cases h

theorem options_eq_error : options words = .error f ↔
    ∃ front os back, words = front ++ back ∧ Row front os ∧ Stuck back f := by
  constructor
  · intro h
    obtain ⟨front, os, back, rfl, hrow, rfl | ⟨f', hstuck⟩⟩ := exists_row words
    · rw [List.append_nil, hrow.options_eq] at h
      cases h
    · rw [hrow.options_stuck hstuck] at h
      exact ⟨front, os, back, rfl, hrow, Except.error.inj h ▸ hstuck⟩
  · rintro ⟨front, os, back, rfl, hrow, hstuck⟩
    exact hrow.options_stuck hstuck

/-! ## Meaning -/

/-- One more option behind the others is taken into account. -/
theorem Means.append (h : Means os a) (o : CommandOption) : Means (os ++ [o]) (a.add o) := by
  obtain ⟨hpath, hpid, htimeout, hcriteria, hjson, hhelp⟩ := h
  constructor
  · cases o <;> simp [add, CommandOption.path?, hpath]
  · cases o <;> simp [add, CommandOption.pid?, hpid]
  · cases o <;> simp [add, CommandOption.timeout?, htimeout]
  · cases o <;> simp [add, CommandOption.criterion?, hcriteria]
  · cases o <;> simp [add, hjson]
  · cases o <;> simp [add, hhelp]

theorem means_ofOptions (os : List CommandOption) : Means os (ofOptions os) := by
  induction os using List.reverseRecOn with
  | nil => exact ⟨rfl, rfl, rfl, rfl, by decide, by decide⟩
  | append_singleton os o ih =>
    have hlast : ofOptions (os ++ [o]) = (ofOptions os).add o := by
      rw [ofOptions, List.foldl_append]
      rfl
    exact hlast ▸ ih.append o

/-- Options mean one thing only. -/
theorem Means.eq_ofOptions (h : Means os a) : a = ofOptions os := by
  have h' := means_ofOptions os
  have hjson : a.json = (ofOptions os).json := Bool.eq_iff_iff.mpr (h.json.trans h'.json.symm)
  have hhelp : a.help = (ofOptions os).help := Bool.eq_iff_iff.mpr (h.help.trans h'.help.symm)
  have hfields : a = ⟨a.configPath, a.pid, a.timeout, a.criteria, a.json, a.help⟩ := rfl
  rw [hfields, h.configPath, h.pid, h.timeout, h.criteria, hjson, hhelp, ← h'.configPath, ← h'.pid,
    ← h'.timeout, ← h'.criteria]

theorem read_eq_ok : read words = .ok a ↔ ∃ os, Row words os ∧ Means os a := by
  unfold read
  constructor
  · intro h
    cases hos : options words with
    | error f =>
      rw [hos] at h
      cases h
    | ok os =>
      rw [hos] at h
      exact ⟨os, options_eq_ok.mp hos, Except.ok.inj h ▸ means_ofOptions os⟩
  · rintro ⟨os, hrow, hmeans⟩
    rw [hrow.options_eq, hmeans.eq_ofOptions]
    rfl

theorem read_eq_error : read words = .error f ↔
    ∃ front os back, words = front ++ back ∧ Row front os ∧ Stuck back f := by
  rw [← options_eq_error, read]
  cases options words <;> simp [Except.map]

/-- Options of different kinds do not touch each other. -/
theorem add_comm_of_flag_ne (h : o.flag ≠ p.flag) (a : Arguments) :
    (a.add o).add p = (a.add p).add o := by
  cases o <;> cases p <;> simp [CommandOption.flag] at h <;> rfl

theorem ofOptions_swap (h : o.flag ≠ p.flag) (os rest : List CommandOption) :
    ofOptions (os ++ o :: p :: rest) = ofOptions (os ++ p :: o :: rest) := by
  simp only [ofOptions, List.foldl_append, List.foldl_cons]
  rw [add_comm_of_flag_ne h]

theorem read_swap {group' : List String} (hfront : Row front os) (ho : Group group o)
    (hp : Group group' p) (hne : o.flag ≠ p.flag) (back : List String) :
    read (front ++ (group ++ (group' ++ back))) = read (front ++ (group' ++ (group ++ back))) := by
  simp only [read, hfront.options_append, ho.options_append, hp.options_append]
  cases options back with
  | error f => rfl
  | ok rest => exact congrArg Except.ok (ofOptions_swap hne os rest)

/-! ## Written arguments -/

theorem group_words (o : CommandOption) : Group o.words o := by
  cases o with
  | help => exact .help
  | json => exact .json
  | config path => exact .config path
  | pid n => exact .pid (Text.spellsInteger_toString n)
  | timeout ms => exact .timeout (Text.spellsNatural_toString ms)
  | criterion pair => exact .criterion pair

theorem row_words (os : List CommandOption) : Row (os.flatMap CommandOption.words) os := by
  induction os with
  | nil => exact .nil
  | cons o os ih => exact .cons (group_words o) ih

theorem foldl_add_criteria (pairs : List String) (a : Arguments) :
    (pairs.map CommandOption.criterion).foldl add a =
      { a with criteria := a.criteria ++ pairs } := by
  induction pairs generalizing a with
  | nil => simp
  | cons pair pairs ih => simp [ih, add]

theorem ofOptions_given (a : Arguments) : ofOptions a.given = a := by
  obtain ⟨path, pid, timeout, pairs, json, help⟩ := a
  have hpath : (path.toList.map CommandOption.config).foldl add none =
      ⟨path, .none, .none, [], false, false⟩ := by cases path <;> rfl
  have hpid : (pid.toList.map CommandOption.pid).foldl add ⟨path, .none, .none, [], false, false⟩ =
      ⟨path, pid, .none, [], false, false⟩ := by cases pid <;> rfl
  have htimeout : (timeout.toList.map CommandOption.timeout).foldl add
      ⟨path, pid, .none, [], false, false⟩ = ⟨path, pid, timeout, [], false, false⟩ := by
    cases timeout <;> rfl
  have hjson : (if json then [CommandOption.json] else []).foldl add
      ⟨path, pid, timeout, pairs, false, false⟩ = ⟨path, pid, timeout, pairs, json, false⟩ := by
    cases json <;> rfl
  have hhelp : (if help then [CommandOption.help] else []).foldl add
      ⟨path, pid, timeout, pairs, json, false⟩ = ⟨path, pid, timeout, pairs, json, help⟩ := by
    cases help <;> rfl
  simp only [ofOptions, given, List.foldl_append, hpath, hpid, htimeout, foldl_add_criteria,
    List.nil_append, hjson, hhelp]

theorem read_words (a : Arguments) : read a.words = .ok a := by
  rw [read, words, (row_words a.given).options_eq]
  exact congrArg Except.ok (ofOptions_given a)

/-- Reading takes exactly the rows of groups, and gives what their options mean together. Other
words are refused for the first group that cannot be completed. Written arguments are read back,
and groups of different kinds may change places. -/
theorem read_follows_grammar (words : List String) :
    ((∃ a, read words = .ok a) ↔ ∃ os, Row words os) ∧
    (∀ os, Row words os → ∃ a, read words = .ok a ∧ Means os a) ∧
    (∀ f, read words = .error f ↔
      ∃ front os back, words = front ++ back ∧ Row front os ∧ Stuck back f) ∧
    (∀ a : Arguments, read a.words = .ok a) ∧
    ∀ front group group' back os o p, words = front ++ (group ++ (group' ++ back)) →
      Row front os → Group group o → Group group' p → o.flag ≠ p.flag →
      read (front ++ (group' ++ (group ++ back))) = read words := by
  refine ⟨⟨?_, ?_⟩, ?_, fun f => read_eq_error, read_words, ?_⟩
  · rintro ⟨a, ha⟩
    obtain ⟨os, hrow, -⟩ := read_eq_ok.mp ha
    exact ⟨os, hrow⟩
  · rintro ⟨os, hrow⟩
    exact ⟨ofOptions os, read_eq_ok.mpr ⟨os, hrow, means_ofOptions os⟩⟩
  · intro os hrow
    exact ⟨ofOptions os, read_eq_ok.mpr ⟨os, hrow, means_ofOptions os⟩, means_ofOptions os⟩
  · rintro front group group' back os o p rfl hfront ho hp hne
    exact (read_swap hfront ho hp hne back).symm

/-- A flag is taken as the value of a flag, and the later of two values counts. -/
theorem read_follows_grammar_swapped :
    let a : Arguments := ⟨some "--json", some 0, .none, ["k=v"], false, true⟩
    read ["--config", "--json", "--pid", "+7", "--match", "k=v", "--pid", "-0", "-h"] = .ok a ∧
    read ["--config", "--json", "--match", "k=v", "--pid", "+7", "--pid", "-0", "-h"] = .ok a := by
  intro a
  have hconfig : Group ["--config", "--json"] (.config "--json") := .config "--json"
  have hpid : Group ["--pid", "+7"] (.pid 7) := .pid (Text.readInt32_eq_ok.mp (by decide +kernel))
  have hzero : Group ["--pid", "-0"] (.pid 0) := .pid (Text.readInt32_eq_ok.mp (by decide +kernel))
  have hmatch : Group ["--match", "k=v"] (.criterion "k=v") := .criterion "k=v"
  obtain ⟨-, hrow, -, -, hswap⟩ := read_follows_grammar
    ["--config", "--json", "--pid", "+7", "--match", "k=v", "--pid", "-0", "-h"]
  obtain ⟨b, hb, hmeans⟩ := hrow _
    (.cons hconfig (.cons hpid (.cons hmatch (.cons hzero (.cons .shortHelp .nil)))))
  obtain rfl : b = a := hmeans.eq_ofOptions
  exact ⟨hb, (hswap ["--config", "--json"] _ _ _ _ _ _ rfl (.cons hconfig .nil) hpid hmatch
    (by decide)).trans hb⟩

end Arguments

end OpenUrl
