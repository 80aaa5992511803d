import OpenUrl.Log.Notice
import OpenUrl.Text.Integer
import OpenUrl.Text.Word

/-!
# Log filters

A filter is a list of rules, each a threshold for the places that a prefix names. The
rule with the longest fitting prefix decides, the later one among equals; where no rule
fits, nothing is let through. A filter is written as a comma list of a level, which goes
for all places, or of `prefix=level`.
-/
namespace OpenUrl.Log

/-- A threshold for the places that start with a prefix; `none` shuts them off. -/
structure Rule where
  place : List Char
  threshold : Option Level
  deriving DecidableEq, Repr

structure Filter where
  rules : List Rule
  deriving DecidableEq, Repr

namespace Filter

/-- The rule that decides for `target`, given the best of the rules before. -/
def decisive (target : List Char) : Option Rule → List Rule → Option Rule
  | best, [] => best
  | best, r :: rs =>
    let better := r.place.isPrefixOf target &&
      (match best with
        | none => true
        | some b => b.place.length ≤ r.place.length)
    decisive target (if better then some r else best) rs

/-- Whether a notice of the level from the place is let through. -/
def admits (f : Filter) (target : String) (level : Level) : Bool :=
  match decisive target.toList none f.rules with
  | some ⟨_, some threshold⟩ => threshold.admits level
  | _ => false

/-- The same threshold everywhere. -/
def uniform (l : Level) : Filter := ⟨[⟨[], some l⟩]⟩

/-- A threshold by its name in any case, or by its rank; `off` and 0 shut off. -/
def readThreshold (text : String) : Option (Option Level) :=
  match Text.readUInt64 text with
  | .ok 0 => some none
  | .ok 1 => some (some .error)
  | .ok 2 => some (some .warn)
  | .ok 3 => some (some .info)
  | .ok 4 => some (some .debug)
  | .ok 5 => some (some .trace)
  | _ =>
    match Text.lower text with
    | "off" => some none
    | "error" => some (some .error)
    | "warn" => some (some .warn)
    | "info" => some (some .info)
    | "debug" => some (some .debug)
    | "trace" => some (some .trace)
    | _ => none

/-- Whether a rule may start with the character. -/
def startsRule (c : Char) : Bool :=
  Text.isWordChar c || c == '-' || c == ':' || c == '_'

/-- One rule. A prefix alone, or followed by an equals sign alone, lets everything through. -/
def readRule (item : List Char) : Option Rule :=
  match item with
  | [] => none
  | c :: _ =>
    if !startsRule c || item.contains '[' then none
    else
      let place := item.takeWhile (· != '=')
      match item.dropWhile (· != '=') with
      | [] =>
        match readThreshold (String.ofList item) with
        | some t => some ⟨[], t⟩
        | none => some ⟨item, some .trace⟩
      | _ :: [] => some ⟨place, some .trace⟩
      | _ :: level => (readThreshold (String.ofList level)).map (⟨place, ·⟩)

/-- Cut at the commas. -/
def items : List Char → List (List Char)
  | [] => [[]]
  | ',' :: cs => [] :: items cs
  | c :: cs =>
    match items cs with
    | [] => [[c]]
    | i :: is => (c :: i) :: is

/-- The filter that a text describes; empty items do not count, and a text without items
lets errors through. Any item that is no rule makes the whole text no filter. -/
def read (text : String) : Option Filter := do
  let rules ← ((items text.toList).filter (!·.isEmpty)).mapM
    fun i => readRule (Text.trimEnd (Text.trimStart i))
  some (if rules.isEmpty then uniform .error else ⟨rules⟩)

/-- The filter of a run: the one that the environment describes, else the level of the
settings. -/
def ofEnvironment (described : Option String) (settingsLevel : String) : Filter :=
  (described.bind read).getD (uniform (Level.ofSetting settingsLevel))

end Filter

/-- The notices that a filter lets through. -/
def Filter.select (f : Filter) (ns : List Notice) : List Notice :=
  ns.filter fun n => f.admits n.target n.level

end OpenUrl.Log
