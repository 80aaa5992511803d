import OpenUrl.Json.Failure
import OpenUrl.Proofs.Json.Value

/-!
# Failures are read as they were written

A failure is written with its tag first, so the tag tells how its text is read. A cause without
text is written without one.
-/
namespace OpenUrl

/-- A cause either carries nothing, or is made of the text that it is written with. -/
theorem Failure.ofTag?_cases (f : Failure) :
    f.reason? = none ∧ ofTag? f.tag = some (.plain f) ∨
      ∃ build s, build s = f ∧ f.reason? = some s ∧ ofTag? f.tag = some (.worded build) := by
  have htag := f.ofTag?_tag
  cases f with
  | alreadyRunning | alreadyClaimed | channelClosed => exact .inl ⟨rfl, htag⟩
  | registration s | platform s | config s | invalidInput s | timeout s =>
    exact .inr ⟨_, s, rfl, rfl, htag⟩

namespace Json

open OpenUrl.Failure (Form)

variable {after : List Char → Prop} {fuel : Nat} {f : Failure}

theorem reads_readTag {tag : String} {cause : Form} (h : Failure.ofTag? tag = some cause)
    (after : List Char → Prop) : Reads after readTag (renderText tag) cause := by
  refine .look (by decide) (.look (by decide) (.advance ?_))
  refine (reads_textBody tag after).result ?_
  simp only [h]

/-- The name of the tag, or of the text, is not skipped. -/
theorem reads_nextRelevant (first isTag : Bool) (after : List Char → Prop) :
    Reads after (nextRelevant (fuel + 1) first)
      (lead first ++ renderText (if isTag then "type" else "message")) (some isTag) := by
  cases isTag with
  | true => exact (reads_nextName first "type" after).result rfl
  | false => exact (reads_nextName first "message" after).result rfl

theorem reads_nextRelevant_none (first : Bool) :
    Reads ClosesObject (nextRelevant (fuel + 1) first) [] none :=
  (reads_nextName_none first).result rfl

/-- What is read behind a tag that comes first. -/
def readBehindTag (fuel : Nat) (cause : Form) : Reader Failure := do
  match ← nextRelevant fuel false with
  | some true => Reader.unfit (.duplicateField "type")
  | some false =>
    colon
    let f ← readReason cause
    noneRelevant fuel f
  | none =>
    match cause with
    | .plain f => pure f
    | .worded _ => Reader.unfit (.missingField "message")

theorem reads_readTagged {tag : String} {cause : Form} {text : List Char}
    (h : Failure.ofTag? tag = some cause)
    (hbehind : Reads ClosesObject (readBehindTag (fuel + 1) cause) text f) :
    Reads ClosesObject (readTagged (fuel + 1))
      (renderText "type" ++ ':' :: (renderText tag ++ text)) f := by
  have htag := (reads_colon fun _ => True).bind
    (f := fun _ => readTag >>= readBehindTag (fuel + 1))
    ((reads_readTag h fun _ => True).bind hbehind fun _ _ => trivial) fun _ _ => trivial
  exact (reads_nextRelevant true true fun _ => True).bind htag fun _ _ => trivial

theorem reads_readBehindTag_plain :
    Reads ClosesObject (readBehindTag (fuel + 1) (.plain f)) [] f :=
  (reads_nextRelevant_none false).result rfl

theorem reads_readBehindTag_worded (build : String → Failure) (s : String) :
    Reads ClosesObject (readBehindTag (fuel + 1) (.worded build))
      (renderMembers false [("message", .text s)]) (build s) := by
  have hend : Reads ClosesObject (noneRelevant (fuel + 1) (build s)) [] (build s) :=
    (reads_nextRelevant_none false).result rfl
  have hreason : Reads ClosesObject (readReason (.worded build) >>= noneRelevant (fuel + 1))
      (render (.text s) ++ []) (build s) :=
    ((reads_readText s fun _ => True).map build).bind hend fun _ _ => trivial
  have hcolon := (reads_colon fun _ => True).bind
    (f := fun _ => readReason (.worded build) >>= noneRelevant (fuel + 1)) hreason
    fun _ _ => trivial
  exact (reads_nextRelevant false false fun _ => True).bind hcolon fun _ _ => trivial

theorem reads_readFailure (f : Failure) : Reads Ends readFailure (render f.toJson) f := by
  have hobject : ∃ fields, f.toJson = .object fields ∧
      ∀ fuel, Reads ClosesObject (readTagged (fuel + 1)) (renderMembers true fields) f := by
    rcases f.ofTag?_cases with ⟨hreason, htag⟩ | ⟨build, s, hbuild, hreason, htag⟩
    · refine ⟨[("type", .text f.tag)], by rw [Failure.toJson, hreason], fun fuel => ?_⟩
      exact reads_readTagged htag reads_readBehindTag_plain
    · refine ⟨[("type", .text f.tag), ("message", .text s)], by rw [Failure.toJson, hreason],
        fun fuel => ?_⟩
      rw [← hbuild] at htag ⊢
      exact reads_readTagged htag (reads_readBehindTag_worded build s)
  obtain ⟨fields, hfields, htagged⟩ := hobject
  have hbody : Reads ClosesObject (fun c => readTagged (c.rest.length + 1) c)
      (renderMembers true fields) f :=
    fun rest hrest o => htagged _ rest hrest o
  rw [hfields, render, renderFields_eq]
  exact .look (by decide) (.advance (hbody.enclosed (fun rest o => ⟨_, closeObject_eq rest o⟩)
    fun _ => rfl))

end Json

theorem Failure.plain_toJson (f : Failure) : f.toJson.Plain 1 := by
  refine .object ?_
  cases f.reason? with
  | none => simpa using .text f.tag
  | some s => simpa using ⟨.text f.tag, .text s⟩

/-- A failure is read back from what is written of it. -/
theorem Failure.ofJson_toJson (f : Failure) : ofJson f.toJson.compact = .ok f := by
  have hread := Json.readAll_eq (Json.reads_readFailure f) [] (by simp)
  rwa [List.append_nil] at hread

end OpenUrl
