import OpenUrl.Application
import OpenUrl.Desktop.AppleEvent
import OpenUrl.Gate
import OpenUrl.Slot

/-!
# A desktop process

One process on a desktop system: the slot, the bridges, and the part of the system that it
meets. The system is a script. It says which running applications there are, what happens
while the process is launched, and what each look at the event queue brings.
-/
namespace OpenUrl.Desktop

open OpenUrl.Log (Notice)

/-- The address of a link; a link need not have one. -/
structure Link where
  address : Option String
  deriving DecidableEq, Repr

/-- What the system knows about a running application. -/
structure RunningApplication where
  localizedName : Option String
  bundleIdentifier : Option String
  bundleUrl : Option Link
  executableUrl : Option Link
  deriving DecidableEq, Repr

/-- The description of a running application; what is not known is empty. -/
def RunningApplication.describe (a : RunningApplication) : Application :=
  let text (s : Option String) := s.getD ""
  let address (l : Option Link) := text (l.bind Link.address)
  ⟨text a.localizedName, text a.bundleIdentifier, address a.bundleUrl, address a.executableUrl⟩

/-- What happens while the process is launched. -/
inductive LaunchAction
  | deliver (e : AppleEvent)
  /-- Somebody stops the bridge. -/
  | stop
  deriving DecidableEq, Repr

/-- What one look at the event queue brings. -/
inductive Action
  /-- An event of no interest, to be sent on to the application. -/
  | ordinary (name : String)
  /-- An Apple Event, delivered during the look. -/
  | deliver (e : AppleEvent)
  /-- An Apple Event, delivered when it is sent on to the application. -/
  | deferred (e : AppleEvent)
  /-- Several Apple Events, delivered during the look. -/
  | batch (es : List AppleEvent)
  | idle
  /-- Somebody stops the bridge. -/
  | stop
  deriving DecidableEq, Repr

/-- What the system is asked for and does. -/
inductive Note
  | install (eventClass identifier selector : String)
  | remove (eventClass identifier : String)
  /-- The handler object is freed. -/
  | dealloc
  | finishLaunching
  /-- A look at the event queue, which may last so many milliseconds. -/
  | next (wait : UInt64)
  /-- A look after the end of the script. -/
  | exhausted
  | sendEvent (name : Option String)
  | deliver (eventClass identifier : String)
  | unhandled (eventClass identifier : String)
  deriving DecidableEq, Repr

/-- What a look after the end of the script brings. -/
inductive ScriptEnd
  /-- Somebody stops the bridge. -/
  | stops
  /-- Nothing, ever. -/
  | idles
  deriving DecidableEq, Repr

/-- Launching happens once in a process. After a panic in it, it can never be finished. -/
inductive Launching
  | notYet
  | done
  | poisoned
  deriving DecidableEq, Repr

/-- What the system is set to at a start. -/
structure Setting where
  managerThere : Bool
  launchActions : List LaunchAction
  script : List Action
  /-- The running applications, unless they stay as they were. -/
  apps : Option (List (Int32 × RunningApplication))
  deriving DecidableEq, Repr

structure Bridge where
  gate : Gate
  pollInterval : UInt64
  /-- The guard of its claim on the slot. -/
  claim : Nat
  /-- Not dropped yet. -/
  alive : Bool
  deriving DecidableEq, Repr

structure State where
  slot : Slot
  bridges : List Bridge
  launching : Launching
  /-- Whether the event manager can be had. -/
  managerThere : Bool
  /-- The bridges registered for a class and an identifier. -/
  handlers : List ((String × String) × Nat)
  apps : List (Int32 × RunningApplication)
  launchActions : List LaunchAction
  script : List Action
  scriptEnd : ScriptEnd
  deriving DecidableEq, Repr

/-- A time span as diagnostic pictures show it: in milliseconds below a second, else in
seconds with the decimals it needs. -/
def spanPicture (ms : UInt64) : String :=
  let n := ms.toNat
  if n = 0 then "0ns"
  else if n < 1000 then toString n ++ "ms"
  else
    let decimals := (toString (1000 + n % 1000)).toList.drop 1
    let needed := (decimals.reverse.dropWhile (· == '0')).reverse
    toString (n / 1000) ++ (if needed.isEmpty then "" else "." ++ String.ofList needed) ++ "s"

/-- A diagnostic picture of the bridge. -/
def Bridge.picture (b : Bridge) : String :=
  "AppleEventUrlBridge \x7b state: " ++ b.gate.lifecycle.phase.name ++ ", poll_interval: " ++
    spanPicture b.pollInterval ++ ", .. \x7d"

namespace State

/-- Whether events can be received. -/
def isSupported : Bool := true

/-- A process that has done nothing, with a script that has ended. -/
def fresh (scriptEnd : ScriptEnd) : State :=
  ⟨.free, [], .notYet, true, [], [], [], [], scriptEnd⟩

/-- Set the system. -/
def set (p : State) (t : Setting) : State :=
  { p with
    managerThere := t.managerThere
    launchActions := t.launchActions
    script := t.script
    apps := t.apps.getD p.apps }

/-- The application that owns a process. -/
def lookup (p : State) (pid : Int32) : Application × List Notice :=
  match p.apps.find? fun a => a.1 == pid with
  | none => (Application.none, [.lookupMissed pid])
  | some (_, a) => (a.describe, [.lookupFound pid a.describe.bundleIdentifier])

def gate? (p : State) (b : Nat) : Option Gate := p.bridges[b]?.map Bridge.gate

def setGate (p : State) (b : Nat) (g : Gate) : State :=
  { p with bridges := p.bridges.modify b fun x => { x with gate := g } }

/-- Make a bridge, which claims the slot. -/
def newBridge (p : State) (pollInterval : UInt64) : Outcome Nat × State × List Notice :=
  match p.slot.claim with
  | (.error f, slot, notices) => (.error f, { p with slot := slot }, notices)
  | (.ok guard, slot, notices) =>
    (.ok p.bridges.length,
      { p with slot := slot, bridges := p.bridges ++ [⟨.fresh, pollInterval, guard, true⟩] },
      notices)

/-- Drop a bridge, which frees the slot. The answer tells whether it was there. -/
def dropBridge (p : State) (b : Nat) : Bool × State × List Notice :=
  match p.bridges[b]? with
  | some x =>
    if x.alive then
      let (_, slot, notices) := p.slot.drop x.claim
      (true,
        { p with
          slot := slot
          bridges := p.bridges.modify b fun x => { x with alive := false } },
        notices)
    else (false, p, [])
  | none => (false, p, [])

/-- Whether a bridge holds a guard of the slot. -/
def holds (p : State) (guard : Nat) : Bool := p.bridges.any fun x => x.alive && x.claim == guard

/-- What others than the bridges do to the slot: they claim it, or drop a guard that no
bridge holds. -/
def slotStep? (p : State) (m : Slot.Move) : Option (State × List Notice) :=
  let (slot, notices) := p.slot.step m
  match m with
  | .claim => some ({ p with slot := slot }, notices)
  | .drop g => if p.holds g then none else some ({ p with slot := slot }, notices)

/-- Change the lifecycle of a bridge. -/
def live (p : State) (b : Nat) (m : Lifecycle.Move) : State × List Notice :=
  match p.gate? b with
  | some g =>
    let (g, notices) := g.live m
    (p.setGate b g, notices)
  | none => (p, [])

/-- Ask a bridge to stop, through a handle on any thread. The answer tells whether it was
running. -/
def stop (p : State) (b : Nat) : Bool × State × List Notice :=
  let stopped := match p.gate? b with
    | some g => g.lifecycle.phase.requestStop.1
    | none => false
  let (p, notices) := p.live b .requestStop
  (stopped, p, notices)

/-- Whether a bridge is delivering events. -/
def isRunning (p : State) (b : Nat) : Bool :=
  match p.gate? b with
  | some g => g.lifecycle.isRunning
  | none => false

/-- Whether a bridge has been asked to stop. -/
def stopRequested (p : State) (b : Nat) : Bool :=
  match p.gate? b with
  | some g => g.lifecycle.stopRequested
  | none => false

/-- The bridge registered for the class and identifier of an Apple Event. -/
def handler? (p : State) (e : AppleEvent) : Option Nat :=
  (p.handlers.find? fun h => h.1 == (e.eventClass, e.identifier)).map Prod.snd

/-- Nobody is registered for open-URL events any more. -/
def unregister (p : State) : State :=
  { p with handlers := p.handlers.filter fun h => h.1 != (openUrlCode, openUrlCode) }

/-- Register a bridge for open-URL events; one registered before is replaced. -/
def register (p : State) (b : Nat) : State :=
  { p with handlers := ((openUrlCode, openUrlCode), b) :: p.unregister.handlers }

end State

end OpenUrl.Desktop
