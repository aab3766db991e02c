/-
  TunnelControl.Session.Watching
  ──────────────────────────────
  **A SESSION AND THOSE WHO WATCH IT.**

  A session shows three views, and anybody may watch one of them.  The session
  writes when it has something to show, others begin to watch or ask for the
  next change, all of it in any order.

    • `View`                           — one of the three,
    • `Display`, `Display.write`       — what a session shows, and how it writes it,
    • `Watching`, `Watching.step`      — the views with their observers,
    • `Watching.published`, `Watching.received` — what was shown, and what of it
                                         an observer got.
-/
import Mathlib.Logic.Function.Basic
import TunnelControl.Session.Coordinator

namespace TunnelControl

/-! ## §1. What is shown. -/

/-- One of the views of a session. -/
inductive View where
  | state
  | peers
  | status
deriving DecidableEq

/-- What a view holds. -/
def View.Value : View → Type
  | state => ConnectionState
  | peers => List Wire.Peer
  | status => Option Wire.Status

/-- What a session shows. -/
structure Display where
  state : Channel ConnectionState
  views : Views

namespace Display

/-- Nothing was shown yet. -/
def initial : Display := ⟨.initial .disconnected, .initial⟩

/-- One of the views. -/
def channel (d : Display) : (v : View) → Channel v.Value
  | .state => d.state
  | .peers => d.views.peers
  | .status => d.views.status

/-- How a session writes its views. -/
inductive Write where
  /-- The state moves, or not. -/
  | publish (next : ConnectionState)
  /-- A snapshot is applied at a time. -/
  | apply (now : Nat) (snapshot : Snapshot)
  | clear

/-- Writes. -/
def write (w : Write) (d : Display) : Display :=
  match w with
  | .publish next => { d with state := d.state.publishIfNew next }
  | .apply now snapshot => { d with views := d.views.apply now snapshot }
  | .clear => { d with views := d.views.clear }

/-- Writes one after the other. -/
def writes (ws : List Write) (d : Display) : Display := ws.foldl (fun d w => d.write w) d

/-- What a write tells those who watch a view, with the number of times that
they were told something. -/
def publication? (v : View) (w : Write) (d : Display) : Option (Nat × v.Value) :=
  let after := (d.write w).channel v
  if after.version = (d.channel v).version then none else some (after.version, after.value)

end Display

/-- What a session shows. -/
def Coordinator.display (c : Coordinator) : Display := ⟨c.state, c.views⟩

/-! ## §2. Observers. -/

/-- Views with their observers, each view's in the order they began. -/
structure Watching where
  display : Display
  observers : (v : View) → List (Subscription v.Value)

namespace Watching

/-- Nothing was shown yet, and nobody watches. -/
def start : Watching := ⟨.initial, fun _ => []⟩

/-- One step of a run. -/
inductive Step where
  | write (w : Display.Write)
  /-- Somebody begins to watch a view. -/
  | subscribe (v : View)
  /-- An observer of a view asks for the next change; the view may have ended by
  then. -/
  | changed (v : View) (observer : Nat) (ended : Bool)

/-- Does the session write? -/
def Step.isWrite : Step → Bool
  | write _ => true
  | _ => false

/-- The latest value of a view. -/
def latest (v : View) (k : Watching) : v.Value := (k.display.channel v).value

/-- The value that an observer got last. -/
def current? (v : View) (i : Nat) (k : Watching) : Option v.Value :=
  (k.observers v)[i]?.map Subscription.current

/-- What an observer gets when it asks for the next change. -/
def answer? (v : View) (i : Nat) (ended : Bool) (k : Watching) : Option (Polled v.Value) :=
  (k.observers v)[i]?.map fun s => (s.changed (k.display.channel v) ended).1

/-- Takes one step. -/
def step (s : Step) (k : Watching) : Watching :=
  match s with
  | .write w => { k with display := k.display.write w }
  | .subscribe v =>
      let all := k.observers v ++ [.of (k.display.channel v)]
      { k with observers := Function.update k.observers v all }
  | .changed v i ended =>
      let all := (k.observers v).modify i fun s => (s.changed (k.display.channel v) ended).2
      { k with observers := Function.update k.observers v all }

/-- Takes steps one after the other. -/
def run (steps : List Step) (k : Watching) : Watching := steps.foldl (fun k s => k.step s) k

/-! ## §3. What was shown and seen. -/

/-- What a step publishes in a view. -/
def published? (v : View) (s : Step) (k : Watching) : Option (Nat × v.Value) :=
  match s with
  | .write w => k.display.publication? v w
  | _ => none

/-- What a run publishes in a view. -/
def published (v : View) : List Step → Watching → List (Nat × v.Value)
  | [], _ => []
  | s :: steps, k => (k.published? v s).toList ++ published v steps (k.step s)

/-- What an observer gets by a step, with the number of the last publication. -/
def received? (v : View) (i : Nat) (s : Step) (k : Watching) : Option (Nat × v.Value) :=
  match s with
  | .changed w j ended =>
      if w = v ∧ j = i then
        match k.answer? v i ended with
        | some (.ready a) => some ((k.display.channel v).version, a)
        | _ => none
      else none
  | _ => none

/-- What an observer gets in a run. -/
def received (v : View) (i : Nat) : List Step → Watching → List (Nat × v.Value)
  | [], _ => []
  | s :: steps, k => (k.received? v i s).toList ++ received v i steps (k.step s)

end Watching

end TunnelControl
