import Tenancy.Context.Timeline
import Tenancy.Licensing
import Tenancy.Program.World
import Tenancy.Store

/-!
# Scenes

A scene is a world of its own: stores in memory, collaborators that take their time and may fail, contexts on a timeline,
and components that can be asked for their health. A call that fails, or that its context ends, changes no store.
-/

namespace Tenancy

open Time

/-- A component that can be asked for its health: the service of the license, or a probe that takes some milliseconds and
then crashes, fails or is well. -/
inductive Resource where
  | license (service : Licensing)
  | probe (wait : Nat) (crashes : Bool) (failure : Option Failure)

/-- The state of a scene. -/
structure Scene where
  store : Store := {}
  /-- Counts that are reported instead of those of the store. -/
  counts : Quota → Option Nat := fun _ => none
  /-- The fault that a call fails with. -/
  faults : (c : Call) → Option c.Fault := fun _ => none
  /-- How many milliseconds a call takes. -/
  delays : Call → Nat := fun _ => 0
  timeline : Timeline := {}
  today : Instant
  resources : Component → Resource := fun _ => .probe 0 false none
  /-- The letters that were sent, with their recipients. -/
  sent : List (String × RenderedLetter) := []

namespace Scene

/-- What a call answers once its time has passed. -/
def perform (s : Scene) (c : Call) : Except c.Fault c.Value × Scene :=
  match s.faults c with
  | some fault => (.error fault, s)
  | none =>
    match c with
    | .count quota => (.ok ((s.counts quota).getD (s.store.count quota)), s)
    | .send recipient letter => (.ok (), { s with sent := s.sent ++ [(recipient, letter)] })
    | c =>
      let (r, store) := s.store.answer c
      (r, { s with store })

/-- A call under a context. -/
def answer (s : Scene) (ctx : Context) (c : Call) : Except (Refusal c.Fault) c.Value × Scene :=
  let (race, timeline) := s.timeline.race ctx (s.delays c)
  let s := { s with timeline }
  match race with
  | .refused cause => (.error (.interrupted cause), s)
  | .stopped cause => (.error (.interrupted cause), s)
  | .finished =>
    let (r, s) := s.perform c
    (r.mapError .failed, s)

/-- A call outside any context. -/
def insist (s : Scene) (c : Call) : Except c.Fault c.Value × Scene :=
  ({ s with timeline := s.timeline.advance (s.delays c) } : Scene).perform c

/-- The scene as a world in which no component is asked for its health. -/
def quiet : World Scene where
  time s := s.today
  interruption? s ctx := s.timeline.interruption? ctx
  answer := answer
  insist := insist
  survey s _ _ := ([], [], s)

/-- When a component is done, how it reports, and the notes that it leaves. -/
def ping (s : Scene) (ctx : Context) : Resource → Nat × PingReport × List Note
  | .license service =>
    let o := (service.ping ctx).run quiet s
    (s.timeline.now,
      match o.value with
      | .ok () => .healthy
      | .error e => .failed e.toFailure,
      o.notes)
  | .probe wait crashes failure =>
    let (race, time) := s.timeline.raceEnd ctx wait
    (time,
      match race with
      | .refused cause => .failed (.interruption cause)
      | .stopped cause => .failed (.interruption cause)
      | .finished => if crashes then .crashed else (failure.map .failed).getD .healthy,
      [])

/-- Asks components for their health, all at once. Reports are taken in as they come, those of one moment in the order of
the components; the time of the last report is the time afterwards. -/
def survey (s : Scene) (ctx : Context) (components : List Component) :
    List (Component × PingReport) × List Note × Scene :=
  let pings := components.map fun c => (c, s.ping ctx (s.resources c))
  let inOrder := pings.mergeSort fun a b => a.2.1 ≤ b.2.1
  let last := pings.foldl (fun time p => max time p.2.1) s.timeline.now
  (inOrder.map fun p => (p.1, p.2.2.1), pings.flatMap fun p => p.2.2.2,
    { s with timeline := if last = s.timeline.now then s.timeline else s.timeline.moveTo last })

/-- The scene as a world. -/
def world : World Scene := { quiet with survey := survey }

end Scene

end Tenancy
