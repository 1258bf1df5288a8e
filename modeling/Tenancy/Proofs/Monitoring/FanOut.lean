import Mathlib.Algebra.Order.BigOperators.Group.List
import Mathlib.Algebra.GroupWithZero.Nat
import Mathlib.Algebra.Order.Group.Nat
import Tenancy.Proofs.Monitoring.Survey

/-!
# Asking all components at once

Each component is pinged by a worker of its own. A worker whose ping fails hands in the failure and then notes the component as
unhealthy; one whose ping succeeds notes it as healthy; one that crashes does neither, and its crash is handed in when it is
joined. Of the failures that are handed in, the first is kept. The workers run side by side, so their moves come in any order
(`FanOut.run`). As long as some are not joined, a move can be made, and each move leaves fewer to be made. When all are joined,
what has been heard is what their reports say, in the order in which they were taken in (`FanOut.taken`).
-/

namespace Tenancy

/-- How far the worker of a component has come. -/
inductive Stage where
  | pinging
  | pinged
  /-- The failure of the ping has been handed in. -/
  | sent
  /-- The status of the component has been noted. -/
  | noted
  | joined
deriving DecidableEq

/-- How a ping has ended when its worker has come to a stage. -/
def Stage.Fits : Stage → PingReport → Prop
  | sent, report => ∃ cause, report = .failed cause
  | noted, report => report ≠ .crashed
  | _, _ => True

/-- How many moves the worker of a component still makes, at most. -/
def Stage.rank : Stage → Nat
  | .pinging => 4
  | .pinged => 3
  | .sent => 2
  | .noted => 1
  | .joined => 0

/-- A move of the worker of a component, or of the one who joins it. -/
inductive Move where
  | ping (component : Component)
  | send (component : Component)
  | note (component : Component)
  | join (component : Component)

/-- Workers on their way, and what has been heard so far. -/
structure FanOut where
  stages : Component → Stage
  survey : Survey

namespace FanOut

/-- All components are being pinged. -/
def start (components : List Component) : FanOut :=
  ⟨fun c => if c ∈ components then .pinging else .joined, Survey.start components⟩

/-- The worker of a component comes to a stage. -/
def advance (f : FanOut) (component : Component) (stage : Stage) (survey : Survey) : FanOut :=
  ⟨Function.update f.stages component stage, survey⟩

/-- What a move leads to when the pings end as they do; nothing when it cannot be made. -/
def step (outcome : Component → PingReport) (f : FanOut) : Move → Option FanOut
  | .ping c =>
    match f.stages c with
    | .pinging => some (f.advance c .pinged f.survey)
    | _ => none
  | .send c =>
    match f.stages c, outcome c with
    | .pinged, .failed cause => some (f.advance c .sent (f.survey.keep cause))
    | _, _ => none
  | .note c =>
    match f.stages c, outcome c with
    | .pinged, .healthy => some (f.advance c .noted (f.survey.set c .healthy))
    | .sent, _ => some (f.advance c .noted (f.survey.set c .unhealthy))
    | _, _ => none
  | .join c =>
    match f.stages c, outcome c with
    | .noted, _ => some (f.advance c .joined f.survey)
    | .pinged, .crashed => some (f.advance c .joined (f.survey.keep .crashed))
    | _, _ => none

/-- What some moves lead to, one after the other. -/
def run (outcome : Component → PingReport) : FanOut → List Move → Option FanOut
  | f, [] => some f
  | f, m :: rest => (f.step outcome m).bind fun f' => f'.run outcome rest

/-- The report that is taken in by a move. -/
def report? (outcome : Component → PingReport) : Move → Option (Component × PingReport)
  | .ping _ => none
  | .send c => some (c, outcome c)
  | .note c => if outcome c = .healthy then some (c, outcome c) else none
  | .join c => if outcome c = .crashed then some (c, outcome c) else none

/-- The reports that are taken in by some moves, in order. -/
def taken (outcome : Component → PingReport) (moves : List Move) : List (Component × PingReport) :=
  moves.filterMap (report? outcome)

/-- All workers have been joined. -/
def Done (components : List Component) (f : FanOut) : Prop := ∀ c ∈ components, f.stages c = .joined

instance (components : List Component) (f : FanOut) : Decidable (f.Done components) :=
  inferInstanceAs (Decidable (∀ c ∈ components, _))

/-- The status of a component that has been noted. -/
def shown (outcome : Component → PingReport) (f : FanOut) (c : Component) : HealthStatus :=
  if f.stages c = .noted ∨ f.stages c = .joined then (outcome c).status else .unknown

/-- What is known of workers on their way once some reports have been taken in. -/
structure Traced (components : List Component) (outcome : Component → PingReport) (reports : List (Component × PingReport))
    (f : FanOut) : Prop where
  working : ∀ c, f.stages c ≠ .joined → c ∈ components
  fits : ∀ c, (f.stages c).Fits (outcome c)
  faithful : ∀ r ∈ reports, r.1 ∈ components ∧ r.2 = outcome r.1
  recorded : ∀ c ∈ components, f.stages c ≠ .pinging → f.stages c ≠ .pinged → (c, outcome c) ∈ reports
  survey : f.survey = Survey.ofStatus components (f.shown outcome) (Survey.firstCause? reports)

section

variable {components : List Component} {outcome : Component → PingReport} {reports : List (Component × PingReport)}
  {f f' : FanOut}

theorem traced_start : Traced components outcome [] (start components) where
  working c hc := by
    by_contra h
    exact hc (if_neg h)
  fits c := by by_cases h : c ∈ components <;> simp [start, h, Stage.Fits]
  faithful := by simp
  recorded c hc hpinging := absurd (if_pos hc) hpinging
  survey := by
    change Survey.ofStatus components (fun _ => .unknown) none = Survey.ofStatus components _ none
    exact Survey.ofStatus_congr fun c hc => by simp [shown, start, hc]

@[simp] theorem advance_stages_self (f : FanOut) (c : Component) (stage : Stage) (survey : Survey) :
    (f.advance c stage survey).stages c = stage := Function.update_self ..

/-- The other workers stay at their stages. -/
theorem advance_stages_of_ne {c c' : Component} (h : c' ≠ c) (f : FanOut) (stage : Stage) (survey : Survey) :
    (f.advance c stage survey).stages c' = f.stages c' := Function.update_of_ne h ..

/-- A worker that comes to a stage shows the status of its component exactly when it has noted it. -/
theorem shown_advance (c : Component) (stage : Stage) (survey : Survey) : (f.advance c stage survey).shown outcome =
    Function.update (f.shown outcome) c (if stage = .noted ∨ stage = .joined then (outcome c).status else .unknown) := by
  funext c'
  by_cases h : c' = c
  · subst h
    simp [shown]
  · simp [shown, advance_stages_of_ne h, h]

/-- One worker comes to its next stage, and its report may be taken in. -/
theorem Traced.advance (h : Traced components outcome reports f) {c : Component} {stage : Stage} {survey : Survey}
    {added : List (Component × PingReport)} (hc : f.stages c ≠ .joined)
    (hfits : stage.Fits (outcome c)) (hadded : ∀ r ∈ added, r = (c, outcome c))
    (htaken : stage ≠ .pinging → stage ≠ .pinged → (c, outcome c) ∈ reports ++ added)
    (hsurvey : survey = Survey.ofStatus components ((f.advance c stage survey).shown outcome)
      (Survey.firstCause? (reports ++ added))) :
    Traced components outcome (reports ++ added) (f.advance c stage survey) where
  working c' hc' := by
    by_cases hsame : c' = c
    · exact hsame ▸ h.working c hc
    · rw [advance_stages_of_ne hsame] at hc'
      exact h.working c' hc'
  fits c' := by
    by_cases hsame : c' = c
    · subst hsame
      rwa [advance_stages_self]
    · rw [advance_stages_of_ne hsame]
      exact h.fits c'
  faithful r hr := by
    rcases List.mem_append.mp hr with hr | hr
    · exact h.faithful r hr
    · rw [hadded r hr]
      exact ⟨h.working c hc, rfl⟩
  recorded c' hc' hpinging hpinged := by
    by_cases hsame : c' = c
    · subst hsame
      rw [advance_stages_self] at hpinging hpinged
      exact htaken hpinging hpinged
    · rw [advance_stages_of_ne hsame] at hpinging hpinged
      exact List.mem_append_left _ (h.recorded c' hc' hpinging hpinged)
  survey := hsurvey

/-- A component whose status is not noted yet may go on without one. -/
theorem update_shown {c : Component} (hc : f.stages c ≠ .noted) (hc' : f.stages c ≠ .joined) :
    Function.update (f.shown outcome) c .unknown = f.shown outcome :=
  Function.update_eq_self_iff.mpr (by simp [shown, hc, hc'])

/-- What a move does when it can be made. -/
inductive Made (outcome : Component → PingReport) (f : FanOut) : Move → FanOut → Prop where
  | pinged (c) (hstage : f.stages c = .pinging) : Made outcome f (.ping c) (f.advance c .pinged f.survey)
  | sent (c cause) (hstage : f.stages c = .pinged) (hreport : outcome c = .failed cause) :
    Made outcome f (.send c) (f.advance c .sent (f.survey.keep cause))
  | cleared (c) (hstage : f.stages c = .pinged) (hreport : outcome c = .healthy) :
    Made outcome f (.note c) (f.advance c .noted (f.survey.set c .healthy))
  | noted (c) (hstage : f.stages c = .sent) : Made outcome f (.note c) (f.advance c .noted (f.survey.set c .unhealthy))
  | joined (c) (hstage : f.stages c = .noted) : Made outcome f (.join c) (f.advance c .joined f.survey)
  /-- A worker that crashed is joined without a status. -/
  | lost (c) (hstage : f.stages c = .pinged) (hreport : outcome c = .crashed) :
    Made outcome f (.join c) (f.advance c .joined (f.survey.keep .crashed))

/-- A move that can be made does one of these. -/
theorem made_of_step {m : Move} (h : f.step outcome m = some f') : Made outcome f m f' := by
  cases m with
  | ping c =>
    simp only [step] at h
    split at h
    · next hstage => exact Option.some.inj h ▸ .pinged c hstage
    · cases h
  | send c =>
    simp only [step] at h
    split at h
    · next cause hstage hreport => exact Option.some.inj h ▸ .sent c cause hstage hreport
    · cases h
  | note c =>
    simp only [step] at h
    split at h
    · next hstage hreport => exact Option.some.inj h ▸ .cleared c hstage hreport
    · next hstage => exact Option.some.inj h ▸ .noted c hstage
    · cases h
  | join c =>
    simp only [step] at h
    split at h
    · next hstage => exact Option.some.inj h ▸ .joined c hstage
    · next hstage hreport => exact Option.some.inj h ▸ .lost c hstage hreport
    · cases h

/-- A move takes in its report, if any. -/
theorem Traced.step (h : Traced components outcome reports f) {m : Move} (hmade : Made outcome f m f') :
    Traced components outcome (reports ++ (report? outcome m).toList) f' := by
  cases hmade with
  | pinged c hstage =>
    refine h.advance (by simp [hstage]) trivial (by simp [report?]) (fun _ hpinged => absurd rfl hpinged) ?_
    rw [h.survey, shown_advance]
    simp [report?, update_shown, hstage]
  | sent c cause hstage hreport =>
    refine h.advance (by simp [hstage]) ⟨cause, hreport⟩ (by simp [report?]) (by simp [report?]) ?_
    rw [h.survey, shown_advance, Survey.keep_ofStatus]
    simp [report?, update_shown, hstage, Survey.firstCause?_append, hreport, PingReport.cause?]
  | cleared c hstage hreport =>
    refine h.advance (by simp [hstage]) (by simp [Stage.Fits, hreport]) (by simp [report?, hreport])
      (by simp [report?, hreport]) ?_
    rw [h.survey, shown_advance, Survey.set_ofStatus]
    simp [report?, hreport, Survey.firstCause?_append, PingReport.cause?, PingReport.status]
  | noted c hstage =>
    -- the report has been taken in when its failure was handed in
    have hrecorded := h.recorded c (h.working c (by simp [hstage])) (by simp [hstage]) (by simp [hstage])
    obtain ⟨cause, hreport⟩ : ∃ cause, outcome c = .failed cause := by simpa [hstage, Stage.Fits] using h.fits c
    refine h.advance (by simp [hstage]) (by simp [Stage.Fits, hreport]) (by simp [report?, hreport])
      (fun _ _ => List.mem_append_left _ hrecorded) ?_
    rw [h.survey, shown_advance, Survey.set_ofStatus]
    simp [report?, hreport, PingReport.status]
  | joined c hstage =>
    have hrecorded := h.recorded c (h.working c (by simp [hstage])) (by simp [hstage]) (by simp [hstage])
    have hreport : outcome c ≠ .crashed := by simpa [hstage, Stage.Fits] using h.fits c
    refine h.advance (by simp [hstage]) trivial (by simp [report?, hreport])
      (fun _ _ => List.mem_append_left _ hrecorded) ?_
    have hsame : Function.update (f.shown outcome) c (outcome c).status = f.shown outcome :=
      Function.update_eq_self_iff.mpr (by simp [shown, hstage])
    rw [h.survey, shown_advance]
    simp [report?, hreport, hsame]
  | lost c hstage hreport =>
    refine h.advance (by simp [hstage]) trivial (by simp [report?, hreport]) (by simp [report?, hreport]) ?_
    rw [h.survey, shown_advance, Survey.keep_ofStatus]
    simp [report?, hreport, update_shown, hstage, Survey.firstCause?_append, PingReport.cause?, PingReport.status]

/-- So do moves one after the other. -/
theorem Traced.run (h : Traced components outcome reports f) {moves : List Move} (hrun : f.run outcome moves = some f') :
    Traced components outcome (reports ++ FanOut.taken outcome moves) f' := by
  induction moves generalizing f reports with
  | nil =>
    obtain rfl := Option.some.inj hrun
    simpa [FanOut.taken] using h
  | cons m rest ih =>
    obtain ⟨f₁, hstep, hrest⟩ := Option.bind_eq_some_iff.mp hrun
    have htaken : FanOut.taken outcome (m :: rest) = (report? outcome m).toList ++ FanOut.taken outcome rest := by
      cases hm : report? outcome m <;> simp [FanOut.taken, hm]
    rw [htaken, ← List.append_assoc]
    exact ih (h.step (made_of_step hstep)) hrest

/-! ## Progress -/

/-- How many moves are still made, at most. -/
def remaining (components : List Component) (f : FanOut) : Nat := (components.map fun c => (f.stages c).rank).sum

/-- A move takes the worker of a component on. -/
theorem Made.advances {m : Move} (h : Made outcome f m f') :
    ∃ c stage survey, f' = f.advance c stage survey ∧ stage.rank < (f.stages c).rank := by
  cases h with
  | pinged c hstage => exact ⟨c, .pinged, _, rfl, by simp [hstage, Stage.rank]⟩
  | sent c cause hstage => exact ⟨c, .sent, _, rfl, by simp [hstage, Stage.rank]⟩
  | cleared c hstage => exact ⟨c, .noted, _, rfl, by simp [hstage, Stage.rank]⟩
  | noted c hstage => exact ⟨c, .noted, _, rfl, by simp [hstage, Stage.rank]⟩
  | joined c hstage => exact ⟨c, .joined, _, rfl, by simp [hstage, Stage.rank]⟩
  | lost c hstage => exact ⟨c, .joined, _, rfl, by simp [hstage, Stage.rank]⟩

/-- With each move, fewer remain. -/
theorem Traced.remaining_lt (h : Traced components outcome reports f) {m : Move} (hmade : Made outcome f m f') :
    remaining components f' < remaining components f := by
  obtain ⟨c, stage, survey, rfl, hrank⟩ := hmade.advances
  have hc : c ∈ components := h.working c fun hjoined => by simp [hjoined, Stage.rank] at hrank
  refine List.sum_lt_sum _ _ (fun c' _ => ?_) ⟨c, hc, by rwa [advance_stages_self]⟩
  by_cases hsame : c' = c
  · subst hsame
    rw [advance_stages_self]
    exact hrank.le
  · rw [advance_stages_of_ne hsame]

/-- While a worker is not joined, a move can be made. -/
theorem progress (outcome : Component → PingReport) (hdone : ¬ f.Done components) : ∃ m f', f.step outcome m = some f' := by
  obtain ⟨c, hc, hstage⟩ : ∃ c ∈ components, f.stages c ≠ .joined := by simpa [Done] using hdone
  cases hc' : f.stages c with
  | pinging => exact ⟨.ping c, by simp [step, hc']⟩
  | pinged =>
    cases hreport : outcome c with
    | healthy => exact ⟨.note c, by simp [step, hc', hreport]⟩
    | failed cause => exact ⟨.send c, by simp [step, hc', hreport]⟩
    | crashed => exact ⟨.join c, by simp [step, hc', hreport]⟩
  | sent => exact ⟨.note c, by simp [step, hc']⟩
  | noted => exact ⟨.join c, by simp [step, hc']⟩
  | joined => exact absurd hc' hstage

/-- From wherever they are, the workers can be brought to their end. -/
theorem Traced.complete (h : Traced components outcome reports f) :
    ∃ rest f', f.run outcome rest = some f' ∧ f'.Done components := by
  induction hn : remaining components f using Nat.strongRecOn generalizing f reports with
  | ind n ih =>
    by_cases hdone : f.Done components
    · exact ⟨[], f, rfl, hdone⟩
    · obtain ⟨m, f₁, hstep⟩ := progress outcome hdone
      have hmade := made_of_step hstep
      obtain ⟨rest, f', hrun, hdone'⟩ := ih _ (hn ▸ h.remaining_lt hmade) (h.step hmade) rfl
      exact ⟨m :: rest, f', by simp [FanOut.run, hstep, hrun], hdone'⟩

/-- No schedule has more moves than remain at first. -/
theorem Traced.length_le (h : Traced components outcome reports f) {moves : List Move} (hrun : f.run outcome moves = some f') :
    moves.length + remaining components f' ≤ remaining components f := by
  induction moves generalizing f reports with
  | nil =>
    obtain rfl := Option.some.inj hrun
    simp
  | cons m rest ih =>
    obtain ⟨f₁, hstep, hrest⟩ := Option.bind_eq_some_iff.mp hrun
    have hmade := made_of_step hstep
    have hlt := h.remaining_lt hmade
    have hle := ih (h.step hmade) hrest
    rw [List.length_cons]
    omega

/-- At the start each worker has four moves before it. -/
theorem remaining_start : remaining components (start components) = 4 * components.length := by
  have hrank : ∀ c ∈ components, ((start components).stages c).rank = 4 := fun c hc => by simp [start, hc, Stage.rank]
  rw [remaining, List.map_congr_left hrank]
  simp [Nat.mul_comm]

/-- Moves can be made in two goes. -/
theorem run_append (f : FanOut) (moves rest : List Move) :
    f.run outcome (moves ++ rest) = (f.run outcome moves).bind fun f' => f'.run outcome rest := by
  induction moves generalizing f with
  | nil => rfl
  | cons m moves ih =>
    simp only [List.cons_append, run, Option.bind_assoc]
    congr 1
    funext f'
    exact ih f'

/-- When all workers are joined, what has been heard is what the reports say. -/
theorem Traced.survey_eq (h : Traced components outcome reports f) (hdone : f.Done components) :
    f.survey = reports.foldl Survey.take (Survey.start components) := by
  rw [h.survey, Survey.foldl_take fun r hr => (h.faithful r hr).2]
  refine Survey.ofStatus_congr fun c hc => ?_
  have hrecorded := h.recorded c hc (by simp [hdone c hc]) (by simp [hdone c hc])
  rw [Survey.noted_of_mem hrecorded]
  simp [shown, hdone c hc]

end

end FanOut

end Tenancy
