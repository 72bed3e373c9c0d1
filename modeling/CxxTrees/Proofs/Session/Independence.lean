import CxxTrees.Proofs.Session.Reports

/-!
# What requests depend on

A type is built from the tables alone: what was asked for before and the options have no
part in it. Of the options only one is read on the way to an answer, whether callees are
followed; the others choose from the reports when these are recorded.
-/

namespace CxxTrees

/-! ### Types -/

theorem Frontend.answer_type (fe : Frontend) (options : Options) (site : Site) :
    fe.answer options (.type site) = Run.ofBuild (do return Answer.type (← fe.typeAt site)) :=
  Run.bind_ofBuild (typeIn_run site) fun t => Run.pure_ofBuild (Answer.type t)

namespace Session

/-- A request for a type comes to what the type is for itself, and notes the events of that. -/
theorem ask_type (s : Session) (site : Site) :
    s.ask (.type site) = ((s.frontend.typeAt site).outcome.map .type,
      { s with state := s.state.noteAll (s.frontend.typeAt site).events }) := by
  unfold ask
  rw [Frontend.answer_type, Run.run_ofBuild]
  cases outcome : (s.frontend.typeAt site).outcome with
  | ok t =>
    rw [Build.bind_of_ok outcome]
    simp [Build.pure_eq, Except.map]
  | error stop =>
    rw [Build.bind_of_error outcome]
    rfl

/-- Whatever was asked for before, a type comes out as it does in a session that is asked for
nothing else, under any options. The graph is left as it is. What is recorded stays, and behind
it come those of the reports that the flags let through. -/
theorem ask_type_alone (s : Session) (site : Site) (options : Options) :
    let run := s.ask (.type site)
    let alone := (start s.frontend options).ask (.type site)
    run.1 = alone.1 ∧ run.2.graph = s.graph ∧
      run.2.diagnostics = s.diagnostics ++ if s.state.engine.quiet then [] else
        (alone.2.state.reports.filter fun r =>
            s.state.engine.verbose || r.severity != .debug).map
          (Report.recorded s.state.engine.warningsAsErrors) := by
  intro run alone
  have run_eq : run = _ := ask_type s site
  have alone_eq : alone = _ := ask_type (start s.frontend options) site
  rw [run_eq, alone_eq]
  refine ⟨rfl, RunState.graph_noteAll, ?_⟩
  have reports : ((start s.frontend options).state.noteAll
      (s.frontend.typeAt site).events).reports =
      (s.frontend.typeAt site).events.filterMap Event.report? := by
    rw [RunState.reports, RunState.events_noteAll]
    rfl
  show (s.state.noteAll _).engine.diagnostics = s.state.engine.diagnostics ++ _
  rw [RunState.engine_noteAll, DiagnosticEngine.diagnostics_foldl]
  exact congrArg _ (by rw [← reports]; rfl)

end Session

/-! ### Options -/

namespace Frontend
variable {fe : Frontend} {o o' : Options}

theorem callWith_congr (follow : o.followCallees = o'.followCallees) (collect : Cursor → Run Unit)
    (scope : CallScope) (facts : CursorFacts) :
    fe.callWith o collect scope facts = fe.callWith o' collect scope facts := by
  simp only [callWith, follow]

theorem expressionWith_congr (follow : o.followCallees = o'.followCallees)
    (collect : Cursor → Run Unit) (scope : CallScope) (c : Cursor) :
    fe.expressionWith o collect scope c = fe.expressionWith o' collect scope c := by
  simp only [expressionWith, callWith_congr follow]

theorem recordWith_congr (follow : o.followCallees = o'.followCallees)
    (collect : Cursor → Run Unit) (scope : CallScope) (f : EntityId) :
    fe.recordWith o collect scope f = fe.recordWith o' collect scope f := by
  funext c
  simp only [recordWith, expressionWith_congr follow]

theorem collectWithin_congr (follow : o.followCallees = o'.followCallees) (limit : Nat) :
    fe.collectWithin o limit = fe.collectWithin o' limit := by
  induction limit with
  | zero => rfl
  | succ limit ih =>
    funext c
    simp only [collectWithin, ih, recordWith_congr follow]

theorem answer_congr (follow : o.followCallees = o'.followCallees) (request : Request) :
    fe.answer o request = fe.answer o' request := by
  have collect : fe.collect o = fe.collect o' := collectWithin_congr follow fe.bodyLimit
  cases request with
  | type site => rfl
  | expression scope c =>
    simp only [answer, expressionAt, expressionWith_congr follow, collect]
  | calls c => simp only [answer, callsOf, collect]

end Frontend

namespace Session
variable {s s' : Session}

/-- Two sessions that differ in nothing that an answer depends on, and have made the same
reports. Their engines may have other flags, and have recorded other things. -/
structure Alike (s s' : Session) : Prop where
  frontend : s.frontend = s'.frontend
  follow : s.options.followCallees = s'.options.followCallees
  graph : s.graph = s'.graph
  reports : s.state.reports = s'.state.reports

theorem ask_alike (alike : s.Alike s') (request : Request) :
    (s.ask request).1 = (s'.ask request).1 ∧ (s.ask request).2.Alike (s'.ask request).2 := by
  obtain ⟨course, run⟩ := s.frontend.answer_graphOnly s.options request
  have run' := run s'.state
  rw [alike.frontend, Frontend.answer_congr alike.follow] at run'
  have graph : s.state.graph = s'.state.graph := alike.graph
  rw [ask_of_course (run s.state), ask_of_course run', graph]
  refine ⟨rfl, alike.frontend, alike.follow, rfl, ?_⟩
  have reports := alike.reports
  simp only [RunState.reports] at reports
  simp only [Course.leaves, RunState.reports, RunState.events_noteAll, List.filterMap_append,
    reports]

theorem askAll_alike (alike : s.Alike s') (requests : List Request) :
    (s.askAll requests).1 = (s'.askAll requests).1 ∧
      (s.askAll requests).2.Alike (s'.askAll requests).2 := by
  induction requests generalizing s s' with
  | nil => exact ⟨rfl, alike⟩
  | cons request requests ih =>
    obtain ⟨answer, first⟩ := ask_alike alike request
    obtain ⟨answers, rest⟩ := ih first
    exact ⟨congrArg₂ List.cons answer answers, rest⟩

/-- Sessions that follow callees or not, and differ in the other options, give the same answers,
leave the same graph and make the same reports. What they record of these is all that is not
below their verbosity, in order; warnings may be recorded as errors. -/
theorem askAll_flags (fe : Frontend) (followCallees : Bool) (requests : List Request) :
    ∃ answers graph, ∃ reports : List Report, ∀ verbose quiet warningsAsErrors,
      let run := (start fe { verbose, quiet, warningsAsErrors, followCallees }).askAll requests
      run.1 = answers ∧ run.2.graph = graph ∧
        run.2.diagnostics = if quiet then [] else
          (reports.filter fun r => verbose || r.severity != .debug).map
            (Report.recorded warningsAsErrors) := by
  let base := (start fe { followCallees }).askAll requests
  refine ⟨base.1, base.2.graph, base.2.state.reports, fun verbose quiet warningsAsErrors => ?_⟩
  intro run
  let options : Options := { verbose, quiet, warningsAsErrors, followCallees }
  have alike : (start fe options).Alike (start fe { followCallees }) := ⟨rfl, rfl, rfl, rfl⟩
  obtain ⟨answers, final⟩ := askAll_alike alike requests
  refine ⟨answers, final.graph, ?_⟩
  rw [← final.reports]
  exact diagnostics_askAll fe options requests

end Session

end CxxTrees
