import CxxTrees.Proofs.Build.Runs
import CxxTrees.Session

/-!
# What a run looks at

Of the state that it finds a run looks at the graph, and at nothing else: neither at the events
before it, nor at what the engine has recorded, nor at the flags of the engine. What it does to
the state besides the graph is to note events.
-/

namespace CxxTrees

/-- What a run comes to: how it ends, the graph that it leaves and its events. -/
structure Course (α : Type) where
  outcome : Except Stop α
  graph : CallGraph
  events : List Event

namespace Course

def leaves (course : Course α) (s : RunState) : RunState :=
  { s.noteAll course.events with graph := course.graph }

def ends (course : Course α) (s : RunState) : EStateM.Result Stop RunState α :=
  match course.outcome with
  | .ok a => .ok a (course.leaves s)
  | .error stop => .error stop (course.leaves s)

/-- One course behind another, if that comes to an answer. -/
def andThen (course : Course α) (next : α → CallGraph → Course β) : Course β :=
  match course.outcome with
  | .ok a =>
    let later := next a course.graph
    { later with events := course.events ++ later.events }
  | .error stop => { course with outcome := .error stop }

variable {course : Course α} {next : α → CallGraph → Course β} {s : RunState} {a : α} {stop : Stop}

theorem ends_andThen_of_ok (outcome : course.outcome = .ok a) :
    (course.andThen next).ends s = (next a course.graph).ends (course.leaves s) := by
  simp only [andThen, ends, leaves, outcome, RunState.noteAll_eq, List.filterMap_append,
    List.foldl_append, List.append_assoc]

theorem ends_andThen_of_error (outcome : course.outcome = .error stop) :
    (course.andThen next).ends s = .error stop (course.leaves s) := by
  simp only [andThen, ends, leaves, outcome]

end Course

namespace Run
variable {x : Run α} {f : α → Run β}

/-- A run whose course depends on nothing but the graph. -/
def GraphOnly (x : Run α) : Prop :=
  ∃ course : CallGraph → Course α, ∀ s, x.run s = (course s.graph).ends s

theorem graphOnly_pure (a : α) : (pure a : Run α).GraphOnly :=
  ⟨fun graph => ⟨.ok a, graph, []⟩, fun _ => rfl⟩

theorem graphOnly_throw (stop : Stop) : (throw stop : Run α).GraphOnly :=
  ⟨fun graph => ⟨.error stop, graph, []⟩, fun _ => rfl⟩

theorem graphOnly_ofBuild (build : Build α) : (ofBuild build).GraphOnly := by
  refine ⟨fun graph => ⟨build.outcome, graph, build.events⟩, fun s => ?_⟩
  rcases build with ⟨events, outcome⟩
  cases outcome <;> simp only [run_ofBuild, Course.ends, Course.leaves, RunState.noteAll_eq]

theorem graphOnly_lift (x : Except Stop α) : (liftM x : Run α).GraphOnly :=
  lift_ofBuild x ▸ graphOnly_ofBuild (liftM x)

theorem graphOnly_emit (event : Event) : (emit event).GraphOnly :=
  graphOnly_ofBuild (Build.emit event)

theorem graphOnly_reach (id : EntityId) : (reach id).GraphOnly :=
  ⟨fun graph => ⟨.ok !graph.contains id, graph.insert id, []⟩, fun _ => rfl⟩

theorem graphOnly_record (id : EntityId) (call : Call) : (record id call).GraphOnly :=
  ⟨fun graph => ⟨.ok (), graph.record id call, []⟩, fun _ => rfl⟩

theorem graphOnly_bind (first : x.GraphOnly) (rest : ∀ a, (f a).GraphOnly) :
    (x >>= f).GraphOnly := by
  obtain ⟨course, run⟩ := first
  choose next runs using rest
  refine ⟨fun graph => (course graph).andThen next, fun s => ?_⟩
  rw [EStateM.run_bind, run]
  cases outcome : (course s.graph).outcome with
  | ok a =>
    rw [Course.ends_andThen_of_ok outcome, Course.ends, outcome]
    exact runs a ((course s.graph).leaves s)
  | error stop => rw [Course.ends_andThen_of_error outcome, Course.ends, outcome]

theorem graphOnly_look {x : Except Stop α} (rest : ∀ a, (f a).GraphOnly) :
    (liftM x >>= f).GraphOnly := graphOnly_bind (graphOnly_lift x) rest

/-- The state may be looked at as a whole if only its graph is used. -/
theorem graphOnly_get {f : CallGraph → Run β} (rest : ∀ graph, (f graph).GraphOnly) :
    (get >>= fun s : RunState => f s.graph : Run β).GraphOnly := by
  choose next runs using rest
  exact ⟨fun graph => next graph graph, fun s => runs s.graph s⟩

theorem graphOnly_forM {f : α → Run PUnit} {list : List α} (each : ∀ a, (f a).GraphOnly) :
    (list.forM f).GraphOnly := by
  induction list with
  | nil => exact graphOnly_pure ()
  | cons a list ih => exact graphOnly_bind (each a) fun _ => ih

end Run

namespace Frontend
open Run
variable {fe : Frontend} {options : Options} {collect : Cursor → Run Unit} {scope : CallScope}

theorem typeIn_graphOnly (site : Site) : (fe.typeIn Run site).GraphOnly :=
  typeIn_run site ▸ graphOnly_ofBuild (fe.typeAt site)

theorem callWith_graphOnly (collecting : ∀ c, (collect c).GraphOnly) (facts : CursorFacts) :
    (fe.callWith options collect scope facts).GraphOnly := by
  refine graphOnly_look fun target => ?_
  cases target with
  | none => exact graphOnly_bind (graphOnly_emit _) fun _ => graphOnly_pure none
  | some target =>
    dsimp only
    cases target.body with
    | none => exact graphOnly_bind (graphOnly_pure _) fun _ => graphOnly_pure _
    | some body =>
      cases options.followCallees with
      | true => exact graphOnly_bind (collecting body) fun _ => graphOnly_pure _
      | false => exact graphOnly_bind (graphOnly_pure _) fun _ => graphOnly_pure _

theorem expressionWith_graphOnly (collecting : ∀ c, (collect c).GraphOnly) (c : Cursor) :
    (fe.expressionWith options collect scope c).GraphOnly := by
  refine graphOnly_look fun facts => ?_
  cases facts.type with
  | none => exact graphOnly_throw _
  | some type =>
    refine graphOnly_bind (typeIn_graphOnly _) fun t => ?_
    split
    · split
      · exact graphOnly_pure none
      · refine graphOnly_bind (callWith_graphOnly collecting facts) fun call => ?_
        cases call with
        | none => exact graphOnly_pure none
        | some call => exact graphOnly_pure _
    · split
      · exact graphOnly_pure _
      · exact graphOnly_pure _

theorem recordWith_graphOnly (collecting : ∀ c, (collect c).GraphOnly) (id : EntityId)
    (c : Cursor) : (fe.recordWith options collect scope id c).GraphOnly := by
  refine graphOnly_look fun facts => ?_
  split
  · refine graphOnly_bind (expressionWith_graphOnly collecting c) fun e => ?_
    cases e with
    | none => exact graphOnly_pure ()
    | some e =>
      dsimp only
      cases e.call? with
      | none => exact graphOnly_pure ()
      | some call => exact graphOnly_record id call
  · exact graphOnly_pure ()

theorem visitBelowWithin_graphOnly {visit : Cursor → Run Unit}
    (visiting : ∀ c, (visit c).GraphOnly) (limit : Nat) (c : Cursor) :
    (fe.visitBelowWithin visit limit c).GraphOnly := by
  induction limit generalizing c with
  | zero => exact graphOnly_throw _
  | succ limit ih =>
    refine graphOnly_look fun facts => graphOnly_forM fun child => ?_
    exact graphOnly_bind (visiting child) fun _ => ih child

theorem collectWithin_graphOnly (limit : Nat) (c : Cursor) :
    (fe.collectWithin options limit c).GraphOnly := by
  induction limit generalizing c with
  | zero => exact graphOnly_throw _
  | succ limit ih =>
    refine graphOnly_look fun facts => graphOnly_bind (graphOnly_reach _) fun fresh => ?_
    cases fresh with
    | false => exact graphOnly_pure ()
    | true =>
      refine graphOnly_bind (graphOnly_emit _) fun _ => graphOnly_look fun scope => ?_
      exact visitBelowWithin_graphOnly (recordWith_graphOnly ih _) _ c

theorem callsOf_graphOnly (c : Cursor) : (fe.callsOf options c).GraphOnly := by
  refine graphOnly_bind (collectWithin_graphOnly _ c) fun _ => ?_
  have listed (graph : CallGraph) :
      (do return graph.callsFrom (← fe.cursor c).entity : Run (List Call)).GraphOnly :=
    graphOnly_look fun facts => graphOnly_pure (graph.callsFrom facts.entity)
  exact graphOnly_get listed

theorem answer_graphOnly (fe : Frontend) (options : Options) (request : Request) :
    (fe.answer options request).GraphOnly := by
  cases request with
  | type site => exact graphOnly_bind (typeIn_graphOnly site) fun _ => graphOnly_pure _
  | expression scope c =>
    refine graphOnly_bind (expressionWith_graphOnly (collectWithin_graphOnly _) c) fun _ => ?_
    exact graphOnly_pure _
  | calls c => exact graphOnly_bind (callsOf_graphOnly c) fun _ => graphOnly_pure _

end Frontend

end CxxTrees
