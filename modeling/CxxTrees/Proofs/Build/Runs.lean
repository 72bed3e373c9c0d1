import Mathlib.Data.List.Forall2
import CxxTrees.Build.Type
import CxxTrees.Calls.Run

/-!
# Builds inside of runs

A type that is built in a run comes out as it does for itself, and all that the run has of it
are its events (`typeIn_run`). The builder looks nothing up in the state of the run, be it in
the graph, in the reports or in the flags of the engine.
-/

namespace CxxTrees

namespace Run

/-! ### Steps -/

theorem run_ofBuild (build : Build α) (s : RunState) : (ofBuild build).run s =
    match build.outcome with
    | .ok a => .ok a (s.noteAll build.events)
    | .error stop => .error stop (s.noteAll build.events) := by
  rcases build with ⟨events, outcome⟩
  cases outcome <;> rfl

theorem ofBuild_bind (build : Build α) (g : α → Build β) :
    ofBuild (build >>= g) = ofBuild build >>= fun a => ofBuild (g a) := by
  funext s
  show (ofBuild (build >>= g)).run s = (ofBuild build >>= fun a => ofBuild (g a)).run s
  rw [EStateM.run_bind, run_ofBuild, run_ofBuild]
  cases outcome : build.outcome with
  | ok a =>
    rw [Build.bind_of_ok outcome]
    dsimp only
    rw [run_ofBuild, RunState.noteAll_append]
  | error stop => rw [Build.bind_of_error outcome]

variable {x : Run α} {build : Build α} {f : α → Run β} {g : α → Build β}

theorem bind_ofBuild (first : x = ofBuild build) (rest : ∀ a, f a = ofBuild (g a)) :
    x >>= f = ofBuild (build >>= g) := by
  rw [first, ofBuild_bind]
  exact bind_congr rest

theorem pure_ofBuild (a : α) : (pure a : Run α) = ofBuild (pure a) := rfl

theorem lift_ofBuild (x : Except Stop α) : (liftM x : Run α) = ofBuild (liftM x) := rfl

theorem fail_ofBuild (fault : Fault) : (Build.fail fault : Run α) = ofBuild (Build.fail fault) := rfl

theorem emit_ofBuild (event : Event) :
    (MonadEvents.emit event : Run Unit) = ofBuild (MonadEvents.emit event) := rfl

theorem look_ofBuild {x : Except Stop α} (rest : ∀ a, f a = ofBuild (g a)) :
    liftM x >>= f = ofBuild (liftM x >>= g) := bind_ofBuild (lift_ofBuild x) rest

end Run

/-- Builds inside of runs what is built outside of them. -/
def BuilderIn.inRuns (sub : Builder) : BuilderIn Run where
  node site := Run.ofBuild (sub.node site)
  instantiation site := Run.ofBuild (sub.instantiation site)

namespace Frontend
open Build Run
variable {fe : Frontend} {sub : Builder}

theorem required_run (site : Site) :
    fe.required sub.inRuns site = ofBuild (fe.required sub site) := by
  refine bind_ofBuild rfl fun t => ?_
  cases t with
  | some t => exact pure_ofBuild t
  | none => exact look_ofBuild fun spelling => fail_ofBuild _

theorem pointeeAt_run (site : Site) :
    fe.pointeeAt sub.inRuns site = ofBuild (fe.pointeeAt sub site) := by
  refine look_ofBuild fun facts => look_ofBuild fun pointee => ?_
  cases pointee with
  | some pointee => exact required_run _
  | none => exact fail_ofBuild _

theorem parametersFrom_run (site : Site) (facts : TypeFacts) (index count : Nat) :
    fe.parametersFrom sub.inRuns site facts index count =
      ofBuild (fe.parametersFrom sub site facts index count) := by
  induction count generalizing index with
  | zero => exact pure_ofBuild _
  | succ count ih =>
    unfold parametersFrom
    cases facts.parameter index with
    | none => exact fail_ofBuild _
    | some parameter =>
      refine bind_ofBuild (required_run _) fun t => bind_ofBuild (ih _) fun rest => ?_
      exact pure_ofBuild _

theorem parametersAt_run (site : Site) :
    fe.parametersAt sub.inRuns site = ofBuild (fe.parametersAt sub site) := by
  refine look_ofBuild fun facts => ?_
  cases facts.parameterCount with
  | none => exact fail_ofBuild _
  | some count =>
    exact bind_ofBuild (parametersFrom_run site facts 0 count) fun _ => pure_ofBuild _

theorem functionAt_run (site : Site) :
    fe.functionAt sub.inRuns site = ofBuild (fe.functionAt sub site) := by
  refine look_ofBuild fun facts => look_ofBuild fun result => ?_
  cases result with
  | none => exact pure_ofBuild none
  | some result =>
    refine bind_ofBuild (required_run _) fun t => ?_
    exact bind_ofBuild (parametersAt_run site) fun _ => pure_ofBuild _

theorem arrayAt_run (site : Site) :
    fe.arrayAt sub.inRuns site = ofBuild (fe.arrayAt sub site) := by
  refine look_ofBuild fun element => ?_
  cases element with
  | none => exact pure_ofBuild none
  | some element =>
    refine look_ofBuild fun facts => look_ofBuild fun size => ?_
    exact bind_ofBuild (required_run _) fun _ => pure_ofBuild _

theorem memberAt_run (site : Site) :
    fe.memberAt sub.inRuns site = ofBuild (fe.memberAt sub site) := by
  refine look_ofBuild fun spelling => look_ofBuild fun facts => look_ofBuild fun ofClass => ?_
  cases ofClass with
  | none => exact fail_ofBuild _
  | some ofClass =>
    refine bind_ofBuild (required_run _) fun t => look_ofBuild fun pointee => ?_
    cases pointee with
    | none => exact fail_ofBuild _
    | some pointee =>
      refine look_ofBuild fun facts => look_ofBuild fun result => ?_
      cases result with
      | none => exact bind_ofBuild (required_run _) fun _ => pure_ofBuild _
      | some result =>
        refine bind_ofBuild (required_run _) fun t => ?_
        exact bind_ofBuild (parametersAt_run _) fun _ => pure_ofBuild _

/-! ### Instantiations -/

theorem argumentAt_run (template : Cursor) (type : TypeHandle) (index : Nat) (text : List Char) :
    fe.argumentAt sub.inRuns template type index text =
      ofBuild (fe.argumentAt sub template type index text) := by
  refine look_ofBuild fun facts => ?_
  cases facts.argument index with
  | none => exact bind_ofBuild (pure_ofBuild _) fun _ => pure_ofBuild _
  | some argument =>
    refine bind_ofBuild rfl fun read => ?_
    cases read with
    | some t => exact bind_ofBuild (pure_ofBuild _) fun _ => pure_ofBuild _
    | none => exact bind_ofBuild rfl fun _ => pure_ofBuild _

theorem argumentsFrom_run (template : Cursor) (type : TypeHandle) (index : Nat)
    (texts : List (List Char)) :
    fe.argumentsFrom sub.inRuns template type index texts =
      ofBuild (fe.argumentsFrom sub template type index texts) := by
  induction texts generalizing index with
  | nil => exact pure_ofBuild _
  | cons text texts ih =>
    refine bind_ofBuild (argumentAt_run template type index text) fun argument => ?_
    exact bind_ofBuild (ih _) fun _ => pure_ofBuild _

theorem instantiationAt_run (site : Site) :
    fe.instantiationAt sub.inRuns site = ofBuild (fe.instantiationAt sub site) := by
  refine look_ofBuild fun leaf => ?_
  obtain ⟨cv, spelling⟩ := leaf
  dsimp only
  cases splitName spelling with
  | none => exact pure_ofBuild none
  | some split =>
    refine look_ofBuild fun template => ?_
    cases template with
    | none => exact pure_ofBuild none
    | some template =>
      dsimp only
      cases withoutClosing split.2 with
      | none => exact pure_ofBuild none
      | some body =>
        refine look_ofBuild fun facts => ?_
        split
        · refine bind_ofBuild (argumentsFrom_run _ _ _ _) fun list => ?_
          exact bind_ofBuild (pure_ofBuild _) fun _ => look_ofBuild fun _ => pure_ofBuild _
        · exact bind_ofBuild (pure_ofBuild _) fun _ => look_ofBuild fun _ => pure_ofBuild _

/-! ### Whole types -/

/-- Readings in runs that do what others do outside of them. -/
structure ReadsAs (reading : Reading Run Site Ty) (alone : Reading Build Site Ty) : Prop where
  name : reading.name = alone.name
  run : ∀ site, reading.run site = ofBuild (alone.run site)

theorem firstReading_run (site : Site) {readings : List (Reading Run Site Ty)}
    {alone : List (Reading Build Site Ty)} (each : List.Forall₂ ReadsAs readings alone) :
    firstReading (fun name => MonadEvents.emit (.reading name)) site readings =
      ofBuild (firstReading (fun name => MonadEvents.emit (.reading name)) site alone) := by
  induction each with
  | nil => exact pure_ofBuild none
  | cons first rest ih =>
    refine bind_ofBuild (first.run site) fun answer => ?_
    cases answer with
    | some t =>
      rw [first.name]
      exact bind_ofBuild (emit_ofBuild _) fun _ => pure_ofBuild _
    | none => exact ih

theorem unexposedAt_run (site : Site) :
    fe.unexposedAt sub.inRuns site = ofBuild (fe.unexposedAt sub site) := by
  have each : List.Forall₂ ReadsAs (fe.readings sub.inRuns) (fe.readings sub) :=
    .cons ⟨rfl, functionAt_run⟩ <| .cons ⟨rfl, arrayAt_run⟩ <|
    .cons ⟨rfl, fun _ => lift_ofBuild _⟩ <| .cons ⟨rfl, instantiationAt_run⟩ <|
    .cons ⟨rfl, fun _ => lift_ofBuild _⟩ .nil
  refine bind_ofBuild (firstReading_run site each) fun answer => ?_
  cases answer with
  | some t => exact pure_ofBuild t
  | none => exact look_ofBuild fun _ => pure_ofBuild _

theorem warnUnmodelled_run (site : Site) (kind : TypeKind) :
    (fe.warnUnmodelled site kind : Run Unit) = ofBuild (fe.warnUnmodelled site kind) :=
  look_ofBuild fun _ => emit_ofBuild _

theorem nodeAt_run (site : Site) : fe.nodeAt sub.inRuns site = ofBuild (fe.nodeAt sub site) := by
  refine look_ofBuild fun facts => ?_
  cases facts.kind.builtin? with
  | some kind => exact look_ofBuild fun _ => pure_ofBuild _
  | none =>
    dsimp only
    split
    case h_1 => exact pure_ofBuild none
    case h_2 | h_3 => exact bind_ofBuild (unexposedAt_run site) fun _ => pure_ofBuild _
    case h_4 =>
      refine bind_ofBuild (instantiationAt_run site) fun read => ?_
      cases read with
      | some t => exact pure_ofBuild _
      | none => exact look_ofBuild fun _ => pure_ofBuild _
    case h_5 | h_6 | h_7 => exact look_ofBuild fun _ => pure_ofBuild _
    case h_8 =>
      refine bind_ofBuild (pointeeAt_run site) fun pointee => ?_
      exact look_ofBuild fun _ => pure_ofBuild _
    case h_9 | h_10 => exact bind_ofBuild (pointeeAt_run site) fun _ => pure_ofBuild _
    case h_11 | h_12 | h_13 | h_14 => exact arrayAt_run site
    case h_15 | h_16 =>
      refine bind_ofBuild (functionAt_run site) fun read => ?_
      cases read with
      | some t => exact pure_ofBuild _
      | none => exact fail_ofBuild _
    case h_17 => exact bind_ofBuild (memberAt_run site) fun _ => pure_ofBuild _
    case h_18 =>
      refine look_ofBuild fun canonical => ?_
      split
      · exact look_ofBuild fun _ => pure_ofBuild _
      · rfl
    case h_19 | h_20 | h_21 | h_22 | h_23 =>
      refine bind_ofBuild (warnUnmodelled_run site _) fun _ => ?_
      exact bind_ofBuild (unexposedAt_run site) fun _ => pure_ofBuild _
    case h_24 => exact look_ofBuild fun _ => pure_ofBuild _

theorem builderIn_run (depth : Nat) : fe.builderIn Run depth = (fe.builder depth).inRuns := by
  induction depth with
  | zero => rfl
  | succ depth ih =>
    have node : fe.nodeAt (fe.builder depth).inRuns =
        fun site => ofBuild (fe.nodeAt (fe.builder depth) site) := funext nodeAt_run
    have instantiation : fe.instantiationAt (fe.builder depth).inRuns =
        fun site => ofBuild (fe.instantiationAt (fe.builder depth) site) :=
      funext instantiationAt_run
    unfold builderIn
    rw [ih]
    exact congrArg₂ BuilderIn.mk node instantiation

theorem canonicalWith_run (site : Site) (declared : Ty) :
    fe.canonicalWith sub.inRuns site declared = ofBuild (fe.canonicalWith sub site declared) := by
  refine look_ofBuild fun facts => ?_
  by_cases own : facts.canonical = site.type
  · simp only [own, if_true]
    exact pure_ofBuild declared
  · simp only [own, if_false]
    split
    case h_1 | h_2 =>
      refine bind_ofBuild rfl fun read => ?_
      cases read with
      | some t => exact pure_ofBuild t
      | none => exact required_run _
    case h_3 => exact required_run _

theorem typeWith_run (site : Site) :
    fe.typeWith sub.inRuns site = ofBuild (fe.typeWith sub site) := by
  refine bind_ofBuild (required_run site) fun declared => ?_
  split
  · exact pure_ofBuild _
  · refine bind_ofBuild (canonicalWith_run site declared) fun canonical => ?_
    split
    · exact look_ofBuild fun _ => fail_ofBuild _
    · cases declared.withCanonical canonical with
      | ok t => exact pure_ofBuild t
      | error fault => exact fail_ofBuild fault

/-- In every state of a run a type comes out as it does for itself, or not for the same
reason, and its events are all that it leaves there. -/
theorem typeIn_run (site : Site) : fe.typeIn Run site = ofBuild (fe.typeAt site) := by
  unfold typeIn typeAt typeBuilder
  rw [builderIn_run]
  exact typeWith_run site

end Frontend

end CxxTrees
