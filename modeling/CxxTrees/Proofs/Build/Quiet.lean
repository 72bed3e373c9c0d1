import CxxTrees.Build.Type

/-!
# Builds are quiet

Building a type notes which reading worked and warns of kinds without a node. It
never walks the body of a function and has nothing to report for debugging.
-/

namespace CxxTrees

namespace Event

/-- The function whose body is walked. -/
def walked? : Event → Option Cursor
  | walking function _ => some function
  | _ => none

def isDebug : Event → Bool
  | report r => r.severity = .debug
  | _ => false

def isQuiet (event : Event) : Bool := event.walked?.isNone && !event.isDebug

end Event

namespace Build

def Quiet (x : Build α) : Prop := ∀ event ∈ x.events, event.isQuiet = true

variable {x : Build α} {f : α → Build β}

theorem quiet_of_events (none : x.events = []) : x.Quiet := by
  intro event member
  rw [none] at member
  cases member

theorem quiet_pure (a : α) : (pure a : Build α).Quiet := quiet_of_events rfl

theorem quiet_lift (x : Except Stop α) : (liftM x : Build α).Quiet := quiet_of_events rfl

theorem quiet_emit {event : Event} (quiet : event.isQuiet = true) : (emit event).Quiet := by
  intro other member
  rw [List.mem_singleton.mp member]
  exact quiet

theorem quiet_fail (fault : Fault) : (fail fault : Build α).Quiet := quiet_of_events rfl

theorem quiet_bind (first : x.Quiet) (rest : ∀ a, (f a).Quiet) : (x >>= f).Quiet := by
  intro event member
  cases outcome : x.outcome with
  | ok a =>
    rw [bind_of_ok outcome] at member
    exact (List.mem_append.mp member).elim (first event) (rest a event)
  | error stop =>
    rw [bind_of_error outcome] at member
    exact first event member

theorem quiet_look {x : Except Stop α} (rest : ∀ a, (f a).Quiet) : (liftM x >>= f).Quiet :=
  quiet_bind (quiet_lift x) rest

theorem walks_of_quiet (quiet : x.Quiet) : x.events.filterMap Event.walked? = [] := by
  apply List.filterMap_eq_nil_iff.mpr
  intro event member
  have silent := quiet event member
  simp only [Event.isQuiet, Bool.and_eq_true, Option.isNone_iff_eq_none] at silent
  exact silent.1

theorem debug_of_quiet (quiet : x.Quiet) : x.events.countP Event.isDebug = 0 := by
  apply List.countP_eq_zero.mpr
  intro event member
  have silent := quiet event member
  simp only [Event.isQuiet, Bool.and_eq_true, Bool.not_eq_true'] at silent
  simp [silent.2]

end Build

structure Builder.Quiet (sub : Builder) : Prop where
  node : ∀ site, (sub.node site).Quiet
  instantiation : ∀ site, (sub.instantiation site).Quiet

namespace Frontend
open Build
variable {fe : Frontend} {sub : Builder}

theorem required_quiet (quiet : sub.Quiet) (site : Site) : (fe.required sub site).Quiet := by
  refine quiet_bind (quiet.node site) fun t => ?_
  cases t with
  | some t => exact quiet_pure t
  | none => exact quiet_look fun spelling => quiet_fail _

theorem pointeeAt_quiet (quiet : sub.Quiet) (site : Site) : (fe.pointeeAt sub site).Quiet := by
  refine quiet_look fun facts => quiet_look fun pointee => ?_
  cases pointee with
  | some pointee => exact required_quiet quiet _
  | none => exact quiet_fail _

theorem parametersFrom_quiet (quiet : sub.Quiet) (site : Site) (facts : TypeFacts)
    (index count : Nat) : (fe.parametersFrom sub site facts index count).Quiet := by
  induction count generalizing index with
  | zero => exact quiet_pure _
  | succ count ih =>
    unfold parametersFrom
    split
    · exact quiet_fail _
    · refine quiet_bind (required_quiet quiet _) fun t => quiet_bind (ih _) fun rest => ?_
      exact quiet_pure _

theorem parametersAt_quiet (quiet : sub.Quiet) (site : Site) :
    (fe.parametersAt sub site).Quiet := by
  refine quiet_look fun facts => ?_
  split
  · exact quiet_fail _
  · exact quiet_bind (parametersFrom_quiet quiet site facts 0 _) fun _ => quiet_pure _

theorem functionAt_quiet (quiet : sub.Quiet) (site : Site) : (fe.functionAt sub site).Quiet := by
  refine quiet_look fun facts => quiet_look fun result => ?_
  cases result with
  | none => exact quiet_pure none
  | some result =>
    refine quiet_bind (required_quiet quiet _) fun t => ?_
    exact quiet_bind (parametersAt_quiet quiet site) fun _ => quiet_pure _

theorem arrayAt_quiet (quiet : sub.Quiet) (site : Site) : (fe.arrayAt sub site).Quiet := by
  refine quiet_look fun element => ?_
  cases element with
  | none => exact quiet_pure none
  | some element =>
    refine quiet_look fun facts => quiet_look fun size => ?_
    exact quiet_bind (required_quiet quiet _) fun _ => quiet_pure _

theorem memberAt_quiet (quiet : sub.Quiet) (site : Site) : (fe.memberAt sub site).Quiet := by
  refine quiet_look fun spelling => quiet_look fun facts => quiet_look fun ofClass => ?_
  cases ofClass with
  | none => exact quiet_fail _
  | some ofClass =>
    refine quiet_bind (required_quiet quiet _) fun t => quiet_look fun pointee => ?_
    cases pointee with
    | none => exact quiet_fail _
    | some pointee =>
      refine quiet_look fun facts => quiet_look fun result => ?_
      cases result with
      | none => exact quiet_bind (required_quiet quiet _) fun _ => quiet_pure _
      | some result =>
        refine quiet_bind (required_quiet quiet _) fun t => ?_
        exact quiet_bind (parametersAt_quiet quiet _) fun _ => quiet_pure _

/-! ### Instantiations -/

theorem argumentAt_quiet (quiet : sub.Quiet) (template : Cursor) (type : TypeHandle) (index : Nat)
    (text : List Char) : (fe.argumentAt sub template type index text).Quiet := by
  refine quiet_look fun facts => ?_
  split
  · exact quiet_bind (quiet_pure _) fun _ => quiet_pure _
  · refine quiet_bind (quiet.instantiation _) fun read => ?_
    cases read with
    | some t => exact quiet_bind (quiet_pure _) fun _ => quiet_pure _
    | none => exact quiet_bind (quiet.node _) fun _ => quiet_pure _

theorem argumentsFrom_quiet (quiet : sub.Quiet) (template : Cursor) (type : TypeHandle)
    (index : Nat) (texts : List (List Char)) :
    (fe.argumentsFrom sub template type index texts).Quiet := by
  induction texts generalizing index with
  | nil => exact quiet_pure _
  | cons text texts ih =>
    refine quiet_bind (argumentAt_quiet quiet template type index text) fun argument => ?_
    exact quiet_bind (ih _) fun _ => quiet_pure _

theorem instantiationAt_quiet (quiet : sub.Quiet) (site : Site) :
    (fe.instantiationAt sub site).Quiet := by
  refine quiet_look fun leaf => ?_
  split
  split
  · refine quiet_look fun template => ?_
    split
    · split
      · refine quiet_look fun facts => ?_
        split
        · refine quiet_bind (argumentsFrom_quiet quiet _ _ _ _) fun list => ?_
          exact quiet_bind (quiet_pure _) fun _ => quiet_look fun _ => quiet_pure _
        · exact quiet_bind (quiet_pure _) fun _ => quiet_look fun _ => quiet_pure _
      · exact quiet_pure none
    · exact quiet_pure none
  · exact quiet_pure none

/-! ### Whole types -/

theorem firstReading_quiet {note : String → Build Unit} (noted : ∀ name, (note name).Quiet)
    (site : Site) {readings : List (Reading Build Site Ty)}
    (each : ∀ reading ∈ readings, (reading.run site).Quiet) :
    (firstReading note site readings).Quiet := by
  induction readings with
  | nil => exact quiet_pure none
  | cons reading readings ih =>
    refine quiet_bind (each reading List.mem_cons_self) fun answer => ?_
    cases answer with
    | some t => exact quiet_bind (noted reading.name) fun _ => quiet_pure _
    | none => exact ih fun later member => each later (List.mem_cons_of_mem reading member)

theorem warnUnmodelled_quiet (site : Site) (kind : TypeKind) :
    (fe.warnUnmodelled site kind : Build Unit).Quiet := quiet_look fun _ => quiet_emit rfl

theorem unexposedAt_quiet (quiet : sub.Quiet) (site : Site) : (fe.unexposedAt sub site).Quiet := by
  have read : (firstReading (fun name => Build.emit (.reading name)) site
      (fe.readings sub)).Quiet := by
    refine firstReading_quiet (fun _ => quiet_emit rfl) site fun reading member => ?_
    simp only [readings, List.mem_cons, List.not_mem_nil, or_false] at member
    rcases member with rfl | rfl | rfl | rfl | rfl
    · exact functionAt_quiet quiet site
    · exact arrayAt_quiet quiet site
    · exact quiet_lift _
    · exact instantiationAt_quiet quiet site
    · exact quiet_lift _
  refine quiet_bind read fun answer => ?_
  cases answer with
  | some t => exact quiet_pure t
  | none => exact quiet_look fun _ => quiet_pure _

theorem nodeAt_quiet (quiet : sub.Quiet) (site : Site) : (fe.nodeAt sub site).Quiet := by
  refine quiet_look fun facts => ?_
  split
  · exact quiet_look fun _ => quiet_pure _
  · split
    case h_1 => exact quiet_pure none
    case h_2 | h_3 => exact quiet_bind (unexposedAt_quiet quiet site) fun _ => quiet_pure _
    case h_4 =>
      refine quiet_bind (instantiationAt_quiet quiet site) fun read => ?_
      cases read with
      | some t => exact quiet_pure _
      | none => exact quiet_look fun _ => quiet_pure _
    case h_5 | h_6 | h_7 => exact quiet_look fun _ => quiet_pure _
    case h_8 =>
      refine quiet_bind (pointeeAt_quiet quiet site) fun pointee => ?_
      exact quiet_look fun _ => quiet_pure _
    case h_9 | h_10 => exact quiet_bind (pointeeAt_quiet quiet site) fun _ => quiet_pure _
    case h_11 | h_12 | h_13 | h_14 => exact arrayAt_quiet quiet site
    case h_15 | h_16 =>
      refine quiet_bind (functionAt_quiet quiet site) fun read => ?_
      cases read with
      | some t => exact quiet_pure _
      | none => exact quiet_fail _
    case h_17 => exact quiet_bind (memberAt_quiet quiet site) fun _ => quiet_pure _
    case h_18 =>
      refine quiet_look fun canonical => ?_
      split
      · exact quiet_look fun _ => quiet_pure _
      · exact quiet.node _
    case h_19 | h_20 | h_21 | h_22 | h_23 =>
      refine quiet_bind (warnUnmodelled_quiet site _) fun _ => ?_
      exact quiet_bind (unexposedAt_quiet quiet site) fun _ => quiet_pure _
    case h_24 => exact quiet_look fun _ => quiet_pure _

theorem builder_quiet (depth : Nat) : (fe.builder depth).Quiet := by
  induction depth with
  | zero => exact ⟨fun _ => quiet_of_events rfl, fun _ => quiet_of_events rfl⟩
  | succ depth ih => exact ⟨nodeAt_quiet ih, instantiationAt_quiet ih⟩

theorem canonicalAt_quiet (site : Site) (declared : Ty) : (fe.canonicalAt site declared).Quiet := by
  have quiet : fe.typeBuilder.Quiet := builder_quiet _
  refine quiet_look fun facts => ?_
  by_cases own : facts.canonical = site.type
  · simp only [own, if_true]
    exact quiet_pure declared
  · simp only [own, if_false]
    split
    case h_1 | h_2 =>
      refine quiet_bind (quiet.instantiation _) fun read => ?_
      cases read with
      | some t => exact quiet_pure t
      | none => exact required_quiet quiet _
    case h_3 => exact required_quiet quiet _

theorem typeAt_quiet (site : Site) : (fe.typeAt site).Quiet := by
  refine quiet_bind (required_quiet (builder_quiet _) site) fun declared => ?_
  split
  · exact quiet_pure _
  · refine quiet_bind (canonicalAt_quiet site declared) fun canonical => ?_
    split
    · exact quiet_look fun _ => quiet_fail _
    · split
      · exact quiet_pure _
      · exact quiet_fail _

end Frontend

end CxxTrees
