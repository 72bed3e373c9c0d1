import CxxTrees.Proofs.Calls.Stopped
import CxxTrees.Session
import CxxTrees.Snapshot.Basic

/-!
# First walks

The entry of an id is filled by one walk, the first under that id, and every later
request answers with what that walk left. So a walk that stopped is never made up
for, nor is a walk of another cursor with the same id.
-/

namespace CxxTrees

namespace Frontend
variable {fe : Frontend} {options : Options} {f g c : Cursor} {id : EntityId} {s t : RunState}

/-! ### Calls of a body -/

/-- The calls written in the body of `f`. -/
def BodyCalls (fe : Frontend) (f : Cursor) (calls : List Call) : Prop :=
  ∃ scope order, fe.scopeOf f = .ok scope ∧ fe.OrderBelow f order ∧
    calls = order.filterMap (fe.callAt scope)

/-- The same calls are written in the bodies of `f` and `g`. -/
def SameCalls (fe : Frontend) (f g : Cursor) : Prop :=
  ∃ calls, fe.BodyCalls f calls ∧ fe.BodyCalls g calls

theorem hasBodyCalls_iff {graph : CallGraph} (entity : fe.HasEntity f id) :
    fe.HasBodyCalls graph f ↔ fe.BodyCalls f (graph.callsFrom id) := by
  constructor
  · rintro ⟨facts, scope, order, known, seen, below, calls⟩
    rw [hasEntity_unique entity ⟨facts, known, rfl⟩]
    exact ⟨scope, order, seen, below, calls⟩
  · rintro ⟨scope, order, seen, below, calls⟩
    obtain ⟨facts, known, rfl⟩ := entity
    exact ⟨facts, scope, order, known, seen, below, calls⟩

theorem bodyCalls_unique {calls calls' : List Call} (first : fe.BodyCalls f calls)
    (second : fe.BodyCalls f calls') : calls = calls' := by
  obtain ⟨scope, order, seen, below, rfl⟩ := first
  obtain ⟨scope', order', seen', below', rfl⟩ := second
  obtain rfl := Except.ok.inj (seen.symm.trans seen')
  rw [orderBelow_unique below below']

/-- One entry has the calls of two bodies only if the same calls are written in both. -/
theorem hasBodyCalls_iff_sameCalls {graph : CallGraph} (entity : fe.HasEntity f id)
    (entity' : fe.HasEntity g id) (calls : fe.HasBodyCalls graph g) :
    fe.HasBodyCalls graph f ↔ fe.SameCalls f g := by
  rw [hasBodyCalls_iff entity'] at calls
  rw [hasBodyCalls_iff entity]
  constructor
  · intro calls'
    exact ⟨_, calls', calls⟩
  · rintro ⟨same, first, second⟩
    rw [bodyCalls_unique calls second]
    exact first

/-- What is read of a body until its walk ends, and the rest. -/
theorem exists_rest {answered : Bool} {facts : CursorFacts} {order read : List Cursor}
    (known : fe.cursor? f = some facts) (part : fe.ReadsPart answered facts.children read)
    (below : fe.OrderBelow f order) :
    ∃ rest, order = read ++ rest ∧ (answered = true → rest = []) := by
  obtain ⟨facts', known', children⟩ := below
  obtain rfl := Option.mem_unique known known'
  obtain ⟨rest, split⟩ := part.front order children
  refine ⟨rest, split.symm, fun done => ?_⟩
  rw [← sourceOrder_unique (part.whole done) children] at split
  exact List.append_cancel_left (split.trans (List.append_nil read).symm)

theorem hasBodyCalls_iff_rest {graph : CallGraph} {scope : CallScope} {read rest : List Cursor}
    (entity : fe.HasEntity f id) (seen : fe.scopeOf f = .ok scope)
    (below : fe.OrderBelow f (read ++ rest))
    (recorded : graph.callsFrom id = read.filterMap (fe.callAt scope)) :
    fe.HasBodyCalls graph f ↔ rest.filterMap (fe.callAt scope) = [] := by
  have whole : fe.BodyCalls f
      (read.filterMap (fe.callAt scope) ++ rest.filterMap (fe.callAt scope)) :=
    ⟨scope, _, seen, below, List.filterMap_append.symm⟩
  rw [hasBodyCalls_iff entity, recorded]
  constructor
  · intro all
    have same := bodyCalls_unique all whole
    exact List.append_cancel_left (same.symm.trans (List.append_nil _).symm)
  · intro none
    rw [none, List.append_nil] at whole
    exact whole

/-! ### Requests -/

/-- A request for calls under an id that has an entry does nothing. -/
theorem collect_of_contains (entity : fe.HasEntity c id) (present : s.graph.contains id = true) :
    (fe.collect options c).run s = .ok () s := by
  obtain ⟨facts, known, rfl⟩ := entity
  have looked : fe.cursor c = .ok facts := by rw [Frontend.cursor, known]
  unfold collect bodyLimit collectWithin
  rw [Run.run_look looked, Run.run_bind (Run.run_reach present)]
  rfl

theorem answer_of_contains (entity : fe.HasEntity f id) (present : s.graph.contains id = true) :
    (fe.answer options (.calls f)).run s = .ok (.calls (s.graph.callsFrom id)) s := by
  have collected : (fe.collect options f).run s = .ok () s := collect_of_contains entity present
  obtain ⟨facts, known, rfl⟩ := entity
  have looked : fe.cursor f = .ok facts := by rw [Frontend.cursor, known]
  have called : (fe.callsOf options f).run s = .ok (s.graph.callsFrom facts.entity) s := by
    unfold callsOf
    rw [Run.run_bind collected]
    show (liftM (fe.cursor f) >>= _ : Run _).run s = _
    rw [Run.run_look looked]
    rfl
  unfold answer
  rw [Run.run_bind called]
  rfl

theorem callsOf_advances {b : Option (List Call)} (h : Run.Ends (fe.callsOf options c) s b t) :
    ∃ walks, fe.Advances none [] b.isSome walks s t ∧
      ∀ id, fe.HasEntity c id → s.graph.contains id = false → c ∈ walks := by
  rcases Run.ends_bind h with ⟨rfl, stopped⟩ | ⟨_, u, collected, rest⟩
  · exact collect_advances stopped
  · obtain ⟨walks, after, walked⟩ := collect_advances collected
    obtain rfl : u = t := by
      rcases Run.ends_bind rest with ⟨_, stopped⟩ | ⟨_, v, got, read⟩
      · cases (Run.ends_get stopped).1
      · obtain ⟨_, rfl⟩ := Run.ends_get got
        rcases Run.ends_look read with ⟨_, same, _⟩ | ⟨facts, _, found⟩
        · exact same.symm
        · exact (Run.ends_pure found).2.symm
    exact ⟨walks, advances_weaken after, walked⟩

theorem answer_advances {request : Request} {b : Option Answer}
    (h : Run.Ends (fe.answer options request) s b t) :
    ∃ walks, fe.Advances none [] b.isSome walks s t ∧
      ∀ f id, request = .calls f → fe.HasEntity f id → s.graph.contains id = false → f ∈ walks := by
  cases request with
  | type site =>
    obtain ⟨_, built, _⟩ := Run.ends_return h
    obtain ⟨graph, walks⟩ := Run.ends_type built
    exact ⟨[], advances_of_same graph walks, nofun⟩
  | expression scope c =>
    have collecting : fe.Collecting (fe.collect options) := collectWithin_collecting _
    obtain ⟨_, built, same⟩ := Run.ends_return h
    obtain ⟨walks, after⟩ := advances_of_walk collecting (expressionWith_ends built)
    rw [same] at after
    exact ⟨walks, after, nofun⟩
  | calls c =>
    obtain ⟨_, collected, same⟩ := Run.ends_return h
    obtain ⟨walks, after, walked⟩ := callsOf_advances collected
    rw [same] at after
    refine ⟨walks, after, fun f id this => ?_⟩
    cases this
    exact walked id

end Frontend

namespace Session
variable {s t : Session} {request : Request} {fe : Frontend} {options : Options} {f g : Cursor}
  {id : EntityId} {walks walks' : List Cursor} {answered answered' : Bool}

/-- `t` is what requests make of `s`: answered or not, they begin the bodies at `walks`. -/
structure Follows (s : Session) (answered : Bool) (walks : List Cursor) (t : Session) : Prop where
  frontend : t.frontend = s.frontend
  state : s.frontend.Advances none [] answered walks s.state t.state

theorem follows_refl : s.Follows true [] s := ⟨rfl, Frontend.advances_of_same rfl rfl⟩

theorem follows_trans {u : Session} (first : s.Follows answered walks t)
    (second : t.Follows answered' walks' u) :
    s.Follows (answered && answered') (walks ++ walks') u := by
  have state := second.state
  rw [first.frontend] at state
  exact ⟨second.frontend.trans first.frontend,
    Frontend.advances_trans (fun own filling => by cases filling) first.state state⟩

theorem ask_follows (s : Session) (request : Request) :
    ∃ walks, s.Follows (s.ask request).1.isOk walks (s.ask request).2 ∧
      ∀ f id, request = .calls f → s.frontend.HasEntity f id → s.graph.contains id = false →
        f ∈ walks := by
  unfold ask
  split
  · rename_i answer state h
    obtain ⟨walks, after, walked⟩ := Frontend.answer_advances (.answered h)
    exact ⟨walks, ⟨rfl, after⟩, walked⟩
  · rename_i stop state h
    obtain ⟨walks, after, walked⟩ := Frontend.answer_advances (.stopped h)
    exact ⟨walks, ⟨rfl, after⟩, walked⟩

theorem askAll_follows (s : Session) (requests : List Request) :
    ∃ walks, s.Follows ((s.askAll requests).1.all Except.isOk) walks (s.askAll requests).2 := by
  induction requests generalizing s with
  | nil => exact ⟨[], follows_refl⟩
  | cons request requests ih =>
    obtain ⟨walks, first, _⟩ := s.ask_follows request
    obtain ⟨walks', rest⟩ := ih (s.ask request).2
    exact ⟨walks ++ walks', follows_trans first rest⟩

/-- The answer to a request for calls under an id that has an entry. -/
theorem ask_of_contains (entity : s.frontend.HasEntity f id) (present : s.graph.contains id = true) :
    s.ask (.calls f) = (.ok (.calls (s.graph.callsFrom id)), s) := by
  unfold ask
  rw [Frontend.answer_of_contains entity present]
  rfl

/-! ### Walks and entries -/

/-- The request walks the body of `f`, to its end or until it stops. -/
def Walks (s : Session) (request : Request) (f : Cursor) : Prop :=
  ∃ walks, (s.ask request).2.state.walks = s.state.walks ++ walks ∧ f ∈ walks

theorem walks_of_error (entity : s.frontend.HasEntity f id)
    (failed : (s.ask (.calls f)).1.isOk = false) : s.Walks (.calls f) f := by
  obtain ⟨walks, after, walked⟩ := s.ask_follows (.calls f)
  refine ⟨walks, after.state.walked, walked f id rfl entity ?_⟩
  cases present : s.graph.contains id with
  | false => rfl
  | true =>
    rw [ask_of_contains entity present] at failed
    cases failed

theorem follows_of_walks (walked : s.Walks request f) :
    ∃ walks, s.Follows (s.ask request).1.isOk walks (s.ask request).2 ∧ f ∈ walks := by
  obtain ⟨walks, grown, member⟩ := walked
  obtain ⟨walks', first, _⟩ := s.ask_follows request
  obtain rfl : walks' = walks := List.append_cancel_left (first.state.walked.symm.trans grown)
  exact ⟨walks', first, member⟩

theorem hasRead_of_walks (walked : s.Walks request f) :
    s.frontend.HasRead (s.ask request).2.graph (s.ask request).1.isOk f := by
  obtain ⟨walks, first, member⟩ := follows_of_walks walked
  exact first.state.read f member

/-- The entry of a function stays what the walk of its body left. -/
theorem entry_of_walks (walked : s.Walks request f) (entity : s.frontend.HasEntity f id)
    (later : List Request) :
    ((s.ask request).2.askAll later).2.graph.contains id = true ∧
      ((s.ask request).2.askAll later).2.graph.callsFrom id =
        (s.ask request).2.graph.callsFrom id := by
  obtain ⟨walks, first, member⟩ := follows_of_walks walked
  obtain ⟨_, rest⟩ := (s.ask request).2.askAll_follows later
  have begun : (s.ask request).2.graph.contains id = true :=
    (first.state.entries id).mpr (.inr ⟨f, member, entity⟩)
  have kept := rest.state.calls id begun
  rw [if_neg (by simp), List.append_nil] at kept
  exact ⟨(rest.state.entries id).mpr (.inl begun), kept⟩

theorem hasRead_after (walked : s.Walks request f) (later : List Request) :
    s.frontend.HasRead ((s.ask request).2.askAll later).2.graph (s.ask request).1.isOk f := by
  have read := hasRead_of_walks walked
  obtain ⟨id, entity⟩ := Frontend.exists_hasEntity read
  exact Frontend.hasRead_of_callsFrom read entity (entry_of_walks walked entity later).2

theorem mem_walks_of_walks (walked : s.Walks request f) (later : List Request) :
    f ∈ ((s.ask request).2.askAll later).2.state.walks := by
  obtain ⟨walks, grown, member⟩ := walked
  obtain ⟨_, rest⟩ := (s.ask request).2.askAll_follows later
  rw [rest.state.walked, grown]
  exact List.mem_append_left _ (List.mem_append_right _ member)

theorem frontend_of_asked (s : Session) (request : Request) (later : List Request) :
    ((s.ask request).2.askAll later).2.frontend = s.frontend := by
  obtain ⟨_, first, _⟩ := s.ask_follows request
  obtain ⟨_, rest⟩ := (s.ask request).2.askAll_follows later
  exact rest.frontend.trans first.frontend

/-- After a walk of the body of `f`, every request for its calls is answered with those of the
part that was read. This is all of them unless the walk stopped before a call. -/
theorem ask_calls_of_walks {scope : CallScope} {order : List Cursor}
    (entity : s.frontend.HasEntity f id) (seen : s.frontend.scopeOf f = .ok scope)
    (below : s.frontend.OrderBelow f order)
    (walked : s.Walks request f ∨ request = .calls f ∧ (s.ask request).1.isOk = false) :
    ∃ read rest, order = read ++ rest ∧ ((s.ask request).1.isOk = true → rest = []) ∧
      ∀ later, let t := ((s.ask request).2.askAll later).2
        (t.ask (.calls f)).1 = .ok (.calls (read.filterMap (s.frontend.callAt scope))) ∧
        (s.frontend.HasBodyCalls t.graph f ↔ rest.filterMap (s.frontend.callAt scope) = []) := by
  have walked : s.Walks request f := by
    rcases walked with walked | ⟨rfl, failed⟩
    · exact walked
    · exact walks_of_error entity failed
  obtain ⟨facts, read, known, part, _, calls⟩ := hasRead_of_walks walked
  obtain ⟨rest, rfl, done⟩ := Frontend.exists_rest known part below
  obtain rfl := Frontend.hasEntity_unique entity ⟨facts, known, rfl⟩
  refine ⟨read, rest, rfl, done, ?_⟩
  intro later t
  have same : t.frontend = s.frontend := frontend_of_asked s request later
  obtain ⟨present, kept⟩ := entry_of_walks walked entity later
  have recorded : t.graph.callsFrom facts.entity = read.filterMap (s.frontend.callAt scope) :=
    kept.trans (calls scope seen)
  constructor
  · have entity' : t.frontend.HasEntity f facts.entity := by
      rw [same]
      exact entity
    rw [ask_of_contains entity' present, recorded]
  · exact Frontend.hasBodyCalls_iff_rest entity seen below recorded

/-- A function whose second call has no type. -/
def halted : Snapshot where
  cursors := #[
    { kind := .functionDecl, spelling := "f", entity := ⟨"f"⟩, children := [.afterCount 1] },
    { kind := .compoundStmt, spelling := "", entity := ⟨"body"⟩,
      children := [.afterCount 2, .afterCount 3] },
    { kind := .callExpr, spelling := "g", entity := ⟨"first"⟩, type := some (.afterCount 0),
      referenced := some (.afterCount 4), tokens := ["g", "(", ")"] },
    { kind := .callExpr, spelling := "g", entity := ⟨"second"⟩,
      referenced := some (.afterCount 4), tokens := ["g", "(", ")"] },
    { kind := .functionDecl, spelling := "g", entity := ⟨"g"⟩ }]
  types := #[{ kind := .int, spelling := "int" }]

def callOfG : Call := ⟨none, none, ⟨"g"⟩, ⟨"g"⟩⟩

theorem orderBelow_halted :
    halted.frontend.OrderBelow (.afterCount 0) [.afterCount 1, .afterCount 2, .afterCount 3] := by
  have calls : halted.frontend.SourceOrder [.afterCount 2, .afterCount 3] _ :=
    .cons rfl .nil (.cons rfl .nil .nil)
  have body : halted.frontend.OrderBelow (.afterCount 0) _ := ⟨_, rfl, .cons rfl calls .nil⟩
  exact body

theorem ask_calls_of_walks_halted :
    let s : Session := start halted.frontend {}
    s.frontend.HasEntity (.afterCount 0) ⟨"f"⟩ ∧ s.frontend.scopeOf (.afterCount 0) = .ok {} ∧
    (s.ask (.calls (.afterCount 0))).1.isOk = false ∧
    ∃ read rest, [.afterCount 1, .afterCount 2, .afterCount 3] = read ++ rest ∧
      ∀ later, let t := ((s.ask (.calls (.afterCount 0))).2.askAll later).2
        (t.ask (.calls (.afterCount 0))).1 =
          .ok (.calls (read.filterMap (s.frontend.callAt {}))) ∧
        (s.frontend.HasBodyCalls t.graph (.afterCount 0) ↔
          rest.filterMap (s.frontend.callAt {}) = []) := by
  intro s
  have entity : s.frontend.HasEntity (.afterCount 0) ⟨"f"⟩ := ⟨_, rfl, rfl⟩
  have failed : (s.ask (.calls (.afterCount 0))).1.isOk = false := rfl
  obtain ⟨read, rest, split, _, later⟩ :=
    ask_calls_of_walks entity rfl orderBelow_halted (.inr ⟨rfl, failed⟩)
  exact ⟨entity, rfl, failed, read, rest, split, later⟩

/-- No request answers with a part of the calls of a function whose walk stopped before. -/
def NeverTruncates (fe : Frontend) (options : Options) : Prop :=
  ∀ before request f later all calls,
    let s := ((start fe options).askAll before).2
    let t := ((s.ask request).2.askAll later).2
    (s.ask request).1.isOk = false → (s.Walks request f ∨ request = .calls f) →
      fe.BodyCalls f all → (t.ask (.calls f)).1 = .ok (.calls calls) → calls = all

theorem not_neverTruncates_halted : ¬ NeverTruncates halted.frontend {} := by
  intro never
  have body : halted.frontend.BodyCalls (.afterCount 0) [callOfG, callOfG] :=
    ⟨{}, _, rfl, orderBelow_halted, rfl⟩
  have same : [callOfG] = [callOfG, callOfG] :=
    never [] (.calls (.afterCount 0)) (.afterCount 0) [] _ _ rfl (.inr rfl) body rfl
  cases same

/-! ### The first walk under an id -/

theorem contains_of_asked {requests : List Request} (entity : s.frontend.HasEntity f id)
    (asked : .calls f ∈ requests) : (s.askAll requests).2.graph.contains id = true := by
  induction requests generalizing s with
  | nil => cases asked
  | cons request requests ih =>
    obtain ⟨walks, first, walked⟩ := s.ask_follows request
    obtain ⟨_, rest⟩ := (s.ask request).2.askAll_follows requests
    rcases List.mem_cons.mp asked with rfl | later
    · have begun : (s.ask (.calls f)).2.graph.contains id = true := by
        apply (first.state.entries id).mpr
        cases present : s.graph.contains id with
        | true => exact .inl present
        | false => exact .inr ⟨f, walked f id rfl entity present, entity⟩
      exact (rest.state.entries id).mpr (.inl begun)
    · have entity' : (s.ask request).2.frontend.HasEntity f id := by
        rw [first.frontend]
        exact entity
      exact ih entity' later

/-- An entry that requests make is made by one of them. -/
theorem exists_request {requests : List Request} (absent : s.graph.contains id = false)
    (present : (s.askAll requests).2.graph.contains id = true) :
    ∃ before request after, requests = before ++ request :: after ∧
      (s.askAll before).2.graph.contains id = false ∧
      ((s.askAll before).2.ask request).2.graph.contains id = true ∧
      (s.askAll requests).2 = (((s.askAll before).2.ask request).2.askAll after).2 := by
  induction requests generalizing s with
  | nil =>
    have present : s.graph.contains id = true := present
    rw [absent] at present
    cases present
  | cons request requests ih =>
    cases made : (s.ask request).2.graph.contains id with
    | true => exact ⟨[], request, requests, rfl, absent, made, rfl⟩
    | false =>
      obtain ⟨before, request', after, rfl, absent', made', same⟩ := ih made present
      exact ⟨request :: before, request', after, rfl, absent', made', same⟩

/-- No two cursors are walked under one id. -/
theorem eq_of_walked {requests : List Request}
    (walked : f ∈ ((start fe options).askAll requests).2.state.walks)
    (walked' : g ∈ ((start fe options).askAll requests).2.state.walks)
    (entity : fe.HasEntity f id) (entity' : fe.HasEntity g id) : f = g := by
  obtain ⟨walks, run⟩ := (start fe options).askAll_follows requests
  have all : ((start fe options).askAll requests).2.state.walks = walks := run.state.walked
  rw [all] at walked walked'
  exact Frontend.eq_of_mem_walks run.state walked walked' entity entity'

/-- The entry of a function that was asked for has what one walk left: that of the only cursor
walked under its id. So once this walk was answered, it has the calls of the function exactly
if the same ones are written below that cursor. -/
theorem entry_of_first_walk {requests : List Request} (entity : fe.HasEntity f id)
    (asked : .calls f ∈ requests) :
    ∃ before request after g, requests = before ++ request :: after ∧
      let s := ((start fe options).askAll before).2
      let t := ((start fe options).askAll requests).2
      s.Walks request g ∧ fe.HasEntity g id ∧
        (∀ g' ∈ t.state.walks, fe.HasEntity g' id → g' = g) ∧
        fe.HasRead t.graph (s.ask request).1.isOk g ∧
        ((s.ask request).1.isOk = true →
          fe.HasBodyCalls t.graph g ∧ (fe.HasBodyCalls t.graph f ↔ fe.SameCalls f g)) := by
  have present : ((start fe options).askAll requests).2.graph.contains id = true :=
    contains_of_asked entity asked
  obtain ⟨before, request, after, rfl, absent, made, same⟩ := exists_request rfl present
  obtain ⟨_, earlier⟩ := (start fe options).askAll_follows before
  have frontend : ((start fe options).askAll before).2.frontend = fe := earlier.frontend
  obtain ⟨walks, first, _⟩ := ((start fe options).askAll before).2.ask_follows request
  obtain ⟨g, member, entity'⟩ : ∃ g ∈ walks, fe.HasEntity g id := by
    rw [← frontend]
    rcases (first.state.entries id).mp made with old | begun
    · exact absurd (absent.symm.trans old) Bool.false_ne_true
    · exact begun
  have walked : ((start fe options).askAll before).2.Walks request g :=
    ⟨walks, first.state.walked, member⟩
  have kept := hasRead_after walked after
  rw [frontend, ← same] at kept
  have reached := mem_walks_of_walks walked after
  rw [← same] at reached
  have only : ∀ g' ∈ ((start fe options).askAll (before ++ request :: after)).2.state.walks,
      fe.HasEntity g' id → g' = g := by
    intro g' member' entity''
    exact eq_of_walked member' reached entity'' entity'
  refine ⟨before, request, after, g, rfl, walked, entity', only, kept, fun answered => ?_⟩
  rw [answered] at kept
  have calls := Frontend.hasBodyCalls_of_hasRead kept
  exact ⟨calls, Frontend.hasBodyCalls_iff_sameCalls entity entity' calls⟩

/-- A function that is declared before it is defined. -/
def redeclared : Snapshot where
  cursors := #[
    { kind := .functionDecl, spelling := "f", entity := ⟨"f"⟩ },
    { kind := .functionDecl, spelling := "f", entity := ⟨"f"⟩, children := [.afterCount 2] },
    { kind := .compoundStmt, spelling := "", entity := ⟨"body"⟩, children := [.afterCount 3] },
    { kind := .callExpr, spelling := "g", entity := ⟨"call"⟩, type := some (.afterCount 0),
      referenced := some (.afterCount 4), tokens := ["g", "(", ")"] },
    { kind := .functionDecl, spelling := "g", entity := ⟨"g"⟩ }]
  types := #[{ kind := .int, spelling := "int" }]

theorem entry_of_first_walk_redeclared :
    let requests : List Request := [.calls (.afterCount 0), .calls (.afterCount 1)]
    redeclared.frontend.HasEntity (.afterCount 1) ⟨"f"⟩ ∧ .calls (.afterCount 1) ∈ requests ∧
    ∃ before request after g, requests = before ++ request :: after ∧
      let s := ((start redeclared.frontend {}).askAll before).2
      let t := ((start redeclared.frontend {}).askAll requests).2
      s.Walks request g ∧ redeclared.frontend.HasEntity g ⟨"f"⟩ ∧
        (∀ g' ∈ t.state.walks, redeclared.frontend.HasEntity g' ⟨"f"⟩ → g' = g) ∧
        redeclared.frontend.HasRead t.graph (s.ask request).1.isOk g ∧
        ((s.ask request).1.isOk = true → redeclared.frontend.HasBodyCalls t.graph g ∧
          (redeclared.frontend.HasBodyCalls t.graph (.afterCount 1) ↔
            redeclared.frontend.SameCalls (.afterCount 1) g)) := by
  intro requests
  have entity : redeclared.frontend.HasEntity (.afterCount 1) ⟨"f"⟩ := ⟨_, rfl, rfl⟩
  have asked : .calls (.afterCount 1) ∈ requests := by decide
  exact ⟨entity, asked, entry_of_first_walk entity asked⟩

/-- `declaration` declares the free function that `definition` defines, without a body. -/
structure Declares (fe : Frontend) (declaration definition : Cursor) : Prop where
  shared : ∃ id, fe.HasEntity declaration id ∧ fe.HasEntity definition id
  functions : ∀ c ∈ [declaration, definition],
    ∃ facts, fe.cursor? c = some facts ∧ facts.kind = .functionDecl
  bodiless : ∃ order, fe.OrderBelow declaration order ∧
    ∀ c ∈ order, ∀ facts, fe.cursor? c = some facts → facts.kind ≠ .compoundStmt

/-- A request for the calls of a definition that is answered leaves all of them in the graph,
whatever was asked for before. -/
def KeepsDefinitions (fe : Frontend) (options : Options) : Prop :=
  ∀ declaration definition before answer t, Declares fe declaration definition →
    ((start fe options).askAll before).2.ask (.calls definition) = (.ok answer, t) →
      fe.HasBodyCalls t.graph definition

theorem not_keepsDefinitions_redeclared : ¬ KeepsDefinitions redeclared.frontend {} := by
  intro keeps
  have declares : Declares redeclared.frontend (.afterCount 0) (.afterCount 1) := by
    refine ⟨⟨⟨"f"⟩, ⟨_, rfl, rfl⟩, _, rfl, rfl⟩, ?_, [], ⟨_, rfl, .nil⟩, nofun⟩
    intro c member
    simp only [List.mem_cons, List.not_mem_nil, or_false] at member
    rcases member with rfl | rfl
    · exact ⟨_, rfl, rfl⟩
    · exact ⟨_, rfl, rfl⟩
  have left := keeps _ _ [.calls (.afterCount 0)] _ _ declares rfl
  have entity : redeclared.frontend.HasEntity (.afterCount 1) ⟨"f"⟩ := ⟨_, rfl, rfl⟩
  rw [Frontend.hasBodyCalls_iff entity] at left
  have body : redeclared.frontend.BodyCalls (.afterCount 1) [callOfG] :=
    ⟨{}, _, rfl, ⟨_, rfl, .cons rfl (.cons rfl .nil .nil) .nil⟩, rfl⟩
  have same : [] = [callOfG] := Frontend.bodyCalls_unique left body
  cases same

end Session
end CxxTrees
