import CxxTrees.Proofs.Calls.Advance
import CxxTrees.Proofs.Calls.Walk

/-!
# Walks that may stop

Collecting the calls of a function advances a run, whether it is answered or not:
by one cursor after the other of its body, and at a call that is followed by the
walk of another body. `collect_advances` carries this through all the walks inside
of a walk.
-/

namespace CxxTrees.Frontend
variable {fe : Frontend} {options : Options} {scope : CallScope} {c f g : Cursor}
  {facts : CursorFacts} {id own : EntityId} {answered : Bool} {collect : Cursor → Run Unit}
  {s t : RunState}

/-- Where an expression ends: at once as far as the graph goes, or as the walk of a body that
it leads to. -/
inductive EndsWithWalk (collect : Cursor → Run Unit) (s : RunState) : Bool → RunState → Prop where
  | idle {answered : Bool} {t : RunState} (graph : t.graph = s.graph) (walks : t.walks = s.walks) :
      EndsWithWalk collect s answered t
  | walk {g : Cursor} {b : Option Unit} {u t : RunState} (graph : u.graph = s.graph)
      (walks : u.walks = s.walks) (walk : Run.Ends (collect g) u b t) :
      EndsWithWalk collect s b.isSome t

theorem endsWithWalk_after {u : RunState} (graph : u.graph = s.graph) (walks : u.walks = s.walks)
    (h : EndsWithWalk collect u answered t) : EndsWithWalk collect s answered t := by
  cases h with
  | idle graph' walks' => exact .idle (graph'.trans graph) (walks'.trans walks)
  | walk graph' walks' walk => exact .walk (graph'.trans graph) (walks'.trans walks) walk

theorem callWith_ends {b : Option (Option Call)}
    (h : Run.Ends (fe.callWith options collect scope facts) s b t) :
    EndsWithWalk collect s b.isSome t := by
  rcases Run.ends_look h with ⟨rfl, rfl, _⟩ | ⟨target, _, rest⟩
  · exact .idle rfl rfl
  cases target with
  | none =>
    rcases Run.ends_bind rest with ⟨rfl, stopped⟩ | ⟨_, u, reported, rest⟩
    · cases (Run.ends_emit stopped).1
    · obtain ⟨_, graph, walks⟩ := Run.ends_emit reported
      obtain ⟨rfl, rfl⟩ := Run.ends_pure rest
      exact .idle graph (walks.trans (List.append_nil _))
  | some target =>
    cases body : target.body with
    | none =>
      simp only [body] at rest
      obtain ⟨rfl, rfl⟩ := Run.ends_pure rest
      exact .idle rfl rfl
    | some g =>
      simp only [body] at rest
      split at rest
      · rcases Run.ends_bind rest with ⟨rfl, stopped⟩ | ⟨_, u, walked, rest⟩
        · exact .walk rfl rfl stopped
        · obtain ⟨rfl, rfl⟩ := Run.ends_pure rest
          exact .walk rfl rfl walked
      · obtain ⟨rfl, rfl⟩ := Run.ends_pure rest
        exact .idle rfl rfl

theorem expressionWith_ends {b : Option (Option Expr)}
    (h : Run.Ends (fe.expressionWith options collect scope c) s b t) :
    EndsWithWalk collect s b.isSome t := by
  rcases Run.ends_look h with ⟨rfl, rfl, _⟩ | ⟨facts, _, rest⟩
  · exact .idle rfl rfl
  split at rest
  · obtain ⟨rfl, rfl⟩ := Run.ends_throw rest
    exact .idle rfl rfl
  rcases Run.ends_bind rest with ⟨rfl, stopped⟩ | ⟨type, u, built, rest⟩
  · obtain ⟨graph, walks⟩ := Run.ends_type stopped
    exact .idle graph walks
  obtain ⟨graph, walks⟩ := Run.ends_type built
  split at rest
  · split at rest
    · obtain ⟨rfl, rfl⟩ := Run.ends_pure rest
      exact .idle graph walks
    · rcases Run.ends_bind rest with ⟨rfl, stopped⟩ | ⟨call, v, called, rest⟩
      · exact endsWithWalk_after graph walks (callWith_ends stopped)
      · have walked := endsWithWalk_after graph walks (callWith_ends called)
        split at rest
        all_goals
          obtain ⟨rfl, rfl⟩ := Run.ends_pure rest
          exact walked
  · split at rest
    all_goals
      obtain ⟨rfl, rfl⟩ := Run.ends_pure rest
      exact .idle graph walks

/-- The expression at a call is the call written there. -/
theorem expressionWith_callAt {answer : Option Expr} (known : fe.cursor? c = some facts)
    (kind : facts.kind = .callExpr)
    (h : (fe.expressionWith options collect scope c).run s = .ok answer t) :
    answer.bind Expr.call? = fe.callAt scope c := by
  rcases expressionWith_call known kind h with ⟨unwritten, rfl, _⟩ |
    ⟨written, call, u, _, called, same⟩
  · simp only [callAt, known, if_neg unwritten, Option.bind_none]
  · obtain ⟨target, found, rfl, _⟩ := callWith_ok called
    rw [same, callAt_written known written found]

theorem recordWith_ends {b : Option Unit}
    (h : Run.Ends (fe.recordWith options collect scope own c) s b t) :
    ∃ u, EndsWithWalk collect s b.isSome u ∧
      (b = none ∧ t = u ∨ b = some () ∧ (∃ facts, fe.cursor? c = some facts) ∧
        t.walks = u.walks ∧ t.graph = match fe.callAt scope c with
          | none => u.graph
          | some call => u.graph.record own call) := by
  rcases Run.ends_look h with ⟨rfl, rfl, _⟩ | ⟨facts, looked, rest⟩
  · exact ⟨t, .idle rfl rfl, .inl ⟨rfl, rfl⟩⟩
  have known := cursor_ok looked
  split at rest
  · rename_i kind
    rcases Run.ends_bind rest with ⟨rfl, stopped⟩ | ⟨expression, u, built, rest⟩
    · exact ⟨t, expressionWith_ends stopped, .inl ⟨rfl, rfl⟩⟩
    · have walked := expressionWith_ends built
      have written : expression.bind Expr.call? = fe.callAt scope c := by
        cases built with
        | answered built => exact expressionWith_callAt known kind built
      cases expression with
      | none =>
        obtain ⟨rfl, rfl⟩ := Run.ends_pure rest
        refine ⟨t, walked, .inr ⟨rfl, ⟨facts, known⟩, rfl, ?_⟩⟩
        rw [← written]
        rfl
      | some e =>
        cases called : e.call? with
        | none =>
          simp only [called] at rest
          obtain ⟨rfl, rfl⟩ := Run.ends_pure rest
          refine ⟨t, walked, .inr ⟨rfl, ⟨facts, known⟩, rfl, ?_⟩⟩
          rw [← written, Option.bind_some, called]
        | some call =>
          simp only [called] at rest
          obtain ⟨rfl, rfl⟩ := Run.ends_modify rest
          refine ⟨u, walked, .inr ⟨rfl, ⟨facts, known⟩, rfl, ?_⟩⟩
          rw [← written, Option.bind_some, called]
  · rename_i kind
    obtain ⟨rfl, rfl⟩ := Run.ends_pure rest
    refine ⟨t, .idle rfl rfl, .inr ⟨rfl, ⟨facts, known⟩, rfl, ?_⟩⟩
    have unwritten : ¬ facts.IsWrittenCall := fun written => kind written.1
    simp only [callAt, known, if_neg unwritten]

/-! ### One cursor after the other -/

/-- Collecting the calls of a function fills no entry but those it begins. -/
def Collecting (fe : Frontend) (collect : Cursor → Run Unit) : Prop :=
  ∀ c s b t, Run.Ends (collect c) s b t → ∃ walks, fe.Advances none [] b.isSome walks s t

variable {added : List Call} {walks : List Cursor}

theorem advances_of_walk (collecting : fe.Collecting collect)
    (h : EndsWithWalk collect s answered t) : ∃ walks, fe.Advances none [] answered walks s t := by
  cases h with
  | idle graph walks => exact ⟨[], advances_of_same graph walks⟩
  | walk graph walked walk =>
    obtain ⟨walks, after⟩ := collecting _ _ _ _ walk
    have before : fe.Advances none [] true [] s _ := advances_of_same graph walked
    exact ⟨walks, advances_trans (fun own filling => by cases filling) before after⟩

theorem advances_record {call : Call} (present : s.graph.contains own = true)
    (graph : t.graph = s.graph.record own call) (walks : t.walks = s.walks) :
    fe.Advances (some own) [call] answered [] s t where
  walked := by rw [walks, List.append_nil]
  calls id old := by
    rw [graph, CallGraph.callsFrom_record]
    by_cases same : id = own
    · subst same
      simp
    · simp [same, Ne.symm same]
  entries id := by
    rw [graph, CallGraph.contains_record]
    constructor
    · rintro (old | rfl)
      · exact .inl old
      · exact .inl present
    · rintro (old | ⟨g, member, _⟩)
      · exact .inl old
      · cases member
  fresh g member := by cases member
  once := .nil
  read g member := by cases member

/-- A visit to one cursor adds the call there to the entry `own`, unless it stops. -/
def AdvancesAt (fe : Frontend) (scope : CallScope) (own : EntityId) (visit : Cursor → Run Unit) :
    Prop :=
  ∀ c s b t, s.graph.contains own = true → Run.Ends (visit c) s b t →
    (∃ walks, fe.Advances (some own) (if b.isSome then (fe.callAt scope c).toList else [])
      b.isSome walks s t) ∧ (b.isSome = true → ∃ facts, fe.cursor? c = some facts)

theorem recordWith_advances (collecting : fe.Collecting collect) :
    fe.AdvancesAt scope own (fe.recordWith options collect scope own) := by
  intro c s b t present h
  obtain ⟨u, walk, rest⟩ := recordWith_ends h
  obtain ⟨walks, before⟩ := advances_of_walk collecting walk
  rcases rest with ⟨rfl, rfl⟩ | ⟨rfl, known, walked, graph⟩
  · exact ⟨⟨walks, advances_inside before⟩, fun answered => by cases answered⟩
  · have present' : u.graph.contains own = true := (before.entries own).mpr (.inl present)
    have inside : fe.Advances (some own) [] true walks s u := advances_inside before
    have recorded : fe.Advances (some own) (fe.callAt scope c).toList true [] u t := by
      cases written : fe.callAt scope c with
      | none =>
        rw [written] at graph
        exact advances_of_same graph walked
      | some call =>
        rw [written] at graph
        exact advances_record present' graph walked
    exact ⟨⟨walks ++ [], advances_trans_filling present inside recorded⟩, fun _ => known⟩

/-! ### Whole bodies -/

/-- Part of a body was walked: the calls at `read` were added to the entry `own`. -/
def AdvancesOver (fe : Frontend) (scope : CallScope) (own : EntityId) (answered : Bool)
    (cs : List Cursor) (s t : RunState) : Prop :=
  ∃ read walks, fe.ReadsPart answered cs read ∧
    fe.Advances (some own) (read.filterMap (fe.callAt scope)) answered walks s t

variable {b : Option Unit} {visit below : Cursor → Run Unit}

theorem forM_advances (visits : fe.AdvancesAt scope own visit)
    (belows : ∀ c facts s b t, fe.cursor? c = some facts → s.graph.contains own = true →
      Run.Ends (below c) s b t → fe.AdvancesOver scope own b.isSome facts.children s t)
    (cs : List Cursor) (s : RunState) (present : s.graph.contains own = true)
    (h : Run.Ends (cs.forM fun c => do visit c; below c) s b t) :
    fe.AdvancesOver scope own b.isSome cs s t := by
  induction cs generalizing s with
  | nil =>
    obtain ⟨rfl, rfl⟩ := Run.ends_pure h
    exact ⟨[], [], readsPart_of_order .nil, advances_of_same rfl rfl⟩
  | cons c cs ih =>
    rcases Run.ends_bind h with ⟨rfl, stopped⟩ | ⟨_, v, child, rest⟩
    · -- The walk stops at the first cursor or below it.
      rcases Run.ends_bind stopped with ⟨_, stopped⟩ | ⟨_, u, visited, stopped⟩
      · obtain ⟨⟨walks, after⟩, _⟩ := visits c s none t present stopped
        exact ⟨[], walks, readsPart_nil, after⟩
      · obtain ⟨⟨walks, after⟩, looked⟩ := visits c s _ u present visited
        obtain ⟨facts, known⟩ := looked rfl
        have present' := (after.entries own).mpr (.inl present)
        obtain ⟨read, walks', part, inside⟩ := belows c facts u none t known present' stopped
        refine ⟨c :: read, walks ++ walks', readsPart_inside known part, ?_⟩
        have both := advances_trans_filling present after inside
        cases written : fe.callAt scope c <;> simpa [written, List.filterMap_cons] using both
    · rcases Run.ends_bind child with ⟨none, _⟩ | ⟨_, u, visited, child⟩
      · cases none
      obtain ⟨⟨walks, after⟩, looked⟩ := visits c s _ u present visited
      obtain ⟨facts, known⟩ := looked rfl
      have present' := (after.entries own).mpr (.inl present)
      obtain ⟨read, walks', part, inside⟩ := belows c facts u _ v known present' child
      have present'' := (inside.entries own).mpr (.inl present')
      obtain ⟨later, walks'', part', onwards⟩ := ih v present'' rest
      refine ⟨c :: read ++ later, walks ++ (walks' ++ walks''),
        readsPart_after known (part.whole rfl) part', ?_⟩
      have both := advances_trans_filling present after
        (advances_trans_filling present' inside onwards)
      cases written : fe.callAt scope c <;>
        simpa [written, List.filterMap_cons, List.filterMap_append] using both

theorem visitBelowWithin_advances (visits : fe.AdvancesAt scope own visit) (limit : Nat)
    (known : fe.cursor? c = some facts) (present : s.graph.contains own = true)
    (h : Run.Ends (fe.visitBelowWithin visit limit c) s b t) :
    fe.AdvancesOver scope own b.isSome facts.children s t := by
  induction limit generalizing c facts s b t with
  | zero =>
    obtain ⟨rfl, rfl⟩ := Run.ends_throw h
    exact ⟨[], [], readsPart_nil, advances_of_same rfl rfl⟩
  | succ limit ih =>
    rcases Run.ends_look h with ⟨rfl, rfl, _⟩ | ⟨facts', looked, rest⟩
    · exact ⟨[], [], readsPart_nil, advances_of_same rfl rfl⟩
    · obtain rfl := Option.mem_unique known (cursor_ok looked)
      exact forM_advances visits (fun c facts s b t known present h => ih known present h)
        facts.children s present rest

/-- What is done to a body adds up to a walk that begins at its function. -/
theorem advances_begun {u : RunState} (known : fe.cursor? c = some facts)
    (fresh : s.graph.contains facts.entity = false) (graph : u.graph = s.graph.insert facts.entity)
    (walked : u.walks = s.walks ++ [c])
    (body : fe.Advances (some facts.entity) added answered walks u t)
    (read : fe.HasRead t.graph answered c) :
    fe.Advances none [] answered (c :: walks) s t := by
  have entity : fe.HasEntity c facts.entity := ⟨facts, known, rfl⟩
  have marked (id : EntityId) :
      u.graph.contains id = true ↔ s.graph.contains id = true ∨ id = facts.entity := by
    rw [graph, CallGraph.contains_insert]
  refine ⟨?_, fun id old => ?_, fun id => ?_, fun g member id entity' => ?_, ?_,
    fun g member => ?_⟩
  · rw [body.walked, walked, List.append_assoc, List.singleton_append]
  · have other : some facts.entity ≠ some id := by
      intro same
      obtain rfl := Option.some.inj same
      rw [fresh] at old
      cases old
    rw [body.calls id ((marked id).mpr (.inl old)), if_neg other, graph,
      CallGraph.callsFrom_insert]
    rfl
  · rw [body.entries, marked]
    constructor
    · rintro ((old | rfl) | ⟨g, member, entity'⟩)
      · exact .inl old
      · exact .inr ⟨c, List.mem_cons_self, entity⟩
      · exact .inr ⟨g, List.mem_cons_of_mem c member, entity'⟩
    · rintro (old | ⟨g, member, entity'⟩)
      · exact .inl (.inl old)
      · rcases List.mem_cons.mp member with rfl | member
        · exact .inl (.inr (hasEntity_unique entity' entity))
        · exact .inr ⟨g, member, entity'⟩
  · rcases List.mem_cons.mp member with rfl | member
    · rw [hasEntity_unique entity' entity]
      exact fresh
    · have absent := body.fresh g member id entity'
      rw [Bool.eq_false_iff] at absent ⊢
      exact fun old => absent ((marked id).mpr (.inl old))
  · refine List.pairwise_cons.mpr ⟨fun g member id entity' other => ?_, body.once⟩
    have absent := body.fresh g member id other
    rw [(marked id).mpr (.inr (hasEntity_unique entity' entity))] at absent
    cases absent
  · rcases List.mem_cons.mp member with rfl | member
    · exact read
    · exact body.read g member

/-- A request for the calls of a function marks it, and walks its body if it was not marked. -/
theorem collectStep_advances {limit : Nat} (inner : fe.Collecting (fe.collectWithin options limit))
    (h : Run.Ends (fe.collectWithin options (limit + 1) c) s b t) :
    ∃ walks, fe.Advances none [] b.isSome walks s t ∧
      ∀ id, fe.HasEntity c id → s.graph.contains id = false → c ∈ walks := by
  rcases Run.ends_look h with ⟨rfl, rfl, unknown⟩ | ⟨facts, looked, rest⟩
  · refine ⟨[], advances_of_same rfl rfl, fun id entity => ?_⟩
    obtain ⟨facts, known, _⟩ := entity
    have looked : fe.cursor c = .ok facts := by rw [Frontend.cursor, known]
    exact absurd looked (unknown facts)
  have known := cursor_ok looked
  rcases Run.ends_bind rest with ⟨_, stopped⟩ | ⟨fresh, u, reached, rest⟩
  · cases (Run.ends_reach stopped).1
  obtain ⟨same, graph, walked⟩ := Run.ends_reach reached
  obtain rfl := Option.some.inj same
  cases old : s.graph.contains facts.entity with
  | true =>
    -- The body was walked before, or is being walked further out.
    simp only [old] at rest
    obtain ⟨rfl, rfl⟩ := Run.ends_pure rest
    rw [CallGraph.insert_of_contains old] at graph
    refine ⟨[], advances_of_same graph walked, fun id entity absent => ?_⟩
    rw [hasEntity_unique entity ⟨facts, known, rfl⟩, old] at absent
    cases absent
  | false =>
    simp only [old] at rest
    rcases Run.ends_bind rest with ⟨_, stopped⟩ | ⟨_, v, announced, rest⟩
    · cases (Run.ends_emit stopped).1
    obtain ⟨_, graph', walked'⟩ := Run.ends_emit announced
    have graph'' : v.graph = s.graph.insert facts.entity := graph'.trans graph
    have walked'' : v.walks = s.walks ++ [c] := by
      rw [walked', walked]
      rfl
    rcases Run.ends_look rest with ⟨rfl, rfl, unseen⟩ | ⟨scope, seen, rest⟩
    · have read : fe.HasRead t.graph false c :=
        ⟨facts, [], known, readsPart_nil, fun answered => absurd answered Bool.false_ne_true,
          fun scope found => absurd found (unseen scope)⟩
      refine ⟨[c], ?_, fun id _ _ => List.mem_cons_self⟩
      exact advances_begun known old graph'' walked'' (advances_of_same rfl rfl) read
    · have present : v.graph.contains facts.entity = true := by
        rw [graph'']
        exact CallGraph.contains_insert.mpr (.inr rfl)
      obtain ⟨read, walks, part, body⟩ :=
        visitBelowWithin_advances (recordWith_advances inner) fe.descentLimit known present rest
      have calls : t.graph.callsFrom facts.entity = read.filterMap (fe.callAt scope) := by
        rw [body.calls _ present, if_pos rfl, graph'', CallGraph.callsFrom_insert,
          CallGraph.callsFrom_of_not_contains old, List.nil_append]
      have filled : fe.HasRead t.graph b.isSome c := by
        refine ⟨facts, read, known, part, fun _ => ⟨scope, seen⟩, fun scope' found => ?_⟩
        obtain rfl := Except.ok.inj (seen.symm.trans found)
        exact calls
      refine ⟨c :: walks, ?_, fun id _ _ => List.mem_cons_self⟩
      exact advances_begun known old graph'' walked'' body filled

theorem collectWithin_collecting (limit : Nat) :
    fe.Collecting (fe.collectWithin options limit) := by
  induction limit with
  | zero =>
    intro c s b t h
    obtain ⟨rfl, rfl⟩ := Run.ends_throw h
    exact ⟨[], advances_of_same rfl rfl⟩
  | succ limit ih =>
    intro c s b t h
    obtain ⟨walks, after, _⟩ := collectStep_advances ih h
    exact ⟨walks, after⟩

theorem collect_advances (h : Run.Ends (fe.collect options c) s b t) :
    ∃ walks, fe.Advances none [] b.isSome walks s t ∧
      ∀ id, fe.HasEntity c id → s.graph.contains id = false → c ∈ walks :=
  collectStep_advances (collectWithin_collecting _) h

end CxxTrees.Frontend
