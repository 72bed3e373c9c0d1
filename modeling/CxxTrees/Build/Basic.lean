import CxxTrees.Report

/-!
# Builds

Types are built wherever tables can be looked up and events noted: in a run, which
has a state of its own, or each for itself. A `Build` for itself is its events and
its answer, or why it stops.
-/

namespace CxxTrees

/-- What happens on the way to an answer. -/
inductive Event where
  /-- One of several readings gave an answer. -/
  | reading (name : String)
  /-- The body of a function is walked for calls. -/
  | walking (function : Cursor) (spelling : String)
  | report (r : Report)
deriving DecidableEq

namespace Event

/-- The line that the log has of an event. -/
def line : Event → String
  | reading name => "TRACE '" ++ name ++ "' strategy succeeded"
  | walking _ spelling => "DEBUG collecting calls of '" ++ spelling ++ "'"
  | report r => r.line

def report? : Event → Option Report
  | report r => some r
  | _ => none

end Event

/-- The reports of this library are marked as its own. -/
def reportSource : String := "reconstruct"

/-- Computations that note the events on their way. -/
class MonadEvents (m : Type → Type) where
  emit : Event → m Unit

structure Build (α : Type) where
  events : List Event
  outcome : Except Stop α

namespace Build

protected def pure (a : α) : Build α := ⟨[], .ok a⟩

protected def bind (x : Build α) (f : α → Build β) : Build β :=
  match x.outcome with
  | .ok a =>
    let y := f a
    ⟨x.events ++ y.events, y.outcome⟩
  | .error stop => ⟨x.events, .error stop⟩

instance : Monad Build where
  pure := Build.pure
  bind := Build.bind

def lift (x : Except Stop α) : Build α := ⟨[], x⟩

instance : MonadLift (Except Stop) Build := ⟨lift⟩

def emit (event : Event) : Build Unit := ⟨[event], .ok ()⟩

instance : MonadEvents Build := ⟨emit⟩

section
variable {m : Type → Type} [MonadLift (Except Stop) m]

def stop (stop : Stop) : m α := liftM (Except.error stop : Except Stop α)

def fail (fault : Fault) : m α := stop (.fault fault)

end

theorem pure_eq (a : α) : (pure a : Build α) = ⟨[], .ok a⟩ := rfl

theorem bind_of_ok {x : Build α} {a : α} (h : x.outcome = .ok a) (f : α → Build β) :
    x >>= f = ⟨x.events ++ (f a).events, (f a).outcome⟩ := by
  change x.bind f = _
  simp only [Build.bind, h]

theorem bind_of_error {x : Build α} {stop : Stop} (h : x.outcome = .error stop) (f : α → Build β) :
    x >>= f = ⟨x.events, .error stop⟩ := by
  change x.bind f = _
  simp only [Build.bind, h]

private theorem id_map (x : Build α) : id <$> x = x := by
  rcases x with ⟨events, outcome⟩
  cases outcome <;> simp [Functor.map, Build.bind, Build.pure]

private theorem bind_assoc (x : Build α) (f : α → Build β) (g : β → Build γ) :
    x >>= f >>= g = x >>= fun a => f a >>= g := by
  rcases x with ⟨events, outcome⟩
  cases outcome with
  | error stop => rfl
  | ok a =>
    simp only [bind, Build.bind]
    cases (f a).outcome <;> simp [List.append_assoc]

instance : LawfulMonad Build :=
  LawfulMonad.mk' Build id_map
    (fun a f => by simp only [pure, bind, Build.pure, Build.bind, List.nil_append]) bind_assoc

end Build

end CxxTrees
