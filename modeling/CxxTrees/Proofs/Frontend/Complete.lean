import CxxTrees.Proofs.Frontend.Links

/-!
# Complete types

What a frontend has to know of its types so that every type that is not invalid can be
built: nothing but a template argument is invalid, and the parts that a kind of type is made
of are there.
-/

namespace CxxTrees

namespace Fault

/-- Faults of a type that lacks a part, or has an invalid one. -/
inductive OfParts : Fault → Prop where
  | type (spelling : String) : OfParts (.invalidType spelling)
  | result (spelling : String) : OfParts (.missingResultType spelling)
  | parameter (spelling : String) (index : Nat) : OfParts (.invalidArgumentCount spelling index)

/-- Faults of reading what a type is spelled like, and the names in it. -/
inductive OfReading : Fault → Prop where
  | parameter (name template : String) : OfReading (.ambiguousTemplateParameter name template)
  | template (name scope : String) : OfReading (.ambiguousTemplateTemplateParameter name scope)
  | malformed (spelling reason : String) : OfReading (.malformedSpelling spelling reason)

/-- Faults of what a type is spelled like, and of the names in it. -/
inductive OfSpelling : Fault → Prop where
  | canonical (spelling : String) (form : NodeClass) :
    OfSpelling (.canonicalKindMismatch spelling form)
  | parameter (name template : String) : OfSpelling (.ambiguousTemplateParameter name template)
  | template (name scope : String) : OfSpelling (.ambiguousTemplateTemplateParameter name scope)
  | malformed (spelling reason : String) : OfSpelling (.malformedSpelling spelling reason)

theorem OfReading.ofSpelling {fault : Fault} (reading : fault.OfReading) : fault.OfSpelling := by
  cases reading with
  | parameter name template => exact .parameter name template
  | template name scope => exact .template name scope
  | malformed spelling reason => exact .malformed spelling reason

end Fault

/-- The facts of a type refer to another one that it is built from. -/
inductive TypeFacts.Needs (facts : TypeFacts) (u : TypeHandle) : Prop where
  | pointee (link : facts.pointee = some u)
  | element (link : facts.element = some u)
  | result (link : facts.result = some u)
  | parameter (i : Nat) (link : facts.parameter i = some u)
  | ofClass (link : facts.ofClass = some u)
  | canonical (link : facts.canonical = u)

/-- Kinds of types that point or refer to another one. -/
def TypeKind.pointsTo (kind : TypeKind) : Bool :=
  [.pointer, .lvalueReference, .rvalueReference, .memberPointer].contains kind

def TypeKind.isFunction (kind : TypeKind) : Bool :=
  [.functionNoProto, .functionProto].contains kind

namespace Frontend

def IsValid (fe : Frontend) (t : TypeHandle) : Prop :=
  ∀ facts, fe.type? t = some facts → facts.kind ≠ .invalid

/-- Types have the parts that they are built from. -/
structure Complete (fe : Frontend) : Prop where
  valid : ∀ {t u facts}, fe.type? t = some facts → facts.kind ≠ .invalid → facts.Needs u →
    fe.IsValid u
  pointee : ∀ {t facts}, fe.type? t = some facts → facts.kind.pointsTo = true →
    facts.pointee ≠ none
  ofClass : ∀ {t facts}, fe.type? t = some facts → facts.kind = .memberPointer →
    facts.ofClass ≠ none
  element : ∀ {t facts facts'}, fe.type? t = some facts → facts.kind.isArray = true →
    fe.type? facts.canonical = some facts' → facts.element ≠ none ∨ facts'.element ≠ none
  result : ∀ {t facts}, fe.type? t = some facts → facts.kind.isFunction = true →
    facts.result ≠ none
  parameters : ∀ {t facts}, fe.type? t = some facts → facts.result ≠ none →
    ∃ count, facts.parameterCount = some count ∧ ∀ i < count, facts.parameter i ≠ none

variable {fe : Frontend} {t u : TypeHandle} {facts : TypeFacts}

theorem isValid_of_known (known : fe.type? t = some facts) (valid : facts.kind ≠ .invalid) :
    fe.IsValid t := by
  intro facts' known'
  rwa [Option.mem_unique known' known]

theorem Complete.needed (complete : fe.Complete) (known : fe.type? t = some facts)
    (valid : fe.IsValid t) (needs : facts.Needs u) : fe.IsValid u :=
  complete.valid known (valid facts known) needs

end Frontend

end CxxTrees
