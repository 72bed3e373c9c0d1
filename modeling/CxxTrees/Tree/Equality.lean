import CxxTrees.Tree.Basic

/-!
# Equality of trees

Equality of type and expression trees is decidable. Canonical forms are part of
it: a type with one differs from the same type without.
-/

namespace CxxTrees

mutual

def Ty.same : Ty → Ty → Bool
  | .mk a c, .mk b d => a.same b && Ty.sameCanonical c d
termination_by structural a => a

def Ty.sameCanonical : Option Ty → Option Ty → Bool
  | none, none => true
  | some a, some b => a.same b
  | _, _ => false
termination_by structural a => a

def Node.same : Node → Node → Bool
  | .builtin a, .builtin b => a = b
  | .pointer a, .pointer b => a.same b
  | .reference a j, .reference b k => a.same b && j = k
  | .qualified a j, .qualified b k => a.same b && j = k
  | .array a m, .array b n => a.same b && Expr.sameSize m n
  | .function a p v, .function b q w => a.same b && Ty.sameList p q && v = w
  | .memberObject a c, .memberObject b d => a.same b && c.same d
  | .memberFunction a c p v, .memberFunction b d q w =>
    a.same b && c.same d && Ty.sameList p q && v = w
  | .templateParameter a, .templateParameter b => a = b
  | .instantiation a p, .instantiation b q => a = b && p.same q
  | .userDefined a, .userDefined b => a = b
  | .decltype a, .decltype b => a.same b
  | .auto, .auto => true
  | .unexposed a, .unexposed b => a = b
  | _, _ => false
termination_by structural a => a

def Ty.sameList : List Ty → List Ty → Bool
  | [], [] => true
  | a :: p, b :: q => a.same b && Ty.sameList p q
  | _, _ => false
termination_by structural a => a

def Expr.same : Expr → Expr → Bool
  | .mk a m, .mk b n => a.same b && m = n
termination_by structural a => a

def Expr.sameSize : Option Expr → Option Expr → Bool
  | none, none => true
  | some a, some b => a.same b
  | _, _ => false
termination_by structural a => a

def Arguments.same : Arguments → Arguments → Bool
  | .exposed p, .exposed q => Argument.sameList p q
  | .raw a, .raw b => a = b
  | _, _ => false
termination_by structural a => a

def Argument.sameList : List Argument → List Argument → Bool
  | [], [] => true
  | a :: p, b :: q => a.same b && Argument.sameList p q
  | _, _ => false
termination_by structural a => a

def Argument.same : Argument → Argument → Bool
  | .type a, .type b => a.same b
  | .expr a, .expr b => a.same b
  | _, _ => false
termination_by structural a => a

end

mutual

theorem Ty.same_iff : ∀ a b : Ty, a.same b = true ↔ a = b
  | .mk a c, .mk b d => by simp [Ty.same, Node.same_iff a b, Ty.sameCanonical_iff c d]

theorem Ty.sameCanonical_iff : ∀ a b : Option Ty, Ty.sameCanonical a b = true ↔ a = b
  | none, b => by cases b <;> simp [Ty.sameCanonical]
  | some a, none => by simp [Ty.sameCanonical]
  | some a, some b => by simp [Ty.sameCanonical, Ty.same_iff a b]

theorem Node.same_iff : ∀ a b : Node, a.same b = true ↔ a = b
  | .builtin a, b => by cases b <;> simp [Node.same]
  | .pointer a, b => by cases b <;> simp [Node.same, Ty.same_iff a]
  | .reference a k, b => by cases b <;> simp [Node.same, Ty.same_iff a]
  | .qualified a k, b => by cases b <;> simp [Node.same, Ty.same_iff a]
  | .array a m, b => by cases b <;> simp [Node.same, Ty.same_iff a, Expr.sameSize_iff m]
  | .function a p v, b => by
    cases b <;> simp [Node.same, Ty.same_iff a, Ty.sameList_iff p, and_assoc]
  | .memberObject a c, b => by cases b <;> simp [Node.same, Ty.same_iff a, Ty.same_iff c]
  | .memberFunction a c p v, b => by
    cases b <;> simp [Node.same, Ty.same_iff a, Ty.same_iff c, Ty.sameList_iff p, and_assoc]
  | .templateParameter a, b => by cases b <;> simp [Node.same]
  | .instantiation a p, b => by cases b <;> simp [Node.same, Arguments.same_iff p]
  | .userDefined a, b => by cases b <;> simp [Node.same]
  | .decltype a, b => by cases b <;> simp [Node.same, Expr.same_iff a]
  | .auto, b => by cases b <;> simp [Node.same]
  | .unexposed a, b => by cases b <;> simp [Node.same]

theorem Ty.sameList_iff : ∀ a b : List Ty, Ty.sameList a b = true ↔ a = b
  | [], b => by cases b <;> simp [Ty.sameList]
  | a :: p, b => by cases b <;> simp [Ty.sameList, Ty.same_iff a, Ty.sameList_iff p]

theorem Expr.same_iff : ∀ a b : Expr, a.same b = true ↔ a = b
  | .mk a m, .mk b n => by simp [Expr.same, Ty.same_iff a b]

theorem Expr.sameSize_iff : ∀ a b : Option Expr, Expr.sameSize a b = true ↔ a = b
  | none, b => by cases b <;> simp [Expr.sameSize]
  | some a, none => by simp [Expr.sameSize]
  | some a, some b => by simp [Expr.sameSize, Expr.same_iff a b]

theorem Arguments.same_iff : ∀ a b : Arguments, a.same b = true ↔ a = b
  | .exposed p, b => by cases b <;> simp [Arguments.same, Argument.sameList_iff p]
  | .raw a, b => by cases b <;> simp [Arguments.same]

theorem Argument.sameList_iff : ∀ a b : List Argument, Argument.sameList a b = true ↔ a = b
  | [], b => by cases b <;> simp [Argument.sameList]
  | a :: p, b => by
    cases b <;> simp [Argument.sameList, Argument.same_iff a, Argument.sameList_iff p]

theorem Argument.same_iff : ∀ a b : Argument, a.same b = true ↔ a = b
  | .type a, b => by cases b <;> simp [Argument.same, Ty.same_iff a]
  | .expr a, b => by cases b <;> simp [Argument.same, Expr.same_iff a]

end

instance : DecidableEq Ty := fun a b => decidable_of_iff _ (Ty.same_iff a b)

instance : DecidableEq Expr := fun a b => decidable_of_iff _ (Expr.same_iff a b)

end CxxTrees
