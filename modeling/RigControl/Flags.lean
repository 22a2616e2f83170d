/-
Sets over small enumerations, held as bits. Bit `i` stands for the `i`-th member in the order of
declaration.
-/

namespace RigControl

/-- A closed list of members in a fixed order. -/
class Enumeration (α : Type) where
  /-- The members, each once. -/
  all : List α
  /-- The place of a member in the order. -/
  index : α → Nat

/-- A set of members of an enumeration. -/
structure Flags (α : Type) where
  bits : Nat
deriving DecidableEq, Repr

namespace Flags

variable {α : Type} [Enumeration α]

def bit (a : α) : Nat := 1 <<< Enumeration.index a

def empty : Flags α := ⟨0⟩

instance : EmptyCollection (Flags α) := ⟨empty⟩

def insert (s : Flags α) (a : α) : Flags α := ⟨s.bits ||| bit a⟩

/-- The set of the listed members. -/
def ofList (l : List α) : Flags α := l.foldl insert ∅

/-- Every member of the enumeration. -/
def all : Flags α := ofList Enumeration.all

def contains (s : Flags α) (a : α) : Bool := s.bits.testBit (Enumeration.index a)

instance : Membership α (Flags α) := ⟨fun s a => s.contains a = true⟩

instance (a : α) (s : Flags α) : Decidable (a ∈ s) := inferInstanceAs (Decidable (_ = true))

def union (s t : Flags α) : Flags α := ⟨s.bits ||| t.bits⟩

instance : Union (Flags α) := ⟨union⟩

def intersects (s t : Flags α) : Bool := s.bits &&& t.bits != 0

/-- The members in order. -/
def toList (s : Flags α) : List α := Enumeration.all.filter s.contains

/-- Whether no member of the enumeration is in the set. -/
def isEmpty (s : Flags α) : Bool := s.toList.isEmpty

theorem mem_iff {s : Flags α} {a : α} : a ∈ s ↔ s.contains a = true := Iff.rfl

theorem mem_union {s t : Flags α} {a : α} : a ∈ s ∪ t ↔ a ∈ s ∨ a ∈ t := by
  show (s.bits ||| t.bits).testBit _ = true ↔ _
  simp [mem_iff, contains]

end Flags

end RigControl
