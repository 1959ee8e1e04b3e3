/-!
Sets of dirty bits, kept in ascending order.
-/
namespace EntityModels

/-- Puts a number into an ascending list. -/
def insertBit (bit : Nat) : List Nat → List Nat
  | [] => [bit]
  | b :: rest =>
    if bit < b then bit :: b :: rest
    else if bit = b then b :: rest
    else b :: insertBit bit rest

theorem mem_insertBit {bit x : Nat} {bits : List Nat} :
    x ∈ insertBit bit bits ↔ x = bit ∨ x ∈ bits := by
  induction bits with
  | nil => simp [insertBit]
  | cons b rest ih => grind [insertBit]

theorem pairwise_insertBit {bit : Nat} {bits : List Nat} (h : bits.Pairwise (· < ·)) :
    (insertBit bit bits).Pairwise (· < ·) := by
  induction bits with
  | nil => simp [insertBit]
  | cons b rest ih =>
    obtain ⟨above, sorted⟩ := List.pairwise_cons.1 h
    unfold insertBit
    split
    · rename_i lt
      refine List.pairwise_cons.2 ⟨fun x hx => ?_, h⟩
      rcases List.mem_cons.1 hx with rfl | hx
      · exact lt
      · exact Nat.lt_trans lt (above x hx)
    · split
      · exact h
      · refine List.pairwise_cons.2 ⟨fun x hx => ?_, ih sorted⟩
        rcases mem_insertBit.1 hx with rfl | hx
        · omega
        · exact above x hx

/-- A set of dirty bits in ascending order. A bit is a natural number, as `assignDirtyBits` gives
it. -/
structure DirtySet where
  bits : List Nat
  ascending : bits.Pairwise (· < ·)
deriving DecidableEq

namespace DirtySet

def empty : DirtySet := ⟨[], .nil⟩

instance : Inhabited DirtySet := ⟨empty⟩

instance : EmptyCollection DirtySet := ⟨empty⟩

def insert (s : DirtySet) (bit : Nat) : DirtySet :=
  ⟨insertBit bit s.bits, pairwise_insertBit s.ascending⟩

def contains (s : DirtySet) (bit : Nat) : Bool := s.bits.contains bit

def isEmpty (s : DirtySet) : Bool := s.bits.isEmpty

/-- Puts a bit into the set and says whether it is new. -/
def add (s : DirtySet) (bit : Nat) : Bool × DirtySet := (!s.contains bit, s.insert bit)

@[simp] theorem contains_empty (bit : Nat) : (∅ : DirtySet).contains bit = false := rfl

theorem contains_insert (s : DirtySet) (bit x : Nat) :
    (s.insert bit).contains x = (x = bit || s.contains x) := by
  rw [Bool.eq_iff_iff]
  simp [contains, insert, mem_insertBit]

end DirtySet

end EntityModels
