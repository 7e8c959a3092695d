/-!
# Bounded logs

A log keeps the newest entries up to its capacity, oldest first.  That it never holds more, and has
room for at least one, is part of the type.

* `Log`              the entries, the capacity, and what holds of them;
* `Log.ofCapacity`   an empty log, or why there is none of that capacity;
* `Log.push`         one more entry, the oldest one making room;
* `Log.last?`, `Log.newest`   the newest entry, and the newest few of them.
-/

namespace PocketCalc

/-- a list of entries, oldest first, no longer than the capacity -/
structure Log (α : Type) where
  capacity : Nat
  entries : List α
  capacity_pos : 0 < capacity
  length_le : entries.length ≤ capacity

inductive CapacityError
  | notPositive
  | tooLarge
deriving DecidableEq, Repr

def CapacityError.message : CapacityError → String
  | notPositive => "capacity must be positive"
  | tooLarge => "capacity too large"

namespace Log

variable {α : Type}

/-! ## Empty logs -/

/-- the largest capacity that can be asked for -/
def maxCapacity : Nat := 0x7FFFFFFFFFFFFFFF

def empty (capacity : Nat) (h : 0 < capacity) : Log α := ⟨capacity, [], h, Nat.zero_le _⟩

/-- an empty log of a capacity that is positive and not too large -/
def ofCapacity (capacity : Int) : Except CapacityError (Log α) :=
  if h : 0 < capacity.toNat then
    if capacity ≤ maxCapacity then .ok (empty capacity.toNat h) else .error .tooLarge
  else .error .notPositive

theorem ofCapacity_of_nonpos {capacity : Int} (h : capacity ≤ 0) :
    (ofCapacity capacity : Except CapacityError (Log α)) = .error .notPositive := by
  have h : ¬ 0 < capacity.toNat := by omega
  simp [ofCapacity, h]

/-! ## Entries -/

def size (l : Log α) : Nat := l.entries.length

/-- the log with one more entry; a full log loses its oldest one -/
def push (l : Log α) (a : α) : Log α where
  capacity := l.capacity
  entries := (l.entries ++ [a]).drop (l.entries.length + 1 - l.capacity)
  capacity_pos := l.capacity_pos
  length_le := by
    simp only [List.length_drop, List.length_append, List.length_singleton]
    omega

def clear (l : Log α) : Log α := { l with entries := [], length_le := Nat.zero_le _ }

/-- the newest entry -/
def last? (l : Log α) : Option α := l.entries.getLast?

/-- the newest `n` entries, oldest first; none for a number that is not positive -/
def newest (l : Log α) (n : Int) : List α := l.entries.drop (l.entries.length - n.toNat)

@[simp]
theorem capacity_push (l : Log α) (a : α) : (l.push a).capacity = l.capacity := rfl

@[simp]
theorem capacity_clear (l : Log α) : l.clear.capacity = l.capacity := rfl

theorem last?_push (l : Log α) (a : α) : (l.push a).last? = some a := by
  have h := l.length_le
  have hp := l.capacity_pos
  have hd : l.entries.length + 1 - l.capacity ≤ l.entries.length := by omega
  simp [last?, push, List.drop_append_of_le_length hd]

end Log
end PocketCalc
