import Mathlib.Data.BitVec
import Mathlib.Data.Nat.ModEq

/-! Ring buffers whose counters only rise and wrap around at their width. The low
bits of a counter name its cell, so a buffer with a power of two of cells, and fewer
of them than its counters have values, holds a queue. -/

namespace FlightStack

universe u

structure Ring (width : Nat) (β : Type u) where
  cells : List β
  mask : BitVec width
  front : BitVec width
  back : BitVec width

namespace Ring
variable {width bits : Nat} {β : Type u} {ring : Ring width β}

def used (ring : Ring width β) : Nat := (ring.back - ring.front).toNat

/-- The cell that a counter names. -/
def cell (ring : Ring width β) (counter : BitVec width) : Nat := (counter &&& ring.mask).toNat

/-- What is in so many cells from a counter on. -/
def along (ring : Ring width β) : BitVec width → Nat → List β
  | _, 0 => []
  | counter, count + 1 => ring.cells[ring.cell counter]?.toList ++ ring.along (counter + 1) count

def contents (ring : Ring width β) : List β := ring.along ring.front ring.used

/-- Fill the cell behind the last one, without counting it yet. -/
def fill (ring : Ring width β) (value : β) : Ring width β :=
  { ring with cells := ring.cells.set (ring.cell ring.back) value }

def count (ring : Ring width β) : Ring width β := { ring with back := ring.back + 1 }

def skip (ring : Ring width β) : Ring width β := { ring with front := ring.front + 1 }

/-- The shape that makes the cells a queue of `2 ^ bits` places. -/
structure Sound (ring : Ring width β) (bits : Nat) : Prop where
  narrow : bits < width
  length : ring.cells.length = 2 ^ bits
  mask : ring.mask.toNat = 2 ^ bits - 1
  bounded : ring.used ≤ 2 ^ bits

theorem used_eq_zero_iff : ring.used = 0 ↔ ring.front = ring.back := by
  rw [used, ← BitVec.toNat_zero, BitVec.toNat_inj]
  exact sub_eq_zero.trans eq_comm

theorem Sound.size_lt (sound : ring.Sound bits) : 2 ^ bits < 2 ^ width :=
  Nat.pow_lt_pow_right (by decide) sound.narrow

theorem Sound.full_iff (sound : ring.Sound bits) : ring.mask < ring.back - ring.front ↔ ring.used = 2 ^ bits := by
  have places := Nat.two_pow_pos bits
  have bounded := sound.bounded
  rw [BitVec.lt_def, sound.mask, ← used]
  omega

theorem Sound.cell_add (sound : ring.Sound bits) (counter : BitVec width) (offset : Nat) :
    ring.cell (counter + BitVec.ofNat width offset) = (counter.toNat + offset) % 2 ^ bits := by
  have divides : 2 ^ bits ∣ 2 ^ width := Nat.pow_dvd_pow 2 sound.narrow.le
  rw [cell, BitVec.toNat_and, sound.mask, Nat.and_two_pow_sub_one_eq_mod, BitVec.toNat_add, BitVec.toNat_ofNat,
    Nat.add_mod_mod, Nat.mod_mod_of_dvd _ divides]

theorem Sound.cell_lt (sound : ring.Sound bits) (counter : BitVec width) : ring.cell counter < ring.cells.length := by
  rw [sound.length, cell, BitVec.toNat_and, sound.mask, Nat.and_two_pow_sub_one_eq_mod]
  exact Nat.mod_lt _ (Nat.two_pow_pos bits)

theorem Sound.cell_ne (sound : ring.Sound bits) (counter : BitVec width) {first second : Nat} (apart : first < second)
    (inside : second < 2 ^ bits) :
    ring.cell (counter + BitVec.ofNat width first) ≠ ring.cell (counter + BitVec.ofNat width second) := by
  rw [sound.cell_add, sound.cell_add]
  intro same
  have equal : first ≡ second [MOD 2 ^ bits] := Nat.ModEq.add_left_cancel' _ same
  exact apart.ne (equal.eq_of_lt_of_lt (apart.trans inside) inside)

theorem add_ofNat_succ (counter : BitVec width) (offset : Nat) :
    counter + BitVec.ofNat width (offset + 1) = counter + 1 + BitVec.ofNat width offset := by
  rw [BitVec.add_assoc, Nat.add_comm, BitVec.ofNat_add]
  rfl

theorem back_eq (ring : Ring width β) : ring.back = ring.front + BitVec.ofNat width ring.used := by
  rw [used, BitVec.ofNat_toNat, BitVec.setWidth_eq, add_sub_cancel]

theorem along_succ (counter : BitVec width) (count : Nat) :
    ring.along counter (count + 1) =
      ring.along counter count ++ ring.cells[ring.cell (counter + BitVec.ofNat width count)]?.toList := by
  induction count generalizing counter with
  | zero => simp [along]
  | succ count ih =>
    rw [along, ih, along, add_ofNat_succ, List.append_assoc]

theorem along_count (counter : BitVec width) (count : Nat) : ring.count.along counter count = ring.along counter count := by
  induction count generalizing counter with
  | zero => rfl
  | succ count ih => exact congrArg _ (ih _)

theorem along_skip (counter : BitVec width) (count : Nat) : ring.skip.along counter count = ring.along counter count := by
  induction count generalizing counter with
  | zero => rfl
  | succ count ih => exact congrArg _ (ih _)

theorem along_fill (counter : BitVec width) (count : Nat) (value : β)
    (others : ∀ offset < count, ring.cell (counter + BitVec.ofNat width offset) ≠ ring.cell ring.back) :
    (ring.fill value).along counter count = ring.along counter count := by
  induction count with
  | zero => rfl
  | succ count ih =>
    rw [along_succ, along_succ, ih fun offset below => others offset (by omega)]
    congr 2
    exact List.getElem?_set_ne (others count (by omega)).symm

theorem Sound.length_along (sound : ring.Sound bits) (counter : BitVec width) (count : Nat) :
    (ring.along counter count).length = count := by
  induction count generalizing counter with
  | zero => rfl
  | succ count ih => rw [along, List.getElem?_eq_getElem (sound.cell_lt counter), Option.toList_some,
      List.length_append, ih, List.length_singleton, Nat.add_comm]

theorem Sound.length_contents (sound : ring.Sound bits) : ring.contents.length = ring.used := sound.length_along _ _

/-- The cell that is filled is none of those in use. -/
theorem Sound.fill_contents (sound : ring.Sound bits) (room : ring.used < 2 ^ bits) (value : β) :
    (ring.fill value).contents = ring.contents := by
  apply along_fill
  intro offset below
  rw [ring.back_eq]
  exact sound.cell_ne _ below room

theorem Sound.filled (sound : ring.Sound bits) (value : β) :
    (ring.fill value).cells[(ring.fill value).cell (ring.fill value).back]? = some value :=
  List.getElem?_set_self (sound.cell_lt ring.back)

theorem Sound.fill (sound : ring.Sound bits) (value : β) : (ring.fill value).Sound bits where
  narrow := sound.narrow
  length := (List.length_set ..).trans sound.length
  mask := sound.mask
  bounded := sound.bounded

theorem Sound.used_count (sound : ring.Sound bits) (room : ring.used < 2 ^ bits) : ring.count.used = ring.used + 1 := by
  have small := sound.size_lt
  have moved : ring.count.back - ring.count.front = ring.back - ring.front + 1 := add_sub_right_comm ..
  have one : (1 : BitVec width).toNat = 1 := Nat.mod_eq_of_lt (Nat.one_lt_two_pow (by have := sound.narrow; omega))
  rw [used, moved, BitVec.toNat_add, one]
  exact Nat.mod_eq_of_lt (by rw [← used]; omega)

theorem Sound.count (sound : ring.Sound bits) (room : ring.used < 2 ^ bits) : ring.count.Sound bits where
  narrow := sound.narrow
  length := sound.length
  mask := sound.mask
  bounded := (sound.used_count room).le.trans room

theorem Sound.count_contents (sound : ring.Sound bits) (room : ring.used < 2 ^ bits) {value : β}
    (filled : ring.cells[ring.cell ring.back]? = some value) : ring.count.contents = ring.contents ++ [value] := by
  have last : ring.along ring.front (ring.used + 1) = ring.contents ++ [value] := by
    rw [along_succ, ← ring.back_eq, filled]
    rfl
  rw [← last, contents, sound.used_count room]
  exact along_count ..

theorem used_skip (some : 0 < ring.used) : ring.skip.used + 1 = ring.used := by
  have moved : ring.skip.back - ring.skip.front = ring.back - ring.front - 1 := sub_add_eq_sub_sub ..
  have wide : 0 < width := by
    by_contra narrow
    obtain rfl : width = 0 := by omega
    have below := (ring.back - ring.front).isLt
    rw [used] at some
    omega
  have one : (1 : BitVec width).toNat = 1 := Nat.mod_eq_of_lt (Nat.one_lt_two_pow wide.ne')
  rw [used, moved, BitVec.toNat_sub_of_le (by rw [BitVec.le_def, one]; exact some), one]
  exact Nat.sub_add_cancel some

theorem Sound.skip (sound : ring.Sound bits) (some : 0 < ring.used) : ring.skip.Sound bits where
  narrow := sound.narrow
  length := sound.length
  mask := sound.mask
  bounded := by
    have before := sound.bounded
    have after := used_skip some
    omega

/-- What is counted off first is what the first cell holds. -/
theorem Sound.contents_eq_cons (sound : ring.Sound bits) (some : 0 < ring.used) :
    ∃ value, ring.cells[ring.cell ring.front]? = .some value ∧ ring.contents = value :: ring.skip.contents := by
  refine ⟨_, List.getElem?_eq_getElem (sound.cell_lt ring.front), ?_⟩
  rw [contents, contents, along_skip, ← used_skip some, along, List.getElem?_eq_getElem (sound.cell_lt ring.front)]
  rfl

theorem Sound.skip_contents (sound : ring.Sound bits) (some : 0 < ring.used) : ring.skip.contents = ring.contents.tail := by
  obtain ⟨_, _, split⟩ := sound.contents_eq_cons some
  rw [split]
  rfl

theorem contents_eq_nil (none : ring.used = 0) : ring.contents = [] := by
  rw [contents, none]
  rfl

end Ring
end FlightStack
