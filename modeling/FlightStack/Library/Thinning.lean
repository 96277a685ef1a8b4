import Mathlib.Data.List.Basic

/-! A list thinned to some of its rows. Where enough rows in a row are left out,
one other row stands in for them. -/

namespace FlightStack

universe u

/-- The rows at the given indices, and one more between two of them that have at
least `long` others between them. -/
inductive Thinned {β : Type u} (long : Nat) (raw : List β) : List Nat → List β → Prop where
  | last {index : Nat} {row : β} (here : raw[index]? = some row) : Thinned long raw [index] [row]
  | near {index next : Nat} {keys : List Nat} {row : β} {rows : List β} (here : raw[index]? = some row)
      (few : next - index - 1 < long) (later : Thinned long raw (next :: keys) rows) :
      Thinned long raw (index :: next :: keys) (row :: rows)
  | far {index next : Nat} {keys : List Nat} {row middle : β} {rows : List β} (here : raw[index]? = some row)
      (many : long ≤ next - index - 1) (later : Thinned long raw (next :: keys) rows) :
      Thinned long raw (index :: next :: keys) (row :: middle :: rows)

namespace Thinned
variable {β : Type u} {long index : Nat} {raw rows : List β} {keys : List Nat}

theorem head (thinned : Thinned long raw (index :: keys) rows) : rows.head? = raw[index]? := by
  cases thinned with
  | last here | near here | far here => exact here.symm

theorem nonempty (thinned : Thinned long raw keys rows) : ∃ first rest, rows = first :: rest := by
  cases thinned with
  | last | near | far => exact ⟨_, _, rfl⟩

theorem final (thinned : Thinned long raw keys rows) : rows.getLast? = keys.getLast?.bind (raw[·]?) := by
  induction thinned with
  | last here => exact here.symm
  | near here few later ih | far here many later ih =>
    obtain ⟨first, rest, rfl⟩ := later.nonempty
    simpa only [List.getLast?_cons_cons] using ih

/-- Every row that is put in stands for some that were left out. -/
theorem length_le (positive : 0 < long) (thinned : Thinned long raw (index :: keys) rows)
    (sorted : (index :: keys).Pairwise (· < ·)) : index + rows.length ≤ raw.length := by
  generalize whole : index :: keys = all at thinned
  induction thinned generalizing index keys with
  | last here =>
    obtain ⟨rfl, rfl⟩ := List.cons.inj whole
    exact (List.getElem?_eq_some_iff.mp here).1
  | near here few later ih =>
    obtain ⟨rfl, rfl⟩ := List.cons.inj whole
    have bound := ih sorted.of_cons rfl
    have after := List.rel_of_pairwise_cons sorted List.mem_cons_self
    rw [List.length_cons]
    omega
  | far here many later ih =>
    obtain ⟨rfl, rfl⟩ := List.cons.inj whole
    have bound := ih sorted.of_cons rfl
    rw [List.length_cons, List.length_cons]
    omega

end Thinned
end FlightStack
