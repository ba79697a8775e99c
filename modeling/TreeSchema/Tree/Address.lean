import TreeSchema.Pointer
import TreeSchema.Tree

/-!
Addresses in a tree: the steps from the root down to a node, as they are written
in a pointer. The parts of an object go by their keys and those of an array by
the texts of their indices, so a step is a text in either case.
-/

namespace TreeSchema

/-- Numbers are written with digits only. -/
theorem isDigit_of_mem_repr {n : Nat} {c : Char} (mem : c ∈ n.repr.toList) : c.isDigit = true := by
  rw [Nat.repr_eq_ofList_toDigits, String.toList_ofList] at mem
  exact Nat.isDigit_of_mem_toDigits (by decide) (by decide) mem

/-- Indices are told apart by their texts, which read back as the index. -/
theorem Segment.text_index_injective :
    Function.Injective fun index : Nat => Segment.text (.index index) := by
  intro i j same
  replace same : i.repr = j.repr := same
  rw [Nat.repr_eq_ofList_toDigits, Nat.repr_eq_ofList_toDigits, String.ofList_inj] at same
  rw [← @Nat.ofDigitChars_ten_toDigits i, same, Nat.ofDigitChars_ten_toDigits]

namespace Members

/-- In a well formed object a member is found under its key. -/
theorem get?_of_mem {ms : Members} {key : String} {t : Tree} (nodup : ms.keys.Nodup)
    (mem : (key, t) ∈ ms) : ms.get? key = some t := by
  induction ms with
  | nil => cases mem
  | cons m ms ih =>
    obtain ⟨k, u⟩ := m
    obtain ⟨fresh, nodup⟩ := List.nodup_cons.1 nodup
    rcases List.mem_cons.1 mem with same | mem
    · cases same
      exact if_pos rfl
    · have other : k ≠ key := by
        rintro rfl
        exact fresh (List.mem_map.2 ⟨_, mem, rfl⟩)
      rw [get?, if_neg other, ih nodup mem]

end Members

namespace Tree

/-- The parts of a tree, by the steps that lead to them. -/
def parts : Tree → Members
  | .array items => items.mapIdx fun index t => (Segment.text (.index index), t)
  | .object members => members
  | _ => []

/-- The node that steps lead to. -/
def at? : Tree → List String → Option Tree
  | t, [] => some t
  | t, step :: rest => (t.parts.get? step).bind (·.at? rest)

theorem at?_cons (t : Tree) (step : String) (rest : List String) :
    t.at? (step :: rest) = (t.parts.get? step).bind (·.at? rest) := rfl

theorem at?_append (t : Tree) (xs ys : List String) :
    t.at? (xs ++ ys) = (t.at? xs).bind (·.at? ys) := by
  induction xs generalizing t with
  | nil => rfl
  | cons x xs ih =>
    rw [List.cons_append, at?_cons, at?_cons]
    cases t.parts.get? x with
    | none => rfl
    | some u => exact ih u

theorem at?_singleton (t : Tree) (step : String) : t.at? [step] = t.parts.get? step := by
  rw [at?_cons]
  cases t.parts.get? step <;> rfl

theorem get?_mapIdx {name : Nat → String} (distinct : Function.Injective name) (items : List Tree)
    (index : Nat) :
    Members.get? (items.mapIdx fun i t => (name i, t)) (name index) = items[index]? := by
  induction items generalizing name index with
  | nil => rfl
  | cons t rest ih =>
    rw [List.mapIdx_cons, Members.get?]
    cases index with
    | zero => exact if_pos rfl
    | succ index =>
      have later : Function.Injective fun i => name (i + 1) :=
        fun i j same => Nat.succ.inj (distinct same)
      have other : name 0 ≠ name (index + 1) := fun same => Nat.noConfusion (distinct same)
      rw [if_neg other]
      exact ih later index

theorem get?_parts_array (items : List Tree) (index : Nat) :
    (array items).parts.get? (Segment.text (.index index)) = items[index]? :=
  get?_mapIdx Segment.text_index_injective items index

end Tree

end TreeSchema
