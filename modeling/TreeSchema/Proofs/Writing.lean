import TreeSchema.Proofs.Constraint
import Mathlib.Data.Nat.Digits.Defs

/-!
When messages can be written and quotients taken. The only texts that cannot be
written are those of integers with too many digits; a whole double is written as
an integer, too, but none has more than 309 digits. A number is divided exactly
where its quotient as a double is not finite, and that only fails for numbers
that are not finite themselves.
-/

namespace TreeSchema

/-! ### Numbers in a tree -/

namespace Tree

mutual

/-- Every number in the tree has the property. -/
def EachNumber (P : Number → Prop) : Tree → Prop
  | .number n => P n
  | .array items => EachNumberOfItems P items
  | .object members => EachNumberOfMembers P members
  | _ => True

def EachNumberOfItems (P : Number → Prop) : List Tree → Prop
  | [] => True
  | t :: rest => t.EachNumber P ∧ EachNumberOfItems P rest

def EachNumberOfMembers (P : Number → Prop) : List (String × Tree) → Prop
  | [] => True
  | (_, t) :: rest => t.EachNumber P ∧ EachNumberOfMembers P rest

end

variable {P : Number → Prop}

theorem eachNumber_array_iff {items : List Tree} :
    (array items).EachNumber P ↔ ∀ t ∈ items, t.EachNumber P := by
  change EachNumberOfItems P items ↔ _
  induction items with
  | nil => simp [EachNumberOfItems]
  | cons t rest ih => rw [EachNumberOfItems, ih, List.forall_mem_cons]

theorem eachNumber_object_iff {members : Members} :
    (object members).EachNumber P ↔ ∀ m ∈ members, m.2.EachNumber P := by
  change EachNumberOfMembers P members ↔ _
  induction members with
  | nil => simp [EachNumberOfMembers]
  | cons m rest ih =>
    obtain ⟨k, t⟩ := m
    rw [EachNumberOfMembers, ih, List.forall_mem_cons]

end Tree

/-! ### Texts of numbers -/

/-- The number is not an integer too long to be written. -/
def Number.Short : Number → Prop
  | .int n => digitCount n.natAbs ≤ digitLimit
  | .double _ => True

theorem integerText_eq_ok {n : Int} (short : digitCount n.natAbs ≤ digitLimit) :
    integerText n = .ok (toString n) :=
  if_pos short

theorem Double.digitCount_toInt_le (x : Double) : digitCount x.toInt.natAbs ≤ 309 := by
  have few {n : Nat} (small : n < 2 ^ 1024) : digitCount n ≤ 309 := by
    have large : 2 ^ 1024 < 10 ^ 309 := by decide +kernel
    exact Nat.repr_length n 309 (by decide) (small.trans large)
  cases x with
  | nan | infinite => exact few (by norm_num [toInt])
  | finite negative m e canonical =>
    have magnitude : (finite negative m e canonical).toInt.natAbs =
        m * 2 ^ e.toNat / 2 ^ (-e).toNat := by
      cases negative with
      | false => exact Int.natAbs_natCast _
      | true => exact (Int.natAbs_neg _).trans (Int.natAbs_natCast _)
    rw [magnitude]
    obtain ⟨significand, -, exponent, -⟩ := canonical
    refine few ?_
    calc m * 2 ^ e.toNat / 2 ^ (-e).toNat ≤ m * 2 ^ e.toNat := Nat.div_le_self ..
      _ < 2 ^ 53 * 2 ^ e.toNat := Nat.mul_lt_mul_of_pos_right significand (by positivity)
      _ ≤ 2 ^ 53 * 2 ^ 971 := by
        gcongr
        · norm_num
        · omega
      _ = 2 ^ 1024 := by rw [← pow_add]

theorem Number.text_eq_ok {n : Number} (short : n.Short) (layout : DoubleLayout) :
    ∃ text, n.text layout = .ok text := by
  cases n with
  | int n => exact ⟨_, integerText_eq_ok short⟩
  | double x => exact ⟨_, rfl⟩

/-! ### Texts of trees -/

namespace Tree

mutual

theorem shown_eq_ok (t : Tree) (short : t.EachNumber Number.Short) :
    ∃ text, t.shown = .ok text := by
  cases t with
  | null | bool | string => exact ⟨_, rfl⟩
  | number n => exact Number.text_eq_ok short .plain
  | array items =>
    obtain ⟨texts, shows⟩ := shownItems_eq_ok items short
    exact ⟨_, by rw [shown, shows]; rfl⟩
  | object members =>
    obtain ⟨texts, shows⟩ := shownMembers_eq_ok members short
    exact ⟨_, by rw [shown, shows]; rfl⟩

theorem shownItems_eq_ok (items : List Tree) (short : EachNumberOfItems Number.Short items) :
    ∃ texts, shownItems items = .ok texts := by
  match items with
  | [] => exact ⟨_, rfl⟩
  | t :: rest =>
    obtain ⟨text, shows⟩ := shown_eq_ok t short.1
    obtain ⟨texts, more⟩ := shownItems_eq_ok rest short.2
    exact ⟨_, by rw [shownItems, shows, more]; rfl⟩

theorem shownMembers_eq_ok (members : List (String × Tree))
    (short : EachNumberOfMembers Number.Short members) :
    ∃ texts, shownMembers members = .ok texts := by
  match members with
  | [] => exact ⟨_, rfl⟩
  | (k, t) :: rest =>
    obtain ⟨text, shows⟩ := shown_eq_ok t short.1
    obtain ⟨texts, more⟩ := shownMembers_eq_ok rest short.2
    exact ⟨_, by rw [shownMembers, shows, more]; rfl⟩

end

theorem limitText_eq_ok {t : Tree} (short : t.EachNumber Number.Short) :
    ∃ text, t.limitText = .ok text := by
  unfold limitText
  split
  · next x =>
    split
    · exact ⟨_, integerText_eq_ok (x.digitCount_toInt_le.trans (by decide))⟩
    · exact ⟨_, rfl⟩
  · unfold plainText
    split
    · exact ⟨_, rfl⟩
    · exact shown_eq_ok _ short

end Tree

/-! ### Messages -/

namespace Violation

theorem finding_eq_ok {v : Violation}
    (short : ∀ limit, v.limit? = some limit → limit.EachNumber Number.Short) :
    ∃ f, v.finding = .ok f := by
  have told : ∃ text, v.message = .ok text := by
    cases v with
    | notMultipleOf limit | belowMinimum limit | aboveMaximum limit | stringTooShort limit
    | stringTooLong limit | arrayTooShort limit | arrayTooLong limit =>
      obtain ⟨text, written⟩ := Tree.limitText_eq_ok (short limit rfl)
      exact ⟨_, by rw [message, written]; rfl⟩
    | tooFewProperties limit | tooManyProperties limit =>
      obtain ⟨text, written⟩ := Tree.limitText_eq_ok (short limit rfl)
      rw [message, written]
      split <;> exact ⟨_, rfl⟩
    | _ => exact ⟨_, rfl⟩
  obtain ⟨text, told⟩ := told
  exact ⟨_, finding_of_message told⟩

end Violation

/-! ### Quotients -/

namespace Number

def isFinite : Number → Bool
  | .int _ => true
  | .double x => x.isFinite

theorem ratio_eq_ok {x : Number} (finite : x.isFinite = true) : ∃ q, x.ratio = .ok q := by
  match x with
  | .int n => exact ⟨_, rfl⟩
  | .double .nan | .double (.infinite _) => cases finite
  | .double (.finite ..) => exact ⟨_, rfl⟩

theorem isMultiple_eq_ok {x y : Number} (finite : x.isFinite = true) (finite' : y.isFinite = true) :
    ∃ b, x.isMultiple y = .ok b := by
  unfold isMultiple
  split
  · exact ⟨_, rfl⟩
  · dsimp only
    split
    · exact ⟨_, rfl⟩
    · obtain ⟨a, numerator⟩ := ratio_eq_ok finite
      obtain ⟨b, denominator⟩ := ratio_eq_ok finite'
      exact ⟨_, by rw [numerator, denominator]; rfl⟩

end Number

/-- Judging a constraint can only fail on a quotient. -/
theorem Constraint.eq_multipleOf_of_judge {x : Constraint} {t : Tree} {cause : Failure}
    (fails : x.judge t = .error cause) :
    ∃ divisor n, x = .multipleOf divisor ∧ t = .number n ∧ n.isMultiple divisor = .error cause := by
  cases x <;> cases t <;> simp only [judge, refuseIf, reduceCtorEq] at fails
  case multipleOf.number divisor n =>
    refine ⟨divisor, n, rfl, rfl, ?_⟩
    cases decided : n.isMultiple divisor with
    | error cause' =>
      rw [decided] at fails
      cases fails
      rfl
    | ok b =>
      rw [decided] at fails
      cases b <;> cases fails

end TreeSchema
