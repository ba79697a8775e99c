import TreeSchema.Proofs.Account

/-!
What becomes of a node in a run. A coercing run rewrites its node in many places:
it converts it, fills members in and takes some out, puts back what became of a
part, and goes on with what a branch or a dependency left. A relation between the
tree before and after that is reflexive and transitive, survives each change that
a schema makes by itself, and passes from a part to the whole, holds between what
any run is given and what it leaves (`run_evolves`). It is said for an engine that
need not coerce, as the engine of a prohibited schema does not.
-/

namespace TreeSchema

/-- A relation between a tree and what becomes of it, respected by all changes that a run makes
under schemas with the property `P`. -/
structure Evolution (config : Config) (P : Members → Prop) (E : Tree → Tree → Prop) : Prop where
  refl : ∀ t, E t t
  trans : ∀ {t u v}, E t u → E u v → E t v
  endures : ∀ {s}, P s → ∀ d, Endures config s (E d)
  member : ∀ {n u u' : Tree} {key : String}, n.members.get? key = some u → E u u' →
    E n (n.putMember key u')
  item : ∀ {n u u' : Tree} {index : Nat}, n.items[index]? = some u → E u u' →
    E n (n.putItem index u')

namespace Evolution

variable {config : Config} {P : Members → Prop} {E : Tree → Tree → Prop} {s : Members}

theorem placed (h : Evolution config P E) {n u u' t : Tree} {place : Tree → Tree}
    {data path : Pointer} (applies : Applies s n u t place data path) (part : E u u') :
    E n (place u') := by
  cases applies with
  | property _ _ value | pattern _ _ _ _ value | additional _ _ value => exact h.member value part
  | items _ value | place _ _ value | additionalItem _ _ _ value => exact h.item value part
  | dependency | branch => exact part

theorem upholds (h : Evolution config P E) (holds : P s)
    (parts : ∀ t, SubSchema s t → ∀ u, E u (run config u t).node) (d : Tree) :
    Upholds config s (E d) where
  toEndures := h.endures holds d
  placed _ _ _ _ _ _ _ before applies :=
    h.trans before (h.placed applies (parts _ applies.subSchema _))

end Evolution

/-- What a run leaves has evolved from what it was given. -/
theorem run_evolves {config : Config} {P : Members → Prop} {E : Tree → Tree → Prop}
    (evolution : Evolution config P E) (schema : Tree) :
    Everywhere P schema → ∀ d, E d (run config d schema).node := by
  induction schema using schema_induction with
  | object s parts =>
    intro holds d
    have upholds := evolution.upholds holds.here
      (fun t sub => parts t sub (holds.inside sub)) d
    exact (run_accounts upholds (evolution.refl d)).1
  | other t other =>
    intro _ d
    rw [run_of_not_object other]
    exact evolution.refl d

end TreeSchema
