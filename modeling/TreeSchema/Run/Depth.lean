import TreeSchema.Run.Congruence

/-!
The depth of runs within runs. A run asks for runs of its parts against parts
of its schema only, so the height of the schema is depth enough, and a run is a
single step whose parts are runs. Of its configuration only that counts which
the stages look at: two that coerce alike, have the same options and add
findings in the same way make the same runs.
-/

namespace TreeSchema

/-- The configurations make the same runs. -/
structure Config.Alike (c d : Config) : Prop where
  coercing : c.coercing = d.coercing
  options : c.options = d.options
  add : c.mode.add c.cap = d.mode.add d.cap

namespace Config.Alike

theorem refl (config : Config) : config.Alike config :=
  ⟨rfl, rfl, rfl⟩

variable {c d : Config}

theorem with_coercing (h : c.Alike d) (coercing : Bool) :
    Config.Alike { c with coercing } { d with coercing } :=
  ⟨rfl, h.options, h.add⟩

theorem report_eq (h : c.Alike d) : Stage.report c = Stage.report d := by
  funext f p
  simp only [Stage.report, h.add]

theorem reject_eq (h : c.Alike d) : Stage.reject c = Stage.reject d := by
  funext v
  simp only [Stage.reject, h.report_eq]

theorem join_eq (h : c.Alike d) : Stage.join c = Stage.join d := by
  funext part place data path p
  simp only [Stage.join, h.report_eq, h.coercing]

theorem adopt_eq (h : c.Alike d) : Stage.adopt c = Stage.adopt d := by
  funext node p
  simp only [Stage.adopt, h.coercing]

end Config.Alike

namespace Stage

variable {c d : Config} {v w : Visit}

/-- Equality respects all ways of making stages. -/
theorem Congruence.eq (alike : c.Alike d) : Congruence c d Eq where
  coercing := alike.coercing
  options := alike.options
  skip := rfl
  interrupt _ := rfl
  replace _ := rfl
  reject v _ := congrFun alike.reject_eq v
  cons := by
    rintro s _ xs ys rfl same
    funext p
    simp only [sequence, same]
  byNode same := by
    funext p
    obtain ⟨s, _, rfl, left, right⟩ := same p.node
    exact (left p.findings).trans (right p.findings).symm

theorem judgeBranches_congr {f g : Tree → Run} {name : String} {first : Bool}
    {schemas : List Tree} (h : ∀ s ∈ schemas, f s = g s) (index : Nat) :
    judgeBranches f name first index schemas = judgeBranches g name first index schemas := by
  induction schemas generalizing index with
  | nil => rfl
  | cons s rest ih =>
    unfold judgeBranches
    rw [h s List.mem_cons_self, ih (fun u mem => h u (List.mem_cons_of_mem _ mem))]

/-- The branches of a combination count by their runs only. -/
theorem Branching.eq (alike : c.Alike d) {schema : Members}
    (agree : ∀ {c d : Config}, c.Alike d → ∀ node t, SubSchema schema t → v c node t = w d node t) :
    Congruence.Branching schema c d Eq v w where
  anyOf schemas found := by
    funext p
    simp only [anyOf, branchesOf, reading_ok, alike.reject_eq, alike.adopt_eq]
    rw [judgeBranches_congr fun s mem => agree alike _ s (.branch (by decide) found mem)]
  oneOf schemas found := by
    funext p
    simp only [oneOf, branchesOf, reading_ok, alike.reject_eq, alike.adopt_eq]
    rw [judgeBranches_congr fun s mem => agree alike _ s (.branch (by decide) found mem)]
  notAny t found := by
    funext p
    simp only [notAny, alike.reject_eq, agree (alike.with_coercing false) _ t (.negated found)]

end Stage

namespace Run

variable {c d : Config}

/-- A step asks for runs against the schemas inside its schema only. -/
theorem once_congr {v w : Visit} {schema : Tree}
    (agree : ∀ {c d : Config}, c.Alike d → ∀ node t, t.height < schema.height →
      v c node t = w d node t) (alike : c.Alike d) (node : Tree) :
    once v c node schema = once w d node schema := by
  cases schema with
  | object members =>
    have agree {c d : Config} (alike : c.Alike d) (node t : Tree) (sub : SubSchema members t) :
        v c node t = w d node t := agree alike node t sub.height_lt
    have parts (t : Tree) (sub : SubSchema members t) : Stage.Congruence.Visits c d Eq v w t :=
      fun node place data path => by rw [agree alike node t sub, alike.join_eq]
    exact congrFun ((Stage.Congruence.eq alike).stages parts (Stage.Branching.eq alike agree)) _
  | _ => rfl

/-- Depth beyond the height of the schema makes no difference. -/
theorem within_congr {depth other : Nat} {schema : Tree} (h : schema.height ≤ depth)
    (h' : schema.height ≤ other) (alike : c.Alike d) (node : Tree) :
    within depth c node schema = within other d node schema := by
  induction depth generalizing other schema c d node with
  | zero => exact absurd h (Nat.not_le.2 schema.height_pos)
  | succ depth ih =>
    cases other with
    | zero => exact absurd h' (Nat.not_le.2 schema.height_pos)
    | succ other =>
      -- Parts are run one level further down, against lower schemas.
      have agree {c d : Config} (alike : c.Alike d) (node t : Tree)
          (lt : t.height < schema.height) :
          within depth c node t = within other d node t := ih (by omega) (by omega) alike node
      exact once_congr agree alike node

end Run

theorem run_congr {c d : Config} (alike : c.Alike d) (node schema : Tree) :
    run c node schema = run d node schema := by
  unfold run
  exact Run.within_congr (Nat.le_refl _) (Nat.le_refl _) alike node

/-- A run is one step whose parts are runs. -/
theorem run_eq_once (config : Config) (node schema : Tree) :
    run config node schema = Run.once run config node schema := by
  have pos := schema.height_pos
  have deeper : run config node schema =
      Run.within (schema.height - 1 + 1) config node schema :=
    Run.within_congr (Nat.le_refl _) (by omega) (.refl config) node
  rw [deeper]
  refine Run.once_congr (fun alike node t lt => ?_) (.refl config) node
  exact Run.within_congr (by omega) (Nat.le_refl _) alike node

theorem run_object (config : Config) (node : Tree) (s : Members) :
    run config node (.object s) = Stage.sequence (stages run config s) ⟨node, []⟩ :=
  run_eq_once ..

theorem run_of_not_object {schema : Tree} (h : ∀ s, schema ≠ .object s) (config : Config)
    (node : Tree) : run config node schema = Stage.malformed .here .schema ⟨node, []⟩ := by
  rw [run_eq_once]
  cases schema with
  | object s => exact absurd rfl (h s)
  | _ => rfl

end TreeSchema
