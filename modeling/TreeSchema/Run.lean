import TreeSchema.Run.Array
import TreeSchema.Run.Combination
import TreeSchema.Run.Object

/-!
The run of a node against a schema: all stages in their order. A run of a part
is always against a part of the schema, so the depth of runs within runs is at
most the height of the schema.
-/

namespace TreeSchema

/-- The stages of a schema, in order. -/
def stages (visit : Visit) (config : Config) (schema : Members) : List Stage :=
  [Stage.checkType config schema,
    Stage.checkConstraints config (Constraint.ofEnum schema),
    Stage.checkObject visit config schema,
    Stage.checkArray visit config schema,
    Stage.checkString config schema,
    Stage.checkNumber config schema,
    Stage.checkCombinations visit config schema]

namespace Run

/-- A run whose parts are run by `visit`. -/
def once (visit : Visit) : Visit := fun config node schema =>
  match schema with
  | .object members => Stage.sequence (stages visit config members) ⟨node, []⟩
  | _ => Stage.malformed .here .schema ⟨node, []⟩

/-- Runs within runs down to `depth` levels. -/
def within : Nat → Visit
  | 0 => fun _ node _ => ⟨⟨node, []⟩, none⟩
  | depth + 1 => once (within depth)

end Run

/-- Checks a node against a schema. -/
def run : Visit := fun config node schema =>
  Run.within schema.height config node schema

end TreeSchema
