import TreeSchema.Outcome
import TreeSchema.Schema.Fault

/-!
Reports: findings, faults and outcomes as trees, under the names that readers
of a report rely on.
-/

namespace TreeSchema

def textTree (s : String) : Tree := .string s

def countTree (n : Nat) : Tree := .number (.int n)

namespace Finding

mutual

/-- A finding as a tree; groups are told only where there are any. -/
def toTree : Finding → Tree
  | ⟨code, dataPath, schemaPath, message, groups⟩ =>
    .object
      ([("code", textTree code.name), ("code_num", countTree code.number),
        ("category", textTree code.category), ("data_path", textTree dataPath.text),
        ("schema_path", textTree schemaPath.text), ("message", textTree message)] ++
        (if groups.isEmpty then [] else [("sub_findings", .array (groupTrees groups))]))

def groupTrees : List (List Finding) → List Tree
  | [] => []
  | group :: rest => .array (toTrees group) :: groupTrees rest

def toTrees : List Finding → List Tree
  | [] => []
  | f :: rest => f.toTree :: toTrees rest

end

end Finding

def Fault.toTree (f : Fault) : Tree :=
  .object [("schema_path", textTree f.schemaPath.text), ("message", textTree f.message)]

/-- The members of the report on an outcome. -/
def Outcome.members (o : Outcome) : Members :=
  [("valid", .bool o.isValid), ("mode", textTree o.mode.name),
    ("error_count", countTree o.findings.length), ("errors", .array (Finding.toTrees o.findings))]

end TreeSchema
