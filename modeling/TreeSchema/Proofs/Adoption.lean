import Mathlib.Data.List.Basic
import TreeSchema.Proofs.Account
import TreeSchema.Proofs.Mirroring.Combination

/-!
What combinations make of a node when the run coerces and collects all findings.
The branches of `allOf` work on one node in turn, and what each makes of it is
kept whether or not it found something. The branches of `anyOf` and `oneOf` all
start from the node as it was: the node of the first passing branch is adopted,
and of no other branch is there a trace in the tree.
-/

namespace TreeSchema

abbrev Config.adopting (options : Options) : Config :=
  .collecting options true

namespace Stage

def firstPassing (config : Config) (n : Tree) (branches : List Tree) : Option Tree :=
  branches.find? fun t => (run config n t).passes

/-- What the first passing branch makes of the node, or the node itself. -/
def adoption (config : Config) (n : Tree) (branches : List Tree) : Tree :=
  (firstPassing config n branches).elim n fun t => (run config n t).node

/-- The node after branches in turn, each run on what the one before left. -/
def inTurn (config : Config) (n : Tree) (branches : List Tree) : Tree :=
  branches.foldl (fun m t => (run config m t).node) n

/-- What branches find in turn, seen from the combination. -/
def foundInTurn (config : Config) (path : Nat → Pointer) (n : Tree) (branches : List Tree) :
    List Finding :=
  (branches.mapIdx fun index t =>
    groupOf (path index) (run config (inTurn config n (branches.take index)) t)).flatten

/-- What `anyOf` finds: nothing, or that no branch passes. -/
def foundByAny (config : Config) (n : Tree) (branches : List Tree) : List Finding :=
  match firstPassing config n branches with
  | some _ => []
  | none => [⟨.anyOfMissing, .here, .key "anyOf", "Value must satisfy at least one of the options",
      groupsOf config n "anyOf" branches⟩]

/-- What `oneOf` finds: that no branch passes, or each two passing ones that follow one another. -/
def foundByOne (config : Config) (n : Tree) (branches : List Tree) : List Finding :=
  match branches.findIdxs fun t => (run config n t).passes with
  | [] => [⟨.oneOfMissing, .here, .key "oneOf", "Value must satisfy one of the options",
      groupsOf config n "oneOf" branches⟩]
  | first :: more => ((first :: more).zip more).map fun pair =>
      ⟨.oneOfMultiple, .here, .key "oneOf",
        s!"Value satisfies more than one of the options ({pair.1} and {pair.2})", []⟩

/-! ### Verdicts -/

section

variable {config : Config} {n : Tree} {keyword : String} {first : Bool} {index : Nat}
  {schemas : List Tree} {verdicts : Verdicts}

theorem head?_passing
    (judged : judgeBranches (run config n) keyword first index schemas = .ok verdicts) :
    verdicts.passing.head?.map (·.2) =
      (firstPassing config n schemas).map fun t => (run config n t).node := by
  refine judgeBranches_induction (motive := fun _ schemas verdicts =>
    verdicts.passing.head?.map (·.2) =
      (firstPassing config n schemas).map fun t => (run config n t).node)
    (fun _ => rfl) (fun _ s rest _ passes => ?_) (fun index s rest verdicts _ _ ih => ?_) judged
  · simp [firstPassing, passes]
  · cases passed : (run config n s).passes with
    | true => simp [Verdicts.cons_of_passes passed, firstPassing, passed]
    | false => simpa [Verdicts.cons, firstPassing, List.find?_cons, passed] using ih

theorem indices_passing
    (judged : judgeBranches (run config n) keyword first index schemas = .ok verdicts)
    (all : first = false) :
    verdicts.passing.map (·.1) = schemas.findIdxs (fun t => (run config n t).passes) index := by
  refine judgeBranches_induction (motive := fun index schemas verdicts =>
    verdicts.passing.map (·.1) = schemas.findIdxs (fun t => (run config n t).passes) index)
    (fun _ => rfl) (fun _ _ _ search => nomatch all.symm.trans search)
    (fun index s rest verdicts _ _ ih => ?_) judged
  cases passed : (run config n s).passes with
  | true => simp [Verdicts.cons_of_passes passed, List.findIdxs_cons, passed, ih]
  | false => simpa [Verdicts.cons, List.findIdxs_cons, passed] using ih

theorem adopted_eq
    (judged : judgeBranches (run config n) keyword first index schemas = .ok verdicts) :
    verdicts.adopted true n = adoption config n schemas := by
  have same := head?_passing judged
  obtain ⟨passing, groups⟩ := verdicts
  unfold adoption
  cases passing with
  | nil =>
    rw [Option.map_eq_none_iff.1 same.symm]
    rfl
  | cons branch more =>
    obtain ⟨t, found, leaves⟩ := Option.map_eq_some_iff.1 same.symm
    rw [found]
    exact leaves.symm

theorem anyTold_eq (judged : judgeBranches (run config n) "anyOf" true 0 schemas = .ok verdicts) :
    anyTold verdicts = .ok (foundByAny config n schemas) := by
  have same := head?_passing judged
  obtain ⟨passing, groups⟩ := verdicts
  unfold foundByAny
  cases passing with
  | nil =>
    have all := groups_of_judgeBranches judged
    simp only [Nat.zero_add] at all
    rw [Option.map_eq_none_iff.1 same.symm, anyTold, all]
    rfl
  | cons branch more =>
    obtain ⟨t, found, -⟩ := Option.map_eq_some_iff.1 same.symm
    rw [found, anyTold]

theorem gather_singletons {α β : Type} (g : α → β) (xs : List α) :
    gather (xs.map fun x => .ok [g x]) = .ok (xs.map g) := by
  induction xs with
  | nil => rfl
  | cons x rest ih =>
    rw [List.map_cons, gather, ih]
    rfl

theorem oneTold_eq (judged : judgeBranches (run config n) "oneOf" false 0 schemas = .ok verdicts) :
    oneTold verdicts = .ok (foundByOne config n schemas) := by
  have indices := indices_passing judged rfl
  obtain ⟨passing, groups⟩ := verdicts
  rw [foundByOne, ← indices]
  cases passing with
  | nil =>
    have all := groups_of_judgeBranches judged
    simp only [Nat.zero_add] at all
    rw [oneTold, all]
    rfl
  | cons branch more => exact gather_singletons _ _

end

/-! ### What the combinations do -/

namespace Yields

variable {s : Stage} {n after : Tree} {held : List Finding}
  {x : Except Interruption (List Finding)}

theorem of_ends (h : Yields s n after x) (ends : (s ⟨n, held⟩).interruption? = none) :
    ∃ found, x = .ok found ∧ s ⟨n, held⟩ = ⟨⟨after, held ++ found⟩, none⟩ := by
  cases x with
  | ok found => exact ⟨found, rfl, h held⟩
  | error i => exact nomatch (h held).symm.trans ends

theorem visits {options : Options} (path : Nat → Pointer) (branches : List Tree) (n : Tree) :
    Yields (sequence (branches.mapIdx fun index t =>
        visitSelf run (.adopting options) t (path index))) n
      (inTurn (.adopting options) n branches)
      (gather (branches.mapIdx fun index t => toldUnder .here (path index)
        (run (.adopting options)
          (inTurn (.adopting options) n (branches.take index)) t).told)) := by
  induction branches generalizing n path with
  | nil => exact skip
  | cons t rest ih =>
    rw [List.mapIdx_cons, List.mapIdx_cons]
    have first : Yields (visitSelf run (.adopting options) t (path 0)) n
        (run (.adopting options) n t).node
        (toldUnder .here (path 0) (run (.adopting options) n t).told) :=
      (join options _ id .here (path 0)).at_node fun _ => rfl
    exact first.cons (ih (fun index => path (index + 1)) _)

end Yields

theorem flatten_of_gather {branches : List Tree} {path : Nat → Pointer} {runs : Nat → Tree → Run}
    {found : List Finding}
    (told : gather (branches.mapIdx fun index t =>
      toldUnder .here (path index) (runs index t).told) = .ok found) :
    found = (branches.mapIdx fun index t => groupOf (path index) (runs index t)).flatten := by
  obtain ⟨ended, rfl⟩ := gather_eq_ok told
  rw [List.flatMap_def]
  refine congrArg List.flatten (List.ext_getElem (by simp) fun index bound bound' => ?_)
  have place : index < branches.length := by simpa using bound'
  rw [List.getElem_map]
  obtain ⟨items, eq⟩ := ended _ (List.getElem_mem (by simpa using bound))
  rw [List.getElem_mapIdx] at eq ⊢
  rw [List.getElem_mapIdx]
  cases stopped : (runs index branches[index]).interruption? with
  | none =>
    rw [Run.told_of_none stopped]
    rfl
  | some i =>
    rw [Run.told_of_some stopped] at eq
    cases eq

section

variable {options : Options} {n : Tree} {branches : List Tree} {held : List Finding}

theorem allOf_effect
    (ends : (allOf run (.adopting options) (.array branches) ⟨n, held⟩).interruption? = none) :
    allOf run (.adopting options) (.array branches) ⟨n, held⟩ =
      ⟨⟨inTurn (.adopting options) n branches,
        held ++ foundInTurn (.adopting options) (branchPath "allOf") n branches⟩, none⟩ := by
  have yields : Yields (allOf run (.adopting options) (.array branches)) n _ _ :=
    .visits (branchPath "allOf") branches n
  obtain ⟨found, told, eq⟩ := yields.of_ends ends
  rw [eq, flatten_of_gather told, foundInTurn]

/-- `anyOf` adopts the first branch that passes alone on the node. -/
theorem anyOf_effect
    (ends : (anyOf run (.adopting options) (.array branches) ⟨n, held⟩).interruption? = none) :
    anyOf run (.adopting options) (.array branches) ⟨n, held⟩ =
      ⟨⟨adoption (.adopting options) n branches,
        held ++ foundByAny (.adopting options) n branches⟩, none⟩ := by
  cases judged : judgeBranches (run (.adopting options) n) "anyOf" true 0 branches with
  | error i =>
    rw [anyOf_of_error judged] at ends
    cases ends
  | ok verdicts =>
    have yields := Yields.anyOf_of_judged judged
    rw [anyTold_eq judged, adopted_eq judged] at yields
    exact yields held

/-- `oneOf` adopts the first branch that passes alone on the node, and tells which others do. -/
theorem oneOf_effect
    (ends : (oneOf run (.adopting options) (.array branches) ⟨n, held⟩).interruption? = none) :
    oneOf run (.adopting options) (.array branches) ⟨n, held⟩ =
      ⟨⟨adoption (.adopting options) n branches,
        held ++ foundByOne (.adopting options) n branches⟩, none⟩ := by
  cases judged : judgeBranches (run (.adopting options) n) "oneOf" false 0 branches with
  | error i =>
    rw [oneOf_of_error judged] at ends
    cases ends
  | ok verdicts =>
    have yields := Yields.oneOf_of_judged judged
    rw [oneTold_eq judged, adopted_eq judged] at yields
    exact yields held

end

end Stage

/-! ### Schemas of combinations only -/

/-- The schema has no keywords but combinations. -/
def Members.Combines (s : Members) : Prop :=
  ∀ name, name ∉ "not" :: branchKeywords → s.get? name = none

namespace Members.Combines

variable {config : Config} {s : Members}

theorem has_eq_false (bare : s.Combines) {name : String} (other : name ∉ "not" :: branchKeywords) :
    s.has name = false := by
  rw [← isSome_get?, bare name other, Option.isSome_none]

theorem readAll_eq_nil {readings : List Constraint.Reading} (empty : ∀ r ∈ readings, r = .ok []) :
    Constraint.readAll readings = .ok [] := by
  induction readings with
  | nil => rfl
  | cons r rest ih =>
    obtain ⟨rfl, rest⟩ := List.forall_mem_cons.1 empty
    rw [Constraint.readAll, ih rest]
    rfl

theorem unconstrained (bare : s.Combines) :
    Constraint.ofEnum s = .ok [] ∧ Constraint.ofObjects s = .ok [] ∧
      Constraint.ofArrays s = .ok [] ∧ Constraint.ofStrings s = .ok [] ∧
      Constraint.ofNumbers s = .ok [] := by
  have unique : s.has "uniqueItems" = false := bare.has_eq_false (by decide)
  refine ⟨?_, readAll_eq_nil ?_, readAll_eq_nil ?_, readAll_eq_nil ?_, readAll_eq_nil ?_⟩ <;>
    simp [Constraint.ofEnum, Constraint.countOf, Constraint.patternOf, Constraint.divisorOf,
      Constraint.limitOf, bare _, branchKeywords, unique]

theorem sequence_of_skips {stages : List Stage} (idle : ∀ stage ∈ stages, stage = Stage.skip) :
    Stage.sequence stages = Stage.skip := by
  induction stages with
  | nil => rfl
  | cons stage rest ih =>
    obtain ⟨rfl, rest⟩ := List.forall_mem_cons.1 idle
    funext p
    rw [Stage.sequence_cons_of_none rfl, ih rest]
    rfl

theorem checkConstraints_eq (config : Config) (bare : s.Combines) :
    Stage.checkConstraints config (Constraint.ofEnum s) = Stage.skip ∧
      Stage.checkConstraints config (Constraint.ofObjects s) = Stage.skip ∧
      Stage.checkConstraints config (Constraint.ofArrays s) = Stage.skip ∧
      Stage.checkConstraints config (Constraint.ofStrings s) = Stage.skip ∧
      Stage.checkConstraints config (Constraint.ofNumbers s) = Stage.skip := by
  simp [Stage.checkConstraints, bare.unconstrained]

theorem checkObject_eq (bare : s.Combines) : Stage.checkObject run config s = Stage.skip := by
  have idle : ∀ stage ∈ Stage.objectStages run config s, stage = Stage.skip := by
    rw [Stage.forall_mem_objectStages]
    simp [Stage.checkRequired, Stage.checkProperties, Stage.checkPatterns, Stage.checkAdditional,
      Stage.checkDependencies, bare.checkConstraints_eq config, bare _, branchKeywords]
  funext ⟨n, held⟩
  cases n with
  | object members =>
    have all : Stage.countedMembers config.options s members = members := by
      simp [Stage.countedMembers, bare _, branchKeywords]
    simp only [Stage.checkObject, sequence_of_skips idle, all]
  | _ => rfl

theorem checkArray_eq (bare : s.Combines) : Stage.checkArray run config s = Stage.skip := by
  have items : Stage.checkItems run config s = Stage.skip := by
    simp [Stage.checkItems, bare _, branchKeywords]
  have idle := sequence_of_skips (List.forall_mem_cons.2 ⟨items,
    List.forall_mem_singleton.2 (bare.checkConstraints_eq config).2.2.1⟩)
  funext ⟨n, held⟩
  cases n with
  | array => exact congrFun idle _
  | _ => rfl

theorem run_eq (bare : s.Combines) (n : Tree) :
    run config n (.object s) = Stage.checkCombinations run config s ⟨n, []⟩ := by
  obtain ⟨enum, -, -, ofStrings, ofNumbers⟩ := bare.checkConstraints_eq config
  have type : Stage.checkType config s = Stage.skip := by
    simp [Stage.checkType, bare.has_eq_false, branchKeywords]
  have string : Stage.checkString config s = Stage.skip := by
    funext ⟨n, held⟩
    cases n with
    | string => exact congrFun ofStrings _
    | _ => rfl
  have number : Stage.checkNumber config s = Stage.skip := by
    funext ⟨n, held⟩
    cases n with
    | number => exact congrFun ofNumbers _
    | _ => rfl
  rw [run_object, stages, type, enum, bare.checkObject_eq, bare.checkArray_eq, string, number]
  exact congrFun (Stage.sequence_singleton _) _

end Members.Combines

/-- A schema of one combination is run as its stage. -/
theorem run_combination (config : Config) (n t : Tree) :
    run config n (.object [("allOf", t)]) = Stage.allOf run config t ⟨n, []⟩ ∧
      run config n (.object [("anyOf", t)]) = Stage.anyOf run config t ⟨n, []⟩ ∧
      run config n (.object [("oneOf", t)]) = Stage.oneOf run config t ⟨n, []⟩ := by
  have bare {name : String} (combines : name ∈ branchKeywords) :
      Members.Combines [(name, t)] := fun other apart => by
    have differs : name ≠ other := fun same => apart (same ▸ List.mem_cons_of_mem _ combines)
    rw [Members.get?, if_neg differs, Members.get?]
  refine ⟨?_, ?_, ?_⟩ <;> rw [(bare (by decide)).run_eq n]
  · exact congrFun (Stage.sequence_singleton _) _
  · exact congrFun (Stage.sequence_singleton _) _
  · exact congrFun (Stage.sequence_singleton _) _

/-- What a coercing run that ends makes of a node with each combination: `allOf` runs its branches
in turn, each on what the one before left, and adds up their findings; `anyOf` adopts the first
branch that passes alone on the node, and otherwise leaves the node and tells that none does;
`oneOf` adopts it, too, and tells each two passing branches that follow one another. -/
theorem run_combination_effects (options : Options) (n : Tree) (branches : List Tree) :
    ((run (.adopting options) n (.object [("allOf", .array branches)])).interruption? = none →
      run (.adopting options) n (.object [("allOf", .array branches)]) =
        ⟨⟨Stage.inTurn (.adopting options) n branches,
          Stage.foundInTurn (.adopting options) (Stage.branchPath "allOf") n branches⟩,
          none⟩) ∧
    ((run (.adopting options) n (.object [("anyOf", .array branches)])).interruption? = none →
      run (.adopting options) n (.object [("anyOf", .array branches)]) =
        ⟨⟨Stage.adoption (.adopting options) n branches,
          Stage.foundByAny (.adopting options) n branches⟩, none⟩) ∧
    ((run (.adopting options) n (.object [("oneOf", .array branches)])).interruption? = none →
      run (.adopting options) n (.object [("oneOf", .array branches)]) =
        ⟨⟨Stage.adoption (.adopting options) n branches,
          Stage.foundByOne (.adopting options) n branches⟩, none⟩) := by
  obtain ⟨all, any, one⟩ := run_combination (.adopting options) n (.array branches)
  rw [all, any, one]
  exact ⟨Stage.allOf_effect, Stage.anyOf_effect, Stage.oneOf_effect⟩

/-- Null, integers, numbers. -/
def readings : List Tree :=
  ["null", "integer", "number"].map fun name => .object [("type", .string name)]

def readingFinding (code : Code) (path text : String) : Finding :=
  ⟨code, .here, ⟨path⟩, text, []⟩

/-- A text that reads as a number, but not as null. -/
theorem run_combination_effects_readings :
    run (.adopting .default) (.string "5") (.object [("allOf", .array readings)]) =
        ⟨⟨.number (.int 5),
          [readingFinding .invalidType "/allOf/0/type" "Invalid type: string"]⟩, none⟩ ∧
      run (.adopting .default) (.string "5") (.object [("anyOf", .array readings)]) =
        ⟨⟨.number (.int 5), []⟩, none⟩ ∧
      run (.adopting .default) (.string "5") (.object [("oneOf", .array readings)]) =
        ⟨⟨.number (.int 5), [readingFinding .oneOfMultiple "/oneOf"
          "Value satisfies more than one of the options (1 and 2)"]⟩, none⟩ := by
  obtain ⟨all, any, one⟩ := run_combination_effects .default (.string "5") readings
  exact ⟨(all rfl).trans rfl, (any rfl).trans rfl, (one rfl).trans rfl⟩

end TreeSchema
