import TreeSchema.Proofs.Mirroring.Basic
import TreeSchema.Proofs.Satisfaction

/-!
Keywords that a run can read. Which keywords a run against a schema looks at is
known from the kind of the node, and each of them has a shape that its value must
have. Whether it has is looked at in the middle of stages and loops, which may
have nothing to do, or have findings already. The obligation is that none of this
keeps a run that collects all findings from looking: a stage that comes to an end
attests that the keywords it reads are well formed and that the parts it consults
were run to their ends; and if it ends in a fault, the fault stems from one of the
keywords or from one of the parts.
-/

namespace TreeSchema

/-! ### Shapes -/

/-- A keyword with the test that its value has to pass. -/
structure Shape where
  keyword : String
  accepts : Tree → Bool

namespace Tree

def isArray : Tree → Bool
  | .array _ => true
  | _ => false

def isTypes : Tree → Bool
  | .string name => (TypeName.ofName? name).isSome
  | .array items => (strings? items).any (·.all fun name => (TypeName.ofName? name).isSome)
  | _ => false

def isNames : Tree → Bool
  | .array items => (strings? items).isSome
  | _ => false

/-- An object all of whose entries pass a test. -/
def isMembersWhere (accepts : String × Tree → Bool) : Tree → Bool
  | .object entries => entries.all accepts
  | _ => false

def isMembers : Tree → Bool :=
  isMembersWhere fun _ => true

def compiles (text letters : String) : Bool :=
  match Pattern.compile text letters with
  | .ok (.ok _) => true
  | _ => false

def isPatterns : Tree → Bool :=
  isMembersWhere fun entry => compiles entry.1 ""

def isAdditional (t : Tree) : Bool :=
  (Additional.ofTree? t).isSome

def isDependencies : Tree → Bool :=
  isMembersWhere fun entry => (Dependency.ofTree? entry.2).isSome

def isItems : Tree → Bool
  | .object _ => true
  | .array _ => true
  | _ => false

def isCount : Tree → Bool
  | .number n => !n.isNegative
  | _ => false

def isDivisor : Tree → Bool
  | .number n => !n.isNegative && !n.isZero
  | _ => false

def isPattern (letters : String) : Tree → Bool
  | .string text => compiles text letters
  | _ => false

def isLetters : Tree → Bool
  | .string letters => letters.toList.all fun c => (Pattern.Flag.ofLetter? c).isSome
  | _ => false

section

variable {accepts : String × Tree → Bool}

theorem isMembersWhere_eq_false {t : Tree} (other : ∀ entries, t = .object entries → False) :
    t.isMembersWhere accepts = false := by
  cases t with
  | object entries => exact (other entries rfl).elim
  | _ => rfl

theorem isMembersWhere_of_mem {entries : Members} {entry : String × Tree} (mem : entry ∈ entries)
    (misfit : accepts entry = false) : (object entries).isMembersWhere accepts = false :=
  List.all_eq_false.2 ⟨entry, mem, by simp [misfit]⟩

end

end Tree

namespace Members

/-- The letters beside a pattern, none if there is no text of them. -/
def letters (s : Members) : String :=
  match s.get? "patternFlags" with
  | some (.string letters) => letters
  | _ => ""

/-- The shapes of the keywords that a schema has for nodes of one kind. -/
def shapesOfKind (s : Members) : Kind → List Shape
  | .object =>
    [⟨"required", Tree.isNames⟩, ⟨"properties", Tree.isMembers⟩,
      ⟨"patternProperties", Tree.isPatterns⟩, ⟨"additionalProperties", Tree.isAdditional⟩,
      ⟨"dependencies", Tree.isDependencies⟩, ⟨"minProperties", Tree.isCount⟩,
      ⟨"maxProperties", Tree.isCount⟩]
  | .array =>
    [⟨"items", Tree.isItems⟩, ⟨"minItems", Tree.isCount⟩, ⟨"maxItems", Tree.isCount⟩] ++
      if (s.get? "items").any Tree.isArray then [⟨"additionalItems", Tree.isAdditional⟩] else []
  | .string =>
    [⟨"minLength", Tree.isCount⟩, ⟨"maxLength", Tree.isCount⟩,
      ⟨"pattern", Tree.isPattern s.letters⟩] ++
      if s.has "pattern" then [⟨"patternFlags", Tree.isLetters⟩] else []
  | .number =>
    [⟨"multipleOf", Tree.isDivisor⟩, ⟨"minimum", Tree.isNumber⟩, ⟨"maximum", Tree.isNumber⟩]
  | _ => []

/-- The shapes of all keywords that a run looks at on a node of the kind. -/
def shapes (s : Members) (kind : Kind) : List Shape :=
  [⟨"type", Tree.isTypes⟩, ⟨"enum", Tree.isArray⟩] ++ s.shapesOfKind kind ++
    branchKeywords.map fun keyword => ⟨keyword, Tree.isArray⟩

/-- If the schema has the keyword, its value has the shape. -/
def Fits (s : Members) (x : Shape) : Prop :=
  ∀ v, s.get? x.keyword = some v → x.accepts v = true

/-- All keywords that a run looks at on a node of the kind have their shapes. -/
def Legible (s : Members) (kind : Kind) : Prop :=
  ∀ x ∈ s.shapes kind, s.Fits x

/-- What the path leads to is a keyword without its shape, or an entry of it that keeps it from
having the shape. -/
inductive Misshapen (s : Members) (kind : Kind) : Pointer → Prop where
  | keyword {name : String} {accepts : Tree → Bool} {v : Tree}
      (concerns : ⟨name, accepts⟩ ∈ s.shapes kind) (found : s.get? name = some v)
      (misfit : accepts v = false) : Misshapen s kind (.key name)
  | entry {name : String} {accepts : String × Tree → Bool} {entries : Members}
      {entry : String × Tree} (concerns : ⟨name, Tree.isMembersWhere accepts⟩ ∈ s.shapes kind)
      (found : s.get? name = some (.object entries)) (mem : entry ∈ entries)
      (misfit : accepts entry = false) : Misshapen s kind (.entry name (.key entry.1))

theorem Misshapen.not_legible {s : Members} {kind : Kind} {path : Pointer}
    (misshapen : s.Misshapen kind path) : ¬ s.Legible kind := by
  intro legible
  cases misshapen with
  | keyword concerns found misfit => exact nomatch misfit.symm.trans (legible _ concerns _ found)
  | entry concerns found mem misfit =>
    have spoilt := Tree.isMembersWhere_of_mem mem misfit
    exact nomatch spoilt.symm.trans (legible _ concerns _ found)

end Members

/-! ### Parts -/

/-- Of the branches, none before the one at the index passes. -/
def NonePasses (options : Options) (n : Tree) (schemas : List Tree) (index : Nat) : Prop :=
  ∀ earlier < index, ∀ t, schemas[earlier]? = some t →
    (run (.collecting options false) n t).passes = false

/-- A run on the node, once it is taken as it counts, against the schema consults the run on the
first tree against the second, which stands in the schema at the path. -/
inductive Consults (options : Options) (s : Members) (n : Tree) : Tree → Tree → Pointer → Prop where
  | property {entries : Members} {key : String} {t u : Tree}
      (found : s.get? "properties" = some (.object entries)) (mem : (key, t) ∈ entries)
      (value : n.members.get? key = some u) :
      Consults options s n u t (.entry "properties" (.key key))
  | pattern {entries : Members} {pattern key : String} {t u : Tree} {regex : Pattern.Regex}
      (found : s.get? "patternProperties" = some (.object entries)) (mem : (pattern, t) ∈ entries)
      (compiled : Pattern.compile pattern "" = .ok (.ok regex)) (finds : regex.finds key = true)
      (value : n.members.get? key = some u) :
      Consults options s n u t (.entry "patternProperties" (.key pattern))
  | additional {m : Members} {key : String} {u : Tree}
      (found : s.get? "additionalProperties" = some (.object m))
      (undeclared : ¬ s.Declares key) (unfound : ∀ t, ¬ s.Finds t key)
      (value : n.members.get? key = some u) :
      Consults options s n u (.object m) (.key "additionalProperties")
  | dependency {entries m : Members} {key : String}
      (found : s.get? "dependencies" = some (.object entries)) (mem : (key, .object m) ∈ entries)
      (present : n.members.has key = true) :
      Consults options s n n (.object m) (.entry "dependencies" (.key key))
  | items {m : Members} {index : Nat} {u : Tree} (found : s.get? "items" = some (.object m))
      (value : n.items[index]? = some u) : Consults options s n u (.object m) (.key "items")
  | place {schemas : List Tree} {index : Nat} {t u : Tree}
      (found : s.get? "items" = some (.array schemas)) (place : schemas[index]? = some t)
      (value : n.items[index]? = some u) :
      Consults options s n u t (.entry "items" (.index index))
  | additionalItem {schemas : List Tree} {m : Members} {index : Nat} {u : Tree}
      (found : s.get? "items" = some (.array schemas)) (past : schemas[index]? = none)
      (beyond : s.get? "additionalItems" = some (.object m))
      (value : n.items[index]? = some u) :
      Consults options s n u (.object m) (.key "additionalItems")
  | branch {keyword : String} {schemas : List Tree} {index : Nat} {t : Tree}
      (combines : keyword = "allOf" ∨ keyword = "oneOf")
      (found : s.get? keyword = some (.array schemas)) (place : schemas[index]? = some t) :
      Consults options s n n t (Stage.branchPath keyword index)
  /-- Branches are tried up to the first that passes. -/
  | tried {schemas : List Tree} {index : Nat} {t : Tree}
      (found : s.get? "anyOf" = some (.array schemas)) (place : schemas[index]? = some t)
      (failed : NonePasses options n schemas index) :
      Consults options s n n t (Stage.branchPath "anyOf" index)
  | negated {t : Tree} (found : s.get? "not" = some t) : Consults options s n n t (.key "not")

/-- The run on the node against the schema comes to an end. -/
def Ended (options : Options) (n schema : Tree) : Prop :=
  (run (.collecting options false) n schema).interruption? = none

/-- The fault is one of a keyword that a run on the node looks at, or of a part that it consults. -/
inductive Stems (options : Options) (s : Members) (d : Tree) : Fault → Prop where
  | own {path : Pointer} {cause : Malformed} (misshapen : s.Misshapen d.kind path) :
      Stems options s d ⟨path, cause⟩
  | part {u t : Tree} {path : Pointer} {f : Fault}
      (consults : Consults options s (d.counted options s) u t path)
      (ends : (run (.collecting options false) u t).interruption? = some (.fault f)) :
      Stems options s d (f.under path)

/-! ### What results attest -/

/-- If there is a value, then `P` holds, and a fault is blamed. Of failures nothing is said. -/
inductive Attests {α : Type} (blame : Fault → Prop) (P : Prop) : Except Interruption α → Prop where
  | ok {a : α} (holds : P) : Attests blame P (.ok a)
  | fault {f : Fault} (blamed : blame f) : Attests blame P (.error (.fault f))
  | failure (cause : Failure) : Attests blame P (.error (.failure cause))

namespace Attests

variable {α β : Type} {blame : Fault → Prop} {P Q : Prop} {x : Except Interruption α}

theorem mono (h : Attests blame P x) (weaker : P → Q) : Attests blame Q x := by
  cases h with
  | ok holds => exact .ok (weaker holds)
  | fault blamed => exact .fault blamed
  | failure cause => exact .failure cause

theorem bind {f : α → Except Interruption β} (first : Attests blame P x)
    (rest : ∀ a, x = .ok a → Attests blame Q (f a)) : Attests blame (P ∧ Q) (x >>= f) := by
  cases first with
  | ok holds => exact (rest _ rfl).mono (.intro holds)
  | fault blamed => exact .fault blamed
  | failure cause => exact .failure cause

theorem map (f : α → β) (h : Attests blame P x) : Attests blame P (x.map f) := by
  cases h with
  | ok holds => exact .ok holds
  | fault blamed => exact .fault blamed
  | failure cause => exact .failure cause

theorem told (v : Violation) (holds : P) : Attests blame P v.told := by
  unfold Violation.told
  cases v.finding with
  | ok f => exact .ok holds
  | error cause => exact .failure cause

theorem append {y : Except Interruption (List β)} {x : Except Interruption (List β)}
    (first : Attests blame P x) (rest : Attests blame Q y) :
    Attests blame (P ∧ Q) (do return (← x) ++ (← y)) :=
  first.bind fun _ _ => (rest.bind (Q := True) fun _ _ => .ok trivial).mono And.left

theorem under {i : Interruption} {path : Pointer}
    (blamed : ∀ f, i = .fault f → blame (f.under path)) :
    Attests (α := α) blame P (.error (i.under path)) := by
  cases i with
  | fault f => exact .fault (blamed f rfl)
  | failure cause => exact .failure cause

end Attests

/-! ### What stages attest -/

namespace Stage

/-- What the stage yields at the node attests `P`. -/
def Attests (blame : Fault → Prop) (P : Prop) (stage : Stage) (n after : Tree) : Prop :=
  ∃ x, Yields stage n after x ∧ TreeSchema.Attests blame P x

namespace Attests

variable {options : Options} {blame : Fault → Prop} {P Q : Prop} {s : Stage} {xs : List Stage}
  {n m after : Tree}

theorem mono (h : Attests blame P s n after) (weaker : P → Q) : Attests blame Q s n after := by
  obtain ⟨x, yields, attests⟩ := h
  exact ⟨x, yields, attests.mono weaker⟩

theorem at_node {s' : Stage} (h : Attests blame P s' n after)
    (same : ∀ held, s ⟨n, held⟩ = s' ⟨n, held⟩) : Attests blame P s n after := by
  obtain ⟨x, yields, attests⟩ := h
  exact ⟨x, yields.at_node same, attests⟩

theorem skip (holds : P) : Attests blame P skip n n :=
  ⟨_, .skip, .ok holds⟩

theorem replace (holds : P) : Attests blame P (replace after) n after :=
  ⟨_, .replace, .ok holds⟩

theorem malformed {path : Pointer} {cause : Malformed} (blamed : blame ⟨path, cause⟩) :
    Attests blame P (malformed path cause) n after :=
  ⟨_, .interrupt _, .fault blamed⟩

theorem failure (cause : Failure) : Attests blame P (interrupt (.failure cause)) n after :=
  ⟨_, .interrupt _, .failure cause⟩

theorem reject (v : Violation) (holds : P) :
    Attests blame P (reject (.collecting options false) v) n n :=
  ⟨_, .reject options v, .told v holds⟩

theorem rejects {v : Violation} (holds : P)
    (same : ∀ held, s ⟨n, held⟩ = Stage.reject (.collecting options false) v ⟨n, held⟩) :
    Attests blame P s n n :=
  (reject v holds).at_node same

theorem reading {α : Type} {part : Except Interruption α} {f : α → Stage}
    (read : TreeSchema.Attests blame P part)
    (next : ∀ a, part = .ok a → Attests blame Q (f a) n n) :
    Attests blame (P ∧ Q) (reading part f) n n := by
  cases read with
  | ok holds => exact (next _ rfl).mono (.intro holds)
  | fault blamed => exact ⟨_, .interrupt _, .fault blamed⟩
  | failure cause => exact failure cause

theorem cons (first : Attests blame P s n m) (rest : Attests blame Q (sequence xs) m after) :
    Attests blame (P ∧ Q) (sequence (s :: xs)) n after := by
  obtain ⟨x, yields, attests⟩ := first
  obtain ⟨y, yields', attests'⟩ := rest
  exact ⟨_, yields.cons yields', attests.append attests'⟩

theorem nil : Attests blame True (sequence []) n n :=
  skip trivial

theorem map {α : Type} {f : α → Stage} {P : α → Prop} {xs : List α}
    (each : ∀ x ∈ xs, Attests blame (P x) (f x) n n) :
    Attests blame (∀ x ∈ xs, P x) (sequence (xs.map f)) n n := by
  induction xs with
  | nil => exact nil.mono fun _ => List.forall_mem_nil _
  | cons x rest ih =>
    have others := ih fun y mem => each y (List.mem_cons_of_mem _ mem)
    exact ((each x List.mem_cons_self).cons others).mono List.forall_mem_cons.2

theorem mapIdx {α : Type} {f : Nat → α → Stage} {P : Nat → α → Prop} {xs : List α}
    (each : ∀ (index : Nat) x, xs[index]? = some x → Attests blame (P index x) (f index x) n n) :
    Attests blame (∀ (index : Nat) x, xs[index]? = some x → P index x)
      (sequence (xs.mapIdx f)) n n := by
  induction xs generalizing f P with
  | nil => exact nil.mono fun _ _ _ => nofun
  | cons x rest ih =>
    rw [List.mapIdx_cons]
    have others := ih fun index y place => each (index + 1) y place
    refine ((each 0 x rfl).cons others).mono ?_
    rintro ⟨first, later⟩ index y place
    cases index with
    | zero =>
      cases place
      exact first
    | succ index => exact later index y place

theorem join {u t : Tree} {place : Tree → Tree} {data path : Pointer}
    (blamed : ∀ f, (run (.collecting options false) u t).interruption? = some (.fault f) →
      blame (f.under path)) :
    Attests blame (Ended options u t)
      (join (.collecting options false) (run (.collecting options false) u t) place data path)
      n n := by
  refine ⟨_, .join options _ place data path, ?_⟩
  cases stops : (run (.collecting options false) u t).interruption? with
  | none =>
    rw [Run.told_of_none stops]
    exact .ok stops
  | some i =>
    rw [Run.told_of_some stops]
    exact .under fun f eq => blamed f (eq ▸ stops)

end Attests

end Stage

end TreeSchema
