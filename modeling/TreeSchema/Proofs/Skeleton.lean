import TreeSchema.Proofs.Evolution
import TreeSchema.Tree.Address
import TreeSchema.Validator

/-!
The skeleton of containers that coercion keeps. Objects stay objects and arrays
stay arrays of their length, as no conversion starts from either, and each place
that writes a node anew writes one of its kind. Where nothing is taken out of an
object, its keys stay, too, in their order and in front of those filled in, and
this at every place of the tree, since parts are put back under the steps that
led to them.
-/

namespace TreeSchema

namespace Tree

/-! ### Containers -/

/-- Containers of one kind: arrays of one length, or objects whose keys are so related. -/
inductive Frames (keys : List String → List String → Prop) : Tree → Tree → Prop where
  | array {items items' : List Tree} (length : items'.length = items.length) :
      Frames keys (.array items) (.array items')
  | object {ms ns : Members} (kept : keys ms.keys ns.keys) : Frames keys (.object ms) (.object ns)

namespace Frames

variable {keys : List String → List String → Prop} {t u v : Tree}

theorem refl (reflexive : ∀ ks, keys ks ks) (parts : ¬ t.Scalar) : Frames keys t t := by
  cases t with
  | array items => exact .array rfl
  | object ms => exact .object (reflexive _)
  | _ => exact absurd ⟨nofun, nofun⟩ parts

theorem trans (transitive : ∀ {ks ls ms}, keys ks ls → keys ls ms → keys ks ms)
    (first : Frames keys t u) (rest : Frames keys u v) : Frames keys t v := by
  cases first with
  | array length =>
    cases rest with
    | array length' => exact .array (length'.trans length)
  | object kept =>
    cases rest with
    | object kept' => exact .object (transitive kept kept')

theorem not_scalar (h : Frames keys t u) : ¬ u.Scalar := by
  cases h with
  | array => exact fun scalar => scalar.1 rfl
  | object => exact fun scalar => scalar.2 rfl

theorem eq_object {ms : Members} (h : Frames keys t (.object ms)) : t = .object t.members := by
  cases h
  rfl

theorem of_object (h : Frames keys t u) (object : t = .object t.members) :
    u = .object u.members := by
  cases h with
  | array => cases object
  | object => rfl

theorem of_array {items : List Tree} (h : Frames keys (.array items) u) :
    ∃ items', u = .array items' ∧ items'.length = items.length := by
  cases h with
  | array length => exact ⟨_, rfl, length⟩

end Frames

/-! ### The root -/

/-- A container stays one of its kind. -/
def Retains (d n : Tree) : Prop :=
  ¬ d.Scalar → Frames (fun _ _ => True) d n

theorem eq_object_of_mem_extraKeys {s : Members} {t : Tree} {key : String}
    (extra : key ∈ Stage.extraKeys s t.members) : t = .object t.members := by
  cases t with
  | object => rfl
  | _ => cases extra

theorem scalar_of_convertTo {t w : Tree} {types : List String}
    (converts : convertTo t types = .ok (.ok w)) : t.Scalar := by
  obtain ⟨rule, -, accepts, -⟩ := exists_rule_of_convertTo converts
  exact Rule.scalar_of_accepts accepts

end Tree

/-- Whatever the schema, no change makes a container anything else. -/
theorem Evolution.retains (config : Config) :
    Evolution config (fun _ => True) Tree.Retains where
  refl _ parts := .refl (fun _ => trivial) parts
  trans first rest parts :=
    (first parts).trans (fun _ _ => trivial) (rest (first parts).not_scalar)
  endures _ d :=
    { counted := fun before parts => by
        rw [(before parts).eq_object]
        exact .object trivial
      converted := fun _ _ _ _ before converts parts =>
        absurd (Tree.scalar_of_convertTo converts) (before parts).not_scalar
      filled := fun _ _ _ _ _ object _ _ _ parts => by
        rw [(object parts).eq_object]
        exact .object trivial
      erased := fun _ _ _ _ _ start extra _ parts => by
        have object := Tree.eq_object_of_mem_extraKeys extra
        rw [object] at start
        rw [(start parts).eq_object]
        exact .object trivial }
  member value _ _ := by
    rw [Tree.eq_object_of_get? value]
    exact .object trivial
  item value _ _ := by
    rw [Tree.eq_array_of_getElem? value]
    exact .array List.length_set

/-! ### Every place -/

namespace Tree

/-- Where the tree has a container, the other one has it at the same place: an array of the same
length, or an object with the same keys in front. -/
def Grows (d n : Tree) : Prop :=
  ∀ steps u, d.at? steps = some u → ¬ u.Scalar → ∃ v, n.at? steps = some v ∧ Frames (· <+: ·) u v

theorem parts_set (items : List Tree) {index : Nat} (bound : index < items.length) (t : Tree) :
    (array (items.set index t)).parts =
      (array items).parts.put (Segment.text (.index index)) t := by
  have put {name : Nat → String} (distinct : Function.Injective name) :
      (items.set index t).mapIdx (fun i u => (name i, u)) =
        Members.put (items.mapIdx fun i u => (name i, u)) (name index) t := by
    induction items generalizing index name with
    | nil => cases bound
    | cons u rest ih =>
      cases index with
      | zero => simp [Members.put]
      | succ index =>
        have later : Function.Injective fun i => name (i + 1) :=
          fun i j same => Nat.succ.inj (distinct same)
        have other : name 0 ≠ name (index + 1) := fun same => Nat.noConfusion (distinct same)
        simp only [List.set_cons_succ, List.mapIdx_cons, Members.put, if_neg other]
        exact congrArg (_ :: ·) (ih (Nat.lt_of_succ_lt_succ bound) later)
  exact put Segment.text_index_injective

namespace Grows

variable {t u v : Tree}

theorem refl (t : Tree) : Grows t t :=
  fun _ u found parts => ⟨u, found, .refl List.prefix_refl parts⟩

theorem trans (first : Grows t u) (rest : Grows u v) : Grows t v := by
  intro steps part found parts
  obtain ⟨mid, found, frames⟩ := first steps part found parts
  obtain ⟨last, found, frames'⟩ := rest steps mid found frames.not_scalar
  exact ⟨last, found, frames.trans List.IsPrefix.trans frames'⟩

theorem of_scalar (scalar : t.Scalar) (u : Tree) : Grows t u := by
  intro steps part found parts
  cases steps with
  | nil =>
    cases found
    exact absurd scalar parts
  | cons step rest =>
    cases t with
    | array => exact absurd rfl scalar.1
    | object => exact absurd rfl scalar.2
    | _ => cases found

theorem root (h : Grows t u) (parts : ¬ t.Scalar) : Frames (· <+: ·) t u := by
  obtain ⟨v, found, frames⟩ := h [] t rfl parts
  cases found
  exact frames

theorem of_parts {step : String} (frames : Frames (· <+: ·) t u)
    (parts : u.parts = t.parts.put step v) (old : ∀ w, t.parts.get? step = some w → Grows w v) :
    Grows t u := by
  intro steps part found container
  cases steps with
  | nil =>
    cases found
    exact ⟨u, rfl, frames⟩
  | cons other rest =>
    rw [at?_cons, Option.bind_eq_some_iff] at found
    obtain ⟨w, value, inside⟩ := found
    rw [at?_cons, parts, Members.get?_put]
    split
    · next same =>
      subst same
      exact old w value rest part inside container
    · rw [value]
      exact ⟨part, inside, .refl List.prefix_refl container⟩

theorem put {ms : Members} {key : String} (old : ∀ u, ms.get? key = some u → Grows u t) :
    Grows (.object ms) (.object (ms.put key t)) := by
  refine of_parts (.object ?_) rfl old
  rw [Members.keys_put]
  split
  · exact List.prefix_refl _
  · exact List.prefix_append ..

theorem set {items : List Tree} {index : Nat} (value : items[index]? = some u)
    (grown : Grows u t) : Grows (.array items) (.array (items.set index t)) := by
  obtain ⟨bound, -⟩ := List.getElem?_eq_some_iff.1 value
  refine of_parts (.array List.length_set) (parts_set items bound t) fun w found => ?_
  rw [get?_parts_array, value] at found
  cases found
  exact grown

end Grows

end Tree

/-- The schema forbids no members beyond those it declares. -/
def Members.Open (s : Members) : Prop :=
  s.get? "additionalProperties" ≠ some (.bool false)

/-- Where nulls count and no schema forbids members, containers only grow. -/
theorem Evolution.grows (config : Config)
    (countsAll : config.options.ignoreNullProperties = false) :
    Evolution config Members.Open Tree.Grows where
  refl := .refl
  trans := .trans
  endures {s} allowed d :=
    { counted := fun {members} before => by
        have all : Stage.countedMembers config.options s members = members := by
          unfold Stage.countedMembers
          rw [countsAll]
        rwa [all]
      converted := fun _ _ _ _ before converts =>
        before.trans (.of_scalar (Tree.scalar_of_convertTo converts) _)
      filled := fun _ members _ n key object before absent fills => by
        by_cases scalar : d.Scalar
        · exact .of_scalar scalar _
        -- The node was an object at the start of the stage, so it is one now.
        have now : n = .object n.members :=
          (before.root scalar).of_object (object.root scalar).eq_object
        obtain ⟨t, rfl⟩ := eq_put_of_withDefault? fills
        have fresh : Tree.Grows (.object n.members) (.object (n.members.put key t)) := by
          refine .put fun u value => ?_
          rw [← Members.isSome_get?, value] at absent
          cases absent
        rw [now] at before
        exact before.trans fresh
      erased := fun _ _ _ _ forbids => absurd forbids allowed }
  member {n _ _ _} value part := by
    rw [Tree.eq_object_of_get? value]
    refine .put fun w found => ?_
    cases found.symm.trans value
    exact part
  item value part := by
    rw [Tree.eq_array_of_getElem? value]
    exact .set value part

/-! ### Outcomes -/

/-- Coercing leaves objects and arrays what they are, and arrays as long as they are; and where no
schema forbids members and nulls count, each object keeps its keys, in their order and in front. -/
theorem coerce_keeps_skeleton {schema data : Tree} {options : Options} {cap : Option Nat}
    {mode : Mode} {o : Outcome}
    (ended : Validator.coerce ⟨schema, options, cap⟩ data mode = .ok o) :
    (∀ ms, data = .object ms → ∃ ns, o.data = .object ns) ∧
    (∀ items, data = .array items →
      ∃ items', o.data = .array items' ∧ items'.length = items.length) ∧
    (Everywhere Members.Open schema → options.ignoreNullProperties = false →
      ∀ steps (ms : Members), data.at? steps = some (.object ms) →
        ∃ ns : Members, o.data.at? steps = some (.object ns) ∧ ms.keys <+: ns.keys) := by
  obtain ⟨-, rfl⟩ := Validator.outcome_eq_ok_iff.1 ended
  let config := Validator.config ⟨schema, options, cap⟩ mode true
  have retained := run_evolves (.retains config) schema (fun _ _ => trivial) data
  refine ⟨?_, ?_, fun allowed countsAll steps ms found => ?_⟩
  · rintro ms rfl
    have frames := retained fun scalar => scalar.2 rfl
    exact ⟨_, frames.of_object rfl⟩
  · rintro items rfl
    have frames := retained fun scalar => scalar.1 rfl
    obtain ⟨items', same, length⟩ := frames.of_array
    exact ⟨items', same, length⟩
  · have grown := run_evolves (.grows config countsAll) schema allowed data
    obtain ⟨v, found, frames⟩ := grown steps _ found fun scalar => scalar.2 rfl
    cases frames with
    | object kept => exact ⟨_, found, kept⟩

/-- Orders with a customer and a number of parcels, one unless it is told. -/
def orderSchema : Tree :=
  .object [("required", .array [.string "parcels"]), ("properties", .object [
    ("customer", .object [("properties", .object [("id", .object [("type", .string "integer")])]),
      ("required", .array [.string "name"]),
      ("additionalProperties", .object [("type", .string "string")])]),
    ("parcels", .object [("default", .number (.int 1))])])]

def order : Tree :=
  .object [("note", .null), ("customer", .object [("name", .null), ("id", .string "7")])]

/-- The order with its parcels behind what it had. -/
def completeOrder : Tree :=
  .object [("note", .null), ("customer", .object [("name", .string ""), ("id", .number (.int 7))]),
    ("parcels", .number (.int 1))]

theorem coerce_keeps_skeleton_order :
    Validator.coerce ⟨orderSchema, .default, none⟩ order .collectAll =
        .ok ⟨.collectAll, [], completeOrder, true⟩ ∧
      (∃ ns, completeOrder = .object ns) ∧
      ∃ ns : Members, completeOrder.at? ["customer"] = some (.object ns) ∧
        ["name", "id"] <+: ns.keys := by
  have allowed : Everywhere Members.Open orderSchema := by
    have customer : Everywhere Members.Open (.object [("properties", .object
        [("id", .object [("type", .string "integer")])]), ("required", .array [.string "name"]),
        ("additionalProperties", .object [("type", .string "string")])]) :=
      Everywhere.object_iff.2 ⟨nofun, List.forall_mem_cons.2
        ⟨.leaf rfl nofun, List.forall_mem_singleton.2 (.leaf rfl nofun)⟩⟩
    exact Everywhere.object_iff.2 ⟨nofun, List.forall_mem_cons.2
      ⟨customer, List.forall_mem_singleton.2 (.leaf rfl nofun)⟩⟩
  have ended : Validator.coerce ⟨orderSchema, .default, none⟩ order .collectAll =
      .ok ⟨.collectAll, [], completeOrder, true⟩ := rfl
  obtain ⟨object, -, places⟩ := coerce_keeps_skeleton ended
  exact ⟨ended, object _ rfl, places allowed rfl ["customer"] _ rfl⟩

end TreeSchema
