import TreeSchema.Proofs.Adoption
import TreeSchema.Proofs.Leading
import TreeSchema.Proofs.Owning.Basic
import TreeSchema.Proofs.Presence

/-!
What coercion removes from an object is what checking it reports. A schema that
allows no further members is applied twice to the same object. The checking run
leaves the object, so it meets the keys that are prohibited as they were given and
reports each of them. The coercing run fills in keys and replaces values before it
comes to that stage; but a key that it fills in is governed by some schema, so it is
not prohibited, and the same keys of the object are left over. Both runs pass the
stage as a whole, and what comes before and behind it is known from what lasts
through all stages.
-/

namespace TreeSchema

/-! ### The finding -/

/-- The finding tells that the schema itself allows no member under the key. -/
structure Finding.Refuses (f : Finding) (key : String) : Prop where
  code : f.code = .objectAdditionalProperties
  data : f.dataPath = .key key
  schema : f.schemaPath = .key "additionalProperties"

theorem Finding.Rooted.schemaPath_under_ne {f : Finding} (rooted : f.Rooted)
    (xs : List Segment) (y : Segment) (ys : List Segment) (name : String) :
    (f.under (.ofSegments xs) (.ofSegments (y :: ys))).schemaPath ≠ .key name := by
  intro same
  obtain ⟨-, step, path, eq⟩ := rooted
  have steps := congrArg Pointer.steps same
  rw [schemaPath_under, eq, ← Pointer.ofSegments_append, Pointer.key,
    Pointer.steps_ofSegments, Pointer.steps_ofSegments] at steps
  simp at steps

section

variable {config : Config} {s : Members} {f : Finding}

theorem Arises.refuses {n : Tree} {v : Violation} (arises : Arises config s n v)
    (told : v.finding = .ok f) (code : f.code = .objectAdditionalProperties) :
    config.coercing ≠ true ∧ ∃ key ∈ Stage.extraKeys s n.members, f.dataPath = .key key := by
  obtain ⟨text, -, rfl⟩ := Violation.exists_of_finding told
  cases arises with
  | additional plain _ extra => exact ⟨plain, _, extra, rfl⟩
  | @constraint x _ _ judged =>
    obtain ⟨-, -, keyword, -⟩ := Constraint.eq_of_judge judged
    have keyword := (congrArg Code.keyword? code).symm.trans keyword
    cases x <;> simp [Code.keyword?, Constraint.keyword] at keyword
  | _ => cases code

theorem Tells.refuses {meets : Tree → Prop} (tells : Tells config s meets f)
    (code : f.code = .objectAdditionalProperties)
    (path : f.schemaPath = .key "additionalProperties") :
    config.coercing ≠ true ∧ ∃ n, meets n ∧
      ∃ key ∈ Stage.extraKeys s n.members, f.dataPath = .key key := by
  cases tells with
  | own met arises told =>
    obtain ⟨plain, extra⟩ := arises.refuses told code
    exact ⟨plain, _, met, extra⟩
  | part _ applies mem =>
    obtain ⟨xs, y, ys, rfl, rfl⟩ := applies.segments
    exact absurd path ((rooted_of_run _ _ mem).schemaPath_under_ne xs y ys _)

end

/-! ### A stage among others -/

namespace Tree

theorem IsObject.of_retains {n n' : Tree} (object : n.IsObject) (retains : Retains n n') :
    n'.IsObject := by
  obtain ⟨members, rfl⟩ := object
  have frames := retains fun scalar => scalar.2 rfl
  exact ⟨_, frames.of_object rfl⟩

theorem IsObject.upholds (config : Config) (s : Members) : Upholds config s IsObject := by
  have kept (n : Tree) : Upholds config s (Retains n) :=
    (Evolution.retains config).upholds trivial
      (fun t _ => run_evolves (.retains config) t fun _ _ => trivial) n
  have refl (n : Tree) : Retains n n := (Evolution.retains config).refl n
  exact
    { counted := fun _ => ⟨_, rfl⟩
      converted := fun coercing n _ _ object converts =>
        object.of_retains ((kept n).converted coercing (refl n) converts)
      filled := fun _ _ _ _ _ _ _ _ _ => ⟨_, rfl⟩
      erased := fun _ _ _ _ _ _ _ _ => ⟨_, rfl⟩
      placed := fun coercing n _ _ _ _ _ object applies =>
        object.of_retains ((kept n).placed coercing (refl n) applies) }

end Tree

namespace Stage

variable {xs : List Stage} {stage : Stage} {p q : Progress}

theorem Collects.of_each (collects : ∀ x ∈ xs, Collects x) : Collects (sequence xs) := by
  induction xs with
  | nil => exact .skip
  | cons x rest ih =>
    exact (collects x List.mem_cons_self).cons
      (ih fun y mem => collects y (List.mem_cons_of_mem _ mem))

theorem Collects.mem_of_held (collects : Collects stage) {f : Finding} (mem : f ∈ p.findings) :
    f ∈ (stage p).findings := by
  have frame := collects.frame p.node p.findings
  exact frame ▸ List.mem_append_left _ mem

theorem Comes.mem_findings (comes : Comes xs p stage q) (collects : ∀ x ∈ xs, Collects x)
    {f : Finding} (mem : f ∈ (stage q).findings) : f ∈ (sequence xs p).findings := by
  obtain ⟨rest, behind, same⟩ := comes.exists_rest
  rw [same]
  cases stopped : (stage q).stop with
  | none =>
    rw [sequence_cons_of_none stopped]
    exact (Collects.of_each fun x mem => collects x (behind x mem)).mem_of_held mem
  | some stop => rwa [sequence_cons_of_some stopped]

/-- A run that collects all findings comes to each stage of a row that is not interrupted. -/
theorem exists_comes (collects : ∀ x ∈ xs, Collects x) (mem : stage ∈ xs)
    (ends : (sequence xs p).interruption? = none) :
    ∃ q, Comes xs p stage q ∧ (stage q).stop = none := by
  induction xs generalizing p with
  | nil => cases mem
  | cons x rest ih =>
    obtain ⟨first, later⟩ := List.forall_mem_cons.1 collects
    have goes := first.first_goes_on ends
    rcases List.mem_cons.1 mem with rfl | mem
    · exact ⟨p, .here .., goes⟩
    · rw [sequence_cons_of_none goes] at ends
      obtain ⟨q, comes, on⟩ := ih later mem ends
      exact ⟨q, .later goes comes, on⟩

/-! The stages of a schema, one by one -/

namespace Walk

variable {c : Config} {v : Visit} {meets : Tree → Prop} {P : Stage → Prop} {s : Members}

theorem each_stage (h : Walk c c v v meets (fun x _ => P x) s) :
    ∀ x ∈ TreeSchema.stages v c s, P x := by
  have choices : P (checkConstraints c (Constraint.ofEnum s)) :=
    h.constraints (by simp [Constraint.readings])
  simp only [TreeSchema.stages, List.forall_mem_cons]
  exact ⟨h.checkType, choices, h.checkObject, h.checkArray, h.checkString, h.checkNumber,
    h.checkCombinations, List.forall_mem_nil _⟩

theorem each_objectStage (h : Walk c c v v meets (fun x _ => P x) s) (members : Members)
    (met : meets (.object members)) : ∀ x ∈ objectStages v c s, P x := by
  have counts : P (checkConstraints c (Constraint.ofObjects s)) :=
    h.constraints (by simp [Constraint.readings])
  exact forall_mem_objectStages.2 ⟨h.checkRequired members met, h.checkProperties members met,
    h.checkPatterns, h.checkAdditional, h.checkDependencies, counts⟩

end Walk

/-- The run of the data against the schema comes to one of the stages for an object. -/
inductive ComesInside (config : Config) (s : Members) (d : Tree) (stage : Stage) :
    Progress → Prop where
  | intro {p q : Progress} {members : Members}
      (outside : Comes (stages run config s) ⟨d, []⟩ (checkObject run config s) p)
      (object : p.node = .object members)
      (inside : Comes (objectStages run config s)
        ⟨.object (countedMembers config.options s members), p.findings⟩ stage q) :
      ComesInside config s d stage q

namespace ComesInside

variable {config : Config} {s : Members} {d : Tree} {meets : Tree → Prop}

theorem lasts (comes : ComesInside config s d stage q) (upholds : Upholds config s meets)
    (met : meets d) : meets q.node := by
  obtain ⟨outside, object, inside⟩ := comes
  have walk := Accounts.walk upholds
  have before := outside.lasts (fun x mem => (walk.each_stage x mem).node) met
  rw [object] at before
  exact inside.lasts (fun x mem => (walk.each_objectStage _ before x mem).node)
    (upholds.counted before)

/-- What is there behind the stage lasts to the end of the run. -/
theorem lasts_behind (comes : ComesInside config s d stage q)
    (upholds : Upholds config s meets) (object : (stage q).node.IsObject)
    (met : meets (stage q).node) : meets (run config d (.object s)).node := by
  obtain ⟨members, eq⟩ := object
  obtain @⟨⟨_, held⟩, _, members', outside, rfl, inside⟩ := comes
  have walk := Accounts.walk upholds
  have last := inside.lasts_behind
    (fun x mem => (walk.each_objectStage members (eq ▸ met) x mem).node) met
  rw [run_object]
  exact outside.lasts_behind (fun x mem => (walk.each_stage x mem).node) last

theorem mem_findings {options : Options} {coercing : Bool} {f : Finding}
    (comes : ComesInside (.collecting options coercing) s d stage q)
    (mem : f ∈ (stage q).findings) :
    f ∈ (run (.collecting options coercing) d (.object s)).findings := by
  obtain @⟨⟨_, held⟩, _, members, outside, rfl, inside⟩ := comes
  have collects := (Collects.closed options coercing).walk run s
  have found := inside.mem_findings (collects.each_objectStage members trivial) mem
  rw [run_object]
  exact outside.mem_findings collects.each_stage found

end ComesInside

variable {options : Options} {coercing : Bool} {s members : Members}

theorem exists_comesInside
    (ends : (run (.collecting options coercing) (.object members) (.object s)).interruption? =
      none)
    (mem : stage ∈ objectStages run (.collecting options coercing) s) :
    ∃ q, ComesInside (.collecting options coercing) s (.object members) stage q ∧
      (stage q).stop = none := by
  have collects := (Collects.closed options coercing).walk run s
  have walk := Accounts.walk (Tree.IsObject.upholds (.collecting options coercing) s)
  have start : (Tree.object members).IsObject := ⟨members, rfl⟩
  have among : checkObject run (.collecting options coercing) s ∈
      stages run (.collecting options coercing) s := by simp [stages]
  rw [run_object] at ends
  obtain ⟨⟨n, held⟩, outside, on⟩ := exists_comes collects.each_stage among ends
  obtain ⟨members', rfl⟩ : n.IsObject :=
    outside.lasts (fun x mem => (walk.each_stage x mem).node) start
  have goes : (sequence (objectStages run (.collecting options coercing) s)
      ⟨.object (countedMembers options s members'), held⟩).stop = none := on
  obtain ⟨q, inside, on'⟩ := exists_comes (collects.each_objectStage members trivial) mem
    (by rw [Run.interruption?, goes])
  exact ⟨q, .intro outside rfl inside, on'⟩

theorem checkAdditional_mem_objectStages (v : Visit) (config : Config) (s : Members) :
    checkAdditional v config s ∈ objectStages v config s := by
  simp [objectStages, memberStages]

theorem checkAdditional_of_forbids {v : Visit} {config : Config}
    (forbids : s.get? "additionalProperties" = some (.bool false)) (p : Progress) :
    checkAdditional v config s p =
      sequence ((extraKeys s p.node.members).map (checkExtra v config .forbidden)) p := by
  simp [checkAdditional, forbids, Additional.ofTree?]

theorem mem_extraKeys_iff_prohibits {key : String}
    (forbids : s.get? "additionalProperties" = some (.bool false)) :
    key ∈ extraKeys s members ↔ members.has key = true ∧ s.Prohibits key := by
  rw [mem_extraKeys_iff, Members.Prohibits]
  simp [forbids]

end Stage

/-! ### Checking -/

def refusal (key : String) : Finding :=
  ⟨.objectAdditionalProperties, .key key, .key "additionalProperties",
    "Additional properties not allowed", []⟩

section

variable {options : Options} {s members : Members}

/-- A run that does not coerce refuses the keys of the object that are prohibited. -/
theorem exists_refuses_iff
    (counts : ∀ members, Stage.countedMembers options s members = members)
    (forbids : s.get? "additionalProperties" = some (.bool false))
    (ends : (run (.collecting options false) (.object members) (.object s)).interruption? = none)
    (key : String) :
    (∃ f ∈ (run (.collecting options false) (.object members) (.object s)).findings,
        f.Refuses key) ↔ members.has key = true ∧ s.Prohibits key := by
  have upholds : Upholds (.collecting options false) s (Met options s (.object members)) :=
    Met.upholds .collectAll none options s (.object members)
  have same {n : Tree} (met : Met options s (.object members) n) : n = .object members := by
    rcases met with rfl | rfl
    · rfl
    · exact congrArg Tree.object (counts members)
  rw [← Stage.mem_extraKeys_iff_prohibits forbids]
  constructor
  · rintro ⟨f, mem, code, data, path⟩
    have tells := (run_accounts upholds (d := .object members) (.inl rfl)).2.1 f mem
    obtain ⟨-, n, met, other, extra, data'⟩ := tells.refuses code path
    rw [same met] at extra
    rwa [Pointer.key_injective (data.symm.trans data')]
  · intro extra
    obtain ⟨⟨n, held⟩, comes, -⟩ :=
      Stage.exists_comesInside ends (Stage.checkAdditional_mem_objectStages ..)
    obtain rfl := same (comes.lasts upholds (.inl rfl))
    have each : ∀ other ∈ Stage.extraKeys s members,
        Stage.Yields (Stage.checkExtra run (.collecting options false) .forbidden other)
          (.object members) (.object members) (.ok [refusal other]) := fun _ _ _ => rfl
    have yields := Stage.Yields.map each
    rw [Stage.gather_singletons] at yields
    refine ⟨refusal key, comes.mem_findings ?_, rfl, rfl, rfl⟩
    rw [Stage.checkAdditional_of_forbids forbids, Tree.members_object, yields held]
    exact List.mem_append_right _ (List.mem_map_of_mem extra)

/-! ### Coercing -/

theorem Stage.Yields.removals (options : Options) (v : Visit) (keys : List String)
    (ms : Members) :
    Yields (sequence (keys.map (checkExtra v (.collecting options true) .forbidden)))
      (.object ms) (.object (keys.foldl Members.erase ms)) (.ok []) := by
  induction keys generalizing ms with
  | nil => exact skip
  | cons key rest ih =>
    have first : Yields (checkExtra v (.collecting options true) .forbidden key) (.object ms)
        (.object (ms.erase key)) (.ok []) :=
      replace.at_node fun _ => checkExtra_of_coercing rfl
    exact first.cons_of_nil (ih _)

theorem Members.get?_foldl_erase (keys : List String) (ms : Members) (key : String) :
    (keys.foldl erase ms).get? key = if key ∈ keys then none else ms.get? key := by
  induction keys generalizing ms with
  | nil => simp
  | cons k rest ih => grind [get?_erase]

/-- The object has all those of the keys that are not prohibited, and of the keys that it has the
given ones come first, in their order. -/
structure Members.Retains (s : Members) (keys : List String) (members : Members) : Prop where
  present : ∀ key ∈ keys, ¬ s.Prohibits key → members.has key = true
  ordered : keys.filter members.has <+: members.keys

theorem Members.has_erase {ms : Members} {key other : String} :
    (ms.erase key).has other = true ↔ ms.has other = true ∧ other ≠ key := by
  simp [has_iff_mem_keys, keys_erase]

theorem Members.has_put_of_has {ms : Members} {key : String} (has : ms.has key = true) (t : Tree) :
    (ms.put key t).keys = ms.keys ∧ ∀ other, (ms.put key t).has other = ms.has other := by
  have keys : (ms.put key t).keys = ms.keys := by
    rw [keys_put, if_pos ((ms.has_iff_mem_keys key).1 has)]
  exact ⟨keys, fun other => by rw [Bool.eq_iff_iff, has_iff_mem_keys, has_iff_mem_keys, keys]⟩

/-- No key of the object is prohibited. -/
def Members.Admissible (s members : Members) : Prop :=
  ∀ key, s.Prohibits key → members.has key = false

theorem admissible_removals (forbids : s.get? "additionalProperties" = some (.bool false))
    (ms : Members) : s.Admissible ((Stage.extraKeys s ms).foldl Members.erase ms) := by
  intro key prohibited
  rw [← Members.isSome_get?, Members.get?_foldl_erase]
  split
  · rfl
  · next spared =>
    have absent : ms.has key ≠ true := fun has =>
      spared ((Stage.mem_extraKeys_iff_prohibits forbids).2 ⟨has, prohibited⟩)
    simpa [Members.isSome_get?] using absent

section

variable (direct : ∀ name ∈ returningKeywords, s.get? name = none)
  (counts : ∀ members, Stage.countedMembers options s members = members)

include direct counts

theorem retains_upholds (keys : List String) :
    Upholds (.collecting options true) s fun n => n.IsObject ∧ s.Retains keys n.members := by
  refine .ofObjects direct counts (fun {ms key} t retains absent allowed => ?_)
    (fun {ms key} t retains present => ?_) fun {ms key} retains prohibited => ?_
  · -- A key that is filled in is none of the given ones: those are still there, or prohibited.
    have others (other : String) (mem : other ∈ keys) :
        (ms.put key t).has other = ms.has other := by
      have differs : key ≠ other := by
        rintro rfl
        exact nomatch absent.symm.trans (retains.present key mem allowed)
      exact Members.has_congr (by rw [Members.get?_put, if_neg differs])
    have new : key ∉ ms.keys := fun mem =>
      nomatch absent.symm.trans ((ms.has_iff_mem_keys key).2 mem)
    refine ⟨fun other mem free => (others other mem).trans (retains.present other mem free), ?_⟩
    rw [List.filter_congr others, Members.keys_put, if_neg new]
    exact retains.ordered.trans (List.prefix_append _ _)
  · obtain ⟨same, others⟩ := Members.has_put_of_has present t
    refine ⟨fun other mem free => (others other).trans (retains.present other mem free), ?_⟩
    rw [same, funext others]
    exact retains.ordered
  · refine ⟨fun other mem free => ?_, ?_⟩
    · have differs : other ≠ key := by
        rintro rfl
        exact free prohibited
      exact Members.has_erase.2 ⟨retains.present other mem free, differs⟩
    · have left : (ms.erase key).has = fun other => (other != key) && ms.has other := by
        funext other
        rw [Bool.eq_iff_iff, Members.has_erase]
        simp [and_comm]
      rw [Members.keys_erase, left, ← List.filter_filter]
      exact retains.ordered.filter _

theorem admissible_upholds :
    Upholds (.collecting options true) s fun n => n.IsObject ∧ s.Admissible n.members := by
  refine .ofObjects direct counts (fun {ms key} t admissible _ allowed => ?_)
    (fun {ms key} t admissible present => ?_) fun {ms key} admissible _ => ?_
  · intro other prohibited
    have differs : key ≠ other := by
      rintro rfl
      exact allowed prohibited
    have same : (ms.put key t).get? other = ms.get? other := by
      rw [Members.get?_put, if_neg differs]
    exact (Members.has_congr same).trans (admissible other prohibited)
  · intro other prohibited
    exact ((Members.has_put_of_has present t).2 other).trans (admissible other prohibited)
  · intro other prohibited
    rw [← Bool.not_eq_true, Members.has_erase, admissible other prohibited]
    simp

/-- A coercing run removes the keys of the object that are prohibited, and keeps the others in
their order. -/
theorem exists_kept (forbids : s.get? "additionalProperties" = some (.bool false))
    (ends : (run (.collecting options true) (.object members) (.object s)).interruption? = none) :
    ∃ kept, (run (.collecting options true) (.object members) (.object s)).node = .object kept ∧
      s.Retains members.keys kept ∧ s.Admissible kept := by
  have retains := retains_upholds direct counts members.keys
  have admits := admissible_upholds (s := s) direct counts
  have start : s.Retains members.keys members := by
    have all : ∀ key ∈ members.keys, members.has key = true :=
      fun key mem => (members.has_iff_mem_keys key).2 mem
    exact ⟨fun key mem _ => all key mem, (List.filter_eq_self.2 all).symm ▸ List.prefix_refl _⟩
  obtain ⟨⟨n, held⟩, comes, -⟩ :=
    Stage.exists_comesInside ends (Stage.checkAdditional_mem_objectStages ..)
  obtain ⟨⟨ms, rfl⟩, -⟩ := comes.lasts retains ⟨⟨members, rfl⟩, start⟩
  have yields := Stage.Yields.removals options run (Stage.extraKeys s ms) ms
  have after : (Stage.checkAdditional run (.collecting options true) s ⟨.object ms, held⟩).node =
      .object ((Stage.extraKeys s ms).foldl Members.erase ms) := by
    rw [Stage.checkAdditional_of_forbids forbids, Tree.members_object, yields held]
  obtain ⟨-, admissible⟩ := comes.lasts_behind admits ⟨_, after⟩
    (after ▸ ⟨⟨_, rfl⟩, admissible_removals forbids ms⟩)
  obtain ⟨⟨⟨kept, eq⟩, retained⟩, -, -⟩ :=
    run_accounts retains (d := .object members) ⟨⟨members, rfl⟩, start⟩
  rw [eq] at retained admissible
  exact ⟨kept, eq, retained, admissible⟩

end

end

/-- A coercing run removes a key of the object exactly if the run that only checks reports it as not
allowed; the other keys keep their order, and the coercing run reports no such thing itself. -/
theorem coerce_removes_iff_refused {s members : Members} {options : Options} {o o' : Outcome}
    (direct : ∀ name ∈ returningKeywords, s.get? name = none)
    (forbids : s.get? "additionalProperties" = some (.bool false))
    (off : options.ignoreNullProperties = true →
      s.get? "ignoreNullProperties" ≠ some (.bool true))
    (checked : Validator.validate ⟨.object s, options, none⟩ (.object members) .collectAll = .ok o)
    (coerced : Validator.coerce ⟨.object s, options, none⟩ (.object members) .collectAll =
      .ok o') :
    ∃ kept, o'.data = .object kept ∧
      (∀ key ∈ members.keys, Members.has kept key = false ↔ ∃ f ∈ o.findings, f.Refuses key) ∧
      members.keys.filter (Members.has kept) <+: Members.keys kept ∧
      ∀ f ∈ o'.findings, f.code = .objectAdditionalProperties →
        f.schemaPath ≠ .key "additionalProperties" := by
  have counts := Stage.countedMembers_eq off
  obtain ⟨ends, rfl⟩ := Validator.outcome_eq_ok_iff.1 checked
  obtain ⟨ends', rfl⟩ := Validator.outcome_eq_ok_iff.1 coerced
  obtain ⟨kept, eq, retained, admissible⟩ := exists_kept direct counts forbids ends'
  refine ⟨kept, eq, fun key mem => ?_, retained.ordered, fun f found code path => ?_⟩
  · have present : members.has key = true := (members.has_iff_mem_keys key).2 mem
    have refused := exists_refuses_iff counts forbids ends key
    constructor
    · intro missing
      refine refused.2 ⟨present, ?_⟩
      by_contra free
      exact nomatch missing.symm.trans (retained.present key mem free)
    · intro told
      exact admissible key (refused.1 told).2
  · have tells := (run_accounts (.trivial _ s) (d := .object members) trivial).2.1 f found
    exact (tells.refuses code path).1 rfl

/-- One key is declared, one is found by a pattern, one is required besides, and no others are
allowed. -/
def strictSchema : Members :=
  [("properties", .object [("a", .object [("type", .string "integer")]),
      ("d", .object [("type", .string "string")])]),
    ("patternProperties", .object [("x", .object [])]), ("required", .array [.string "d"]),
    ("additionalProperties", .bool false)]

def strictData : Members :=
  [("c", .null), ("a", .string "1"), ("bx", .null), ("b", .null)]

theorem coerce_removes_iff_refused_strictSchema :
    ∃ o o', Validator.validate ⟨.object strictSchema, .default, none⟩ (.object strictData)
        .collectAll = .ok o ∧
      Validator.coerce ⟨.object strictSchema, .default, none⟩ (.object strictData)
        .collectAll = .ok o' ∧
      o'.data = .object [("a", .number (.int 1)), ("bx", .null), ("d", .string "")] ∧
      (∃ f ∈ o.findings, f.Refuses "c") ∧ (∃ f ∈ o.findings, f.Refuses "b") ∧
      ¬ ∃ f ∈ o.findings, f.Refuses "a" := by
  have checked : Validator.validate ⟨.object strictSchema, .default, none⟩ (.object strictData)
      .collectAll = .ok ⟨.collectAll,
        [⟨.objectRequired, .here, .entry "required" (.index 0), "Missing required property: d", []⟩,
          ⟨.invalidType, .key "a", .ofSegments [.key "properties", .key "a", .key "type"],
            "Invalid type: string", []⟩, refusal "c", refusal "b"],
        .object strictData, false⟩ := rfl
  have coerced : Validator.coerce ⟨.object strictSchema, .default, none⟩ (.object strictData)
      .collectAll = .ok ⟨.collectAll, [],
        .object [("a", .number (.int 1)), ("bx", .null), ("d", .string "")], true⟩ := rfl
  have off : Options.default.ignoreNullProperties = true →
      strictSchema.get? "ignoreNullProperties" ≠ some (.bool true) := fun on => nomatch on
  obtain ⟨kept, data, removes, -⟩ :=
    coerce_removes_iff_refused (by decide) rfl off checked coerced
  cases data
  refine ⟨_, _, checked, coerced, rfl, (removes "c" (by decide)).1 rfl,
    (removes "b" (by decide)).1 rfl, fun told => ?_⟩
  have missing := (removes "a" (by decide)).2 told
  exact absurd missing (by decide)

end TreeSchema
