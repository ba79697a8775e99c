import TreeSchema.Proofs.Governing
import TreeSchema.Proofs.Idempotence
import TreeSchema.Proofs.Skeleton

/-!
Required keys after coercion. A coercing run sees first to it that the required
keys are there. What comes later converts members and fills in others, so it
keeps every key, but for those that nothing but `additionalProperties` speaks of
and that it forbids: they are removed without a word, required or not.
-/

namespace TreeSchema

/-- The schema forbids the key: it allows no additional members, and the key is neither declared nor
found by a pattern. -/
def Members.Prohibits (s : Members) (key : String) : Prop :=
  s.get? "additionalProperties" = some (.bool false) ∧ ¬ s.Declares key ∧ ∀ t, ¬ s.Finds t key

theorem Members.Governs.not_prohibits {s g : Members} {key : String} (governs : s.Governs key g) :
    ¬ s.Prohibits key := by
  rintro ⟨forbids, undeclared, unfound⟩
  cases governs with
  | declared declares =>
    obtain ⟨entries, found, value⟩ := declares
    exact undeclared ⟨entries, found, Members.has_of_get? value⟩
  | matched _ found _ compiles finds =>
    exact unfound _ ⟨_, _, _, found, List.mem_append_right _ List.mem_cons_self, compiles, finds⟩
  | additional _ _ found => cases forbids.symm.trans found

/-- The keywords by which a schema looks at an object as a whole once more. -/
def returningKeywords : List String :=
  "dependencies" :: "not" :: branchKeywords

theorem Stage.countedMembers_eq {options : Options} {s : Members}
    (off : options.ignoreNullProperties = true → s.get? "ignoreNullProperties" ≠ some (.bool true))
    (members : Members) : Stage.countedMembers options s members = members := by
  unfold countedMembers
  split
  · next on ignores => exact absurd ignores (off on)
  · rfl

/-- A property of objects lasts through a coercing run when it outlasts the three things that the
run does to an object: a key is filled in that the schema does not prohibit, the value of a key that
is there is replaced, and a key that is prohibited is removed. -/
theorem Upholds.ofObjects {options : Options} {s : Members} {P : Members → Prop}
    (direct : ∀ name ∈ returningKeywords, s.get? name = none)
    (counts : ∀ members, Stage.countedMembers options s members = members)
    (fills : ∀ {members : Members} {key : String} (t : Tree), P members →
      members.has key = false → ¬ s.Prohibits key → P (members.put key t))
    (replaces : ∀ {members : Members} {key : String} (t : Tree), P members →
      members.has key = true → P (members.put key t))
    (removes : ∀ {members : Members} {key : String}, P members → s.Prohibits key →
      P (members.erase key)) :
    Upholds (.collecting options true) s fun n => n.IsObject ∧ P n.members where
  counted := by
    rintro members ⟨-, holds⟩
    exact ⟨⟨_, rfl⟩, (counts members).symm ▸ holds⟩
  converted _ _ _ _ met converts := by
    obtain ⟨⟨members, rfl⟩, -⟩ := met
    exact absurd rfl (Tree.scalar_of_convertTo converts).2
  filled _ _ _ n key _ met absent fillsIn := by
    obtain ⟨g, t, governs, -, rfl⟩ := exists_of_withDefault? fillsIn
    have allowed := (governs_of_propertySchema governs).not_prohibits
    exact ⟨⟨_, rfl⟩, fills t met.2 absent allowed⟩
  erased _ start n key forbids _ extra met :=
    ⟨⟨_, rfl⟩, removes met.2 ⟨forbids, (mem_extraKeys_iff.1 extra).2⟩⟩
  placed _ n u t place data path met applies := by
    obtain ⟨⟨members, rfl⟩, holds⟩ := met
    have absent {name : String} {t : Tree} (mem : name ∈ returningKeywords)
        (found : s.get? name = some t) : False :=
      nomatch (direct name mem).symm.trans found
    cases applies with
    | property _ _ value | pattern _ _ _ _ value | additional _ _ value =>
      exact ⟨⟨_, rfl⟩, replaces _ holds (Members.has_of_get? value)⟩
    | dependency found => exact (absent (by decide) found).elim
    | items | place | additionalItem => exact ⟨⟨members, rfl⟩, holds⟩
    | branch combines found =>
      exact (absent (List.mem_cons_of_mem _ (List.mem_cons_of_mem _ combines)) found).elim

/-- The tree is an object, and has the key where the condition holds. -/
def Tree.HasWhere (key : String) (P : Prop) (n : Tree) : Prop :=
  n.IsObject ∧ (P → n.members.has key = true)

section

variable {options : Options} {s : Members} {key : String} {P : Prop}

/-- Nothing that a coercing run does to an object takes a key from it that is not prohibited. -/
theorem hasWhere_upholds (direct : ∀ name ∈ returningKeywords, s.get? name = none)
    (counts : ∀ members, Stage.countedMembers options s members = members)
    (allowed : P → ¬ s.Prohibits key) :
    Upholds (.collecting options true) s (Tree.HasWhere key P) := by
  have written {members : Members} (other : String) (t : Tree) (has : P → members.has key = true)
      (holds : P) : (members.put other t).has key = true :=
    Stage.has_put.2 (.inr (has holds))
  refine .ofObjects (P := fun members => P → members.has key = true) direct counts
    (fun t has _ _ => written _ t has) (fun t has _ => written _ t has)
    fun {members other} has prohibited holds => ?_
  have differs : other ≠ key := by
    rintro rfl
    exact allowed holds prohibited
  have kept : (members.erase other).get? key = members.get? key := by
    rw [Members.get?_erase, if_neg differs]
  exact (Members.has_congr kept).trans (has holds)

namespace Stage

variable {members : Members} {items : List Tree} {node after : Tree}

theorem Accounts.of_passes {config : Config} {meets : Tree → Prop} {stage : Stage}
    (accounts : Accounts config s meets stage) (met : meets node)
    (passes : Passes stage node after) : meets after := by
  have left := accounts.node ⟨node, []⟩ met
  rwa [passes] at left

/-- The stages for objects leave a required key exactly if it is not prohibited. -/
theorem has_iff_of_passes_checkObject
    (direct : ∀ name ∈ returningKeywords, s.get? name = none)
    (countsAll : options.ignoreNullProperties = false)
    (listed : s.get? "required" = some (.array items)) (mem : .string key ∈ items)
    (passes : Passes (checkObject run (.collecting options true) s) (.object members) after) :
    after.IsObject ∧ (after.members.has key = true ↔ ¬ s.Prohibits key) := by
  obtain ⟨n₁, required, n₂, properties, n₃, patterns, n₄, additional, n₅, dependencies, _, counts,
    rfl⟩ := (passes_checkObject_iff countsAll).1 passes
  have independent : checkDependencies run (.collecting options true) s = skip := by
    simp [checkDependencies, direct "dependencies" (by decide)]
  rw [independent, passes_skip] at dependencies
  obtain ⟨-, same⟩ := passes_checkConstraints_iff.1 counts
  subst dependencies same
  obtain ⟨object, present⟩ := passes_checkRequired required ⟨members, rfl⟩
  obtain ⟨members₁, rfl⟩ := object
  have counted : ∀ ms, countedMembers options s ms = ms :=
    countedMembers_eq fun on => absurd (countsAll.symm.trans on) Bool.false_ne_true
  have walk := Accounts.walk (hasWhere_upholds (P := ¬ s.Prohibits key) direct counted id)
  -- The key is there once it has been asked for, and later stages remove it only if prohibited.
  have holds₁ : Tree.HasWhere key (¬ s.Prohibits key) (.object members₁) :=
    ⟨⟨members₁, rfl⟩, fun _ => present items listed key mem⟩
  have holds₂ := (walk.checkProperties members₁ holds₁).of_passes holds₁ properties
  have holds₃ := walk.checkPatterns.of_passes holds₂ patterns
  have holds := walk.checkAdditional.of_passes holds₃ additional
  refine ⟨holds.1, fun has prohibited => ?_, holds.2⟩
  obtain ⟨forbids, undeclared, unfound⟩ := prohibited
  obtain ⟨-, -, admitted⟩ := passes_checkAdditional
    (fun m found => by cases forbids.symm.trans found) additional holds₃.1
  obtain ⟨u, value⟩ := Option.isSome_iff_exists.1 ((Members.isSome_get? _ key).trans has)
  exact (admitted key (mem_extraKeys_iff.2 ⟨has, undeclared, unfound⟩) u value).1 forbids

theorem has_iff_of_passes (direct : ∀ name ∈ returningKeywords, s.get? name = none)
    (countsAll : options.ignoreNullProperties = false)
    (listed : s.get? "required" = some (.array items)) (mem : .string key ∈ items)
    (passes : Passes (sequence (stages run (.collecting options true) s)) (.object members)
      after) :
    after.IsObject ∧ (after.members.has key = true ↔ ¬ s.Prohibits key) := by
  have uncombined : ∀ name ∈ "not" :: branchKeywords, s.get? name = none :=
    fun name among => direct name (List.mem_cons_of_mem _ among)
  obtain ⟨n₁, type, n₂, choices, n₃, object, n₄, array, n₅, text, n₆, number, n₇, combined, rfl⟩ :=
    passes_stages_iff.1 passes
  obtain ⟨-, same⟩ := passes_checkConstraints_iff.1 choices
  obtain ⟨-, sameText⟩ := passes_checkString_iff.1 text
  obtain ⟨-, sameNumber⟩ := passes_checkNumber_iff.1 number
  have sameCombined := (passes_checkCombinations_iff uncombined).1 combined
  subst same sameText sameNumber sameCombined
  -- Whatever the type, an object is not converted to anything else.
  have counted : ∀ ms, countedMembers options s ms = ms :=
    countedMembers_eq fun on => absurd (countsAll.symm.trans on) Bool.false_ne_true
  have upholds : Upholds (.collecting options true) s (Tree.HasWhere key False) :=
    hasWhere_upholds direct counted nofun
  have walk := Accounts.walk upholds
  obtain ⟨⟨members₁, rfl⟩, -⟩ := walk.checkType.of_passes ⟨⟨members, rfl⟩, nofun⟩ type
  obtain ⟨⟨kept, rfl⟩, has⟩ := has_iff_of_passes_checkObject direct countsAll listed mem object
  have same : after = .object kept := passes_skip.1 array
  exact same ▸ ⟨⟨kept, rfl⟩, has⟩

end Stage

end

/-- What a valid coercion of an object leaves is an object, and it has a required key exactly if the
schema does not prohibit the key. -/
theorem coerce_has_required_iff {s members : Members} {options : Options} {items : List Tree}
    {key : String} {o : Outcome} (direct : ∀ name ∈ returningKeywords, s.get? name = none)
    (countsAll : options.ignoreNullProperties = false)
    (listed : s.get? "required" = some (.array items)) (mem : .string key ∈ items)
    (coerced : Validator.coerce ⟨.object s, options, none⟩ (.object members) .collectAll = .ok o)
    (valid : o.isValid = true) :
    ∃ kept, o.value? = some (.object kept) ∧
      (Members.has kept key = true ↔ ¬ s.Prohibits key) := by
  obtain ⟨ends, rfl⟩ := Validator.outcome_eq_ok_iff.1 coerced
  have clean := (Outcome.isValid_iff _).1 valid
  have passed : (run (.collecting options true) (.object members) (.object s)).passes = true :=
    (Run.passes_iff _).2 ⟨ends, clean⟩
  have keeps := (Stage.Keeps.closed (Config.collecting_remembers options true)).stages run s
  rw [run_object] at passed
  obtain ⟨⟨kept, eq⟩, has⟩ :=
    Stage.has_iff_of_passes direct countsAll listed mem (keeps.passes_iff.1 passed)
  rw [eq] at has
  rw [← run_object] at eq
  exact ⟨kept, Outcome.value?_eq_some_iff.2 ⟨rfl, clean, eq⟩, has⟩

/-- Two keys are required, and only the first is declared. -/
def halfDeclared : Members :=
  [("required", .array [.string "a", .string "b"]),
    ("properties", .object [("a", .object [("type", .string "integer")])]),
    ("additionalProperties", .bool false)]

theorem coerce_has_required_iff_halfDeclared :
    ∃ o kept, Validator.coerce ⟨.object halfDeclared, .default, none⟩
        (.object [("b", .null), ("a", .string "1")]) .collectAll = .ok o ∧
      o.value? = some (.object kept) ∧ Members.has kept "a" = true ∧
      Members.has kept "b" = false := by
  have coerced : Validator.coerce ⟨.object halfDeclared, .default, none⟩
      (.object [("b", .null), ("a", .string "1")]) .collectAll =
        .ok ⟨.collectAll, [], .object [("a", .number (.int 1))], true⟩ := rfl
  have declared : ¬ halfDeclared.Prohibits "a" := fun prohibited =>
    prohibited.2.1 ⟨_, rfl, rfl⟩
  have prohibited : halfDeclared.Prohibits "b" := by
    refine ⟨rfl, ?_, ?_⟩
    · rintro ⟨entries, found, has⟩
      cases found
      cases has
    · rintro t ⟨entries, pattern, regex, found, -⟩
      cases found
  have first : Tree.string "a" ∈ [.string "a", .string "b"] := List.mem_cons_self
  have second : Tree.string "b" ∈ [.string "a", .string "b"] :=
    List.mem_cons_of_mem _ List.mem_cons_self
  obtain ⟨kept, value, a⟩ := coerce_has_required_iff (by decide) rfl rfl first coerced rfl
  obtain ⟨kept', value', b⟩ := coerce_has_required_iff (by decide) rfl rfl second coerced rfl
  cases value.symm.trans value'
  exact ⟨_, kept, coerced, value, a.2 declared, by simpa [prohibited] using b⟩

/-- A valid coercion may remove a required key. -/
theorem not_coerce_keeps_required :
    ¬ ∀ (s members : Members) (options : Options) (items : List Tree) (key : String)
        (o : Outcome), (∀ name ∈ returningKeywords, s.get? name = none) →
      options.ignoreNullProperties = false →
      s.get? "required" = some (.array items) → .string key ∈ items →
      Validator.coerce ⟨.object s, options, none⟩ (.object members) .collectAll = .ok o →
      o.isValid = true →
      ∃ kept, o.value? = some (.object kept) ∧ Members.has kept key = true := by
  intro keeps
  obtain ⟨kept, value, has⟩ := keeps
    [("required", .array [.string "a"]), ("additionalProperties", .bool false)]
    [("a", .number (.int 1))] .default [.string "a"] "a" ⟨.collectAll, [], .object [], true⟩
    (by decide) rfl rfl List.mem_cons_self rfl rfl
  cases value
  cases has

end TreeSchema
