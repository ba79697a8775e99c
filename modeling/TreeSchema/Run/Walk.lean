import TreeSchema.Run
import TreeSchema.Schema.Position

/-!
The walk through the engine. Two engines, which may differ in what they are told
and in how they run parts, are compared stage by stage: a relation that is
respected by putting stages together (`Sequential`) and that holds of what a
schema does by itself, of the runs of the parts it is applied to and of the
combinations that look into the findings of a branch (`Walk`) holds of all
stages of the schema. What is asked of the relation is asked for the nodes only
that the stages meet, and for the keywords that the schema has.
-/

namespace TreeSchema

/-! ### Parts -/

/-- The schema `t`, which stands at `path`, is applied to `u`, which is at `data` seen from the
node; `place` puts what becomes of `u` into the node. Branches count for the combinations that are
listed. -/
inductive AppliesBy (combinations : List String) (s : Members) (node : Tree) :
    (u t : Tree) → (place : Tree → Tree) → (data path : Pointer) → Prop where
  | property {entries : Members} {key : String} {t u : Tree}
      (found : s.get? "properties" = some (.object entries)) (mem : (key, t) ∈ entries)
      (value : node.members.get? key = some u) :
      AppliesBy combinations s node u t (node.putMember key) (.key key) (.entry "properties" (.key key))
  | pattern {entries : Members} {pattern key : String} {t u : Tree} {regex : Pattern.Regex}
      (found : s.get? "patternProperties" = some (.object entries)) (mem : (pattern, t) ∈ entries)
      (compiles : Pattern.compile pattern "" = .ok (.ok regex)) (finds : regex.finds key = true)
      (value : node.members.get? key = some u) :
      AppliesBy combinations s node u t (node.putMember key) (.key key)
        (.entry "patternProperties" (.key pattern))
  | additional {m start : Members} {key : String} {u : Tree}
      (found : s.get? "additionalProperties" = some (.object m))
      (extra : key ∈ Stage.extraKeys s start) (value : node.members.get? key = some u) :
      AppliesBy combinations s node u (.object m) (node.putMember key) (.key key) (.key "additionalProperties")
  | dependency {entries m : Members} {key : String}
      (found : s.get? "dependencies" = some (.object entries)) (mem : (key, .object m) ∈ entries)
      (present : node.members.has key = true) :
      AppliesBy combinations s node node (.object m) id .here (.entry "dependencies" (.key key))
  | items {m : Members} {index : Nat} {u : Tree} (found : s.get? "items" = some (.object m))
      (value : node.items[index]? = some u) :
      AppliesBy combinations s node u (.object m) (node.putItem index) (.index index) (.key "items")
  | place {schemas : List Tree} {index : Nat} {t u : Tree}
      (found : s.get? "items" = some (.array schemas)) (place : schemas[index]? = some t)
      (value : node.items[index]? = some u) :
      AppliesBy combinations s node u t (node.putItem index) (.index index) (.entry "items" (.index index))
  | additionalItem {schemas : List Tree} {m : Members} {index : Nat} {u : Tree}
      (found : s.get? "items" = some (.array schemas)) (past : schemas[index]? = none)
      (beyond : s.get? "additionalItems" = some (.object m))
      (value : node.items[index]? = some u) :
      AppliesBy combinations s node u (.object m) (node.putItem index) (.index index) (.key "additionalItems")
  | branch {keyword : String} {schemas : List Tree} {index : Nat} {t : Tree}
      (combines : keyword ∈ combinations) (found : s.get? keyword = some (.array schemas))
      (place : schemas[index]? = some t) :
      AppliesBy combinations s node node t id .here (Stage.branchPath keyword index)

/-- Applied by a keyword, whichever it is. -/
abbrev Applies (s : Members) (node : Tree) :=
  AppliesBy branchKeywords s node

theorem AppliesBy.mono {combinations more : List String} {s : Members} {node u t : Tree}
    {place : Tree → Tree} {data path : Pointer} (listed : combinations ⊆ more)
    (h : AppliesBy combinations s node u t place data path) :
    AppliesBy more s node u t place data path := by
  cases h with
  | property found mem value => exact .property found mem value
  | pattern found mem compiles finds value => exact .pattern found mem compiles finds value
  | additional found extra value => exact .additional found extra value
  | dependency found mem present => exact .dependency found mem present
  | items found value => exact .items found value
  | place found place value => exact .place found place value
  | additionalItem found past beyond value => exact .additionalItem found past beyond value
  | branch combines found place => exact .branch (listed combines) found place

theorem AppliesBy.applies {combinations : List String} {s : Members} {node u t : Tree}
    {place : Tree → Tree} {data path : Pointer} (known : combinations ⊆ branchKeywords)
    (h : AppliesBy combinations s node u t place data path) : Applies s node u t place data path :=
  h.mono known

theorem Applies.subSchema {s : Members} {node u t : Tree} {place : Tree → Tree}
    {data path : Pointer} (h : Applies s node u t place data path) : SubSchema s t := by
  cases h with
  | property found mem value => exact .property found mem
  | pattern found mem compiles finds value => exact .pattern found mem
  | additional found extra value => exact .additional found
  | dependency found mem present => exact .dependency found mem
  | items found value => exact .items found
  | place found place value => exact .place found (List.mem_of_getElem? place)
  | additionalItem found past beyond value => exact .additionalItem beyond
  | branch combines found place => exact .branch combines found (List.mem_of_getElem? place)

/-- Putting a part back as it was leaves the node. -/
theorem Applies.place_eq {s : Members} {node u t : Tree} {place : Tree → Tree}
    {data path : Pointer} (h : Applies s node u t place data path) : place u = node := by
  cases h with
  | property _ _ value | pattern _ _ _ _ value | additional _ _ value =>
    exact Tree.putMember_of_get? value
  | items _ value | place _ _ value | additionalItem _ _ _ value =>
    exact Tree.putItem_of_getElem? value
  | dependency | branch => rfl

/-- What reading the keywords of a schema may end a run with. -/
inductive Misread (s : Members) : Interruption → Prop where
  | keyword {name : String} {t : Tree} {cause : Malformed} (found : s.get? name = some t) :
      Misread s (.fault ⟨.key name, cause⟩)
  | entry {name key : String} {entries : Members} {t : Tree} {cause : Malformed}
      (found : s.get? name = some (.object entries)) (mem : (key, t) ∈ entries) :
      Misread s (.fault ⟨.entry name (.key key), cause⟩)
  | memberPattern {entries : Members} {pattern : String} {t : Tree} {cause : Failure}
      (found : s.get? "patternProperties" = some (.object entries)) (mem : (pattern, t) ∈ entries)
      (fails : Pattern.compile pattern "" = .error cause) : Misread s (.failure cause)
  | textPattern {text letters : String} {cause : Failure}
      (found : s.get? "pattern" = some (.string text))
      (flags : Constraint.patternLetters s = .ok letters)
      (fails : Pattern.compile text letters = .error cause) : Misread s (.failure cause)
  | flags {t : Tree} {cause : Failure} (found : s.get? "patternFlags" = some t)
      (fails : t.shown = .error cause) : Misread s (.failure cause)

/-- The constraints that the stages of a schema read, for all nodes and for each kind of them. -/
def Constraint.readings (s : Members) : List Constraint.Reading :=
  [ofEnum s, ofObjects s, ofArrays s, ofStrings s, ofNumbers s]

theorem Additional.eq_object {t : Tree} {s : Members}
    (read : Additional.ofTree? t = some (.schema s)) : t = .object s := by
  unfold Additional.ofTree? at read
  split at read <;> simp_all

theorem Additional.eq_false {t : Tree} (read : Additional.ofTree? t = some .forbidden) :
    t = .bool false := by
  unfold Additional.ofTree? at read
  split at read <;> simp_all

theorem Dependency.eq_object {t : Tree} {s : Members}
    (read : Dependency.ofTree? t = some (.schema s)) : t = .object s := by
  unfold Dependency.ofTree? at read
  split at read <;> simp_all

theorem Dependency.eq_array {t : Tree} {names : List String}
    (read : Dependency.ofTree? t = some (.keys names)) :
    ∃ items, t = .array items ∧ Tree.strings? items = some names := by
  unfold Dependency.ofTree? at read
  split at read <;> simp_all

theorem Dependency.eq_string {t : Tree} {name : String}
    (read : Dependency.ofTree? t = some (.key name)) : t = .string name := by
  unfold Dependency.ofTree? at read
  split at read <;> simp_all

namespace Stage

/-- A schema or a refusal for further items is read from the keyword for them. -/
theorem additionalItems_eq_some {schema : Members} {policy : Additional}
    (read : additionalItems schema = .ok policy) (asks : policy ≠ .any) :
    ∃ t, schema.get? "additionalItems" = some t ∧ Additional.ofTree? t = some policy := by
  unfold additionalItems at read
  split at read
  · cases read
    exact absurd rfl asks
  · next t found =>
    split at read
    · next policy read' =>
      cases read
      exact ⟨t, found, read'⟩
    · cases read

theorem additionalItems_eq_object {schema s : Members}
    (read : additionalItems schema = .ok (.schema s)) :
    schema.get? "additionalItems" = some (.object s) := by
  obtain ⟨t, found, read'⟩ := additionalItems_eq_some read nofun
  rw [found, Additional.eq_object read']

theorem additionalItems_eq_false {schema : Members}
    (read : additionalItems schema = .ok .forbidden) :
    schema.get? "additionalItems" = some (.bool false) := by
  obtain ⟨t, found, read'⟩ := additionalItems_eq_some read nofun
  rw [found, Additional.eq_false read']

theorem misread_additionalItems {schema : Members} {i : Interruption}
    (read : additionalItems schema = .error i) : Misread schema i := by
  unfold additionalItems at read
  split at read
  · cases read
  · next t found =>
    split at read
    · cases read
    · cases read
      exact .keyword found

theorem misread_readPattern {s entries : Members} {pattern : String} {t : Tree} {i : Interruption}
    (found : s.get? "patternProperties" = some (.object entries)) (mem : (pattern, t) ∈ entries)
    (read : readPattern (.entry "patternProperties" (.key pattern)) pattern = .error i) :
    Misread s i := by
  match compiled : Pattern.compile pattern "" with
  | .error cause =>
    simp only [readPattern, compiled, Interruption.ofFailure, bind, Except.bind] at read
    cases read
    exact .memberPattern found mem compiled
  | .ok (.error r) =>
    simp only [readPattern, compiled, Interruption.ofFailure, bind, Except.bind,
      Interruption.malformed] at read
    cases read
    exact .entry found mem
  | .ok (.ok regex) =>
    rw [readPattern_eq_ok_iff.2 compiled] at read
    cases read

/-! ### Putting stages together -/

/-- A relation between the stages of two engines that is respected by putting stages together on
the nodes that are met. -/
structure Sequential (meets : Tree → Prop) (R : Stage → Stage → Prop) : Prop where
  skip : R skip skip
  cons : ∀ {s t : Stage} {xs ys : List Stage}, R s t → R (sequence xs) (sequence ys) →
    R (sequence (s :: xs)) (sequence (t :: ys))
  /-- What a stage does may depend on the node it meets. -/
  byNode : ∀ {s t : Stage}, (∀ node, meets node → ∃ s' t', R s' t' ∧
    (∀ held, s ⟨node, held⟩ = s' ⟨node, held⟩) ∧ ∀ held, t ⟨node, held⟩ = t' ⟨node, held⟩) → R s t

namespace Sequential

variable {meets : Tree → Prop} {R : Stage → Stage → Prop} {c d : Config} {v w : Visit}

theorem nil (h : Sequential meets R) : R (sequence []) (sequence []) :=
  h.skip

theorem map (h : Sequential meets R) {α : Type} {f g : α → Stage} :
    ∀ {xs : List α}, (∀ x ∈ xs, R (f x) (g x)) → R (sequence (xs.map f)) (sequence (xs.map g))
  | [], _ => h.skip
  | _ :: _, related =>
    h.cons (related _ List.mem_cons_self)
      (h.map fun y mem => related y (List.mem_cons_of_mem _ mem))

theorem mapIdx (h : Sequential meets R) {α : Type} {f g : Nat → α → Stage} :
    ∀ {xs : List α}, (∀ (i : Nat) x, xs[i]? = some x → R (f i x) (g i x)) →
      R (sequence (xs.mapIdx f)) (sequence (xs.mapIdx g))
  | [], _ => h.skip
  | x :: xs, related => by
    rw [List.mapIdx_cons, List.mapIdx_cons]
    exact h.cons (related 0 x rfl) (h.mapIdx fun i y place => related (i + 1) y place)

/-- The runs against `t`, taken over into the node around what they are runs on, are related. -/
theorem visitMember (h : Sequential meets R) {t : Tree} {path : Pointer} {key : String}
    (part : ∀ node u, meets node → node.members.get? key = some u →
      R (join c (v c u t) (node.putMember key) (.key key) path)
        (join d (w d u t) (node.putMember key) (.key key) path)) :
    R (visitMember v c t path key) (Stage.visitMember w d t path key) := by
  refine h.byNode fun node met => ?_
  match found : node.members.get? key with
  | none =>
    exact ⟨_, _, h.skip, fun _ => visitMember_of_none found ..,
      fun _ => visitMember_of_none found ..⟩
  | some u =>
    exact ⟨_, _, part node u met found, fun _ => visitMember_of_some found ..,
      fun _ => visitMember_of_some found ..⟩

theorem visitItem (h : Sequential meets R) {t : Tree} {path : Pointer} {index : Nat}
    (part : ∀ node u, meets node → node.items[index]? = some u →
      R (join c (v c u t) (node.putItem index) (.index index) path)
        (join d (w d u t) (node.putItem index) (.index index) path)) :
    R (visitItem v c t path index) (Stage.visitItem w d t path index) := by
  refine h.byNode fun node met => ?_
  match found : node.items[index]? with
  | none =>
    exact ⟨_, _, h.skip, fun _ => visitItem_of_none found .., fun _ => visitItem_of_none found ..⟩
  | some u =>
    exact ⟨_, _, part node u met found, fun _ => visitItem_of_some found ..,
      fun _ => visitItem_of_some found ..⟩

theorem visitSelf (h : Sequential meets R) {t : Tree} {path : Pointer}
    (part : ∀ node, meets node →
      R (join c (v c node t) id .here path) (join d (w d node t) id .here path)) :
    R (visitSelf v c t path) (Stage.visitSelf w d t path) :=
  h.byNode fun node met => ⟨_, _, part node met, fun _ => rfl, fun _ => rfl⟩

theorem eachItem (h : Sequential meets R) {f g : Nat → Stage}
    (related : ∀ node index, meets node → index < node.items.length → R (f index) (g index)) :
    R (eachItem f) (Stage.eachItem g) := by
  refine h.byNode fun node met => ?_
  have each : ∀ index ∈ List.range node.items.length, R (f index) (g index) :=
    fun index mem => related node index met (List.mem_range.1 mem)
  exact ⟨_, _, h.map each, fun _ => rfl, fun _ => rfl⟩

theorem keyword (h : Sequential meets R) {schema : Members} {name : String} {f g : Tree → Stage}
    (related : ∀ t, schema.get? name = some t → R (f t) (g t)) :
    R (keyword schema name f) (Stage.keyword schema name g) := by
  unfold Stage.keyword
  split
  · next t found => exact related t found
  · exact h.skip

end Sequential

/-! ### The stages of a schema -/

/-- The relation holds of all that the stages of the schema are put together from. -/
structure Walk (c d : Config) (v w : Visit) (meets : Tree → Prop) (R : Stage → Stage → Prop)
    (s : Members) : Prop extends Sequential meets R where
  misread : ∀ {i}, Misread s i → R (interrupt i) (interrupt i)
  types : ∀ {types}, s.has "type" = true → declaredTypes s = .ok types →
    R (checkTypes c types) (checkTypes d types)
  constraints : ∀ {reading}, reading ∈ Constraint.readings s →
    R (checkConstraints c reading) (checkConstraints d reading)
  counted : ∀ {members}, meets (.object members) →
    R (replace (.object (countedMembers c.options s members)))
      (replace (.object (countedMembers d.options s members)))
  require : ∀ {members items names index key}, meets (.object members) →
    s.get? "required" = some (.array items) → Tree.strings? items = some names →
    names[index]? = some key → R (requireKey c s index key) (requireKey d s index key)
  fill : ∀ {members entries key t}, meets (.object members) →
    s.get? "properties" = some (.object entries) → (key, t) ∈ entries →
    R (fillDeclared c s key t) (fillDeclared d s key t)
  forbid : ∀ {node key}, s.get? "additionalProperties" = some (.bool false) → meets node →
    key ∈ extraKeys s node.members →
    R (checkExtra v c .forbidden key) (checkExtra w d .forbidden key)
  requireAll : ∀ {entries key items names index name},
    s.get? "dependencies" = some (.object entries) → (key, .array items) ∈ entries →
    Tree.strings? items = some names → names[index]? = some name →
    R (requireOther c key name (some index)) (requireOther d key name (some index))
  requireOne : ∀ {entries key name}, s.get? "dependencies" = some (.object entries) →
    (key, .string name) ∈ entries → R (requireOther c key name none) (requireOther d key name none)
  excess : ∀ {node schemas index}, s.get? "items" = some (.array schemas) →
    s.get? "additionalItems" = some (.bool false) → meets node → index < node.items.length →
    schemas[index]? = none →
    R (reject c (.additionalItem index schemas.length))
      (reject d (.additionalItem index schemas.length))
  /-- The other combinations weigh their branches, and are asked for as a whole. -/
  part : ∀ {node u t place data path}, meets node →
    AppliesBy ["allOf"] s node u t place data path →
    R (join c (v c u t) place data path) (join d (w d u t) place data path)
  anyOf : ∀ {schemas}, s.get? "anyOf" = some (.array schemas) →
    R (anyOf v c (.array schemas)) (anyOf w d (.array schemas))
  oneOf : ∀ {schemas}, s.get? "oneOf" = some (.array schemas) →
    R (oneOf v c (.array schemas)) (oneOf w d (.array schemas))
  notAny : ∀ {t}, s.get? "not" = some t → R (notAny v c t) (notAny w d t)

namespace Walk

variable {c d : Config} {v w : Visit} {meets : Tree → Prop} {R : Stage → Stage → Prop}
  {s : Members}

theorem malformed (h : Walk c d v w meets R s) {name : String} {t : Tree}
    (found : s.get? name = some t) (cause : Malformed) :
    R (malformed (.key name) cause) (Stage.malformed (.key name) cause) :=
  h.misread (.keyword found)

theorem reading (h : Walk c d v w meets R s) {α : Type} {part : Except Interruption α}
    {f g : α → Stage} (misread : ∀ i, part = .error i → Misread s i)
    (related : ∀ a, part = .ok a → R (f a) (g a)) : R (reading part f) (Stage.reading part g) := by
  cases part with
  | ok a => exact related a rfl
  | error i => exact h.misread (misread i rfl)

/-! ### Every kind of node -/

theorem checkType (h : Walk c d v w meets R s) : R (checkType c s) (Stage.checkType d s) := by
  unfold Stage.checkType
  split
  · exact h.skip
  · next present =>
    have present : s.has "type" = true := by simpa using present
    split
    · next types read => exact h.types present read
    · obtain ⟨t, found⟩ := Option.isSome_iff_exists.1 ((s.isSome_get? "type").trans present)
      exact h.malformed found _

theorem checkString (h : Walk c d v w meets R s) : R (checkString c s) (Stage.checkString d s) :=
  h.byNode fun node _ => by
    cases node with
    | string =>
      exact ⟨_, _, h.constraints (by simp [Constraint.readings]), fun _ => rfl, fun _ => rfl⟩
    | _ => exact ⟨_, _, h.skip, fun _ => rfl, fun _ => rfl⟩

theorem checkNumber (h : Walk c d v w meets R s) : R (checkNumber c s) (Stage.checkNumber d s) :=
  h.byNode fun node _ => by
    cases node with
    | number =>
      exact ⟨_, _, h.constraints (by simp [Constraint.readings]), fun _ => rfl, fun _ => rfl⟩
    | _ => exact ⟨_, _, h.skip, fun _ => rfl, fun _ => rfl⟩

/-! ### Objects -/

theorem checkRequired (h : Walk c d v w meets R s) (members : Members)
    (met : meets (.object members)) : R (checkRequired c s) (Stage.checkRequired d s) := by
  unfold Stage.checkRequired
  split
  · exact h.skip
  · next items found =>
    split
    · next names read => exact h.mapIdx fun index key place => h.require met found read place
    · exact h.malformed found _
  · next found => exact h.malformed found _

theorem checkProperty (h : Walk c d v w meets R s) {members entries : Members}
    {entry : String × Tree} (met : meets (.object members))
    (found : s.get? "properties" = some (.object entries)) (mem : entry ∈ entries) :
    R (checkProperty v c s entry) (Stage.checkProperty w d s entry) :=
  h.cons (h.fill met found mem) (h.cons
    (h.visitMember fun _ _ met value => h.part met (.property found mem value)) h.nil)

theorem checkProperties (h : Walk c d v w meets R s) (members : Members)
    (met : meets (.object members)) :
    R (checkProperties v c s) (Stage.checkProperties w d s) := by
  unfold Stage.checkProperties
  split
  · exact h.skip
  · next entries found => exact h.map fun entry mem => h.checkProperty met found mem
  · next found => exact h.malformed found _

/-- The members that a pattern finds are visited one after the other. -/
theorem visitFound (h : Walk c d v w meets R s) {entries : Members} {entry : String × Tree}
    {regex : Pattern.Regex} (found : s.get? "patternProperties" = some (.object entries))
    (mem : entry ∈ entries) (compiles : Pattern.compile entry.1 "" = .ok (.ok regex)) {key : String}
    (finds : regex.finds key = true) :
    R (visitMember v c entry.2 (.entry "patternProperties" (.key entry.1)) key)
      (Stage.visitMember w d entry.2 (.entry "patternProperties" (.key entry.1)) key) :=
  h.visitMember fun _ _ met value => h.part met (.pattern found mem compiles finds value)

theorem checkPattern (h : Walk c d v w meets R s) {entries : Members} {entry : String × Tree}
    (found : s.get? "patternProperties" = some (.object entries)) (mem : entry ∈ entries) :
    R (checkPattern v c entry) (Stage.checkPattern w d entry) :=
  h.reading (fun i read => misread_readPattern found mem read) fun regex read =>
    h.byNode fun node _ => by
      have each : ∀ key ∈ node.members.keys.filter regex.finds,
          R (Stage.visitMember v c entry.2 (.entry "patternProperties" (.key entry.1)) key)
            (Stage.visitMember w d entry.2 (.entry "patternProperties" (.key entry.1)) key) :=
        fun key among => h.visitFound found mem (readPattern_eq_ok_iff.1 read)
          (List.mem_filter.1 among).2
      exact ⟨_, _, h.map each, fun _ => rfl, fun _ => rfl⟩

theorem checkPatterns (h : Walk c d v w meets R s) :
    R (checkPatterns v c s) (Stage.checkPatterns w d s) := by
  unfold Stage.checkPatterns
  split
  · exact h.skip
  · next entries found => exact h.map fun entry mem => h.checkPattern found mem
  · next found => exact h.malformed found _

theorem checkExtra (h : Walk c d v w meets R s) {t node : Tree} {policy : Additional}
    {key : String} (found : s.get? "additionalProperties" = some t)
    (read : Additional.ofTree? t = some policy) (met : meets node)
    (extra : key ∈ extraKeys s node.members) :
    R (checkExtra v c policy key) (Stage.checkExtra w d policy key) := by
  cases policy with
  | any => exact h.skip
  | schema m =>
    rw [Additional.eq_object read] at found
    exact h.visitMember fun node u met value => h.part met (.additional found extra value)
  | forbidden =>
    rw [Additional.eq_false read] at found
    exact h.forbid found met extra

theorem checkAdditional (h : Walk c d v w meets R s) :
    R (checkAdditional v c s) (Stage.checkAdditional w d s) := by
  unfold Stage.checkAdditional
  split
  · exact h.skip
  · next t found =>
    split
    · exact h.malformed found _
    · next policy read =>
      refine h.byNode fun start met => ?_
      have each : ∀ key ∈ extraKeys s start.members,
          R (Stage.checkExtra v c policy key) (Stage.checkExtra w d policy key) :=
        fun key extra => h.checkExtra found read met extra
      exact ⟨_, _, h.map each, fun _ => rfl, fun _ => rfl⟩

theorem checkDependency (h : Walk c d v w meets R s) {entries : Members} {entry : String × Tree}
    (found : s.get? "dependencies" = some (.object entries)) (mem : entry ∈ entries) :
    R (checkDependency v c entry) (Stage.checkDependency w d entry) := by
  obtain ⟨key, t⟩ := entry
  unfold Stage.checkDependency
  split
  · exact h.misread (.entry found mem)
  · next dependency read =>
    refine h.byNode fun node met => ?_
    by_cases present : node.members.has key = true
    · simp only [present]
      cases dependency with
      | schema m =>
        cases Dependency.eq_object read
        have self := h.part met (.dependency found mem present)
        exact ⟨_, _, self, fun _ => rfl, fun _ => rfl⟩
      | keys names =>
        obtain ⟨items, rfl, read'⟩ := Dependency.eq_array read
        have others : ∀ (index : Nat) name, names[index]? = some name →
            R (requireOther c key name (some index)) (requireOther d key name (some index)) :=
          fun index name place => h.requireAll found mem read' place
        exact ⟨_, _, h.mapIdx others, fun _ => rfl, fun _ => rfl⟩
      | key name =>
        cases Dependency.eq_string read
        exact ⟨_, _, h.requireOne found mem, fun _ => rfl, fun _ => rfl⟩
    · exact ⟨_, _, h.skip, by simp [present], by simp [present]⟩

theorem checkDependencies (h : Walk c d v w meets R s) :
    R (checkDependencies v c s) (Stage.checkDependencies w d s) := by
  unfold Stage.checkDependencies
  split
  · exact h.skip
  · next entries found => exact h.map fun entry mem => h.checkDependency found mem
  · next found => exact h.malformed found _

theorem checkObject (h : Walk c d v w meets R s) :
    R (checkObject v c s) (Stage.checkObject w d s) := by
  refine h.byNode fun node met => ?_
  cases node with
  | object members =>
    have counts : R (checkConstraints c (Constraint.ofObjects s))
        (checkConstraints d (Constraint.ofObjects s)) :=
      h.constraints (by simp [Constraint.readings])
    -- Leaving out nulls is a stage of its own, in front of the others.
    exact ⟨_, _, h.cons (h.counted met) (h.cons (h.checkRequired members met)
      (h.cons (h.checkProperties members met) (h.cons h.checkPatterns (h.cons h.checkAdditional
        (h.cons h.checkDependencies (h.cons counts h.nil)))))), fun _ => rfl, fun _ => rfl⟩
  | _ => exact ⟨_, _, h.skip, fun _ => rfl, fun _ => rfl⟩

/-! ### Arrays -/

theorem checkPlace (h : Walk c d v w meets R s) {schemas : List Tree} {policy : Additional}
    (found : s.get? "items" = some (.array schemas)) (read : additionalItems s = .ok policy)
    {start : Tree} {index : Nat} (met : meets start) (bound : index < start.items.length) :
    R (checkPlace v c schemas policy index) (Stage.checkPlace w d schemas policy index) := by
  unfold Stage.checkPlace
  split
  · next t place =>
    exact h.visitItem fun node u met value => h.part met (.place found place value)
  · next past =>
    cases policy with
    | any => exact h.skip
    | schema m =>
      exact h.visitItem fun node u met value =>
        h.part met (.additionalItem found past (additionalItems_eq_object read) value)
    | forbidden => exact h.excess found (additionalItems_eq_false read) met bound past

theorem visitEach (h : Walk c d v w meets R s) {m : Members}
    (found : s.get? "items" = some (.object m)) (index : Nat) :
    R (visitItem v c (.object m) (.key "items") index)
      (Stage.visitItem w d (.object m) (.key "items") index) :=
  h.visitItem fun _ _ met value => h.part met (.items found value)

theorem checkItems (h : Walk c d v w meets R s) :
    R (checkItems v c s) (Stage.checkItems w d s) := by
  unfold Stage.checkItems
  split
  · exact h.skip
  · next m found =>
    exact h.eachItem fun _ index _ _ => h.visitEach found index
  · next schemas found =>
    exact h.reading (fun i read => misread_additionalItems read) fun policy read =>
      h.eachItem fun start index met bound => h.checkPlace found read met bound
  · next found => exact h.malformed found _

theorem checkArray (h : Walk c d v w meets R s) :
    R (checkArray v c s) (Stage.checkArray w d s) := by
  refine h.byNode fun node _ => ?_
  cases node with
  | array items =>
    have lengths : R (checkConstraints c (Constraint.ofArrays s))
        (checkConstraints d (Constraint.ofArrays s)) :=
      h.constraints (by simp [Constraint.readings])
    exact ⟨_, _, h.cons h.checkItems (h.cons lengths h.nil), fun _ => rfl, fun _ => rfl⟩
  | _ => exact ⟨_, _, h.skip, fun _ => rfl, fun _ => rfl⟩

/-! ### Combinations -/

theorem visitBranch (h : Walk c d v w meets R s) {schemas : List Tree} {index : Nat} {t : Tree}
    (found : s.get? "allOf" = some (.array schemas)) (place : schemas[index]? = some t) :
    R (visitSelf v c t (branchPath "allOf" index))
      (Stage.visitSelf w d t (branchPath "allOf" index)) :=
  h.visitSelf fun _ met => h.part met (.branch (List.mem_singleton_self _) found place)

theorem allOf (h : Walk c d v w meets R s) {schemas : List Tree}
    (found : s.get? "allOf" = some (.array schemas)) :
    R (allOf v c (.array schemas)) (Stage.allOf w d (.array schemas)) :=
  h.mapIdx fun _ _ place => h.visitBranch found place

/-- A keyword with a list of schemas is related on such lists, and malformed otherwise. -/
theorem branches (h : Walk c d v w meets R s) {name : String} {f g : List Tree → Stage}
    (related : ∀ schemas, s.get? name = some (.array schemas) → R (f schemas) (g schemas)) :
    R (keyword s name fun t => Stage.reading (branchesOf name t) f)
      (keyword s name fun t => Stage.reading (branchesOf name t) g) := by
  refine h.keyword fun t found => ?_
  cases t with
  | array schemas => exact related schemas found
  | _ => exact h.malformed found _

theorem checkCombinations (h : Walk c d v w meets R s) :
    R (checkCombinations v c s) (Stage.checkCombinations w d s) :=
  h.cons (h.branches fun _ found => h.allOf found)
    (h.cons (h.branches fun _ found => h.anyOf found)
      (h.cons (h.branches fun _ found => h.oneOf found)
        (h.cons (h.keyword fun _ found => h.notAny found) h.nil)))

/-- All stages of the schema are related. -/
theorem stages (h : Walk c d v w meets R s) :
    R (sequence (stages v c s)) (sequence (TreeSchema.stages w d s)) := by
  have choices : R (checkConstraints c (Constraint.ofEnum s))
      (checkConstraints d (Constraint.ofEnum s)) := h.constraints (by simp [Constraint.readings])
  exact h.cons h.checkType (h.cons choices (h.cons h.checkObject (h.cons h.checkArray
    (h.cons h.checkString (h.cons h.checkNumber (h.cons h.checkCombinations h.nil))))))

end Walk

end Stage

end TreeSchema
