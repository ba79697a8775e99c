import TreeSchema.Proofs.Satisfaction
import TreeSchema.Run.Depth

/-!
What a run can come to. A finding of a run is either what its schema itself says
against the node (`Arises`), or a finding of a part seen from the node around it;
and if the run is interrupted, a keyword of its schema was misread, or something
could not be judged, told, converted or filled in, or a part was interrupted. The
node on which this happens is one that has the property `meets`, which nothing
that the stages do to a node may end (`Upholds`). This is said once for all modes
and caps, coercing or not (`run_accounts`), so that a property of all findings,
or of all interruptions, is a matter of these cases.
-/

namespace TreeSchema

def Config.checking (mode : Mode) (cap : Option Nat) (options : Options) : Config :=
  { mode, cap, coercing := false, options }

theorem Mode.add_eq (mode : Mode) (cap : Option Nat) (held : List Finding) (f : Finding) :
    (mode.add cap held f).1 = held ∨ (mode.add cap held f).1 = held ++ [f] := by
  unfold Mode.add
  split
  · split
    · next empty => exact .inr (by rw [List.isEmpty_iff.1 empty, List.nil_append])
    · exact .inl rfl
  · exact .inr rfl
  · dsimp only
    split
    · exact .inr rfl
    · exact .inl rfl

theorem Mode.mem_add {mode : Mode} {cap : Option Nat} {held : List Finding} {f g : Finding}
    (mem : g ∈ (mode.add cap held f).1) : g ∈ held ∨ g = f := by
  rcases mode.add_eq cap held f with same | added
  · exact .inl (same ▸ mem)
  · simpa [added] using mem

/-! ### The constraints of a schema -/

namespace Constraint

variable {s : Members}

def Stated (x : Constraint) (s : Members) : Prop :=
  (∃ choices, s.get? "enum" = some (.array choices) ∧ x = .among choices) ∨ Declared s x

theorem Stated.has {x : Constraint} (stated : x.Stated s) : s.has x.keyword = true := by
  rcases stated with ⟨choices, found, rfl⟩ | declared
  · exact Members.has_of_get? found
  · exact declared.has

theorem stated_of_ofEnum {cs : List Constraint} (read : ofEnum s = .ok cs) {x : Constraint}
    (mem : x ∈ cs) : x.Stated s := by
  unfold ofEnum at read
  split at read
  · cases read
    cases mem
  · next choices found =>
    cases read
    exact .inl ⟨choices, found, List.mem_singleton.1 mem⟩
  · cases read

theorem stated_of_readings {reading : Reading} (mem : reading ∈ readings s)
    {cs : List Constraint} (read : reading = .ok cs) {x : Constraint} (among : x ∈ cs) :
    x.Stated s := by
  simp only [readings, List.mem_cons, List.not_mem_nil, or_false] at mem
  rcases mem with rfl | rfl | rfl | rfl | rfl
  · exact stated_of_ofEnum read among
  · exact .inr (declared_of_ofObjects read x among)
  · exact .inr (declared_of_ofArrays read x among)
  · exact .inr (declared_of_ofStrings read x among)
  · exact .inr (declared_of_ofNumbers read x among)

theorem exists_of_readAll_eq_error {readings : List Reading} {i : Interruption}
    (fails : readAll readings = .error i) : ∃ reading ∈ readings, reading = .error i := by
  induction readings with
  | nil => cases fails
  | cons reading rest ih =>
    cases reading with
    | error j =>
      cases fails
      exact ⟨_, List.mem_cons_self, rfl⟩
    | ok cs =>
      cases more : readAll rest with
      | ok others => simp [readAll, more, bind, Except.bind, pure, Except.pure] at fails
      | error j =>
        simp only [readAll, more, bind, Except.bind] at fails
        cases fails
        obtain ⟨reading, mem, fails⟩ := ih more
        exact ⟨reading, List.mem_cons_of_mem _ mem, fails⟩

theorem misread_of_countOf {keyword : String} {make : Number → Constraint} {i : Interruption}
    (fails : countOf s keyword make = .error i) : Misread s i := by
  unfold countOf at fails
  split at fails
  · cases fails
  · next found =>
    split at fails <;> cases fails
    exact .keyword found
  · next found =>
    cases fails
    exact .keyword found

theorem misread_of_limitOf {keyword exclusive : String} {make : Number → Bool → Constraint}
    {i : Interruption} (fails : limitOf s keyword exclusive make = .error i) : Misread s i := by
  unfold limitOf at fails
  split at fails
  · cases fails
  · cases fails
  · next found =>
    cases fails
    exact .keyword found

theorem misread_of_divisorOf {i : Interruption} (fails : divisorOf s = .error i) :
    Misread s i := by
  unfold divisorOf at fails
  split at fails
  · cases fails
  · next found =>
    split at fails <;> cases fails
    exact .keyword found
  · next found =>
    cases fails
    exact .keyword found

theorem misread_of_patternLetters {i : Interruption} (fails : patternLetters s = .error i) :
    Misread s i := by
  -- Flags are refused with what they look like, which may be too long to show.
  have refused {t : Tree} (found : s.get? "patternFlags" = some t)
      (fails : (do
        let shown ← Interruption.ofFailure t.shown
        Interruption.malformed (.key "patternFlags") (.patternFlags shown) :
          Except Interruption String) = .error i) : Misread s i := by
    cases shows : t.shown with
    | error cause =>
      rw [shows] at fails
      cases fails
      exact .flags found shows
    | ok shown =>
      rw [shows] at fails
      cases fails
      exact .keyword found
  unfold patternLetters at fails
  dsimp only at fails
  split at fails
  · cases fails
  · next found =>
    split at fails
    · cases fails
    · exact refused found fails
  · next found => exact refused found fails

theorem misread_of_patternOf {i : Interruption} (fails : patternOf s = .error i) :
    Misread s i := by
  unfold patternOf at fails
  split at fails
  · cases fails
  · next text found =>
    cases flags : patternLetters s with
    | error j =>
      rw [flags] at fails
      cases fails
      exact misread_of_patternLetters flags
    | ok letters =>
      rw [flags] at fails
      match compiled : Pattern.compile text letters with
      | .error cause =>
        simp only [compiled, bind, Except.bind, Interruption.ofFailure] at fails
        cases fails
        exact .textPattern found flags compiled
      | .ok (.error r) =>
        simp only [compiled, bind, Except.bind, Interruption.ofFailure] at fails
        cases fails
        exact .keyword found
      | .ok (.ok regex) =>
        simp [compiled, bind, Except.bind, Interruption.ofFailure, pure, Except.pure] at fails
  · next found =>
    cases fails
    exact .keyword found

theorem misread_of_ofEnum {i : Interruption} (fails : ofEnum s = .error i) : Misread s i := by
  unfold ofEnum at fails
  split at fails
  · cases fails
  · cases fails
  · next found =>
    cases fails
    exact .keyword found

theorem misread_of_readings {reading : Reading} (mem : reading ∈ readings s) {i : Interruption}
    (fails : reading = .error i) : Misread s i := by
  simp only [readings, List.mem_cons, List.not_mem_nil, or_false] at mem
  rcases mem with rfl | rfl | rfl | rfl | rfl
  · exact misread_of_ofEnum fails
  all_goals
    obtain ⟨part, mem, fails⟩ := exists_of_readAll_eq_error fails
    simp only [List.mem_cons, List.not_mem_nil, or_false] at mem
  · rcases mem with rfl | rfl
    · exact misread_of_countOf fails
    · exact misread_of_countOf fails
  · rcases mem with rfl | rfl | rfl
    · exact misread_of_countOf fails
    · exact misread_of_countOf fails
    · cases fails
  · rcases mem with rfl | rfl | rfl
    · exact misread_of_countOf fails
    · exact misread_of_countOf fails
    · exact misread_of_patternOf fails
  · rcases mem with rfl | rfl | rfl
    · exact misread_of_divisorOf fails
    · exact misread_of_limitOf fails
    · exact misread_of_limitOf fails

end Constraint

/-! ### What there is to account for -/

/-- The node that the stages of a schema meet: the data, or the data as it counts. -/
def Met (options : Options) (s : Members) (d n : Tree) : Prop :=
  n = d ∨ n = d.counted options s

theorem Met.count {options : Options} {s members : Members} {d : Tree}
    (met : Met options s d (.object members)) :
    Met options s d (.object (Stage.countedMembers options s members)) := by
  rcases met with rfl | counts
  · exact .inr rfl
  · cases d with
    | object ms =>
      cases counts
      refine .inr (congrArg Tree.object ?_)
      rcases Stage.countedMembers_cases options s with all | filters
      · rw [all]
      · simp [filters]
    | _ => cases counts

/-- The property passes on to the parts of a tree, and to an object without some of its members. -/
structure Tree.Inherited (P : Tree → Prop) : Prop where
  item : ∀ {items t}, P (.array items) → t ∈ items → P t
  member : ∀ {members : Members} {m}, P (.object members) → m ∈ members → P m.2
  filter : ∀ {members : Members} (keeps : String × Tree → Bool), P (.object members) →
    P (.object (members.filter keeps))

namespace Tree.Inherited

variable {P : Tree → Prop} {options : Options} {s : Members} {d n u t : Tree}

theorem of_get? (h : Inherited P) (all : P n) {key : String}
    (value : n.members.get? key = some u) : P u := by
  rw [Tree.eq_object_of_get? value] at all
  exact h.member all (Members.mem_of_get? value)

theorem of_getElem? (h : Inherited P) (all : P n) {index : Nat}
    (value : n.items[index]? = some u) : P u := by
  rw [Tree.eq_array_of_getElem? value] at all
  exact h.item all (List.mem_of_getElem? value)

theorem of_applies (h : Inherited P) (all : P n) {place : Tree → Tree} {data path : Pointer}
    (applies : Applies s n u t place data path) : P u := by
  cases applies with
  | property _ _ value | pattern _ _ _ _ value | additional _ _ value => exact h.of_get? all value
  | items _ value | place _ _ value | additionalItem _ _ _ value => exact h.of_getElem? all value
  | dependency | branch => exact all

theorem of_met (h : Inherited P) (all : P d) (met : Met options s d n) : P n := by
  rcases met with rfl | rfl
  · exact all
  · cases d with
    | object members =>
      rw [Tree.counted]
      rcases Stage.countedMembers_cases options s with counts | filters
      · rwa [counts]
      · rw [filters]
        exact h.filter _ all
    | _ => exact all

end Tree.Inherited

/-! ### What becomes of a node -/

/-- What a schema does to a node by itself, it does not end the property. -/
structure Endures (config : Config) (s : Members) (meets : Tree → Prop) : Prop where
  counted : ∀ {members}, meets (.object members) →
    meets (.object (Stage.countedMembers config.options s members))
  converted : config.coercing = true → ∀ {n t : Tree} {types : List TypeName}, meets n →
    convertTo n (types.map TypeName.name) = .ok (.ok t) → meets t
  filled : config.coercing = true → ∀ {members filled : Members} {n : Tree} {key : String},
    meets (.object members) → meets n → n.members.has key = false →
    withDefault? n.members s key config.options = .ok (some filled) → meets (.object filled)
  erased : config.coercing = true → ∀ {start n : Tree} {key : String},
    s.get? "additionalProperties" = some (.bool false) → meets start →
    key ∈ Stage.extraKeys s start.members → meets n → meets (.object (n.members.erase key))

/-- Neither does what becomes of a part, once it has been put into the node around it. -/
structure Upholds (config : Config) (s : Members) (meets : Tree → Prop) : Prop
    extends Endures config s meets where
  placed : config.coercing = true → ∀ {n u t : Tree} {place : Tree → Tree} {data path : Pointer},
    meets n → Applies s n u t place data path → meets (place (run config u t).node)

theorem Met.upholds (mode : Mode) (cap : Option Nat) (options : Options) (s : Members) (d : Tree) :
    Upholds (.checking mode cap options) s (Met options s d) where
  counted met := met.count
  converted := nofun
  filled := nofun
  erased := nofun
  placed := nofun

theorem Upholds.trivial (config : Config) (s : Members) : Upholds config s fun _ => True where
  counted _ := True.intro
  converted _ _ _ _ _ _ := True.intro
  filled _ _ _ _ _ _ _ _ _ := True.intro
  erased _ _ _ _ _ _ _ _ := True.intro
  placed _ _ _ _ _ _ _ _ _ := True.intro

/-! ### What there is to account for -/

/-- The groups of a finding on branches none of which passes. -/
def groupsOf (config : Config) (n : Tree) (keyword : String) (schemas : List Tree) :
    List (List Finding) :=
  schemas.mapIdx fun index t => Stage.groupOf (Stage.branchPath keyword index) (run config n t)

/-- What a schema itself can say against a node. -/
inductive Arises (config : Config) (s : Members) (n : Tree) : Violation → Prop where
  | type (present : s.has "type" = true) : Arises config s n (.invalidType n.kindText)
  | constraint {x : Constraint} {v : Violation} (stated : x.Stated s)
      (judged : x.judge n = .ok (some v)) : Arises config s n v
  | required {items : List Tree} {names : List String} {index : Nat} {key : String}
      (found : s.get? "required" = some (.array items)) (read : Tree.strings? items = some names)
      (place : names[index]? = some key) (absent : n.members.has key = false) :
      Arises config s n (.requiredMissing index key)
  | noDefault {entries : Members} {key : String} {t : Tree}
      (found : s.get? "properties" = some (.object entries)) (mem : (key, t) ∈ entries)
      (absent : n.members.has key = false) (declares : Stage.hasDefault t = true)
      (unfilled : withDefault? n.members s key config.options = .ok none) :
      Arises config s n (.noDefault key)
  | additional {key : String} (plain : config.coercing ≠ true)
      (found : s.get? "additionalProperties" = some (.bool false))
      (extra : key ∈ Stage.extraKeys s n.members) : Arises config s n (.additionalProperty key)
  | dependencyKeys {entries : Members} {key name : String} {items : List Tree}
      {names : List String} {index : Nat} (found : s.get? "dependencies" = some (.object entries))
      (mem : (key, .array items) ∈ entries) (read : Tree.strings? items = some names)
      (place : names[index]? = some name) (absent : n.members.has name = false) :
      Arises config s n (.dependencyMissing key name (some index))
  | dependencyKey {entries : Members} {key name : String}
      (found : s.get? "dependencies" = some (.object entries)) (mem : (key, .string name) ∈ entries)
      (absent : n.members.has name = false) : Arises config s n (.dependencyMissing key name none)
  | additionalItem {schemas : List Tree} {index : Nat}
      (found : s.get? "items" = some (.array schemas))
      (beyond : s.get? "additionalItems" = some (.bool false)) (bound : index < n.items.length)
      (past : schemas[index]? = none) : Arises config s n (.additionalItem index schemas.length)
  | anyOf {schemas : List Tree} (found : s.get? "anyOf" = some (.array schemas))
      (rejects : ∀ t ∈ schemas, (run config n t).Rejects) :
      Arises config s n (.anyOfMissing (groupsOf config n "anyOf" schemas))
  | oneOf {schemas : List Tree} (found : s.get? "oneOf" = some (.array schemas))
      (rejects : ∀ t ∈ schemas, (run config n t).Rejects) :
      Arises config s n (.oneOfMissing (groupsOf config n "oneOf" schemas))
  | multiple {schemas : List Tree} {first second : Nat}
      (found : s.get? "oneOf" = some (.array schemas)) :
      Arises config s n (.oneOfMultiple first second)
  | negated {t : Tree} (found : s.get? "not" = some t) : Arises config s n .notPassed

/-- What a run against the schema can find, on the nodes that its stages meet. -/
inductive Tells (config : Config) (s : Members) (meets : Tree → Prop) : Finding → Prop where
  | own {n : Tree} {v : Violation} {f : Finding} (met : meets n) (arises : Arises config s n v)
      (told : v.finding = .ok f) : Tells config s meets f
  | part {n u t : Tree} {place : Tree → Tree} {data path : Pointer} {f : Finding} (met : meets n)
      (applies : Applies s n u t place data path) (mem : f ∈ (run config u t).findings) :
      Tells config s meets (f.under data path)

/-- What a run against the schema can be interrupted by. -/
inductive Ends (config : Config) (s : Members) (meets : Tree → Prop) : Interruption → Prop where
  | misread {i : Interruption} (misread : Misread s i) : Ends config s meets i
  | unjudged {n : Tree} {x : Constraint} {cause : Failure} (met : meets n) (stated : x.Stated s)
      (fails : x.judge n = .error cause) : Ends config s meets (.failure cause)
  | untold {n : Tree} {v : Violation} {cause : Failure} (met : meets n)
      (arises : Arises config s n v) (fails : v.finding = .error cause) :
      Ends config s meets (.failure cause)
  | unconverted {n : Tree} {types : List TypeName} {cause : Failure}
      (coercing : config.coercing = true) (met : meets n)
      (fails : convertTo n (types.map TypeName.name) = .error cause) :
      Ends config s meets (.failure cause)
  | unfilled {n : Tree} {key : String} {cause : Failure} (coercing : config.coercing = true)
      (met : meets n) (fails : withDefault? n.members s key config.options = .error cause) :
      Ends config s meets (.failure cause)
  | part {n u t : Tree} {place : Tree → Tree} {data path : Pointer} {i : Interruption}
      (met : meets n) (applies : Applies s n u t place data path)
      (stops : (run config u t).interruption? = some i) : Ends config s meets (i.under path)
  | negated {n t : Tree} {i : Interruption} (met : meets n) (found : s.get? "not" = some t)
      (stops : (run { config with coercing := false } n t).interruption? = some i) :
      Ends config s meets (i.under (.key "not"))

namespace Stage

/-- From a node that is met, the stage comes to such a node, and to findings and interruptions that
there is an account of. -/
structure Accounts (config : Config) (s : Members) (meets : Tree → Prop) (stage : Stage) :
    Prop where
  node : ∀ p, meets p.node → meets (stage p).node
  finds : ∀ p, meets p.node → ∀ f ∈ (stage p).findings, f ∈ p.findings ∨ Tells config s meets f
  ends : ∀ p, meets p.node → ∀ i, (stage p).interruption? = some i → Ends config s meets i

namespace Accounts

variable {config : Config} {s : Members} {meets : Tree → Prop} {stage : Stage}

theorem skip : Accounts config s meets skip :=
  ⟨fun _ met => met, fun _ _ _ mem => .inl mem, fun _ _ _ stops => nomatch stops⟩

theorem interrupt {i : Interruption} (ends : Ends config s meets i) :
    Accounts config s meets (interrupt i) where
  node _ met := met
  finds _ _ _ mem := .inl mem
  ends _ _ j stops := by
    cases stops
    exact ends

theorem replace {n : Tree} (met : meets n) : Accounts config s meets (replace n) :=
  ⟨fun _ _ => met, fun _ _ _ mem => .inl mem, fun _ _ _ stops => nomatch stops⟩

theorem report {f : Finding} (tells : Tells config s meets f) :
    Accounts config s meets (report config f) where
  node _ met := met
  finds p _ g mem := by
    rcases Mode.mem_add mem with held | rfl
    · exact .inl held
    · exact .inr tells
  ends p _ i stops := by
    -- Enough findings halt the run, which does not count as an interruption.
    have ended : (Stage.report config f p).interruption? = none := by
      cases more : (config.mode.add config.cap p.findings f).2 <;>
        simp [Stage.report, Run.interruption?, more]
    cases ended.symm.trans stops

theorem cons {xs : List Stage} (first : Accounts config s meets stage)
    (rest : Accounts config s meets (sequence xs)) :
    Accounts config s meets (sequence (stage :: xs)) where
  node p met := by
    cases stopped : (stage p).stop with
    | none =>
      rw [sequence_cons_of_none stopped]
      exact rest.node _ (first.node p met)
    | some stop =>
      rw [sequence_cons_of_some stopped]
      exact first.node p met
  finds p met f mem := by
    cases stopped : (stage p).stop with
    | none =>
      rw [sequence_cons_of_none stopped] at mem
      rcases rest.finds _ (first.node p met) f mem with mem | tells
      · exact first.finds p met f mem
      · exact .inr tells
    | some stop =>
      rw [sequence_cons_of_some stopped] at mem
      exact first.finds p met f mem
  ends p met i stops := by
    cases stopped : (stage p).stop with
    | none =>
      rw [sequence_cons_of_none stopped] at stops
      exact rest.ends _ (first.node p met) i stops
    | some stop =>
      rw [sequence_cons_of_some stopped] at stops
      exact first.ends p met i stops

theorem byNode (h : ∀ n, meets n → ∃ stage', Accounts config s meets stage' ∧
    ∀ held, stage ⟨n, held⟩ = stage' ⟨n, held⟩) : Accounts config s meets stage where
  node p met := by
    obtain ⟨stage', accounts, same⟩ := h p.node met
    exact same p.findings ▸ accounts.node p met
  finds p met f mem := by
    obtain ⟨stage', accounts, same⟩ := h p.node met
    exact accounts.finds p met f (same p.findings ▸ mem)
  ends p met i stops := by
    obtain ⟨stage', accounts, same⟩ := h p.node met
    exact accounts.ends p met i (same p.findings ▸ stops)

theorem sequential (config : Config) (s : Members) (meets : Tree → Prop) :
    Sequential meets fun stage _ => Accounts config s meets stage where
  skip := skip
  cons := cons
  byNode related := byNode fun n met => by
    obtain ⟨stage', _, accounts, same, _⟩ := related n met
    exact ⟨stage', accounts, same⟩

theorem map {α : Type} {f : α → Stage} {xs : List α}
    (each : ∀ x ∈ xs, Accounts config s meets (f x)) :
    Accounts config s meets (sequence (xs.map f)) :=
  (sequential config s meets).map (g := f) each

theorem reject {n : Tree} {v : Violation} (met : meets n) (arises : Arises config s n v) :
    Accounts config s meets (reject config v) := by
  unfold Stage.reject
  cases told : v.finding with
  | ok f => exact report (.own met arises told)
  | error cause => exact interrupt (.untold met arises told)

/-! Every kind of node -/

theorem checkConstraint {x : Constraint} (stated : x.Stated s) :
    Accounts config s meets (checkConstraint config x) :=
  byNode fun n met => by
    match judged : x.judge n with
    | .error cause =>
      exact ⟨_, interrupt (.unjudged met stated judged),
        fun _ => checkConstraint_of_failure judged⟩
    | .ok none => exact ⟨_, skip, fun _ => checkConstraint_of_none judged⟩
    | .ok (some v) =>
      exact ⟨_, reject met (.constraint stated judged), fun _ => checkConstraint_of_some judged⟩

theorem checkConstraints {reading : Constraint.Reading} (mem : reading ∈ Constraint.readings s) :
    Accounts config s meets (checkConstraints config reading) := by
  match read : reading with
  | .ok cs => exact map fun x among => checkConstraint (Constraint.stated_of_readings mem rfl among)
  | .error i => exact interrupt (.misread (Constraint.misread_of_readings mem rfl))

theorem convertNode (endures : Endures config s meets) (coercing : config.coercing = true)
    (present : s.has "type" = true) (types : List TypeName) :
    Accounts config s meets (convertNode config types) :=
  byNode fun n met => by
    match conversion : convertTo n (types.map TypeName.name) with
    | .error cause =>
      exact ⟨_, interrupt (.unconverted coercing met conversion),
        fun _ => convertNode_of_failure conversion⟩
    | .ok (.ok t) =>
      exact ⟨_, replace (endures.converted coercing met conversion),
        fun _ => convertNode_of_converted conversion⟩
    | .ok (.error r) =>
      exact ⟨_, reject met (.type present), fun _ => convertNode_of_refused conversion⟩

theorem checkTypes (endures : Endures config s meets) (present : s.has "type" = true)
    (types : List TypeName) : Accounts config s meets (checkTypes config types) :=
  byNode fun n met => by
    by_cases typed : types.any n.hasType = true
    · exact ⟨_, skip, fun _ => checkTypes_of_typed typed⟩
    by_cases coercing : config.coercing = true
    · exact ⟨_, convertNode endures coercing present types,
        fun _ => checkTypes_of_coercing typed coercing⟩
    · exact ⟨_, reject met (.type present), fun _ => checkTypes_of_plain typed coercing⟩

/-! Objects -/

theorem fillIn (endures : Endures config s meets) (coercing : config.coercing = true)
    {members : Members} (object : meets (.object members)) {n : Tree} (met : meets n)
    {key : String} (absent : n.members.has key = false) {v : Violation}
    (arises : withDefault? n.members s key config.options = .ok none → Arises config s n v) :
    ∃ stage, Accounts config s meets stage ∧
      ∀ held, fillIn config s key v ⟨n, held⟩ = stage ⟨n, held⟩ := by
  match filled : withDefault? n.members s key config.options with
  | .error cause =>
    exact ⟨_, interrupt (.unfilled coercing met filled), fun _ => fillIn_of_failure filled⟩
  | .ok none => exact ⟨_, reject met (arises filled), fun _ => fillIn_of_none filled⟩
  | .ok (some members) =>
    exact ⟨_, replace (endures.filled coercing object met absent filled),
      fun _ => fillIn_of_some filled⟩

theorem requireKey (endures : Endures config s meets) {members : Members}
    (object : meets (.object members)) {items : List Tree} {names : List String} {index : Nat}
    {key : String} (found : s.get? "required" = some (.array items))
    (read : Tree.strings? items = some names) (place : names[index]? = some key) :
    Accounts config s meets (requireKey config s index key) :=
  byNode fun n met => by
    by_cases present : n.members.has key = true
    · exact ⟨_, skip, fun _ => requireKey_of_has present ..⟩
    have absent : n.members.has key = false := by simpa using present
    by_cases coercing : config.coercing = true
    · obtain ⟨stage, accounts, same⟩ :=
        fillIn endures coercing object met absent fun _ => .required found read place absent
      exact ⟨stage, accounts,
        fun held => (requireKey_of_coercing present coercing ..).trans (same held)⟩
    · exact ⟨_, reject met (.required found read place absent),
        fun _ => requireKey_of_plain present coercing ..⟩

theorem fillDeclared (endures : Endures config s meets) {members entries : Members}
    (object : meets (.object members)) {key : String} {t : Tree}
    (found : s.get? "properties" = some (.object entries)) (mem : (key, t) ∈ entries) :
    Accounts config s meets (fillDeclared config s key t) :=
  byNode fun n met => by
    by_cases missing : (!n.members.has key && config.coercing &&
        config.options.setMissingToDefault && hasDefault t) = true
    · obtain ⟨⟨⟨absent, coercing⟩, -⟩, declares⟩ :
          ((n.members.has key = false ∧ config.coercing = true) ∧
            config.options.setMissingToDefault = true) ∧ hasDefault t = true := by
        simpa using missing
      obtain ⟨stage, accounts, same⟩ :=
        fillIn endures coercing object met absent (.noDefault found mem absent declares)
      exact ⟨stage, accounts, fun held => (fillDeclared_of_missing missing s).trans (same held)⟩
    · exact ⟨_, skip, fun _ => fillDeclared_of_not_missing missing s⟩

theorem forbid (endures : Endures config s meets) {v : Visit} {start : Tree} {key : String}
    (found : s.get? "additionalProperties" = some (.bool false)) (met : meets start)
    (extra : key ∈ extraKeys s start.members) :
    Accounts config s meets (checkExtra v config .forbidden key) :=
  byNode fun n met' => by
    by_cases coercing : config.coercing = true
    · exact ⟨_, replace (endures.erased coercing found met extra met'),
        fun _ => checkExtra_of_coercing coercing⟩
    · exact ⟨_, reject met (.additional coercing found extra),
        fun _ => checkExtra_of_plain coercing⟩

theorem requireOther {key name : String} {index : Option Nat}
    (arises : ∀ n : Tree, n.members.has name = false →
      Arises config s n (.dependencyMissing key name index)) :
    Accounts config s meets (requireOther config key name index) :=
  byNode fun n met => by
    by_cases present : n.members.has name = true
    · exact ⟨_, skip, fun _ => requireOther_of_has present ..⟩
    · exact ⟨_, reject met (arises n (by simpa using present)),
        fun _ => requireOther_of_not_has present ..⟩

/-! Parts -/

theorem join (upholds : Upholds config s meets) {n u t : Tree} {place : Tree → Tree}
    {data path : Pointer} (met : meets n) (applies : Applies s n u t place data path) :
    Accounts config s meets (join config (run config u t) place data path) :=
  byNode fun m met' => by
    match stopped : (run config u t).interruption? with
    | some i =>
      exact ⟨_, interrupt (.part met applies stopped), fun _ => join_of_some stopped ..⟩
    | none =>
      have tells (f : Finding) (mem : f ∈ (run config u t).findings) :
          Tells config s meets (f.under data path) := .part met applies mem
      have reports := map fun f mem => report (tells f mem)
      have placed : meets (if config.coercing then place (run config u t).node else m) := by
        split
        · next coercing => exact upholds.placed coercing met applies
        · exact met'
      exact ⟨_, cons (replace placed) reports, fun _ => join_of_none stopped ..⟩

/-! Combinations -/

theorem adopt {t : Tree} (met : config.coercing = true → meets t) :
    Accounts config s meets (adopt config t) :=
  byNode fun n met' => by
    have adopted : meets (if config.coercing then t else n) := by
      split
      · next coercing => exact met coercing
      · exact met'
    exact ⟨_, replace adopted, fun _ => adopt_eq ..⟩

theorem adoptBranch (upholds : Upholds config s meets) {n : Tree} {keyword : String} {first : Bool}
    {schemas : List Tree} {verdicts : Verdicts} (met : meets n)
    (combines : keyword ∈ branchKeywords) (found : s.get? keyword = some (.array schemas))
    (judged : judgeBranches (run config n) keyword first 0 schemas = .ok verdicts)
    {branch : Nat × Tree} (mem : branch ∈ verdicts.passing) :
    Accounts config s meets (Stage.adopt config branch.2) := by
  obtain ⟨t, place, -, same⟩ := getElem?_of_mem_passing judged mem
  refine adopt fun coercing => ?_
  rw [same]
  exact upholds.placed coercing met (.branch combines found place)

theorem interruptBranch {n : Tree} {keyword : String} {first : Bool} {schemas : List Tree}
    {i : Interruption} (met : meets n) (combines : keyword ∈ branchKeywords)
    (found : s.get? keyword = some (.array schemas))
    (judged : judgeBranches (run config n) keyword first 0 schemas = .error i) :
    Accounts config s meets (Stage.interrupt i) := by
  obtain ⟨index, t, j, place, stops, rfl⟩ := exists_of_judgeBranches_eq_error judged
  rw [Nat.zero_add]
  exact interrupt (.part met (.branch combines found place) stops)

theorem groups_eq {n : Tree} {keyword : String} {first : Bool} {schemas : List Tree}
    {groups : List (List Finding)}
    (judged : judgeBranches (run config n) keyword first 0 schemas = .ok ⟨[], groups⟩) :
    groups = groupsOf config n keyword schemas := by
  simpa [groupsOf] using groups_of_judgeBranches judged

theorem anyOf (upholds : Upholds config s meets) {schemas : List Tree}
    (found : s.get? "anyOf" = some (.array schemas)) :
    Accounts config s meets (anyOf run config (.array schemas)) :=
  byNode fun n met => by
    match judged : judgeBranches (run config n) "anyOf" true 0 schemas with
    | .error i => exact ⟨_, interruptBranch met (by decide) found judged,
        fun _ => anyOf_of_error judged⟩
    | .ok ⟨[], groups⟩ =>
      cases groups_eq judged
      exact ⟨_, reject met (.anyOf found (rejects_of_judgeBranches judged)),
        fun _ => anyOf_of_nil judged⟩
    | .ok ⟨branch :: more, groups⟩ =>
      exact ⟨_, adoptBranch upholds met (by decide) found judged List.mem_cons_self,
        fun _ => anyOf_of_cons judged⟩

theorem oneOf (upholds : Upholds config s meets) {schemas : List Tree}
    (found : s.get? "oneOf" = some (.array schemas)) :
    Accounts config s meets (oneOf run config (.array schemas)) :=
  byNode fun n met => by
    match judged : judgeBranches (run config n) "oneOf" false 0 schemas with
    | .error i => exact ⟨_, interruptBranch met (by decide) found judged,
        fun _ => oneOf_of_error judged⟩
    | .ok ⟨[], groups⟩ =>
      cases groups_eq judged
      exact ⟨_, reject met (.oneOf found (rejects_of_judgeBranches judged)),
        fun _ => oneOf_of_nil judged⟩
    | .ok ⟨branch :: more, groups⟩ =>
      have adopts := adoptBranch upholds met (by decide) found judged List.mem_cons_self
      have multiple : ∀ pair ∈ neighbours (branch :: more),
          Accounts config s meets (Stage.reject config (.oneOfMultiple pair.1 pair.2)) :=
        fun pair _ => reject met (.multiple found)
      exact ⟨_, cons adopts (map multiple), fun _ => oneOf_of_cons judged⟩

theorem notAny {t : Tree} (found : s.get? "not" = some t) :
    Accounts config s meets (notAny run config t) :=
  byNode fun n met => by
    match stopped : (run { config with coercing := false } n t).interruption? with
    | some i =>
      exact ⟨_, interrupt (.negated met found stopped), fun _ => notAny_of_some stopped⟩
    | none =>
      by_cases passes : (run { config with coercing := false } n t).passes = true
      · exact ⟨_, reject met (.negated found),
          fun _ => (notAny_of_none stopped).trans (if_pos passes)⟩
      · exact ⟨_, skip, fun _ => (notAny_of_none stopped).trans (if_neg passes)⟩

theorem walk (upholds : Upholds config s meets) :
    Walk config config run run meets (fun stage _ => Accounts config s meets stage) s where
  toSequential := sequential config s meets
  misread misread := interrupt (.misread misread)
  types present _ := checkTypes upholds.toEndures present _
  constraints mem := checkConstraints mem
  counted met := replace (upholds.counted met)
  require met found read place := requireKey upholds.toEndures met found read place
  fill met found mem := fillDeclared upholds.toEndures met found mem
  forbid found met extra := forbid upholds.toEndures found met extra
  requireAll found mem read place := requireOther fun _ absent =>
    .dependencyKeys found mem read place absent
  requireOne found mem := requireOther fun _ absent => .dependencyKey found mem absent
  excess found beyond met bound past := reject met (.additionalItem found beyond bound past)
  part met applies := join upholds met (applies.applies (by decide))
  anyOf found := anyOf upholds found
  oneOf found := oneOf upholds found
  notAny found := notAny found

end Accounts

end Stage

/-! ### Runs -/

/-- A run leaves a node that is met, and there is an account of all that it finds and of what
interrupts it. -/
theorem run_accounts {config : Config} {s : Members} {meets : Tree → Prop}
    (upholds : Upholds config s meets) {d : Tree} (met : meets d) :
    meets (run config d (.object s)).node ∧
      (∀ f ∈ (run config d (.object s)).findings, Tells config s meets f) ∧
      ∀ i, (run config d (.object s)).interruption? = some i → Ends config s meets i := by
  have walk := (Stage.Accounts.walk upholds).stages
  rw [run_object]
  refine ⟨walk.node ⟨d, []⟩ met, fun f mem => ?_, walk.ends ⟨d, []⟩ met⟩
  exact (walk.finds ⟨d, []⟩ met f mem).resolve_left List.not_mem_nil

/-! ### Paths of findings -/

/-- The pointers of the finding are those of paths, of which the one in the schema has a step. -/
structure Finding.Rooted (f : Finding) : Prop where
  data : ∃ xs, f.dataPath = .ofSegments xs
  schema : ∃ y ys, f.schemaPath = .ofSegments (y :: ys)

theorem Violation.rooted {v : Violation} {f : Finding} (told : v.finding = .ok f) : f.Rooted := by
  obtain ⟨text, -, rfl⟩ := exists_of_finding told
  cases v with
  | additionalProperty | additionalItem => exact ⟨⟨_, rfl⟩, _, _, rfl⟩
  | dependencyMissing _ _ index => cases index <;> exact ⟨⟨[], rfl⟩, _, _, rfl⟩
  | _ => exact ⟨⟨[], rfl⟩, _, _, rfl⟩

theorem Applies.segments {s : Members} {n u t : Tree} {place : Tree → Tree} {data path : Pointer}
    (h : Applies s n u t place data path) :
    ∃ xs y ys, data = .ofSegments xs ∧ path = .ofSegments (y :: ys) := by
  cases h with
  | dependency | branch => exact ⟨[], _, _, rfl, rfl⟩
  | _ => exact ⟨_, _, _, rfl, rfl⟩

theorem Finding.Rooted.under {f : Finding} (h : f.Rooted) (xs ys : List Segment) :
    (f.under (.ofSegments xs) (.ofSegments ys)).Rooted := by
  obtain ⟨⟨data, eq⟩, step, path, eq'⟩ := h
  refine ⟨⟨xs ++ data, ?_⟩, ?_⟩
  · rw [dataPath_under, eq, Pointer.ofSegments_append]
  · rw [schemaPath_under, eq', ← Pointer.ofSegments_append]
    cases ys with
    | nil => exact ⟨step, path, rfl⟩
    | cons y ys => exact ⟨y, _, rfl⟩

theorem rooted_of_run (config : Config) (schema : Tree) :
    ∀ {d : Tree} {f : Finding}, f ∈ (run config d schema).findings → f.Rooted := by
  induction schema using schema_induction with
  | object s parts =>
    intro d f found
    cases (run_accounts (.trivial config s) (d := d) trivial).2.1 f found with
    | own _ _ told => exact Violation.rooted told
    | part _ applies mem =>
      obtain ⟨xs, y, ys, rfl, rfl⟩ := applies.segments
      exact (parts _ applies.subSchema mem).under xs (y :: ys)
  | other t other =>
    intro d f found
    rw [run_of_not_object other] at found
    cases found

end TreeSchema
