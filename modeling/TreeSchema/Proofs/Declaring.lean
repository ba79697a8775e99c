import TreeSchema.Proofs.Location
import TreeSchema.Proofs.Removal

/-!
Declared defaults. The stage for a declared member asks for a default only where the
schema of the member has one, and the lookup comes to that very schema before it looks
anywhere else, so it never comes back without a value: the finding that tells of a missing
default cannot be told, by no run and in no group of findings. What the lookup comes back
with is written, so a declared member with a default is there after its turn, whatever was
told before and whatever becomes of the visit to it.
-/

namespace TreeSchema

/-! ### The lookup -/

theorem withDefault?_of_declared {s entries m members : Members} {key : String} {t : Tree}
    {options : Options} (wellFormed : (Tree.object s).WellFormed)
    (found : s.get? "properties" = some (.object entries)) (mem : (key, .object m) ∈ entries)
    (value : m.get? "default" = some t) :
    withDefault? members s key options = .ok (some (members.put key t)) := by
  have declares : schemaOfProperties s key = some m :=
    schemaOfProperties_eq_some_iff.2
      ⟨entries, found, Members.get?_of_mem_entries wellFormed found mem⟩
  have default : defaultFor m options = some t := by rw [defaultFor, value]
  rw [withDefault?, propertySchema, declares]
  exact congrArg (fun found => Except.ok (Option.map (members.put key) found)) default

/-- The default that the stage for a declared member asks for is found. -/
theorem withDefault?_ne_none {s entries members : Members} {key : String} {t : Tree}
    {options : Options} (wellFormed : (Tree.object s).WellFormed)
    (found : s.get? "properties" = some (.object entries)) (mem : (key, t) ∈ entries)
    (declares : Stage.hasDefault t = true) : withDefault? members s key options ≠ .ok none := by
  cases t with
  | object m =>
    obtain ⟨u, value⟩ :=
      Option.isSome_iff_exists.1 ((Members.isSome_get? m "default").trans declares)
    rw [withDefault?_of_declared wellFormed found mem value]
    exact nofun
  | _ => cases declares

/-! ### The finding -/

theorem Constraint.code_ne_noDefault {x : Constraint} {t : Tree} {v : Violation}
    (judged : x.judge t = .ok (some v)) : v.code ≠ .objectNoDefault := by
  intro same
  obtain ⟨-, -, read, -⟩ := eq_of_judge judged
  rw [same] at read
  have apart : x.keyword ≠ "properties" := by cases x <;> simp [keyword]
  exact apart (Option.some.inj read).symm

theorem Arises.code_ne_noDefault {config : Config} {s : Members} {n : Tree} {v : Violation}
    (arises : Arises config s n v) (wellFormed : (Tree.object s).WellFormed) :
    v.code ≠ .objectNoDefault := by
  cases arises with
  | constraint _ judged => exact Constraint.code_ne_noDefault judged
  | noDefault found mem _ declares unfilled =>
    exact absurd unfilled (withDefault?_ne_none wellFormed found mem declares)
  | _ => nofun

/-- No run tells of a missing default, neither by itself nor within a group. -/
theorem code_ne_noDefault_of_run (config : Config) (schema : Tree) :
    schema.WellFormed → ∀ {d : Tree} {f g : Finding},
      f ∈ (run config d schema).findings → f.Nested g → g.code ≠ .objectNoDefault := by
  induction schema using schema_induction with
  | object s parts =>
    intro wellFormed d f g found nested
    -- A finding of a part, seen from here, has the code it had.
    have below {u t : Tree} {f g : Finding} {data path : Pointer} (sub : SubSchema s t)
        (mem : f ∈ (run config u t).findings) (nested : (f.under data path).Nested g) :
        g.code ≠ .objectNoDefault := by
      obtain ⟨g', inner, rfl⟩ := nested.of_under
      rw [Finding.code_under]
      exact parts t sub (sub.wellFormed wellFormed) mem inner
    cases (run_accounts (.trivial config s) (d := d) trivial).2.1 f found with
    | own met arises told =>
      obtain ⟨text, -, rfl⟩ := Violation.exists_of_finding told
      cases nested with
      | self => exact arises.code_ne_noDefault wellFormed
      | inside mem among nested =>
        obtain ⟨keyword, combines, schemas, index, t, f, there, place, found, rfl⟩ :=
          arises.mem_groups mem among
        exact below (.branch combines there (List.mem_of_getElem? place)) found nested
    | part _ applies mem => exact below applies.subSchema mem nested
  | other t other =>
    intro _ d f g found
    rw [run_of_not_object other] at found
    cases found

/-! ### The turn of a declared member -/

namespace Stage

/-- The run of the data against the schema comes to the turn of a declared member. -/
inductive ComesToTurn (config : Config) (s entries : Members) (entry : String × Tree) (d : Tree) :
    Progress → Prop where
  | intro {q r : Progress}
      (inside : ComesInside config s d (checkProperties run config s) q)
      (turn : Comes (entries.map (checkProperty run config s)) q
        (checkProperty run config s entry) r) :
      ComesToTurn config s entries entry d r

variable {config : Config} {s entries m : Members} {key : String} {t d : Tree} {p r : Progress}

theorem isObject_of_checkProperty {entry : String × Tree}
    (found : s.get? "properties" = some (.object entries)) (mem : entry ∈ entries)
    (object : p.node.IsObject) : (checkProperty run config s entry p).node.IsObject := by
  have start : (Tree.object []).IsObject := ⟨[], rfl⟩
  have walk := Accounts.walk (Tree.IsObject.upholds config s)
  exact (walk.checkProperty start found mem).node p object

theorem ComesToTurn.isObject {entry : String × Tree}
    (comes : ComesToTurn config s entries entry d r)
    (found : s.get? "properties" = some (.object entries)) : r.node.IsObject := by
  obtain ⟨⟨-, -, inside⟩, turn⟩ := comes
  have walk := Accounts.walk (Tree.IsObject.upholds config s)
  have object (members : Members) : (Tree.object members).IsObject := ⟨members, rfl⟩
  have stagesLast : Lasts (objectStages run config s) Tree.IsObject :=
    fun x mem => (walk.each_objectStage [] (object []) x mem).node
  have turnsLast : Lasts (entries.map (checkProperty run config s)) Tree.IsObject :=
    List.forall_mem_map.2 fun _ mem _ => isObject_of_checkProperty found mem
  exact turn.lasts turnsLast (inside.lasts stagesLast (object _))

/-- A run on an object that collects all findings and ends comes to the turn of each declared
member. -/
theorem exists_comesToTurn {options : Options} {coercing : Bool} {members : Members}
    {entry : String × Tree}
    (ends : (run (.collecting options coercing) (.object members) (.object s)).interruption? =
      none)
    (found : s.get? "properties" = some (.object entries)) (mem : entry ∈ entries) :
    ∃ r, ComesToTurn (.collecting options coercing) s entries entry (.object members) r := by
  have collects := (Collects.closed options coercing).walk run s
  obtain ⟨q, inside, goes⟩ := exists_comesInside ends
    (show checkProperties run (.collecting options coercing) s ∈ objectStages run _ s by
      simp [objectStages, memberStages])
  rw [checkProperties, found] at goes
  have turns : ∀ x ∈ entries.map (checkProperty run (.collecting options coercing) s),
      Collects x :=
    List.forall_mem_map.2 fun _ mem =>
      @Walk.checkProperty _ _ _ _ _ _ _ collects members _ _ trivial found mem
  obtain ⟨r, turn, -⟩ := exists_comes turns (List.mem_map_of_mem mem)
    (by rw [Run.interruption?, goes])
  exact ⟨r, .intro inside turn⟩

theorem has_of_visitMember (visit : Visit) (config : Config) (schema : Tree) (path : Pointer)
    (has : p.node.members.has key = true) :
    (visitMember visit config schema path key p).node.members.has key = true := by
  obtain ⟨u, value⟩ := Option.isSome_iff_exists.1 ((Members.isSome_get? _ key).trans has)
  rw [visitMember_of_some value, node_of_join]
  split
  · rw [Tree.eq_object_of_get? value]
    exact has_put.2 (.inl rfl)
  · exact has

/-- A default that is declared is filled in, if the key is not there, and the stage goes on. -/
theorem fillDeclared_of_declared (wellFormed : (Tree.object s).WellFormed)
    (found : s.get? "properties" = some (.object entries)) (mem : (key, .object m) ∈ entries)
    (value : m.get? "default" = some t) (coercing : config.coercing = true)
    (fills : config.options.setMissingToDefault = true) (p : Progress) :
    (fillDeclared config s key (.object m) p).stop = none ∧
      (fillDeclared config s key (.object m) p).node.members.has key = true := by
  cases has : p.node.members.has key with
  | true =>
    have present : ¬ (!p.node.members.has key && config.coercing &&
        config.options.setMissingToDefault && hasDefault (.object m)) = true := by simp [has]
    rw [fillDeclared_of_not_missing present]
    exact ⟨rfl, has⟩
  | false =>
    have declares : hasDefault (.object m) = true := Members.has_of_get? value
    have missing : (!p.node.members.has key && config.coercing &&
        config.options.setMissingToDefault && hasDefault (.object m)) = true := by
      simp [has, coercing, fills, declares]
    rw [fillDeclared_of_missing missing,
      fillIn_of_some (withDefault?_of_declared wellFormed found mem value)]
    exact ⟨rfl, has_put.2 (.inl rfl)⟩

theorem has_of_checkProperty (wellFormed : (Tree.object s).WellFormed)
    (found : s.get? "properties" = some (.object entries)) (mem : (key, .object m) ∈ entries)
    (value : m.get? "default" = some t) (coercing : config.coercing = true)
    (fills : config.options.setMissingToDefault = true) (p : Progress) :
    (checkProperty run config s (key, .object m) p).node.members.has key = true := by
  obtain ⟨goes, has⟩ := fillDeclared_of_declared wellFormed found mem value coercing fills p
  rw [checkProperty, sequence_cons_of_none goes, sequence_singleton]
  exact has_of_visitMember run config (.object m) _ has

end Stage

/-! ### Runs -/

/-- That a default is missing is never told, neither by a run nor within a group of findings: where
a schema declares a default for a key, the lookup for the key finds it, and it is written. So after
its turn in a coercing run that fills in what is missing, a declared member with a default is there;
and on an object a run that collects all findings and ends comes to the turn of each member. -/
theorem declared_default_never_missing {schema : Tree} (wellFormed : schema.WellFormed) :
    (∀ (config : Config) (d : Tree) (f g : Finding), f ∈ (run config d schema).findings →
      f.Nested g → g.code ≠ .objectNoDefault) ∧
    ∀ (s entries m : Members) (key : String) (t : Tree), schema = .object s →
      s.get? "properties" = some (.object entries) → (key, .object m) ∈ entries →
      m.get? "default" = some t →
      (∀ (members : Members) (options : Options),
        withDefault? members s key options = .ok (some (members.put key t))) ∧
      (∀ (config : Config) (d : Tree) (r : Progress), config.coercing = true →
        config.options.setMissingToDefault = true →
        Stage.ComesToTurn config s entries (key, .object m) d r →
        (Stage.checkProperty run config s (key, .object m) r).node.IsObject ∧
          (Stage.checkProperty run config s (key, .object m) r).node.members.has key = true) ∧
      ∀ (options : Options) (members : Members),
        (run (.collecting options true) (.object members) schema).interruption? = none →
        ∃ r, Stage.ComesToTurn (.collecting options true) s entries (key, .object m)
          (.object members) r := by
  refine ⟨fun config d f g => code_ne_noDefault_of_run config schema wellFormed, ?_⟩
  rintro s entries m key t rfl found mem value
  refine ⟨fun members options => withDefault?_of_declared wellFormed found mem value,
    fun config d r coercing fills comes => ?_,
    fun options members ends => Stage.exists_comesToTurn ends found mem⟩
  exact ⟨Stage.isObject_of_checkProperty found mem (comes.isObject found),
    Stage.has_of_checkProperty wellFormed found mem value coercing fills r⟩

/-- A port, and a host with a default other than that of the pattern which finds it, too. -/
def serverEntries : Members :=
  [("port", .object [("type", .string "integer")]),
    ("host", .object [("default", .string "localhost")])]

def serverSchema : Members :=
  [("properties", .object serverEntries),
    ("patternProperties", .object [("o", .object [("default", .null)])])]

def server : Tree :=
  .object [("port", .string "80")]

theorem declared_default_never_missing_server :
    withDefault? [] serverSchema "host" .default = .ok (some [("host", .string "localhost")]) ∧
      Stage.ComesToTurn (.collecting ⟨true, true, false⟩ true) serverSchema serverEntries
        ("host", .object [("default", .string "localhost")]) server
        ⟨.object [("port", .number (.int 80))], []⟩ ∧
      (Stage.checkProperty run (.collecting ⟨true, true, false⟩ true) serverSchema
        ("host", .object [("default", .string "localhost")])
        ⟨.object [("port", .number (.int 80))], []⟩).node.members.has "host" = true := by
  have wellFormed : (Tree.object serverSchema).WellFormed := by
    simp [serverSchema, serverEntries, Tree.WellFormed, Tree.WellFormedMembers, Members.keys]
  have comes : Stage.ComesToTurn (.collecting ⟨true, true, false⟩ true) serverSchema serverEntries
      ("host", .object [("default", .string "localhost")]) server
      ⟨.object [("port", .number (.int 80))], []⟩ :=
    .intro (.intro (.later rfl (.later rfl (.here ..))) rfl (.later rfl (.here ..)))
      (.later rfl (.here ..))
  obtain ⟨-, declared⟩ := declared_default_never_missing wellFormed
  obtain ⟨filled, turn, -⟩ := declared _ _ _ "host" (.string "localhost") rfl rfl
    (List.mem_cons_of_mem _ List.mem_cons_self) rfl
  exact ⟨filled [] .default, comes, (turn _ _ _ rfl rfl comes).2⟩

end TreeSchema
