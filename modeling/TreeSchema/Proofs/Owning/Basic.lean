import TreeSchema.Proofs.WellFormed

/-!
Findings that are told apart. Two findings are apart when they are about different
places, or else both tell of branches too many and tell of different ones. Each
stage of a schema owns the findings at its own places: the stages before and after
it look at other keywords, and the turns of a loop at other entries or at other
parts of the node. So what a sequence finds is pairwise apart as soon as what each
stage finds is, and no finding is compared with one of another stage.
-/

namespace TreeSchema

namespace Finding

/-- The findings are about different places, or tell of different branches that are too many. -/
def Apart (f g : Finding) : Prop :=
  f.dataPath = g.dataPath → f.schemaPath = g.schemaPath →
    f.code = .oneOfMultiple ∧ g.code = .oneOfMultiple ∧ f.message ≠ g.message

/-- A step of one of the two pointers of a finding. -/
inductive Mark where
  | data (index : Nat)
  | schema (index : Nat)

def mark (f : Finding) : Mark → Option String
  | .data index => f.dataPath.steps[index]?
  | .schema index => f.schemaPath.steps[index]?

section

variable {f g : Finding}

theorem apart_of_mark (m : Mark) (other : f.mark m ≠ g.mark m) : f.Apart g := by
  intro same same'
  refine absurd ?_ other
  cases m with
  | data index => exact congrArg (fun p : Pointer => p.steps[index]?) same
  | schema index => exact congrArg (fun p : Pointer => p.steps[index]?) same'

theorem Apart.under (h : f.Apart g) (data path : Pointer) :
    (f.under data path).Apart (g.under data path) := by
  intro same same'
  rw [dataPath_under, dataPath_under] at same
  rw [schemaPath_under, schemaPath_under] at same'
  rw [code_under, code_under, message_under, message_under]
  exact h (Pointer.append_left_cancel same) (Pointer.append_left_cancel same')

theorem Rooted.mark_data_under (rooted : f.Rooted) (xs ys : List Segment) (index : Nat) :
    (f.under (.ofSegments xs) (.ofSegments ys)).mark (.data index) =
      (xs.map Segment.text ++ f.dataPath.steps)[index]? := by
  obtain ⟨⟨path, eq⟩, -⟩ := rooted
  rw [mark, dataPath_under, eq, ← Pointer.ofSegments_append, Pointer.steps_ofSegments,
    Pointer.steps_ofSegments, List.map_append]

theorem Rooted.mark_schema_under (rooted : f.Rooted) (xs ys : List Segment) (index : Nat) :
    (f.under (.ofSegments xs) (.ofSegments ys)).mark (.schema index) =
      (ys.map Segment.text ++ f.schemaPath.steps)[index]? := by
  obtain ⟨-, y, path, eq⟩ := rooted
  rw [mark, schemaPath_under, eq, ← Pointer.ofSegments_append, Pointer.steps_ofSegments,
    Pointer.steps_ofSegments, List.map_append]

theorem mark_schema_of_finding {v : Violation} (told : v.finding = .ok f) (path : List Segment)
    (eq : v.schemaPath = .ofSegments path) (index : Nat) :
    f.mark (.schema index) = (path.map Segment.text)[index]? := by
  obtain ⟨text, -, rfl⟩ := Violation.exists_of_finding told
  rw [mark, eq, Pointer.steps_ofSegments]

theorem mark_data_of_finding {v : Violation} (told : v.finding = .ok f) (path : List Segment)
    (eq : v.dataPath = .ofSegments path) (index : Nat) :
    f.mark (.data index) = (path.map Segment.text)[index]? := by
  obtain ⟨text, -, rfl⟩ := Violation.exists_of_finding told
  rw [mark, eq, Pointer.steps_ofSegments]

end

/-- The finding is about one of the keywords, or about something below one. -/
def On (keywords : List String) (f : Finding) : Prop :=
  ∃ keyword ∈ keywords, f.mark (.schema 0) = some keyword

theorem On.apart {ks ls : List String} {f g : Finding} (disjoint : ∀ k ∈ ks, k ∉ ls)
    (first : f.On ks) (second : g.On ls) : f.Apart g := by
  obtain ⟨k, mem, at₀⟩ := first
  obtain ⟨l, mem', at₀'⟩ := second
  refine apart_of_mark (.schema 0) fun same => disjoint k mem ?_
  rw [at₀, at₀'] at same
  exact Option.some.inj same ▸ mem'

end Finding

namespace Constraint

/-- The constraints of the reading are read from the keywords, in order. -/
def Reading.Reads (reading : Reading) (keywords : List String) : Prop :=
  ∀ cs, reading = .ok cs → (cs.map Constraint.keyword).Sublist keywords

variable {s : Members}

theorem reads_nil : (readAll []).Reads [] := by
  rintro _ ⟨⟩
  exact .refl _

theorem reads_cons {r : Reading} {rest : List Reading} {ks ls : List String}
    (first : r.Reads ks) (others : (readAll rest).Reads ls) :
    (readAll (r :: rest)).Reads (ks ++ ls) := by
  intro cs read
  obtain ⟨xs, ys, here, after, rfl⟩ := readAll_cons.1 read
  rw [List.map_append]
  exact (first xs here).append (others ys after)

theorem reads_countOf (keyword : String) (make : Number → Constraint)
    (same : ∀ limit, (make limit).keyword = keyword) :
    (countOf s keyword make).Reads [keyword] := by
  intro cs read
  unfold countOf at read
  split at read
  · cases read
    exact List.nil_sublist _
  · split at read <;> cases read
    exact same _ ▸ .refl _
  · cases read

theorem reads_limitOf (keyword exclusive : String) (make : Number → Bool → Constraint)
    (same : ∀ limit excludes, (make limit excludes).keyword = keyword) :
    (limitOf s keyword exclusive make).Reads [keyword] := by
  intro cs read
  unfold limitOf at read
  split at read
  · cases read
    exact List.nil_sublist _
  · cases read
    exact same _ _ ▸ .refl _
  · cases read

theorem reads_divisorOf : (divisorOf s).Reads ["multipleOf"] := by
  intro cs read
  unfold divisorOf at read
  split at read
  · cases read
    exact List.nil_sublist _
  · split at read <;> cases read
    exact .refl _
  · cases read

theorem reads_patternOf : (patternOf s).Reads ["pattern"] := by
  intro cs read
  unfold patternOf at read
  split at read
  · cases read
    exact List.nil_sublist _
  · next text found =>
    cases flags : patternLetters s with
    | error i =>
      rw [flags] at read
      cases read
    | ok letters =>
      rw [flags] at read
      match compiled : Pattern.compile text letters with
      | .error cause =>
        simp only [compiled, bind, Except.bind, Interruption.ofFailure] at read
        cases read
      | .ok (.error r) =>
        simp only [compiled, bind, Except.bind, Interruption.ofFailure] at read
        cases read
      | .ok (.ok regex) =>
        simp only [compiled, bind, Except.bind, Interruption.ofFailure] at read
        cases read
        exact .refl _
  · cases read

theorem reads_ofEnum : (ofEnum s).Reads ["enum"] := by
  intro cs read
  unfold ofEnum at read
  split at read
  · cases read
    exact List.nil_sublist _
  · cases read
    exact .refl _
  · cases read

theorem reads_ofStrings : (ofStrings s).Reads ["minLength", "maxLength", "pattern"] :=
  reads_cons (reads_countOf "minLength" .minLength fun _ => rfl)
    (reads_cons (reads_countOf "maxLength" .maxLength fun _ => rfl)
      (reads_cons reads_patternOf reads_nil))

theorem reads_ofNumbers : (ofNumbers s).Reads ["multipleOf", "minimum", "maximum"] :=
  reads_cons reads_divisorOf
    (reads_cons (reads_limitOf "minimum" _ .minimum fun _ _ => rfl)
      (reads_cons (reads_limitOf "maximum" _ .maximum fun _ _ => rfl) reads_nil))

theorem reads_ofArrays : (ofArrays s).Reads ["minItems", "maxItems", "uniqueItems"] := by
  have unique : Reading.Reads (.ok (if s.has "uniqueItems" then [.uniqueItems] else []))
      ["uniqueItems"] := by
    rintro _ ⟨⟩
    split
    · exact .refl _
    · exact List.nil_sublist _
  exact reads_cons (reads_countOf "minItems" .minItems fun _ => rfl)
    (reads_cons (reads_countOf "maxItems" .maxItems fun _ => rfl) (reads_cons unique reads_nil))

theorem reads_ofObjects : (ofObjects s).Reads ["minProperties", "maxProperties"] :=
  reads_cons (reads_countOf "minProperties" .minProperties fun _ => rfl)
    (reads_cons (reads_countOf "maxProperties" .maxProperties fun _ => rfl) reads_nil)

end Constraint

namespace Stage

/-- On well formed nodes, the stage adds findings within the scope that are pairwise apart. -/
def Owns (scope : Finding → Prop) (stage : Stage) : Prop :=
  ∀ p, p.node.WellFormed → ∃ new, (stage p).findings = p.findings ++ new ∧
    new.Pairwise Finding.Apart ∧ ∀ f ∈ new, scope f

/-- The stage leaves well formed nodes so. -/
def Forms (stage : Stage) : Prop :=
  ∀ p, p.node.WellFormed → (stage p).node.WellFormed

theorem Forms.reject (config : Config) (v : Violation) : Forms (reject config v) := by
  unfold Stage.reject
  cases v.finding <;> exact fun _ => id

theorem Forms.checkConstraint (config : Config) (x : Constraint) :
    Forms (checkConstraint config x) := by
  intro p formed
  match judged : x.judge p.node with
  | .error cause => rwa [checkConstraint_of_failure judged]
  | .ok none => rwa [checkConstraint_of_none judged]
  | .ok (some v) =>
    rw [checkConstraint_of_some judged]
    exact Forms.reject config v p formed

theorem sublist_reports (config : Config) (fs : List Finding) (p : Progress) :
    ∃ new, new.Sublist fs ∧
      (sequence (fs.map (report config)) p).findings = p.findings ++ new := by
  induction fs generalizing p with
  | nil => exact ⟨[], .slnil, (List.append_nil _).symm⟩
  | cons f rest ih =>
    obtain ⟨first, sublist, found⟩ : ∃ first : List Finding, first.Sublist [f] ∧
        (report config f p).findings = p.findings ++ first := by
      rcases config.mode.add_eq config.cap p.findings f with same | added
      · exact ⟨[], List.nil_sublist _, same.trans (List.append_nil _).symm⟩
      · exact ⟨[f], .refl _, added⟩
    rw [List.map_cons]
    cases stopped : (report config f p).stop with
    | some stop =>
      rw [sequence_cons_of_some stopped]
      exact ⟨first, sublist.trans (List.singleton_sublist.2 List.mem_cons_self), found⟩
    | none =>
      rw [sequence_cons_of_none stopped]
      obtain ⟨more, sublist', found'⟩ := ih (report config f p).toProgress
      refine ⟨first ++ more, sublist.append sublist', ?_⟩
      rw [found', found, List.append_assoc]

namespace Owns

variable {config : Config} {scope other : Finding → Prop} {stage : Stage}

theorem of_findings (same : ∀ p, (stage p).findings = p.findings) : Owns scope stage :=
  fun p _ => ⟨[], by rw [same, List.append_nil], .nil, List.forall_mem_nil _⟩

theorem skip : Owns scope skip :=
  of_findings fun _ => rfl

theorem interrupt (i : Interruption) : Owns scope (interrupt i) :=
  of_findings fun _ => rfl

theorem malformed (path : Pointer) (cause : Malformed) : Owns scope (malformed path cause) :=
  interrupt _

theorem replace (node : Tree) : Owns scope (replace node) :=
  of_findings fun _ => rfl

theorem adopt (config : Config) (node : Tree) : Owns scope (adopt config node) :=
  of_findings fun p => by rw [adopt_eq]; rfl

theorem mono (h : Owns scope stage) (wider : ∀ f, scope f → other f) : Owns other stage := by
  intro p formed
  obtain ⟨new, found, apart, within⟩ := h p formed
  exact ⟨new, found, apart, fun f mem => wider f (within f mem)⟩

theorem reports {fs : List Finding} (apart : fs.Pairwise Finding.Apart)
    (within : ∀ f ∈ fs, scope f) : Owns scope (sequence (fs.map (report config))) := by
  intro p _
  obtain ⟨new, sublist, found⟩ : ∃ new, new.Sublist fs ∧
      (sequence (fs.map (report config)) p).findings = p.findings ++ new :=
    sublist_reports config fs p
  exact ⟨new, found, apart.sublist sublist, fun f mem => within f (sublist.subset mem)⟩

theorem report {f : Finding} (within : scope f) : Owns scope (report config f) := by
  have single : [f].Pairwise Finding.Apart := List.pairwise_singleton ..
  rw [← sequence_singleton (Stage.report config f)]
  exact reports single (List.forall_mem_singleton.2 within)

theorem reject {v : Violation} (within : ∀ f, v.finding = .ok f → scope f) :
    Owns scope (reject config v) := by
  unfold Stage.reject
  cases told : v.finding with
  | ok f => exact report (within f told)
  | error cause => exact interrupt _

theorem byNode (h : ∀ n : Tree, n.WellFormed → ∃ stage', Owns scope stage' ∧
    ∀ held, stage ⟨n, held⟩ = stage' ⟨n, held⟩) : Owns scope stage := by
  intro p formed
  obtain ⟨stage', owns, same⟩ := h p.node formed
  rw [same p.findings]
  exact owns p formed

theorem reading {α : Type} {part : Except Interruption α} {f : α → Stage}
    (owns : ∀ a, part = .ok a → Owns scope (f a)) : Owns scope (reading part f) := by
  cases part with
  | ok a => exact owns a rfl
  | error i => exact interrupt i

/-- Stages whose scopes are apart can be put together. -/
theorem cons {xs : List Stage} (forms : Forms stage) (first : Owns scope stage)
    (rest : Owns other (sequence xs)) (apart : ∀ f g, scope f → other g → f.Apart g) :
    Owns (fun f => scope f ∨ other f) (sequence (stage :: xs)) := by
  intro p formed
  obtain ⟨new, found, apartNew, within⟩ := first p formed
  cases stopped : (stage p).stop with
  | some stop =>
    rw [sequence_cons_of_some stopped]
    exact ⟨new, found, apartNew, fun f mem => .inl (within f mem)⟩
  | none =>
    rw [sequence_cons_of_none stopped]
    obtain ⟨more, found', apartMore, within'⟩ := rest _ (forms p formed)
    refine ⟨new ++ more, by rw [found', found, List.append_assoc], ?_, fun f mem => ?_⟩
    · exact List.pairwise_append.2 ⟨apartNew, apartMore,
        fun f mem g mem' => apart f g (within f mem) (within' g mem')⟩
    · exact (List.mem_append.1 mem).imp (within f) (within' f)

theorem cons_on {ks ls : List String} {xs : List Stage} (forms : Forms stage)
    (first : Owns (Finding.On ks) stage) (rest : Owns (Finding.On ls) (sequence xs))
    (disjoint : ∀ k ∈ ks, k ∉ ls) : Owns (Finding.On (ks ++ ls)) (sequence (stage :: xs)) := by
  refine (cons forms first rest fun f g on on' => on.apart disjoint on').mono fun f on => ?_
  rcases on with ⟨k, mem, at₀⟩ | ⟨k, mem, at₀⟩
  · exact ⟨k, List.mem_append_left _ mem, at₀⟩
  · exact ⟨k, List.mem_append_right _ mem, at₀⟩

theorem map {α : Type} {f : α → Stage} {within : α → Finding → Prop} {xs : List α}
    (forms : ∀ x ∈ xs, Forms (f x)) (each : ∀ x ∈ xs, Owns (within x) (f x))
    (apart : xs.Pairwise fun x y => ∀ g h, within x g → within y h → g.Apart h) :
    Owns (fun g => ∃ x ∈ xs, within x g) (sequence (xs.map f)) := by
  induction xs with
  | nil => exact skip
  | cons x rest ih =>
    obtain ⟨first, others⟩ := List.pairwise_cons.1 apart
    have rest' := ih (fun y mem => forms y (List.mem_cons_of_mem _ mem))
      (fun y mem => each y (List.mem_cons_of_mem _ mem)) others
    refine (cons (forms x List.mem_cons_self) (each x List.mem_cons_self) rest' ?_).mono ?_
    · rintro g h inside ⟨y, mem, inside'⟩
      exact first y mem g h inside inside'
    · rintro g (inside | ⟨y, mem, inside⟩)
      · exact ⟨x, List.mem_cons_self, inside⟩
      · exact ⟨y, List.mem_cons_of_mem _ mem, inside⟩

theorem loop {α : Type} {f : α → Stage} {xs : List α} (m : Finding.Mark) (name : α → String)
    (distinct : (xs.map name).Nodup) (forms : ∀ x ∈ xs, Forms (f x))
    (each : ∀ x ∈ xs, Owns (fun g => scope g ∧ g.mark m = some (name x)) (f x)) :
    Owns scope (sequence (xs.map f)) := by
  refine (map forms each ?_).mono fun g ⟨x, mem, inside, marked⟩ => inside
  refine (List.pairwise_map.1 distinct).imp fun {x y} other g h inside inside' => ?_
  refine Finding.apart_of_mark m fun same => other (Option.some.inj ?_)
  rw [← inside.2, same, inside'.2]

theorem loopIdx {α : Type} {f : Nat → α → Stage} {xs : List α} (m : Finding.Mark)
    (forms : ∀ (i : Nat) x, xs[i]? = some x → Forms (f i x))
    (each : ∀ (i : Nat) x, xs[i]? = some x →
      Owns (fun g => scope g ∧ g.mark m = some (Segment.text (.index i))) (f i x)) :
    Owns scope (sequence (xs.mapIdx f)) := by
  rw [List.mapIdx_eq_zipIdx_map]
  refine loop m (fun entry : α × Nat => Segment.text (.index entry.2)) ?_
    (fun entry mem => forms _ _ (List.mem_zipIdx_iff_getElem?.1 mem))
    fun entry mem => each _ _ (List.mem_zipIdx_iff_getElem?.1 mem)
  have indices : (xs.zipIdx.map fun entry => entry.2).Nodup := by
    rw [List.zipIdx_map_snd]
    exact List.nodup_range'
  refine List.pairwise_map.2 ((List.pairwise_map.1 indices).imp fun other same => ?_)
  exact other (Segment.text_index_injective same)

/-! ### Parts -/

theorem join {u t : Tree} {place : Tree → Tree} {xs ys : List Segment}
    (apart : (run config u t).findings.Pairwise Finding.Apart)
    (within : ∀ f : Finding, f.Rooted → scope (f.under (.ofSegments xs) (.ofSegments ys))) :
    Owns scope (join config (run config u t) place (.ofSegments xs) (.ofSegments ys)) := by
  intro p _
  match stopped : (run config u t).interruption? with
  | some i =>
    rw [join_of_some stopped]
    exact ⟨[], (List.append_nil _).symm, .nil, List.forall_mem_nil _⟩
  | none =>
    let around := Finding.under (.ofSegments xs) (.ofSegments ys)
    obtain ⟨new, sublist, found⟩ := sublist_reports config
      ((run config u t).findings.map around)
      { p with node := if config.coercing then place (run config u t).node else p.node }
    rw [List.map_map] at found
    have apartAround : ((run config u t).findings.map around).Pairwise Finding.Apart :=
      List.pairwise_map.2 (apart.imp fun apart => apart.under _ _)
    refine ⟨new, ?_, apartAround.sublist sublist, fun f mem => ?_⟩
    · rw [join_of_none stopped]
      exact found
    · obtain ⟨g, finds, rfl⟩ := List.mem_map.1 (sublist.subset mem)
      exact within g (rooted_of_run config t finds)

/-! ### Every kind of node -/

theorem reject_on {v : Violation} {keyword : String} {path : List Segment}
    (eq : v.schemaPath = .ofSegments (.key keyword :: path)) :
    Owns (Finding.On [keyword]) (Stage.reject config v) := by
  refine reject fun f told => ⟨keyword, List.mem_cons_self, ?_⟩
  exact Finding.mark_schema_of_finding told _ eq 0

theorem convertNode (types : List TypeName) :
    Owns (Finding.On ["type"]) (convertNode config types) :=
  byNode fun n _ => by
    match conversion : convertTo n (types.map TypeName.name) with
    | .error cause => exact ⟨_, interrupt _, fun _ => convertNode_of_failure conversion⟩
    | .ok (.ok t) => exact ⟨_, replace t, fun _ => convertNode_of_converted conversion⟩
    | .ok (.error r) =>
      exact ⟨_, reject_on (v := .invalidType n.kindText) rfl,
        fun _ => convertNode_of_refused conversion⟩

theorem checkTypes (types : List TypeName) :
    Owns (Finding.On ["type"]) (checkTypes config types) :=
  byNode fun n _ => by
    by_cases typed : types.any n.hasType = true
    · exact ⟨_, skip, fun _ => checkTypes_of_typed typed⟩
    by_cases coercing : config.coercing = true
    · exact ⟨_, convertNode types, fun _ => checkTypes_of_coercing typed coercing⟩
    · exact ⟨_, reject_on (v := .invalidType n.kindText) rfl,
        fun _ => checkTypes_of_plain typed coercing⟩

theorem checkType (s : Members) : Owns (Finding.On ["type"]) (checkType config s) := by
  unfold Stage.checkType
  split
  · exact skip
  · split
    · exact checkTypes _
    · exact malformed _ _

theorem checkConstraint (x : Constraint) :
    Owns (Finding.On [x.keyword]) (checkConstraint config x) :=
  byNode fun n _ => by
    match judged : x.judge n with
    | .error cause => exact ⟨_, interrupt _, fun _ => checkConstraint_of_failure judged⟩
    | .ok none => exact ⟨_, skip, fun _ => checkConstraint_of_none judged⟩
    | .ok (some v) =>
      obtain ⟨-, path, -⟩ := Constraint.eq_of_judge judged
      exact ⟨_, reject_on path, fun _ => checkConstraint_of_some judged⟩

theorem checkConstraints {reading : Constraint.Reading} {keywords : List String}
    (reads : reading.Reads keywords) (distinct : keywords.Nodup) :
    Owns (Finding.On keywords) (checkConstraints config reading) := by
  match read : reading with
  | .error i => exact interrupt i
  | .ok cs =>
    have sublist : (cs.map Constraint.keyword).Sublist keywords := reads cs rfl
    refine loop (.schema 0) Constraint.keyword (distinct.sublist sublist)
      (fun x _ => .checkConstraint config x) fun x mem => (checkConstraint x).mono fun f on => ?_
    obtain ⟨k, among, at₀⟩ := on
    cases List.mem_singleton.1 among
    exact ⟨⟨_, sublist.subset (List.mem_map_of_mem mem), at₀⟩, at₀⟩

end Owns

end Stage

end TreeSchema
