import TreeSchema.Proofs.Legibility.Basic

/-!
What the stages for every kind of node attest: the declared types, and the keywords
of constraints. Constraints of one kind are all read before any is judged, so that
one that the data breaks does not hide another that cannot be read.
-/

namespace TreeSchema

variable {options : Options} {s : Members} {d : Tree} {blame : Fault → Prop}

section

variable {name : String} {accepts : Tree → Bool} {v : Tree}

theorem Members.fits_of_none (absent : s.get? name = none) : s.Fits ⟨name, accepts⟩ :=
  fun _ found => nomatch absent.symm.trans found

theorem Members.fits_of_some (found : s.get? name = some v) (accepted : accepts v = true) :
    s.Fits ⟨name, accepts⟩ := fun v' found' => by
  cases found.symm.trans found'
  exact accepted

theorem Stems.keyword {cause : Malformed} (concerns : ⟨name, accepts⟩ ∈ s.shapes d.kind)
    (found : s.get? name = some v) (misfit : accepts v = false) :
    Stems options s d ⟨.key name, cause⟩ :=
  .own (.keyword concerns found misfit)

theorem concerns_of_kind {kind : Kind} {x : Shape} (same : d.kind = kind)
    (mem : x ∈ s.shapesOfKind kind := by simp [Members.shapesOfKind]) : x ∈ s.shapes d.kind :=
  List.mem_append_left _ (List.mem_append_right _ (same ▸ mem))

end

theorem Stage.attests_part {n u t : Tree} {path : Pointer} (counted : n = d.counted options s)
    (consults : Consults options s n u t path) (place : Tree → Tree) (data : Pointer) :
    Attests (Stems options s d) (Ended options u t)
      (join (.collecting options false) (run (.collecting options false) u t) place data path)
      n n :=
  .join fun _ stops => .part (counted ▸ consults) stops

/-! ### Types -/

theorem exists_typeNames_iff (names : List String) :
    (∃ types, typeNames names = .ok types) ↔
      (names.all fun name => (TypeName.ofName? name).isSome) = true := by
  induction names with
  | nil => simp [typeNames]
  | cons name rest ih =>
    cases read : TypeName.ofName? name with
    | none => simp [typeNames, read]
    | some type =>
      rw [List.all_cons, read, Option.isSome_some, Bool.true_and, ← ih]
      cases more : typeNames rest <;> simp [typeNames, read, more, Except.map]

theorem exists_declaredTypes_iff {v : Tree} (found : s.get? "type" = some v) :
    (∃ types, declaredTypes s = .ok types) ↔ v.isTypes = true := by
  unfold declaredTypes
  rw [found]
  cases v with
  | string name => simpa [Tree.isTypes] using exists_typeNames_iff [name]
  | array items =>
    cases read : Tree.strings? items with
    | none => simp [Tree.isTypes, read]
    | some names => simpa [Tree.isTypes, read] using exists_typeNames_iff names
  | _ => simp [Tree.isTypes]

namespace Stage

theorem attests_checkTypes {P : Prop} {n : Tree} (types : List TypeName) (holds : P) :
    Attests blame P (checkTypes (.collecting options false) types) n n := by
  by_cases typed : types.any n.hasType = true
  · exact (Attests.skip holds).at_node fun _ => checkTypes_of_typed typed
  · exact .rejects (v := .invalidType n.kindText) holds fun _ =>
      checkTypes_of_plain typed Bool.false_ne_true

theorem attests_checkType {n : Tree} :
    Attests (Stems options s d) (s.Fits ⟨"type", Tree.isTypes⟩)
      (checkType (.collecting options false) s) n n := by
  unfold checkType
  cases found : s.get? "type" with
  | none =>
    have absent : s.has "type" = false := by rw [← Members.isSome_get?, found, Option.isSome_none]
    rw [absent]
    exact .skip (Members.fits_of_none found)
  | some v =>
    rw [Members.has_of_get? found]
    have shape := exists_declaredTypes_iff found
    cases declared : declaredTypes s with
    | error cause =>
      have misfit : v.isTypes = false := by
        rw [← Bool.not_eq_true, ← shape, declared]
        simp
      exact .malformed (.keyword List.mem_cons_self found misfit)
    | ok types =>
      have fits : s.Fits ⟨"type", Tree.isTypes⟩ :=
        Members.fits_of_some found (shape.1 ⟨types, declared⟩)
      exact attests_checkTypes types fits

end Stage

/-! ### Constraints -/

namespace Constraint

theorem attests_keyword {keyword : String} {accepts : Tree → Bool} {reading : Reading}
    (concerns : ⟨keyword, accepts⟩ ∈ s.shapes d.kind)
    (absent : s.get? keyword = none → reading = .ok [])
    (present : ∀ v, s.get? keyword = some v → (accepts v = true ∧ ∃ c, reading = .ok [c]) ∨
      (accepts v = false ∧ ∃ cause, reading = Interruption.malformed (.key keyword) cause)) :
    Attests (Stems options s d) (s.Fits ⟨keyword, accepts⟩) reading := by
  cases found : s.get? keyword with
  | none =>
    rw [absent found]
    exact .ok (Members.fits_of_none found)
  | some v =>
    obtain ⟨accepted, c, rfl⟩ | ⟨misfit, cause, rfl⟩ := present v found
    · exact .ok (Members.fits_of_some found accepted)
    · exact .fault (.keyword concerns found misfit)

theorem attests_ofEnum : Attests (Stems options s d) (s.Fits ⟨"enum", Tree.isArray⟩) (ofEnum s) :=
  attests_keyword (List.mem_cons_of_mem _ List.mem_cons_self)
    (fun absent => by simp [ofEnum, absent])
    fun v found => by cases v <;> simp [ofEnum, found, Tree.isArray]

theorem attests_countOf {kind : Kind} (same : d.kind = kind) (keyword : String)
    (make : Number → Constraint)
    (mem : ⟨keyword, Tree.isCount⟩ ∈ s.shapesOfKind kind := by simp [Members.shapesOfKind]) :
    Attests (Stems options s d) (s.Fits ⟨keyword, Tree.isCount⟩) (countOf s keyword make) :=
  attests_keyword (concerns_of_kind same mem) (fun absent => by simp [countOf, absent])
    fun v found => by
      cases v with
      | number n =>
        cases negative : n.isNegative <;>
          simp [countOf, found, Tree.isCount, negative, Interruption.malformed]
      | _ => simp [countOf, found, Tree.isCount]

theorem attests_limitOf {kind : Kind} (same : d.kind = kind) (keyword exclusive : String)
    (make : Number → Bool → Constraint)
    (mem : ⟨keyword, Tree.isNumber⟩ ∈ s.shapesOfKind kind := by simp [Members.shapesOfKind]) :
    Attests (Stems options s d) (s.Fits ⟨keyword, Tree.isNumber⟩)
      (limitOf s keyword exclusive make) :=
  attests_keyword (concerns_of_kind same mem) (fun absent => by simp [limitOf, absent])
    fun v found => by cases v <;> simp [limitOf, found, Tree.isNumber]

theorem attests_divisorOf (concerns : ⟨"multipleOf", Tree.isDivisor⟩ ∈ s.shapes d.kind) :
    Attests (Stems options s d) (s.Fits ⟨"multipleOf", Tree.isDivisor⟩) (divisorOf s) :=
  attests_keyword concerns (fun absent => by simp [divisorOf, absent]) fun v found => by
    cases v with
    | number n =>
      cases negative : n.isNegative <;> cases zero : n.isZero <;>
        simp [divisorOf, found, Tree.isDivisor, negative, zero]
    | _ => simp [divisorOf, found, Tree.isDivisor]

/-- The flag letters are those of a value in shape. -/
theorem attests_patternLetters (concerns : ⟨"patternFlags", Tree.isLetters⟩ ∈ s.shapes d.kind) :
    Attests (Stems options s d) (s.Fits ⟨"patternFlags", Tree.isLetters⟩) (patternLetters s) ∧
      ∀ letters, patternLetters s = .ok letters → letters = s.letters := by
  -- A value out of shape is shown in the message, which may fail.
  have refused {t : Tree} (found : s.get? "patternFlags" = some t) (misfit : t.isLetters = false)
      (refuses : patternLetters s = do
        let shown ← Interruption.ofFailure t.shown
        Interruption.malformed (.key "patternFlags") (.patternFlags shown)) :
      Attests (Stems options s d) (s.Fits ⟨"patternFlags", Tree.isLetters⟩) (patternLetters s) ∧
        ∀ letters, patternLetters s = .ok letters → letters = s.letters := by
    rw [refuses]
    cases t.shown with
    | error cause => exact ⟨.failure cause, nofun⟩
    | ok shown => exact ⟨.fault (.keyword concerns found misfit), nofun⟩
  match found : s.get? "patternFlags" with
  | none =>
    simp only [patternLetters, Members.letters, found]
    exact ⟨.ok (Members.fits_of_none found), fun _ read => by cases read; rfl⟩
  | some (.string letters) =>
    cases known : letters.toList.all fun c => (Pattern.Flag.ofLetter? c).isSome with
    | true =>
      simp only [patternLetters, Members.letters, found, known, if_true]
      exact ⟨.ok (Members.fits_of_some found known), fun _ read => by cases read; rfl⟩
    | false => exact refused found known (by simp [patternLetters, found, known])
  | some .null | some (.bool _) | some (.number _) | some (.array _) | some (.object _) =>
    exact refused found rfl (by simp only [patternLetters, found])

/-- A pattern is compiled with its flags, so both have their shapes. -/
theorem attests_patternOf
    (concerns : ⟨"pattern", Tree.isPattern s.letters⟩ ∈ s.shapes d.kind)
    (flags : s.has "pattern" = true → ⟨"patternFlags", Tree.isLetters⟩ ∈ s.shapes d.kind) :
    Attests (Stems options s d) (s.Fits ⟨"pattern", Tree.isPattern s.letters⟩ ∧
      (s.has "pattern" = true → s.Fits ⟨"patternFlags", Tree.isLetters⟩)) (patternOf s) := by
  unfold patternOf
  split
  · next absent =>
    refine .ok ⟨Members.fits_of_none absent, fun present => ?_⟩
    rw [← Members.isSome_get?, absent] at present
    cases present
  · next text found =>
    obtain ⟨read, same⟩ : Attests (Stems options s d) _ _ ∧ _ :=
      attests_patternLetters (flags (Members.has_of_get? found))
    refine (read.bind (Q := s.Fits ⟨"pattern", Tree.isPattern s.letters⟩) fun letters eq => ?_).mono
      fun fits => ⟨fits.2, fun _ => fits.1⟩
    cases same letters eq
    match compiled : Pattern.compile text s.letters with
    | .error cause => exact .failure cause
    | .ok (.error r) =>
      exact .fault (.keyword concerns found (by simp [Tree.isPattern, Tree.compiles, compiled]))
    | .ok (.ok regex) =>
      exact .ok (Members.fits_of_some found (by simp [Tree.isPattern, Tree.compiles, compiled]))
  · next v other found =>
    refine .fault (.keyword concerns found ?_)
    cases v with
    | string text => exact absurd rfl (other text)
    | _ => rfl

theorem attests_readAll_nil : Attests blame True (readAll []) :=
  .ok trivial

theorem attests_ofObjects (kind : d.kind = .object) :
    Attests (Stems options s d)
      (s.Fits ⟨"minProperties", Tree.isCount⟩ ∧ s.Fits ⟨"maxProperties", Tree.isCount⟩)
      (ofObjects s) :=
  ((attests_countOf kind "minProperties" _).append
    ((attests_countOf kind "maxProperties" _).append attests_readAll_nil)).mono
    fun fits => ⟨fits.1, fits.2.1⟩

theorem attests_ofArrays (kind : d.kind = .array) :
    Attests (Stems options s d)
      (s.Fits ⟨"minItems", Tree.isCount⟩ ∧ s.Fits ⟨"maxItems", Tree.isCount⟩) (ofArrays s) := by
  have unique : Attests (Stems options s d) True
      (.ok (if s.has "uniqueItems" then [.uniqueItems] else []) : Reading) := .ok trivial
  exact ((attests_countOf kind "minItems" _).append
    ((attests_countOf kind "maxItems" _).append (unique.append attests_readAll_nil))).mono
    fun fits => ⟨fits.1, fits.2.1⟩

theorem attests_ofStrings (kind : d.kind = .string) :
    Attests (Stems options s d) (∀ x ∈ s.shapesOfKind .string, s.Fits x) (ofStrings s) := by
  have pattern : Attests (Stems options s d) (s.Fits ⟨"pattern", Tree.isPattern s.letters⟩ ∧
      (s.has "pattern" = true → s.Fits ⟨"patternFlags", Tree.isLetters⟩)) (patternOf s) :=
    attests_patternOf (concerns_of_kind kind) fun present =>
      concerns_of_kind kind (by simp [Members.shapesOfKind, present])
  refine ((attests_countOf kind "minLength" _).append
    ((attests_countOf kind "maxLength" _).append (pattern.append attests_readAll_nil))).mono ?_
  rintro ⟨min, max, ⟨text, flags⟩, -⟩
  simp only [Members.shapesOfKind, List.forall_mem_append, List.forall_mem_cons]
  refine ⟨⟨min, max, text, List.forall_mem_nil _⟩, ?_⟩
  split
  · next present => exact List.forall_mem_singleton.2 (flags present)
  · exact List.forall_mem_nil _

theorem attests_ofNumbers (kind : d.kind = .number) :
    Attests (Stems options s d) (∀ x ∈ s.shapesOfKind .number, s.Fits x) (ofNumbers s) := by
  have divisor : Attests (Stems options s d) (s.Fits ⟨"multipleOf", Tree.isDivisor⟩)
      (divisorOf s) :=
    attests_divisorOf (concerns_of_kind kind)
  refine (divisor.append ((attests_limitOf kind "minimum" _ _).append
    ((attests_limitOf kind "maximum" _ _).append attests_readAll_nil))).mono ?_
  rintro ⟨divides, min, max, -⟩
  simp only [Members.shapesOfKind, List.forall_mem_cons]
  exact ⟨divides, min, max, List.forall_mem_nil _⟩

end Constraint

namespace Stage

theorem attests_checkConstraint {n : Tree} (c : Constraint) :
    Attests blame True (checkConstraint (.collecting options false) c) n n := by
  match judged : c.judge n with
  | .error cause => exact (Attests.failure cause).at_node fun _ => checkConstraint_of_failure judged
  | .ok none => exact (Attests.skip trivial).at_node fun _ => checkConstraint_of_none judged
  | .ok (some v) => exact .rejects trivial fun _ => checkConstraint_of_some judged

theorem attests_checkConstraints {n : Tree} {P : Prop} {reading : Constraint.Reading}
    (read : TreeSchema.Attests blame P reading) :
    Attests blame P (checkConstraints (.collecting options false) reading) n n := by
  have judged (cs : List Constraint) : Attests blame True
      (sequence (cs.map (checkConstraint (.collecting options false)))) n n :=
    (Attests.map fun c _ => attests_checkConstraint c).mono fun _ => trivial
  exact (Attests.reading read fun cs _ => judged cs).mono And.left

theorem attests_checkString :
    Attests (Stems options s d) (d.kind = .string → ∀ x ∈ s.shapesOfKind .string, s.Fits x)
      (checkString (.collecting options false) s) (d.counted options s) (d.counted options s) := by
  cases d with
  | string text =>
    exact ((attests_checkConstraints (Constraint.attests_ofStrings rfl)).mono
      fun fits _ => fits).at_node fun _ => rfl
  | _ => exact (Attests.skip nofun).at_node fun _ => rfl

theorem attests_checkNumber :
    Attests (Stems options s d) (d.kind = .number → ∀ x ∈ s.shapesOfKind .number, s.Fits x)
      (checkNumber (.collecting options false) s) (d.counted options s) (d.counted options s) := by
  cases d with
  | number value =>
    exact ((attests_checkConstraints (Constraint.attests_ofNumbers rfl)).mono
      fun fits _ => fits).at_node fun _ => rfl
  | _ => exact (Attests.skip nofun).at_node fun _ => rfl

end Stage

end TreeSchema
