import TreeSchema.Schema.Constraint

/-!
What constraints mean. `Holds` says what a constraint asks of data, and
`Declared` which constraints a schema has by its keywords. Judging a constraint
refuses exactly the data it does not hold of, and the constraints that are read
for a kind of data are those declared ones that can fail on it.
-/

namespace TreeSchema

theorem Members.has_of_get? {s : Members} {key : String} {t : Tree} (found : s.get? key = some t) :
    s.has key = true := by
  rw [← s.isSome_get?, found]
  rfl

/-- The keyword that findings of a code are about; the last code is not given to any. -/
def Code.keyword? : Code → Option String
  | .invalidType => some "type"
  | .enumMismatch => some "enum"
  | .anyOfMissing => some "anyOf"
  | .oneOfMissing => some "oneOf"
  | .oneOfMultiple => some "oneOf"
  | .notPassed => some "not"
  | .numberMultipleOf => some "multipleOf"
  | .numberMinimum => some "minimum"
  | .numberMinimumExclusive => some "minimum"
  | .numberMaximum => some "maximum"
  | .numberMaximumExclusive => some "maximum"
  | .stringLengthShort => some "minLength"
  | .stringLengthLong => some "maxLength"
  | .stringPattern => some "pattern"
  | .objectPropertiesMinimum => some "minProperties"
  | .objectPropertiesMaximum => some "maxProperties"
  | .objectRequired => some "required"
  | .objectAdditionalProperties => some "additionalProperties"
  | .objectDependencyKey => some "dependencies"
  | .objectNoDefault => some "properties"
  | .arrayLengthShort => some "minItems"
  | .arrayLengthLong => some "maxItems"
  | .arrayUnique => some "uniqueItems"
  | .arrayAdditionalItems => some "additionalItems"
  | .arrayIndexType => none

/-- The limit that the message of a violation tells. -/
def Violation.limit? : Violation → Option Tree
  | .notMultipleOf limit => some limit
  | .belowMinimum limit _ => some limit
  | .aboveMaximum limit _ => some limit
  | .stringTooShort limit => some limit
  | .stringTooLong limit => some limit
  | .tooFewProperties limit => some limit
  | .tooManyProperties limit => some limit
  | .arrayTooShort limit => some limit
  | .arrayTooLong limit => some limit
  | _ => none

namespace Constraint

/-- The schema has a keyword for the constraint. -/
inductive Declared (s : Members) : Constraint → Prop where
  | minLength {limit : Number} (found : s.get? "minLength" = some (.number limit)) :
      Declared s (.minLength limit)
  | maxLength {limit : Number} (found : s.get? "maxLength" = some (.number limit)) :
      Declared s (.maxLength limit)
  | pattern {text letters : String} {regex : Pattern.Regex}
      (found : s.get? "pattern" = some (.string text)) (flags : patternLetters s = .ok letters)
      (compiles : Pattern.compile text letters = .ok (.ok regex)) : Declared s (.pattern text regex)
  | multipleOf {divisor : Number} (found : s.get? "multipleOf" = some (.number divisor)) :
      Declared s (.multipleOf divisor)
  | minimum {limit : Number} (found : s.get? "minimum" = some (.number limit)) :
      Declared s (.minimum limit (((s.get? "exclusiveMinimum").map Tree.isTruthy).getD false))
  | maximum {limit : Number} (found : s.get? "maximum" = some (.number limit)) :
      Declared s (.maximum limit (((s.get? "exclusiveMaximum").map Tree.isTruthy).getD false))
  | minItems {limit : Number} (found : s.get? "minItems" = some (.number limit)) :
      Declared s (.minItems limit)
  | maxItems {limit : Number} (found : s.get? "maxItems" = some (.number limit)) :
      Declared s (.maxItems limit)
  | uniqueItems (found : s.has "uniqueItems" = true) : Declared s .uniqueItems
  | minProperties {limit : Number} (found : s.get? "minProperties" = some (.number limit)) :
      Declared s (.minProperties limit)
  | maxProperties {limit : Number} (found : s.get? "maxProperties" = some (.number limit)) :
      Declared s (.maxProperties limit)

/-- What a constraint asks of data; data of another kind it leaves alone. -/
def Holds : Constraint → Tree → Prop
  | .among choices, t => ∃ choice ∈ choices, t.equal choice = true
  | .minLength limit, .string s => (lengthOf s.length).lt limit = false
  | .maxLength limit, .string s => limit.lt (lengthOf s.length) = false
  | .pattern _ regex, .string s => regex.finds s = true
  | .multipleOf divisor, .number n => n.isMultiple divisor ≠ .ok false
  | .minimum limit exclusive, .number n =>
    n.lt limit = false ∧ (exclusive = true → n.equal limit = false)
  | .maximum limit exclusive, .number n =>
    limit.lt n = false ∧ (exclusive = true → n.equal limit = false)
  | .minItems limit, .array items => (lengthOf items.length).lt limit = false
  | .maxItems limit, .array items => limit.lt (lengthOf items.length) = false
  | .uniqueItems, .array items => items.Pairwise fun t u => t.equal u = false
  | .minProperties limit, .object members => (lengthOf members.length).lt limit = false
  | .maxProperties limit, .object members => limit.lt (lengthOf members.length) = false
  | _, _ => True

/-- The keyword that a constraint is read from. -/
def keyword : Constraint → String
  | .among _ => "enum"
  | .minLength _ => "minLength"
  | .maxLength _ => "maxLength"
  | .pattern .. => "pattern"
  | .multipleOf _ => "multipleOf"
  | .minimum .. => "minimum"
  | .maximum .. => "maximum"
  | .minItems _ => "minItems"
  | .maxItems _ => "maxItems"
  | .uniqueItems => "uniqueItems"
  | .minProperties _ => "minProperties"
  | .maxProperties _ => "maxProperties"

/-- The limit that a constraint sets. -/
def limit? : Constraint → Option Tree
  | .minLength limit => some (.number limit)
  | .maxLength limit => some (.number limit)
  | .multipleOf divisor => some (.number divisor)
  | .minimum limit _ => some (.number limit)
  | .maximum limit _ => some (.number limit)
  | .minItems limit => some (.number limit)
  | .maxItems limit => some (.number limit)
  | .minProperties limit => some (.number limit)
  | .maxProperties limit => some (.number limit)
  | _ => none

theorem Declared.has {s : Members} {x : Constraint} (declared : Declared s x) :
    s.has x.keyword = true := by
  cases declared with
  | uniqueItems found => exact found
  | _ => exact Members.has_of_get? ‹_›

theorem Declared.get? {s : Members} {x : Constraint} (declared : Declared s x) {limit : Tree}
    (sets : x.limit? = some limit) : s.get? x.keyword = some limit := by
  cases declared with
  | pattern | uniqueItems => cases sets
  | _ found =>
    cases sets
    exact found

/-! ### Judging -/

/-- A constraint refuses data by the keyword and with the limit it was read from. -/
theorem eq_of_judge {x : Constraint} {t : Tree} {v : Violation}
    (judged : x.judge t = .ok (some v)) :
    v.dataPath = .here ∧ v.schemaPath = .key x.keyword ∧ v.code.keyword? = some x.keyword ∧
      v.limit? = x.limit? := by
  cases x <;> cases t <;> simp [judge, refuseIf] at judged
  case uniqueItems.array items =>
    obtain ⟨first, second, -, rfl⟩ := judged
    exact ⟨rfl, rfl, rfl, rfl⟩
  case multipleOf.number divisor n =>
    cases decided : n.isMultiple divisor with
    | error cause =>
      rw [decided] at judged
      cases judged
    | ok b =>
      rw [decided] at judged
      cases b <;> cases judged
      exact ⟨rfl, rfl, rfl, rfl⟩
  case minimum.number limit exclusive n | maximum.number limit exclusive n =>
    obtain ⟨-, rfl⟩ := judged
    cases exclusive <;> exact ⟨rfl, rfl, rfl, rfl⟩
  all_goals
    obtain ⟨-, rfl⟩ := judged
    exact ⟨rfl, rfl, rfl, rfl⟩

theorem indexOfEqual?_eq_none_iff {t : Tree} {index : Nat} {items : List Tree} :
    indexOfEqual? t index items = none ↔ ∀ u ∈ items, t.equal u = false := by
  induction items generalizing index with
  | nil => simp [indexOfEqual?]
  | cons u rest ih =>
    cases same : t.equal u <;> simp [indexOfEqual?, same, ih]

theorem firstDuplicate?_eq_none_iff {index : Nat} {items : List Tree} :
    firstDuplicate? index items = none ↔ items.Pairwise fun t u => t.equal u = false := by
  induction items generalizing index with
  | nil => simp [firstDuplicate?]
  | cons t rest ih =>
    have others := @ih (index + 1)
    have first := @indexOfEqual?_eq_none_iff t (index + 1) rest
    rw [firstDuplicate?, List.pairwise_cons, ← others, ← first]
    cases indexOfEqual? t (index + 1) rest <;> simp

theorem refuseIf_eq_ok {refused : Bool} {v : Violation} {found : Option Violation}
    (judged : refuseIf refused v = .ok found) : found = none ↔ refused = false := by
  cases refused <;> cases judged <;> simp

/-- A constraint that comes to a judgement refuses exactly what it does not hold of. -/
theorem holds_iff_of_judge {c : Constraint} {t : Tree} {found : Option Violation}
    (judged : c.judge t = .ok found) : found = none ↔ c.Holds t := by
  cases c <;> cases t <;> simp only [judge] at judged <;> simp only [Holds]
  case uniqueItems.array items =>
    cases judged
    rw [Option.map_eq_none_iff, firstDuplicate?_eq_none_iff]
  case multipleOf.number divisor n =>
    cases decided : n.isMultiple divisor with
    | error cause =>
      rw [decided] at judged
      cases judged
    | ok whole =>
      rw [decided] at judged
      rw [refuseIf_eq_ok judged]
      simp
  all_goals
    first
    | (cases judged; exact iff_of_true rfl trivial)
    | simp [refuseIf_eq_ok judged]

/-! ### Reading -/

section

variable {s : Members} {P : Constraint → Prop} {cs : List Constraint}

theorem readAll_cons {r : Reading} {rest : List Reading} :
    readAll (r :: rest) = .ok cs ↔ ∃ xs ys, r = .ok xs ∧ readAll rest = .ok ys ∧ cs = xs ++ ys := by
  cases r with
  | error i => simp [readAll, bind, Except.bind]
  | ok xs =>
    cases read : readAll rest with
    | error i => simp [readAll, read, bind, Except.bind]
    | ok ys => simp [readAll, read, bind, Except.bind, pure, Except.pure, eq_comm]

theorem forall_countOf {keyword : String} {make : Number → Constraint}
    (read : countOf s keyword make = .ok cs) :
    (∀ c ∈ cs, P c) ↔ ∀ limit, s.get? keyword = some (.number limit) → P (make limit) := by
  unfold countOf at read
  split at read
  · next absent => cases read; simp [absent]
  · next n found =>
    split at read
    · cases read
    · cases read; simp [found]
  · cases read

theorem forall_limitOf {keyword exclusive : String} {make : Number → Bool → Constraint}
    (read : limitOf s keyword exclusive make = .ok cs) :
    (∀ c ∈ cs, P c) ↔ ∀ limit, s.get? keyword = some (.number limit) →
      P (make limit (((s.get? exclusive).map Tree.isTruthy).getD false)) := by
  unfold limitOf at read
  split at read
  · next absent => cases read; simp [absent]
  · next n found => cases read; simp [found]
  · cases read

theorem forall_divisorOf (read : divisorOf s = .ok cs) :
    (∀ c ∈ cs, P c) ↔ ∀ divisor, s.get? "multipleOf" = some (.number divisor) →
      P (.multipleOf divisor) := by
  unfold divisorOf at read
  split at read
  · next absent => cases read; simp [absent]
  · next n found =>
    split at read
    · cases read
    · cases read; simp [found]
  · cases read

theorem forall_patternOf (read : patternOf s = .ok cs) :
    (∀ c ∈ cs, P c) ↔ ∀ text letters regex, s.get? "pattern" = some (.string text) →
      patternLetters s = .ok letters → Pattern.compile text letters = .ok (.ok regex) →
      P (.pattern text regex) := by
  unfold patternOf at read
  split at read
  · next absent => cases read; simp [absent]
  · next text found =>
    cases flags : patternLetters s with
    | error i => rw [flags] at read; cases read
    | ok letters =>
      rw [flags] at read
      match compiled : Pattern.compile text letters with
      | .error cause => simp [compiled, bind, Except.bind, Interruption.ofFailure] at read
      | .ok (.error r) =>
        simp [compiled, bind, Except.bind, Interruption.ofFailure, Interruption.malformed] at read
      | .ok (.ok regex) =>
        simp [compiled, bind, Except.bind, Interruption.ofFailure, pure, Except.pure] at read
        subst read
        rw [List.forall_mem_singleton]
        refine ⟨fun holds text' letters' regex' found' flags' compiled' => ?_, fun all => ?_⟩
        · cases found.symm.trans found'
          cases flags'
          cases compiled.symm.trans compiled'
          exact holds
        · exact all text letters regex found rfl compiled
  · cases read

end

variable {s : Members} {cs : List Constraint}

theorem ofEnum_holds_iff (read : ofEnum s = .ok cs) (t : Tree) :
    (∀ c ∈ cs, c.Holds t) ↔ ∀ choices, s.get? "enum" = some (.array choices) →
      ∃ choice ∈ choices, t.equal choice = true := by
  unfold ofEnum at read
  split at read
  · next absent => cases read; simp [absent]
  · next choices found => cases read; simp [found, Holds]
  · cases read

theorem forall_ofStrings {P : Constraint → Prop} (read : ofStrings s = .ok cs) :
    (∀ c ∈ cs, P c) ↔
      (∀ limit, s.get? "minLength" = some (.number limit) → P (.minLength limit)) ∧
      (∀ limit, s.get? "maxLength" = some (.number limit) → P (.maxLength limit)) ∧
      ∀ text letters regex, s.get? "pattern" = some (.string text) →
        patternLetters s = .ok letters → Pattern.compile text letters = .ok (.ok regex) →
        P (.pattern text regex) := by
  simp only [ofStrings, readAll_cons] at read
  obtain ⟨_, _, minLength, ⟨_, _, maxLength, ⟨_, _, pattern, last, rfl⟩, rfl⟩, rfl⟩ := read
  cases last
  rw [List.append_nil, List.forall_mem_append, forall_countOf minLength, List.forall_mem_append,
    forall_countOf maxLength, forall_patternOf pattern]

theorem declared_of_ofStrings (read : ofStrings s = .ok cs) : ∀ c ∈ cs, Declared s c :=
  (forall_ofStrings read).2 ⟨fun _ found => .minLength found, fun _ found => .maxLength found,
    fun _ _ _ found flags compiles => .pattern found flags compiles⟩

theorem ofStrings_holds_iff (read : ofStrings s = .ok cs) (text : String) :
    (∀ c ∈ cs, c.Holds (.string text)) ↔ ∀ c, Declared s c → c.Holds (.string text) := by
  refine ⟨fun holds => ?_, fun all c mem => all c (declared_of_ofStrings read c mem)⟩
  obtain ⟨low, high, finds⟩ := (forall_ofStrings read).1 holds
  intro c declared
  cases declared with
  | minLength found => exact low _ found
  | maxLength found => exact high _ found
  | pattern found flags compiles => exact finds _ _ _ found flags compiles
  | _ => trivial

theorem forall_ofNumbers {P : Constraint → Prop} (read : ofNumbers s = .ok cs) :
    (∀ c ∈ cs, P c) ↔
      (∀ divisor, s.get? "multipleOf" = some (.number divisor) → P (.multipleOf divisor)) ∧
      (∀ limit, s.get? "minimum" = some (.number limit) →
        P (.minimum limit (((s.get? "exclusiveMinimum").map Tree.isTruthy).getD false))) ∧
      ∀ limit, s.get? "maximum" = some (.number limit) →
        P (.maximum limit (((s.get? "exclusiveMaximum").map Tree.isTruthy).getD false)) := by
  simp only [ofNumbers, readAll_cons] at read
  obtain ⟨_, _, multipleOf, ⟨_, _, minimum, ⟨_, _, maximum, last, rfl⟩, rfl⟩, rfl⟩ := read
  cases last
  rw [List.append_nil, List.forall_mem_append, forall_divisorOf multipleOf, List.forall_mem_append,
    forall_limitOf minimum, forall_limitOf maximum]

theorem declared_of_ofNumbers (read : ofNumbers s = .ok cs) : ∀ c ∈ cs, Declared s c :=
  (forall_ofNumbers read).2 ⟨fun _ found => .multipleOf found, fun _ found => .minimum found,
    fun _ found => .maximum found⟩

theorem ofNumbers_holds_iff (read : ofNumbers s = .ok cs) (n : Number) :
    (∀ c ∈ cs, c.Holds (.number n)) ↔ ∀ c, Declared s c → c.Holds (.number n) := by
  refine ⟨fun holds => ?_, fun all c mem => all c (declared_of_ofNumbers read c mem)⟩
  obtain ⟨whole, low, high⟩ := (forall_ofNumbers read).1 holds
  intro c declared
  cases declared with
  | multipleOf found => exact whole _ found
  | minimum found => exact low _ found
  | maximum found => exact high _ found
  | _ => trivial

theorem forall_ofArrays {P : Constraint → Prop} (read : ofArrays s = .ok cs) :
    (∀ c ∈ cs, P c) ↔
      (∀ limit, s.get? "minItems" = some (.number limit) → P (.minItems limit)) ∧
      (∀ limit, s.get? "maxItems" = some (.number limit) → P (.maxItems limit)) ∧
      (s.has "uniqueItems" = true → P .uniqueItems) := by
  simp only [ofArrays, readAll_cons] at read
  obtain ⟨_, _, minItems, ⟨_, _, maxItems, ⟨_, _, unique, last, rfl⟩, rfl⟩, rfl⟩ := read
  cases last
  cases unique
  rw [List.append_nil, List.forall_mem_append, forall_countOf minItems, List.forall_mem_append,
    forall_countOf maxItems]
  refine and_congr_right' (and_congr_right' ?_)
  split
  · next found => simp [found]
  · next absent => simp [absent]

theorem declared_of_ofArrays (read : ofArrays s = .ok cs) : ∀ c ∈ cs, Declared s c :=
  (forall_ofArrays read).2 ⟨fun _ found => .minItems found, fun _ found => .maxItems found,
    .uniqueItems⟩

theorem ofArrays_holds_iff (read : ofArrays s = .ok cs) (items : List Tree) :
    (∀ c ∈ cs, c.Holds (.array items)) ↔ ∀ c, Declared s c → c.Holds (.array items) := by
  refine ⟨fun holds => ?_, fun all c mem => all c (declared_of_ofArrays read c mem)⟩
  obtain ⟨low, high, distinct⟩ := (forall_ofArrays read).1 holds
  intro c declared
  cases declared with
  | minItems found => exact low _ found
  | maxItems found => exact high _ found
  | uniqueItems found => exact distinct found
  | _ => trivial

theorem forall_ofObjects {P : Constraint → Prop} (read : ofObjects s = .ok cs) :
    (∀ c ∈ cs, P c) ↔
      (∀ limit, s.get? "minProperties" = some (.number limit) → P (.minProperties limit)) ∧
      ∀ limit, s.get? "maxProperties" = some (.number limit) → P (.maxProperties limit) := by
  simp only [ofObjects, readAll_cons] at read
  obtain ⟨_, _, minProperties, ⟨_, _, maxProperties, last, rfl⟩, rfl⟩ := read
  cases last
  rw [List.append_nil, List.forall_mem_append, forall_countOf minProperties,
    forall_countOf maxProperties]

theorem declared_of_ofObjects (read : ofObjects s = .ok cs) : ∀ c ∈ cs, Declared s c :=
  (forall_ofObjects read).2 ⟨fun _ found => .minProperties found,
    fun _ found => .maxProperties found⟩

theorem ofObjects_holds_iff (read : ofObjects s = .ok cs) (members : Members) :
    (∀ c ∈ cs, c.Holds (.object members)) ↔ ∀ c, Declared s c → c.Holds (.object members) := by
  refine ⟨fun holds => ?_, fun all c mem => all c (declared_of_ofObjects read c mem)⟩
  obtain ⟨low, high⟩ := (forall_ofObjects read).1 holds
  intro c declared
  cases declared with
  | minProperties found => exact low _ found
  | maxProperties found => exact high _ found
  | _ => trivial

end Constraint

end TreeSchema
