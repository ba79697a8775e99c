import TreeSchema.Number.Double

/-!
The numbers of a data tree: integers of any size and doubles. The two kinds
are told apart as values and compared by the exact number they stand for; a
double that is not a number compares with nothing, itself included.
-/

namespace TreeSchema

inductive Number where
  | int (n : Int)
  | double (x : Double)
  deriving DecidableEq

/-- A point of the real line with its two ends. -/
inductive Extended where
  | bottom
  | value (q : Rat)
  | top

def Extended.compare : Extended → Extended → Ordering
  | .value q, .value r => if q < r then .lt else if q = r then .eq else .gt
  | .bottom, .bottom => .eq
  | .top, .top => .eq
  | .bottom, _ => .lt
  | _, .bottom => .gt
  | .top, _ => .gt
  | _, .top => .lt

theorem Extended.compare_eq_iff {e f : Extended} : e.compare f = .eq ↔ e = f := by
  match e, f with
  | .value q, .value r =>
    rw [compare, value.injEq]
    by_cases below : q < r
    · rw [if_pos below]
      exact iff_of_false nofun fun same => Rat.lt_irrefl (same ▸ below)
    · rw [if_neg below]
      by_cases same : q = r
      · exact iff_of_true (if_pos same) same
      · exact iff_of_false (if_neg same ▸ nofun) same
  | .bottom, .bottom | .top, .top => exact iff_of_true rfl rfl
  | .value _, .bottom | .value _, .top | .bottom, .value _ | .bottom, .top | .top, .value _
  | .top, .bottom => exact iff_of_false nofun nofun

namespace Number

/-- The exact value of a finite number. -/
def toRat? : Number → Option Rat
  | .int n => some n
  | .double x => x.toRat?

def extended? : Number → Option Extended
  | .double .nan => none
  | .double (.infinite true) => some .bottom
  | .double (.infinite false) => some .top
  | x => x.toRat?.map .value

/-- The order of two numbers by exact value. -/
def compare? (x y : Number) : Option Ordering := do
  return (← x.extended?).compare (← y.extended?)

def lt (x y : Number) : Bool :=
  x.compare? y = some .lt

/-- Equality by exact value. -/
def equal (x y : Number) : Bool :=
  x.compare? y = some .eq

def isZero (x : Number) : Bool :=
  x.equal (.int 0)

def isNegative (x : Number) : Bool :=
  x.lt (.int 0)

/-- Whether the number stands for an integer. -/
def isIntegral : Number → Bool
  | .int _ => true
  | .double x => x.isWhole

/-- The integer part of a finite number. -/
def toInt : Number → Int
  | .int n => n
  | .double x => x.toInt

def toDouble : Number → Double
  | .int n => .ofInt n
  | .double x => x

variable {x y z : Number}

/-- Equal numbers stand at the same point of the line. -/
theorem equal_iff : x.equal y = true ↔ ∃ e, x.extended? = some e ∧ y.extended? = some e := by
  unfold equal compare?
  cases x.extended? with
  | none => simp
  | some e =>
    cases y.extended? with
    | none => simp
    | some f => simp [Extended.compare_eq_iff, @eq_comm _ e f]

theorem extended?_eq_value_iff {q : Rat} : x.extended? = some (.value q) ↔ x.toRat? = some q := by
  cases x with
  | int n => simp [extended?, toRat?]
  | double x =>
    cases x with
    | nan => simp [extended?, toRat?, Double.toRat?, Double.fraction?]
    | infinite negative =>
      cases negative <;> simp [extended?, toRat?, Double.toRat?, Double.fraction?]
    | finite => simp [extended?]

theorem equal_of_toRat? {q : Rat} (value : x.toRat? = some q) (value' : y.toRat? = some q) :
    x.equal y = true :=
  equal_iff.2 ⟨_, extended?_eq_value_iff.2 value, extended?_eq_value_iff.2 value'⟩

theorem isZero_iff : x.isZero = true ↔ x.toRat? = some 0 := by
  have zero : (int 0).extended? = some (.value 0) := rfl
  rw [isZero, equal_iff, zero, ← extended?_eq_value_iff]
  simp

theorem extended?_eq_of_equal (h : x.equal y = true) : x.extended? = y.extended? := by
  obtain ⟨e, left, right⟩ := equal_iff.1 h
  rw [left, right]

theorem equal_symm (h : x.equal y = true) : y.equal x = true := by
  obtain ⟨e, left, right⟩ := equal_iff.1 h
  exact equal_iff.2 ⟨e, right, left⟩

theorem equal_trans (h : x.equal y = true) (h' : y.equal z = true) : x.equal z = true := by
  obtain ⟨e, left, right⟩ := equal_iff.1 h
  exact equal_iff.2 ⟨e, left, (extended?_eq_of_equal h').symm.trans right⟩

/-- Equal numbers compare alike with every number. -/
theorem compare?_eq_of_equal (h : x.equal y = true) (z : Number) :
    x.compare? z = y.compare? z ∧ z.compare? x = z.compare? y := by
  simp only [compare?, extended?_eq_of_equal h, and_self]

/-- A number stands for an integer when its exact value is one. -/
theorem isIntegral_iff : x.isIntegral = true ↔ ∃ n : Int, x.extended? = some (.value n) := by
  cases x with
  | int n => exact iff_of_true rfl ⟨n, rfl⟩
  | double x =>
    cases x with
    | nan => exact iff_of_false nofun fun ⟨_, value⟩ => nomatch value
    | infinite negative =>
      refine iff_of_false nofun fun ⟨n, value⟩ => ?_
      cases negative <;> cases value
    | finite negative m e canonical =>
      have whole := @Double.isWhole_iff negative m e canonical
      simpa [isIntegral, extended?, toRat?] using whole

theorem isIntegral_eq_of_equal (h : x.equal y = true) : x.isIntegral = y.isIntegral := by
  rw [Bool.eq_iff_iff, isIntegral_iff, isIntegral_iff, extended?_eq_of_equal h]

end Number

end TreeSchema
