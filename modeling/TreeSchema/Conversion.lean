import TreeSchema.Number.Numeral
import TreeSchema.Tree.Kind
import TreeSchema.Tree.Shown

/-!
Conversion of a value to a declared type. Each rule takes the values of one
kind to one type; a type has the rules that can produce it, and the first rule
that accepts a value and converts it wins.
-/

namespace TreeSchema

/-- Why a rule leaves a value as it is. -/
inductive Refusal where
  | outOfRange (text : String)
  | notWhole (text : String)
  | unreadable (cause : Failure)
  | notABoolean (text : String)
  | noRule (kind : Kind) (types : List String)
  deriving DecidableEq

def Refusal.message : Refusal → String
  | .outOfRange text => s!"'{text}' is out of range"
  | .notWhole text => s!"'{text}' is not an integer"
  | .unreadable cause => cause.message
  | .notABoolean text => s!"Cannot coerce '{text}' to boolean"
  | .noRule kind types => s!"Cannot coerce {kind.name} to " ++ " or ".intercalate types

/-- What a rule makes of a value; a failure is no answer of the rule at all. -/
abbrev Conversion := Except Failure (Except Refusal Tree)

inductive Rule where
  | numericTextToNumber
  | numericTextToInteger
  | boolToNumber
  | numberToText
  | boolToText
  | nullToText
  | numericToBool
  | wordToBool
  | blankToFalse
  | emptyTextToObject
  | emptyTextToArray
  deriving DecidableEq

def trimmed (s : String) : String :=
  String.ofList (Text.trimBlanks s.toList)

def Tree.isNumericText : Tree → Bool
  | .string s => (Numeral.ofString? s).isSome
  | _ => false

def Tree.isEmptyText : Tree → Bool
  | .string s => s.isEmpty
  | _ => false

/-- The number a text stands for: exact when it is an integer numeral, else a finite double. -/
def readNumber (s : String) : Except Failure (Except Refusal Number) :=
  let asDouble := do
    let x ← readDouble s
    return if x.isFinite then .ok (.double x) else .error (.outOfRange (trimmed s))
  match Numeral.ofString? s with
  | some n =>
    if n.isInteger then
      match n.readInteger s with
      | .ok i => .ok (.ok (.int i))
      | .error cause => .ok (.error (.unreadable cause))
    else asDouble
  | none => asDouble

namespace Rule

def trueWords : List String := ["yes", "true"]
def falseWords : List String := ["no", "false"]

/-- Whether a value is a candidate for the rule. -/
def accepts : Rule → Tree → Bool
  | .numericTextToNumber, t => t.isNumericText
  | .numericTextToInteger, t => t.isNumericText
  | .boolToNumber, t => t.kind = .boolean
  | .numberToText, t => t.isNumber
  | .boolToText, t => t.kind = .boolean
  | .nullToText, t => t.isNull
  | .numericToBool, t => t.isNumber || t.isNumericText
  | .wordToBool, .string s => trueWords.contains s || falseWords.contains s
  | .wordToBool, _ => false
  | .blankToFalse, t => t.isNull || t.isEmptyText
  | .emptyTextToObject, t => t.isEmptyText
  | .emptyTextToArray, t => t.isEmptyText

def toNumber : Tree → Conversion
  | .string s => do return (← readNumber s).map .number
  | t => .error (.textExpected t.typeName)

def toInteger : Tree → Conversion
  | .string s => do
    match ← readNumber s with
    | .error r => return .error r
    | .ok x =>
      return if x.isIntegral then .ok (.number (.int x.toInt)) else .error (.notWhole (trimmed s))
  | t => .error (.textExpected t.typeName)

def toText (t : Tree) : Conversion :=
  match t with
  | .number (.double x) =>
    .ok (.ok (.string (if x.isWhole then toString x.toInt else x.text .plain)))
  | t =>
    match t.plainText with
    | .ok s => .ok (.ok (.string s))
    | .error cause => .ok (.error (.unreadable cause))

def numberToBool : Tree → Conversion
  | .string s => do return .ok (.bool (!(Number.double (← readDouble s)).isZero))
  | .number n => .ok (.ok (.bool (!n.isZero)))
  | .bool b => .ok (.ok (.bool b))
  | _ => .ok (.ok (.bool true))

def wordToTruth (t : Tree) : Conversion :=
  match t with
  | .string s =>
    if trueWords.contains s then .ok (.ok (.bool true))
    else if falseWords.contains s then .ok (.ok (.bool false))
    else .ok (.error (.notABoolean s))
  | .array _ => .error (.unhashable t.typeName)
  | .object _ => .error (.unhashable t.typeName)
  | t => do return .error (.notABoolean (← t.plainText))

/-- The conversion itself, which a caller may also run on a value that is no candidate. -/
def convert : Rule → Tree → Conversion
  | .numericTextToNumber, t => toNumber t
  | .numericTextToInteger, t => toInteger t
  | .boolToNumber, t => .ok (.ok (.number (.int (if t.isTruthy then 1 else 0))))
  | .numberToText, t => toText t
  | .boolToText, t => .ok (.ok (.string (if t.isTruthy then "true" else "false")))
  | .nullToText, _ => .ok (.ok (.string ""))
  | .numericToBool, t => numberToBool t
  | .wordToBool, t => wordToTruth t
  | .blankToFalse, _ => .ok (.ok (.bool false))
  | .emptyTextToObject, _ => .ok (.ok (.object []))
  | .emptyTextToArray, _ => .ok (.ok (.array []))

end Rule

/-- The rules that can produce a type, in the order they are tried. -/
def TypeName.rules : TypeName → List Rule
  | .number => [.numericTextToNumber, .boolToNumber]
  | .integer => [.numericTextToInteger, .boolToNumber]
  | .string => [.numberToText, .boolToText, .nullToText]
  | .boolean => [.numericToBool, .wordToBool, .blankToFalse]
  | .object => [.emptyTextToObject]
  | .array => [.emptyTextToArray]
  | .null => []

/-- The first success of the rules on a value, if there is one. -/
def firstSuccess (t : Tree) : List Rule → Except Failure (Option Tree)
  | [] => .ok none
  | rule :: rest =>
    if rule.accepts t then
      match rule.convert t with
      | .error cause => .error cause
      | .ok (.ok w) => .ok (some w)
      | .ok (.error _) => firstSuccess t rest
    else firstSuccess t rest

/-- The rules for a list of type names; a name that is no type has none. -/
def rulesFor (types : List String) : List Rule :=
  types.flatMap fun name => ((TypeName.ofName? name).map TypeName.rules).getD []

/-- Converts a value toward the named types, trying them in order. -/
def convertTo (t : Tree) (types : List String) : Conversion := do
  match ← firstSuccess t (rulesFor types) with
  | some w => return .ok w
  | none => return .error (.noRule t.kind types)

/-! Where conversions land -/

namespace Rule

theorem eq_number_of_toNumber {t w : Tree} (h : toNumber t = .ok (.ok w)) : ∃ x, w = .number x := by
  unfold toNumber at h
  split at h
  · next s =>
    match read : readNumber s with
    | .error cause => rw [read] at h; cases h
    | .ok (.error r) => rw [read] at h; cases h
    | .ok (.ok x) => rw [read] at h; cases h; exact ⟨x, rfl⟩
  · cases h

theorem eq_int_of_toInteger {t w : Tree} (h : toInteger t = .ok (.ok w)) :
    ∃ n, w = .number (.int n) := by
  unfold toInteger at h
  split at h
  · next s =>
    match read : readNumber s with
    | .error cause => rw [read] at h; cases h
    | .ok (.error r) => rw [read] at h; cases h
    | .ok (.ok x) =>
      rw [read] at h
      by_cases whole : x.isIntegral = true
      · simp only [bind, Except.bind, pure, Except.pure, if_pos whole] at h
        cases h
        exact ⟨_, rfl⟩
      · simp only [bind, Except.bind, pure, Except.pure, if_neg whole] at h
        cases h
  · cases h

theorem eq_string_of_toText {t w : Tree} (h : toText t = .ok (.ok w)) : ∃ s, w = .string s := by
  unfold toText at h
  split at h
  · cases h; exact ⟨_, rfl⟩
  · split at h
    · cases h; exact ⟨_, rfl⟩
    · cases h

theorem eq_bool_of_numberToBool {t w : Tree} (h : numberToBool t = .ok (.ok w)) :
    ∃ b, w = .bool b := by
  unfold numberToBool at h
  split at h
  · next s =>
    cases read : readDouble s with
    | error cause => rw [read] at h; cases h
    | ok x => rw [read] at h; cases h; exact ⟨_, rfl⟩
  all_goals cases h; exact ⟨_, rfl⟩

theorem eq_bool_of_wordToTruth {t w : Tree} (h : wordToTruth t = .ok (.ok w)) :
    ∃ b, w = .bool b := by
  unfold wordToTruth at h
  split at h
  · split at h
    · cases h; exact ⟨_, rfl⟩
    · split at h
      · cases h; exact ⟨_, rfl⟩
      · cases h
  · cases h
  · cases h
  · cases text : t.plainText with
    | error cause => rw [text] at h; cases h
    | ok s => rw [text] at h; cases h

end Rule

/-- A rule for a type makes a value of the type. -/
theorem TypeName.hasType_of_convert {type : TypeName} {rule : Rule} {t w : Tree}
    (mem : rule ∈ type.rules) (converts : rule.convert t = .ok (.ok w)) :
    w.hasType type = true := by
  cases type <;> simp only [TypeName.rules, List.mem_cons, List.not_mem_nil, or_false] at mem
  case number =>
    rcases mem with rfl | rfl
    · obtain ⟨x, rfl⟩ := Rule.eq_number_of_toNumber converts
      rfl
    · cases converts
      rfl
  case integer =>
    rcases mem with rfl | rfl
    · obtain ⟨n, rfl⟩ := Rule.eq_int_of_toInteger converts
      rfl
    · cases converts
      rfl
  case string =>
    rcases mem with rfl | rfl | rfl
    · obtain ⟨s, rfl⟩ := Rule.eq_string_of_toText converts
      rfl
    all_goals
      cases converts
      rfl
  case boolean =>
    rcases mem with rfl | rfl | rfl
    · obtain ⟨b, rfl⟩ := Rule.eq_bool_of_numberToBool converts
      rfl
    · obtain ⟨b, rfl⟩ := Rule.eq_bool_of_wordToTruth converts
      rfl
    · cases converts
      rfl
  all_goals
    subst mem
    cases converts
    rfl

/-- Values with parts are candidates of no rule. -/
theorem Rule.scalar_of_accepts {rule : Rule} {t : Tree} (accepts : rule.accepts t = true) :
    t.Scalar := by
  cases t with
  | array | object => cases rule <;> cases accepts
  | _ => exact ⟨nofun, nofun⟩

/-- What a rule makes is a value without parts. -/
theorem Rule.wellFormed_of_convert {rule : Rule} {t w : Tree}
    (converts : rule.convert t = .ok (.ok w)) : w.WellFormed := by
  cases rule with
  | numericTextToNumber =>
    obtain ⟨x, rfl⟩ := eq_number_of_toNumber converts
    trivial
  | numericTextToInteger =>
    obtain ⟨n, rfl⟩ := eq_int_of_toInteger converts
    trivial
  | numberToText =>
    obtain ⟨s, rfl⟩ := eq_string_of_toText converts
    trivial
  | numericToBool =>
    obtain ⟨b, rfl⟩ := eq_bool_of_numberToBool converts
    trivial
  | wordToBool =>
    obtain ⟨b, rfl⟩ := eq_bool_of_wordToTruth converts
    trivial
  | emptyTextToObject =>
    cases converts
    exact ⟨List.nodup_nil, trivial⟩
  | _ =>
    cases converts
    trivial

/-- A success comes from one of the rules that the value is a candidate for. -/
theorem exists_rule_of_firstSuccess {t w : Tree} {rules : List Rule}
    (h : firstSuccess t rules = .ok (some w)) :
    ∃ rule ∈ rules, rule.accepts t = true ∧ rule.convert t = .ok (.ok w) := by
  induction rules with
  | nil => cases h
  | cons rule rest ih =>
    have later (h : firstSuccess t rest = .ok (some w)) :
        ∃ other ∈ rule :: rest, other.accepts t = true ∧ other.convert t = .ok (.ok w) := by
      obtain ⟨other, mem, converts⟩ := ih h
      exact ⟨other, List.mem_cons_of_mem _ mem, converts⟩
    unfold firstSuccess at h
    split at h
    · next accepts =>
      split at h
      · cases h
      · next w' converts =>
        cases h
        exact ⟨rule, List.mem_cons_self, accepts, converts⟩
      · exact later h
    · exact later h

theorem exists_rule_of_convertTo {t w : Tree} {types : List String}
    (h : convertTo t types = .ok (.ok w)) :
    ∃ rule ∈ rulesFor types, rule.accepts t = true ∧ rule.convert t = .ok (.ok w) := by
  match found : firstSuccess t (rulesFor types) with
  | .error cause => rw [convertTo, found] at h; cases h
  | .ok none => rw [convertTo, found] at h; cases h
  | .ok (some w') =>
    rw [convertTo, found] at h
    cases h
    exact exists_rule_of_firstSuccess found

/-- A converted value has one of the types it was converted toward. -/
theorem hasType_of_convertTo {t w : Tree} {types : List TypeName}
    (h : convertTo t (types.map TypeName.name) = .ok (.ok w)) : types.any w.hasType = true := by
  obtain ⟨rule, mem, -, converts⟩ := exists_rule_of_convertTo h
  simp only [rulesFor, List.flatMap_map, TypeName.ofName?_name, Option.map_some, Option.getD_some,
    List.mem_flatMap] at mem
  obtain ⟨type, declared, mem⟩ := mem
  exact List.any_eq_true.2 ⟨type, declared, TypeName.hasType_of_convert mem converts⟩

end TreeSchema
