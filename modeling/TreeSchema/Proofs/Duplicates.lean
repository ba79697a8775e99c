import TreeSchema.Proofs.Adoption
import TreeSchema.Proofs.Leading
import TreeSchema.Proofs.Passing

/-!
The first duplicate. Each item is compared with those behind it, and the search ends at
the first that it equals, so of all pairs of equal items the one that is told has the
least first index and, among those, the least second. An item that is not equal to
itself is no obstacle, since no item is compared with itself. In a run the items have been
visited by then, each by the schema for its place, so the pair is one of what the visits
have left.
-/

namespace TreeSchema

/-! ### The search -/

/-- The first index is below the second, and the items there are equal. -/
def Duplicates (items : List Tree) (i j : Nat) : Prop :=
  i < j ∧ ∃ t u, items[i]? = some t ∧ items[j]? = some u ∧ t.equal u = true

/-- Of all pairs of equal items the indices are the least, by the first and then by the second. -/
structure FirstDuplicate (items : List Tree) (i j : Nat) : Prop where
  duplicates : Duplicates items i j
  least : ∀ k l, Duplicates items k l → i < k ∨ i = k ∧ j ≤ l

namespace FirstDuplicate

variable {t : Tree} {items : List Tree} {i j k l : Nat}

theorem unique (h : FirstDuplicate items i j) (h' : FirstDuplicate items k l) :
    i = k ∧ j = l := by
  have below := h.least k l h'.duplicates
  have above := h'.least i j h.duplicates
  omega

theorem of_head {u : Tree} (found : items[j]? = some u) (same : t.equal u = true)
    (earlier : ∀ l < j, ∀ w, items[l]? = some w → t.equal w = false) :
    FirstDuplicate (t :: items) 0 (j + 1) where
  duplicates := ⟨Nat.succ_pos j, t, u, rfl, found, same⟩
  least := by
    rintro k l ⟨below, v, w, first, second, equal⟩
    cases k with
    | succ k => exact .inl (Nat.succ_pos k)
    | zero =>
      cases l with
      | zero => exact absurd below (Nat.lt_irrefl 0)
      | succ l =>
        cases first
        refine .inr ⟨rfl, Nat.succ_le_succ (Nat.not_lt.1 fun before => ?_)⟩
        cases (earlier l before w second).symm.trans equal

theorem of_tail (alone : ∀ u ∈ items, t.equal u = false) (h : FirstDuplicate items i j) :
    FirstDuplicate (t :: items) (i + 1) (j + 1) where
  duplicates := by
    obtain ⟨below, pair⟩ := h.duplicates
    exact ⟨Nat.succ_lt_succ below, pair⟩
  least := by
    rintro k l ⟨below, v, w, first, second, equal⟩
    cases l with
    | zero => exact absurd below (Nat.not_lt_zero k)
    | succ l =>
      cases k with
      | zero =>
        cases first
        cases (alone w (List.mem_of_getElem? second)).symm.trans equal
      | succ k =>
        have later := h.least k l ⟨Nat.lt_of_succ_lt_succ below, v, w, first, second, equal⟩
        omega

end FirstDuplicate

section

variable {t : Tree} {items : List Tree} {index : Nat}

theorem exists_of_indexOfEqual? {found : Nat} (search : indexOfEqual? t index items = some found) :
    ∃ j u, found = index + j ∧ items[j]? = some u ∧ t.equal u = true ∧
      ∀ l < j, ∀ w, items[l]? = some w → t.equal w = false := by
  induction items generalizing index with
  | nil => cases search
  | cons u rest ih =>
    rw [indexOfEqual?] at search
    split at search
    · next same =>
      cases search
      exact ⟨0, u, rfl, rfl, same, fun l before => absurd before (Nat.not_lt_zero l)⟩
    · next differs =>
      obtain ⟨j, v, rfl, place, same, earlier⟩ := ih search
      refine ⟨j + 1, v, by omega, place, same, fun l before w found => ?_⟩
      cases l with
      | zero =>
        cases found
        simpa using differs
      | succ l => exact earlier l (Nat.lt_of_succ_lt_succ before) w found

theorem exists_of_firstDuplicate? {found : Nat × Nat}
    (search : firstDuplicate? index items = some found) :
    ∃ i j, found = (index + i, index + j) ∧ FirstDuplicate items i j := by
  induction items generalizing index with
  | nil => cases search
  | cons t rest ih =>
    rw [firstDuplicate?] at search
    split at search
    · next second partner =>
      cases search
      obtain ⟨j, u, rfl, place, same, earlier⟩ := exists_of_indexOfEqual? partner
      refine ⟨0, j + 1, ?_, .of_head place same earlier⟩
      rw [Nat.add_assoc, Nat.add_comm 1 j]
      rfl
    · next alone =>
      obtain ⟨i, j, rfl, first⟩ := ih search
      refine ⟨i + 1, j + 1, ?_, first.of_tail (Constraint.indexOfEqual?_eq_none_iff.1 alone)⟩
      rw [Nat.add_assoc, Nat.add_assoc, Nat.add_comm 1 i, Nat.add_comm 1 j]

/-- Nothing is found just when no two items are equal. -/
theorem firstDuplicate?_eq_none_iff_forall :
    firstDuplicate? 0 items = none ↔ ∀ i j, ¬ Duplicates items i j := by
  rw [Constraint.firstDuplicate?_eq_none_iff, List.pairwise_iff_getElem]
  constructor
  · rintro distinct i j ⟨below, t, u, left, right, same⟩
    obtain ⟨hi, rfl⟩ := List.getElem?_eq_some_iff.1 left
    obtain ⟨hj, rfl⟩ := List.getElem?_eq_some_iff.1 right
    cases (distinct i j hi hj below).symm.trans same
  · intro none i j hi hj below
    refine Bool.eq_false_iff.2 fun same => none i j ⟨below, _, _, ?_, ?_, same⟩
    · exact List.getElem?_eq_getElem hi
    · exact List.getElem?_eq_getElem hj

theorem firstDuplicate?_eq_some_iff {i j : Nat} :
    firstDuplicate? 0 items = some (i, j) ↔ FirstDuplicate items i j := by
  have found {k l : Nat} (search : firstDuplicate? 0 items = some (k, l)) :
      FirstDuplicate items k l := by
    obtain ⟨i, j, same, first⟩ := exists_of_firstDuplicate? search
    rw [Nat.zero_add, Nat.zero_add] at same
    cases same
    exact first
  refine ⟨found, fun first => ?_⟩
  match search : firstDuplicate? 0 items with
  | none => exact absurd first.duplicates (firstDuplicate?_eq_none_iff_forall.1 search i j)
  | some (k, l) =>
    obtain ⟨rfl, rfl⟩ := first.unique (found search)
    rfl

theorem Duplicates.exists_first {i j : Nat} (pair : Duplicates items i j) :
    ∃ k l, FirstDuplicate items k l := by
  cases search : firstDuplicate? 0 items with
  | none => exact absurd pair (firstDuplicate?_eq_none_iff_forall.1 search i j)
  | some found => exact ⟨found.1, found.2, firstDuplicate?_eq_some_iff.1 search⟩

namespace Constraint

theorem judge_uniqueItems_eq_none_iff :
    uniqueItems.judge (.array items) = .ok none ↔ ∀ i j, ¬ Duplicates items i j := by
  rw [judge, ← firstDuplicate?_eq_none_iff_forall, Except.ok.injEq, Option.map_eq_none_iff]

theorem judge_uniqueItems_eq_some_iff {i j : Nat} :
    uniqueItems.judge (.array items) = .ok (some (.itemsNotUnique i j)) ↔
      FirstDuplicate items i j := by
  rw [judge, ← firstDuplicate?_eq_some_iff, Except.ok.injEq]
  simp

end Constraint

end

/-! ### Room for a finding -/

/-- A further finding goes behind those that are held. -/
def Config.HasRoom (config : Config) (held : List Finding) : Prop :=
  ∀ f, (config.mode.add config.cap held f).1 = held ++ [f]

theorem Config.Remembers.hasRoom {config : Config} (remembers : config.Remembers) :
    config.HasRoom [] :=
  fun f => (config.mode.add_eq config.cap [] f).resolve_left (remembers [] f)

theorem Config.hasRoom_of_more {config : Config} {held : List Finding} {f : Finding}
    (more : (config.mode.add config.cap held f).2 = true) :
    config.HasRoom (config.mode.add config.cap held f).1 := by
  intro g
  obtain ⟨mode, cap, coercing, options⟩ := config
  match mode, cap, more with
  | .collectAll, none, _ => rfl
  | .collectAll, some k, more => exact if_pos (of_decide_eq_true more)

namespace Stage

variable {config : Config} {s : Tree} {xs : List Tree} {held : List Finding}

theorem leads_hasRoom (config : Config) :
    Closed config
      (Leads (fun p => config.HasRoom p.findings) fun p => config.HasRoom p.findings) := by
  have report (f : Finding) : Leads (fun p => config.HasRoom p.findings)
      (fun p => config.HasRoom p.findings) (report config f) := fun p _ goes => by
    refine Config.hasRoom_of_more ?_
    cases more : (config.mode.add config.cap p.findings f).2 with
    | true => rfl
    | false => simp [Stage.report, more] at goes
  exact leads_closed report

/-! ### Visits to items -/

/-- The schema that the keyword for items has for a place: one for all places, or one for each. -/
def itemSchema? : Tree → Nat → Option Tree
  | .object m, _ => some (.object m)
  | .array schemas, index => schemas[index]?
  | _, _ => none

/-- What the visit to an item leaves of it. -/
def visitedItem (config : Config) (s : Tree) (index : Nat) (t : Tree) : Tree :=
  match itemSchema? s index with
  | some u => if config.coercing then (run config t u).node else t
  | none => t

def visitedBefore (config : Config) (s : Tree) (place : Nat) (xs : List Tree) : List Tree :=
  xs.mapIdx fun index t => if index < place then visitedItem config s index t else t

/-- The items once all of them have been visited. -/
def visitedItems (config : Config) (s : Tree) (xs : List Tree) : List Tree :=
  xs.mapIdx (visitedItem config s)

theorem getElem?_visitedBefore {place : Nat} (bound : place < xs.length) :
    (visitedBefore config s place xs)[place]? = some xs[place] := by
  simp [visitedBefore, bound]

theorem visitedBefore_succ {place : Nat} (bound : place < xs.length) :
    visitedBefore config s (place + 1) xs =
      (visitedBefore config s place xs).set place (visitedItem config s place xs[place]) := by
  refine List.ext_getElem (by simp [visitedBefore]) fun index _ _ => ?_
  simp only [visitedBefore, List.getElem_set, List.getElem_mapIdx]
  grind

theorem node_of_visitItem {schema t : Tree} {path : Pointer} {index : Nat} {p : Progress}
    (here : p.node = .array xs) (value : xs[index]? = some t)
    (goes : (visitItem run config schema path index p).stop = none) :
    (visitItem run config schema path index p).node =
      .array (xs.set index (if config.coercing then (run config t schema).node else t)) := by
  have value' : p.node.items[index]? = some t := by rw [here]; exact value
  rw [visitItem_of_some value'] at goes ⊢
  rw [node_of_join, ends_of_join goes]
  split
  · next coerces =>
    rw [if_pos coerces.2, here]
    rfl
  · next checks =>
    rw [if_neg fun coerces => checks ⟨rfl, coerces⟩, ← Tree.putItem_of_getElem? value', here]
    rfl

theorem leads_turn {place : Nat} {stage : Stage} (bound : place < xs.length)
    (visits : ∀ u, itemSchema? s place = some u →
      ∃ path, stage = visitItem run config u path place)
    (skips : itemSchema? s place = none → stage = skip) :
    Leads (·.node = .array (visitedBefore config s place xs))
      (·.node = .array (visitedBefore config s (place + 1) xs)) stage := by
  intro p here goes
  rw [visitedBefore_succ bound, visitedItem]
  have value : (visitedBefore config s place xs)[place]? = some xs[place] :=
    getElem?_visitedBefore bound
  cases found : itemSchema? s place with
  | some u =>
    obtain ⟨path, rfl⟩ := visits u found
    exact node_of_visitItem here value goes
  | none =>
    rw [skips found]
    obtain ⟨_, same⟩ := List.getElem?_eq_some_iff.1 value
    exact here.trans (congrArg Tree.array (same ▸ (List.set_getElem_self _).symm))

theorem node_of_eachItem {turn : Nat → Stage}
    (turns : ∀ place < xs.length, Leads (·.node = .array (visitedBefore config s place xs))
      (·.node = .array (visitedBefore config s (place + 1) xs)) (turn place))
    (goes : (eachItem turn ⟨.array xs, held⟩).stop = none) :
    (eachItem turn ⟨.array xs, held⟩).node = .array (visitedItems config s xs) := by
  have start : visitedBefore config s 0 xs = xs :=
    List.ext_getElem (by simp [visitedBefore]) fun index _ _ => by simp [visitedBefore]
  have finish : visitedBefore config s xs.length xs = visitedItems config s xs := by
    refine List.ext_getElem (by simp [visitedBefore, visitedItems]) fun index _ bound => ?_
    have bound : index < xs.length := by simpa [visitedItems] using bound
    simp only [visitedBefore, visitedItems, List.getElem_mapIdx, if_pos bound]
  rw [← finish]
  exact Leads.range turns ⟨.array xs, held⟩ (congrArg Tree.array start.symm) goes

theorem node_of_checkItems {m : Members} (found : m.get? "items" = some s)
    (unlimited : m.get? "additionalItems" = none)
    (goes : (checkItems run config m ⟨.array xs, held⟩).stop = none) :
    (checkItems run config m ⟨.array xs, held⟩).node = .array (visitedItems config s xs) := by
  unfold checkItems at goes ⊢
  rw [found] at goes ⊢
  cases s with
  | object each =>
    refine node_of_eachItem (fun place bound => leads_turn bound ?_ nofun) goes
    rintro u ⟨⟩
    exact ⟨_, rfl⟩
  | array schemas =>
    have any : additionalItems m = .ok .any := by rw [additionalItems, unlimited]
    simp only [any, reading_ok] at goes ⊢
    refine node_of_eachItem (fun place bound => leads_turn bound (fun u here => ?_) fun past => ?_)
      goes
    · have here : schemas[place]? = some u := here
      exact ⟨_, by rw [checkPlace, here]⟩
    · have past : schemas[place]? = none := past
      rw [checkPlace, past]
  | _ => cases goes

theorem sequence_cons_of_skips {stage : Stage} {rest : List Stage}
    (idle : ∀ other ∈ rest, other = skip) : sequence (stage :: rest) = stage := by
  have alone : sequence (stage :: rest) = sequence [stage] := by
    funext p
    simp only [sequence, Members.Combines.sequence_of_skips idle]
  rw [alone, sequence_singleton]

end Stage

/-! ### Runs -/

/-- The schema has one keyword for the items of an array and one by which they have to be unique,
and no others. -/
structure Members.UniqueItems (m : Members) (s : Tree) : Prop where
  items : m.get? "items" = some s
  unique : m.has "uniqueItems" = true
  only : ∀ name, name ≠ "items" → name ≠ "uniqueItems" → m.get? name = none

namespace Members.UniqueItems

variable {config : Config} {m : Members} {s : Tree} {xs : List Tree}

theorem constraints (h : m.UniqueItems s) :
    Constraint.ofEnum m = .ok [] ∧ Constraint.ofArrays m = .ok [.uniqueItems] ∧
      Constraint.ofStrings m = .ok [] ∧ Constraint.ofNumbers m = .ok [] := by
  refine ⟨?_, ?_, Members.Combines.readAll_eq_nil ?_, Members.Combines.readAll_eq_nil ?_⟩
  · simp [Constraint.ofEnum, h.only]
  · simp [Constraint.ofArrays, Constraint.countOf, h.only, h.unique, Constraint.readAll, bind,
      Except.bind, pure, Except.pure]
  · simp [Constraint.countOf, Constraint.patternOf, h.only]
  · simp [Constraint.divisorOf, Constraint.limitOf, h.only]

/-- A run on an array visits the items and then judges whether they are unique. -/
theorem run_eq (h : m.UniqueItems s) (config : Config) (xs : List Tree) :
    run config (.array xs) (.object m) =
      Stage.sequence [Stage.checkItems run config m, Stage.checkConstraint config .uniqueItems]
        ⟨.array xs, []⟩ := by
  obtain ⟨ofEnum, ofArrays, ofStrings, ofNumbers⟩ := h.constraints
  have type : Stage.checkType config m = Stage.skip := by
    have absent : m.has "type" = false := by
      rw [← isSome_get?, h.only _ (by decide) (by decide), Option.isSome_none]
    simp [Stage.checkType, absent]
  have choices : Stage.checkConstraints config (Constraint.ofEnum m) = Stage.skip := by
    rw [ofEnum]
    rfl
  have string : Stage.checkString config m = Stage.skip := by
    funext p
    obtain ⟨n, held⟩ := p
    cases n with
    | string => simp [Stage.checkString, ofStrings, Stage.checkConstraints]
    | _ => rfl
  have number : Stage.checkNumber config m = Stage.skip := by
    funext p
    obtain ⟨n, held⟩ := p
    cases n with
    | number => simp [Stage.checkNumber, ofNumbers, Stage.checkConstraints]
    | _ => rfl
  have combinations : Stage.checkCombinations run config m = Stage.skip :=
    Members.Combines.sequence_of_skips (by simp [Stage.keyword, h.only])
  have array : Stage.checkArray run config m ⟨.array xs, []⟩ =
      Stage.sequence [Stage.checkItems run config m,
        Stage.checkConstraint config .uniqueItems] ⟨.array xs, []⟩ := by
    rw [Stage.checkArray, ofArrays]
    exact congrArg (fun stage => Stage.sequence [_, stage] _) (Stage.sequence_singleton _)
  rw [run_object, stages, type, choices, string, number, combinations]
  -- Nothing is done to an array by the stages in front of the one for arrays.
  rw [Stage.sequence_cons_of_none rfl, Stage.sequence_cons_of_none rfl,
    Stage.sequence_cons_of_none rfl, Stage.sequence_cons_of_skips (by simp)]
  exact array

end Members.UniqueItems

/-- The finding that tells of two items that they are equal. -/
def duplicateFinding (i j : Nat) : Finding :=
  ⟨.arrayUnique, .here, .key "uniqueItems",
    s!"Array items must be unique (items {i} and {j})", []⟩

section

variable {config : Config} {ys : List Tree} {held : List Finding}

theorem Stage.checkConstraint_of_unique (config : Config) (held : List Finding)
    (unique : ∀ i j, ¬ Duplicates ys i j) :
    checkConstraint config .uniqueItems ⟨.array ys, held⟩ = ⟨⟨.array ys, held⟩, none⟩ :=
  checkConstraint_of_none (Constraint.judge_uniqueItems_eq_none_iff.2 unique)

theorem Stage.interruption?_report (config : Config) (f : Finding) (p : Progress) :
    (report config f p).interruption? = none := by
  cases more : (config.mode.add config.cap p.findings f).2 <;>
    simp [report, Run.interruption?, more]

theorem Stage.checkConstraint_of_duplicate {i j : Nat} (first : FirstDuplicate ys i j)
    (room : config.HasRoom held) :
    (checkConstraint config .uniqueItems ⟨.array ys, held⟩).node = .array ys ∧
      (checkConstraint config .uniqueItems ⟨.array ys, held⟩).findings =
        held ++ [duplicateFinding i j] ∧
      (checkConstraint config .uniqueItems ⟨.array ys, held⟩).interruption? = none := by
  have judged := Constraint.judge_uniqueItems_eq_some_iff.2 first
  have told : (Violation.itemsNotUnique i j).finding = .ok (duplicateFinding i j) := rfl
  rw [checkConstraint_of_some judged, reject, told]
  exact ⟨rfl, room _, interruption?_report ..⟩

end

/-- Items are unique when no two of them are equal, and otherwise the first pair is told of. In a
run that visits the items before, be it to convert them, it is the pair in what the visits leave. -/
theorem unique_items_tell_first_duplicate :
    (∀ items : List Tree,
      (Constraint.uniqueItems.judge (.array items) = .ok none ↔ ∀ i j, ¬ Duplicates items i j) ∧
      (∀ i j, Constraint.uniqueItems.judge (.array items) = .ok (some (.itemsNotUnique i j)) ↔
        FirstDuplicate items i j) ∧
      ∀ k l, Duplicates items k l → ∃ i j,
        Constraint.uniqueItems.judge (.array items) = .ok (some (.itemsNotUnique i j))) ∧
    ∀ (config : Config) (m : Members) (s : Tree) (xs : List Tree),
      m.UniqueItems s → config.Remembers →
      (Stage.checkItems run config m ⟨.array xs, []⟩).stop = none →
      (Stage.checkItems run config m ⟨.array xs, []⟩).node =
        .array (Stage.visitedItems config s xs) ∧
      (run config (.array xs) (.object m)).node = .array (Stage.visitedItems config s xs) ∧
      (run config (.array xs) (.object m)).interruption? = none ∧
      ((∀ i j, ¬ Duplicates (Stage.visitedItems config s xs) i j) ∧
          (run config (.array xs) (.object m)).findings =
            (Stage.checkItems run config m ⟨.array xs, []⟩).findings ∨
        ∃ i j, FirstDuplicate (Stage.visitedItems config s xs) i j ∧
          (run config (.array xs) (.object m)).findings =
            (Stage.checkItems run config m ⟨.array xs, []⟩).findings ++
              [duplicateFinding i j]) := by
  refine ⟨fun items => ⟨Constraint.judge_uniqueItems_eq_none_iff,
    fun i j => Constraint.judge_uniqueItems_eq_some_iff, fun k l pair => ?_⟩,
    fun config m s xs schema remembers goes => ?_⟩
  · obtain ⟨i, j, first⟩ := pair.exists_first
    exact ⟨i, j, Constraint.judge_uniqueItems_eq_some_iff.2 first⟩
  have visited := Stage.node_of_checkItems schema.items (schema.only _ (by decide) (by decide)) goes
  have room := ((Stage.leads_hasRoom config).walk run m).checkItems _ remembers.hasRoom goes
  rw [schema.run_eq, Stage.sequence_cons_of_none goes, Stage.sequence_singleton]
  generalize Stage.checkItems run config m ⟨.array xs, []⟩ = before at visited room
  obtain ⟨⟨node, held⟩, stop⟩ := before
  cases visited
  refine ⟨rfl, ?_⟩
  match search : firstDuplicate? 0 (Stage.visitedItems config s xs) with
  | none =>
    have unique := firstDuplicate?_eq_none_iff_forall.1 search
    rw [Stage.checkConstraint_of_unique config held unique]
    exact ⟨rfl, rfl, .inl ⟨unique, rfl⟩⟩
  | some (i, j) =>
    have first := firstDuplicate?_eq_some_iff.1 search
    obtain ⟨node, findings, ended⟩ := Stage.checkConstraint_of_duplicate first room
    exact ⟨node, ended, .inr ⟨i, j, first, findings⟩⟩

/-- Integers, each at most once. -/
def drawItem : Tree :=
  .object [("type", .string "integer")]

def drawSchema : Members :=
  [("uniqueItems", .bool true), ("items", drawItem)]

/-- As they are given, the last two are the first that are equal. -/
def draw : List Tree :=
  [.string "7", .number (.int 5), .number (.int 7), .number (.double (.ofInt 7))]

/-- Once they are converted, so is the first. -/
def convertedDraw : List Tree :=
  [.number (.int 7), .number (.int 5), .number (.int 7), .number (.double (.ofInt 7))]

theorem unique_items_tell_first_duplicate_draw :
    Constraint.uniqueItems.judge (.array draw) = .ok (some (.itemsNotUnique 2 3)) ∧
      Stage.visitedItems (.adopting .default) drawItem draw = convertedDraw ∧
      FirstDuplicate convertedDraw 0 2 ∧
      (run (.adopting .default) (.array draw) (.object drawSchema)).findings =
        [duplicateFinding 0 2] := by
  have schema : drawSchema.UniqueItems drawItem := by
    refine ⟨rfl, rfl, fun name notItems notUnique => ?_⟩
    simp [drawSchema, Members.get?, Ne.symm notItems, Ne.symm notUnique]
  have visited : Stage.visitedItems (.adopting .default) drawItem draw = convertedDraw := rfl
  have first : FirstDuplicate convertedDraw 0 2 := firstDuplicate?_eq_some_iff.1 rfl
  have goes : (Stage.checkItems run (.adopting .default) drawSchema ⟨.array draw, []⟩).stop =
      none := rfl
  obtain ⟨judged, tells⟩ := unique_items_tell_first_duplicate
  obtain ⟨-, -, -, told⟩ := tells _ _ _ _ schema (Config.collecting_remembers _ _) goes
  rw [visited] at told
  obtain ⟨unique, -⟩ | ⟨i, j, first', told⟩ := told
  · exact absurd first.duplicates (unique 0 2)
  · obtain ⟨rfl, rfl⟩ := first.unique first'
    exact ⟨((judged draw).2.1 2 3).2 (firstDuplicate?_eq_some_iff.1 rfl), visited, first, told⟩

end TreeSchema
