import TreeSchema.Outcome
import Mathlib.Algebra.GroupWithZero.Nat
import Mathlib.Data.List.Basic
import Mathlib.Data.List.Induction

/-!
Grouping loses and reorders nothing. A finding goes to the end of the group of its
place, or to a new group behind the others, so what the groups are after any row of
findings can be told without grouping: there is one for each place, in the order in
which the places first occur, and it consists of the findings at that place.
-/

namespace TreeSchema

/-! ### First occurrences -/

section

variable {α : Type} [DecidableEq α]

theorem eraseDups_concat (xs : List α) (x : α) :
    (xs ++ [x]).eraseDups = if x ∈ xs then xs.eraseDups else xs.eraseDups ++ [x] := by
  rw [List.eraseDups_append]
  by_cases seen : x ∈ xs
  · simp [List.removeAll, seen]
  · simp [List.removeAll, seen, List.eraseDups_cons]

theorem pairwise_idxOf_eraseDups (xs : List α) :
    xs.eraseDups.Pairwise fun x y => xs.idxOf x < xs.idxOf y := by
  induction xs using List.reverseRecOn with
  | nil => exact .nil
  | append_singleton xs x ih =>
    have before {y : α} (mem : y ∈ xs.eraseDups) : (xs ++ [x]).idxOf y = xs.idxOf y :=
      List.idxOf_append_of_mem (List.mem_eraseDups.1 mem)
    have kept : xs.eraseDups.Pairwise fun y z => (xs ++ [x]).idxOf y < (xs ++ [x]).idxOf z :=
      ih.imp_of_mem fun {y z} memY memZ less => by rwa [before memY, before memZ]
    rw [eraseDups_concat]
    split
    · exact kept
    · next new =>
      refine List.pairwise_append.2 ⟨kept, List.pairwise_singleton .., fun y mem z last => ?_⟩
      rw [List.mem_singleton.1 last, before mem, List.idxOf_append_of_notMem new]
      exact Nat.lt_add_right _ (List.idxOf_lt_length_of_mem (List.mem_eraseDups.1 mem))

theorem nodup_eraseDups (xs : List α) : xs.eraseDups.Nodup :=
  (pairwise_idxOf_eraseDups xs).imp fun less same => Nat.ne_of_lt less (congrArg xs.idxOf same)

end

namespace Outcome

/-! ### Adding a finding -/

def groupsAt (fs : List Finding) (places : List Pointer) : List (Pointer × List Finding) :=
  places.map fun p => (p, fs.filter (·.dataPath = p))

variable {fs : List Finding} {f : Finding} {places : List Pointer}

theorem groupsAt_cons (p : Pointer) :
    groupsAt fs (p :: places) = (p, fs.filter (·.dataPath = p)) :: groupsAt fs places := rfl

theorem filter_concat_of_ne {p : Pointer} (elsewhere : f.dataPath ≠ p) :
    (fs ++ [f]).filter (·.dataPath = p) = fs.filter (·.dataPath = p) := by
  simp [elsewhere]

theorem groupsAt_concat (other : f.dataPath ∉ places) :
    groupsAt (fs ++ [f]) places = groupsAt fs places := by
  refine List.map_congr_left fun p mem => ?_
  rw [filter_concat_of_ne fun same => other (same ▸ mem)]

/-- The finding goes to the end of the group of its place, or to a new group behind the others. -/
theorem addToGroups_groupsAt (nodup : places.Nodup)
    (fresh : f.dataPath ∉ places → fs.filter (·.dataPath = f.dataPath) = []) :
    addToGroups f (groupsAt fs places) =
      groupsAt (fs ++ [f]) (if f.dataPath ∈ places then places else places ++ [f.dataPath]) := by
  induction places with
  | nil => simp [groupsAt, addToGroups, fresh]
  | cons p places ih =>
    obtain ⟨once, nodup⟩ := List.nodup_cons.1 nodup
    by_cases same : p = f.dataPath
    · subst same
      have rest : groupsAt (fs ++ [f]) places = groupsAt fs places := groupsAt_concat once
      simp [groupsAt_cons, addToGroups, rest]
    · have elsewhere : f.dataPath ≠ p := Ne.symm same
      have added := ih nodup fun new => fresh (List.not_mem_cons_of_ne_of_not_mem elsewhere new)
      have mem : f.dataPath ∈ p :: places ↔ f.dataPath ∈ places := by simp [elsewhere]
      rw [groupsAt_cons, addToGroups, if_neg same, added]
      by_cases seen : f.dataPath ∈ places
      · rw [if_pos seen, if_pos (mem.2 seen), groupsAt_cons, filter_concat_of_ne elsewhere]
      · rw [if_neg seen, if_neg (mt mem.1 seen), List.cons_append, groupsAt_cons,
          filter_concat_of_ne elsewhere]

/-! ### Groups of all findings -/

def foundPlaces (o : Outcome) : List Pointer :=
  o.findings.map (·.dataPath)

def groupPlaces (o : Outcome) : List Pointer :=
  o.byDataPath.map Prod.fst

/-- Grouping comes to collecting the places and then the findings at each of them. The induction is
on the findings from the end, where the next one is added. -/
theorem foldl_addToGroups (fs : List Finding) :
    fs.foldl (fun groups f => addToGroups f groups) [] =
      groupsAt fs (fs.map (·.dataPath)).eraseDups := by
  induction fs using List.reverseRecOn with
  | nil => rfl
  | append_singleton fs f ih =>
    -- A place without a group is one where nothing was found so far.
    have fresh : f.dataPath ∉ (fs.map (·.dataPath)).eraseDups →
        fs.filter (·.dataPath = f.dataPath) = [] := by
      intro new
      refine List.filter_eq_nil_iff.2 fun g mem same => new ?_
      exact List.mem_eraseDups.2 (List.mem_map.2 ⟨g, mem, of_decide_eq_true same⟩)
    rw [List.foldl_concat, ih, addToGroups_groupsAt (nodup_eraseDups _) fresh, List.map_append,
      List.map_singleton, eraseDups_concat]
    simp only [List.mem_eraseDups]

/-- There is one group for each place, which consists of the findings there. -/
theorem byDataPath_eq (o : Outcome) :
    o.byDataPath = o.foundPlaces.eraseDups.map fun p => (p, o.findingsFor p) :=
  foldl_addToGroups o.findings

theorem groupPlaces_eq (o : Outcome) : o.groupPlaces = o.foundPlaces.eraseDups := by
  rw [groupPlaces, byDataPath_eq, List.map_map]
  exact List.map_id _

theorem mem_findingsFor {o : Outcome} {p : Pointer} {f : Finding} :
    f ∈ o.findingsFor p ↔ f ∈ o.findings ∧ f.dataPath = p := by
  simp [findingsFor]

theorem findingsFor_eq_nil_iff {o : Outcome} {p : Pointer} :
    o.findingsFor p = [] ↔ p ∉ o.groupPlaces := by
  simp [groupPlaces_eq, foundPlaces, findingsFor]

/-! ### Nothing is lost -/

theorem flatMap_addToGroups (f : Finding) (groups : List (Pointer × List Finding)) :
    ((addToGroups f groups).flatMap Prod.snd).Perm (groups.flatMap Prod.snd ++ [f]) := by
  induction groups with
  | nil => exact .refl _
  | cons entry groups ih =>
    obtain ⟨p, group⟩ := entry
    rw [addToGroups, List.flatMap_cons, List.append_assoc]
    split
    · rw [List.flatMap_cons, List.append_assoc]
      exact List.perm_append_comm.append_left group
    · rw [List.flatMap_cons]
      exact ih.append_left group

theorem flatMap_byDataPath (o : Outcome) : (o.byDataPath.flatMap Prod.snd).Perm o.findings := by
  rw [byDataPath]
  induction o.findings using List.reverseRecOn with
  | nil => exact .refl _
  | append_singleton fs f ih =>
    rw [List.foldl_concat]
    exact (flatMap_addToGroups f _).trans (ih.append_right [f])

/-- There is a group for each place where something was found, in the order in which these places
first occur. It consists of the findings at that place, of which there are none at other places, and
the groups together have as many findings as there are. -/
theorem byDataPath_groups (o : Outcome) :
    (o.groupPlaces.Nodup ∧ (∀ p, p ∈ o.groupPlaces ↔ ∃ f ∈ o.findings, f.dataPath = p) ∧
        o.groupPlaces.Pairwise fun p q => o.foundPlaces.idxOf p < o.foundPlaces.idxOf q) ∧
      (∀ p group, (p, group) ∈ o.byDataPath ↔ group ≠ [] ∧ group = o.findingsFor p) ∧
      (∀ p, (o.findingsFor p).Sublist o.findings ∧
        ∀ f, f ∈ o.findingsFor p ↔ f ∈ o.findings ∧ f.dataPath = p) ∧
      (∀ p, o.findingsFor p = [] ↔ p ∉ o.groupPlaces) ∧
      (o.byDataPath.flatMap Prod.snd).Perm o.findings ∧
      (o.byDataPath.map fun entry => entry.2.length).sum = o.findings.length := by
  refine ⟨⟨?_, fun p => ?_, ?_⟩, fun p group => ?_, fun p => ⟨List.filter_sublist, fun f =>
    mem_findingsFor⟩, fun p => findingsFor_eq_nil_iff, flatMap_byDataPath o, ?_⟩
  · exact groupPlaces_eq o ▸ nodup_eraseDups _
  · rw [groupPlaces_eq, List.mem_eraseDups, foundPlaces, List.mem_map]
  · exact groupPlaces_eq o ▸ pairwise_idxOf_eraseDups _
  · rw [byDataPath_eq, ← groupPlaces_eq, List.mem_map]
    constructor
    · rintro ⟨q, mem, same⟩
      cases same
      exact ⟨fun none => findingsFor_eq_nil_iff.1 none mem, rfl⟩
    · rintro ⟨some, rfl⟩
      exact ⟨p, not_not.1 (mt findingsFor_eq_nil_iff.2 some), rfl⟩
  · rw [← List.length_flatMap]
    exact (flatMap_byDataPath o).length_eq

end Outcome

end TreeSchema
