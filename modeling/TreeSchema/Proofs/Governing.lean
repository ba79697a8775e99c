import TreeSchema.Proofs.Satisfaction
import TreeSchema.Run.Walk

/-!
The schema that governs a key, read off the keywords. A schema for a key that an
object lacks is looked up in three places, of which the first that has one counts:
the declared members, the patterns in their order, and what is said of all other
members. Entries that are no schemas and patterns that cannot be read are passed
over by the lookup, so all that is known of them is that they govern nothing.
-/

namespace TreeSchema

namespace Members

/-- The key is declared with a schema that is an object. -/
def DeclaresAs (s : Members) (key : String) (g : Members) : Prop :=
  ∃ entries, s.get? "properties" = some (.object entries) ∧
    Members.get? entries key = some (.object g)

/-- No pattern that has a schema finds the key. -/
def Misses (patterns : Members) (key : String) : Prop :=
  ∀ pattern g regex, (pattern, .object g) ∈ patterns →
    Pattern.compile pattern "" = .ok (.ok regex) → regex.finds key = false

/-- The schema `g` governs the key. -/
inductive Governs (s : Members) (key : String) (g : Members) : Prop where
  | declared (declares : s.DeclaresAs key g)
  | matched {before after : Members} {pattern : String} {regex : Pattern.Regex}
      (undeclared : ∀ g', ¬ s.DeclaresAs key g')
      (found : s.get? "patternProperties" =
        some (.object (before ++ (pattern, .object g) :: after)))
      (misses : before.Misses key) (compiles : Pattern.compile pattern "" = .ok (.ok regex))
      (finds : regex.finds key = true)
  | additional (undeclared : ∀ g', ¬ s.DeclaresAs key g')
      (misses : ∀ patterns, s.get? "patternProperties" = some (.object patterns) →
        Misses patterns key)
      (found : s.get? "additionalProperties" = some (.object g))

end Members

section

variable {s patterns g : Members} {key : String} {governing : Option Members}

theorem schemaOfProperties_eq_some_iff :
    schemaOfProperties s key = some g ↔ s.DeclaresAs key g := by
  unfold schemaOfProperties Members.DeclaresAs
  cases s.get? "properties" with
  | none => simp
  | some t =>
    cases t with
    | object entries =>
      cases value : Members.get? entries key with
      | none => simp [value]
      | some u => cases u <;> simp [value]
    | _ => simp

theorem schemaOfAdditional_eq_some (governs : schemaOfAdditional s = some g) :
    s.get? "additionalProperties" = some (.object g) := by
  unfold schemaOfAdditional at governs
  split at governs
  · next read =>
    cases governs
    obtain ⟨t, found, read⟩ := Option.bind_eq_some_iff.1 read
    rw [found, Additional.eq_object read]
  · cases governs

theorem Members.Misses.cons {entry : String × Tree} (first : Misses [entry] key)
    (rest : Misses patterns key) : Misses (entry :: patterns) key := by
  intro pattern g regex mem compiles
  rcases List.mem_cons.1 mem with rfl | mem
  · exact first pattern g regex List.mem_cons_self compiles
  · exact rest pattern g regex mem compiles

theorem Members.Misses.of_mem (misses : Misses patterns key) {entry : String × Tree}
    (mem : entry ∈ patterns) : Misses [entry] key :=
  fun pattern g regex same compiles =>
    misses pattern g regex (List.mem_singleton.1 same ▸ mem) compiles

/-- A pattern with a schema that finds the key ends the search, and any other is passed over. -/
theorem schemaAmongPatterns_cons {pattern : String} {t : Tree}
    (search : schemaAmongPatterns key ((pattern, t) :: patterns) = .ok governing) :
    (∃ g regex, t = .object g ∧ Pattern.compile pattern "" = .ok (.ok regex) ∧
      regex.finds key = true ∧ governing = some g) ∨
    Members.Misses [(pattern, t)] key ∧ schemaAmongPatterns key patterns = .ok governing := by
  unfold schemaAmongPatterns at search
  split at search
  · cases search
  · next unread =>
    refine .inr ⟨fun pattern' g regex mem compiles => ?_, search⟩
    cases List.mem_singleton.1 mem
    cases unread.symm.trans compiles
  · next regex compiles =>
    split at search
    · next g =>
      split at search
      · next finds =>
        cases search
        exact .inl ⟨g, regex, rfl, compiles, finds, rfl⟩
      · next misses =>
        refine .inr ⟨fun pattern' g' regex' mem compiles' => ?_, search⟩
        cases List.mem_singleton.1 mem
        cases compiles.symm.trans compiles'
        simpa using misses
    · next other =>
      refine .inr ⟨fun pattern' g regex' mem _ => ?_, search⟩
      cases List.mem_singleton.1 mem
      exact absurd rfl (other g)

theorem schemaAmongPatterns_eq_some (search : schemaAmongPatterns key patterns = .ok (some g)) :
    ∃ before pattern after regex, patterns = before ++ (pattern, .object g) :: after ∧
      Members.Misses before key ∧ Pattern.compile pattern "" = .ok (.ok regex) ∧
      regex.finds key = true := by
  induction patterns with
  | nil => cases search
  | cons entry rest ih =>
    obtain ⟨pattern, t⟩ := entry
    rcases schemaAmongPatterns_cons search with ⟨_, regex, rfl, compiles, finds, ⟨⟩⟩ |
      ⟨passed, search⟩
    · exact ⟨[], pattern, rest, regex, rfl, nofun, compiles, finds⟩
    · obtain ⟨before, pattern', after, regex, rfl, misses, compiles, finds⟩ := ih search
      exact ⟨(pattern, t) :: before, pattern', after, regex, rfl, passed.cons misses, compiles,
        finds⟩

theorem schemaAmongPatterns_eq_none (search : schemaAmongPatterns key patterns = .ok none) :
    patterns.Misses key := by
  induction patterns with
  | nil => nofun
  | cons entry rest ih =>
    rcases schemaAmongPatterns_cons search with ⟨_, _, _, _, _, ⟨⟩⟩ | ⟨passed, search⟩
    exact passed.cons (ih search)

/-- The lookup finds a schema that governs the key. -/
theorem governs_of_propertySchema (governs : propertySchema s key = .ok (some g)) :
    s.Governs key g := by
  unfold propertySchema at governs
  cases declared : schemaOfProperties s key with
  | some g' =>
    rw [declared] at governs
    cases governs
    exact .declared (schemaOfProperties_eq_some_iff.1 declared)
  | none =>
    have undeclared (g' : Members) : ¬ s.DeclaresAs key g' := fun declares =>
      nomatch declared.symm.trans (schemaOfProperties_eq_some_iff.2 declares)
    rw [declared] at governs
    match searched : schemaOfPatterns s key with
    | .error cause =>
      rw [searched] at governs
      cases governs
    | .ok (some g') =>
      rw [searched] at governs
      cases governs
      unfold schemaOfPatterns at searched
      split at searched
      · next patterns found =>
        obtain ⟨before, pattern, after, regex, rfl, misses, compiles, finds⟩ :=
          schemaAmongPatterns_eq_some searched
        exact .matched undeclared found misses compiles finds
      · cases searched
    | .ok none =>
      have rest : schemaOfAdditional s = some g := by
        simpa [searched, bind, Except.bind, pure, Except.pure] using governs
      refine .additional undeclared (fun patterns found => ?_) (schemaOfAdditional_eq_some rest)
      rw [schemaOfPatterns, found] at searched
      exact schemaAmongPatterns_eq_none searched

end

end TreeSchema
