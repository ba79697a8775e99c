import TreeSchema.Finding
import TreeSchema.Pointer.Join
import TreeSchema.Proofs.Numerals
import TreeSchema.Proofs.Writing

/-!
Pointers decode. A step stands in a pointer behind a slash, with `~0` put for each of
its tildes and then `~1` for each of its slashes. So the only slashes of a pointer are
those before its steps, and between them the replacements are undone, the later one
first. The two passes over the whole text come to a single one that takes character by
character, in both directions: the first pass of reading makes no new `~0`, as it puts
slashes only.
-/

namespace TreeSchema

/-! ### Replacing -/

namespace Text

/-- The text with every occurrence of `old`, which is not empty, replaced from left to right. -/
def replaceAll (old new : List Char) : List Char → List Char
  | [] => []
  | c :: cs =>
    if old <+: c :: cs then new ++ replaceAll old new (cs.drop (old.length - 1))
    else c :: replaceAll old new cs
termination_by cs => cs.length
decreasing_by all_goals simp only [List.length_drop, List.length_cons]; omega

variable {old new : List Char}

@[simp] theorem replaceAll_nil : replaceAll old new [] = [] := by
  rw [replaceAll]

theorem replaceAll_append {c : Char} (rest : List Char) :
    replaceAll (c :: old) new (c :: old ++ rest) = new ++ replaceAll (c :: old) new rest := by
  rw [List.cons_append, replaceAll, if_pos (List.cons_prefix_cons.2 ⟨rfl, List.prefix_append ..⟩)]
  simp

theorem replaceAll_cons {c : Char} {cs : List Char} (other : ¬ old <+: c :: cs) :
    replaceAll old new (c :: cs) = c :: replaceAll old new cs := by
  rw [replaceAll, if_neg other]

theorem replaceAll_cons_of_ne {a c : Char} (other : c ≠ a) (cs : List Char) :
    replaceAll (a :: old) new (c :: cs) = c :: replaceAll (a :: old) new cs :=
  replaceAll_cons fun occurs => other (List.cons_prefix_cons.1 occurs).1.symm

theorem replaceAll_singleton (a : Char) (cs : List Char) :
    replaceAll [a] new cs = cs.flatMap fun c => if c = a then new else [c] := by
  induction cs with
  | nil => simp
  | cons c cs ih =>
    rw [List.flatMap_cons]
    by_cases same : c = a
    · subst same
      rw [if_pos rfl, ← ih]
      exact replaceAll_append cs
    · rw [if_neg same, replaceAll_cons_of_ne same, ih, List.singleton_append]

end Text

/-! ### Steps -/

namespace Segment

/-- The step is not an index too long to be written. -/
def Short : Segment → Prop
  | .key _ => True
  | .index i => (Number.int i).Short

/-- The step as it is spelled in a pointer. -/
def spelled (s : Segment) : String :=
  "/" ++ String.ofList
    (Text.replaceAll ['/'] ['~', '1'] (Text.replaceAll ['~'] ['~', '0'] s.text.toList))

theorem escaped_of_short {s : Segment} (short : s.Short) :
    s.escaped = .ok (Pointer.escape s.text) := by
  cases s with
  | key => rfl
  | index => rw [escaped, write, integerText_eq_ok short]; rfl

theorem escaped_of_not_short {s : Segment} (long : ¬ s.Short) :
    s.escaped = .error .tooLongToWrite := by
  cases s with
  | key => exact absurd trivial long
  | index i =>
    have refused : integerText i = .error .tooLongToWrite := if_neg long
    rw [escaped, write, refused]
    rfl

theorem not_short_pow {k : ℕ} (many : digitLimit ≤ k) : ¬ (index (10 ^ k)).Short := by
  have more : k < digitCount (10 ^ k) :=
    (Nat.pow_lt_pow_iff_right (by decide)).1 (lt_pow_digitCount (10 ^ k))
  have size : ((10 : ℤ) ^ k).natAbs = 10 ^ k := Int.natAbs_pow ..
  rw [Short, Number.Short, size]
  omega

end Segment

namespace Pointer

open Text

/-! ### Escaping and unescaping -/

theorem replaceAll_eq_flatMap_escapeChar (cs : List Char) :
    replaceAll ['/'] ['~', '1'] (replaceAll ['~'] ['~', '0'] cs) = cs.flatMap escapeChar := by
  rw [replaceAll_singleton, replaceAll_singleton, List.flatMap_assoc]
  refine List.flatMap_congr fun c _ => ?_
  by_cases tilde : c = '~'
  · subst tilde; rfl
  · rw [if_neg tilde, escapeChar, if_neg tilde]
    exact List.flatMap_singleton ..

/-- A zero at the head was there before: what is put for `~1` is a slash. -/
theorem zero_prefix_of_replaceAll {cs : List Char}
    (zero : ['0'] <+: replaceAll ['~', '1'] ['/'] cs) : ['0'] <+: cs := by
  cases cs with
  | nil => simp at zero
  | cons c cs =>
    rw [replaceAll] at zero
    split at zero
    · simp at zero
    · simpa using zero

/-- Putting slashes first and then tildes is unescaping. -/
theorem replaceAll_eq_unescape (cs : List Char) :
    replaceAll ['~', '0'] ['~'] (replaceAll ['~', '1'] ['/'] cs) = unescape cs := by
  fun_induction unescape cs with
  | case1 rest ih =>
    have kept : replaceAll ['~', '1'] ['/'] ('~' :: '0' :: rest) =
        '~' :: '0' :: replaceAll ['~', '1'] ['/'] rest := by
      rw [replaceAll_cons (by simp), replaceAll_cons_of_ne (by decide)]
    rw [kept, ← ih]
    exact replaceAll_append _
  | case2 rest ih =>
    have slash : replaceAll ['~', '1'] ['/'] ('~' :: '1' :: rest) =
        '/' :: replaceAll ['~', '1'] ['/'] rest := replaceAll_append _
    rw [slash, replaceAll_cons_of_ne (by decide), ih]
  | case3 c rest zero one ih =>
    have first : replaceAll ['~', '1'] ['/'] (c :: rest) =
        c :: replaceAll ['~', '1'] ['/'] rest := by
      refine replaceAll_cons fun occurs => ?_
      obtain ⟨t, same⟩ := occurs
      obtain ⟨tilde, rest⟩ := List.cons.inj same
      exact one t tilde.symm rest.symm
    -- A tilde that begins no pair must not be paired by the first pass with what follows it.
    rw [first, replaceAll_cons, ih]
    intro occurs
    obtain ⟨tilde, begins⟩ := List.cons_prefix_cons.1 occurs
    obtain ⟨t, rest⟩ := zero_prefix_of_replaceAll begins
    exact zero t tilde.symm rest.symm
  | case4 => simp

/-! ### Decoding -/

/-- The texts between the slashes of a pointer, without the one before the first slash; in each
every `~1` is replaced by a slash and then every `~0` by a tilde. -/
def decode (p : Pointer) : List String :=
  ((p.text.toList.splitOn '/').drop 1).map fun piece =>
    String.ofList (replaceAll ['~', '0'] ['~'] (replaceAll ['~', '1'] ['/'] piece))

theorem pieces_eq_splitOn (cs : List Char) : pieces cs = cs.splitOn '/' := by
  induction cs with
  | nil => rfl
  | cons c cs ih =>
    rw [pieces, ih, List.splitOn_cons_eq_if_modifyHead]
    cases parts : cs.splitOn '/' with
    | nil => exact absurd parts (List.splitOn_ne_nil '/' cs)
    | cons piece more => simp

theorem decode_eq_steps (p : Pointer) : p.decode = p.steps := by
  rw [decode, steps, pieces_eq_splitOn]
  simp only [replaceAll_eq_unescape]

theorem text_ofSegments (path : List Segment) :
    (ofSegments path).text = String.join (path.map Segment.spelled) := by
  induction path with
  | nil => rfl
  | cons s path ih =>
    rw [List.map_cons, String.join_cons, ← ih, Segment.spelled, replaceAll_eq_flatMap_escapeChar]
    rfl

/-! ### Joining -/

theorem join_of_short {path : List Segment} (short : ∀ s ∈ path, s.Short) :
    join path = .ok (ofSegments path) := by
  induction path with
  | nil => rfl
  | cons s path ih =>
    obtain ⟨first, rest⟩ := List.forall_mem_cons.1 short
    rw [join, Segment.escaped_of_short first, ih rest]
    rfl

theorem join_of_not_short {path : List Segment} (long : ∃ s ∈ path, ¬ s.Short) :
    join path = .error .tooLongToWrite := by
  induction path with
  | nil => simp at long
  | cons s path ih =>
    by_cases first : s.Short
    · have rest : ∃ s ∈ path, ¬ s.Short := by simpa [first] using long
      rw [join, Segment.escaped_of_short first, ih rest]
      rfl
    · rw [join, Segment.escaped_of_not_short first]
      rfl

/-- The pointers that joining makes are those of the paths it can write. -/
theorem join_eq_ok_iff {path : List Segment} {p : Pointer} :
    join path = .ok p ↔ (∀ s ∈ path, s.Short) ∧ ofSegments path = p := by
  by_cases short : ∀ s ∈ path, s.Short
  · rw [join_of_short short, Except.ok.injEq]
    exact (and_iff_right short).symm
  · have long : ∃ s ∈ path, ¬ s.Short := by simpa using short
    rw [join_of_not_short long]
    exact iff_of_false nofun fun ⟨all, _⟩ => short all

theorem join_append (xs ys : List Segment) :
    join (xs ++ ys) = do return (← join xs) ++ (← join ys) := by
  induction xs with
  | nil =>
    rw [List.nil_append, join]
    cases join ys <;> rfl
  | cons x xs ih =>
    rw [List.cons_append, join, join, ih]
    cases x.escaped with
    | error => rfl
    | ok text =>
      cases join xs with
      | error => rfl
      | ok p =>
        cases join ys with
        | error => rfl
        | ok q => exact congrArg Except.ok (append_assoc _ p q).symm

theorem join_keys (ks : List String) : join (ks.map .key) = .ok (ofSegments (ks.map .key)) := by
  refine join_of_short fun s mem => ?_
  obtain ⟨k, -, rfl⟩ := List.mem_map.1 mem
  trivial

theorem ofSegments_eq_here_iff {path : List Segment} : ofSegments path = here ↔ path = [] := by
  refine ⟨fun same => ?_, fun empty => empty ▸ rfl⟩
  have texts : (ofSegments path).steps = [] := congrArg steps same
  rw [steps_ofSegments] at texts
  exact List.map_eq_nil_iff.1 texts

/-- The pointer of a path spells its steps one after the other and decodes to their texts; there is
one unless an index is too long to be written. Paths of keys have different pointers, only the empty
path has the empty pointer, and what is prefixed by the pointer of a path is the pointer of the
paths one after the other. -/
theorem join_decodes (xs ys : List Segment) (ks ls : List String) :
    ((∀ s ∈ xs, s.Short) → ∃ p, join xs = .ok p ∧
        p.text = String.join (xs.map Segment.spelled) ∧ p.Rooted ∧
        p.decode = xs.map Segment.text) ∧
      ((∃ s ∈ xs, ¬ s.Short) → join xs = .error .tooLongToWrite) ∧
      (join (ks.map .key) = join (ls.map .key) → ks = ls) ∧
      (join xs = .ok here ↔ xs = []) ∧
      (join (xs ++ ys) = do return (← join xs) ++ (← join ys)) ∧
      ∀ p, join xs = .ok p → ∀ (f : Finding) (q : Pointer),
        (join ys = .ok f.dataPath → join (xs ++ ys) = .ok (f.under p q).dataPath) ∧
        (join ys = .ok f.schemaPath → join (xs ++ ys) = .ok (f.under q p).schemaPath) := by
  refine ⟨fun short => ?_, join_of_not_short, fun same => ?_, ?_, join_append xs ys,
    fun p above f q => ⟨fun below => ?_, fun below => ?_⟩⟩
  · exact ⟨_, join_of_short short, text_ofSegments xs, rooted_ofSegments xs,
      (decode_eq_steps _).trans (steps_ofSegments xs)⟩
  · rw [join_keys, join_keys] at same
    have texts := congrArg steps (Except.ok.inj same)
    rw [steps_ofSegments, steps_ofSegments, List.map_map, List.map_map] at texts
    simpa [Function.comp_def, Segment.text] using texts
  · rw [join_eq_ok_iff, ofSegments_eq_here_iff]
    exact ⟨And.right, fun empty => ⟨by simp [empty], empty⟩⟩
  · rw [join_append, above, below, Finding.dataPath_under]
    rfl
  · rw [join_append, above, below, Finding.schemaPath_under]
    rfl

theorem join_decodes_tildes :
    join [.key "", .key "~01", .key "/~0", .index (-7)] = .ok ⟨"//~001/~1~00/-7"⟩ ∧
      decode ⟨"//~001/~1~00/-7"⟩ = ["", "~01", "/~0", "-7"] := by
  let path : List Segment := [.key "", .key "~01", .key "/~0", .index (-7)]
  have short : ∀ s ∈ path, s.Short := by
    have seven : digitCount 7 ≤ digitLimit := by decide
    simpa [path, Segment.Short, Number.Short] using seven
  have known : join path = .ok ⟨"//~001/~1~00/-7"⟩ := rfl
  obtain ⟨p, joined, -, -, decodes⟩ := (join_decodes path [] [] []).1 short
  obtain rfl : ⟨"//~001/~1~00/-7"⟩ = p := Except.ok.inj (known.symm.trans joined)
  exact ⟨known, decodes⟩

/-- An index with one digit more than can be written has no pointer. -/
theorem not_join_answers :
    join [.index (10 ^ digitLimit)] = .error .tooLongToWrite ∧
      ¬ ∀ path : List Segment, ∃ p, join path = .ok p ∧ p.decode = path.map Segment.text := by
  have fails : join [.index (10 ^ digitLimit)] = .error .tooLongToWrite :=
    join_of_not_short ⟨_, List.mem_singleton_self _, Segment.not_short_pow le_rfl⟩
  refine ⟨fails, fun answers => ?_⟩
  obtain ⟨p, joined, -⟩ := answers [.index (10 ^ digitLimit)]
  exact nomatch fails.symm.trans joined

end Pointer

end TreeSchema
