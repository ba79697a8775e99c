/-!
Pointers: the written path from the root of a tree to a node. Each step is a
key or an index after a slash; a tilde in a key is written `~0` and a slash
`~1`, so that the steps can be read back: unescaping undoes escaping, and the
pointer of a longer path is the pointer of its parts one after the other.
-/

namespace TreeSchema

inductive Segment where
  | key (k : String)
  | index (i : Int)
  deriving DecidableEq

def Segment.text : Segment → String
  | .key k => k
  | .index i => toString i

namespace Pointer

def escapeChar (c : Char) : List Char :=
  if c = '~' then ['~', '0']
  else if c = '/' then ['~', '1']
  else [c]

def escape (s : String) : String :=
  String.ofList (s.toList.flatMap escapeChar)

end Pointer

structure Pointer where
  text : String
  deriving DecidableEq

namespace Pointer

/-- The pointer to the node one stands on. -/
def here : Pointer := ⟨""⟩

def append (p q : Pointer) : Pointer :=
  ⟨p.text ++ q.text⟩

instance : Append Pointer := ⟨append⟩

@[simp] theorem text_append (p q : Pointer) : (p ++ q).text = p.text ++ q.text := rfl

theorem append_assoc (p q r : Pointer) : p ++ q ++ r = p ++ (q ++ r) :=
  congrArg Pointer.mk (String.append_assoc ..)

@[simp] theorem here_append (p : Pointer) : here ++ p = p :=
  congrArg Pointer.mk (String.empty_append ..)

@[simp] theorem append_here (p : Pointer) : p ++ here = p :=
  congrArg Pointer.mk (String.append_empty ..)

theorem append_left_cancel {p q r : Pointer} (h : p ++ q = p ++ r) : q = r := by
  have texts : p.text ++ q.text = p.text ++ r.text := congrArg Pointer.text h
  cases q
  cases r
  exact congrArg Pointer.mk ((String.append_right_inj _).1 texts)

def ofSegment (s : Segment) : Pointer :=
  ⟨"/" ++ escape s.text⟩

/-- The pointer of a path of steps. -/
def ofSegments (path : List Segment) : Pointer :=
  path.foldr (fun s p => ofSegment s ++ p) here

theorem ofSegments_append (xs ys : List Segment) :
    ofSegments (xs ++ ys) = ofSegments xs ++ ofSegments ys := by
  induction xs with
  | nil => simp [ofSegments]
  | cons x xs ih => simp_all [ofSegments, append_assoc]

def key (k : String) : Pointer :=
  ofSegments [.key k]

def index (i : Nat) : Pointer :=
  ofSegments [.index i]

/-- The pointer of a keyword, and of an entry of a keyword. -/
def entry (keyword : String) (s : Segment) : Pointer :=
  ofSegments [.key keyword, s]

/-- The pointer in reports, where the root has a name. -/
def label (p : Pointer) : String :=
  if p.text.isEmpty then "<root>" else p.text

/-! Reading a pointer back: the steps between the slashes, unescaped. -/

def unescape : List Char → List Char
  | '~' :: '0' :: rest => '~' :: unescape rest
  | '~' :: '1' :: rest => '/' :: unescape rest
  | c :: rest => c :: unescape rest
  | [] => []

theorem unescape_cons {c : Char} (h : c ≠ '~') (cs : List Char) :
    unescape (c :: cs) = c :: unescape cs := by
  conv => lhs; unfold unescape
  split <;> simp_all

/-- Unescaping gives back what was escaped. -/
theorem unescape_flatMap_escapeChar (cs : List Char) : unescape (cs.flatMap escapeChar) = cs := by
  induction cs with
  | nil => rfl
  | cons c cs ih =>
    rw [List.flatMap_cons]
    by_cases h : c = '~'
    · subst h; simp [escapeChar, unescape, ih]
    · by_cases h' : c = '/'
      · subst h'; simp [escapeChar, unescape, ih]
      · simp [escapeChar, h, h', unescape_cons h, ih]

/-- The pieces of a text between slashes; there is always at least one. -/
def pieces : List Char → List (List Char)
  | [] => [[]]
  | c :: rest =>
    match pieces rest with
    | [] => [[c]]
    | piece :: more => if c = '/' then [] :: piece :: more else (c :: piece) :: more

/-- The texts of the steps of a pointer. -/
def steps (p : Pointer) : List String :=
  ((pieces p.text.toList).drop 1).map fun piece => String.ofList (unescape piece)

theorem slash_notMem_escape (cs : List Char) : '/' ∉ cs.flatMap escapeChar := by
  intro mem
  obtain ⟨c, -, mem⟩ := List.mem_flatMap.1 mem
  unfold escapeChar at mem
  split at mem
  · simp at mem
  · split at mem
    · simp at mem
    · next other =>
      cases List.mem_singleton.1 mem
      exact other rfl

/-- Text without a slash belongs to the first piece. -/
theorem pieces_append {xs : List Char} (h : '/' ∉ xs) {ys piece : List Char}
    {more : List (List Char)} (rest : pieces ys = piece :: more) :
    pieces (xs ++ ys) = (xs ++ piece) :: more := by
  induction xs with
  | nil => exact rest
  | cons c xs ih =>
    rw [List.mem_cons, not_or] at h
    rw [List.cons_append, pieces, ih h.2]
    exact if_neg (Ne.symm h.1)

theorem pieces_ofSegments (path : List Segment) :
    pieces (ofSegments path).text.toList =
      [] :: path.map fun s => s.text.toList.flatMap escapeChar := by
  induction path with
  | nil => rfl
  | cons s path ih =>
    have text : (ofSegments (s :: path)).text.toList =
        '/' :: (s.text.toList.flatMap escapeChar ++ (ofSegments path).text.toList) := by
      simp [ofSegments, ofSegment, escape]
    rw [text, pieces, pieces_append (slash_notMem_escape _) ih, List.append_nil]
    rfl

/-- The steps of the pointer of a path are the texts of the path. -/
theorem steps_ofSegments (path : List Segment) :
    (ofSegments path).steps = path.map Segment.text := by
  rw [steps, pieces_ofSegments, List.drop_succ_cons, List.drop_zero, List.map_map]
  refine List.map_congr_left fun s _ => ?_
  rw [Function.comp_apply, unescape_flatMap_escapeChar, String.ofList_toList]

theorem key_injective {k l : String} (same : key k = key l) : k = l := by
  have texts := congrArg steps same
  rw [key, key, steps_ofSegments, steps_ofSegments] at texts
  exact (List.cons.inj texts).1

theorem here_ne_key (k : String) : here ≠ key k := by
  intro same
  have texts : (ofSegments []).steps = (key k).steps := congrArg steps same
  rw [key, steps_ofSegments, steps_ofSegments] at texts
  cases texts

/-- Nothing stands before the first slash of the pointer. -/
def Rooted (p : Pointer) : Prop :=
  (pieces p.text.toList).head? = some []

theorem rooted_ofSegments (path : List Segment) : (ofSegments path).Rooted := by
  rw [Rooted, pieces_ofSegments]
  rfl

end Pointer

end TreeSchema
