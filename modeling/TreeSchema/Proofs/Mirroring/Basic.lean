import TreeSchema.Proofs.Collecting
import TreeSchema.Proofs.Matching

/-!
Two runs side by side. What a stage of a run that collects all findings and does not
coerce tells is known from the node it meets: it yields findings, or it ends the run.
Two stages mirror each other at two nodes when what they yield agrees: both tell
findings that are rearrangements of each other, or both end in a fault. A failure
agrees with everything, since nothing is said about runs that fail.

A sequence of stages that leave the node as it is has no interruption exactly when
none of its stages has, in whatever order they stand, and then its findings are those
of its stages. So loops mirror each other when their turns match in some order.
-/

namespace TreeSchema

/-! ### Results that agree -/

/-- Two results agree: related values, or two faults. A failure agrees with everything. -/
inductive Agrees {α β : Type} (R : α → β → Prop) :
    Except Interruption α → Except Interruption β → Prop where
  | left (cause : Failure) (y : Except Interruption β) : Agrees R (.error (.failure cause)) y
  | right (x : Except Interruption α) (cause : Failure) : Agrees R x (.error (.failure cause))
  | faults (f g : Fault) : Agrees R (.error (.fault f)) (.error (.fault g))
  | ok {a : α} {b : β} (related : R a b) : Agrees R (.ok a) (.ok b)

namespace Agrees

variable {α β γ δ : Type} {R : α → β → Prop} {S : γ → δ → Prop} {x : Except Interruption α}
  {y : Except Interruption β}

theorem errors (i j : Interruption) : Agrees R (.error i) (.error j) := by
  cases i with
  | failure cause => exact .left cause _
  | fault f =>
    cases j with
    | failure cause => exact .right _ cause
    | fault g => exact .faults f g

theorem bind (h : Agrees R x y) {f : α → Except Interruption γ} {g : β → Except Interruption δ}
    (next : ∀ a b, R a b → Agrees S (f a) (g b)) : Agrees S (x >>= f) (y >>= g) := by
  cases h with
  | left cause => exact .left cause _
  | right _ cause => exact .right _ cause
  | faults f g => exact .faults f g
  | ok related => exact next _ _ related

theorem map (h : Agrees R x y) {f : α → γ} {g : β → δ} (related : ∀ a b, R a b → S (f a) (g b)) :
    Agrees S (x.map f) (y.map g) := by
  cases h with
  | left cause => exact .left cause _
  | right _ cause => exact .right _ cause
  | faults f g => exact .faults f g
  | ok h => exact .ok (related _ _ h)

theorem of_map {f : α → γ} {g : β → δ} (h : Agrees S (x.map f) (y.map g)) :
    Agrees (fun a b => S (f a) (g b)) x y := by
  cases x with
  | error i =>
    cases y with
    | error j => exact .errors i j
    | ok b =>
      cases h with
      | left cause => exact .left cause _
  | ok a =>
    cases y with
    | error j =>
      cases h with
      | right _ cause => exact .right _ cause
    | ok b =>
      cases h with
      | ok related => exact .ok related

theorem ended (h : Agrees R x y) (ends : ∀ cause, x ≠ .error (.failure cause))
    (ends' : ∀ cause, y ≠ .error (.failure cause)) :
    (∃ f g, x = .error (.fault f) ∧ y = .error (.fault g)) ∨
      ∃ a b, x = .ok a ∧ y = .ok b ∧ R a b := by
  cases h with
  | left cause => exact absurd rfl (ends cause)
  | right _ cause => exact absurd rfl (ends' cause)
  | faults f g => exact .inl ⟨f, g, rfl, rfl⟩
  | ok related => exact .inr ⟨_, _, rfl, rfl, related⟩

end Agrees

/-! ### Telling one after the other -/

/-- What is told one after the other, up to the first interruption. -/
def gather {α : Type} : List (Except Interruption (List α)) → Except Interruption (List α)
  | [] => .ok []
  | x :: rest => do return (← x) ++ (← gather rest)

/-- What a result tells, and nothing if it is an interruption. -/
def itemsOf {α : Type} (x : Except Interruption (List α)) : List α :=
  x.toOption.getD []

section

variable {α β : Type} {xs : List (Except Interruption (List α))}
  {ys : List (Except Interruption (List β))} {R : α → β → Prop}

theorem gather_eq_ok {all : List α} (h : gather xs = .ok all) :
    (∀ x ∈ xs, ∃ items, x = .ok items) ∧ all = xs.flatMap itemsOf := by
  induction xs generalizing all with
  | nil =>
    cases h
    exact ⟨List.forall_mem_nil _, rfl⟩
  | cons x rest ih =>
    cases x with
    | error i => cases h
    | ok items =>
      cases more : gather rest with
      | error i =>
        rw [gather, more] at h
        cases h
      | ok others =>
        rw [gather, more] at h
        cases h
        obtain ⟨ended, rfl⟩ := ih more
        exact ⟨List.forall_mem_cons.2 ⟨⟨items, rfl⟩, ended⟩, rfl⟩

theorem mem_of_gather_eq_error {i : Interruption} (h : gather xs = .error i) : .error i ∈ xs := by
  induction xs with
  | nil => cases h
  | cons x rest ih =>
    cases x with
    | error j =>
      cases h
      exact List.mem_cons_self
    | ok items =>
      cases more : gather rest with
      | error j =>
        rw [gather, more] at h
        cases h
        exact List.mem_cons_of_mem _ (ih more)
      | ok others =>
        rw [gather, more] at h
        cases h

/-- Results that agree in some order agree when they are told one after the other. -/
theorem Agrees.gather (h : Rearranges (Agrees (Rearranges R)) xs ys) :
    Agrees (Rearranges R) (gather xs) (TreeSchema.gather ys) := by
  cases left : TreeSchema.gather xs with
  | error i =>
    cases right : TreeSchema.gather ys with
    | error j => exact .errors i j
    | ok told =>
      -- A fault on the one side has a partner on the other, which then is no value.
      obtain ⟨y, mem, agrees⟩ := h.exists_left (mem_of_gather_eq_error left)
      obtain ⟨items, rfl⟩ := (gather_eq_ok right).1 y mem
      cases agrees with
      | left cause => exact .left cause _
  | ok told =>
    obtain ⟨ended, rfl⟩ := gather_eq_ok left
    cases right : TreeSchema.gather ys with
    | error j =>
      obtain ⟨x, mem, agrees⟩ := h.exists_right (mem_of_gather_eq_error right)
      obtain ⟨items, rfl⟩ := ended x mem
      cases agrees with
      | right _ cause => exact .right _ cause
    | ok told =>
      obtain ⟨ended', rfl⟩ := gather_eq_ok right
      refine .ok (h.flatMap fun x mem y mem' agrees => ?_)
      obtain ⟨items, rfl⟩ := ended x mem
      obtain ⟨items', rfl⟩ := ended' y mem'
      cases agrees with
      | ok related => exact related

end

/-! ### What a stage yields -/

namespace Run

/-- The findings of a run that comes to an end, or what interrupts it. -/
def told (r : Run) : Except Interruption (List Finding) :=
  match r.interruption? with
  | some i => .error i
  | none => .ok r.findings

theorem told_of_none {r : Run} (h : r.interruption? = none) : r.told = .ok r.findings := by
  rw [told, h]

theorem told_of_some {r : Run} {i : Interruption} (h : r.interruption? = some i) :
    r.told = .error i := by
  rw [told, h]

end Run

/-- The finding of a violation, or why it cannot be told. -/
def Violation.told (v : Violation) : Except Interruption (List Finding) :=
  match v.finding with
  | .ok f => .ok [f]
  | .error cause => .error (.failure cause)

/-- What is told by a part, seen from further up. -/
def toldUnder (data path : Pointer) :
    Except Interruption (List Finding) → Except Interruption (List Finding)
  | .ok found => .ok (found.map (·.under data path))
  | .error i => .error (i.under path)

abbrev TellAlike : Except Interruption (List Finding) → Except Interruption (List Finding) → Prop :=
  Agrees (Rearranges Finding.Rearranged)

theorem TellAlike.refl (x : Except Interruption (List Finding)) : TellAlike x x := by
  cases x with
  | error i => exact .errors i i
  | ok found => exact .ok (.of_perm (.refl found) fun f _ => .refl f)

/-- Runs that tell alike both come to an end or both do not, unless one of them fails. -/
theorem Agrees.of_told {r r' : Run} (h : TellAlike r.told r'.told) :
    (∃ cause, r.interruption? = some (.failure cause)) ∨
    (∃ cause, r'.interruption? = some (.failure cause)) ∨
    (∃ i j, r.interruption? = some i ∧ r'.interruption? = some j) ∨
    r.interruption? = none ∧ r'.interruption? = none ∧
      Rearranges Finding.Rearranged r.findings r'.findings := by
  unfold Run.told at h
  cases stops : r.interruption? with
  | some i =>
    cases stops' : r'.interruption? with
    | some j => exact .inr (.inr (.inl ⟨i, j, rfl, rfl⟩))
    | none =>
      rw [stops, stops'] at h
      cases h with
      | left cause => exact .inl ⟨cause, rfl⟩
  | none =>
    cases stops' : r'.interruption? with
    | some j =>
      rw [stops, stops'] at h
      cases h with
      | right _ cause => exact .inr (.inl ⟨cause, rfl⟩)
    | none =>
      rw [stops, stops'] at h
      cases h with
      | ok related => exact .inr (.inr (.inr ⟨rfl, rfl, related⟩))

theorem Agrees.under {x y : Except Interruption (List Finding)} (h : TellAlike x y)
    (data path : Pointer) : TellAlike (toldUnder data path x) (toldUnder data path y) := by
  cases h with
  | left cause => exact .left cause _
  | right _ cause => exact .right _ cause
  | faults f g => exact .faults _ _
  | ok related =>
    exact .ok (related.of_mem fun _ _ _ _ same => same.under data path).map

namespace Stage

def told (s : Stage) (n : Tree) : Except Interruption (List Finding) :=
  (s ⟨n, []⟩).told

/-- What the stage does at the node, whatever it is handed: it adds findings and leaves the node
after it, or it interrupts the run. -/
def Yields (s : Stage) (n after : Tree) : Except Interruption (List Finding) → Prop
  | .ok found => ∀ held, s ⟨n, held⟩ = ⟨⟨after, held ++ found⟩, none⟩
  | .error i => ∀ held, (s ⟨n, held⟩).interruption? = some i

namespace Yields

variable {s : Stage} {xs : List Stage} {n m after : Tree} {x y : Except Interruption (List Finding)}
  {coercing : Bool}

theorem told_eq (h : Yields s n after x) : s.told n = x := by
  cases x with
  | ok found => rw [told, h []]; rfl
  | error i => exact Run.told_of_some (h [])

theorem skip : Yields skip n n (.ok []) :=
  fun held => by rw [List.append_nil]; rfl

theorem interrupt (i : Interruption) : Yields (interrupt i) n after (.error i) :=
  fun _ => rfl

theorem replace : Yields (replace after) n after (.ok []) :=
  fun held => by rw [List.append_nil]; rfl

theorem reject (options : Options) (v : Violation) :
    Yields (reject (.collecting options coercing) v) n n v.told := by
  unfold Stage.reject Violation.told
  cases v.finding with
  | ok f => exact fun _ => rfl
  | error cause => exact interrupt _

theorem at_node {s' : Stage} (h : Yields s' n after x)
    (same : ∀ held, s ⟨n, held⟩ = s' ⟨n, held⟩) : Yields s n after x := by
  cases x with
  | ok found => exact fun held => (same held).trans (h held)
  | error i => exact fun held => (congrArg Run.interruption? (same held)).trans (h held)

theorem cons (first : Yields s n m x) (rest : Yields (sequence xs) m after y) :
    Yields (sequence (s :: xs)) n after (do return (← x) ++ (← y)) := by
  cases x with
  | error i =>
    -- The sequence ends where its first stage does, and the rest is not looked at.
    intro held
    have stops := first held
    cases stopped : (s ⟨n, held⟩).stop with
    | none => simp [Run.interruption?, stopped] at stops
    | some stop => rwa [sequence_cons_of_some stopped]
  | ok found =>
    have on (held : List Finding) :
        sequence (s :: xs) ⟨n, held⟩ = sequence xs ⟨m, held ++ found⟩ := by
      rw [sequence_cons_of_none (by rw [first held]), first held]
    cases y with
    | error i => exact fun held => (congrArg Run.interruption? (on held)).trans (rest _)
    | ok more =>
      intro held
      rw [on, rest, List.append_assoc]

theorem cons_of_nil (first : Yields s n m (.ok [])) (rest : Yields (sequence xs) m after y) :
    Yields (sequence (s :: xs)) n after y := by
  have both := first.cons rest
  cases y with
  | error i => exact both
  | ok found => exact both

theorem map {α : Type} {f : α → Stage} {tells : α → Except Interruption (List Finding)}
    {xs : List α} (each : ∀ x ∈ xs, Yields (f x) n n (tells x)) :
    Yields (sequence (xs.map f)) n n (gather (xs.map tells)) := by
  induction xs with
  | nil => exact skip
  | cons x rest ih =>
    exact (each x List.mem_cons_self).cons (ih fun y mem => each y (List.mem_cons_of_mem _ mem))

theorem join (options : Options) (part : Run) (place : Tree → Tree) (data path : Pointer) :
    Yields (join (.collecting options coercing) part place data path) n
      (if coercing then place part.node else n) (toldUnder data path part.told) := by
  cases stopped : part.interruption? with
  | some i =>
    rw [Run.told_of_some stopped]
    exact fun held => congrArg Run.interruption? (join_of_some stopped ..)
  | none =>
    rw [Run.told_of_none stopped]
    exact fun _ => join_collecting stopped ..

end Yields

/-! ### Stages that mirror each other -/

/-- What the stages yield at the nodes agrees. -/
def Mirrors (s t : Stage) (n n' after after' : Tree) : Prop :=
  ∃ x y, Yields s n after x ∧ Yields t n' after' y ∧ TellAlike x y

namespace Mirrors

variable {s t : Stage} {xs ys : List Stage} {n n' m m' after after' : Tree} {options : Options}

theorem told_agrees (h : Mirrors s t n n' after after') : TellAlike (s.told n) (t.told n') := by
  obtain ⟨x, y, left, right, agrees⟩ := h
  rwa [left.told_eq, right.told_eq]

theorem skip : Mirrors skip skip n n' n n' :=
  ⟨_, _, .skip, .skip, .ok .nil⟩

theorem interrupt (i j : Interruption) :
    Mirrors (interrupt i) (Stage.interrupt j) n n' after after' :=
  ⟨_, _, .interrupt i, .interrupt j, .errors i j⟩

theorem malformed (path path' : Pointer) (cause cause' : Malformed) :
    Mirrors (malformed path cause) (Stage.malformed path' cause') n n' after after' :=
  interrupt _ _

theorem replace : Mirrors (replace after) (Stage.replace after') n n' after after' :=
  ⟨_, _, .replace, .replace, .ok .nil⟩

theorem reject (options : Options) (v : Violation) :
    Mirrors (reject (.collecting options false) v) (Stage.reject (.collecting options false) v)
      n n' n n' :=
  ⟨_, _, .reject options v, .reject options v, .refl _⟩

theorem at_node {s' t' : Stage} (h : Mirrors s' t' n n' after after')
    (left : ∀ held, s ⟨n, held⟩ = s' ⟨n, held⟩) (right : ∀ held, t ⟨n', held⟩ = t' ⟨n', held⟩) :
    Mirrors s t n n' after after' := by
  obtain ⟨x, y, yields, yields', agrees⟩ := h
  exact ⟨x, y, yields.at_node left, yields'.at_node right, agrees⟩

theorem cons (first : Mirrors s t n n' m m')
    (rest : Mirrors (sequence xs) (sequence ys) m m' after after') :
    Mirrors (sequence (s :: xs)) (sequence (t :: ys)) n n' after after' := by
  obtain ⟨x, y, left, right, agrees⟩ := first
  obtain ⟨z, w, left', right', agrees'⟩ := rest
  refine ⟨_, _, left.cons left', right.cons right', agrees.bind fun _ _ related => ?_⟩
  exact agrees'.bind fun _ _ related' => .ok (related.append related')

theorem nil : Mirrors (sequence []) (sequence []) n n' n n' :=
  skip

theorem map {α β : Type} {f : α → Stage} {g : β → Stage} {xs : List α} {ys : List β}
    (h : Rearranges (fun x y => Mirrors (f x) (g y) n n' n n') xs ys) :
    Mirrors (sequence (xs.map f)) (sequence (ys.map g)) n n' n n' := by
  -- What a turn yields is what it tells at the node, so it can be said without its partner.
  have left (x : α) (mem : x ∈ xs) : Yields (f x) n n ((f x).told n) := by
    obtain ⟨y, -, _, _, yields, -⟩ := h.exists_left mem
    rwa [yields.told_eq]
  have right (y : β) (mem : y ∈ ys) : Yields (g y) n' n' ((g y).told n') := by
    obtain ⟨x, -, _, _, -, yields, -⟩ := h.exists_right mem
    rwa [yields.told_eq]
  have agree := h.of_mem fun _ _ _ _ mirrors => mirrors.told_agrees
  exact ⟨_, _, .map left, .map right, .gather agree.map⟩

theorem perm {α : Type} {f g : α → Stage} {xs ys : List α} (perm : xs.Perm ys)
    (each : ∀ x, Mirrors (f x) (g x) n n' n n') :
    Mirrors (sequence (xs.map f)) (sequence (ys.map g)) n n' n n' :=
  map (.of_perm perm fun x _ => each x)

theorem mapIdx {α β : Type} {f : Nat → α → Stage} {g : Nat → β → Stage} {xs : List α}
    {ys : List β} {R : α → β → Prop} (h : List.Forall₂ R xs ys)
    (each : ∀ index, ∀ x ∈ xs, ∀ y, R x y → Mirrors (f index x) (g index y) n n' n n') :
    Mirrors (sequence (xs.mapIdx f)) (sequence (ys.mapIdx g)) n n' n n' := by
  induction h generalizing f g with
  | nil => exact nil
  | cons related _ ih =>
    rw [List.mapIdx_cons, List.mapIdx_cons]
    exact (each 0 _ List.mem_cons_self _ related).cons
      (ih fun index x mem y => each (index + 1) x (List.mem_cons_of_mem _ mem) y)

theorem join {part part' : Run} (h : TellAlike part.told part'.told) (place place' : Tree → Tree)
    (data path : Pointer) :
    Mirrors (join (.collecting options false) part place data path)
      (Stage.join (.collecting options false) part' place' data path) n n' n n' :=
  ⟨_, _, .join .., .join .., h.under data path⟩

end Mirrors

end Stage

end TreeSchema
