import TreeSchema.Run.Congruence

/-!
Where stages lead. A stage leads from one property of the progress to another when it
comes to progress with the second from progress with the first, if it goes on at all.
There is a rule for each way of putting stages together: for a row of stages, for a loop
whose turns keep a property, for one whose turns count, and for one in which a single
turn makes the difference. A property of the findings only that outlasts each finding
that is reported outlasts all stages of a schema. A property of the node may last through
stages whether they go on or not, as it does where findings are only reported; so it is
there whenever a row comes to one of its stages, and from behind that one to the end.
-/

namespace TreeSchema.Stage

/-- From progress with the one property the stage leads to progress with the other, if it goes on
at all. -/
def Leads (P Q : Progress → Prop) (stage : Stage) : Prop :=
  ∀ p, P p → (stage p).stop = none → Q (stage p).toProgress

namespace Leads

variable {P Q R : Progress → Prop} {stage : Stage} {xs : List Stage} {α : Type} {f : α → Stage}

theorem skip : Leads P P skip :=
  fun _ holds _ => holds

theorem interrupt (i : Interruption) : Leads P Q (interrupt i) :=
  fun _ _ goes => nomatch goes

theorem cons (first : Leads P Q stage) (rest : Leads Q R (sequence xs)) :
    Leads P R (sequence (stage :: xs)) := by
  intro p holds goes
  cases stopped : (stage p).stop with
  | none =>
    rw [sequence_cons_of_none stopped] at goes ⊢
    exact rest _ (first p holds stopped) goes
  | some stop =>
    rw [sequence_cons_of_some stopped, stopped] at goes
    cases goes

theorem map {xs : List α} (each : ∀ x ∈ xs, Leads P P (f x)) :
    Leads P P (sequence (xs.map f)) := by
  induction xs with
  | nil => exact skip
  | cons x rest ih =>
    exact (each x List.mem_cons_self).cons (ih fun y mem => each y (List.mem_cons_of_mem _ mem))

theorem map_and {xs : List α} {fact : α → Prop}
    (each : ∀ x ∈ xs, Leads P (fun p => P p ∧ fact x) (f x)) :
    Leads P (fun p => P p ∧ ∀ x ∈ xs, fact x) (sequence (xs.map f)) := by
  induction xs with
  | nil => exact fun _ holds _ => ⟨holds, List.forall_mem_nil _⟩
  | cons x rest ih =>
    have others := ih fun y mem => each y (List.mem_cons_of_mem _ mem)
    refine (each x List.mem_cons_self).cons fun p holds goes => ?_
    obtain ⟨after, facts⟩ := others p holds.1 goes
    exact ⟨after, List.forall_mem_cons.2 ⟨holds.2, facts⟩⟩

theorem range {holds : Nat → Progress → Prop} {n : Nat} {f : Nat → Stage}
    (each : ∀ i < n, Leads (holds i) (holds (i + 1)) (f i)) :
    Leads (holds 0) (holds n) (sequence ((List.range n).map f)) := by
  have onwards : ∀ count start, start + count = n →
      Leads (holds start) (holds n) (sequence ((List.range' start count).map f)) := by
    intro count
    induction count with
    | zero =>
      rintro start rfl
      exact skip
    | succ count ih =>
      intro start total
      exact (each start (by omega)).cons (ih (start + 1) (by omega))
  rw [List.range_eq_range']
  exact onwards n 0 (Nat.zero_add n)

theorem byNode (h : ∀ node, ∃ stage', Leads P Q stage' ∧
    ∀ held, stage ⟨node, held⟩ = stage' ⟨node, held⟩) : Leads P Q stage := by
  intro p holds goes
  obtain ⟨stage', leads, same⟩ := h p.node
  rw [show stage p = stage' p from same p.findings] at goes ⊢
  exact leads p holds goes

theorem assuming {fact : Prop} (leads : fact → Leads P Q stage) :
    Leads (fun p => P p ∧ fact) Q stage :=
  fun p holds goes => leads holds.2 p holds.1 goes

theorem mono {Q' : Progress → Prop} (leads : Leads P Q stage) (weaker : ∀ p, Q p → Q' p) :
    Leads P Q' stage :=
  fun p holds goes => weaker _ (leads p holds goes)

theorem of_false : Leads (fun _ => False) Q stage :=
  fun _ never => never.elim

theorem never (leads : Leads P (fun _ => False) stage) : Leads P Q stage :=
  leads.mono fun _ never => never.elim

/-- In a loop whose turns before a certain one keep the first property, and those after it the
second. -/
theorem turn {before after : List α} {x : α} (idle : ∀ y ∈ before, Leads P P (f y))
    (here : Leads P Q (f x)) (later : ∀ y ∈ after, Leads Q Q (f y)) :
    Leads P Q (sequence ((before ++ x :: after).map f)) := by
  induction before with
  | nil => exact here.cons (map later)
  | cons y rest ih =>
    exact (idle y List.mem_cons_self).cons (ih fun z mem => idle z (List.mem_cons_of_mem _ mem))

theorem turn_of_mem [DecidableEq α] {xs : List α} {x : α} (mem : x ∈ xs)
    (idle : ∀ y ∈ xs, y ≠ x → Leads P P (f y)) (here : Leads P Q (f x))
    (later : ∀ y ∈ xs, Leads Q Q (f y)) : Leads P Q (sequence (xs.map f)) := by
  obtain ⟨before, after, rfl, first⟩ := List.eq_append_cons_of_mem mem
  refine turn (fun y mem' => idle y (List.mem_append_left _ mem') ?_) here
    fun y mem' => later y (List.mem_append_right _ (List.mem_cons_of_mem _ mem'))
  rintro rfl
  exact first mem'

end Leads

theorem leads_closed {config : Config} {holds : List Finding → Prop}
    (report : ∀ f, Leads (fun p => holds p.findings) (fun p => holds p.findings)
      (report config f)) :
    Closed config (Leads (fun p => holds p.findings) fun p => holds p.findings) where
  skip := .skip
  interrupt := .interrupt
  replace _ _ held _ := held
  report := report
  cons := .cons
  byNode := .byNode

/-! ### What lasts -/

/-- The property of nodes lasts through each of the stages. -/
def Lasts (xs : List Stage) (meets : Tree → Prop) : Prop :=
  ∀ x ∈ xs, ∀ p, meets p.node → meets (x p).node

theorem Lasts.of_each {xs : List Stage} {p : Progress} {meets : Tree → Prop}
    (lasts : Lasts xs meets) (met : meets p.node) : meets (sequence xs p).node := by
  induction xs generalizing p with
  | nil => exact met
  | cons x rest ih =>
    have first := lasts x List.mem_cons_self p met
    cases stopped : (x p).stop with
    | none =>
      rw [sequence_cons_of_none stopped]
      exact ih (fun y mem => lasts y (List.mem_cons_of_mem _ mem)) first
    | some stop => rwa [sequence_cons_of_some stopped]

/-- A row of stages that starts with one progress comes to the stage with another. -/
inductive Comes : List Stage → Progress → Stage → Progress → Prop where
  | here (stage : Stage) (rest : List Stage) (p : Progress) : Comes (stage :: rest) p stage p
  | later {first stage : Stage} {rest : List Stage} {p q : Progress}
      (goes : (first p).stop = none) (comes : Comes rest (first p).toProgress stage q) :
      Comes (first :: rest) p stage q

namespace Comes

variable {xs : List Stage} {stage : Stage} {p q : Progress} {meets : Tree → Prop}

theorem lasts (comes : Comes xs p stage q) (lasts : Lasts xs meets) (met : meets p.node) :
    meets q.node := by
  induction comes with
  | here => exact met
  | later _ _ ih =>
    obtain ⟨first, rest⟩ := List.forall_mem_cons.1 lasts
    exact ih rest (first _ met)

theorem exists_rest (comes : Comes xs p stage q) :
    ∃ rest, (∀ x ∈ rest, x ∈ xs) ∧ sequence xs p = sequence (stage :: rest) q := by
  induction comes with
  | here stage rest p => exact ⟨rest, fun _ mem => List.mem_cons_of_mem _ mem, rfl⟩
  | later goes _ ih =>
    obtain ⟨rest, behind, same⟩ := ih
    refine ⟨rest, fun x mem => List.mem_cons_of_mem _ (behind x mem), ?_⟩
    rw [sequence_cons_of_none goes, same]

theorem lasts_behind (comes : Comes xs p stage q) (lasts : Lasts xs meets)
    (met : meets (stage q).node) : meets (sequence xs p).node := by
  obtain ⟨rest, behind, same⟩ := comes.exists_rest
  rw [same]
  cases stopped : (stage q).stop with
  | none =>
    rw [sequence_cons_of_none stopped]
    exact Lasts.of_each (fun x mem => lasts x (behind x mem)) met
  | some stop => rwa [sequence_cons_of_some stopped]

end Comes

/-! ### Taking over a part -/

section

variable {config : Config} {part : Run} {place : Tree → Tree} {data path : Pointer} {p : Progress}

theorem ends_of_join (goes : (join config part place data path p).stop = none) :
    part.interruption? = none := by
  cases stopped : part.interruption? with
  | none => rfl
  | some i =>
    rw [join_of_some stopped] at goes
    cases goes

theorem node_of_join :
    (join config part place data path p).node =
      if part.interruption? = none ∧ config.coercing = true then place part.node else p.node := by
  cases stopped : part.interruption? with
  | some i => simp [join_of_some stopped, interrupt]
  | none =>
    have reports (n : Tree) :
        Lasts (part.findings.map fun f => report config (f.under data path)) (· = n) :=
      List.forall_mem_map.2 fun _ _ _ same => same
    rw [join_of_none stopped, (reports _).of_each rfl]
    simp

end

end TreeSchema.Stage
