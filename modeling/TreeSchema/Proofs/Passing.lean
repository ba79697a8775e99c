import TreeSchema.Proofs.Collecting

/-!
Stages and runs that pass: they are handed no findings, add none, and go on. As
long as no finding that was added can get lost (`Keeps`), a sequence passes
exactly when its stages pass one after the other, so a passing run can be taken
apart stage by stage.
-/

namespace TreeSchema

/-- A run under the configuration that has found something never forgets that it has. -/
def Config.Remembers (config : Config) : Prop :=
  ∀ held f, (config.mode.add config.cap held f).1 ≠ []

theorem Config.collecting_remembers (options : Options) (coercing : Bool) :
    (collecting options coercing).Remembers := by
  intro held f
  simp [collecting, Mode.add]

namespace Stage

/-- The stage keeps findings, and only halts when there are some. -/
structure Keeps (stage : Stage) : Prop where
  held : ∀ p, (stage p).findings = [] → p.findings = []
  halted : ∀ p, (stage p).stop = some .halted → (stage p).findings ≠ []

namespace Keeps

theorem of_stop {stage : Stage} {i : Option Interruption}
    (same : ∀ p, (stage p).findings = p.findings)
    (ends : ∀ p, (stage p).stop = i.map .interrupted) : Keeps stage where
  held p clean := by rw [← same, clean]
  halted p stopped := by
    rw [ends] at stopped
    cases i <;> cases stopped

theorem report {config : Config} (remembers : config.Remembers) (f : Finding) :
    Keeps (report config f) where
  held p clean := absurd clean (remembers p.findings f)
  halted p _ := remembers p.findings f

theorem cons {s : Stage} {xs : List Stage} (first : Keeps s) (rest : Keeps (sequence xs)) :
    Keeps (sequence (s :: xs)) where
  held p clean := by
    cases stopped : (s p).stop with
    | none =>
      rw [sequence_cons_of_none stopped] at clean
      exact first.held p (rest.held _ clean)
    | some stop =>
      rw [sequence_cons_of_some stopped] at clean
      exact first.held p clean
  halted p := by
    cases stopped : (s p).stop with
    | none =>
      rw [sequence_cons_of_none stopped]
      exact rest.halted _
    | some stop =>
      rw [sequence_cons_of_some stopped]
      exact first.halted p

theorem byNode {s : Stage} (h : ∀ node, ∃ s', Keeps s' ∧ ∀ held, s ⟨node, held⟩ = s' ⟨node, held⟩) :
    Keeps s where
  held p clean := by
    obtain ⟨s', keeps, same⟩ := h p.node
    exact keeps.held p (same p.findings ▸ clean)
  halted p stopped := by
    obtain ⟨s', keeps, same⟩ := h p.node
    rw [same p.findings] at stopped ⊢
    exact keeps.halted p stopped

theorem closed {config : Config} (remembers : config.Remembers) : Closed config Keeps where
  skip := of_stop (i := none) (fun _ => rfl) fun _ => rfl
  interrupt i := of_stop (i := some i) (fun _ => rfl) fun _ => rfl
  replace _ := of_stop (i := none) (fun _ => rfl) fun _ => rfl
  report := report remembers
  cons := cons
  byNode := byNode

end Keeps

/-- From no findings the stage comes to none, and goes on with the node after it. -/
def Passes (stage : Stage) (node after : Tree) : Prop :=
  stage ⟨node, []⟩ = ⟨⟨after, []⟩, none⟩

variable {s : Stage} {xs : List Stage} {node after : Tree}

theorem passes_of_fields (findings : (s ⟨node, []⟩).findings = [])
    (goesOn : (s ⟨node, []⟩).stop = none) :
    Passes s node (s ⟨node, []⟩).node := by
  unfold Passes
  generalize s ⟨node, []⟩ = r at findings goesOn
  obtain ⟨⟨n, fs⟩, stop⟩ := r
  cases findings
  cases goesOn
  rfl

theorem Keeps.passes_iff (keeps : Keeps s) :
    (s ⟨node, []⟩).passes = true ↔ Passes s node (s ⟨node, []⟩).node := by
  rw [Run.passes_iff]
  refine ⟨fun ⟨ends, clean⟩ => passes_of_fields clean ?_, fun passes => ?_⟩
  · match stopped : (s ⟨node, []⟩).stop with
    | none => rfl
    | some .halted => exact absurd clean (keeps.halted _ stopped)
    | some (.interrupted i) => simp [Run.interruption?, stopped] at ends
  · rw [passes]
    exact ⟨rfl, rfl⟩

theorem passes_congr {s' : Stage} (same : s ⟨node, []⟩ = s' ⟨node, []⟩) :
    Passes s node after ↔ Passes s' node after := by
  rw [Passes, same, Passes]

@[simp] theorem passes_skip : Passes skip node after ↔ after = node := by
  simp [Passes, skip, eq_comm]

@[simp] theorem passes_replace {t : Tree} : Passes (replace t) node after ↔ after = t := by
  simp [Passes, replace, eq_comm]

@[simp] theorem not_passes_interrupt {i : Interruption} : ¬ Passes (interrupt i) node after := by
  simp [Passes, interrupt]

@[simp] theorem not_passes_malformed {path : Pointer} {cause : Malformed} :
    ¬ Passes (malformed path cause) node after :=
  not_passes_interrupt

theorem not_passes_report {config : Config} (remembers : config.Remembers) (f : Finding) :
    ¬ Passes (report config f) node after := fun passes =>
  remembers [] f (congrArg (·.findings) passes)

theorem not_passes_reject {config : Config} (remembers : config.Remembers) (v : Violation) :
    ¬ Passes (reject config v) node after := by
  unfold reject
  cases v.finding with
  | ok f => exact not_passes_report remembers f
  | error cause => exact not_passes_interrupt

theorem passes_reading {α : Type} {part : Except Interruption α} {f : α → Stage} :
    Passes (reading part f) node after ↔ ∃ a, part = .ok a ∧ Passes (f a) node after := by
  cases part <;> simp

theorem passes_cons (keeps : Keeps (sequence xs)) :
    Passes (sequence (s :: xs)) node after ↔
      ∃ mid, Passes s node mid ∧ Passes (sequence xs) mid after := by
  constructor
  · intro passes
    cases stopped : (s ⟨node, []⟩).stop with
    | some stop =>
      rw [Passes, sequence_cons_of_some stopped] at passes
      rw [passes] at stopped
      cases stopped
    | none =>
      rw [Passes, sequence_cons_of_none stopped] at passes
      -- The rest comes to no findings, so the first stage has handed it none.
      have first := passes_of_fields (keeps.held _ (congrArg (·.findings) passes)) stopped
      rw [first] at passes
      exact ⟨_, first, passes⟩
  · rintro ⟨mid, first, rest⟩
    rw [Passes, sequence_cons_of_none (by rw [first]), first]
    exact rest

theorem passes_join {config : Config} (remembers : config.Remembers) {part : Run}
    {place : Tree → Tree} {data path : Pointer} :
    Passes (join config part place data path) node after ↔
      part.passes = true ∧ after = if config.coercing then place part.node else node := by
  rw [Run.passes_iff]
  cases stopped : part.interruption? with
  | some i => simp [Passes, join_of_some stopped, interrupt]
  | none =>
    rw [Passes, join_of_none stopped]
    cases findings : part.findings with
    | nil =>
      show Passes skip _ _ ↔ _
      rw [passes_skip]
      exact (and_iff_right ⟨rfl, rfl⟩).symm
    | cons f rest =>
      -- The first report already leaves a finding behind.
      have keeps := (Keeps.closed remembers).map rest fun f =>
        (Keeps.closed remembers).report (f.under data path)
      refine iff_of_false (fun passes => ?_) (by simp)
      obtain ⟨mid, reports, _⟩ := (passes_cons keeps).1 passes
      exact not_passes_report remembers _ reports

end Stage

end TreeSchema
