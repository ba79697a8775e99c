import TreeSchema.Run.Depth

/-!
Runs that collect every finding. Without a cap no stage halts, and what a stage
does to the node and which findings it adds does not depend on the findings it
is handed: it puts its own behind them. So a stage is known by what it does from
no findings at all (`Collects`), and a sequence adds up what its stages find.
-/

namespace TreeSchema

/-- The configuration of a run that collects all findings. -/
def Config.collecting (options : Options) (coercing : Bool) : Config :=
  { mode := .collectAll, cap := none, coercing, options }

namespace Config

variable (options : Options) (coercing : Bool)

@[simp] theorem collecting_coercing : (collecting options coercing).coercing = coercing := rfl

@[simp] theorem collecting_options : (collecting options coercing).options = options := rfl

end Config

/-- The run with findings put in front of its own. -/
def Run.behind (held : List Finding) (r : Run) : Run :=
  { r with findings := held ++ r.findings }

namespace Run

@[simp] theorem behind_stop (held : List Finding) (r : Run) : (r.behind held).stop = r.stop := rfl

@[simp] theorem behind_findings (held : List Finding) (r : Run) :
    (r.behind held).findings = held ++ r.findings := rfl

@[simp] theorem behind_interruption? (held : List Finding) (r : Run) :
    (r.behind held).interruption? = r.interruption? := rfl

theorem behind_behind (held more : List Finding) (r : Run) :
    (r.behind more).behind held = r.behind (held ++ more) := by
  simp [behind, List.append_assoc]

end Run

namespace Stage

theorem reports_collecting (options : Options) (coercing : Bool) (node : Tree)
    (held fs : List Finding) :
    sequence (fs.map (report (.collecting options coercing))) ⟨node, held⟩ =
      ⟨⟨node, held ++ fs⟩, none⟩ := by
  induction fs generalizing held with
  | nil => simp [skip]
  | cons f rest ih =>
    have reported : report (.collecting options coercing) f ⟨node, held⟩ =
        ⟨⟨node, held ++ [f]⟩, none⟩ := rfl
    rw [List.map_cons, sequence_cons_of_none (by rw [reported]), reported, ih]
    simp

theorem join_collecting {options : Options} {coercing : Bool} {part : Run}
    (ends : part.interruption? = none) (place : Tree → Tree) (data path : Pointer) (p : Progress) :
    join (.collecting options coercing) part place data path p =
      ⟨⟨if coercing then place part.node else p.node,
        p.findings ++ part.findings.map (·.under data path)⟩, none⟩ := by
  have reported := reports_collecting options coercing (if coercing then place part.node else p.node)
    p.findings (part.findings.map (·.under data path))
  rw [List.map_map] at reported
  rw [join_of_none ends]
  exact reported

/-- The stage puts its findings behind those it is handed, whatever they are, and never halts. -/
structure Collects (stage : Stage) : Prop where
  frame : ∀ node held, stage ⟨node, held⟩ = (stage ⟨node, []⟩).behind held
  goesOn : ∀ node, (stage ⟨node, []⟩).stop ≠ some .halted

namespace Collects

theorem skip : Collects skip :=
  ⟨fun _ held => by simp [Stage.skip, Run.behind], fun _ => nofun⟩

theorem interrupt (i : Interruption) : Collects (interrupt i) :=
  ⟨fun _ held => by simp [Stage.interrupt, Run.behind], fun _ => nofun⟩

theorem replace (node : Tree) : Collects (replace node) :=
  ⟨fun _ held => by simp [Stage.replace, Run.behind], fun _ => nofun⟩

theorem report (options : Options) (coercing : Bool) (f : Finding) :
    Collects (report (.collecting options coercing) f) :=
  ⟨fun _ held => by simp [Stage.report, Config.collecting, Mode.add, Run.behind], fun _ => nofun⟩

theorem cons {s : Stage} {xs : List Stage} (first : Collects s) (rest : Collects (sequence xs)) :
    Collects (sequence (s :: xs)) where
  frame node held := by
    simp only [sequence]
    rw [first.frame node held, Run.behind_stop]
    split
    · rw [rest.frame _ (s ⟨node, []⟩).findings, Run.behind_behind]
      exact rest.frame ..
    · rfl
  goesOn node := by
    simp only [sequence]
    split
    · rw [rest.frame, Run.behind_stop]
      exact rest.goesOn _
    · exact first.goesOn node

theorem stop_eq_none {s : Stage} (h : Collects s) {node : Tree} {held : List Finding}
    (ends : (s ⟨node, held⟩).interruption? = none) : (s ⟨node, held⟩).stop = none := by
  rw [h.frame] at ends ⊢
  have on := h.goesOn node
  rw [Run.behind_interruption?] at ends
  rw [Run.behind_stop]
  cases stopped : (s ⟨node, []⟩).stop with
  | none => rfl
  | some stop =>
    cases stop with
    | halted => exact absurd stopped on
    | interrupted i => simp [Run.interruption?, stopped] at ends

theorem first_goes_on {s : Stage} {xs : List Stage} (h : Collects s) {node : Tree}
    {held : List Finding} (ends : (sequence (s :: xs) ⟨node, held⟩).interruption? = none) :
    (s ⟨node, held⟩).stop = none := by
  cases stopped : (s ⟨node, held⟩).stop with
  | none => rfl
  | some stop =>
    rw [sequence_cons_of_some stopped] at ends
    exact stopped ▸ h.stop_eq_none ends

theorem byNode {s : Stage}
    (h : ∀ node, ∃ s', Collects s' ∧ ∀ held, s ⟨node, held⟩ = s' ⟨node, held⟩) :
    Collects s where
  frame node held := by
    obtain ⟨s', collects, same⟩ := h node
    rw [same, same, collects.frame]
  goesOn node := by
    obtain ⟨s', collects, same⟩ := h node
    rw [same]
    exact collects.goesOn node

theorem closed (options : Options) (coercing : Bool) :
    Closed (.collecting options coercing) Collects :=
  ⟨skip, interrupt, replace, report options coercing, cons, byNode⟩

end Collects

end Stage

end TreeSchema
