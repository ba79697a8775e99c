import TreeSchema.Proofs.Account
import TreeSchema.Tree.Address

/-!
Checks leave the data alone. A run that does not coerce hands back the node it was
given, whatever its schema would have filled in, removed or converted; at most it has
left out the null members of an object whose schema has them ignored, and what is below
the members that stay is as it was. A run against a prohibited schema never coerces, and
what it makes of the node is not taken over, so it changes nothing in a coercing run
around it either.
-/

namespace TreeSchema

/-! ### Ignored nulls -/

/-- The options and the schema have the null members of an object ignored. -/
def Tree.IgnoresNulls (schema : Tree) (options : Options) : Prop :=
  options.ignoreNullProperties = true ∧
    ∃ s : Members, schema = .object s ∧ s.get? "ignoreNullProperties" = some (.bool true)

def Members.nonNull (ms : Members) : Members :=
  ms.filter fun m => !m.2.isNull

/-- The node is the one before, or an object that has lost its null members, which are ignored. -/
def Untouched (options : Options) (schema d n : Tree) : Prop :=
  n = d ∨ schema.IgnoresNulls options ∧ ∃ ms : Members, d = .object ms ∧ n = .object ms.nonNull

theorem Members.get?_nonNull {ms : Members} (nodup : ms.keys.Nodup) (key : String) :
    ms.nonNull.get? key = ms.get? key ∨
      ms.get? key = some .null ∧ ms.nonNull.get? key = none := by
  have nodup' : ms.nonNull.keys.Nodup := nodup.sublist (List.filter_sublist.map _)
  cases found : ms.nonNull.get? key with
  | some t =>
    have mem := (List.mem_filter.1 (mem_of_get? found)).1
    exact .inl (get?_of_mem nodup mem).symm
  | none =>
    cases value : ms.get? key with
    | none => exact .inl rfl
    | some t =>
      cases null : t.isNull with
      | true =>
        cases t with
        | null => exact .inr ⟨rfl, rfl⟩
        | _ => cases null
      | false =>
        have mem : (key, t) ∈ ms.nonNull := List.mem_filter.2 ⟨mem_of_get? value, by simp [null]⟩
        cases found.symm.trans (get?_of_mem nodup' mem)

/-- Below the root every node is the one before, or it was a null member of the root. -/
theorem Untouched.at?_eq {options : Options} {schema d n : Tree}
    (untouched : Untouched options schema d n) (wellFormed : d.WellFormed) (step : String)
    (rest : List String) :
    n.at? (step :: rest) = d.at? (step :: rest) ∨
      d.at? [step] = some .null ∧ n.at? [step] = none := by
  obtain rfl | ⟨-, ms, rfl, rfl⟩ := untouched
  · exact .inl rfl
  · rw [Tree.at?_singleton, Tree.at?_singleton, Tree.at?_cons, Tree.at?_cons]
    exact (Members.get?_nonNull wellFormed.nodup step).imp_left fun same =>
      congrArg (Option.bind · _) same

/-! ### Runs -/

theorem Met.untouched {options : Options} {s : Members} {d n : Tree} (met : Met options s d n) :
    Untouched options (.object s) d n := by
  rcases met with same | counts
  · exact .inl same
  · cases d with
    | object ms =>
      rw [counts, Tree.counted]
      unfold Stage.countedMembers
      split
      · next enabled asked => exact .inr ⟨⟨enabled, s, rfl, asked⟩, ms, rfl, rfl⟩
      · exact .inl rfl
    | _ => exact .inl counts

theorem run_untouched {config : Config} (checks : config.coercing = false) (d schema : Tree) :
    Untouched config.options schema d (run config d schema).node := by
  obtain ⟨mode, cap, coercing, options⟩ := config
  cases checks
  by_cases object : ∃ s, schema = .object s
  · obtain ⟨s, rfl⟩ := object
    exact (run_accounts (Met.upholds mode cap options s d) (.inl rfl)).1.untouched
  · rw [run_of_not_object (not_exists.1 object)]
    exact .inl rfl

theorem Stage.reject_node (config : Config) (v : Violation) (p : Progress) :
    (reject config v p).node = p.node := by
  unfold reject
  cases v.finding <;> rfl

theorem Stage.notAny_node (visit : Visit) (config : Config) (t : Tree) (p : Progress) :
    (notAny visit config t p).node = p.node := by
  unfold notAny
  dsimp only
  split
  · rfl
  · split
    · exact reject_node ..
    · rfl

/-- A run that does not coerce leaves its node, but for null members of the root that are ignored,
and every node below. This goes for the run against a prohibited schema, too, also within a coercing
run, where what has become of the node is not taken over. -/
theorem checking_leaves_tree {config : Config} (checks : config.coercing = false)
    (d schema : Tree) :
    Untouched config.options schema d (run config d schema).node ∧
    (d.WellFormed → ∀ step rest,
      (run config d schema).node.at? (step :: rest) = d.at? (step :: rest) ∨
        d.at? [step] = some .null ∧ (run config d schema).node.at? [step] = none) ∧
    ∀ (outer : Config) (p : Progress),
      Untouched outer.options schema p.node
        (run { outer with coercing := false } p.node schema).node ∧
      (Stage.notAny run outer schema p).node = p.node :=
  ⟨run_untouched checks d schema, (run_untouched checks d schema).at?_eq,
    fun outer p => ⟨@run_untouched { outer with coercing := false } rfl p.node schema,
      Stage.notAny_node run outer schema p⟩⟩

/-- Coercing would convert the number of a ticket, fill its state in and remove its parts. -/
def ticketSchema : Tree :=
  .object [("ignoreNullProperties", .bool true), ("required", .array [.string "state"]),
    ("properties", .object [("number", .object [("type", .string "integer")]),
      ("state", .object [("default", .string "new")])]),
    ("additionalProperties", .bool false)]

def ticket : Tree :=
  .object [("remark", .null), ("number", .string "7"), ("parts", .array [.null])]

def bareTicket : Tree :=
  .object [("number", .string "7"), ("parts", .array [.null])]

/-- A check of tickets, with nulls ignored. -/
def ticketCheck : Config :=
  .checking .collectAll none ⟨false, true, true⟩

theorem checking_leaves_tree_ticket :
    ticketCheck.coercing = false ∧ ticket.WellFormed ∧
      (run ticketCheck ticket ticketSchema).node = bareTicket ∧
      Untouched ticketCheck.options ticketSchema ticket bareTicket ∧
      bareTicket.at? ["parts", "0"] = ticket.at? ["parts", "0"] ∧
      (Stage.notAny run { ticketCheck with coercing := true } ticketSchema ⟨ticket, []⟩).node =
        ticket := by
  have formed : ticket.WellFormed := by
    simp [ticket, Tree.WellFormed, Tree.WellFormedItems, Tree.WellFormedMembers, Members.keys]
  have left : (run ticketCheck ticket ticketSchema).node = bareTicket := by rfl
  have checks : ticketCheck.coercing = false := rfl
  obtain ⟨untouched, below, prohibited⟩ := checking_leaves_tree checks ticket ticketSchema
  rw [left] at untouched below
  have inside : bareTicket.at? ["parts", "0"] = ticket.at? ["parts", "0"] :=
    (below formed "parts" ["0"]).resolve_right fun gone => Option.some_ne_none _ gone.2
  exact ⟨checks, formed, left, untouched, inside,
    (prohibited { ticketCheck with coercing := true } ⟨ticket, []⟩).2⟩

end TreeSchema
