import TapeMachine.Proofs.Fresh

/-!
Machines with whole numbers for symbols that are given zeros and ones only. Nothing else is ever on
their tapes: the blank is a zero, and a step writes what a rule says or what it has read.
-/
namespace TapeMachine

/-- One of the two symbols that programs are written with. -/
def IsBit (n : Int) : Prop := n = 0 ∨ n = 1

instance (n : Int) : Decidable (IsBit n) := inferInstanceAs (Decidable (_ ∨ _))

/-- A rule for zeros and ones. -/
def Rule.Binary (r : Rule Int) : Prop := IsBit r.read ∧ IsBit r.write

instance (r : Rule Int) : Decidable r.Binary := inferInstanceAs (Decidable (_ ∧ _))

/-- A command that adds no rule but for zeros and ones. -/
def Command.Binary : Command → Prop
  | .addRule r => r.Binary
  | _ => True

theorem isBit_ofBit (b : Bool) : IsBit (Symbol.ofBit b) := by
  cases b
  · exact .inl rfl
  · exact .inr rfl

theorem Table.mem_insert {σ : Type} [DecidableEq σ] {q r : Rule σ} {t : Table σ}
    (h : r ∈ t.insert q) : r = q ∨ r ∈ t := by
  induction t with
  | nil => simpa [insert] using h
  | cons x t ih => grind [insert]

namespace Tape

variable {σ : Type} {a b : σ} {t : Tape σ}

theorem mem_cells_of_symbol? (h : t.symbol? = some b) : b ∈ t.cells := by
  match t with
  | within left cell right =>
    obtain rfl := Option.some.inj h
    simp [cells]
  | outside cells (.negSucc n) _ =>
    have hmem := List.mem_of_getElem? h
    rwa [List.mem_reverse] at hmem
  | outside cells (.ofNat n) _ => cases h

theorem mem_cells_write (h : a ∈ (t.write b).cells) : a = b ∨ a ∈ t.cells := by
  match t with
  | within left cell right =>
    simp only [write, cells, List.mem_append, List.mem_cons] at h ⊢
    tauto
  | outside cells (.negSucc n) _ =>
    rw [write, Tape.cells, List.mem_reverse] at h
    rcases List.mem_or_eq_of_mem_set h with h | h
    · exact .inr (List.mem_reverse.mp h)
    · exact .inl h
  | outside cells (.ofNat n) _ => exact .inr h

variable [Symbol σ]

/-- A head that moves brings in no symbol but the blank. -/
theorem mem_cells_shift {m : Move} (h : a ∈ (t.shift m).cells) :
    a = Symbol.blank ∨ a ∈ t.cells := by
  match m, t with
  | .left, within [] cell right | .left, within (_ :: left) cell right
  | .right, within left cell [] | .right, within left cell (_ :: right) =>
    simp only [shift, cells] at h ⊢
    grind
  | .left, outside cells index _ | .right, outside cells index _ =>
    rw [shift, cells_place] at h
    exact .inr h
  | .halt, t => exact .inr h

theorem mem_cells_padded (h : a ∈ t.padded.cells) : a = Symbol.blank ∨ a ∈ t.cells := by
  cases t with
  | within left cell right =>
    simp only [padded, cells, padTo_eq, List.mem_append, List.mem_reverse, List.mem_cons,
      List.mem_replicate] at h ⊢
    tauto
  | outside cells index _ =>
    simp only [padded, cells_place, padTo_eq, List.mem_append, List.mem_replicate] at h
    simp only [Tape.cells]
    tauto

theorem mem_cells_load {cells : List σ} (h : a ∈ (load cells).cells) :
    a = Symbol.blank ∨ a ∈ cells := by
  have hmem := mem_cells_padded h
  rwa [cells_place] at hmem

end Tape

namespace Machine

variable {m k : Machine Int} {c : Command} {cs : List Command} {r : Rule Int} {n : Nat}

/-- There are zeros and ones on the tape, on the one that a reset brings back, and in the rules. -/
structure Binary (m : Machine Int) : Prop where
  cells : ∀ a ∈ m.tape.cells, IsBit a
  origin : ∀ a ∈ m.origin, IsBit a
  rules : ∀ r ∈ m.table, r.Binary

/-- Machines as they come that are given zeros and ones only. -/
inductive MadeBinary : Machine Int → Prop
  | loaded {cells : List Int} {initial : String} {finals : List String} {rules : List (Rule Int)} :
      (∀ a ∈ cells, IsBit a) → (∀ r ∈ rules, r.Binary) →
        MadeBinary ((load cells initial finals []).addRules rules)
  | built {registry : Registry} {source : String} {p : Program} :
      Program.build registry source = .ok p → MadeBinary (p.machine.recast Int)

theorem MadeBinary.made (h : m.MadeBinary) : m.Made := by
  cases h with
  | loaded => exact .loaded _ _ _ _
  | built h => exact .built h

namespace Binary

theorem reset (h : m.Binary) : m.reset.Binary where
  cells a ha := by
    rcases Tape.mem_cells_load ha with rfl | ha
    · exact .inl rfl
    · exact h.origin a ha
  origin := h.origin
  rules := h.rules

theorem addRule (h : m.Binary) (hr : r.Binary) : (m.addRule r).Binary where
  cells := h.cells
  origin := h.origin
  rules q hq := by
    rcases Table.mem_insert hq with rfl | hq
    · exact hr
    · exact h.rules q hq

theorem addRules (h : m.Binary) {rules : List (Rule Int)} (hrules : ∀ r ∈ rules, r.Binary) :
    (m.addRules rules).Binary := by
  induction rules generalizing m with
  | nil => exact h
  | cons r rules ih =>
    rw [List.forall_mem_cons] at hrules
    exact ih (h.addRule hrules.1) hrules.2

theorem apply (h : m.Binary) (hr : IsBit r.write) : (m.apply r).Binary where
  cells a ha := by
    rcases Tape.mem_cells_padded ha with rfl | ha
    · exact .inl rfl
    rcases Tape.mem_cells_shift ha with rfl | ha
    · exact .inl rfl
    rcases Tape.mem_cells_write ha with rfl | ha
    · exact hr
    · exact h.cells a ha
  origin := h.origin
  rules := h.rules

/-- A rule that applies is one of the table, or it writes the symbol that was read. -/
theorem step (h : m.Binary) (hs : m.step = .ok (some k)) : k.Binary := by
  obtain ⟨b, r, hb, hr, rfl⟩ := step_cases hs
  apply h.apply
  unfold ruleFor at hr
  split at hr
  · next q hq =>
    obtain rfl := Option.some.inj hr
    exact (h.rules q (Table.mem_of_find? hq)).2
  · split at hr
    · obtain rfl := Option.some.inj hr
      exact h.cells b (Tape.mem_cells_of_symbol? hb)
    · cases hr

theorem walk (h : m.Binary) (hw : Walk m n k) : k.Binary := by
  induction hw with
  | refl => exact h
  | step hs _ ih => exact ih (h.step hs)

theorem perform (h : m.Binary) (hc : c.Binary) : (m.perform c).2.Binary := by
  by_cases hs : Sets c
  · cases c with
    | reset => exact h.reset
    | addRule r => exact h.addRule hc
    | resetVisits | setState => exact ⟨h.cells, h.origin, h.rules⟩
    | setHead i =>
      refine ⟨fun a ha => h.cells a ?_, h.origin, h.rules⟩
      change a ∈ (m.tape.setHead i).cells at ha
      rwa [Tape.setHead, Tape.cells_place] at ha
    | _ => exact hs.elim
  · obtain ⟨_, hw⟩ := walk_of_perform hs m
    exact h.walk hw

theorem performAll (h : m.Binary) (hcs : ∀ c ∈ cs, c.Binary) : (m.performAll cs).Binary :=
  performAll_keeps (fun _ _ hk hc => hk.perform hc) h hcs

end Binary

theorem binary_load {cells : List Int} (hcells : ∀ a ∈ cells, IsBit a) (initial : String)
    (finals : List String) : (load cells initial finals []).Binary where
  cells a ha := by
    rcases Tape.mem_cells_load ha with rfl | ha
    · exact .inl rfl
    · exact hcells a ha
  origin := hcells
  rules := List.forall_mem_nil _

theorem binary_recast (m : Machine) : (m.recast Int).Binary where
  cells a ha := by
    rw [recast, Tape.cells_map] at ha
    obtain ⟨b, -, rfl⟩ := List.mem_map.mp ha
    exact isBit_ofBit b
  origin a ha := by
    obtain ⟨b, -, rfl⟩ := List.mem_map.mp ha
    exact isBit_ofBit b
  rules r hr := by
    obtain ⟨q, -, rfl⟩ := List.mem_map.mp hr
    exact ⟨isBit_ofBit q.read, isBit_ofBit q.write⟩

theorem MadeBinary.binary (h : m.MadeBinary) : m.Binary := by
  cases h with
  | loaded hcells hrules => exact (binary_load hcells _ _).addRules hrules
  | built => exact binary_recast _

end Machine

end TapeMachine
