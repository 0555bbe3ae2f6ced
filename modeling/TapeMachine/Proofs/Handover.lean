import TapeMachine.Proofs.Runs

/-!
Libraries as subroutines. Control passes to the first state of a library, the machine comes to its
last one, and from there control can pass on.
-/
namespace TapeMachine.Machine

open Textbook

variable {m e k l : Machine} {L : Library} {c d : Config} {state : String} {n i : ℕ}

/-- A machine shows a configuration and comes from there to another after exactly so many steps, as
the textbook machine does. It is not in the last state before. -/
structure ComesTo (m : Machine) (c : Config) (n : ℕ) (k : Machine) (d : Config) : Prop where
  start : m.Shows c
  walk : Walk m n k
  runs : Runs m.transitions d.state c n d
  shown : k.Shows d

/-- Control passes to a state: it is set by hand, or entered by a rule that changes nothing else. -/
inductive Passes (state : String) (m : Machine) : Machine → Prop
  | set : Passes state m (m.setState state)
  | rule {r : Rule Bool} : m.currentRule = .ok (some r) → r.move = .halt → r.write = r.read →
      r.target = state → Passes state m (m.apply r)

/-- A library is called so many times, one call after the other, from a configuration to another. -/
inductive Calls (L : Library) : ℕ → Machine → Config → Machine → Config → Prop
  | none {m : Machine} {c : Config} : Calls L 0 m c m c
  | call {m e k l : Machine} {c d : Config} {n i : ℕ} {u : Int → Bool} {g : Int} :
      m.Passes L.initial e → e.ComesTo ⟨c.tape, c.head, L.initial⟩ n k ⟨u, g, L.final⟩ →
        Calls L i k ⟨u, g, L.final⟩ l d → Calls L (i + 1) m c l d

theorem Shows.inside (hc : m.Shows c) (hone : c.tape c.head = true) : m.tape.Inside := by
  apply Tape.inside_of_around
  rwa [hc.tape, Int.add_zero]

theorem Links.of_table (h : m.Links L) (htable : e.table = m.table) : e.Links L := by
  intro r hr
  rw [htable]
  exact h r hr

theorem ComesTo.unique {f : Config} {g : Machine} (h : m.ComesTo c n k d) (h' : m.ComesTo c i g f)
    (hstate : d.state = f.state) : n = i ∧ k = g ∧ d = f := by
  have hd : c.after m.transitions n = d := h.runs.after_eq
  have hf : c.after m.transitions i = f := h'.runs.after_eq
  obtain rfl : n = i := by
    rcases Nat.lt_trichotomy n i with hlt | heq | hlt
    · exact (h'.runs.state_ne n hlt (hd ▸ hstate)).elim
    · exact heq
    · exact (h.runs.state_ne i hlt (hf ▸ hstate.symm)).elim
  exact ⟨rfl, h.walk.after_eq.symm.trans h'.walk.after_eq, hd.symm.trans hf⟩

/-- A run to a state that it does not enter before takes a machine there. -/
theorem comesTo_of_runs (h : Runs m.transitions d.state c n d) (hin : m.tape.Inside)
    (hc : m.Shows c) :
    ∃ k, m.ComesTo c n k d ∧ k.tape.Inside ∧ k.table = m.table := by
  obtain ⟨k, hk⟩ := follows_of_runs h hin hc rfl
  exact ⟨k, ⟨hc, hk.walk, h, hk.shown⟩, hk.walk.inside hin, hk.table⟩

/-- Nothing but the state is another when control has passed. -/
theorem Passes.shows (h : m.Passes state e) (hin : m.tape.Inside) (hc : m.Shows c) :
    e.Shows ⟨c.tape, c.head, state⟩ ∧ e.tape.Inside ∧ e.table = m.table := by
  cases h with
  | set => exact ⟨⟨rfl, hc.tape⟩, hin, rfl⟩
  | @rule r hr hmove hwrite htarget =>
    rw [currentRule_eq (hc.symbol? hin), Except.ok.injEq] at hr
    have hread : r.read = c.tape c.head := congrArg Prod.snd (key_of_ruleFor hr)
    have hshown := shows_apply hin hc r
    rw [hwrite, hread, Function.update_eq_self, hmove, htarget] at hshown
    refine ⟨?_, (roomy_apply m r).inside, rfl⟩
    simpa [Move.offset] using hshown

/-- If each call takes the head from one place to the next and leaves the cells alone, so many calls
take it that far, however control passes from one to the next. -/
theorem calls_lead {t : Int → Bool} {x : ℕ → Int}
    (hone : ∀ a < i, t (x a) = true)
    (hcall : ∀ a < i, ∀ e : Machine, e.Links L → e.Shows ⟨t, x a, L.initial⟩ →
      ∃ n k, e.ComesTo ⟨t, x a, L.initial⟩ n k ⟨t, x (a + 1), L.final⟩ ∧ k.table = e.table)
    (hlinks : m.Links L) (hc : m.Shows ⟨t, x 0, state⟩) :
    (∃ k d, Calls L i m ⟨t, x 0, state⟩ k d) ∧ ∀ k d, Calls L i m ⟨t, x 0, state⟩ k d →
      k.Shows d ∧ d.tape = t ∧ d.head = x i ∧ k.table = m.table := by
  induction i generalizing m state x with
  | zero =>
    refine ⟨⟨m, _, .none⟩, ?_⟩
    intro k d hk
    cases hk
    exact ⟨hc, rfl, rfl, rfl⟩
  | succ i ih =>
    have hin : m.tape.Inside := hc.inside (hone 0 (Nat.succ_pos i))
    have hrest : ∀ e : Machine, m.Passes L.initial e → ∃ n k,
        e.ComesTo ⟨t, x 0, L.initial⟩ n k ⟨t, x 1, L.final⟩ ∧ k.table = m.table ∧
        (∃ l d, Calls L i k ⟨t, x 1, L.final⟩ l d) ∧ ∀ l d, Calls L i k ⟨t, x 1, L.final⟩ l d →
          l.Shows d ∧ d.tape = t ∧ d.head = x (i + 1) ∧ l.table = k.table := by
      intro e he
      obtain ⟨hshown, -, htable⟩ := he.shows hin hc
      obtain ⟨n, k, hk, hktable⟩ := hcall 0 (Nat.succ_pos i) e (hlinks.of_table htable) hshown
      have hkm : k.table = m.table := hktable.trans htable
      refine ⟨n, k, hk, hkm, ?_⟩
      refine ih (x := fun a => x (a + 1)) ?_ ?_ (hlinks.of_table hkm) hk.shown
      · intro a ha
        exact hone (a + 1) (by omega)
      · intro a ha
        exact hcall (a + 1) (by omega)
    constructor
    · obtain ⟨n, k, hk, -, ⟨l, d, hl⟩, -⟩ := hrest _ .set
      exact ⟨l, d, .call .set hk hl⟩
    · intro l d hl
      cases hl with
      | call he hk hcalls =>
        obtain ⟨_, k, hk', hkm, -, hall⟩ := hrest _ he
        obtain ⟨-, rfl, hd⟩ := hk.unique hk' rfl
        rw [hd] at hcalls
        obtain ⟨hshown, htape, hhead, htable⟩ := hall l d hcalls
        exact ⟨hshown, htape, hhead, htable.trans hkm⟩

end TapeMachine.Machine
