import TapeMachine.Proofs.Bits

/-!
Sessions keep the margins of the tape. Only a head that is set by hand can leave them; a step then
brings them back, and where it was set past the cells every command that reads fails.
-/
namespace TapeMachine.Machine

variable {σ : Type} [DecidableEq σ] [Symbol σ] {m : Machine σ} {c : Command} {cs : List Command}

/-- Commands that leave the head to the machine. -/
def KeepsHead : Command → Prop
  | .setHead _ => False
  | _ => True

/-- Commands that may also set the head, but on a cell. -/
def Careful (m : Machine σ) : Command → Prop
  | .setHead i => 0 ≤ i ∧ i < m.tape.cells.length
  | _ => True

/-- Commands in a row, each of them careful when its turn comes. -/
def CarefulAll : Machine σ → List Command → Prop
  | _, [] => True
  | m, c :: cs => Careful m c ∧ CarefulAll (m.perform c).2 cs

theorem tape_addRule (m : Machine σ) (r : Rule Int) : (m.addRule r).tape = m.tape := by
  unfold addRule
  split <;> rfl

theorem steps_addRule (m : Machine σ) (r : Rule Int) : (m.addRule r).steps = m.steps := by
  unfold addRule
  split <;> rfl

theorem roomy_perform (h : m.tape.Roomy) (hc : KeepsHead c) : (m.perform c).2.tape.Roomy := by
  by_cases hs : Sets c
  · cases c with
    | reset => exact roomy_reset m
    | resetVisits | setState => exact h
    | addRule r =>
      change (m.addRule r).tape.Roomy
      rwa [tape_addRule]
    | setHead => exact hc.elim
    | _ => exact hs.elim
  · obtain ⟨_, hw⟩ := walk_of_perform hs m
    exact hw.roomy h

theorem roomy_performAll (h : m.tape.Roomy) (hcs : ∀ c ∈ cs, KeepsHead c) :
    (m.performAll cs).tape.Roomy :=
  performAll_keeps (P := fun k => k.tape.Roomy) (fun _ _ hk hc => roomy_perform hk hc) h hcs

theorem inside_perform (h : m.tape.Inside) (hc : m.Careful c) : (m.perform c).2.tape.Inside := by
  by_cases hs : Sets c
  · cases c with
    | reset => exact (roomy_reset m).inside
    | resetVisits | setState => exact h
    | addRule r =>
      change (m.addRule r).tape.Inside
      rwa [tape_addRule]
    | setHead i => exact Tape.inside_setHead hc.1 hc.2
    | _ => exact hs.elim
  · obtain ⟨_, hw⟩ := walk_of_perform hs m
    exact hw.inside h

theorem inside_performAll (h : m.tape.Inside) (hcs : m.CarefulAll cs) :
    (m.performAll cs).tape.Inside := by
  induction cs generalizing m with
  | nil => exact h
  | cons c cs ih => exact ih (inside_perform h hcs.1) hcs.2

/-- A reset, or a command that takes at least one step, brings the margins back. -/
theorem roomy_of_moved (hc : c = .reset ∨ m.steps < (m.perform c).2.steps) :
    (m.perform c).2.tape.Roomy := by
  rcases hc with rfl | hlt
  · exact roomy_reset m
  by_cases hs : Sets c
  · cases c with
    | reset => exact roomy_reset m
    | resetVisits | setState | setHead => exact absurd hlt (Nat.lt_irrefl m.steps)
    | addRule r =>
      change m.steps < (m.addRule r).steps at hlt
      rw [steps_addRule] at hlt
      exact absurd hlt (Nat.lt_irrefl m.steps)
    | _ => exact hs.elim
  · obtain ⟨n, hw⟩ := walk_of_perform hs m
    have hn := hw.steps_eq
    exact hw.roomy_of_pos (by omega)

/-- Whatever is done with a machine that is given zeros and ones only, each cell of its tape is a
zero or a one. Without a head set by hand the margins hold all through a session and every command
answers. With a head set on a cell every command answers still, and the first step or reset brings
the margins back for good. With a head past the cells just the commands that read fail. A command
that fails changes nothing. -/
theorem session_keeps_margin {m k : Machine Int} {cs : List Command} (hm : m.MadeBinary)
    (hcs : ∀ c ∈ cs, c.Binary) (hk : m.performAll cs = k) :
    (∀ a ∈ k.tape.cells, a = 0 ∨ a = 1) ∧
    ((∀ c ∈ cs, KeepsHead c) → k.tape.Roomy ∧ ∀ c, ∃ answer, (k.perform c).1 = .ok answer) ∧
    (m.CarefulAll cs → (∀ c, ∃ answer, (k.perform c).1 = .ok answer) ∧
      ∀ c ds, (∀ d ∈ c :: ds, KeepsHead d) → c = .reset ∨ k.steps < (k.perform c).2.steps →
        (k.performAll (c :: ds)).tape.Roomy) ∧
    ((k.tape.cells.length : Int) ≤ k.tape.head → ∀ c,
      (k.Reads c → k.perform c = (.error .offTape, k)) ∧
      (¬ k.Reads c → ∃ answer, (k.perform c).1 = .ok answer)) ∧
    ∀ c e, (k.perform c).1 = .error e → (k.perform c).2 = k := by
  subst hk
  refine ⟨(hm.binary.performAll hcs).cells, ?_, ?_, ?_, fun c e => perform_of_error⟩
  · intro hkeeps
    have hroomy := roomy_performAll (roomy_of_made hm.made) hkeeps
    exact ⟨hroomy, answers_of_readable (readable_of_inside hroomy.inside)⟩
  · intro hcareful
    have hinside := inside_performAll (roomy_of_made hm.made).inside hcareful
    refine ⟨answers_of_readable (readable_of_inside hinside), ?_⟩
    intro c ds hds hc
    rw [List.forall_mem_cons] at hds
    rw [performAll_cons]
    exact roomy_performAll (roomy_of_moved hc) hds.2
  · intro hpast c
    exact ⟨perform_of_not_readable (not_readable_of_past hpast), answers_of_not_reads⟩

/-- A machine without cells of its own. -/
def emptyTape : Machine Int :=
  (load [] "a" ["c"] []).addRules [⟨"a", 0, 1, .left, "b"⟩, ⟨"b", 0, 1, .right, "c"⟩]

theorem session_keeps_margin_emptyTape : emptyTape.MadeBinary ∧
    (emptyTape.performAll [.step, .addRule ⟨"c", 0, 1, .right, "b"⟩, .run 9 none]).tape.Roomy ∧
    ((emptyTape.performAll [.setHead 0]).performAll [.step, .finished]).tape.Roomy ∧
    (emptyTape.setHead 7).perform (.run 0 none) = (.error .offTape, emptyTape.setHead 7) ∧
    ((emptyTape.setHead 9).perform .symbol).2 = emptyTape.setHead 9 := by
  have hmade : emptyTape.MadeBinary := .loaded (List.forall_mem_nil _) (by decide)
  have hset : ∀ i, ∀ c ∈ [Command.setHead i], c.Binary := by
    intro i
    rw [List.forall_mem_singleton]
    trivial
  refine ⟨hmade, ?_, ?_, ?_, ?_⟩
  · have hbinary : ∀ c ∈ [Command.step, .addRule ⟨"c", 0, 1, .right, "b"⟩, .run 9 none],
        c.Binary := by
      simp only [List.forall_mem_cons]
      exact ⟨trivial, ⟨.inl rfl, .inr rfl⟩, trivial, List.forall_mem_nil _⟩
    refine ((session_keeps_margin hmade hbinary rfl).2.1 ?_).1
    simp only [List.forall_mem_cons]
    exact ⟨trivial, trivial, trivial, List.forall_mem_nil _⟩
  · have hcareful : emptyTape.CarefulAll [.setHead 0] := ⟨⟨by decide, by decide⟩, trivial⟩
    refine ((session_keeps_margin hmade (hset 0) rfl).2.2.1 hcareful).2 .step [.finished] ?_
      (.inr (by decide))
    simp only [List.forall_mem_cons]
    exact ⟨trivial, trivial, List.forall_mem_nil _⟩
  · exact ((session_keeps_margin hmade (hset 7) rfl).2.2.2.1 (by decide) _).1 trivial
  · exact (session_keeps_margin hmade (hset 9) rfl).2.2.2.2 _ .offTape (by decide)

end TapeMachine.Machine
