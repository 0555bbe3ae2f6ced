import TapeMachine.Proofs.Bits

/-!
The machine of a program over another alphabet. As long as no rule for a third symbol is added it
goes through every session as the machine over two symbols does, and gives the same answers. So what
is proved of machines over two symbols, of their runs and how they stop and of what is on their
tapes, is true of sessions over whole numbers as well (`performAll_recast`, `perform_recast`).
-/
namespace TapeMachine

variable {σ : Type} [Symbol σ]

namespace Symbol

theorem ofBit_inj {a b : Bool} : (ofBit a : σ) = ofBit b ↔ a = b := by
  have hvalue : ∀ a b, bitValue a = bitValue b → a = b := by decide
  constructor
  · intro h
    apply hvalue
    rw [← value_ofBit (σ := σ) a, h, value_ofBit]
  · rintro rfl
    rfl

@[simp] theorem ofBit_false : (ofBit false : σ) = blank := rfl

@[simp] theorem ofBit_beq [DecidableEq σ] (a b : Bool) :
    ((ofBit a : σ) == ofBit b) = (a == b) := by
  rw [Bool.eq_iff_iff, beq_iff_eq, beq_iff_eq, ofBit_inj]

@[simp] theorem ofBit_bne_blank [DecidableEq σ] (b : Bool) : ((ofBit b : σ) != blank) = b := by
  rw [bne, ← ofBit_false, ofBit_beq]
  cases b <;> rfl

@[simp] theorem spell_ofBit (b : Bool) : spell (ofBit b : σ) = spell b :=
  congrArg toString (value_ofBit b)

theorem ofValue?_bitValue (b : Bool) : (ofValue? (bitValue b) : Option σ) = some (ofBit b) := by
  rw [← value_ofBit (σ := σ), ofValue?_value]

end Symbol

open TapeMachine.Symbol (ofBit)

namespace Rule

theorem isIdle_map_ofBit [DecidableEq σ] (r : Rule Bool) :
    (r.map (ofBit : Bool → σ)).isIdle = r.isIdle := by
  simp only [isIdle, map, Symbol.ofBit_beq]

theorem key_map_ofBit {r : Rule Bool} {state : String} {b : Bool} :
    (r.map (ofBit : Bool → σ)).key = (state, ofBit b) ↔ r.key = (state, b) := by
  simp [key, map, Symbol.ofBit_inj]

/-- Rules for zeros and ones are rules of every alphabet. -/
theorem Binary.within? {r : Rule Int} (h : r.Binary) : ∃ q : Rule Bool, r.within? = some q ∧
    (r.within? : Option (Rule σ)) = some (q.map ofBit) := by
  have hbit : ∀ n, IsBit n → ∃ b, n = bitValue b := by
    rintro n (rfl | rfl)
    · exact ⟨false, rfl⟩
    · exact ⟨true, rfl⟩
  obtain ⟨a, ha⟩ := hbit r.read h.1
  obtain ⟨b, hb⟩ := hbit r.write h.2
  refine ⟨⟨r.source, a, b, r.move, r.target⟩, ?_, ?_⟩
  · simp [Rule.within?, ha, hb, Symbol.ofValue?_bitValue]
  · simp [Rule.within?, ha, hb, Symbol.ofValue?_bitValue, map]

end Rule

namespace Table

variable [DecidableEq σ]

theorem find?_recast (state : String) (b : Bool) (t : Table) :
    find? state (ofBit b : σ) (t.map (.map ofBit)) = (t.find? state b).map (.map ofBit) := by
  induction t with
  | nil => rfl
  | cons r t ih =>
    rw [List.map_cons, find?, find?, ih]
    simp only [Rule.key_map_ofBit]
    split <;> rfl

theorem find?_recast_of_ne {symbol : σ} (h : ∀ b, ofBit b ≠ symbol) (state : String) (t : Table) :
    find? state symbol (t.map (.map ofBit)) = none := by
  induction t with
  | nil => rfl
  | cons r t ih =>
    rw [List.map_cons, find?, if_neg, ih]
    intro hkey
    exact h r.read (congrArg Prod.snd hkey)

theorem insert_recast (r : Rule Bool) (t : Table) :
    insert (r.map (ofBit : Bool → σ)) (t.map (.map ofBit)) = (t.insert r).map (.map ofBit) := by
  induction t with
  | nil => rfl
  | cons x t ih =>
    have hkey : (x.map (ofBit : Bool → σ)).key = (r.map ofBit).key ↔ x.key = r.key :=
      Rule.key_map_ofBit
    rw [List.map_cons, insert, insert, ih]
    simp only [hkey]
    split <;> rfl

end Table

namespace Tape

theorem symbol?_map {α β : Type} (f : α → β) (t : Tape α) :
    (t.map f).symbol? = t.symbol?.map f := by
  match t with
  | within .. | outside _ (.ofNat _) _ => rfl
  | outside cells (.negSucc n) _ => simp [map, symbol?, ← List.map_reverse]

theorem write_map {α β : Type} (f : α → β) (b : α) (t : Tape α) :
    (t.map f).write (f b) = (t.write b).map f := by
  match t with
  | within .. | outside _ (.ofNat _) _ => rfl
  | outside cells (.negSucc n) _ =>
    simp only [map, write, ← List.map_reverse, ← List.map_set]

theorem place_map {α β : Type} (f : α → β) (cells : List α) (i : Int) :
    place (cells.map f) i = (place cells i).map f :=
  eq_of_views (by simp) (by simp)

theorem shift_recast (m : Move) (t : Tape) :
    (t.map (ofBit : Bool → σ)).shift m = (t.shift m).map ofBit := by
  match m, t with
  | .left, within [] _ _ | .left, within (_ :: _) _ _ | .right, within _ _ []
  | .right, within _ _ (_ :: _) | .halt, _ => rfl
  | .left, outside cells index _ | .right, outside cells index _ => exact place_map ofBit cells _

theorem padTo_recast (n : Nat) (cells : List Bool) :
    padTo n (cells.map (ofBit : Bool → σ)) = (padTo n cells).map ofBit := by
  simp [padTo_eq]

theorem padded_recast (t : Tape) : (t.map (ofBit : Bool → σ)).padded = t.padded.map ofBit := by
  cases t with
  | within left cell right => simp [map, padded, padTo_recast]
  | outside cells index _ =>
    rw [padded, ← place_map, ← padTo_recast]
    simp [map, padded]

theorem load_recast (cells : List Bool) :
    load (cells.map (ofBit : Bool → σ)) = (load cells).map ofBit := by
  rw [load, place_map, padded_recast, load]

theorem ones_recast [DecidableEq σ] (t : Tape) : (t.map (ofBit : Bool → σ)).ones = t.ones := by
  simp [ones, List.countP_map, Function.comp_def]

theorem values_recast [DecidableEq σ] (t : Tape) :
    (t.map (ofBit : Bool → σ)).values = t.values := by
  simp [values, Function.comp_def]

theorem render_recast (t : Tape) (window : Option Int) :
    (t.map (ofBit : Bool → σ)).render window = t.render window := by
  simp [render, shown, ← List.map_take, ← List.map_drop, List.flatMap_map]

end Tape

/-- An answer with the symbols of another alphabet. -/
def Answer.recast (σ : Type) [Symbol σ] : Answer → Answer σ
  | .done => .done
  | .flag b => .flag b
  | .flags bs => .flags bs
  | .cell b => .cell (ofBit b)
  | .count n => .count n
  | .numbers ns => .numbers ns
  | .rule r => .rule (r.map (.map ofBit))
  | .outcome o => .outcome o
  | .settled r => .settled r
  | .report r => .report r
  | .text s => .text s

namespace Machine

theorem tape_recast (m : Machine) : (m.recast σ).tape = m.tape.map ofBit := rfl

theorem symbol_recast (m : Machine) : (m.recast σ).symbol = m.symbol.map ofBit := by
  rw [symbol, symbol, tape_recast, Tape.symbol?_map]
  cases m.tape.symbol? <;> rfl

theorem apply_recast (m : Machine) (r : Rule Bool) :
    (m.recast σ).apply (r.map ofBit) = (m.apply r).recast σ := by
  have htape : (((m.tape.map ofBit).write (ofBit r.write : σ)).shift r.move).padded =
      ((m.tape.write r.write).shift r.move).padded.map ofBit := by
    rw [Tape.write_map, Tape.shift_recast, Tape.padded_recast]
  simp only [apply, recast, Rule.map, htape]

theorem rules_recast (m : Machine) : (m.recast σ).rules = m.rules := by
  have hweave : ∀ (index : Nat) (strays : List Stray) (t : Table),
      Stray.weave index strays (t.map (.map (ofBit : Bool → σ))) = Stray.weave index strays t := by
    intro index strays t
    induction t generalizing index strays with
    | nil => rfl
    | cons r t ih => simp [Stray.weave, ih, Rule.map, Symbol.value_ofBit]
  exact hweave 0 m.strays m.table

theorem reset_recast (m : Machine) : (m.recast σ).reset = m.reset.recast σ := by
  simp only [reset, recast, Tape.load_recast]

theorem setHead_recast (index : Int) (m : Machine) :
    (m.recast σ).setHead index = (m.setHead index).recast σ := by
  simp only [setHead, recast, Tape.setHead, Tape.cells_map, Tape.place_map]

variable [DecidableEq σ] {c : Command} {cs : List Command}

theorem ruleFor_recast (m : Machine) (state : String) (b : Bool) :
    (m.recast σ).ruleFor state (ofBit b) = (m.ruleFor state b).map (.map ofBit) := by
  have htable : (m.recast σ).table.find? state (ofBit b) =
      (m.table.find? state b).map (.map ofBit) := Table.find?_recast state b m.table
  rw [ruleFor, ruleFor, htable]
  cases m.table.find? state b with
  | some r => rfl
  | none =>
    change (if m.isFinal state then _ else _) = _
    split <;> rfl

theorem currentRule_recast (m : Machine) :
    (m.recast σ).currentRule = m.currentRule.map (·.map (.map ofBit)) := by
  rw [currentRule, currentRule, symbol_recast]
  cases m.symbol with
  | error e => rfl
  | ok b => exact congrArg Except.ok (ruleFor_recast m m.current b)

/-- A step over another alphabet is the step over two symbols. -/
theorem step_recast (m : Machine) : (m.recast σ).step = m.step.map (·.map (recast σ)) := by
  rw [step, step, currentRule_recast]
  rcases m.currentRule with e | _ | r
  · rfl
  · rfl
  · exact congrArg (Except.ok ∘ some) (apply_recast m r)

theorem isUndefined_recast (m : Machine) : (m.recast σ).isUndefined = m.isUndefined := by
  rw [isUndefined, isUndefined, currentRule_recast]
  rcases m.currentRule with e | _ | r <;> rfl

theorem finished_recast (m : Machine) : (m.recast σ).finished = m.finished := by
  rw [finished, finished, currentRule_recast]
  change (if m.isFinal m.current && m.previous == some m.current then _ else _) = _
  split
  · rcases m.currentRule with e | _ | r
    · rfl
    · rfl
    · exact congrArg Except.ok (Rule.isIdle_map_ofBit r)
  · rfl

theorem outcome_recast (m : Machine) : (m.recast σ).outcome = m.outcome := by
  rw [outcome, outcome, isUndefined_recast, tape_recast, Tape.ones_recast]
  rfl

theorem reportAfter_recast (limit : Int) (m : Machine) :
    (m.recast σ).reportAfter limit = m.reportAfter limit := by
  have hstatus : (m.recast σ).status limit = m.status limit := by
    rw [status, status, finished_recast, isUndefined_recast]
    rfl
  rw [reportAfter, reportAfter, outcome_recast, hstatus, tape_recast, Tape.values_recast]
  rfl

theorem run_recast (limit : Option Int) (budget : Nat) (m : Machine) :
    run limit budget (m.recast σ) = ((run limit budget m).1, (run limit budget m).2.recast σ) := by
  induction budget generalizing m with
  | zero => rw [run, run, finished_recast]
  | succ budget ih =>
    have hlooping : (m.recast σ).isLooping = m.isLooping := rfl
    rw [run, run, finished_recast, step_recast, hlooping]
    rcases m.finished with e | _ | _
    · rfl
    · dsimp only
      split
      · rfl
      · rcases m.step with e | _ | next
        · rfl
        · rfl
        · exact ih next
    · rfl

theorem settle_recast (fuel : Nat) (m : Machine) :
    settle fuel (m.recast σ) = ((settle fuel m).1, (settle fuel m).2.recast σ) := by
  induction fuel generalizing m with
  | zero => rfl
  | succ fuel ih =>
    rw [settle, settle, finished_recast, step_recast]
    rcases m.finished with e | _ | _
    · rfl
    · rcases m.step with e | _ | next
      · rfl
      · rfl
      · exact ih next
    · rfl

theorem advance_recast (m : Machine) :
    (m.recast σ).advance = (m.advance.1, m.advance.2.recast σ) := by
  rw [advance, advance, step_recast]
  rcases m.step with e | _ | next <;> rfl

theorem advanceMany_recast (count : Nat) (m : Machine) : advanceMany count (m.recast σ) =
    ((advanceMany count m).1, (advanceMany count m).2.recast σ) := by
  induction count generalizing m with
  | zero => rfl
  | succ count ih =>
    rw [advanceMany, advanceMany, advance_recast]
    rcases m.advance with ⟨e | flag, k⟩
    · rfl
    · dsimp only
      rw [ih k]

theorem addRule_recast {r : Rule Int} (hr : r.Binary) (m : Machine) :
    (m.recast σ).addRule r = (m.addRule r).recast σ := by
  obtain ⟨q, hq, hqσ⟩ := hr.within? (σ := σ)
  rw [addRule, addRule, hq, hqσ]
  simp only [recast, Table.insert_recast]

theorem action_recast (m : Machine) (state : String) (b : Bool) :
    (m.recast σ).action state (ofBit b) = m.action state b := by
  have htable : (m.recast σ).table.find? state (ofBit b) =
      (m.table.find? state b).map (.map ofBit) := Table.find?_recast state b m.table
  rw [action, action, htable]
  cases m.table.find? state b with
  | some r =>
    change Symbol.spell (ofBit r.write : σ) ++ _ ++ _ = _
    rw [Symbol.spell_ofBit]
    rfl
  | none => rfl

theorem chart_recast (m : Machine) : (m.recast σ).chart = m.chart := by
  have hstates : (m.recast σ).ruleStates = m.ruleStates := by
    rw [ruleStates, ruleStates, rules_recast]
    rfl
  have hordered : (m.recast σ).orderedStates = m.orderedStates := by
    rw [orderedStates, orderedStates, ruleFinals, ruleFinals, idleFinals, idleFinals, hstates]
    rfl
  have hrows : (m.recast σ).chartRows = m.chartRows := by
    rw [chartRows, chartRows, hordered]
    apply List.map_congr_left
    intro s _
    rw [ChartRow.mk.injEq]
    exact ⟨rfl, action_recast m s false, action_recast m s true⟩
  rw [chart, chart, hrows]

/-- A command leaves the same machine over another alphabet, and is answered in its symbols. -/
theorem perform_recast (hc : c.Binary) (m : Machine) : (m.recast σ).perform c =
    ((m.perform c).1.map (Answer.recast σ), (m.perform c).2.recast σ) := by
  cases c with
  | step =>
    simp only [perform, advance_recast]
    rcases m.advance with ⟨e | flag, k⟩ <;> rfl
  | steps count =>
    simp only [perform, advanceMany_recast]
    rcases advanceMany count m with ⟨e | flags, k⟩ <;> rfl
  | run maxSteps limit =>
    simp only [perform, run_recast]
    rcases run limit maxSteps.toNat m with ⟨e | stop, k⟩
    · rfl
    · simp only [thenAsk, outcome_recast]
      rcases k.outcome with e | o <;> rfl
  | settle fuel =>
    simp only [perform, settle_recast]
    rcases settle fuel m with ⟨e | settled, k⟩
    · rfl
    · simp only [Except.map, tape_recast, Tape.ones_recast]
      rfl
  | report maxSteps limit =>
    simp only [perform, report, run_recast]
    rcases run (some limit) maxSteps.toNat m with ⟨e | stop, k⟩
    · rfl
    · simp only [thenAsk, reportAfter_recast]
      rcases k.reportAfter limit with e | r <;> rfl
  | reset => exact congrArg (Prod.mk _) (reset_recast m)
  | resetVisits | setState => rfl
  | addRule r => exact congrArg (Prod.mk _) (addRule_recast hc m)
  | setHead index => exact congrArg (Prod.mk _) (setHead_recast index m)
  | symbol =>
    simp only [perform, symbol_recast]
    rcases m.symbol with e | b <;> rfl
  | currentRule =>
    simp only [perform, currentRule_recast]
    rcases m.currentRule with e | _ | r <;> rfl
  | isUndefined =>
    simp only [perform, isUndefined_recast]
    rcases m.isUndefined with e | b <;> rfl
  | finished =>
    simp only [perform, finished_recast]
    rcases m.finished with e | b <;> rfl
  | isLooping => rfl
  | outcome =>
    simp only [perform, outcome_recast]
    rcases m.outcome with e | o <;> rfl
  | ones =>
    simp only [perform, tape_recast, Tape.ones_recast]
    rfl
  | values =>
    simp only [perform, tape_recast, Tape.values_recast]
    rfl
  | render window =>
    simp only [perform, tape_recast, Tape.render_recast]
    rfl
  | chart =>
    simp only [perform, chart_recast]
    rfl

/-- As long as no rule for a third symbol is added, the machine of a program goes through a session
in the same way over every alphabet. -/
theorem performAll_recast (hcs : ∀ c ∈ cs, c.Binary) (m : Machine) :
    (m.recast σ).performAll cs = (m.performAll cs).recast σ := by
  induction cs generalizing m with
  | nil => rfl
  | cons c cs ih =>
    rw [List.forall_mem_cons] at hcs
    rw [performAll_cons, performAll_cons, perform_recast hcs.1, ih hcs.2]

end Machine

end TapeMachine
