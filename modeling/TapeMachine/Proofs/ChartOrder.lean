import TapeMachine.Proofs.Charts
import TapeMachine.Proofs.Resolution

/-! The order in which the states of a machine are listed, each of them once. -/
namespace TapeMachine

variable {m : Machine} {s : String} {states : List String}

/-- Names as they come first. -/
def firsts (names : List String) : List String := names.foldl appendNew []

theorem firsts_concat (names : List String) (name : String) : firsts (names ++ [name]) =
    if name ∈ firsts names then firsts names else firsts names ++ [name] := by
  have happend : firsts (names ++ [name]) = appendNew (firsts names) name := by
    rw [firsts, List.foldl_append]
    rfl
  rw [happend, appendNew]
  by_cases h : name ∈ firsts names <;> simp [h]

theorem mem_firsts {names : List String} : s ∈ firsts names ↔ s ∈ names := by
  induction names using List.reverseRecOn with
  | nil => rfl
  | append_singleton names name ih => grind [firsts_concat]

theorem order_firsts (names : List String) :
    (firsts names).Pairwise fun s t => names.idxOf s < names.idxOf t := by
  induction names using List.reverseRecOn with
  | nil => exact .nil
  | append_singleton names name ih =>
    rw [firsts_concat]
    exact pairwise_idxOf_concat (fun _ => mem_firsts) ih name

namespace Machine

/-- The states that the rules mention, as often as they do. -/
def mentioned (m : Machine) : List String := m.rules.flatMap fun r => [r.source, r.target]

theorem ruleStates_eq (m : Machine) : m.ruleStates = firsts (m.initial :: m.mentioned) := by
  rw [ruleStates, firsts, mentioned, List.foldl_cons, List.foldl_flatMap]
  rfl

/-- The states besides the initial one that rules mention and that satisfy a condition, in the order
in which they are mentioned first. -/
structure ByMention (m : Machine) (p : String → Prop) (states : List String) : Prop where
  mem : ∀ s, s ∈ states ↔ s ≠ m.initial ∧ s ∈ m.mentioned ∧ p s
  order : states.Pairwise fun s t => m.mentioned.idxOf s < m.mentioned.idxOf t

theorem ByMention.nodup {p : String → Prop} (h : m.ByMention p states) : states.Nodup := by
  refine h.order.imp fun hlt => ?_
  rintro rfl
  exact Nat.lt_irrefl _ hlt

theorem ByMention.filter {p : String → Prop} {keep : String → Bool}
    (h : m.ByMention (fun _ => True) states)
    (hkeep : ∀ s, keep s = true ↔ p s) : m.ByMention p (states.filter keep) := by
  refine ⟨fun s => ?_, h.order.filter keep⟩
  rw [List.mem_filter, h.mem, hkeep, and_true, and_assoc]

theorem exists_ruleStates (m : Machine) : ∃ others, m.ruleStates = m.initial :: others ∧
    m.ByMention (fun _ => True) others := by
  have hmem : ∀ s, s ∈ m.ruleStates ↔ s = m.initial ∨ s ∈ m.mentioned := by
    intro s
    rw [ruleStates_eq, mem_firsts, List.mem_cons]
  have horder := order_firsts (m.initial :: m.mentioned)
  rw [← ruleStates_eq] at horder
  cases hstates : m.ruleStates with
  | nil => simpa [hstates] using hmem m.initial
  | cons first others =>
    rw [hstates] at hmem horder
    obtain ⟨hfirst, hothers⟩ := List.pairwise_cons.mp horder
    have hinitial : first = m.initial := by
      by_contra hne
      have hin := (List.mem_cons.mp ((hmem m.initial).mpr (.inl rfl))).resolve_left (Ne.symm hne)
      have hlt := hfirst _ hin
      rw [List.idxOf_cons_self] at hlt
      exact Nat.not_lt_zero _ hlt
    subst hinitial
    have hne : ∀ s ∈ others, s ≠ m.initial := by
      rintro s hs rfl
      exact Nat.lt_irrefl _ (hfirst _ hs)
    refine ⟨others, rfl, fun s => ?_, hothers.imp_of_mem fun hs ht hlt => ?_⟩
    · constructor
      · intro hs
        have hin := (hmem s).mp (List.mem_cons_of_mem _ hs)
        exact ⟨hne s hs, hin.resolve_left (hne s hs), trivial⟩
      · rintro ⟨hs, hin, -⟩
        exact (List.mem_cons.mp ((hmem s).mpr (.inr hin))).resolve_left hs
    · rw [List.idxOf_cons_ne _ (hne _ hs).symm, List.idxOf_cons_ne _ (hne _ ht).symm] at hlt
      exact Nat.lt_of_succ_lt_succ hlt

/-- All states of a machine are listed, each of them once: the initial one first, be it final or
not; then the others that are mentioned by rules and not final, and then the final ones that are,
both in the order of their first mention; at last, in code point order, the final states that no
rule mentions. -/
theorem orderedStates_arranged (m : Machine) :
    m.orderedStates.Nodup ∧
    (∀ s, s ∈ m.orderedStates ↔ s = m.initial ∨ s ∈ m.mentioned ∨ s ∈ m.finals) ∧
    ∃ others ends idle, m.orderedStates = m.initial :: (others ++ ends ++ idle) ∧
      m.ByMention (· ∉ m.finals) others ∧ m.ByMention (· ∈ m.finals) ends ∧
      (∀ s, s ∈ idle ↔ s ≠ m.initial ∧ s ∉ m.mentioned ∧ s ∈ m.finals) ∧ idle.Pairwise (· < ·) := by
  obtain ⟨states, hstates, hmention⟩ := m.exists_ruleStates
  have hfinal : ∀ s, m.isFinal s = true ↔ s ∈ m.finals := fun s => List.contains_iff_mem
  have hothers : m.ByMention (· ∉ m.finals) (states.filter fun s => !m.isFinal s) :=
    hmention.filter fun s => by rw [Bool.not_eq_true', ← Bool.not_eq_true, hfinal]
  have hends : m.ByMention (· ∈ m.finals) (states.filter m.isFinal) := hmention.filter hfinal
  have hidle : ∀ s, s ∈ m.idleFinals ↔ s ≠ m.initial ∧ s ∉ m.mentioned ∧ s ∈ m.finals := by
    intro s
    have hlisted : s ∈ m.ruleStates ↔ s = m.initial ∨ s ∈ m.mentioned := by
      rw [ruleStates_eq, mem_firsts, List.mem_cons]
    simp only [idleFinals, Names.mem_sorted, List.mem_filter, Bool.not_eq_true', ← Bool.not_eq_true,
      List.contains_iff_mem, hlisted]
    tauto
  have hlist : m.orderedStates = m.initial ::
      (states.filter (fun s => !m.isFinal s) ++ states.filter m.isFinal ++ m.idleFinals) := by
    have hfinals :
        m.ruleFinals = states.filter m.isFinal := by rw [ruleFinals, hstates, List.tail_cons]
    have hinitial : m.initial ∉ states := fun hmem => ((hmention.mem _).mp hmem).1 rfl
    have hkept : ∀ s ∈ states, (!(states.filter m.isFinal).contains s) = !m.isFinal s := by
      intro s hs
      simp [hs]
    rw [orderedStates, hfinals, hstates, List.filter_cons_of_pos (by simp [hinitial]),
      List.filter_congr hkept, List.cons_append, List.cons_append]
  have hsorted : m.idleFinals.Pairwise (· < ·) := Names.pairwise_sorted _
  have hidle_nodup : m.idleFinals.Nodup := hsorted.imp ne_of_lt
  refine ⟨?_, fun s => ?_, _, _, _, hlist, hothers, hends, hidle, hsorted⟩
  · rw [hlist]
    simp only [List.nodup_cons, List.nodup_append, List.mem_append, hothers.mem, hends.mem, hidle]
    refine ⟨by tauto, ⟨hothers.nodup, hends.nodup, ?_⟩, hidle_nodup, ?_⟩
    · rintro s ⟨-, -, hs⟩ t ⟨-, -, ht⟩ rfl
      exact hs ht
    · rintro s hs t ⟨-, ht, -⟩ rfl
      rcases hs with hs | hs
      · exact ht hs.2.1
      · exact ht hs.2.1
  · rw [hlist]
    simp only [List.mem_cons, List.mem_append, hothers.mem, hends.mem, hidle]
    tauto

/-- The initial state is final and mentioned last; of the other final states rules mention `b`
alone. -/
example : (Machine.load [true] "q" ["z", "b", "q", "a"]
    [⟨"b", true, true, .halt, "d"⟩, ⟨"c", true, true, .halt, "q"⟩]).orderedStates =
      ["q", "d", "c", "b", "a", "z"] := by
  decide

end Machine

end TapeMachine
