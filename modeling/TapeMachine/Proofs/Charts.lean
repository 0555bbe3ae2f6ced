import TapeMachine.Chart
import TapeMachine.Proofs.Decompiled
import TapeMachine.Proofs.Step
import TapeMachine.Proofs.Text.Rows

/-! A chart says what a machine does in every state, and no two machines that differ there have the
same. -/
namespace TapeMachine

theorem IsName.not_mem {s : String} (h : IsName s) {c : Char} (hc : isNameChar c = false) :
    c ∉ s.toList := by
  intro hmem
  rw [h.2 c hmem] at hc
  cases hc

/-- Names that do not hold the separator are found between the separators. -/
theorem Names.splitOn_joined {separator : String} {c : Char} (hc : separator.toList = [c])
    {names : List String} (hnames : ∀ n ∈ names, c ∉ n.toList) (hne : names ≠ []) :
    (joined separator names).toList.splitOn c = names.map String.toList := by
  rw [joined, String.toList_intercalate, hc]
  apply List.splitOn_intercalate
  · intro cs hcs
    obtain ⟨n, hn, rfl⟩ := List.mem_map.mp hcs
    exact hnames n hn
  · simpa using hne

theorem Names.mem_joined {separator : String} {c : Char} {names : List String}
    (h : c ∈ (joined separator names).toList) :
    c ∈ separator.toList ∨ ∃ n ∈ names, c ∈ n.toList := by
  cases names with
  | nil => simp [joined] at h
  | cons first others =>
    rw [toList_joined, List.mem_append, List.mem_flatMap] at h
    rcases h with h | ⟨n, hn, h⟩
    · exact .inr ⟨first, List.mem_cons_self, h⟩
    · rcases List.mem_append.mp h with h | h
      · exact .inl h
      · exact .inr ⟨n, List.mem_cons_of_mem first hn, h⟩

theorem Stray.map_mem_weave {r : Rule Bool} {t : Table} (h : r ∈ t) (index : Nat)
    (strays : List Stray) :
    r.map bitValue ∈ weave index strays t := by
  induction t generalizing index strays with
  | nil => cases h
  | cons x t ih =>
    rw [weave, List.mem_append, List.mem_cons]
    rcases List.mem_cons.mp h with rfl | h
    · exact .inr (.inl rfl)
    · exact .inr (.inr (ih h _ _))

theorem Move.length_letter (m : Move) : m.letter.toList.length = 1 := by
  cases m <;> decide

namespace Rule

/-- What a chart shows of a rule: the symbol that is written, the move and the next state. -/
def cell (r : Rule Bool) : String := Symbol.spell r.write ++ r.move.letter ++ r.target

theorem toList_cell (r : Rule Bool) :
    r.cell.toList = digit r.write :: (r.move.letter.toList ++ r.target.toList) := by
  rw [cell, String.toList_append, String.toList_append]
  simp

theorem cell_injective {r q : Rule Bool} (hkey : r.key = q.key) (h : r.cell = q.cell) : r = q := by
  have hchars := congrArg String.toList h
  rw [toList_cell, toList_cell, List.cons.injEq] at hchars
  obtain ⟨hdigit, hrest⟩ := hchars
  obtain ⟨hletter, htarget⟩ :=
    List.append_inj hrest (r.move.length_letter.trans q.move.length_letter.symm)
  have hwrite : r.write = q.write := by
    have hdigits : ∀ a b, digit a = digit b → a = b := by decide
    exact hdigits _ _ hdigit
  have hmove : r.move = q.move := by
    rw [← Move.ofWord_letter r.move, String.toList_inj.mp hletter, Move.ofWord_letter]
  obtain ⟨source, read, write, move, target⟩ := r
  cases hkey
  cases hwrite
  cases hmove
  cases String.toList_inj.mp htarget
  rfl

/-- A cell that shows a rule begins with a digit, whatever the states are called. -/
theorem cell_ne {text : String} (h : ∀ b, text.toList.head? ≠ some (digit b)) (r : Rule Bool) :
    r.cell ≠ text := by
  rintro rfl
  apply h r.write
  rw [toList_cell]
  rfl

theorem cell_ne_halt (r : Rule Bool) : r.cell ≠ "HALT" := cell_ne (by decide) r

theorem cell_ne_dash (r : Rule Bool) : r.cell ≠ "-" := cell_ne (by decide) r

end Rule

namespace Machine

variable {m k : Machine} {s : String} {b : Bool}

theorem mem_appendNew {names : List String} {name : String} :
    s ∈ appendNew names name ↔ s ∈ names ∨ s = name := by
  unfold appendNew
  split
  · next h =>
    refine ⟨.inl, ?_⟩
    rintro (hs | rfl)
    · exact hs
    · exact List.contains_iff_mem.mp h
  · rw [List.mem_append, List.mem_singleton]

theorem mem_ruleStates :
    s ∈ m.ruleStates ↔ s = m.initial ∨ ∃ r ∈ m.rules, s = r.source ∨ s = r.target := by
  have hfold : ∀ (rules : List (Rule Int)) (states : List String),
      s ∈ rules.foldl (fun states r => appendNew (appendNew states r.source) r.target) states ↔
        s ∈ states ∨ ∃ r ∈ rules, s = r.source ∨ s = r.target := by
    intro rules
    induction rules with
    | nil => simp
    | cons r rules ih =>
      intro states
      rw [List.foldl_cons, ih, mem_appendNew, mem_appendNew]
      simp only [List.mem_cons, exists_eq_or_imp, or_assoc]
  rw [ruleStates, hfold, List.mem_singleton]

/-- Every state that matters has a row. -/
theorem mem_orderedStates : s ∈ m.orderedStates ↔ s ∈ m.ruleStates ∨ s ∈ m.finals := by
  have hfinals : ∀ s ∈ m.ruleFinals, s ∈ m.ruleStates :=
    fun s hs => List.mem_of_mem_tail (List.mem_of_mem_filter hs)
  simp only [orderedStates, idleFinals, List.mem_append, Names.mem_sorted, List.mem_filter,
    Bool.not_eq_true', ← Bool.not_eq_true, List.contains_iff_mem]
  constructor
  · rintro ((⟨hs, -⟩ | hs) | ⟨hs, -⟩)
    · exact .inl hs
    · exact .inl (hfinals s hs)
    · exact .inr hs
  · intro h
    by_cases hs : s ∈ m.ruleStates
    · by_cases hf : s ∈ m.ruleFinals
      · exact .inl (.inr hf)
      · exact .inl (.inl ⟨hs, hf⟩)
    · exact .inr ⟨h.resolve_left hs, hs⟩

/-- In a state without a row no rule applies. -/
theorem ruleFor_of_unlisted (h : s ∉ m.orderedStates) (b : Bool) : m.ruleFor s b = none := by
  rw [mem_orderedStates, not_or, mem_ruleStates, not_or] at h
  obtain ⟨⟨-, hrules⟩, hfinal⟩ := h
  have hnone : m.table.find? s b = none := by
    by_contra hsome
    obtain ⟨r, hr⟩ := Option.ne_none_iff_exists'.mp hsome
    have hmem : r.map bitValue ∈ m.rules := Stray.map_mem_weave (Table.mem_of_find? hr) _ _
    exact hrules ⟨_, hmem, .inl (congrArg Prod.fst (Table.key_of_find? hr)).symm⟩
  have hrest : m.isFinal s = false := by
    rw [isFinal, ← Bool.not_eq_true, List.contains_iff_mem]
    exact hfinal
  rw [ruleFor, hnone, hrest]
  rfl

/-- A cell shows the rule of the table, or that a final state rests, or that no rule applies. -/
theorem action_cases (m : Machine) (s : String) (b : Bool) :
    (∃ r, m.table.find? s b = some r ∧ m.ruleFor s b = some r ∧ m.action s b = r.cell) ∨
      (m.table.find? s b = none ∧ m.ruleFor s b = some (.rest s b) ∧ m.action s b = "HALT") ∨
      (m.table.find? s b = none ∧ m.ruleFor s b = none ∧ m.action s b = "-") := by
  unfold action ruleFor
  cases m.table.find? s b with
  | some r => exact .inl ⟨r, rfl, rfl, rfl⟩
  | none =>
    cases m.isFinal s with
    | true => exact .inr (.inl ⟨rfl, rfl, rfl⟩)
    | false => exact .inr (.inr ⟨rfl, rfl, rfl⟩)

/-- From a cell one can tell which rule applies. -/
theorem ruleFor_of_action (h : m.action s b = k.action s b) : m.ruleFor s b = k.ruleFor s b := by
  -- Cells of different kinds begin with different characters; two that show rules have the same
  -- key.
  rcases action_cases m s b with ⟨r, hr, hm, hcell⟩ | ⟨-, hm, hcell⟩ | ⟨-, hm, hcell⟩ <;>
    rcases action_cases k s b with ⟨q, hq, hk, hcell'⟩ | ⟨-, hk, hcell'⟩ | ⟨-, hk, hcell'⟩ <;>
    rw [hcell, hcell'] at h <;> rw [hm, hk]
  · have hkey : r.key = q.key := (Table.key_of_find? hr).trans (Table.key_of_find? hq).symm
    rw [Rule.cell_injective hkey h]
  · exact (r.cell_ne_halt h).elim
  · exact (r.cell_ne_dash h).elim
  · exact (q.cell_ne_halt h.symm).elim
  · exact absurd h (by decide)
  · exact (q.cell_ne_dash h.symm).elim
  · exact absurd h (by decide)

/-- The machine with the head on some tape and in some state. -/
def placed (m : Machine) (t : Tape) (state : String) : Machine :=
  { m with tape := t, current := state }

theorem currentRule_placed {t : Tape} (hb : t.symbol? = some b) (s : String) :
    (m.placed t s).currentRule = .ok (m.ruleFor s b) := currentRule_eq hb

/-- The states of a machine are called by names. -/
structure Named (m : Machine) : Prop where
  initial : IsName m.initial
  finals : ∀ s ∈ m.finals, IsName s
  rules : ∀ r ∈ m.rules, IsName r.source ∧ IsName r.target

theorem Named.of_listed (h : m.Named) (hs : s ∈ m.orderedStates) : IsName s := by
  rw [mem_orderedStates, mem_ruleStates] at hs
  rcases hs with (rfl | ⟨r, hr, rfl | rfl⟩) | hs
  · exact h.initial
  · exact (h.rules r hr).1
  · exact (h.rules r hr).2
  · exact h.finals s hs

/-- Nothing that separates cells stands in a cell. -/
theorem Named.not_mem_action (h : m.Named) {c : Char} (hc : c = '\t' ∨ c = '\n') (s : String)
    (b : Bool) :
    c ∉ (m.action s b).toList := by
  rcases action_cases m s b with ⟨r, hr, -, hcell⟩ | ⟨-, -, hcell⟩ | ⟨-, -, hcell⟩
  · have hmem : r.map bitValue ∈ m.rules := Stray.map_mem_weave (Table.mem_of_find? hr) _ _
    have htarget : IsName r.target := (h.rules _ hmem).2
    have hdigit : ∀ b, digit b ≠ '\t' ∧ digit b ≠ '\n' := by decide
    have hletter : '\t' ∉ r.move.letter.toList ∧ '\n' ∉ r.move.letter.toList := by
      cases r.move <;> decide
    rw [hcell, Rule.toList_cell, List.mem_cons, List.mem_append, not_or, not_or]
    rcases hc with rfl | rfl
    · exact ⟨(hdigit _).1.symm, hletter.1, htarget.not_mem (by decide)⟩
    · exact ⟨(hdigit _).2.symm, hletter.2, htarget.not_mem (by decide)⟩
  · rw [hcell]
    rcases hc with rfl | rfl <;> decide
  · rw [hcell]
    rcases hc with rfl | rfl <;> decide

namespace ChartRow

/-- The cell of a row for a symbol. -/
def cell (row : ChartRow) (b : Bool) : String := if b then row.onOne else row.onZero

def columns (row : ChartRow) : List String := [row.state, row.onZero, row.onOne]

theorem columns_injective : Function.Injective fun row : ChartRow =>
    row.columns.map String.toList := by
  rintro ⟨s, a, b⟩ ⟨s', a', b'⟩ h
  simpa [columns, String.toList_inj] using h

end ChartRow

theorem mem_chartRows {row : ChartRow} : row ∈ m.chartRows ↔
    row.state ∈ m.orderedStates ∧ ∀ b, row.cell b = m.action row.state b := by
  simp only [chartRows, List.mem_map]
  constructor
  · rintro ⟨s, hs, rfl⟩
    refine ⟨hs, fun b => ?_⟩
    cases b <;> rfl
  · rintro ⟨hs, hcells⟩
    obtain ⟨state, onZero, onOne⟩ := row
    refine ⟨state, hs, ?_⟩
    have hzero : onZero = m.action state false := hcells false
    have hone : onOne = m.action state true := hcells true
    rw [hzero, hone, Symbol.blank_bool, Symbol.one_bool]

/-- The cells of a chart, row by row. -/
def cellsOf (chart : String) : List (List (List Char)) :=
  (Text.rows chart.toList).map (·.splitOn '\t')

/-- From the text of a chart one can read off its rows. -/
theorem Named.cellsOf_chart (h : m.Named) : cellsOf m.chart =
    (["State", "0", "1"].map String.toList) ::
      m.chartRows.map fun row => row.columns.map String.toList := by
  have hcolumns : ∀ row ∈ m.chartRows, ∀ c, c = '\t' ∨ c = '\n' → ∀ n ∈ row.columns,
      c ∉ n.toList := by
    intro row hrow c hc n hn
    obtain ⟨hstate, hcells⟩ := mem_chartRows.mp hrow
    simp only [ChartRow.columns, List.mem_cons, List.not_mem_nil, or_false] at hn
    rcases hn with rfl | rfl | rfl
    · apply (h.of_listed hstate).not_mem
      rcases hc with rfl | rfl <;> decide
    · have hzero : row.onZero = m.action row.state false := hcells false
      exact hzero ▸ h.not_mem_action hc _ _
    · have hone : row.onOne = m.action row.state true := hcells true
      exact hone ▸ h.not_mem_action hc _ _
  have hlines :
      ∀ line ∈ "State\t0\t1" :: m.chartRows.map (fun row => Names.joined "\t" row.columns),
      '\n' ∉ line.toList := by
    intro line hline
    rcases List.mem_cons.mp hline with rfl | hline
    · decide
    · obtain ⟨row, hrow, rfl⟩ := List.mem_map.mp hline
      intro hmem
      rcases Names.mem_joined hmem with hmem | ⟨n, hn, hmem⟩
      · revert hmem
        decide
      · exact hcolumns row hrow '\n' (.inr rfl) n hn hmem
  have hrows : Text.rows m.chart.toList =
      ("State\t0\t1" :: m.chartRows.map (fun row => Names.joined "\t" row.columns)).map
        String.toList :=
    Names.splitOn_joined (by decide) hlines (List.cons_ne_nil _ _)
  rw [cellsOf, hrows, List.map_cons, List.map_cons, List.map_map, List.map_map]
  refine congrArg₂ List.cons (by decide) (List.map_congr_left fun row hrow => ?_)
  exact Names.splitOn_joined (by decide) (hcolumns row hrow '\t' (.inl rfl)) (List.cons_ne_nil _ _)

/-- Machines with the same chart apply the same rules, in states without a row as well. -/
theorem Named.ruleFor_of_chart (hm : m.Named) (hk : k.Named) (h : m.chart = k.chart) :
    m.ruleFor = k.ruleFor := by
  have hcells := congrArg cellsOf h
  rw [hm.cellsOf_chart, hk.cellsOf_chart, List.cons.injEq] at hcells
  have hrows : m.chartRows = k.chartRows :=
    List.map_injective_iff.mpr ChartRow.columns_injective hcells.2
  have hstates : m.orderedStates = k.orderedStates := by
    have hmap := congrArg (List.map ChartRow.state) hrows
    simpa [chartRows, Function.comp_def] using hmap
  funext s b
  by_cases hs : s ∈ m.orderedStates
  · have hrow : (⟨s, m.action s false, m.action s true⟩ : ChartRow) ∈ k.chartRows := by
      rw [← hrows]
      exact List.mem_map_of_mem hs
    apply ruleFor_of_action
    have hcell := (mem_chartRows.mp hrow).2 b
    cases b <;> exact hcell
  · rw [ruleFor_of_unlisted hs, ruleFor_of_unlisted (hstates ▸ hs)]

end Machine

namespace Program

variable {registry : Registry} {drafts : List Library.Draft} {source : String} {p : Program}

theorem named_of_build (hdrafts : Registry.ofDrafts drafts = .ok registry)
    (h : build registry source = .ok p) : p.machine.Named := by
  obtain ⟨_, _, initial, finals, _, rules, -, hreal, -⟩ := realizes_of_build h
  obtain ⟨qs, -, hmachine⟩ := hreal.machine hdrafts
  rw [hmachine]
  refine ⟨initial.2, ?_, ?_⟩
  · intro s hs
    obtain ⟨n, -, rfl⟩ := List.mem_map.mp hs
    exact n.2
  · intro r hr
    rw [Machine.rules, Machine.load, Stray.weave_nil] at hr
    obtain ⟨x, hx, rfl⟩ := List.mem_map.mp hr
    obtain ⟨q, -, rfl⟩ := List.mem_map.mp (Table.mem_of_mem_ofRules hx)
    exact ⟨q.source.2, q.target.2⟩

/-- A chart is a faithful picture of a machine, and nothing is lost in it. In the state of a row a
cell is a dash if the machine has no rule there, it is `HALT` if only the rule that rests applies,
and otherwise it shows the rule of the table. Two built machines with the same chart apply the same
rule in every state, be it on the chart or not, on every tape. -/
theorem chart_faithful :
    (∀ m : Machine, ∀ row ∈ m.chartRows, ∀ (b : Bool) (t : Tape), t.symbol? = some b →
      (row.cell b = "-" ↔ (m.placed t row.state).isUndefined = .ok true) ∧
      (row.cell b = "HALT" ↔ m.table.find? row.state b = none ∧
        (m.placed t row.state).currentRule = .ok (some (.rest row.state b))) ∧
      (row.cell b ≠ "-" → row.cell b ≠ "HALT" → ∃ r, m.table.find? row.state b = some r ∧
        (m.placed t row.state).currentRule = .ok (some r) ∧
        row.cell b = Symbol.spell r.write ++ r.move.letter ++ r.target)) ∧
    ∀ (drafts drafts' : List Library.Draft) (registry registry' : Registry)
      (source source' : String) (p q : Program), Registry.ofDrafts drafts = .ok registry →
      Registry.ofDrafts drafts' = .ok registry' →
      build registry source = .ok p → build registry' source' = .ok q →
      p.machine.chart = q.machine.chart → ∀ (t : Tape) (state : String),
        (p.machine.placed t state).currentRule = (q.machine.placed t state).currentRule := by
  constructor
  · intro m row hrow b t hb
    have hcell := (Machine.mem_chartRows.mp hrow).2 b
    have hcurrent := Machine.currentRule_placed (m := m) hb row.state
    rw [hcell, Machine.isUndefined, hcurrent]
    rcases Machine.action_cases m row.state b
        with ⟨r, hr, hrule, haction⟩ | ⟨hnone, hrule, haction⟩ |
      ⟨hnone, hrule, haction⟩
    · rw [haction, hrule, hr]
      refine ⟨?_, ?_, fun _ _ => ⟨r, rfl, rfl, rfl⟩⟩
      · simp [r.cell_ne_dash, Except.map]
      · simp [r.cell_ne_halt]
    · rw [haction, hrule, hnone]
      simp [Except.map]
    · rw [haction, hrule, hnone]
      simp [Except.map]
  · intro drafts drafts' registry registry' source source' p q hdrafts hdrafts' hp hq hchart t state
    have hrules := (named_of_build hdrafts hp).ruleFor_of_chart (named_of_build hdrafts' hq) hchart
    change Except.map (p.machine.ruleFor state) (p.machine.placed t state).symbol =
      Except.map (q.machine.ruleFor state) (p.machine.placed t state).symbol
    rw [hrules]

/-- A program whose states are called like what a chart shows; it composes a library. -/
def misnamed : String :=
  "\x7b1\x7d; I = \x7b1H0\x7d; F = \x7bHALT\x7d; compose = \x7bhop\x7d;\n" ++
    "(1H0, 1, 1, H, HALT); (1H0, 0, 1, R, hop0);\n"

/-- Another one, with the rules of the library, and a rule that is overruled. -/
def misnamedAlone : String :=
  "\x7b011\x7d; I = \x7b1H0\x7d; F = \x7bHALT, HALT\x7d; (hop0, 1, 0, L, hopf);\n" ++
    "(hop0, 0, 0, R, hopf); (hop0, 1, 1, R, hopf); (1H0, 1, 1, N, HALT); (1H0, 0, 1, R, hop0);\n"

/-- The chart of both. -/
def misnamedChart : String :=
  "State\t0\t1\n1H0\t1Rhop0\t1HHALT\nhop0\t0Rhopf\t1Rhopf\nhopf\t-\t-\nHALT\tHALT\tHALT"

theorem chart_faithful_misnamed : ∃ p q, Registry.ofDrafts flipAndHop = .ok flipAndHopRegistry ∧
    Registry.ofDrafts [] = .ok [] ∧ build flipAndHopRegistry misnamed = .ok p ∧
    build [] misnamedAlone = .ok q ∧ p.machine.chart = q.machine.chart ∧
    (∀ t state, (p.machine.placed t state).currentRule = (q.machine.placed t state).currentRule) ∧
    ⟨"HALT", "HALT", "HALT"⟩ ∈ p.machine.chartRows ∧ (Tape.load [true]).symbol? = some true ∧
    (p.machine.placed (.load [true]) "HALT").currentRule = .ok (some (.rest "HALT" true)) := by
  have hdrafts : Registry.ofDrafts flipAndHop = .ok flipAndHopRegistry := by decide +kernel
  have hnone : Registry.ofDrafts [] = .ok [] := rfl
  have hbuild : (build flipAndHopRegistry misnamed).map (fun p =>
      (p.machine.chart, p.machine.chartRows.contains ⟨"HALT", "HALT", "HALT"⟩)) =
        .ok (misnamedChart, true) := by decide +kernel
  have hbuild' : (build [] misnamedAlone).map (·.machine.chart) = .ok misnamedChart := by
    decide +kernel
  obtain ⟨p, hp, hshown⟩ := exists_of_map_eq_ok hbuild
  obtain ⟨q, hq, hshown'⟩ := exists_of_map_eq_ok hbuild'
  obtain ⟨hchart, hcontains⟩ := Prod.mk.inj hshown
  have hcharts : p.machine.chart = q.machine.chart := hchart.trans hshown'.symm
  have hrow : ⟨"HALT", "HALT", "HALT"⟩ ∈ p.machine.chartRows := by simpa using hcontains
  have hsymbol : (Tape.load [true]).symbol? = some true := by decide
  obtain ⟨hcells, hlossless⟩ := chart_faithful
  have hsame := hlossless _ _ _ _ _ _ _ _ hdrafts hnone hp hq hcharts
  obtain ⟨-, hhalt, -⟩ := hcells _ _ hrow true _ hsymbol
  exact ⟨p, q, hdrafts, hnone, hp, hq, hcharts, hsame, hrow, hsymbol, (hhalt.mp rfl).2⟩

end Program

end TapeMachine
