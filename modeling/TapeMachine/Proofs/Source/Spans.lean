import Mathlib.Order.Basic
import TapeMachine.Proofs.Source.Pieces
import TapeMachine.Proofs.Source.Records
import TapeMachine.Proofs.Text.Rows

/-!
The spans of an outline: each cuts out of the text what it is the span of, they lie in one another
as the nodes of the tree do, and between the tokens there are only blanks and comments.
-/
namespace TapeMachine

open Terminal Lexeme

namespace Position

/-- Places come in the order of their lines, and on a line in that of their columns. -/
instance : PartialOrder Position where
  le p q := p.line < q.line ∨ p.line = q.line ∧ p.column ≤ q.column
  le_refl p := by omega
  le_trans p q r := by omega
  le_antisymm p q hpq hqp := by
    have hline : p.line = q.line := by omega
    have hcolumn : p.column = q.column := by omega
    cases p
    cases q
    cases hline
    cases hcolumn
    rfl

theorem le_iff {p q : Position} :
    p ≤ q ↔ p.line < q.line ∨ p.line = q.line ∧ p.column ≤ q.column := Iff.rfl

theorem le_after (p : Position) (cs : List Char) : p ≤ p.after cs := by
  induction cs generalizing p with
  | nil => exact le_rfl
  | cons c cs ih =>
    refine le_trans ?_ (ih (p.advance c))
    rw [le_iff, advance]
    split
    · exact .inl (Int.lt_succ p.line)
    · exact .inr ⟨rfl, (Int.lt_succ p.column).le⟩

theorem lt_after {cs : List Char} (h : cs ≠ []) (p : Position) : p < p.after cs :=
  lt_of_le_of_ne (le_after p cs) (after_ne h p).symm

end Position

namespace Span

variable {s : Span} {cs before piece behind : List Char}

/-- What a span cuts out of a text, whose places are counted by rows and columns; the end of the
span is exclusive. -/
def slice (s : Span) (cs : List Char) : List Char :=
  (cs.take ((s.stop.getD s.start).offset (Text.rows cs))).drop (s.start.offset (Text.rows cs))

/-- A span of a text covers a piece that stands between two others. -/
structure Covers (s : Span) (cs before piece behind : List Char) : Prop where
  text : cs = before ++ (piece ++ behind)
  start : s.start = Position.start.after before
  stop : s.stop = some (Position.start.after (before ++ piece))

theorem covers_of_text (h : cs = before ++ (piece ++ behind)) :
    Span.Covers ⟨Position.start.after before, some ((Position.start.after before).after piece)⟩
      cs before piece behind :=
  ⟨h, rfl, by rw [Position.after_append]⟩

theorem Covers.slice (h : s.Covers cs before piece behind) : s.slice cs = piece := by
  obtain ⟨rfl, hstart, hstop⟩ := h
  rw [Span.slice, hstop, Option.getD_some, hstart, Position.offset_after, ← List.append_assoc,
    Position.offset_after, List.take_left' rfl, List.drop_left' rfl]

/-- A span is part of another one; both have an end. -/
def Within (inner outer : Span) : Prop :=
  outer.start ≤ inner.start ∧
    ∃ stop last, inner.stop = some stop ∧ outer.stop = some last ∧ stop ≤ last

/-- A span goes from the first token of a row to the last. -/
def Bounds (s : Span) (ts : List Token) : Prop :=
  ∃ first last, ts.head? = some first ∧ ts.getLast? = some last ∧ s = ⟨first.start, some last.stop⟩

/-- A span ends before another one starts, or where it starts. -/
def Precedes (s t : Span) : Prop := ∃ stop, s.stop = some stop ∧ stop ≤ t.start

end Span

namespace Reads

variable {opening : Bool} {p q : Position} {cs rest : List Char} {us vs ws ts : List Token}
  {t v : Token}

theorem covers_token (h : Reads opening .start ts cs q rest) (ht : t ∈ ts) :
    ∃ before behind, t.span.Covers cs before t.text.toList behind := by
  obtain ⟨-, before, behind, hcs, hstart, hstop⟩ := h.placed t ht
  exact ⟨before, behind, hcs, hstart, congrArg some hstop⟩

/-- Tokens in a row cover the text from the first one to the last. -/
theorem covers_row (h : Reads opening .start (us ++ (v :: vs ++ ws)) cs q rest) :
    ∃ before old behind, (Span.mk v.start
      (some ((v :: vs).getLast (List.cons_ne_nil v vs)).stop)).Covers cs before
        (v.text.toList ++ old) behind := by
  obtain ⟨before, old, behind, _, hcs, hstart, hstop, -, -⟩ := h.middle
  rw [hstart, hstop]
  exact ⟨before, old, behind, Span.covers_of_text hcs⟩

/-- Tokens come one after the other. -/
theorem ordered (h : Reads opening p ts cs q rest) :
    (∀ t ∈ ts, p ≤ t.start ∧ t.start < t.stop) ∧ ts.Pairwise fun t u => t.stop ≤ u.start := by
  induction h with
  | nil => simp
  | @token _ p _ gap cs _ t ts _ hstart hstop hspelled _ _ ih =>
    obtain ⟨c, tail, hc, -⟩ := hspelled.opens
    have hne : t.text.toList ≠ [] := ne_of_eq_of_ne hc (List.cons_ne_nil c tail)
    have hp : p ≤ t.start := hstart ▸ p.le_after gap
    have ht : t.start < t.stop := hstop ▸ Position.lt_after hne t.start
    refine ⟨List.forall_mem_cons.mpr ⟨⟨hp, ht⟩, fun u hu => ?_⟩,
      List.pairwise_cons.mpr ⟨fun u hu => (ih.1 u hu).1, ih.2⟩⟩
    exact ⟨(hp.trans ht.le).trans (ih.1 u hu).1, (ih.1 u hu).2⟩

end Reads

/-- Each token of a row lies between the first one and the last. -/
theorem Token.within_row {t v : Token} {vs : List Token} (hproper : ∀ t ∈ v :: vs, t.start < t.stop)
    (hordered : (v :: vs).Pairwise fun t u => t.stop ≤ u.start) (ht : t ∈ v :: vs) :
    t.span.Within ⟨v.start, some ((v :: vs).getLast (List.cons_ne_nil v vs)).stop⟩ := by
  have hfirst : v.start ≤ t.start := by
    rcases List.mem_cons.mp ht with rfl | ht
    · exact le_rfl
    · have hstop : v.stop ≤ t.start := (List.pairwise_cons.mp hordered).1 t ht
      exact (hproper v List.mem_cons_self).le.trans hstop
  have hlast : t.stop ≤ ((v :: vs).getLast (List.cons_ne_nil v vs)).stop := by
    have hmem := List.getLast_mem (List.cons_ne_nil v vs)
    have hsplit := List.dropLast_append_getLast (List.cons_ne_nil v vs)
    generalize (v :: vs).getLast _ = last at hmem hsplit ⊢
    rw [← hsplit] at ht hordered
    rcases List.mem_append.mp ht with ht | ht
    · have hstart : t.stop ≤ last.start :=
        (List.pairwise_append.mp hordered).2.2 t ht last (List.mem_singleton_self last)
      exact hstart.trans (hproper last hmem).le
    · rw [List.mem_singleton.mp ht]
  exact ⟨hfirst, t.stop, _, rfl, rfl, hlast⟩

/-- The lexemes of a phrase that its record covers, marks and all: a rule leaves out the
semicolon. -/
def Phrase.covered : Phrase → List Lexeme
  | rule r => (rule r).body
  | p => p.lexemes

namespace Record

/-- A record is made of the tokens that spell a phrase. -/
structure Spells (r : Record) (p : Phrase) : Prop where
  kind : r.kind = p.kind
  lexemes : r.tokens.map Token.lexeme = p.covered

/-- Tokens are cut into the records of phrases. Between them there may be semicolons. -/
inductive Cut : List Phrase → List Record → List Token → Prop
  | nil : Cut [] [] []
  | cons {p : Phrase} {ps : List Phrase} {r : Record} {rs : List Record} {marks ts : List Token} :
      r.Spells p → (∀ t ∈ marks, t.terminal = semicolon) → Cut ps rs ts →
      Cut (p :: ps) (r :: rs) (r.tokens ++ (marks ++ ts))

theorem spells_of_rule {q : RulePhrase} {us marks : List Token}
    (hus : us.map Token.lexeme = (Phrase.rule q).body)
    (hmarks : ∀ t ∈ marks, t.terminal = semicolon) :
    ∃ r, ofGroup? (us ++ marks) = some r ∧ r.tokens = us ∧ r.Spells (.rule q) := by
  have hopen : ∀ t ∈ us, t.terminal ≠ semicolon := by
    intro t ht hsemicolon
    have hmem : t.lexeme ∈ (Phrase.rule q).body := hus ▸ List.mem_map_of_mem ht
    have hclosed := Phrase.body_open (by simp [Phrase.kind]) t.lexeme hmem
    rw [show t.lexeme.terminal = semicolon from hsemicolon] at hclosed
    cases hclosed
  cases us with
  | nil => cases hus
  | cons t us =>
    have ht : t.terminal = leftParen := congrArg Lexeme.terminal (List.cons.inj hus).1
    have hothers : (us ++ marks).filter (·.terminal != semicolon) = us := by
      rw [List.filter_append, List.filter_eq_self.mpr, List.filter_eq_nil_iff.mpr, List.append_nil]
      · simpa using hmarks
      · simpa using fun u hu => hopen u (List.mem_cons_of_mem t hu)
    refine ⟨⟨.rule, t, us⟩, ?_, rfl, rfl, hus⟩
    simp [ofGroup?, ht, RecordKind.openedBy?, hothers]

theorem spells_of_lexemes {p : Phrase} {us : List Token} (hp : p.kind ≠ .rule)
    (hus : us.map Token.lexeme = p.lexemes) :
    ∃ r, ofGroup? us = some r ∧ r.tokens = us ∧ r.Spells p := by
  obtain ⟨l, ls, hbody, hkind⟩ := p.body_opened
  have hcovered : p.covered = p.lexemes := by
    cases p with
    | rule => exact (hp rfl).elim
    | _ => rfl
  cases us with
  | nil => simp [Phrase.lexemes, hbody] at hus
  | cons t us =>
    have ht : t.lexeme = l := by
      rw [Phrase.lexemes, hbody] at hus
      exact (List.cons.inj hus).1
    have hopened : RecordKind.openedBy? t.terminal = some p.kind := by
      rw [← hkind, ← ht]
      rfl
    refine ⟨⟨p.kind, t, us⟩, ?_, rfl, rfl, hus.trans hcovered.symm⟩
    simp [ofGroup?, hopened, hp]

/-- The first group of tokens is the record of its phrase, with a semicolon behind it if it is a
rule. -/
theorem exists_spells {p : Phrase} {us : List Token} (hus : us.map Token.lexeme = p.lexemes) :
    ∃ r marks, ofGroup? us = some r ∧ us = r.tokens ++ marks ∧ r.Spells p ∧
      ∀ t ∈ marks, t.terminal = semicolon := by
  by_cases hp : p.kind = .rule
  · cases p with
    | rule q =>
      obtain ⟨vs, marks, rfl, hvs, hmarks⟩ := List.map_eq_append_iff.mp hus
      obtain ⟨mark, rfl, hmark⟩ := List.map_eq_singleton_iff.mp hmarks
      have hsemicolon : ∀ t ∈ [mark], t.terminal = semicolon := by
        intro t ht
        rw [List.mem_singleton.mp ht]
        exact congrArg Lexeme.terminal hmark
      obtain ⟨r, hr, rfl, hspells⟩ := spells_of_rule hvs hsemicolon
      exact ⟨r, [mark], hr, rfl, hspells, hsemicolon⟩
    | _ => cases hp
  · obtain ⟨r, hr, rfl, hspells⟩ := spells_of_lexemes hp hus
    exact ⟨r, [], hr, (List.append_nil _).symm, hspells, by simp⟩

namespace Cut

variable {ps : List Phrase} {r : Record} {rs : List Record} {ts : List Token}

theorem spells (h : Cut ps rs ts) : rs.Forall₂ Spells ps := by
  induction h with
  | nil => exact .nil
  | cons hr _ _ ih => exact .cons hr ih

theorem map_kind (h : Cut ps rs ts) : rs.map Record.kind = ps.map Phrase.kind := by
  induction h with
  | nil => rfl
  | cons hr _ _ ih => rw [List.map_cons, List.map_cons, hr.kind, ih]

theorem isInfix_tokens (h : Cut ps rs ts) (hr : r ∈ rs) : r.tokens <:+: ts := by
  induction h with
  | nil => cases hr
  | cons _ _ _ ih =>
    rcases List.mem_cons.mp hr with rfl | hr
    · exact (List.prefix_append _ _).isInfix
    · exact (ih hr).trans (List.IsSuffix.isInfix ⟨_, List.append_assoc _ _ _⟩)

/-- No semicolon is kept. -/
theorem kept (h : Cut ps rs ts) : rs.flatMap Record.kept = ts.filter (·.terminal.isKept) := by
  induction h with
  | nil => rfl
  | @cons p ps r rs marks ts _ hmarks _ ih =>
    have hnone : marks.filter (·.terminal.isKept) = [] := by
      rw [List.filter_eq_nil_iff]
      intro t ht
      rw [hmarks t ht]
      exact Bool.false_ne_true
    rw [List.flatMap_cons, List.filter_append, List.filter_append, hnone, ih]
    rfl

theorem pairwise_precedes (h : Cut ps rs ts) (hordered : ts.Pairwise fun t u => t.stop ≤ u.start) :
    rs.Pairwise fun r r' => r.span.Precedes r'.span := by
  induction h with
  | nil => exact .nil
  | @cons p ps r rs marks ts _ _ hcut ih =>
    obtain ⟨-, hrest, hbetween⟩ := List.pairwise_append.mp hordered
    refine List.pairwise_cons.mpr ⟨fun r' hr' => ?_, ih (List.pairwise_append.mp hrest).2.1⟩
    have hfirst : r'.first ∈ marks ++ ts :=
      List.mem_append_right _ ((hcut.isInfix_tokens hr').subset List.mem_cons_self)
    exact ⟨_, rfl, hbetween _ (List.getLast_mem _) _ hfirst⟩

end Cut

/-- A row of phrases is cut into one record for each. -/
theorem cut_of_lexemes {ps : List Phrase} {ts : List Token}
    (h : ts.map Token.lexeme = ps.flatMap Phrase.lexemes) :
    Cut ps ((groups ts).filterMap ofGroup?) ts := by
  induction ps generalizing ts with
  | nil =>
    obtain rfl := List.map_eq_nil_iff.mp h
    exact .nil
  | cons p ps ih =>
    obtain ⟨us, rest, rfl, hus, hrest⟩ := List.map_eq_append_iff.mp h
    obtain ⟨r, marks, hr, hsplit, hspells, hmarks⟩ := exists_spells hus
    rw [Phrase.groups_lexemes hus, List.filterMap_cons_some hr, hsplit, List.append_assoc]
    exact .cons hspells hmarks (ih hrest)

theorem filter_kind {rs : List Record} {kind : RecordKind} (h : ∀ r ∈ rs, r.kind = kind)
    (other : RecordKind) : rs.filter (·.kind == other) = if kind = other then rs else [] := by
  split
  · next heq => simpa [List.filter_eq_self, ← heq] using h
  · next hne => simpa [List.filter_eq_nil_iff] using fun r hr => h r hr ▸ hne

/-- A record that may be left out is alone in its place. -/
theorem of_optional {α : Type} {a : Option α} {of : α → Phrase} {rs : List Record}
    (kind : RecordKind) (hof : ∀ a, (of a).kind = kind)
    (h : rs.map Record.kind = (a.toList.map of).map Phrase.kind) :
    ∃ r : Option Record, rs = r.toList ∧ ∀ r ∈ rs, r.kind = kind := by
  cases a with
  | none =>
    obtain rfl := List.map_eq_nil_iff.mp h
    exact ⟨none, rfl, by simp⟩
  | some a =>
    obtain ⟨r, rfl, hr⟩ := List.map_eq_singleton_iff.mp h
    exact ⟨some r, rfl, by simpa using hr.trans (hof a)⟩

end Record

namespace Sentence

variable {reading : Reading} {ts : List Token}

theorem cut {s : Sentence reading} (h : ts.map Token.lexeme = s.lexemes) :
    Record.Cut s.phrases (Outline.ofTokens reading ts).records ts := by
  cases s with
  | program | block => exact Record.cut_of_lexemes h
  | rule q =>
    have h : ts.map Token.lexeme = (Phrase.rule q).body := h
    have hnone : ∀ t ∈ ([] : List Token), t.terminal = semicolon := by simp
    obtain ⟨r, hr, htokens, hspells⟩ := Record.spells_of_rule h hnone
    have hne : ts ≠ [] := by
      rintro rfl
      cases h
    have hopen : ∀ t ∈ ts, t.closes = false := by
      intro t ht
      have hmem : t.lexeme ∈ (Phrase.rule q).body := h ▸ List.mem_map_of_mem ht
      exact Phrase.body_open (by simp [Phrase.kind]) t.lexeme hmem
    have hcut := Record.Cut.cons hspells hnone .nil
    rw [List.append_nil] at hr hcut
    rw [htokens, List.append_nil] at hcut
    rw [Outline.ofTokens, groups_open hne hopen, List.filterMap_cons_some hr]
    exact hcut

/-- The places of a tree that are not left empty hold the records in the order of the text. -/
theorem filterMap_places {o : Outline} (s : Sentence o.reading)
    (h : o.records.map Record.kind = s.phrases.map Phrase.kind) :
    o.places.filterMap id = o.records := by
  obtain ⟨reading, span, records⟩ := o
  dsimp only at s h ⊢
  cases s with
  | rule | block => simp [Outline.places, List.filterMap_map]
  | program line bits initial finals composed rules =>
    rw [phrases_program, List.map_append, List.map_append, List.map_append] at h
    obtain ⟨opening, rs, rfl, hopening, h⟩ := List.map_eq_append_iff.mp h
    obtain ⟨required, rs, rfl, hrequired, h⟩ := List.map_eq_append_iff.mp h
    obtain ⟨libraries, rules, rfl, hlibraries, hrules⟩ := List.map_eq_append_iff.mp h
    obtain ⟨tape, l, rfl, ht, hl⟩ := List.map_eq_cons_iff.mp hrequired
    obtain ⟨initial, l', rfl, hi, hl'⟩ := List.map_eq_cons_iff.mp hl
    obtain ⟨finals, rfl, hf⟩ := List.map_eq_singleton_iff.mp hl'
    obtain ⟨description, rfl, hopening⟩ := Record.of_optional .description (fun _ => rfl) hopening
    obtain ⟨compose, rfl, hlibraries⟩ := Record.of_optional .compose (fun _ => rfl) hlibraries
    have hrules : ∀ r ∈ rules, r.kind = .rule := by
      intro r hr
      have hkind := List.mem_map_of_mem (f := Record.kind) hr
      rw [hrules, List.map_map] at hkind
      obtain ⟨q, -, hq⟩ := List.mem_map.mp hkind
      exact hq.symm
    simp only [Outline.places, List.filter_append, Record.filter_kind hopening,
      Record.filter_kind hlibraries, Record.filter_kind hrules]
    cases description <;> cases compose <;>
      simp [ht, hi, hf, Phrase.kind, List.filterMap_map]

end Sentence

namespace Outline

variable {reading : Reading} {source : String} {o : Outline} {ts : List Token}

/-- The tokens of a text are laid out in it with only blanks and comments around them. The span of
each cuts out its own text, and they come one after the other. The records hold those that are kept,
in this order; each record consists of all the tokens of its phrase, its marks too, next to each
other. The span of a record goes from its first token to its last and includes all of them; those of
two records do not overlap. The span of the whole goes from the first token to the last as well and
includes all of them and the records; it is missing where there is no token. -/
structure Lossless (o : Outline) (s : Sentence o.reading) (source : String) (ts : List Token) :
    Prop where
  reads : ∃ last gap, Reads (o.reading == .program) .start ts source.toList last gap ∧
    Trivia (o.reading == .program && ts.isEmpty) [] gap
  lexemes : ts.map Token.lexeme = s.lexemes
  slices : ∀ t ∈ ts, t.span.slice source.toList = t.text.toList
  proper : ∀ t ∈ ts, t.start < t.stop
  ordered : ts.Pairwise fun t u => t.stop ≤ u.start
  places : o.places.filterMap id = o.records
  kept : o.records.flatMap Record.kept = ts.filter (·.terminal.isKept)
  spells : o.records.Forall₂ Record.Spells s.phrases
  contiguous : ∀ r ∈ o.records, r.tokens <:+: ts
  bounds : ∀ r ∈ o.records, r.span.Bounds r.tokens
  tokens_within : ∀ r ∈ o.records, ∀ t ∈ r.tokens, t.span.Within r.span
  siblings : o.records.Pairwise fun r r' => r.span.Precedes r'.span
  within : ∀ root, o.span = some root → root.Bounds ts ∧
    (∀ t ∈ ts, t.span.Within root) ∧ ∀ r ∈ o.records, r.span.Within root
  rootless : o.span = none ↔ ts = []

theorem span_ofTokens_cons (reading : Reading) (t : Token) (ts : List Token) :
    (ofTokens reading (t :: ts)).span =
      some ⟨t.start, some ((t :: ts).getLast (List.cons_ne_nil t ts)).stop⟩ := by
  simp [ofTokens, List.getLast?_eq_some_getLast (List.cons_ne_nil t ts)]

/-- The span of the whole includes its tokens, and so what goes from one of them to another. -/
theorem within_ofTokens (hproper : ∀ t ∈ ts, t.start < t.stop)
    (hordered : ts.Pairwise fun t u => t.stop ≤ u.start) {root : Span}
    (hroot : (ofTokens reading ts).span = some root) : root.Bounds ts ∧
      (∀ t ∈ ts, t.span.Within root) ∧ ∀ r : Record, r.tokens <:+: ts → r.span.Within root := by
  cases ts with
  | nil => cases hroot
  | cons t us =>
    rw [span_ofTokens_cons] at hroot
    cases hroot
    have htokens : ∀ u ∈ t :: us, u.span.Within _ :=
      fun u hu => Token.within_row hproper hordered hu
    refine ⟨⟨t, _, rfl, List.getLast?_eq_some_getLast _, rfl⟩, htokens, fun r hr => ?_⟩
    obtain ⟨hfirst, -⟩ := htokens r.first (hr.subset List.mem_cons_self)
    have hmem := List.getLast_mem (List.cons_ne_nil r.first r.others)
    obtain ⟨-, hlast⟩ := htokens _ (hr.subset hmem)
    exact ⟨hfirst, hlast⟩

theorem lossless_ofTokens {s : Sentence reading} (hlexemes : ts.map Token.lexeme = s.lexemes)
    {last : Position} {gap : List Char}
    (hreads : Reads (reading == .program) .start ts source.toList last gap)
    (hgap : Trivia (reading == .program && ts.isEmpty) [] gap) :
    (ofTokens reading ts).Lossless s source ts := by
  have hcut := Sentence.cut hlexemes
  obtain ⟨hplaced, hordered⟩ := hreads.ordered
  have hproper : ∀ t ∈ ts, t.start < t.stop := fun t ht => (hplaced t ht).2
  have hrows : ∀ r ∈ (ofTokens reading ts).records, r.tokens <:+: ts :=
    fun r hr => hcut.isInfix_tokens hr
  refine ⟨⟨last, gap, hreads, hgap⟩, hlexemes, fun t ht => ?_, hproper, hordered, ?_, hcut.kept,
    hcut.spells, hrows, fun r _ => ?_, fun r hr t ht => ?_, hcut.pairwise_precedes hordered,
    fun root hroot => ?_, ?_⟩
  · obtain ⟨before, behind, hcovers⟩ := hreads.covers_token ht
    exact hcovers.slice
  · exact Sentence.filterMap_places s hcut.map_kind
  · exact ⟨r.first, _, rfl, List.getLast?_eq_some_getLast (List.cons_ne_nil r.first r.others), rfl⟩
  · have hrow : r.tokens.Sublist ts := (hrows r hr).sublist
    exact Token.within_row (fun u hu => hproper u (hrow.subset hu)) (hordered.sublist hrow) ht
  · obtain ⟨hbounds, htokens, hrecords⟩ := within_ofTokens hproper hordered hroot
    exact ⟨hbounds, htokens, fun r hr => hrecords r (hrows r hr)⟩
  · cases ts with
    | nil => simp [ofTokens]
    | cons t us => simp [span_ofTokens_cons]

/-- Where the tokens of a record stand, and the record as a whole, which begins with its first
token. -/
theorem covers_record (h : reading.parse source = .ok o) {r : Record} (hr : r ∈ o.records) :
    (∀ t ∈ r.tokens, t.lexeme.Spelled ∧
      ∃ before behind, t.span.Covers source.toList before t.text.toList behind) ∧
    ∃ before old behind,
    r.span.Covers source.toList before (r.first.text.toList ++ old) behind := by
  obtain ⟨s, ts, _, _, rfl, hlexemes, hreads, -⟩ := Reading.exists_reads_of_parse h
  have hrow := (Sentence.cut hlexemes).isInfix_tokens hr
  refine ⟨fun t ht => ?_, ?_⟩
  · have hmem := hrow.subset ht
    exact ⟨(hreads.placed t hmem).1, hreads.covers_token hmem⟩
  · obtain ⟨us, ws, rfl⟩ := hrow
    rw [List.append_assoc] at hreads
    exact hreads.covers_row

end Outline

namespace Reading

variable {r : Reading} {source : String} {o : Outline}

/-- No part of a text that is read is lost in its outline, whichever way it is read. -/
theorem parse_lossless (h : r.parse source = .ok o) :
    ∃ (s : Sentence o.reading) (ts : List Token), o.Lossless s source ts := by
  obtain ⟨s, ts, _, _, rfl, hlexemes, hreads, hgap⟩ := exists_reads_of_parse h
  exact ⟨s, ts, Outline.lossless_ofTokens hlexemes hreads hgap⟩

theorem parse_lossless_marksAsNames : ∃ o, Reading.program.parse marksAsNamesText = .ok o ∧
    ∃ (s : Sentence o.reading) (ts : List Token), o.Lossless s marksAsNamesText ts := by
  obtain ⟨o, ho, -⟩ := parse_of_laysOut laysOut_marksAsNames
  exact ⟨o, ho, parse_lossless ho⟩

end Reading

end TapeMachine
