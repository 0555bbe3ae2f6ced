import TapeMachine.Proofs.BuildOutcome
import TapeMachine.Proofs.Source.Spans

/-!
Where the errors of a build stand: the piece of the text that each of them is about, the line that
is shown of it, and the carets below that line.
-/
namespace TapeMachine

open Terminal Text

/-- A span shows a piece of a text: it covers the piece, which begins with no line feed, or it is
the place of one character at most. -/
inductive Span.Shows (s : Span) (cs before piece behind : List Char) : Prop
  | stretch : s.Covers cs before piece behind → ¬ EndsLine piece → Shows s cs before piece behind
  | place : cs = before ++ (piece ++ behind) → s = ⟨Position.start.after before, none⟩ →
      '\n' ∉ piece → piece.length ≤ 1 → Shows s cs before piece behind

/-- What a complaint is about: a piece of a text, which its span marks, between what stands before
it and what comes behind it. -/
inductive Complaint.Marks (source : String) :
    Complaint → Span → List Char → List Char → List Char → Prop
  /-- A word as a whole or a mark that may not come. -/
  | token {expected : List String} {span : Span} {before piece behind : List Char} :
      (IsName (String.ofList piece) ∧ ∀ c ∈ behind.head?, isNameChar c = false) ∨
        (∃ c, piece = [c] ∧ isMark c = true) →
      span.Covers source.toList before piece behind →
      Marks source (.unexpected expected (Text.quoted (String.ofList piece))) span before
        piece behind
  /-- A character of another kind. -/
  | character {expected : List String} {c : Char} {before behind : List Char} :
      isNameChar c = false → isMark c = false → source.toList = before ++ ([c] ++ behind) →
      Marks source (.unexpected expected (Text.quoted (String.ofList [c])))
        ⟨Position.start.after before, none⟩ before [c] behind
  /-- Nothing: the text ends too early, with only blanks and comments behind its last token. -/
  | endOfInput {expected : List String} {ts : List Token} {last : Position}
      {before behind : List Char} :
      source.toList = before ++ behind → Position.start.after before = last →
      Reads true .start ts source.toList last behind → Trivia ts.isEmpty [] behind →
      Marks source (.unexpected expected "end of input")
        ⟨(ts.getLast?.map Token.stop).getD .start, none⟩ before [] behind
  /-- The name of a library that is composed. -/
  | library {known : List String} {o : Outline} {r : Record} {t : Token}
    {before behind : List Char} :
      Reading.program.parse source = .ok o → r ∈ o.records → r.kind = .compose → t ∈ r.names →
      t.span.Covers source.toList before t.text.toList behind →
      Marks source (.unknownLibrary t.text known) t.span before t.text.toList behind
  /-- A record, from its first token to its last. -/
  | record {complaint : Complaint} {o : Outline} {r : Record} {before piece behind : List Char} :
      Reading.program.parse source = .ok o → r ∈ o.records →
      (complaint = .blankTape ∧ r.kind = .tape) ∨ complaint = .unhandled r.kind →
      r.span.Covers source.toList before piece behind →
      Marks source complaint r.span before piece behind

/-- The word that a text begins with is a name, which ends where no more characters of a name
come. -/
theorem takeWhile_name {c : Char} (hc : isNameChar c = true) (tail : List Char) :
    IsName (String.ofList ((c :: tail).takeWhile isNameChar)) ∧
      c :: tail = (c :: tail).takeWhile isNameChar ++ (c :: tail).dropWhile isNameChar ∧
        ∀ b ∈ ((c :: tail).dropWhile isNameChar).head?, isNameChar b = false := by
  refine ⟨⟨by simp [hc], fun b hb => ?_⟩, List.takeWhile_append_dropWhile.symm, fun b hb => ?_⟩
  · rw [String.toList_ofList] at hb
    exact List.mem_takeWhile_imp hb
  · have hnot := List.head?_dropWhile_not isNameChar (c :: tail)
    rw [hb] at hnot
    exact hnot

namespace Complaint

variable {source : String} {d : Diagnostic} {o : Outline} {before : List Char}

/-- What is found where a text is refused stands there. -/
theorem exists_marks_of_found {c : Char} {tail : List Char} (expected : List String)
    (hsource : source.toList = before ++ c :: tail) (hgap : isGap c = false) :
    ∃ cs span behind, foundAt (c :: tail) (Position.start.after before) = (.text cs, span) ∧
      (unexpected expected (Text.quoted (String.ofList cs))).Marks source span before cs behind ∧
      span.Shows source.toList before cs behind := by
  have hfeed : c ≠ '\n' := by
    rintro rfl
    cases hgap
  have hstart : ∀ cs : List Char, ¬ EndsLine (c :: cs) :=
    fun cs hends => hfeed (endsLine_cons.mp hends)
  by_cases hname : isNameChar c = true
  · -- the whole word is found
    obtain ⟨hword, hbehind, hends⟩ := takeWhile_name hname tail
    have hcovers := Span.covers_of_text (hbehind ▸ hsource)
    refine ⟨_, _, _, ?_, .token (.inl ⟨hword, hends⟩) hcovers, .stretch hcovers ?_⟩
    · simp [foundAt, hname]
    · rw [List.takeWhile_cons, if_pos hname]
      exact hstart _
  · have hone : source.toList = before ++ ([c] ++ tail) := hsource
    by_cases hmark : isMark c = true
    · have hcovers := Span.covers_of_text hone
      refine ⟨[c], _, tail, ?_, .token (.inr ⟨c, rfl, hmark⟩) hcovers, .stretch hcovers (hstart [])⟩
      simp [foundAt, hname, hmark]
    · refine ⟨[c], _, tail, ?_, .character (by simpa using hname) (by simpa using hmark) hone,
        .place hone rfl (by simpa using hfeed.symm) le_rfl⟩
      simp [foundAt, hname, hmark]

/-- Where a program is refused there is the piece of the text that the complaint is about. -/
theorem exists_marks_of_refused (h : Reading.program.parse source = .error d) :
    ∃ before piece behind, d.complaint.Marks source d.span before piece behind ∧
      d.span.Shows source.toList before piece behind := by
  obtain ⟨w, g, last, gap, rest, hto, -, -, rfl⟩ := Reading.parse_error_cases (by decide) h
  cases rest with
  | nil =>
    have hreads : Reads true .start w source.toList last ([] ++ (gap ++ [])) := hto.reads
    obtain ⟨before, hsource, hlast, -⟩ := hreads.relaid .nil
    have hlast : Position.start.after before = last := hlast.symm
    rw [List.append_nil] at hsource hreads
    have hmarks :
        (unexpected (Names.sorted (g.admitted.map Terminal.readable)) "end of input").Marks
        source ⟨(w.getLast?.map Token.stop).getD .start, none⟩ before [] gap :=
      .endOfInput hsource hlast hreads hto.gap_trivia
    rw [← hreads.position] at hmarks
    refine ⟨before, [], gap, hmarks, .place hsource ?_ List.not_mem_nil (Nat.zero_le 1)⟩
    rw [hlast]
    rfl
  | cons c tail =>
    obtain ⟨before, hsource, hplace, -⟩ := hto.reads.relaid hto.gap_trivia
    have hgap : isGap c = false := by
      by_contra hc
      have hmore := hto.no_trivia [c] tail rfl (.blank (by simpa using hc) .nil)
      cases hmore
    obtain ⟨cs, span, behind, hfound, hmarks, hshows⟩ :=
      exists_marks_of_found (Names.sorted (g.admitted.map Terminal.readable)) hsource hgap
    refine ⟨before, cs, behind, ?_⟩
    have hrefusal :
        refusalAt g last (last.after gap) (c :: tail) = ⟨g.admitted, .text cs, span⟩ := by
      rw [refusalAt, hplace]
      simp [hfound]
    rw [hrefusal]
    exact ⟨hmarks, hshows⟩

/-- A fault is about its record, or about one of the names in it. -/
theorem exists_marks_of_fault {handled : List RecordKind} {registry : Registry} {r : Record}
    {complaint : Complaint} {span : Span} (ho : Reading.program.parse source = .ok o)
    (hr : r ∈ o.records) (h : r.Fault handled registry complaint span) :
    ∃ before piece behind, complaint.Marks source span before piece behind ∧
      span.Shows source.toList before piece behind := by
  obtain ⟨htokens, before, old, behind, hcovers⟩ := Outline.covers_record ho hr
  have hspelled := (htokens r.first List.mem_cons_self).1
  have hshows : r.span.Shows source.toList before (r.first.text.toList ++ old) behind :=
    .stretch hcovers hspelled.not_endsLine
  cases h with
  | unhandled => exact ⟨_, _, _, .record ho hr (.inr rfl) hcovers, hshows⟩
  | blankTape _ hkind => exact ⟨_, _, _, .record ho hr (.inl ⟨rfl, hkind⟩) hcovers, hshows⟩
  | @unknownLibrary known more t _ hkind hnames =>
    have ht : t ∈ r.names := hnames ▸ List.mem_append_right known List.mem_cons_self
    obtain ⟨hname, before, behind, hcovers⟩ := htokens t (List.mem_of_mem_filter ht)
    have hstart : ¬ EndsLine (t.text.toList ++ []) := hname.not_endsLine
    rw [List.append_nil] at hstart
    exact ⟨_, _, _, .library ho hr hkind ht hcovers, .stretch hcovers hstart⟩

end Complaint

namespace Span.Shows

variable {s : Span} {cs before piece behind : List Char}

theorem text (h : s.Shows cs before piece behind) : cs = before ++ (piece ++ behind) := by
  cases h with
  | stretch hcovers _ => exact hcovers.text
  | place htext _ _ _ => exact htext

theorem start (h : s.Shows cs before piece behind) : s.start = Position.start.after before := by
  cases h with
  | stretch hcovers _ => exact hcovers.start
  | place _ hs _ _ => rw [hs]

/-- What is on the line of a piece is some of it. -/
theorem rowBehind_ne_nil (h : s.Shows cs before piece behind) (hpiece : piece ≠ []) :
    rowBehind piece ≠ [] := by
  cases h with
  | stretch _ hstart =>
    cases piece with
    | nil => exact (hpiece rfl).elim
    | cons c tail =>
      have hc : c ≠ '\n' := fun hfeed => hstart (endsLine_cons.mpr hfeed)
      simp [rowBehind, hc]
  | place _ _ hline _ =>
    rw [rowBehind_of_line hline]
    exact hpiece

end Span.Shows

namespace Diagnostic

variable {d : Diagnostic} {cs before piece behind : List Char}

/-- The carets go as far as the piece goes on the line that is shown. -/
theorem width_of_shows (h : d.span.Shows cs before piece behind)
    (hcode : d.code.toList = rowBefore before ++ rowBehind (piece ++ behind)) :
    d.width = max 1 (rowBehind piece).length := by
  have hcolumn : d.span.start.column = (rowBefore before).length + 1 := by
    rw [h.start, Position.column_after]
  cases h with
  | place _ hs hline hlength =>
    have hpiece : (rowBehind piece).length ≤ piece.length := (List.takeWhile_sublist _).length_le
    rw [width, hs]
    exact (max_eq_left (hpiece.trans hlength)).symm
  | stretch hcovers hstart =>
    have hstop : (Position.start.after (before ++ piece)).line =
        (Position.start.after before).line + piece.count '\n' := by
      rw [Position.after_append, Position.line_after]
    rw [rowBehind_append] at hcode
    rw [width, hcovers.stop]
    dsimp only
    rw [hcovers.start, hstop]
    by_cases hfeed : '\n' ∈ piece
    · -- the span ends on a later line, so the carets go to the end of this one
      have hcount := List.count_pos_iff.mpr hfeed
      rw [if_pos hfeed] at hcode
      have hlength : d.code.length = (rowBefore before).length + (rowBehind piece).length := by
        rw [← String.length_toList, hcode, List.length_append]
      rw [if_neg (by omega), ← hcovers.start, hcolumn, hlength]
      congr 1
      omega
    · have hcount := List.count_eq_zero.mpr hfeed
      rw [if_pos (by omega), Position.after_append, Position.after_of_line hfeed,
        rowBehind_of_line hfeed]
      congr 1
      dsimp only
      omega

/-- The line that is shown is the row of a piece; below it there are spaces up to the piece, and
carets as far as the piece is on the line. They go past the end of the line only by one caret, which
stands for a piece that is no character. -/
structure Underlines (d : Diagnostic) (before piece behind : List Char) : Prop where
  code : d.code.toList = rowBefore before ++ rowBehind (piece ++ behind)
  column : d.span.start.column = (rowBefore before).length + 1
  underline : d.underline.toList = List.replicate (rowBefore before).length ' ' ++
    List.replicate (max 1 (rowBehind piece).length) '^'
  below : rowBefore before ++ rowBehind piece <+: d.code.toList
  some_below : piece ≠ [] → rowBehind piece ≠ []
  ends : d.underline.length ≤ d.code.length + if piece = [] then 1 else 0

theorem Underlines.of_shows (h : d.span.Shows cs before piece behind)
    (hcode : d.code.toList = rowBefore before ++ rowBehind (piece ++ behind)) :
    d.Underlines before piece behind := by
  have hcolumn : d.span.start.column = (rowBefore before).length + 1 := by
    rw [h.start, Position.column_after]
  have hspaces : (d.span.start.column - 1).toNat = (rowBefore before).length := by omega
  have hunderline : d.underline.toList = List.replicate (rowBefore before).length ' ' ++
      List.replicate (max 1 (rowBehind piece).length) '^' := by
    rw [Diagnostic.underline, String.toList_ofList, hspaces, width_of_shows h hcode]
  have hbelow : rowBefore before ++ rowBehind piece <+: d.code.toList := by
    rw [hcode, List.prefix_append_right_inj, rowBehind_append]
    split
    · exact List.prefix_rfl
    · next hline =>
      rw [rowBehind_of_line hline]
      exact List.prefix_append piece _
  refine ⟨hcode, hcolumn, hunderline, hbelow, h.rowBehind_ne_nil, ?_⟩
  have hlength := hbelow.length_le
  rw [← String.length_toList, ← String.length_toList, hunderline]
  simp only [List.length_append, List.length_replicate] at hlength ⊢
  split
  · next hnil =>
    rw [hnil] at hlength ⊢
    simp only [rowBehind, List.takeWhile_nil, List.length_nil] at hlength ⊢
    omega
  · next hpiece =>
    have hsome := List.length_pos_iff.mpr (h.rowBehind_ne_nil hpiece)
    omega

end Diagnostic

namespace Program

variable {handled : List RecordKind} {registry : Registry} {source : String} {d : Diagnostic}

/-- Every error of a build is about a piece of the text, and comes with the line where that
begins. -/
theorem exists_marks (h : (buildWith handled registry source).2 = .error d) :
    ∃ before piece behind, d.complaint.Marks source d.span before piece behind ∧
      d.span.Shows source.toList before piece behind ∧
      d.code = Text.line source d.span.start.line.toNat := by
  cases hparse : Reading.program.parse source with
  | error e =>
    obtain rfl : e = d := by
      rw [buildWith_of_refused hparse] at h
      exact Except.error.inj h
    obtain ⟨before, piece, behind, hmarks, hshows⟩ := Complaint.exists_marks_of_refused hparse
    refine ⟨before, piece, behind, hmarks, hshows, ?_⟩
    obtain ⟨_, _, _, _, _, -, -, -, rfl⟩ := Reading.parse_error_cases (by decide) hparse
    rfl
  | ok o =>
    obtain ⟨s, -, hs, -⟩ := Reading.parse_cases hparse
    obtain ⟨o', ho', -, ⟨complaint, span, code, hfault, hline, herror⟩ | ⟨-, p, hp, -⟩⟩ :=
      buildWith_of_laysOut handled registry hs
    · obtain rfl : o = o' := Except.ok.inj (hparse.symm.trans ho')
      obtain rfl : d = ⟨complaint, span, code⟩ := Except.error.inj (h.symm.trans herror)
      obtain ⟨above, r, below, hrecords, -, hr⟩ := hfault
      have hmem : r ∈ o.records := hrecords ▸ List.mem_append_right above List.mem_cons_self
      obtain ⟨before, piece, behind, hmarks, hshows⟩ :=
        Complaint.exists_marks_of_fault hparse hmem hr
      exact ⟨before, piece, behind, hmarks, hshows, eq_line_of_isLine hline⟩
    · rw [h] at hp
      cases hp

/-- The line that comes with an error is the row of the text where its span starts, without a
carriage return at its end, as long as nothing else but line feeds breaks a line up to there. -/
theorem code_eq_row (h : (buildWith handled registry source).2 = .error d)
    (hrows : ∀ row ∈ (rows source.toList).take d.span.start.line.toNat,
      BreakFree (withoutReturn row)) :
    0 < d.span.start.line ∧ ∃ row, (rows source.toList)[d.span.start.line.toNat - 1]? = some row ∧
      d.code = String.ofList (withoutReturn row) := by
  obtain ⟨before, piece, behind, -, hshows, hcode⟩ := exists_marks h
  have hline : d.span.start.line = 1 + before.count '\n' := by
    rw [hshows.start, Position.line_after]
    rfl
  have hnumber : d.span.start.line.toNat - 1 = before.count '\n' := by omega
  refine ⟨by omega, rowBefore before ++ rowBehind (piece ++ behind), ?_, ?_⟩
  · rw [hnumber, hshows.text]
    exact getElem?_rows before (piece ++ behind)
  · rw [hshows.start] at hrows hcode
    rw [hcode]
    exact line_of_place hshows.text hrows

/-- A form feed in a comment ends a line but no row. -/
def pageBreak : String := "\x7b1\x7d;\n// page\x0cbreak\nI = \x7bq;\n"

/-- The third row lacks a brace, but the third line is shown, which is a part of the second row. -/
theorem code_ne_row_pageBreak : ∃ d row, build Catalog.all pageBreak = .error d ∧
    (rows pageBreak.toList)[d.span.start.line.toNat - 1]? = some row ∧
      d.code ≠ String.ofList (withoutReturn row) := by
  have h : build Catalog.all pageBreak =
      .error ⟨.unexpected ["'\x7d'"] "';'", ⟨⟨3, 7⟩, some ⟨3, 8⟩⟩, "break"⟩ := by decide +kernel
  have hrow : (rows pageBreak.toList)[2]? = some "I = \x7bq;".toList := by decide
  exact ⟨_, _, h, hrow, by decide⟩

/-- The same text with a blank for the form feed, and a carriage return at the end of each row. -/
def noPageBreak : String := "\x7b1\x7d;\r\n// page break\r\nI = \x7bq;\r\n"

theorem code_eq_row_noPageBreak : ∃ d, build Catalog.all noPageBreak = .error d ∧
    (∀ row ∈ (rows noPageBreak.toList).take d.span.start.line.toNat,
      BreakFree (withoutReturn row)) ∧
      ∃ row, (rows noPageBreak.toList)[d.span.start.line.toNat - 1]? = some row ∧
        d.code = String.ofList (withoutReturn row) := by
  have h : build Catalog.all noPageBreak =
      .error ⟨.unexpected ["'\x7d'"] "';'", ⟨⟨3, 7⟩, some ⟨3, 8⟩⟩, "I = \x7bq;"⟩ := by
    decide +kernel
  have hrows : ∀ row ∈ (rows noPageBreak.toList).take 3, BreakFree (withoutReturn row) := by decide
  exact ⟨_, h, hrows, (code_eq_row h hrows).2⟩

/-- Under the line that comes with an error there are spaces up to the piece of the text that the
error is about, and carets below all of it that is on the line; where it is no character there is
one caret at its place. -/
theorem underline_marks (hfeeds : BrokenByFeeds source.toList)
    (h : (buildWith handled registry source).2 = .error d) :
    ∃ before piece behind, d.complaint.Marks source d.span before piece behind ∧
      d.Underlines before piece behind := by
  obtain ⟨before, piece, behind, hmarks, hshows, hcode⟩ := exists_marks h
  refine ⟨before, piece, behind, hmarks, .of_shows hshows ?_⟩
  have hfree : ∀ row ∈ rows source.toList, BreakFree row := fun row => breakFree_of_feeds hfeeds
  have hplain : ∀ row ∈ rows source.toList, withoutReturn row = row :=
    fun row hrow => withoutReturn_of_breakFree (hfree row hrow)
  have hrow : rowBefore before ++ rowBehind (piece ++ behind) ∈ rows source.toList := by
    rw [hshows.text]
    exact List.mem_of_getElem? (getElem?_rows before (piece ++ behind))
  rw [hcode, hshows.start, line_of_place hshows.text, hplain _ hrow, String.toList_ofList]
  intro row hmem
  have hmem := List.mem_of_mem_take hmem
  rw [hplain row hmem]
  exact hfree row hmem

/-- A tape without a one that goes on over a second line. -/
def blankTapeOnTwoLines : String := "\x7b0 // none\n 0\x7d;\nI = \x7bq\x7d; F = \x7bq\x7d;"

theorem underline_marks_blankTapeOnTwoLines : BrokenByFeeds blankTapeOnTwoLines.toList ∧
    ∃ d, build Catalog.all blankTapeOnTwoLines = .error d ∧ d.underline = "^^^^^^^^^^" ∧
      ∃ before piece behind, d.complaint.Marks blankTapeOnTwoLines d.span before piece behind ∧
        d.Underlines before piece behind := by
  have hfeeds : BrokenByFeeds blankTapeOnTwoLines.toList := by decide
  have h : build Catalog.all blankTapeOnTwoLines =
      .error ⟨.blankTape, ⟨⟨1, 1⟩, some ⟨2, 5⟩⟩, "\x7b0 // none"⟩ := by decide +kernel
  exact ⟨hfeeds, _, h, by decide, underline_marks hfeeds h⟩

end Program

end TapeMachine
