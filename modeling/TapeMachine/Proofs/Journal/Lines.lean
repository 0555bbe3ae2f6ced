import TapeMachine.Proofs.Journal
import TapeMachine.Proofs.Json.Characters
import TapeMachine.Proofs.Text.Rows

/-! The main file of a journal: a line for each entry, from which the entry can be read again. -/
namespace TapeMachine

open Json (Fields Legible)
open Text (Letters)

namespace Text

/-- After a line feed a new line begins, whatever is before. -/
theorem linesFrom_feed (line cs rest : List Char) :
    linesFrom line (cs ++ '\n' :: rest) = linesFrom line (cs ++ ['\n']) ++ linesFrom [] rest := by
  have hpair : ∀ line,
      linesFrom line ('\r' :: '\n' :: rest) = linesFrom line ['\r', '\n'] ++ linesFrom [] rest := by
    intro line
    rw [linesFrom, linesFrom]
    rfl
  -- A carriage return before the line feed would be read together with it.
  have hnext : ∀ {c : Char} {cs : List Char}, (∀ more, c = '\r' → cs = '\n' :: more → False) →
      ¬ (c = '\r' ∧ cs = []) → ∀ tail more, c = '\r' →
      cs ++ '\n' :: tail = '\n' :: more → False := by
    intro c cs hnot hlast tail more hc heq
    cases cs with
    | nil => exact hlast ⟨hc, rfl⟩
    | cons d cs => exact hnot cs hc (by rw [(List.cons.inj heq).1])
  fun_induction linesFrom line cs with
  | case1 line | case2 line =>
    rw [List.nil_append, List.nil_append, linesFrom_cons (by decide), linesFrom_cons (by decide)]
    rfl
  | case3 line cs ih =>
    rw [List.cons_append, List.cons_append, List.cons_append, List.cons_append, linesFrom,
      linesFrom, ih, List.cons_append]
  | case4 line c cs hnot hc ih =>
    by_cases hlast : c = '\r' ∧ cs = []
    · rw [hlast.1, hlast.2]
      exact hpair line
    · rw [List.cons_append, List.cons_append, linesFrom, if_pos hc, linesFrom, if_pos hc, ih,
        List.cons_append]
      · exact hnext hnot hlast []
      · exact hnext hnot hlast rest
  | case5 line c cs hnot hc ih =>
    by_cases hlast : c = '\r' ∧ cs = []
    · rw [hlast.1, hlast.2]
      exact hpair line
    · rw [List.cons_append, List.cons_append, linesFrom, if_neg hc, linesFrom, if_neg hc, ih]
      · exact hnext hnot hlast []
      · exact hnext hnot hlast rest

/-- Whether what is put behind a text begins on a line of its own. -/
def LineEnded (s : String) : Prop := s = "" ∨ ∃ before, s = before ++ "\n"

theorem lines_append {s : String} (h : LineEnded s) (more : String) :
    lines (s ++ more) = lines s ++ lines more := by
  rcases h with rfl | ⟨before, rfl⟩
  · rw [String.empty_append]
    rfl
  · have hfeed : "\n".toList = ['\n'] := rfl
    have htext : (before ++ "\n" ++ more).toList = before.toList ++ '\n' :: more.toList := by
      rw [String.toList_append, String.toList_append, hfeed, List.append_assoc,
        List.singleton_append]
    rw [lines, htext, linesFrom_feed, List.map_append, lines, String.toList_append, hfeed, lines]

end Text

namespace Json

theorem isLineBreak_of_inPrint {c : Char} (h : InPrint c) : Text.isLineBreak c = false := by
  obtain ⟨hlow, hhigh⟩ := h
  simp only [Text.isLineBreak, Bool.or_eq_false_iff, Bool.and_eq_false_iff, decide_eq_false_iff_not,
    beq_eq_false_iff_ne]
  omega

/-- Nothing in a value that is written on one line breaks it. -/
theorem Legible.breakFree_compact {v : Json} (h : Legible v) : Text.BreakFree v.compact.toList := by
  refine List.any_eq_false.mpr fun c hc => Bool.eq_false_iff.mp ?_
  rw [compact, String.toList_ofList] at hc
  rcases h.written 0 c hc with hprint | ⟨hlines, -⟩
  · exact isLineBreak_of_inPrint hprint
  · exact (hlines rfl).elim

end Json

namespace Journal

variable {j : Journal} {files : Files} {place : Path} {entries : List Fields}
  {calls : List (List Fields)}

theorem linesOf_cons (e : Fields) (entries : List Fields) :
    linesOf (e :: entries) = (Json.obj e).compact ++ "\n" ++ linesOf entries := by
  rw [linesOf, List.map_cons, String.join_cons, linesOf]

/-- There is one line for each entry. -/
theorem lines_linesOf (h : ∀ e ∈ entries, Legible (.obj e)) :
    Text.lines (linesOf entries) = entries.map fun e => (Json.obj e).compact := by
  induction entries with
  | nil => rfl
  | cons e entries ih =>
    obtain ⟨he, hentries⟩ := List.forall_mem_cons.mp h
    have hrow : Text.withoutReturn (Json.obj e).compact.toList = (Json.obj e).compact.toList :=
      Text.withoutReturn_of_breakFree he.breakFree_compact
    have hline : Text.lines ((Json.obj e).compact ++ "\n") = [(Json.obj e).compact] := by
      have hfree : Text.BreakFree (Text.withoutReturn (Json.obj e).compact.toList) :=
        hrow.symm ▸ he.breakFree_compact
      have hfeed : "\n".toList = ['\n'] := rfl
      rw [Text.lines, String.toList_append, hfeed, (Text.linesFrom_row hfree []).1, hrow]
      simp [Text.linesFrom]
    rw [linesOf_cons, Text.lines_append (.inr ⟨_, rfl⟩), hline, ih hentries]
    rfl

/-- What one call adds to the main file, many calls add in their order. -/
theorem logged (htarget : files.target (j.path .main) = .ok place) : ∃ done,
    calls.foldlM (fun files entries => j.add files .main entries) files = .ok done ∧
      done.read? place = extended (files.read? place) calls ∧
      ∀ path ≠ place, done.read? path = files.read? path := by
  induction calls generalizing files with
  | nil => exact ⟨files, rfl, rfl, fun _ _ => rfl⟩
  | cons entries calls ih =>
    let first := files.append place (linesOf entries)
    have hfirst : first.read? place = some ((files.read? place).getD "" ++ linesOf entries) := by
      rw [Files.read?_append, if_pos rfl]
    obtain ⟨done, hdone, hplace, hother⟩ :=
      ih (Files.target_append htarget (linesOf entries) htarget)
    refine ⟨done, ?_, ?_, fun path hpath => ?_⟩
    · rw [List.foldlM_cons, add_of_target htarget]
      exact hdone
    · rw [hplace, hfirst, extended_cons]
    · rw [hother path hpath, Files.read?_append, if_neg (Ne.symm hpath)]

/-- The main file gains a line for each entry, in the order in which entries are logged, one by one
or several at a time; and each line is read as its entry, with its fields in their order, within any
bounds that fit the entry. -/
theorem lines_read_back (htarget : files.target (j.path .main) = .ok place)
    (hlegible : ∀ entries ∈ calls, ∀ e ∈ entries, Legible (.obj e)) :
    ∃ done gained, calls.foldlM (fun files entries => j.add files .main entries) files = .ok done ∧
      (calls ≠ [] → done.read? place = some ((files.read? place).getD "" ++ gained)) ∧
      (∀ path ≠ place, done.read? path = files.read? path) ∧
      gained = String.join ((Text.lines gained).map (· ++ "\n")) ∧
      (∀ before, Text.LineEnded before →
        Text.lines (before ++ gained) = Text.lines before ++ Text.lines gained) ∧
      (Text.lines gained).Forall₂ (fun line e => ∀ most nested, (Json.obj e).longest ≤ most →
        (Json.obj e).depth ≤ nested → Json.parseWithin most nested line = .ok (.obj e))
          calls.flatten := by
  obtain ⟨done, hdone, hplace, hother⟩ : ∃ done,
      calls.foldlM (fun files entries => j.add files .main entries) files = .ok done ∧ _ ∧ _ :=
  logged htarget
  have hentries : ∀ e ∈ calls.flatten, Legible (.obj e) := by
    intro e he
    obtain ⟨entries, hmem, he⟩ := List.mem_flatten.mp he
    exact hlegible entries hmem e he
  have hlines := lines_linesOf hentries
  refine ⟨done, linesOf calls.flatten, hdone, fun hne => ?_, hother, ?_, fun before h =>
    Text.lines_append h _, ?_⟩
  · rw [hplace, extended, if_neg hne]
  · rw [hlines, List.map_map, linesOf]
    rfl
  · rw [hlines, List.forall₂_map_left_iff, List.forall₂_same]
    exact fun e he most nested hlongest hdepth =>
      Json.parseWithin_write (hentries e he) hdepth hlongest none

def mixedEntry : Fields :=
  [("text", .str "a\nb\u2028\"é\" 😀"),
    ("nested", .arr [.int (-7), .obj [("one", .real (.finite false (2 ^ 52) (-52)))]])]

def emptyEntry : Fields := [("none", .null), ("all", .arr [])]

/-- One entry is logged alone, then two at once. -/
theorem lines_read_back_mixed : ∃ done gained,
    [[mixedEntry], [emptyEntry, mixedEntry]].foldlM
        (fun files entries => Journal.add ⟨"logs", "run_", "2024-01-01"⟩ files .main entries)
        ⟨[(["logs", "run_2024-01-01.jsonl"], "{}\n")], [["logs"]]⟩ = Except.ok done ∧
      done.read? ["logs", "run_2024-01-01.jsonl"] = some ("{}\n" ++ gained) ∧
      Text.lines ("{}\n" ++ gained) = "{}" :: Text.lines gained ∧
      (Text.lines gained).Forall₂ (fun line e => Json.parse line = .ok (.obj e))
        [mixedEntry, emptyEntry, mixedEntry] := by
  have hmixed : Legible (.obj mixedEntry) := by
    have hone : Binary64.Canonical (2 ^ 52) (-52) := ⟨by decide, by decide, by decide, .inl le_rfl⟩
    refine .obj (by decide) ?_ ?_
    · simp [mixedEntry, Json.unpaired_ofString]
    · have hinner : Legible (.obj [("one", .real (.finite false (2 ^ 52) (-52)))]) :=
        .obj (by decide) (by simp [Json.unpaired_ofString]) (by simpa using .finite false hone)
      have hlist :
          Legible (.arr [.int (-7), .obj [("one", .real (.finite false (2 ^ 52) (-52)))]]) :=
        .arr (by simpa using ⟨.int (-7), hinner⟩)
      simpa [mixedEntry] using ⟨.str (Json.unpaired_ofString _), hlist⟩
  have hempty : Legible (.obj emptyEntry) := by
    have hlist : Legible (.arr []) := .arr (by simp)
    refine .obj (by decide) ?_ ?_
    · simp [emptyEntry, Json.unpaired_ofString]
    · simpa [emptyEntry] using ⟨.null, hlist⟩
  let files : Files := ⟨[(["logs", "run_2024-01-01.jsonl"], "{}\n")], [["logs"]]⟩
  let j : Journal := ⟨"logs", "run_", "2024-01-01"⟩
  have htarget :
      files.target (j.path .main) = .ok ["logs", "run_2024-01-01.jsonl"] := by decide +kernel
  have hlegible : ∀ entries ∈ [[mixedEntry], [emptyEntry, mixedEntry]], ∀ e ∈ entries,
      Legible (.obj e) := by
    simp [hmixed, hempty]
  obtain ⟨done, gained, hdone, hgained, -, -, hbehind, hlines⟩ := lines_read_back htarget hlegible
  refine ⟨done, gained, hdone, hgained (List.cons_ne_nil _ _),
    hbehind "{}\n" (.inr ⟨"{}", rfl⟩), ?_⟩
  have hbounds : ∀ e ∈ [mixedEntry, emptyEntry, mixedEntry],
      (Json.obj e).longest ≤ Json.mostDigits ∧ (Json.obj e).depth ≤ Json.mostNested := by
    decide +kernel
  obtain ⟨hlength, hread⟩ := List.forall₂_iff_zip.mp hlines
  refine List.forall₂_iff_zip.mpr ⟨hlength, fun {line e} hmem => ?_⟩
  obtain ⟨hlongest, hdepth⟩ := hbounds e (List.of_mem_zip hmem).2
  exact hread hmem _ _ hlongest hdepth

end Journal

end TapeMachine
