import TapeMachine.Batch
import TapeMachine.Proofs.Json.Characters
import TapeMachine.Proofs.Libraries
import TapeMachine.Proofs.Margin

/-! The entries of programs, and what is left to run besides the names done. -/
namespace TapeMachine

open Json (Fields strings)
open Text (Letters)

/-- How a batch is asked to be run: in portions of how many programs, and within which bounds. -/
structure Call where
  size : Nat
  size_pos : 0 < size
  maxSteps : Nat
  limit : Int

variable {b : Batch} {c : Call} {files : Files} {name : String} {names handled : List String}
  {entry : Fields} {entries : List Fields}

theorem ofString_injective : Function.Injective Letters.ofString := by
  intro s t h
  have hchars := congrArg Letters.chars h
  rw [Text.chars_ofString, Text.chars_ofString] at hchars
  exact String.toList_injective hchars

/-- Every text has an outcome with a status, be it an error. -/
theorem exists_runSource (source : String) (maxSteps limit : Int) : ∃ fields,
    runSource source (.number maxSteps) (.number limit) = .ok fields ∧
      ∃ s : String, fields.get? "status" = some (.str s) := by
  cases hbuild : Program.build Catalog.all source with
  | error d =>
    refine ⟨_, by rw [runSource, hbuild], "error", ?_⟩
    rfl
  | ok p =>
    have hreadable :=
      Machine.readable_of_inside (Machine.roomy_of_made (Machine.made_of_build hbuild)).inside
    obtain ⟨r, -, hr, -⟩ :=
      (Machine.run_walks (some limit) maxSteps.toNat hreadable).thenAsk hreadable
      fun _ => Machine.reportAfter_of_readable limit
    have hreport : (p.machine.report maxSteps limit).1 = .ok r := hr
    refine ⟨r.fields, ?_, r.status.name, rfl⟩
    rw [runSource, hbuild]
    simp only [Machine.reportWithin, hreport]
    rfl

namespace Batch

def asked (b : Batch) (c : Call) : Batch :=
  { b with size := .number c.size, maxSteps := .number c.maxSteps, limit := .number c.limit }

/-- The entry of a program: its name, and the outcome of the text of its file. -/
def Enters (b : Batch) (c : Call) (files : Files) (name : String) (entry : Fields) : Prop :=
  ∃ text fields, files.load (b.home ++ [name]).text = .ok text ∧
    runSource (String.ofList (Text.unifyBreaks text.toList)) (.number c.maxSteps)
    (.number c.limit) =
      .ok fields ∧ entry = (Letters.ofString "program", .str name) :: fields

theorem entry_eq_ok_iff : (b.asked c).entry files name = .ok entry ↔
    b.Enters c files name entry := by
  have hhome : (b.asked c).home = b.home := rfl
  have hsteps : (b.asked c).maxSteps = .number c.maxSteps := rfl
  have hlimit : (b.asked c).limit = .number c.limit := rfl
  -- The equation of `entry` is slow to make, since it looks into the files.
  delta Batch.entry
  rw [hhome, hsteps, hlimit, Enters]
  cases files.load (b.home ++ [name]).text with
  | error e => simp
  | ok text =>
    dsimp only
    cases hrun : runSource (String.ofList (Text.unifyBreaks text.toList)) (.number c.maxSteps)
        (.number c.limit) with
    | error e => simp [hrun]
    | ok fields => simp [hrun, eq_comm]

theorem exists_enters {text : String} (h : files.load (b.home ++ [name]).text = .ok text) :
    ∃ entry, b.Enters c files name entry := by
  obtain ⟨fields, hfields, -⟩ :=
    exists_runSource (String.ofList (Text.unifyBreaks text.toList)) c.maxSteps
    c.limit
  exact ⟨_, text, fields, h, hfields, rfl⟩

theorem Enters.program (h : b.Enters c files name entry) :
    entry.get? "program" = some (.str name) := by
  obtain ⟨text, fields, -, -, rfl⟩ := h
  rfl

theorem Enters.status (h : b.Enters c files name entry) :
    ∃ s : String, entry.get? "status" = some (.str s) := by
  obtain ⟨text, fields, -, hrun, rfl⟩ := h
  obtain ⟨other, hother, s, hs⟩ := exists_runSource (String.ofList (Text.unifyBreaks text.toList))
    c.maxSteps c.limit
  obtain rfl := Except.ok.inj (hrun.symm.trans hother)
  exact ⟨s, hs⟩

theorem badStatus?_of_enters (h : names.Forall₂ (b.Enters c files) entries) :
    Journal.badStatus? entries = none := by
  induction h with
  | nil => rfl
  | cons hentry _ ih =>
    obtain ⟨s, hs⟩ := hentry.status
    rw [Journal.badStatus?, List.findSome?_cons, hs]
    exact ih

theorem isDone_strings (handled : List String) (name : String) :
    isDone (.arr (strings handled)) name = .ok (decide (name ∈ handled)) := by
  simp only [isDone, strings, List.any_map, Function.comp_def, Except.ok.injEq]
  rw [Bool.eq_iff_iff]
  simp [ofString_injective.eq_iff]

/-- Of some programs those are left that are not done. -/
theorem pending_strings (handled names : List String) :
    pending (.arr (strings handled)) names = .ok (names.filter (· ∉ handled)) := by
  induction names with
  | nil => rfl
  | cons name names ih =>
    rw [pending, isDone_strings, ih]
    by_cases hname : name ∈ handled
    · simp [hname, bind, Except.bind, pure, Except.pure]
    · simp [hname, bind, Except.bind, pure, Except.pure]

theorem portion_of_enters (h : names.Forall₂ (b.Enters c files) entries) (handled : List String) :
    (b.asked c).portion files (.arr (strings handled)) names =
      .ok (entries, strings (handled ++ names)) := by
  have hall : ∀ {names entries}, List.Forall₂ (b.Enters c files) names entries →
      names.mapM ((b.asked c).entry files) = .ok entries :=
    fun h => mapM_eq_ok.mpr (h.imp fun _ _ => entry_eq_ok_iff.mpr)
  have hfirst := hall (List.forall₂_take 1 h)
  have hothers := hall (List.forall₂_drop 1 h)
  have hextended : extended (.arr (strings handled)) names = .ok (strings (handled ++ names)) := by
    rw [extended, strings, strings, List.map_append]
  rw [portion, hfirst, hothers, hextended]
  simp only [bind, Except.bind, pure, Except.pure, List.take_append_drop]

end Batch

end TapeMachine
