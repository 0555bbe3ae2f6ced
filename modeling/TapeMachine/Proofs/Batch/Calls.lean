import TapeMachine.Proofs.Batch.Portions
import TapeMachine.Proofs.Files.Growth
import TapeMachine.Proofs.Source.Refusal

/-! What one call of a batch does, and what it would do once more. -/
namespace TapeMachine

open Json (Fields strings)
open Text (Letters)

variable {b : Batch} {c : Call} {day name : String} {p q : Path} {files start made done : Files}
  {names handled : List String} {returned : List Fields} {entry : Fields}

namespace Batch

/-- The folder of results is there once it is made, if it has to be. -/
structure Opens (b : Batch) (files made : Files) (q : Path) : Prop where
  making : files.makePath (b.results.length + 2) b.results = (made, .ok ())
  found : made.find b.results.text = .ok (.folder q)

theorem opens_of_found (h : files.find b.results.text = .ok (.folder q)) : b.Opens files files q :=
  ⟨Files.makePath_of_folder h _, h⟩

theorem Opens.unique {other : Files} {r : Path} (h : b.Opens files made q)
    (ho : b.Opens files other r) :
    made = other ∧ q = r := by
  have hmade : made = other := congrArg Prod.fst (h.making.symm.trans ho.making)
  subst hmade
  have hfound := h.found.symm.trans ho.found
  cases hfound
  exact ⟨rfl, rfl⟩

theorem Opens.grows (h : b.Opens files made q) : files.Grows made := by
  have hgrows := Files.makePath_grows files (b.results.length + 2) b.results
  rwa [h.making] at hgrows

/-- The programs of a batch can be read, and making the folder of results makes none. -/
structure Offers (b : Batch) (files : Files) (names : List String) : Prop where
  programs : b.programs files = .ok names
  readable : ∀ name ∈ names, ∃ text, files.load (b.home ++ [name]).text = .ok text
  apart : ∀ made q, b.Opens files made q → b.programs made = .ok names

theorem offers_of_opens (h : b.Opens files made q) (hfiles : b.programs files = .ok names)
    (hmade : b.programs made = .ok names)
    (hreadable : ∀ name ∈ names, ∃ text, files.load (b.home ++ [name]).text = .ok text) :
    b.Offers files names := by
  refine ⟨hfiles, hreadable, fun other r ho => ?_⟩
  obtain ⟨rfl, -⟩ := h.unique ho
  exact hmade

theorem programs_of_folder (h : files.find b.home.text = .ok (.folder p)) :
    b.programs files = .ok ((files.namesIn p).filter isProgramName) := by
  delta programs
  rw [h]
  rfl

theorem programs_of_tooLong {path : String} (h : files.find b.home.text = .error (.tooLong path)) :
    b.programs files = .error (.file (.tooLong path)) := by
  delta programs
  rw [h]

theorem programs_cases (b : Batch) (files : Files) :
    (∃ p, files.find b.home.text = .ok (.folder p)) ∨
    (∃ path, files.find b.home.text = .error (.tooLong path)) ∨ b.programs files = .ok [] := by
  delta programs
  split
  · next p hp => exact .inl ⟨p, hp⟩
  · next path hpath => exact .inr (.inl ⟨path, hpath⟩)
  · exact .inr (.inr rfl)

theorem asked_programs (b : Batch) (c : Call) (files : Files) :
    (b.asked c).programs files = b.programs files := by
  have hhome : (b.asked c).home = b.home := rfl
  delta programs
  rw [hhome]

theorem asked_completed (b : Batch) (c : Call) (files : Files) :
    (b.asked c).completed files = b.completed files := by
  have hcheckpoint : (b.asked c).checkpoint = b.checkpoint := rfl
  delta completed
  simp only [hcheckpoint]

/-- Programs are the names in a folder that end like those of programs, if there are any. -/
theorem filtered_of_programs (h : b.programs files = .ok names) : ∃ p,
    names = (files.namesIn p).filter isProgramName ∨ names = [] := by
  rcases programs_cases b files with ⟨p, hp⟩ | ⟨path, hpath⟩ | hnil
  · rw [programs_of_folder hp] at h
    exact ⟨p, .inl (Except.ok.inj h).symm⟩
  · rw [programs_of_tooLong hpath] at h
    cases h
  · rw [hnil] at h
    exact ⟨[], .inr (Except.ok.inj h).symm⟩

theorem pairwise_programs (h : b.programs files = .ok names) : names.Pairwise (· < ·) := by
  obtain ⟨p, rfl | rfl⟩ := filtered_of_programs h
  · exact (Names.pairwise_sorted _).filter _
  · exact .nil

theorem isProgramName_of_programs (h : b.programs files = .ok names) (hname : name ∈ names) :
    isProgramName name = true := by
  obtain ⟨p, rfl | rfl⟩ := filtered_of_programs h
  · exact (List.mem_filter.mp hname).2
  · cases hname

/-- There are no more programs after records are written. -/
theorem programs_of_writes (hw : Files.Writes q (b.recordNames day) files done)
    (ha : files.Accepts q (b.recordNames day)) (h : b.programs files = .ok names) :
    ∃ more, b.programs done = .ok more ∧ more ⊆ names := by
  rcases programs_cases b done with ⟨p, hp⟩ | ⟨path, hpath⟩ | hnil
  · rw [programs_of_folder ((hw.find_folder_iff ha).mp hp)] at h
    obtain rfl := Except.ok.inj h
    refine ⟨_, programs_of_folder hp, fun name hname => ?_⟩
    obtain ⟨hin, htm⟩ := List.mem_filter.mp hname
    refine List.mem_filter.mpr ⟨?_, htm⟩
    rcases hw.mem_namesIn ha hin with hin | hrecord | rfl | rfl
    · exact hin
    · exact (not_mem_recordNames htm hrecord).elim
    · cases htm
    · cases htm
  · have hbefore := Files.find_tooLong_mono hpath fun _ => (hw.spot_folder_iff ha).mp
    rw [programs_of_tooLong hbefore] at h
    cases h
  · exact ⟨[], hnil, List.nil_subset _⟩

/-- An entry does not depend on the folder of results being there. -/
theorem Enters.of_grows (h : b.Enters c files name entry) (hg : files.Grows made) :
    b.Enters c made name entry := by
  obtain ⟨text, fields, hload, hrun, rfl⟩ := h
  exact ⟨text, fields, hg.load hload, hrun, rfl⟩

theorem Offers.exists_entries (h : b.Offers files names) (c : Call) {some : List String}
    (hsome : some ⊆ names) : ∃ entries, some.Forall₂ (b.Enters c files) entries := by
  induction some with
  | nil => exact ⟨[], .nil⟩
  | cons name some ih =>
    obtain ⟨hname, hsome⟩ := List.cons_subset.mp hsome
    obtain ⟨text, hload⟩ := h.readable name hname
    obtain ⟨entry, hentry⟩ := exists_enters (c := c) hload
    obtain ⟨entries, hentries⟩ := ih hsome
    exact ⟨entry :: entries, .cons hentry hentries⟩

theorem plan_ok (hb : b.Proper day) (hs : b.Stands day q handled returned files) (c : Call)
    (h : b.programs files = .ok names) : (b.asked c).plan files =
      .ok (.arr (strings handled), portions c.size (names.filter (· ∉ handled))) := by
  have hsize_pos := c.size_pos
  have hpos : (c.size : Int) ≠ 0 := by omega
  have hnonneg : ¬ (c.size : Int) < 0 := by omega
  have hsize : (b.asked c).size = .number c.size := rfl
  delta Batch.plan
  simp only [asked_programs, h, asked_completed, hs.completed hb, pending_strings, hsize,
    if_neg hpos, if_neg hnonneg, Int.toNat_natCast, bind, Except.bind]
  rfl

/-- A call runs its portions on the files that have the folder of results. -/
theorem run_of_opens (h : b.Opens start made q) (hs : b.Stands day q handled returned made)
    (hb : b.Proper day)
    (c : Call) (hnames : b.programs made = .ok names) : (b.asked c).run day start =
      (b.asked c).runPortions (b.journal day) made (.arr (strings handled))
        (portions c.size (names.filter (· ∉ handled))) := by
  have hmaking :
      start.makePath ((b.asked c).results.length + 2) (b.asked c).results = (made, .ok ()) :=
    h.making
  have hstart : Journal.start made (b.asked c).results.text ((b.asked c).outputName ++ "_") day =
      (made, .ok (b.journal day)) := by
    have hfound : made.find (b.asked c).results.text = .ok (.folder q) := h.found
    rw [Journal.start, Files.makeFolders_of_folder hfound]
    rfl
  have hplan := plan_ok hb hs c hnames
  delta Batch.run
  simp only [hmaking, hstart, hplan]

/-- A call runs the programs that are not handled yet, portion by portion, and its records stand for
these as well. -/
theorem run_portions (hb : b.Proper day) (h : b.Opens start made q)
    (hs : b.Stands day q handled returned made) (hoffers : b.Offers start names) (c : Call) :
    ∃ done cut, (b.asked c).run day start = (done, .ok cut.flatten) ∧
      (names.filter (· ∉ handled)).Forall₂ (b.Enters c start) cut.flatten ∧
        b.Stands day q (handled ++ names.filter (· ∉ handled)) (returned ++ cut.flatten) done ∧
          b.Gains day q cut made done ∧ Files.Writes q (b.recordNames day) made done := by
  have hnames : b.programs made = .ok names := hoffers.apart made q h
  obtain ⟨entries, hentries⟩ := hoffers.exists_entries c
    (List.filter_sublist (p := fun name => decide (name ∉ handled))).subset
  have hmade := hentries.imp fun _ _ hentry => hentry.of_grows h.grows
  have hflat := flatten_portions c.size (names.filter (· ∉ handled))
  rw [← hflat] at hmade
  obtain ⟨done, cut, hrun, hdone, rfl, hgains, hwrites⟩ :=
    runPortions_ok hb hs (fun _ => ne_nil_of_mem_portions)
      (fun name hname => isProgramName_of_programs hnames (List.mem_of_mem_filter (hflat ▸ hname)))
      hmade
  rw [hflat] at hdone
  exact ⟨done, cut, (run_of_opens h hs hb c hnames).trans hrun, hentries, hdone, hgains, hwrites⟩

theorem run_ok (hb : b.Proper day) (h : b.Opens start made q)
    (hs : b.Stands day q handled returned made)
    (hoffers : b.Offers start names) (c : Call) : ∃ done entries,
      (b.asked c).run day start = (done, .ok entries) ∧
        (names.filter (· ∉ handled)).Forall₂ (b.Enters c start) entries ∧
          b.Stands day q (handled ++ names.filter (· ∉ handled)) (returned ++ entries) done ∧
            Files.Writes q (b.recordNames day) made done := by
  obtain ⟨done, cut, hrun, hentries, hdone, -, hwrites⟩ := run_portions hb h hs hoffers c
  exact ⟨done, cut.flatten, hrun, hentries, hdone, hwrites⟩

/-- Once all programs are handled and records are written, there is nothing to run. -/
theorem run_again (hb : b.Proper day) (hs : b.Stands day q handled returned done)
    (ha : files.Accepts q (b.recordNames day)) (hw : Files.Writes q (b.recordNames day) files done)
    (hnames : b.programs files = .ok names) (hall : names ⊆ handled) (c : Call) :
    (b.asked c).run day done = (done, .ok []) := by
  obtain ⟨more, hmore, hsubset⟩ := programs_of_writes hw ha hnames
  have hnone : more.filter (· ∉ handled) = [] :=
    List.filter_eq_nil_iff.mpr fun name hname => by simpa using hall (hsubset hname)
  rw [run_of_opens (opens_of_found hs.found) hs hb c hmore, hnone, portions,
    runPortions_nil]

end Batch

end TapeMachine
