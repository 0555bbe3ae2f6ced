import TapeMachine.Proofs.Batch.Restarts

/-! Portions of different sizes: what is returned and recorded does not depend on where work is
cut. -/
namespace TapeMachine

open Json (Fields strings)
open Text (Letters)

variable {b other : Batch} {c : Call} {day name : String} {q : Path}
  {files start made done done' : Files}
  {path : Path} {names : List String} {entry entry' : Fields} {entries entries' : List Fields}
  {cut cut' : List (List Fields)} {size size' : Int}

/-- A negative budget is as good as none. -/
theorem runSource_toNat (source : String) (maxSteps limit : Int) :
    runSource source (.number maxSteps) (.number limit) =
      runSource source (.number (maxSteps.toNat : Int)) (.number limit) := by
  unfold runSource
  cases Program.build Catalog.all source with
  | error d => rfl
  | ok p =>
    have hreport :
        p.machine.report maxSteps limit = p.machine.report (maxSteps.toNat : Int) limit := by
      rw [Machine.report, Machine.report, Int.toNat_natCast]
    simp only [Machine.reportWithin, hreport]

namespace Batch

/-- A batch that is to be run with numbers for its bounds. -/
def within (b : Batch) (size maxSteps limit : Int) : Batch :=
  { b with size := .number size, maxSteps := .number maxSteps, limit := .number limit }

theorem entry_toNat (b : Batch) (size maxSteps limit : Int) :
    (b.within size maxSteps limit).entry = (b.within size maxSteps.toNat limit).entry := by
  funext files name
  delta Batch.entry
  simp only [within, home, runSource_toNat _ maxSteps limit]

theorem runPortions_congr (hentry : b.entry = other.entry)
    (hcheckpoint : b.checkpoint = other.checkpoint)
    (j : Journal) (files : Files) (done : Json) (work : List (List String)) :
    b.runPortions j files done work = other.runPortions j files done work := by
  induction work generalizing files done with
  | nil => rw [runPortions_nil, runPortions_nil]
  | cons names work ih =>
    have hportion : b.portion files done names = other.portion files done names := by
      delta Batch.portion
      rw [hentry]
    simp only [runPortions_cons, hportion, hcheckpoint, ih]

/-- Numbers for the bounds make a call, unless the size is not positive. -/
theorem run_within (hsize : 1 ≤ size) (maxSteps limit : Int) :
    (b.within size maxSteps limit).run day files =
    (b.asked ⟨size.toNat, by omega, maxSteps.toNat, limit⟩).run day files := by
  have hcall : b.asked ⟨size.toNat, by omega, maxSteps.toNat, limit⟩ =
      b.within size maxSteps.toNat limit := by
    simp only [asked, within, Int.toNat_of_nonneg (show 0 ≤ size by omega)]
  have hportions := runPortions_congr (b.entry_toNat size maxSteps limit) rfl
  have hplan : (b.within size maxSteps limit).plan = (b.within size maxSteps.toNat limit).plan := by
    delta plan programs completed
    simp only [within, home, checkpoint, results]
  have hresults :
      (b.within size maxSteps limit).results = (b.within size maxSteps.toNat limit).results := rfl
  have houtput : (b.within size maxSteps limit).outputName =
      (b.within size maxSteps.toNat limit).outputName := rfl
  rw [hcall]
  delta Batch.run
  simp only [hportions, hplan, hresults, houtput]

theorem Enters.unique (h : b.Enters c files name entry) (h' : b.Enters c files name entry') :
    entry = entry' := by
  rw [← entry_eq_ok_iff] at h h'
  exact Except.ok.inj (h.symm.trans h')

theorem eq_of_enters (h : names.Forall₂ (b.Enters c files) entries)
    (h' : names.Forall₂ (b.Enters c files) entries') : entries = entries' := by
  induction h generalizing entries' with
  | nil =>
    cases h'
    rfl
  | cons hentry _ ih =>
    cases h' with
    | cons hentry' h' => rw [hentry.unique hentry', ih h']

/-- The same entries in other portions leave the same in all files but that of the runs that did not
halt. -/
theorem read?_eq_of_flatten (hsame : cut.flatten = cut'.flatten)
    (ha : made.Accepts q (b.recordNames day))
    (hs : b.Stands day q names cut.flatten done) (hs' : b.Stands day q names cut'.flatten done')
    (hgains : b.Gains day q cut made done) (hgains' : b.Gains day q cut' made done')
    (hwrites : Files.Writes q (b.recordNames day) made done)
    (hwrites' : Files.Writes q (b.recordNames day) made done')
    (hpath : path ≠ q ++ [b.volumeName day .nonHalting]) : done.read? path = done'.read? path := by
  by_cases hrecord : ∃ name ∈ b.recordNames day, path = q ++ [name]
  · obtain ⟨name, hname, rfl⟩ := hrecord
    rcases List.mem_cons.mp hname with rfl | hvolume
    · rw [hs.checkpoint, hs'.checkpoint]
    · obtain ⟨v, -, rfl⟩ := List.mem_map.mp hvolume
      by_cases hmain : v = .main
      · rw [hmain, hs.main, hs'.main, hsame]
      · have hhalted : v ≠ .nonHalting := by
          rintro rfl
          exact hpath rfl
        rw [hgains v hmain, hgains' v hmain, Journal.flatMap_share hhalted,
          Journal.flatMap_share hhalted, hsame]
  · have hother : ∀ name ∈ b.recordNames day, path ≠ q ++ [name] :=
      fun name hname hsame => hrecord ⟨name, hname, hsame⟩
    rw [Files.read?_eq_of_spot (hwrites.spot ha hother),
      Files.read?_eq_of_spot (hwrites'.spot ha hother)]

/-- A batch that starts without records returns the same for portions of any two sizes, and leaves
the same files but for the order in which the runs that did not halt are listed. -/
theorem size_only_groups (hb : b.Proper day) (hfresh : b.Fresh day files)
    (hoffers : b.Offers files names)
    (hsize : 1 ≤ size) (hsize' : 1 ≤ size') (maxSteps limit : Int) :
    ∃ done done' returned q listed listed',
      (b.within size maxSteps limit).run day files = (done, .ok returned) ∧
      (b.within size' maxSteps limit).run day files = (done', .ok returned) ∧
      returned.map (fun entry => entry.get? "program") = names.map (fun name => some (.str name)) ∧
      done.find b.results.text = .ok (.folder q) ∧ done'.find b.results.text = .ok (.folder q) ∧
      (∀ path, path ≠ q ++ [b.volumeName day .nonHalting] → done.read? path = done'.read? path) ∧
      done.read? (q ++ [b.volumeName day .nonHalting]) = Journal.grown none listed ∧
      done'.read? (q ++ [b.volumeName day .nonHalting]) = Journal.grown none listed' ∧
      listed.Perm listed' := by
  obtain ⟨made, q, hopens, hfree⟩ := hfresh
  have hs := stands_of_fresh hopens hfree
  have hnone : made.read? (q ++ [b.volumeName day .nonHalting]) = none := by
    obtain ⟨path, hspot⟩ := hfree _ (b.volumeName_mem day .nonHalting)
    exact (Files.free_of_spot hspot).2
  obtain ⟨done, cut, hrun, hentries, hdone, hgains, hwrites⟩ :=
    run_portions hb hopens hs hoffers ⟨size.toNat, by omega, maxSteps.toNat, limit⟩
  obtain ⟨done', cut', hrun', hentries', hdone', hgains', hwrites'⟩ :=
    run_portions hb hopens hs hoffers ⟨size'.toNat, by omega, maxSteps.toNat, limit⟩
  rw [← run_within hsize] at hrun
  rw [← run_within hsize'] at hrun'
  have hsame : cut.flatten = cut'.flatten := eq_of_enters hentries hentries'
  have hall : names.filter (· ∉ ([] : List String)) = names := by simp
  rw [hall] at hentries
  rw [← hsame] at hrun'
  refine ⟨done, done', cut.flatten, q, cut.flatMap (Journal.share · .nonHalting),
    cut'.flatMap (Journal.share · .nonHalting), hrun, hrun', programs_of_enters hentries,
    hdone.found, hdone'.found, fun path =>
    read?_eq_of_flatten hsame hs.accepts hdone hdone' hgains hgains' hwrites hwrites', ?_, ?_, ?_⟩
  · rw [hgains _ (by decide), hnone]
  · rw [hgains' _ (by decide), hnone]
  · have hperm := Journal.flatMap_share_nonHalting cut
    rw [hsame] at hperm
    exact hperm.trans (Journal.flatMap_share_nonHalting cut').symm

theorem size_only_groups_shelf : ∃ done done' returned q,
    (shelf.within 1 (-1) 100).run "20240101" shelfFirst = (done, .ok returned) ∧
    (shelf.within 64 (-1) 100).run "20240101" shelfFirst = (done', .ok returned) ∧
    returned.map (fun entry => entry.get? "program") = [some (.str "b.tm"), some (.str "c.tm")] ∧
    done.find shelf.results.text = .ok (.folder q) ∧
    done.read? (q ++ ["run_20240101.jsonl"]) = done'.read? (q ++ ["run_20240101.jsonl"]) := by
  have hfresh : shelf.Fresh "20240101" shelfFirst :=
    fresh_of_empty proper_shelf opens_shelfFirst (by decide +kernel)
  have hsizes : (1 : Int) ≤ 1 ∧ (1 : Int) ≤ 64 := by decide
  obtain ⟨done, done', returned, q, -, -, hrun, hrun', hprograms, hfound, -, hsame, -⟩ :=
    size_only_groups proper_shelf hfresh offers_shelfFirst hsizes.1 hsizes.2 (-1) 100
  refine ⟨done, done', returned, q, hrun, hrun', hprograms, hfound, hsame _ fun hpath => ?_⟩
  exact absurd (List.singleton_inj.mp (List.append_cancel_left hpath)) (by decide)

end Batch

end TapeMachine
