import Mathlib.Data.List.DropRight
import TapeMachine.Proofs.Files.Places

/-! Folders that are there: making them changes nothing. -/
namespace TapeMachine

open Text (Letter Letters)

namespace PathText

/-- A path is split before its last name. What it begins with is slashes alone, or ends before the
slashes that it is split at. -/
theorem split_spec (p : Letters) : ∃ gap, p = (split p).1 ++ (gap ++ (split p).2) ∧
    slash ∉ (split p).2 ∧
    (∀ l ∈ gap, l = slash) ∧ (gap = [] ∧ (∀ l ∈ (split p).1, l = slash) ∨
      gap ≠ [] ∧ (split p).1 ≠ [] ∧ (split p).1.getLast? ≠ some slash) := by
  let before := p.rdropWhile (· != slash)
  let name := p.rtakeWhile (· != slash)
  have hp : before ++ name = p := List.rdropWhile_append_rtakeWhile
  have htake : p.take (p.length - name.length) = before := by
    have hlength : p.length - name.length = before.length := by
      rw [← hp, List.length_append, Nat.add_sub_cancel]
    rw [hlength]
    calc p.take before.length = (before ++ name).take before.length := by rw [hp]
      _ = before := List.take_left
  have hhead :
      (split p).1 = if before.all (· == slash) then before else before.rdropWhile (· == slash) := by
    rw [← htake]
    rfl
  have hname : (split p).2 = name := rfl
  have hplain : slash ∉ name := fun hmem => by simpa using List.mem_rtakeWhile_imp hmem
  rw [hhead, hname]
  split
  · next hall => exact ⟨[], by simpa using hp.symm, hplain, nofun, .inl ⟨rfl, by simpa using hall⟩⟩
  · next hall =>
    have hne : before ≠ [] := by
      intro hnil
      rw [hnil] at hall
      exact hall rfl
    have hlast : before.getLast hne = slash := by
      have hend := List.rdropWhile_last_not (· != slash) p hne
      simpa using hend
    refine ⟨before.rtakeWhile (· == slash), ?_, hplain, ?_, .inr ⟨?_, ?_, ?_⟩⟩
    · rw [← List.append_assoc, List.rdropWhile_append_rtakeWhile, hp]
    · intro l hl
      simpa using List.mem_rtakeWhile_imp hl
    · intro hnil
      exact List.rtakeWhile_eq_nil_iff.mp hnil hne (by simp [hlast])
    · intro hnil
      exact hall (by simpa [List.rdropWhile_eq_nil_iff] using hnil)
    · intro hend
      obtain ⟨more, hmore⟩ := List.getLast?_eq_some_iff.mp hend
      have hnot := List.rdropWhile_last_not (· == slash) before (by simp [hmore])
      simp [hmore] at hnot

/-- A path is split at a slash, if there is anything before it. -/
theorem split_cases (p : Letters) : ∃ more, p = (split p).1 ++ more ∧
    ((split p).1 = [] ∨ (split p).1.getLast? = some slash ∨ more.head? = some slash) := by
  obtain ⟨gap, hp, -, hgap, ⟨rfl, hhead⟩ | ⟨hne, -, -⟩⟩ := split_spec p
  · refine ⟨_, hp, ?_⟩
    by_cases hnil : (split p).1 = []
    · exact .inl hnil
    · refine .inr (.inl ?_)
      rw [List.getLast?_eq_some_getLast hnil, hhead _ (List.getLast_mem hnil)]
  · refine ⟨_, hp, .inr (.inr ?_)⟩
    rw [List.head?_append, List.head?_eq_some_head hne, Option.some_or, hgap _ (List.head_mem hne)]

end PathText

theorem Path.steps_nil : Path.steps [] = [] := rfl

namespace Files

variable {files other : Files} {s name text : String} {q : Path}

/-- What comes before a slash in the text of a folder names a folder as well. -/
theorem folder_of_split {head : Letters} (hfolder : files.find s = .ok (.folder q))
    (hhead : head = (PathText.split s).1) (hne : head ≠ []) :
    ∃ t : String, head = Letters.ofString t ∧ ∃ mid, files.find t = .ok (.folder mid) := by
  obtain ⟨⟨hzero, -, hshort⟩, hleads⟩ := find_eq_folder_iff.mp hfolder
  obtain ⟨more, hs, hcut⟩ := PathText.split_cases s
  rw [← hhead] at hs hcut
  obtain ⟨cs, ds, hchars, hcs, hds⟩ := List.map_eq_append_iff.mp hs
  have htext : s = String.ofList cs ++ String.ofList ds := by
    rw [← String.ofList_append, ← hchars, String.ofList_toList]
  have hnonempty : String.ofList cs ≠ "" := by
    intro hempty
    have hnil := congrArg String.toList hempty
    rw [String.toList_ofList] at hnil
    rw [← hcs, hnil] at hne
    exact hne rfl
  obtain ⟨rest, hrest⟩ : ∃ rest, Path.steps s.toList = Path.steps cs ++ rest := by
    rw [hchars]
    rcases hcut with hnil | hlast | hfirst
    · exact (hne hnil).elim
    · rw [← hcs, List.getLast?_map, Option.map_eq_some_iff] at hlast
      obtain ⟨c, hc, hslash⟩ := hlast
      cases hslash
      obtain ⟨us, rfl⟩ := List.getLast?_eq_some_iff.mp hc
      rw [List.append_assoc, List.singleton_append, Path.steps_append, Path.steps_append,
        Path.steps_nil, List.append_nil]
      exact ⟨_, rfl⟩
    · rw [← hds, List.head?_map, Option.map_eq_some_iff] at hfirst
      obtain ⟨c, hc, hslash⟩ := hfirst
      cases hslash
      obtain ⟨vs, rfl⟩ := List.head?_eq_some_iff.mp hc
      exact ⟨_, Path.steps_append cs vs⟩
  have hparts : (Route.along s).parts = (Route.along (String.ofList cs)).parts ++ rest := by
    rw [Route.along, Route.along, hrest, String.toList_ofList]
  have hstart : (Route.along s).start = (Route.along (String.ofList cs)).start := by
    rw [htext, start_append hnonempty]
  rw [hparts, hstart] at hleads
  obtain ⟨mid, hmid, -⟩ := hleads.split
  refine ⟨String.ofList cs, by rw [← hcs, Letters.ofString, String.toList_ofList], mid, ?_⟩
  refine find_eq_folder_iff.mpr ⟨⟨?_, hnonempty, ?_⟩, hmid⟩
  · rw [hchars, List.mem_append, not_or] at hzero
    rw [String.toList_ofList]
    exact hzero.1
  · have hbytes : byteCount s = byteCount (String.ofList cs) + byteCount (String.ofList ds) := by
      rw [htext]
      exact String.utf8ByteSize_append
    omega

theorem makeFolder_of_folder (h : files.find s = .ok (.folder q)) :
    files.makeFolder s = .error (.taken s) := by
  obtain ⟨htext, hleads⟩ := find_eq_folder_iff.mp h
  have hwalk : files.walk (Route.along s).given (Route.along s).start (Route.along s).parts = _ :=
    walk_eq_folder_iff.mpr hleads
  rw [makeFolder, Route.of_eq_ok_iff.mpr ⟨htext, rfl⟩]
  simp only [bind, Except.bind, hwalk]
  rfl

theorem ensureFolder_of_folder (h : files.find s = .ok (.folder q)) :
    files.ensureFolder s = (files, .ok ()) := by
  rw [ensureFolder, makeFolder_of_folder h]
  simp [FileError.isNoPath, holdsFolder, h]

theorem makePath_of_folder {p : Path} (h : files.find p.text = .ok (.folder q)) (fuel : Nat) :
    files.makePath (fuel + 1) p = (files, .ok ()) := by
  rw [makePath, makeFolder_of_folder h]
  exact ensureFolder_of_folder h

theorem makeFolders_of_folder (h : files.find s = .ok (.folder q)) (fuel : Nat) :
    files.makeFolders (fuel + 1) s = (files, .ok ()) := by
  have hsplit : ∀ {t : String} {mid : Path}, files.find t = .ok (.folder mid) →
      (PathText.split t).1 = [] ∨ files.holds (PathText.split t).1 = true := by
    intro t mid ht
    by_cases hne : (PathText.split t).1 = []
    · exact .inl hne
    · obtain ⟨u, hu, up, hup⟩ := folder_of_split ht rfl hne
      exact .inr (by rw [hu, holds, hup])
  rw [makeFolders]
  split
  next head tail hparts =>
    have hholds : head = [] ∨ files.holds head = true := by
      split at hparts
      · next first hfirst =>
        by_cases hne : first = []
        · rw [hne] at hparts
          cases hparts
          exact .inl rfl
        · obtain ⟨t, rfl, mid, ht⟩ := folder_of_split h (by rw [hfirst]) hne
          have hhead := hsplit ht
          rwa [hparts] at hhead
      · have hhead := hsplit h
        rwa [hparts] at hhead
    have hno : (!head.isEmpty && !tail.isEmpty && !files.holds head) = false := by
      rcases hholds with rfl | hhead
      · rfl
      · simp [hhead]
    rw [hno, if_neg (by decide), ensureFolder_of_folder h]

end Files

end TapeMachine
