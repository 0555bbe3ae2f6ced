import TapeMachine.Proofs.Journal

/-! Entries filed call by call: what the main file of a journal and the files of the statuses
hold. -/
namespace TapeMachine

open Json (Fields)
open Text (Letters)

variable {files : Files} {q path : Path} {day : String} {entries : List Fields}
  {calls : List (List Fields)}

/-- A date is ten digits and dashes. -/
def IsDay (day : String) : Prop :=
  day.toList.length = 10 ∧ ∀ c ∈ day.toList, c = '-' ∨ c.isDigit = true

instance (day : String) : Decidable (IsDay day) :=
  decidable_of_iff (day.toList.length = 10 ∧ day.toList.all fun c => c == '-' || c.isDigit)
    (by simp [IsDay])

theorem byteCount_le (s : String) : byteCount s ≤ 4 * s.toList.length := by
  have hchars : ∀ cs : List Char, byteCount (String.ofList cs) ≤ 4 * cs.length := by
    intro cs
    induction cs with
    | nil => exact Nat.zero_le _
    | cons c cs ih =>
      have hbytes :
          byteCount (String.ofList (c :: cs)) = c.utf8Size + byteCount (String.ofList cs) := by
        rw [byteCount, String.ofList_cons, String.utf8ByteSize_append,
          String.utf8ByteSize_singleton, byteCount]
      have hchar := c.utf8Size_le_four
      rw [hbytes, List.length_cons]
      omega
  simpa using hchars s.toList

theorem isFileName_dated {stem : String} (hstem : '/' ∉ stem.toList ∧ '\x00' ∉ stem.toList)
    (hshort : stem.toList.length ≤ 40) (hday : IsDay day) :
    IsFileName (stem ++ day ++ ".jsonl") := by
  have hchars :
      (stem ++ day ++ ".jsonl").toList = stem.toList ++ day.toList ++ ".jsonl".toList := by simp
  have hlength : (stem ++ day ++ ".jsonl").toList.length = stem.toList.length + 16 := by
    rw [hchars, List.length_append, List.length_append, hday.1]
    rfl
  have hnot : ∀ c, c ∉ stem.toList → c ≠ '-' → c.isDigit = false → c ∉ ".jsonl".toList →
      c ∉ (stem ++ day ++ ".jsonl").toList := by
    intro c hc hdash hdigit hend
    rw [hchars, List.mem_append, List.mem_append, not_or, not_or]
    refine ⟨⟨hc, fun hmem => ?_⟩, hend⟩
    rcases hday.2 c hmem with rfl | hd
    · exact hdash rfl
    · rw [hdigit] at hd
      cases hd
  have hne : ∀ s : String, s.toList.length ≤ 2 → stem ++ day ++ ".jsonl" ≠ s := by
    intro s hs hsame
    rw [hsame] at hlength
    omega
  have hbytes := byteCount_le (stem ++ day ++ ".jsonl")
  refine ⟨hne _ (by decide), hnot _ hstem.1 (by decide) (by decide) (by decide),
    hnot _ hstem.2 (by decide) (by decide) (by decide), hne _ (by decide), hne _ (by decide), ?_⟩
  rw [hlength] at hbytes
  exact Nat.le_trans hbytes (by unfold longestPart; omega)

/-- The status of an entry, if it is a text. -/
def statusOf? (entry : Fields) : Option Letters :=
  match entry.get? "status" with
  | some (.str s) => some s
  | _ => none

/-- The entries of runs that ended in a way, in their order. -/
def ended (s : Status) (entries : List Fields) : List Fields :=
  entries.filter fun e => statusOf? e = some (Letters.ofString s.name)

namespace Journal

variable {j : Journal} {place : Volume → Path}

theorem withStatus_eq (s : Status) (entries : List Fields) :
    withStatus s.name entries = ended s entries := by
  refine List.filter_congr fun e _ => ?_
  rw [Bool.eq_iff_iff]
  unfold statusOf?
  split <;> simp_all

theorem badStatus?_eq_none (h : ∀ e ∈ entries, ∃ s, e.get? "status" = some (.str s)) :
    badStatus? entries = none := by
  refine List.findSome?_eq_none_iff.mpr fun e he => ?_
  obtain ⟨s, hs⟩ := h e he
  rw [hs]

/-- Files entries call by call, until one fails. -/
def fileAll (j : Journal) (files : Files) : List (List Fields) → Filing
  | [] => (files, .ok ())
  | entries :: more =>
    match j.file files entries with
    | (files, .ok ()) => fileAll j files more
    | failed => failed

/-- What one call adds to the files, many calls add in their order. -/
theorem Separate.fileAll (h : j.Separate place files)
    (hstatus : ∀ entries ∈ calls, badStatus? entries = none) :
    ∃ done, j.fileAll files calls = (done, .ok ()) ∧
      done.read? (place .main) = extended (files.read? (place .main)) calls ∧
      (∀ v ≠ .main, done.read? (place v) =
        grown (files.read? (place v)) (calls.flatMap fun entries => share entries v)) ∧
      ∀ path, (∀ v, place v ≠ path) → done.read? path = files.read? path := by
  induction calls generalizing files with
  | nil => exact ⟨files, rfl, rfl, fun v _ => grown_nil.symm, fun _ _ => rfl⟩
  | cons entries more ih =>
    obtain ⟨hentries, hmore⟩ := List.forall_mem_cons.mp hstatus
    obtain ⟨done, hdone, hmain, hkind, hother⟩ := ih (h.filed entries) hmore
    refine ⟨done, ?_, ?_, fun v hv => ?_, fun path hpath => ?_⟩
    · rw [Journal.fileAll, h.file hentries]
      exact hdone
    · rw [hmain, h.read?_filed, if_pos rfl, extended_cons]
    · rw [hkind v hv, h.read?_filed, if_neg hv, grown_grown, List.flatMap_cons]
    · rw [hother path hpath, read?_filed_other hpath]

/-- How the name of the file for runs that ended in a way begins; the main file has no name of its
own. -/
def stemOf? : Volume → Option String
  | .main => none
  | .halting => some "halting_"
  | .undefined => some "undefined_"
  | .nonHalting => some "non_halting_"

theorem stemOf?_injective {v u : Volume} (h : stemOf? v = stemOf? u) : v = u := by
  cases v <;> cases u <;> first | rfl | exact absurd h (by decide)

/-- The name of the file for runs that ended in a way, on a day. -/
def nameOf? (day : String) (v : Volume) : Option String := (stemOf? v).map (· ++ day ++ ".jsonl")

theorem nameOf?_injective {v u : Volume} (h : nameOf? day v = nameOf? day u) : v = u := by
  refine stemOf?_injective (Option.map_injective (fun s t hsame => ?_) h)
  rwa [String.append_left_inj, String.append_left_inj] at hsame

theorem eq_main_of_nameOf? {v : Volume} (h : nameOf? day v = none) : v = .main := by
  refine stemOf?_injective ?_
  rwa [nameOf?, Option.map_eq_none_iff] at h

theorem isFileName_of_nameOf? (hday : IsDay day) {v : Volume} {name : String}
    (h : nameOf? day v = some name) : IsFileName name := by
  cases v <;> cases h <;> exact isFileName_dated (by decide) (by decide) hday

theorem path_of_nameOf? {v : Volume} {name : String} (h : nameOf? j.day v = some name) :
    j.path v = PathText.join j.folder (Letters.ofString name) := by
  cases v <;> cases h <;> simp [Journal.path, Journal.fileName, Letters.ofString]

/-- The places of the files of a journal that keeps those of the statuses in a folder. -/
def places (main q : Path) (day : String) (v : Volume) : Path :=
  ((nameOf? day v).map (q ++ [·])).getD main

theorem places_of_nameOf? {main : Path} {v : Volume} {name : String}
    (h : nameOf? day v = some name) :
    places main q day v = q ++ [name] := by
  rw [places, h]
  rfl

theorem places_main (main q : Path) (day : String) : places main q day .main = main := rfl

theorem places_injective {main : Path}
    (hother : ∀ v name, nameOf? day v = some name → main ≠ q ++ [name]) :
    Function.Injective (places main q day) := by
  intro v u hsame
  cases hv : nameOf? day v with
  | none =>
    cases hu : nameOf? day u with
    | none => rw [eq_main_of_nameOf? hv, eq_main_of_nameOf? hu]
    | some name =>
      rw [eq_main_of_nameOf? hv, places_main, places_of_nameOf? hu] at hsame
      exact (hother u name hu hsame).elim
  | some name =>
    cases hu : nameOf? day u with
    | none =>
      rw [eq_main_of_nameOf? hu, places_main, places_of_nameOf? hv] at hsame
      exact (hother v name hv hsame.symm).elim
    | some other =>
      rw [places_of_nameOf? hv, places_of_nameOf? hu] at hsame
      obtain rfl := List.singleton_inj.mp (List.append_cancel_left hsame)
      exact nameOf?_injective (hv.trans hu.symm)

/-- In an empty folder the files of a journal are separate, unless the main one is among the
others. -/
theorem separate_of_empty {folder : String} {main : Path} (hj : j.folder = Letters.ofString folder)
    (hfolder : files.find folder = .ok (.folder q)) (hempty : files.namesIn q = [])
    (hday : IsDay j.day)
    (hroom : byteCount folder + 1 + longestPart < pathBound)
    (hmain : files.target (j.path .main) = .ok main)
    (hother : ∀ v name, nameOf? j.day v = some name → main ≠ q ++ [name]) :
    j.Separate (places main q j.day) files := by
  refine ⟨places_injective hother, fun v => ?_⟩
  cases hv : nameOf? j.day v with
  | none =>
    rw [eq_main_of_nameOf? hv]
    exact hmain
  | some name =>
    have hname := isFileName_of_nameOf? hday hv
    obtain ⟨t, ht, hcontinues⟩ := PathText.join_eq (Files.isPathText_of_find hfolder).2.1 hname
    have hbytes := hcontinues.byteCount_le
    have hshort := hname.short
    have hlocates := Files.locates_of_continues hfolder hname hcontinues (by omega)
    obtain ⟨found, hfree⟩ := Files.free_of_empty hempty hname.not_up
      fun hslash => hname.slashless (hslash ▸ by decide)
    rw [path_of_nameOf? hv, hj, ht, places_of_nameOf? hv]
    refine hlocates.target fun path hspot => ?_
    rw [hfree] at hspot
    cases hspot

theorem fileAll_of_target_error {e : FileError} (h : files.target (j.path .main) = .error e)
    (hne : calls ≠ []) :
    j.fileAll files calls = (files, .error (.file e)) := by
  have hfile : ∀ entries, j.file files entries = (files, .error (.file e)) := by
    intro entries
    have hadd : j.add files .main entries = .error (.file e) := by
      rw [add, Files.extend, h]
      rfl
    simp only [Journal.file, Filing.andThen, hadd]
  cases calls with
  | nil => exact (hne rfl).elim
  | cons entries more => rw [fileAll, hfile]

/-- Into a folder that is empty at first, entries are filed by their status: if the main file can be
written at all, and is none of the others, it gains all of them in their order, and the file of a
status has those of that status and no more. -/
theorem filed_by_status {folder : String} (stem : Letters)
    (hfolder : files.find folder = .ok (.folder q))
    (hempty : files.namesIn q = []) (hday : IsDay day)
    (hroom : byteCount folder + 1 + longestPart < pathBound)
    (hstatus : ∀ entries ∈ calls, ∀ e ∈ entries, ∃ s, e.get? "status" = some (.str s))
    (hne : calls ≠ []) :
    ∃ j, Journal.start files folder stem day = (files, .ok j) ∧
      (∀ e, files.target (j.path .main) = .error e →
        j.fileAll files calls = (files, .error (.file e))) ∧
      ∀ main, files.target (j.path .main) = .ok main →
        (∀ v name, nameOf? day v = some name → main ≠ q ++ [name]) →
        ∃ done listed, j.fileAll files calls = (done, .ok ()) ∧
          done.read? main = some ((files.read? main).getD "" ++ linesOf calls.flatten) ∧
          done.read? (q ++ ["halting_" ++ day ++ ".jsonl"]) =
            grown none (ended .finished calls.flatten) ∧
          done.read? (q ++ ["undefined_" ++ day ++ ".jsonl"]) =
            grown none (ended .undefined calls.flatten) ∧
          done.read? (q ++ ["non_halting_" ++ day ++ ".jsonl"]) = grown none listed ∧
          listed.Perm (ended .loop calls.flatten ++ ended .timeout calls.flatten) ∧
          ∀ path, path ≠ main → (∀ v name, nameOf? day v = some name → path ≠ q ++ [name]) →
            done.read? path = files.read? path := by
  refine ⟨⟨folder, stem, day⟩, ?_, fun e he => fileAll_of_target_error he hne,
    fun main hmain hother => ?_⟩
  · rw [Journal.start, Files.makeFolders_of_folder hfolder]
    rfl
  have hseparate := separate_of_empty rfl hfolder hempty hday hroom hmain hother
  obtain ⟨done, hdone, hheld, hkind, hrest⟩ :=
    hseparate.fileAll fun entries hentries => badStatus?_eq_none (hstatus entries hentries)
  have hnew : ∀ {v name}, nameOf? day v = some name → v ≠ .main → done.read? (q ++ [name]) =
      grown none (calls.flatMap fun entries => share entries v) := by
    intro v name hname hv
    have hfile := isFileName_of_nameOf? hday hname
    obtain ⟨found, hfree⟩ := Files.free_of_empty hempty hfile.not_up
      fun hslash => hfile.slashless (hslash ▸ by decide)
    have hread := hkind v hv
    rwa [places_of_nameOf? hname, (Files.free_of_spot hfree).2] at hread
  rw [extended, if_neg hne] at hheld
  refine ⟨done, _, hdone, hheld, ?_, ?_, hnew (v := .nonHalting) rfl (by decide), ?_,
    fun path hpath hfar => ?_⟩
  · rw [hnew (v := .halting) rfl (by decide), flatMap_share (by decide), share, withStatus_eq]
  · rw [hnew (v := .undefined) rfl (by decide), flatMap_share (by decide), share, withStatus_eq]
  · have hperm := flatMap_share_nonHalting calls
    rwa [share, withStatus_eq, withStatus_eq] at hperm
  · refine hrest path fun v hsame => ?_
    cases hv : nameOf? day v with
    | none =>
      rw [eq_main_of_nameOf? hv] at hsame
      exact hpath hsame.symm
    | some name =>
      rw [places_of_nameOf? hv] at hsame
      exact hfar v name hv hsame.symm

/-- A run of a program that ended in a way, as an entry. -/
def brief (program : String) (s : Status) : Fields :=
  [("program", .str program), ("status", .str s.name)]

def emptyLogs : Files := ⟨[], [["logs"]]⟩

theorem filed_by_status_brief : ∃ j done listed,
    Journal.start emptyLogs "logs" "run_" "2024-01-01" = (emptyLogs, .ok j) ∧
    j.fileAll emptyLogs [[brief "a.tm" .finished, brief "b.tm" .timeout], [brief "c.tm" .loop]] =
      (done, .ok ()) ∧
    done.read? ["logs", "run_2024-01-01.jsonl"] =
      some (linesOf [brief "a.tm" .finished, brief "b.tm" .timeout, brief "c.tm" .loop]) ∧
    done.read? ["logs", "halting_2024-01-01.jsonl"] = some (linesOf [brief "a.tm" .finished]) ∧
    done.read? ["logs", "undefined_2024-01-01.jsonl"] = none ∧
    done.read? ["logs", "non_halting_2024-01-01.jsonl"] = grown none listed ∧
    listed.Perm [brief "c.tm" .loop, brief "b.tm" .timeout] := by
  have hstatus :
      ∀ entries ∈ [[brief "a.tm" .finished, brief "b.tm" .timeout], [brief "c.tm" .loop]],
      ∀ e ∈ entries, ∃ s, e.get? "status" = some (.str s) := by
    intro entries hentries e he
    have hbrief : ∃ program s, e = brief program s := by
      simp only [List.mem_cons, List.not_mem_nil, or_false] at hentries
      rcases hentries with rfl | rfl
      · rcases List.mem_pair.mp he with rfl | rfl <;> exact ⟨_, _, rfl⟩
      · exact ⟨_, _, List.mem_singleton.mp he⟩
    obtain ⟨program, s, rfl⟩ := hbrief
    exact ⟨s.name, rfl⟩
  have hfolder : emptyLogs.find "logs" = .ok (.folder ["logs"]) := by decide +kernel
  have hempty : emptyLogs.namesIn ["logs"] = [] := by decide +kernel
  have hday : IsDay "2024-01-01" := by decide
  obtain ⟨j, hstart, -, hfiled⟩ :=
    filed_by_status "run_" hfolder hempty hday (by decide) hstatus (List.cons_ne_nil _ _)
  have hj : j = ⟨"logs", "run_", "2024-01-01"⟩ := by
    have hopened : Journal.start emptyLogs "logs" "run_" "2024-01-01" =
        (emptyLogs, .ok ⟨"logs", "run_", "2024-01-01"⟩) := by decide +kernel
    exact Except.ok.inj (congrArg Prod.snd (hstart.symm.trans hopened))
  have hmain : emptyLogs.target (j.path .main) = .ok ["logs", "run_2024-01-01.jsonl"] := by
    rw [hj]
    decide +kernel
  have hother : ∀ v name, nameOf? "2024-01-01" v = some name →
      ["logs", "run_2024-01-01.jsonl"] ≠ ["logs"] ++ [name] := by
    intro v name hv
    cases v <;> cases hv <;> decide
  obtain ⟨done, listed, hdone, hall, hhalting, hundefined, hnon, hperm, -⟩ := hfiled _ hmain hother
  exact ⟨j, done, listed, hstart, hdone, hall, hhalting, hundefined, hnon, hperm⟩

/-- Where the main file is that of a status, entries of this status are in it twice. -/
theorem filed_twice :
    let j : Journal := ⟨"logs", "halting_", "2024-01-01"⟩
    (j.file emptyLogs [brief "a.tm" .finished]).1.read? ["logs", "halting_2024-01-01.jsonl"] =
      some (linesOf [brief "a.tm" .finished, brief "a.tm" .finished]) := by
  decide +kernel

end Journal

end TapeMachine
