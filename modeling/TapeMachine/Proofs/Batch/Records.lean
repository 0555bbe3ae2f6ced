import TapeMachine.Proofs.Batch.Entries
import TapeMachine.Proofs.Journal
import TapeMachine.Proofs.Text.LineEnds

/-! The files that a batch keeps on its results, and what they hold once some programs are done. -/
namespace TapeMachine

open Json (Fields strings)
open Text (Letters)

variable {b : Batch} {day name : String} {q : Path} {files done : Files} {handled : List String}
  {returned : List Fields}

namespace Batch

def checkpointName (b : Batch) : String := b.outputName ++ "_checkpoint.json"

/-- How the name of a file of the journal begins. -/
def volumeStem (b : Batch) : Volume → String
  | .main => b.outputName ++ "_"
  | .halting => "halting_"
  | .undefined => "undefined_"
  | .nonHalting => "non_halting_"

def volumeName (b : Batch) (day : String) (v : Volume) : String := b.volumeStem v ++ day ++ ".jsonl"

def volumeNames (b : Batch) (day : String) : List String := Volume.all.map (b.volumeName day)

def recordNames (b : Batch) (day : String) : List String := b.checkpointName :: b.volumeNames day

/-- A text without the characters that no name has. -/
def IsPlain (s : String) : Prop := '/' ∉ s.toList ∧ '\x00' ∉ s.toList

instance (s : String) : Decidable (IsPlain s) := inferInstanceAs (Decidable (_ ∧ _))

theorem IsPlain.append {s t : String} (hs : IsPlain s) (ht : IsPlain t) : IsPlain (s ++ t) := by
  simp only [IsPlain, String.toList_append, List.mem_append, not_or]
  exact ⟨⟨hs.1, ht.1⟩, hs.2, ht.2⟩

/-- The records of a batch have names of their own, and these and their paths are not too long. -/
structure Proper (b : Batch) (day : String) : Prop where
  plain : IsPlain b.outputName
  day_plain : IsPlain day
  apart : b.outputName ∉ ["halting", "undefined", "non_halting"]
  short : ∀ name ∈ b.recordNames day, byteCount name ≤ longestPart
  reachable : byteCount b.results.text + 1 + longestPart < pathBound

theorem getLast?_append_of {s t : String} {c : Char} (h : t.toList.getLast? = some c) :
    (s ++ t).toList.getLast? = some c := by
  rw [String.toList_append, List.getLast?_append, h, Option.some_or]

theorem getLast?_checkpointName (b : Batch) : b.checkpointName.toList.getLast? = some 'n' :=
  getLast?_append_of rfl

theorem getLast?_volumeName (b : Batch) (day : String) (v : Volume) :
    (b.volumeName day v).toList.getLast? = some 'l' :=
  getLast?_append_of rfl

theorem volumeName_mem (b : Batch) (day : String) (v : Volume) :
    b.volumeName day v ∈ b.recordNames day :=
  List.mem_cons_of_mem _ (List.mem_map_of_mem v.mem_all)

theorem checkpointName_not_mem : b.checkpointName ∉ b.volumeNames day := by
  intro h
  obtain ⟨v, -, hv⟩ := List.mem_map.mp h
  have hlast := getLast?_volumeName b day v
  rw [hv, getLast?_checkpointName] at hlast
  cases hlast

/-- Names that files of programs have. -/
def isProgramName (name : String) : Bool := ['.', 't', 'm'].isSuffixOf name.toList

/-- No program has the name of a record. -/
theorem not_mem_recordNames (h : isProgramName name = true) :
    name ∉ b.recordNames day := by
  obtain ⟨head, hname⟩ := List.isSuffixOf_iff_suffix.mp h
  have hlast : name.toList.getLast? = some 'm' := by rw [← hname, List.getLast?_append]; rfl
  intro hmem
  rcases List.mem_cons.mp hmem with rfl | hmem
  · rw [getLast?_checkpointName] at hlast
    cases hlast
  · obtain ⟨v, -, rfl⟩ := List.mem_map.mp hmem
    rw [getLast?_volumeName] at hlast
    cases hlast

theorem Proper.isPlain_volumeStem (h : b.Proper day) (v : Volume) : IsPlain (b.volumeStem v) := by
  cases v with
  | main => exact h.plain.append (by decide)
  | halting => exact (by decide : IsPlain "halting_")
  | undefined => exact (by decide : IsPlain "undefined_")
  | nonHalting => exact (by decide : IsPlain "non_halting_")

theorem Proper.isFileName (h : b.Proper day) (hname : name ∈ b.recordNames day) :
    IsFileName name := by
  have hlengths : ".jsonl".toList.length = 6 ∧ "_checkpoint.json".toList.length = 16 := by decide
  have hplain : IsPlain name ∧ 2 < name.toList.length := by
    rcases List.mem_cons.mp hname with rfl | hmem
    · refine ⟨h.plain.append (by decide), ?_⟩
      rw [checkpointName, String.toList_append, List.length_append]
      omega
    · obtain ⟨v, -, rfl⟩ := List.mem_map.mp hmem
      refine ⟨((h.isPlain_volumeStem v).append h.day_plain).append (by decide), ?_⟩
      rw [volumeName, String.toList_append, List.length_append]
      omega
  have hne : ∀ s : String, s.toList.length ≤ 2 → name ≠ s := by
    rintro s hs rfl
    omega
  exact ⟨hne _ (by decide), hplain.1.1, hplain.1.2, hne _ (by decide), hne _ (by decide),
    h.short _ hname⟩

theorem Proper.injective (h : b.Proper day) : Function.Injective (b.volumeName day) := by
  have hother : ∀ word ∈ ["halting", "undefined", "non_halting"],
      b.outputName ++ "_" ≠ word ++ "_" := by
    intro word hword hsame
    exact h.apart ((String.append_left_inj _).mp hsame ▸ hword)
  have hhalting : b.outputName ++ "_" ≠ "halting_" := hother "halting" (by decide)
  have hundefined : b.outputName ++ "_" ≠ "undefined_" := hother "undefined" (by decide)
  have hnon : b.outputName ++ "_" ≠ "non_halting_" := hother "non_halting" (by decide)
  intro v u hsame
  have hstem : b.volumeStem v = b.volumeStem u := by
    rwa [volumeName, volumeName, String.append_left_inj, String.append_left_inj] at hsame
  cases v <;> cases u <;> simp_all [volumeStem]

/-- The journal of a batch. -/
def journal (b : Batch) (day : String) : Journal := ⟨b.results.text, b.outputName ++ "_", day⟩

theorem journal_fileName (b : Batch) (day : String) (v : Volume) :
    (b.journal day).fileName v = Letters.ofString (b.volumeName day v) := by
  cases v <;> simp [journal, Journal.fileName, volumeName, volumeStem, Letters.ofString]

theorem Proper.byteCount_lt (h : b.Proper day) (hname : name ∈ b.recordNames day) {t : String}
    (ht : Files.Continues b.results.text name t) : byteCount t < pathBound := by
  have hbytes := ht.byteCount_le
  have hshort := h.short name hname
  have hreachable := h.reachable
  omega

theorem journal_opened (h : b.Proper day) (hfound : files.find b.results.text = .ok (.folder q))
    (hfree : ∀ name ∈ b.recordNames day, ∀ path, files.spot (q ++ [name]) ≠ .folder path) :
    (b.journal day).Opened q (b.volumeName day) files := by
  refine ⟨h.injective, fun v => ?_, Files.isFolder_of_find hfound, fun name hname =>
    hfree name (List.mem_cons_of_mem _ hname)⟩
  have hrecord := b.volumeName_mem day v
  have hname := h.isFileName hrecord
  have hne : b.results.text ≠ "" := (Files.isPathText_of_find hfound).2.1
  obtain ⟨t, ht, hcontinues⟩ := PathText.join_eq hne hname
  refine ⟨t, ?_,
    Files.locates_of_continues hfound hname hcontinues (h.byteCount_lt hrecord hcontinues)⟩
  rw [← ht, Journal.path, journal_fileName]
  rfl

theorem checkpoint_locates (h : b.Proper day)
    (hfound : files.find b.results.text = .ok (.folder q)) :
    files.Locates b.checkpoint.text q b.checkpointName := by
  have hrecord : b.checkpointName ∈ b.recordNames day := List.mem_cons_self
  have hname := h.isFileName hrecord
  have hpath : b.checkpoint = b.results ++ [b.checkpointName] := by
    have hdef : b.checkpoint = Path.join b.results (.parse b.checkpointName) := rfl
    rw [hdef, hname.parse, Path.join, List.head?_singleton, Option.any_some, hname.not_isRoot,
      if_neg (by decide)]
  have hcontinues := Path.text_concat hname b.results
  rw [← hpath] at hcontinues
  exact Files.locates_of_continues hfound hname hcontinues (h.byteCount_lt hrecord hcontinues)

/-- A checkpoint, as it is written. -/
def checkpointText (handled : List String) : String :=
  (Json.obj [(Letters.ofString "completed", .arr (strings handled))]).pretty

/-- The records of a batch stand for the programs handled and the entries returned for them. -/
structure Stands (b : Batch) (day : String) (q : Path) (handled : List String)
    (returned : List Fields) (files : Files) : Prop where
  found : files.find b.results.text = .ok (.folder q)
  free : ∀ name ∈ b.recordNames day, ∀ path, files.spot (q ++ [name]) ≠ .folder path
  checkpoint : files.read? (q ++ [b.checkpointName]) =
    if handled = [] then none else some (checkpointText handled)
  main : files.read? (q ++ [b.volumeName day .main]) =
    if handled = [] then none else some (Journal.linesOf returned)
  paired : returned.map (fun e => e.get? "program") = handled.map fun name => some (.str name)

theorem Stands.accepts (h : b.Stands day q handled returned files) :
    files.Accepts q (b.recordNames day) :=
  ⟨Files.isFolder_of_find h.found, h.free⟩

/-- With nothing handled nothing was returned. -/
theorem Stands.held_main (h : b.Stands day q handled returned files) :
    Journal.held q (b.volumeName day) files .main = Journal.linesOf returned := by
  rw [Journal.held, h.main]
  split
  · next hnil =>
    have hreturned : returned = [] := by simpa [hnil] using h.paired
    rw [hreturned]
    rfl
  · rfl

/-- The checkpoint that a batch finds has the names handled. -/
theorem Stands.completed (hb : b.Proper day) (h : b.Stands day q handled returned files) :
    b.completed files = .ok (.arr (strings handled)) := by
  have hlocates := checkpoint_locates hb h.found
  have hread := h.checkpoint
  by_cases hnil : handled = []
  · rw [if_pos hnil] at hread
    obtain ⟨path, hspot⟩ := Files.free_of_read? hread (h.free _ List.mem_cons_self)
    have hfind := hlocates.find
    rw [hspot] at hfind
    obtain ⟨e, hload⟩ := hlocates.not_loaded hspot
    delta Batch.completed
    simp only [hfind, hload, hnil]
    rfl
  · rw [if_neg hnil] at hread
    have hload := hlocates.load hread
    have hfind := hlocates.find
    rw [Files.spot_of_read? hread] at hfind
    have hunified : String.ofList (Text.unifyBreaks (checkpointText handled).toList) =
        checkpointText handled := by
      rw [checkpointText,
        Text.unifyBreaks_of_not_mem (Json.not_mem_pretty_strings "completed" handled),
        String.ofList_toList]
    have hparse := Json.parse_pretty_strings "completed" handled
    delta Batch.completed
    simp only [hfind, hload, hunified]
    rw [checkpointText, hparse]
    rfl

end Batch

end TapeMachine
