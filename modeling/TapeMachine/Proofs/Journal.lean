import Mathlib.Data.List.Perm.Basic
import TapeMachine.Journal
import TapeMachine.Proofs.Files.Targets

/-! What filing entries leaves in the files of a journal. -/
namespace TapeMachine

open Json (Fields)
open Text (Letters)

namespace Volume

def all : List Volume := [main, halting, undefined, nonHalting]

theorem mem_all (v : Volume) : v ∈ all := by
  cases v <;> decide

end Volume

namespace Journal

variable {j : Journal} {place : Volume → Path} {q path : Path} {names : Volume → String}
  {files : Files}
  {v : Volume} {entries more : List Fields} {old : Option String}

theorem linesOf_append (entries more : List Fields) :
    linesOf (entries ++ more) = linesOf entries ++ linesOf more := by
  rw [linesOf, List.map_append, String.join_append, linesOf, linesOf]

/-- What a file holds after calls that each add their entries, if there is a call. -/
def extended (old : Option String) (calls : List (List Fields)) : Option String :=
  if calls = [] then old else some (old.getD "" ++ linesOf calls.flatten)

theorem extended_cons (old : Option String) (entries : List Fields) (calls : List (List Fields)) :
    extended (some (old.getD "" ++ linesOf entries)) calls = extended old (entries :: calls) := by
  unfold extended
  rw [if_neg (List.cons_ne_nil _ _), List.flatten_cons]
  split
  · next hcalls => rw [hcalls, List.flatten_nil, List.append_nil]
  · rw [Option.getD_some, String.append_assoc, linesOf_append]

/-- The entries that go to a file of the journal. -/
def share (entries : List Fields) : Volume → List Fields
  | .main => entries
  | .halting => withStatus Status.finished.name entries
  | .undefined => withStatus Status.undefined.name entries
  | .nonHalting => withStatus Status.loop.name entries ++ withStatus Status.timeout.name entries

/-- Entries that come in portions go to the files as they would together, but for the order of runs
that did not halt. -/
theorem flatMap_share (hv : v ≠ .nonHalting) (calls : List (List Fields)) :
    calls.flatMap (share · v) = share calls.flatten v := by
  cases v with
  | main => exact List.flatMap_id
  | halting => exact List.filter_flatten.symm
  | undefined => exact List.filter_flatten.symm
  | nonHalting => exact (hv rfl).elim

theorem flatMap_share_nonHalting (calls : List (List Fields)) :
    (calls.flatMap (share · .nonHalting)).Perm (share calls.flatten .nonHalting) := by
  have hfilter : ∀ name, calls.flatMap (withStatus name) = withStatus name calls.flatten :=
    fun _ => List.filter_flatten.symm
  calc calls.flatMap (share · .nonHalting)
      |>.Perm
        (calls.flatMap (withStatus Status.loop.name) ++
          calls.flatMap (withStatus Status.timeout.name)) :=
        (List.flatMap_append_perm calls _ _).symm
    _ = share calls.flatten .nonHalting := by rw [hfilter, hfilter, share]

/-- What a file holds once entries are added to it, if there are any. -/
def grown (old : Option String) (entries : List Fields) : Option String :=
  if entries = [] then old else some (old.getD "" ++ linesOf entries)

theorem grown_nil : grown old [] = old := if_pos rfl

theorem grown_grown : grown (grown old entries) more = grown old (entries ++ more) := by
  unfold grown
  by_cases hentries : entries = []
  · simp [hentries]
  · by_cases hmore : more = []
    · simp [hmore]
    · simp [hentries, hmore, linesOf_append, String.append_assoc]

/-- Files with entries added at a place, if there are any. -/
def added (files : Files) (path : Path) (entries : List Fields) : Files :=
  if entries.isEmpty then files else files.append path (linesOf entries)

theorem read?_added (files : Files) (path other : Path) (entries : List Fields) :
    (added files path entries).read? other =
      if path = other then grown (files.read? path) entries else files.read? other := by
  unfold added grown
  by_cases hentries : entries = []
  · by_cases hpath : path = other <;> simp [hentries, hpath]
  · simp [hentries, Files.read?_append]

/-- The files of a journal can be written, and are at places of their own. -/
structure Separate (j : Journal) (place : Volume → Path) (files : Files) : Prop where
  injective : Function.Injective place
  targets : ∀ v, files.target (j.path v) = .ok (place v)

theorem add_of_target (h : files.target (j.path v) = .ok path) (entries : List Fields) :
    j.add files v entries = .ok (files.append path (linesOf entries)) := by
  rw [add, Files.extend, h]
  rfl

theorem addSome_of_target (h : files.target (j.path v) = .ok path) (entries : List Fields) :
    j.addSome files v entries = .ok (added files path entries) := by
  rw [addSome, added]
  split
  · rfl
  · exact add_of_target h entries

theorem Separate.append (h : j.Separate place files) (v : Volume) (text : String) :
    j.Separate place (files.append (place v) text) :=
  ⟨h.injective, fun u => Files.target_append (h.targets v) text (h.targets u)⟩

theorem Separate.added (h : j.Separate place files) (v : Volume) (entries : List Fields) :
    j.Separate place (Journal.added files (place v) entries) := by
  unfold Journal.added
  split
  · exact h
  · exact h.append v _

/-- The files after entries are filed. -/
def filed (place : Volume → Path) (files : Files) (entries : List Fields) : Files :=
  [Volume.halting, .undefined, .nonHalting].foldl
    (fun files v => added files (place v) (share entries v))
    (files.append (place .main) (linesOf entries))

theorem Separate.filed (h : j.Separate place files) (entries : List Fields) :
    j.Separate place (Journal.filed place files entries) :=
  (((h.append .main _).added .halting _).added .undefined _).added .nonHalting _

/-- Entries that have their status as a text are filed. -/
theorem Separate.file (h : j.Separate place files) (hstatus : badStatus? entries = none) :
    j.file files entries = (Journal.filed place files entries, .ok ()) := by
  have hmain := h.append .main (linesOf entries)
  have hhalting := hmain.added .halting (share entries .halting)
  have hundefined := hhalting.added .undefined (share entries .undefined)
  have hadd := add_of_target (h.targets .main) entries
  have hadd₁ := addSome_of_target (hmain.targets .halting) (share entries .halting)
  have hadd₂ := addSome_of_target (hhalting.targets .undefined) (share entries .undefined)
  have hadd₃ := addSome_of_target (hundefined.targets .nonHalting) (share entries .nonHalting)
  simp only [share] at hadd₁ hadd₂ hadd₃
  simp only [Journal.file, Filing.andThen, hadd, checked, hstatus, hadd₁, hadd₂, hadd₃]
  rfl

/-- Each file gains the entries of its own kind, the main one all of them. -/
theorem Separate.read?_filed (h : j.Separate place files) (entries : List Fields) (v : Volume) :
    (Journal.filed place files entries).read? (place v) =
      if v = .main then some ((files.read? (place v)).getD "" ++ linesOf entries)
      else grown (files.read? (place v)) (share entries v) := by
  simp only [Journal.filed, List.foldl_cons, List.foldl_nil, read?_added, Files.read?_append,
    h.injective.eq_iff]
  cases v <;> simp

theorem read?_filed_other (hpath : ∀ v, place v ≠ path) (files : Files) (entries : List Fields) :
    (filed place files entries).read? path = files.read? path := by
  simp [filed, read?_added, Files.read?_append, hpath]

/-- What a file of a journal holds, empty if it is not there yet. -/
def held (q : Path) (names : Volume → String) (files : Files) (v : Volume) : String :=
  (files.read? (q ++ [names v])).getD ""

/-- The files of a journal are distinct files of a folder, or can be made there. -/
structure Opened (j : Journal) (q : Path) (names : Volume → String) (files : Files) : Prop where
  injective : Function.Injective names
  locates : ∀ v, ∃ t : String, j.path v = Letters.ofString t ∧ files.Locates t q (names v)
  accepts : files.Accepts q (Volume.all.map names)

theorem Opened.separate (h : j.Opened q names files) :
    j.Separate (fun v => q ++ [names v]) files := by
  refine ⟨fun v u hsame => h.injective ?_, fun v => ?_⟩
  · exact List.singleton_inj.mp (List.append_cancel_left hsame)
  · obtain ⟨t, ht, hlocates⟩ := h.locates v
    rw [ht, hlocates.target (h.accepts.free _ (List.mem_map_of_mem v.mem_all))]

theorem filed_writes (q : Path) (names : Volume → String) (files : Files) (entries : List Fields) :
    Files.Writes q (Volume.all.map names) files
      (filed (fun v => q ++ [names v]) files entries) := by
  have hmem : ∀ v, names v ∈ Volume.all.map names := fun v => List.mem_map_of_mem v.mem_all
  have hadded : ∀ {mid : Files} (v : Volume) (entries : List Fields),
      Files.Writes q (Volume.all.map names) files mid →
        Files.Writes q (Volume.all.map names) files (added mid (q ++ [names v]) entries) := by
    intro mid v entries h
    unfold added
    split
    · exact h
    · exact .write _ h (hmem v)
  exact hadded _ _ (hadded _ _ (hadded _ _ (.write _ .refl (hmem _))))

/-- Entries that have their status as a text are filed, each in the main file and in that of its
status. -/
theorem file_ok (h : j.Opened q names files) (hstatus : badStatus? entries = none) :
    ∃ done, j.file files entries = (done, .ok ()) ∧
      Files.Writes q (Volume.all.map names) files done ∧
      (∀ v ≠ .main, done.read? (q ++ [names v]) = grown (files.read? (q ++ [names v]))
        (share entries v)) ∧
      done.read? (q ++ [names .main]) = some (held q names files .main ++ linesOf entries) := by
  refine ⟨_, h.separate.file hstatus, filed_writes q names files entries, fun v hv => ?_, ?_⟩
  · rw [h.separate.read?_filed, if_neg hv]
  · rw [h.separate.read?_filed]
    rfl

end Journal

end TapeMachine
