import TapeMachine.Proofs.Batch.Records

/-! One call of a batch: portion by portion its records come to stand for more programs. -/
namespace TapeMachine

open Json (Fields strings)
open Text (Letters)

variable {b : Batch} {c : Call} {day name : String} {q : Path} {files mid done : Files}
  {names handled : List String} {work : List (List String)} {entry : Fields}
  {returned entries : List Fields} {cut more : List (List Fields)}

theorem exists_append_of_forall₂ {α β : Type} {r : α → β → Prop} {as as' : List α} {bs : List β}
    (h : (as ++ as').Forall₂ r bs) :
    ∃ cs cs', bs = cs ++ cs' ∧ as.Forall₂ r cs ∧ as'.Forall₂ r cs' := by
  induction as generalizing bs with
  | nil => exact ⟨[], bs, rfl, .nil, h⟩
  | cons a as ih =>
    cases h with
    | cons hb h =>
      obtain ⟨cs, cs', rfl, hcs, hcs'⟩ := ih h
      exact ⟨_ :: cs, cs', rfl, .cons hb hcs, hcs'⟩

theorem ne_nil_of_mem_portions {α : Type} {size : Nat} {xs part : List α}
    (h : part ∈ portions size xs) :
    part ≠ [] := by
  fun_induction portions size xs with
  | case1 => cases h
  | case2 x xs ih =>
    rcases List.mem_cons.mp h with rfl | h
    · exact List.cons_ne_nil _ _
    · exact ih h

namespace Batch

/-- The text of a program is read as before when records have been written. -/
theorem Enters.of_writes (h : b.Enters c files name entry)
    (hw : Files.Writes q (b.recordNames day) files done) (ha : files.Accepts q (b.recordNames day))
    (hname : isProgramName name = true) : b.Enters c done name entry := by
  obtain ⟨text, fields, hload, hrun, rfl⟩ := h
  have hnot_root : Path.isRoot name = false := by
    cases hroot : Path.isRoot name with
    | false => rfl
    | true =>
      simp only [Path.isRoot, Bool.or_eq_true, beq_iff_eq] at hroot
      rcases hroot with rfl | rfl <;> cases hname
  obtain ⟨before, htext⟩ := Path.exists_text_concat hnot_root b.home
  obtain ⟨head, htm⟩ := List.isSuffixOf_iff_suffix.mp hname
  rw [← htm, ← List.append_assoc] at htext
  obtain ⟨part, hpart, hsuffix⟩ :=
    Path.exists_last_step (by decide : ['.', 't', 'm'] ≠ []) (by decide) (before ++ head)
  rw [← htext] at hpart
  refine ⟨text, fields, hw.load ha hload fun record hrecord hlast => ?_, hrun, rfl⟩
  rw [hpart] at hlast
  cases hlast
  exact not_mem_recordNames (List.isSuffixOf_iff_suffix.mpr hsuffix) hrecord

theorem enters_of_writes (h : names.Forall₂ (b.Enters c files) entries)
    (hw : Files.Writes q (b.recordNames day) files done) (ha : files.Accepts q (b.recordNames day))
    (hnames : ∀ name ∈ names, isProgramName name = true) :
    names.Forall₂ (b.Enters c done) entries := by
  induction h with
  | nil => exact .nil
  | cons hentry _ ih =>
    obtain ⟨hname, hnames⟩ := List.forall_mem_cons.mp hnames
    exact .cons (hentry.of_writes hw ha hname) (ih hnames)

theorem programs_of_enters (h : names.Forall₂ (b.Enters c files) entries) :
    entries.map (fun e => e.get? "program") = names.map fun name => some (.str name) := by
  induction h with
  | nil => rfl
  | cons hentry _ ih => rw [List.map_cons, List.map_cons, hentry.program, ih]

/-- The files of the statuses gain entries that come in portions. -/
def Gains (b : Batch) (day : String) (q : Path) (cut : List (List Fields))
    (files done : Files) : Prop :=
  ∀ v ≠ .main, done.read? (q ++ [b.volumeName day v]) =
    Journal.grown (files.read? (q ++ [b.volumeName day v])) (cut.flatMap (Journal.share · v))

theorem Gains.refl : b.Gains day q [] files files := fun _ _ => Journal.grown_nil.symm

theorem Gains.append (h : b.Gains day q cut files mid) (hmore : b.Gains day q more mid done) :
    b.Gains day q (cut ++ more) files done := by
  intro v hv
  rw [hmore v hv, h v hv, Journal.grown_grown, List.flatMap_append]

/-- The entries of a portion are filed, and then its names. -/
theorem portion_filed (hb : b.Proper day) (hs : b.Stands day q handled returned files)
    (hne : names ≠ [])
    (h : names.Forall₂ (b.Enters c files) entries) : ∃ mid done,
      (b.journal day).file files entries = (mid, .ok ()) ∧
        mid.save b.checkpoint.text (checkpointText (handled ++ names)) = .ok done ∧
          b.Stands day q (handled ++ names) (returned ++ entries) done ∧
          b.Gains day q [entries] files done ∧
            Files.Writes q (b.recordNames day) files done := by
  obtain ⟨mid, hfile, hvolumes, hkind, hmain⟩ :=
    Journal.file_ok (journal_opened hb hs.found hs.free) (badStatus?_of_enters h)
  have hwrites : Files.Writes q (b.recordNames day) files mid :=
    hvolumes.subset (List.subset_cons_self _ _)
  have haccepts := hwrites.accepts hs.accepts
  have hlocates := checkpoint_locates hb ((hwrites.find_folder_iff hs.accepts).mpr hs.found)
  have hall : Files.Writes q (b.recordNames day) files
      (mid.write (q ++ [b.checkpointName]) (checkpointText (handled ++ names))) :=
    .write _ hwrites List.mem_cons_self
  have hnonempty : handled ++ names ≠ [] := by simp [hne]
  have hother : ∀ v, q ++ [b.checkpointName] ≠ q ++ [b.volumeName day v] := by
    intro v hsame
    have hmem : b.volumeName day v ∈ b.volumeNames day := List.mem_map_of_mem v.mem_all
    rw [← List.singleton_inj.mp (List.append_cancel_left hsame)] at hmem
    exact checkpointName_not_mem hmem
  refine ⟨mid, _, hfile, hlocates.save (haccepts.free _ List.mem_cons_self) _, ?_,
    fun v hv => ?_, hall⟩
  · refine ⟨(hall.find_folder_iff hs.accepts).mpr hs.found,
      (hall.accepts hs.accepts).free, ?_, ?_, ?_⟩
    · rw [Files.read?_write, if_pos rfl, if_neg hnonempty]
    · rw [Files.read?_write, if_neg (hother .main), hmain, if_neg hnonempty, hs.held_main,
        Journal.linesOf_append]
    · rw [List.map_append, List.map_append, hs.paired, programs_of_enters h]
  · rw [Files.read?_write, if_neg (hother v), hkind v hv, List.flatMap_singleton]

theorem runPortions_nil (b : Batch) (j : Journal) (files : Files) (done : Json) :
    b.runPortions j files done [] = (files, .ok []) := rfl

-- Unfolding `runPortions` by its own equations does not end, since these look into the files.
theorem runPortions_cons (b : Batch) (j : Journal) (files : Files) (done : Json)
    (names : List String)
    (more : List (List String)) : b.runPortions j files done (names :: more) =
      match b.portion files done names with
      | .error e => (files, .error e)
      | .ok (entries, all) =>
        match j.file files entries with
        | (files, .error e) => (files, .error (.journal e))
        | (files, .ok ()) =>
          match files.save b.checkpoint.text (Json.obj [("completed", .arr all)]).pretty with
          | .error e => (files, .error (.file e))
          | .ok files =>
            match b.runPortions j files (.arr all) more with
            | (files, .ok rest) => (files, .ok (entries ++ rest))
            | (files, .error e) => (files, .error e) := (rfl)

/-- Portions are run one after the other, and the records stand for all of their programs. -/
theorem runPortions_ok (hb : b.Proper day) (hs : b.Stands day q handled returned files)
    (hwork : ∀ names ∈ work, names ≠ [])
    (hnames : ∀ name ∈ work.flatten, isProgramName name = true)
    (h : work.flatten.Forall₂ (b.Enters c files) entries) : ∃ done cut,
      (b.asked c).runPortions (b.journal day) files (.arr (strings handled)) work =
        (done, .ok entries) ∧
        b.Stands day q (handled ++ work.flatten) (returned ++ entries) done ∧
          cut.flatten = entries ∧ b.Gains day q cut files done ∧
            Files.Writes q (b.recordNames day) files done := by
  induction work generalizing files handled returned entries with
  | nil =>
    cases h
    exact ⟨files, [], runPortions_nil .., by simpa using hs, rfl, .refl, .refl⟩
  | cons names work ih =>
    rw [List.flatten_cons] at h hnames
    obtain ⟨first, others, rfl, hfirst, hothers⟩ := exists_append_of_forall₂ h
    obtain ⟨mid, next, hfile, hsave, hnext, hgains, hwrites⟩ :=
      portion_filed hb hs (hwork names List.mem_cons_self) hfirst
    have hmore : ∀ name ∈ work.flatten, isProgramName name = true :=
      fun name hname => hnames name (List.mem_append_right _ hname)
    have hothers := enters_of_writes hothers hwrites hs.accepts hmore
    obtain ⟨done, cut, hrun, hdone, hcut, hgains', hwrites'⟩ :=
      ih hnext (fun names hnames => hwork names (List.mem_cons_of_mem _ hnames)) hmore hothers
    refine ⟨done, first :: cut, ?_, by simpa using hdone, by rw [List.flatten_cons, hcut],
      hgains.append hgains', hwrites.trans hwrites'⟩
    have hportion := portion_of_enters hfirst handled
    have hsave' : mid.save (b.asked c).checkpoint.text
        (Json.obj [(Letters.ofString "completed", .arr (strings (handled ++ names)))]).pretty =
          .ok next := hsave
    rw [runPortions_cons, hportion]
    simp only [hfile, hsave', hrun]

end Batch

end TapeMachine
