import TapeMachine.Proofs.Files.Walks

/-! The texts of paths, and the places that they stand for. -/
namespace TapeMachine

open Text (Letters)

/-- A text that can be walked as a path. -/
def IsPathText (s : String) : Prop := '\x00' ∉ s.toList ∧ s ≠ "" ∧ byteCount s < pathBound

/-- A text that a file within a folder can have as its name. -/
structure IsFileName (s : String) : Prop where
  nonempty : s ≠ ""
  slashless : '/' ∉ s.toList
  nonzero : '\x00' ∉ s.toList
  not_dot : s ≠ "."
  not_up : s ≠ ".."
  short : byteCount s ≤ longestPart

theorem IsFileName.not_isRoot {name : String} (h : IsFileName name) : Path.isRoot name = false := by
  simp only [Path.isRoot, Bool.or_eq_false_iff, beq_eq_false_iff_ne]
  constructor
  · rintro rfl
    exact h.slashless (by decide)
  · rintro rfl
    exact h.slashless (by decide)

/-- A name is a path of one part. -/
theorem IsFileName.parse {name : String} (h : IsFileName name) : Path.parse name = [name] := by
  have hroot : Path.root? name.toList = none := by
    have hslash := h.slashless
    rw [Path.root?]
    cases hchars : name.toList with
    | nil => rfl
    | cons c cs =>
      rw [hchars, List.mem_cons, not_or] at hslash
      rw [List.takeWhile_cons_of_neg (by simpa using Ne.symm hslash.1)]
      rfl
  rw [Path.parse, hroot, Path.steps_of_plain h.slashless h.nonempty]
  simp [h.not_dot]

namespace Route

/-- The route along the parts of a text. -/
def along (s : String) : Route :=
  ⟨s, if s.toList.head? = some '/' then ["/"] else [], Path.steps s.toList,
    s.toList.getLast? = some '/'⟩

theorem refuseHalves_chars (index : Nat) (cs : List Char) :
    refuseHalves index (cs.map .char) = .ok () := by
  induction cs generalizing index with
  | nil => rfl
  | cons c cs ih => exact ih (index + 1)

theorem of_eq (s : String) : Route.of s =
    if '\x00' ∈ s.toList then .error .nullByte
    else if s = "" then .error (.missing "")
    else if byteCount s ≥ pathBound then .error (.tooLong s)
    else .ok (along s) := by
  have hhalves : refuseHalves 0 (Letters.ofString s) = .ok () := refuseHalves_chars 0 s.toList
  unfold Route.of along
  rw [hhalves, Text.chars_ofString]
  by_cases hzero : '\x00' ∈ s.toList
  · simp [hzero, bind, Except.bind, throw, throwThe, MonadExceptOf.throw]
  · by_cases hempty : s = ""
    · simp [hempty, bind, Except.bind, throw, throwThe, MonadExceptOf.throw]
    · by_cases hlong : byteCount s ≥ pathBound
      · simp [hzero, hempty, hlong, bind, Except.bind, throw, throwThe, MonadExceptOf.throw]
      · simp [hzero, hempty, hlong, bind, Except.bind, pure, Except.pure]

theorem of_eq_ok_iff {s : String} {r : Route} : Route.of s = .ok r ↔
    IsPathText s ∧ r = along s := by
  rw [of_eq]
  unfold IsPathText
  by_cases hzero : '\x00' ∈ s.toList
  · simp [hzero]
  · by_cases hempty : s = ""
    · simp [hempty]
    · by_cases hlong : byteCount s ≥ pathBound
      · have hnot : ¬ byteCount s < pathBound := by omega
        simp [hzero, hempty, hlong, hnot]
      · have hshort : byteCount s < pathBound := by omega
        simp [hzero, hempty, hlong, hshort, eq_comm]

end Route

namespace Files

variable {files other : Files} {s t name text : String} {q : Path}

theorem find_of_isPathText (h : IsPathText s) : files.find s = files.walk s (Route.along s).start
    ((Route.along s).parts ++ if (Route.along s).toFolder then ["."] else []) := by
  rw [find, Route.of_eq_ok_iff.mpr ⟨h, rfl⟩]
  rfl

theorem isPathText_of_find {spot : Spot} (h : files.find s = .ok spot) : IsPathText s := by
  cases hroute : Route.of s with
  | error e =>
    rw [find, hroute] at h
    cases h
  | ok r => exact (Route.of_eq_ok_iff.mp hroute).1

/-- A text names a folder if its parts lead there. -/
theorem find_eq_folder_iff : files.find s = .ok (.folder q) ↔
    IsPathText s ∧ files.Leads (Route.along s).start (Route.along s).parts q := by
  constructor
  · intro h
    have htext := isPathText_of_find h
    rw [find_of_isPathText htext, walk_eq_folder_iff] at h
    refine ⟨htext, ?_⟩
    split at h
    · exact leads_concat_dot.mp h
    · rwa [List.append_nil] at h
  · rintro ⟨htext, hleads⟩
    rw [find_of_isPathText htext, walk_eq_folder_iff]
    split
    · exact leads_concat_dot.mpr hleads
    · rwa [List.append_nil]

theorem find_folder_mono (h : files.find s = .ok (.folder q))
    (hspot : ∀ path, files.spot path = .folder path → other.spot path = .folder path) :
    other.find s = .ok (.folder q) := by
  obtain ⟨htext, hleads⟩ := find_eq_folder_iff.mp h
  exact find_eq_folder_iff.mpr ⟨htext, hleads.mono hspot⟩

theorem find_tooLong_mono {long : String} (h : files.find s = .error (.tooLong long))
    (hspot : ∀ path, files.spot path = .folder path → other.spot path = .folder path) :
    other.find s = .error (.tooLong long) := by
  cases hroute : Route.of s with
  | error e =>
    rw [find, hroute] at h ⊢
    exact h
  | ok r =>
    obtain ⟨htext, -⟩ := Route.of_eq_ok_iff.mp hroute
    rw [find_of_isPathText htext] at h ⊢
    exact walk_tooLong_mono h hspot

/-- A text stands for a name in a folder. -/
structure Locates (files : Files) (s : String) (q : Path) (name : String) : Prop where
  isPathText : IsPathText s
  isFileName : IsFileName name
  not_toFolder : (Route.along s).toFolder = false
  leads : ∃ parts, (Route.along s).parts = parts ++ [name] ∧
    files.Leads (Route.along s).start parts q

namespace Locates

theorem walk (h : files.Locates s q name) :
    files.walk s (Route.along s).start (Route.along s).parts = .ok (files.spot (q ++ [name])) := by
  obtain ⟨parts, hparts, hleads⟩ := h.leads
  rw [hparts, hleads.walk_append,
    walk_last h.isFileName.not_dot h.isFileName.not_up h.isFileName.short]

theorem find (h : files.Locates s q name) : files.find s = .ok (files.spot (q ++ [name])) := by
  rw [find_of_isPathText h.isPathText, h.not_toFolder, if_neg (by decide), List.append_nil, h.walk]

theorem target (h : files.Locates s q name)
    (hfree : ∀ path, files.spot (q ++ [name]) ≠ .folder path) :
    files.target s = .ok (q ++ [name]) := by
  unfold Files.target
  rw [Route.of_eq_ok_iff.mpr ⟨h.isPathText, rfl⟩]
  simp only [bind, Except.bind, h.not_toFolder, Bool.false_eq_true, if_false]
  have hwalk : files.walk (Route.along s).given (Route.along s).start (Route.along s).parts = _ :=
    h.walk
  rw [hwalk]
  cases hspot : files.spot (q ++ [name]) with
  | folder path => exact (hfree path hspot).elim
  | text path text =>
    rw [(read?_of_spot hspot).1]
    rfl
  | free path =>
    rw [(free_of_spot hspot).1]
    rfl

theorem save (h : files.Locates s q name) (hfree : ∀ path, files.spot (q ++ [name]) ≠ .folder path)
    (text : String) : files.save s text = .ok (files.write (q ++ [name]) text) := by
  rw [Files.save, h.target hfree]
  rfl

theorem load (h : files.Locates s q name) (hread : files.read? (q ++ [name]) = some text) :
    files.load s = .ok text := by
  rw [Files.load, h.find, spot_of_read? hread]
  rfl

theorem not_loaded (h : files.Locates s q name) {path : Path}
    (hspot : files.spot (q ++ [name]) = .free path) :
    ∃ e, files.load s = .error e := by
  rw [Files.load, h.find, hspot]
  exact ⟨_, rfl⟩

end Locates

/-- How the text of a folder goes on to that of a name in it. -/
inductive Continues (folder name : String) : String → Prop
  | slash : Continues folder name (folder ++ "/" ++ name)
  /-- The folder is a root. -/
  | root : folder.toList.getLast? = some '/' → Continues folder name (folder ++ name)
  /-- The folder is the one that walks start from. -/
  | here : folder = "." → Continues folder name name

theorem Continues.byteCount_le (h : Continues s name t) :
    byteCount t ≤ byteCount s + 1 + byteCount name := by
  cases h with
  | slash =>
    have hbytes : byteCount (s ++ "/" ++ name) = byteCount s + byteCount "/" + byteCount name := by
      simp [byteCount, String.utf8ByteSize_append]
    have hslash : byteCount "/" = 1 := by decide
    omega
  | root =>
    have hbytes : byteCount (s ++ name) = byteCount s + byteCount name := by
      simp [byteCount, String.utf8ByteSize_append]
    omega
  | here => omega

theorem not_toFolder_append (h : IsFileName name) (s : String) :
    (Route.along (s ++ name)).toFolder = false := by
  have hne : name.toList ≠ [] := by simpa using h.nonempty
  have hlast : name.toList.getLast hne ≠ '/' := fun he => h.slashless (he ▸ List.getLast_mem hne)
  simp [Route.along, List.getLast?_append, List.getLast?_eq_some_getLast hne, hlast]

theorem start_append (h : s ≠ "") (t : String) :
    (Route.along (s ++ t)).start = (Route.along s).start := by
  have hne : s.toList ≠ [] := by simpa using h
  simp [Route.along, List.head?_append, List.head?_eq_some_head hne]

/-- Within a folder that a text names, a longer text stands for a name. -/
theorem locates_of_continues (hfolder : files.find s = .ok (.folder q)) (hname : IsFileName name)
    (ht : Continues s name t) (hshort : byteCount t < pathBound) : files.Locates t q name := by
  obtain ⟨⟨hzero, hne, -⟩, hleads⟩ := find_eq_folder_iff.mp hfolder
  have hsteps := Path.steps_of_plain hname.slashless hname.nonempty
  have hname_zero := hname.nonzero
  cases ht with
  | slash =>
    have hparts : (Route.along (s ++ "/" ++ name)).parts = (Route.along s).parts ++ [name] := by
      have htext : (s ++ "/" ++ name).toList = s.toList ++ '/' :: name.toList := by simp
      rw [Route.along, htext, Path.steps_append, hsteps]
      rfl
    have hstart : (Route.along (s ++ "/" ++ name)).start = (Route.along s).start := by
      rw [String.append_assoc, start_append hne]
    refine ⟨⟨by simp [hzero, hname_zero], by simp, hshort⟩, hname, not_toFolder_append hname _,
      _, hparts, hstart ▸ hleads⟩
  | root hslash =>
    obtain ⟨cs, hcs⟩ := List.getLast?_eq_some_iff.mp hslash
    have hparts : (Route.along (s ++ name)).parts = (Route.along s).parts ++ [name] := by
      have htext : (s ++ name).toList = cs ++ '/' :: name.toList := by simp [hcs]
      rw [Route.along, Route.along, htext, hcs, Path.steps_append, Path.steps_append, hsteps]
      simp [Path.steps, Path.partsFrom]
    refine ⟨⟨by simp [hzero, hname_zero], by simp [hne], hshort⟩, hname,
      not_toFolder_append hname _, _, hparts, start_append hne name ▸ hleads⟩
  | here hs =>
    subst hs
    have hq : q = [] := by
      have hnil : files.Leads [] ([] ++ ["."]) q := hleads
      rw [leads_concat_dot] at hnil
      cases hnil
      rfl
    subst hq
    have hstart : (Route.along t).start = [] :=
      if_neg fun hhead => hname.slashless (List.mem_of_mem_head? hhead)
    have hend := not_toFolder_append hname ""
    rw [String.empty_append] at hend
    refine ⟨⟨hname_zero, hname.nonempty, hshort⟩, hname, hend, [], hsteps, ?_⟩
    rw [hstart]
    exact .nil

end Files

theorem PathText.join_eq {folder name : String} (hfolder : folder ≠ "") (hname : IsFileName name) :
    ∃ t : String, PathText.join folder name = Letters.ofString t ∧
    Files.Continues folder name t := by
  have hne : folder.toList ≠ [] := by simpa using hfolder
  have hfile : (Letters.ofString name).head? ≠ some slash := by
    intro hhead
    rw [Letters.ofString, List.head?_map, Option.map_eq_some_iff] at hhead
    obtain ⟨c, hc, hslash⟩ := hhead
    cases hslash
    exact hname.slashless (List.mem_of_mem_head? hc)
  have hempty : (Letters.ofString folder).isEmpty = false := by simp [Letters.ofString, hfolder]
  rw [PathText.join, if_neg hfile, hempty, Bool.false_or]
  by_cases hlast : folder.toList.getLast? = some '/'
  · refine ⟨folder ++ name, ?_, .root hlast⟩
    rw [if_pos (by simp [Letters.ofString, hlast, slash])]
    simp [Letters.ofString]
  · refine ⟨folder ++ "/" ++ name, ?_, .slash⟩
    rw [if_neg (by simp [Letters.ofString, hlast, slash])]
    simp [Letters.ofString, slash]

theorem Names.joined_concat (separator first last : String) (others : List String) :
    joined separator (first :: (others ++ [last])) =
      joined separator (first :: others) ++ separator ++ last := by
  have hcons :
      ∀ x y ys, joined separator (x :: y :: ys) = x ++ separator ++ joined separator (y :: ys) :=
    fun _ _ _ => String.intercalate_cons_cons
  induction others generalizing first with
  | nil => rw [List.nil_append, hcons]; simp [joined]
  | cons x others ih =>
    rw [List.cons_append, hcons, ih, hcons]
    simp only [String.append_assoc]

/-- The text of a path ends with its last part. -/
theorem Path.exists_text_concat {name : String} (hname : isRoot name = false) (p : Path) :
    ∃ before, (Path.text (p ++ [name])).toList = before ++ name.toList := by
  match p with
  | [] => exact ⟨[], by simp [Path.text, hname, Names.joined]⟩
  | root :: parts =>
    rw [List.cons_append, Path.text]
    split
    · cases parts with
      | nil => exact ⟨root.toList, by simp [Names.joined]⟩
      | cons x parts =>
        rw [List.cons_append, Names.joined_concat, ← String.append_assoc, String.toList_append]
        exact ⟨_, rfl⟩
    · rw [Names.joined_concat, String.toList_append]
      exact ⟨_, rfl⟩

theorem Path.text_concat {name : String} (hname : IsFileName name) (p : Path) :
    Files.Continues p.text name (Path.text (p ++ [name])) := by
  have hroot := hname.not_isRoot
  match p with
  | [] =>
    have htext : Path.text [name] = name := by simp [Path.text, hroot, Names.joined]
    rw [List.nil_append, htext]
    exact .here rfl
  | root :: parts =>
    rw [Path.text, List.cons_append, Path.text]
    by_cases hr : isRoot root = true
    · rw [if_pos hr, if_pos hr]
      cases parts with
      | nil =>
        have hslash : (root ++ Names.joined "/" []).toList.getLast? = some '/' := by
          simp only [isRoot, Bool.or_eq_true, beq_iff_eq] at hr
          rcases hr with rfl | rfl <;> rfl
        have hsame :
            root ++ Names.joined "/" ([] ++ [name]) = root ++ Names.joined "/" [] ++ name := by
          simp [Names.joined]
        rw [hsame]
        exact .root hslash
      | cons x parts =>
        rw [List.cons_append, Names.joined_concat, ← String.append_assoc, ← String.append_assoc]
        exact .slash
    · rw [if_neg hr, if_neg hr, Names.joined_concat]
      exact .slash

end TapeMachine
