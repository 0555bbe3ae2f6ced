import TapeMachine.Files.Access

/-! Which folders the parts of a path lead through, and what they find in the last one. -/
namespace TapeMachine

open Text (Letters)

namespace Path

theorem partsFrom_append (part as bs : List Char) :
    partsFrom part (as ++ '/' :: bs) = partsFrom part as ++ partsFrom [] bs := by
  induction as generalizing part with
  | nil => rfl
  | cons a as ih =>
    rw [List.cons_append, partsFrom, partsFrom]
    split
    · rw [ih, List.cons_append]
    · exact ih _

theorem steps_append (as bs : List Char) : steps (as ++ '/' :: bs) = steps as ++ steps bs := by
  rw [steps, partsFrom_append, List.filter_append, List.map_append]
  rfl

theorem partsFrom_of_plain {cs : List Char} (h : '/' ∉ cs) (part : List Char) :
    partsFrom part cs = [part.reverse ++ cs] := by
  induction cs generalizing part with
  | nil => simp [partsFrom]
  | cons c cs ih =>
    rw [List.mem_cons, not_or] at h
    rw [partsFrom, if_neg (Ne.symm h.1), ih h.2]
    simp

/-- A name without slashes is one part. -/
theorem steps_of_plain {name : String} (h : '/' ∉ name.toList) (hne : name ≠ "") :
    steps name.toList = [name] := by
  simp [steps, partsFrom_of_plain h, hne]

/-- Slashless characters at the end of a text are at the end of its last part. -/
theorem exists_last_step {cs : List Char} (hne : cs ≠ []) (h : '/' ∉ cs) (before : List Char) :
    ∃ part, (steps (before ++ cs)).getLast? = some part ∧ cs <:+ part.toList := by
  have hparts : ∀ part, ∃ parts head, partsFrom part (before ++ cs) = parts ++ [head ++ cs] := by
    induction before with
    | nil => exact fun part => ⟨[], part.reverse, partsFrom_of_plain h part⟩
    | cons c before ih =>
      intro part
      rw [List.cons_append, partsFrom]
      split
      · obtain ⟨parts, head, hparts⟩ := ih []
        exact ⟨part.reverse :: parts, head, by rw [hparts, List.cons_append]⟩
      · exact ih (c :: part)
  obtain ⟨parts, head, hparts⟩ := hparts []
  have hlast : ([head ++ cs].filter fun part => !part.isEmpty) = [head ++ cs] := by simp [hne]
  refine ⟨String.ofList (head ++ cs), ?_, head, by rw [String.toList_ofList]⟩
  rw [steps, hparts, List.filter_append, hlast, List.map_append, List.map_singleton,
    List.getLast?_concat]

end Path

namespace Files

variable {files other : Files} {given : String} {here q path : Path} {part name : String}
  {parts more : List String}

/-- Parts lead from one folder to another. -/
inductive Leads (files : Files) : Path → List String → Path → Prop
  | nil {here : Path} : Leads files here [] here
  | dot {here q : Path} {parts : List String} : Leads files here parts q →
      Leads files here ("." :: parts) q
  | up {here q : Path} {parts : List String} :
      Leads files (if here.all (· == "..") then here ++ [".."] else here.parent) parts q →
      Leads files here (".." :: parts) q
  | down {here q : Path} {part : String} {parts : List String} : part ≠ "." → part ≠ ".." →
      byteCount part ≤ longestPart → files.spot (here ++ [part]) = .folder (here ++ [part]) →
      Leads files (here ++ [part]) parts q → Leads files here (part :: parts) q

theorem eq_of_spot {next : Path} (h : files.spot path = .folder next) : next = path := by
  unfold spot at h
  split at h
  · cases h
  · split at h
    · exact (Spot.folder.inj h).symm
    · cases h

theorem read?_of_spot {found : Path} {text : String} (h : files.spot path = .text found text) :
    found = path ∧ files.read? path = some text := by
  unfold spot at h
  split at h
  · next hread =>
    cases h
    exact ⟨rfl, hread⟩
  · split at h <;> cases h

theorem spot_of_read? {text : String} (h : files.read? path = some text) :
    files.spot path = .text path text := by
  rw [spot, h]

theorem free_of_spot {found : Path} (h : files.spot path = .free found) :
    found = path ∧ files.read? path = none := by
  unfold spot at h
  split at h
  · cases h
  · next hread =>
    split at h
    · cases h
    · cases h
      exact ⟨rfl, hread⟩

theorem free_of_read? (h : files.read? path = none)
    (hfolder : ∀ found, files.spot path ≠ .folder found) :
    ∃ found, files.spot path = .free found := by
  cases hspot : files.spot path with
  | folder found => exact (hfolder found hspot).elim
  | text found text =>
    obtain ⟨-, htext⟩ := read?_of_spot hspot
    rw [h] at htext
    cases htext
  | free found => exact ⟨found, rfl⟩

theorem walk_dot : files.walk given here ("." :: parts) = files.walk given here parts := by
  rw [walk.eq_def]
  dsimp only
  rw [if_pos rfl]

theorem walk_up : files.walk given here (".." :: parts) =
    files.walk given (if here.all (· == "..") then here ++ [".."] else here.parent) parts := by
  rw [walk.eq_def]
  dsimp only
  rw [if_neg (by decide), if_pos rfl]

theorem walk_down (hdot : part ≠ ".") (hup : part ≠ "..") (hlong : byteCount part ≤ longestPart)
    (hspot : files.spot (here ++ [part]) = .folder (here ++ [part])) :
    files.walk given here (part :: parts) = files.walk given (here ++ [part]) parts := by
  rw [walk.eq_def]
  dsimp only
  rw [if_neg hdot, if_neg hup, if_neg (by omega), hspot]

/-- With its last part a walk finds what is there. -/
theorem walk_last (hdot : part ≠ ".") (hup : part ≠ "..") (hlong : byteCount part ≤ longestPart) :
    files.walk given here [part] = .ok (files.spot (here ++ [part])) := by
  rw [walk.eq_def]
  dsimp only
  rw [if_neg hdot, if_neg hup, if_neg (by omega)]
  split
  · next next hspot =>
    rw [hspot, walk, eq_of_spot hspot]
  · rfl
  · contradiction
  · contradiction

theorem Leads.append {mid : Path} (h : Leads files here parts mid)
    (hmore : Leads files mid more q) :
    Leads files here (parts ++ more) q := by
  induction h with
  | nil => exact hmore
  | dot _ ih => exact .dot (ih hmore)
  | up _ ih => exact .up (ih hmore)
  | down hdot hup hlong hspot _ ih => exact .down hdot hup hlong hspot (ih hmore)

theorem Leads.split (h : Leads files here (parts ++ more) q) :
    ∃ mid, Leads files here parts mid ∧ Leads files mid more q := by
  induction parts generalizing here with
  | nil => exact ⟨here, .nil, h⟩
  | cons part parts ih =>
    cases h with
    | dot h =>
      obtain ⟨mid, hparts, hmore⟩ := ih h
      exact ⟨mid, .dot hparts, hmore⟩
    | up h =>
      obtain ⟨mid, hparts, hmore⟩ := ih h
      exact ⟨mid, .up hparts, hmore⟩
    | down hdot hup hlong hspot h =>
      obtain ⟨mid, hparts, hmore⟩ := ih h
      exact ⟨mid, .down hdot hup hlong hspot hparts, hmore⟩

/-- A dot at the end leads nowhere else. -/
theorem leads_concat_dot : Leads files here (parts ++ ["."]) q ↔ Leads files here parts q := by
  constructor
  · intro h
    obtain ⟨mid, hparts, hdot⟩ := h.split
    generalize hpart : "." = part at hdot
    cases hdot with
    | dot hnil =>
      cases hnil
      exact hparts
    | up => exact absurd hpart (by decide)
    | down hne => exact (hne hpart.symm).elim
  · intro h
    exact h.append (.dot .nil)

theorem Leads.walk_append (h : Leads files here parts q) (given : String) (more : List String) :
    files.walk given here (parts ++ more) = files.walk given q more := by
  induction h with
  | nil => rfl
  | dot _ ih => rw [List.cons_append, walk_dot, ih]
  | up _ ih => rw [List.cons_append, walk_up, ih]
  | down hdot hup hlong hspot _ ih => rw [List.cons_append, walk_down hdot hup hlong hspot, ih]

theorem walk_eq_folder_iff : files.walk given here parts = .ok (.folder q) ↔
    Leads files here parts q := by
  constructor
  · intro h
    fun_induction files.walk given here parts with
    | case1 here =>
      cases h
      exact .nil
    | case2 here parts ih => exact .dot (ih h)
    | case3 here parts _ ih => exact .up (ih h)
    | case5 here part hdot hup hlong next parts hspot ih =>
      obtain rfl := eq_of_spot hspot
      exact .down hdot hup (by omega) hspot (ih h)
    | case6 here part _ _ _ hspot => exact (hspot q (Except.ok.inj h)).elim
    | _ => cases h
  · intro h
    have hwalk := h.walk_append given []
    rw [List.append_nil] at hwalk
    rw [hwalk, walk]

/-- A walk that does not end in a folder has walked through folders up to what it found. -/
theorem walk_eq_found {found : Spot} (h : files.walk given here parts = .ok found)
    (hfound : ∀ path, found ≠ .folder path) :
    ∃ before part mid, parts = before ++ [part] ∧ Leads files here before mid ∧ part ≠ "." ∧
      part ≠ ".." ∧ byteCount part ≤ longestPart ∧ files.spot (mid ++ [part]) = found := by
  fun_induction files.walk given here parts with
  | case1 here => exact (hfound here (Except.ok.inj h).symm).elim
  | case2 here parts ih =>
    obtain ⟨before, part, mid, rfl, hleads, hpart⟩ := ih h
    exact ⟨"." :: before, part, mid, rfl, .dot hleads, hpart⟩
  | case3 here parts _ ih =>
    obtain ⟨before, part, mid, rfl, hleads, hpart⟩ := ih h
    exact ⟨".." :: before, part, mid, rfl, .up hleads, hpart⟩
  | case5 here part hdot hup hlong next parts hspot ih =>
    obtain rfl := eq_of_spot hspot
    obtain ⟨before, last, mid, rfl, hleads, hlast⟩ := ih h
    exact ⟨part :: before, last, mid, rfl, .down hdot hup (by omega) hspot hleads, hlast⟩
  | case6 here part hdot hup hlong hspot =>
    exact ⟨[], part, here, rfl, .nil, hdot, hup, by omega, Except.ok.inj h⟩
  | _ => cases h

/-- Folders that are there before are there afterwards. -/
theorem Leads.mono (h : Leads files here parts q)
    (hspot : ∀ path, files.spot path = .folder path → other.spot path = .folder path) :
    Leads other here parts q := by
  induction h with
  | nil => exact .nil
  | dot _ ih => exact .dot ih
  | up _ ih => exact .up ih
  | down hdot hup hlong hfolder _ ih => exact .down hdot hup hlong (hspot _ hfolder) ih

/-- What is too long for a walk is so where there are more folders. -/
theorem walk_tooLong_mono {long : String} (h : files.walk given here parts = .error (.tooLong long))
    (hspot : ∀ path, files.spot path = .folder path → other.spot path = .folder path) :
    other.walk given here parts = .error (.tooLong long) := by
  fun_induction files.walk given here parts with
  | case2 here parts ih => rw [walk_dot, ih h]
  | case3 here parts _ ih => rw [walk_up, ih h]
  | case4 here part parts hdot hup hlong =>
    rw [← h, walk.eq_def]
    dsimp only
    rw [if_neg hdot, if_neg hup, if_pos hlong]
  | case5 here part hdot hup hlong next parts hnext ih =>
    obtain rfl := eq_of_spot hnext
    rw [walk_down hdot hup (by omega) (hspot _ hnext), ih h]
  | _ => cases h

end Files

end TapeMachine
