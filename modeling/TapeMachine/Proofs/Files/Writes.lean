import TapeMachine.Proofs.Files.Folders

/-! Files written into a folder: what else is there, and where walks lead, stays as it was. -/
namespace TapeMachine

namespace Files

variable {files mid done : Files} {p q path : Path} {name text s : String} {names : List String}

theorem mem_putText {texts : List (Path × String)} :
    p ∈ (putText path text texts).map Prod.fst ↔ p = path ∨ p ∈ texts.map Prod.fst := by
  induction texts with
  | nil => simp [putText]
  | cons x texts ih =>
    obtain ⟨k, t⟩ := x
    rw [putText]
    split
    · next hk => simp [hk]
    · rw [List.map_cons, List.mem_cons, ih, List.map_cons, List.mem_cons]
      exact or_left_comm

theorem isFolder_iff : files.isFolder path = true ↔
    (∀ part ∈ path, part = "..") ∨ path = ["/"] ∨ (∃ f ∈ files.folders, path <+: f) ∨
      ∃ k ∈ files.texts.map Prod.fst, path <+: k.dropLast := by
  simp [isFolder, or_assoc]

theorem isFolder_of_prefix (h : files.isFolder q = true) (hp : path <+: q) :
    files.isFolder path = true := by
  rw [isFolder_iff] at h ⊢
  rcases h with hup | rfl | ⟨f, hf, hq⟩ | ⟨k, hk, hq⟩
  · exact .inl fun part hpart => hup part (hp.subset hpart)
  · rcases List.prefix_cons_iff.mp hp with rfl | ⟨t, rfl, ht⟩
    · exact .inl nofun
    · obtain rfl := List.prefix_nil.mp ht
      exact .inr (.inl rfl)
  · exact .inr (.inr (.inl ⟨f, hf, hp.trans hq⟩))
  · exact .inr (.inr (.inr ⟨k, hk, hp.trans hq⟩))

theorem isFolder_of_spot (h : files.spot path = .folder path) : files.isFolder path = true := by
  unfold spot at h
  split at h
  · cases h
  · split at h
    · assumption
    · cases h

theorem Leads.isFolder {here : Path} {parts : List String} (h : files.Leads here parts q)
    (hhere : files.isFolder here = true) : files.isFolder q = true := by
  induction h with
  | nil => exact hhere
  | dot _ ih => exact ih hhere
  | @up here _ _ _ ih =>
    refine ih ?_
    split
    · next hup =>
      refine isFolder_iff.mpr (.inl fun part hpart => ?_)
      rcases List.mem_append.mp hpart with hpart | hpart
      · simpa using List.all_eq_true.mp hup part hpart
      · exact List.mem_singleton.mp hpart
    · unfold Path.parent
      split
      · exact hhere
      · exact isFolder_of_prefix hhere (List.dropLast_prefix here)
  | down _ _ _ hspot _ ih => exact ih (isFolder_of_spot hspot)

theorem isFolder_of_find (h : files.find s = .ok (.folder q)) : files.isFolder q = true := by
  obtain ⟨-, hleads⟩ := find_eq_folder_iff.mp h
  refine hleads.isFolder (isFolder_iff.mpr ?_)
  unfold Route.along
  dsimp only
  split
  · exact .inr (.inl rfl)
  · exact .inl nofun

theorem read?_eq_of_spot {other : Files} (h : other.spot path = files.spot path) :
    other.read? path = files.read? path := by
  cases hread : files.read? path with
  | some text =>
    rw [spot_of_read? hread] at h
    exact (read?_of_spot h).2
  | none =>
    cases hother : other.read? path with
    | none => rfl
    | some text =>
      rw [spot_of_read? hother] at h
      exact (read?_of_spot h.symm).2.symm.trans hread

theorem isFolder_write (h : files.isFolder q = true) (path : Path) (name text : String) :
    (files.write (q ++ [name]) text).isFolder path = files.isFolder path := by
  rw [Bool.eq_iff_iff]
  constructor
  · intro hpath
    rw [isFolder_iff] at hpath
    rcases hpath with hup | rfl | hf | ⟨k, hk, hp⟩
    · exact isFolder_iff.mpr (.inl hup)
    · exact isFolder_iff.mpr (.inr (.inl rfl))
    · exact isFolder_iff.mpr (.inr (.inr (.inl hf)))
    · rcases mem_putText.mp hk with rfl | hk
      · rw [List.dropLast_concat] at hp
        exact isFolder_of_prefix h hp
      · exact isFolder_iff.mpr (.inr (.inr (.inr ⟨k, hk, hp⟩)))
  · intro hpath
    rw [isFolder_iff] at hpath ⊢
    rcases hpath with hup | hroot | hf | ⟨k, hk, hp⟩
    · exact .inl hup
    · exact .inr (.inl hroot)
    · exact .inr (.inr (.inl hf))
    · exact .inr (.inr (.inr ⟨k, mem_putText.mpr (.inr hk), hp⟩))

theorem spot_write_same (path : Path) (text : String) :
    (files.write path text).spot path = .text path text := by
  rw [spot, read?_write, if_pos rfl]

theorem spot_write_other (h : files.isFolder q = true) (hne : path ≠ q ++ [name]) (text : String) :
    (files.write (q ++ [name]) text).spot path = files.spot path := by
  rw [spot, read?_write, if_neg (Ne.symm hne), isFolder_write h, spot]

theorem mem_namesIn : name ∈ files.namesIn p ↔
    ∃ rest, p ++ name :: rest ∈ files.texts.map Prod.fst ++ files.folders := by
  rw [namesIn, Names.mem_sorted, List.mem_filterMap]
  constructor
  · rintro ⟨path, hpath, hname⟩
    split at hname
    · next hp =>
      obtain ⟨rest, rfl⟩ := List.isPrefixOf_iff_prefix.mp hp
      rw [List.drop_left] at hname
      obtain ⟨tail, rfl⟩ := List.head?_eq_some_iff.mp hname
      exact ⟨tail, hpath⟩
    · cases hname
  · rintro ⟨rest, hpath⟩
    refine ⟨_, hpath, ?_⟩
    rw [if_pos (List.isPrefixOf_iff_prefix.mpr (List.prefix_append _ _)), List.drop_left]
    rfl

theorem mem_namesIn_of_isFolder {x : String} {rest : Path}
    (h : files.isFolder (p ++ x :: rest) = true) :
    x ∈ files.namesIn p ∨ x = ".." ∨ x = "/" := by
  rcases isFolder_iff.mp h with hup | hroot | ⟨f, hf, more, rfl⟩ | ⟨k, hk, hp⟩
  · exact .inr (.inl (hup x (by simp)))
  · cases p with
    | nil => exact .inr (.inr (List.cons.inj hroot).1)
    | cons y p => cases p <;> cases (List.cons.inj hroot).2
  · refine .inl (mem_namesIn.mpr ⟨rest ++ more, ?_⟩)
    rw [List.append_assoc, List.cons_append] at hf
    exact List.mem_append_right _ hf
  · obtain ⟨more, rfl⟩ := hp.trans (List.dropLast_prefix k)
    refine .inl (mem_namesIn.mpr ⟨rest ++ more, ?_⟩)
    rw [List.append_assoc, List.cons_append] at hk
    exact List.mem_append_left _ hk

theorem mem_of_read? (h : files.read? path = some text) : path ∈ files.texts.map Prod.fst := by
  have hget : ∀ texts, getText? path texts = some text → path ∈ texts.map Prod.fst := by
    intro texts hget
    induction texts with
    | nil => cases hget
    | cons x texts ih =>
      obtain ⟨k, t⟩ := x
      rw [getText?] at hget
      split at hget
      · next hk => simp [hk]
      · exact List.mem_cons_of_mem _ (ih hget)
  exact hget files.texts h

/-- In an empty folder every name is free, but for those that lead elsewhere. -/
theorem free_of_empty (h : files.namesIn q = []) (hup : name ≠ "..") (hroot : name ≠ "/") :
    ∃ found, files.spot (q ++ [name]) = .free found := by
  have hno : name ∉ files.namesIn q := by simp [h]
  refine free_of_read? ?_ fun found hspot => ?_
  · cases hread : files.read? (q ++ [name]) with
    | none => rfl
    | some text =>
      exact (hno (mem_namesIn.mpr ⟨[], List.mem_append_left _ (mem_of_read? hread)⟩)).elim
  · obtain rfl := eq_of_spot hspot
    rcases mem_namesIn_of_isFolder (isFolder_of_spot hspot) with hin | hin | hin
    · exact hno hin
    · exact hup hin
    · exact hroot hin

/-- Of the names in a folder only that of the file itself is new. -/
theorem mem_namesIn_write {x : String} (h : files.isFolder q = true)
    (hx : x ∈ (files.write (q ++ [name]) text).namesIn p) :
    x ∈ files.namesIn p ∨ x = name ∨ x = ".." ∨ x = "/" := by
  obtain ⟨rest, hpath⟩ := mem_namesIn.mp hx
  have hold : p ++ x :: rest = q ++ [name] ∨ x ∈ files.namesIn p := by
    rcases List.mem_append.mp hpath with hk | hf
    · rcases mem_putText.mp hk with hnew | hk
      · exact .inl hnew
      · exact .inr (mem_namesIn.mpr ⟨rest, List.mem_append_left _ hk⟩)
    · exact .inr (mem_namesIn.mpr ⟨rest, List.mem_append_right _ hf⟩)
  rcases hold with hnew | hold
  · rcases List.eq_nil_or_concat rest with rfl | ⟨rest, last, rfl⟩
    · exact .inr (.inl (List.singleton_inj.mp (List.append_inj' hnew rfl).2))
    · rw [List.concat_eq_append, ← List.cons_append, ← List.append_assoc] at hnew
      have hq := (List.append_inj' hnew rfl).1
      subst hq
      rcases mem_namesIn_of_isFolder h with hx | hx
      · exact .inl hx
      · exact .inr (.inr hx)
  · exact .inl hold

/-- A text is loaded from the last of the parts, in the folder that those before it lead to. -/
theorem load_eq_ok_iff : files.load s = .ok text ↔
    IsPathText s ∧ (Route.along s).toFolder = false ∧ ∃ before part mid,
      (Route.along s).parts = before ++ [part] ∧ files.Leads (Route.along s).start before mid ∧
        (part ≠ "." ∧ part ≠ ".." ∧ byteCount part ≤ longestPart) ∧
          files.read? (mid ++ [part]) = some text := by
  constructor
  · intro h
    have hfind : ∃ path, files.find s = .ok (.text path text) := by
      rw [load] at h
      cases hfind : files.find s with
      | error e =>
        rw [hfind] at h
        cases h
      | ok spot =>
        rw [hfind] at h
        cases spot with
        | text path _ =>
          cases h
          exact ⟨path, rfl⟩
        | folder path | free path => cases h
    obtain ⟨path, hfind⟩ := hfind
    have htext := isPathText_of_find hfind
    rw [find_of_isPathText htext] at hfind
    obtain ⟨before, part, mid, hparts, hleads, hdot, hup, hlong, hspot⟩ :=
      walk_eq_found hfind (by rintro path ⟨⟩)
    cases htoFolder : (Route.along s).toFolder with
    | true =>
      rw [htoFolder, if_pos rfl] at hparts
      exact (hdot (List.singleton_inj.mp (List.append_inj' hparts rfl).2).symm).elim
    | false =>
      rw [htoFolder, if_neg (by decide), List.append_nil] at hparts
      exact ⟨htext, rfl, before, part, mid, hparts, hleads, ⟨hdot, hup, hlong⟩,
        (read?_of_spot hspot).2⟩
  · rintro ⟨htext, htoFolder, before, part, mid, hparts, hleads, ⟨hdot, hup, hlong⟩, hread⟩
    rw [load, find_of_isPathText htext, htoFolder, if_neg (by decide), List.append_nil, hparts,
      hleads.walk_append, walk_last hdot hup hlong, spot_of_read? hread]
    rfl

/-- Texts can be written under these names in a folder. -/
structure Accepts (files : Files) (q : Path) (names : List String) : Prop where
  isFolder : files.isFolder q = true
  free : ∀ name ∈ names, ∀ path, files.spot (q ++ [name]) ≠ .folder path

/-- Texts are written one after the other, under some names in a folder. -/
inductive Writes (q : Path) (names : List String) : Files → Files → Prop
  | refl {files : Files} : Writes q names files files
  | write {files mid : Files} {name : String} (text : String) : Writes q names files mid →
      name ∈ names → Writes q names files (mid.write (q ++ [name]) text)

theorem Accepts.write (h : files.Accepts q names) (name text : String) :
    (files.write (q ++ [name]) text).Accepts q names := by
  refine ⟨by rw [isFolder_write h.isFolder, h.isFolder], fun other hother path => ?_⟩
  by_cases hsame : q ++ [other] = q ++ [name]
  · rw [hsame, spot_write_same]
    nofun
  · rw [spot_write_other h.isFolder hsame]
    exact h.free other hother path

namespace Writes

theorem accepts (h : Writes q names files done) (ha : files.Accepts q names) :
    done.Accepts q names := by
  induction h with
  | refl => exact ha
  | @write _ name text _ _ ih => exact ih.write name text

theorem trans (h : Writes q names files mid) (hmore : Writes q names mid done) :
    Writes q names files done := by
  induction hmore with
  | refl => exact h
  | write text _ hname ih => exact .write text ih hname

theorem subset {more : List String} (h : Writes q names files done) (hnames : names ⊆ more) :
    Writes q more files done := by
  induction h with
  | refl => exact .refl
  | write text _ hname ih => exact .write text ih (hnames hname)

theorem spot (h : Writes q names files done) (ha : files.Accepts q names)
    (hpath : ∀ name ∈ names, path ≠ q ++ [name]) : done.spot path = files.spot path := by
  induction h with
  | refl => rfl
  | write text hw hname ih => rw [spot_write_other (hw.accepts ha).isFolder (hpath _ hname), ih]

/-- Folders are what they were. -/
theorem spot_folder_iff (h : Writes q names files done) (ha : files.Accepts q names) :
    done.spot path = .folder path ↔ files.spot path = .folder path := by
  by_cases hpath : ∃ name ∈ names, path = q ++ [name]
  · obtain ⟨name, hname, rfl⟩ := hpath
    exact iff_of_false ((h.accepts ha).free name hname _) (ha.free name hname _)
  · rw [h.spot ha fun name hname hsame => hpath ⟨name, hname, hsame⟩]

theorem find_folder_iff (h : Writes q names files done) (ha : files.Accepts q names) :
    done.find s = .ok (.folder p) ↔ files.find s = .ok (.folder p) :=
  ⟨fun hs => find_folder_mono hs fun _ => (h.spot_folder_iff ha).mp,
    fun hs => find_folder_mono hs fun _ => (h.spot_folder_iff ha).mpr⟩

/-- A text of another name is read as before. -/
theorem load (h : Writes q names files done) (ha : files.Accepts q names)
    (hs : files.load s = .ok text)
    (hlast : ∀ name ∈ names, (Path.steps s.toList).getLast? ≠ some name) :
    done.load s = .ok text := by
  rw [load_eq_ok_iff] at hs ⊢
  obtain ⟨htext, htoFolder, before, part, mid, hparts, hleads, hpart, hread⟩ := hs
  refine ⟨htext, htoFolder, before, part, mid, hparts, ?_, hpart, ?_⟩
  · exact hleads.mono fun _ => (h.spot_folder_iff ha).mpr
  · have hspot : done.spot (mid ++ [part]) = files.spot (mid ++ [part]) := by
      refine h.spot ha fun name hname hsame => hlast name hname ?_
      have hsteps : Path.steps s.toList = before ++ [part] := hparts
      rw [hsteps, List.getLast?_concat, List.singleton_inj.mp (List.append_inj' hsame rfl).2]
    rw [spot_of_read? hread] at hspot
    exact (read?_of_spot hspot).2

theorem mem_namesIn (h : Writes q names files done) (ha : files.Accepts q names) {x : String}
    (hx : x ∈ done.namesIn p) : x ∈ files.namesIn p ∨ x ∈ names ∨ x = ".." ∨ x = "/" := by
  induction h with
  | refl => exact .inl hx
  | write text hw hname ih =>
    rcases mem_namesIn_write (hw.accepts ha).isFolder hx with hx | rfl | hx
    · exact ih hx
    · exact .inr (.inl hname)
    · exact .inr (.inr hx)

end Writes

end Files

end TapeMachine
