import TapeMachine.Proofs.Files.Growth
import TapeMachine.Proofs.Files.Targets

/-! Folders made along a path: all of them can be made where no text is in the way. -/
namespace TapeMachine

open Text (Letters)

theorem Path.steps_slashes_append {gap : List Char} (h : ∀ c ∈ gap, c = '/') (cs : List Char) :
    steps (gap ++ cs) = steps cs := by
  induction gap with
  | nil => rfl
  | cons c gap ih =>
    obtain ⟨rfl, hgap⟩ := List.forall_mem_cons.mp h
    rw [List.cons_append, ← ih hgap]
    exact steps_append [] (gap ++ cs)

theorem Path.steps_slashes {gap : List Char} (h : ∀ c ∈ gap, c = '/') : steps gap = [] := by
  have hgap := steps_slashes_append h []
  rwa [List.append_nil] at hgap

namespace PathText

variable {head gap name : List Char}

/-- A text falls into what it begins with, slashes and a name; what it begins with is slashes alone,
or ends before those that follow. -/
structure Cut (head gap name : List Char) : Prop where
  slashless : '/' ∉ name
  slashes : ∀ c ∈ gap, c = '/'
  cases : gap = [] ∧ (∀ c ∈ head, c = '/') ∨ gap ≠ [] ∧ head ≠ [] ∧ head.getLast? ≠ some '/'

theorem exists_cut (s : String) : ∃ head gap name : List Char,
    split s = (head.map .char, name.map .char) ∧ s.toList = head ++ (gap ++ name) ∧
    Cut head gap name := by
  have hslash : ∀ c, Text.Letter.char c = slash ↔ c = '/' := fun c => by simp [slash]
  obtain ⟨gap, hp, hplain, hgap, hcases⟩ := split_spec s
  generalize hsplit : split s = parts at hp hplain hcases
  obtain ⟨head, name⟩ := parts
  obtain ⟨head, rest, hchars, rfl, hrest⟩ := List.map_eq_append_iff.mp hp
  obtain ⟨gap, name, rfl, rfl, rfl⟩ := List.map_eq_append_iff.mp hrest
  refine ⟨head, gap, name, rfl, hchars, ?_, ?_, ?_⟩
  · exact fun hmem => hplain (List.mem_map_of_mem hmem)
  · exact fun c hc => (hslash c).mp (hgap _ (List.mem_map_of_mem hc))
  · rcases hcases with ⟨hnil, hall⟩ | ⟨hgap, hhead, hlast⟩
    · exact .inl
        ⟨List.map_eq_nil_iff.mp hnil, fun c hc => (hslash c).mp (hall _ (List.mem_map_of_mem hc))⟩
    · refine .inr ⟨?_, ?_, fun hsome => hlast (by simp [hsome, slash])⟩
      · exact fun hnil => hgap (by rw [hnil, List.map_nil])
      · exact fun hnil => hhead (by rw [hnil, List.map_nil])

namespace Cut

/-- There is a name, unless the text is empty or ends in a slash. -/
theorem name_ne_nil (h : Cut head gap name) (hne : head ++ (gap ++ name) ≠ [])
    (hlast : (head ++ (gap ++ name)).getLast? ≠ some '/') : name ≠ [] := by
  rintro rfl
  obtain ⟨before, slashes, htext, hslashes, hall⟩ : ∃ before slashes,
      head ++ gap = before ++ slashes ∧ slashes ≠ [] ∧ ∀ c ∈ slashes, c = '/' := by
    rw [List.append_nil] at hne
    rcases h.cases with ⟨rfl, hall⟩ | ⟨hgap, -⟩
    · exact ⟨[], head, List.append_nil _, by simpa using hne, hall⟩
    · exact ⟨head, gap, rfl, hgap, h.slashes⟩
  rw [List.append_nil, htext, List.getLast?_append, List.getLast?_eq_some_getLast hslashes,
    hall _ (List.getLast_mem hslashes)] at hlast
  exact hlast rfl

theorem steps (h : Cut head gap name) (hname : name ≠ []) :
    Path.steps (head ++ (gap ++ name)) = Path.steps head ++ [String.ofList name] := by
  have hsteps : Path.steps (String.ofList name).toList = [String.ofList name] :=
    Path.steps_of_plain (by simpa using h.slashless) (by simpa using hname)
  rw [String.toList_ofList] at hsteps
  rw [← hsteps]
  rcases h.cases with ⟨rfl, hall⟩ | ⟨hgap, -⟩
  · rw [List.nil_append, Path.steps_slashes_append hall, Path.steps_slashes hall, List.nil_append]
  · obtain ⟨c, gap, rfl⟩ := List.exists_cons_of_ne_nil hgap
    obtain ⟨rfl, hmore⟩ := List.forall_mem_cons.mp h.slashes
    rw [List.cons_append, Path.steps_append, Path.steps_slashes_append hmore]

end Cut

end PathText

/-- The text of a path, with a slash at its end only where there is nothing else, is that of another
such path or empty, and a name behind it. -/
structure Within (s head name : String) : Prop where
  split : PathText.split s = (Letters.ofString head, Letters.ofString name)
  nonempty : name ≠ ""
  parts : (Route.along s).parts = (Route.along head).parts ++ [name]
  start : (Route.along s).start = (Route.along head).start
  stripped : (Route.along head).toFolder = true → (Route.along head).parts = []
  begins : ∃ more, s = head ++ more

theorem Within.length_lt {s head name : String} (h : Within s head name) :
    head.length < s.length := by
  obtain ⟨more, rfl⟩ := h.begins
  have hmore : more ≠ "" := by
    rintro rfl
    have hparts := congrArg List.length h.parts
    simp at hparts
  have hlength : 0 < more.length := Nat.pos_of_ne_zero fun hzero => hmore (by simpa using hzero)
  rw [String.length_append]
  omega

theorem Within.isPathText {s head name : String} (h : Within s head name) (hs : IsPathText s)
    (hne : head ≠ "") : IsPathText head := by
  obtain ⟨more, rfl⟩ := h.begins
  obtain ⟨hzero, -, hshort⟩ := hs
  refine ⟨fun hmem => hzero (by simp [hmem]), hne, ?_⟩
  have hbytes : byteCount (head ++ more) = byteCount head + byteCount more :=
    String.utf8ByteSize_append
  omega

/-- The place that a text names if each of its parts is a name. -/
def placeOf (s : String) : Path := (Route.along s).start ++ (Route.along s).parts

theorem Within.placeOf_eq {s head name : String} (h : Within s head name) :
    placeOf s = placeOf head ++ [name] := by
  rw [placeOf, placeOf, h.start, h.parts, List.append_assoc]

theorem exists_within {s : String} (hne : s ≠ "") (hend : (Route.along s).toFolder = false) :
    ∃ head name, Within s head name := by
  obtain ⟨head, gap, name, hsplit, hchars, hcut⟩ := PathText.exists_cut s
  have hname : name ≠ [] := by
    refine hcut.name_ne_nil (hchars ▸ by simpa using hne) (hchars ▸ ?_)
    simpa [Route.along] using hend
  have hs : s = String.ofList head ++ String.ofList (gap ++ name) := by
    rw [← String.ofList_append, ← hchars, String.ofList_toList]
  refine ⟨String.ofList head, String.ofList name, ?_, ?_, ?_, ?_, ?_,
    String.ofList (gap ++ name), hs⟩
  · rw [hsplit, Letters.ofString, Letters.ofString, String.toList_ofList, String.toList_ofList]
  · simpa using hname
  · simpa [Route.along, hchars] using hcut.steps hname
  · by_cases hempty : head = []
    · obtain rfl : gap = [] := by simpa [hempty] using hcut.cases
      rw [hempty] at hchars ⊢
      exact if_neg fun hhead => hcut.slashless (by simpa [hchars] using List.mem_of_mem_head? hhead)
    · rw [hs, Files.start_append (by simpa using hempty)]
  · intro hfolder
    rcases hcut.cases with ⟨-, hall⟩ | ⟨-, -, hlast⟩
    · simpa [Route.along] using Path.steps_slashes hall
    · exact (hlast (by simpa [Route.along] using hfolder)).elim

namespace Files

variable {files mid made : Files} {s head name : String} {here q path : Path}
  {before parts : List String} {fuel : Nat}

/-- Folders can be made along a text: each of its parts is a name, and no text is in the way. -/
structure Clear (files : Files) (s : String) : Prop where
  isPathText : IsPathText s
  stripped : (Route.along s).toFolder = true → (Route.along s).parts = []
  names : ∀ part ∈ (Route.along s).parts, part ≠ "." ∧ part ≠ ".." ∧ byteCount part ≤ longestPart
  textless : ∀ path, path <+: placeOf s → files.read? path = none

/-- Folders are new on the way to a place, and nothing else. -/
structure GrowsTo (files made : Files) (path : Path) : Prop extends files.Grows made where
  fresh : ∀ f ∈ made.folders, f ∈ files.folders ∨ f <+: path

theorem Leads.eq_append (h : files.Leads here parts q)
    (hnames : ∀ part ∈ parts, part ≠ "." ∧ part ≠ "..") :
    q = here ++ parts := by
  induction h with
  | nil => rw [List.append_nil]
  | dot => exact absurd rfl (hnames _ List.mem_cons_self).1
  | up => exact absurd rfl (hnames _ List.mem_cons_self).2
  | @down here q part parts hdot hup hlong hspot hleads ih =>
    rw [ih fun part hpart => hnames part (List.mem_cons_of_mem _ hpart), List.append_assoc]
    rfl

namespace Clear

theorem within (h : files.Clear s) (hs : Within s head name) (hne : head ≠ "") :
    files.Clear head := by
  refine ⟨hs.isPathText h.isPathText hne, hs.stripped, fun part hpart => ?_, fun path hpath => ?_⟩
  · exact h.names part (by rw [hs.parts]; exact List.mem_append_left _ hpart)
  · exact h.textless path (hpath.trans (hs.placeOf_eq ▸ List.prefix_append _ _))

theorem grows (h : files.Clear s) (hg : files.Grows mid) : mid.Clear s :=
  ⟨h.isPathText, h.stripped, h.names, fun path hpath =>
    (hg.read? path).trans (h.textless path hpath)⟩

/-- What is there is a folder. -/
theorem find_of_holds (h : files.Clear s) (hholds : files.holds s = true) :
    files.find s = .ok (.folder (placeOf s)) := by
  unfold holds at hholds
  split at hholds
  · next q hfind =>
    obtain ⟨-, hleads⟩ := find_eq_folder_iff.mp hfind
    obtain rfl :=
      hleads.eq_append fun part hpart => ⟨(h.names part hpart).1, (h.names part hpart).2.1⟩
    exact hfind
  · next path text hfind =>
    rw [find_of_isPathText h.isPathText] at hfind
    obtain ⟨before, part, mid, hparts, hleads, hdot, -, -, hspot⟩ := walk_eq_found hfind nofun
    cases htoFolder : (Route.along s).toFolder with
    | true =>
      rw [htoFolder, if_pos rfl] at hparts
      exact (hdot (List.singleton_inj.mp (List.append_inj' hparts rfl).2).symm).elim
    | false =>
      rw [htoFolder, if_neg (by decide), List.append_nil] at hparts
      have hnames : ∀ part ∈ before, part ≠ "." ∧ part ≠ ".." := by
        intro part hpart
        obtain ⟨hdot, hup, -⟩ := h.names part (hparts ▸ List.mem_append_left _ hpart)
        exact ⟨hdot, hup⟩
      have hplace : placeOf s = mid ++ [part] := by
        rw [placeOf, hparts, hleads.eq_append hnames, List.append_assoc]
      have hnone := h.textless _ List.prefix_rfl
      rw [hplace, (read?_of_spot hspot).2] at hnone
      cases hnone
  · cases hholds

end Clear

theorem GrowsTo.refl (files : Files) (path : Path) : files.GrowsTo files path :=
  ⟨.refl files, fun _ => .inl⟩

theorem GrowsTo.trans (h : files.GrowsTo mid path) (hmore : mid.GrowsTo made q)
    (hpath : path <+: q) :
    files.GrowsTo made q := by
  refine ⟨h.toGrows.trans hmore.toGrows, fun f hf => ?_⟩
  rcases hmore.fresh f hf with hf | hf
  · exact (h.fresh f hf).imp_right fun hf => hf.trans hpath
  · exact .inr hf

theorem ensureFolder_clear (h : files.Clear s) (hs : (Route.along s).parts = before ++ [name])
    (hleads : files.Leads (Route.along s).start before ((Route.along s).start ++ before)) :
    ∃ made, files.ensureFolder s = (made, .ok ()) ∧ files.GrowsTo made (placeOf s) ∧
      made.find s = .ok (.folder (placeOf s)) := by
  obtain ⟨hdot, hup, hlong⟩ := h.names name (by simp [hs])
  have hplace : placeOf s = (Route.along s).start ++ before ++ [name] := by
    rw [placeOf, hs, List.append_assoc]
  cases hspot : files.spot ((Route.along s).start ++ before ++ [name]) with
  | text found text =>
    have hnone := h.textless _ List.prefix_rfl
    rw [hplace, (read?_of_spot hspot).2] at hnone
    cases hnone
  | folder found =>
    obtain rfl := eq_of_spot hspot
    have hfind : files.find s = .ok (.folder (placeOf s)) := by
      rw [find_eq_folder_iff, hs, hplace]
      exact ⟨h.isPathText, hleads.append (.down hdot hup hlong hspot .nil)⟩
    exact ⟨files, ensureFolder_of_folder hfind, .refl _ _, hfind⟩
  | free found =>
    obtain ⟨rfl, hnone⟩ := free_of_spot hspot
    have hmade : files.makeFolder s = .ok (files.addFolder (placeOf s)) := by
      have hwalk : files.walk (Route.along s).given (Route.along s).start (Route.along s).parts =
          .ok (.free (placeOf s)) := by
        rw [hs, hleads.walk_append, walk_last hdot hup hlong, hspot, hplace]
      rw [makeFolder, Route.of_eq_ok_iff.mpr ⟨h.isPathText, rfl⟩]
      simp only [bind, Except.bind, hwalk]
      rfl
    have hgrows : files.GrowsTo (files.addFolder (placeOf s)) (placeOf s) := by
      refine ⟨addFolder_grows _ _, fun f hf => ?_⟩
      rcases List.mem_append.mp hf with hf | hf
      · exact .inl hf
      · exact .inr (List.mem_singleton.mp hf ▸ List.prefix_rfl)
    have hfolder : (files.addFolder (placeOf s)).isFolder (placeOf s) = true :=
      isFolder_iff.mpr
        (.inr (.inr (.inl ⟨_, List.mem_append_right _ List.mem_cons_self, List.prefix_rfl⟩)))
    refine ⟨_, by rw [ensureFolder, hmade], hgrows, ?_⟩
    rw [find_eq_folder_iff, hs]
    refine ⟨h.isPathText,
      (hleads.mono fun _ => hgrows.spot_folder).append (.down hdot hup hlong ?_ ?_)⟩
    · rw [← hplace, spot, hgrows.read?, hplace, hnone, ← hplace]
      exact if_pos hfolder
    · rw [hplace]
      exact .nil

theorem makeFolders_ensure {p head tail : Letters} (hsplit : PathText.split p = (head, tail))
    (htail : tail ≠ []) (hhead : head = [] ∨ files.holds head = true) :
    files.makeFolders (fuel + 1) p = files.ensureFolder p := by
  obtain ⟨l, tail, rfl⟩ := List.exists_cons_of_ne_nil htail
  rw [makeFolders, hsplit]
  dsimp only
  rcases hhead with rfl | hholds
  · rfl
  · simp [hholds]

theorem makeFolders_after {p head tail : Letters} (hsplit : PathText.split p = (head, tail))
    (htail : tail ≠ [] ∧ tail ≠ [.char '.']) (hhead : head ≠ [] ∧ files.holds head = false)
    (hmade : files.makeFolders fuel head = (made, .ok ())) :
    files.makeFolders (fuel + 1) p = made.ensureFolder p := by
  obtain ⟨l, tail, rfl⟩ := List.exists_cons_of_ne_nil htail.1
  rw [makeFolders, hsplit]
  dsimp only
  simp [hhead.1, hhead.2, hmade, htail.2]

/-- All folders along a text are made. -/
theorem makeFolders_clear (h : files.Clear s) (hfuel : s.length ≤ fuel) :
    ∃ made, files.makeFolders fuel s = (made, .ok ()) ∧ files.GrowsTo made (placeOf s) ∧
      made.find s = .ok (.folder (placeOf s)) := by
  induction fuel generalizing s with
  | zero => exact (h.isPathText.2.1 (by simpa using hfuel)).elim
  | succ fuel ih =>
    by_cases hnone : (Route.along s).parts = []
    · have hfind : files.find s = .ok (.folder (placeOf s)) := by
        rw [find_eq_folder_iff, placeOf, hnone, List.append_nil]
        exact ⟨h.isPathText, .nil⟩
      exact ⟨files, makeFolders_of_folder hfind fuel, .refl _ _, hfind⟩
    · have hend : (Route.along s).toFolder = false := by
        cases htoFolder : (Route.along s).toFolder with
        | true => exact (hnone (h.stripped htoFolder)).elim
        | false => rfl
      obtain ⟨head, name, hs⟩ := exists_within h.isPathText.2.1 hend
      have htail : Letters.ofString name ≠ [] := by simpa [Letters.ofString] using hs.nonempty
      have hplace : placeOf head <+: placeOf s := hs.placeOf_eq ▸ List.prefix_append _ _
      have hensure : ∀ mid, files.GrowsTo mid (placeOf head) →
          mid.Leads (Route.along head).start (Route.along head).parts (placeOf head) →
          ∃ made, mid.ensureFolder s = (made, .ok ()) ∧ files.GrowsTo made (placeOf s) ∧
            made.find s = .ok (.folder (placeOf s)) := by
        intro mid hgrows hleads
        rw [placeOf, ← hs.start] at hleads
        obtain ⟨made, hmade, hmore, hfind⟩ :=
          ensureFolder_clear (h.grows hgrows.toGrows) hs.parts hleads
        exact ⟨made, hmade, hgrows.trans hmore hplace, hfind⟩
      by_cases hhead : head = ""
      · subst hhead
        rw [makeFolders_ensure hs.split htail (.inl rfl)]
        exact hensure files (.refl _ _) .nil
      · have hclear := h.within hs hhead
        cases hholds : files.holds head with
        | true =>
          rw [makeFolders_ensure hs.split htail (.inr hholds)]
          exact hensure files (.refl _ _) (find_eq_folder_iff.mp (hclear.find_of_holds hholds)).2
        | false =>
          have hlength : head.length ≤ fuel := by
            have hshort := hs.length_lt
            omega
          obtain ⟨mid, hmid, hgrows, hfind⟩ := ih hclear hlength
          have hdot : Letters.ofString name ≠ [.char '.'] := by
            intro hname
            have hchars := congrArg Letters.chars hname
            rw [Text.chars_ofString] at hchars
            exact (h.names name (by simp [hs.parts])).1 (String.toList_injective hchars)
          rw [makeFolders_after hs.split ⟨htail, hdot⟩
            ⟨by simpa [Letters.ofString] using hhead, hholds⟩ hmid]
          exact hensure mid hgrows (find_eq_folder_iff.mp hfind).2

/-- A text can be written at a path: nothing is in the way of its folders, and it names none
itself. -/
structure Open (files : Files) (s : String) : Prop where
  isPathText : IsPathText s
  not_toFolder : (Route.along s).toFolder = false
  names : ∀ part ∈ (Route.along s).parts, part ≠ "." ∧ part ≠ ".." ∧ byteCount part ≤ longestPart
  textless : ∀ path, path <+: placeOf s → path ≠ placeOf s → files.read? path = none
  not_folder : files.isFolder (placeOf s) = false

theorem Open.within (h : files.Open s) (hs : Within s head name) (hne : head ≠ "") :
    files.Clear head := by
  refine ⟨hs.isPathText h.isPathText hne, hs.stripped, fun part hpart => ?_, fun path hpath => ?_⟩
  · exact h.names part (by rw [hs.parts]; exact List.mem_append_left _ hpart)
  · have hlength := hpath.length_le
    refine h.textless path (hpath.trans (hs.placeOf_eq ▸ List.prefix_append _ _)) ?_
    rintro rfl
    rw [hs.placeOf_eq, List.length_append, List.length_singleton] at hlength
    omega

/-- A file can be written once its folder is there. -/
theorem Open.target (h : files.Open s) (hs : Within s head name)
    (hgrows : files.GrowsTo made (placeOf head))
    (hleads : made.Leads (Route.along head).start (Route.along head).parts (placeOf head)) :
    made.target s = .ok (placeOf s) := by
  have hnot : ¬ files.isFolder (placeOf s) = true := by simp [h.not_folder]
  have hfree : made.isFolder (placeOf s) ≠ true := by
    intro hfolder
    rcases isFolder_iff.mp hfolder with hup | hroot | ⟨f, hf, hpath⟩ | ⟨k, hk, hpath⟩
    · exact hnot (isFolder_iff.mpr (.inl hup))
    · exact hnot (isFolder_iff.mpr (.inr (.inl hroot)))
    · rcases hgrows.fresh f hf with hf | hf
      · exact hnot (isFolder_iff.mpr (.inr (.inr (.inl ⟨f, hf, hpath⟩))))
      · have hlength := (hpath.trans hf).length_le
        rw [hs.placeOf_eq, List.length_append, List.length_singleton] at hlength
        omega
    · rw [hgrows.texts] at hk
      exact hnot (isFolder_iff.mpr (.inr (.inr (.inr ⟨k, hk, hpath⟩))))
  refine target_eq_ok_iff.mpr
    ⟨_, Route.of_eq_ok_iff.mpr ⟨h.isPathText, rfl⟩, h.not_toFolder, _, name, _, hs.parts,
    hs.start ▸ hleads, h.names name (by simp [hs.parts]), fun found hfound => ?_, hs.placeOf_eq⟩
  obtain rfl := eq_of_spot hfound
  exact hfree (hs.placeOf_eq ▸ isFolder_of_spot hfound)

/-- The folder of a path is made where nothing is in the way, and a file can be written in it
then. -/
theorem makeFolderFor_open (h : files.Open s) : ∃ made, files.makeFolderFor s = (made, .ok ()) ∧
    files.Grows made ∧ made.target s = .ok (placeOf s) := by
  obtain ⟨head, name, hs⟩ := exists_within h.isPathText.2.1 h.not_toFolder
  rw [makeFolderFor, hs.split]
  by_cases hhead : head = ""
  · subst hhead
    exact ⟨files, rfl, .refl files, h.target hs (.refl _ _) .nil⟩
  · have hshort := hs.length_lt
    have hfuel : head.length ≤ (Letters.ofString s).length := by
      rw [Letters.ofString, List.length_map, String.length_toList]
      omega
    obtain ⟨made, hmade, hgrows, hfind⟩ := makeFolders_clear (h.within hs hhead) hfuel
    refine ⟨made, ?_, hgrows.toGrows, h.target hs hgrows (find_eq_folder_iff.mp hfind).2⟩
    have hsome : (Letters.ofString head).isEmpty = false := by simpa [Letters.ofString] using hhead
    simp [hsome, hmade]

end Files

end TapeMachine
