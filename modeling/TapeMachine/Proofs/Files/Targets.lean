import TapeMachine.Proofs.Files.Writes

/-! The places that files are written at: they stay where they are while other files are written. -/
namespace TapeMachine

open Text (Letters)

theorem Route.start_cases {p : Letters} {r : Route} (h : Route.of p = .ok r) :
    r.start = [] ∨ r.start = ["/"] := by
  unfold Route.of at h
  cases hhalves : refuseHalves 0 p with
  | error e =>
    rw [hhalves] at h
    cases h
  | ok =>
    simp only [hhalves, bind, Except.bind] at h
    split at h
    · cases h
    · split at h
      · cases h
      · split at h
        · cases h
        · cases h
          dsimp only
          split
          · exact .inr rfl
          · exact .inl rfl

namespace Files

variable {files done : Files} {p s : Letters} {q path other : Path} {names : List String}
  {text : String}

theorem read?_append (path other : Path) (text : String) : (files.append path text).read? other =
    if path = other then some ((files.read? path).getD "" ++ text) else files.read? other := by
  rw [append, read?_write]

/-- A file is written under the last of the parts, in the folder that those before it lead to. -/
theorem target_eq_ok_iff : files.target p = .ok path ↔
    ∃ r, Route.of p = .ok r ∧ r.toFolder = false ∧
    ∃ before part mid, r.parts = before ++ [part] ∧ files.Leads r.start before mid ∧
      (part ≠ "." ∧ part ≠ ".." ∧ byteCount part ≤ longestPart) ∧
        (∀ found, files.spot (mid ++ [part]) ≠ .folder found) ∧ path = mid ++ [part] := by
  unfold target
  cases hroute : Route.of p with
  | error e => simp [bind, Except.bind]
  | ok r =>
    simp only [bind, Except.bind, Except.ok.injEq, exists_eq_left']
    constructor
    · intro h
      cases htoFolder : r.toFolder with
      | true =>
        rw [htoFolder] at h
        split at h
        · cases h
        · split at h <;> cases h
      | false =>
        rw [htoFolder] at h
        split at h
        · cases h
        · next found hwalk =>
          have hfound : ∀ path, found ≠ .folder path := by
            rintro path rfl
            cases h
          obtain ⟨before, part, mid, hparts, hleads, hdot, hup, hlong, hspot⟩ :=
            walk_eq_found hwalk hfound
          refine ⟨rfl, before, part, mid, hparts, hleads, ⟨hdot, hup, hlong⟩, ?_, ?_⟩
          · rwa [hspot]
          · cases found with
            | folder path => exact (hfound path rfl).elim
            | text place _ =>
              cases h
              exact (read?_of_spot hspot).1
            | free place =>
              cases h
              exact (free_of_spot hspot).1
    · rintro ⟨htoFolder, before, part, mid, hparts, hleads, ⟨hdot, hup, hlong⟩, hfree, rfl⟩
      simp only [htoFolder, Bool.false_eq_true, if_false]
      rw [hparts, hleads.walk_append, walk_last hdot hup hlong]
      cases hspot : files.spot (mid ++ [part]) with
      | folder found => exact (hfree found hspot).elim
      | text place text =>
        rw [(read?_of_spot hspot).1]
        rfl
      | free place =>
        rw [(free_of_spot hspot).1]
        rfl

theorem accepts_of_target (h : files.target p = .ok path) :
    ∃ q name, path = q ++ [name] ∧ files.Accepts q [name] := by
  obtain ⟨r, hroute, -, before, part, mid, -, hleads, -, hfree, rfl⟩ := target_eq_ok_iff.mp h
  refine ⟨mid, part, rfl, hleads.isFolder ?_, List.forall_mem_singleton.mpr hfree⟩
  rcases Route.start_cases hroute with hstart | hstart
  · rw [hstart]
    exact isFolder_iff.mpr (.inl nofun)
  · rw [hstart]
    exact isFolder_iff.mpr (.inr (.inl rfl))

theorem Writes.target (h : Writes q names files done) (ha : files.Accepts q names)
    (hp : files.target p = .ok path) : done.target p = .ok path := by
  rw [target_eq_ok_iff] at hp ⊢
  obtain ⟨r, hroute, htoFolder, before, part, mid, hparts, hleads, hpart, hfree, rfl⟩ := hp
  refine ⟨r, hroute, htoFolder, before, part, mid, hparts, ?_, hpart, fun found hfound => ?_, rfl⟩
  · exact hleads.mono fun _ => (h.spot_folder_iff ha).mpr
  · obtain rfl := eq_of_spot hfound
    exact hfree _ ((h.spot_folder_iff ha).mp hfound)

/-- What is written at the place of a path is loaded from it. -/
theorem load_write {s : String} (h : files.target s = .ok path) (text : String) :
    (files.write path text).load s = .ok text := by
  obtain ⟨q, name, rfl, haccepts⟩ := accepts_of_target h
  have hwrites : Writes q [name] files (files.write (q ++ [name]) text) :=
    .write text .refl List.mem_cons_self
  obtain ⟨r, hroute, htoFolder, before, part, mid, hparts, hleads, hpart, -, hplace⟩ :=
    target_eq_ok_iff.mp h
  obtain ⟨htext, rfl⟩ := Route.of_eq_ok_iff.mp hroute
  refine load_eq_ok_iff.mpr ⟨htext, htoFolder, before, part, mid, hparts, ?_, hpart, ?_⟩
  · exact hleads.mono fun _ => (hwrites.spot_folder_iff haccepts).mpr
  · rw [read?_write, if_pos hplace]

/-- What could be written before something is appended to a file is written at the same place after
it. -/
theorem target_append (h : files.target p = .ok path) (text : String)
    (hs : files.target s = .ok other) :
    (files.append path text).target s = .ok other := by
  obtain ⟨q, name, rfl, haccepts⟩ := accepts_of_target h
  have hwrites : Writes q [name] files (files.append (q ++ [name]) text) :=
    .write _ .refl List.mem_cons_self
  exact hwrites.target haccepts hs

end Files

end TapeMachine
