import TapeMachine.Proofs.Files.Writes

/-! Folders made: texts stay as they are, and what was a folder is still one. -/
namespace TapeMachine

open Text (Letters)

namespace Files

variable {files mid made : Files} {p q path : Path} {s text : String}

/-- Nothing but folders is new. -/
structure Grows (files made : Files) : Prop where
  texts : made.texts = files.texts
  folders : files.folders ⊆ made.folders

theorem Grows.refl (files : Files) : files.Grows files := ⟨rfl, List.Subset.refl _⟩

theorem Grows.trans (h : files.Grows mid) (hmore : mid.Grows made) : files.Grows made :=
  ⟨hmore.texts.trans h.texts, List.Subset.trans h.folders hmore.folders⟩

theorem addFolder_grows (files : Files) (path : Path) : files.Grows (files.addFolder path) :=
  ⟨rfl, List.subset_append_left _ _⟩

theorem makeFolder_grows {p : Letters} (h : files.makeFolder p = .ok made) : files.Grows made := by
  unfold makeFolder at h
  cases hroute : Route.of p with
  | error e =>
    rw [hroute] at h
    cases h
  | ok r =>
    rw [hroute] at h
    simp only [bind, Except.bind] at h
    split at h
    · cases h
    · split at h
      · cases h
        exact addFolder_grows _ _
      · cases h

theorem ensureFolder_grows (files : Files) (p : Letters) :
    files.Grows (files.ensureFolder p).1 := by
  unfold ensureFolder
  split
  · next made hmade => exact makeFolder_grows hmade
  · exact .refl files

theorem makePath_grows (files : Files) (fuel : Nat) (p : Path) :
    files.Grows (files.makePath fuel p).1 := by
  induction fuel generalizing p with
  | zero => exact .refl files
  | succ fuel ih =>
    rw [makePath]
    split
    · split
      · exact ensureFolder_grows _ _
      · have hparent := ih p.parent
        split
        · next mid hmid =>
          rw [hmid] at hparent
          exact hparent.trans (ensureFolder_grows mid _)
        · exact hparent
    · exact ensureFolder_grows _ _

namespace Grows

theorem read? (h : files.Grows made) (path : Path) : made.read? path = files.read? path := by
  rw [Files.read?, Files.read?, h.texts]

theorem isFolder (h : files.Grows made) (hpath : files.isFolder path = true) :
    made.isFolder path = true := by
  rw [isFolder_iff] at hpath ⊢
  rw [h.texts]
  rcases hpath with hup | hroot | ⟨f, hf, hp⟩ | hk
  · exact .inl hup
  · exact .inr (.inl hroot)
  · exact .inr (.inr (.inl ⟨f, h.folders hf, hp⟩))
  · exact .inr (.inr (.inr hk))

theorem spot_folder (h : files.Grows made) (hpath : files.spot path = .folder path) :
    made.spot path = .folder path := by
  have hnone : files.read? path = none := by
    cases hread : files.read? path with
    | none => rfl
    | some text =>
      rw [spot_of_read? hread] at hpath
      cases hpath
  rw [spot, h.read?, hnone]
  exact if_pos (h.isFolder (isFolder_of_spot hpath))

/-- Texts are read as before. -/
theorem load (h : files.Grows made) (hs : files.load s = .ok text) : made.load s = .ok text := by
  rw [load_eq_ok_iff] at hs ⊢
  obtain ⟨htext, htoFolder, before, part, mid, hparts, hleads, hpart, hread⟩ := hs
  exact ⟨htext, htoFolder, before, part, mid, hparts, hleads.mono fun _ => h.spot_folder, hpart,
    (h.read? _).trans hread⟩

end Grows

end Files

end TapeMachine
