import TapeMachine.Proofs.Files.Making
import TapeMachine.Proofs.Settings.Merging

/-! Settings that are saved: they are read back as they were, and nothing is saved that is not
valid. -/
namespace TapeMachine

open Json (Dictionary Entry Fields)

namespace Json

variable {v : Json} {fields : Fields} {name : Text.Letters}

/-- A value is what is read from the text that is written for it. -/
def ReadsBack (v : Json) : Prop :=
  Json.parse (String.ofList (Text.unifyBreaks v.pretty.toList)) = .ok v

/-- Values that can be read are read back within the bounds of what is read. -/
theorem Legible.readsBack (h : Legible v) (hdepth : v.depth ≤ mostNested)
    (hlongest : v.longest ≤ mostDigits) : v.ReadsBack := by
  have hparse := h.parse_unifyBreaks hdepth hlongest (some 4)
  rwa [ReadsBack, pretty, String.toList_ofList]

end Json

namespace Settings

variable {files ready : Files} {fields : Fields} {path : String} {place : Path} {e : SettingsError}

/-- Settings that are not valid are refused before anything is done. -/
theorem store_of_error (h : check (.ofFields fields) = .error e) (files : Files) (path : String) :
    store files fields path = (files, .error e) := by
  rw [check, Dictionary.texts_ofFields] at h
  rw [store, h]

theorem store_of_valid (h : Valid (.ofFields fields))
    (hready : files.makeFolderFor path = (ready, .ok ()))
    (hplace : ready.target path = .ok place) :
    store files fields path = (ready.write place (Json.obj fields).pretty, .ok ()) := by
  obtain ⟨s, hs⟩ := check_eq_ok_iff.mpr h
  rw [check, Dictionary.texts_ofFields] at hs
  have hsave : ready.save path (Json.obj fields).pretty =
      .ok (ready.write place (Json.obj fields).pretty) := by
    rw [Files.save, hplace]
    rfl
  rw [store, hs]
  simp only [hready, Except.bind, hsave]

theorem Valid.mem_keys {d : Dictionary} (h : Valid d) :
    ∀ key ∈ (Dictionary.ofFields defaults).map Entry.key, key ∈ d.map Entry.key := by
  have hmem : ∀ {key v}, d.get? key = some v → key ∈ d.map Entry.key := by
    intro key v hv
    by_contra hno
    rw [Dictionary.get?_eq_none_iff.mpr hno] at hv
    cases hv
  obtain ⟨⟨_, hlimit, -⟩, ⟨_, hmax, -⟩, ⟨_, hwindow⟩, ⟨_, hruns⟩, ⟨_, hfolder⟩, ⟨_, hstem⟩⟩ := h
  rw [Dictionary.keys_ofFields]
  simp only [defaults, List.map_cons, List.map_nil, List.forall_mem_cons]
  exact ⟨hmem hlimit, hmem hmax, hmem hwindow, hmem hruns, hmem hfolder, hmem hstem,
    List.forall_mem_nil _⟩

/-- Valid settings leave nothing to the defaults. -/
theorem get?_putAll_defaults (h : Valid (.ofFields fields)) (hnames : (fields.map Prod.fst).Nodup)
    (name : Text.Letters) : (defaults.putAll fields).get? name = fields.get? name := by
  rw [Fields.get?_putAll, Dictionary.last?_ofField name hnames]
  cases hget : fields.get? name with
  | some v => rfl
  | none =>
    rw [← Dictionary.get?_ofFields, Dictionary.get?_eq_none_iff] at hget
    rw [Option.none_or, ← Dictionary.get?_ofFields, Dictionary.get?_eq_none_iff]
    exact fun hmem => hget (h.mem_keys _ hmem)

/-- Valid settings are what is read where their text is. -/
theorem parse_pretty (h : Valid (.ofFields fields)) (hnames : (fields.map Prod.fst).Nodup)
    (hback : (Json.obj fields).ReadsBack) :
    parse (Json.obj fields).pretty.toList = .ok (.ofFields (defaults.putAll fields)) := by
  rw [parse_eq_ok_iff_overlay]
  refine ⟨.obj fields, hback, congrArg Except.ok (Dictionary.putAll_ofFields defaults fields), ?_⟩
  obtain ⟨s, hs⟩ := check_eq_ok_iff.mpr h
  refine check_eq_ok_iff.mp ⟨s, ?_⟩
  rw [← hs]
  refine check_congr fun setting _ => ?_
  rw [Dictionary.get?_ofFields, Dictionary.get?_ofFields, get?_putAll_defaults h hnames]

/-- Settings that are not valid leave everything as it is. Valid ones are written, and what is read
then is what they are, in some order, whenever the folder of the file can be made, the file can be
opened and the text is read back; nothing has to be in the way for the former, and legible values
within the bounds are enough for the latter. -/
theorem store_read_back :
    (∀ (fields : Fields) (e : SettingsError), check (.ofFields fields) = .error e →
      ∀ (files : Files) (path : String), store files fields path = (files, .error e)) ∧
    (∀ fields : Fields, (fields.map Prod.fst).Nodup → (∃ s, check (.ofFields fields) = .ok s) →
      (Json.obj fields).ReadsBack → ∀ (files ready : Files) (path : String) (place : Path),
        files.makeFolderFor path = (ready, .ok ()) → ready.target path = .ok place →
          store files fields path = (ready.write place (Json.obj fields).pretty, .ok ()) ∧
          ∃ loaded : Fields, read (ready.write place (Json.obj fields).pretty) path =
            .ok (.ofFields loaded) ∧
            loaded.Perm fields ∧ ∀ name, loaded.get? name = fields.get? name) ∧
    (∀ (files : Files) (path : String), files.Open path →
      ∃ ready, files.makeFolderFor path = (ready, .ok ()) ∧ files.Grows ready ∧
        ready.target path = .ok (placeOf path)) ∧
    ∀ v : Json, v.Legible → v.depth ≤ Json.mostNested → v.longest ≤ Json.mostDigits →
      v.ReadsBack := by
  refine ⟨fun fields e => store_of_error, ?_, fun files path => Files.makeFolderFor_open,
    fun v => Json.Legible.readsBack⟩
  intro fields hnames hcheck hback files ready path place hready hplace
  have hvalid := check_eq_ok_iff.mp hcheck
  have hget := get?_putAll_defaults hvalid hnames
  refine ⟨store_of_valid hvalid hready hplace, defaults.putAll fields, ?_, ?_, hget⟩
  · rw [read_of_load (Files.load_write hplace _), parse_pretty hvalid hnames hback]
  · exact Fields.perm_of_get? (Fields.nodup_putAll fields (by decide)) hnames hget

/-- Settings in an order of their own, with a note among them. -/
def noted : Fields :=
  [("tape_window", .int (-4)), ("note", .arr [.null, .obj [("é\n", .int 1)]]),
    ("log_runs", .bool true), ("log_file_prefix", .str ""), ("output_directory", .str "runs\\"),
    ("max_steps", .int 9), ("threshold_inf_loop", .int 3)]

theorem store_read_back_noted :
    store .empty [("max_steps", .null)] "a/b/c.json" =
      (.empty, .error (.missingKey "threshold_inf_loop")) ∧
    ∃ (ready : Files) (loaded : Fields), Files.empty.Grows ready ∧
      store .empty noted "a/b/c.json" =
        (ready.write ["a", "b", "c.json"] (Json.obj noted).pretty, .ok ()) ∧
      read (ready.write ["a", "b", "c.json"] (Json.obj noted).pretty) "a/b/c.json" =
        .ok (.ofFields loaded) ∧
      loaded.Perm noted ∧ loaded.get? "note" = some (.arr [.null, .obj [("é\n", .int 1)]]) := by
  obtain ⟨hrefused, hkept, hopen, hlegible⟩ := store_read_back
  have hopened : Files.empty.Open "a/b/c.json" :=
    ⟨⟨by decide, by decide, by decide⟩, by decide, by decide, fun _ _ _ => rfl, by decide⟩
  have hnote : Json.Legible (.arr [.null, .obj [("é\n", .int 1)]]) := by
    have hinner : Json.Legible (.obj [("é\n", .int 1)]) :=
      .obj (by decide) (by simp [Json.unpaired_ofString]) (by simpa using .int 1)
    exact .arr (by simpa using ⟨.null, hinner⟩)
  have hnoted : (Json.obj noted).Legible := by
    refine .obj (by decide) (by simp [noted, Json.unpaired_ofString]) ?_
    simp only [noted, List.forall_mem_cons]
    have htext : ∀ s : String, Json.Legible (.str s) := fun s => .str (Json.unpaired_ofString s)
    exact ⟨.int _, hnote, .bool _, htext _, htext _, .int _, .int _, List.forall_mem_nil _⟩
  obtain ⟨ready, hready, hgrows, hplace⟩ := hopen _ _ hopened
  have hvalid : check (.ofFields noted) = .ok ⟨3, 9, -4, true, "runs\\", ""⟩ := rfl
  obtain ⟨hstore, loaded, hread, hperm, hget⟩ := hkept noted (by decide) ⟨_, hvalid⟩
    (hlegible _ hnoted (by decide) (by decide)) _ _ _ _ hready hplace
  exact ⟨hrefused _ _ rfl _ _, ready, loaded, hgrows, hstore, hread, hperm, (hget _).trans rfl⟩

end Settings

end TapeMachine
