import TapeMachine.Proofs.Json.Values

/-! The characters that values are written with: those in print, and line feeds where there are
lines. -/
namespace TapeMachine.Json

open Text (Letter Letters)

variable {indent : Option Nat} {level : Nat} {c : Char} {cs more : List Char} {v : Json}

/-- Characters of ASCII that are neither controls nor deletion. -/
def InPrint (c : Char) : Prop := 0x20 ≤ c.toNat ∧ c.toNat < 0x7f

instance (c : Char) : Decidable (InPrint c) := inferInstanceAs (Decidable (_ ∧ _))

theorem inPrint_of_all (h : cs.all (fun c => decide (InPrint c)) = true) : ∀ c ∈ cs, InPrint c := by
  simpa using h

theorem inPrint_toDigits (n : Nat) : ∀ c ∈ Nat.toDigits 10 n, InPrint c := by
  intro c hc
  have hdigit := isDigit_toDigits n c hc
  simp only [Char.isDigit, Bool.and_eq_true, decide_eq_true_eq] at hdigit
  have hlow : 0x30 ≤ c.toNat := hdigit.1
  have hhigh : c.toNat ≤ 0x39 := hdigit.2
  exact ⟨by omega, by omega⟩

theorem inPrint_replicate (hc : InPrint c) (count : Nat) :
    ∀ d ∈ List.replicate count c, InPrint d := by
  intro d hd
  rwa [List.eq_of_mem_replicate hd]

theorem inPrint_append (h : ∀ c ∈ cs, InPrint c) (hmore : ∀ c ∈ more, InPrint c) :
    ∀ c ∈ cs ++ more, InPrint c :=
  List.forall_mem_append.mpr ⟨h, hmore⟩

theorem inPrint_escapeUnit (n : Nat) : ∀ c ∈ escapeUnit n, InPrint c := by
  have hdigit : ∀ m, InPrint (Text.hexDigit (m % 16)) := by
    intro m
    have hall : ∀ k < 16, InPrint (Text.hexDigit k) := by decide
    exact hall _ (Nat.mod_lt m (by decide))
  have hfirst : InPrint '\\' ∧ InPrint 'u' := by decide
  simp [escapeUnit, Text.hexDigits, hdigit, hfirst]

theorem inPrint_writeLetter (l : Letter) : ∀ c ∈ writeLetter l, InPrint c := by
  cases l with
  | half unit => exact inPrint_escapeUnit unit
  | char c =>
    rw [writeLetter, writeChar]
    split_ifs with hquote _ _ _ _ _ hplain
    · simp only [Bool.or_eq_true, decide_eq_true_eq] at hquote
      rcases hquote with rfl | rfl <;> exact inPrint_of_all (by decide)
    iterate 5 exact inPrint_of_all (by decide)
    · simpa [InPrint] using hplain
    · rw [escapeCodePoint]
      split
      · exact inPrint_escapeUnit _
      · exact inPrint_append (inPrint_escapeUnit _) (inPrint_escapeUnit _)

theorem inPrint_writeString (s : Letters) : ∀ c ∈ writeString s, InPrint c := by
  have hletters : ∀ c ∈ s.flatMap writeLetter, InPrint c := by
    intro c hc
    obtain ⟨l, -, hc⟩ := List.mem_flatMap.mp hc
    exact inPrint_writeLetter l c hc
  exact List.forall_mem_cons.mpr ⟨by decide, inPrint_append hletters (inPrint_of_all (by decide))⟩

theorem inPrint_decimalText (digits : Nat) (scale : Int) :
    ∀ c ∈ (Binary64.decimalText digits scale).toList, InPrint c := by
  have hdigits := inPrint_toDigits digits
  have htake : ∀ k, ∀ c ∈ (Nat.toDigits 10 digits).take k, InPrint c :=
    fun k c hc => hdigits c (List.mem_of_mem_take hc)
  have hdrop : ∀ k, ∀ c ∈ (Nat.toDigits 10 digits).drop k, InPrint c :=
    fun k c hc => hdigits c (List.mem_of_mem_drop hc)
  have hexponent : ∀ place, ∀ c ∈ (Binary64.exponentText place).toList, InPrint c := by
    intro place
    obtain ⟨count, htext⟩ := toList_exponentText place
    have hsign : InPrint (if place < 0 then '-' else '+') := by split <;> decide
    rw [htext]
    exact List.forall_mem_cons.mpr ⟨by decide, List.forall_mem_cons.mpr ⟨hsign,
      inPrint_append (inPrint_replicate (by decide) _) (inPrint_toDigits _)⟩⟩
  have hpoint : ∀ (p : Prop) [Decidable p] (cs ds : List Char), (∀ c ∈ cs, InPrint c) →
      (∀ c ∈ ds, InPrint c) →
      ∀ c ∈ if p then cs else ds, InPrint c := by
    intro p _ cs ds hcs hds
    split
    · exact hcs
    · exact hds
  unfold Binary64.decimalText
  dsimp only
  generalize scale + ((Nat.toDigits 10 digits).length : Int) - 1 = place
  split
  · rw [String.toList_append, String.toList_ofList]
    refine inPrint_append (inPrint_append (htake 1) (hpoint _ _ _ (List.forall_mem_nil _) ?_))
      (hexponent place)
    exact List.forall_mem_cons.mpr ⟨by decide, hdrop 1⟩
  · split
    · rw [String.toList_append, String.toList_ofList, String.toList_ofList]
      exact inPrint_append (inPrint_of_all (by decide))
        (inPrint_append (inPrint_replicate (by decide) _) hdigits)
    · rw [String.toList_ofList]
      refine inPrint_append (inPrint_append (htake _) (inPrint_replicate (by decide) _)) ?_
      exact List.forall_mem_cons.mpr
        ⟨by decide, hpoint _ _ _ (inPrint_of_all (by decide)) (hdrop _)⟩

theorem inPrint_text (x : Binary64) : ∀ c ∈ x.text.toList, InPrint c := by
  cases x with
  | finite negative m e =>
    have hsign : ∀ c ∈ (if negative then "-" else "").toList, InPrint c := by
      cases negative <;> exact inPrint_of_all (by decide)
    have hmagnitude : ∀ c ∈ (Binary64.magnitudeText m e).toList, InPrint c := by
      unfold Binary64.magnitudeText
      split
      · exact inPrint_of_all (by decide)
      · exact inPrint_decimalText _ _
    rw [Binary64.text, String.toList_append]
    exact inPrint_append hsign hmagnitude
  | infinite negative => cases negative <;> exact inPrint_of_all (by decide)
  | nan => exact inPrint_of_all (by decide)

theorem inPrint_int (n : Int) : ∀ c ∈ (toString n).toList, InPrint c := by
  rw [toList_int]
  refine inPrint_append ?_ (inPrint_toDigits _)
  split <;> exact inPrint_of_all (by decide)

/-- A character in print, or a line feed where values are written on many lines. -/
def Written (indent : Option Nat) (c : Char) : Prop := InPrint c ∨ indent ≠ none ∧ c = '\n'

theorem written_of_inPrint (h : ∀ c ∈ cs, InPrint c) : ∀ c ∈ cs, Written indent c :=
  fun c hc => .inl (h c hc)

theorem written_append (h : ∀ c ∈ cs, Written indent c) (hmore : ∀ c ∈ more, Written indent c) :
    ∀ c ∈ cs ++ more, Written indent c :=
  List.forall_mem_append.mpr ⟨h, hmore⟩

theorem written_cons (hc : InPrint c) (hmore : ∀ d ∈ more, Written indent d) :
    ∀ d ∈ c :: more, Written indent d :=
  List.forall_mem_cons.mpr ⟨.inl hc, hmore⟩

theorem written_newline : ∀ c ∈ newline indent level, Written indent c := by
  have hblank : InPrint ' ' := by decide
  cases indent with
  | none => exact List.forall_mem_nil _
  | some width =>
    exact List.forall_mem_cons.mpr
      ⟨.inr ⟨Option.some_ne_none width, rfl⟩, written_of_inPrint (inPrint_replicate hblank _)⟩

theorem written_separator : ∀ c ∈ separator indent level, Written indent c := by
  have hmarks : InPrint ',' ∧ InPrint ' ' := by decide
  cases indent with
  | none => exact written_cons hmarks.1 (written_cons hmarks.2 (List.forall_mem_nil _))
  | some width => exact written_cons hmarks.1 written_newline

theorem written_field (h : ∀ c ∈ write indent level v, Written indent c) (name : Letters) :
    ∀ c ∈ writeString name ++ (':' :: ' ' :: write indent level v), Written indent c := by
  have hmarks : InPrint ':' ∧ InPrint ' ' := by decide
  exact written_append (written_of_inPrint (inPrint_writeString name))
    (written_cons hmarks.1 (written_cons hmarks.2 h))

theorem written_items {vs : List Json}
    (h : ∀ v ∈ vs, ∀ c ∈ write indent level v, Written indent c) :
    ∀ c ∈ writeItems indent level vs, Written indent c := by
  induction vs with
  | nil => exact List.forall_mem_nil _
  | cons v vs ih =>
    obtain ⟨hv, hvs⟩ := List.forall_mem_cons.mp h
    rw [writeItems]
    exact written_append (written_append written_separator hv) (ih hvs)

theorem written_fields {fs : Fields}
    (h : ∀ f ∈ fs, ∀ c ∈ write indent level f.2, Written indent c) :
    ∀ c ∈ writeFields indent level fs, Written indent c := by
  induction fs with
  | nil => exact List.forall_mem_nil _
  | cons f fs ih =>
    obtain ⟨hf, hfs⟩ := List.forall_mem_cons.mp h
    have htext : writeFields indent level (f :: fs) = separator indent level ++
        (writeString f.1 ++ (':' :: ' ' :: write indent level f.2)) ++
          writeFields indent level fs := by
      rw [writeFields]
      simp
    rw [htext]
    exact written_append (written_append written_separator (written_field hf f.1)) (ih hfs)

/-- Values are written in print, with line feeds at most between the lines. -/
theorem Legible.written (h : Legible v) (level : Nat) : ∀ c ∈ write indent level v,
    Written indent c := by
  induction h generalizing level with
  | null =>
    rw [write]
    exact written_of_inPrint (inPrint_of_all (by decide))
  | bool b =>
    cases b <;> rw [write] <;> exact written_of_inPrint (inPrint_of_all (by decide))
  | int n =>
    rw [write]
    exact written_of_inPrint (inPrint_int n)
  | finite | infinite | nan =>
    rw [write]
    exact written_of_inPrint (inPrint_text _)
  | @str s h =>
    rw [write]
    exact written_of_inPrint (inPrint_writeString s)
  | @arr vs h ih =>
    have hmarks : InPrint '[' ∧ InPrint ']' := by decide
    have hclose : ∀ c ∈ [']'], Written indent c := written_cons hmarks.2 (List.forall_mem_nil _)
    cases vs with
    | nil =>
      rw [write]
      exact written_cons hmarks.1 hclose
    | cons v vs =>
      obtain ⟨hv, hvs⟩ := List.forall_mem_cons.mp fun v hv => ih v hv (level + 1)
      rw [write_arr]
      exact written_cons hmarks.1 (written_append written_newline (written_append hv
        (written_append (written_items hvs) (written_append written_newline hclose))))
  | @obj fs hdistinct hnames h ih =>
    have hmarks : InPrint '{' ∧ InPrint '}' := by decide
    have hclose : ∀ c ∈ ['}'], Written indent c := written_cons hmarks.2 (List.forall_mem_nil _)
    cases fs with
    | nil =>
      rw [write]
      exact written_cons hmarks.1 hclose
    | cons f fs =>
      obtain ⟨name, v⟩ := f
      obtain ⟨hv, hfs⟩ := List.forall_mem_cons.mp fun f hf => ih f hf (level + 1)
      have htext : write indent level (Json.obj ((name, v) :: fs)) = '{' ::
          (newline indent (level + 1) ++
          ((writeString name ++ (':' :: ' ' :: write indent (level + 1) v)) ++
            (writeFields indent (level + 1) fs ++ (newline indent level ++ ['}'])))) := by
        rw [write_obj]
        simp
      rw [htext]
      exact written_cons hmarks.1
        (written_append written_newline (written_append (written_field hv name)
        (written_append (written_fields hfs) (written_append written_newline hclose))))

theorem Legible.return_not_mem_write (h : Legible v) (indent : Option Nat) (level : Nat) :
    '\r' ∉ write indent level v := by
  intro hmem
  rcases h.written level _ hmem with hprint | ⟨-, hfeed⟩
  · exact absurd hprint (by decide)
  · exact absurd hfeed (by decide)

/-! ### Lists of texts -/

/-- Texts as strings of JSON. -/
def strings (texts : List String) : List Json := texts.map fun s => .str (Letters.ofString s)

theorem legible_strings (name : String) (texts : List String) :
    Legible (obj [(Letters.ofString name, arr (strings texts))]) := by
  refine .obj (List.nodup_singleton _) ?_ ?_
  · exact List.forall_mem_singleton.mpr (unpaired_ofString name)
  · refine List.forall_mem_singleton.mpr (.arr fun v hv => ?_)
    obtain ⟨s, -, rfl⟩ := List.mem_map.mp hv
    exact .str (unpaired_ofString s)

theorem greatest_strings {measure : Json → Nat} (h : ∀ s, measure (.str s) = 0) (layer : Nat)
    (name : String)
    (texts : List String) :
    greatest measure layer (obj [(Letters.ofString name, arr (strings texts))]) =
      layer + layer := by
  have hitems : greatestOfItems measure layer (strings texts) = 0 := by
    induction texts with
    | nil => rfl
    | cons s texts ih => exact (congrArg₂ max (h (Letters.ofString s)) ih).trans (Nat.max_self 0)
  simp [greatest, greatestOfFields, hitems]

/-- An object with one list of texts is read back. -/
theorem parse_pretty_strings (name : String) (texts : List String) :
    parse (obj [(Letters.ofString name, .arr (strings texts))]).pretty =
      .ok (.obj [(Letters.ofString name, .arr (strings texts))]) := by
  have hdepth : depth _ = 2 := greatest_strings (fun _ => rfl) 1 name texts
  have hlongest : longest _ = 0 := greatest_strings (fun _ => rfl) 0 name texts
  exact parseWithin_write (legible_strings name texts) (hdepth.trans_le (by decide))
    (hlongest.trans_le (by decide))
    (some 4)

theorem not_mem_pretty_strings (name : String) (texts : List String) :
    '\r' ∉ (obj [(Letters.ofString name, .arr (strings texts))]).pretty.toList := by
  rw [pretty, String.toList_ofList]
  exact (legible_strings name texts).return_not_mem_write (some 4) 0

end TapeMachine.Json
