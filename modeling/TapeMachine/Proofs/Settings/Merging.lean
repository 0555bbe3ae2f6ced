import TapeMachine.Proofs.Files.Writes
import TapeMachine.Proofs.Json.Characters
import TapeMachine.Proofs.Settings.Validity
import TapeMachine.Proofs.Text.LineEnds

/-! Files of settings: what they give is laid over the defaults, and accepted if it is valid
then. -/
namespace TapeMachine

open Json (Dictionary Entry Fields Key)
open Text (Letters)

namespace Json

variable {most fuel room : Nat} {cs rest : List Char} {v : Json} {fields : Fields}

/-- The fields that are written in a text, if that is an object: a name can come more than once. -/
inductive FieldsOf (cs : List Char) : List (Letters × Json) → Prop
  | empty {rest behind : List Char} :
      skipSpaces cs = '{' :: rest → skipSpaces rest = '}' :: behind → FieldsOf cs []
  | pairs {fuel : Nat} {rest behind : List Char} {pairs : List (Letters × Json)} :
      skipSpaces cs = '{' :: rest →
      readFields mostDigits fuel (mostNested - 1) (skipSpaces rest) = .ok (pairs, behind) →
      FieldsOf cs pairs

theorem readAtom_ne_obj (fields : Fields) : readAtom most cs ≠ .ok (.obj fields, rest) := by
  intro h
  have hmagnitude : ∀ negative start,
      readMagnitude most negative start ≠ .ok (.obj fields, rest) := by
    intro negative start hread
    unfold readMagnitude at hread
    dsimp only at hread
    split at hread
    · cases hread
    · split at hread
      · split at hread <;> cases hread
      · cases hread
  unfold readAtom at h
  split at h
  · next r hword =>
    rw [Except.ok.inj h] at hword
    obtain ⟨⟨word, v⟩, hmem, hr⟩ := List.exists_of_findSome?_eq_some hword
    obtain ⟨behind, -, hv⟩ := Option.map_eq_some_iff.mp hr
    cases hv
    simp [words] at hmem
  · split at h
    · exact hmagnitude _ _ h
    · exact hmagnitude _ _ h

theorem exists_of_map_eq_ok {ε α β : Type} {f : α → β} {r : Except ε α} {b : β}
    (h : r.map f = .ok b) :
    ∃ a, r = .ok a ∧ f a = b := by
  cases r with
  | error e => cases h
  | ok a => exact ⟨a, rfl, Except.ok.inj h⟩

theorem readValue_eq_obj (h : readValue most (fuel + 1) (room + 1) cs = .ok (.obj fields, rest)) :
    ∃ behind, cs = '{' :: behind ∧ ((∃ more, skipSpaces behind = '}' :: more ∧ fields = []) ∨
      ∃ pairs, readFields most fuel room (skipSpaces behind) = .ok (pairs, rest) ∧
        fields = .ofPairs pairs) := by
  rw [readValue.eq_def] at h
  dsimp only at h
  split at h
  · obtain ⟨r, -, hr⟩ := exists_of_map_eq_ok h
    cases hr
  · cases h
  · split at h
    · cases h
    · obtain ⟨r, -, hr⟩ := exists_of_map_eq_ok h
      cases hr
  · cases h
  · next behind inner hroom =>
    cases hroom
    refine ⟨behind, rfl, ?_⟩
    split at h
    · next more hmore =>
      cases h
      exact .inl ⟨_, hmore, rfl⟩
    · obtain ⟨r, hr, hfields⟩ := exists_of_map_eq_ok h
      cases hfields
      exact .inr ⟨_, hr, rfl⟩
  · exact (readAtom_ne_obj fields h).elim

/-- A text that was written for a value is read as that value, whatever ends lines. -/
theorem Legible.parse_unifyBreaks (h : Legible v) (hdepth : v.depth ≤ mostNested)
    (hlongest : v.longest ≤ mostDigits) (indent : Option Nat) :
    Json.parse (String.ofList (Text.unifyBreaks (write indent 0 v))) = .ok v := by
  rw [Text.unifyBreaks_of_not_mem (h.return_not_mem_write indent 0)]
  exact parseWithin_write h hdepth hlongest indent

/-- An object has the fields that are written, the last of each name. -/
theorem exists_fieldsOf {s : String} (h : Json.parse s = .ok (.obj fields)) :
    ∃ pairs, FieldsOf s.toList pairs ∧ fields = .ofPairs pairs := by
  have htext : readText mostDigits mostNested s.toList = .ok (.obj fields) := by
    unfold Json.parse parseWithin at h
    dsimp only at h
    split at h
    · next hread =>
      cases h
      exact hread
    · cases h
  have hread :
      ∃ rest, readValue mostDigits (2 * s.toList.length + 2) mostNested (skipSpaces s.toList) =
        .ok (.obj fields, rest) := by
    unfold readText at htext
    split at htext
    · cases htext
    · cases hvalue : readValue mostDigits (2 * s.toList.length + 2) mostNested
          (skipSpaces s.toList) with
      | error e =>
        rw [hvalue] at htext
        cases htext
      | ok r =>
        obtain ⟨v, rest⟩ := r
        rw [hvalue] at htext
        dsimp only [bind, Except.bind] at htext
        split at htext <;> cases htext
        exact ⟨rest, rfl⟩
  obtain ⟨rest, hread⟩ := hread
  obtain ⟨behind, hcs, ⟨more, hmore, rfl⟩ | ⟨pairs, hpairs, rfl⟩⟩ := readValue_eq_obj hread
  · exact ⟨[], .empty hcs hmore, rfl⟩
  · exact ⟨pairs, .pairs hcs hpairs, rfl⟩

end Json

namespace Settings

variable {d done : Dictionary} {v : Json} {vs items : List Json} {entries : List Entry}
  {index : Nat} {files : Files} {path : String} {text : String}

/-- The items of a value: those of a list, the characters of a text, the names of an object. -/
inductive Items : Json → List Json → Prop
  | list (vs : List Json) : Items (.arr vs) vs
  | characters (s : Letters) : Items (.str s) (s.map fun l => .str [l])
  | names (fields : Json.Fields) : Items (.obj fields) (fields.map fun f => .str f.1)

/-- A value with two items: a key, which is neither a list nor an object, and its value. -/
def IsPair (v : Json) (e : Entry) : Prop :=
  ∃ key, Items v [key, e.value] ∧ Key.of? key = some e.key ∧ e.name = nameOf key

/-- What a text of settings gives: the fields of an object, as they are written, or the pairs that
are the items of another value. -/
inductive Gives (s : String) : List Entry → Prop
  | object {pairs : List (Letters × Json)} : Json.parse s = .ok (.obj (Fields.ofPairs pairs)) →
      Json.FieldsOf s.toList pairs → Gives s (pairs.map .ofField)
  | pairs {v : Json} {items : List Json} {entries : List Entry} : Json.parse s = .ok v →
      (∀ fields, v ≠ .obj fields) → Items v items → items.Forall₂ IsPair entries → Gives s entries

/-- The dictionary that entries make when they are laid over the defaults. -/
def merged (entries : List Entry) : Dictionary := Dictionary.putAll entries (.ofFields defaults)

theorem items?_eq_some_iff : items? v = some vs ↔ Items v vs := by
  constructor
  · intro h
    cases v with
    | arr items =>
      cases h
      exact .list _
    | str s =>
      cases h
      exact .characters s
    | obj fields =>
      cases h
      exact .names fields
    | null | bool | int | real => cases h
  · intro h
    cases h <;> rfl

theorem entryOf_eq_ok_iff {key value : Json} {e : Entry} : entryOf key value = .ok e ↔
    Key.of? key = some e.key ∧ e.name = nameOf key ∧ e.value = value := by
  obtain ⟨k, name, val⟩ := e
  unfold entryOf
  cases Key.of? key with
  | none => simp
  | some k' => simp [eq_comm]

theorem isPair_iff {key value : Json} {e : Entry} (hv : items? v = some [key, value]) :
    IsPair v e ↔ entryOf key value = .ok e := by
  rw [entryOf_eq_ok_iff]
  constructor
  · rintro ⟨other, hitems, hkey, hname⟩
    rw [← items?_eq_some_iff, hv, Option.some.injEq, List.cons.injEq, List.cons.injEq] at hitems
    obtain ⟨rfl, rfl, -⟩ := hitems
    exact ⟨hkey, hname, rfl⟩
  · rintro ⟨hkey, hname, rfl⟩
    exact ⟨key, items?_eq_some_iff.mp hv, hkey, hname⟩

/-- Pairs are laid over a dictionary if each of them is one. -/
theorem overlayPairs_eq_ok_iff : overlayPairs d index items = .ok done ↔
    ∃ entries, items.Forall₂ IsPair entries ∧ done = d.putAll entries := by
  induction items generalizing d index with
  | nil =>
    rw [overlayPairs, Except.ok.injEq]
    constructor
    · rintro rfl
      exact ⟨[], .nil, rfl⟩
    · rintro ⟨entries, hnil, rfl⟩
      cases hnil
      rfl
  | cons v items ih =>
    have hno : (∀ key value, items? v ≠ some [key, value]) →
        ¬ ∃ entries, (v :: items).Forall₂ IsPair entries ∧ done = d.putAll entries := by
      rintro hv ⟨entries, hentries, -⟩
      cases hentries with
      | cons he hrest =>
        obtain ⟨key, hitems, -⟩ := he
        exact hv _ _ (items?_eq_some_iff.mpr hitems)
    rw [overlayPairs]
    split
    · next hnone =>
      refine iff_of_false nofun (hno fun key value hv => ?_)
      rw [hnone] at hv
      cases hv
    · next key value hv =>
      constructor
      · intro h
        cases he : entryOf key value with
        | error =>
          rw [he] at h
          cases h
        | ok e =>
          rw [he] at h
          obtain ⟨entries, hentries, rfl⟩ := ih.mp h
          exact ⟨e :: entries, .cons ((isPair_iff hv).mpr he) hentries, rfl⟩
      · rintro ⟨entries, hentries, rfl⟩
        cases hentries with
        | cons he hrest =>
          rw [(isPair_iff hv).mp he]
          exact ih.mpr ⟨_, hrest, rfl⟩
    · next others hother hv =>
      refine iff_of_false nofun (hno fun key value htwo => ?_)
      rw [hv, Option.some.injEq] at htwo
      exact hother key value htwo

theorem overlay_eq_ok_iff (hv : ∀ fields, v ≠ .obj fields) : overlay d v = .ok done ↔
    ∃ items, Items v items ∧ ∃ entries, items.Forall₂ IsPair entries ∧ done = d.putAll entries := by
  have hoverlay : overlay d v =
      ((items? v).map (overlayPairs d 0)).getD (.error (.notIterable v.typeName)) := by
    cases v with
    | obj fields => exact (hv fields rfl).elim
    | null | bool | int | real | str | arr => rfl
  simp only [hoverlay, ← items?_eq_some_iff]
  cases items? v with
  | none => simp
  | some items => simp [overlayPairs_eq_ok_iff]

theorem parse_eq_ok_iff_overlay {cs : List Char} : parse cs = .ok d ↔
    ∃ v, Json.parse (String.ofList (Text.unifyBreaks cs)) = .ok v ∧
      overlay (.ofFields defaults) v = .ok d ∧ Valid d := by
  unfold parse
  cases Json.parse (String.ofList (Text.unifyBreaks cs)) with
  | error e => exact iff_of_false nofun nofun
  | ok v =>
    simp only [Except.ok.injEq, exists_eq_left']
    cases overlay (.ofFields defaults) v with
    | error e => exact iff_of_false nofun nofun
    | ok done =>
      rw [Except.ok.injEq, ← check_eq_ok_iff]
      cases hcheck : check done with
      | error e =>
        refine iff_of_false ?_ ?_
        · simp [bind, Except.bind, hcheck]
        · rintro ⟨rfl, s, hs⟩
          rw [hcheck] at hs
          cases hs
      | ok s =>
        simp only [bind, Except.bind, hcheck, pure, Except.pure, Except.ok.injEq]
        constructor
        · rintro rfl
          exact ⟨rfl, s, hcheck⟩
        · exact And.left

/-- A text is accepted if what it gives makes a valid dictionary, and that is what is read. -/
theorem parse_eq_ok_iff {cs : List Char} : parse cs = .ok d ↔
    ∃ entries, Gives (String.ofList (Text.unifyBreaks cs)) entries ∧
      d = merged entries ∧ Valid d := by
  rw [parse_eq_ok_iff_overlay]
  constructor
  · rintro ⟨v, hv, hd, hvalid⟩
    by_cases hobj : ∃ fields, v = .obj fields
    · obtain ⟨fields, rfl⟩ := hobj
      obtain ⟨pairs, hpairs, rfl⟩ := Json.exists_fieldsOf hv
      cases hd
      exact ⟨_, .object hv hpairs, Dictionary.putAll_ofPairs pairs _, hvalid⟩
    · have hno : ∀ fields, v ≠ .obj fields := fun fields h => hobj ⟨fields, h⟩
      obtain ⟨items, hitems, entries, hentries, rfl⟩ := (overlay_eq_ok_iff hno).mp hd
      exact ⟨entries, .pairs hv hno hitems hentries, rfl, hvalid⟩
  · rintro ⟨entries, hgives, rfl, hvalid⟩
    cases hgives with
    | object hv => exact ⟨_, hv, congrArg _ (Dictionary.putAll_ofPairs _ _), hvalid⟩
    | pairs hv hno hitems hentries =>
      exact ⟨_, hv, (overlay_eq_ok_iff hno).mpr ⟨_, hitems, _, hentries, rfl⟩, hvalid⟩

theorem read_of_load (h : files.load path = .ok text) : read files path = parse text.toList := by
  have hholds : files.holds path = true := by
    unfold Files.load at h
    unfold Files.holds
    cases hfind : files.find path with
    | error e =>
      rw [hfind] at h
      cases h
    | ok spot =>
      rw [hfind] at h
      cases spot with
      | text => rfl
      | folder | free => cases h
  simp [read, hholds, h]

/-- A file is accepted if and only if it gives entries that are valid over the defaults; each key
has its last value then, or else the default one. What is valid, and what fault is found, depends on
the six settings alone. -/
theorem read_merged_iff_valid :
    (∀ (files : Files) (path text : String), files.load path = .ok text →
      ∀ d, read files path = .ok d ↔ ∃ entries,
        Gives (String.ofList (Text.unifyBreaks text.toList)) entries ∧
        d = merged entries ∧ Valid d) ∧
    (∀ entries, ((merged entries).map Entry.key).Nodup ∧
      (∀ key, key ∈ (merged entries).map Entry.key ↔
        key ∈ entries.map Entry.key ∨ key ∈ (Dictionary.ofFields defaults).map Entry.key) ∧
      ∀ key, (merged entries).get? key =
        (Dictionary.last? key entries).or ((Dictionary.ofFields defaults).get? key)) ∧
    (∀ d, ((∃ s, check d = .ok s) ↔ Valid d) ∧ ∀ e, check d = .error e ↔ FoundFault d e) ∧
    ∀ d other : Dictionary,
      (∀ setting ∈ schema, d.get? (.text setting.1) = other.get? (.text setting.1)) →
      check d = check other := by
  refine ⟨fun files path text h d => ?_, fun entries => ⟨?_, fun key => ?_, fun key => ?_⟩,
    fun d => ?_, ?_⟩
  · rw [read_of_load h, parse_eq_ok_iff]
  · exact Dictionary.nodup_putAll entries (by decide)
  · exact Dictionary.mem_keys_putAll
  · exact Dictionary.get?_putAll key entries _
  · exact ⟨check_eq_ok_iff, fun e => check_eq_error_iff⟩
  · exact fun d other h => check_congr h

/-- Pairs in a list, one of them a text of two characters, and two of them for the keys one and
true. -/
def listedPairs : Json :=
  .arr [.arr [.str "max_steps", .int 7], .arr [.int 1, .null], .arr [.bool true, .int 6], .str "ab"]

def listedEntries : List Entry :=
  [⟨.text "max_steps", "max_steps", .int 7⟩, ⟨.whole 1, "1", .null⟩, ⟨.whole 1, "true", .int 6⟩,
    ⟨.text "a", "a", .str "b"⟩]

theorem read_merged_iff_valid_listed :
    Files.load ⟨[(["listed.json"], listedPairs.compact)], []⟩ "listed.json" =
      .ok listedPairs.compact ∧
      read ⟨[(["listed.json"], listedPairs.compact)], []⟩ "listed.json" =
        .ok (merged listedEntries) ∧
      (merged listedEntries).get? (.whole 1) = some (.int 6) ∧
      check (merged listedEntries) =
        check (.ofFields (defaults.putAll [("max_steps", .int 7)])) := by
  have hload : Files.load ⟨[(["listed.json"], listedPairs.compact)], []⟩ "listed.json" =
      .ok listedPairs.compact := by
    decide +kernel
  have hlegible : Json.Legible listedPairs := by
    have hname : Json.Legible (.str "max_steps") := .str (Json.unpaired_ofString _)
    have htext : Json.Legible (.str "ab") := .str (Json.unpaired_ofString _)
    refine .arr ?_
    simp only [List.forall_mem_cons]
    refine ⟨.arr ?_, .arr ?_, .arr ?_, htext, List.forall_mem_nil _⟩
    · simpa using ⟨hname, .int 7⟩
    · simpa using ⟨.int 1, .null⟩
    · simpa using ⟨.bool true, .int 6⟩
  have hgives :
      Gives (String.ofList (Text.unifyBreaks listedPairs.compact.toList)) listedEntries := by
    have hparse := hlegible.parse_unifyBreaks (by decide) (by decide) none
    have hpair : ∀ key value k, Key.of? key = some k →
        IsPair (.arr [key, value]) ⟨k, nameOf key, value⟩ :=
      fun key value k hk => ⟨key, .list _, hk, rfl⟩
    have htext : IsPair (.str "ab") ⟨.text "a", "a", .str "b"⟩ := ⟨_, .characters "ab", rfl, rfl⟩
    refine .pairs (by rwa [Json.compact, String.toList_ofList]) (by simp) (.list _) ?_
    exact .cons (hpair _ _ _ rfl)
      (.cons (hpair _ _ _ rfl) (.cons (hpair _ _ _ rfl) (.cons htext .nil)))
  have hvalid : Valid (merged listedEntries) :=
    ⟨⟨100, rfl, by decide⟩, ⟨7, rfl, by decide⟩, ⟨15, rfl⟩, ⟨false, rfl⟩, ⟨_, rfl⟩, ⟨_, rfl⟩⟩
  obtain ⟨hread, hmerged, -, hsame⟩ := read_merged_iff_valid
  refine ⟨hload, (hread _ _ _ hload _).mpr ⟨listedEntries, hgives, rfl, hvalid⟩, ?_, hsame _ _ ?_⟩
  · rw [(hmerged listedEntries).2.2]
    rfl
  · simp only [schema, List.forall_mem_cons]
    exact ⟨rfl, rfl, rfl, rfl, rfl, rfl, List.forall_mem_nil _⟩

end Settings

end TapeMachine
