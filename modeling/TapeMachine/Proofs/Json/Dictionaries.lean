import Mathlib.Data.List.Nodup
import TapeMachine.Json.Dictionary

/-! Dictionaries as they are looked up: the last entry that was put under a key is the one that is
found. -/
namespace TapeMachine.Json

open Text (Letters)

variable {d : Dictionary} {entries : List Entry} {e other : Entry} {key : Key} {name : Letters}
  {fields more : Fields}

namespace Dictionary

/-- The value of the last entry with a key. -/
def last? (key : Key) (entries : List Entry) : Option Json :=
  (entries.reverse.find? fun x => x.key = key).map Entry.value

theorem last?_cons (key : Key) (e : Entry) (entries : List Entry) :
    last? key (e :: entries) =
      (last? key entries).or (if e.key = key then some e.value else none) := by
  rw [last?, List.reverse_cons, List.find?_append, last?]
  cases entries.reverse.find? fun x => x.key = key with
  | some x => rfl
  | none => by_cases hkey : e.key = key <;> simp [hkey]

theorem putAll_cons (e : Entry) (entries : List Entry) (d : Dictionary) :
    putAll (e :: entries) d = putAll entries (put e d) := rfl

theorem get?_putAll (key : Key) (entries : List Entry) (d : Dictionary) :
    get? key (putAll entries d) = (last? key entries).or (get? key d) := by
  induction entries generalizing d with
  | nil => rfl
  | cons e entries ih =>
    rw [putAll_cons, ih, get?_put, last?_cons, Option.or_assoc]
    congr 1
    split <;> rfl

theorem keys_put (e : Entry) (d : Dictionary) : (put e d).map Entry.key =
    if e.key ∈ d.map Entry.key then d.map Entry.key else d.map Entry.key ++ [e.key] := by
  induction d with
  | nil => rfl
  | cons x d ih =>
    rw [put]
    by_cases hx : x.key = e.key
    · rw [if_pos hx, if_pos (by simp [hx])]
      rfl
    · rw [if_neg hx, List.map_cons, ih]
      by_cases he : e.key ∈ d.map Entry.key <;> simp [he, Ne.symm hx]

theorem mem_keys_putAll : key ∈ (putAll entries d).map Entry.key ↔
    key ∈ entries.map Entry.key ∨ key ∈ d.map Entry.key := by
  induction entries generalizing d with
  | nil => simp [putAll]
  | cons e entries ih =>
    have hput : key ∈ (put e d).map Entry.key ↔ key = e.key ∨ key ∈ d.map Entry.key := by
      rw [keys_put]
      split
      · next he => exact ⟨.inr, Or.rec (fun h => h ▸ he) id⟩
      · rw [List.mem_append, List.mem_singleton, or_comm]
    rw [putAll_cons, ih, hput, List.map_cons, List.mem_cons, ← or_assoc, or_comm (b := key = e.key)]

/-- The keys stay distinct. -/
theorem nodup_putAll (entries : List Entry) (h : (d.map Entry.key).Nodup) :
    ((putAll entries d).map Entry.key).Nodup := by
  induction entries generalizing d with
  | nil => exact h
  | cons e entries ih =>
    have hput : ((put e d).map Entry.key).Nodup := by
      rw [keys_put]
      split
      · exact h
      · next he => exact List.nodup_append.mpr ⟨h, List.nodup_singleton _, by simpa using he⟩
    exact ih hput

theorem put_put (h : e.key = other.key) :
    put other (put e d) = put { e with value := other.value } d := by
  induction d with
  | nil => simp [put, h]
  | cons x d ih =>
    rw [put, put]
    split
    · next hx => rw [put, if_pos (hx.trans h)]
    · next hx => rw [put, if_neg fun hother => hx (hother.trans h.symm), ih]

/-- A value for a key that is there can be put before or after those for other keys. -/
theorem put_comm (h : e.key ∈ d.map Entry.key) (hne : e.key ≠ other.key) :
    put e (put other d) = put other (put e d) := by
  induction d with
  | nil => cases h
  | cons x d ih =>
    by_cases hx : x.key = e.key
    · have hother : x.key ≠ other.key := fun hother => hne (hx.symm.trans hother)
      simp [put, hx, hne]
    · have hd : e.key ∈ d.map Entry.key := (List.mem_cons.mp h).resolve_left (Ne.symm hx)
      by_cases hother : x.key = other.key
      · simp [put, hother, Ne.symm hne]
      · simp [put, hx, hother, ih hd]

theorem put_putAll (h : e.key ∈ d.map Entry.key) (hnew : e.key ∉ entries.map Entry.key) :
    put e (putAll entries d) = putAll entries (put e d) := by
  induction entries generalizing d with
  | nil => rfl
  | cons x entries ih =>
    rw [List.map_cons, List.mem_cons, not_or] at hnew
    have hx : e.key ∈ (put x d).map Entry.key := by
      rw [keys_put]
      split
      · exact h
      · exact List.mem_append_left _ h
    rw [putAll_cons, putAll_cons, ih hx hnew.2, put_comm h hnew.1]

theorem putAll_put (e : Entry) (d : Dictionary) (h : (entries.map Entry.key).Nodup) :
    putAll (put e entries) d = put e (putAll entries d) := by
  induction entries generalizing d with
  | nil => rfl
  | cons x entries ih =>
    obtain ⟨hx, hentries⟩ := List.nodup_cons.mp h
    rw [put]
    split
    · next hkey =>
      have hput : e.key ∈ (put x d).map Entry.key := by
        rw [keys_put, hkey]
        split
        · assumption
        · exact List.mem_append_right _ (List.mem_singleton_self _)
      rw [putAll_cons, putAll_cons, put_putAll hput (hkey ▸ hx), put_put hkey]
    · rw [putAll_cons, putAll_cons, ih _ hentries]

/-- Entries can be put into a dictionary one by one, or into one of their own first. -/
theorem putAll_putAll (entries : List Entry) (d : Dictionary) {first : Dictionary}
    (h : (first.map Entry.key).Nodup) :
    putAll (putAll entries first) d = putAll entries (putAll first d) := by
  induction entries generalizing first with
  | nil => rfl
  | cons e entries ih =>
    have hput : ((put e first).map Entry.key).Nodup := nodup_putAll [e] h
    rw [putAll_cons, putAll_cons, ih hput, putAll_put e d h]

theorem get?_eq_none_iff : get? key d = none ↔ key ∉ d.map Entry.key := by
  induction d with
  | nil => simp [get?]
  | cons x d ih =>
    rw [get?, List.map_cons, List.mem_cons, not_or]
    split
    · next hx => simp [hx]
    · next hx => rw [ih, and_iff_right (Ne.symm hx)]

theorem get?_texts (name : Letters) (d : Dictionary) : d.texts.get? name = get? (.text name) d := by
  induction d with
  | nil => rfl
  | cons x d ih =>
    rw [get?, ← ih, texts, texts, List.filterMap_cons]
    cases hkey : x.key with
    | text s => simp [Fields.get?]
    | null | whole | real => simp

/-! ### Entries of objects -/

theorem texts_ofFields (fields : Fields) : (ofFields fields).texts = fields := by
  rw [texts, ofFields, List.filterMap_map]
  exact List.filterMap_some

theorem get?_ofFields (name : Letters) (fields : Fields) :
    get? (.text name) (ofFields fields) = fields.get? name := by
  rw [← get?_texts, texts_ofFields]

theorem keys_ofFields (fields : Fields) :
    (ofFields fields).map Entry.key = (fields.map Prod.fst).map .text := by
  rw [ofFields, List.map_map, List.map_map]
  rfl

/-- Among fields of distinct names the last of a name is the one that is found. -/
theorem last?_ofField (name : Letters) (h : (fields.map Prod.fst).Nodup) :
    last? (.text name) (fields.map .ofField) = fields.get? name := by
  induction fields with
  | nil => rfl
  | cons f fields ih =>
    obtain ⟨hf, hfields⟩ := List.nodup_cons.mp h
    have hkey : (Entry.ofField f).key = .text name ↔ f.1 = name := ⟨Key.text.inj, congrArg Key.text⟩
    rw [List.map_cons, last?_cons, ih hfields, Fields.get?, if_congr hkey rfl rfl]
    split
    · next hname =>
      have hnone : Fields.get? name fields = none := by
        rw [← get?_ofFields, get?_eq_none_iff, keys_ofFields]
        simpa [← hname] using hf
      rw [hnone, Option.none_or]
      rfl
    · rw [Option.or_none]

theorem nodup_keys_ofFields : ((ofFields fields).map Entry.key).Nodup ↔
    (fields.map Prod.fst).Nodup := by
  rw [keys_ofFields]
  exact List.nodup_map_iff fun _ _ => Key.text.inj

theorem putAll_ofFields (fields more : Fields) :
    putAll (more.map .ofField) (ofFields fields) = ofFields (fields.putAll more) := by
  have hput : ∀ (f : Letters × Json) (fields : Fields),
      put (.ofField f) (ofFields fields) = ofFields (fields.put f.1 f.2) := by
    intro f fields
    induction fields with
    | nil => rfl
    | cons x fields ih =>
      have hcons : ofFields (x :: fields) = .ofField x :: ofFields fields := rfl
      rw [hcons, put, Fields.put, ih]
      by_cases hx : x.1 = f.1 <;> simp [Entry.ofField, ofFields, hx]
  induction more generalizing fields with
  | nil => rfl
  | cons f more ih =>
    rw [List.map_cons, putAll_cons, hput, ih]
    rfl

/-- Of pairs of one name the last counts, and so it does when each of them is put. -/
theorem putAll_ofPairs (pairs : List (Letters × Json)) (d : Dictionary) :
    putAll ((Fields.ofPairs pairs).map .ofField) d = putAll (pairs.map .ofField) d := by
  have hfields : (Fields.ofPairs pairs).map .ofField = putAll (pairs.map .ofField) [] :=
    (putAll_ofFields [] pairs).symm
  exact hfields ▸ putAll_putAll (pairs.map .ofField) d List.nodup_nil

end Dictionary

namespace Fields

theorem get?_putAll (name : Letters) (fields more : Fields) : (fields.putAll more).get? name =
    (Dictionary.last? (.text name) (more.map .ofField)).or (fields.get? name) := by
  rw [← Dictionary.get?_ofFields, ← Dictionary.putAll_ofFields, Dictionary.get?_putAll,
    Dictionary.get?_ofFields]

theorem nodup_putAll (more : Fields) (h : (fields.map Prod.fst).Nodup) :
    ((fields.putAll more).map Prod.fst).Nodup := by
  rw [← Dictionary.nodup_keys_ofFields, ← Dictionary.putAll_ofFields]
  exact Dictionary.nodup_putAll _ (Dictionary.nodup_keys_ofFields.mpr h)

/-- Among fields of distinct names each is the one that is found. -/
theorem mem_iff (h : (fields.map Prod.fst).Nodup) {f : Letters × Json} :
    f ∈ fields ↔ fields.get? f.1 = some f.2 := by
  induction fields with
  | nil => simp [get?]
  | cons x fields ih =>
    obtain ⟨hx, hfields⟩ := List.nodup_cons.mp h
    rw [List.mem_cons, get?]
    split
    · next hname =>
      have hother : f ∉ fields := by
        intro hf
        exact hx (hname ▸ List.mem_map_of_mem hf)
      rw [or_iff_left hother, Option.some.injEq, Prod.ext_iff, eq_comm (a := f.2)]
      exact and_iff_right hname.symm
    · next hname =>
      have hne : f ≠ x := by
        rintro rfl
        exact hname rfl
      rw [or_iff_right hne]
      exact ih hfields

/-- Fields of distinct names in which the same is found are the same up to their order. -/
theorem perm_of_get? (h : (fields.map Prod.fst).Nodup) (hmore : (more.map Prod.fst).Nodup)
    (hget : ∀ name, fields.get? name = more.get? name) : fields.Perm more := by
  refine (List.perm_ext_iff_of_nodup (.of_map _ h) (.of_map _ hmore)).mpr fun f => ?_
  rw [mem_iff h, mem_iff hmore, hget]

end Fields

end TapeMachine.Json
