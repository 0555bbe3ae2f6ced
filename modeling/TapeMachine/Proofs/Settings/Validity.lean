import TapeMachine.Proofs.Json.Dictionaries
import TapeMachine.Settings

/-! What settings are valid, and which fault is found when there are several. -/
namespace TapeMachine.Settings

open Json (Dictionary Key)

variable {d other : Dictionary} {key : String} {n : Int}

/-- Kinds of values that settings have. -/
inductive Kind where
  | whole
  | truth
  | words
  deriving DecidableEq

namespace Kind

def name : Kind → String
  | whole => "int"
  | truth => "bool"
  | words => "str"

/-- Whether a value is of a kind; a truth value is no number. -/
def fits : Kind → Json → Bool
  | whole, .int _ => true
  | truth, .bool _ => true
  | words, .str _ => true
  | _, _ => false

end Kind

/-- The settings that there have to be, in order. -/
def schema : List (String × Kind) :=
  [("threshold_inf_loop", .whole), ("max_steps", .whole), ("tape_window", .whole),
    ("log_runs", .truth), ("output_directory", .words), ("log_file_prefix", .words)]

/-- What is wrong with one setting: it is missing, or of another kind. -/
def fault? (d : Dictionary) (setting : String × Kind) : Option SettingsError :=
  match d.get? (.text setting.1) with
  | none => some (.missingKey setting.1)
  | some v =>
    if setting.2.fits v then none else some (.wrongType setting.1 setting.2.name v.typeName)

/-- A number that is too small, where its setting has one. -/
def tooSmall? (d : Dictionary) (key : String) : Option SettingsError :=
  match d.get? (.text key) with
  | some (.int n) => if n < 1 then some (.notPositive key n) else none
  | _ => none

/-- All settings are there with values of their kinds, and the two bounds are positive. -/
structure Valid (d : Dictionary) : Prop where
  limit : ∃ n, d.get? (.text "threshold_inf_loop") = some (.int n) ∧ 1 ≤ n
  maxSteps : ∃ n, d.get? (.text "max_steps") = some (.int n) ∧ 1 ≤ n
  window : ∃ n, d.get? (.text "tape_window") = some (.int n)
  logRuns : ∃ b, d.get? (.text "log_runs") = some (.bool b)
  folder : ∃ s, d.get? (.text "output_directory") = some (.str s)
  stem : ∃ s, d.get? (.text "log_file_prefix") = some (.str s)

theorem typed_texts {α : Type} (type : String) (as? : Json → Option α)
    (h : d.get? (.text key) = other.get? (.text key)) :
    typed type as? d.texts key = typed type as? other.texts key := by
  rw [typed, typed, Dictionary.get?_texts, Dictionary.get?_texts, h]

/-- Only the six settings count. -/
theorem check_congr
    (h : ∀ setting ∈ schema, d.get? (.text setting.1) = other.get? (.text setting.1)) :
    check d = check other := by
  simp only [schema, List.forall_mem_cons] at h
  obtain ⟨hlimit, hmax, hwindow, hruns, hfolder, hstem, -⟩ := h
  unfold check ofFields wholeNumber truth words
  rw [typed_texts _ _ hlimit, typed_texts _ _ hmax, typed_texts _ _ hwindow, typed_texts _ _ hruns,
    typed_texts _ _ hfolder, typed_texts _ _ hstem]

/-- What is read is at fault, or a value of which something holds. -/
inductive Reads {α : Type} (P : α → Prop) : Option SettingsError → Except SettingsError α → Prop
  | fault (e : SettingsError) : Reads P (some e) (.error e)
  | value {a : α} : P a → Reads P none (.ok a)

namespace Reads

variable {α β : Type} {P : α → Prop} {Q : β → Prop} {fault more : Option SettingsError}
  {r : Except SettingsError α} {next : α → Except SettingsError β}

/-- The fault of what is read first counts. -/
theorem bind (h : Reads P fault r) (hnext : ∀ a, P a → Reads Q more (next a)) :
    Reads Q (fault.or more) (r >>= next) := by
  cases h with
  | fault e => exact .fault e
  | value ha => exact hnext _ ha

theorem error_iff (h : Reads P fault r) {e : SettingsError} : r = .error e ↔ fault = some e := by
  cases h with
  | fault e' => rw [Except.error.injEq, Option.some.injEq]
  | value ha => exact iff_of_false nofun nofun

theorem ok_iff (h : Reads P fault r) : (∃ a, r = .ok a) ↔ fault = none := by
  cases h with
  | fault e => exact iff_of_false nofun nofun
  | value ha => exact iff_of_true ⟨_, rfl⟩ rfl

theorem holds (h : Reads P none r) : ∃ a, P a := by
  cases h with
  | value ha => exact ⟨_, ha⟩

end Reads

/-- A setting is at fault, or has a value of its kind. -/
theorem typed_reads {α : Type} {kind : Kind} {as? : Json → Option α} {wrap : α → Json}
    (has : ∀ v, (as? v = none ∧ kind.fits v = false) ∨
      ∃ a, as? v = some a ∧ v = wrap a ∧ kind.fits v = true)
    (d : Dictionary) (key : String) :
    Reads (fun a => d.get? (.text key) = some (wrap a)) (fault? d (key, kind))
      (typed kind.name as? d.texts key) := by
  unfold fault? typed
  rw [Dictionary.get?_texts]
  cases d.get? (.text key) with
  | none => exact .fault _
  | some v =>
    rcases has v with ⟨hnone, hfits⟩ | ⟨a, ha, hv, hfits⟩
    · simp only [hnone, hfits]
      exact .fault _
    · simp only [ha, hfits]
      exact .value (congrArg some hv)

theorem wholeNumber_reads (d : Dictionary) (key : String) :
    Reads (fun n => d.get? (.text key) = some (.int n)) (fault? d (key, .whole))
      (wholeNumber d.texts key) :=
  typed_reads (fun v => by cases v <;> simp [Kind.fits]) d key

theorem truth_reads (d : Dictionary) (key : String) :
    Reads (fun b => d.get? (.text key) = some (.bool b)) (fault? d (key, .truth))
      (truth d.texts key) :=
  typed_reads (fun v => by cases v <;> simp [Kind.fits]) d key

theorem words_reads (d : Dictionary) (key : String) :
    Reads (fun s => d.get? (.text key) = some (.str s)) (fault? d (key, .words))
      (words d.texts key) :=
  typed_reads (fun v => by cases v <;> simp [Kind.fits]) d key

theorem positive_reads (h : d.get? (.text key) = some (.int n)) :
    Reads (fun _ => 1 ≤ n) (tooSmall? d key) (positive key n) := by
  rw [tooSmall?, h, positive]
  dsimp only
  split
  · exact .fault _
  · next hn => exact .value (by omega)

/-- The first fault in order, those of the settings before those of the bounds. -/
def firstFault? (d : Dictionary) : Option SettingsError :=
  (schema.findSome? (fault? d)).or ((tooSmall? d "threshold_inf_loop").or (tooSmall? d "max_steps"))

/-- The settings are looked at in order, and the bounds after all of them. -/
theorem check_reads (d : Dictionary) : Reads (fun _ => Valid d) (firstFault? d) (check d) := by
  have hcons : ∀ setting rest, (setting :: rest).findSome? (fault? d) =
      (fault? d setting).or (rest.findSome? (fault? d)) := by
    intro setting rest
    rw [List.findSome?_cons]
    cases fault? d setting <;> rfl
  have hlast : (tooSmall? d "max_steps").or none = tooSmall? d "max_steps" := Option.or_none
  simp only [firstFault?, schema, hcons, List.findSome?_nil, Option.or_assoc, Option.none_or]
  rw [← hlast]
  refine (wholeNumber_reads d _).bind fun limit hlimit => ?_
  refine (wholeNumber_reads d _).bind fun maxSteps hmax => ?_
  refine (wholeNumber_reads d _).bind fun window hwindow => ?_
  refine (truth_reads d _).bind fun logRuns hruns => ?_
  refine (words_reads d _).bind fun folder hfolder => ?_
  refine (words_reads d _).bind fun stem hstem => ?_
  refine (positive_reads hlimit).bind fun _ hlow => ?_
  refine (positive_reads hmax).bind fun _ hlow' => ?_
  exact .value
    ⟨⟨_, hlimit, hlow⟩, ⟨_, hmax, hlow'⟩, ⟨_, hwindow⟩, ⟨_, hruns⟩, ⟨_, hfolder⟩, ⟨_, hstem⟩⟩

/-- The fault that is found among several: that of the first setting with one and, only when all of
them are there with values of their kinds, that of the first bound with one. -/
def FoundFault (d : Dictionary) (e : SettingsError) : Prop :=
  (∃ before setting after, schema = before ++ setting :: after ∧
    (∀ other ∈ before, fault? d other = none) ∧
    fault? d setting = some e) ∨
  ((∀ setting ∈ schema, fault? d setting = none) ∧
    (tooSmall? d "threshold_inf_loop").or (tooSmall? d "max_steps") = some e)

theorem check_eq_error_iff {e : SettingsError} : check d = .error e ↔ FoundFault d e := by
  rw [(check_reads d).error_iff, firstFault?, FoundFault, Option.or_eq_some_iff,
    List.findSome?_eq_some_iff, List.findSome?_eq_none_iff]
  constructor
  · rintro (⟨before, setting, after, hschema, hfault, hbefore⟩ | h)
    · exact .inl ⟨before, setting, after, hschema, hbefore, hfault⟩
    · exact .inr h
  · rintro (⟨before, setting, after, hschema, hbefore, hfault⟩ | h)
    · exact .inl ⟨before, setting, after, hschema, hfault, hbefore⟩
    · exact .inr h

/-- Settings are accepted if and only if they are valid. -/
theorem check_eq_ok_iff : (∃ s, check d = .ok s) ↔ Valid d := by
  have hreads := check_reads d
  rw [hreads.ok_iff]
  constructor
  · intro hnone
    rw [hnone] at hreads
    obtain ⟨-, hvalid⟩ := hreads.holds
    exact hvalid
  · rintro ⟨⟨_, hlimit, hlow⟩, ⟨_, hmax, hlow'⟩, ⟨_, hwindow⟩, ⟨_, hruns⟩, ⟨_, hfolder⟩, ⟨_, hstem⟩⟩
    have hbounded : ∀ {key : String} {n}, d.get? (.text key) = some (.int n) → 1 ≤ n →
        tooSmall? d key = none := by
      intro key n hn hlow
      simp only [tooSmall?, hn]
      exact if_neg (by omega)
    simp [firstFault?, schema, fault?, Kind.fits, hlimit, hmax, hwindow, hruns, hfolder, hstem,
      hbounded hlimit hlow, hbounded hmax hlow']

end TapeMachine.Settings
