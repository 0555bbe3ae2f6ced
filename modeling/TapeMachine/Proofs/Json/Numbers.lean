import TapeMachine.Json.Reader
import TapeMachine.Json.Writer
import TapeMachine.Proofs.Binary64.Shortest

/-! Numbers of JSON are read as the numbers they were written for, where no digit can follow
them. -/
namespace TapeMachine.Json

variable {c : Char} {most : Nat} {negative : Bool} {whole fraction ds cs rest : List Char}
  {exponent : Option Int}

/-- Digits to the end of what is read. -/
structure Digits (ds cs : List Char) : Prop where
  digits : ∀ c ∈ ds, c.isDigit = true
  apart : ∀ c ∈ cs.head?, c.isDigit = false

theorem Digits.takeWhile (h : Digits ds cs) : (ds ++ cs).takeWhile Char.isDigit = ds := by
  rw [List.takeWhile_append_of_pos h.digits]
  cases cs with
  | nil => exact List.append_nil ds
  | cons c cs => rw [List.takeWhile_cons_of_neg (by simp [h.apart c rfl]), List.append_nil]

theorem Digits.dropWhile (h : Digits ds cs) : (ds ++ cs).dropWhile Char.isDigit = cs := by
  rw [List.dropWhile_append_of_pos h.digits]
  cases cs with
  | nil => rfl
  | cons c cs => rw [List.dropWhile_cons_of_neg (by simp [h.apart c rfl])]

/-- The digits of a whole number: there is no zero before them. -/
structure IsWhole (ds : List Char) : Prop where
  digits : ∀ c ∈ ds, c.isDigit = true
  ne_nil : ds ≠ []
  zero : ds.head? = some '0' → ds = ['0']

/-- A text that goes on neither with a digit nor with another part of a number. -/
def Ends (cs : List Char) : Prop := ∀ c ∈ cs.head?, c.isDigit = false ∧ c ≠ '.' ∧ c ≠ 'e' ∧ c ≠ 'E'

theorem Ends.apart (h : Ends rest) : ∀ c ∈ rest.head?, c.isDigit = false := fun c hc => (h c hc).1

theorem numeral_eq (cs : List Char) : numeral cs = Nat.ofDigitChars 10 cs 0 := by
  simp only [numeral, Nat.ofDigitChars, Nat.mul_comm]

theorem numeral_toDigits (n : Nat) : numeral (Nat.toDigits 10 n) = n := by
  rw [numeral_eq, Nat.ofDigitChars_ten_toDigits]

theorem numeral_zeros (count : Nat) (cs : List Char) :
    numeral (List.replicate count '0' ++ cs) = numeral cs := by
  rw [numeral_eq, numeral_eq, Nat.ofDigitChars_append, Nat.ofDigitChars_replicate_zero,
    Nat.mul_zero]

theorem numeral_append_zeros (cs : List Char) (count : Nat) :
    numeral (cs ++ List.replicate count '0') = 10 ^ count * numeral cs := by
  rw [numeral_eq, numeral_eq, Nat.ofDigitChars_append, Nat.ofDigitChars_replicate_zero]

theorem isDigit_toDigits (n : Nat) : ∀ c ∈ Nat.toDigits 10 n, c.isDigit = true :=
  fun _ hc => Nat.isDigit_of_mem_toDigits (by decide) (by decide) hc

theorem head?_toDigits {n : Nat} (hn : n ≠ 0) : (Nat.toDigits 10 n).head? ≠ some '0' := by
  induction n using Nat.strongRecOn with
  | ind n ih =>
    by_cases hless : n < 10
    · have hdigit : ∀ k < 10, k ≠ 0 → [Nat.digitChar k].head? ≠ some '0' := by decide
      rw [Nat.toDigits_of_lt_base hless]
      exact hdigit n hless hn
    · have hmore := ih (n / 10) (by omega) (by omega)
      rw [Nat.toDigits_of_base_le (by decide) (by omega),
        List.head?_append_of_ne_nil _ Nat.toDigits_ne_nil]
      exact hmore

theorem isWhole_toDigits (n : Nat) : IsWhole (Nat.toDigits 10 n) := by
  refine ⟨isDigit_toDigits n, Nat.toDigits_ne_nil, fun hzero => ?_⟩
  by_cases hn : n = 0
  · rw [hn, Nat.toDigits_zero]
  · exact (head?_toDigits hn hzero).elim

theorem isDigit_zeros (count n : Nat) :
    ∀ c ∈ List.replicate count '0' ++ Nat.toDigits 10 n, c.isDigit = true := by
  intro c hc
  rcases List.mem_append.mp hc with hc | hc
  · rw [List.eq_of_mem_replicate hc]
    rfl
  · exact isDigit_toDigits n c hc

theorem isWhole_zero : IsWhole ['0'] :=
  ⟨List.forall_mem_singleton.mpr rfl, List.cons_ne_nil _ _, fun _ => rfl⟩

/-! ### Reading -/

theorem readFraction_none (h : cs.head? ≠ some '.') : readFraction cs = ([], cs) := by
  unfold readFraction
  split
  · exact (h rfl).elim
  · rfl

theorem readFraction_digits (h : Digits ds cs) (hne : ds ≠ []) :
    readFraction ('.' :: (ds ++ cs)) = (ds, cs) := by
  rw [readFraction, h.takeWhile, h.dropWhile]
  simp [hne]

theorem readExponent_none (h : Ends rest) : readExponent rest = (none, rest) := by
  cases rest with
  | nil => rfl
  | cons c rest =>
    obtain ⟨-, -, he, hE⟩ := h c rfl
    simp [readExponent, he, hE]

/-- An exponent is its sign and digits, which zeros may stand before. -/
theorem toList_exponentText (place : Int) : ∃ count, (Binary64.exponentText place).toList =
    'e' :: (if place < 0 then '-' else '+') ::
      (List.replicate count '0' ++ Nat.toDigits 10 place.natAbs) := by
  have hdigits : (toString place.natAbs).toList = Nat.toDigits 10 place.natAbs := Nat.toList_repr
  have hsign :
      (if place < 0 then "e-" else "e+").toList = ['e', if place < 0 then '-' else '+'] := by
    split <;> rfl
  rw [Binary64.exponentText, String.toList_append, hsign]
  by_cases hshort : (toString place.natAbs).length < 2
  · refine ⟨1, ?_⟩
    rw [if_pos hshort, String.toList_append, hdigits]
    rfl
  · refine ⟨0, ?_⟩
    rw [if_neg hshort, hdigits]
    rfl

theorem readExponent_text (h : Ends rest) (place : Int) :
    readExponent ((Binary64.exponentText place).toList ++ rest) = (some place, rest) := by
  obtain ⟨count, htext⟩ := toList_exponentText place
  let ds := List.replicate count '0' ++ Nat.toDigits 10 place.natAbs
  have hdigits : Digits ds rest := ⟨isDigit_zeros count _, h.apart⟩
  have hne : ds.isEmpty = false := by
    rw [List.isEmpty_eq_false_iff]
    exact List.append_ne_nil_of_right_ne_nil _ Nat.toDigits_ne_nil
  have hvalue : numeral ds = place.natAbs := by rw [numeral_zeros, numeral_toDigits]
  have hcs : (Binary64.exponentText place).toList ++ rest =
      'e' :: (if place < 0 then '-' else '+') :: (ds ++ rest) := by
    rw [htext]
    rfl
  rw [hcs]
  by_cases hsign : place < 0
  · simp only [hsign, if_true, readExponent, beq_self_eq_true, Bool.true_or, hdigits.takeWhile,
      hdigits.dropWhile, hne, Bool.false_eq_true, if_false, hvalue]
    congr 2
    omega
  · simp only [hsign, if_false, readExponent, beq_self_eq_true, Bool.true_or, if_true,
      hdigits.takeWhile, hdigits.dropWhile, hne, Bool.false_eq_true, hvalue]
    congr 2
    omega

theorem readWhole_append (h : IsWhole whole) (hover : ∀ c ∈ cs.head?, c.isDigit = false) :
    readWhole (whole ++ cs) = (whole, cs) := by
  unfold readWhole
  split
  · next r hzero =>
    obtain ⟨d, more, rfl⟩ := List.exists_cons_of_ne_nil h.ne_nil
    obtain ⟨rfl, hr⟩ := List.cons.inj hzero
    obtain rfl : more = [] := (List.cons.inj (h.zero rfl)).2
    rw [← hr]
    rfl
  · rw [Digits.takeWhile ⟨h.digits, hover⟩, Digits.dropWhile ⟨h.digits, hover⟩]

/-- Where the whole part of a number ends. -/
theorem readMagnitude_whole (h : IsWhole whole) (hover : ∀ c ∈ cs.head?, c.isDigit = false)
    (hfraction : readFraction cs = (fraction, ds))
    (hexponent : readExponent ds = (exponent, rest)) :
    readMagnitude most negative (whole ++ cs) =
      if fraction.isEmpty && exponent.isNone then
        if whole.length > most then .error ⟨.tooManyDigits whole.length, (whole ++ cs).length⟩
        else .ok (.int (if negative then -(numeral whole : Int) else numeral whole), rest)
      else .ok (.real (.ofDecimal negative (numeral (whole ++ fraction))
        (exponent.getD 0 - fraction.length)), rest) := by
  have hne : whole.isEmpty = false := List.isEmpty_eq_false_iff.mpr h.ne_nil
  unfold readMagnitude
  simp only [readWhole_append h hover, hne, Bool.false_eq_true, if_false, hfraction, hexponent]

/-- A whole number is read up to where it ends. -/
theorem readMagnitude_int (h : IsWhole whole) (hends : Ends rest) (hmost : whole.length ≤ most) :
    readMagnitude most negative (whole ++ rest) =
      .ok (.int (if negative then -(numeral whole : Int) else numeral whole), rest) := by
  have hpoint : rest.head? ≠ some '.' := fun hpoint => (hends '.' hpoint).2.1 rfl
  rw [readMagnitude_whole h hends.apart (readFraction_none hpoint) (readExponent_none hends)]
  simp [Nat.not_lt.mpr hmost]

theorem readMagnitude_decimal (h : IsWhole whole) (hdigits : ∀ c ∈ fraction, c.isDigit = true)
    (hne : fraction ≠ []) (hends : Ends rest) :
    readMagnitude most negative (whole ++ '.' :: (fraction ++ rest)) =
      .ok (.real (.ofDecimal negative (numeral (whole ++ fraction)) (-fraction.length)), rest) := by
  have hover : ∀ c ∈ ('.' :: (fraction ++ rest)).head?, c.isDigit = false := by
    rintro c ⟨⟩
    rfl
  rw [readMagnitude_whole h hover (readFraction_digits ⟨hdigits, hends.apart⟩ hne)
    (readExponent_none hends)]
  simp [hne]

theorem readMagnitude_scientific (h : IsWhole whole) (hdigits : ∀ c ∈ fraction, c.isDigit = true)
    (hends : Ends rest) (place : Int) :
    readMagnitude most negative (whole ++ ((if fraction.isEmpty then [] else '.' :: fraction) ++
        ((Binary64.exponentText place).toList ++ rest))) =
      .ok (.real (.ofDecimal negative (numeral (whole ++ fraction)) (place - fraction.length)),
        rest) := by
  obtain ⟨count, htext⟩ := toList_exponentText place
  let cs := (Binary64.exponentText place).toList ++ rest
  have hhead : cs.head? = some 'e' := by
    simp only [cs, htext]
    rfl
  have hfraction : readFraction ((if fraction.isEmpty then [] else '.' :: fraction) ++ cs) =
      (fraction, cs) := by
    by_cases hnil : fraction = []
    · rw [hnil]
      exact readFraction_none (by rw [List.isEmpty_nil, if_pos rfl, List.nil_append, hhead]; decide)
    · rw [if_neg (by simpa using hnil)]
      exact readFraction_digits ⟨hdigits, by simp [hhead]⟩ hnil
  have hover : ∀ c ∈ ((if fraction.isEmpty then [] else '.' :: fraction) ++ cs).head?,
      c.isDigit = false := by
    intro c hc
    split at hc
    · rw [List.nil_append, hhead] at hc
      cases hc
      rfl
    · cases hc
      rfl
  rw [readMagnitude_whole h hover hfraction (readExponent_text hends place)]
  simp

/-! ### Writing -/

open Binary64 (Canonical nearest decimalText magnitudeText)

variable {m digits : Nat} {e scale place : Int}

theorem isWhole_take (hne : digits ≠ 0) (k count : Nat) :
    IsWhole ((Nat.toDigits 10 digits).take (k + 1) ++ List.replicate count '0') := by
  have hdigits := isDigit_toDigits digits
  have hhead := head?_toDigits hne
  obtain ⟨d, more, htext⟩ :=
    List.exists_cons_of_ne_nil (Nat.toDigits_ne_nil (n := digits) (b := 10))
  rw [htext] at hdigits hhead ⊢
  rw [List.take_succ_cons, List.cons_append]
  refine ⟨fun c hc => ?_, List.cons_ne_nil _ _, fun hzero => (hhead hzero).elim⟩
  rw [← List.cons_append, List.mem_append] at hc
  rcases hc with hc | hc
  · exact hdigits c (List.mem_cons.mpr ((List.mem_cons.mp hc).imp_right List.mem_of_mem_take))
  · rw [List.eq_of_mem_replicate hc]
    rfl

/-- One digit before the point, and the power of ten it stands for behind all of them. -/
theorem readMagnitude_powered (hne : digits ≠ 0) (hends : Ends rest)
    (hplace : place = scale + (Nat.toDigits 10 digits).length - 1) :
    readMagnitude most negative ((Nat.toDigits 10 digits).take 1 ++
      ((if ((Nat.toDigits 10 digits).drop 1).isEmpty then []
        else '.' :: (Nat.toDigits 10 digits).drop 1) ++
        ((Binary64.exponentText place).toList ++ rest))) =
      .ok (.real (nearest negative (digits * 10 ^ scale)), rest) := by
  have hlength : 0 < (Nat.toDigits 10 digits).length := Nat.length_toDigits_pos
  have hwhole : IsWhole ((Nat.toDigits 10 digits).take 1) := by simpa using isWhole_take hne 0 0
  have hscale : place - ((Nat.toDigits 10 digits).drop 1).length = scale := by
    rw [List.length_drop]
    omega
  rw [readMagnitude_scientific hwhole
    (fun c hc => isDigit_toDigits digits c (List.mem_of_mem_drop hc)) hends, List.take_append_drop,
    numeral_toDigits, hscale, Binary64.ofDecimal_eq]

/-- All digits behind a point, and zeros between them. -/
theorem readMagnitude_below (hends : Ends rest) {count : Nat}
    (hcount : -(count : Int) = scale + (Nat.toDigits 10 digits).length) :
    readMagnitude most negative
      ('0' :: '.' :: (List.replicate count '0' ++ Nat.toDigits 10 digits ++ rest)) =
      .ok (.real (nearest negative (digits * 10 ^ scale)), rest) := by
  have hdigits := isDigit_zeros count digits
  have hne : List.replicate count '0' ++ Nat.toDigits 10 digits ≠ [] :=
    List.append_ne_nil_of_right_ne_nil _ Nat.toDigits_ne_nil
  have hvalue : numeral (['0'] ++ (List.replicate count '0' ++ Nat.toDigits 10 digits)) =
      digits := by
    rw [← List.append_assoc, List.singleton_append, ← List.replicate_succ, numeral_zeros,
      numeral_toDigits]
  have hscale : -((List.replicate count '0' ++ Nat.toDigits 10 digits).length : Int) = scale := by
    rw [List.length_append, List.length_replicate]
    omega
  have hread : readMagnitude most negative
      (['0'] ++ '.' :: (List.replicate count '0' ++ Nat.toDigits 10 digits ++ rest)) = _ :=
    readMagnitude_decimal isWhole_zero hdigits hne hends
  rw [hvalue, hscale, Binary64.ofDecimal_eq] at hread
  exact hread

/-- A point behind some of the digits, or behind all of them and zeros. -/
theorem readMagnitude_positional (hne : digits ≠ 0) (hends : Ends rest) {k : Nat}
    (hplace : (k : Int) + 1 = scale + (Nat.toDigits 10 digits).length) :
    readMagnitude most negative
      ((Nat.toDigits 10 digits).take (k + 1) ++ List.replicate scale.toNat '0' ++
      '.' :: ((if ((Nat.toDigits 10 digits).drop (k + 1)).isEmpty then ['0']
        else (Nat.toDigits 10 digits).drop (k + 1)) ++ rest)) =
      .ok (.real (nearest negative (digits * 10 ^ scale)), rest) := by
  have hwhole := isWhole_take hne k scale.toNat
  have hdigits := isDigit_toDigits digits
  by_cases hscale : 0 ≤ scale
  · obtain ⟨count, rfl⟩ := Int.eq_ofNat_of_zero_le hscale
    have hall : (Nat.toDigits 10 digits).length ≤ k + 1 := by omega
    have hvalue : numeral (Nat.toDigits 10 digits ++ List.replicate count '0' ++ ['0']) =
        10 ^ (count + 1) * digits := by
      rw [List.append_assoc, ← List.replicate_succ', numeral_append_zeros, numeral_toDigits]
    rw [List.drop_of_length_le hall, List.isEmpty_nil, if_pos rfl,
      readMagnitude_decimal hwhole (by simp) (by simp) hends, List.take_of_length_le hall,
      Int.toNat_natCast, hvalue, Binary64.ofDecimal_eq]
    congr 4
    rw [zpow_natCast, pow_succ]
    push_cast
    simp
    ring
  · have hrest : (((Nat.toDigits 10 digits).drop (k + 1)).length : Int) = -scale := by
      rw [List.length_drop]
      omega
    have hsome : (Nat.toDigits 10 digits).drop (k + 1) ≠ [] := by
      intro hnil
      rw [hnil, List.length_nil] at hrest
      omega
    have hnone : scale.toNat = 0 := by omega
    rw [hnone] at hwhole ⊢
    have hfraction : ∀ c ∈ (Nat.toDigits 10 digits).drop (k + 1), c.isDigit = true :=
      fun c hc => hdigits c (List.mem_of_mem_drop hc)
    rw [if_neg (by simpa using hsome), readMagnitude_decimal hwhole hfraction hsome hends,
      List.replicate_zero, List.append_nil, List.take_append_drop, numeral_toDigits, hrest, neg_neg,
      Binary64.ofDecimal_eq]

/-- Digits and their scale are read, from any layout, as the number nearest to their value. -/
theorem readMagnitude_decimalText (hne : digits ≠ 0) (hends : Ends rest) :
    readMagnitude most negative ((decimalText digits scale).toList ++ rest) =
      .ok (.real (nearest negative (digits * 10 ^ scale)), rest) := by
  have hlength : 0 < (Nat.toDigits 10 digits).length := Nat.length_toDigits_pos
  unfold decimalText
  dsimp only
  generalize hplace : scale + ((Nat.toDigits 10 digits).length : Int) - 1 = place
  split
  · rw [String.toList_append, String.toList_ofList, List.append_assoc, List.append_assoc]
    exact readMagnitude_powered hne hends hplace.symm
  · split
    · have hcount :
          -((-place - 1).toNat : Int) = scale + (Nat.toDigits 10 digits).length := by omega
      have htext :
          ("0." ++ String.ofList
              (List.replicate (-place - 1).toNat '0' ++ Nat.toDigits 10 digits)).toList =
            '0' :: '.' :: (List.replicate (-place - 1).toNat '0' ++ Nat.toDigits 10 digits) := by
        rw [String.toList_append, String.toList_ofList, String.toList_ofList]
        rfl
      rw [htext]
      exact readMagnitude_below hends hcount
    · have hk : (place.toNat : Int) + 1 = scale + (Nat.toDigits 10 digits).length := by omega
      rw [String.toList_ofList, List.append_assoc, List.cons_append]
      exact readMagnitude_positional hne hends hk

/-- A number is read as it was written. -/
theorem readMagnitude_magnitudeText (h : Canonical m e) (hends : Ends rest) :
    readMagnitude most negative ((magnitudeText m e).toList ++ rest) =
      .ok (.real (.finite negative m e), rest) := by
  by_cases hm : m = 0
  · subst hm
    have hread : readMagnitude most negative (['0'] ++ '.' :: (['0'] ++ rest)) =
        .ok (.real (.ofDecimal negative 0 (-1)), rest) :=
      readMagnitude_decimal isWhole_zero isWhole_zero.digits isWhole_zero.ne_nil hends
    have hnearest := h.nearest_eq negative
    rw [Nat.cast_zero, zero_mul] at hnearest
    rw [Binary64.ofDecimal_eq, Nat.cast_zero, zero_mul, hnearest] at hread
    rw [magnitudeText, if_pos rfl]
    exact hread
  · have htext :
        magnitudeText m e = decimalText (Binary64.shortest m e).1 (Binary64.shortest m e).2 := by
      rw [magnitudeText, if_neg hm]
    rw [htext, ← h.nearest_shortest]
    exact readMagnitude_decimalText (h.shortest_ne_zero hm) hends

end TapeMachine.Json
