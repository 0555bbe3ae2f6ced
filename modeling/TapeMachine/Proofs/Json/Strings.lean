import Mathlib.Data.List.Chain
import TapeMachine.Json.Reader
import TapeMachine.Json.Writer

/-! Strings of JSON are read as the texts they were written for. -/
namespace TapeMachine.Json

open Text (Letter Letters)

variable {c e : Char} {n : Nat} {cs rest : List Char} {l : Letter} {s : Letters}

theorem toNat_cases (c : Char) : c.toNat < 0xd800 ∨ 0xdfff < c.toNat ∧ c.toNat < 0x110000 := c.valid

theorem hexValue?_hexDigit (h : n < 16) : hexValue? (Text.hexDigit n) = some n := by
  revert n
  decide

theorem unit?_hexDigits (h : n < 0x10000) : ∃ a b c d,
    Text.hexDigits 4 n = [a, b, c, d] ∧ unit? a b c d = some n := by
  have hdigit : ∀ m, hexValue? (Text.hexDigit (m % 16)) = some (m % 16) :=
    fun m => hexValue?_hexDigit (Nat.mod_lt m (by decide))
  refine ⟨_, _, _, _, rfl, ?_⟩
  simp only [unit?, hdigit, bind, Option.bind, pure, Option.some.injEq]
  omega

theorem readUnits_single (h : n < 0x10000) (hhigh : isHighUnit n = false) (e : Char)
    (cs : List Char) :
    readUnits (Text.hexDigits 4 n ++ e :: cs) = .ok (unitLetter n, e :: cs) := by
  obtain ⟨a, b, c, d, hdigits, hunit⟩ := unit?_hexDigits h
  rw [hdigits]
  simp [readUnits, hunit, hhigh]

theorem readUnits_pair {high low : Nat} (hhigh : isHighUnit high = true)
    (hlow : isLowUnit low = true)
    (e : Char) (cs : List Char) :
    readUnits (Text.hexDigits 4 high ++ (escapeUnit low ++ e :: cs)) =
      .ok (pairLetter high low, e :: cs) := by
  simp only [isHighUnit, isLowUnit, Bool.and_eq_true, decide_eq_true_eq] at hhigh hlow
  obtain ⟨a, b, c, d, hdigits, hunit⟩ := unit?_hexDigits (n := high) (by omega)
  obtain ⟨a', b', c', d', hdigits', hunit'⟩ := unit?_hexDigits (n := low) (by omega)
  rw [escapeUnit, hdigits, hdigits']
  simp [readUnits, readLowUnit, hunit, hunit', isHighUnit, isLowUnit, hhigh, hlow, Except.map]

/-- An escaped character is read back, if anything follows it. -/
theorem readEscape_codePoint (start : Nat) (c e : Char) (cs : List Char) :
    ∃ more, escapeCodePoint c.toNat ++ e :: cs = '\\' :: more ∧
      readEscape start more = .ok (.char c, e :: cs) := by
  have hc := toNat_cases c
  by_cases hn : c.toNat < 0x10000
  · have hhigh : isHighUnit c.toNat = false := by
      simp only [isHighUnit, Bool.and_eq_false_iff, decide_eq_false_iff_not]
      omega
    have hlow : isLowUnit c.toNat = false := by
      simp only [isLowUnit, Bool.and_eq_false_iff, decide_eq_false_iff_not]
      omega
    have hletter : unitLetter c.toNat = .char c := by simp [unitLetter, hhigh, hlow]
    refine ⟨'u' :: (Text.hexDigits 4 c.toNat ++ e :: cs), ?_, ?_⟩
    · rw [escapeCodePoint, if_pos hn, escapeUnit]
      rfl
    · rw [readEscape, if_pos rfl, readUnits_single hn hhigh, hletter]
  · let high := 0xd800 + (c.toNat - 0x10000) / 0x400
    let low := 0xdc00 + (c.toNat - 0x10000) % 0x400
    have hhigh : isHighUnit high = true := by
      simp only [isHighUnit, high, Bool.and_eq_true, decide_eq_true_eq]
      omega
    have hlow : isLowUnit low = true := by
      simp only [isLowUnit, low, Bool.and_eq_true, decide_eq_true_eq]
      omega
    have hletter : pairLetter high low = .char c := by
      have hpoint : 0x10000 + (high - 0xd800) * 0x400 + (low - 0xdc00) = c.toNat := by omega
      rw [pairLetter, hpoint, Char.ofNat_toNat]
    refine ⟨'u' :: (Text.hexDigits 4 high ++ (escapeUnit low ++ e :: cs)), ?_, ?_⟩
    · rw [escapeCodePoint, if_neg hn, escapeUnit, List.append_assoc]
      rfl
    · rw [readEscape, if_pos rfl, readUnits_pair hhigh hlow, hletter]

theorem readLetters_escape {more : List Char} {l : Letter} {start : Nat}
    (h : readEscape start more = .ok (l, rest)) :
    readLetters start ('\\' :: more) = consLetter l (readLetters start rest) := by
  rw [readLetters, if_neg (by decide), if_pos rfl]
  split
  · next hok =>
    rw [h] at hok
    cases hok
    rfl
  · next herror =>
    rw [h] at herror
    cases herror

theorem writeChar_cases (c : Char) :
    (∃ d, d ≠ 'u' ∧ simpleEscape? d = some c ∧ writeChar c = ['\\', d]) ∨
      (c ≠ '"' ∧ c ≠ '\\' ∧ 0x20 ≤ c.toNat ∧ writeChar c = [c]) ∨
        writeChar c = escapeCodePoint c.toNat := by
  by_cases hshort : c ∈ ['"', '\\', '\n', '\r', '\t', '\x08', '\x0c']
  · simp only [List.mem_cons, List.not_mem_nil, or_false] at hshort
    rcases hshort with rfl | rfl | rfl | rfl | rfl | rfl | rfl <;>
      exact .inl ⟨_, by decide, rfl, rfl⟩
  · simp only [List.mem_cons, List.not_mem_nil, or_false, not_or] at hshort
    obtain ⟨hquote, hslash, hn, hr, ht, hb, hf⟩ := hshort
    have hwrite : writeChar c =
        if 0x20 ≤ c.toNat && c.toNat < 0x7f then [c] else escapeCodePoint c.toNat := by
      simp [writeChar, hquote, hslash, hn, hr, ht, hb, hf]
    rw [hwrite]
    split
    · next hplain =>
      simp only [Bool.and_eq_true, decide_eq_true_eq] at hplain
      exact .inr (.inl ⟨hquote, hslash, hplain.1, rfl⟩)
    · exact .inr (.inr rfl)

theorem readLetters_writeChar (start : Nat) (c e : Char) (cs : List Char) :
    readLetters start (writeChar c ++ e :: cs) =
      consLetter (.char c) (readLetters start (e :: cs)) := by
  rcases writeChar_cases c with ⟨d, hd, hescape, hwrite⟩ | ⟨hquote, hslash, hplain, hwrite⟩ | hwrite
  · have hread : readEscape start (d :: e :: cs) = .ok (.char c, e :: cs) := by
      rw [readEscape, if_neg hd, hescape]
    rw [hwrite]
    exact readLetters_escape hread
  · rw [hwrite, List.singleton_append, readLetters, if_neg hquote, if_neg hslash, if_neg (by omega)]
  · obtain ⟨more, hmore, hescape⟩ := readEscape_codePoint start c e cs
    rw [hwrite, hmore, readLetters_escape hescape]

/-! ### Halves -/

def isHighHalf : Letter → Bool
  | .half unit => isHighUnit unit
  | .char _ => false

def isLowHalf : Letter → Bool
  | .half unit => isLowUnit unit
  | .char _ => false

/-- A text in which no half stands right before the one that makes it a pair. -/
structure Unpaired (s : Letters) : Prop where
  halves : ∀ unit, Letter.half unit ∈ s → isHighUnit unit = true ∨ isLowUnit unit = true
  apart : s.IsChain fun a b => ¬ (isHighHalf a = true ∧ isLowHalf b = true)

theorem Unpaired.of_cons (h : Unpaired (l :: s)) : Unpaired s :=
  ⟨fun unit hunit => h.halves unit (List.mem_cons_of_mem _ hunit), h.apart.of_cons⟩

theorem unpaired_ofString (s : String) : Unpaired s := by
  constructor
  · intro unit hunit
    obtain ⟨c, -, hc⟩ := List.mem_map.mp hunit
    cases hc
  · rw [Letters.ofString]
    induction s.toList with
    | nil => exact .nil
    | cons c cs ih =>
      cases cs with
      | nil => exact .singleton _
      | cons d cs => exact .cons_cons (fun h => Bool.false_ne_true h.1) ih

theorem lt_of_isHalf (h : isHighUnit n = true ∨ isLowUnit n = true) : n < 0x10000 := by
  simp only [isHighUnit, isLowUnit, Bool.and_eq_true, decide_eq_true_eq] at h
  omega

theorem readLowUnit_of_ne (hc : c ≠ '\\') (cs : List Char) : readLowUnit (c :: cs) = .ok none := by
  unfold readLowUnit
  split
  · next heq => exact (hc (List.cons.inj heq).1).elim
  · rfl

theorem readLowUnit_escape (h : n < 0x10000) (hlow : isLowUnit n = false) (e : Char)
    (cs : List Char) :
    readLowUnit (escapeUnit n ++ e :: cs) = .ok none := by
  obtain ⟨a, b, c, d, hdigits, hunit⟩ := unit?_hexDigits h
  rw [escapeUnit, hdigits]
  simp [readLowUnit, hunit, hlow]

/-- Only half of a pair that can come second is read as one. -/
theorem readLowUnit_writeLetter
    (hl : ∀ unit, l = .half unit → isHighUnit unit = true ∨ isLowUnit unit = true)
    (hlow : isLowHalf l = false) (e : Char) (cs : List Char) :
    readLowUnit (writeLetter l ++ e :: cs) = .ok none := by
  cases l with
  | half unit => exact readLowUnit_escape (lt_of_isHalf (hl unit rfl)) hlow e cs
  | char c =>
    rw [writeLetter]
    rcases writeChar_cases c with ⟨d, hd, -, hwrite⟩ | ⟨-, hslash, -, hwrite⟩ | hwrite
    · rw [hwrite]
      unfold readLowUnit
      split
      · next heq => exact (hd (List.cons.inj (List.cons.inj heq).2).1).elim
      · rfl
    · rw [hwrite]
      exact readLowUnit_of_ne hslash _
    · have hc := toNat_cases c
      rw [hwrite, escapeCodePoint]
      split
      · next hn =>
        refine readLowUnit_escape hn ?_ e cs
        simp only [isLowUnit, Bool.and_eq_false_iff, decide_eq_false_iff_not]
        omega
      · rw [List.append_assoc, escapeUnit.eq_1 (0xdc00 + _), List.cons_append]
        refine readLowUnit_escape (by omega) ?_ _ _
        simp only [isLowUnit, Bool.and_eq_false_iff, decide_eq_false_iff_not]
        omega

theorem readLetters_half (start : Nat) (h : isHighUnit n = true ∨ isLowUnit n = true)
    (hnext : isHighUnit n = true → readLowUnit (e :: cs) = .ok none) :
    readLetters start (escapeUnit n ++ e :: cs) =
      consLetter (.half n) (readLetters start (e :: cs)) := by
  have hletter : unitLetter n = .half n := by
    rw [unitLetter, if_pos (by simpa using h)]
  obtain ⟨a, b, c, d, hdigits, hunit⟩ := unit?_hexDigits (lt_of_isHalf h)
  have hread : readUnits (Text.hexDigits 4 n ++ e :: cs) = .ok (.half n, e :: cs) := by
    rw [hdigits]
    by_cases hhigh : isHighUnit n = true
    · simp [readUnits, hunit, hhigh, hnext hhigh, hletter, Except.map]
    · simp [readUnits, hunit, hhigh, hletter]
  have hescape : readEscape start ('u' :: (Text.hexDigits 4 n ++ e :: cs)) =
      .ok (.half n, e :: cs) := by
    rw [readEscape, if_pos rfl, hread]
  exact readLetters_escape hescape

/-- A text is read up to the quote behind it. -/
theorem readLetters_text (h : Unpaired s) (start : Nat) (rest : List Char) :
    readLetters start (s.flatMap writeLetter ++ '"' :: rest) = .ok (s, rest) := by
  induction s with
  | nil => rw [List.flatMap_nil, List.nil_append, readLetters, if_pos rfl]
  | cons l s ih =>
    obtain ⟨e, more, hmore⟩ := List.exists_cons_of_ne_nil
      (List.append_ne_nil_of_right_ne_nil (s.flatMap writeLetter) (List.cons_ne_nil '"' rest))
    have hread : readLetters start (writeLetter l ++ e :: more) =
        consLetter l (readLetters start (e :: more)) := by
      cases l with
      | char c => exact readLetters_writeChar start c e more
      | half unit =>
        refine readLetters_half start (h.halves unit List.mem_cons_self) fun hhigh => ?_
        rw [← hmore]
        cases s with
        | nil => exact readLowUnit_of_ne (by decide) rest
        | cons next s =>
          have hlow : isLowHalf next = false := by
            rw [← Bool.not_eq_true]
            exact fun hlow => (List.isChain_cons_cons.mp h.apart).1 ⟨hhigh, hlow⟩
          obtain ⟨e', more', hmore'⟩ := List.exists_cons_of_ne_nil
            (List.append_ne_nil_of_right_ne_nil (s.flatMap writeLetter) (List.cons_ne_nil '"' rest))
          rw [List.flatMap_cons, List.append_assoc, hmore']
          refine readLowUnit_writeLetter (fun unit hunit => ?_) hlow e' more'
          exact h.halves unit (by rw [hunit]; exact List.mem_cons_of_mem _ List.mem_cons_self)
    rw [List.flatMap_cons, List.append_assoc, hmore, hread, ← hmore, ih h.of_cons]
    rfl

theorem readString_text (h : Unpaired s) (rest : List Char) :
    readString (s.flatMap writeLetter ++ '"' :: rest) = .ok (s, rest) :=
  readLetters_text h _ rest

end TapeMachine.Json
