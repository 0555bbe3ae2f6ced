import TapeMachine.Proofs.Json.Numbers
import TapeMachine.Proofs.Json.Strings

/-! Values are read as they were written, on one line or on many, within bounds that they fit. -/
namespace TapeMachine.Json

open Text (Letter Letters)

variable {indent : Option Nat} {level most nested fuel room : Nat} {c : Char}
  {cs rest behind : List Char}
  {n : Int} {x : Binary64} {v : Json} {vs : List Json} {name : Letters} {fs : Fields}

mutual

/-- The greatest measure of the single values in a value, which grows by `layer` with each list or
object that is around them. -/
def greatest (measure : Json → Nat) (layer : Nat) : Json → Nat
  | arr vs => greatestOfItems measure layer vs + layer
  | obj fs => greatestOfFields measure layer fs + layer
  | v => measure v

def greatestOfItems (measure : Json → Nat) (layer : Nat) : List Json → Nat
  | [] => 0
  | v :: vs => max (greatest measure layer v) (greatestOfItems measure layer vs)

def greatestOfFields (measure : Json → Nat) (layer : Nat) : List (Letters × Json) → Nat
  | [] => 0
  | (_, v) :: fs => max (greatest measure layer v) (greatestOfFields measure layer fs)

end

/-- How deep lists and objects are nested in a value. -/
def depth : Json → Nat := greatest (fun _ => 0) 1

/-- The number of digits of a whole number. -/
def digitCount : Json → Nat
  | int n => (Nat.toDigits 10 n.natAbs).length
  | _ => 0

/-- The number of digits of the longest whole number in a value. -/
def longest : Json → Nat := greatest digitCount 0

/-- Values that can be read: the fields of each object have different names, no two halves in a text
make a pair, and the finite numbers have a mantissa and an exponent that they may have. -/
inductive Legible : Json → Prop
  | null : Legible null
  | bool (b : Bool) : Legible (bool b)
  | int (n : Int) : Legible (int n)
  | finite (negative : Bool) {m : Nat} {e : Int} (h : Binary64.Canonical m e) :
      Legible (real (.finite negative m e))
  | infinite (negative : Bool) : Legible (real (.infinite negative))
  | nan : Legible (real .nan)
  | str {s : Letters} (h : Unpaired s) : Legible (str s)
  | arr {vs : List Json} (h : ∀ v ∈ vs, Legible v) : Legible (arr vs)
  | obj {fs : Fields} (hdistinct : (fs.map Prod.fst).Nodup) (hnames : ∀ f ∈ fs, Unpaired f.1)
      (h : ∀ f ∈ fs, Legible f.2) : Legible (obj fs)

/-! ### Fields -/

theorem put_of_not_mem (h : name ∉ fs.map Prod.fst) (v : Json) :
    Fields.put name v fs = fs ++ [(name, v)] := by
  induction fs with
  | nil => rfl
  | cons f fs ih =>
    rw [List.map_cons, List.mem_cons, not_or] at h
    rw [Fields.put, if_neg (Ne.symm h.1), ih h.2, List.cons_append]

theorem putAll_of_nodup {more : Fields} (h : ((fs ++ more).map Prod.fst).Nodup) :
    Fields.putAll fs more = fs ++ more := by
  induction more generalizing fs with
  | nil => exact (List.append_nil fs).symm
  | cons f more ih =>
    obtain ⟨name, v⟩ := f
    have hname : name ∉ fs.map Prod.fst := by
      rw [List.map_append, List.map_cons, List.nodup_append] at h
      exact fun hmem => h.2.2 _ hmem _ List.mem_cons_self rfl
    calc Fields.putAll fs ((name, v) :: more) = Fields.putAll (Fields.put name v fs) more := rfl
      _ = Fields.putAll (fs ++ [(name, v)]) more := by rw [put_of_not_mem hname]
      _ = fs ++ [(name, v)] ++ more := ih (by rwa [List.append_assoc, List.singleton_append])
      _ = fs ++ (name, v) :: more := by rw [List.append_assoc, List.singleton_append]

/-- Fields of different names stay as they are. -/
theorem ofPairs_of_nodup (h : (fs.map Prod.fst).Nodup) : Fields.ofPairs fs = fs :=
  putAll_of_nodup (by simpa using h)

/-! ### Single values -/

theorem head_of_readMagnitude {negative : Bool} {r : Json × List Char}
    (h : readMagnitude most negative cs = .ok r) :
    ∃ d more, cs = d :: more ∧ d.isDigit = true := by
  cases cs with
  | nil => cases h
  | cons d more =>
    refine ⟨d, more, rfl, ?_⟩
    by_contra hdigit
    have hwhole : readWhole (d :: more) = ([], d :: more) := by
      unfold readWhole
      split
      · next heq =>
        rw [(List.cons.inj heq).1] at hdigit
        exact (hdigit rfl).elim
      · rw [List.takeWhile_cons_of_neg hdigit, List.dropWhile_cons_of_neg hdigit]
    rw [readMagnitude, hwhole] at h
    cases h

theorem beq_digit {d : Char} (hd : d.isDigit = true) (hc : c.isDigit = false) :
    (c == d) = false := by
  rw [beq_eq_false_iff_ne]
  rintro rfl
  rw [hd] at hc
  cases hc

/-- A text that begins like a magnitude is that of a number. -/
theorem readAtom_magnitude {r : Json × List Char} (h : readMagnitude most false cs = .ok r) :
    readAtom most cs = .ok r := by
  obtain ⟨d, more, rfl, hd⟩ := head_of_readMagnitude h
  have hwords : readWord? (d :: more) = none := by
    simp [readWord?, words, List.isPrefixOf?, beq_digit hd]
  unfold readAtom
  rw [hwords]
  dsimp only
  split
  · next heq =>
    rw [(List.cons.inj heq).1] at hd
    exact absurd hd (by decide)
  · exact h

theorem readAtom_minus {r : Json × List Char} (h : readMagnitude most true cs = .ok r) :
    readAtom most ('-' :: cs) = .ok r := by
  obtain ⟨d, more, rfl, hd⟩ := head_of_readMagnitude h
  have hwords : readWord? ('-' :: d :: more) = none := by
    simp [readWord?, words, List.isPrefixOf?, beq_digit hd]
  unfold readAtom
  rw [hwords]
  exact h

theorem readAtom_word {word : List Char} (h : (word, v) ∈ words) (rest : List Char) :
    readAtom most (word ++ rest) = .ok (v, rest) := by
  simp only [words, List.mem_cons, Prod.mk.injEq, List.not_mem_nil, or_false] at h
  rcases h with ⟨rfl, rfl⟩ | ⟨rfl, rfl⟩ | ⟨rfl, rfl⟩ | ⟨rfl, rfl⟩ | ⟨rfl, rfl⟩ | ⟨rfl, rfl⟩ <;> rfl

/-- What is neither a text, a list nor an object is a word or a number. -/
theorem readValue_atom (h : c ≠ '"' ∧ c ≠ '[' ∧ c ≠ '{') (cs : List Char) :
    readValue most (fuel + 1) room (c :: cs) = readAtom most (c :: cs) := by
  unfold readValue
  split <;> simp_all

theorem readValue_word {word : List Char} (h : (word, v) ∈ words) (rest : List Char) :
    readValue most (fuel + 1) room (word ++ rest) = .ok (v, rest) := by
  have hfirst : ∀ w ∈ words, ∃ c more, w.1 = c :: more ∧ c ≠ '"' ∧ c ≠ '[' ∧ c ≠ '{' := by
    simp [words]
  obtain ⟨c, more, rfl, hc⟩ := hfirst _ h
  rw [List.cons_append, readValue_atom hc, ← List.cons_append, readAtom_word h]

theorem readValue_magnitude {negative : Bool} {r : Json × List Char}
    (h : readMagnitude most negative cs = .ok r) :
    readValue most (fuel + 1) room ((if negative then ['-'] else []) ++ cs) = .ok r := by
  cases negative with
  | true => exact (readValue_atom (by decide) cs).trans (readAtom_minus h)
  | false =>
    obtain ⟨d, more, rfl, hd⟩ := head_of_readMagnitude h
    have hc : d ≠ '"' ∧ d ≠ '[' ∧ d ≠ '{' := by
      refine ⟨?_, ?_, ?_⟩ <;> rintro rfl <;> exact absurd hd (by decide)
    exact (readValue_atom hc more).trans (readAtom_magnitude h)

theorem toList_int (n : Int) :
    (toString n).toList = (if decide (n < 0) then ['-'] else []) ++ Nat.toDigits 10 n.natAbs := by
  cases n with
  | ofNat n => exact Nat.toList_repr
  | negSucc n =>
    have htext : toString (Int.negSucc n) = "-" ++ toString (n + 1) := rfl
    have hdigits : (toString (n + 1)).toList = Nat.toDigits 10 (n + 1) := Nat.toList_repr
    rw [htext, String.toList_append, hdigits, if_pos (by simp)]
    rfl

theorem readValue_int (hends : Ends rest) (hmost : (int n).longest ≤ most) :
    readValue most (fuel + 1) room ((toString n).toList ++ rest) = .ok (int n, rest) := by
  have hread : readMagnitude most (decide (n < 0)) (Nat.toDigits 10 n.natAbs ++ rest) = _ :=
    readMagnitude_int (isWhole_toDigits n.natAbs) hends hmost
  have hvalue : (if decide (n < 0) = true then -((numeral (Nat.toDigits 10 n.natAbs) : Nat) : Int)
      else (numeral (Nat.toDigits 10 n.natAbs) : Nat)) = n := by
    simp only [numeral_toDigits, decide_eq_true_eq]
    split <;> omega
  rw [hvalue] at hread
  rw [toList_int, List.append_assoc]
  exact readValue_magnitude hread

theorem toList_finite (negative : Bool) (m : Nat) (e : Int) :
    (Binary64.finite negative m e).text.toList =
    (if negative then ['-'] else []) ++ (Binary64.magnitudeText m e).toList := by
  rw [Binary64.text, String.toList_append]
  cases negative <;> rfl

theorem readValue_finite {negative : Bool} {m : Nat} {e : Int} (h : Binary64.Canonical m e)
    (hends : Ends rest) :
    readValue most (fuel + 1) room ((Binary64.finite negative m e).text.toList ++ rest) =
      .ok (real (.finite negative m e), rest) := by
  rw [toList_finite, List.append_assoc]
  exact readValue_magnitude (readMagnitude_magnitudeText h hends)

theorem writeString_append (s : Letters) (rest : List Char) :
    writeString s ++ rest = '"' :: (s.flatMap writeLetter ++ '"' :: rest) := by
  simp [writeString]

theorem readValue_str {s : Letters} (h : Unpaired s) (rest : List Char) :
    readValue most (fuel + 1) room (writeString s ++ rest) = .ok (str s, rest) := by
  rw [writeString_append, readValue, readString_text h]
  rfl

/-! ### Lists and objects -/

theorem skipSpaces_of_ne (hc : isSpace c = false) (cs : List Char) :
    skipSpaces (c :: cs) = c :: cs :=
  List.dropWhile_cons_of_neg (by simp [hc])

theorem skipSpaces_blanks {gap : List Char} (hgap : ∀ b ∈ gap, isSpace b = true)
    (hc : isSpace c = false) (cs : List Char) : skipSpaces (gap ++ c :: cs) = c :: cs := by
  rw [skipSpaces, List.dropWhile_append_of_pos hgap, ← skipSpaces, skipSpaces_of_ne hc]

theorem isSpace_newline : ∀ b ∈ newline indent level, isSpace b = true := by
  intro b hb
  cases indent with
  | none => cases hb
  | some width =>
    rcases List.mem_cons.mp hb with rfl | hb
    · rfl
    · rw [List.eq_of_mem_replicate hb]
      rfl

theorem separator_eq (indent : Option Nat) (level : Nat) :
    ∃ gap, separator indent level = ',' :: gap ∧ ∀ b ∈ gap, isSpace b = true := by
  cases indent with
  | none => exact ⟨[' '], rfl, List.forall_mem_singleton.mpr rfl⟩
  | some width => exact ⟨newline (some width) level, rfl, isSpace_newline⟩

theorem ends_cons (h : c ∈ [',', ']', '}', ' ', '\t', '\n', '\r']) (cs : List Char) :
    Ends (c :: cs) := by
  intro d hd
  obtain rfl : c = d := Option.some.inj hd
  simp only [List.mem_cons, List.not_mem_nil, or_false] at h
  rcases h with rfl | rfl | rfl | rfl | rfl | rfl | rfl <;> decide

theorem ends_blanks (hbehind : ∀ b ∈ behind, isSpace b = true) (hc : c = ']' ∨ c = '}')
    (rest : List Char) :
    Ends (behind ++ c :: rest) := by
  cases behind with
  | nil => exact ends_cons (by rcases hc with rfl | rfl <;> decide) rest
  | cons b behind =>
    have hb := hbehind b List.mem_cons_self
    refine ends_cons ?_ _
    simp only [isSpace, Bool.or_eq_true, beq_iff_eq] at hb
    rcases hb with ((rfl | rfl) | rfl) | rfl <;> decide

/-- A value is read, whatever follows it that is not a part of it. -/
def Reads (indent : Option Nat) (level most room : Nat) (v : Json) : Prop :=
  ∀ fuel rest, 2 * (write indent level v).length ≤ fuel → Ends rest →
    readValue most fuel room (write indent level v ++ rest) = .ok (v, rest)

/-- Characters that a value can begin with. -/
def Starts (c : Char) : Prop := isSpace c = false ∧ c ≠ ']' ∧ c ≠ '\ufeff'

instance (c : Char) : Decidable (Starts c) := inferInstanceAs (Decidable (_ ∧ _))

theorem starts_digit (hc : c.isDigit = true) : Starts c := by
  have hne : ∀ d, d.isDigit = false → c ≠ d :=
    fun d hd => (beq_eq_false_iff_ne.mp (beq_digit hc hd)).symm
  refine ⟨?_, hne _ rfl, hne _ rfl⟩
  simp only [isSpace, Bool.or_eq_false_iff, beq_eq_false_iff_ne]
  exact ⟨⟨⟨hne _ rfl, hne _ rfl⟩, hne _ rfl⟩, hne _ rfl⟩

theorem starts_signed {sign : Bool} (h : ∃ d more, cs = d :: more ∧ d.isDigit = true) :
    ∃ c more, (if sign then ['-'] else []) ++ cs = c :: more ∧ Starts c := by
  obtain ⟨d, more, rfl, hd⟩ := h
  cases sign with
  | true => exact ⟨'-', d :: more, rfl, by decide⟩
  | false => exact ⟨d, more, rfl, starts_digit hd⟩

theorem write_arr (v : Json) (vs : List Json) : write indent level (arr (v :: vs)) =
    '[' :: (newline indent (level + 1) ++ (write indent (level + 1) v ++
      (writeItems indent (level + 1) vs ++ (newline indent level ++ [']'])))) := by
  rw [write]
  simp

theorem write_obj (name : Letters) (v : Json) (fs : Fields) :
    write indent level (obj ((name, v) :: fs)) =
    '{' :: (newline indent (level + 1) ++
      (writeString name ++ (':' :: ' ' :: (write indent (level + 1) v ++
      (writeFields indent (level + 1) fs ++ (newline indent level ++ ['}'])))))) := by
  rw [write]
  simp

/-- The first character of a value is one that a value can begin with. -/
theorem write_eq_cons (h : Legible v) (indent : Option Nat) (level : Nat) :
    ∃ c cs, write indent level v = c :: cs ∧ Starts c := by
  cases h with
  | null => exact ⟨'n', _, rfl, by decide⟩
  | bool b => cases b <;> exact ⟨_, _, rfl, by decide⟩
  | int n =>
    rw [write, toList_int]
    obtain ⟨d, more, hdigits⟩ :=
      List.exists_cons_of_ne_nil (Nat.toDigits_ne_nil (n := n.natAbs) (b := 10))
    exact starts_signed ⟨d, more, hdigits, isDigit_toDigits _ d (hdigits ▸ List.mem_cons_self)⟩
  | @finite negative m e h =>
    have hread : readMagnitude 0 negative ((Binary64.magnitudeText m e).toList ++ []) = _ :=
      readMagnitude_magnitudeText h (by rintro c ⟨⟩)
    rw [List.append_nil] at hread
    rw [write, toList_finite]
    exact starts_signed (head_of_readMagnitude hread)
  | infinite negative => cases negative <;> exact ⟨_, _, rfl, by decide⟩
  | nan => exact ⟨'N', _, rfl, by decide⟩
  | str h => exact ⟨'"', _, rfl, by decide⟩
  | @arr vs h =>
    cases vs with
    | nil => exact ⟨'[', _, by rw [write], by decide⟩
    | cons v vs => exact ⟨'[', _, write_arr v vs, by decide⟩
  | @obj fs h =>
    cases fs with
    | nil => exact ⟨'{', _, by rw [write], by decide⟩
    | cons f fs => exact ⟨'{', _, write_obj f.1 f.2 fs, by decide⟩

theorem skipSpaces_write (h : Legible v) {gap : List Char} (hgap : ∀ b ∈ gap, isSpace b = true)
    (rest : List Char) : skipSpaces (gap ++ (write indent level v ++ rest)) =
      write indent level v ++ rest := by
  obtain ⟨c, cs, hwrite, hc⟩ := write_eq_cons h indent level
  rw [hwrite, List.cons_append]
  exact skipSpaces_blanks hgap hc.1 _

theorem readItems_last (hvalue : readValue most fuel room cs = .ok (v, behind))
    (hbehind : skipSpaces behind = ']' :: rest) :
    readItems most (fuel + 1) room cs = .ok ([v], rest) := by
  rw [readItems, hvalue]
  simp only [bind, Except.bind, hbehind]
  rfl

theorem readItems_more (hvalue : readValue most fuel room cs = .ok (v, ',' :: behind))
    (hbehind : readItems most fuel room (skipSpaces behind) = .ok (vs, rest)) :
    readItems most (fuel + 1) room cs = .ok (v :: vs, rest) := by
  rw [readItems, hvalue]
  simp only [bind, Except.bind, skipSpaces_of_ne (show isSpace ',' = false from rfl), hbehind]
  rfl

/-- Items are read up to the bracket behind them. -/
theorem readItems_write (hread : ∀ u ∈ v :: vs, Legible u ∧ Reads indent level most room u)
    (hfuel : 2 * (write indent level v ++ writeItems indent level vs).length + 1 ≤ fuel)
    (hbehind : ∀ b ∈ behind, isSpace b = true) (rest : List Char) :
    readItems most fuel room
      (write indent level v ++ (writeItems indent level vs ++ (behind ++ ']' :: rest))) =
      .ok (v :: vs, rest) := by
  induction vs generalizing v fuel with
  | nil =>
    obtain ⟨fuel, rfl⟩ : ∃ more, fuel = more + 1 := ⟨fuel - 1, by omega⟩
    rw [writeItems, List.append_nil] at hfuel
    have hvalue := (hread v List.mem_cons_self).2 fuel (behind ++ ']' :: rest) (by omega)
      (ends_blanks hbehind (.inl rfl) rest)
    exact readItems_last hvalue (skipSpaces_blanks hbehind rfl rest)
  | cons u vs ih =>
    obtain ⟨gap, hseparator, hgap⟩ := separator_eq indent level
    obtain ⟨hv, hmore⟩ := List.forall_mem_cons.mp hread
    obtain ⟨fuel, rfl⟩ : ∃ more, fuel = more + 1 := ⟨fuel - 1, by omega⟩
    let others := write indent level u ++ (writeItems indent level vs ++ (behind ++ ']' :: rest))
    have htext : writeItems indent level (u :: vs) ++ (behind ++ ']' :: rest) =
        ',' :: (gap ++ others) := by
      rw [writeItems, hseparator]
      simp [others]
    have hlength : (writeItems indent level (u :: vs)).length =
        1 + gap.length + (write indent level u ++ writeItems indent level vs).length := by
      rw [writeItems, hseparator]
      simp only [List.length_append, List.length_cons]
      omega
    rw [List.length_append, hlength] at hfuel
    have hvalue := hv.2 fuel (',' :: (gap ++ others)) (by omega) (ends_cons (by decide) _)
    rw [htext]
    refine readItems_more hvalue ?_
    rw [skipSpaces_write (hmore u List.mem_cons_self).1 hgap]
    exact ih hmore (by omega)

theorem readFields_last (hname : Unpaired name) (hcs : skipSpaces (' ' :: cs) = cs)
    (hvalue : readValue most fuel room cs = .ok (v, behind))
    (hbehind : skipSpaces behind = '}' :: rest) :
    readFields most (fuel + 1) room (writeString name ++ (':' :: ' ' :: cs)) =
      .ok ([(name, v)], rest) := by
  rw [writeString_append, readFields, readString_text hname]
  simp only [bind, Except.bind, skipSpaces_of_ne (show isSpace ':' = false from rfl), hcs,
    hvalue, hbehind]
  rfl

theorem readFields_more (hname : Unpaired name) (hcs : skipSpaces (' ' :: cs) = cs)
    (hvalue : readValue most fuel room cs = .ok (v, ',' :: behind))
    (hbehind : readFields most fuel room (skipSpaces behind) = .ok (fs, rest)) :
    readFields most (fuel + 1) room (writeString name ++ (':' :: ' ' :: cs)) =
      .ok ((name, v) :: fs, rest) := by
  rw [writeString_append, readFields, readString_text hname]
  simp only [bind, Except.bind, skipSpaces_of_ne (show isSpace ':' = false from rfl), hcs, hvalue,
    skipSpaces_of_ne (show isSpace ',' = false from rfl), hbehind]
  rfl

/-- Fields are read up to the brace behind them. -/
theorem readFields_write
    (hread : ∀ f ∈ (name, v) :: fs, Unpaired f.1 ∧ Legible f.2 ∧ Reads indent level most room f.2)
    (hfuel : 2 * (write indent level v ++ writeFields indent level fs).length + 1 ≤ fuel)
    (hbehind : ∀ b ∈ behind, isSpace b = true) (rest : List Char) :
    readFields most fuel room (writeString name ++ (':' :: ' ' :: (write indent level v ++
      (writeFields indent level fs ++ (behind ++ '}' :: rest))))) =
        .ok ((name, v) :: fs, rest) := by
  have hblank : ∀ b ∈ [' '], isSpace b = true := List.forall_mem_singleton.mpr rfl
  induction fs generalizing name v fuel with
  | nil =>
    obtain ⟨fuel, rfl⟩ : ∃ more, fuel = more + 1 := ⟨fuel - 1, by omega⟩
    obtain ⟨hname, hlegible, hreads⟩ : Unpaired name ∧ Legible v ∧ Reads indent level most room v :=
      hread _ List.mem_cons_self
    rw [writeFields, List.append_nil] at hfuel
    have hvalue :=
      hreads fuel (behind ++ '}' :: rest) (by omega) (ends_blanks hbehind (.inr rfl) rest)
    exact readFields_last hname (skipSpaces_write hlegible hblank _) hvalue
      (skipSpaces_blanks hbehind rfl rest)
  | cons f fs ih =>
    obtain ⟨gap, hseparator, hgap⟩ := separator_eq indent level
    obtain ⟨hfirst, hmore⟩ := List.forall_mem_cons.mp hread
    obtain ⟨hname, hlegible, hreads⟩ : Unpaired name ∧ Legible v ∧ Reads indent level most room v :=
      hfirst
    obtain ⟨fuel, rfl⟩ : ∃ more, fuel = more + 1 := ⟨fuel - 1, by omega⟩
    let others := writeString f.1 ++ (':' :: ' ' :: (write indent level f.2 ++
      (writeFields indent level fs ++ (behind ++ '}' :: rest))))
    have htext : writeFields indent level (f :: fs) ++ (behind ++ '}' :: rest) =
        ',' :: (gap ++ others) := by
      rw [writeFields, hseparator]
      simp [others]
    have hlength :
        (writeFields indent level (f :: fs)).length = 3 + gap.length + (writeString f.1).length +
        (write indent level f.2 ++ writeFields indent level fs).length := by
      rw [writeFields, hseparator]
      simp only [List.length_append, List.length_cons, List.length_nil]
      omega
    rw [List.length_append, hlength] at hfuel
    have hvalue := hreads fuel (',' :: (gap ++ others)) (by omega) (ends_cons (by decide) _)
    have hskip : skipSpaces (gap ++ others) = others := by
      simp only [others, writeString_append]
      exact skipSpaces_blanks hgap rfl _
    rw [htext]
    refine readFields_more hname (skipSpaces_write hlegible hblank _) hvalue ?_
    rw [hskip]
    exact ih hmore (by omega)

theorem readValue_arr {items : List Char} (hskip : skipSpaces cs = items)
    (hhead : items.head? ≠ some ']')
    (hitems : readItems most fuel room items = .ok (vs, rest)) :
    readValue most (fuel + 1) (room + 1) ('[' :: cs) = .ok (arr vs, rest) := by
  rw [readValue, hskip]
  split
  · exact (hhead rfl).elim
  · rw [hitems]
    rfl

theorem readValue_obj {fields : List Char} (hskip : skipSpaces cs = fields)
    (hhead : fields.head? ≠ some '}')
    (hfields : readFields most fuel room fields = .ok (fs, rest))
    (hdistinct : (fs.map Prod.fst).Nodup) :
    readValue most (fuel + 1) (room + 1) ('{' :: cs) = .ok (obj fs, rest) := by
  rw [readValue, hskip]
  split
  · exact (hhead rfl).elim
  · rw [hfields, Except.map]
    dsimp only
    rw [ofPairs_of_nodup hdistinct]

theorem greatest_le_of_mem {measure : Json → Nat} {layer : Nat} (h : v ∈ vs) :
    greatest measure layer v ≤ greatestOfItems measure layer vs := by
  induction vs with
  | nil => cases h
  | cons u vs ih =>
    rw [greatestOfItems]
    rcases List.mem_cons.mp h with rfl | h
    · exact le_max_left _ _
    · exact (ih h).trans (le_max_right _ _)

theorem greatestOfFields_eq (measure : Json → Nat) (layer : Nat) (fs : Fields) :
    greatestOfFields measure layer fs = greatestOfItems measure layer (fs.map Prod.snd) := by
  induction fs with
  | nil => rfl
  | cons f fs ih => rw [greatestOfFields, List.map_cons, greatestOfItems, ih]

theorem reads_arr (hread : ∀ v ∈ vs, Legible v ∧ Reads indent (level + 1) most room v) :
    Reads indent level most (room + 1) (arr vs) := by
  intro fuel rest hfuel hends
  cases vs with
  | nil =>
    rw [write] at hfuel ⊢
    obtain ⟨fuel, rfl⟩ : ∃ more, fuel = more + 1 := ⟨fuel - 1, by simp at hfuel; omega⟩
    rfl
  | cons v vs =>
    obtain ⟨hv, -⟩ := hread v List.mem_cons_self
    obtain ⟨c, cs, hwrite, hc⟩ := write_eq_cons hv indent (level + 1)
    let items := write indent (level + 1) v ++ (writeItems indent (level + 1) vs ++
      (newline indent level ++ ']' :: rest))
    have htext : write indent level (arr (v :: vs)) ++ rest =
        '[' :: (newline indent (level + 1) ++ items) := by
      rw [write_arr]
      simp [items]
    have hlength :
        (write indent level (arr (v :: vs))).length = 2 + (newline indent (level + 1)).length +
        (write indent (level + 1) v ++ writeItems indent (level + 1) vs).length +
          (newline indent level).length := by
      rw [write_arr]
      simp only [List.length_cons, List.length_append, List.length_nil]
      omega
    obtain ⟨fuel, rfl⟩ : ∃ more, fuel = more + 1 := ⟨fuel - 1, by omega⟩
    have hitems : readItems most fuel room items = .ok (v :: vs, rest) :=
      readItems_write hread (by omega) isSpace_newline rest
    have hhead : items.head? ≠ some ']' := by
      simp only [items, hwrite]
      exact fun hsame => hc.2.1 (Option.some.inj hsame)
    rw [htext]
    exact readValue_arr (skipSpaces_write hv isSpace_newline _) hhead hitems

theorem reads_obj (hdistinct : (fs.map Prod.fst).Nodup)
    (hread : ∀ f ∈ fs, Unpaired f.1 ∧ Legible f.2 ∧ Reads indent (level + 1) most room f.2) :
    Reads indent level most (room + 1) (obj fs) := by
  intro fuel rest hfuel hends
  cases fs with
  | nil =>
    rw [write] at hfuel ⊢
    obtain ⟨fuel, rfl⟩ : ∃ more, fuel = more + 1 := ⟨fuel - 1, by simp at hfuel; omega⟩
    rfl
  | cons f fs =>
    obtain ⟨name, v⟩ := f
    let fields := writeString name ++ (':' :: ' ' :: (write indent (level + 1) v ++
      (writeFields indent (level + 1) fs ++ (newline indent level ++ '}' :: rest))))
    have htext : write indent level (obj ((name, v) :: fs)) ++ rest =
        '{' :: (newline indent (level + 1) ++ fields) := by
      rw [write_obj]
      simp [fields]
    have hlength : (write indent level (obj ((name, v) :: fs))).length =
        4 + (newline indent (level + 1)).length +
        (writeString name).length +
          (write indent (level + 1) v ++ writeFields indent (level + 1) fs).length +
          (newline indent level).length := by
      rw [write_obj]
      simp only [List.length_cons, List.length_append, List.length_nil]
      omega
    obtain ⟨fuel, rfl⟩ : ∃ more, fuel = more + 1 := ⟨fuel - 1, by omega⟩
    have hfields : readFields most fuel room fields = .ok ((name, v) :: fs, rest) :=
      readFields_write hread (by omega) isSpace_newline rest
    have hquote : fields = '"' :: _ := writeString_append name _
    have hskip : skipSpaces (newline indent (level + 1) ++ fields) = fields := by
      rw [hquote]
      exact skipSpaces_blanks isSpace_newline rfl _
    have hhead : fields.head? ≠ some '}' := by
      rw [hquote]
      exact fun hsame => absurd (Option.some.inj hsame) (by decide)
    rw [htext]
    exact readValue_obj hskip hhead hfields hdistinct

/-- A value takes a character, so that there is fuel for it. -/
theorem reads_of_succ (h : Legible v) (hread : ∀ fuel rest, Ends rest →
    readValue most (fuel + 1) room (write indent level v ++ rest) = .ok (v, rest)) :
    Reads indent level most room v := by
  intro fuel rest hfuel hends
  obtain ⟨c, cs, hwrite, -⟩ := write_eq_cons h indent level
  obtain ⟨fuel, rfl⟩ : ∃ more, fuel = more + 1 :=
    ⟨fuel - 1, by rw [hwrite, List.length_cons] at hfuel; omega⟩
  exact hread fuel rest hends

theorem reads_word (h : Legible v) (hword : (write indent level v, v) ∈ words) :
    Reads indent level most room v :=
  reads_of_succ h fun _ rest _ => readValue_word hword rest

/-- A value is read as it was written, whatever follows it that is not a part of it. -/
theorem Legible.reads (h : Legible v) (hdepth : v.depth ≤ room) (hlongest : v.longest ≤ most) :
    Reads indent level most room v := by
  induction h generalizing level room with
  | null => exact reads_word .null (by simp [write, words])
  | bool b => exact reads_word (.bool b) (by cases b <;> simp [write, words])
  | int n =>
    refine reads_of_succ (.int n) fun fuel rest hends => ?_
    rw [write]
    exact readValue_int hends hlongest
  | finite negative h =>
    refine reads_of_succ (.finite negative h) fun fuel rest hends => ?_
    rw [write]
    exact readValue_finite h hends
  | infinite negative =>
    exact reads_word (.infinite negative) (by cases negative <;> simp [write, words, Binary64.text])
  | nan => exact reads_word .nan (by simp [write, words, Binary64.text])
  | str h =>
    refine reads_of_succ (.str h) fun fuel rest _ => ?_
    rw [write]
    exact readValue_str h rest
  | @arr vs h ih =>
    rw [depth, greatest] at hdepth
    rw [longest, greatest] at hlongest
    obtain ⟨room, rfl⟩ : ∃ more, room = more + 1 := ⟨room - 1, by omega⟩
    refine reads_arr fun v hv => ⟨h v hv, ih v hv ?_ ?_⟩
    · exact (greatest_le_of_mem hv).trans (by omega)
    · exact (greatest_le_of_mem hv).trans hlongest
  | @obj fs hdistinct hnames h ih =>
    rw [depth, greatest, greatestOfFields_eq] at hdepth
    rw [longest, greatest, greatestOfFields_eq] at hlongest
    obtain ⟨room, rfl⟩ : ∃ more, room = more + 1 := ⟨room - 1, by omega⟩
    refine reads_obj hdistinct fun f hf => ⟨hnames f hf, h f hf, ih f hf ?_ ?_⟩
    · exact (greatest_le_of_mem (List.mem_map_of_mem hf)).trans (by omega)
    · exact (greatest_le_of_mem (List.mem_map_of_mem hf)).trans hlongest

/-- A text written for a value is read as that value. -/
theorem parseWithin_write (h : Legible v) (hdepth : v.depth ≤ nested) (hlongest : v.longest ≤ most)
    (indent : Option Nat) : parseWithin most nested (String.ofList (write indent 0 v)) = .ok v := by
  obtain ⟨c, cs, hwrite, hspace, -, hmark⟩ := write_eq_cons h indent 0
  have hread : readValue most (2 * (write indent 0 v).length + 2) nested (write indent 0 v ++ []) =
      .ok (v, []) :=
    h.reads hdepth hlongest _ [] (by omega) (by rintro c ⟨⟩)
  have hfirst : (write indent 0 v).head? ≠ some '\ufeff' := by
    rw [hwrite]
    exact fun hsame => hmark (Option.some.inj hsame)
  have hskip : skipSpaces (write indent 0 v) = write indent 0 v := by
    rw [hwrite]
    exact skipSpaces_of_ne hspace cs
  have htext : readText most nested (write indent 0 v) = .ok v := by
    rw [List.append_nil] at hread
    rw [readText, if_neg hfirst, hskip, hread]
    rfl
  rw [parseWithin, String.toList_ofList, htext]

end TapeMachine.Json
