import TapeMachine.Proofs.Effects
import TapeMachine.Proofs.Source.Refusal

/-! What a build comes to: the first record at fault stops it, or every record takes effect. -/
namespace TapeMachine

theorem Registry.find?_eq_none {registry : Registry} {name : String} :
    registry.find? name = none ↔ name ∉ registry.names := by
  simp [Registry.find?, Registry.names]

theorem exists_map_some {α β : Type} {f : α → Option β} {as : List α}
    (h : ∀ a ∈ as, ∃ b, f a = some b) : ∃ bs : List β, as.map f = bs.map some := by
  induction as with
  | nil => exact ⟨[], rfl⟩
  | cons a as ih =>
    obtain ⟨⟨b, hb⟩, has⟩ := List.forall_mem_cons.mp h
    obtain ⟨bs, hbs⟩ := ih has
    exact ⟨b :: bs, by rw [List.map_cons, List.map_cons, hb, hbs]⟩

namespace Record

variable {handled : List RecordKind} {registry : Registry} {r : Record} {complaint : Complaint}
  {span : Span}

/-- What is at fault in a record, and where: nothing takes care of its kind, its tape has no one, or
it composes a library that is not known; of several such libraries the first one counts. -/
inductive Fault (handled : List RecordKind) (registry : Registry) (r : Record) :
    Complaint → Span → Prop
  | unhandled : r.kind ∉ handled → Fault handled registry r (.unhandled r.kind) r.span
  | blankTape : r.kind ∈ handled → r.kind = .tape → true ∉ r.bits →
      Fault handled registry r .blankTape r.span
  | unknownLibrary {known more : List Token} {t : Token} : r.kind ∈ handled → r.kind = .compose →
      r.names = known ++ t :: more → (∀ u ∈ known, u.text ∈ registry.names) →
      t.text ∉ registry.names →
      Fault handled registry r (.unknownLibrary t.text registry.names) t.span

def Sound (handled : List RecordKind) (registry : Registry) (r : Record) : Prop :=
  ∀ complaint span, ¬ r.Fault handled registry complaint span

/-- A complaint about the first record at fault. -/
def FirstFault (handled : List RecordKind) (registry : Registry) (rs : List Record)
    (complaint : Complaint) (span : Span) : Prop :=
  ∃ before r after, rs = before ++ r :: after ∧ (∀ q ∈ before, q.Sound handled registry) ∧
    r.Fault handled registry complaint span

theorem sound_or_firstFault (handled : List RecordKind) (registry : Registry) (rs : List Record) :
    (∀ r ∈ rs, r.Sound handled registry) ∨
      ∃ complaint span, FirstFault handled registry rs complaint span := by
  induction rs with
  | nil => exact .inl (by simp)
  | cons r rs ih =>
    by_cases hr : r.Sound handled registry
    · refine ih.imp (fun hrs => List.forall_mem_cons.mpr ⟨hr, hrs⟩) ?_
      rintro ⟨complaint, span, before, q, after, rfl, hbefore, hq⟩
      exact ⟨complaint, span, r :: before, q, after, rfl,
        List.forall_mem_cons.mpr ⟨hr, hbefore⟩, hq⟩
    · simp only [Sound, not_forall, not_not] at hr
      obtain ⟨complaint, span, hfault⟩ := hr
      exact .inr ⟨complaint, span, [], r, rs, rfl, by simp, hfault⟩

theorem Sound.kind_mem (h : r.Sound handled registry) : r.kind ∈ handled := by
  by_contra hk
  exact h _ _ (.unhandled hk)

/-- A complaint is about a token of the record. -/
theorem Fault.exists_token (h : r.Fault handled registry complaint span) :
    ∃ t ∈ r.tokens, span.start = t.start := by
  cases h with
  | unhandled | blankTape => exact ⟨r.first, List.mem_cons_self, rfl⟩
  | @unknownLibrary known more t _ _ hnames =>
    have ht : t ∈ r.names := hnames ▸ List.mem_append_right known List.mem_cons_self
    exact ⟨t, List.mem_of_mem_filter ht, rfl⟩

end Record

namespace Draft

variable {source : String} {handled : List RecordKind} {registry : Registry} {d e : Draft}
  {r : Record} {rs : List Record} {p : Phrase} {complaint : Complaint} {span : Span}

theorem compose_of_unknown {known more : List Token} {t : Token}
    (hknown : ∀ u ∈ known, u.text ∈ registry.names) (ht : t.text ∉ registry.names) :
    (compose source registry d (known ++ t :: more)).2 =
      .error (.inSource source (.unknownLibrary t.text registry.names) t.span) := by
  induction known generalizing d with
  | nil => simp [compose, Registry.find?_eq_none.mpr ht]
  | cons u known ih =>
    obtain ⟨hu, hknown⟩ := List.forall_mem_cons.mp hknown
    cases hfind : registry.find? u.text with
    | none => exact (Registry.find?_eq_none.mp hfind hu).elim
    | some l => simpa [compose, hfind] using ih hknown

theorem take_of_fault (h : r.Fault handled registry complaint span) (hk : r.kind ∈ handled) :
    (take source registry d r).2 = .error (.inSource source complaint span) := by
  cases h with
  | unhandled hnot => exact (hnot hk).elim
  | blankTape _ hkind hbits => simp [take, hkind, hbits]
  | unknownLibrary _ hkind hnames hknown ht =>
    simp only [take, hkind, hnames]
    exact compose_of_unknown hknown ht

/-- A sound record of a sentence takes effect, whatever there is already. -/
theorem exists_takes (h : r.Sound handled registry) (hv : r.view = p.view) (d : Draft) :
    ∃ e, Takes registry r d e := by
  have hkind := Record.kind_of_view hv
  unfold Takes
  cases p with
  | description | finalStates =>
    simp only [hkind, Phrase.kind]
    exact ⟨_, rfl⟩
  | tape bits =>
    simp only [hkind, Phrase.kind]
    refine ⟨_, ?_, rfl⟩
    by_contra hbits
    exact h _ _ (.blankTape h.kind_mem hkind hbits)
  | initialState n =>
    simp only [hkind, Phrase.kind]
    have hnames : r.names.map Token.text = [n.1] := Record.names_of_view hv
    obtain ⟨t, ht, -⟩ := List.map_eq_singleton_iff.mp hnames
    exact ⟨_, t, ht, rfl⟩
  | compose first others =>
    simp only [hkind, Phrase.kind]
    have hknown : ∀ t ∈ r.names, ∃ l, registry.find? t.text = some l := by
      by_contra hunknown
      simp only [not_forall] at hunknown
      obtain ⟨t, ht, hnone⟩ := hunknown
      have hex : (r.names.find? fun u => decide (u.text ∉ registry.names)).isSome = true := by
        rw [List.find?_isSome]
        refine ⟨t, ht, decide_eq_true (Registry.find?_eq_none.mp ?_)⟩
        simpa [Option.eq_none_iff_forall_ne_some] using hnone
      obtain ⟨u, hu⟩ := Option.isSome_iff_exists.mp hex
      obtain ⟨hut, known, more, hnames, hbefore⟩ := List.find?_eq_some_iff_append.mp hu
      exact h _ _
        (.unknownLibrary h.kind_mem hkind hnames (by simpa using hbefore) (by simpa using hut))
    obtain ⟨ls, hls⟩ := exists_map_some hknown
    exact ⟨_, ls, hls, rfl⟩
  | rule q =>
    simp only [hkind, Phrase.kind]
    exact ⟨_, q.rule, Record.rule_of_view hv, rfl⟩

theorem link_of_sound (h : ∀ r ∈ rs, r.Sound handled registry)
    (hv : ∀ r ∈ rs, ∃ p : Phrase, r.view = p.view) (d : Draft) :
    ∃ e, (link source registry handled d rs).2 = .ok e := by
  induction rs generalizing d with
  | nil => exact ⟨d, rfl⟩
  | cons r rs ih =>
    obtain ⟨hr, hrs⟩ := List.forall_mem_cons.mp h
    obtain ⟨⟨p, hp⟩, hvs⟩ := List.forall_mem_cons.mp hv
    obtain ⟨next, ht⟩ := exists_takes hr hp d
    rw [link_of_takes hr.kind_mem ht]
    exact ih hrs hvs next

theorem link_of_firstFault (h : Record.FirstFault handled registry rs complaint span)
    (hv : ∀ r ∈ rs, ∃ p : Phrase, r.view = p.view) (d : Draft) :
    (link source registry handled d rs).2 = .error (.inSource source complaint span) := by
  obtain ⟨before, r, after, rfl, hbefore, hfault⟩ := h
  induction before generalizing d with
  | nil =>
    rw [List.nil_append]
    by_cases hk : r.kind ∈ handled
    · have ht : (take source registry d r).2 = .error (.inSource source complaint span) :=
        take_of_fault hfault hk
      unfold link
      rw [if_pos (List.contains_iff_mem.mpr hk)]
      split
      · next hr => simpa [hr] using ht
      · next hr => simp [hr] at ht
    · cases hfault with
      | unhandled =>
        unfold link
        rw [if_neg (fun hc => hk (List.contains_iff_mem.mp hc))]
      | blankTape hmem | unknownLibrary hmem => exact (hk hmem).elim
  | cons q before ih =>
    obtain ⟨hq, hbefore⟩ := List.forall_mem_cons.mp hbefore
    obtain ⟨⟨p, hp⟩, hvs⟩ := List.forall_mem_cons.mp hv
    obtain ⟨next, ht⟩ := exists_takes hq hp d
    rw [List.cons_append, link_of_takes hq.kind_mem ht]
    exact ih next hvs hbefore

end Draft

/-- A set of kinds without a fault takes care of every kind of record. -/
theorem mem_of_handlerFault? {handled : List RecordKind} (h : handlerFault? handled = none)
    (kind : RecordKind) : kind ∈ handled := by
  have hnone : unhandledKinds handled = [] := by
    unfold handlerFault? at h
    split at h
    · next hnil => exact hnil
    · cases h
  by_contra hk
  have hmem : kind.name ∈ unhandledKinds handled := by
    rw [unhandledKinds, Names.mem_sorted]
    refine List.mem_map_of_mem (List.mem_filter.mpr ⟨?_, by simpa using hk⟩)
    cases kind <;> decide
  rw [hnone] at hmem
  cases hmem

namespace Program

open Record (Sound FirstFault)

variable {handled : List RecordKind} {registry : Registry} {source : String} {o : Outline}

theorem buildWith_of_refused {d : Diagnostic} (h : Reading.program.parse source = .error d) :
    (buildWith handled registry source).2 = .error d := by
  rw [buildWith, h]

theorem buildWith_of_linked {result : Except Diagnostic Draft}
    (h : Reading.program.parse source = .ok o)
    (hl : (Draft.link source registry handled .empty o.records).2 = result) :
    (buildWith handled registry source).2 = result.map (·.toProgram source) := by
  rw [buildWith, h]
  dsimp only
  split
  · next hr =>
    rw [hr] at hl
    subst hl
    rfl
  · next hr =>
    rw [hr] at hl
    subst hl
    rfl

/-- A sentence is built up to its first record at fault, which the build complains about with the
line of the text where the fault is; when no record is at fault all of them take effect. -/
theorem buildWith_of_laysOut {s : Sentence .program} (handled : List RecordKind)
    (registry : Registry) (h : Reading.LaysOut s source) :
    ∃ o, Reading.program.parse source = .ok o ∧ o.tree = s.tree ∧
      ((∃ complaint span code, FirstFault handled registry o.records complaint span ∧
          Text.IsLine source span.start.line code ∧
          (buildWith handled registry source).2 = .error ⟨complaint, span, code⟩) ∨
        (∀ r ∈ o.records, r.Sound handled registry) ∧
          ∃ p, (buildWith handled registry source).2 = .ok p ∧ p.Realizes registry source s) := by
  obtain ⟨o, ho, htree, hviews, hfirst⟩ := Outline.exists_records h
  have hphrases : ∀ r ∈ o.records, ∃ p : Phrase, r.view = p.view := by
    intro r hr
    have hmem : r.view ∈ s.phrases.map Phrase.view := hviews ▸ List.mem_map_of_mem hr
    obtain ⟨p, -, hp⟩ := List.mem_map.mp hmem
    exact ⟨p, hp.symm⟩
  refine ⟨o, ho, htree, ?_⟩
  rcases Record.sound_or_firstFault handled registry o.records with hsound | ⟨c, span, hfault⟩
  · obtain ⟨d, hd⟩ := Draft.link_of_sound hsound hphrases .empty
    refine .inr ⟨hsound, _, buildWith_of_linked ho hd, ?_⟩
    exact realizes_of_takesAll (Draft.takesAll_of_link hd) hviews hfirst
  · refine .inl ⟨c, span, _, hfault, ?_, buildWith_of_linked ho
      (Draft.link_of_firstFault hfault hphrases .empty)⟩
    obtain ⟨before, r, after, hrs, -, hr⟩ := hfault
    obtain ⟨t, ht, hstart⟩ := hr.exists_token
    have hmem : r ∈ o.records := hrs ▸ List.mem_append_right before List.mem_cons_self
    rw [hstart]
    exact Outline.exists_line_of_token ho hmem ht

/-- A program builds if there is a one on its tape and it composes known libraries only. -/
theorem build_of_laysOut {s : Sentence .program} (h : Reading.LaysOut s source)
    (hbits : ∀ p ∈ s.phrases, p.kind = .tape → true ∈ p.bits)
    (hnames : ∀ p ∈ s.phrases, p.kind = .compose → ∀ n ∈ p.names, n.1 ∈ registry.names) :
    ∃ p, build registry source = .ok p ∧ p.Realizes registry source s := by
  obtain ⟨o, ho, -, ⟨complaint, span, code, hfault, -⟩ | ⟨-, p, hp, hreal⟩⟩ :=
    buildWith_of_laysOut RecordKind.all registry h
  · obtain ⟨o', ho', -, hviews, -⟩ := Outline.exists_records h
    obtain rfl : o = o' := Except.ok.inj (ho.symm.trans ho')
    obtain ⟨before, r, after, hrs, -, hr⟩ := hfault
    have hmem : r.view ∈ s.phrases.map Phrase.view :=
      hviews ▸ List.mem_map_of_mem (hrs ▸ List.mem_append_right before List.mem_cons_self)
    obtain ⟨p, hp, hview⟩ := List.mem_map.mp hmem
    have hkind := Record.kind_of_view hview.symm
    exfalso
    cases hr with
    | unhandled hk => exact hk (mem_of_handlerFault? (by decide) _)
    | blankTape _ htape hblank =>
      rw [Record.bits_of_view hview.symm] at hblank
      exact hblank (hbits p hp (hkind.symm.trans htape))
    | @unknownLibrary known more t _ hcompose hns _ hunknown =>
      have ht : t.text ∈ p.names.map Subtype.val := by
        rw [← Record.names_of_view hview.symm, hns]
        exact List.mem_map_of_mem (List.mem_append_right known List.mem_cons_self)
      obtain ⟨n, hn, hname⟩ := List.mem_map.mp ht
      exact hunknown (hname ▸ hnames p hp (hkind.symm.trans hcompose) n hn)
  · exact ⟨p, hp, hreal⟩

/-- A program builds if there is a one on its tape and the libraries that it names are known. -/
theorem build_of_program {line : Option DescriptionLine} {bits : List Bool} {initial : Name}
    {finals : Name × List Name} {composed : Option (Name × List Name)} {rules : List RulePhrase}
    (h : Reading.LaysOut (.program line bits initial finals composed rules) source)
    (hbits : true ∈ bits)
    (hnames : ∀ n ∈ Sentence.libraryNames composed, n.1 ∈ registry.names) :
    ∃ p, build registry source = .ok p ∧
      p.Realizes registry source (.program line bits initial finals composed rules) := by
  have hphrases : ∀ p ∈ (Sentence.program line bits initial finals composed rules).phrases,
      (p.kind = .tape → p.bits = bits) ∧
      (p.kind = .compose → p.names = Sentence.libraryNames composed) := by
    intro p hp
    simp only [Sentence.phrases_program, List.mem_append, List.mem_map, List.mem_cons,
      List.not_mem_nil, or_false] at hp
    rcases hp with ⟨_, -, rfl⟩ | (rfl | rfl | rfl) | ⟨c, hc, rfl⟩ | ⟨_, -, rfl⟩
    · simp [Phrase.kind]
    · simp [Phrase.kind, Phrase.bits]
    · simp [Phrase.kind]
    · simp [Phrase.kind]
    · obtain rfl := Option.mem_toList.mp hc
      simp [Phrase.kind, Phrase.names, Sentence.libraryNames]
    · simp [Phrase.kind]
  apply build_of_laysOut h
  · intro p hp htape
    rw [(hphrases p hp).1 htape]
    exact hbits
  · intro p hp hcompose n hn
    rw [(hphrases p hp).2 hcompose] at hn
    exact hnames n hn

/-- A program that composes nothing builds with every registry if there is a one on its tape. -/
theorem build_of_composeless {line : Option DescriptionLine} {bits : List Bool} {initial : Name}
    {finals : Name × List Name} {rules : List RulePhrase}
    (h : Reading.LaysOut (.program line bits initial finals none rules) source)
    (hbits : true ∈ bits)
    (registry : Registry) : ∃ p, build registry source = .ok p ∧ p.warnings = [] ∧
      p.description = (line.bind fun l => described? l.1) ∧
      p.machine = .load bits initial.1 ((finals.1 :: finals.2).map Subtype.val)
        (rules.map RulePhrase.rule) := by
  have hnames : ∀ n ∈ Sentence.libraryNames none, n.1 ∈ registry.names := nofun
  obtain ⟨p, hp, -, hdescription, hcomposed, hmachine, hwarnings⟩ := build_of_program h hbits hnames
  have hnone : p.composed = [] := List.map_eq_nil_iff.mp hcomposed
  rw [hnone] at hmachine hwarnings
  exact ⟨p, hp, List.map_eq_nil_iff.mp hwarnings, hdescription, hmachine⟩

/-- A program comes from a sentence in which every record took effect, with a one on its tape. -/
theorem realizes_of_build {p : Program} (h : build registry source = .ok p) :
    ∃ line bits initial finals composed rules,
      Reading.LaysOut (.program line bits initial finals composed rules) source ∧
        p.Realizes registry source (.program line bits initial finals composed rules) ∧
        true ∈ bits := by
  obtain ⟨_, _, hparse, -, -⟩ := build_cases h
  obtain ⟨s, _, hs, -, -⟩ := Reading.parse_cases hparse
  obtain ⟨o, ho, -, ⟨_, _, _, -, -, herror⟩ | ⟨hsound, p', hp, hreal⟩⟩ :=
    buildWith_of_laysOut RecordKind.all registry hs
  · rw [build, herror] at h
    cases h
  obtain rfl : p' = p := Except.ok.inj (hp.symm.trans h)
  obtain ⟨o', ho', -, hviews, -⟩ := Outline.exists_records hs
  obtain rfl : o = o' := Except.ok.inj (ho.symm.trans ho')
  cases s with
  | program line bits initial finals composed rules =>
    refine ⟨line, bits, initial, finals, composed, rules, hs, hreal, ?_⟩
    have hmem : (Phrase.tape bits).view ∈ o.records.map Record.view := by
      rw [hviews, Sentence.phrases_program]
      simp
    obtain ⟨r, hr, hview⟩ := List.mem_map.mp hmem
    by_contra hblank
    have hbits : true ∉ r.bits := by rwa [Record.bits_of_view hview]
    exact hsound r hr _ _ (.blankTape (hsound r hr).kind_mem (Record.kind_of_view hview) hbits)

theorem complaint_of_firstFault {rs : List Record} {complaint : Complaint} {span : Span}
    (h : FirstFault handled registry rs complaint span) :
    (∀ expected found, complaint ≠ .unexpected expected found) ∧
      ((∀ kind, kind ∈ handled) → ∀ kind, complaint ≠ .unhandled kind) := by
  obtain ⟨_, r, _, -, -, hr⟩ := h
  cases hr with
  | unhandled hk => exact ⟨nofun, fun hall => (hk (hall _)).elim⟩
  | blankTape | unknownLibrary => exact ⟨nofun, fun _ => nofun⟩

/-- What a build comes to, whatever kinds of records are taken care of. A text that lays out no
program is refused as such, and no other is. The build of a program stops at the first record at
fault, with the complaint about it and the line of the text where it is; or no record is at fault,
and then a program comes out in which every one took effect. When all kinds are taken care of none
is complained about. -/
theorem build_outcome (handled : List RecordKind) (registry : Registry) (source : String) :
    ((¬ ∃ s : Sentence .program, Reading.LaysOut s source) ↔ ∃ d expected found,
        (buildWith handled registry source).2 = .error d ∧
        d.complaint = .unexpected expected found) ∧
      (∀ s : Sentence .program, Reading.LaysOut s source →
        ∃ o, Reading.program.parse source = .ok o ∧ o.tree = s.tree ∧
          ((∃ complaint span code, FirstFault handled registry o.records complaint span ∧
              Text.IsLine source span.start.line code ∧
              (buildWith handled registry source).2 = .error ⟨complaint, span, code⟩) ∨
            (∀ r ∈ o.records, r.Sound handled registry) ∧
              ∃ p, (buildWith handled registry source).2 = .ok p ∧ p.Realizes registry source s)) ∧
      (handlerFault? handled = none → ∀ d kind,
        (buildWith handled registry source).2 = .error d → d.complaint ≠ .unhandled kind) := by
  refine ⟨⟨?_, ?_⟩, fun s hs => buildWith_of_laysOut handled registry hs, ?_⟩
  · intro hnot
    cases hparse : Reading.program.parse source with
    | ok o =>
      obtain ⟨s, -, hs, -⟩ := Reading.parse_cases hparse
      exact (hnot ⟨s, hs⟩).elim
    | error d =>
      obtain ⟨_, _, _, _, _, -, -, -, rfl⟩ := Reading.parse_error_cases (by decide) hparse
      exact ⟨_, _, _, buildWith_of_refused hparse, rfl⟩
  · rintro ⟨d, expected, found, hd, hcomplaint⟩ ⟨s, hs⟩
    obtain ⟨o, -, -, ⟨c, span, code, hfault, -, herror⟩ | ⟨-, p, hp, -⟩⟩ :=
      buildWith_of_laysOut handled registry hs
    · rw [herror] at hd
      cases hd
      exact (complaint_of_firstFault hfault).1 expected found hcomplaint
    · rw [hp] at hd
      cases hd
  · intro hall d kind hd
    cases hparse : Reading.program.parse source with
    | ok o =>
      obtain ⟨s, -, hs, -⟩ := Reading.parse_cases hparse
      obtain ⟨o, -, -, ⟨c, span, code, hfault, -, herror⟩ | ⟨-, p, hp, -⟩⟩ :=
        buildWith_of_laysOut handled registry hs
      · rw [herror] at hd
        cases hd
        exact (complaint_of_firstFault hfault).2 (mem_of_handlerFault? hall) kind
      · rw [hp] at hd
        cases hd
    | error e =>
      obtain ⟨_, _, _, _, _, -, -, -, rfl⟩ := Reading.parse_error_cases (by decide) hparse
      rw [buildWith_of_refused hparse] at hd
      cases hd
      exact nofun

/-- A program on a blank tape that composes a library nobody knows. -/
def twoFaults : String :=
  "\x7b0\x7d; I = \x7bq\x7d; F = \x7bq\x7d; compose = \x7bnope\x7d;"

def blankTapeSpan : Span := ⟨⟨1, 1⟩, some ⟨1, 5⟩⟩

/-- The tape comes before the library. -/
theorem build_outcome_twoFaults :
    (∃ s : Sentence .program, Reading.LaysOut s twoFaults) ∧ handlerFault? RecordKind.all = none ∧
      (∃ o, Reading.program.parse twoFaults = .ok o ∧
        FirstFault RecordKind.all Catalog.all o.records .blankTape blankTapeSpan) ∧
      ∀ kind, (.blankTape : Complaint) ≠ .unhandled kind := by
  have herror : (buildWith RecordKind.all Catalog.all twoFaults).2 =
      .error ⟨.blankTape, blankTapeSpan, twoFaults⟩ := by decide +kernel
  have hnone : handlerFault? RecordKind.all = none := by decide
  obtain ⟨hrefused, hprogram, hhandled⟩ := build_outcome RecordKind.all Catalog.all twoFaults
  have hex : ∃ s : Sentence .program, Reading.LaysOut s twoFaults := by
    by_contra hnot
    obtain ⟨d, expected, found, hd, hcomplaint⟩ := hrefused.mp hnot
    rw [herror] at hd
    cases hd
    cases hcomplaint
  obtain ⟨s, hs⟩ := hex
  refine ⟨⟨s, hs⟩, hnone, ?_, fun kind => hhandled hnone _ kind herror⟩
  obtain ⟨o, ho, -, ⟨complaint, span, code, hfault, -, hd⟩ | ⟨-, p, hp, -⟩⟩ := hprogram s hs
  · rw [herror] at hd
    cases hd
    exact ⟨o, ho, hfault⟩
  · rw [herror] at hp
    cases hp

end Program

end TapeMachine
