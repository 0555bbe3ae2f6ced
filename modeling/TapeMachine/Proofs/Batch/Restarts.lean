import TapeMachine.Proofs.Batch.Calls

/-!
Batches that are called again and again while programs come, change and go: each program is run
once, and the records hold what all the calls returned.
-/
namespace TapeMachine

open Json (Fields strings)
open Text (Letters)

variable {b : Batch} {c : Call} {day : String} {q : Path} {files last start made done : Files}
  {names handled : List String} {returned entries : List Fields}

namespace Batch

/-- None of the records is there yet. -/
def Fresh (b : Batch) (day : String) (files : Files) : Prop :=
  ∃ made q, b.Opens files made q ∧
    ∀ name ∈ b.recordNames day, ∃ path, made.spot (q ++ [name]) = .free path

/-- There is room for the records in an empty folder. -/
theorem free_of_empty (hb : b.Proper day) (hempty : made.namesIn q = []) :
    ∀ name ∈ b.recordNames day, ∃ path, made.spot (q ++ [name]) = .free path := by
  intro name hname
  have hfile := hb.isFileName hname
  refine Files.free_of_empty hempty hfile.not_up ?_
  rintro rfl
  exact hfile.slashless (by decide)

/-- A batch can start with an empty folder of results, found or made. -/
theorem fresh_of_empty (hb : b.Proper day) (hopens : b.Opens files made q)
    (hempty : made.namesIn q = []) : b.Fresh day files :=
  ⟨made, q, hopens, free_of_empty hb hempty⟩

/-- The records are left as they are, whatever else is done to the files. -/
def Keeps (b : Batch) (day : String) (last start : Files) : Prop :=
  ∃ before after q, b.Opens last before q ∧ b.Opens start after q ∧
    ∀ name ∈ b.recordNames day, after.spot (q ++ [name]) = before.spot (q ++ [name])

/-- Calls of a batch on one day, one after the other: the files that the last one leaves, and the
entries that all of them returned. -/
inductive History (b : Batch) (day : String) : Files → List Fields → Prop
  | start {files : Files} : b.Fresh day files → History b day files []
  | call {last start done : Files} {returned entries : List Fields} {names : List String}
    (c : Call) :
      History b day last returned → b.Keeps day last start → b.Offers start names →
      (b.asked c).run day start = (done, .ok entries) → History b day done (returned ++ entries)

/-- What the checkpoint and the main file of the journal say: nothing until a program is handled,
and then the names of all that are, and all that was returned. -/
inductive Recorded (b : Batch) (day : String) (files : Files) : List String → List Fields → Prop
  | nothing : (∀ text, files.load b.checkpoint.text ≠ .ok text) →
      (∀ text, files.load ((b.journal day).path .main) ≠ .ok text) → Recorded b day files [] []
  | handled {handled : List String} {returned : List Fields} {text : String} : handled ≠ [] →
      files.load b.checkpoint.text = .ok text →
      Json.parse text = .ok (.obj [(Letters.ofString "completed", .arr (strings handled))]) →
      files.load ((b.journal day).path .main) = .ok (Journal.linesOf returned) →
      Recorded b day files handled returned

theorem stands_of_fresh (h : b.Opens files made q)
    (hfree : ∀ name ∈ b.recordNames day, ∃ path, made.spot (q ++ [name]) = .free path) :
    b.Stands day q [] [] made := by
  have hread : ∀ name ∈ b.recordNames day, made.read? (q ++ [name]) = none := by
    intro name hname
    obtain ⟨path, hspot⟩ := hfree name hname
    exact (Files.free_of_spot hspot).2
  refine ⟨h.found, fun name hname path hfolder => ?_, ?_, ?_, rfl⟩
  · obtain ⟨other, hspot⟩ := hfree name hname
    rw [hspot] at hfolder
    cases hfolder
  · exact hread _ List.mem_cons_self
  · exact hread _ (b.volumeName_mem day .main)

/-- Records that are left as they are stand for the same programs. -/
theorem Stands.of_keeps (hs : b.Stands day q handled returned made) (h : b.Opens last made q)
    (hkeeps : b.Keeps day last start) :
    ∃ after, b.Opens start after q ∧ b.Stands day q handled returned after := by
  obtain ⟨before, after, r, hbefore, hafter, hspot⟩ := hkeeps
  obtain ⟨rfl, rfl⟩ := h.unique hbefore
  have hread : ∀ name ∈ b.recordNames day, after.read? (q ++ [name]) = made.read? (q ++ [name]) :=
    fun name hname => Files.read?_eq_of_spot (hspot name hname)
  refine ⟨after, hafter, hafter.found, fun name hname path => ?_, ?_, ?_, hs.paired⟩
  · rw [hspot name hname]
    exact hs.free name hname path
  · rw [hread _ List.mem_cons_self, hs.checkpoint]
  · rw [hread _ (b.volumeName_mem day .main), hs.main]

/-- The invariant of calls: the records stand for programs, none of them handled twice. -/
theorem History.stands (hb : b.Proper day) (h : b.History day last returned) : ∃ made q handled,
    b.Opens last made q ∧ b.Stands day q handled returned made ∧ handled.Nodup ∧
      (handled ≠ [] → made = last) := by
  induction h with
  | start hfresh =>
    obtain ⟨made, q, hopens, hfree⟩ := hfresh
    exact ⟨made, q, [], hopens, stands_of_fresh hopens hfree, .nil, fun hne => (hne rfl).elim⟩
  | @call last start done returned entries names c _ hkeeps hoffers hrun ih =>
    obtain ⟨made, q, handled, hopens, hs, hnodup, -⟩ := ih
    obtain ⟨after, hafter, hs⟩ := hs.of_keeps hopens hkeeps
    obtain ⟨done', entries', hrun', -, hdone, -⟩ := run_ok hb hafter hs hoffers c
    cases hrun.symm.trans hrun'
    refine ⟨done, q, _, opens_of_found hdone.found, hdone, ?_, fun _ => rfl⟩
    have hnames : names.Nodup := (pairwise_programs hoffers.programs).imp ne_of_lt
    refine List.nodup_append.mpr ⟨hnodup, hnames.filter _, ?_⟩
    rintro name hname other hother rfl
    exact (of_decide_eq_true (List.mem_filter.mp hother).2) hname

/-- The invariant, as the files show it. -/
theorem Stands.recorded (hb : b.Proper day) (h : b.Opens last made q)
    (hs : b.Stands day q handled returned made) (hlast : handled ≠ [] → made = last) :
    b.Recorded day last handled returned := by
  have hcheckpoint := checkpoint_locates hb hs.found
  obtain ⟨t, ht, hmain⟩ := (journal_opened hb hs.found hs.free).locates .main
  have hread := hs.checkpoint
  have hread_main := hs.main
  by_cases hnil : handled = []
  · rw [if_pos hnil] at hread hread_main
    have habsent : ∀ {s name}, made.Locates s q name → name ∈ b.recordNames day →
        made.read? (q ++ [name]) = none → ∀ text, last.load s ≠ .ok text := by
      intro s name hlocates hname hnone text hload
      obtain ⟨path, hspot⟩ := Files.free_of_read? hnone (hs.free name hname)
      obtain ⟨e, he⟩ := hlocates.not_loaded hspot
      rw [h.grows.load hload] at he
      cases he
    have hreturned : returned = [] := by simpa [hnil] using hs.paired
    rw [hnil, hreturned]
    refine .nothing (habsent hcheckpoint List.mem_cons_self hread) ?_
    rw [ht]
    exact habsent hmain (b.volumeName_mem day .main) hread_main
  · obtain rfl := hlast hnil
    rw [if_neg hnil] at hread hread_main
    refine .handled hnil (hcheckpoint.load hread) (Json.parse_pretty_strings "completed" handled) ?_
    rw [ht]
    exact hmain.load hread_main

/-- However often a batch is called, whatever is done to its programs in between, its records hold
what was returned, for programs handled once each. A next call runs the others, in the order of
their names; right after it there is nothing to run. -/
theorem History.runs_once (hb : b.Proper day) (h : b.History day last returned) :
    ∃ handled : List String, handled.Nodup ∧
      returned.map (fun entry => entry.get? "program") =
        handled.map (fun name => some (.str name)) ∧
      b.Recorded day last handled returned ∧
      ∀ c start names, b.Keeps day last start → b.Offers start names →
        names.Pairwise (· < ·) ∧ ∃ done entries, (b.asked c).run day start = (done, .ok entries) ∧
          (names.filter (· ∉ handled)).Forall₂ (b.Enters c start) entries ∧
          ∀ again, (b.asked again).run day done = (done, .ok []) := by
  obtain ⟨made, q, handled, hopens, hs, hnodup, hlast⟩ := h.stands hb
  refine ⟨handled, hnodup, hs.paired, hs.recorded hb hopens hlast,
    fun c start names hkeeps hoffers => ?_⟩
  obtain ⟨after, hafter, hs⟩ := hs.of_keeps hopens hkeeps
  obtain ⟨done, entries, hrun, hentries, hdone, hwrites⟩ := run_ok hb hafter hs hoffers c
  refine ⟨pairwise_programs hoffers.programs, done, entries, hrun, hentries, fun again => ?_⟩
  refine run_again hb hdone hs.accepts hwrites (hoffers.apart after q hafter)
    (fun name hname => ?_) again
  by_cases hhandled : name ∈ handled
  · exact List.mem_append_left _ hhandled
  · exact List.mem_append_right _ (List.mem_filter.mpr ⟨hname, decide_eq_true hhandled⟩)

def shelf : Batch := ⟨"shelf", "run", .number 1, .number 0, .number 0, "out"⟩

def idle : String := "\x7b1\x7d;\r\nI = \x7bq\x7d;\r\nF = \x7bq\x7d;\r\n"

/-- Two programs, one of which cannot be read, and no folder of results yet. -/
def shelfFirst : Files :=
  ⟨[(["shelf", "c.tm"], idle), (["shelf", "notes.txt"], "c"), (["shelf", "b.tm"], "?")], []⟩

def oneByOne : Call := ⟨1, by decide, 0, 0⟩

/-- After a call one of the programs has been changed, and another one added. -/
def shelfNext : Files :=
  let done := ((shelf.asked oneByOne).run "20240101" shelfFirst).1
  ⟨done.texts.drop 1 ++ [(["shelf", "a.tm"], ""), (["shelf", "c.tm"], "?")], done.folders⟩

theorem proper_shelf : shelf.Proper "20240101" :=
  ⟨by decide, by decide, by decide, by decide +kernel, by decide +kernel⟩

theorem opens_shelfFirst :
    shelf.Opens shelfFirst ⟨shelfFirst.texts, [["out"], ["out", "shelf"]]⟩ ["out", "shelf"] :=
  ⟨by decide +kernel, by decide +kernel⟩

theorem opens_shelfNext : shelf.Opens shelfNext shelfNext ["out", "shelf"] :=
  opens_of_found (by decide +kernel)

theorem offers_shelfFirst : shelf.Offers shelfFirst ["b.tm", "c.tm"] := by
  refine offers_of_opens opens_shelfFirst (by decide +kernel) (by decide +kernel) ?_
  rw [List.forall_mem_cons, List.forall_mem_singleton]
  exact ⟨⟨"?", by decide +kernel⟩, ⟨idle, by decide +kernel⟩⟩

theorem offers_shelfNext : shelf.Offers shelfNext ["a.tm", "b.tm", "c.tm"] := by
  have hfiles : shelf.programs shelfNext = .ok ["a.tm", "b.tm", "c.tm"] ∧
      shelfNext.load (shelf.home ++ ["a.tm"]).text = .ok "" ∧
      shelfNext.load (shelf.home ++ ["b.tm"]).text = .ok "?" ∧
      shelfNext.load (shelf.home ++ ["c.tm"]).text = .ok "?" := by decide +kernel
  obtain ⟨hprograms, ha, hb, hc⟩ := hfiles
  refine offers_of_opens opens_shelfNext hprograms hprograms ?_
  rw [List.forall_mem_cons, List.forall_mem_cons, List.forall_mem_singleton]
  exact ⟨⟨"", ha⟩, ⟨"?", hb⟩, ⟨"?", hc⟩⟩

/-- Of the programs on the shelf later only the new one is run. -/
theorem History.runs_once_shelf : ∃ last returned, shelf.History "20240101" last returned ∧
    shelf.Recorded "20240101" last ["b.tm", "c.tm"] returned ∧
    shelf.Keeps "20240101" last shelfNext ∧
    ∀ c, ∃ done entry, (shelf.asked c).run "20240101" shelfNext = (done, .ok [entry]) ∧
      shelf.Enters c shelfNext "a.tm" entry ∧
      ∀ again, (shelf.asked again).run "20240101" done = (done, .ok []) := by
  have hempty :
      (Files.mk shelfFirst.texts [["out"], ["out", "shelf"]]).namesIn ["out", "shelf"] = [] := by
    decide +kernel
  have hfree := free_of_empty proper_shelf hempty
  have hkeeps : shelf.Keeps "20240101" shelfFirst shelfFirst :=
    ⟨_, _, _, opens_shelfFirst, opens_shelfFirst, fun _ _ => rfl⟩
  obtain ⟨last, returned, hrun, hentries, hstands, -⟩ := run_ok proper_shelf opens_shelfFirst
    (stands_of_fresh opens_shelfFirst hfree) offers_shelfFirst oneByOne
  have hlast : last = ((shelf.asked oneByOne).run "20240101" shelfFirst).1 := by rw [hrun]
  have hhistory :=
    History.call oneByOne (.start ⟨_, _, opens_shelfFirst, hfree⟩) hkeeps offers_shelfFirst hrun
  have hnext : shelf.Keeps "20240101" last shelfNext := by
    refine ⟨last, shelfNext, _, opens_of_found hstands.found, opens_shelfNext, ?_⟩
    rw [hlast]
    decide +kernel
  obtain ⟨handled, -, hpaired, hrecorded, hcalls⟩ := History.runs_once proper_shelf hhistory
  have hhandled : handled = ["b.tm", "c.tm"] := by
    have hinjective : Function.Injective fun name : String =>
        some (Json.str (Letters.ofString name)) :=
      fun _ _ hsame => ofString_injective (Json.str.inj (Option.some.inj hsame))
    rw [List.nil_append, programs_of_enters hentries] at hpaired
    exact (List.map_injective_iff.mpr hinjective hpaired).symm
  rw [hhandled] at hrecorded
  refine ⟨last, _, hhistory, hrecorded, hnext, fun c => ?_⟩
  obtain ⟨-, done, entries, hrun, hentries, hagain⟩ := hcalls c shelfNext _ hnext offers_shelfNext
  have hfilter : ["a.tm", "b.tm", "c.tm"].filter (· ∉ handled) = ["a.tm"] := by
    rw [hhandled]
    decide
  rw [hfilter] at hentries
  cases hentries with
  | cons hentry hnil =>
    cases hnil
    exact ⟨done, _, hrun, hentry, hagain⟩

end Batch

end TapeMachine
