import Attest.Proofs.Context.Contention

/-!
Callers that contend for a context get what they would get one after another, in the order in which
their answers were settled. A call that is done before another one starts comes first.
-/

namespace Attest

namespace Contention

/-- A call, by the caller with this index, and its answer. -/
structure Entry where
  index : Nat
  call : Call
  answer : Call.Answer

def Entry.ofCaller? (index : Nat) (caller : Caller) : Option Entry :=
  caller.stage.answer?.map fun answer => { index, call := caller.call, answer }

/-- What a caller's call comes to, once that is settled. -/
def settled? (contention : Contention) (index : Nat) : Option Entry :=
  contention.callers[index]?.bind (Entry.ofCaller? index)

def newly (before after : Option Entry) : List Entry :=
  match before with
  | some _ => []
  | none => after.toList

/-- The calls of a schedule, each at the step that settles its answer. -/
def log : List Nat → Contention → List Entry
  | [], _ => []
  | index :: rest, contention =>
    match contention.advance index with
    | none => []
    | some after => newly (contention.settled? index) (after.settled? index) ++ after.log rest

/-- The entries are what has been settled, one for each such caller. -/
structure Logged (contention : Contention) (entries : List Entry) : Prop where
  distinct : (entries.map Entry.index).Nodup
  mem_iff : ∀ entry, entry ∈ entries ↔ contention.settled? entry.index = some entry

/-- What has been settled is what the same calls come to one after another, up to this site. -/
structure Tracks (start : Site) (contention : Contention) (entries : List Entry) (told : Site) :
    Prop where
  logged : contention.Logged entries
  replays : start.runAll (entries.map Entry.call) = (entries.map Entry.answer, told)
  coherent : Coherent told contention

variable {contention after : Contention} {index : Nat} {caller : Caller} {start told : Site}
  {calls : List Call} {entries : List Entry} {schedule : List Nat}

theorem advance_eq (advanced : contention.advance index = some after) {other : Nat}
    (differs : other ≠ index) : after.callers[other]? = contention.callers[other]? := by
  obtain ⟨caller, site, owner, stage, -, -, rfl⟩ := pass_of_advance advanced
  exact goOn_of_ne differs contention.callers stage

theorem settled?_of_found (found : contention.callers[index]? = some caller) :
    contention.settled? index = Entry.ofCaller? index caller := by
  rw [settled?, found, Option.bind_some]

theorem index_of_settled {entry : Entry} (settled : contention.settled? index = some entry) :
    entry.index = index := by
  obtain ⟨caller, -, settled⟩ := Option.bind_eq_some_iff.1 settled
  obtain ⟨answer, -, rfl⟩ := Option.map_eq_some_iff.1 settled
  rfl

theorem Logged.congr (logged : contention.Logged entries)
    (same : ∀ index, after.settled? index = contention.settled? index) : after.Logged entries where
  distinct := logged.distinct
  mem_iff entry := by rw [logged.mem_iff, same]

theorem Logged.concat {entry : Entry} (logged : contention.Logged entries)
    (unsettled : contention.settled? entry.index = none)
    (settled : after.settled? entry.index = some entry)
    (same : ∀ other, other ≠ entry.index → after.settled? other = contention.settled? other) :
    after.Logged (entries ++ [entry]) where
  distinct := by
    rw [List.map_append, List.map_singleton, List.nodup_append]
    refine ⟨logged.distinct, List.pairwise_singleton .., fun index older other new => ?_⟩
    obtain rfl := List.mem_singleton.1 new
    rintro rfl
    obtain ⟨other, member, same⟩ := List.mem_map.1 older
    have before := (logged.mem_iff other).1 member
    rw [same, unsettled] at before
    cases before
  mem_iff other := by
    rw [List.mem_append, List.mem_singleton, logged.mem_iff]
    by_cases index : other.index = entry.index
    · rw [index, unsettled, settled]
      simp [eq_comm]
    · rw [same other.index index, or_iff_left]
      rintro rfl
      exact index rfl

theorem settled?_advance (advanced : contention.advance index = some after) (other : Nat)
    (differs : other ≠ index) : after.settled? other = contention.settled? other := by
  rw [settled?, settled?, advance_eq advanced differs]

theorem newly_self (settled : Option Entry) : newly settled settled = [] := by
  cases settled <;> rfl

theorem Tracks.advance (tracks : Tracks start contention entries told)
    (advanced : contention.advance index = some after) :
    ∃ told', Tracks start after
      (entries ++ newly (contention.settled? index) (after.settled? index)) told' := by
  have others := settled?_advance advanced
  obtain ⟨⟨call, before⟩, site, owner, stage, found, pass, result⟩ := pass_of_advance advanced
  have moved : after.callers[index]? = some { call, stage } := by
    rw [result]
    exact goOn_self found stage
  have now := settled?_of_found moved
  have was := settled?_of_found found
  rw [now, was]
  obtain ⟨same, coherent⟩ | ⟨unsettled, answer, told', settled, whole, coherent⟩ :=
    tracks.coherent.pass found pass
  · have unchanged : Entry.ofCaller? index { call, stage } =
        Entry.ofCaller? index { call, stage := before } := by
      rw [Entry.ofCaller?, Entry.ofCaller?, same]
    refine ⟨told, ?_, ?_, result ▸ coherent⟩
    · rw [unchanged, newly_self, List.append_nil]
      refine tracks.logged.congr fun other => ?_
      by_cases differs : other = index
      · rw [differs, now, was, unchanged]
      · exact others other differs
    · rw [unchanged, newly_self, List.append_nil]
      exact tracks.replays
  · have none : Entry.ofCaller? index { call, stage := before } = none := by
      rw [Entry.ofCaller?, unsettled, Option.map_none]
    have some : Entry.ofCaller? index { call, stage } = some { index, call, answer } := by
      rw [Entry.ofCaller?, settled, Option.map_some]
    rw [none, some]
    refine ⟨told', ?_, ?_, result ▸ coherent⟩
    · exact tracks.logged.concat (was.trans none) (now.trans some) others
    · rw [newly, Option.toList_some, List.map_append, List.map_append, List.map_singleton,
        List.map_singleton, Site.runAll_concat tracks.replays, whole]

theorem log_cons (advanced : contention.advance index = some after) (rest : List Nat) :
    contention.log (index :: rest) =
      newly (contention.settled? index) (after.settled? index) ++ after.log rest := by
  rw [log, advanced]

theorem Tracks.follow (tracks : Tracks start contention entries told)
    (followed : contention.follow schedule = some after) :
    ∃ told', Tracks start after (entries ++ contention.log schedule) told' := by
  induction schedule generalizing contention entries told with
  | nil =>
    cases followed
    exact ⟨told, (List.append_nil entries).symm ▸ tracks⟩
  | cons index rest ih =>
    rw [follow_cons] at followed
    obtain ⟨next, advanced, followed⟩ := Option.bind_eq_some_iff.1 followed
    obtain ⟨told, tracks⟩ := tracks.advance advanced
    obtain ⟨told, tracks⟩ := ih tracks followed
    rw [log_cons advanced, ← List.append_assoc]
    exact ⟨told, tracks⟩

theorem follow_append {earlier later : List Nat}
    (followed : contention.follow (earlier ++ later) = some after) :
    ∃ halfway, contention.follow earlier = some halfway ∧ halfway.follow later = some after ∧
      contention.log (earlier ++ later) = contention.log earlier ++ halfway.log later := by
  induction earlier generalizing contention with
  | nil => exact ⟨contention, rfl, followed, rfl⟩
  | cons index rest ih =>
    rw [List.cons_append, follow_cons] at followed
    obtain ⟨next, advanced, followed⟩ := Option.bind_eq_some_iff.1 followed
    obtain ⟨halfway, first, second, logged⟩ := ih followed
    refine ⟨halfway, ?_, second, ?_⟩
    · rw [follow_cons, advanced, Option.bind_some, first]
    · rw [List.cons_append, log_cons advanced, log_cons advanced, logged, List.append_assoc]

theorem follow_eq (followed : contention.follow schedule = some after) {other : Nat}
    (absent : other ∉ schedule) : after.callers[other]? = contention.callers[other]? := by
  induction schedule generalizing contention with
  | nil =>
    cases followed
    rfl
  | cons index rest ih =>
    rw [follow_cons] at followed
    obtain ⟨next, advanced, followed⟩ := Option.bind_eq_some_iff.1 followed
    rw [ih followed (List.not_mem_of_not_mem_cons absent),
      advance_eq advanced (List.ne_of_not_mem_cons absent)]

theorem calls_advance (advanced : contention.advance index = some after) :
    after.callers.map Caller.call = contention.callers.map Caller.call := by
  obtain ⟨caller, site, owner, stage, -, -, rfl⟩ := pass_of_advance advanced
  apply List.ext_getElem?
  intro other
  rw [List.getElem?_map, List.getElem?_map, goOn, List.getElem?_modify, Option.map_eq_map,
    Option.map_map]
  congr 1
  funext caller
  simp only [Function.comp]
  split <;> rfl

theorem calls_follow (followed : contention.follow schedule = some after) :
    after.callers.map Caller.call = contention.callers.map Caller.call := by
  induction schedule generalizing contention with
  | nil =>
    cases followed
    rfl
  | cons index rest ih =>
    rw [follow_cons] at followed
    obtain ⟨next, advanced, followed⟩ := Option.bind_eq_some_iff.1 followed
    rw [ih followed, calls_advance advanced]

theorem calls_begin (start : Site) (calls : List Call) :
    (begin start calls).callers.map Caller.call = calls := by
  rw [begin, List.map_map]
  exact List.map_id calls

theorem ready_of_begin (found : (begin start calls).callers[index]? = some caller) :
    caller.stage = .ready := by
  rw [begin, List.getElem?_map] at found
  obtain ⟨call, -, rfl⟩ := Option.map_eq_some_iff.1 found
  rfl

theorem unsettled_of_begin (start : Site) (calls : List Call) (index : Nat) :
    (begin start calls).settled? index = none := by
  refine Option.bind_eq_none_iff.2 fun caller found => ?_
  rw [Entry.ofCaller?, ready_of_begin found]
  rfl

theorem tracks_begin (start : Site) (calls : List Call) :
    Tracks start (begin start calls) [] start where
  logged := {
    distinct := List.nodup_nil
    mem_iff := fun entry => by
      rw [unsettled_of_begin]
      exact iff_of_false List.not_mem_nil nofun
  }
  replays := rfl
  coherent := by
    have alone : Alone (begin start calls).callers none := by
      intro index caller found inside
      rw [ready_of_begin found] at inside
      cases inside
    exact .free alone

theorem tracks_follow (followed : (begin start calls).follow schedule = some after) :
    ∃ told, Tracks start after ((begin start calls).log schedule) told :=
  (tracks_begin start calls).follow followed

theorem done_of_finished (finished : after.isFinished)
    (found : after.callers[index]? = some caller) : ∃ answer, caller.stage = .done answer := by
  have member : _ ∈ after.answers := List.mem_map_of_mem (List.mem_of_getElem? found)
  have settled := List.all_eq_true.1 finished _ member
  split at settled
  · exact ⟨_, ‹_›⟩
  · cases settled

theorem answer_of_done {answer : Call.Answer} (found : after.callers[index]? = some caller)
    (done : caller.stage = .done answer) :
    after.settled? index = some { index, call := caller.call, answer } ∧
      after.answers[index]? = some (some answer) := by
  constructor
  · rw [settled?_of_found found, Entry.ofCaller?, done]
    rfl
  · rw [answers, List.getElem?_map, found, Option.map_some, done]

theorem Coherent.told_of_finished (coherent : Coherent told after) (finished : after.isFinished) :
    told = after.site := by
  cases coherent with
  | free alone => rfl
  | held alone holds behind =>
    obtain ⟨answer, done⟩ := done_of_finished finished holds
    have inside := behind.inside
    rw [done] at inside
    exact inside.elim

/-- All steps of the one caller come before all steps of the other. -/
def Precedes (schedule : List Nat) (first second : Nat) : Prop :=
  ∃ earlier later, schedule = earlier ++ later ∧ first ∉ later ∧ second ∉ earlier

/-- The entries are all of the calls, with their answers, in an order in which they have the same
effect one after another. -/
structure Linearizes (start : Site) (calls : List Call) (schedule : List Nat)
    (final : Contention) (entries : List Entry) : Prop where
  complete : (entries.map Entry.index).Perm (List.range calls.length)
  made : ∀ entry ∈ entries, calls[entry.index]? = some entry.call
  answered : ∀ entry ∈ entries, final.answers[entry.index]? = some (some entry.answer)
  replays : start.runAll (entries.map Entry.call) = (entries.map Entry.answer, final.site)
  ordered : ∀ first second, first < calls.length → second < calls.length →
    Precedes schedule first second → [first, second].Sublist (entries.map Entry.index)

theorem settled?_follow (followed : contention.follow schedule = some after)
    (absent : index ∉ schedule) : after.settled? index = contention.settled? index := by
  rw [settled?, settled?, follow_eq followed absent]

theorem found_of_follow (followed : (begin start calls).follow schedule = some after)
    (found : after.callers[index]? = some caller) : calls[index]? = some caller.call := by
  rw [← calls_begin start calls, ← calls_follow followed, List.getElem?_map, found, Option.map_some]

theorem exists_settled (followed : (begin start calls).follow schedule = some after)
    (finished : after.isFinished) (within : index < calls.length) :
    ∃ entry, after.settled? index = some entry := by
  have length : after.callers.length = calls.length := by
    rw [← calls_begin start calls, ← calls_follow followed, List.length_map]
  have found := List.getElem?_eq_getElem (length ▸ within)
  obtain ⟨answer, done⟩ := done_of_finished finished found
  exact ⟨_, (answer_of_done found done).1⟩

theorem linearizes_of_finished (followed : (begin start calls).follow schedule = some after)
    (finished : after.isFinished) :
    Linearizes start calls schedule after ((begin start calls).log schedule) := by
  obtain ⟨told, tracks⟩ := tracks_follow followed
  have settled {entry : Entry} (member : entry ∈ (begin start calls).log schedule) :=
    (tracks.logged.mem_iff entry).1 member
  have reported {index : Nat} {entry : Entry} (settled : after.settled? index = some entry) :
      calls[index]? = some entry.call ∧ after.answers[index]? = some (some entry.answer) := by
    obtain ⟨caller, found, noted⟩ := Option.bind_eq_some_iff.1 settled
    obtain ⟨answer, done⟩ := done_of_finished finished found
    have result := answer_of_done found done
    cases settled.symm.trans result.1
    exact ⟨found_of_follow followed found, result.2⟩
  constructor
  case complete =>
    refine (List.perm_ext_iff_of_nodup tracks.logged.distinct List.nodup_range).2 fun index => ?_
    rw [List.mem_map, List.mem_range]
    constructor
    · rintro ⟨entry, member, rfl⟩
      exact (List.getElem?_eq_some_iff.1 (reported (settled member)).1).1
    · intro within
      obtain ⟨entry, settled⟩ := exists_settled followed finished within
      obtain rfl := index_of_settled settled
      exact ⟨entry, (tracks.logged.mem_iff entry).2 settled, rfl⟩
  case made => exact fun entry member => (reported (settled member)).1
  case answered => exact fun entry member => (reported (settled member)).2
  case replays =>
    rw [tracks.replays, tracks.coherent.told_of_finished finished]
  case ordered =>
    rintro first second first_within second_within ⟨earlier, later, rfl, finishes, unbegun⟩
    obtain ⟨halfway, begun, resumed, logged⟩ := follow_append followed
    obtain ⟨midway, tracked⟩ := tracks_follow begun
    -- Halfway the first caller is done and the second has not begun.
    have ahead : first ∈ ((begin start calls).log earlier).map Entry.index := by
      obtain ⟨entry, settled⟩ := exists_settled followed finished first_within
      obtain rfl := index_of_settled settled
      rw [settled?_follow resumed finishes] at settled
      exact List.mem_map_of_mem ((tracked.logged.mem_iff entry).2 settled)
    have behind : second ∈ (halfway.log later).map Entry.index := by
      obtain ⟨entry, settled⟩ := exists_settled followed finished second_within
      obtain rfl := index_of_settled settled
      have member := (tracks.logged.mem_iff entry).2 settled
      rw [logged, List.mem_append] at member
      obtain before | after := member
      · have early := (tracked.logged.mem_iff entry).1 before
        rw [settled?_follow begun unbegun, unsettled_of_begin] at early
        cases early
      · exact List.mem_map_of_mem after
    rw [logged, List.map_append]
    exact (List.singleton_sublist.2 ahead).append (List.singleton_sublist.2 behind)

theorem length_answers (followed : (begin start calls).follow schedule = some after) :
    after.answers.length = calls.length := by
  rw [answers, List.length_map, ← calls_begin start calls, ← calls_follow followed,
    List.length_map]

variable {final : Contention}

theorem Linearizes.length_eq (linearizes : Linearizes start calls schedule final entries) :
    entries.length = calls.length := by
  have counted := linearizes.complete.length_eq
  rwa [List.length_map, List.length_range] at counted

theorem Linearizes.answers_perm (linearizes : Linearizes start calls schedule final entries)
    (length : final.answers.length = calls.length) :
    final.answers.Perm ((entries.map Entry.answer).map some) := by
  have reads : (entries.map Entry.answer).map some =
      (entries.map Entry.index).map fun index => final.answers[index]?.join := by
    rw [List.map_map, List.map_map]
    refine List.map_congr_left fun entry member => ?_
    simp only [Function.comp, linearizes.answered entry member, Option.join_some]
  have all : (List.range calls.length).map (fun index => final.answers[index]?.join) =
      final.answers := by
    refine List.ext_getElem (by rw [List.length_map, List.length_range, length]) ?_
    intro index left right
    rw [List.getElem_map, List.getElem_range, List.getElem?_eq_getElem right, Option.join_some]
  rw [reads]
  exact (all ▸ linearizes.complete.map _).symm

theorem Linearizes.allAsk {name : String}
    (linearizes : Linearizes start calls schedule final entries)
    (asking : start.AllAsk name calls) : start.AllAsk name (entries.map Entry.call) := by
  intro call listed
  obtain ⟨entry, member, rfl⟩ := List.mem_map.1 listed
  exact asking entry.call (List.mem_of_getElem? (linearizes.made entry member))

/-- A load of the caller is under way. -/
def LoadsAt (contention : Contention) (index : Nat) : Prop :=
  ∃ caller name, contention.callers[index]? = some caller ∧ caller.stage = .loading name

theorem Coherent.holder_of_loadsAt (coherent : Coherent told contention)
    (loads : contention.LoadsAt index) : contention.owner = some index := by
  obtain ⟨caller, name, found, loading⟩ := loads
  refine coherent.alone index caller found ?_
  rw [loading]
  trivial

/-- Whatever the schedule, no two loads are under way at the same time, all callers can be brought to
an end, and once they are, they have been answered as one after another. Callers that all ask for one
name, whose factory fails at first, make it fail just so often. -/
theorem linearizable (start : Site) (calls : List Call) {schedule : List Nat}
    {reached : Contention} (followed : (begin start calls).follow schedule = some reached) :
    (∀ first second, reached.LoadsAt first → reached.LoadsAt second → first = second) ∧
    (∃ rest final, reached.follow rest = some final ∧ final.isFinished) ∧
    (reached.isFinished →
      ∃ entries, Linearizes start calls schedule reached entries ∧
        ∀ name factory failures, start.FailsFirst name factory failures →
          start.AllAsk name calls →
          ∃ answers, answers.length = calls.length ∧
            reached.answers.Perm (answers.map some) ∧
            start.Retried name factory failures answers reached.site) := by
  obtain ⟨told, tracks⟩ := tracks_follow followed
  refine ⟨?_, tracks.coherent.exists_finish, fun finished => ?_⟩
  · intro first second loads also
    have holds := tracks.coherent.holder_of_loadsAt loads
    have held := tracks.coherent.holder_of_loadsAt also
    exact Option.some.inj (holds.symm.trans held)
  · have linearizes := linearizes_of_finished followed finished
    refine ⟨_, linearizes, fun name factory failures fails asking => ?_⟩
    have retried := Site.retried_runAll fails (linearizes.allAsk asking)
    rw [linearizes.replays] at retried
    refine ⟨_, ?_, linearizes.answers_perm (length_answers followed), retried⟩
    rw [List.length_map, linearizes.length_eq]

theorem failsFirst_sample : Site.sampleStart.FailsFirst "auth/none" .sample 1 where
  idle := rfl
  found := rfl
  fails further := by
    cases further with
    | zero => exact iff_of_true ⟨_, rfl⟩ Nat.zero_lt_one
    | succ further => exact iff_of_false nofun (Nat.not_lt.2 (Nat.le_add_left ..))

/-- Two callers wait for the lock, the second gets it first and fails, and a third sees the provider
before the first has left. -/
def sampleSchedule : List Nat := [0, 1, 1, 1, 1, 1, 1, 0, 0, 0, 0, 2, 0]

def sampleCalls : List Call := [.ensure (some "auth/none"), .ensure none, .ensure none]

theorem linearizable_sample : ∃ final,
    (begin Site.sampleStart sampleCalls).follow sampleSchedule = some final ∧
      final.isFinished ∧ Site.sampleStart.AllAsk "auth/none" sampleCalls ∧
      (∃ entries, Linearizes Site.sampleStart sampleCalls sampleSchedule final entries) ∧
      ∃ answers, answers.length = 3 ∧ final.answers.Perm (answers.map some) ∧
        Site.sampleStart.Retried "auth/none" .sample 1 answers final.site := by
  have asking : Site.sampleStart.AllAsk "auth/none" sampleCalls := by
    simp [Site.AllAsk, sampleCalls, Site.sampleStart]
  obtain ⟨final, followed, finished⟩ : ∃ final,
      (begin Site.sampleStart sampleCalls).follow sampleSchedule = some final ∧
        final.isFinished := ⟨_, rfl, rfl⟩
  obtain ⟨entries, linearizes, particular⟩ :=
    (linearizable Site.sampleStart sampleCalls followed).2.2 finished
  exact ⟨final, followed, finished, asking, ⟨entries, linearizes⟩,
    particular "auth/none" .sample 1 failsFirst_sample asking⟩

end Contention

end Attest
