import OneTable.Proofs.Reader.Pouring

/-!
# What a sink hears

A reading tells its sink the columns, then the rows, and at last that there are no more. Four
things can go wrong on the way: there is no configuration, two columns have one name, the stream
has a fault, or the sink refuses a call. Whatever happens, the sink hears a beginning of what it
would have heard if it refused nothing, and it hears nothing behind its first refusal.

To say so, the calls have to be seen. A sink is *recorded* by writing down every call together
with its answer; this changes nothing else, since a recorded sink answers as the sink does. The
calls of a sink that refuses nothing are known before the first of them is made
(`OneTable.SinkCall.script`): they come from the columns and from the rows in front of the first
fault of the stream. A log *follows* such a script if it is the script up to the first refusal
(`OneTable.Follows`), and what comes of the reading can be read off the log
(`OneTable.Answered.verdict`).

* `OneTable.Sink.recorded` – a sink whose calls are written down;
* `OneTable.rowsBefore`, `OneTable.firstFault?` – a stream up to its first fault;
* `OneTable.Follows`, `OneTable.Answered.verdict` – the log of a script, and what comes of it;
* `OneTable.Hears`, `OneTable.Protocol` – **what a sink hears,** and what comes of it;
* `OneTable.Reader.protocol_readInto` – every reading keeps to it.
-/

namespace OneTable

/-! ### Calls and their answers -/

/-- A call that a sink can hear. -/
inductive SinkCall where
  | start (columns : List OutputColumn)
  | push (row : OutputRow)
  | finish
deriving DecidableEq

/-- A call, and what the sink answered. -/
structure Answered where
  call : SinkCall
  answer : Except Trace Unit
deriving DecidableEq

/-- The refusal of a call, if the sink refused it. -/
def Answered.refusal? (e : Answered) : Option Trace :=
  match e.answer with
  | .ok () => none
  | .error trace => some trace

/-- A call that the sink took. -/
def SinkCall.taken (call : SinkCall) : Answered :=
  ⟨call, .ok ()⟩

/-- A call that the sink refused. -/
def SinkCall.refused (call : SinkCall) (trace : Trace) : Answered :=
  ⟨call, .error trace⟩

theorem SinkCall.answer_of_mem_taken {calls : List SinkCall} :
    ∀ e ∈ calls.map SinkCall.taken, e.answer = .ok () := by
  intro e he
  obtain ⟨call, -, rfl⟩ := List.mem_map.1 he
  rfl

/-- The row that came with a call. -/
def SinkCall.row? : SinkCall → Option OutputRow
  | .push row => some row
  | _ => none

/-- The rows that a sink was given. -/
def Answered.rows (log : List Answered) : List OutputRow :=
  log.filterMap fun e => e.call.row?

namespace Sink

variable {σ : Type} (sink : Sink σ)

/-- What a sink answers to a call. -/
def answerTo : SinkCall → σ → Except Trace Unit × σ
  | .start columns => sink.start columns
  | .push row => sink.push row
  | .finish => sink.finish

/-- Writes down a call with its answer. -/
def record (call : SinkCall) (s : σ × List Answered) : Except Trace Unit × σ × List Answered :=
  let (answer, t) := sink.answerTo call s.1
  (answer, t, s.2 ++ [⟨call, answer⟩])

/-- **A sink whose calls are written down,** one behind the other. -/
def recorded : Sink (σ × List Answered) where
  start columns := sink.record (.start columns)
  push row := sink.record (.push row)
  finish := sink.record .finish

end Sink

/-! ### Streams up to their first fault -/

/-- **The rows in front of the first fault** of a stream. -/
def rowsBefore : List StreamRow → List OutputRow
  | .ok row :: rest => row :: rowsBefore rest
  | _ => []

/-- **The first fault** of a stream, if there is one. -/
def firstFault? : List StreamRow → Option Fault
  | [] => none
  | .ok _ :: rest => firstFault? rest
  | .error fault :: _ => some fault

/-- A stream without faults is the rows in front of its end. -/
theorem firstFault?_eq_none_iff {stream : List StreamRow} :
    firstFault? stream = none ↔ stream = (rowsBefore stream).map .ok := by
  induction stream with
  | nil => exact iff_of_true rfl rfl
  | cons result rest ih =>
    rcases result with fault | row
    · exact iff_of_false nofun nofun
    · rw [firstFault?, ih, rowsBefore, List.map_cons, List.cons_inj_right]

theorem rowsBefore_map_ok (rows : List OutputRow) :
    rowsBefore (rows.map Except.ok) = rows := by
  induction rows with
  | nil => rfl
  | cons row rows ih => rw [List.map_cons, rowsBefore, ih]

/-- What comes of a stream where nothing else ends it: its first fault, or the number of its
rows. -/
def ending (taken : ℕ) (stream : List StreamRow) : Except Fault ℕ :=
  (firstFault? stream).elim (.ok (taken + (rowsBefore stream).length)) .error

theorem ending_eq_ok_iff {stream : List StreamRow} {n : ℕ} :
    ending 0 stream = .ok n ↔ firstFault? stream = none ∧ n = (rowsBefore stream).length := by
  rw [ending, Nat.zero_add]
  rcases firstFault? stream with _ | fault
  · simp [eq_comm]
  · exact iff_of_false error_ne_ok nofun

/-! ### Scripts -/

namespace SinkCall

/-- The calls for columns and rows. -/
def offer (schema : List OutputColumn) (rows : List OutputRow) : List SinkCall :=
  .start schema :: rows.map .push

/-- The calls behind the columns: a call for each row in front of the first fault, and notice of
the end where there is no fault. -/
def pours (stream : List StreamRow) : List SinkCall :=
  (rowsBefore stream).map .push ++ if firstFault? stream = none then [.finish] else []

/-- **The calls of a sink that refuses nothing.** -/
def script (schema : List OutputColumn) (stream : List StreamRow) : List SinkCall :=
  .start schema :: pours stream

variable {schema : List OutputColumn} {stream : List StreamRow}

theorem start_not_mem_pours (columns : List OutputColumn) : start columns ∉ pours stream := by
  rw [pours]
  split <;> simp

theorem finish_not_mem_offer (rows : List OutputRow) : finish ∉ offer schema rows := by
  simp [offer]

/-- The script of a stream without faults has notice of the end behind everything else. -/
theorem script_of_complete (h : firstFault? stream = none) :
    script schema stream = offer schema (rowsBefore stream) ++ [finish] := by
  rw [script, pours, if_pos h, offer, List.cons_append]

/-- The script of a stream with a fault has no notice of the end. -/
theorem script_of_fault (h : firstFault? stream ≠ none) :
    script schema stream = offer schema (rowsBefore stream) := by
  rw [script, pours, if_neg h, List.append_nil, offer]

theorem finish_mem_script_iff : finish ∈ script schema stream ↔ firstFault? stream = none := by
  by_cases h : firstFault? stream = none
  · rw [script_of_complete h]
    exact iff_of_true (List.mem_append_right _ (List.mem_singleton_self _)) h
  · rw [script_of_fault h]
    exact iff_of_false (finish_not_mem_offer _) h

/-- The rows of a script are those in front of the first fault. -/
theorem filterMap_row?_script : (script schema stream).filterMap row? = rowsBefore stream := by
  have hpush : (offer schema (rowsBefore stream)).filterMap row? = rowsBefore stream :=
    List.filterMap_map.trans List.filterMap_some
  by_cases h : firstFault? stream = none
  · rw [script_of_complete h, List.filterMap_append, hpush]
    exact List.append_nil _
  · rw [script_of_fault h, hpush]

end SinkCall

/-! ### Logs -/

/-- **A log follows a script** up to the first refusal, and ends there. -/
inductive Follows : List SinkCall → List Answered → Prop
  /-- Every call of the script was made. -/
  | nil : Follows [] []
  /-- The call was refused, and the others are not made. -/
  | refused (call : SinkCall) (script : List SinkCall) (trace : Trace) :
      Follows (call :: script) [call.refused trace]
  /-- The call was taken, and the others come behind it. -/
  | taken (call : SinkCall) {script : List SinkCall} {log : List Answered} :
      Follows script log → Follows (call :: script) (call.taken :: log)

/-- **What comes of a log:** the refusal in it, or else how the stream ends. -/
def Answered.verdict (ended : Except Fault ℕ) (log : List Answered) : Except Fault ℕ :=
  (log.findSome? Answered.refusal?).elim ended fun trace => .error (.output trace)

namespace Follows

variable {script : List SinkCall} {log : List Answered} {ended : Except Fault ℕ}

/-- **All calls were taken, or the last one that was made was refused.** -/
theorem all_or_refused (h : Follows script log) :
    log = script.map SinkCall.taken ∨
      ∃ before call after trace, script = before ++ call :: after ∧
        log = before.map SinkCall.taken ++ [call.refused trace] := by
  induction h with
  | nil => exact .inl rfl
  | refused call script trace => exact .inr ⟨[], call, script, trace, rfl, rfl⟩
  | taken call h ih =>
    rcases ih with rfl | ⟨before, last, after, trace, rfl, rfl⟩
    · exact .inl rfl
    · exact .inr ⟨call :: before, last, after, trace, rfl, rfl⟩

/-- The calls that are made are a beginning of the script. -/
theorem calls_isPrefix (h : Follows script log) : log.map Answered.call <+: script := by
  induction h with
  | nil => exact List.nil_prefix
  | refused call script trace => exact ⟨script, rfl⟩
  | taken call h ih => exact List.cons_prefix_cons.2 ⟨rfl, ih⟩

/-- Where no call was refused all of them were made. -/
theorem eq_of_taken (h : Follows script log) (htaken : ∀ e ∈ log, e.answer = .ok ()) :
    log = script.map SinkCall.taken := by
  rcases h.all_or_refused with h | ⟨before, call, after, trace, -, rfl⟩
  · exact h
  · exact absurd (htaken _ (List.mem_append_right _ (List.mem_singleton_self _))) error_ne_ok

/-- The last call of a script is made exactly if all others were taken. -/
theorem last_mem_iff {calls : List SinkCall} {last : SinkCall}
    (h : Follows (calls ++ [last]) log) (hlast : last ∉ calls) :
    last ∈ log.map Answered.call ↔ calls.map SinkCall.taken <+: log := by
  induction calls generalizing log with
  | nil =>
    rcases h with _ | ⟨_, _, trace⟩ | ⟨_, h⟩
    · exact iff_of_true (List.mem_singleton_self _) List.nil_prefix
    · exact iff_of_true List.mem_cons_self List.nil_prefix
  | cons call calls ih =>
    have hne := List.ne_of_not_mem_cons hlast
    have hrest := List.not_mem_of_not_mem_cons hlast
    rcases h with _ | ⟨_, _, trace⟩ | ⟨_, h⟩
    · refine iff_of_false (fun hmem => hne (List.mem_singleton.1 hmem)) fun hprefix => ?_
      exact absurd (congrArg Answered.answer (List.cons_prefix_cons.1 hprefix).1).symm error_ne_ok
    · refine Iff.trans ?_ ((ih h hrest).trans ?_)
      · exact List.mem_cons.trans (or_iff_right hne)
      · exact (List.cons_prefix_cons.trans (and_iff_right rfl)).symm

/-- Where the last call of a script was taken, all calls were. -/
theorem eq_of_last_taken {calls : List SinkCall} {last : SinkCall}
    (h : Follows (calls ++ [last]) log) (hlast : last ∉ calls) (hmem : last.taken ∈ log) :
    log = (calls ++ [last]).map SinkCall.taken := by
  induction calls generalizing log with
  | nil =>
    rcases h with _ | ⟨_, _, trace⟩ | ⟨_, _ | _⟩
    · exact absurd (congrArg Answered.answer (List.mem_singleton.1 hmem)).symm error_ne_ok
    · rfl
  | cons call calls ih =>
    have hne := List.ne_of_not_mem_cons hlast
    have hrest := List.not_mem_of_not_mem_cons hlast
    rcases h with _ | ⟨_, _, trace⟩ | ⟨_, h⟩
    · exact absurd (congrArg Answered.answer (List.mem_singleton.1 hmem)).symm error_ne_ok
    · have hbehind := (List.mem_cons.1 hmem).resolve_left fun hhead =>
        hne (congrArg Answered.call hhead)
      exact congrArg (call.taken :: ·) (ih h hrest hbehind)

/-- **Nothing is behind a refusal,** and nothing in front of it was refused. -/
theorem of_append (h : Follows script log) {before after : List Answered} {call : SinkCall}
    {trace : Trace} (hlog : log = before ++ call.refused trace :: after) :
    after = [] ∧ before.findSome? Answered.refusal? = none := by
  induction h generalizing before with
  | nil => exact absurd hlog.symm (List.append_ne_nil_of_right_ne_nil _ (List.cons_ne_nil _ _))
  | refused call script trace =>
    rcases before with _ | ⟨e, before⟩
    · exact ⟨(List.cons.inj hlog).2.symm, rfl⟩
    · exact absurd (List.cons.inj hlog).2.symm
        (List.append_ne_nil_of_right_ne_nil _ (List.cons_ne_nil _ _))
  | taken call h ih =>
    rcases before with _ | ⟨e, before⟩
    · exact absurd (congrArg Answered.answer (List.cons.inj hlog).1).symm error_ne_ok
    · obtain ⟨rfl, hrest⟩ := List.cons.inj hlog
      obtain ⟨hafter, hbefore⟩ := ih hrest
      exact ⟨hafter, hbefore⟩

/-- A refusal is what comes of the log. -/
theorem verdict_of_append (h : Follows script log) {before after : List Answered}
    {call : SinkCall} {trace : Trace} (hlog : log = before ++ call.refused trace :: after) :
    Answered.verdict ended log = .error (.output trace) := by
  obtain ⟨-, hbefore⟩ := h.of_append hlog
  rw [hlog, Answered.verdict, List.findSome?_append, hbefore]
  rfl

/-- Where no call was refused the stream has its end. -/
theorem verdict_of_taken (htaken : ∀ e ∈ log, e.answer = .ok ()) :
    Answered.verdict ended log = ended := by
  have hnone : log.findSome? Answered.refusal? = none :=
    List.findSome?_eq_none_iff.2 fun e he => by rw [Answered.refusal?, htaken e he]
  rw [Answered.verdict, hnone]
  rfl

end Follows

/-! ### Recorded runs -/

section Recorded

variable {σ : Type} (sink : Sink σ)

/-- **What a pouring tells its sink.** It ends as it does without a record, and what was written
down is the script of the stream up to the first refusal. -/
theorem pour_recorded (taken : ℕ) (stream : List StreamRow) (s : σ) (log₀ : List Answered) :
    ∃ log, pour sink.recorded taken stream (s, log₀) =
        ((pour sink taken stream s).1, (pour sink taken stream s).2, log₀ ++ log) ∧
      Follows (SinkCall.pours stream) log ∧
      (pour sink taken stream s).1 = Answered.verdict (ending taken stream) log := by
  induction stream generalizing taken s log₀ with
  | nil =>
    have hrec : sink.recorded.finish (s, log₀) =
        ((sink.finish s).1, (sink.finish s).2, log₀ ++ [⟨.finish, (sink.finish s).1⟩]) := rfl
    rw [pour, pour, hrec]
    rcases sink.finish s with ⟨trace | _, t⟩
    · exact ⟨_, rfl, .refused .finish [] trace, rfl⟩
    · exact ⟨_, rfl, .taken .finish .nil, rfl⟩
  | cons result stream ih =>
    rcases result with fault | row
    · -- behind a fault nothing is told
      exact ⟨[], by rw [List.append_nil]; rfl, .nil, rfl⟩
    · have hrec : sink.recorded.push row (s, log₀) =
          ((sink.push row s).1, (sink.push row s).2, log₀ ++ [⟨.push row, (sink.push row s).1⟩]) :=
        rfl
      rw [pour, pour, hrec]
      rcases sink.push row s with ⟨trace | _, t⟩
      · exact ⟨_, rfl, .refused (.push row) (SinkCall.pours stream) trace, rfl⟩
      · obtain ⟨log, hrun, hfollows, hresult⟩ :=
          ih (taken + 1) t (log₀ ++ [(SinkCall.push row).taken])
        refine ⟨(SinkCall.push row).taken :: log, ?_, .taken (.push row) hfollows, ?_⟩
        · rw [List.append_assoc] at hrun
          exact hrun
        · have hending : ending (taken + 1) stream = ending taken (.ok row :: stream) := by
            rw [ending, ending, rowsBefore, List.length_cons, Nat.add_right_comm, Nat.add_assoc]
            rfl
          rw [← hending]
          exact hresult

/-- A sink that has room for a single row. -/
def Sink.narrow : Sink ℕ where
  start _ n := (.ok (), n)
  push _ n := if n = 0 then (.ok (), 1) else (.error (Trace.ofText "no room"), n)
  finish n := (.ok (), n)

/-- It refuses the second of three rows, and hears of nothing else. -/
example : pour Sink.narrow.recorded 0 [.ok [], .ok [none], .ok []] (0, []) =
    (.error (.output (Trace.ofText "no room")), 1,
      [(SinkCall.push []).taken, (SinkCall.push [none]).refused (Trace.ofText "no room")]) := rfl

/-- **What the reading of a configuration tells its sink,** once its columns are known. -/
theorem Config.readInto_recorded {c : Config} {schema : List OutputColumn}
    (hschema : c.outputSchema = .ok schema) (source : Source) (s : σ) :
    ∃ log, c.readInto source sink.recorded (s, []) =
        ((c.readInto source sink s).1, (c.readInto source sink s).2, log) ∧
      Follows (SinkCall.script schema (c.stream source)) log ∧
      (c.readInto source sink s).1 = Answered.verdict (ending 0 (c.stream source)) log := by
  have hrec : sink.recorded.start schema (s, []) =
      ((sink.start schema s).1, (sink.start schema s).2,
        [⟨.start schema, (sink.start schema s).1⟩]) := rfl
  rw [Config.readInto, Config.readInto, hschema]
  simp only [hrec]
  rcases sink.start schema s with ⟨trace | _, t⟩
  · exact ⟨_, rfl, .refused (.start schema) _ trace, rfl⟩
  · obtain ⟨log, hrun, hfollows, hresult⟩ :=
      pour_recorded sink 0 (c.stream source) t [(SinkCall.start schema).taken]
    exact ⟨_, hrun, .taken (.start schema) hfollows, hresult⟩

end Recorded

/-! ### The protocol -/

/-- **What a sink hears** once the columns are known, and what comes of the reading. -/
structure Hears (schema : List OutputColumn) (stream : List StreamRow) (log : List Answered)
    (result : Except Fault ℕ) : Prop where
  /-- The columns are told first, and not again. -/
  start : ∃ answer rest, log = ⟨.start schema, answer⟩ :: rest ∧
    ∀ e ∈ rest, ∀ columns, e.call ≠ .start columns
  /-- Behind them come rows in front of the first fault of the stream, in their order, and then at
  most one notice of the end. -/
  calls : log.map Answered.call <+: SinkCall.offer schema (rowsBefore stream) ++ [.finish]
  /-- Every row in front of the first fault is told, unless the sink refuses a call. -/
  rows : (∀ e ∈ log, e.answer = .ok ()) → Answered.rows log = rowsBefore stream
  /-- A refusal is the last that happens, and it is the result. -/
  refused : ∀ before call trace after, log = before ++ SinkCall.refused call trace :: after →
    after = [] ∧ result = .error (.output trace)
  /-- The first fault of the stream is the result of a sink that refuses nothing. -/
  fault : ∀ fault, firstFault? stream = some fault → (∀ e ∈ log, e.answer = .ok ()) →
    result = .error fault
  /-- There is notice of the end exactly if every result of the stream is a row that the sink
  took. -/
  finish_iff : SinkCall.finish ∈ log.map Answered.call ↔
    ∃ rows, stream = rows.map .ok ∧ (SinkCall.offer schema rows).map SinkCall.taken <+: log
  /-- The reading ends well exactly if the sink took notice of the end, and then it counts the
  rows. -/
  ok_iff : ∀ n, result = .ok n ↔ SinkCall.finish.taken ∈ log ∧ n = (Answered.rows log).length

namespace Follows

variable {schema : List OutputColumn} {stream : List StreamRow} {log : List Answered}

/-- There is notice of the end exactly if every result of the stream is a row that was taken. -/
theorem finish_mem_iff (h : Follows (SinkCall.script schema stream) log) :
    SinkCall.finish ∈ log.map Answered.call ↔
      ∃ rows, stream = rows.map .ok ∧ (SinkCall.offer schema rows).map SinkCall.taken <+: log := by
  constructor
  · intro hfinish
    have hcomplete := SinkCall.finish_mem_script_iff.1 (h.calls_isPrefix.subset hfinish)
    rw [SinkCall.script_of_complete hcomplete] at h
    exact ⟨rowsBefore stream, firstFault?_eq_none_iff.1 hcomplete,
      (h.last_mem_iff (SinkCall.finish_not_mem_offer _)).1 hfinish⟩
  · rintro ⟨rows, rfl, hprefix⟩
    have hcomplete : firstFault? (rows.map Except.ok) = none :=
      firstFault?_eq_none_iff.2 (by rw [rowsBefore_map_ok])
    rw [SinkCall.script_of_complete hcomplete, rowsBefore_map_ok] at h
    exact (h.last_mem_iff (SinkCall.finish_not_mem_offer _)).2 hprefix

/-- The rows of a log without refusals. -/
theorem rows_of_taken (h : Follows (SinkCall.script schema stream) log)
    (htaken : ∀ e ∈ log, e.answer = .ok ()) : Answered.rows log = rowsBefore stream := by
  rw [h.eq_of_taken htaken, Answered.rows, List.filterMap_map]
  exact SinkCall.filterMap_row?_script

/-- Where notice of the end was taken, so was everything in front of it, and the stream has no
fault. -/
theorem taken_of_finish_taken (h : Follows (SinkCall.script schema stream) log)
    (hfinish : SinkCall.finish.taken ∈ log) :
    (∀ e ∈ log, e.answer = .ok ()) ∧ firstFault? stream = none := by
  have hcomplete := SinkCall.finish_mem_script_iff.1
    (h.calls_isPrefix.subset (List.mem_map_of_mem hfinish))
  rw [SinkCall.script_of_complete hcomplete] at h
  have hlog := h.eq_of_last_taken (SinkCall.finish_not_mem_offer _) hfinish
  exact ⟨hlog ▸ SinkCall.answer_of_mem_taken, hcomplete⟩

/-- What comes of a log is a number exactly if notice of the end was taken. -/
theorem verdict_eq_ok_iff (h : Follows (SinkCall.script schema stream) log) {n : ℕ} :
    Answered.verdict (ending 0 stream) log = .ok n ↔
      SinkCall.finish.taken ∈ log ∧ n = (Answered.rows log).length := by
  constructor
  · intro hresult
    rcases h.all_or_refused with hlog | ⟨before, call, after, trace, -, hlog⟩
    · have htaken : ∀ e ∈ log, e.answer = .ok () := hlog ▸ SinkCall.answer_of_mem_taken
      rw [verdict_of_taken htaken, ending_eq_ok_iff] at hresult
      obtain ⟨hcomplete, hn⟩ := hresult
      refine ⟨?_, by rw [hn, h.rows_of_taken htaken]⟩
      rw [hlog]
      exact List.mem_map_of_mem (SinkCall.finish_mem_script_iff.2 hcomplete)
    · rw [h.verdict_of_append hlog] at hresult
      exact absurd hresult error_ne_ok
  · rintro ⟨hfinish, hn⟩
    obtain ⟨htaken, hcomplete⟩ := h.taken_of_finish_taken hfinish
    rw [h.rows_of_taken htaken] at hn
    rw [verdict_of_taken htaken]
    exact ending_eq_ok_iff.2 ⟨hcomplete, hn⟩

/-- **A log of the script keeps to the protocol.** -/
theorem hears (h : Follows (SinkCall.script schema stream) log) :
    Hears schema stream log (Answered.verdict (ending 0 stream) log) where
  start := by
    rcases h with _ | ⟨_, _, trace⟩ | ⟨_, h⟩
    · exact ⟨_, [], rfl, nofun⟩
    · refine ⟨_, _, rfl, fun e he columns hcall => ?_⟩
      exact SinkCall.start_not_mem_pours columns
        (hcall ▸ h.calls_isPrefix.subset (List.mem_map_of_mem he))
  calls := by
    refine h.calls_isPrefix.trans ?_
    by_cases hcomplete : firstFault? stream = none
    · exact ⟨[], by rw [SinkCall.script_of_complete hcomplete, List.append_nil]⟩
    · rw [SinkCall.script_of_fault hcomplete]
      exact List.prefix_append _ _
  rows := h.rows_of_taken
  refused _ _ _ _ hlog := ⟨(h.of_append hlog).1, h.verdict_of_append hlog⟩
  fault fault hfault htaken := by
    rw [verdict_of_taken htaken, ending, hfault]
    rfl
  finish_iff := h.finish_mem_iff
  ok_iff _ := h.verdict_eq_ok_iff

end Follows

/-- **The protocol of a reading.** -/
structure Protocol (config : Except Fault Config) (source : Source) (log : List Answered)
    (result : Except Fault ℕ) : Prop where
  /-- Where there is no configuration or two of its columns have one name, the sink hears nothing
  at all, and this fault is the result. -/
  silent : ∀ fault, config >>= Config.outputSchema = .error fault →
    log = [] ∧ result = .error fault
  /-- Else the sink hears of the columns, and of what comes behind them. -/
  heard : ∀ c schema, config = .ok c → c.outputSchema = .ok schema →
    Hears schema (c.stream source) log result

/-- The reading of a configuration keeps to the protocol of its sink. -/
theorem Config.keeps_protocol {σ : Type} (c : Config) (source : Source) (sink : Sink σ) (s : σ) :
    ∃ log, c.readInto source sink.recorded (s, []) =
        ((c.readInto source sink s).1, (c.readInto source sink s).2, log) ∧
      Protocol (.ok c) source log (c.readInto source sink s).1 := by
  rcases hschema : c.outputSchema with fault | schema
  · have hsilent : ∀ {τ : Type} (sink : Sink τ) (t : τ),
        c.readInto source sink t = (.error fault, t) := fun sink t => by
      rw [Config.readInto, hschema]
    rw [hsilent, hsilent]
    refine ⟨[], rfl, fun fault' hfault => ⟨rfl, ?_⟩, ?_⟩
    · exact congrArg Except.error (Except.error.inj (hschema.symm.trans hfault))
    · rintro _ schema ⟨⟩ hok
      exact absurd (hschema.symm.trans hok) error_ne_ok
  · obtain ⟨log, hrun, hfollows, hresult⟩ := c.readInto_recorded sink hschema source s
    refine ⟨log, hrun, fun fault hfault => ?_, ?_⟩
    · exact absurd (hfault.symm.trans hschema) error_ne_ok
    · rintro _ schema' ⟨⟩ hschema'
      obtain rfl := Except.ok.inj (hschema.symm.trans hschema')
      rw [hresult]
      exact hfollows.hears

/-- **A reader keeps to the protocol of its sink,** whatever the sink answers and wherever the
source fails; and writing down what the sink hears changes nothing. -/
theorem Reader.protocol_readInto {σ : Type} (r : Reader) (source : Source) (root : String)
    (items : List String) (sink : Sink σ) (s : σ) :
    let recorded := r.readInto source root items sink.recorded (s, [])
    r.readInto source root items sink s = (recorded.1, recorded.2.1.1, recorded.2.2) ∧
      Protocol (r.configFor source root items).1 source recorded.2.1.2 recorded.1 := by
  dsimp only
  rcases hconfig : r.configFor source root items with ⟨fault | c, r'⟩
  · have hrun : ∀ {τ : Type} (sink : Sink τ) (t : τ),
        r.readInto source root items sink t = (.error fault, t, r') := fun sink t => by
      rw [Reader.readInto, hconfig]
    rw [hrun, hrun]
    refine ⟨rfl, ?_, nofun⟩
    rintro _ ⟨⟩
    exact ⟨rfl, rfl⟩
  · have hrun : ∀ {τ : Type} (sink : Sink τ) (t : τ), r.readInto source root items sink t =
        ((c.readInto source sink t).1, (c.readInto source sink t).2, r') := fun sink t => by
      rw [Reader.readInto, hconfig]
    obtain ⟨log, hlog, hprotocol⟩ := c.keeps_protocol source sink s
    rw [hrun, hrun, hlog]
    exact ⟨rfl, hprotocol⟩

end OneTable
