import PhoneVerification.Cli.Program
import PhoneVerification.Proofs.Flow.Refusal

/-!
# Conversations on a terminal

Nothing counts the questions of a dialogue. What bounds them is the input: every question but the last is
answered by a line of its own. `Leads` is the loop of a dialogue, with the lines that it reads. In a flow
that was reached by operations the answer to its own question is never refused, so over every input the
dialogue is such a loop (`exists_leads`). Either it has come to the last step, and the lines behind those
that it has read do not matter (`Leads.drive_append`), or it has read all lines and asks once more.
-/

namespace PhoneVerification

/-- What a reply is to somebody who only waits for the operation to be over. -/
def Reply.result : Reply → Except Fault Unit
  | .refused fault => .error fault
  | .done | .linkOpened _ | .wentBack _ => .ok ()

@[simp] theorem Reply.result_of_done (x : Except Fault Unit) :
    (Reply.of (fun _ => .done) x).result = x := by
  cases x with
  | ok a => rfl
  | error fault => rfl

theorem Reply.result_eq_ok {reply : Reply} (h : ∀ fault, reply ≠ .refused fault) :
    reply.result = .ok () := by
  cases reply with
  | refused fault => exact absurd rfl (h fault)
  | done | linkOpened accepted | wentBack action => rfl

namespace Flow

variable {σ : Type} {s : Services σ} {c : Config} {w : World σ}

theorem Reached.perform (h : Reached s c w) (op : Operation) :
    Reached s c ((Flow.perform s op).run w).world := by
  obtain ⟨ops, v, rfl⟩ := h
  exact ⟨ops ++ [op], v, (worldAfter_append s ops op _).symm⟩

theorem value_openLink (s : Services σ) (text : String) (w : World σ) :
    ((openLink s text).run w).value = .ok (VerifyLink.parse? text).isSome := by
  have hreply : Reply.of .linkOpened ((openLink s text).run w).value =
      .linkOpened (VerifyLink.parse? text).isSome := (path_turn s (.openLink text) w).eq_linkOpened
  cases hvalue : ((openLink s text).run w).value with
  | ok accepted =>
      rw [hvalue] at hreply
      rw [Reply.linkOpened.inj hreply]
  | error fault =>
      rw [hvalue] at hreply
      cases hreply

end Flow

namespace Cli

open PhoneVerification.Flow (World Reached perform)

namespace Prompt

variable {f : Flow} {p : Prompt}

/-- The operation that a line asks for. -/
def operation (p : Prompt) (line : String) : Operation :=
  match p with
  | phone => .submitPhone (Text.trim line)
  | confirm _ => if Text.sameAscii (Text.trim line) "n" then .back else .confirm
  | code => if (Text.trim line).isEmpty then .back else .submitCode (Text.trim line)

theorem of?_eq_none_iff : of? f = none ↔ f.step = .done := by
  unfold of?
  cases f.step with
  | phone | confirm | token => simp
  | done => simp

/-- The step that a question belongs to. -/
def step : Prompt → Step
  | phone => .phone
  | confirm _ => .confirm
  | code => .token

theorem step_eq (hp : of? f = some p) : f.step = p.step := by
  cases hstep : f.step with
  | phone | confirm | token =>
      simp only [of?, hstep, Option.some.injEq] at hp
      rw [← hp, step]
  | done => simp [of?, hstep] at hp

/-- What a line asks for is bound to the step of the question, if to any. -/
theorem eq_step_of_boundTo? {line : String} {bound : Step × String}
    (h : Flow.boundTo? (p.operation line) = some bound) : bound.1 = p.step := by
  cases p with
  | phone =>
      obtain rfl := Option.some.inj h
      rfl
  | confirm number =>
      simp only [operation] at h
      split at h
      · cases h
      · obtain rfl := Option.some.inj h
        rfl
  | code =>
      simp only [operation] at h
      split at h
      · cases h
      · obtain rfl := Option.some.inj h
        rfl

end Prompt

namespace DialogueEvent

/-- Whether an event is a question. -/
def isPrompt : DialogueEvent → Bool
  | prompt _ => true
  | flow _ => false

theorem eq_log_of_isRecord {e : Event} (h : e.isRecord = true) :
    ∃ record, e = .effect (.log record) := by
  cases e with
  | effect e =>
      cases e with
      | log record => exact ⟨record, rfl⟩
      | attempt draft | presented pointer locale => cases h
  | exchange x | view name v => cases h

/-- Records are not printed. -/
theorem join_text_of_isRecord {es : List Event} (h : ∀ e ∈ es, e.isRecord = true) :
    String.join ((es.map flow).map text) = "" := by
  induction es with
  | nil => exact String.join_nil
  | cons e es ih =>
      obtain ⟨record, rfl⟩ := eq_log_of_isRecord (h e List.mem_cons_self)
      rw [List.map_cons, List.map_cons, String.join_cons,
        ih fun e he => h e (List.mem_cons_of_mem _ he)]
      exact String.empty_append

/-- How many questions are asked. -/
def promptCount (es : List DialogueEvent) : Nat :=
  es.countP isPrompt

@[simp] theorem promptCount_flow (es : List Event) (later : List DialogueEvent) :
    promptCount (es.map flow ++ later) = promptCount later := by
  have hnone : (es.map flow).countP isPrompt = 0 := by
    rw [List.countP_eq_zero]
    intro e he
    obtain ⟨e, -, rfl⟩ := List.mem_map.mp he
    exact Bool.false_ne_true
  rw [promptCount, List.countP_append, hnone, Nat.zero_add, promptCount]

@[simp] theorem promptCount_prompt (p : Prompt) (later : List DialogueEvent) :
    promptCount (prompt p :: later) = promptCount later + 1 :=
  List.countP_cons_of_pos rfl

end DialogueEvent

namespace Dialogue

variable {σ : Type} {s : Services σ} {c : Config} {w : World σ} {p : Prompt}
  {line : String} {lines read : List String}
  {o : Outcome DialogueEvent (World σ) (Except Failure Unit)}

/-- An answer carries out the operation that its line asks for. -/
theorem run_answer (s : Services σ) (p : Prompt) (line : String) (w : World σ) :
    (answer s p line).run w =
      ⟨((perform s (p.operation line)).run w).value.result,
        ((perform s (p.operation line)).run w).events,
        ((perform s (p.operation line)).run w).world⟩ := by
  cases p with
  | phone => simp [answer, Prompt.operation, perform]
  | confirm number =>
      simp only [answer, Prompt.operation]
      split
      · rfl
      · simp [perform]
  | code =>
      simp only [answer, Prompt.operation]
      split
      · rfl
      · simp [perform]

/-- The answer to the question of a flow that was reached by operations is never refused. -/
theorem result_eq_ok (h : Reached s c w) (hp : Prompt.of? w.flow = some p) (line : String) :
    ((perform s (p.operation line)).run w).value.result = .ok () := by
  obtain ⟨asked, hf⟩ := h.consistent
  apply Reply.result_eq_ok
  intro fault hrefused
  obtain ⟨step, action, hbound, hne, -⟩ :=
    ((Flow.path_turn s (p.operation line) w).eq_refused_iff hf fault).mp hrefused
  apply hne
  rw [Prompt.step_eq hp, ← Prompt.eq_step_of_boundTo? hbound]

/-! ## The loop -/

theorem run_ask (w : World σ) :
    (ask : Act σ (Option Prompt)).run w =
      ⟨Prompt.of? w.flow, ((Prompt.of? w.flow).map .prompt).toList, w⟩ := by
  cases h : Prompt.of? w.flow with
  | none => simp [ask, inFlow, h]
  | some p => simp [ask, inFlow, h]

theorem run_drive_none (s : Services σ) (lines : List String) (h : Prompt.of? w.flow = none) :
    (drive s lines).run w = ⟨.ok (), [], w⟩ := by
  cases lines with
  | nil => simp [drive, run_ask, h]
  | cons line rest => simp [drive, run_ask, h]

theorem run_drive_nil (s : Services σ) (h : Prompt.of? w.flow = some p) :
    (drive s []).run w = ⟨.error .inputClosed, [.prompt p], w⟩ := by
  simp [drive, run_ask, h]

/-- What comes of a question, the operation that answers it, and what follows. -/
def answeredBy (p : Prompt) (answered : Outcome Event (World σ) Reply)
    (later : Outcome DialogueEvent (World σ) (Except Failure Unit)) :
    Outcome DialogueEvent (World σ) (Except Failure Unit) where
  value := later.value
  events := .prompt p :: (answered.events.map .flow ++ later.events)
  world := later.world

@[simp] theorem promptCount_answeredBy (p : Prompt) (answered : Outcome Event (World σ) Reply)
    (later : Outcome DialogueEvent (World σ) (Except Failure Unit)) :
    DialogueEvent.promptCount (answeredBy p answered later).events =
      DialogueEvent.promptCount later.events + 1 := by
  simp [answeredBy]

theorem run_drive_cons (rest : List String) (h : Prompt.of? w.flow = some p)
    (hresult : ((perform s (p.operation line)).run w).value.result = .ok ()) :
    (drive s (line :: rest)).run w =
      answeredBy p ((perform s (p.operation line)).run w)
        ((drive s rest).run ((perform s (p.operation line)).run w).world) := by
  simp [drive, run_ask, h, inFlow, run_answer, hresult, answeredBy]

/-- A dialogue that reads some lines, one for the answer to each question, until there is no further
question or no line for its answer. -/
inductive Leads (s : Services σ) :
    World σ → List String → Outcome DialogueEvent (World σ) (Except Failure Unit) → Prop
  | finished {w : World σ} (hnone : Prompt.of? w.flow = none) : Leads s w [] ⟨.ok (), [], w⟩
  | closed {w : World σ} {p : Prompt} (hsome : Prompt.of? w.flow = some p) :
      Leads s w [] ⟨.error .inputClosed, [.prompt p], w⟩
  | answered {w : World σ} {p : Prompt} {line : String} {read : List String}
      {o : Outcome DialogueEvent (World σ) (Except Failure Unit)}
      (hsome : Prompt.of? w.flow = some p)
      (hresult : ((perform s (p.operation line)).run w).value.result = .ok ())
      (hrest : Leads s ((perform s (p.operation line)).run w).world read o) :
      Leads s w (line :: read) (answeredBy p ((perform s (p.operation line)).run w) o)

/-- Over every input the dialogue of a flow reads a part of its lines, and all of them unless it comes
to the last step. -/
theorem exists_leads (h : Reached s c w) (lines : List String) :
    ∃ read unread, lines = read ++ unread ∧ Leads s w read ((drive s lines).run w) ∧
      (((drive s lines).run w).value = .ok () ∨ unread = []) := by
  induction lines generalizing w with
  | nil =>
      refine ⟨[], [], rfl, ?_, .inr rfl⟩
      cases hp : Prompt.of? w.flow with
      | none =>
          rw [run_drive_none s [] hp]
          exact .finished hp
      | some p =>
          rw [run_drive_nil s hp]
          exact .closed hp
  | cons line rest ih =>
      cases hp : Prompt.of? w.flow with
      | none =>
          rw [run_drive_none s (line :: rest) hp]
          exact ⟨[], line :: rest, rfl, .finished hp, .inl rfl⟩
      | some p =>
          have hresult := result_eq_ok h hp line
          obtain ⟨read, unread, rfl, hleads, hunread⟩ := ih (h.perform (p.operation line))
          rw [run_drive_cons _ hp hresult]
          exact ⟨line :: read, unread, rfl, .answered hp hresult hleads, hunread⟩

namespace Leads

/-- How a dialogue ends: at the last step, with as many questions as lines, or at one more question. -/
theorem ends (h : Leads s w read o) :
    (o.value = .ok () ∧ o.world.flow.step = .done ∧
      DialogueEvent.promptCount o.events = read.length) ∨
    (o.value = .error .inputClosed ∧ o.world.flow.step ≠ .done ∧
      DialogueEvent.promptCount o.events = read.length + 1) := by
  induction h with
  | finished hnone => exact .inl ⟨rfl, Prompt.of?_eq_none_iff.mp hnone, rfl⟩
  | @closed w p hsome =>
      refine .inr ⟨rfl, fun hdone => ?_, rfl⟩
      rw [Prompt.of?_eq_none_iff.mpr hdone] at hsome
      cases hsome
  | answered hsome hresult hrest ih =>
      rcases ih with ⟨hvalue, hstep, hcount⟩ | ⟨hvalue, hstep, hcount⟩
      · refine .inl ⟨hvalue, hstep, ?_⟩
        rw [promptCount_answeredBy, hcount, List.length_cons]
      · refine .inr ⟨hvalue, hstep, ?_⟩
        rw [promptCount_answeredBy, hcount, List.length_cons]

/-- A dialogue that has come to the last step is the same whatever lines follow. -/
theorem drive_append (h : Leads s w read o) (hok : o.value = .ok ()) (more : List String) :
    (drive s (read ++ more)).run w = o := by
  induction h with
  | finished hnone => exact run_drive_none s more hnone
  | closed hsome => cases hok
  | answered hsome hresult hrest ih =>
      rw [List.cons_append, run_drive_cons _ hsome hresult, ih hok]

end Leads

/-! ## The whole dialogue -/

/-- A flow that is shown on the terminal is as after the first operation of a run. -/
theorem reached_start (s : Services σ) (c : Config) (v : σ) :
    Reached s c ((start : Flow.Act σ Unit).run ⟨Flow.start c, v⟩).world :=
  ⟨[.observe terminal], v, rfl⟩

/-- Without a link, or with a verification link, the dialogue is opened with a flow that was reached by
operations. -/
theorem openAt_eq_ok (s : Services σ) (c : Config) (v : σ) {link : Option String}
    (h : ∀ text, link = some text → (VerifyLink.parse? text).isSome = true) :
    ((openAt s link).run ⟨Flow.start c, v⟩).value = .ok () ∧
      Reached s c ((openAt s link).run ⟨Flow.start c, v⟩).world := by
  have hstart := reached_start s c v
  cases link with
  | none => exact ⟨rfl, hstart⟩
  | some text =>
      have hvalue := Flow.value_openLink s text
        ((start : Flow.Act σ Unit).run ⟨Flow.start c, v⟩).world
      rw [h text rfl] at hvalue
      constructor
      · simp [openAt, hvalue]
      · have hreached := hstart.perform (.openLink text)
        simpa [openAt, hvalue, perform] using hreached

/-- A text that is no verification link leaves nothing but records behind. -/
theorem openAt_of_not_link (s : Services σ) (w : World σ) {text : String}
    (h : VerifyLink.parse? text = none) :
    ((openAt s (some text)).run w).value = .error (.notALink text) ∧
      ((openAt s (some text)).run w).world.services = w.services ∧
      ∀ e ∈ ((openAt s (some text)).run w).events, e.isRecord = true := by
  simp [openAt, start, Flow.begin, Flow.observe, Flow.openLink, h, Event.isRecord]

theorem run_converse_ok {link : Option String} (lines : List String)
    (h : ((openAt s link).run w).value = .ok ()) :
    (converse s link lines).run w =
      ⟨((drive s lines).run ((openAt s link).run w).world).value,
        ((openAt s link).run w).events.map .flow ++
          ((drive s lines).run ((openAt s link).run w).world).events,
        ((drive s lines).run ((openAt s link).run w).world).world⟩ := by
  simp [converse, inFlow, h]

theorem run_converse_error {link : Option String} {failure : Failure} (lines : List String)
    (h : ((openAt s link).run w).value = .error failure) :
    (converse s link lines).run w =
      ⟨.error failure, ((openAt s link).run w).events.map .flow, ((openAt s link).run w).world⟩ := by
  simp [converse, inFlow, h]

/-- A dialogue over some lines comes to the last step, with one question for each line that it reads and
whatever the further lines are; or it asks once more than there are lines, short of the last step. -/
inductive Settles (run : List String → Outcome DialogueEvent (World σ) (Except Failure Unit))
    (lines : List String) : Prop
  | finished (read unread : List String) (hlines : lines = read ++ unread)
      (hvalue : (run lines).value = .ok ()) (hstep : (run lines).world.flow.step = .done)
      (hprompts : DialogueEvent.promptCount (run lines).events = read.length)
      (hmore : ∀ more, run (read ++ more) = run lines)
  | closed (hvalue : (run lines).value = .error .inputClosed)
      (hstep : (run lines).world.flow.step ≠ .done)
      (hprompts : DialogueEvent.promptCount (run lines).events = lines.length + 1)

theorem settles_converse (s : Services σ) (c : Config) (v : σ) {link : Option String}
    (h : ∀ text, link = some text → (VerifyLink.parse? text).isSome = true) (lines : List String) :
    Settles (fun lines => (converse s link lines).run ⟨Flow.start c, v⟩) lines := by
  obtain ⟨hopened, hreached⟩ := openAt_eq_ok s c v h
  have hrun (lines : List String) := run_converse_ok lines hopened
  obtain ⟨read, unread, rfl, hleads, hunread⟩ := exists_leads hreached lines
  rcases hleads.ends with ⟨hvalue, hstep, hprompts⟩ | ⟨hvalue, hstep, hprompts⟩
  · refine .finished read unread rfl ?_ ?_ ?_ fun more => ?_
    · simpa only [hrun] using hvalue
    · simpa only [hrun] using hstep
    · simpa only [hrun, DialogueEvent.promptCount_flow] using hprompts
    · simp only [hrun, hleads.drive_append hvalue more]
  · -- the dialogue has not come to its end, so nothing is left to read
    have hnil : unread = [] := by
      rcases hunread with hok | hnil
      · rw [hvalue] at hok
        cases hok
      · exact hnil
    subst hnil
    refine .closed ?_ ?_ ?_
    · simpa only [hrun] using hvalue
    · simpa only [hrun] using hstep
    · simpa only [hrun, DialogueEvent.promptCount_flow, List.append_nil] using hprompts

end Dialogue

/-! ## Lines -/

/-- The lines of an input are those up to an end of line, and those behind it. -/
theorem linesOf_ended (text more : String) :
    linesOf (text ++ "\n" ++ more) =
      (text.toList.splitOn '\n').map String.ofList ++ linesOf more := by
  have hsplit : (text ++ "\n" ++ more).toList.splitOn '\n' =
      text.toList.splitOn '\n' ++ more.toList.splitOn '\n' := by
    rw [String.append_assoc, String.toList_append, String.toList_append]
    exact List.splitOn_append_cons_self _ _
  have hne : more.toList.splitOn '\n' ≠ [] := List.splitOn_ne_nil _ _
  have hlast : (text.toList.splitOn '\n' ++ more.toList.splitOn '\n').getLast? =
      (more.toList.splitOn '\n').getLast? := List.getLast?_append_of_ne_nil _ hne
  simp only [linesOf, hsplit, hlast]
  split
  · rw [List.dropLast_append_of_ne_nil hne, List.map_append]
  · rw [List.map_append]

/-- What follows an input without an unfinished line is read behind its lines. -/
theorem linesOf_append {input : String} (h : input = "" ∨ ∃ text, input = text ++ "\n")
    (more : String) : linesOf (input ++ more) = linesOf input ++ linesOf more := by
  rcases h with rfl | ⟨text, rfl⟩
  · rw [String.empty_append]
    rfl
  · have hinput := linesOf_ended text ""
    have hnone : linesOf "" = [] := rfl
    rw [String.append_empty, hnone, List.append_nil] at hinput
    rw [linesOf_ended, hinput]

/-! ## The program -/

/-- The dialogue that the program leads over some lines. -/
def conversation {σ : Type} (net : Http.Network σ) (world : σ) (c : Config) (link : Option String)
    (lines : List String) : Outcome DialogueEvent (World σ) (Except Failure Unit) :=
  (Dialogue.converse (Services.ofConfig c net) link lines).run ⟨Flow.start c, world⟩

section Program

variable {σ : Type} {env : String → Option String} {files : Files} {args : List String}
  {inv : Invocation} {c : Config} {link : Option String}

theorem program_eq_ofDialogue (net : Http.Network σ) (world : σ)
    (hread : Invocation.read env args = .ok inv) (hload : inv.loadConfig files = .ok c)
    (htask : inv.command.task c = .converse link) (input : String) :
    program net world env files input args =
      .ofDialogue (conversation net world c link (linesOf input)) := by
  simp [program, hread, hload, htask, conversation]

/-- The program succeeds exactly with its dialogue. -/
theorem exitCode_ofDialogue_eq_zero_iff
    {o : Outcome DialogueEvent (World σ) (Except Failure Unit)} :
    (Report.ofDialogue o).ending.exitCode = 0 ↔ o.value = .ok () := by
  cases hvalue : o.value with
  | ok u => simp [Report.ofDialogue, hvalue, Ending.exitCode]
  | error failure => simp [Report.ofDialogue, hvalue, Ending.exitCode]

namespace Dialogue.Settles

variable {run : List String → Outcome DialogueEvent (World σ) (Except Failure Unit)}
  {lines : List String}

theorem value_eq_ok_iff (h : Settles run lines) :
    (run lines).value = .ok () ↔ (run lines).world.flow.step = .done := by
  cases h with
  | finished read unread hlines hvalue hstep hprompts hmore => simp [hvalue, hstep]
  | closed hvalue hstep hprompts => simp [hvalue, hstep]

theorem value_eq_inputClosed (h : Settles run lines)
    (hstep : (run lines).world.flow.step ≠ .done) :
    (run lines).value = .error .inputClosed := by
  cases h with
  | finished read unread hlines hvalue hdone hprompts hmore => exact absurd hdone hstep
  | closed hvalue hnot hprompts => exact hvalue

/-- A dialogue that has come to its end is the same with further lines. -/
theorem append_eq (h : Settles run lines) (hok : (run lines).value = .ok ()) (more : List String) :
    run (lines ++ more) = run lines := by
  cases h with
  | finished read unread hlines hvalue hstep hprompts hmore =>
      rw [← hmore (unread ++ more), ← List.append_assoc, ← hlines]
  | closed hvalue hstep hprompts =>
      rw [hvalue] at hok
      cases hok

end Dialogue.Settles

/-- A dialogue from the first step or from a verification link settles, whatever the network answers and
whatever the input is. The program ends well exactly if the last step is reached, and otherwise because
the input is closed. Lines behind an input that was enough change neither what is printed nor what is
asked of the network. Another text than a verification link is refused before anything is printed, asked
of the network or read. -/
theorem program_settles (net : Http.Network σ) (world : σ)
    (hread : Invocation.read env args = .ok inv) (hload : inv.loadConfig files = .ok c) :
    (∀ link, inv.command.task c = .converse link →
      (∀ text, link = some text → (VerifyLink.parse? text).isSome = true) → ∀ input,
        Dialogue.Settles (conversation net world c link) (linesOf input) ∧
        program net world env files input args =
          .ofDialogue (conversation net world c link (linesOf input)) ∧
        ((program net world env files input args).ending.exitCode = 0 ↔
          (conversation net world c link (linesOf input)).world.flow.step = .done) ∧
        ((program net world env files input args).ending.exitCode ≠ 0 →
          (program net world env files input args).ending = .failure .inputClosed ∧
            (program net world env files input args).ending.exitCode = 1) ∧
        ((input = "" ∨ ∃ text, input = text ++ "\n") →
          (program net world env files input args).ending.exitCode = 0 → ∀ more,
            program net world env files (input ++ more) args =
                program net world env files input args ∧
              conversation net world c link (linesOf (input ++ more)) =
                conversation net world c link (linesOf input))) ∧
    ∀ text, inv.command = .link text → VerifyLink.parse? text = none → ∀ input,
      program net world env files input args = ⟨"", .failure (.notALink text)⟩ ∧
        (program net world env files input args).ending.exitCode = 1 ∧
        (conversation net world c (some text) (linesOf input)).world.services = world ∧
        ∀ e ∈ (conversation net world c (some text) (linesOf input)).events,
          ∃ record, e = .flow (.effect (.log record)) := by
  constructor
  · intro link htask hlink input
    have hsettles (input : String) :
        Dialogue.Settles (conversation net world c link) (linesOf input) :=
      Dialogue.settles_converse (Services.ofConfig c net) c world hlink (linesOf input)
    have hprogram := program_eq_ofDialogue net world hread hload htask
    refine ⟨hsettles input, hprogram input, ?_, ?_, ?_⟩
    · rw [hprogram, exitCode_ofDialogue_eq_zero_iff]
      exact (hsettles input).value_eq_ok_iff
    · rw [hprogram, ne_eq, exitCode_ofDialogue_eq_zero_iff, (hsettles input).value_eq_ok_iff]
      intro hstep
      have hvalue := (hsettles input).value_eq_inputClosed hstep
      simp [Report.ofDialogue, hvalue, Ending.exitCode]
    · intro hended hexit more
      rw [hprogram, exitCode_ofDialogue_eq_zero_iff] at hexit
      have hsame : conversation net world c link (linesOf (input ++ more)) =
          conversation net world c link (linesOf input) := by
        rw [linesOf_append hended]
        exact (hsettles input).append_eq hexit (linesOf more)
      exact ⟨by rw [hprogram, hprogram, hsame], hsame⟩
  · intro text hcommand hnone input
    have htask : inv.command.task c = .converse (some text) := by rw [hcommand, Command.task]
    obtain ⟨hvalue, hworld, hrecords⟩ := Dialogue.openAt_of_not_link (Services.ofConfig c net)
      ⟨Flow.start c, world⟩ hnone
    have hrun : conversation net world c (some text) (linesOf input) = _ :=
      Dialogue.run_converse_error (linesOf input) hvalue
    have hreport : program net world env files input args = ⟨"", .failure (.notALink text)⟩ := by
      rw [program_eq_ofDialogue net world hread hload htask, hrun, Report.ofDialogue,
        DialogueEvent.join_text_of_isRecord hrecords]
    refine ⟨hreport, by rw [hreport]; rfl, by rw [hrun]; exact hworld, ?_⟩
    rw [hrun]
    intro e he
    simp only [List.mem_map] at he
    obtain ⟨e, he, rfl⟩ := he
    obtain ⟨record, rfl⟩ := DialogueEvent.eq_log_of_isRecord (hrecords e he)
    exact ⟨record, rfl⟩

end Program

/-- A configuration of the program with the address of a service. -/
def hostConfig : Config where
  apiBase := "http://h/"

/-- A network that sends a code and accepts it, but issues nothing. -/
def acceptingAnswers : List Http.Answer :=
  [.response ⟨200, [], some []⟩, .response ⟨200, [], some [106, 119, 116]⟩]

/-- A number, its confirmation and a code are enough: a fourth line is not read. A text that is no link
is refused. -/
theorem program_settles_with_code :
    Invocation.read (fun _ => none) ["--api-base=http://h/", "run"] =
        .ok ⟨none, some "http://h/", none, none, false, false, .run⟩ ∧
      (⟨none, some "http://h/", none, none, false, false, .run⟩ : Invocation).loadConfig
        (fun _ => .error .missing) = .ok hostConfig ∧
      (program .scripted acceptingAnswers (fun _ => none) (fun _ => .error .missing)
        ("+31612345678\n\nabc" ++ "\n") ["--api-base=http://h/", "run"]).ending.exitCode = 0 ∧
      (conversation .scripted acceptingAnswers hostConfig none
        (linesOf ("+31612345678\n\nabc" ++ "\n"))).world.flow.step = .done ∧
      program .scripted acceptingAnswers (fun _ => none) (fun _ => .error .missing)
          ("+31612345678\n\nabc" ++ "\n" ++ "n\n") ["--api-base=http://h/", "run"] =
        program .scripted acceptingAnswers (fun _ => none) (fun _ => .error .missing)
          ("+31612345678\n\nabc" ++ "\n") ["--api-base=http://h/", "run"] ∧
      Invocation.read (fun _ => none) ["--api-base=http://h/", "link", "#verify:1:2"] =
        .ok ⟨none, some "http://h/", none, none, false, false, .link "#verify:1:2"⟩ ∧
      VerifyLink.parse? "#verify:1:2" = none ∧
      program .scripted acceptingAnswers (fun _ => none) (fun _ => .error .missing) "1\n"
          ["--api-base=http://h/", "link", "#verify:1:2"] =
        ⟨"", .failure (.notALink "#verify:1:2")⟩ := by
  have hread : Invocation.read (fun _ => none) ["--api-base=http://h/", "run"] =
      .ok ⟨none, some "http://h/", none, none, false, false, .run⟩ := by decide +kernel
  have hload : (⟨none, some "http://h/", none, none, false, false, .run⟩ : Invocation).loadConfig
      (fun _ => .error .missing) = .ok hostConfig := by decide +kernel
  have hexit : (program .scripted acceptingAnswers (fun _ => none) (fun _ => .error .missing)
      ("+31612345678\n\nabc" ++ "\n") ["--api-base=http://h/", "run"]).ending.exitCode = 0 := by
    decide +kernel
  obtain ⟨-, -, hdone, -, hmore⟩ := (program_settles .scripted acceptingAnswers hread hload).1
    none rfl nofun ("+31612345678\n\nabc" ++ "\n")
  have hlink : Invocation.read (fun _ => none) ["--api-base=http://h/", "link", "#verify:1:2"] =
      .ok ⟨none, some "http://h/", none, none, false, false, .link "#verify:1:2"⟩ := by
    decide +kernel
  have hloaded : (⟨none, some "http://h/", none, none, false, false, .link "#verify:1:2"⟩ :
      Invocation).loadConfig (fun _ => .error .missing) = .ok hostConfig := by decide +kernel
  have hnone : VerifyLink.parse? "#verify:1:2" = none := by decide +kernel
  obtain ⟨hrefused, -⟩ := (program_settles .scripted acceptingAnswers hlink hloaded).2 _
    rfl hnone "1\n"
  exact ⟨hread, hload, hexit, hdone.mp hexit, (hmore (.inr ⟨_, rfl⟩) hexit "n\n").1, hlink, hnone,
    hrefused⟩

end Cli

end PhoneVerification
