import Mathlib
import WizardLogic.Proofs.Run.Related

/-!
# What the log tells of a run

Two kinds of records are about actions: warnings of the engine, when an action fails or is of no
known type, and messages to the console. They can be read off the results of a run, however deeply
its blocks are nested: each result with an error has one warning, each message that was printed has
one record, both in the order of the results, and there are no others (`Engine.log_runBlocks`).

Resolving contexts and deciding conditions notes what concerns remote actions only
(`Exchange.NotesCalls`). So each moment of a run adds to the log what its own result tells
(`Moment.exists_tells`), and a run adds what its moments do, one after the other (`Course.exists_tells`).
-/

namespace WizardLogic

/-! ### Records that are about actions -/

/-- Whether a record is a warning of the engine. -/
def Log.Record.isWarning (r : Log.Record) : Bool := r.level = .warning && r.logger = .engine

/-- Whether a record is a message of an action to the console. -/
def Log.Record.isPrinted (r : Log.Record) : Bool := r.level = .info && r.logger = .actions

namespace ActionResult

/-- The text of the warning that a result stands for, if it has an error. -/
def warning? (r : ActionResult) : Option String :=
  r.error.map fun e => if r.type = Engine.unknownType then e else s!"Action {r.type} failed: {e}"

/-- The text that a result says was printed to the console, if it says so. -/
def printed? (r : ActionResult) : Option String :=
  if r.type = "CONSOLE_LOG" ∧ r.ok then
    some ("[WIZARD LOG] " ++ (r.payload.field "message").text)
  else none

end ActionResult

/-- **Records tell results**: their warnings are those of the results with an error, and their
messages are those that the results say were printed, in order. -/
structure Log.Tells (records : List Log.Record) (rs : List ActionResult) : Prop where
  warnings : (records.filter Log.Record.isWarning).map Log.Record.text =
    rs.filterMap ActionResult.warning?
  printed : (records.filter Log.Record.isPrinted).map Log.Record.text =
    rs.filterMap ActionResult.printed?

namespace Log.Tells

variable {records records' : List Log.Record} {rs rs' : List ActionResult}

theorem append (h : Tells records rs) (h' : Tells records' rs') :
    Tells (records ++ records') (rs ++ rs') where
  warnings := by
    rw [List.filter_append, List.map_append, h.warnings, h'.warnings, List.filterMap_append]
  printed := by
    rw [List.filter_append, List.map_append, h.printed, h'.printed, List.filterMap_append]

/-- What concerns remote actions tells of no results. -/
theorem of_calls (h : ∀ r ∈ records, r.logger = .remote) : Tells records [] where
  warnings := by
    have hnone : records.filter Log.Record.isWarning = [] := List.filter_eq_nil_iff.mpr
      fun r hr => by simp [Log.Record.isWarning, h r hr]
    rw [hnone, List.map_nil, List.filterMap_nil]
  printed := by
    have hnone : records.filter Log.Record.isPrinted = [] := List.filter_eq_nil_iff.mpr
      fun r hr => by simp [Log.Record.isPrinted, h r hr]
    rw [hnone, List.map_nil, List.filterMap_nil]

/-- A result that has no error and says nothing of the console has no records. -/
theorem of_silent {r : ActionResult} (h : Tells records []) (hwarning : r.warning? = none)
    (hprinted : r.printed? = none) : Tells records [r] where
  warnings := by rw [h.warnings, List.filterMap_cons, hwarning]
  printed := by rw [h.printed, List.filterMap_cons, hprinted]

/-- The warning of a result with an error. -/
theorem warning {r : ActionResult} {text : String} (hwarning : r.warning? = some text)
    (hprinted : r.printed? = none) : Tells [⟨.warning, .engine, text⟩] [r] where
  warnings := by rw [List.filterMap_cons, hwarning]; rfl
  printed := by rw [List.filterMap_cons, hprinted]; rfl

end Log.Tells

/-! ### Evaluations that note calls only -/

/-- One exchange goes on from another with records that concern remote actions. -/
def Exchange.NotesCalls (x y : Exchange) : Prop :=
  ∃ records, y.log = x.log ++ records ∧ ∀ r ∈ records, r.logger = .remote

theorem Exchange.NotesCalls.refl (x : Exchange) : x.NotesCalls x :=
  ⟨[], (List.append_nil _).symm, fun _ hr => nomatch hr⟩

/-- Calls note what concerns remote actions. -/
theorem Exchange.CallParallel.notesCalls (x : Exchange) :
    Exchange.CallParallel fun y z => y = z ∧ x.NotesCalls y where
  next_eq h := by rw [h.1]
  noted := by
    rintro y _ ⟨rfl, records, hlog, hcalls⟩ r hr
    refine ⟨rfl, records ++ [r], by rw [Exchange.noted, hlog, List.append_assoc], fun r' hr' => ?_⟩
    rcases List.mem_append.mp hr' with h | h
    · exact hcalls r' h
    · rw [List.mem_singleton.mp h, hr]
  sent := by
    rintro y _ ⟨rfl, h⟩ q
    exact ⟨rfl, h⟩

namespace Engine

variable {en : Engine} {α : Type}

/-- An evaluation that is related to itself in all exchanges that calls are made in notes calls
only. -/
theorem notesCalls_of_related {e : Effect α} {B : α → α → Prop} (x : Exchange)
    (h : Effect.Related (fun y z => y = z ∧ x.NotesCalls y) B e e) :
    x.NotesCalls (e.runFrom x).2 := (h x x ⟨rfl, .refl x⟩).2.2

variable (hen : en.registry = .builtIn)
include hen

theorem notesCalls_evaluate (s : State) (c : Value) (x : Exchange) :
    x.NotesCalls ((en.evaluate s c).runFrom x).2 :=
  notesCalls_of_related x <| related_evaluate hen (en.callsAlike (.notesCalls x)) c <|
    (State.Matches.self Holding.likeness_eq s).corresponds Holding.likeness_eq _

theorem notesCalls_resolveValue (s : State) (d : Value) (x : Exchange) :
    x.NotesCalls ((en.resolveValue s d).runFrom x).2 :=
  notesCalls_of_related x <| related_resolveValue hen (en.callsAlike (.notesCalls x)) d <|
    (State.Matches.self Holding.likeness_eq s).corresponds Holding.likeness_eq _

theorem notesCalls_renderOver (s : State) (text contexts : Value) (x : Exchange) :
    x.NotesCalls ((en.renderOver s text contexts).runFrom x).2 :=
  notesCalls_of_related x <| related_renderOver hen Holding.likeness_eq
    (en.callsAlike (.notesCalls x)) (.self Holding.likeness_eq s) text contexts

/-- An action that prints nothing notes calls only, until it fails. -/
theorem notesCalls_runByRule (d : Value) {rule : ActionRule}
    (hcustom : ∀ handler, rule ≠ .custom handler) (hprints : rule ≠ .consoleLog) (w : World) :
    w.exchange.NotesCalls ((en.runByRule d rule).runFrom w).2.exchange :=
  (related_runByRule hen Holding.likeness_eq (en.callsAlike (.notesCalls w.exchange)) d hcustom
    (fun h => absurd h hprints) w w
    ⟨.self Holding.likeness_eq _, rfl, .refl _⟩).2.exchange.2

/-! ### Actions -/

/-- With the built-in vocabulary, an action of a known type is told by its type. -/
theorem lookup_of_actionRule? {d : Value} {type : String} {rule : ActionRule}
    (h : en.actionRule? d = some (type, rule)) :
    type ≠ unknownType ∧ (type = "CONSOLE_LOG" ↔ rule = .consoleLog) ∧
      ∀ handler, rule ≠ .custom handler := by
  have hlookup := (actionRule?_eq_some.mp h).2
  rw [hen] at hlookup
  refine ⟨?_, ⟨?_, ?_⟩, ?_⟩
  · rintro rfl
    cases hlookup
  · rintro rfl
    exact (Option.some.inj hlookup).symm
  · rintro rfl
    have hmem := Rules.mem_of_lookup hlookup
    simpa [Registry.builtIn] using hmem
  · rintro handler rfl
    exact Registry.builtIn_actions_ne_custom hlookup

/-- **A message to the console is printed as the payload says**, if it can be rendered. -/
theorem runFrom_consoleLog (d : Value) (w : World) :
    ∃ calls, (∀ r ∈ calls, r.logger = .remote) ∧
      ((∃ f, ((en.runByRule d .consoleLog).runFrom w).1 = .error f ∧
        ((en.runByRule d .consoleLog).runFrom w).2.exchange.log = w.exchange.log ++ calls) ∨
      ∃ message, ((en.runByRule d .consoleLog).runFrom w).1 = .ok (.obj [(.str "message", message)]) ∧
        ((en.runByRule d .consoleLog).runFrom w).2.exchange.log = w.exchange.log ++
          (calls ++ [⟨.info, .actions, "[WIZARD LOG] " ++ message.text⟩])) := by
  have hlook : en.runByRule d .consoleLog = Run.look fun s => en.payload s d .consoleLog :=
    runByRule_eq_look (by simp) (by simp)
  obtain ⟨calls, hlog, hcalls⟩ := notesCalls_renderOver hen w.state
    ((d.field "message").orElse (.str "")) (d.field "contexts") w.exchange
  refine ⟨calls, hcalls, ?_⟩
  rw [hlook, Run.runFrom_look, payload, Effect.runFrom_bind]
  rcases hmessage : (en.renderOver w.state ((d.field "message").orElse (.str ""))
    (d.field "contexts")).runFrom w.exchange with ⟨f | message, x⟩ <;> rw [hmessage] at hlog
  · exact .inl ⟨f, rfl, hlog⟩
  · refine .inr ⟨message, rfl, ?_⟩
    change x.log ++ _ = _
    rw [show x.log = _ from hlog, List.append_assoc]

/-- The rule of an action adds to the log what the result tells if it succeeds, and nothing that
tells of results if it fails. -/
theorem exists_tells_runByRule {d : Value} {type : String} {rule : ActionRule}
    (hrule : en.actionRule? d = some (type, rule)) (w : World) :
    ∃ records, ((en.runByRule d rule).runFrom w).2.exchange.log = w.exchange.log ++ records ∧
      Log.Tells records (match ((en.runByRule d rule).runFrom w).1 with
        | .ok payload => [{ type, payload }]
        | .error _ => []) := by
  obtain ⟨-, hprints, hcustom⟩ := lookup_of_actionRule? hen hrule
  by_cases hconsole : rule = .consoleLog
  · obtain rfl := hprints.mpr hconsole
    subst hconsole
    obtain ⟨calls, hcalls, ⟨f, hend, hlog⟩ | ⟨message, hend, hlog⟩⟩ := runFrom_consoleLog hen d w
    · exact ⟨calls, hlog, by rw [hend]; exact .of_calls hcalls⟩
    · refine ⟨_, hlog, ?_⟩
      rw [hend]
      exact (Log.Tells.of_calls hcalls).append ⟨rfl, rfl⟩
  · obtain ⟨calls, hlog, hcalls⟩ := notesCalls_runByRule hen d hcustom hconsole w
    refine ⟨calls, hlog, ?_⟩
    cases ((en.runByRule d rule).runFrom w).1 with
    | ok payload =>
      exact .of_silent (.of_calls hcalls) rfl (if_neg fun h => hconsole (hprints.mp h.1))
    | error f => exact .of_calls hcalls

/-- **An action adds to the log what its result tells.** -/
theorem exists_tells_runAction (d : Value) (w : World) :
    ∃ records, ((en.runAction d).run w).2.exchange.log = w.exchange.log ++ records ∧
      Log.Tells records [((en.runAction d).run w).1] := by
  cases hrule : en.actionRule? d with
  | none =>
    rw [run_runAction_unknown hrule]
    exact ⟨_, rfl, .warning rfl rfl⟩
  | some typeAndRule =>
    obtain ⟨type, rule⟩ := typeAndRule
    obtain ⟨htype, -, -⟩ := lookup_of_actionRule? hen hrule
    obtain ⟨records, hlog, htells⟩ := exists_tells_runByRule hen hrule w
    rw [run_runAction_known hrule]
    -- The warning about a failure is noted last, after what the rule has noted.
    rcases hrun : (en.runByRule d rule).runFrom w with ⟨f | payload, w'⟩ <;>
      rw [hrun] at hlog htells
    · refine ⟨_, ?_, htells.append (.warning (congrArg some (if_neg htype)) (if_neg ?_))⟩
      · change w'.exchange.log ++ [_] = _
        rw [show w'.exchange.log = _ from hlog, List.append_assoc]
      · rintro ⟨-, hok⟩
        cases hok
    · exact ⟨records, hlog, htells⟩

end Engine

/-! ### Runs -/

/-- **A moment adds to the log what its results tell.** -/
theorem Moment.exists_tells {en : Engine} (hen : en.registry = .builtIn) (m : Moment) :
    ∃ records, (m.after en).exchange.log = m.world.exchange.log ++ records ∧
      Log.Tells records (m.results en) := by
  obtain ⟨δ, loops, w⟩ := m
  cases δ with
  | action d => exact Engine.exists_tells_runAction hen d w
  | condition c =>
    obtain ⟨calls, hlog, hcalls⟩ := Engine.notesCalls_evaluate hen w.state c w.exchange
    rw [Moment.results_of_ne_action (by simp)]
    refine ⟨calls, ?_, .of_calls hcalls⟩
    rw [after, Engine.perform, Run.runFrom_bind, Run.runFrom_look]
    cases ((en.evaluate w.state c).runFrom w.exchange).1 <;> exact hlog
  | source d =>
    obtain ⟨calls, hlog, hcalls⟩ := Engine.notesCalls_resolveValue hen w.state d w.exchange
    rw [Moment.results_of_ne_action (by simp)]
    refine ⟨calls, ?_, .of_calls hcalls⟩
    rw [after, Engine.perform, Run.runFrom_bind, Run.runFrom_look]
    cases ((en.resolveValue w.state d).runFrom w.exchange).1 <;> exact hlog

/-- **A run adds to the log what the results of its moments tell**, also if it fails. -/
theorem Course.exists_tells {en : Engine} (hen : en.registry = .builtIn) {w : World}
    {ms : List Moment} {o : Except Failure (List ActionResult) × World} (h : Course en w ms o) :
    ∃ records, o.2.exchange.log = w.exchange.log ++ records ∧
      Log.Tells records (ms.flatMap (Moment.results en)) := by
  induction h with
  | nothing w => exact ⟨[], (List.append_nil _).symm, ⟨rfl, rfl⟩⟩
  | fault w f => exact ⟨[], (List.append_nil _).symm, ⟨rfl, rfl⟩⟩
  | deed w δ =>
    obtain ⟨records, hlog, htells⟩ := Moment.exists_tells hen ⟨δ, [], w⟩
    exact ⟨records, hlog, by rwa [List.flatMap_singleton]⟩
  | seq _ _ ih ih' =>
    obtain ⟨records, hlog, htells⟩ := ih
    obtain ⟨records', hlog', htells'⟩ := ih'
    refine ⟨records ++ records', ?_, ?_⟩
    · rw [show _ = _ from hlog', show _ = _ from hlog, List.append_assoc]
    · rw [List.flatMap_append]
      exact htells.append htells'
  -- Entering and leaving an iteration note nothing.
  | within it _ _ ih =>
    obtain ⟨records, hlog, htells⟩ := ih
    refine ⟨records, hlog, ?_⟩
    rw [List.flatMap_map]
    exact htells

/-- **The log of a run is told by its results.** When blocks return results, at any depth of
nesting, the warnings of the engine are one for each result with an error, with its error text if it
is of no known type and else with that text after its type, and the messages to the console are one
for each that a result says was printed. Both come in the order of the results. -/
theorem Engine.log_runBlocks {en : Engine} (hen : en.registry = .builtIn) {v : Value} {w w' : World}
    {rs : List ActionResult} (h : (en.runBlocks v).runFrom w = (.ok rs, w')) :
    ∃ records, w'.exchange.log = w.exchange.log ++ records ∧
      (records.filter Log.Record.isWarning).map Log.Record.text =
        rs.filterMap ActionResult.warning? ∧
      (records.filter Log.Record.isPrinted).map Log.Record.text =
        rs.filterMap ActionResult.printed? := by
  have hcourse := course_moments hen v w
  rw [h] at hcourse
  obtain ⟨records, hlog, htells⟩ := hcourse.exists_tells hen
  rw [← hcourse.results_eq rfl] at htells
  exact ⟨records, hlog, htells.warnings, htells.printed⟩

/-! ### A loop that prints and fails -/

/-- The action that prints a text to the console. -/
def printText (text : String) : Value :=
  .obj [(.str "type", .str "CONSOLE_LOG"), (.str "message", .str text)]

/-- A loop that prints a text in each iteration, and then runs an action of no known type. -/
def printAndFail : Value :=
  .list [loopOver "each" (constant (.list [.int 1, .int 2])) [printText "hello"]
    [.obj [(.str "actions", .list [.obj [(.str "type", .str "NOPE")]])]]]

/-- The log has a message and a warning for each iteration. -/
theorem Engine.log_runBlocks_printAndFail :
    ∃ rs w', (Engine.bare.runBlocks printAndFail).runFrom .ofCaller = (.ok rs, w') ∧
      rs.filterMap ActionResult.warning? =
        ["Unknown action type: NOPE", "Unknown action type: NOPE"] ∧
      rs.filterMap ActionResult.printed? = ["[WIZARD LOG] hello", "[WIZARD LOG] hello"] ∧
      ∃ records, w'.exchange.log = World.ofCaller.exchange.log ++ records ∧
        (records.filter Log.Record.isWarning).map Log.Record.text =
          rs.filterMap ActionResult.warning? ∧
        (records.filter Log.Record.isPrinted).map Log.Record.text =
          rs.filterMap ActionResult.printed? := by
  have htold : (((Engine.bare.runBlocks printAndFail).runFrom .ofCaller).1.toOption.map fun rs =>
      (rs.filterMap ActionResult.warning?, rs.filterMap ActionResult.printed?)) =
        some (["Unknown action type: NOPE", "Unknown action type: NOPE"],
          ["[WIZARD LOG] hello", "[WIZARD LOG] hello"]) := by cbv
  rcases hrun : (Engine.bare.runBlocks printAndFail).runFrom .ofCaller with ⟨f | rs, w'⟩ <;>
    rw [hrun] at htold
  · cases htold
  · obtain ⟨hwarnings, hprinted⟩ := Prod.mk.inj (Option.some.inj htold)
    exact ⟨rs, w', rfl, hwarnings, hprinted, Engine.log_runBlocks rfl hrun⟩

end WizardLogic
