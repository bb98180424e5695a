import FlowRunner.Action.Standard
import FlowRunner.Proofs.Run.Course
import FlowRunner.Proofs.Value.Shape
import FlowRunner.Rehearsal.Stage

/-!
This module contains what the refusal of a configuration leaves behind. An action that refuses its
configuration has neither acted on the page nor changed a file, it refuses a configuration without a
required key at once, and a run records the refusal and nothing else (`refused_without_effect`).
-/

namespace FlowRunner

/-! ### What a deed does before it refuses -/

def Device.Query.acts : Device.Query → Bool
  | .page _ => true
  | .writeFile _ _ => true
  | .makeFolders _ => true
  | .url => false
  | .readFile _ => false
  | .fileSize _ => false

def Refuses {β : Type} (r : Except Fault β) : Prop :=
  ∃ action detail, r = .error (.config action detail)

namespace Deed

variable {β γ : Type}

abbrev Log := List (Exchange Device.Query Device.Answer)

def Idle (log : Log) : Prop :=
  ∀ e ∈ log, e.question.acts = false

def Obliges (log : Log) : Prop :=
  ∀ e ∈ log, ¬Refuses (show Except Fault e.question.Result from e.answer)

theorem obliges_append_iff {l₁ l₂ : Log} : Obliges (l₁ ++ l₂) ↔ Obliges l₁ ∧ Obliges l₂ :=
  List.forall_mem_append

theorem idle_append_iff {l₁ l₂ : Log} : Idle (l₁ ++ l₂) ↔ Idle l₁ ∧ Idle l₂ :=
  List.forall_mem_append

theorem transcript_ask_iff {q : Device.Query} {log : Log} {r : Device.Answer q} :
    Program.Transcript (ask q).run log r ↔ log = [⟨q, r⟩] := by
  constructor
  · intro h
    obtain ⟨answer, rest, hlog, h⟩ := Program.transcript_ask_iff.mp h
    obtain ⟨hrest, hr⟩ := Program.transcript_done_iff.mp h
    rw [hlog, hrest, hr]
  · rintro rfl
    exact .ask q r (.done r)

theorem transcript_bind_iff {d : Deed β} {f : β → Deed γ} {log : Log} {r : Except Fault γ} :
    Program.Transcript (d >>= f).run log r ↔
      (∃ fault, r = .error fault ∧ Program.Transcript d.run log (.error fault)) ∨
        ∃ b l₁ l₂, log = l₁ ++ l₂ ∧ Program.Transcript d.run l₁ (.ok b) ∧
          Program.Transcript (f b).run l₂ r := by
  rw [run_bind, Program.transcript_andThen_iff]
  constructor
  · rintro ⟨l₁, l₂, result, hlog, first, second⟩
    cases result with
    | ok b =>
      right
      exact ⟨b, l₁, l₂, hlog, first, second⟩
    | error fault =>
      left
      obtain ⟨hl₂, hr⟩ := Program.transcript_done_iff.mp second
      rw [hl₂, List.append_nil] at hlog
      exact ⟨fault, hr, hlog ▸ first⟩
  · rintro (⟨fault, hr, first⟩ | ⟨b, l₁, l₂, hlog, first, second⟩)
    · exact ⟨log, [], .error fault, (List.append_nil _).symm, first, hr ▸ .done _⟩
    · exact ⟨l₁, l₂, .ok b, hlog, first, second⟩

def Quiet (d : Deed β) : Prop :=
  ∀ ⦃log : Log⦄ ⦃r : Except Fault β⦄, Program.Transcript d.run log r → Idle log

def Accepts (d : Deed β) : Prop :=
  ∀ ⦃log : Log⦄ ⦃r : Except Fault β⦄, Program.Transcript d.run log r → Obliges log → ¬Refuses r

def Careful (d : Deed β) : Prop :=
  ∀ ⦃log : Log⦄ ⦃r : Except Fault β⦄, Program.Transcript d.run log r → Obliges log → Refuses r →
    Idle log

theorem quiet_ofExcept (r : Except Fault β) : Quiet (ofExcept r) := by
  intro log r' h
  obtain ⟨rfl, -⟩ := Program.transcript_done_iff.mp h
  exact List.forall_mem_nil _

theorem quiet_ask {q : Device.Query} (idle : q.acts = false) : Quiet (ask q) := by
  intro log r h
  rw [transcript_ask_iff.mp h]
  exact List.forall_mem_singleton.mpr idle

theorem accepts_ofExcept {r : Except Fault β} (accepted : ¬Refuses r) : Accepts (ofExcept r) := by
  intro log r' h _
  obtain ⟨-, rfl⟩ := Program.transcript_done_iff.mp h
  exact accepted

theorem accepts_pure (b : β) : Accepts (pure b : Deed β) :=
  accepts_ofExcept (r := .ok b) nofun

theorem accepts_throw {fault : Fault} (accepted : ¬Refuses (.error fault : Except Fault β)) :
    Accepts (throw fault : Deed β) :=
  accepts_ofExcept accepted

theorem accepts_ask (q : Device.Query) : Accepts (ask q) := by
  intro log r h obliges
  rw [transcript_ask_iff.mp h] at obliges
  exact obliges ⟨q, r⟩ (List.mem_singleton_self _)

theorem accepts_call (c : Device.PageCall) : Accepts (call c) :=
  accepts_ask _

theorem accepts_attempt_bind {q : Device.Query} {f : Device.Answer q → Deed β}
    (next : ∀ answer : Except Fault q.Result, ¬Refuses answer → Accepts (f answer)) :
    Accepts (attempt q >>= f) := by
  intro log r h obliges
  obtain ⟨answer, rest, rfl, after⟩ := Program.transcript_ask_iff.mp h
  have own : ¬Refuses (show Except Fault q.Result from answer) := obliges ⟨q, answer⟩ (.head _)
  exact next answer own after fun e mem => obliges e (.tail _ mem)

theorem accepts_bind {d : Deed β} {f : β → Deed γ} (first : Accepts d)
    (second : ∀ b, Accepts (f b)) : Accepts (d >>= f) := by
  intro log r h obliges refuses
  rcases transcript_bind_iff.mp h with ⟨fault, rfl, failed⟩ | ⟨b, l₁, l₂, rfl, -, rest⟩
  · obtain ⟨action, detail, hfault⟩ := refuses
    cases hfault
    exact first failed obliges ⟨action, detail, rfl⟩
  · exact second b rest (obliges_append_iff.mp obliges).2 refuses

theorem accepts_mapM {f : β → Deed γ} (each : ∀ b, Accepts (f b)) (list : List β) :
    Accepts (list.mapM f) := by
  induction list with
  | nil => exact accepts_pure []
  | cons b rest ih =>
    rw [List.mapM_cons]
    exact accepts_bind (each b) fun _ => accepts_bind ih fun _ => accepts_pure _

theorem careful_of_accepts {d : Deed β} (accepts : Accepts d) : Careful d :=
  fun _ _ h obliges refuses => absurd refuses (accepts h obliges)

theorem careful_bind {d : Deed β} {f : β → Deed γ} (quiet : Quiet d)
    (careful : ∀ b, Careful (f b)) : Careful (d >>= f) := by
  intro log r h obliges refuses
  rcases transcript_bind_iff.mp h with ⟨fault, -, failed⟩ | ⟨b, l₁, l₂, rfl, first, rest⟩
  · exact quiet failed
  · exact idle_append_iff.mpr
      ⟨quiet first, careful b rest (obliges_append_iff.mp obliges).2 refuses⟩

end Deed

/-! ### The standard actions -/

namespace Action

open Deed

section Accepts

variable (config : Entries)

theorem accepts_navigate : Accepts (navigate config) :=
  accepts_bind (accepts_call _) fun _ => accepts_bind (accepts_ask _) fun _ =>
    accepts_bind (accepts_call _) fun _ => accepts_pure _

theorem accepts_click : Accepts (click config) :=
  accepts_bind (accepts_call _) fun _ => accepts_pure _

theorem accepts_fillIn : Accepts (fillIn config) := by
  have filled (selector : Value) (text : String) : Accepts (do
      Deed.call (.element selector 0 (.fill text elementTimeout))
      return ({ output := .record [("filled", .bool true)] } : Outcome)) :=
    accepts_bind (accepts_call _) fun _ => accepts_pure _
  unfold fillIn
  dsimp only
  split
  · exact accepts_bind (accepts_call _) fun _ => filled _ _
  · exact filled _ _

theorem accepts_readElement (selector name : Value) (index : Nat) :
    Accepts (readElement selector name index) := by
  have text : Accepts (do
      let text ← Deed.call (.element selector index .textContent)
      return Value.orElse text (.str "")) :=
    accepts_bind (accepts_call _) fun _ => accepts_pure _
  fun_cases readElement selector name index with
  | case1 => exact text
  | case2 => exact accepts_call _
  | case3 =>
    refine accepts_bind (accepts_call _) fun value => ?_
    exact iteInduction (fun _ => text) fun _ => accepts_pure _

theorem accepts_extract : Accepts (extract config) := by
  unfold extract
  dsimp only
  split
  · exact accepts_bind (accepts_call _) fun _ =>
      accepts_bind (accepts_mapM (accepts_readElement _ _) _) fun _ => accepts_pure _
  · exact accepts_bind (accepts_readElement _ _ _) fun _ => accepts_pure _

theorem accepts_screenshot : Accepts (screenshot config) :=
  accepts_bind (accepts_call _) fun _ => accepts_pure _

theorem accepts_login : Accepts (login config) := by
  have done : Accepts (do
      let url ← Deed.ask .url
      return ({ output := .record [("success", .bool true), ("currentUrl", url)] } : Outcome)) :=
    accepts_bind (accepts_ask _) fun _ => accepts_pure _
  unfold login
  refine accepts_bind (accepts_call _) fun _ => accepts_bind (accepts_call _) fun _ =>
    accepts_bind (accepts_call _) fun _ => accepts_bind (accepts_call _) fun _ => ?_
  dsimp only
  split
  · exact accepts_bind (accepts_call _) fun _ => done
  · exact accepts_bind (accepts_call _) fun _ => done

theorem accepts_fileDownload : Accepts (fileDownload config) := by
  have saved (path : String) : Accepts (do
      Deed.call (.saveDownload path)
      let size ← Deed.ask (.fileSize path)
      return ({ output := .record [("savedPath", .str path), ("size", .int (Int.ofNat size))] } :
        Outcome)) :=
    accepts_bind (accepts_call _) fun _ => accepts_bind (accepts_ask _) fun _ => accepts_pure _
  have placed (path : String) : Accepts (do
      if Disk.folderOf path != "" then Deed.ask (.makeFolders (Disk.folderOf path))
      Deed.call (.saveDownload path)
      let size ← Deed.ask (.fileSize path)
      return ({ output := .record [("savedPath", .str path), ("size", .int (Int.ofNat size))] } :
        Outcome)) := by
    dsimp only
    split
    · exact accepts_bind (accepts_ask _) fun _ => saved path
    · exact saved path
  unfold fileDownload
  dsimp only
  refine accepts_bind (accepts_call _) fun _ => accepts_attempt_bind fun answer own => ?_
  split
  · exact placed _
  · next fault =>
    split
    · exact accepts_bind (accepts_throw own) fun _ => placed _
    · exact placed _

theorem accepts_setVariable : Accepts (setVariable config) :=
  accepts_pure _

theorem accepts_csvRead : Accepts (csvRead config) := by
  have accepted (content : Content) : ¬Refuses (contentText content >>= filledRecords) := by
    rintro ⟨action, detail, refused⟩
    cases text : contentText content with
    | ok text =>
      simp [text, bind, Except.bind, filledRecords] at refused
      split at refused <;> cases refused
    | error fault =>
      simp only [text, bind, Except.bind, Except.error.injEq] at refused
      subst refused
      unfold contentText at text
      split at text
      · cases text
      · next bytes =>
        cases decoded : Text.Utf8.decode bytes <;>
          simp [decoded, mapError_error, mapError_ok] at text
      · cases text
  exact accepts_bind (accepts_ask _) fun content =>
    accepts_bind (accepts_ofExcept (accepted content)) fun _ => accepts_pure _

end Accepts

theorem accepts_readDelay (v : Value) : ¬Refuses (readDelay v) := by
  unfold readDelay
  split <;> nofun

section Careful

variable (config : Entries)

theorem careful_wait : Careful (wait config) := by
  unfold wait
  dsimp only
  split
  · split
    · exact careful_bind (quiet_ofExcept _) fun _ =>
        careful_of_accepts (accepts_bind (accepts_call _) fun _ => accepts_pure _)
    · exact careful_of_accepts (accepts_bind (accepts_call _) fun _ => accepts_pure _)
  · exact careful_of_accepts (accepts_bind (accepts_call _) fun _ => accepts_pure _)
  · exact careful_of_accepts (accepts_bind (accepts_ofExcept (accepts_readDelay _)) fun _ =>
      accepts_bind (accepts_call _) fun _ => accepts_pure _)
  · exact careful_of_accepts (accepts_bind (accepts_call _) fun _ => accepts_pure _)

theorem accepts_writeRecords (path : String) (records : List (List (List Text.CodePoint))) :
    Accepts (writeRecords path records) := by
  unfold writeRecords
  refine accepts_bind (accepts_ask _) fun _ => ?_
  split
  · exact accepts_throw nofun
  · exact accepts_pure _

theorem careful_csvWrite : Careful (csvWrite config) :=
  careful_bind (quiet_ofExcept _) fun _ => careful_bind (quiet_ofExcept _) fun _ =>
    careful_of_accepts (accepts_writeRecords _ _)

theorem careful_excelRead : Careful (excelRead config) := by
  have sheet (content : Content) : Careful (do
      let sheet ← Deed.ofExcept do
        chosenSheet (← contentWorkbook content) (Entries.get config "sheetName")
      let rows := Value.list (sheet.records.map Value.dict)
      return saved config (.record [("rows", rows)]) rows) :=
    careful_bind (quiet_ofExcept _) fun _ => careful_of_accepts (accepts_pure _)
  unfold excelRead
  dsimp only
  split
  · exact careful_bind (quiet_ofExcept _) fun _ => careful_bind (quiet_ask rfl) sheet
  · exact careful_bind (quiet_ask rfl) sheet

theorem accepts_saveWorkbook (path : String) (w : Workbook) : Accepts (saveWorkbook path w) := by
  unfold saveWorkbook
  exact iteInduction (fun _ => accepts_ask _) fun _ =>
    accepts_bind (accepts_ask _) fun _ => accepts_throw nofun

theorem careful_excelWrite : Careful (excelWrite config) :=
  careful_bind (quiet_ofExcept _) fun _ => careful_bind (quiet_ofExcept _) fun _ =>
    careful_bind (quiet_ofExcept _) fun _ =>
      careful_of_accepts (accepts_bind (accepts_saveWorkbook _ _) fun _ => accepts_pure _)

end Careful

namespace Standard

theorem careful_work (a : Standard) (config : Entries) : Careful (a.work config) := by
  cases a with
  | navigate => exact careful_of_accepts (accepts_navigate config)
  | click => exact careful_of_accepts (accepts_click config)
  | input => exact careful_of_accepts (accepts_fillIn config)
  | extract => exact careful_of_accepts (accepts_extract config)
  | wait => exact careful_wait config
  | screenshot => exact careful_of_accepts (accepts_screenshot config)
  | fileDownload => exact careful_of_accepts (accepts_fileDownload config)
  | login => exact careful_of_accepts (accepts_login config)
  | setVariable => exact careful_of_accepts (accepts_setVariable config)
  | csvRead => exact careful_of_accepts (accepts_csvRead config)
  | csvWrite => exact careful_csvWrite config
  | excelRead => exact careful_excelRead config
  | excelWrite => exact careful_excelWrite config

theorem careful_perform (a : Standard) (config : Entries) : Careful (a.perform config) :=
  careful_bind (quiet_ofExcept _) fun _ => careful_work a config

def Lacks (config : Entries) (key : String) : Prop :=
  Entries.get? config (.str key) = none ∨ Entries.get? config (.str key) = some .null ∨
    Entries.get? config (.str key) = some (.str "")

theorem isMissing_iff_lacks {config : Entries} {key : String} :
    isMissing (Entries.get config (.str key)) = true ↔ Lacks config key := by
  unfold Entries.get Lacks
  cases found : Entries.get? config (.str key) with
  | none => simp [isMissing]
  | some v => cases v <;> simp [isMissing]

theorem require_of_lacks {action : String} {config : Entries} {before after : List String}
    {key : String} (given : ∀ k ∈ before, ¬Lacks config k) (lacks : Lacks config key) :
    require action config (before ++ key :: after) =
      .error (.config action (key ++ " is required")) := by
  have first : firstMissing? config (before ++ key :: after) = some key := by
    unfold firstMissing?
    rw [List.find?_append, List.find?_eq_none.mpr, Option.none_or, List.find?_cons_of_pos]
    · exact isMissing_iff_lacks.mpr lacks
    · intro k mem
      rw [isMissing_iff_lacks]
      exact given k mem
  rw [require, first]

theorem perform_of_lacks {a : Standard} {config : Entries} {before after : List String}
    {key : String} (required : a.requiredKeys = before ++ key :: after)
    (given : ∀ k ∈ before, ¬Lacks config k) (lacks : Lacks config key) :
    (a.perform config).run = .done (.error (.config a.name (key ++ " is required"))) := by
  have refused : require a.name config a.requiredKeys = _ :=
    required ▸ require_of_lacks given lacks
  unfold perform
  rw [run_bind, refused]
  rfl

end Standard

end Action

/-! ### The rehearsal -/

namespace Rehearsal.Stage

open Deed

theorem not_refuses_write (s : Stage) (path : String) (content : Content) :
    ¬Refuses (s.write path content).1 := by
  unfold write
  split <;> nofun

theorem not_refuses_badSelector {c : Device.PageCall} {fault : Fault}
    (bad : Page.badSelector? c = some fault) : ¬Refuses (.error fault : Except Fault c.Result) := by
  have shape (selector : Value) (found : Page.badSelector?.unusable? selector = some fault) :
      ∃ e, fault = .shape e := by
    unfold Page.badSelector?.unusable? at found
    split at found
    · cases found
    · next e _ => exact ⟨e, (Option.some.inj found).symm⟩
  unfold Page.badSelector? at bad
  split at bad
  · obtain ⟨e, rfl⟩ := shape _ bad
    nofun
  · obtain ⟨e, rfl⟩ := shape _ bad
    nofun
  · cases bad

theorem not_refuses_elementResult (e : Element) (c : Device.ElementCall) :
    ¬Refuses (Page.elementResult e c) := by
  match c with
  | .attribute name =>
    dsimp only [Page.elementResult]
    split <;> nofun
  | .click _ | .clear _ | .fill _ _ | .textContent | .innerHtml => nofun

theorem not_refuses_result (p : Page) (c : Device.PageCall) : ¬Refuses (p.result c) := by
  cases c with
  | element selector index call =>
    dsimp only [Page.result]
    split
    · exact not_refuses_elementResult _ _
    · nofun
  | _ => nofun

theorem not_refuses_pageCall (p : Page) (c : Device.PageCall) : ¬Refuses (p.call c).1 := by
  unfold Page.call
  split
  · next bad => exact not_refuses_badSelector bad
  · unfold Page.notedCall
    split
    · next failed =>
      obtain ⟨f, -, rfl⟩ := Option.map_eq_some_iff.mp failed
      nofun
    · have own := not_refuses_result (p.noteDown c) c
      split
      · nofun
      · next failed => exact failed ▸ own

theorem not_refuses_call (s : Stage) (c : Device.PageCall) : ¬Refuses (s.call c).1 := by
  have own := not_refuses_pageCall s.page c
  unfold call
  generalize s.page.call c = called at own
  obtain ⟨r, page⟩ := called
  cases c with
  | saveDownload path =>
    cases r with
    | error fault => exact own
    | ok done =>
      dsimp only
      cases page.script.download with
      | none => nofun
      | some text => exact not_refuses_write _ _ _
  | _ => exact own

theorem not_refuses_onDisk {β : Type} (path : String) (r : Except PathProblem β) :
    ¬Refuses (onDisk path r) := by
  cases r <;> nofun

theorem not_refuses_answer (q : Device.Query) (s : Stage) :
    ¬Refuses (show Except Fault q.Result from (answer q s).1) := by
  cases q with
  | page c => exact not_refuses_call s c
  | url => nofun
  | readFile path => exact not_refuses_onDisk _ _
  | writeFile path content => exact not_refuses_write s path content
  | makeFolders path =>
    dsimp only [answer]
    split <;> nofun
  | fileSize path => nofun

theorem obliges_transcript {β : Type} (p : Program Device.Query Device.Answer β) (s : Stage) :
    Obliges (Program.transcript answer p s) := by
  induction p generalizing s with
  | done b => exact List.forall_mem_nil _
  | ask q next ih =>
    intro e mem
    rw [Program.transcript] at mem
    rcases List.mem_cons.mp mem with rfl | mem
    · exact not_refuses_answer q s
    · exact ih _ _ e mem

theorem answers_of_idle {log : Log} {s s' : Stage} (idle : Idle log)
    (answers : Program.Answers answer log s s') : s' = s := by
  induction log generalizing s with
  | nil => exact answers
  | cons e rest ih =>
    obtain ⟨q, reply⟩ := e
    obtain ⟨first, idle⟩ := List.forall_mem_cons.mp idle
    have same := ih idle answers.2
    cases q <;> first | exact same | cases first

theorem play_of_careful {β : Type} {d : Deed β} (careful : Careful d) (s : Stage)
    (refuses : Refuses (s.play d).1) : (s.play d).2 = s := by
  have idle := careful (Program.transcript_run answer d.run s) (obliges_transcript d.run s) refuses
  exact answers_of_idle idle (Program.answers_transcript d.run s)

end Rehearsal.Stage

/-! ### The run -/

theorem Fault.report_config (action detail : String) :
    (Fault.config action detail).report = action ++ ": " ++ detail := by
  have text : (Fault.config action detail).message = action ++ ": " ++ detail := rfl
  have some : ¬(action ++ ": " ++ detail == "") = true := by simp
  unfold Fault.report
  rw [text, if_neg some]

namespace Run

variable {α : Type} {registry : Registry α} {action : α} {config : Entries} {reply : Reply Outcome}
  {log : Log α}

theorem PassedOn.not_mem {result : StepResult} {received : Bool}
    (passed : PassedOn result log received) : ⟨.perform action config, reply⟩ ∉ log := by
  cases passed <;> simp

theorem Performs.reply_of_mem {actionType : Value} {given : Entries} {own : Reply Outcome}
    (performs : Performs registry actionType given log own)
    (mem : ⟨.perform action config, reply⟩ ∈ log) : own = reply := by
  cases performs with
  | malformed found => cases mem
  | unknown found => cases mem
  | called own found =>
    cases List.mem_singleton.mp mem
    rfl

theorem Course.record_of_refused {s : Step} {m m' : Memory} {e : Ending} {who detail : String}
    (h : Course registry (.step s) m log e m') (control : s.control? = none)
    (refused : ⟨.perform action config, .error (.raised (.config who detail))⟩ ∈ log) :
    m' = m.record (.failed s.id s.actionType (who ++ ": " ++ detail)) ∧
      ∃ received, e = .after .failed received := by
  have entersNothing {inside : Part} {what : String} (enters : Enters s m.store inside what) :
      False := by
    cases enters with
    | loop isLoop => simp [control] at isLoop
    | branch isCondition => simp [control] at isCondition
  cases h with
  | stopped => simp at refused
  | refused own passed =>
    cases own with
    | loop isLoop => simp [control] at isLoop
    | unnamed isCondition => simp [control] at isCondition
    | unknown _ isCondition => simp [control] at isCondition
  | overflow isCondition => simp [control] at isCondition
  | inside enters => exact (entersNothing enters).elim
  | around enters => exact (entersNothing enters).elim
  | @interrupted _ _ l _ performs =>
    have mem : ⟨.perform action config, .error (.raised (.config who detail))⟩ ∈ l := by
      simpa using refused
    cases performs.reply_of_mem mem
  | @raised _ _ l more fault received _ performs passed =>
    have mem : ⟨.perform action config, .error (.raised (.config who detail))⟩ ∈ l := by
      simpa [passed.not_mem] using refused
    cases performs.reply_of_mem mem
    rw [Fault.report_config]
    exact ⟨rfl, received, rfl⟩
  | @unsavable _ _ l _ _ _ _ _ performs =>
    have mem : ⟨.perform action config, .error (.raised (.config who detail))⟩ ∈ l := by
      simpa using refused
    cases performs.reply_of_mem mem
  | @performed _ _ _ l more outcome received _ performs saves passed =>
    have mem : ⟨.perform action config, .error (.raised (.config who detail))⟩ ∈ l := by
      simpa [passed.not_mem] using refused
    cases performs.reply_of_mem mem

end Run

theorem Action.Standard.refused_without_effect (a : Standard) (config : Entries) :
    (∀ (log : Deed.Log) (who detail : String),
      Program.Transcript (a.perform config).run log (.error (.config who detail)) →
        Deed.Obliges log → Deed.Idle log) ∧
    (∀ (s : Rehearsal.Stage) (who detail : String),
      (s.play (a.perform config)).1 = .error (.config who detail) →
        (s.play (a.perform config)).2 = s) ∧
    (∀ (before after : List String) (key : String), a.requiredKeys = before ++ key :: after →
      (∀ k ∈ before, ¬Lacks config k) → Lacks config key →
        (a.perform config).run = .done (.error (.config a.name (key ++ " is required")))) ∧
    ∀ (registry : Registry Standard) (s : Step) (m m' : Run.Memory) (log : Run.Log Standard)
      (e : Run.Ending) (who detail : String), Run.Course registry (.step s) m log e m' →
        s.control? = none →
          ⟨.perform a config, .error (.raised (.config who detail))⟩ ∈ log →
            m' = m.record (.failed s.id s.actionType (who ++ ": " ++ detail)) ∧
              ∃ received, e = Run.Ending.after .failed received := by
  refine ⟨?_, ?_, ?_, ?_⟩
  · intro log who detail h obliges
    exact careful_perform a config h obliges ⟨who, detail, rfl⟩
  · intro s who detail refused
    exact Rehearsal.Stage.play_of_careful (careful_perform a config) s ⟨who, detail, refused⟩
  · intro before after key required given lacks
    exact perform_of_lacks required given lacks
  · intro registry s m m' log e who detail course control refused
    exact course.record_of_refused control refused

theorem Action.Standard.refused_without_effect_of_unnamed :
    let stage : Rehearsal.Stage := default
    let config : Entries := [("type", .str "selector")]
    let unfinished : Entries := [("url", .str "u"), ("usernameSelector", .str "#u")]
    let s : Step := ⟨"w", .str "wait", config, [], []⟩
    let detail := "value is required for type 'selector'"
    (stage.play (wait.perform config)).1 = .error (.config "wait" detail) ∧
      (stage.play (wait.perform config)).2 = stage ∧
      (login.perform unfinished).run =
        .done (.error (.config "login" "passwordSelector is required")) ∧
      ∃ log m', Run.Course .standard (.step s) {} log (.ended .failed) m' ∧ m'.store = [] := by
  intro stage config unfinished s detail
  have refused : (stage.play (wait.perform config)).1 = .error (.config "wait" detail) := rfl
  have given : ∀ k ∈ ["url", "usernameSelector"], ¬Lacks unfinished k := by
    intro k mem
    rw [← isMissing_iff_lacks]
    revert k
    decide
  have login := (refused_without_effect login unfinished).2.2.1 ["url", "usernameSelector"]
    ["submitSelector"] "passwordSelector" rfl given (.inl rfl)
  have course : Run.Course .standard (.step s) {} _ (.ended .failed) _ :=
    .raised rfl (.called (.error (.raised (.config "wait" detail))) rfl) .received
  obtain ⟨recorded, -⟩ := (refused_without_effect wait (s.configIn [])).2.2.2 _ s _ _ _ _ _ _ course
    rfl (List.mem_append_left _ (.tail _ (.tail _ (.head _))))
  refine ⟨refused, (refused_without_effect wait config).2.1 stage _ _ refused, login, _, _, course,
    ?_⟩
  rw [recorded]
  rfl

end FlowRunner
