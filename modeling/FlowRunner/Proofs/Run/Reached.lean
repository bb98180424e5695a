import FlowRunner.Proofs.Run.Course

/-!
This module contains the steps that a run comes to, and what it takes for a fault to leave the run:
a run is brought down by a fault if and only if it comes to a step that breaks (`crash_iff`).
-/

namespace FlowRunner.Run

variable {α : Type}

inductive Reaches (registry : Registry α) :
    Part → Memory → (before : Log α) → Step → Memory → Prop where
  | here {s : Step} {m : Memory} : Reaches registry (.step s) m [] s m
  | inside {s t : Step} {m m' : Memory} {inside : Part} {what : String} {log : Log α}
      (enters : Enters s m.store inside what) (reaches : Reaches registry inside m log t m') :
      Reaches registry (.step s) m (⟨.checkpoint, false⟩ :: log) t m'
  | first {s t : Step} {rest : List Step} {m m' : Memory} {log : Log α}
      (reaches : Reaches registry (.step s) m log t m') :
      Reaches registry (.steps (s :: rest)) m log t m'
  | later {s t : Step} {rest : List Step} {m m₁ m' : Memory} {l₁ l₂ : Log α}
      (first : Course registry (.step s) m l₁ (.ended .completed) m₁)
      (reaches : Reaches registry (.steps rest) m₁ l₂ t m') :
      Reaches registry (.steps (s :: rest)) m (l₁ ++ l₂) t m'
  | firstPass {passes : Passes} {body : List Step} {left : Nat} {t : Step} {m m' : Memory}
      {log : Log α} {key : Key} (name : passes.name.toKey = .ok key)
      (reaches : Reaches registry (.steps body)
        (m.write key (passes.value (passes.count - (left + 1)))) log t m') :
      Reaches registry (.passes passes body (left + 1)) m log t m'
  | laterPass {passes : Passes} {body : List Step} {left : Nat} {t : Step} {m m₁ m' : Memory}
      {l₁ l₂ : Log α} {key : Key} (name : passes.name.toKey = .ok key)
      (first : Course registry (.steps body)
        (m.write key (passes.value (passes.count - (left + 1)))) l₁ (.ended .completed) m₁)
      (reaches : Reaches registry (.passes passes body left) m₁ l₂ t m') :
      Reaches registry (.passes passes body (left + 1)) m (l₁ ++ l₂) t m'

inductive Breaks (registry : Registry α) (s : Step) (store : Entries) :
    Log α → Fault → Prop where
  | comparison (control : s.control? = some .condition)
      (compared : Compares s store (.error .tooLarge)) :
      Breaks registry s store [⟨.checkpoint, false⟩] .tooLarge
  | binding {passes : Passes} {e : ShapeError} (control : s.control? = some .loop)
      (ready : Passes.ofConfig store (s.configIn store) = .ok passes) (some : 0 < passes.count)
      (name : passes.name.toKey = .error e) :
      Breaks registry s store [⟨.checkpoint, false⟩] (.shape e)
  | saving {log : Log α} {outcome : Outcome} {name value : Value} {e : ShapeError}
      (control : s.control? = none)
      (performs : Performs registry s.actionType (s.configIn store) log (.ok outcome))
      (write : outcome.write = some (name, value)) (name : name.toKey = .error e) :
      Breaks registry s store
        (⟨.checkpoint, false⟩ ::
          ⟨.note (.actionStarted s.id s.actionType (s.configIn store)), ()⟩ :: log)
        (.shape e)

variable {registry : Registry α} {part : Part} {s : Step} {m m₁ m' : Memory}
  {before after log : Log α} {e : Ending} {fault : Fault}

theorem Enters.of_passes {store : Entries} {passes : Passes} {body : List Step} {left : Nat}
    {what : String} (enters : Enters s store (.passes passes body left) what) :
    s.control? = some .loop ∧ Passes.ofConfig store (s.configIn store) = .ok passes ∧
      left = passes.count := by
  cases enters with
  | loop control ready => exact ⟨control, ready, rfl⟩

theorem Breaks.course (h : Breaks registry s m.store log fault) :
    Course registry (.step s) m log (.halted (.failed (.raised fault))) m := by
  cases h with
  | comparison control compared => exact .overflow control compared
  | @binding passes e control ready some name =>
    obtain ⟨left, hleft⟩ := Nat.exists_eq_add_of_lt some
    have unbindable : Course registry (.passes passes s.children passes.count) m []
        (.halted (.failed (.raised (.shape e)))) m := by
      rw [hleft, Nat.zero_add]
      exact .unbindable name
    exact .inside (.loop control ready) unbindable nofun
  | saving control performs write name => exact .unsavable control performs write name

theorem Reaches.course {halt : Halt} (h : Reaches registry part m before s m₁)
    (course : Course registry (.step s) m₁ after (.halted halt) m') :
    Course registry part m (before ++ after) (.halted halt) m' := by
  induction h with
  | here => exact course
  | inside enters reaches ih => exact .inside enters (ih course) nofun
  | first reaches ih => exact .lastStep (ih course) nofun
  | later first reaches ih =>
    rw [List.append_assoc]
    exact .nextStep first (ih course)
  | firstPass name reaches ih => exact .lastPass name (ih course) nofun
  | laterPass name first reaches ih =>
    rw [List.append_assoc]
    exact .nextPass name first (ih course)

/--
A part of a run comes to a step that breaks. The last passes of a loop may break before there is a
step, because of the name of their variable.
-/
inductive BreaksIn (registry : Registry α) : Part → Memory → Log α → Fault → Memory → Prop where
  | step {part : Part} {s : Step} {m m' : Memory} {before after : Log α} {fault : Fault}
      (reaches : Reaches registry part m before s m')
      (breaks : Breaks registry s m'.store after fault) :
      BreaksIn registry part m (before ++ after) fault m'
  | passes {passes : Passes} {body : List Step} {left : Nat} {m : Memory} {e : ShapeError}
      (name : passes.name.toKey = .error e) :
      BreaksIn registry (.passes passes body (left + 1)) m [] (.shape e) m

theorem Course.breaksIn (h : Course registry part m log e m')
    (he : e = .halted (.failed (.raised fault))) : BreaksIn registry part m log fault m' := by
  induction h with
  | stopped => cases he
  | @refused s m error log received refused passed => cases received <;> cases he
  | overflow control compared =>
    cases he
    exact .step .here (.comparison control compared)
  | @inside s m m' inside what log e enters course unfailed ih =>
    cases ih he with
    | step reaches breaks => exact .step (.inside enters reaches) breaks
    | passes name =>
      obtain ⟨control, ready, hcount⟩ := enters.of_passes
      exact .step .here (.binding control ready (by omega) name)
  | @around s m m' inside what log more received => cases received <;> cases he
  | interrupted => cases he
  | @raised s m log more fault received => cases received <;> cases he
  | unsavable control performs write name =>
    cases he
    exact .step .here (.saving control performs write name)
  | @performed s m m' log more outcome received => cases received <;> cases he
  | noStep => cases he
  | nextStep first others ihFirst ihOthers =>
    cases ihOthers he with
    | step reaches breaks =>
      rw [← List.append_assoc]
      exact .step (.later first reaches) breaks
  | lastStep only uncompleted ih =>
    cases ih he with
    | step reaches breaks => exact .step (.first reaches) breaks
  | noPass => cases he
  | unbindable name =>
    cases he
    exact .passes name
  | nextPass name first others ihFirst ihOthers =>
    cases ihOthers he with
    | step reaches breaks =>
      rw [← List.append_assoc]
      exact .step (.laterPass name first reaches) breaks
    | passes unnamed => simp [name] at unnamed
  | lastPass name only uncompleted ih =>
    cases ih he with
    | step reaches breaks => exact .step (.firstPass name reaches) breaks

theorem crash_iff {list : List Step} :
    Course registry (.steps list) m log (.halted (.failed (.raised fault))) m' ↔
      ∃ before after s, log = before ++ after ∧ Reaches registry (.steps list) m before s m' ∧
        Breaks registry s m'.store after fault := by
  constructor
  · intro h
    cases h.breaksIn rfl with
    | step reaches breaks => exact ⟨_, _, _, rfl, reaches, breaks⟩
  · rintro ⟨before, after, s, hlog, reaches, breaks⟩
    rw [hlog]
    exact reaches.course breaks.course

end FlowRunner.Run
