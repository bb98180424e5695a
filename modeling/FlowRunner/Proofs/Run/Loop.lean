import FlowRunner.Proofs.Run.Course
import FlowRunner.Proofs.Template.Plain
import FlowRunner.Proofs.Value.Key
import FlowRunner.Proofs.Value.Shape

/-!
This module contains the two modes of a loop (`loop_modes`). Over a list the body runs for one item
after the other, whatever it does to the variables; a loop that counts does what a loop over the
list of the numbers below its count does.
-/

namespace FlowRunner.Run

variable {α : Type}

/-! ### The values that a loop goes through -/

namespace Passes

def last (p : Passes) : (left : Nat) → List Value
  | 0 => []
  | left + 1 => p.value (p.count - (left + 1)) :: last p left

def values (p : Passes) : List Value :=
  p.last p.count

theorem length_last (p : Passes) (left : Nat) : (p.last left).length = left := by
  induction left with
  | zero => rfl
  | succ left ih => rw [last, List.length_cons, ih]

theorem length_values (p : Passes) : p.values.length = p.count :=
  p.length_last p.count

theorem last_eq_drop {p : Passes} {items : List Value} (count : p.count = items.length)
    (each : ∀ (n : Nat) (h : n < items.length), p.value n = items[n]) {left : Nat}
    (enough : left ≤ items.length) : p.last left = items.drop (items.length - left) := by
  induction left with
  | zero => simp [last]
  | succ left ih =>
    have here : items.length - (left + 1) < items.length := by omega
    have next : items.length - (left + 1) + 1 = items.length - left := by omega
    rw [last, count, each _ here, ih (by omega), List.drop_eq_getElem_cons here, next]

theorem values_eq {p : Passes} {items : List Value} (count : p.count = items.length)
    (each : ∀ (n : Nat) (h : n < items.length), p.value n = items[n]) : p.values = items := by
  rw [values, count, last_eq_drop count each (Nat.le_refl _), Nat.sub_self, List.drop_zero]

theorem values_ofItems (name : Value) (items : List Value) :
    (ofItems name items).values = items := by
  apply values_eq
  · simp [ofItems]
  · intro n h
    simp [ofItems, h]

def numbers (count : Int) : List Value :=
  (List.range count.toNat).map fun n : Nat => .int n

theorem values_ofCount (name : Value) (count : Int) :
    (ofCount name count).values = numbers count := by
  apply values_eq
  · simp [ofCount, numbers]
  · intro n h
    simp [ofCount, numbers]

end Passes

theorem iterate_congr {p q : Passes} (name : p.name = q.name) (body : Run α Status) {left : Nat}
    (same : p.last left = q.last left) : iterate p body left = iterate q body left := by
  induction left with
  | zero => rfl
  | succ left ih =>
    rw [Passes.last, Passes.last, List.cons.injEq] at same
    rw [iterate, iterate, name, same.1, ih same.2]

theorem iterate_eq_of_values {p q : Passes} (values : p.values = q.values) (name : p.name = q.name)
    (body : Run α Status) : iterate p body p.count = iterate q body q.count := by
  have count : p.count = q.count := by
    rw [← p.length_values, ← q.length_values, values]
  unfold Passes.values at values
  rw [← count] at values ⊢
  exact iterate_congr name body values

/-! ### One pass after the other -/

structure Bound (key : Key) (item : Value) (before start : Memory) : Prop where
  stored : ∀ other, Entries.get? start.store other =
    if Key.same key other then some item else Entries.get? before.store other
  recorded : start.recorded = before.recorded

theorem bound_write (key : Key) (item : Value) (m : Memory) :
    Bound key item m (m.write key item) where
  stored other := Entries.get?_insert m.store key other item
  recorded := rfl

/--
The body of a loop runs for one item after the other. It begins where it ended for the item before,
but for the variable that holds the item, and the first time that it does not complete is the last.
-/
inductive Rounds (body : Run α Status) (name : Value) :
    (items : List Value) → Memory → Log α → Ending → Memory → Prop where
  | over {m : Memory} : Rounds body name [] m [] (.ended .completed) m
  | unbindable {item : Value} {rest : List Value} {m : Memory} {e : ShapeError}
      (unnamed : name.toKey = .error e) :
      Rounds body name (item :: rest) m [] (.halted (.failed (.raised (.shape e)))) m
  | next {item : Value} {rest : List Value} {key : Key} {m start m₁ m₂ : Memory} {l₁ l₂ : Log α}
      {e : Ending} (named : name.toKey = .ok key) (bound : Bound key item m start)
      (pass : Yields body start l₁ (.ok .completed) m₁)
      (others : Rounds body name rest m₁ l₂ e m₂) :
      Rounds body name (item :: rest) m (l₁ ++ l₂) e m₂
  | last {item : Value} {rest : List Value} {key : Key} {m start m' : Memory} {log : Log α}
      {e : Ending} (named : name.toKey = .ok key) (bound : Bound key item m start)
      (pass : Yields body start log e.result m') (uncompleted : e ≠ .ended .completed) :
      Rounds body name (item :: rest) m log e m'

inductive Closes (s : Step) (m : Memory) : (inside : Ending) → Log α → Ending → Memory → Prop where
  | unfailed {inside : Ending} (unfailed : inside ≠ .ended .failed) :
      Closes s m inside [] inside m
  | failed {log : Log α} {received : Bool}
      (passed : PassedOn (.failed s.id s.actionType ("loop body failed: " ++ m.lastError)) log
        received) :
      Closes s m (.ended .failed)
        (⟨.note (.containerFailed s.id s.actionType ("loop body failed: " ++ m.lastError)), ()⟩ ::
          log)
        (.after .failed received)
        (m.record (.failed s.id s.actionType ("loop body failed: " ++ m.lastError)))

variable {registry : Registry α} {m m' : Memory} {log : Log α} {e : Ending}

-- The induction is on the passes that are left, as the interpreter goes through them.
theorem rounds_of_iterate {p : Passes} {body : Run α Status} {left : Nat}
    (h : Yields (iterate p body left) m log e.result m') :
    Rounds body p.name (p.last left) m log e m' := by
  induction left generalizing m log with
  | zero =>
    simp only [iterate, yields_pure_iff, Ending.result_eq_ok_iff] at h
    obtain ⟨hlog, he, hm⟩ := h
    subst hlog he hm
    apply Rounds.over
  | succ left ih =>
    rw [iterate, yields_write_bind_iff] at h
    rw [Passes.last]
    rcases h with ⟨key, named, h⟩ | ⟨error, unnamed, hlog, he, hm⟩
    · rcases yields_then_iff.mp h with ⟨uncompleted, h⟩ | ⟨m₁, l₁, l₂, hlog, pass, others⟩
      · apply Rounds.last named (bound_write _ _ _) h uncompleted
      · subst hlog
        apply Rounds.next named (bound_write _ _ _) pass (ih others)
    · rw [Ending.result_eq_error_iff] at he
      subst hlog he hm
      apply Rounds.unbindable unnamed

/-! ### The modes -/

structure Lists (s : Step) (store : Entries) (items : List Value) : Prop where
  control : s.control? = some .loop
  listed : ∃ name, Entries.get (s.configIn store) "items" = .str name ∧
    Entries.get store (.str name) = .list items

structure Counts (s : Step) (count : Int) (x : String) : Prop where
  control : s.control? = some .loop
  unlisted : Entries.get s.config "items" = .null
  count : Entries.get s.config "count" = .int count
  indexed : Entries.get s.config "indexVariable" = .str x

def itemName (s : Step) (store : Entries) : Value :=
  (Entries.get (s.configIn store) "itemVariable").orElse Passes.standardItemName

theorem ofConfig_of_lists {s : Step} {store : Entries} {items : List Value}
    (lists : Lists s store items) :
    Passes.ofConfig store (s.configIn store) = .ok (.ofItems (itemName s store) items) := by
  obtain ⟨name, named, listed⟩ := lists.listed
  unfold Passes.ofConfig
  simp only [named, listed]
  rfl

theorem name_in {s : Step} {key : Key} {x : String} (store : Entries) (standard : Value)
    (stored : Entries.get s.config key = .str x) (nonempty : x ≠ "")
    (plain : Template.hasToken x = false) :
    (Entries.get (s.configIn store) key).orElse standard = .str x := by
  rw [Step.configIn, Template.get_renderConfig, stored, Template.renderValue,
    Template.render_of_not_hasToken plain]
  apply Value.orElse_eq_self
  intro falsy
  simp [Value.truthy, nonempty] at falsy

theorem ofConfig_of_counts {s : Step} {store : Entries} {count : Int} {x : String}
    (counts : Counts s count x) (small : count.natAbs ≤ Nat.pow 2 53) (nonempty : x ≠ "")
    (plain : Template.hasToken x = false) :
    Passes.ofConfig store (s.configIn store) = .ok (.ofCount (.str x) count) := by
  have unlisted : Entries.get (s.configIn store) "items" = .null := by
    rw [Step.configIn, Template.get_renderConfig, counts.unlisted, Template.renderValue]
    nofun
  have counted : Entries.get (s.configIn store) "count" = .int count := by
    rw [Step.configIn, Template.get_renderConfig, counts.count, Template.renderValue]
    nofun
  have named := name_in store Passes.standardIndexName counts.indexed nonempty plain
  unfold Passes.ofConfig
  simp only [unlisted, counted, Passes.readCount?_of_small small, named]

theorem rounds_of_step {s : Step} {items : List Value} (lists : Lists s m.store items)
    (h : Yields (step registry s) m log e.result m') :
    (log = [⟨.checkpoint, true⟩] ∧ e = .halted .cancelled ∧ m' = m) ∨
      ∃ l₁ l₂ inside m₁, log = ⟨.checkpoint, false⟩ :: (l₁ ++ l₂) ∧
        Rounds (steps registry s.children) (itemName s m.store) items m l₁ inside m₁ ∧
          Closes s m₁ inside l₂ e m' := by
  rw [yields_step_iff] at h
  rcases h with stopped | ⟨rest, hlog, h⟩
  · left
    exact stopped
  · right
    subst hlog
    unfold dispatch loop at h
    simp only [lists.control, yields_store_bind_iff, ofConfig_of_lists lists] at h
    rw [yields_passOn_iff] at h
    have rounds {log : Log α} {e : Ending} {m₁ : Memory}
        (h : Yields (iterate (.ofItems (itemName s m.store) items) (steps registry s.children)
          (Passes.ofItems (itemName s m.store) items).count) m log e.result m₁) :
        Rounds (steps registry s.children) (itemName s m.store) items m log e m₁ := by
      have h := rounds_of_iterate h
      rw [← Passes.values, Passes.values_ofItems] at h
      exact h
    rcases h with ⟨unfailed, h⟩ | ⟨m₁, l₁, l₂, hrest, inside, failing⟩
    · exact ⟨rest, [], e, m', by simp, rounds h, .unfailed unfailed⟩
    · rw [yields_failContainer_iff] at failing
      obtain ⟨more, received, hl₂, passed, he, hm⟩ := failing
      subst hrest hl₂ he hm
      exact ⟨l₁, _, .ended .failed, m₁, rfl, rounds inside, .failed passed⟩

theorem run_checkpoint_bind {β : Type} (x : Run α β) (m : Memory) :
    (do checkpoint; x : Run α β).run.run m = .ask .checkpoint fun stop =>
      if stop then .done (.error .cancelled, m) else x.run.run m := by
  change Program.ask _ _ = _
  congr
  funext stop
  cases stop <;> rfl

theorem run_store_bind {β : Type} (f : Entries → Run α β) (m : Memory) :
    (store >>= f).run.run m = (f m.store).run.run m := rfl

theorem run_step (registry : Registry α) (s : Step) (m : Memory) :
    (step registry s).run.run m = .ask .checkpoint fun stop =>
      if stop then .done (.error .cancelled, m) else (dispatch registry s m.store).run.run m := by
  rw [step_eq, run_checkpoint_bind, run_store_bind]

theorem run_dispatch_of_ready {s : Step} {passes : Passes} (control : s.control? = some .loop)
    (ready : Passes.ofConfig m.store (s.configIn m.store) = .ok passes) :
    (dispatch registry s m.store).run.run m = (do
      let status ← iterate passes (steps registry s.children) passes.count
      passOn s.id s.actionType "loop body" status : Run α Status).run.run m := by
  unfold dispatch
  rw [control]
  dsimp only
  rw [loop, run_store_bind, ready]

theorem run_step_of_counts {counting listing : Step} {count : Int} {x : String}
    (small : count.natAbs ≤ Nat.pow 2 53) (nonempty : x ≠ "") (plain : Template.hasToken x = false)
    (counts : Counts counting count x) (lists : Lists listing m.store (Passes.numbers count))
    (named : Entries.get listing.config "itemVariable" = .str x) (hid : listing.id = counting.id)
    (htype : listing.actionType = counting.actionType)
    (hchildren : listing.children = counting.children) :
    (step registry counting).run.run m = (step registry listing).run.run m := by
  have name : itemName listing m.store = .str x :=
    name_in m.store Passes.standardItemName named nonempty plain
  have ready := ofConfig_of_lists lists
  rw [name] at ready
  have values : (Passes.ofCount (.str x) count).values =
      (Passes.ofItems (.str x) (Passes.numbers count)).values := by
    rw [Passes.values_ofCount, Passes.values_ofItems]
  rw [run_step, run_step,
    run_dispatch_of_ready counts.control (ofConfig_of_counts counts small nonempty plain),
    run_dispatch_of_ready lists.control ready, hid, htype, hchildren,
    iterate_eq_of_values values rfl]

theorem loop_modes (registry : Registry α) (m : Memory) :
    (∀ (s : Step) (items : List Value), Lists s m.store items →
      ∀ (log : Log α) (e : Ending) (m' : Memory), Yields (step registry s) m log e.result m' →
        (log = [⟨.checkpoint, true⟩] ∧ e = .halted .cancelled ∧ m' = m) ∨
          ∃ l₁ l₂ inside m₁, log = ⟨.checkpoint, false⟩ :: (l₁ ++ l₂) ∧
            Rounds (steps registry s.children) (itemName s m.store) items m l₁ inside m₁ ∧
              Closes s m₁ inside l₂ e m') ∧
      ∀ (counting listing : Step) (count : Int) (x : String), count.natAbs ≤ Nat.pow 2 53 → x ≠ "" →
        Template.hasToken x = false → Counts counting count x →
          Lists listing m.store (Passes.numbers count) →
            Entries.get listing.config "itemVariable" = .str x → listing.id = counting.id →
              listing.actionType = counting.actionType → listing.children = counting.children →
                (step registry counting).run.run m = (step registry listing).run.run m := by
  constructor
  · intro s items lists log e m' h
    exact rounds_of_step lists h
  · intro counting listing count x small nonempty plain counts lists named hid htype hchildren
    exact run_step_of_counts small nonempty plain counts lists named hid htype hchildren

theorem loop_modes_of_overwritten :
    let registry : Registry Unit := ⟨[("overwrite", ())]⟩
    let overwrite : Step := ⟨"step", .str "overwrite", [], [], []⟩
    let counting : Step :=
      ⟨"loop", .str "loop", [("count", .int 3), ("indexVariable", .str "x")], [overwrite], []⟩
    let listing : Step :=
      ⟨"loop", .str "loop", [("items", .str "list"), ("itemVariable", .str "x")], [overwrite], []⟩
    let m : Memory := { store := [("list", .list (Passes.numbers 3)), ("x", .null)] }
    (∃ log m', Yields (step registry listing) m log (.ok .failed) m' ∧
      ∃ l₁ l₂ inside m₁, log = ⟨.checkpoint, false⟩ :: (l₁ ++ l₂) ∧
        Rounds (steps registry [overwrite]) (.str "x") (Passes.numbers 3) m l₁ inside m₁ ∧
          Closes listing m₁ inside l₂ (.ended .failed) m') ∧
      (step registry counting).run.run m = (step registry listing).run.run m := by
  intro registry overwrite counting listing m
  have plain : Template.hasToken "x" = false := by decide +kernel
  have kept : Template.render m.store "list" = "list" :=
    Template.render_of_not_hasToken (by decide +kernel) m.store
  have lists : Lists listing m.store (Passes.numbers 3) := by
    refine ⟨rfl, "list", ?_, rfl⟩
    rw [Step.configIn, Template.get_renderConfig]
    exact congrArg Value.str kept
  have name : itemName listing m.store = .str "x" := name_in _ _ rfl nofun plain
  have ready := ofConfig_of_lists lists
  rw [name] at ready
  have first (start : Memory) :
      Course registry (.steps [overwrite]) start _ (.ended .completed) _ :=
    .nextStep
      (.performed rfl (.called (.ok { output := .null, write := some (.str "list", .null) }) rfl)
        (.written rfl rfl) .received)
      .noStep
  have second (start : Memory) : Course registry (.steps [overwrite]) start _ (.ended .failed) _ :=
    .lastStep (.raised rfl (.called (.error (.raised .tooLarge)) rfl) .received) nofun
  have course : Course registry (.step listing) m _ (.ended .failed) _ :=
    .around (.loop rfl ready) (.nextPass rfl (first _) (.lastPass rfl (second _) nofun)) .received
  have modes := loop_modes registry m
  have yields := yields_of_course course
  refine ⟨⟨_, _, yields, ?_⟩, ?_⟩
  · rcases modes.1 listing _ lists _ _ _ yields with stopped | rounds
    · simp at stopped
    · rw [name] at rounds
      exact rounds
  · exact modes.2 counting listing 3 "x" (by decide) nofun plain ⟨rfl, rfl, rfl, rfl⟩ lists rfl rfl
      rfl rfl

end FlowRunner.Run
