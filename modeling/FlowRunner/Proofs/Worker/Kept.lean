import FlowRunner.Proofs.Worker.Upkeep

/-!
This module contains what is true of the tasks of a service and their messages at any time
(`Runs.sound`).
-/

namespace FlowRunner.Posting

open Execution (told?)

variable {α : Type} {registry : Registry α} {secret : Option String} {x y : Worker × Service α}
  {s s' : Service α} {n m k : Nat} {t u : Service.Task α} {events new : List Event}
  {steps : List Step} {initial : Value} {stage : Service.Stage α} {results : List StepResult}

/-! ### What is true at any time -/

structure Keeps (registry : Registry α) (secret : Option String) (events : List Event)
    (s : Service α) (n : Nat) (t : Service.Task α) (steps : List Step) (initial : Value)
    (results : List StepResult) : Prop where
  stands : Stands registry secret events s n t.id t.callbackUrl steps initial t.stage results
  about : s.about n = (t.contents n results).map (·.2)
  counts : Counts events s n

def Kept (registry : Registry α) (secret : Option String) (events : List Event) (s : Service α)
    (n : Nat) (id : String) (callbackUrl : Option String) (steps : List Step) (initial : Value) :
    Prop :=
  ∃ t, s.tasks[n]? = some t ∧ t.id = id ∧ t.callbackUrl = callbackUrl ∧
    (Interrupted t ∨ ∃ results, Keeps registry secret events s n t steps initial results)

structure Sound (registry : Registry α) (secret : Option String) (events : List Event)
    (s : Service α) : Prop where
  once : s.running.Nodup
  within : ∀ event ∈ events, event.Within s
  owned : ∀ c ∈ s.contents, c.1 < s.tasks.length
  known : ∀ n t, s.tasks[n]? = some t →
    ∃ steps initial, .accepted n t.id t.callbackUrl steps initial ∈ events
  keeps : ∀ n id callbackUrl steps initial, .accepted n id callbackUrl steps initial ∈ events →
    Kept registry secret events s n id callbackUrl steps initial
  receipts : ∀ k status receipt, .delivered k status receipt ∈ events → ∃ n url body,
    s.contents[k]? = some (n, url, body) ∧ receipt = Callback.deliver secret url body status

theorem sound_empty : Sound registry secret [] ({} : Service α) := by
  constructor
  case once => exact List.nodup_nil
  case within => simp
  case owned => simp [Service.contents]
  case known => simp
  case keeps => simp
  case receipts => simp

theorem Sound.about_eq_nil (sound : Sound registry secret events s) :
    s.about s.tasks.length = [] := by
  unfold Service.about
  rw [List.map_eq_nil_iff, List.filter_eq_nil_iff]
  intro c mem
  rw [beq_iff_eq]
  exact Nat.ne_of_lt (sound.owned c mem)

theorem Sound.exists_keeps {id : String} {callbackUrl : Option String}
    (sound : Sound registry secret events s)
    (accepted : .accepted n id callbackUrl steps initial ∈ events) (task : s.tasks[n]? = some t)
    (untaken : ¬Interrupted t) : t.id = id ∧ t.callbackUrl = callbackUrl ∧
      ∃ results, Keeps registry secret events s n t steps initial results := by
  obtain ⟨u, listed, own, wanted, kept⟩ := sound.keeps n id callbackUrl steps initial accepted
  rw [task, Option.some.injEq] at listed
  subst listed
  exact ⟨own, wanted, kept.resolve_left untaken⟩

-- Whose execution it is follows from what it was told since it began.
theorem Sound.own (sound : Sound registry secret events s) (task : s.tasks[n]? = some t) :
    ∀ e, t.stage = .executing e → e.id = t.id := by
  intro e executing
  have untaken : ¬Interrupted t := by
    rw [Interrupted, executing]
    exact nofun
  obtain ⟨steps, initial, accepted⟩ := sound.known n t task
  obtain ⟨-, -, results, keeps⟩ := sound.exists_keeps accepted task untaken
  have stands := keeps.stands
  rw [executing] at stands
  cases stands with
  | going carries => exact (Execution.attends_told _ _ carries.told).1
  | past _ _ _ ends => exact absurd ends.isGoing (Bool.false_ne_true ∘ Eq.symm)

theorem Goes.change (goes : Goes registry secret x new y)
    (sound : Sound registry secret events x.2) :
    Change registry secret events x.2 new y.2 := by
  cases goes with
  | elsewhere w w' s => exact .idle rfl rfl
  | accepted accepted => exact change_accepted accepted
  | told task hears => exact change_told sound.once sound.within (sound.own task) task hears
  | attempted listed waiting =>
    exact .delivery _ _ _ _ listed rfl rfl rfl (counted_sending waiting) nofun
  | delivered status listed sending =>
    refine .delivery _ _ _ _ listed rfl rfl rfl (counted_ended sending) ?_
    rintro _ _ ⟨⟩
    rfl
  | gathered gathering all => exact change_gathered gathering all
  | completed status message => exact change_completed status message
  | interrupted task unended resting => exact .interrupted _ _ task unended resting rfl rfl

structure Apart (n : Nat) (s : Service α) (new : List Event) (s' : Service α) : Prop where
  untold : ∀ event ∈ new, event.task? ≠ some n
  contents : ∃ added, s'.contents = s.contents ++ added ∧ ∀ c ∈ added, c.1 ≠ n

theorem apart_of_same (untold : ∀ event ∈ new, event.task? ≠ some n)
    (same : s'.contents = s.contents) :
    Apart n s new s' :=
  ⟨untold, [], by rw [same, List.append_nil], fun _ mem => nomatch mem⟩

theorem Apart.known (apart : Apart n s new s') (message : String × Value)
    (late : s'.contents[k]? = some (n, message)) : s.contents[k]? = some (n, message) := by
  obtain ⟨added, grown, others⟩ := apart.contents
  rw [grown] at late
  rcases Nat.lt_or_ge k s.contents.length with old | new
  · rwa [List.getElem?_append_left old] at late
  · rw [List.getElem?_append_right new] at late
    exact absurd rfl (others _ (List.mem_of_getElem? late))

theorem Apart.about (apart : Apart n s new s') : s'.about n = s.about n := by
  obtain ⟨added, grown, others⟩ := apart.contents
  have none : added.filter (fun c => c.1 == n) = [] := by
    rw [List.filter_eq_nil_iff]
    intro c mem
    simpa using others c mem
  unfold Service.about
  rw [grown, List.filter_append, none, List.append_nil]

theorem Ends.apart {c : Closure} {callbackUrl : Option String} (apart : Apart n s new s')
    (ends : Ends secret events s n c callbackUrl stage) :
    Ends secret (events ++ new) s' n c callbackUrl stage := by
  have none := unclosed_of_apart apart.untold
  cases ends with
  | gathering unclosed => exact .gathering (unclosed_append.mpr ⟨unclosed, none⟩)
  | silent unclosed => exact .silent (unclosed_append.mpr ⟨unclosed, none⟩)
  | completing closes unanswered =>
    refine .completing (closes.append none.unsent fun _ => apart.known) fun status receipt => ?_
    rw [List.mem_append, not_or]
    exact ⟨unanswered status receipt, none.unanswered status receipt⟩
  | closed closes closed =>
    refine .closed (closes.append none.unsent fun _ => apart.known) fun status receipt => ?_
    rw [List.mem_append, or_iff_left (none.unanswered status receipt)]
    exact closed status receipt

theorem Stands.apart {id : String} {callbackUrl : Option String} (apart : Apart n s new s')
    (stands : Stands registry secret events s n id callbackUrl steps initial stage results) :
    Stands registry secret (events ++ new) s' n id callbackUrl steps initial stage results := by
  have same : story n (events ++ new) = story n events := by
    rw [story_append, story_eq_nil apart.untold, List.append_nil]
  cases stands with
  | going carries unclosed =>
    rw [← same] at carries
    exact .going carries (unclosed_append.mpr ⟨unclosed, unclosed_of_apart apart.untold⟩)
  | past told done said ends =>
    rw [← same] at told
    exact .past told done said (ends.apart apart)

theorem Kept.apart {id : String} {callbackUrl : Option String}
    (kept : Kept registry secret events s n id callbackUrl steps initial)
    (apart : Apart n s new s') (task : s'.tasks[n]? = s.tasks[n]?)
    (counts : Counts events s n → Counts (events ++ new) s' n) :
    Kept registry secret (events ++ new) s' n id callbackUrl steps initial := by
  obtain ⟨t, listed, own, wanted, interrupted | ⟨results, keeps⟩⟩ := kept
  · exact ⟨t, task.trans listed, own, wanted, .inl interrupted⟩
  · refine ⟨t, task.trans listed, own, wanted, .inr ⟨results, ?_⟩⟩
    exact ⟨keeps.stands.apart apart, apart.about.trans keeps.about, counts keeps.counts⟩

/-! ### What changes keep -/

theorem Change.once (change : Change registry secret events s new s') (once : s.running.Nodup) :
    s'.running.Nodup := by
  cases change with
  | idle service =>
    rw [service]
    exact once
  | accepted t steps initial _ fresh service =>
    rw [service, Service.running_eq, Service.unended_append]
    have new : (s.running ++ [t.id]).Nodup := by
      rw [← List.concat_eq_append]
      exact once.concat fresh
    exact new.sublist (Service.unended_singleton_sublist.append_left _)
  | task n t results stage task unended service =>
    rw [service]
    have kept : (s.noted n t results).tasks[n]? = some t := task
    exact once.sublist (Service.running_setStage_sublist kept unended stage)
  | delivery k d stage event _ service =>
    rw [service]
    exact once
  | interrupted n t task unended resting service =>
    rw [service, Service.interrupt_eq task unended resting]
    exact once.sublist (Service.running_setStage_sublist task unended _)

theorem Change.tasks_le (change : Change registry secret events s new s') :
    s.tasks.length ≤ s'.tasks.length := by
  cases change with
  | idle service => simp [service]
  | accepted t _ _ _ _ service => simp [service]
  | task n t results stage _ _ service => simp [service, Service.setStage, Service.noted]
  | delivery k d stage event _ service => simp [service, Service.setDelivery]
  | interrupted n t task unended resting service =>
    simp [service, Service.interrupt_eq task unended resting, Service.setStage]

theorem lt_of_listed (task : s.tasks[n]? = some t) : n < s.tasks.length :=
  (List.getElem?_eq_some_iff.mp task).1

theorem Change.contents (change : Change registry secret events s new s') :
    ∃ added, s'.contents = s.contents ++ added ∧ ∀ c ∈ added, c.1 < s.tasks.length := by
  have same (eq : s'.contents = s.contents) :
      ∃ added, s'.contents = s.contents ++ added ∧ ∀ c ∈ added, c.1 < s.tasks.length :=
    ⟨[], by rw [eq, List.append_nil], fun _ mem => nomatch mem⟩
  cases change with
  | idle service => exact same (by rw [service])
  | accepted t _ _ _ _ service => exact same (by rw [service]; rfl)
  | task n t results stage task _ service =>
    refine ⟨t.contents n results, ?_, fun c mem => ?_⟩
    · rw [service, ← Service.contents_noted]
      rfl
    · rw [Service.Task.fst_of_mem_contents mem]
      exact lt_of_listed task
  | delivery k d stage event _ service =>
    exact same (by rw [service, Service.contents_setDelivery])
  | interrupted n t task unended resting service =>
    exact same (by rw [service, Service.contents_interrupt task unended resting])

theorem Change.deliveries_le (change : Change registry secret events s new s') :
    s.deliveries.length ≤ s'.deliveries.length := by
  obtain ⟨added, grown, -⟩ := change.contents
  have length := congrArg List.length grown
  simp only [Service.contents, List.length_map, List.length_append] at length
  rw [length]
  exact Nat.le_add_right _ _

theorem Change.within (change : Change registry secret events s new s')
    (within : ∀ event ∈ events, event.Within s) : ∀ event ∈ events ++ new, event.Within s' := by
  rw [List.forall_mem_append]
  constructor
  · exact fun event mem => (within event mem).mono change.tasks_le change.deliveries_le
  · intro event mem
    have tasks := change.tasks_le
    have deliveries := change.deliveries_le
    cases change with
    | idle _ unseen =>
      rw [unseen] at mem
      cases mem
    | accepted t steps initial _ _ service seen =>
      rw [seen] at mem
      rw [List.mem_singleton.mp mem]
      exact Event.within_of_none rfl rfl
    | task n t results stage task _ _ seen =>
      have bound := Nat.lt_of_lt_of_le (lt_of_listed task) tasks
      exact Event.within_of_task? (seen event mem) bound
    | delivery k d stage event' listed _ seen about =>
      rw [seen] at mem
      rw [List.mem_singleton.mp mem]
      have bound := (List.getElem?_eq_some_iff.mp listed).1
      exact Event.within_of_delivery? about (Nat.lt_of_lt_of_le bound deliveries)
    | interrupted n t task _ _ _ seen =>
      rw [seen] at mem
      rw [List.mem_singleton.mp mem]
      exact Event.within_of_none rfl rfl

theorem Change.owned (change : Change registry secret events s new s')
    (owned : ∀ c ∈ s.contents, c.1 < s.tasks.length) :
    ∀ c ∈ s'.contents, c.1 < s'.tasks.length := by
  obtain ⟨added, grown, bound⟩ := change.contents
  rw [grown, List.forall_mem_append]
  exact ⟨fun c mem => Nat.lt_of_lt_of_le (owned c mem) change.tasks_le,
    fun c mem => Nat.lt_of_lt_of_le (bound c mem) change.tasks_le⟩

theorem Change.receipts (change : Change registry secret events s new s')
    (receipts : ∀ k status receipt, .delivered k status receipt ∈ events → ∃ n url body,
      s.contents[k]? = some (n, url, body) ∧ receipt = Callback.deliver secret url body status) :
    ∀ k status receipt, .delivered k status receipt ∈ events ++ new → ∃ n url body,
      s'.contents[k]? = some (n, url, body) ∧
        receipt = Callback.deliver secret url body status := by
  intro k status receipt mem
  rcases List.mem_append.mp mem with old | late
  · obtain ⟨n, url, body, known, eq⟩ := receipts k status receipt old
    obtain ⟨added, grown, -⟩ := change.contents
    refine ⟨n, url, body, ?_, eq⟩
    rw [grown, List.getElem?_append_left (List.getElem?_eq_some_iff.mp known).1, known]
  · cases change with
    | idle _ unseen =>
      rw [unseen] at late
      cases late
    | accepted _ _ _ _ _ _ seen =>
      rw [seen] at late
      simp at late
    | task n t results stage _ _ _ seen => cases seen _ late
    | delivery j d stage event listed service seen about _ received =>
      rw [seen, List.mem_singleton] at late
      rw [← late] at about
      cases about
      refine ⟨d.task, d.url, d.body, ?_, received status receipt late.symm⟩
      rw [service, Service.contents_setDelivery, Service.contents, List.getElem?_map, listed]
      rfl
    | interrupted _ _ _ _ _ _ seen =>
      rw [seen] at late
      simp at late

theorem exists_of_setStage (listed : (s.setStage n stage).tasks[m]? = some u) :
    ∃ t, s.tasks[m]? = some t ∧ t.id = u.id ∧ t.callbackUrl = u.callbackUrl := by
  unfold Service.setStage at listed
  dsimp only at listed
  rw [List.getElem?_modify, Option.map_eq_map, Option.map_eq_some_iff] at listed
  obtain ⟨t, old, eq⟩ := listed
  refine ⟨t, old, ?_⟩
  split at eq <;> cases eq <;> exact ⟨rfl, rfl⟩

theorem Change.known (change : Change registry secret events s new s')
    (known : ∀ n t, s.tasks[n]? = some t →
      ∃ steps initial, .accepted n t.id t.callbackUrl steps initial ∈ events) :
    ∀ n t, s'.tasks[n]? = some t →
      ∃ steps initial, .accepted n t.id t.callbackUrl steps initial ∈ events ++ new := by
  intro n t listed
  have earlier {u : Service.Task α} (old : s.tasks[n]? = some u) (own : u.id = t.id)
      (wanted : u.callbackUrl = t.callbackUrl) :
      ∃ steps initial, .accepted n t.id t.callbackUrl steps initial ∈ events ++ new := by
    obtain ⟨steps, initial, accepted⟩ := known n u old
    rw [own, wanted] at accepted
    exact ⟨steps, initial, List.mem_append_left new accepted⟩
  cases change with
  | idle service =>
    rw [service] at listed
    exact earlier listed rfl rfl
  | accepted u steps initial _ _ service seen =>
    rw [service] at listed
    rcases Nat.lt_or_ge n s.tasks.length with old | late
    · rw [List.getElem?_append_left old] at listed
      exact earlier listed rfl rfl
    · rw [List.getElem?_append_right late, List.getElem?_singleton] at listed
      split at listed
      · next last =>
        cases listed
        have eq : n = s.tasks.length := by omega
        rw [seen, eq]
        exact ⟨steps, initial, List.mem_append_right _ List.mem_cons_self⟩
      · cases listed
  | task m v results stage _ _ service =>
    rw [service] at listed
    obtain ⟨u, old, own, wanted⟩ := exists_of_setStage listed
    exact earlier old own wanted
  | delivery k d stage event _ service =>
    rw [service] at listed
    exact earlier listed rfl rfl
  | interrupted m v task unended resting service =>
    rw [service, Service.interrupt_eq task unended resting] at listed
    obtain ⟨u, old, own, wanted⟩ := exists_of_setStage listed
    exact earlier old own wanted

theorem Counts.interrupt (counts : Counts events s n) (differ : n ≠ m)
    (task : s.tasks[m]? = some t) (unended : t.isEnded = false)
    (resting : ∀ e, t.stage ≠ .executing e) : Counts events (s.interrupt m) n := by
  intro k d listed own
  rw [Service.interrupt_eq task unended resting] at listed
  dsimp only at listed
  rw [List.getElem?_map, Option.map_eq_some_iff] at listed
  obtain ⟨d', old, eq⟩ := listed
  split at eq
  · next mine =>
    rw [← eq] at own
    exact absurd (own.symm.trans (beq_iff_eq.mp mine)) differ
  · rw [eq] at old
    exact counts k d old own

-- A task that the happening is not about keeps all but the stages of its messages, so that only its
-- own case needs more than `Kept.apart`.
theorem Change.kept_of_old {id : String} {callbackUrl : Option String}
    (change : Change registry secret events s new s')
    (within : ∀ event ∈ events, event.Within s)
    (kept : Kept registry secret events s n id callbackUrl steps initial) :
    Kept registry secret (events ++ new) s' n id callbackUrl steps initial := by
  cases change with
  | idle service unseen => rwa [service, unseen, List.append_nil]
  | accepted t steps initial _ _ service seen =>
    apply kept.apart
    · apply apart_of_same
      · simp [seen, Event.task?]
      · rw [service]
        rfl
    · obtain ⟨t, listed, -⟩ := kept
      rw [service, List.getElem?_append_left (lt_of_listed listed)]
    · intro counts
      rw [seen, service]
      exact counts.append (by simp [Event.delivery?])
  | task m t results stage task unended service seen onward =>
    have unseen (counts : Counts events s n) : Counts (events ++ new) s' n := by
      rw [service]
      have more := counts.noted within m t results
      exact more.append fun event mem => Event.delivery?_eq_none (seen event mem)
    by_cases same : n = m
    · subst same
      obtain ⟨u, listed, own, wanted, past⟩ := kept
      rw [task, Option.some.injEq] at listed
      subst listed
      refine ⟨{ t with stage }, by rw [service]; exact getElem?_setStage_self task stage, own,
        wanted, ?_⟩
      rcases past with interrupted | ⟨old, keeps⟩
      · rw [Service.Task.isEnded, interrupted] at unended
        cases unended
      · rcases onward _ _ old keeps.counts keeps.stands with taken | stands
        · exact .inl taken
        · refine .inr ⟨old ++ results, stands, ?_, unseen keeps.counts⟩
          have about : s'.about n = s.about n ++ (t.contents n results).map (·.2) := by
            rw [service, ← Service.about_noted]
            rfl
          rw [about, keeps.about, ← List.map_append, ← Service.Task.contents_append]
          rfl
    · apply kept.apart
      · refine ⟨fun event mem own => ?_, t.contents m results, ?_, ?_⟩
        · rw [seen event mem, Option.some.injEq] at own
          exact same own.symm
        · rw [service, ← Service.contents_noted]
          rfl
        · intro c mem
          rw [Service.Task.fst_of_mem_contents mem]
          exact Ne.symm same
      · rw [service]
        exact getElem?_setStage_of_ne same stage
      · exact unseen
  | delivery k d stage event listed service seen about counted =>
    apply kept.apart
    · apply apart_of_same
      · intro event' mem own
        rw [seen] at mem
        rw [List.mem_singleton.mp mem] at own
        rw [Event.delivery?_eq_none own] at about
        cases about
      · rw [service, Service.contents_setDelivery]
    · rw [service]
      rfl
    · intro counts
      rw [seen, service]
      exact counts.setDelivery listed about counted
  | interrupted m t task unended resting service seen =>
    by_cases same : n = m
    · subst same
      obtain ⟨u, listed, own, wanted, -⟩ := kept
      rw [task, Option.some.injEq] at listed
      subst listed
      refine ⟨{ t with stage := .ended (.error .interrupted) }, ?_, own, wanted, .inl rfl⟩
      rw [service, Service.interrupt_eq task unended resting]
      exact getElem?_setStage_self task _
    · apply kept.apart
      · apply apart_of_same
        · simp [seen, Event.task?]
        · rw [service, Service.contents_interrupt task unended resting]
      · rw [service, Service.interrupt_eq task unended resting]
        exact getElem?_setStage_of_ne same _
      · intro counts
        rw [seen, service]
        have others := counts.interrupt same task unended resting
        exact others.append (by simp [Event.delivery?])

theorem Change.kept (change : Change registry secret events s new s')
    (sound : Sound registry secret events s) (n : Nat) (id : String) (callbackUrl : Option String)
    (steps : List Step) (initial : Value)
    (accepted : .accepted n id callbackUrl steps initial ∈ events ++ new) :
    Kept registry secret (events ++ new) s' n id callbackUrl steps initial := by
  rcases List.mem_append.mp accepted with old | late
  · exact change.kept_of_old sound.within (sound.keeps n id callbackUrl steps initial old)
  · cases change with
    | idle _ unseen =>
      rw [unseen] at late
      cases late
    | accepted t _ _ scheduled _ service seen =>
      rw [seen, List.mem_singleton] at late
      cases late
      have unheard : ∀ event ∈ events ++ new, event.task? ≠ some s.tasks.length := by
        rw [List.forall_mem_append, seen]
        refine ⟨fun event mem own => ?_, by simp [Event.task?]⟩
        exact absurd ((sound.within event mem).task _ own) (Nat.lt_irrefl _)
      refine ⟨t, by simp [service], rfl, rfl, .inr ⟨[], ?_, ?_, ?_⟩⟩
      · refine .going ?_ (unclosed_of_apart unheard)
        rw [story_eq_nil unheard, scheduled]
        exact .scheduled
      · have none : s.about s.tasks.length = [] := sound.about_eq_nil
        have unsaid : (t.contents s.tasks.length []).map (·.2) = [] := by
          cases url : t.callbackUrl <;> simp [Service.Task.contents, url]
        rw [unsaid, service]
        exact none
      · intro k d listed own
        rw [service] at listed
        have bound := sound.owned _ (Service.mem_contents listed)
        exact absurd own (Nat.ne_of_lt bound)
    | task m t results stage _ _ _ seen => cases seen _ late
    | delivery k d stage event _ _ seen about =>
      rw [seen, List.mem_singleton] at late
      rw [← late] at about
      cases about
    | interrupted m t _ _ _ _ seen =>
      rw [seen] at late
      simp at late

theorem Runs.sound {events : List Event} {x : Worker × Service α}
    (runs : Runs registry secret events x) : Sound registry secret events x.2 := by
  induction runs with
  | start w => exact sound_empty
  | snoc runs goes ih =>
    have change := goes.change ih
    exact {
      once := change.once ih.once
      within := change.within ih.within
      owned := change.owned ih.owned
      known := change.known ih.known
      keeps := change.kept ih
      receipts := change.receipts ih.receipts }

theorem Runs.exists_ends {id : String} {callbackUrl : Option String}
    {o : Reply (Option ExecutionResult)} (runs : Runs registry secret events x)
    (accepted : .accepted n id callbackUrl steps initial ∈ events)
    (task : x.2.tasks[n]? = some t) (ended : t.stage = .ended o)
    (uncancelled : o ≠ .error .interrupted) : ∃ e results outcome c,
      told? registry id steps initial (story n events) = some (e, results) ∧
        e.outcome? = some outcome ∧ Service.closure? id outcome = some c ∧
          Ends secret events x.2 n c callbackUrl (.ended o) ∧ t.id = id ∧
            t.callbackUrl = callbackUrl ∧
              Keeps registry secret events x.2 n t steps initial results := by
  have untaken : ¬Interrupted t := by
    rw [Interrupted, ended]
    rintro ⟨⟩
    exact uncancelled rfl
  obtain ⟨rfl, rfl, results, keeps⟩ := runs.sound.exists_keeps accepted task untaken
  have stands := keeps.stands
  rw [ended] at stands
  cases stands with
  | going carries => exact absurd carries.isGoing Bool.false_ne_true
  | past told done said ends => exact ⟨_, _, _, _, told, done, said, ends, rfl, rfl, keeps⟩

theorem Stands.isGoing_eq_false {id : String} {callbackUrl : Option String} {e : Execution α}
    {outcome : Reply ExecutionResult} {old : List StepResult}
    (stands : Stands registry secret events s n id callbackUrl steps initial stage old)
    (told : told? registry id steps initial (story n events) = some (e, results))
    (done : e.outcome? = some outcome) : stage.isGoing = false := by
  cases stands with
  | past _ _ _ ends => exact ends.isGoing
  | going carries =>
    generalize story n events = story at carries told
    cases carries with
    | scheduled => cases told
    | executing told' going =>
      rw [told'] at told
      cases told
      rw [going] at done
      cases done

end FlowRunner.Posting
