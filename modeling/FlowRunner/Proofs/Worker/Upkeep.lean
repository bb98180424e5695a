import FlowRunner.Proofs.Worker.Correspondence

/-!
This module contains what each happening changes of the tasks of a service and their messages, told
by the same cases as the happenings (`Change`).
-/

namespace FlowRunner.Posting

open Execution (Input told?)

variable {α : Type} {registry : Registry α} {secret : Option String} {x y : Worker × Service α}
  {s s' : Service α} {n m k : Nat} {t u : Service.Task α} {events new : List Event}
  {steps : List Step} {initial : Value} {stage : Service.Stage α} {results : List StepResult}

/-! ### Where events belong -/

def Event.task? : Event → Option Nat
  | .told n .. => some n
  | .closing n .. => some n
  | .closed n .. => some n
  | _ => none

theorem Event.delivery?_eq_none {event : Event} (own : event.task? = some n) :
    event.delivery? = none := by
  cases event with
  | attempted k => cases own
  | delivered k status receipt => cases own
  | _ => rfl

structure Event.Within (s : Service α) (event : Event) : Prop where
  task : ∀ n, event.task? = some n → n < s.tasks.length
  delivery : ∀ k, event.delivery? = some k → k < s.deliveries.length

theorem Event.within_of_none {event : Event} (untold : event.task? = none)
    (unsent : event.delivery? = none) : event.Within s where
  task n own := by
    rw [untold] at own
    cases own
  delivery k about := by
    rw [unsent] at about
    cases about

theorem Event.within_of_task? {event : Event} (own : event.task? = some n)
    (bound : n < s.tasks.length) : event.Within s where
  task m same := by
    rw [own, Option.some.injEq] at same
    rwa [← same]
  delivery k about := by
    rw [delivery?_eq_none own] at about
    cases about

theorem Event.within_of_delivery? {event : Event} (about : event.delivery? = some k)
    (bound : k < s.deliveries.length) : event.Within s where
  task n own := by
    rw [delivery?_eq_none own] at about
    cases about
  delivery j same := by
    rw [about, Option.some.injEq] at same
    rwa [← same]

theorem Event.Within.mono {event : Event} (within : event.Within s)
    (tasks : s.tasks.length ≤ s'.tasks.length)
    (deliveries : s.deliveries.length ≤ s'.deliveries.length) : event.Within s' where
  task n own := Nat.lt_of_lt_of_le (within.task n own) tasks
  delivery k about := Nat.lt_of_lt_of_le (within.delivery k about) deliveries

theorem story_eq_nil (apart : ∀ event ∈ new, event.task? ≠ some n) : story n new = [] := by
  unfold story
  rw [List.filterMap_eq_nil_iff]
  intro event mem
  split
  · next m w input =>
    apply if_neg
    rintro rfl
    exact apart _ mem rfl
  · rfl

theorem unclosed_of_apart (apart : ∀ event ∈ new, event.task? ≠ some n) : Unclosed n new :=
  ⟨fun _ _ mem => apart _ mem rfl, fun _ _ mem => apart _ mem rfl⟩

theorem task?_of_mem_closing {event : Event} (mem : event ∈ closing s n) :
    event.task? = some n := by
  unfold closing at mem
  split at mem
  · rw [List.mem_singleton.mp mem]
    rfl
  · cases mem

theorem story_told (w : Worker) (input : Input) (s : Service α) :
    story n (events ++ .told n w input :: closing s n) = story n events ++ [(w, input)] := by
  have closed : story n (closing s n) = [] := by
    unfold closing
    split <;> rfl
  have heard : story n (.told n w input :: closing s n) = (w, input) :: story n (closing s n) := by
    simp [story]
  rw [story_append, heard, closed]

/-! ### Messages about steps -/

def Counts (events : List Event) (s : Service α) (n : Nat) : Prop :=
  ∀ k d, s.deliveries[k]? = some d → d.task = n → Counted k d.stage events

theorem Counts.append (counts : Counts events s n) (apart : ∀ event ∈ new, event.delivery? = none) :
    Counts (events ++ new) s n := by
  intro k d listed own
  apply (counts k d listed own).append
  intro event mem
  rw [apart event mem]
  exact nofun

theorem waiting_of_mem_messages {d : Delivery} (mem : d ∈ t.messages n results) :
    d.stage = .waiting := by
  unfold Service.Task.messages at mem
  split at mem
  · cases mem
  · obtain ⟨r, -, rfl⟩ := List.mem_map.mp mem
    rfl

-- New messages have numbers that nothing was seen of so far.
theorem Counts.noted (counts : Counts events s m) (within : ∀ event ∈ events, event.Within s)
    (n : Nat) (t : Service.Task α) (results : List StepResult) :
    Counts events (s.noted n t results) m := by
  intro k d listed own
  unfold Service.noted at listed
  rcases Nat.lt_or_ge k s.deliveries.length with old | late
  · rw [List.getElem?_append_left old] at listed
    exact counts k d listed own
  · rw [List.getElem?_append_right late] at listed
    rw [waiting_of_mem_messages (List.mem_of_getElem? listed)]
    apply counted_waiting
    intro event mem about
    exact absurd ((within event mem).delivery k about) (Nat.not_lt.mpr late)

theorem Counts.setDelivery {event : Event} {d : Delivery} {stage : Delivery.Stage}
    (counts : Counts events s n) (listed : s.deliveries[k]? = some d)
    (about : event.delivery? = some k)
    (counted : Counted k d.stage events → Counted k stage (events ++ [event])) :
    Counts (events ++ [event]) (s.setDelivery k stage) n := by
  intro j d' found own
  unfold Service.setDelivery at found
  dsimp only at found
  by_cases same : k = j
  · subst same
    rw [List.getElem?_modify_eq, listed] at found
    cases found
    exact counted (counts k d listed own)
  · rw [List.getElem?_modify_ne _ _ same] at found
    apply (counts j d' found own).append
    intro event mem
    rw [List.mem_singleton.mp mem, about]
    exact fun eq => same (Option.some.inj eq)

theorem counted_sending {stage : Delivery.Stage} (waiting : stage = .waiting)
    (counted : Counted k stage events) : Counted k .sending (events ++ [.attempted k]) := by
  subst waiting
  obtain ⟨attempts, ends⟩ := counted
  constructor
  · simp [attempts, Event.isAttempt]
  · simp [ends, Event.isEnd]

theorem counted_ended {stage : Delivery.Stage} {status : Option Int} {receipt : Callback.Receipt}
    (sending : stage = .sending) (counted : Counted k stage events) :
    Counted k .ended (events ++ [.delivered k status receipt]) := by
  subst sending
  obtain ⟨attempts, ends⟩ := counted
  constructor
  · simp [attempts, Event.isAttempt]
  · simp [ends, Event.isEnd]

theorem closes_closing {url : String} {body : Value} (unclosed : Unclosed n events)
    (counts : Counts events s n) (all : s.allDelivered n = true) :
    Closes (events ++ [.closing n url body]) s n url body := by
  refine ⟨events, [], rfl, unclosed, fun _ _ => List.not_mem_nil, fun k message known => ?_⟩
  unfold Service.contents at known
  rw [List.getElem?_map, Option.map_eq_some_iff] at known
  obtain ⟨d, listed, eq⟩ := known
  have own : d.task = n := congrArg Prod.fst eq
  have ended : d.stage = .ended := by
    have each := List.all_eq_true.mp all d (List.mem_of_getElem? listed)
    simpa [own] using each
  rw [← ended]
  exact counts k d listed own

theorem Closes.append {url : String} {body : Value} (closes : Closes events s n url body)
    (unsent : ∀ url body, .closing n url body ∉ new)
    (known : ∀ (k : Nat) (message : String × Value), s'.contents[k]? = some (n, message) →
      s.contents[k]? = some (n, message)) :
    Closes (events ++ new) s' n url body := by
  obtain ⟨before, after, rfl, first, last, counted⟩ := closes
  refine ⟨before, after ++ new, ?_, first, fun url body => ?_, ?_⟩
  · rw [List.append_assoc, List.cons_append]
  · rw [List.mem_append, not_or]
    exact ⟨last url body, unsent url body⟩
  · exact fun k message late => counted k message (known k message late)

theorem Settles.ends {c : Closure} (settles : Settles s n c t.callbackUrl stage)
    (task : s.tasks[n]? = some t) (unclosed : Unclosed n events) (counts : Counts events s n) :
    Ends secret (events ++ closing (s.setStage n stage) n) (s.setStage n stage) n c t.callbackUrl
      stage := by
  rw [closing_setStage task]
  generalize t.callbackUrl = callbackUrl at settles
  cases settles with
  | gathering =>
    apply Ends.gathering
    cases callbackUrl <;> rwa [List.append_nil]
  | silent =>
    apply Ends.silent
    rwa [List.append_nil]
  | completing all =>
    refine .completing (closes_closing unclosed counts all) fun status receipt => ?_
    simpa using unclosed.unanswered status receipt

/-! ### Changes -/

inductive Change (registry : Registry α) (secret : Option String) (events : List Event)
    (s : Service α) (new : List Event) (s' : Service α) : Prop where
  | idle (service : s' = s) (unseen : new = [])
  | accepted (t : Service.Task α) (steps : List Step) (initial : Value)
      (scheduled : t.stage = .scheduled steps initial) (fresh : t.id ∉ s.running)
      (service : s' = { s with tasks := s.tasks ++ [t] })
      (seen : new = [.accepted s.tasks.length t.id t.callbackUrl steps initial])
  | task (n : Nat) (t : Service.Task α) (results : List StepResult) (stage : Service.Stage α)
      (task : s.tasks[n]? = some t) (unended : t.isEnded = false)
      (service : s' = (s.noted n t results).setStage n stage)
      (seen : ∀ event ∈ new, event.task? = some n)
      (onward : ∀ steps initial old, Counts events s n →
        Stands registry secret events s n t.id t.callbackUrl steps initial t.stage old →
          stage = .ended (.error .interrupted) ∨
            Stands registry secret (events ++ new) s' n t.id t.callbackUrl steps initial stage
              (old ++ results))
  | delivery (k : Nat) (d : Delivery) (stage : Delivery.Stage) (event : Event)
      (listed : s.deliveries[k]? = some d) (service : s' = s.setDelivery k stage)
      (seen : new = [event]) (about : event.delivery? = some k)
      (counted : Counted k d.stage events → Counted k stage (events ++ [event]))
      (received : ∀ status receipt, event = .delivered k status receipt →
        receipt = Callback.deliver secret d.url d.body status)
  | interrupted (n : Nat) (t : Service.Task α) (task : s.tasks[n]? = some t)
      (unended : t.isEnded = false) (resting : ∀ e, t.stage ≠ .executing e)
      (service : s' = s.interrupt n) (seen : new = [.interrupted n])

theorem Hears.isGoing {id : String} {input : Input} {next : Execution α × Worker × Service α}
    (hears : Hears registry id x stage input next) : stage.isGoing = true := by
  cases hears <;> rfl

theorem Ends.isGoing {c : Closure} {callbackUrl : Option String}
    (ends : Ends secret events s n c callbackUrl stage) : stage.isGoing = false := by
  cases ends <;> rfl

theorem Ends.unclosed {c c' : Closure} {callbackUrl : Option String}
    (ends : Ends secret events s n c callbackUrl (.gathering c')) : c' = c ∧ Unclosed n events := by
  cases ends with
  | gathering unclosed => exact ⟨rfl, unclosed⟩

-- Whoever is told something has not ended its execution, so that what it passed on is all there is.
theorem change_told {t : Service.Task α} {input : Input}
    {next : Execution α × Worker × Service α} (once : x.2.running.Nodup)
    (within : ∀ event ∈ events, event.Within x.2)
    (own : ∀ e, t.stage = .executing e → e.id = t.id) (task : x.2.tasks[n]? = some t)
    (hears : Hears registry t.id x t.stage input next) :
    Change registry secret events x.2 (.told n x.1 input :: closing (went n next) n)
      (went n next) := by
  have unended := Traffic.isEnded_of_isGoing hears.isGoing
  obtain ⟨results, noted, told⟩ := hears.exists_noted once task unended own
  have kept : (x.2.noted n t results).tasks[n]? = some t := task
  obtain ⟨stage, executed, arrives⟩ := exists_executed kept next.1
  have service : went n next = (x.2.noted n t results).setStage n stage := by
    rw [went, noted, executed]
  rw [service]
  apply Change.task n t results stage task unended rfl
  · intro event mem
    rcases List.mem_cons.mp mem with rfl | closing
    · rfl
    · exact task?_of_mem_closing closing
  · intro steps initial old counts stands
    cases stands with
    | past _ _ _ ends => exact absurd hears.isGoing (by simp [ends.isGoing])
    | going carries unclosed =>
      have after := told steps initial _ old carries
      have id := (Execution.attends_told _ _ after).1
      rw [← story_told x.1 input ((x.2.noted n t results).setStage n stage)] at after
      have unclosed : Unclosed n (events ++ [.told n x.1 input]) :=
        unclosed_append.mpr ⟨unclosed, by constructor <;> simp⟩
      cases arrives with
      | going going =>
        refine .inr (.going (.executing after going) ?_)
        rw [closing_setStage kept, List.append_cons]
        cases t.callbackUrl <;> simpa using unclosed
      | interrupted => exact .inl rfl
      | past done said settles =>
        rw [id] at said
        refine .inr (.past after done said ?_)
        have counts : Counts (events ++ [.told n x.1 input]) (x.2.noted n t results) n := by
          apply (counts.noted within n t results).append
          simp [Event.delivery?]
        rw [List.append_cons]
        exact settles.ends kept unclosed counts

theorem change_gathered {c : Closure} (gathering : s.stage? n = some (.gathering c))
    (all : s.allDelivered n = true) :
    Change registry secret events s (closing (s.gathered n) n) (s.gathered n) := by
  obtain ⟨t, task, stands⟩ := Service.exists_task gathering
  obtain ⟨stage, completed, settles⟩ := exists_complete task all c
  have service : s.gathered n = s.setStage n stage := by
    unfold Service.gathered
    rw [gathering]
    dsimp only
    rw [if_pos all, completed]
  rw [service]
  apply Change.task n t [] stage task (Service.isEnded_of_stage stands nofun)
  · rw [Service.noted_nil]
  · intro event mem
    exact task?_of_mem_closing mem
  · intro steps initial old counts before
    rw [List.append_nil]
    rw [stands] at before
    cases before with
    | going carries => exact absurd carries.isGoing Bool.false_ne_true
    | past told done said ends =>
      obtain ⟨rfl, unclosed⟩ := ends.unclosed
      refine .inr (.past ?_ done said (settles.ends task unclosed counts))
      have untold : story n (closing (s.setStage n stage) n) = [] := by
        unfold closing
        split <;> rfl
      rwa [story_append, untold, List.append_nil]

theorem change_completed {url : String} {body : Value} (status : Option Int)
    (message : s.message? n = some (url, body)) :
    Change registry secret events s [.closed n status (Callback.deliver secret url body status)]
      (s.completed n (Callback.deliver secret url body status)) := by
  obtain ⟨t, c, task, wanted, completing, rfl⟩ := exists_of_message? message
  have stage := Service.stage?_of_task task
  rw [completing] at stage
  have unended : t.isEnded = false := by
    rw [Service.Task.isEnded, completing]
  rw [completed_eq stage]
  apply Change.task n t [] _ task unended
  · rw [Service.noted_nil]
  · intro event mem
    rw [List.mem_singleton.mp mem]
    rfl
  · intro steps initial old counts before
    rw [List.append_nil]
    rw [completing, wanted] at before
    rw [wanted]
    cases before with
    | going carries => exact absurd carries.isGoing Bool.false_ne_true
    | past told done said ends =>
      cases ends with
      | completing closes unanswered =>
        refine .inr (.past ?_ done said (.closed ?_ ?_))
        · simpa [story] using told
        · apply closes.append
          · simp
          · exact fun _ _ known => known
        · simp [unanswered]

theorem change_accepted {id : String} {callbackUrl : Option String}
    (accepted : s.start? id steps callbackUrl initial = some s') :
    Change registry secret events s
      [.accepted s.tasks.length id (callbackUrl.filter (· != "")) steps initial] s' := by
  unfold Service.start? at accepted
  split at accepted
  · cases accepted
  · next fresh =>
    cases accepted
    refine .accepted ⟨id, _, _⟩ steps initial rfl ?_ rfl rfl
    simpa [Service.isRunning] using fresh

end FlowRunner.Posting
