import FlowRunner.Proofs.Pool.Lookup

/-!
This module contains what the closing of a session that is taken out of a pool comes to: its page is
asked to close, and then its context, unless the task that closes them is taken down before.
-/

namespace FlowRunner.Pool

variable {p : Pool} {id : String} {s : Session}

theorem isRegistered_release (registered : p.session? id = some s) :
    (p.release id).1.isRegistered id = false := by
  rw [release_of_session registered, ← session?_eq_none_iff]
  exact session?_filter.trans (if_pos rfl)

namespace Closing

inductive Course (start : Closing) : List (Call × Reply Nat) → Progress → Prop where
  | begun : Course start [] (.underWay start)
  | answered {calls : List (Call × Reply Nat)} {c : Closing}
      (course : Course start calls (.underWay c)) (reply : Reply Nat) :
      Course start (calls ++ [(c.call, reply)]) (c.resume reply)

theorem resume_eq_interrupted_iff {c : Closing} {reply : Reply Nat} :
    c.resume reply = .interrupted ↔ reply = .error .interrupted := by
  rcases c with s | s <;> rcases reply with (f | _) | n <;> simp [resume]

theorem resume_page {reply : Reply Nat} (answered : reply ≠ .error .interrupted) :
    (page s).resume reply = .underWay (context s) := by
  rcases reply with (f | _) | n
  · rfl
  · contradiction
  · rfl

theorem resume_context_ne_underWay {reply : Reply Nat} {c : Closing} :
    (context s).resume reply ≠ .underWay c := by
  rcases reply with (f | _) | n <;> simp [resume]

theorem Course.of_underWay {calls : List (Call × Reply Nat)} {c : Closing}
    (course : Course (.page s) calls (.underWay c)) :
    (calls = [] ∧ c = .page s) ∨
      ∃ reply, reply ≠ .error .interrupted ∧ calls = [(.closePage s.page, reply)] ∧
        c = .context s := by
  generalize hprogress : Progress.underWay c = progress at course
  induction course generalizing c with
  | begun =>
    cases hprogress
    left
    exact ⟨rfl, rfl⟩
  | @answered calls c' course reply ih =>
    rcases ih rfl with ⟨hcalls, hc⟩ | ⟨first, -, -, hc⟩
    · subst hcalls hc
      have answered : reply ≠ .error .interrupted := by
        intro interrupted
        rw [resume_eq_interrupted_iff.mpr interrupted] at hprogress
        cases hprogress
      rw [resume_page answered] at hprogress
      cases hprogress
      right
      exact ⟨reply, answered, rfl, rfl⟩
    · subst hc
      exact absurd hprogress.symm resume_context_ne_underWay

theorem Course.context_iff {calls : List (Call × Reply Nat)} {progress : Progress}
    (course : Course (.page s) calls progress) (ended : ∀ c, progress ≠ .underWay c) :
    ∃ reply rest, calls = (.closePage s.page, reply) :: rest ∧
      ((∃ answer, (.closeContext s.context, answer) ∈ calls) ↔ reply ≠ .error .interrupted) := by
  cases course with
  | begun => exact absurd rfl (ended _)
  | answered course reply =>
    rcases course.of_underWay with ⟨hcalls, hc⟩ | ⟨first, answered, hcalls, hc⟩
    · subst hcalls hc
      have interrupted : reply = .error .interrupted := by
        apply Classical.byContradiction
        intro answered
        exact ended _ (resume_page answered)
      exact ⟨reply, [], rfl, by simp [call, interrupted]⟩
    · subst hcalls hc
      exact ⟨first, _, rfl, by simp [call, answered]⟩

end Closing

end FlowRunner.Pool
