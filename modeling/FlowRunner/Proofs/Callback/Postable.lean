import FlowRunner.Callback.Message
import FlowRunner.Proofs.Text.Unwritable
import FlowRunner.Proofs.Value.Shape
import FlowRunner.Run.Result
import FlowRunner.Worker.Service

/-!
This module contains which messages can be posted (`exists_failed_iff`): those that lead somewhere,
whose head is in ASCII, and that hold no number which is not finite.
-/

namespace FlowRunner

/-! ### Finite values -/

def Key.IsFinite : Key → Prop
  | .float x => x.isFinite = true
  | _ => True

@[simp]
theorem Key.isFinite_str (s : String) : (Key.str s).IsFinite := trivial

inductive Value.Finite : Value → Prop where
  | null : Finite .null
  | bool (b : Bool) : Finite (.bool b)
  | int (i : Int) : Finite (.int i)
  | float {x : Binary64} (finite : x.isFinite = true) : Finite (.float x)
  | str (s : String) : Finite (.str s)
  | list {items : List Value} (each : ∀ item ∈ items, Finite item) : Finite (.list items)
  | dict {entries : Entries} (keys : ∀ e ∈ entries, e.1.IsFinite)
      (values : ∀ e ∈ entries, Finite e.2) : Finite (.dict entries)

@[simp]
theorem Value.finite_null : Value.null.Finite := .null

@[simp]
theorem Value.finite_str (s : String) : (Value.str s).Finite := .str s

@[simp]
theorem Value.finite_list_iff {items : List Value} :
    (Value.list items).Finite ↔ ∀ item ∈ items, item.Finite :=
  ⟨fun | .list each => each, .list⟩

@[simp]
theorem Value.finite_dict_iff {entries : Entries} :
    (Value.dict entries).Finite ↔ ∀ e ∈ entries, e.1.IsFinite ∧ e.2.Finite :=
  ⟨fun | .dict keys values => fun e mem => ⟨keys e mem, values e mem⟩,
    fun h => .dict (fun e mem => (h e mem).1) fun e mem => (h e mem).2⟩

namespace Callback

theorem isSome_sentKey?_iff (key : Key) : (sentKey? key).isSome = true ↔ key.IsFinite := by
  cases key with
  | float x => simp [sentKey?, Key.IsFinite]
  | _ => simp [sentKey?, Key.IsFinite]

theorem isSome_sentItems?_iff (items : List Value) :
    (sentItems? items).isSome = true ↔ ∀ item ∈ items, (sent? item).isSome = true := by
  induction items with
  | nil => simp [sentItems?]
  | cons item rest ih =>
    rw [List.forall_mem_cons, ← ih, sentItems?]
    cases sent? item <;> cases sentItems? rest <;> simp

theorem isSome_sentEntries?_iff (entries : Entries) :
    (sentEntries? entries).isSome = true ↔
      ∀ e ∈ entries, (sentKey? e.1).isSome = true ∧ (sent? e.2).isSome = true := by
  induction entries with
  | nil => simp [sentEntries?]
  | cons e rest ih =>
    obtain ⟨key, v⟩ := e
    rw [List.forall_mem_cons, ← ih, sentEntries?]
    cases sentKey? key <;> cases sent? v <;> cases sentEntries? rest <;> simp

theorem isSome_sent?_iff (v : Value) : (sent? v).isSome = true ↔ v.Finite := by
  induction v using Value.induction with
  | step v ih =>
    cases v with
    | null => exact ⟨fun _ => .null, fun _ => rfl⟩
    | bool b => exact ⟨fun _ => .bool b, fun _ => rfl⟩
    | int i => exact ⟨fun _ => .int i, fun _ => rfl⟩
    | str s => exact ⟨fun _ => .str s, fun _ => rfl⟩
    | float x =>
      constructor
      · intro h
        exact .float (by simpa [sent?] using h)
      · rintro (finite)
        cases finite with
        | float finite => simpa [sent?] using finite
    | list items =>
      rw [sent?, Option.isSome_map, isSome_sentItems?_iff, Value.finite_list_iff]
      exact forall₂_congr ih
    | dict entries =>
      rw [sent?, Option.isSome_map, isSome_sentEntries?_iff, Value.finite_dict_iff]
      refine forall₂_congr fun e mem => and_congr (isSome_sentKey?_iff e.1) ?_
      exact ih e.2 (List.mem_map_of_mem mem)

end Callback

/-! ### Heads -/

namespace Callback

variable {secret : Option String} {url : String} {body : Value} {status : Option Int}

theorem checkHead_eq_ok_iff (s : String) :
    checkHead s = .ok () ↔ ∀ c ∈ s.toList, Text.Ascii.isAscii c = true := by
  rw [← Text.Ascii.error?_eq_none_iff]
  unfold checkHead
  cases Text.Ascii.error? s <;> simp

theorem ascii_bearer_iff (s : String) :
    (∀ c ∈ ("Bearer " ++ s).toList, Text.Ascii.isAscii c = true) ↔
      ∀ c ∈ s.toList, Text.Ascii.isAscii c = true := by
  have own : ∀ c ∈ "Bearer ".toList, Text.Ascii.isAscii c = true :=
    (Text.Ascii.error?_eq_none_iff "Bearer ").mp (by cbv)
  rw [String.toList_append, List.forall_mem_append]
  exact and_iff_right own

theorem checkHeads_eq_ok_iff :
    ((headers secret).forM fun (_, s) => checkHead s) = .ok () ↔
      ∀ s, secret = some s → ∀ c ∈ s.toList, Text.Ascii.isAscii c = true := by
  have fixed : checkHead contentType = .ok () := by cbv
  rw [forM_eq_ok_iff, headers, List.forall_mem_cons, and_iff_right fixed]
  cases secret with
  | none => simp [authorization?]
  | some s =>
    by_cases empty : s = ""
    · simp [authorization?, empty]
    · have given : authorization? (some s) = some ("Bearer " ++ s) := by
        simp [authorization?, empty]
      rw [given]
      simp only [Option.map_some, Option.toList_some, List.forall_mem_singleton, Option.some.injEq,
        forall_eq', checkHead_eq_ok_iff]
      exact ascii_bearer_iff s

/-! ### Messages -/

def deliver (secret : Option String) (url : String) (body : Value) (status : Option Int) :
    Receipt :=
  match post? secret url body with
  | .ok p => receipt p status
  | .error f => .failed f

structure Postable (secret : Option String) (url : String) (body : Value) (status : Option Int) :
    Prop where
  target : ∃ u, target url = .ok u ∧ (status.isSome = true → u.scheme ≠ "")
  secret : ∀ s, secret = some s → ∀ c ∈ s.toList, Text.Ascii.isAscii c = true
  body : body.Finite

theorem exists_failed_receipt_iff {p : Post} {entries : Entries} (dict : p.body = .dict entries) :
    (∃ f, receipt p status = .failed f) ↔ status.isSome = true ∧ p.url.scheme = "" := by
  have lost : lostReceipt p.body = .lost := by
    rw [dict]
    rfl
  unfold receipt
  rw [lost]
  cases status with
  | none => simp
  | some status =>
    by_cases schemeless : p.url.scheme = ""
    · simp [schemeless]
    · cases accepted : isAccepted status <;> simp [schemeless, accepted]

theorem sent?_dict {entries : Entries} {v : Value} (sent : sent? (.dict entries) = some v) :
    ∃ entries', v = .dict entries' := by
  rw [sent?, Option.map_eq_some_iff] at sent
  obtain ⟨pairs, -, rfl⟩ := sent
  exact ⟨_, rfl⟩

theorem post?_eq (secret : Option String) (url : String) (body : Value) :
    post? secret url body =
      match Callback.target url, (headers secret).forM fun (_, s) => checkHead s, sent? body with
      | .error e, _, _ => .error (.url e)
      | .ok _, .error f, _ => .error f
      | .ok _, .ok _, none => .error .notFinite
      | .ok u, .ok _, some body => .ok
        { url := u, body, authorization := (userAuthorization? u).or (authorization? secret) } := by
  unfold post?
  cases Callback.target url with
  | error e => rfl
  | ok u =>
    dsimp only [mapError_ok, bind, Except.bind]
    split
    · next heads => rw [heads]
    · next heads =>
      rw [heads]
      cases sent? body <;> rfl

theorem exists_failed_iff {entries : Entries} :
    (∃ f, deliver secret url (.dict entries) status = .failed f) ↔
      ¬Postable secret url (.dict entries) status := by
  have postable : Postable secret url (.dict entries) status ↔
      (∃ u, Callback.target url = .ok u ∧ (status.isSome = true → u.scheme ≠ "")) ∧
        ((headers secret).forM fun (_, s) => checkHead s) = .ok () ∧
          (sent? (.dict entries)).isSome = true := by
    rw [checkHeads_eq_ok_iff, isSome_sent?_iff]
    exact ⟨fun ⟨target, secret, body⟩ => ⟨target, secret, body⟩,
      fun ⟨target, secret, body⟩ => ⟨target, secret, body⟩⟩
  rw [postable]
  unfold deliver
  rw [post?_eq]
  cases htarget : Callback.target url with
  | error e => simp
  | ok u =>
    cases hheads : (headers secret).forM fun (_, s) => checkHead s with
    | error f => simp
    | ok _ =>
      cases hsent : sent? (.dict entries) with
      | none => simp
      | some v =>
        obtain ⟨entries', hv⟩ := sent?_dict hsent
        dsimp only
        rw [exists_failed_receipt_iff hv]
        simp

end Callback

end FlowRunner
