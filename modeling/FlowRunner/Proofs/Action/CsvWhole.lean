import FlowRunner.Proofs.Action.CsvFile
import FlowRunner.Proofs.Action.Refusal
import FlowRunner.Proofs.Csv.Lines

/-!
This module contains the proof that a file of records is written as a whole or not at all
(`csvWrite_whole`): what is no table is refused before the file is touched, and a file that was
written has a line for the heads, if there are any, and one for each element of the data.
-/

namespace FlowRunner

variable {data : List Value} {headers : Value} {config : Entries} {records : List (List String)}

/-! ### The records of some data -/

namespace Action

def HasField (row head : Value) (field : String) : Prop :=
  ∃ entries key, row = .dict entries ∧ head.toKey = .ok key ∧
    field = fieldText (Entries.get entries key)

inductive Heads (first : Entries) (headers : Value) : List Value → Prop where
  | given {heads : List Value} (headed : headers.truthy = true)
      (items : headers.items = .ok heads) : Heads first headers heads
  | keys (unheaded : headers.truthy = false) :
      Heads first headers ((Entries.keys first).map Key.toValue)

/-- Some data makes the given records: one for each element, after one for the heads. -/
inductive Tabulates (headers : Value) : List Value → List (List String) → Prop where
  | named {first : Entries} {rest heads : List Value} {rows : List (List String)}
      (hheads : Heads first headers heads)
      (fields : List.Forall₂ (fun row fields => List.Forall₂ (HasField row) heads fields)
        (.dict first :: rest) rows) :
      Tabulates headers (.dict first :: rest) (heads.map fieldText :: rows)
  | headed {data heads : List Value} (unnamed : hasNamedColumns data = false)
      (headed : headers.truthy = true) (items : headers.items = .ok heads) :
      Tabulates headers data
        (heads.map fieldText :: data.map fun row => (rowItems row).map fieldText)
  | plain {data : List Value} (unnamed : hasNamedColumns data = false)
      (unheaded : headers.truthy = false) :
      Tabulates headers data (data.map fun row => (rowItems row).map fieldText)

theorem rowValue_iff {row head : Value} {field : String} :
    (∃ v, rowValue row head = .ok v ∧ field = fieldText v) ↔ HasField row head field := by
  constructor
  · rintro ⟨v, h, rfl⟩
    unfold rowValue shaped at h
    split at h
    · next entries =>
      cases key : head.toKey with
      | error e => simp [key, mapError_error, Except.map] at h
      | ok key =>
        simp only [key, mapError_ok, Except.map, Except.ok.injEq] at h
        exact ⟨entries, _, rfl, key, h ▸ rfl⟩
    · cases h
  · rintro ⟨entries, key, rfl, hkey, rfl⟩
    exact ⟨_, by simp [rowValue, shaped, hkey, mapError_ok, Except.map], rfl⟩

theorem rows_iff {heads : List Value} {rows : List (List String)} :
    (∃ values, (data.mapM fun row => heads.mapM (rowValue row)) = .ok values ∧
        rows = values.map fun fields => fields.map fieldText) ↔
      List.Forall₂ (fun row fields => List.Forall₂ (HasField row) heads fields) data rows := by
  simp only [exists_mapM_eq_ok_and_map_iff, rowValue_iff]

theorem shaped_items_iff {heads : List Value} :
    shaped headers.items = .ok heads ↔ headers.items = .ok heads := by
  unfold shaped
  cases headers.items <;> simp [mapError_error, mapError_ok]

theorem heads_iff {first : Entries} {heads : List Value} :
    (if headers.truthy then shaped headers.items else .ok ((Entries.keys first).map Key.toValue)) =
      .ok heads ↔ Heads first headers heads := by
  constructor
  · intro h
    split at h
    · next headed => exact .given headed (shaped_items_iff.mp h)
    · next unheaded =>
      cases h
      exact .keys (by simpa using unheaded)
  · rintro (⟨headed, items⟩ | unheaded)
    · rwa [if_pos headed, shaped_items_iff]
    · simp [unheaded]

theorem csvRecords_named_iff {first : Entries} {rest : List Value} {values : List (List Value)} :
    csvRecords (.dict first :: rest) headers = .ok values ↔
      ∃ heads rows, Heads first headers heads ∧
        ((Value.dict first :: rest).mapM fun row => heads.mapM (rowValue row)) = .ok rows ∧
          heads :: rows = values := by
  have parts : csvRecords (.dict first :: rest) headers =
      (if headers.truthy then shaped headers.items
        else .ok ((Entries.keys first).map Key.toValue)) >>= fun heads =>
          ((Value.dict first :: rest).mapM fun row => heads.mapM (rowValue row)) >>= fun rows =>
            .ok (heads :: rows) := by
    unfold csvRecords
    dsimp only
    split <;> rfl
  simp only [parts, bind_eq_ok_iff, heads_iff, Except.ok.injEq, exists_and_left]

theorem csvRecords_of_unnamed (unnamed : hasNamedColumns data = false) :
    csvRecords data headers =
      if headers.truthy then (shaped headers.items).map (· :: data.map rowItems)
      else .ok (data.map rowItems) := by
  unfold csvRecords
  split
  · cases unnamed
  · split
    · cases shaped headers.items <;> rfl
    · rfl

theorem Tabulates.csvRecords (tabulates : Tabulates headers data records) :
    ∃ values, csvRecords data headers = .ok values ∧
      records = values.map fun fields => fields.map fieldText := by
  cases tabulates with
  | named hheads fields =>
    obtain ⟨rows, hrows, rfl⟩ := rows_iff.mpr fields
    exact ⟨_, csvRecords_named_iff.mpr ⟨_, rows, hheads, hrows, rfl⟩, rfl⟩
  | @headed _ heads unnamed headed items =>
    refine ⟨heads :: data.map rowItems, ?_, by rw [List.map_cons, List.map_map]; rfl⟩
    rw [csvRecords_of_unnamed unnamed, if_pos headed, shaped_items_iff.mpr items]
    rfl
  | plain unnamed unheaded =>
    refine ⟨data.map rowItems, ?_, by rw [List.map_map]; rfl⟩
    rw [csvRecords_of_unnamed unnamed]
    simp [unheaded]

theorem tabulates_of_csvRecords {values : List (List Value)}
    (recorded : csvRecords data headers = .ok values) :
    Tabulates headers data (values.map fun fields => fields.map fieldText) := by
  cases named : hasNamedColumns data with
  | true =>
    unfold hasNamedColumns at named
    split at named
    · obtain ⟨heads, rows, hheads, hrows, rfl⟩ := csvRecords_named_iff.mp recorded
      exact .named hheads (rows_iff.mp ⟨rows, hrows, rfl⟩)
    · cases named
  | false =>
    rw [csvRecords_of_unnamed named] at recorded
    split at recorded
    · next headed =>
      cases items : headers.items with
      | error e => simp [items, shaped, mapError_error, Except.map] at recorded
      | ok heads =>
        rw [shaped_items_iff.mpr items] at recorded
        cases recorded
        rw [List.map_cons, List.map_map]
        exact .headed named headed items
    · next unheaded =>
      cases recorded
      rw [List.map_map]
      exact .plain named (by simpa using unheaded)

theorem Tabulates.length (tabulates : Tabulates headers data records) :
    records.length =
      data.length + if hasNamedColumns data || headers.truthy then 1 else 0 := by
  cases tabulates with
  | named _ fields =>
    rw [List.length_cons, ← fields.length_eq]
    rfl
  | headed _ headed => simp [headed]
  | plain unnamed unheaded => simp [unnamed, unheaded]

/-! ### Writing -/

open Rehearsal Standard

structure Prepared (config : Entries) (data : List Value) (records : List (List String)) :
    Prop where
  given : ¬Lacks config "filePath"
  listed : Entries.get config "data" = .list data
  tabulates : Tabulates (Entries.get config "headers") data records

theorem Prepared.unique {others : List Value} {different : List (List String)}
    (prepared : Prepared config data records) (again : Prepared config others different) :
    records = different := by
  obtain ⟨values, recorded, rfl⟩ := prepared.tabulates.csvRecords
  obtain ⟨found, recordedAgain, rfl⟩ := again.tabulates.csvRecords
  have same : Value.list others = .list data := again.listed.symm.trans prepared.listed
  rw [Value.list.inj same, recorded] at recordedAgain
  rw [Except.ok.inj recordedAgain]

structure Wrote (s s' : Stage) (path : String) (records : List (List String)) : Prop where
  read : s'.disk.read path = .ok (.text (Csv.write records))
  page : s'.page = s.page
  folders : s'.disk.folders = s.disk.folders
  others : ∃ place, s.disk.Writable path place ∧
    ∀ other, other ≠ place → s'.disk.content? other = s.disk.content? other

def withRecords (s : Stage) (place : Place) (records : List (List String)) : Stage :=
  { s with disk := s.disk.withFile place (.text (Csv.write records)) }

theorem wrote_withRecords {s : Stage} {path : String} {place : Place}
    (writable : s.disk.Writable path place) (records : List (List String)) :
    Wrote s (withRecords s place records) path records where
  read := Disk.read_withFile writable _
  page := rfl
  folders := rfl
  others := ⟨place, writable, fun _ ne => Disk.content?_withFile_of_ne ne⟩

theorem play_of_given (s : Stage) (given : ¬Lacks config "filePath") :
    s.play (Standard.csvWrite.perform config) = s.play (Action.csvWrite config) :=
  play_perform s rfl (by simpa [← isMissing_iff_lacks] using given)

theorem play_of_prepared {s : Stage} {place : Place} (prepared : Prepared config data records)
    (writable : s.disk.Writable (filePath config) place) :
    s.play (Standard.csvWrite.perform config) =
      (.ok { output := .record [("written", .int (Int.ofNat records.length))] },
        withRecords s place records) := by
  obtain ⟨given, listed, tabulates⟩ := prepared
  obtain ⟨values, recorded, rfl⟩ := tabulates.csvRecords
  rw [play_of_given s given, List.length_map]
  exact play_csvWrite listed recorded writable

theorem play_of_lacks (s : Stage) (lacks : Lacks config "filePath") :
    ∃ fault, s.play (Standard.csvWrite.perform config) = (.error fault, s) := by
  have required : Standard.csvWrite.requiredKeys = [] ++ ["filePath"] := rfl
  have refused := perform_of_lacks required (List.forall_mem_nil _) lacks
  unfold Stage.play
  rw [refused]
  exact ⟨_, rfl⟩

theorem play_perform_csvWrite (s : Stage) (config : Entries) :
    (∃ fault, s.play (Standard.csvWrite.perform config) = (.error fault, s)) ∨
      (∃ data records, Prepared config data records) ∧
        ∃ place, s.disk.Writable (filePath config) place := by
  by_cases lacks : Lacks config "filePath"
  · exact .inl (play_of_lacks s lacks)
  rw [play_of_given s lacks]
  by_cases writable : ∃ place, s.disk.Writable (filePath config) place
  · cases listed : dataOf "csvWrite" config with
    | error fault => exact .inl ⟨fault, Stage.play_ofExcept_bind_of_error listed _⟩
    | ok data =>
      cases recorded : csvRecords data (Entries.get config "headers") with
      | error fault =>
        unfold Action.csvWrite
        rw [Stage.play_ofExcept_bind listed]
        exact .inl ⟨fault, Stage.play_ofExcept_bind_of_error recorded _⟩
      | ok values =>
        have prepared : Prepared config data _ :=
          ⟨lacks, dataOf_eq_ok_iff.mp listed, tabulates_of_csvRecords recorded⟩
        exact .inr ⟨⟨data, _, prepared⟩, writable⟩
  · exact .inl (play_csvWrite_of_not_writable writable)

theorem csvWrite_whole (s : Stage) (config : Entries) :
    (∀ (fault : Fault) (s' : Stage),
      s.play (Standard.csvWrite.perform config) = (.error fault, s') → s' = s) ∧
    (∀ (outcome : Outcome) (s' : Stage),
      s.play (Standard.csvWrite.perform config) = (.ok outcome, s') →
      ∃ (data : List Value) (records : List (List String)), Prepared config data records ∧
        outcome = { output := .record [("written", .int (Int.ofNat records.length))] } ∧
        Wrote s s' (filePath config) records ∧
        Csv.lines false (Csv.write records).toList =
          (records.map fun fields => Csv.writeRecord (fields.map String.toList)) ∧
        records.length = data.length +
          if hasNamedColumns data || (Entries.get config "headers").truthy then 1 else 0) ∧
    ((∃ outcome s', s.play (Standard.csvWrite.perform config) = (.ok outcome, s')) ↔
      (∃ data records, Prepared config data records) ∧
        ∃ place, s.disk.Writable (filePath config) place) := by
  rcases play_perform_csvWrite s config with ⟨fault, failed⟩ | ready
  · rw [failed]
    refine ⟨?_, nofun, nofun, ?_⟩
    · intro _ s' h
      exact (congrArg Prod.snd h).symm
    · rintro ⟨⟨data, records, prepared⟩, place, writable⟩
      rw [play_of_prepared prepared writable] at failed
      cases failed
  · obtain ⟨⟨data, records, prepared⟩, place, writable⟩ := ready
    rw [play_of_prepared prepared writable]
    refine ⟨nofun, ?_, fun _ => ⟨⟨data, records, prepared⟩, place, writable⟩, fun _ => ⟨_, _, rfl⟩⟩
    intro outcome s' h
    cases h
    exact ⟨data, records, prepared, rfl, wrote_withRecords writable records,
      Csv.lines_write records, prepared.tabulates.length⟩

theorem csvWrite_whole_of_two_rows :
    let kept : Stage := { page := default, disk := { files := [(["t"], .text "old")] } }
    let config (last : Value) : Entries :=
      [("filePath", .str "t"), ("data", .list [.dict [("a", .int 1), ("b", .str "x")], last])]
    let played (s : Stage) (last : Value) := s.play (Standard.csvWrite.perform (config last))
    (∃ fault, played kept (.int 2) = (.error fault, kept)) ∧
    ∃ s', played default (.dict [("a", .int 2)]) =
        (.ok { output := .record [("written", .int 3)] }, s') ∧
      s'.disk.read "t" = .ok (.text "a,b\n1,x\n2,\n") := by
  intro kept config played
  constructor
  · have failed : (played kept (.int 2)).1 = .error (.shape (.noEntries "int")) := rfl
    have same := (csvWrite_whole kept (config (.int 2))).1 _ _ (Prod.ext failed rfl)
    exact ⟨_, Prod.ext failed same⟩
  · have recorded :
        csvRecords [.dict [("a", .int 1), ("b", .str "x")], .dict [("a", .int 2)]] .null =
        .ok [[.str "a", .str "b"], [.int 1, .str "x"], [.int 2, .null]] := rfl
    have prepared :
        Prepared (config (.dict [("a", .int 2)])) _ [["a", "b"], ["1", "x"], ["2", ""]] :=
      ⟨by rw [← isMissing_iff_lacks]; decide, rfl, tabulates_of_csvRecords recorded⟩
    obtain ⟨-, returned, returns⟩ := csvWrite_whole default (config (.dict [("a", .int 2)]))
    obtain ⟨outcome, s', done⟩ := returns.mpr ⟨⟨_, _, prepared⟩, _, writable_default⟩
    obtain ⟨_, records, again, rfl, wrote, -⟩ := returned outcome s' done
    rw [← prepared.unique again] at done wrote
    exact ⟨s', done, wrote.read⟩

end Action

end FlowRunner
