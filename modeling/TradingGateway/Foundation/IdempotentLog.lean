import TradingGateway.Foundation.ExceptRun

/-! Replay of a log whose records may be delivered more than once. A record is
known by its key; a second record under a known key is skipped when it carries
the same code and is a conflict otherwise. -/

set_option autoImplicit false

namespace TradingGateway.Foundation.IdempotentLog

open ExceptRun

/-- What a replay loop does with each record: how it names it, what it compares
on a second delivery, and how a record under a fresh key changes the state. -/
structure Log (Record Key Code State Error : Type) [Ord Key] where
  key : Record → Key
  code : Record → Code
  conflict : Error
  consume : Std.ExtTreeMap Key Code → State → Record → Except Error State

/-- The codes seen so far, by key, beside the replayed state. -/
structure Cursor (Key Code State : Type) [Ord Key] where
  seen : Std.ExtTreeMap Key Code
  state : State

section Copies

variable {Record Key Code State Error : Type} [Ord Key] [DecidableEq Key] [DecidableEq Code]
variable (log : Log Record Key Code State Error)

/-- One record is an exact copy of another when neither its key nor its code tells them apart. -/
def Log.SameEntry (left right : Record) : Prop :=
  log.key left = log.key right ∧ log.code left = log.code right

instance (left right : Record) : Decidable (log.SameEntry left right) :=
  inferInstanceAs (Decidable (_ ∧ _))

def Log.distinct (records : List Record) : List Record :=
  records.foldl (fun kept record =>
    if ∃ previous ∈ kept, log.SameEntry previous record then kept else kept ++ [record]) []

@[simp] theorem Log.distinct_nil : log.distinct [] = [] := rfl

theorem Log.distinct_append_singleton (records : List Record) (record : Record) :
    log.distinct (records ++ [record]) =
      if ∃ previous ∈ log.distinct records, log.SameEntry previous record then log.distinct records
      else log.distinct records ++ [record] := by
  unfold Log.distinct
  rw [List.foldl_append]
  rfl

theorem Log.distinct_append_copy {records : List Record} {record : Record}
    (copy : ∃ previous ∈ log.distinct records, log.SameEntry previous record) :
    log.distinct (records ++ [record]) = log.distinct records := by
  rw [log.distinct_append_singleton, if_pos copy]

theorem Log.distinct_append_new {records : List Record} {record : Record}
    (new : ¬ ∃ previous ∈ log.distinct records, log.SameEntry previous record) :
    log.distinct (records ++ [record]) = log.distinct records ++ [record] := by
  rw [log.distinct_append_singleton, if_neg new]

theorem Log.mem_of_mem_distinct {records : List Record} {record : Record}
    (member : record ∈ log.distinct records) : record ∈ records := by
  induction records using List.reverseRecOn with
  | nil => simp at member
  | append_singleton records last ih =>
      rw [log.distinct_append_singleton] at member
      split at member
      · exact List.mem_append_left _ (ih member)
      · rcases List.mem_append.1 member with earlier | added
        · exact List.mem_append_left _ (ih earlier)
        · exact List.mem_append_right _ added

theorem Log.distinct_covers {records : List Record} {record : Record} (member : record ∈ records) :
    ∃ first ∈ log.distinct records, log.SameEntry first record := by
  induction records using List.reverseRecOn with
  | nil => simp at member
  | append_singleton records last ih =>
      rw [log.distinct_append_singleton]
      rcases List.mem_append.1 member with earlier | added
      · obtain ⟨first, kept, same⟩ := ih earlier
        split
        · exact ⟨first, kept, same⟩
        · exact ⟨first, List.mem_append_left _ kept, same⟩
      · have isLast : record = last := by simpa using added
        subst isLast
        split
        · assumption
        · exact ⟨record, by simp, rfl, rfl⟩

theorem Log.distinct_nodup (records : List Record) : (log.distinct records).Nodup := by
  induction records using List.reverseRecOn with
  | nil => exact List.nodup_nil
  | append_singleton records last ih =>
      rw [log.distinct_append_singleton]
      split
      next => exact ih
      next new =>
        refine List.nodup_append.2 ⟨ih, by simp, ?_⟩
        intro previous kept other isLast same
        have copied : previous = last := same.trans (List.mem_singleton.1 isLast)
        subst copied
        exact new ⟨previous, kept, rfl, rfl⟩

/-- Records under keys of their own are all first deliveries. -/
theorem Log.distinct_eq_self {records : List Record} (distinctKeys : (records.map log.key).Nodup) :
    log.distinct records = records := by
  induction records using List.reverseRecOn with
  | nil => rfl
  | append_singleton records last ih =>
      rw [List.map_append, List.nodup_append] at distinctKeys
      obtain ⟨earlierKeys, _, apart⟩ := distinctKeys
      have kept := ih earlierKeys
      have new : ¬ ∃ previous ∈ log.distinct records, log.SameEntry previous last := by
        rw [kept]
        intro copied
        obtain ⟨previous, member, same⟩ := copied
        exact apart _ (List.mem_map_of_mem member) _ (by simp) same.1
      rw [log.distinct_append_new new, kept]

/-- Selecting records by a property that copies share commutes with dropping the copies. -/
theorem Log.distinct_filter (selects : Record → Bool) (records : List Record)
    (respects : ∀ left ∈ records, ∀ right ∈ records,
      log.SameEntry left right → selects left = selects right) :
    log.distinct (records.filter selects) = (log.distinct records).filter selects := by
  induction records using List.reverseRecOn with
  | nil => rfl
  | append_singleton records last ih =>
      have earlier := ih fun left leftMember right rightMember =>
        respects left (List.mem_append_left _ leftMember) right (List.mem_append_left _ rightMember)
      have respected : ∀ previous ∈ log.distinct records, log.SameEntry previous last →
          selects previous = selects last := fun previous kept same =>
        respects previous (List.mem_append_left _ (log.mem_of_mem_distinct kept)) last (by simp) same
      rw [log.distinct_append_singleton, List.filter_append]
      cases chosen : selects last with
      | false =>
          simp only [chosen, List.filter_cons_of_neg, Bool.false_eq_true, not_false_eq_true,
            List.filter_nil, List.append_nil, earlier]
          split
          · rfl
          · simp [chosen]
      | true =>
          have sameCopies : (∃ previous ∈ (log.distinct records).filter selects,
              log.SameEntry previous last) ↔
                ∃ previous ∈ log.distinct records, log.SameEntry previous last := by
            constructor
            · rintro ⟨previous, member, same⟩
              exact ⟨previous, (List.mem_filter.1 member).1, same⟩
            · rintro ⟨previous, kept, same⟩
              exact ⟨previous, List.mem_filter.2 ⟨kept, (respected previous kept same).trans chosen⟩, same⟩
          simp only [chosen, List.filter_cons_of_pos, List.filter_nil,
            log.distinct_append_singleton, earlier, sameCopies]
          split
          · rfl
          · simp [chosen]

end Copies

section Tracking

variable {Record Key Code State Error : Type} [Ord Key] [Std.TransOrd Key]
variable (log : Log Record Key Code State Error)

/-- `seen` holds exactly the keys and codes of the records in `history`. -/
def Log.Tracks (history : List Record) (seen : Std.ExtTreeMap Key Code) : Prop :=
  ∀ key code, seen[key]? = some code ↔ ∃ record ∈ history, log.key record = key ∧ log.code record = code

theorem Log.tracks_empty : log.Tracks [] (∅ : Std.ExtTreeMap Key Code) := by
  intro key code
  simp

theorem Log.Tracks.fresh {log : Log Record Key Code State Error} {history : List Record}
    {seen : Std.ExtTreeMap Key Code} (tracks : log.Tracks history seen) {key : Key} :
    seen[key]? = none ↔ ∀ record ∈ history, log.key record ≠ key := by
  rw [Option.eq_none_iff_forall_ne_some]
  constructor
  · intro absent record member same
    exact absent _ ((tracks key _).2 ⟨record, member, same, rfl⟩)
  · intro absent code present
    obtain ⟨record, member, same, _⟩ := (tracks key code).1 present
    exact absent record member same

theorem Log.Tracks.known {log : Log Record Key Code State Error} {history : List Record}
    {seen : Std.ExtTreeMap Key Code} (tracks : log.Tracks history seen) {record : Record} :
    seen[log.key record]? = some (log.code record) ↔
      ∃ previous ∈ history, log.SameEntry previous record :=
  tracks _ _

theorem Log.Tracks.new {log : Log Record Key Code State Error} {history : List Record}
    {seen : Std.ExtTreeMap Key Code} (tracks : log.Tracks history seen) {record : Record}
    (fresh : seen[log.key record]? = none) : ¬ ∃ previous ∈ history, log.SameEntry previous record := by
  rintro ⟨previous, member, same⟩
  exact tracks.fresh.1 fresh previous member same.1

theorem Log.Tracks.contains {log : Log Record Key Code State Error} {history : List Record}
    {seen : Std.ExtTreeMap Key Code} (tracks : log.Tracks history seen) {key : Key} :
    key ∈ seen ↔ ∃ record ∈ history, log.key record = key := by
  rw [← Std.ExtTreeMap.isSome_getElem?_iff_mem, Option.isSome_iff_ne_none, ne_eq, tracks.fresh]
  simp

end Tracking

section Replay

variable {Record Key Code State Error : Type} [Ord Key] [Std.TransOrd Key] [DecidableEq Code]
variable (log : Log Record Key Code State Error)

def Log.step (cursor : Cursor Key Code State) (record : Record) :
    Except Error (Cursor Key Code State) :=
  match cursor.seen[log.key record]? with
  | some previous => if previous = log.code record then .ok cursor else .error log.conflict
  | none => do
      let state ← log.consume cursor.seen cursor.state record
      .ok { seen := cursor.seen.insert (log.key record) (log.code record), state := state }

def Log.run (start : State) (records : List Record) : Except Error (Cursor Key Code State) :=
  records.foldlM log.step { seen := ∅, state := start }

theorem Log.step_known {cursor : Cursor Key Code State} {record : Record}
    (known : cursor.seen[log.key record]? = some (log.code record)) :
    log.step cursor record = .ok cursor := by
  simp [Log.step, known]

theorem Log.step_fresh {cursor : Cursor Key Code State} {record : Record}
    (fresh : cursor.seen[log.key record]? = none) :
    log.step cursor record = (log.consume cursor.seen cursor.state record >>= fun state =>
      .ok { seen := cursor.seen.insert (log.key record) (log.code record), state := state }) := by
  simp [Log.step, fresh]

/-- A step either skips an exact copy or admits a record under a fresh key. -/
theorem Log.step_ok_cases {cursor updated : Cursor Key Code State} {record : Record}
    (success : log.step cursor record = .ok updated) :
    (cursor.seen[log.key record]? = some (log.code record) ∧ updated = cursor) ∨
      (cursor.seen[log.key record]? = none ∧
        log.consume cursor.seen cursor.state record = .ok updated.state ∧
          updated.seen = cursor.seen.insert (log.key record) (log.code record)) := by
  cases found : cursor.seen[log.key record]? with
  | some previous =>
      by_cases same : previous = log.code record
      · have kept : cursor = updated := by simpa [Log.step, found, same] using success
        exact .inl ⟨by rw [same], kept.symm⟩
      · simp [Log.step, found, same] at success
  | none =>
      rw [log.step_fresh found] at success
      obtain ⟨state, admitted, shape⟩ := bind_ok_iff.1 success
      cases shape
      exact .inr ⟨rfl, admitted, rfl⟩

/-- No successful step forgets a code it has seen. -/
theorem Log.step_keeps_seen [Std.LawfulEqOrd Key] {cursor updated : Cursor Key Code State}
    {record : Record} (success : log.step cursor record = .ok updated) {key : Key} {code : Code}
    (known : cursor.seen[key]? = some code) : updated.seen[key]? = some code := by
  rcases log.step_ok_cases success with ⟨_, rfl⟩ | ⟨fresh, _, seen⟩
  · exact known
  · have differs : log.key record ≠ key := by
      rintro rfl
      simp [fresh] at known
    simp [seen, Std.ExtTreeMap.getElem?_insert, differs, known]

theorem Log.step_sees [Std.LawfulEqOrd Key] {cursor updated : Cursor Key Code State}
    {record : Record} (success : log.step cursor record = .ok updated) :
    updated.seen[log.key record]? = some (log.code record) := by
  rcases log.step_ok_cases success with ⟨known, rfl⟩ | ⟨_, _, seen⟩
  · exact known
  · simp [seen]

/-- Each step leaves the seen codes tracking the distinct records consumed. -/
theorem Log.step_tracks [DecidableEq Key] [Std.LawfulEqOrd Key] {cursor updated : Cursor Key Code State}
    {history : List Record} {record : Record} (tracks : log.Tracks (log.distinct history) cursor.seen)
    (success : log.step cursor record = .ok updated) :
    log.Tracks (log.distinct (history ++ [record])) updated.seen := by
  rcases log.step_ok_cases success with ⟨known, rfl⟩ | ⟨fresh, _, seen⟩
  · rw [log.distinct_append_copy (tracks.known.1 known)]
    exact tracks
  · rw [log.distinct_append_new (tracks.new fresh)]
    intro key code
    rw [seen, Std.ExtTreeMap.getElem?_insert]
    by_cases isNew : log.key record = key
    · subst isNew
      have none : ¬ ∃ previous ∈ log.distinct history,
          log.key previous = log.key record ∧ log.code previous = code := by
        rintro ⟨previous, kept, same, _⟩
        exact tracks.fresh.1 fresh previous kept same
      simp [or_and_right, exists_or, none]
    · simp [isNew, tracks key code, or_and_right, exists_or]

theorem Log.run_append_ok_iff (start : State) (front back : List Record) (final : Cursor Key Code State) :
    log.run start (front ++ back) = .ok final ↔
      ∃ middle, log.run start front = .ok middle ∧ back.foldlM log.step middle = .ok final :=
  foldlM_append_ok_iff ..

theorem Log.run_append_singleton_iff (start : State) (records : List Record) (record : Record)
    (final : Cursor Key Code State) :
    log.run start (records ++ [record]) = .ok final ↔
      ∃ middle, log.run start records = .ok middle ∧ log.step middle record = .ok final := by
  simp [log.run_append_ok_iff]

/-- The history rule. The first deliveries of a successful run are admitted one
after another, each under a key no earlier one has; a property every such
admission keeps holds of the whole run, which is the run of the first deliveries. -/
theorem Log.run_induction [DecidableEq Key] [Std.LawfulEqOrd Key] (invariant : List Record → State → Prop)
    {start : State} (initial : invariant [] start)
    (next : ∀ (history : List Record) (cursor : Cursor Key Code State) (updated : State) (record : Record),
      log.run start history = .ok cursor → log.Tracks history cursor.seen →
        cursor.seen[log.key record]? = none → invariant history cursor.state →
          log.consume cursor.seen cursor.state record = .ok updated → invariant (history ++ [record]) updated)
    {records : List Record} {final : Cursor Key Code State}
    (success : log.run start records = .ok final) :
    log.run start (log.distinct records) = .ok final ∧ log.Tracks (log.distinct records) final.seen ∧
      invariant (log.distinct records) final.state := by
  refine foldlM_induction (fun consumed (cursor : Cursor Key Code State) =>
    log.run start (log.distinct consumed) = .ok cursor ∧ log.Tracks (log.distinct consumed) cursor.seen ∧
      invariant (log.distinct consumed) cursor.state) ?_ ?_ success
  · exact ⟨rfl, log.tracks_empty, initial⟩
  intro history cursor record updated reached stepped
  obtain ⟨ran, tracks, holds⟩ := reached
  have tracked := log.step_tracks tracks stepped
  rcases log.step_ok_cases stepped with ⟨known, rfl⟩ | ⟨fresh, admitted, _⟩
  · rw [log.distinct_append_copy (tracks.known.1 known)] at tracked ⊢
    exact ⟨ran, tracked, holds⟩
  · rw [log.distinct_append_new (tracks.new fresh)] at tracked ⊢
    exact ⟨(log.run_append_singleton_iff ..).2 ⟨cursor, ran, stepped⟩, tracked,
      next _ _ _ _ ran tracks fresh holds admitted⟩

theorem Log.run_tracks [DecidableEq Key] [Std.LawfulEqOrd Key] {start : State} {records : List Record}
    {final : Cursor Key Code State} (success : log.run start records = .ok final) :
    log.Tracks (log.distinct records) final.seen :=
  (log.run_induction (fun _ _ => True) trivial (fun _ _ _ _ _ _ _ _ _ => trivial) success).2.1

/-- `delivered` is `records` with exact copies of records delivered earlier put
in at any positions, after the deliveries `earlier`. -/
inductive Log.Redelivers : List Record → List Record → List Record → Prop
  | nil (earlier : List Record) : Redelivers earlier [] []
  | first {earlier records delivered : List Record} (record : Record)
      (rest : Redelivers (earlier ++ [record]) records delivered) :
      Redelivers earlier (record :: records) (record :: delivered)
  | again {earlier records delivered : List Record} (copy : Record)
      (known : ∃ previous ∈ earlier, log.SameEntry previous copy)
      (rest : Redelivers (earlier ++ [copy]) records delivered) :
      Redelivers earlier records (copy :: delivered)

/-- Redelivery is invisible: the run ends in the same cursor or with the same error. -/
theorem Log.run_redelivers [Std.LawfulEqOrd Key] {earlier records delivered : List Record}
    (redelivers : log.Redelivers earlier records delivered) {cursor : Cursor Key Code State}
    (seen : ∀ previous ∈ earlier, cursor.seen[log.key previous]? = some (log.code previous)) :
    delivered.foldlM log.step cursor = records.foldlM log.step cursor := by
  induction redelivers generalizing cursor with
  | nil => rfl
  | first record rest ih =>
      simp only [List.foldlM_cons]
      cases stepped : log.step cursor record with
      | error error => rfl
      | ok updated =>
          refine ih fun previous member => ?_
          rcases List.mem_append.1 member with before | isRecord
          · exact log.step_keeps_seen stepped (seen previous before)
          · have same : previous = record := by simpa using isRecord
            exact same ▸ log.step_sees stepped
  | again copy known rest ih =>
      obtain ⟨previous, member, sameKey, sameCode⟩ := known
      have skipped : cursor.seen[log.key copy]? = some (log.code copy) := by
        rw [← sameKey, ← sameCode]
        exact seen previous member
      simp only [List.foldlM_cons, log.step_known skipped, ok_bind]
      refine ih fun earlierRecord earlierMember => ?_
      rcases List.mem_append.1 earlierMember with before | isCopy
      · exact seen earlierRecord before
      · have same : earlierRecord = copy := by simpa using isCopy
        exact same ▸ skipped

end Replay

section Simulation

variable {Record Key Code State Error : Type} [Ord Key] [Std.TransOrd Key] [DecidableEq Code]
variable {OtherRecord OtherState OtherError : Type}
variable {log : Log Record Key Code State Error} {other : Log OtherRecord Key Code OtherState OtherError}

/-- Two logs that name their records alike follow each other as far as the way
they consume a fresh record does. -/
theorem Log.run_follows (wrap : Record → OtherRecord) (convert : Error → OtherError)
    (related : State → OtherState → Prop)
    (sameKey : ∀ record, other.key (wrap record) = log.key record)
    (sameCode : ∀ record, other.code (wrap record) = log.code record)
    (sameConflict : other.conflict = convert log.conflict)
    (consumes : ∀ seen state otherState record, related state otherState →
      Follows related convert (log.consume seen state record)
        (other.consume seen otherState (wrap record)))
    {start : State} {otherStart : OtherState} (started : related start otherStart) (records : List Record) :
    Follows (fun cursor otherCursor => cursor.seen = otherCursor.seen ∧ related cursor.state otherCursor.state)
      convert (log.run start records) (other.run otherStart (records.map wrap)) := by
  unfold Log.run
  rw [List.foldlM_map]
  refine Follows.foldlM (fun cursor otherCursor record holds => ?_) records ⟨rfl, started⟩
  obtain ⟨seen, state⟩ := cursor
  obtain ⟨otherSeen, otherState⟩ := otherCursor
  obtain ⟨sameSeen, holds⟩ := holds
  cases sameSeen
  simp only [Log.step, sameKey, sameCode, sameConflict]
  cases seen[log.key record]? with
  | some previous =>
      by_cases same : previous = log.code record
      · simp only [same, ↓reduceIte]
        exact .of_ok ⟨rfl, holds⟩
      · simp only [same, ↓reduceIte]
        rfl
  | none =>
      exact (consumes seen state otherState record holds).bind fun _ _ kept => .of_ok ⟨rfl, kept⟩

end Simulation

end TradingGateway.Foundation.IdempotentLog
