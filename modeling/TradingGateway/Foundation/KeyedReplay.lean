import TradingGateway.Foundation.IdempotentLog
import TradingGateway.Foundation.Splits

/-! Replay of a log into one machine per route. Every distinct record names the
machine it drives and, optionally, a parent that must have been seen before. A
successful run is exactly a consistent, causally closed log whose restriction to
each route is a successful run of that route's machine. -/

set_option autoImplicit false
set_option linter.unusedSectionVars false

namespace TradingGateway.Foundation.KeyedReplay

open Foundation.ExceptRun Foundation.IdempotentLog Foundation.Splits

structure Machine (Record State Error : Type) where
  first : Record → Except Error State
  apply : State → Record → Except Error State

section Machines

variable {Record State Error : Type} (machine : Machine Record State Error)

def Machine.advance (current : Option State) (record : Record) : Except Error State :=
  match current with
  | none => machine.first record
  | some state => machine.apply state record

def Machine.run (history : List Record) : Except Error (Option State) :=
  history.foldlM (fun current record => some <$> machine.advance current record) none

@[simp] theorem Machine.run_nil : machine.run [] = .ok none := rfl

theorem Machine.run_append_singleton_iff (history : List Record) (record : Record)
    (final : Option State) :
    machine.run (history ++ [record]) = .ok final ↔
      ∃ current state, machine.run history = .ok current ∧
        machine.advance current record = .ok state ∧ final = some state := by
  unfold Machine.run
  rw [foldlM_append_ok_iff]
  constructor
  · rintro ⟨current, ran, stepped⟩
    obtain ⟨state, advanced, shape⟩ := (map_ok_iff ..).1 (by simpa using stepped)
    exact ⟨current, state, ran, advanced, shape.symm⟩
  · rintro ⟨current, state, ran, advanced, rfl⟩
    exact ⟨current, ran, by simp [advanced, Functor.map, Except.map]⟩

/-- The run rule of a machine: its invariant speaks of the records consumed. -/
theorem Machine.run_induction (invariant : List Record → State → Prop)
    (created : ∀ record state, machine.first record = .ok state → invariant [record] state)
    (applied : ∀ history state record updated, invariant history state →
      machine.apply state record = .ok updated → invariant (history ++ [record]) updated)
    {history : List Record} {final : Option State} (success : machine.run history = .ok final) :
    (history = [] ∧ final = none) ∨ ∃ state, final = some state ∧ invariant history state := by
  induction history using List.reverseRecOn generalizing final with
  | nil =>
      have same : none = final := by simpa using success
      exact .inl ⟨rfl, same.symm⟩
  | append_singleton history record ih =>
      obtain ⟨current, state, ran, advanced, rfl⟩ :=
        (machine.run_append_singleton_iff history record final).1 success
      rcases ih ran with ⟨rfl, rfl⟩ | ⟨before, rfl, holds⟩
      · exact .inr ⟨state, rfl, created record state advanced⟩
      · exact .inr ⟨state, rfl, applied history before record state holds advanced⟩

end Machines

structure KeyedLog (Record Key Code Route State Error : Type) extends Machine Record State Error where
  key : Record → Key
  code : Record → Code
  parent : Record → Option Key
  route : Record → Route
  conflict : Error
  orphan : Error

section Consistency

variable {Record Key Code Route State Error : Type}
variable (keyed : KeyedLog Record Key Code Route State Error)

def KeyedLog.Consistent (records : List Record) : Prop :=
  ∀ left ∈ records, ∀ right ∈ records, keyed.key left = keyed.key right → keyed.code left = keyed.code right

def KeyedLog.Causal (records : List Record) : Prop :=
  ∀ before record after, records = before ++ record :: after →
    (∀ previous ∈ before, keyed.key previous ≠ keyed.key record) →
      ∀ parent ∈ keyed.parent record, ∃ previous ∈ before, keyed.key previous = parent

variable {keyed}

theorem KeyedLog.Consistent.of_subset {records larger : List Record} (consistent : keyed.Consistent larger)
    (subset : records ⊆ larger) : keyed.Consistent records :=
  fun left leftMember right rightMember =>
    consistent left (subset leftMember) right (subset rightMember)

theorem KeyedLog.Consistent.append_copy {records : List Record} {first record : Record}
    (consistent : keyed.Consistent records) (member : first ∈ records)
    (sameKey : keyed.key first = keyed.key record) (sameCode : keyed.code first = keyed.code record) :
    keyed.Consistent (records ++ [record]) := by
  have twin : ∀ other ∈ records ++ [record], ∃ earlier ∈ records,
      keyed.key earlier = keyed.key other ∧ keyed.code earlier = keyed.code other := by
    intro other otherMember
    rcases List.mem_append.1 otherMember with earlier | isRecord
    · exact ⟨other, earlier, rfl, rfl⟩
    · have same : other = record := by simpa using isRecord
      exact same ▸ ⟨first, member, sameKey, sameCode⟩
  intro left leftMember right rightMember sameKeys
  obtain ⟨leftTwin, leftIn, leftKey, leftCode⟩ := twin left leftMember
  obtain ⟨rightTwin, rightIn, rightKey, rightCode⟩ := twin right rightMember
  rw [← leftCode, ← rightCode]
  exact consistent _ leftIn _ rightIn (by rw [leftKey, rightKey, sameKeys])

theorem KeyedLog.Consistent.append_unseen {records : List Record} {record : Record}
    (consistent : keyed.Consistent records)
    (unseen : ∀ previous ∈ records, keyed.key previous ≠ keyed.key record) :
    keyed.Consistent (records ++ [record]) := by
  intro left leftMember right rightMember sameKeys
  simp only [List.mem_append, List.mem_singleton] at leftMember rightMember
  rcases leftMember with leftIn | rfl <;> rcases rightMember with rightIn | rfl
  · exact consistent left leftIn right rightIn sameKeys
  · exact absurd sameKeys (unseen left leftIn)
  · exact absurd sameKeys.symm (unseen right rightIn)
  · rfl

theorem KeyedLog.Causal.of_append {front back : List Record} (causal : keyed.Causal (front ++ back)) :
    keyed.Causal front := by
  intro before record after split
  exact causal before record (after ++ back) (by simp [split])

theorem KeyedLog.Causal.last {records : List Record} {record : Record}
    (causal : keyed.Causal (records ++ [record]))
    (new : ∀ previous ∈ records, keyed.key previous ≠ keyed.key record) :
    ∀ parent ∈ keyed.parent record, ∃ previous ∈ records, keyed.key previous = parent :=
  causal records record [] rfl new

theorem KeyedLog.Causal.append_singleton {records : List Record} {record : Record}
    (causal : keyed.Causal records)
    (last : (∀ previous ∈ records, keyed.key previous ≠ keyed.key record) →
      ∀ parent ∈ keyed.parent record, ∃ previous ∈ records, keyed.key previous = parent) :
    keyed.Causal (records ++ [record]) := by
  intro before current after split
  rcases split_append_singleton split with ⟨rfl, rfl, rfl⟩ | ⟨middle, _, earlier⟩
  · exact last
  · exact causal before current middle earlier

end Consistency

section Keyed

variable {Record Key Code Route State Error : Type} [Ord Key] [Std.TransOrd Key] [Ord Route]
  [Std.TransOrd Route]
variable (keyed : KeyedLog Record Key Code Route State Error)

def KeyedLog.update (states : Std.ExtTreeMap Route State) (record : Record) :
    Except Error (Std.ExtTreeMap Route State) := do
  let state ← keyed.advance states[keyed.route record]? record
  .ok (states.insert (keyed.route record) state)

def KeyedLog.toLog : Log Record Key Code (Std.ExtTreeMap Route State) Error where
  key := keyed.key
  code := keyed.code
  conflict := keyed.conflict
  consume := fun seen states record => do
    rejectIf (∃ parent ∈ keyed.parent record, parent ∉ seen) keyed.orphan
    keyed.update states record

theorem KeyedLog.update_ok_iff (states updated : Std.ExtTreeMap Route State) (record : Record) :
    keyed.update states record = .ok updated ↔
      ∃ state, keyed.advance states[keyed.route record]? record = .ok state ∧
        updated = states.insert (keyed.route record) state := by
  unfold KeyedLog.update
  constructor
  · intro success
    obtain ⟨state, advanced, shape⟩ := bind_ok_iff.1 success
    exact ⟨state, advanced, by simpa using shape.symm⟩
  · rintro ⟨state, advanced, rfl⟩
    exact bind_ok_iff.2 ⟨state, advanced, rfl⟩

theorem KeyedLog.consume_ok_iff (seen : Std.ExtTreeMap Key Code) (states updated : Std.ExtTreeMap Route State)
    (record : Record) :
    keyed.toLog.consume seen states record = .ok updated ↔
      (∀ parent ∈ keyed.parent record, parent ∈ seen) ∧ keyed.update states record = .ok updated := by
  simp [KeyedLog.toLog]

end Keyed

section Runs

variable {Record Key Code Route State Error : Type} [Ord Key] [Std.TransOrd Key] [DecidableEq Key]
  [DecidableEq Code] [Ord Route] [Std.TransOrd Route] [DecidableEq Route]
variable (keyed : KeyedLog Record Key Code Route State Error)

def KeyedLog.history (route : Route) (records : List Record) : List Record :=
  (keyed.toLog.distinct records).filter (fun record => keyed.route record = route)

/-- Once a record is new, admitting it drives exactly its own route's machine. -/
theorem KeyedLog.history_append_new {records : List Record} {record : Record}
    (new : ¬ ∃ previous ∈ keyed.toLog.distinct records, keyed.toLog.SameEntry previous record)
    (route : Route) :
    keyed.history route (records ++ [record]) =
      if keyed.route record = route then keyed.history route records ++ [record]
      else keyed.history route records := by
  unfold KeyedLog.history
  rw [keyed.toLog.distinct_append_new new, List.filter_append]
  by_cases same : keyed.route record = route <;> simp [same]

theorem KeyedLog.history_append_copy {records : List Record} {record : Record}
    (copy : ∃ previous ∈ keyed.toLog.distinct records, keyed.toLog.SameEntry previous record)
    (route : Route) :
    keyed.history route (records ++ [record]) = keyed.history route records := by
  unfold KeyedLog.history
  rw [keyed.toLog.distinct_append_copy copy]

variable [Std.LawfulEqOrd Key] [Std.LawfulEqOrd Route]

/-- Forward half: what a successful run says about the log and each route. -/
private theorem run_sound {records : List Record} {final : Cursor Key Code (Std.ExtTreeMap Route State)}
    (success : keyed.toLog.run ∅ records = .ok final) :
    keyed.Consistent records ∧ keyed.Causal records ∧
      ∀ route, keyed.run (keyed.history route records) = .ok final.state[route]? := by
  induction records using List.reverseRecOn generalizing final with
  | nil =>
      have start : ({ seen := ∅, state := ∅ } : Cursor Key Code (Std.ExtTreeMap Route State)) = final := by
        simpa [Log.run] using success
      subst start
      exact ⟨by simp [KeyedLog.Consistent], by simp [KeyedLog.Causal], by simp [KeyedLog.history]⟩
  | append_singleton records record ih =>
      obtain ⟨cursor, ran, stepped⟩ := (keyed.toLog.run_append_singleton_iff ..).1 success
      obtain ⟨consistent, causal, routed⟩ := ih ran
      have tracks := keyed.toLog.run_tracks ran
      rcases keyed.toLog.step_ok_cases stepped with ⟨known, rfl⟩ | ⟨fresh, admitted, _⟩
      · have copy := tracks.known.1 known
        obtain ⟨first, kept, sameKey, sameCode⟩ := tracks.known.1 known
        have firstMember := keyed.toLog.mem_of_mem_distinct kept
        refine ⟨consistent.append_copy firstMember sameKey sameCode, ?_, fun route => ?_⟩
        · exact causal.append_singleton fun unseen => absurd sameKey (unseen first firstMember)
        · rw [keyed.history_append_copy copy]
          exact routed route
      · have unseen : ∀ previous ∈ records, keyed.key previous ≠ keyed.key record := by
          intro previous member sameKey
          obtain ⟨first, kept, same⟩ := keyed.toLog.distinct_covers member
          exact tracks.fresh.1 fresh first kept (same.1.trans sameKey)
        obtain ⟨parents, updates⟩ := (keyed.consume_ok_iff ..).1 admitted
        obtain ⟨state, advanced, shape⟩ := (keyed.update_ok_iff ..).1 updates
        refine ⟨consistent.append_unseen unseen, ?_, fun route => ?_⟩
        · refine causal.append_singleton fun _ parent isParent => ?_
          obtain ⟨previous, kept, sameKey⟩ := tracks.contains.1 (parents parent isParent)
          exact ⟨previous, keyed.toLog.mem_of_mem_distinct kept, sameKey⟩
        · rw [keyed.history_append_new (tracks.new fresh), shape, Std.ExtTreeMap.getElem?_insert]
          by_cases same : keyed.route record = route
          · subst same
            simp only [↓reduceIte, Std.compare_self]
            exact (keyed.toMachine.run_append_singleton_iff ..).2 ⟨_, state, routed _, advanced, rfl⟩
          · simpa [same] using routed route

/-- Backward half: nothing else can stop the run. -/
private theorem run_complete {records : List Record} {states : Std.ExtTreeMap Route State}
    (consistent : keyed.Consistent records) (causal : keyed.Causal records)
    (routed : ∀ route, keyed.run (keyed.history route records) = .ok states[route]?) :
    ∃ seen, keyed.toLog.run ∅ records = .ok { seen := seen, state := states } := by
  induction records using List.reverseRecOn generalizing states with
  | nil =>
      refine ⟨∅, ?_⟩
      have empty : states = ∅ := by
        refine Std.ExtTreeMap.ext_getElem? fun route => ?_
        have absent : none = states[route]? := by simpa [KeyedLog.history] using routed route
        simp [← absent]
      rw [empty]
      rfl
  | append_singleton records record ih =>
      have earlierConsistent : keyed.Consistent records := consistent.of_subset (by simp)
      by_cases copy : ∃ previous ∈ keyed.toLog.distinct records, keyed.toLog.SameEntry previous record
      · obtain ⟨seen, ran⟩ := ih earlierConsistent causal.of_append
          fun route => by simpa only [keyed.history_append_copy copy] using routed route
        exact ⟨seen, (keyed.toLog.run_append_singleton_iff ..).2
          ⟨_, ran, keyed.toLog.step_known ((keyed.toLog.run_tracks ran).known.2 copy)⟩⟩
      · -- The machine of this route is rewound by one record, the others are left as they end.
        have driven := routed (keyed.route record)
        rw [keyed.history_append_new copy, if_pos rfl] at driven
        obtain ⟨current, state, before, advanced, reached⟩ :=
          (keyed.toMachine.run_append_singleton_iff ..).1 driven
        have rewound : ∀ route, keyed.run (keyed.history route records) =
            .ok (states.alter (keyed.route record) fun _ => current)[route]? := by
          intro route
          rw [Std.ExtTreeMap.getElem?_alter]
          by_cases same : keyed.route record = route
          · subst same
            simpa using before
          · have kept := routed route
            rw [keyed.history_append_new copy, if_neg same] at kept
            simpa [same] using kept
        obtain ⟨seen, ran⟩ := ih earlierConsistent causal.of_append rewound
        have unseen : ∀ previous ∈ records, keyed.key previous ≠ keyed.key record := by
          intro previous member sameKey
          obtain ⟨first, kept, same⟩ := keyed.toLog.distinct_covers member
          have sameCode := consistent previous (by simp [member]) record (by simp) sameKey
          exact copy ⟨first, kept, same.1.trans sameKey, same.2.trans sameCode⟩
        have tracks := keyed.toLog.run_tracks ran
        have fresh : seen[keyed.toLog.key record]? = none :=
          tracks.fresh.2 fun previous kept => unseen previous (keyed.toLog.mem_of_mem_distinct kept)
        have parents : ∀ parent ∈ keyed.parent record, parent ∈ seen := by
          intro parent isParent
          obtain ⟨previous, member, sameKey⟩ := causal.last unseen parent isParent
          obtain ⟨first, kept, same⟩ := keyed.toLog.distinct_covers member
          exact tracks.contains.2 ⟨first, kept, same.1.trans sameKey⟩
        have restored : (states.alter (keyed.route record) fun _ => current).insert (keyed.route record) state =
            states := by
          refine Std.ExtTreeMap.ext_getElem? fun route => ?_
          rw [Std.ExtTreeMap.getElem?_insert, Std.ExtTreeMap.getElem?_alter]
          by_cases same : keyed.route record = route
          · subst same
            simp [reached]
          · simp [same]
        have updates : keyed.update (states.alter (keyed.route record) fun _ => current) record = .ok states :=
          (keyed.update_ok_iff ..).2 ⟨state, by simpa using advanced, restored.symm⟩
        refine ⟨seen.insert (keyed.key record) (keyed.code record),
          (keyed.toLog.run_append_singleton_iff ..).2 ⟨_, ran, ?_⟩⟩
        rw [keyed.toLog.step_fresh fresh]
        exact bind_ok_iff.2 ⟨states, (keyed.consume_ok_iff ..).2 ⟨parents, updates⟩, rfl⟩

/-- A run succeeds in `states` exactly when the log is consistent and causally
closed and every route's machine runs its own history to its entry in `states`. -/
theorem KeyedLog.run_ok_iff (records : List Record) (states : Std.ExtTreeMap Route State) :
    (∃ seen, keyed.toLog.run ∅ records = .ok { seen := seen, state := states }) ↔
      keyed.Consistent records ∧ keyed.Causal records ∧
        ∀ route, keyed.run (keyed.history route records) = .ok states[route]? := by
  constructor
  · rintro ⟨seen, success⟩
    exact run_sound keyed success
  · rintro ⟨consistent, causal, routed⟩
    exact run_complete keyed consistent causal routed

/-- Routes do not interfere: a causally closed reordering that keeps every
route's own order ends in the same machines. -/
theorem KeyedLog.run_reordered {records reordered : List Record}
    {final : Cursor Key Code (Std.ExtTreeMap Route State)}
    (success : keyed.toLog.run ∅ records = .ok final)
    (copiesShareRoute : ∀ left ∈ records, ∀ right ∈ records,
      keyed.toLog.SameEntry left right → keyed.route left = keyed.route right)
    (sameOrder : ∀ route, reordered.filter (fun record => keyed.route record = route) =
      records.filter (fun record => keyed.route record = route))
    (causal : keyed.Causal reordered) :
    ∃ seen, keyed.toLog.run ∅ reordered = .ok { seen := seen, state := final.state } := by
  have sameMembers : ∀ record, record ∈ reordered ↔ record ∈ records := by
    intro record
    have filtered := congrArg (record ∈ ·) (sameOrder (keyed.route record))
    simpa using filtered
  obtain ⟨consistent, _, routed⟩ := (keyed.run_ok_iff records final.state).1 ⟨final.seen, success⟩
  refine (keyed.run_ok_iff reordered final.state).2 ⟨?_, causal, fun route => ?_⟩
  · exact consistent.of_subset fun record => (sameMembers record).1
  · have respects : ∀ left ∈ records, ∀ right ∈ records, keyed.toLog.SameEntry left right →
        decide (keyed.route left = route) = decide (keyed.route right = route) :=
      fun left leftMember right rightMember same => by
        rw [copiesShareRoute left leftMember right rightMember same]
    have sameHistory : keyed.history route reordered = keyed.history route records := by
      unfold KeyedLog.history
      rw [← keyed.toLog.distinct_filter _ records respects, ← sameOrder route,
        keyed.toLog.distinct_filter _ reordered fun left leftMember right rightMember =>
          respects left ((sameMembers left).1 leftMember) right ((sameMembers right).1 rightMember)]
    rw [sameHistory]
    exact routed route

end Runs

end TradingGateway.Foundation.KeyedReplay
