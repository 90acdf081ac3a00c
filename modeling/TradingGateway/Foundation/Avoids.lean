import TradingGateway.Foundation.ExceptRun

/-! Fallible runs that never stop with one given error, whatever other errors they stop with. -/

set_option autoImplicit false

namespace TradingGateway.Foundation.ExceptRun

variable {Error Other Value Result : Type} {error : Error}

def Avoids (error : Error) (run : Except Error Value) : Prop :=
  run ≠ .error error

theorem avoids_ok (value : Value) : Avoids error (.ok value) := by
  intro impossible
  cases impossible

theorem avoids_error_iff {other : Error} : Avoids error (.error other : Except Error Value) ↔ other ≠ error := by
  unfold Avoids
  rw [ne_eq, Except.error.injEq]

/-- The rest of a run matters only where its first half succeeds. -/
theorem avoids_bind_iff {source : Except Error Value} {next : Value → Except Error Result} :
    Avoids error (source >>= next) ↔ Avoids error source ∧ ∀ value, source = .ok value → Avoids error (next value) := by
  unfold Avoids
  rw [ne_eq, bind_error_iff, not_or, not_exists]
  simp only [not_and]

/-- A check that can only stop with another error takes no part. -/
theorem avoids_check_bind_iff {source : Except Error Value} {next : Value → Except Error Result}
    (other : Avoids error source) :
    Avoids error (source >>= next) ↔ ∀ value, source = .ok value → Avoids error (next value) := by
  rw [avoids_bind_iff]
  exact and_iff_right other

/-- A rest that never stops with the error takes no part. -/
theorem avoids_bind_iff_left {source : Except Error Value} {next : Value → Except Error Result}
    (later : ∀ value, Avoids error (next value)) : Avoids error (source >>= next) ↔ Avoids error source := by
  rw [avoids_bind_iff]
  exact and_iff_left fun value _ => later value

theorem avoids_rejectIf {condition : Prop} [Decidable condition] {other : Error} (differs : other ≠ error) :
    Avoids error (rejectIf condition other) := by
  intro stopped
  exact differs (rejectIf_error_iff.1 stopped).2

theorem avoids_orReject_iff {source : Option Value} : Avoids error (orReject source error) ↔ source.isSome = true := by
  unfold Avoids
  cases source <;> simp [orReject]

theorem avoids_orReject {source : Option Value} {other : Error} (differs : other ≠ error) :
    Avoids error (orReject source other) := by
  cases source with
  | none => exact avoids_error_iff.2 differs
  | some value => exact avoids_ok value

theorem avoids_mapError {source : Except Other Value} {convert : Other → Error}
    (differs : ∀ other, convert other ≠ error) : Avoids error (source.mapError convert) := by
  intro stopped
  obtain ⟨other, _, same⟩ := mapError_error_iff.1 stopped
  exact differs other same

def Reads (run : Except Error Value) : Prop :=
  ∃ value, run = .ok value

theorem reads_mapError_iff {source : Except Other Value} {convert : Other → Error} :
    Reads (source.mapError convert) ↔ Reads source := by
  unfold Reads
  simp only [mapError_ok_iff]

/-- What comes after a run that does not matter for it is reached where the run has a value. -/
theorem avoids_bind_iff_reads {source : Except Error Value} {next : Value → Except Error Result} {safe : Prop}
    (same : ∀ value, source = .ok value → (Avoids error (next value) ↔ safe)) :
    Avoids error (source >>= next) ↔ Avoids error source ∧ (Reads source → safe) := by
  rw [avoids_bind_iff]
  refine and_congr_right fun _ => ?_
  constructor
  · rintro later ⟨value, read⟩
    exact (same value read).1 (later value read)
  · intro later value read
    exact (same value read).2 (later ⟨value, read⟩)

theorem avoids_optional_iff {Item : Type} {read : Item → Except Error Value} {source : Option Item} :
    Avoids error (source.mapM read) ↔ ∀ item ∈ source, Avoids error (read item) := by
  cases source with
  | none => simp [avoids_ok, pure, Except.pure]
  | some item =>
      simp only [Option.mapM_some, Option.mem_some_iff, forall_eq']
      cases read item with
      | error other => exact avoids_error_iff.trans avoids_error_iff.symm
      | ok value => exact iff_of_true (avoids_ok _) (avoids_ok _)

theorem bind_some_isSome {Result : Type} {source : Option Value} {next : Value → Result} :
    (do some (next (← source))).isSome = source.isSome := by
  cases source <;> rfl

section Lists

variable {Item State : Type}

/-- A list is read without the error exactly when none of its items gives it behind items that are read. -/
theorem avoids_mapM_iff {read : Item → Except Error Value} {items : List Item} :
    Avoids error (items.mapM read) ↔ ∀ before next, before ++ [next] <+: items →
      (∀ item ∈ before, Reads (read item)) → Avoids error (read next) := by
  induction items with
  | nil => simp [avoids_ok, pure, Except.pure]
  | cons item rest ih =>
      rw [List.mapM_cons, avoids_bind_iff]
      have tail (value : Value) : Avoids error (rest.mapM read >>= fun values => pure (value :: values)) ↔
          Avoids error (rest.mapM read) := avoids_bind_iff_left fun _ => avoids_ok _
      simp only [tail, ih]
      constructor
      · rintro ⟨first, later⟩ before next listed areRead
        cases before with
        | nil =>
            have same : next = item := by simpa using listed
            exact same ▸ first
        | cons head before =>
            rw [List.cons_append, List.cons_prefix_cons] at listed
            obtain ⟨rfl, listed⟩ := listed
            obtain ⟨value, isRead⟩ := areRead head List.mem_cons_self
            exact later value isRead before next listed fun other member =>
              areRead other (List.mem_cons_of_mem _ member)
      · intro all
        refine ⟨all [] item (by simp) (by simp), fun value isRead before next listed areRead => ?_⟩
        refine all (item :: before) next (by simpa using listed) fun other member => ?_
        obtain rfl | member := List.mem_cons.1 member
        · exact ⟨value, isRead⟩
        · exact areRead other member

theorem mapM_isSome_iff {read : Item → Option Value} {items : List Item} :
    (items.mapM read).isSome = true ↔ ∀ item ∈ items, (read item).isSome = true := by
  induction items with
  | nil => simp
  | cons item rest ih =>
      rw [List.forall_mem_cons, ← ih, List.mapM_cons]
      cases read item with
      | none => simp
      | some value => cases rest.mapM read <;> simp

theorem mapM_pairs (read : Item → Option Value) (items : List Item) :
    items.mapM read =
      (items.mapM fun item => (read item).map fun value => (item, value)).map (List.map Prod.snd) := by
  induction items with
  | nil => rfl
  | cons item rest ih =>
      rw [List.mapM_cons, List.mapM_cons, ih]
      cases read item with
      | none => rfl
      | some value =>
          cases rest.mapM fun item => (read item).map fun value => (item, value) with
          | none => rfl
          | some pairs => rfl

/-- A fold has a result exactly when each step from a state that it reaches has one. -/
theorem foldlM_isSome_iff {step : State → Item → Option State} {start : State} {items : List Item} :
    (items.foldlM step start).isSome = true ↔ ∀ before next state, before ++ [next] <+: items →
      before.foldlM step start = some state → (step state next).isSome = true := by
  induction items using List.reverseRecOn with
  | nil => simp
  | append_singleton items last ih =>
      rw [List.foldlM_append, Option.bind_eq_bind, Option.isSome_bind]
      constructor
      · intro reached before next state listed folded
        rw [Option.any_eq_true] at reached
        obtain ⟨final, ran, stepped⟩ := reached
        obtain same | earlier := List.prefix_concat_iff.1 listed
        · obtain ⟨rfl, rfl⟩ : before = items ∧ next = last := by simpa using same
          rw [ran, Option.some.injEq] at folded
          simpa [folded] using stepped
        · exact ih.1 (Option.isSome_of_eq_some ran) before next state earlier folded
      · intro steps
        have ran := ih.2 fun before next state listed => steps before next state
          (listed.trans (List.prefix_append items [last]))
        obtain ⟨final, ran⟩ := Option.isSome_iff_exists.1 ran
        have stepped := steps items last final (List.prefix_refl _) ran
        rw [ran, Option.any_some]
        simpa using stepped

end Lists

end TradingGateway.Foundation.ExceptRun
