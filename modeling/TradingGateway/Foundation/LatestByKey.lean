import Std.Data.ExtTreeMap
import Mathlib.Data.List.Induction

/-! Observations of things that have a key and a fixed part: collecting them keeps the
latest of each, and refuses two of one key whose fixed parts differ. -/

set_option autoImplicit false

namespace TradingGateway.Foundation.LatestByKey

/-- How observations are told apart: by a part that never changes, which gives the key, and by which was
made later. Observations of one fixed part, neither later, are one observation. -/
structure Observed (Item Key Payload : Type) where
  key : Item → Key
  payload : Item → Payload
  later : Item → Item → Prop
  decidesPayload : DecidableEq Payload
  decidesLater : ∀ left right, Decidable (later left right)
  key_of_payload : ∀ left right, payload left = payload right → key left = key right
  irrefl : ∀ item, ¬ later item item
  asymm : ∀ left right, later left right → ¬ later right left
  notLater_trans : ∀ left middle right, ¬ later left middle → ¬ later middle right → ¬ later left right
  eq_of_tie : ∀ left right, payload left = payload right → ¬ later left right → ¬ later right left → left = right

namespace Observed

section Lists

variable {Item Key Payload : Type} (observed : Observed Item Key Payload)

/-- Observations of one key agree in what never changes. -/
def Consistent (items : List Item) : Prop :=
  ∀ left ∈ items, ∀ right ∈ items, observed.key left = observed.key right → observed.payload left = observed.payload right

/-- An observation that no other of its key was made after. -/
def Latest (items : List Item) (item : Item) : Prop :=
  item ∈ items ∧ ∀ other ∈ items, observed.key other = observed.key item → ¬ observed.later other item

/-- A further observation of something in the list, made no later than that. -/
def IsCopy (items : List Item) (copy : Item) : Prop :=
  ∃ item ∈ items, observed.payload copy = observed.payload item ∧ ¬ observed.later copy item

variable {observed}

theorem consistent_append_singleton {items : List Item} {item : Item} :
    observed.Consistent (items ++ [item]) ↔ observed.Consistent items ∧
      ∀ other ∈ items, observed.key other = observed.key item → observed.payload other = observed.payload item := by
  constructor
  · intro consistent
    constructor
    · intro left leftMember right rightMember
      exact consistent left (List.mem_append_left _ leftMember) right (List.mem_append_left _ rightMember)
    · intro other member
      exact consistent other (List.mem_append_left _ member) item (by simp)
  · rintro ⟨earlier, own⟩ left leftMember right rightMember same
    rcases List.mem_append.1 leftMember with isLeft | isLeft
    · rcases List.mem_append.1 rightMember with isRight | isRight
      · exact earlier left isLeft right isRight same
      · cases List.mem_singleton.1 isRight
        exact own left isLeft same
    · cases List.mem_singleton.1 isLeft
      rcases List.mem_append.1 rightMember with isRight | isRight
      · exact (own right isRight same.symm).symm
      · cases List.mem_singleton.1 isRight
        rfl

/-- Consistent observations have at most one latest of each key. -/
theorem Latest.unique {items : List Item} {left right : Item} (leftLatest : observed.Latest items left)
    (consistent : observed.Consistent items) (rightLatest : observed.Latest items right)
    (same : observed.key left = observed.key right) : left = right :=
  observed.eq_of_tie left right (consistent left leftLatest.1 right rightLatest.1 same)
    (rightLatest.2 left leftLatest.1 same) (leftLatest.2 right rightLatest.1 same.symm)

theorem Latest.of_perm {items others : List Item} {item : Item} (permuted : others.Perm items)
    (latest : observed.Latest items item) : observed.Latest others item :=
  ⟨permuted.mem_iff.2 latest.1, fun other member => latest.2 other (permuted.mem_iff.1 member)⟩

theorem Consistent.of_subset {items others : List Item} (consistent : observed.Consistent items)
    (subset : others ⊆ items) : observed.Consistent others :=
  fun left leftMember right rightMember => consistent left (subset leftMember) right (subset rightMember)

section Copies

variable {items copies : List Item} (isCopy : ∀ copy ∈ copies, observed.IsCopy items copy)

include isCopy

theorem Consistent.append_copies (consistent : observed.Consistent items) : observed.Consistent (items ++ copies) := by
  have original : ∀ item ∈ items ++ copies, ∃ origin ∈ items, observed.payload item = observed.payload origin := by
    intro item member
    rcases List.mem_append.1 member with isItem | copied
    · exact ⟨item, isItem, rfl⟩
    · obtain ⟨origin, isOrigin, same, _⟩ := isCopy item copied
      exact ⟨origin, isOrigin, same⟩
  intro left leftMember right rightMember same
  obtain ⟨leftOrigin, leftIn, leftSame⟩ := original left leftMember
  obtain ⟨rightOrigin, rightIn, rightSame⟩ := original right rightMember
  rw [leftSame, rightSame]
  apply consistent leftOrigin leftIn rightOrigin rightIn
  rw [← observed.key_of_payload _ _ leftSame, ← observed.key_of_payload _ _ rightSame, same]

/-- Copies change nothing about which observations are the latest. -/
theorem latest_append_copies_iff {item : Item} :
    observed.Latest (items ++ copies) item ↔ observed.Latest items item := by
  constructor
  · rintro ⟨member, beats⟩
    rcases List.mem_append.1 member with isItem | copied
    · exact ⟨isItem, fun other isOther => beats other (List.mem_append_left _ isOther)⟩
    · obtain ⟨origin, isOrigin, same, notLater⟩ := isCopy item copied
      have sameKey := observed.key_of_payload _ _ same
      have isSame := observed.eq_of_tie item origin same notLater
        (beats origin (List.mem_append_left _ isOrigin) sameKey.symm)
      exact ⟨isSame ▸ isOrigin, fun other isOther => beats other (List.mem_append_left _ isOther)⟩
  · rintro ⟨member, beats⟩
    refine ⟨List.mem_append_left _ member, ?_⟩
    intro other isOther sameKey
    rcases List.mem_append.1 isOther with isItem | copied
    · exact beats other isItem sameKey
    · obtain ⟨origin, isOrigin, same, notLater⟩ := isCopy other copied
      exact observed.notLater_trans _ _ _ notLater
        (beats origin isOrigin ((observed.key_of_payload _ _ same).symm.trans sameKey))

end Copies

end Lists

section Maps

variable {Item Key Payload : Type} [Ord Key] [Std.TransOrd Key] [Std.LawfulEqOrd Key]
variable (observed : Observed Item Key Payload)

/-- Put an observation under its key, in place of an earlier one; `none` is a conflict. -/
def collect (latest : Std.ExtTreeMap Key Item) (item : Item) : Option (Std.ExtTreeMap Key Item) :=
  letI := observed.decidesPayload
  letI := observed.decidesLater
  match latest[observed.key item]? with
  | none => some (latest.insert (observed.key item) item)
  | some existing =>
      if observed.payload existing = observed.payload item then
        some (latest.insert (observed.key item) (if observed.later item existing then item else existing))
      else none

structure Holds (items : List Item) (latest : Std.ExtTreeMap Key Item) : Prop where
  consistent : observed.Consistent items
  sound : ∀ key item, latest[key]? = some item → observed.key item = key ∧ observed.Latest items item
  covers : ∀ item ∈ items, ∃ found, latest[observed.key item]? = some found

variable {observed}

omit [Std.LawfulEqOrd Key] in
theorem holds_nil : observed.Holds [] ∅ := by
  constructor <;> simp [Consistent]

omit [Std.LawfulEqOrd Key] in
theorem Holds.exact {items : List Item} {latest : Std.ExtTreeMap Key Item} (holds : observed.Holds items latest)
    (key : Key) (item : Item) :
    latest[key]? = some item ↔ observed.key item = key ∧ observed.Latest items item := by
  constructor
  · exact holds.sound key item
  · rintro ⟨rfl, isLatest⟩
    obtain ⟨found, stored⟩ := holds.covers item isLatest.1
    obtain ⟨sameKey, foundLatest⟩ := holds.sound _ found stored
    rw [stored, foundLatest.unique holds.consistent isLatest sameKey]

/-- Two maps that hold observations with the same latest ones are one map. -/
theorem Holds.unique {items others : List Item} {latest other : Std.ExtTreeMap Key Item}
    (holds : observed.Holds items latest) (otherHolds : observed.Holds others other)
    (same : ∀ item, observed.Latest items item ↔ observed.Latest others item) : latest = other := by
  apply Std.ExtTreeMap.ext_getElem?
  intro key
  apply Option.ext
  intro item
  rw [holds.exact, otherHolds.exact, same]

/-- Writing the latest observation of a key that only gained one. -/
theorem Holds.insert {items : List Item} {latest : Std.ExtTreeMap Key Item} (holds : observed.Holds items latest)
    {item winner : Item} (consistent : observed.Consistent (items ++ [item]))
    (sameKey : observed.key winner = observed.key item) (wins : observed.Latest (items ++ [item]) winner) :
    observed.Holds (items ++ [item]) (latest.insert (observed.key item) winner) := by
  refine ⟨consistent, ?_, ?_⟩
  · intro key found stored
    rw [Std.ExtTreeMap.getElem?_insert] at stored
    split at stored
    · rename_i named
      cases stored
      exact ⟨sameKey.trans (Std.LawfulEqOrd.eq_of_compare named), wins⟩
    · rename_i differs
      obtain ⟨ownKey, isLatest⟩ := holds.sound key found stored
      refine ⟨ownKey, List.mem_append_left _ isLatest.1, ?_⟩
      intro other member same
      rcases List.mem_append.1 member with earlier | last
      · exact isLatest.2 other earlier same
      · cases List.mem_singleton.1 last
        exact absurd (by rw [same, ownKey]; exact Std.ReflOrd.compare_self) differs
  · intro other member
    rw [Std.ExtTreeMap.getElem?_insert]
    split
    · exact ⟨winner, rfl⟩
    · rename_i differs
      rcases List.mem_append.1 member with earlier | last
      · exact holds.covers other earlier
      · cases List.mem_singleton.1 last
        exact absurd Std.ReflOrd.compare_self differs

theorem collect_ok {items : List Item} {latest next : Std.ExtTreeMap Key Item} {item : Item}
    (holds : observed.Holds items latest) (success : observed.collect latest item = some next) :
    observed.Holds (items ++ [item]) next := by
  unfold collect at success
  split at success
  · rename_i absent
    cases success
    have alone : ∀ other ∈ items, observed.key other ≠ observed.key item := by
      intro other member same
      obtain ⟨found, stored⟩ := holds.covers other member
      simp [same, absent] at stored
    apply holds.insert (consistent_append_singleton.2 ⟨holds.consistent, fun other member same =>
      absurd same (alone other member)⟩) rfl
    refine ⟨by simp, ?_⟩
    intro other member same
    rcases List.mem_append.1 member with earlier | last
    · exact absurd same (alone other earlier)
    · cases List.mem_singleton.1 last
      exact observed.irrefl item
  · rename_i existing stored
    split at success
    · rename_i samePayload
      cases success
      obtain ⟨sameKey, isLatest⟩ := holds.sound _ existing stored
      have consistent : observed.Consistent (items ++ [item]) := by
        refine consistent_append_singleton.2 ⟨holds.consistent, ?_⟩
        intro other member same
        rw [← samePayload]
        exact holds.consistent other member existing isLatest.1 (same.trans sameKey.symm)
      by_cases isLater : observed.later item existing
      · rw [if_pos isLater]
        apply holds.insert consistent rfl
        refine ⟨by simp, ?_⟩
        intro other member same
        rcases List.mem_append.1 member with earlier | last
        · exact observed.notLater_trans _ _ _ (isLatest.2 other earlier (same.trans sameKey.symm))
            (observed.asymm _ _ isLater)
        · cases List.mem_singleton.1 last
          exact observed.irrefl item
      · rw [if_neg isLater]
        apply holds.insert consistent sameKey
        refine ⟨List.mem_append_left _ isLatest.1, ?_⟩
        intro other member same
        rcases List.mem_append.1 member with earlier | last
        · exact isLatest.2 other earlier same
        · cases List.mem_singleton.1 last
          exact isLater
    · cases success

omit [Std.LawfulEqOrd Key] in
theorem collect_isSome {items : List Item} {latest : Std.ExtTreeMap Key Item} {item : Item}
    (holds : observed.Holds items latest) (consistent : observed.Consistent (items ++ [item])) :
    ∃ next, observed.collect latest item = some next := by
  unfold collect
  split
  · exact ⟨_, rfl⟩
  · rename_i existing stored
    obtain ⟨sameKey, isLatest⟩ := holds.sound _ existing stored
    rw [if_pos ((consistent_append_singleton.1 consistent).2 existing isLatest.1 sameKey)]
    exact ⟨_, rfl⟩

theorem foldlM_collect_holds {items : List Item} {latest : Std.ExtTreeMap Key Item}
    (success : items.foldlM observed.collect ∅ = some latest) : observed.Holds items latest := by
  induction items using List.reverseRecOn generalizing latest with
  | nil =>
      cases success
      exact holds_nil
  | append_singleton items item ih =>
      rw [List.foldlM_append, Option.bind_eq_bind, Option.bind_eq_some_iff] at success
      obtain ⟨middle, ran, stepped⟩ := success
      exact collect_ok (ih ran) (by simpa using stepped)

/-- Collecting succeeds exactly on consistent observations. -/
theorem foldlM_collect_isSome_iff {items : List Item} :
    (∃ latest, items.foldlM observed.collect ∅ = some latest) ↔ observed.Consistent items := by
  constructor
  · rintro ⟨latest, success⟩
    exact (foldlM_collect_holds success).consistent
  · intro consistent
    induction items using List.reverseRecOn with
    | nil => exact ⟨∅, rfl⟩
    | append_singleton items item ih =>
        obtain ⟨middle, ran⟩ := ih (consistent_append_singleton.1 consistent).1
        obtain ⟨next, stepped⟩ := collect_isSome (foldlM_collect_holds ran) consistent
        exact ⟨next, by rw [List.foldlM_append, ran]; simpa using stepped⟩

/-- The order of observations and further copies of them make no difference. -/
theorem foldlM_collect_rearranged {items others copies : List Item} (permuted : others.Perm (items ++ copies))
    (isCopy : ∀ copy ∈ copies, observed.IsCopy items copy) :
    others.foldlM observed.collect ∅ = items.foldlM observed.collect ∅ := by
  have consistent : observed.Consistent others ↔ observed.Consistent items :=
    ⟨fun holds => holds.of_subset fun item member => permuted.mem_iff.2 (List.mem_append_left _ member),
      fun holds => (holds.append_copies isCopy).of_subset fun item member => permuted.mem_iff.1 member⟩
  have same : ∀ item, observed.Latest others item ↔ observed.Latest items item := by
    intro item
    rw [← latest_append_copies_iff isCopy]
    exact ⟨Latest.of_perm permuted.symm, Latest.of_perm permuted⟩
  cases ran : items.foldlM observed.collect ∅ with
  | some latest =>
      have holds := foldlM_collect_holds ran
      obtain ⟨other, success⟩ := foldlM_collect_isSome_iff.2 (consistent.2 holds.consistent)
      rw [success, (foldlM_collect_holds success).unique holds same]
  | none =>
      apply Option.eq_none_iff_forall_ne_some.2
      intro other success
      obtain ⟨latest, stored⟩ := foldlM_collect_isSome_iff.2 (consistent.1 (foldlM_collect_holds success).consistent)
      simp [ran] at stored

end Maps

end Observed

end TradingGateway.Foundation.LatestByKey
