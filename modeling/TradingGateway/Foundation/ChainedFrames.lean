import TradingGateway.Foundation.ExceptRun

/-! Logs of self-delimiting frames, each bound to the one before it by a link.
Reading a log and writing one are inverse, and a log cut inside a frame is torn. -/

set_option autoImplicit false

namespace TradingGateway.Foundation.ChainedFrames

open ExceptRun

/-- How one frame is written after a link and read off the front of some bytes.
A proper part of a frame is reported as torn. -/
structure Format (Byte Link Item Error : Type) where
  Storable : Item → Prop
  next : Link → Item → Link
  write : Link → Item → List Byte
  read : Link → List Byte → Except Error (Item × List Byte)
  torn : Error
  write_ne_nil : ∀ link item, write link item ≠ []
  read_ok_iff : ∀ {link bytes item rest},
    read link bytes = .ok (item, rest) ↔ Storable item ∧ bytes = write link item ++ rest
  read_torn : ∀ {link item front back}, Storable item → write link item = front ++ back →
    front ≠ [] → back ≠ [] → read link front = .error torn

variable {Byte Link Item Error : Type} (format : Format Byte Link Item Error)

namespace Format

theorem read_shrinks {link : Link} {bytes rest : List Byte} {item : Item}
    (success : format.read link bytes = .ok (item, rest)) : rest.length < bytes.length := by
  obtain ⟨_, rfl⟩ := format.read_ok_iff.1 success
  have nonempty := List.length_pos_iff.2 (format.write_ne_nil link item)
  rw [List.length_append]
  omega

def readAll (link : Link) (bytes : List Byte) : Except Error (List Item) :=
  match bytes with
  | [] => .ok []
  | byte :: rest =>
      match _success : format.read link (byte :: rest) with
      | .error error => .error error
      | .ok (item, rest) => do
          let items ← readAll (format.next link item) rest
          .ok (item :: items)
termination_by bytes.length
decreasing_by exact format.read_shrinks _success

def writeAll (link : Link) (items : List Item) : List Byte :=
  match items with
  | [] => []
  | item :: rest => format.write link item ++ writeAll (format.next link item) rest

/-- The link that the frame after `items` is bound to. -/
def lastLink (link : Link) (items : List Item) : Link :=
  items.foldl format.next link

@[simp] theorem lastLink_nil (link : Link) : format.lastLink link [] = link := rfl

@[simp] theorem lastLink_cons (link : Link) (item : Item) (rest : List Item) :
    format.lastLink link (item :: rest) = format.lastLink (format.next link item) rest := rfl

@[simp] theorem writeAll_nil (link : Link) : format.writeAll link [] = [] := rfl

@[simp] theorem writeAll_cons (link : Link) (item : Item) (rest : List Item) :
    format.writeAll link (item :: rest) =
      format.write link item ++ format.writeAll (format.next link item) rest := rfl

theorem writeAll_append (link : Link) (front back : List Item) :
    format.writeAll link (front ++ back) =
      format.writeAll link front ++ format.writeAll (format.lastLink link front) back := by
  induction front generalizing link with
  | nil => rfl
  | cons item rest ih => simp [ih]

@[simp] theorem readAll_nil (link : Link) : format.readAll link [] = .ok [] := by
  rw [readAll]

theorem readAll_of_ne_nil (link : Link) {bytes : List Byte} (nonempty : bytes ≠ []) :
    format.readAll link bytes = format.read link bytes >>= fun (item, rest) =>
      format.readAll (format.next link item) rest >>= fun items => .ok (item :: items) := by
  obtain ⟨byte, tail, rfl⟩ := List.exists_cons_of_ne_nil nonempty
  rw [readAll]
  split
  next error failed => rw [failed, error_bind]
  next item rest success => rw [success, ok_bind]

theorem readAll_write_append {item : Item} (storable : format.Storable item) (link : Link)
    (tail : List Byte) :
    format.readAll link (format.write link item ++ tail) =
      format.readAll (format.next link item) tail >>= fun items => .ok (item :: items) := by
  have read : format.read link (format.write link item ++ tail) = .ok (item, tail) :=
    format.read_ok_iff.2 ⟨storable, rfl⟩
  rw [format.readAll_of_ne_nil link (by simp [format.write_ne_nil]), read, ok_bind]

/-- What follows a run of frames is read as it would be after their last link. -/
theorem readAll_writeAll_append {items : List Item} (storable : ∀ item ∈ items, format.Storable item)
    (link : Link) (tail : List Byte) :
    format.readAll link (format.writeAll link items ++ tail) =
      format.readAll (format.lastLink link items) tail >>= fun rest => .ok (items ++ rest) := by
  induction items generalizing link with
  | nil =>
      simp only [writeAll_nil, List.nil_append, lastLink_nil]
      cases format.readAll link tail <;> rfl
  | cons item rest ih =>
      have later := ih (fun other member => storable other (List.mem_cons_of_mem _ member))
      rw [writeAll_cons, List.append_assoc, format.readAll_write_append (storable item (List.mem_cons_self ..)),
        later, bind_assoc]
      rfl

/-- Reading undoes writing, writing undoes reading, and nothing else is read. -/
theorem readAll_ok_iff {link : Link} {bytes : List Byte} {items : List Item} :
    format.readAll link bytes = .ok items ↔
      (∀ item ∈ items, format.Storable item) ∧ bytes = format.writeAll link items := by
  constructor
  · intro success
    induction items generalizing link bytes with
    | nil =>
        refine ⟨by simp, ?_⟩
        by_contra nonempty
        rw [format.readAll_of_ne_nil link nonempty] at success
        obtain ⟨_, _, success⟩ := bind_ok_iff.1 success
        obtain ⟨_, _, impossible⟩ := bind_ok_iff.1 success
        cases impossible
    | cons item items ih =>
        have nonempty : bytes ≠ [] := by
          rintro rfl
          simp at success
        rw [format.readAll_of_ne_nil link nonempty] at success
        obtain ⟨⟨first, rest⟩, read, success⟩ := bind_ok_iff.1 success
        obtain ⟨later, readLater, same⟩ := bind_ok_iff.1 success
        cases same
        obtain ⟨storable, shape⟩ := format.read_ok_iff.1 read
        obtain ⟨laterStorable, laterShape⟩ := ih readLater
        exact ⟨List.forall_mem_cons.2 ⟨storable, laterStorable⟩, by rw [shape, laterShape, writeAll_cons]⟩
  · intro written
    obtain ⟨storable, rfl⟩ := written
    have read := format.readAll_writeAll_append storable link []
    simpa using read

/-- A log that ends inside a frame is torn. -/
theorem readAll_torn {items : List Item} (storable : ∀ item ∈ items, format.Storable item) {link : Link}
    {item : Item} (next : format.Storable item) {front back : List Byte}
    (split : format.write (format.lastLink link items) item = front ++ back) (started : front ≠ [])
    (unfinished : back ≠ []) :
    format.readAll link (format.writeAll link items ++ front) = .error format.torn := by
  rw [format.readAll_writeAll_append storable, format.readAll_of_ne_nil _ started,
    format.read_torn next split started unfinished]
  rfl

/-- The length of the first `count` frames. -/
def boundary (link : Link) (items : List Item) (count : Nat) : Nat :=
  (format.writeAll link (items.take count)).length

/-- A cut of a written log falls on a boundary or inside a frame. -/
theorem cut_cases (link : Link) (items : List Item) {cut : Nat}
    (within : cut ≤ (format.writeAll link items).length) :
    (∃ count ≤ items.length, cut = format.boundary link items count) ∨
      ∃ before item after front back, items = before ++ item :: after ∧
        format.write (format.lastLink link before) item = front ++ back ∧ front ≠ [] ∧ back ≠ [] ∧
          (format.writeAll link items).take cut = format.writeAll link before ++ front := by
  induction items generalizing link cut with
  | nil => exact .inl ⟨0, Nat.le_refl 0, by simpa [boundary] using within⟩
  | cons item rest ih =>
      have frameLength := List.length_pos_iff.2 (format.write_ne_nil link item)
      by_cases beyond : (format.write link item).length ≤ cut
      · -- The first frame is whole, so the cut falls into the rest.
        obtain ⟨extra, rfl⟩ := Nat.exists_eq_add_of_le beyond
        have within : extra ≤ (format.writeAll (format.next link item) rest).length := by
          rw [writeAll_cons, List.length_append] at within
          omega
        rcases ih (format.next link item) within with ⟨count, bound, same⟩ | inside
        · refine .inl ⟨count + 1, Nat.succ_le_succ bound, ?_⟩
          simp [boundary, same]
        · obtain ⟨before, torn, after, front, back, shape, split, started, unfinished, taken⟩ := inside
          refine .inr ⟨item :: before, torn, after, front, back, by rw [shape, List.cons_append], split,
            started, unfinished, ?_⟩
          rw [writeAll_cons, List.take_length_add_append, taken, writeAll_cons, List.append_assoc]
      · by_cases atStart : cut = 0
        · exact .inl ⟨0, Nat.zero_le _, by simp [boundary, atStart]⟩
        · refine .inr ⟨[], item, rest, (format.write link item).take cut, (format.write link item).drop cut,
            rfl, (List.take_append_drop ..).symm, ?_, ?_, ?_⟩
          · rw [ne_eq, List.take_eq_nil_iff]
            have nonempty := format.write_ne_nil link item
            simp [atStart, nonempty]
          · rw [ne_eq, List.drop_eq_nil_iff]
            exact beyond
          · rw [writeAll_cons, List.take_append_of_le_length (by omega), writeAll_nil, List.nil_append]

theorem take_boundary (link : Link) (items : List Item) (count : Nat) :
    (format.writeAll link items).take (format.boundary link items count) =
      format.writeAll link (items.take count) := by
  have split := format.writeAll_append link (items.take count) (items.drop count)
  rw [List.take_append_drop] at split
  rw [split, boundary, List.take_left]

/-- A written log that is cut reads as its first frames when the cut is a
boundary, and is torn at every other cut. -/
theorem readAll_take {items : List Item} (storable : ∀ item ∈ items, format.Storable item) {link : Link}
    {cut : Nat} (within : cut ≤ (format.writeAll link items).length) :
    (∀ count ≤ items.length, cut = format.boundary link items count →
      format.readAll link ((format.writeAll link items).take cut) = .ok (items.take count)) ∧
      ((∀ count ≤ items.length, cut ≠ format.boundary link items count) →
        format.readAll link ((format.writeAll link items).take cut) = .error format.torn) := by
  constructor
  · intro count _ atBoundary
    rw [atBoundary, format.take_boundary]
    exact format.readAll_ok_iff.2 ⟨fun item member => storable item (List.mem_of_mem_take member), rfl⟩
  · intro offBoundary
    rcases format.cut_cases link items within with ⟨count, bound, atBoundary⟩ | inside
    · exact absurd atBoundary (offBoundary count bound)
    · obtain ⟨before, item, after, front, back, rfl, split, started, unfinished, taken⟩ := inside
      rw [taken]
      exact format.readAll_torn (fun other member => storable other (List.mem_append_left _ member))
        (storable item (by simp)) split started unfinished

end Format

end TradingGateway.Foundation.ChainedFrames
