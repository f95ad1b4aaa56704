import Mathlib
import BookHandlers.Model

set_option autoImplicit false

/- Go slices of books at the granularity of machine words. A slice header is three words:
   the address of its backing array, its length and its capacity. mocks.Books is one such
   header in shared memory, and a load or a store of it moves one of the three words. A
   backing array is a list of books, and a book is two words of the model, its ID and the
   word of its other fields; a store writes one of the two. The memory is the list of the
   arrays allocated so far, by address. An access past the end of an array has no value:
   Go checks the index of neither a range loop, nor Encode, nor the store of append against
   the array, and the goroutine that makes such an access is wild. The view of a header is
   what the slice holds, the first len books of its array. A memmove moves count books,
   the front first and each book word by word; moved gives the memory once the first k
   books have moved, which is what a memmove leaves when it runs alone. -/
namespace BookHandlers

structure Header where
  ptr : Nat
  len : Nat
  cap : Nat
deriving DecidableEq, Repr

structure Move where
  src : Nat
  srcAt : Nat
  dst : Nat
  dstAt : Nat
  count : Nat
deriving DecidableEq, Repr

abbrev Memory (α : Type) := List (List (Book α))

namespace Memory

variable {α : Type}

def array (memory : Memory α) (ptr : Nat) : List (Book α) := memory.getD ptr []

def slot (memory : Memory α) (ptr i : Nat) : Option (Book α) := (memory.array ptr)[i]?

def put (memory : Memory α) (ptr i : Nat) (book : Book α) : Memory α :=
  memory.set ptr ((memory.array ptr).set i book)

def storeID (memory : Memory α) (ptr i : Nat) (ID : Int) : Option (Memory α) :=
  (memory.slot ptr i).map fun book => memory.put ptr i { book with ID := ID }

def storeFields (memory : Memory α) (ptr i : Nat) (fields : α) : Option (Memory α) :=
  (memory.slot ptr i).map fun book => memory.put ptr i { book with fields := fields }

def view (memory : Memory α) (h : Header) : List (Book α) := (memory.array h.ptr).take h.len

def Fits (memory : Memory α) (h : Header) : Prop := h.len ≤ h.cap ∧ h.cap ≤ (memory.array h.ptr).length

instance (memory : Memory α) (h : Header) : Decidable (memory.Fits h) :=
  inferInstanceAs (Decidable (h.len ≤ h.cap ∧ h.cap ≤ (memory.array h.ptr).length))

def moved [Inhabited α] (memory : Memory α) (m : Move) : Nat → Memory α
  | 0 => memory
  | k + 1 =>
      (memory.moved m k).put m.dst (m.dstAt + k) (((memory.moved m k).slot m.src (m.srcAt + k)).getD default)

theorem array_put (memory : Memory α) (ptr i : Nat) (book : Book α) (q : Nat) :
    (memory.put ptr i book).array q = if q = ptr then (memory.array ptr).set i book else memory.array q := by
  simp only [array, put, List.getD_eq_getElem?_getD, List.getElem?_set]
  by_cases same : ptr = q
  · subst same
    by_cases present : ptr < memory.length
    · simp [present]
    · simp [present, List.getElem?_eq_none (Nat.le_of_not_lt present)]
  · simp [same, Ne.symm same]

@[simp] theorem length_array_put (memory : Memory α) (ptr i : Nat) (book : Book α) (q : Nat) :
    ((memory.put ptr i book).array q).length = (memory.array q).length := by
  rw [array_put]
  split <;> simp_all

theorem put_put (memory : Memory α) (ptr i : Nat) (book other : Book α) :
    (memory.put ptr i book).put ptr i other = memory.put ptr i other := by
  show (memory.put ptr i book).set ptr (((memory.put ptr i book).array ptr).set i other) = _
  rw [array_put, if_pos rfl, List.set_set, put, put, List.set_set]

theorem slot_put_self {memory : Memory α} {ptr i : Nat} (book : Book α) (within : i < (memory.array ptr).length) :
    (memory.put ptr i book).slot ptr i = some book := by
  simp [slot, array_put, within]

theorem slot_put_other (memory : Memory α) {ptr i q j : Nat} (book : Book α) (other : q ≠ ptr ∨ j ≠ i) :
    (memory.put ptr i book).slot q j = memory.slot q j := by
  rw [slot, slot, array_put]
  split
  · rename_i same
    subst same
    rw [List.getElem?_set_ne (by omega)]
  · rfl

theorem store_id_of_slot {memory : Memory α} {ptr i : Nat} {book : Book α} (present : memory.slot ptr i = some book)
    (ID : Int) : memory.storeID ptr i ID = some (memory.put ptr i { book with ID := ID }) := by
  simp [storeID, present]

theorem store_fields_of_slot {memory : Memory α} {ptr i : Nat} {book : Book α}
    (present : memory.slot ptr i = some book) (fields : α) :
    memory.storeFields ptr i fields = some (memory.put ptr i { book with fields := fields }) := by
  simp [storeFields, present]

theorem slot_of_lt {memory : Memory α} {ptr i : Nat} (within : i < (memory.array ptr).length) :
    ∃ book, memory.slot ptr i = some book :=
  ⟨_, List.getElem?_eq_getElem within⟩

theorem slot_eq_none {memory : Memory α} {ptr i : Nat} (beyond : (memory.array ptr).length ≤ i) :
    memory.slot ptr i = none :=
  List.getElem?_eq_none beyond

theorem fits_put {memory : Memory α} {h : Header} (ptr i : Nat) (book : Book α) (fits : memory.Fits h) :
    (memory.put ptr i book).Fits h := by
  rw [Fits, length_array_put]
  exact fits

theorem array_append_old (memory : Memory α) (fresh : List (Book α)) {q : Nat} (old : q < memory.length) :
    (memory ++ [fresh]).array q = memory.array q := by
  simp only [array, List.getD_append _ _ _ _ old]

@[simp] theorem array_append_new (memory : Memory α) (fresh : List (Book α)) :
    (memory ++ [fresh]).array memory.length = fresh := by
  simp [array]

theorem view_append_new (memory : Memory α) (fresh : List (Book α)) (len cap : Nat) :
    (memory ++ [fresh]).view ⟨memory.length, len, cap⟩ = fresh.take len := by
  rw [view, array_append_new]

theorem array_beyond {memory : Memory α} {q : Nat} (beyond : memory.length ≤ q) : memory.array q = [] := by
  simp [array, List.getD_eq_getElem?_getD, List.getElem?_eq_none beyond]

theorem fits_append {memory : Memory α} {h : Header} (fresh : List (Book α)) (fits : memory.Fits h) :
    (memory ++ [fresh]).Fits h := by
  refine ⟨fits.1, ?_⟩
  by_cases old : h.ptr < memory.length
  · rw [array_append_old _ _ old]
    exact fits.2
  · have empty := fits.2
    rw [array_beyond (Nat.le_of_not_lt old)] at empty
    simp only [List.length_nil, Nat.le_zero] at empty
    omega

theorem view_append {memory : Memory α} {h : Header} (fresh : List (Book α)) (fits : memory.Fits h) :
    (memory ++ [fresh]).view h = memory.view h := by
  by_cases old : h.ptr < memory.length
  · rw [view, view, array_append_old _ _ old]
  · have empty := fits.2
    have := fits.1
    rw [array_beyond (Nat.le_of_not_lt old)] at empty
    simp only [List.length_nil, Nat.le_zero] at empty
    simp [view, show h.len = 0 by omega]

theorem length_view {memory : Memory α} {h : Header} (fits : memory.Fits h) : (memory.view h).length = h.len := by
  simp only [view, List.length_take]
  have := fits.1
  have := fits.2
  omega

theorem slot_view [Inhabited α] {memory : Memory α} {h : Header} {i : Nat} (fits : memory.Fits h) (within : i < h.len) :
    memory.slot h.ptr i = some ((memory.view h).getD i default) := by
  have inside : i < (memory.array h.ptr).length := by
    have := fits.1
    have := fits.2
    omega
  simp [slot, view, List.getD_eq_getElem?_getD, List.getElem?_take, within, List.getElem?_eq_getElem inside]

theorem view_put_outside (memory : Memory α) (h : Header) {ptr i : Nat} (book : Book α)
    (outside : ptr ≠ h.ptr ∨ h.len ≤ i) : (memory.put ptr i book).view h = memory.view h := by
  rw [view, view, array_put]
  split
  · rename_i same
    subst same
    have beyond : h.len ≤ i := outside.resolve_left (fun ne => ne rfl)
    rw [List.set_eq_take_append_cons_drop]
    split
    · rw [List.take_append_of_le_length (by simp; omega), List.take_take, min_eq_left beyond]
    · rfl
  · rfl

theorem view_put_within (memory : Memory α) (h : Header) (i : Nat) (book : Book α) :
    (memory.put h.ptr i book).view h = (memory.view h).set i book := by
  simp only [view, array_put, if_true, List.set_take]

theorem view_put_last (memory : Memory α) {h : Header} (book : Book α) (room : h.len < (memory.array h.ptr).length) :
    (memory.put h.ptr h.len book).view ⟨h.ptr, h.len + 1, h.cap⟩ = memory.view h ++ [book] := by
  simp only [view, array_put, if_pos rfl, List.set_eq_take_append_cons_drop, if_pos room]
  simp [List.take_append_eq_append_take, Nat.min_eq_left (Nat.le_of_lt room)]

theorem view_shorter (memory : Memory α) (h : Header) {len cap : Nat} (shorter : len ≤ h.len) :
    memory.view ⟨h.ptr, len, cap⟩ = (memory.view h).take len := by
  simp [view, List.take_take, Nat.min_eq_left shorter]

theorem eq_of_arrays {first second : Memory α} (length : first.length = second.length)
    (same : ∀ q < first.length, first.array q = second.array q) : first = second := by
  apply List.ext_getElem length
  intro q inFirst inSecond
  have arrays := same q inFirst
  rwa [array, array, List.getD_eq_getElem _ _ inFirst, List.getD_eq_getElem _ _ inSecond] at arrays

@[simp] theorem length_put (memory : Memory α) (ptr i : Nat) (book : Book α) :
    (memory.put ptr i book).length = memory.length :=
  List.length_set _ _ _

section Moved

variable [Inhabited α]

@[simp] theorem length_array_moved (memory : Memory α) (m : Move) (k q : Nat) :
    ((memory.moved m k).array q).length = (memory.array q).length := by
  induction k with
  | zero => rfl
  | succ k ih => rw [moved, length_array_put, ih]

@[simp] theorem length_moved (memory : Memory α) (m : Move) (k : Nat) : (memory.moved m k).length = memory.length := by
  induction k with
  | zero => rfl
  | succ k ih => rw [moved, length_put, ih]

theorem fits_moved {memory : Memory α} {h : Header} (m : Move) (k : Nat) (fits : memory.Fits h) :
    (memory.moved m k).Fits h := by
  rw [Fits, length_array_moved]
  exact fits

theorem array_moved_other (memory : Memory α) (m : Move) (k : Nat) {q : Nat} (other : q ≠ m.dst) :
    (memory.moved m k).array q = memory.array q := by
  induction k with
  | zero => rfl
  | succ k ih => rw [moved, array_put, if_neg other, ih]

theorem copy_step (source target : List (Book α)) {k : Nat} (inSource : k < source.length)
    (inTarget : k < target.length) :
    (source.take k ++ target.drop k).set k (source.getD k default) = source.take (k + 1) ++ target.drop (k + 1) := by
  have short : (source.take k).length = k := by simp; omega
  rw [List.set_append_right _ _ (by omega), short, Nat.sub_self, List.drop_eq_getElem_cons inTarget,
    List.set_cons_zero, List.take_succ, List.append_assoc, List.getD_eq_getElem _ _ inSource,
    List.getElem?_eq_getElem inSource]
  rfl

theorem array_moved_copy (memory : Memory α) {src dst count : Nat} (differ : src ≠ dst)
    (enough : count ≤ (memory.array src).length) (room : count ≤ (memory.array dst).length) {k : Nat}
    (started : k ≤ count) :
    (memory.moved ⟨src, 0, dst, 0, count⟩ k).array dst = (memory.array src).take k ++ (memory.array dst).drop k := by
  induction k with
  | zero => simp [moved]
  | succ k ih =>
      have read : (memory.moved ⟨src, 0, dst, 0, count⟩ k).slot src k = some ((memory.array src).getD k default) := by
        rw [slot, array_moved_other _ _ _ differ, List.getD_eq_getElem _ _ (by omega), List.getElem?_eq_getElem]
      simp only [moved, Nat.zero_add, read, Option.getD_some, array_put, if_pos rfl, ih (by omega)]
      exact copy_step _ _ (by omega) (by omega)

omit [Inhabited α] in
theorem put_append_new (memory : Memory α) (fresh : List (Book α)) (i : Nat) (book : Book α) :
    (memory ++ [fresh]).put memory.length i book = memory ++ [fresh.set i book] := by
  rw [put, array_append_new, List.set_append_right _ _ le_rfl, Nat.sub_self]
  rfl

theorem moved_grown (memory : Memory α) {h : Header} (fits : memory.Fits h) {cap : Nat} (room : h.len ≤ cap) :
    (memory ++ [List.replicate cap default]).moved ⟨h.ptr, 0, memory.length, 0, h.len⟩ h.len =
      memory ++ [memory.view h ++ List.replicate (cap - h.len) default] := by
  apply eq_of_arrays (by simp)
  intro q inside
  simp only [length_moved, List.length_append, List.length_singleton] at inside
  by_cases fresh : q = memory.length
  · subst fresh
    rw [array_append_new]
    by_cases empty : h.len = 0
    · simp [empty, moved, view]
    · have old : h.ptr < memory.length := by
        by_contra beyond
        have nothing := fits.2
        rw [array_beyond (Nat.le_of_not_lt beyond), List.length_nil] at nothing
        have := fits.1
        omega
      rw [array_moved_copy _ (Nat.ne_of_lt old) (by rw [array_append_old _ _ old]; exact Nat.le_trans fits.1 fits.2)
        (by simpa using room) le_rfl, array_append_old _ _ old, array_append_new, List.drop_replicate]
      rfl
  · rw [array_moved_other _ _ _ fresh, array_append_old _ _ (by omega), array_append_old _ _ (by omega)]

end Moved

end Memory

section Shift

variable {α : Type} [Inhabited α]

omit [Inhabited α] in
theorem shift_start (books : List (Book α)) {index : Nat} (within : index < books.length) :
    (books.eraseIdx index).take index ++ books.drop index = books := by
  rw [List.eraseIdx_eq_take_drop_succ, List.take_append_of_le_length (by simp; omega),
    List.take_take, min_self, List.take_append_drop]

theorem shift_step (books : List (Book α)) {index j : Nat} (started : index ≤ j) (inside : j + 1 < books.length) :
    ((books.eraseIdx index).take j ++ books.drop j).set j (books.getD (j + 1) default) =
      (books.eraseIdx index).take (j + 1) ++ books.drop (j + 1) := by
  rw [List.eraseIdx_eq_take_drop_succ]
  have short : ((books.take index ++ books.drop (index + 1)).take j).length = j := by
    simp; omega
  rw [List.set_append_right _ _ (by omega), short, Nat.sub_self,
    List.drop_eq_getElem_cons (show j < books.length by omega), List.set_cons_zero, List.take_succ,
    List.append_assoc]
  congr 1
  have moved : (books.take index ++ books.drop (index + 1))[j]? = books[j + 1]? := by
    rw [List.getElem?_append_right (by simp; omega), List.getElem?_drop]
    congr 1
    simp; omega
  simp [moved, List.getD_eq_getElem?_getD, List.getElem?_eq_getElem inside]

omit [Inhabited α] in
theorem shift_source (books : List (Book α)) {index j : Nat} (started : index ≤ j) (inside : j + 1 < books.length) :
    ((books.eraseIdx index).take j ++ books.drop j)[j + 1]? = books[j + 1]? := by
  have short : ((books.eraseIdx index).take j).length = j := by
    simp [List.length_eraseIdx_of_lt (show index < books.length by omega)]; omega
  rw [List.getElem?_append_right (by omega), short, List.getElem?_drop]
  congr 1
  omega

theorem Memory.array_moved_shift (memory : Memory α) {ptr index count : Nat}
    (inside : index + 1 + count ≤ (memory.array ptr).length) {k : Nat} (started : k ≤ count) :
    (memory.moved ⟨ptr, index + 1, ptr, index, count⟩ k).array ptr =
      ((memory.array ptr).eraseIdx index).take (index + k) ++ (memory.array ptr).drop (index + k) := by
  induction k with
  | zero => exact (shift_start (memory.array ptr) (by omega)).symm
  | succ k ih =>
      have read : (memory.moved ⟨ptr, index + 1, ptr, index, count⟩ k).slot ptr (index + 1 + k) =
          some ((memory.array ptr).getD (index + k + 1) default) := by
        rw [Memory.slot, ih (by omega), show index + 1 + k = index + k + 1 by omega,
          shift_source _ (by omega) (by omega), List.getD_eq_getElem?_getD, List.getElem?_eq_getElem (by omega)]
        rfl
      simp only [Memory.moved, read, Option.getD_some, Memory.array_put, ↓reduceIte, ih (by omega)]
      rw [shift_step _ (by omega) (by omega), Nat.add_assoc]

omit [Inhabited α] in
theorem take_erase_idx (books : List (Book α)) {index len : Nat} (within : index < len) :
    (books.eraseIdx index).take (len - 1) = (books.take len).eraseIdx index := by
  apply List.ext_getElem?
  intro j
  simp only [List.getElem?_take, List.getElem?_eraseIdx]
  split_ifs <;> first | rfl | omega

omit [Inhabited α] in
theorem shift_done (books : List (Book α)) {index len : Nat} (within : index < len) (bounded : len ≤ books.length) :
    ((books.eraseIdx index).take (len - 1) ++ books.drop (len - 1)).take (len - 1) = (books.take len).eraseIdx index := by
  have spliced := List.length_eraseIdx_of_lt (show index < books.length by omega)
  rw [List.take_left' (by rw [List.length_take, spliced]; omega), take_erase_idx books within]

theorem shift_kept (books : List (Book α)) {index len : Nat} (within : index < len) (bounded : len ≤ books.length) :
    ((books.eraseIdx index).take (len - 1) ++ books.drop (len - 1)).take len =
      (books.take len).eraseIdx index ++ [(books.take len).getD (len - 1) default] := by
  have spliced := List.length_eraseIdx_of_lt (show index < books.length by omega)
  rw [List.take_append_eq_append_take, List.take_of_length_le (by rw [List.length_take]; omega), List.length_take,
    spliced, take_erase_idx books within, show len - min (len - 1) (books.length - 1) = 1 by omega,
    List.getD_eq_getElem _ _ (by rw [List.length_take]; omega), List.take_one, List.head?_drop,
    List.getElem?_eq_getElem (by omega), List.getElem_take]
  rfl

end Shift

end BookHandlers
