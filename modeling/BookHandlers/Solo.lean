import Mathlib
import BookHandlers.Goroutines

set_option autoImplicit false

/- A goroutine that runs alone. soloRun gives where n steps of one goroutine leave it and
   the shared state when no other goroutine moves in between; the lemmas below say where
   each stretch of a handler ends, from any state in which the headers it holds lie within
   their arrays. Each is stated for n more steps after the stretch, so that they chain and
   so that a goroutine that has returned stays where it is. Alone from its start, each
   handler ends as the serial handler does on the view of mocks.Books: the same response,
   and mocks.Books within its array, viewing the serial result. -/
namespace BookHandlers

open Strconv

variable {α : Type} [Inhabited α] (unmarshal : Bytes → Book α → Book α × Option String)
  (growCap : Nat → Nat → Nat) (request : Request)

section Phases

theorem solo_run_zero (pc : Pc α) (s : Shared α) : soloRun unmarshal growCap request 0 pc s = (pc, s) :=
  rfl

theorem solo_begin (s : Shared α) (n : Nat) :
    soloRun unmarshal growCap request (n + 1) .start s =
      soloRun unmarshal growCap request n (request.begin unmarshal) s :=
  rfl

theorem solo_load (site : Site α) (s : Shared α) (n : Nat) :
    soloRun unmarshal growCap request (3 + n) (.loadPtr site) s =
      soloRun unmarshal growCap request n (site.loaded s.books) s := by
  rw [Nat.add_comm]
  rfl

theorem solo_load_len (site : Site α) (ptr : Nat) (s : Shared α) (n : Nat) :
    soloRun unmarshal growCap request (2 + n) (.loadLen site ptr) s =
      soloRun unmarshal growCap request n (site.loaded ⟨ptr, s.books.len, s.books.cap⟩) s := by
  rw [Nat.add_comm]
  rfl

theorem solo_range_one (lookup : Lookup) {h : Header} {s : Shared α} (fits : s.memory.Fits h) {k : Nat}
    (within : k < h.len) (n : Nat) :
    soloRun unmarshal growCap request (2 + n) (.rangeID lookup h k) s =
      soloRun unmarshal growCap request n
        (if ((s.memory.view h).getD k default).ID = lookup.id then lookup.found k ((s.memory.view h).getD k default)
          else .rangeID lookup h (k + 1)) s := by
  have read := Memory.slot_view fits within
  rw [show 2 + n = n + 1 + 1 by omega, solo_run_succ unmarshal growCap (step_range_id unmarshal growCap lookup within read),
    solo_run_succ unmarshal growCap (step_range_fields unmarshal growCap lookup read)]

theorem solo_range_end (lookup : Lookup) (h : Header) (s : Shared α) (n : Nat) :
    soloRun unmarshal growCap request (1 + n) (.rangeID lookup h h.len) s = (.done .empty, s) := by
  rw [Nat.add_comm, solo_run_succ unmarshal growCap (step_range_end unmarshal growCap lookup le_rfl), solo_run_done]

theorem solo_scan (lookup : Lookup) {h : Header} {s : Shared α} (fits : s.memory.Fits h) (k m n : Nat)
    (within : k + m ≤ h.len)
    (misses : ∀ j, k ≤ j → j < k + m → ((s.memory.view h).getD j default).ID ≠ lookup.id) :
    soloRun unmarshal growCap request (2 * m + n) (.rangeID lookup h k) s =
      soloRun unmarshal growCap request n (.rangeID lookup h (k + m)) s := by
  induction m generalizing k with
  | zero => simp only [Nat.mul_zero, Nat.zero_add, Nat.add_zero]
  | succ m ih =>
      rw [show 2 * (m + 1) + n = 2 + (2 * m + n) by omega,
        solo_range_one unmarshal growCap request lookup fits (by omega), if_neg (misses k le_rfl (by omega)),
        ih (k + 1) (by omega) fun j low high => misses j (by omega) (by omega), Nat.add_assoc, Nat.add_comm 1 m]

theorem solo_get_book_scan (id : Int) {h : Header} {s : Shared α} (fits : s.memory.Fits h) (k n : Nat)
    (bounded : k ≤ h.len) :
    soloRun unmarshal growCap request (2 * (h.len - k) + 1 + n) (.rangeID (.get id) h k) s =
      (.done (getBookLoop id ((s.memory.view h).drop k)), s) := by
  have length := Memory.length_view fits
  generalize remaining : h.len - k = d
  induction d generalizing k with
  | zero =>
      rw [show k = h.len by omega, List.drop_of_length_le (by omega), Nat.mul_zero, Nat.zero_add, solo_range_end]
      rfl
  | succ d ih =>
      rw [show 2 * (d + 1) + 1 + n = 2 + (2 * d + 1 + n) by omega,
        solo_range_one unmarshal growCap request _ fits (by omega),
        List.drop_eq_getElem_cons (by omega), ← List.getD_eq_getElem _ default (by omega), getBookLoop]
      by_cases matched : ((s.memory.view h).getD k default).ID = id
      · simp only [Lookup.id, Lookup.found, if_pos matched, solo_run_done]
      · simp only [Lookup.id, if_neg matched]
        exact ih (k + 1) (by omega) (by omega)

theorem solo_encode {h : Header} {s : Shared α} (fits : s.memory.Fits h) (k n : Nat) (bounded : k ≤ h.len) :
    soloRun unmarshal growCap request (2 * (h.len - k) + 1 + n) (.encodeID h ((s.memory.view h).take k)) s =
      (.done (jsonResponse statusOK (.books (s.memory.view h))), s) := by
  have length := Memory.length_view fits
  generalize remaining : h.len - k = d
  induction d generalizing k with
  | zero =>
      have whole : (s.memory.view h).take k = s.memory.view h := List.take_of_length_le (by omega)
      rw [whole, Nat.mul_zero, Nat.zero_add, Nat.add_comm,
        solo_run_succ unmarshal growCap (step_encode_end unmarshal growCap (by omega)), solo_run_done]
  | succ d ih =>
      have short : ((s.memory.view h).take k).length = k := by simp; omega
      have read : s.memory.slot h.ptr ((s.memory.view h).take k).length = some ((s.memory.view h).getD k default) := by
        rw [short]
        exact Memory.slot_view fits (by omega)
      have next : (s.memory.view h).take k ++ [⟨((s.memory.view h).getD k default).ID,
          ((s.memory.view h).getD k default).fields⟩] = (s.memory.view h).take (k + 1) := by
        rw [List.take_succ, List.getElem?_eq_getElem (by omega), ← List.getD_eq_getElem _ default (by omega)]
        rfl
      rw [show 2 * (d + 1) + 1 + n = (2 * d + 1 + n) + 1 + 1 by omega,
        solo_run_succ unmarshal growCap (step_encode_id unmarshal growCap (by omega) read),
        solo_run_succ unmarshal growCap (step_encode_fields unmarshal growCap read), next,
        ih (k + 1) (by omega) (by omega)]

theorem solo_move_one (next : Then α) (m : Move) (k : Nat) {s : Shared α} (within : k < m.count)
    (readable : m.srcAt + k < (s.memory.array m.src).length) (writable : m.dstAt + k < (s.memory.array m.dst).length)
    (n : Nat) :
    soloRun unmarshal growCap request (4 + n) (.moveID next m k) s =
      soloRun unmarshal growCap request n (.moveID next m (k + 1))
        ⟨s.memory.put m.dst (m.dstAt + k) ((s.memory.slot m.src (m.srcAt + k)).getD default), s.books⟩ := by
  obtain ⟨source, read⟩ := Memory.slot_of_lt readable
  obtain ⟨target, present⟩ := Memory.slot_of_lt writable
  have reread : ((s.memory.put m.dst (m.dstAt + k) { target with ID := source.ID }).slot m.src (m.srcAt + k)).map
      Book.fields = some source.fields := by
    by_cases same : m.src = m.dst ∧ m.srcAt + k = m.dstAt + k
    · rw [same.1, same.2, Memory.slot_put_self _ writable]
      rw [same.1, same.2, present] at read
      cases read
      rfl
    · rw [Memory.slot_put_other _ _ (not_and_or.mp same), read]
      rfl
  obtain ⟨copy, copied, sameFields⟩ : ∃ copy, (s.memory.put m.dst (m.dstAt + k) { target with ID := source.ID }).slot
      m.src (m.srcAt + k) = some copy ∧ copy.fields = source.fields := by
    cases found : (s.memory.put m.dst (m.dstAt + k) { target with ID := source.ID }).slot m.src (m.srcAt + k) with
    | none => rw [found] at reread; cases reread
    | some copy => rw [found] at reread; exact ⟨copy, rfl, Option.some.inj reread⟩
  have stored : (s.memory.put m.dst (m.dstAt + k) { target with ID := source.ID }).slot m.dst (m.dstAt + k) =
      some { target with ID := source.ID } := Memory.slot_put_self _ writable
  rw [show 4 + n = n + 1 + 1 + 1 + 1 by omega, solo_run_succ unmarshal growCap (step_move_id unmarshal growCap within read),
    solo_run_succ unmarshal growCap (step_move_id_store unmarshal growCap present),
    solo_run_succ unmarshal growCap (step_move_fields unmarshal growCap copied),
    solo_run_succ unmarshal growCap (step_move_fields_store unmarshal growCap stored), Memory.put_put, sameFields, read]
  rfl

theorem solo_move (next : Then α) (m : Move) (memory : Memory α) (books : Header)
    (readable : m.srcAt + m.count ≤ (memory.array m.src).length)
    (writable : m.dstAt + m.count ≤ (memory.array m.dst).length) (k n : Nat) (started : k ≤ m.count) :
    soloRun unmarshal growCap request (4 * (m.count - k) + 1 + n) (.moveID next m k) ⟨memory.moved m k, books⟩ =
      soloRun unmarshal growCap request n next.next ⟨memory.moved m m.count, books⟩ := by
  generalize remaining : m.count - k = d
  induction d generalizing k with
  | zero =>
      rw [show k = m.count by omega, Nat.mul_zero, Nat.zero_add, Nat.add_comm,
        solo_run_succ unmarshal growCap (step_move_end unmarshal growCap le_rfl)]
  | succ d ih =>
      rw [show 4 * (d + 1) + 1 + n = 4 + (4 * d + 1 + n) by omega,
        solo_move_one unmarshal growCap request next m k (by omega)
          (by rw [Memory.length_array_moved]; omega) (by rw [Memory.length_array_moved]; omega)]
      exact ih (k + 1) (by omega) (by omega)

theorem solo_move_all (next : Then α) {src srcAt dst dstAt count : Nat} (s : Shared α)
    (readable : srcAt + count ≤ (s.memory.array src).length) (writable : dstAt + count ≤ (s.memory.array dst).length)
    (n : Nat) :
    soloRun unmarshal growCap request (4 * count + 1 + n) (.moveID next ⟨src, srcAt, dst, dstAt, count⟩ 0) s =
      soloRun unmarshal growCap request n next.next ⟨s.memory.moved ⟨src, srcAt, dst, dstAt, count⟩ count, s.books⟩ :=
  solo_move unmarshal growCap request next ⟨src, srcAt, dst, dstAt, count⟩ s.memory s.books readable writable 0 n
    (Nat.zero_le _)

theorem solo_store_book (t : Header) (book : Book α) (memory : Memory α) (books : Header) {slot : Book α}
    (present : memory.slot t.ptr (t.len - 1) = some slot) (n : Nat) :
    soloRun unmarshal growCap request (2 + n) (.storeBookID t book) ⟨memory, books⟩ =
      (.done created, ⟨memory.put t.ptr (t.len - 1) book, books⟩) := by
  have inside : t.len - 1 < (memory.array t.ptr).length := (List.getElem?_eq_some_iff.mp present).1
  have stored : (memory.put t.ptr (t.len - 1) { slot with ID := book.ID }).slot t.ptr (t.len - 1) =
      some { slot with ID := book.ID } := Memory.slot_put_self _ inside
  rw [show 2 + n = n + 1 + 1 by omega,
    solo_run_succ unmarshal growCap (step_store_book_id unmarshal growCap (s := ⟨memory, books⟩) present)]
  dsimp only
  rw [solo_run_succ unmarshal growCap
      (step_store_book_fields unmarshal growCap (s := ⟨memory.put t.ptr (t.len - 1) { slot with ID := book.ID }, books⟩)
        stored), solo_run_done, Memory.put_put]

theorem solo_append_in_place (book : Book α) {h : Header} {s : Shared α} (fits : s.memory.Fits h)
    (room : h.len + 1 ≤ h.cap) (n : Nat) :
    soloRun unmarshal growCap request (3 + n) ((Site.append book).loaded h) s =
      (.done created, ⟨s.memory.put h.ptr h.len book, { s.books with len := h.len + 1 }⟩) := by
  obtain ⟨target, present⟩ := Memory.slot_of_lt (show h.len < (s.memory.array h.ptr).length by
    have := fits.2
    omega)
  rw [Site.loaded, if_pos room, show 3 + n = (2 + n) + 1 by omega,
    solo_run_succ unmarshal growCap (step_store_len unmarshal growCap ⟨h.ptr, h.len + 1, h.cap⟩ book s),
    solo_store_book unmarshal growCap request ⟨h.ptr, h.len + 1, h.cap⟩ book s.memory _ present]
  rfl

theorem set_after_front (front : List (Book α)) (book : Book α) {k : Nat} (more : 0 < k) :
    (front ++ List.replicate k default).set front.length book = front ++ book :: List.replicate (k - 1) default := by
  obtain ⟨k, rfl⟩ : ∃ j, k = j + 1 := ⟨k - 1, by omega⟩
  rw [List.set_append_right _ _ le_rfl, Nat.sub_self, List.replicate_succ, List.set_cons_zero, Nat.add_sub_cancel]

theorem solo_append_grown (book : Book α) {h : Header} {s : Shared α} (fits : s.memory.Fits h)
    (full : h.cap < h.len + 1) (grows : h.len + 1 ≤ growCap (h.len + 1) h.cap) (n : Nat) :
    soloRun unmarshal growCap request (4 * h.len + 7 + n) ((Site.append book).loaded h) s =
      (.done created, ⟨s.memory ++ [s.memory.view h ++ book :: List.replicate (growCap (h.len + 1) h.cap - (h.len + 1)) default],
        ⟨s.memory.length, h.len + 1, growCap (h.len + 1) h.cap⟩⟩) := by
  have length := Memory.length_view fits
  have room : h.len ≤ growCap (h.len + 1) h.cap := by omega
  have copied := Memory.moved_grown s.memory fits room
  have readable : 0 + h.len ≤ ((s.memory ++ [List.replicate (growCap (h.len + 1) h.cap) default]).array h.ptr).length := by
    have grown := Memory.fits_append (List.replicate (growCap (h.len + 1) h.cap) default) fits
    have := grown.1
    have := grown.2
    omega
  have present : (s.memory ++ [s.memory.view h ++ List.replicate (growCap (h.len + 1) h.cap - h.len) default]).slot
      s.memory.length (h.len + 1 - 1) = some default := by
    rw [Nat.add_sub_cancel, Memory.slot, Memory.array_append_new, List.getElem?_append_right (by omega), length,
      Nat.sub_self, List.getElem?_replicate, if_pos (by omega)]
  rw [Site.loaded, if_neg (by omega), show 4 * h.len + 7 + n = (4 * h.len + 1 + (3 + (2 + n))) + 1 by omega,
    solo_run_succ unmarshal growCap (step_grow unmarshal growCap _ _ _ s),
    solo_move_all unmarshal growCap request _ _ readable (by simpa using room)]
  dsimp only [Growth.then, Then.next]
  rw [copied, show 3 + (2 + n) = (2 + n) + 1 + 1 + 1 by omega]
  show soloRun unmarshal growCap request (2 + n) (.storeBookID ⟨s.memory.length, h.len + 1, growCap (h.len + 1) h.cap⟩ book)
    ⟨s.memory ++ [s.memory.view h ++ List.replicate (growCap (h.len + 1) h.cap - h.len) default],
      ⟨s.memory.length, h.len + 1, growCap (h.len + 1) h.cap⟩⟩ = _
  have placed := set_after_front (s.memory.view h) book (show 0 < growCap (h.len + 1) h.cap - h.len by omega)
  rw [length] at placed
  rw [solo_store_book unmarshal growCap request _ book _ _ present, Nat.add_sub_cancel, Memory.put_append_new,
    placed, Nat.sub_sub]

theorem solo_assign (t : Header) (s : Shared α) (n : Nat) :
    soloRun unmarshal growCap request (3 + n) (.assignPtr t) s =
      (.done (jsonResponse statusOK (.text "Deleted")), ⟨s.memory, t⟩) := by
  have steps : soloRun unmarshal growCap request (n + 3) (.assignPtr t) s =
      soloRun unmarshal growCap request n (.done (jsonResponse statusOK (.text "Deleted"))) ⟨s.memory, t⟩ := rfl
  rw [Nat.add_comm, steps, solo_run_done]

theorem solo_splice_to_assign (index : Nat) {s : Shared α} (fits : s.memory.Fits s.books)
    (within : index < s.books.len) (n : Nat) :
    soloRun unmarshal growCap request (4 * (s.books.len - (index + 1)) + 7 + n) (.loadPtr (.low index)) s =
      soloRun unmarshal growCap request n (.assignPtr ⟨s.books.ptr, s.books.len - 1, s.books.cap⟩)
        ⟨s.memory.moved ⟨s.books.ptr, index + 1, s.books.ptr, index, s.books.len - (index + 1)⟩
          (s.books.len - (index + 1)), s.books⟩ := by
  have short := fits.1
  have bounded := Nat.le_trans fits.1 fits.2
  rw [show 4 * (s.books.len - (index + 1)) + 7 + n = 3 + (3 + (4 * (s.books.len - (index + 1)) + 1 + n)) by omega,
    solo_load, Site.loaded, if_pos (by omega), solo_load, Site.loaded, if_pos (by omega), if_pos (by omega),
    solo_move_all unmarshal growCap request _ _ (by omega) (by omega),
    show index + (s.books.len - (index + 1)) = s.books.len - 1 by omega]
  rfl

theorem solo_splice_panics (index : Nat) (s : Shared α) (room : index ≤ s.books.cap)
    (short : s.books.len < index + 1) (n : Nat) :
    soloRun unmarshal growCap request (6 + n) (.loadPtr (.low index)) s = (.panicked, s) := by
  rw [show 6 + n = 3 + (3 + n) by omega, solo_load, Site.loaded, if_pos room, solo_load, Site.loaded,
    if_neg (by omega)]
  exact solo_run_stuck unmarshal growCap (by rfl) n

theorem view_spliced (memory : Memory α) {h : Header} (fits : memory.Fits h) {index : Nat} (within : index < h.len) :
    (memory.moved ⟨h.ptr, index + 1, h.ptr, index, h.len - (index + 1)⟩ (h.len - (index + 1))).view
      ⟨h.ptr, h.len - 1, h.cap⟩ = (memory.view h).eraseIdx index := by
  have bounded := Nat.le_trans fits.1 fits.2
  rw [Memory.view, Memory.array_moved_shift _ (by omega) le_rfl, show index + (h.len - (index + 1)) = h.len - 1 by omega]
  exact shift_done _ within bounded

theorem fits_spliced (memory : Memory α) {h : Header} (fits : memory.Fits h) (m : Move) (k : Nat) :
    (memory.moved m k).Fits ⟨h.ptr, h.len - 1, h.cap⟩ :=
  Memory.fits_moved m k ⟨by have := fits.1; dsimp only; omega, fits.2⟩

theorem view_spliced_old (memory : Memory α) {h : Header} (fits : memory.Fits h) {index : Nat} (within : index < h.len) :
    (memory.moved ⟨h.ptr, index + 1, h.ptr, index, h.len - (index + 1)⟩ (h.len - (index + 1))).view h =
      (memory.view h).eraseIdx index ++ [(memory.view h).getD (h.len - 1) default] := by
  have bounded := Nat.le_trans fits.1 fits.2
  rw [Memory.view, Memory.array_moved_shift _ (by omega) le_rfl, show index + (h.len - (index + 1)) = h.len - 1 by omega]
  exact shift_kept _ within bounded

theorem solo_splice_end (index : Nat) {s : Shared α} (fits : s.memory.Fits s.books) (within : index < s.books.len)
    (n : Nat) :
    ∃ memory, soloRun unmarshal growCap request (4 * (s.books.len - index) + 6 + n) (.loadPtr (.low index)) s =
        (.done (jsonResponse statusOK (.text "Deleted")), ⟨memory, ⟨s.books.ptr, s.books.len - 1, s.books.cap⟩⟩) ∧
      memory.Fits s.books ∧ memory.Fits ⟨s.books.ptr, s.books.len - 1, s.books.cap⟩ ∧
      memory.view ⟨s.books.ptr, s.books.len - 1, s.books.cap⟩ = (s.memory.view s.books).eraseIdx index ∧
      memory.view s.books =
        (s.memory.view s.books).eraseIdx index ++ [(s.memory.view s.books).getD (s.books.len - 1) default] :=
  ⟨_, by rw [show 4 * (s.books.len - index) + 6 + n = 4 * (s.books.len - (index + 1)) + 7 + (3 + n) by omega,
      solo_splice_to_assign unmarshal growCap request index fits within, solo_assign],
    Memory.fits_moved _ _ fits, fits_spliced _ fits _ _, view_spliced _ fits within, view_spliced_old _ fits within⟩

theorem solo_delete_to_splice (vars : Vars) {s : Shared α} (fits : s.memory.Fits s.books) {index : Nat}
    (within : index < s.books.len)
    (matched : ((s.memory.view s.books).getD index default).ID = (atoi (idParam vars)).1)
    (misses : ∀ j < index, ((s.memory.view s.books).getD j default).ID ≠ (atoi (idParam vars)).1) (n : Nat) :
    soloRun unmarshal growCap (.deleteBook vars) (2 * index + 6 + n) .start s =
      soloRun unmarshal growCap (.deleteBook vars) n (.loadPtr (.low index)) s := by
  have found := solo_range_one unmarshal growCap (.deleteBook vars) (.delete (atoi (idParam vars)).1) fits within n
  simp only [Lookup.id, Lookup.found, if_pos matched] at found
  rw [show 2 * index + 6 + n = 3 + (2 * index + (2 + n)) + 1 by omega, solo_begin, Request.begin, solo_load, Site.loaded,
    solo_scan unmarshal growCap _ (.delete (atoi (idParam vars)).1) fits 0 index _ (by omega)
      fun j _ high => misses j (by omega), Nat.zero_add, found]

theorem solo_delete (vars : Vars) {s : Shared α} (fits : s.memory.Fits s.books) {index : Nat}
    (within : index < s.books.len)
    (matched : ((s.memory.view s.books).getD index default).ID = (atoi (idParam vars)).1)
    (misses : ∀ j < index, ((s.memory.view s.books).getD j default).ID ≠ (atoi (idParam vars)).1) (n : Nat) :
    ∃ memory, soloRun unmarshal growCap (.deleteBook vars) (4 * s.books.len + 14 + n) .start s =
        (.done (jsonResponse statusOK (.text "Deleted")), ⟨memory, ⟨s.books.ptr, s.books.len - 1, s.books.cap⟩⟩) ∧
      memory.Fits s.books ∧ memory.Fits ⟨s.books.ptr, s.books.len - 1, s.books.cap⟩ ∧
      memory.view ⟨s.books.ptr, s.books.len - 1, s.books.cap⟩ = (s.memory.view s.books).eraseIdx index ∧
      memory.view s.books =
        (s.memory.view s.books).eraseIdx index ++ [(s.memory.view s.books).getD (s.books.len - 1) default] := by
  obtain ⟨memory, ran, kept⟩ := solo_splice_end unmarshal growCap (.deleteBook vars) index fits within (2 * index + 2 + n)
  refine ⟨memory, ?_, kept⟩
  rw [show 4 * s.books.len + 14 + n = 2 * index + 6 + (4 * (s.books.len - index) + 6 + (2 * index + 2 + n)) by omega,
    solo_delete_to_splice unmarshal growCap vars fits within matched misses, ran]

theorem solo_get_to (vars : Vars) {s : Shared α} (fits : s.memory.Fits s.books) {found : Nat}
    (bounded : found ≤ s.books.len)
    (misses : ∀ j < found, ((s.memory.view s.books).getD j default).ID ≠ (atoi (idParam vars)).1) (n : Nat) :
    soloRun unmarshal growCap (.getBook vars) (2 * found + 4 + n) .start s =
      soloRun unmarshal growCap (.getBook vars) n (.rangeID (.get (atoi (idParam vars)).1) s.books found) s := by
  rw [show 2 * found + 4 + n = 3 + (2 * found + n) + 1 by omega, solo_begin, Request.begin, solo_load, Site.loaded,
    solo_scan unmarshal growCap _ (.get (atoi (idParam vars)).1) fits 0 found n (by omega)
      fun j _ high => misses j (by omega), Nat.zero_add]

theorem solo_get_all {s : Shared α} (fits : s.memory.Fits s.books) (n : Nat) :
    soloRun unmarshal growCap .getAllBooks (2 * s.books.len + 5 + n) .start s =
      (.done (jsonResponse statusOK (.books (s.memory.view s.books))), s) := by
  rw [show 2 * s.books.len + 5 + n = 3 + (2 * (s.books.len - 0) + 1 + n) + 1 by omega, solo_begin, Request.begin,
    solo_load]
  exact solo_encode unmarshal growCap _ fits 0 n (Nat.zero_le _)

theorem solo_append_loaded (grows : ∀ len cap, len ≤ growCap len cap) (book : Book α) {h : Header} {s : Shared α}
    (fits : s.memory.Fits h) (held : h.len + 1 ≤ h.cap → s.books.ptr = h.ptr ∧ s.books.cap = h.cap) (n : Nat) :
    ∃ s', soloRun unmarshal growCap request (4 * h.len + 7 + n) ((Site.append book).loaded h) s = (.done created, s') ∧
      s'.memory.Fits s'.books ∧ s'.memory.view s'.books = s.memory.view h ++ [book] ∧
      s'.memory.Fits h ∧ s'.memory.view h = s.memory.view h ∧
      (h.len + 1 ≤ h.cap → s'.books.ptr = h.ptr ∧ s'.books.cap = h.cap) := by
  have length := Memory.length_view fits
  have capped := fits.2
  by_cases room : h.len + 1 ≤ h.cap
  · obtain ⟨ptr, cap⟩ := held room
    refine ⟨⟨s.memory.put h.ptr h.len book, ⟨h.ptr, h.len + 1, h.cap⟩⟩, ?_,
      ⟨room, by rw [Memory.length_array_put]; exact fits.2⟩, Memory.view_put_last _ _ (by omega),
      Memory.fits_put _ _ _ fits, Memory.view_put_outside _ _ _ (.inr le_rfl), fun _ => ⟨rfl, rfl⟩⟩
    rw [show 4 * h.len + 7 + n = 3 + (4 * h.len + 4 + n) by omega,
      solo_append_in_place unmarshal growCap request book fits room, ← ptr, ← cap]
  · refine ⟨⟨s.memory ++ [s.memory.view h ++ book :: List.replicate (growCap (h.len + 1) h.cap - (h.len + 1)) default],
      ⟨s.memory.length, h.len + 1, growCap (h.len + 1) h.cap⟩⟩,
      solo_append_grown unmarshal growCap request book fits (by omega) (grows _ _) n, ⟨grows _ _, by simp; omega⟩, ?_,
      Memory.fits_append _ fits, Memory.view_append _ fits, fun fits => absurd fits room⟩
    rw [Memory.view_append_new, List.take_append_eq_append_take, List.take_of_length_le (by omega), length,
      Nat.add_sub_cancel_left]
    rfl

theorem solo_delete_scan (id : Int) {s : Shared α} (fits : s.memory.Fits s.books) (k n : Nat)
    (bounded : k ≤ s.books.len) :
    ∃ s', soloRun unmarshal growCap request (4 * (s.books.len - k) + 10 + n) (.rangeID (.delete id) s.books k) s =
        (.done (deleteBookLoop id (s.memory.view s.books) k ((s.memory.view s.books).drop k)).2, s') ∧
      s'.memory.Fits s'.books ∧
      s'.memory.view s'.books = (deleteBookLoop id (s.memory.view s.books) k ((s.memory.view s.books).drop k)).1 := by
  have length := Memory.length_view fits
  generalize remaining : s.books.len - k = d
  induction d generalizing k n with
  | zero =>
      refine ⟨s, ?_, fits, ?_⟩ <;>
        rw [show k = s.books.len by omega, List.drop_of_length_le (by omega)]
      · rw [show 4 * 0 + 10 + n = 1 + (n + 9) by omega, solo_range_end]
        rfl
      · rfl
  | succ d ih =>
      have step := solo_range_one unmarshal growCap request (.delete id) fits (show k < s.books.len by omega)
      simp only [Lookup.id, Lookup.found] at step
      rw [List.drop_eq_getElem_cons (by omega), ← List.getD_eq_getElem _ default (by omega), deleteBookLoop]
      by_cases matched : ((s.memory.view s.books).getD k default).ID = id
      · simp only [if_pos matched] at step ⊢
        refine ⟨⟨s.memory.moved ⟨s.books.ptr, k + 1, s.books.ptr, k, s.books.len - (k + 1)⟩ (s.books.len - (k + 1)),
          ⟨s.books.ptr, s.books.len - 1, s.books.cap⟩⟩, ?_, fits_spliced s.memory fits _ _, ?_⟩
        · rw [show 4 * (d + 1) + 10 + n = 2 + (4 * (s.books.len - (k + 1)) + 7 + (3 + (n + 2))) by omega, step,
            solo_splice_to_assign unmarshal growCap request k fits (by omega), solo_assign]
        · rw [view_spliced s.memory fits (show k < s.books.len by omega), List.eraseIdx_eq_take_drop_succ]
      · simp only [if_neg matched] at step ⊢
        rw [show 4 * (d + 1) + 10 + n = 2 + (4 * d + 10 + (n + 2)) by omega, step]
        exact ih (k + 1) (n + 2) (by omega) (by omega)

end Phases

section Handlers

theorem solo_refines (grows : ∀ len cap, len ≤ growCap len cap) {s : Shared α} (fits : s.memory.Fits s.books)
    (n : Nat) :
    (∀ next response, handle unmarshal (s.memory.view s.books) request = some (next, response) →
      ∃ s', soloRun unmarshal growCap request (4 * s.books.len + 14 + n) .start s = (.done response, s') ∧
        s'.memory.Fits s'.books ∧ s'.memory.view s'.books = next) ∧
    (handle unmarshal (s.memory.view s.books) request = none →
      soloRun unmarshal growCap request (4 * s.books.len + 14 + n) .start s = (.exited, s)) := by
  cases request with
  | addBooks read draw =>
      cases read with
      | error failure =>
          refine ⟨fun _ _ handled => (by cases handled), fun _ => ?_⟩
          rw [show 4 * s.books.len + 14 + n = (4 * s.books.len + 13 + n) + 1 by omega, solo_begin]
          exact solo_run_exited unmarshal growCap _ s _
      | ok body =>
          refine ⟨fun next response handled => ?_, fun handled => by cases handled⟩
          simp only [handle, addBooks, Option.some.injEq, Prod.mk.injEq] at handled
          obtain ⟨rfl, rfl⟩ := handled
          obtain ⟨s', ran, fits', viewed, -⟩ := solo_append_loaded unmarshal growCap (.addBooks (.ok body) draw) grows
            (newBook unmarshal body draw) fits (fun _ => ⟨rfl, rfl⟩) (n + 3)
          refine ⟨s', ?_, fits', viewed⟩
          rw [show 4 * s.books.len + 14 + n = 3 + (4 * s.books.len + 7 + (n + 3)) + 1 by omega, solo_begin,
            Request.begin, solo_load, ran]
          rfl
  | getAllBooks =>
      refine ⟨fun next response handled => ?_, fun handled => by cases handled⟩
      simp only [handle, Option.some.injEq, Prod.mk.injEq] at handled
      obtain ⟨rfl, rfl⟩ := handled
      refine ⟨s, ?_, fits, rfl⟩
      rw [show 4 * s.books.len + 14 + n = 2 * s.books.len + 5 + (2 * s.books.len + 9 + n) by omega,
        solo_get_all unmarshal growCap fits]
      rfl
  | getBook vars =>
      refine ⟨fun next response handled => ?_, fun handled => by cases handled⟩
      simp only [handle, Option.some.injEq, Prod.mk.injEq] at handled
      obtain ⟨rfl, rfl⟩ := handled
      refine ⟨s, ?_, fits, rfl⟩
      rw [show 4 * s.books.len + 14 + n = 2 * 0 + 4 + (2 * (s.books.len - 0) + 1 + (2 * s.books.len + 9 + n)) by omega,
        solo_get_to unmarshal growCap vars fits (Nat.zero_le _) (fun _ none => absurd none (Nat.not_lt_zero _)),
        solo_get_book_scan unmarshal growCap _ _ fits 0 _ (Nat.zero_le _), List.drop_zero]
      rfl
  | deleteBook vars =>
      refine ⟨fun next response handled => ?_, fun handled => by cases handled⟩
      simp only [handle, deleteBook, deleteBookFor, Option.some.injEq] at handled
      obtain ⟨s', ran, fits', viewed⟩ :=
        solo_delete_scan unmarshal growCap (.deleteBook vars) (atoi (idParam vars)).1 fits 0 n (Nat.zero_le _)
      refine ⟨s', ?_, fits', ?_⟩
      · rw [show 4 * s.books.len + 14 + n = 3 + (4 * (s.books.len - 0) + 10 + n) + 1 by omega,
          solo_begin, Request.begin, solo_load, Site.loaded, ran, List.drop_zero, handled]
      · rw [viewed, List.drop_zero, handled]

end Handlers

end BookHandlers
