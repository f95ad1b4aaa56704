import Mathlib
import BookHandlers.Sequential

set_option autoImplicit false

/- Races between the handlers' goroutines. Each schedule spawns two goroutines and then
   runs one of them at a time, for a number of steps: 4 * len + 14 steps, len the length
   of mocks.Books at the start, take a handler to its end, and a goroutine that has ended
   no longer moves. Each result gives where the run ends, with the goroutines' responses
   and mocks.Books, next to what serve, the serial server, answers and leaves for the same
   requests one after the other. -/
namespace BookHandlers

open Strconv

variable {α : Type}

section Lists

variable [Inhabited α] {B : List (Book α)}

theorem misses_of_take {index : Nat} {id : Int} (before : ∀ book ∈ B.take index, book.ID ≠ id)
    (bounded : index ≤ B.length) : ∀ j < index, (B.getD j default).ID ≠ id := fun j below => by
  rw [List.getD_eq_getElem _ _ (by omega)]
  exact before _ (List.mem_take_iff_getElem.mpr ⟨j, by simp; omega, rfl⟩)

theorem take_of_misses {n : Nat} {id : Int} (misses : ∀ j < n, (B.getD j default).ID ≠ id) :
    ∀ book ∈ B.take n, book.ID ≠ id := by
  intro book taken
  obtain ⟨j, below, rfl⟩ := List.mem_take_iff_getElem.mp taken
  have miss := misses j (by omega)
  rwa [List.getD_eq_getElem _ _ (by omega)] at miss

omit [Inhabited α] in
theorem take_mem_erase_idx {index : Nat} {book : Book α} (taken : book ∈ B.take index) : book ∈ B.eraseIdx index := by
  rw [List.eraseIdx_eq_take_drop_succ]
  exact List.mem_append_left _ taken

theorem getD_erase_idx (index m : Nat) :
    (B.eraseIdx index).getD m default = B.getD (if m < index then m else m + 1) default := by
  simp only [List.getD_eq_getElem?_getD, List.getElem?_eraseIdx]
  split <;> rfl

theorem getD_spliced {index m : Nat} (started : index ≤ m) (within : m < B.length) :
    (B.eraseIdx index ++ [B.getD (B.length - 1) default]).getD m default =
      B.getD (min (m + 1) (B.length - 1)) default := by
  have spliced := List.length_eraseIdx_of_lt (show index < B.length by omega)
  by_cases inner : m + 1 < B.length
  · rw [List.getD_append _ _ _ _ (by omega), getD_erase_idx, if_neg (by omega), Nat.min_eq_left (by omega)]
  · rw [List.getD_append_right _ _ _ _ (by omega), Nat.min_eq_right (by omega),
      show m - (B.eraseIdx index).length = 0 by omega]
    rfl

theorem mem_erase_idx_of_getD {index m : Nat} (after : index < m) (within : m < B.length) :
    B.getD m default ∈ B.eraseIdx index := by
  have spliced := List.length_eraseIdx_of_lt (show index < B.length by omega)
  have shifted := getD_erase_idx (B := B) index (m - 1)
  rw [if_neg (by omega), Nat.sub_add_cancel (by omega), List.getD_eq_getElem _ _ (by omega)] at shifted
  exact shifted ▸ List.getElem_mem _

theorem ids_differ (distinct : IdsDistinct B) {m k : Nat} (hm : m < B.length) (hk : k < B.length) (differ : m ≠ k) :
    (B.getD m default).ID ≠ (B.getD k default).ID := fun same => by
  rw [List.getD_eq_getElem _ _ hm, List.getD_eq_getElem _ _ hk] at same
  have inj := List.nodup_iff_injective_getElem.mp distinct
  exact differ (congrArg Fin.val (@inj ⟨m, by simpa using hm⟩ ⟨k, by simpa using hk⟩ (by simpa using same)))

theorem get_book_loop_first {id : Int} {found : Nat} (within : found < B.length)
    (matched : (B.getD found default).ID = id) (misses : ∀ j < found, (B.getD j default).ID ≠ id) :
    getBookLoop id B = jsonResponse statusOK (.book (B.getD found default)) := by
  induction B generalizing found with
  | nil => cases within
  | cons book rest ih =>
      cases found with
      | zero => rw [getBookLoop, if_pos (show book.ID = id from matched)]; rfl
      | succ k =>
          rw [getBookLoop, if_neg (show book.ID ≠ id from misses 0 (Nat.zero_lt_succ k))]
          exact ih (Nat.lt_of_succ_lt_succ within) matched fun j below => misses (j + 1) (Nat.succ_lt_succ below)

theorem spliced_after_misses (distinct : IdsDistinct B) {index found : Nat} (earlier : index < found)
    (within : found + 1 < B.length) :
    ∀ book ∈ (B.eraseIdx index ++ [B.getD (B.length - 1) default]).drop found, book.ID ≠ (B.getD found default).ID := by
  have spliced := List.length_eraseIdx_of_lt (show index < B.length by omega)
  intro book member
  obtain ⟨m, below, rfl⟩ := List.getElem_of_mem member
  simp only [List.length_drop, List.length_append, List.length_singleton, spliced] at below
  rw [List.getElem_drop, ← List.getD_eq_getElem _ default, getD_spliced (by omega) (by omega)]
  exact ids_differ distinct (by omega) (by omega) (by omega)

theorem get_book_loop_spliced {id : Int} {index found : Nat} (earlier : index < found) (within : found < B.length)
    (matched : (B.getD found default).ID = id) (misses : ∀ j < found, (B.getD j default).ID ≠ id) :
    getBookLoop id (B.eraseIdx index) = jsonResponse statusOK (.book (B.getD found default)) := by
  have shifted : (B.eraseIdx index).getD (found - 1) default = B.getD found default := by
    rw [getD_erase_idx, if_neg (by omega), Nat.sub_add_cancel (by omega)]
  rw [← shifted]
  refine get_book_loop_first (by rw [List.length_eraseIdx_of_lt (by omega)]; omega) (by rw [shifted, matched])
    fun j below => ?_
  rw [getD_erase_idx]
  split <;> exact misses _ (by omega)

theorem delete_book_for_first (id : Int) (index : Nat) (within : index < B.length)
    (matched : (B.getD index default).ID = id) (misses : ∀ j < index, (B.getD j default).ID ≠ id) :
    deleteBookFor id B = (B.eraseIdx index, jsonResponse statusOK (.text "Deleted")) := by
  rw [List.getD_eq_getElem _ _ within] at matched
  have present : B.any (fun book => book.ID = id) := List.any_eq_true.mpr ⟨_, List.getElem_mem within, by simpa⟩
  rw [delete_book_for_erase, if_pos present, List.eraseIdx_eq_take_drop_succ]
  conv_lhs => rw [← List.take_append_drop index B, List.drop_eq_getElem_cons within]
  rw [List.eraseP_append_right _ (by simpa using take_of_misses misses), List.eraseP_cons_of_pos (by simpa using matched)]

omit [Inhabited α] in
theorem delete_book_for_absent (id : Int) (absent : ∀ book ∈ B, book.ID ≠ id) : deleteBookFor id B = (B, .empty) := by
  rw [delete_book_for_erase, erase_absent B id absent, if_neg (by simpa using absent)]

end Lists

section Schedules

variable [Inhabited α] (unmarshal : Bytes → Book α → Book α × Option String) (growCap : Nat → Nat → Nat)

omit [Inhabited α] in
theorem loaded_alive (site : Site α) (h : Header) : (site.loaded h).isExited = false := by
  cases site <;> simp only [Site.loaded] <;> (try split_ifs) <;> rfl

theorem run_spawn_pair (memory : Memory α) (books : Header) (first second : Request) :
    Process.run unmarshal growCap (Process.init memory books) [.spawn first, .spawn second] =
      ⟨⟨memory, books⟩, [⟨first, .start⟩, ⟨second, .start⟩]⟩ :=
  rfl

theorem run_first {s s' : Shared α} {first second : Request} {p p' q : Pc α} {n : Nat}
    (ran : soloRun unmarshal growCap first n p s = (p', s')) (alive : p.isExited = false)
    (alive' : q.isExited = false) :
    Process.run unmarshal growCap ⟨s, [⟨first, p⟩, ⟨second, q⟩]⟩ (List.replicate n (.step 0)) =
      ⟨s', [⟨first, p'⟩, ⟨second, q⟩]⟩ := by
  rw [run_solo unmarshal growCap (live_pair alive alive') (g := ⟨first, p⟩) rfl]
  dsimp only
  rw [ran]
  rfl

theorem run_second {s s' : Shared α} {first second : Request} {p q q' : Pc α} {n : Nat}
    (ran : soloRun unmarshal growCap second n q s = (q', s')) (alive : p.isExited = false)
    (alive' : q.isExited = false) :
    Process.run unmarshal growCap ⟨s, [⟨first, p⟩, ⟨second, q⟩]⟩ (List.replicate n (.step 1)) =
      ⟨s', [⟨first, p⟩, ⟨second, q'⟩]⟩ := by
  rw [run_solo unmarshal growCap (live_pair alive alive') (g := ⟨second, q⟩) rfl]
  dsimp only
  rw [ran]
  rfl

theorem solo_add_load (body : Bytes) (draw : Fin 100) (memory : Memory α) (books : Header) :
    soloRun unmarshal growCap (.addBooks (.ok body) draw) 4 .start ⟨memory, books⟩ =
      ((Site.append (newBook unmarshal body draw)).loaded books, ⟨memory, books⟩) :=
  rfl

def overlappingAdds (first second : Request) (len : Nat) : List Event :=
  [.spawn first, .spawn second] ++ List.replicate 4 (.step 0) ++ List.replicate 4 (.step 1) ++
    List.replicate (4 * len + 14) (.step 0) ++ List.replicate (4 * len + 14) (.step 1)

theorem concurrent_adds_lose_one (grows : ∀ len cap, len ≤ growCap len cap) (memory : Memory α) (books : Header)
    (fits : memory.Fits books) (first second : Bytes) (firstDraw secondDraw : Fin 100) :
    ∃ s : Shared α, Process.run unmarshal growCap (Process.init memory books)
        (overlappingAdds (.addBooks (.ok first) firstDraw) (.addBooks (.ok second) secondDraw) books.len) =
        ⟨s, [⟨.addBooks (.ok first) firstDraw, .done created⟩, ⟨.addBooks (.ok second) secondDraw, .done created⟩]⟩ ∧
      s.memory.Fits s.books ∧ s.memory.view s.books = memory.view books ++ [newBook unmarshal second secondDraw] ∧
      serve unmarshal (memory.view books) [.addBooks (.ok first) firstDraw, .addBooks (.ok second) secondDraw] =
        some (memory.view books ++ [newBook unmarshal first firstDraw, newBook unmarshal second secondDraw],
          [created, created]) := by
  obtain ⟨s₁, ran₁, -, -, fits₁, kept₁, held₁⟩ := solo_append_loaded unmarshal growCap (.addBooks (.ok first) firstDraw)
    grows (newBook unmarshal first firstDraw) (s := ⟨memory, books⟩) fits (fun _ => ⟨rfl, rfl⟩) 7
  obtain ⟨s₂, ran₂, fits₂, viewed₂, -⟩ := solo_append_loaded unmarshal growCap (.addBooks (.ok second) secondDraw)
    grows (newBook unmarshal second secondDraw) fits₁ held₁ 7
  rw [show 4 * books.len + 7 + 7 = 4 * books.len + 14 by omega] at ran₁ ran₂
  refine ⟨s₂, ?_, fits₂, by rw [viewed₂, kept₁], by simp [serve, handle, addBooks, created]⟩
  simp only [overlappingAdds, run_append]
  rw [run_spawn_pair, run_first unmarshal growCap (solo_add_load unmarshal growCap first firstDraw memory books) rfl
      (q := .start) rfl,
    run_second unmarshal growCap (solo_add_load unmarshal growCap second secondDraw memory books) (loaded_alive _ _) rfl,
    run_first unmarshal growCap ran₁ (loaded_alive _ _) (loaded_alive _ _),
    run_second unmarshal growCap ran₂ (p := .done created) rfl (loaded_alive _ _)]

theorem concurrent_adds_lose_one_on_one_book :
    (∀ len cap : Nat, len ≤ max len (2 * cap)) ∧ Memory.Fits [[(⟨1, ()⟩ : Book Unit)]] ⟨0, 1, 1⟩ ∧
      ∃ s : Shared Unit, Process.run (fun (_ : Bytes) (book : Book Unit) => (book, none)) (fun len cap => max len (2 * cap))
          (Process.init [[⟨1, ()⟩]] ⟨0, 1, 1⟩) (overlappingAdds (.addBooks (.ok []) 7) (.addBooks (.ok []) 8) 1) =
          ⟨s, [⟨.addBooks (.ok []) 7, .done created⟩, ⟨.addBooks (.ok []) 8, .done created⟩]⟩ ∧
        s.memory.Fits s.books ∧ s.memory.view s.books = [⟨1, ()⟩, ⟨8, ()⟩] ∧
        serve (fun (_ : Bytes) (book : Book Unit) => (book, none)) [⟨1, ()⟩]
          [.addBooks (.ok []) 7, .addBooks (.ok []) 8] = some ([⟨1, ()⟩, ⟨7, ()⟩, ⟨8, ()⟩], [created, created]) :=
  ⟨fun _ _ => le_max_left _ _, by decide,
    concurrent_adds_lose_one _ _ (fun _ _ => le_max_left _ _) [[⟨1, ()⟩]] ⟨0, 1, 1⟩ (by decide) [] [] 7 8⟩

def addAcrossDelete (add delete : Request) (len : Nat) : List Event :=
  [.spawn add, .spawn delete] ++ List.replicate 4 (.step 0) ++ List.replicate (4 * len + 14) (.step 1) ++
    List.replicate (4 * len + 14) (.step 0)

theorem add_across_delete_repeats_last (grows : ∀ len cap, len ≤ growCap len cap) (memory : Memory α)
    (books : Header) (fits : memory.Fits books) (vars : Vars) (index : Nat) (within : index < books.len)
    (matched : ((memory.view books).getD index default).ID = (atoi (idParam vars)).1)
    (before : ∀ book ∈ (memory.view books).take index, book.ID ≠ (atoi (idParam vars)).1)
    (body : Bytes) (draw : Fin 100) :
    ∃ s : Shared α, Process.run unmarshal growCap (Process.init memory books)
        (addAcrossDelete (.addBooks (.ok body) draw) (.deleteBook vars) books.len) =
        ⟨s, [⟨.addBooks (.ok body) draw, .done created⟩,
          ⟨.deleteBook vars, .done (jsonResponse statusOK (.text "Deleted"))⟩]⟩ ∧
      s.memory.Fits s.books ∧
      s.memory.view s.books =
        (memory.view books).eraseIdx index ++
          [(memory.view books).getD (books.len - 1) default, newBook unmarshal body draw] ∧
      run unmarshal (memory.view books) [.addBooks (.ok body) draw, .deleteBook vars] =
        some ((memory.view books).eraseIdx index ++ [newBook unmarshal body draw]) ∧
      run unmarshal (memory.view books) [.deleteBook vars, .addBooks (.ok body) draw] =
        some ((memory.view books).eraseIdx index ++ [newBook unmarshal body draw]) := by
  have length := Memory.length_view fits
  have misses := misses_of_take before (by omega)
  obtain ⟨memory₁, deleted, kept, -, -, old⟩ :=
    solo_delete unmarshal growCap vars (s := ⟨memory, books⟩) fits within matched misses 0
  obtain ⟨s₂, added, fits₂, viewed₂, -⟩ := solo_append_loaded unmarshal growCap (.addBooks (.ok body) draw) grows
    (newBook unmarshal body draw) (s := ⟨memory₁, ⟨books.ptr, books.len - 1, books.cap⟩⟩) kept (fun _ => ⟨rfl, rfl⟩) 7
  rw [show 4 * books.len + 7 + 7 = 4 * books.len + 14 by omega] at added
  have appended := delete_book_for_first (B := memory.view books ++ [newBook unmarshal body draw])
    (atoi (idParam vars)).1 index (by simp; omega) (by rwa [List.getD_append _ _ _ _ (by omega)])
    fun j below => by rw [List.getD_append _ _ _ _ (by omega)]; exact misses j below
  refine ⟨s₂, ?_, fits₂, by rw [viewed₂, old, List.append_assoc, List.singleton_append], ?_, ?_⟩
  · simp only [addAcrossDelete, run_append]
    rw [run_spawn_pair, run_first unmarshal growCap (solo_add_load unmarshal growCap body draw memory books) rfl
        (q := .start) rfl,
      run_second unmarshal growCap deleted (loaded_alive _ _) rfl,
      run_first unmarshal growCap added (loaded_alive _ _) (q := .done (jsonResponse statusOK (.text "Deleted"))) rfl]
  · simp [run, handle, addBooks, deleteBook, appended, List.eraseIdx_append_of_lt_length (show index < (memory.view books).length by omega)]
  · simp [run, handle, addBooks, deleteBook, delete_book_for_first _ index (by omega) matched misses]

theorem add_across_delete_repeats_last_one_two_three :
    (∀ len cap : Nat, len ≤ max len (2 * cap)) ∧ Memory.Fits [[(⟨1, ()⟩ : Book Unit), ⟨2, ()⟩, ⟨3, ()⟩]] ⟨0, 3, 3⟩ ∧
      0 < 3 ∧ ((Memory.view [[(⟨1, ()⟩ : Book Unit), ⟨2, ()⟩, ⟨3, ()⟩]] ⟨0, 3, 3⟩).getD 0 default).ID =
        (atoi (idParam [("id", [49])])).1 ∧
      ∃ s : Shared Unit, Process.run (fun (_ : Bytes) (book : Book Unit) => (book, none)) (fun len cap => max len (2 * cap))
          (Process.init [[⟨1, ()⟩, ⟨2, ()⟩, ⟨3, ()⟩]] ⟨0, 3, 3⟩)
          (addAcrossDelete (.addBooks (.ok []) 9) (.deleteBook [("id", [49])]) 3) =
          ⟨s, [⟨.addBooks (.ok []) 9, .done created⟩,
            ⟨.deleteBook [("id", [49])], .done (jsonResponse statusOK (.text "Deleted"))⟩]⟩ ∧
        s.memory.Fits s.books ∧ s.memory.view s.books = [⟨2, ()⟩, ⟨3, ()⟩, ⟨3, ()⟩, ⟨9, ()⟩] ∧
        run (fun (_ : Bytes) (book : Book Unit) => (book, none)) [⟨1, ()⟩, ⟨2, ()⟩, ⟨3, ()⟩]
          [.addBooks (.ok []) 9, .deleteBook [("id", [49])]] = some [⟨2, ()⟩, ⟨3, ()⟩, ⟨9, ()⟩] ∧
        run (fun (_ : Bytes) (book : Book Unit) => (book, none)) [⟨1, ()⟩, ⟨2, ()⟩, ⟨3, ()⟩]
          [.deleteBook [("id", [49])], .addBooks (.ok []) 9] = some [⟨2, ()⟩, ⟨3, ()⟩, ⟨9, ()⟩] :=
  ⟨fun _ _ => le_max_left _ _, by decide, by decide, by decide,
    add_across_delete_repeats_last _ _ (fun _ _ => le_max_left _ _) [[⟨1, ()⟩, ⟨2, ()⟩, ⟨3, ()⟩]] ⟨0, 3, 3⟩
      (by decide) [("id", [49])] 0 (by decide) (by decide) (by decide) [] 9⟩

def overlappingDeletes (first second : Request) (index other len : Nat) : List Event :=
  [.spawn first, .spawn second] ++ List.replicate (2 * index + 6) (.step 0) ++
    List.replicate (2 * other + 6) (.step 1) ++ List.replicate (4 * len + 14) (.step 0) ++
    List.replicate (4 * len + 14) (.step 1)

theorem run_overlapping_deletes_first {memory : Memory α} {books : Header} {firstVars secondVars : Vars}
    {index other : Nat} (fits : memory.Fits books) (within : index < books.len) (reached : other < books.len)
    (matched : ((memory.view books).getD index default).ID = (atoi (idParam firstVars)).1)
    (misses : ∀ j < index, ((memory.view books).getD j default).ID ≠ (atoi (idParam firstVars)).1)
    (matched' : ((memory.view books).getD other default).ID = (atoi (idParam secondVars)).1)
    (misses' : ∀ j < other, ((memory.view books).getD j default).ID ≠ (atoi (idParam secondVars)).1) :
    ∃ moved : Memory α, Process.run unmarshal growCap (Process.init memory books)
        ([.spawn (.deleteBook firstVars), .spawn (.deleteBook secondVars)] ++ List.replicate (2 * index + 6) (.step 0) ++
          List.replicate (2 * other + 6) (.step 1) ++ List.replicate (4 * books.len + 14) (.step 0)) =
        ⟨⟨moved, ⟨books.ptr, books.len - 1, books.cap⟩⟩,
          [⟨.deleteBook firstVars, .done (jsonResponse statusOK (.text "Deleted"))⟩,
            ⟨.deleteBook secondVars, .loadPtr (.low other)⟩]⟩ ∧
      moved.Fits ⟨books.ptr, books.len - 1, books.cap⟩ ∧
      moved.view ⟨books.ptr, books.len - 1, books.cap⟩ = (memory.view books).eraseIdx index := by
  have toSplice : soloRun unmarshal growCap (.deleteBook firstVars) (2 * index + 6) .start ⟨memory, books⟩ =
      (.loadPtr (.low index), ⟨memory, books⟩) :=
    solo_delete_to_splice unmarshal growCap firstVars (s := ⟨memory, books⟩) fits within matched misses 0
  have toSplice' : soloRun unmarshal growCap (.deleteBook secondVars) (2 * other + 6) .start ⟨memory, books⟩ =
      (.loadPtr (.low other), ⟨memory, books⟩) :=
    solo_delete_to_splice unmarshal growCap secondVars (s := ⟨memory, books⟩) fits reached matched' misses' 0
  obtain ⟨moved, ran, -, fits', viewed, -⟩ := solo_splice_end unmarshal growCap (.deleteBook firstVars) index
    (s := ⟨memory, books⟩) fits within (4 * index + 8)
  dsimp only at ran
  rw [show 4 * (books.len - index) + 6 + (4 * index + 8) = 4 * books.len + 14 by omega] at ran
  refine ⟨moved, ?_, fits', viewed⟩
  simp only [run_append]
  rw [run_spawn_pair, run_first unmarshal growCap toSplice rfl (q := .start) rfl,
    run_second unmarshal growCap toSplice' (p := .loadPtr (.low index)) rfl rfl,
    run_first unmarshal growCap ran rfl (q := .loadPtr (.low other)) rfl]

theorem concurrent_deletes_remove_next (memory : Memory α) (books : Header) (fits : memory.Fits books)
    (vars : Vars) (index : Nat) (within : index + 1 < books.len)
    (matched : ((memory.view books).getD index default).ID = (atoi (idParam vars)).1)
    (only : ∀ book ∈ (memory.view books).eraseIdx index, book.ID ≠ (atoi (idParam vars)).1) :
    ∃ s : Shared α, Process.run unmarshal growCap (Process.init memory books)
        (overlappingDeletes (.deleteBook vars) (.deleteBook vars) index index books.len) =
        ⟨s, [⟨.deleteBook vars, .done (jsonResponse statusOK (.text "Deleted"))⟩,
          ⟨.deleteBook vars, .done (jsonResponse statusOK (.text "Deleted"))⟩]⟩ ∧
      s.memory.Fits s.books ∧ s.memory.view s.books = ((memory.view books).eraseIdx index).eraseIdx index ∧
      serve unmarshal (memory.view books) [.deleteBook vars, .deleteBook vars] =
        some ((memory.view books).eraseIdx index, [jsonResponse statusOK (.text "Deleted"), .empty]) := by
  have length := Memory.length_view fits
  have misses := misses_of_take (fun book taken => only book (take_mem_erase_idx taken)) (by omega)
  obtain ⟨memory₁, first, fits₁, viewed₁⟩ :=
    run_overlapping_deletes_first unmarshal growCap fits (by omega) (by omega) matched misses matched misses
  obtain ⟨memory₂, ran, -, fits₂, viewed₂, -⟩ := solo_splice_end unmarshal growCap (.deleteBook vars) index
    (s := ⟨memory₁, ⟨books.ptr, books.len - 1, books.cap⟩⟩) fits₁ (by dsimp only; omega) (4 * index + 12)
  dsimp only at ran fits₂ viewed₂
  rw [show 4 * (books.len - 1 - index) + 6 + (4 * index + 12) = 4 * books.len + 14 by omega] at ran
  refine ⟨⟨memory₂, ⟨books.ptr, books.len - 1 - 1, books.cap⟩⟩, ?_, fits₂, viewed₂.trans (by rw [viewed₁]), ?_⟩
  · rw [overlappingDeletes, run_append _ _ _ _ (List.replicate (4 * books.len + 14) (.step 1)), first,
      run_second unmarshal growCap ran (p := .done (jsonResponse statusOK (.text "Deleted"))) rfl rfl]
  · simp [serve, handle, deleteBook, delete_book_for_first _ index (by omega) matched misses,
      delete_book_for_absent _ only]

theorem concurrent_deletes_remove_next_of_first :
    Memory.Fits [[(⟨1, ()⟩ : Book Unit), ⟨2, ()⟩, ⟨3, ()⟩]] ⟨0, 3, 3⟩ ∧ 0 + 1 < 3 ∧
      ((Memory.view [[(⟨1, ()⟩ : Book Unit), ⟨2, ()⟩, ⟨3, ()⟩]] ⟨0, 3, 3⟩).getD 0 default).ID =
        (atoi (idParam [("id", [49])])).1 ∧
      (∀ book ∈ (Memory.view [[(⟨1, ()⟩ : Book Unit), ⟨2, ()⟩, ⟨3, ()⟩]] ⟨0, 3, 3⟩).eraseIdx 0,
        book.ID ≠ (atoi (idParam [("id", [49])])).1) ∧
      ∃ s : Shared Unit, Process.run (fun (_ : Bytes) (book : Book Unit) => (book, none)) (fun len cap => max len (2 * cap))
          (Process.init [[⟨1, ()⟩, ⟨2, ()⟩, ⟨3, ()⟩]] ⟨0, 3, 3⟩)
          (overlappingDeletes (.deleteBook [("id", [49])]) (.deleteBook [("id", [49])]) 0 0 3) =
          ⟨s, [⟨.deleteBook [("id", [49])], .done (jsonResponse statusOK (.text "Deleted"))⟩,
            ⟨.deleteBook [("id", [49])], .done (jsonResponse statusOK (.text "Deleted"))⟩]⟩ ∧
        s.memory.Fits s.books ∧ s.memory.view s.books = [⟨3, ()⟩] ∧
        serve (fun (_ : Bytes) (book : Book Unit) => (book, none)) [⟨1, ()⟩, ⟨2, ()⟩, ⟨3, ()⟩]
          [.deleteBook [("id", [49])], .deleteBook [("id", [49])]] =
          some ([⟨2, ()⟩, ⟨3, ()⟩], [jsonResponse statusOK (.text "Deleted"), .empty]) :=
  ⟨by decide, by decide, by decide, by decide,
    concurrent_deletes_remove_next _ _ [[⟨1, ()⟩, ⟨2, ()⟩, ⟨3, ()⟩]] ⟨0, 3, 3⟩ (by decide) [("id", [49])] 0
      (by decide) (by decide) (by decide)⟩

theorem concurrent_deletes_of_last_panic (memory : Memory α) (books : Header) (fits : memory.Fits books)
    (vars : Vars) (index : Nat) (last : index + 1 = books.len)
    (matched : ((memory.view books).getD index default).ID = (atoi (idParam vars)).1)
    (only : ∀ book ∈ (memory.view books).eraseIdx index, book.ID ≠ (atoi (idParam vars)).1) :
    ∃ s : Shared α, Process.run unmarshal growCap (Process.init memory books)
        (overlappingDeletes (.deleteBook vars) (.deleteBook vars) index index books.len) =
        ⟨s, [⟨.deleteBook vars, .done (jsonResponse statusOK (.text "Deleted"))⟩, ⟨.deleteBook vars, .panicked⟩]⟩ ∧
      s.memory.Fits s.books ∧ s.memory.view s.books = (memory.view books).eraseIdx index ∧
      serve unmarshal (memory.view books) [.deleteBook vars, .deleteBook vars] =
        some ((memory.view books).eraseIdx index, [jsonResponse statusOK (.text "Deleted"), .empty]) := by
  have length := Memory.length_view fits
  have misses := misses_of_take (fun book taken => only book (take_mem_erase_idx taken)) (by omega)
  obtain ⟨memory₁, first, fits₁, viewed₁⟩ :=
    run_overlapping_deletes_first unmarshal growCap fits (by omega) (by omega) matched misses matched misses
  have panics := solo_splice_panics unmarshal growCap (.deleteBook vars) index ⟨memory₁, ⟨books.ptr, books.len - 1, books.cap⟩⟩
    (by dsimp only; have := fits.1; omega) (by dsimp only; omega) (4 * books.len + 8)
  rw [show 6 + (4 * books.len + 8) = 4 * books.len + 14 by omega] at panics
  refine ⟨⟨memory₁, ⟨books.ptr, books.len - 1, books.cap⟩⟩, ?_, fits₁, viewed₁, ?_⟩
  · rw [overlappingDeletes, run_append _ _ _ _ (List.replicate (4 * books.len + 14) (.step 1)), first,
      run_second unmarshal growCap panics (p := .done (jsonResponse statusOK (.text "Deleted"))) rfl rfl]
  · simp [serve, handle, deleteBook, delete_book_for_first _ index (by omega) matched misses,
      delete_book_for_absent _ only]

theorem concurrent_deletes_of_last_panic_of_three :
    Memory.Fits [[(⟨1, ()⟩ : Book Unit), ⟨2, ()⟩, ⟨3, ()⟩]] ⟨0, 3, 3⟩ ∧ 2 + 1 = 3 ∧
      ((Memory.view [[(⟨1, ()⟩ : Book Unit), ⟨2, ()⟩, ⟨3, ()⟩]] ⟨0, 3, 3⟩).getD 2 default).ID =
        (atoi (idParam [("id", [51])])).1 ∧
      (∀ book ∈ (Memory.view [[(⟨1, ()⟩ : Book Unit), ⟨2, ()⟩, ⟨3, ()⟩]] ⟨0, 3, 3⟩).eraseIdx 2,
        book.ID ≠ (atoi (idParam [("id", [51])])).1) ∧
      ∃ s : Shared Unit, Process.run (fun (_ : Bytes) (book : Book Unit) => (book, none)) (fun len cap => max len (2 * cap))
          (Process.init [[⟨1, ()⟩, ⟨2, ()⟩, ⟨3, ()⟩]] ⟨0, 3, 3⟩)
          (overlappingDeletes (.deleteBook [("id", [51])]) (.deleteBook [("id", [51])]) 2 2 3) =
          ⟨s, [⟨.deleteBook [("id", [51])], .done (jsonResponse statusOK (.text "Deleted"))⟩,
            ⟨.deleteBook [("id", [51])], .panicked⟩]⟩ ∧
        s.memory.Fits s.books ∧ s.memory.view s.books = [⟨1, ()⟩, ⟨2, ()⟩] ∧
        serve (fun (_ : Bytes) (book : Book Unit) => (book, none)) [⟨1, ()⟩, ⟨2, ()⟩, ⟨3, ()⟩]
          [.deleteBook [("id", [51])], .deleteBook [("id", [51])]] =
          some ([⟨1, ()⟩, ⟨2, ()⟩], [jsonResponse statusOK (.text "Deleted"), .empty]) :=
  ⟨by decide, rfl, by decide, by decide,
    concurrent_deletes_of_last_panic _ _ [[⟨1, ()⟩, ⟨2, ()⟩, ⟨3, ()⟩]] ⟨0, 3, 3⟩ (by decide) [("id", [51])] 2
      rfl (by decide) (by decide)⟩

theorem concurrent_deletes_remove_wrong (memory : Memory α) (books : Header) (fits : memory.Fits books)
    (distinct : IdsDistinct (memory.view books)) (firstVars secondVars : Vars) (index other : Nat)
    (earlier : index < other) (within : other + 1 < books.len)
    (first : ((memory.view books).getD index default).ID = (atoi (idParam firstVars)).1)
    (second : ((memory.view books).getD other default).ID = (atoi (idParam secondVars)).1) :
    ∃ s : Shared α, Process.run unmarshal growCap (Process.init memory books)
        (overlappingDeletes (.deleteBook firstVars) (.deleteBook secondVars) index other books.len) =
        ⟨s, [⟨.deleteBook firstVars, .done (jsonResponse statusOK (.text "Deleted"))⟩,
          ⟨.deleteBook secondVars, .done (jsonResponse statusOK (.text "Deleted"))⟩]⟩ ∧
      s.memory.Fits s.books ∧
      s.memory.view s.books = ((memory.view books).eraseIdx index).eraseIdx other ∧
      (memory.view books).getD other default ∈ s.memory.view s.books ∧
      serve unmarshal (memory.view books) [.deleteBook firstVars, .deleteBook secondVars] =
        some (((memory.view books).eraseIdx index).eraseIdx (other - 1),
          [jsonResponse statusOK (.text "Deleted"), jsonResponse statusOK (.text "Deleted")]) ∧
      serve unmarshal (memory.view books) [.deleteBook secondVars, .deleteBook firstVars] =
        some (((memory.view books).eraseIdx other).eraseIdx index,
          [jsonResponse statusOK (.text "Deleted"), jsonResponse statusOK (.text "Deleted")]) := by
  have length := Memory.length_view fits
  have spliced := List.length_eraseIdx_of_lt (show index < (memory.view books).length by omega)
  have differ : ∀ m k, m < books.len → k < books.len → m ≠ k →
      ((memory.view books).getD m default).ID ≠ ((memory.view books).getD k default).ID :=
    fun m k hm hk ne => ids_differ distinct (by omega) (by omega) ne
  have before : ∀ j < index, ((memory.view books).getD j default).ID ≠ (atoi (idParam firstVars)).1 :=
    fun j below => first ▸ differ j index (by omega) (by omega) (by omega)
  have before' : ∀ j < other, ((memory.view books).getD j default).ID ≠ (atoi (idParam secondVars)).1 :=
    fun j below => second ▸ differ j other (by omega) (by omega) (by omega)
  obtain ⟨memory₁, ran, fits₁, viewed₁⟩ :=
    run_overlapping_deletes_first unmarshal growCap fits (by omega) (by omega) first before second before'
  obtain ⟨memory₂, moved, -, fits₂, viewed₂, -⟩ := solo_splice_end unmarshal growCap (.deleteBook secondVars) other
    (s := ⟨memory₁, ⟨books.ptr, books.len - 1, books.cap⟩⟩) fits₁ (by dsimp only; omega) (4 * other + 12)
  dsimp only at moved fits₂ viewed₂
  rw [show 4 * (books.len - 1 - other) + 6 + (4 * other + 12) = 4 * books.len + 14 by omega] at moved
  rw [viewed₁] at viewed₂
  have shifted : ((memory.view books).eraseIdx index).getD (other - 1) default = (memory.view books).getD other default := by
    rw [getD_erase_idx, if_neg (by omega), Nat.sub_add_cancel (by omega)]
  have kept : (memory.view books).getD other default ∈ ((memory.view books).eraseIdx index).eraseIdx other := by
    rw [← shifted, List.getD_eq_getElem _ _ (by omega)]
    exact take_mem_erase_idx (List.mem_take_iff_getElem.mpr ⟨other - 1, by simp; omega, rfl⟩)
  have second' := delete_book_for_first (B := (memory.view books).eraseIdx index) (atoi (idParam secondVars)).1
    (other - 1) (by omega) (by rw [shifted, second]) fun j below => by
      rw [getD_erase_idx]
      split <;> exact second ▸ differ _ other (by omega) (by omega) (by omega)
  have first' := delete_book_for_first (B := (memory.view books).eraseIdx other) (atoi (idParam firstVars)).1 index
    (by rw [List.length_eraseIdx_of_lt (by omega)]; omega) (by rw [getD_erase_idx, if_pos earlier, first])
    fun j below => by
      rw [getD_erase_idx, if_pos (by omega)]
      exact before j below
  refine ⟨⟨memory₂, ⟨books.ptr, books.len - 1 - 1, books.cap⟩⟩, ?_, fits₂, viewed₂, by dsimp only; rw [viewed₂]; exact kept,
    ?_, ?_⟩
  · rw [overlappingDeletes, run_append _ _ _ _ (List.replicate (4 * books.len + 14) (.step 1)), ran,
      run_second unmarshal growCap moved (p := .done (jsonResponse statusOK (.text "Deleted"))) rfl rfl]
  · simp [serve, handle, deleteBook, delete_book_for_first _ index (by omega) first before, second']
  · simp [serve, handle, deleteBook, delete_book_for_first _ other (by omega) second before', first']

theorem concurrent_deletes_remove_wrong_of_first_two :
    Memory.Fits [[(⟨1, ()⟩ : Book Unit), ⟨2, ()⟩, ⟨3, ()⟩]] ⟨0, 3, 3⟩ ∧
      IdsDistinct (Memory.view [[(⟨1, ()⟩ : Book Unit), ⟨2, ()⟩, ⟨3, ()⟩]] ⟨0, 3, 3⟩) ∧ 0 < 1 ∧ 1 + 1 < 3 ∧
      ((Memory.view [[(⟨1, ()⟩ : Book Unit), ⟨2, ()⟩, ⟨3, ()⟩]] ⟨0, 3, 3⟩).getD 0 default).ID =
        (atoi (idParam [("id", [49])])).1 ∧
      ((Memory.view [[(⟨1, ()⟩ : Book Unit), ⟨2, ()⟩, ⟨3, ()⟩]] ⟨0, 3, 3⟩).getD 1 default).ID =
        (atoi (idParam [("id", [50])])).1 ∧
      ∃ s : Shared Unit, Process.run (fun (_ : Bytes) (book : Book Unit) => (book, none)) (fun len cap => max len (2 * cap))
          (Process.init [[⟨1, ()⟩, ⟨2, ()⟩, ⟨3, ()⟩]] ⟨0, 3, 3⟩)
          (overlappingDeletes (.deleteBook [("id", [49])]) (.deleteBook [("id", [50])]) 0 1 3) =
          ⟨s, [⟨.deleteBook [("id", [49])], .done (jsonResponse statusOK (.text "Deleted"))⟩,
            ⟨.deleteBook [("id", [50])], .done (jsonResponse statusOK (.text "Deleted"))⟩]⟩ ∧
        s.memory.Fits s.books ∧ s.memory.view s.books = [⟨2, ()⟩] ∧ (⟨2, ()⟩ : Book Unit) ∈ s.memory.view s.books ∧
        serve (fun (_ : Bytes) (book : Book Unit) => (book, none)) [⟨1, ()⟩, ⟨2, ()⟩, ⟨3, ()⟩]
          [.deleteBook [("id", [49])], .deleteBook [("id", [50])]] =
          some ([⟨3, ()⟩], [jsonResponse statusOK (.text "Deleted"), jsonResponse statusOK (.text "Deleted")]) ∧
        serve (fun (_ : Bytes) (book : Book Unit) => (book, none)) [⟨1, ()⟩, ⟨2, ()⟩, ⟨3, ()⟩]
          [.deleteBook [("id", [50])], .deleteBook [("id", [49])]] =
          some ([⟨3, ()⟩], [jsonResponse statusOK (.text "Deleted"), jsonResponse statusOK (.text "Deleted")]) :=
  ⟨by decide, by unfold IdsDistinct; decide, by decide, by decide, by decide, by decide,
    concurrent_deletes_remove_wrong _ _ [[⟨1, ()⟩, ⟨2, ()⟩, ⟨3, ()⟩]] ⟨0, 3, 3⟩ (by decide)
      (by unfold IdsDistinct; decide) [("id", [49])] [("id", [50])] 0 1 (by decide) (by decide) (by decide) (by decide)⟩

def getAllAcrossDelete (delete : Request) (index len : Nat) : List Event :=
  [.spawn delete, .spawn .getAllBooks] ++ List.replicate (2 * index + 6) (.step 0) ++
    List.replicate (4 * (len - (index + 1)) + 7) (.step 0) ++ List.replicate (4 * len + 14) (.step 1) ++
    List.replicate (4 * len + 14) (.step 0)

theorem get_all_across_delete_sends_torn (memory : Memory α) (books : Header) (fits : memory.Fits books)
    (vars : Vars) (index : Nat) (within : index + 1 < books.len)
    (matched : ((memory.view books).getD index default).ID = (atoi (idParam vars)).1)
    (only : ∀ book ∈ (memory.view books).eraseIdx index, book.ID ≠ (atoi (idParam vars)).1) :
    ∃ s : Shared α, Process.run unmarshal growCap (Process.init memory books)
        (getAllAcrossDelete (.deleteBook vars) index books.len) =
        ⟨s, [⟨.deleteBook vars, .done (jsonResponse statusOK (.text "Deleted"))⟩, ⟨.getAllBooks,
          .done (getAllBooks ((memory.view books).eraseIdx index ++ [(memory.view books).getD (books.len - 1) default]))⟩]⟩ ∧
      s.memory.Fits s.books ∧ s.memory.view s.books = (memory.view books).eraseIdx index ∧
      serve unmarshal (memory.view books) [.deleteBook vars, .getAllBooks] =
        some ((memory.view books).eraseIdx index,
          [jsonResponse statusOK (.text "Deleted"), getAllBooks ((memory.view books).eraseIdx index)]) ∧
      serve unmarshal (memory.view books) [.getAllBooks, .deleteBook vars] =
        some ((memory.view books).eraseIdx index,
          [getAllBooks (memory.view books), jsonResponse statusOK (.text "Deleted")]) ∧
      (memory.view books).eraseIdx index ++ [(memory.view books).getD (books.len - 1) default] ≠ memory.view books ∧
      (memory.view books).eraseIdx index ++ [(memory.view books).getD (books.len - 1) default] ≠
        (memory.view books).eraseIdx index := by
  have length := Memory.length_view fits
  have misses := misses_of_take (fun book taken => only book (take_mem_erase_idx taken)) (by omega)
  have toSplice : soloRun unmarshal growCap (.deleteBook vars) (2 * index + 6) .start ⟨memory, books⟩ =
      (.loadPtr (.low index), ⟨memory, books⟩) :=
    solo_delete_to_splice unmarshal growCap vars (s := ⟨memory, books⟩) fits (show index < books.len by omega) matched
      misses 0
  have toAssign := solo_splice_to_assign unmarshal growCap (.deleteBook vars) index (s := ⟨memory, books⟩) fits
    (show index < books.len by omega) 0
  have moved := Memory.fits_moved ⟨books.ptr, index + 1, books.ptr, index, books.len - (index + 1)⟩
    (books.len - (index + 1)) fits
  have read := solo_get_all unmarshal growCap (s := ⟨memory.moved ⟨books.ptr, index + 1, books.ptr, index,
    books.len - (index + 1)⟩ (books.len - (index + 1)), books⟩) moved (2 * books.len + 9)
  have assigned := solo_assign unmarshal growCap (.deleteBook vars) ⟨books.ptr, books.len - 1, books.cap⟩
    ⟨memory.moved ⟨books.ptr, index + 1, books.ptr, index, books.len - (index + 1)⟩ (books.len - (index + 1)), books⟩
    (4 * books.len + 11)
  dsimp only at toAssign read assigned
  rw [Nat.add_zero, solo_run_zero] at toAssign
  rw [show 2 * books.len + 5 + (2 * books.len + 9) = 4 * books.len + 14 by omega,
    view_spliced_old memory fits (by omega)] at read
  rw [show 3 + (4 * books.len + 11) = 4 * books.len + 14 by omega] at assigned
  have last : (memory.view books).getD (books.len - 1) default ∈ (memory.view books).eraseIdx index := by
    rw [← length]
    exact mem_erase_idx_of_getD (by omega) (by omega)
  have unmatched : ∀ book ∈ (memory.view books).eraseIdx index ++ [(memory.view books).getD (books.len - 1) default],
      book.ID ≠ (atoi (idParam vars)).1 := by
    intro book member
    rcases List.mem_append.mp member with erased | final
    · exact only book erased
    · exact List.mem_singleton.mp final ▸ only _ last
  have present : (memory.view books).getD index default ∈ memory.view books := by
    rw [List.getD_eq_getElem _ _ (by omega)]
    exact List.getElem_mem _
  refine ⟨⟨memory.moved ⟨books.ptr, index + 1, books.ptr, index, books.len - (index + 1)⟩ (books.len - (index + 1)),
      ⟨books.ptr, books.len - 1, books.cap⟩⟩, ?_, fits_spliced memory fits _ _, view_spliced memory fits (by omega), ?_, ?_,
    fun same => unmatched _ (by rw [same]; exact present) matched, fun same => by simpa using congrArg List.length same⟩
  · simp only [getAllAcrossDelete, run_append]
    rw [run_spawn_pair, run_first unmarshal growCap toSplice rfl (q := .start) rfl,
      run_first unmarshal growCap toAssign rfl (q := .start) rfl,
      run_second unmarshal growCap read (p := .assignPtr ⟨books.ptr, books.len - 1, books.cap⟩) rfl rfl,
      run_first unmarshal growCap assigned rfl (q := .done (jsonResponse statusOK
        (.books ((memory.view books).eraseIdx index ++ [(memory.view books).getD (books.len - 1) default])))) rfl]
    rfl
  · simp [serve, handle, deleteBook, getAllBooks, delete_book_for_first _ index (by omega) matched misses]
  · simp [serve, handle, deleteBook, getAllBooks, delete_book_for_first _ index (by omega) matched misses]

theorem get_all_across_delete_sends_torn_of_first :
    Memory.Fits [[(⟨1, ()⟩ : Book Unit), ⟨2, ()⟩, ⟨3, ()⟩]] ⟨0, 3, 3⟩ ∧ 0 + 1 < 3 ∧
      ((Memory.view [[(⟨1, ()⟩ : Book Unit), ⟨2, ()⟩, ⟨3, ()⟩]] ⟨0, 3, 3⟩).getD 0 default).ID =
        (atoi (idParam [("id", [49])])).1 ∧
      (∀ book ∈ (Memory.view [[(⟨1, ()⟩ : Book Unit), ⟨2, ()⟩, ⟨3, ()⟩]] ⟨0, 3, 3⟩).eraseIdx 0,
        book.ID ≠ (atoi (idParam [("id", [49])])).1) ∧
      ∃ s : Shared Unit, Process.run (fun (_ : Bytes) (book : Book Unit) => (book, none)) (fun len cap => max len (2 * cap))
          (Process.init [[⟨1, ()⟩, ⟨2, ()⟩, ⟨3, ()⟩]] ⟨0, 3, 3⟩) (getAllAcrossDelete (.deleteBook [("id", [49])]) 0 3) =
          ⟨s, [⟨.deleteBook [("id", [49])], .done (jsonResponse statusOK (.text "Deleted"))⟩,
            ⟨.getAllBooks, .done (getAllBooks [⟨2, ()⟩, ⟨3, ()⟩, ⟨3, ()⟩])⟩]⟩ ∧
        s.memory.Fits s.books ∧ s.memory.view s.books = [⟨2, ()⟩, ⟨3, ()⟩] ∧
        serve (fun (_ : Bytes) (book : Book Unit) => (book, none)) [⟨1, ()⟩, ⟨2, ()⟩, ⟨3, ()⟩]
          [.deleteBook [("id", [49])], .getAllBooks] =
          some ([⟨2, ()⟩, ⟨3, ()⟩], [jsonResponse statusOK (.text "Deleted"), getAllBooks [⟨2, ()⟩, ⟨3, ()⟩]]) ∧
        serve (fun (_ : Bytes) (book : Book Unit) => (book, none)) [⟨1, ()⟩, ⟨2, ()⟩, ⟨3, ()⟩]
          [.getAllBooks, .deleteBook [("id", [49])]] =
          some ([⟨2, ()⟩, ⟨3, ()⟩],
            [getAllBooks [⟨1, ()⟩, ⟨2, ()⟩, ⟨3, ()⟩], jsonResponse statusOK (.text "Deleted")]) ∧
        [(⟨2, ()⟩ : Book Unit), ⟨3, ()⟩, ⟨3, ()⟩] ≠ [⟨1, ()⟩, ⟨2, ()⟩, ⟨3, ()⟩] ∧
        [(⟨2, ()⟩ : Book Unit), ⟨3, ()⟩, ⟨3, ()⟩] ≠ [⟨2, ()⟩, ⟨3, ()⟩] :=
  ⟨by decide, by decide, by decide, by decide,
    get_all_across_delete_sends_torn _ _ [[⟨1, ()⟩, ⟨2, ()⟩, ⟨3, ()⟩]] ⟨0, 3, 3⟩ (by decide) [("id", [49])] 0
      (by decide) (by decide) (by decide)⟩

def getAcrossDelete (get delete : Request) (reads len : Nat) : List Event :=
  [.spawn get, .spawn delete] ++ List.replicate reads (.step 0) ++ List.replicate (4 * len + 14) (.step 1) ++
    List.replicate (4 * len + 14) (.step 0)

theorem get_across_delete_misses (memory : Memory α) (books : Header) (fits : memory.Fits books)
    (distinct : IdsDistinct (memory.view books)) (getVars deleteVars : Vars) (index found : Nat)
    (earlier : index < found) (within : found + 1 < books.len)
    (deleting : ((memory.view books).getD index default).ID = (atoi (idParam deleteVars)).1)
    (getting : ((memory.view books).getD found default).ID = (atoi (idParam getVars)).1) :
    ∃ s : Shared α, Process.run unmarshal growCap (Process.init memory books)
        (getAcrossDelete (.getBook getVars) (.deleteBook deleteVars) (2 * found + 4) books.len) =
        ⟨s, [⟨.getBook getVars, .done .empty⟩,
          ⟨.deleteBook deleteVars, .done (jsonResponse statusOK (.text "Deleted"))⟩]⟩ ∧
      s.memory.Fits s.books ∧ s.memory.view s.books = (memory.view books).eraseIdx index ∧
      (memory.view books).getD found default ∈ memory.view books ∧
      (memory.view books).getD found default ∈ s.memory.view s.books ∧
      getBook getVars (memory.view books) = jsonResponse statusOK (.book ((memory.view books).getD found default)) ∧
      getBook getVars ((memory.view books).eraseIdx index) =
        jsonResponse statusOK (.book ((memory.view books).getD found default)) := by
  have length := Memory.length_view fits
  have differ : ∀ j < found, ((memory.view books).getD j default).ID ≠ (atoi (idParam getVars)).1 :=
    fun j below => getting ▸ ids_differ distinct (by omega) (by omega) (by omega)
  have ranged : soloRun unmarshal growCap (.getBook getVars) (2 * found + 4) .start ⟨memory, books⟩ =
      (.rangeID (.get (atoi (idParam getVars)).1) books found, ⟨memory, books⟩) :=
    solo_get_to unmarshal growCap getVars (s := ⟨memory, books⟩) fits (show found ≤ books.len by omega) differ 0
  obtain ⟨memory₁, deleted, kept, fits₁, viewed₁, old⟩ := solo_delete unmarshal growCap deleteVars
    (s := ⟨memory, books⟩) fits (show index < books.len by omega) deleting
    (fun j below => deleting ▸ ids_differ distinct (by omega) (by omega) (by omega)) 0
  dsimp only at deleted kept fits₁ viewed₁ old
  rw [Nat.add_zero] at deleted
  have missed : ∀ book ∈ ((memory.view books).eraseIdx index ++ [(memory.view books).getD (books.len - 1) default]).drop
      found, book.ID ≠ (atoi (idParam getVars)).1 := by
    rw [← length, ← getting]
    exact spliced_after_misses distinct earlier (by omega)
  have rescanned := solo_get_book_scan unmarshal growCap (.getBook getVars) (atoi (idParam getVars)).1
    (s := ⟨memory₁, ⟨books.ptr, books.len - 1, books.cap⟩⟩) kept found (2 * books.len + 2 * found + 13) (by omega)
  dsimp only at rescanned
  rw [show 2 * (books.len - found) + 1 + (2 * books.len + 2 * found + 13) = 4 * books.len + 14 by omega, old,
    (get_book_loop_empty_iff _ _).mpr missed] at rescanned
  have present : (memory.view books).getD found default ∈ memory.view books := by
    rw [List.getD_eq_getElem _ _ (by omega)]
    exact List.getElem_mem _
  refine ⟨⟨memory₁, ⟨books.ptr, books.len - 1, books.cap⟩⟩, ?_, fits₁, viewed₁, present,
    by dsimp only; rw [viewed₁]; exact mem_erase_idx_of_getD earlier (by omega),
    get_book_loop_first (by omega) getting differ, get_book_loop_spliced earlier (by omega) getting differ⟩
  simp only [getAcrossDelete, run_append]
  rw [run_spawn_pair, run_first unmarshal growCap ranged rfl (q := .start) rfl,
    run_second unmarshal growCap deleted (p := .rangeID (.get (atoi (idParam getVars)).1) books found) rfl rfl,
    run_first unmarshal growCap rescanned rfl (q := .done (jsonResponse statusOK (.text "Deleted"))) rfl]

theorem get_across_delete_misses_second :
    Memory.Fits [[(⟨1, ()⟩ : Book Unit), ⟨2, ()⟩, ⟨3, ()⟩]] ⟨0, 3, 3⟩ ∧
      IdsDistinct (Memory.view [[(⟨1, ()⟩ : Book Unit), ⟨2, ()⟩, ⟨3, ()⟩]] ⟨0, 3, 3⟩) ∧ 0 < 1 ∧ 1 + 1 < 3 ∧
      ((Memory.view [[(⟨1, ()⟩ : Book Unit), ⟨2, ()⟩, ⟨3, ()⟩]] ⟨0, 3, 3⟩).getD 0 default).ID =
        (atoi (idParam [("id", [49])])).1 ∧
      ((Memory.view [[(⟨1, ()⟩ : Book Unit), ⟨2, ()⟩, ⟨3, ()⟩]] ⟨0, 3, 3⟩).getD 1 default).ID =
        (atoi (idParam [("id", [50])])).1 ∧
      ∃ s : Shared Unit, Process.run (fun (_ : Bytes) (book : Book Unit) => (book, none)) (fun len cap => max len (2 * cap))
          (Process.init [[⟨1, ()⟩, ⟨2, ()⟩, ⟨3, ()⟩]] ⟨0, 3, 3⟩)
          (getAcrossDelete (.getBook [("id", [50])]) (.deleteBook [("id", [49])]) (2 * 1 + 4) 3) =
          ⟨s, [⟨.getBook [("id", [50])], .done .empty⟩,
            ⟨.deleteBook [("id", [49])], .done (jsonResponse statusOK (.text "Deleted"))⟩]⟩ ∧
        s.memory.Fits s.books ∧ s.memory.view s.books = [⟨2, ()⟩, ⟨3, ()⟩] ∧
        (⟨2, ()⟩ : Book Unit) ∈ [(⟨1, ()⟩ : Book Unit), ⟨2, ()⟩, ⟨3, ()⟩] ∧ (⟨2, ()⟩ : Book Unit) ∈ s.memory.view s.books ∧
        getBook [("id", [50])] [(⟨1, ()⟩ : Book Unit), ⟨2, ()⟩, ⟨3, ()⟩] = jsonResponse statusOK (.book ⟨2, ()⟩) ∧
        getBook [("id", [50])] [(⟨2, ()⟩ : Book Unit), ⟨3, ()⟩] = jsonResponse statusOK (.book ⟨2, ()⟩) :=
  ⟨by decide, by unfold IdsDistinct; decide, by decide, by decide, by decide, by decide,
    get_across_delete_misses _ _ [[⟨1, ()⟩, ⟨2, ()⟩, ⟨3, ()⟩]] ⟨0, 3, 3⟩ (by decide) (by unfold IdsDistinct; decide)
      [("id", [50])] [("id", [49])] 0 1 (by decide) (by decide) (by decide) (by decide)⟩

def tornAdds (first second : Request) (len : Nat) : List Event :=
  [.spawn first, .spawn second] ++ List.replicate 2 (.step 1) ++ List.replicate (4 * len + 14) (.step 0) ++
    List.replicate (4 * len + 14) (.step 1)

theorem add_across_add_tears_header (memory : Memory α) (books : Header) (full : books.len = books.cap)
    (filled : books.cap = (memory.array books.ptr).length) (nonempty : 0 < books.len)
    (roomy : books.len + 2 ≤ growCap (books.len + 1) books.cap) (first second : Bytes)
    (firstDraw secondDraw : Fin 100) :
    ∃ s : Shared α, Process.run unmarshal growCap (Process.init memory books)
        (tornAdds (.addBooks (.ok first) firstDraw) (.addBooks (.ok second) secondDraw) books.len) =
        ⟨s, [⟨.addBooks (.ok first) firstDraw, .done created⟩, ⟨.addBooks (.ok second) secondDraw, .wild⟩]⟩ ∧
      s.books = ⟨memory.length, books.len + 2, growCap (books.len + 1) books.cap⟩ ∧ s.memory.Fits s.books ∧
      s.memory.view s.books = memory.view books ++ [newBook unmarshal first firstDraw, default] ∧
      serve unmarshal (memory.view books) [.addBooks (.ok first) firstDraw, .addBooks (.ok second) secondDraw] =
        some (memory.view books ++ [newBook unmarshal first firstDraw, newBook unmarshal second secondDraw],
          [created, created]) := by
  have fits : memory.Fits books := ⟨full.le, filled.le⟩
  have length := Memory.length_view fits
  have allocated : books.ptr < memory.length := by
    by_contra beyond
    rw [Memory.array_beyond (Nat.le_of_not_lt beyond)] at filled
    simp only [List.length_nil] at filled
    omega
  obtain ⟨grown, spare⟩ : ∃ grown, growCap (books.len + 1) books.cap = grown := ⟨_, rfl⟩
  obtain ⟨extended, appended⟩ : ∃ extended : Memory α, extended = memory ++
      [memory.view books ++ newBook unmarshal first firstDraw :: List.replicate (grown - (books.len + 1)) default] :=
    ⟨_, rfl⟩
  rw [spare] at roomy ⊢
  have loads : soloRun unmarshal growCap (.addBooks (.ok second) secondDraw) 2 .start ⟨memory, books⟩ =
      (.loadLen (.append (newBook unmarshal second secondDraw)) books.ptr, ⟨memory, books⟩) :=
    rfl
  have added : soloRun unmarshal growCap (.addBooks (.ok first) firstDraw) (4 * books.len + 14) .start ⟨memory, books⟩ =
      (.done created, ⟨extended, ⟨memory.length, books.len + 1, grown⟩⟩) := by
    rw [show 4 * books.len + 14 = 4 + (4 * books.len + 7 + 3) by omega, solo_run_add, solo_add_load, appended, ← spare]
    exact solo_append_grown unmarshal growCap _ _ (s := ⟨memory, books⟩) fits (by omega) (by omega) 3
  have outside : extended.slot books.ptr (books.len + 1 + 1 - 1) = none :=
    Memory.slot_eq_none (by rw [appended, Memory.array_append_old _ _ allocated]; omega)
  have torn : soloRun unmarshal growCap (.addBooks (.ok second) secondDraw) (4 * books.len + 14)
      (.loadLen (.append (newBook unmarshal second secondDraw)) books.ptr) ⟨extended, ⟨memory.length, books.len + 1, grown⟩⟩ =
      (.wild, ⟨extended, ⟨memory.length, books.len + 1 + 1, grown⟩⟩) := by
    rw [show 4 * books.len + 14 = 2 + (4 * books.len + 10 + 1 + 1) by omega, solo_load_len]
    dsimp only
    rw [Site.loaded, if_pos (show books.len + 1 + 1 ≤ grown by omega),
      solo_run_succ unmarshal growCap (step_store_len unmarshal growCap _ _ _)]
    dsimp only
    rw [solo_run_succ unmarshal growCap (step_store_book_id_wild unmarshal growCap
        (t := ⟨books.ptr, books.len + 1 + 1, grown⟩) (s := ⟨extended, ⟨memory.length, books.len + 1 + 1, grown⟩⟩) outside),
      solo_run_stuck unmarshal growCap (by rfl)]
  have viewed : extended.view ⟨memory.length, books.len + 2, grown⟩ =
      memory.view books ++ [newBook unmarshal first firstDraw, default] := by
    obtain ⟨k, more⟩ : ∃ k, grown - (books.len + 1) = k + 1 := ⟨grown - (books.len + 2), by omega⟩
    rw [appended, Memory.view_append_new, more, List.replicate_succ, List.take_append_eq_append_take,
      List.take_of_length_le (by omega), length, show books.len + 2 - books.len = 2 by omega]
    rfl
  refine ⟨⟨extended, ⟨memory.length, books.len + 2, grown⟩⟩, ?_, rfl,
    ⟨roomy, by rw [appended]; simp [length]; omega⟩, viewed, by simp [serve, handle, addBooks, created]⟩
  simp only [tornAdds, run_append]
  rw [run_spawn_pair, run_second unmarshal growCap loads (p := .start) rfl rfl,
    run_first unmarshal growCap added rfl (q := .loadLen (.append (newBook unmarshal second secondDraw)) books.ptr) rfl,
    run_second unmarshal growCap torn (p := .done created) rfl rfl]

theorem add_across_add_tears_header_of_two :
    (2 = 2 ∧ 2 = List.length [(⟨1, ()⟩ : Book Unit), ⟨2, ()⟩] ∧ 0 < 2 ∧ 2 + 2 ≤ max (2 + 1) (2 * 2)) ∧
      ∃ s : Shared Unit, Process.run (fun (_ : Bytes) (book : Book Unit) => (book, none)) (fun len cap => max len (2 * cap))
          (Process.init [[⟨1, ()⟩, ⟨2, ()⟩]] ⟨0, 2, 2⟩) (tornAdds (.addBooks (.ok []) 7) (.addBooks (.ok []) 8) 2) =
          ⟨s, [⟨.addBooks (.ok []) 7, .done created⟩, ⟨.addBooks (.ok []) 8, .wild⟩]⟩ ∧
        s.books = ⟨1, 4, 4⟩ ∧ s.memory.Fits s.books ∧ s.memory.view s.books = [⟨1, ()⟩, ⟨2, ()⟩, ⟨7, ()⟩, ⟨0, ()⟩] ∧
        serve (fun (_ : Bytes) (book : Book Unit) => (book, none)) [⟨1, ()⟩, ⟨2, ()⟩]
          [.addBooks (.ok []) 7, .addBooks (.ok []) 8] =
          some ([⟨1, ()⟩, ⟨2, ()⟩, ⟨7, ()⟩, ⟨8, ()⟩], [created, created]) :=
  ⟨⟨rfl, rfl, by decide, by decide⟩,
    add_across_add_tears_header _ _ [[⟨1, ()⟩, ⟨2, ()⟩]] ⟨0, 2, 2⟩ rfl rfl (by decide) (by decide) [] [] 7 8⟩

end Schedules

end BookHandlers
