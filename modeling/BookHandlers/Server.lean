import Mathlib
import BookHandlers.Handlers
import BookHandlers.Decimal

set_option autoImplicit false

/- The serial server: requests served one after another over mocks.Books, each handler
   run to its end. net/http runs handlers concurrently and they share mocks.Books with no
   lock; the goroutines that model this are compared with this server in Sequential and
   Races. A handler that exits the process ends the run; serve also gives the responses.
   The reachable lists are those some run reaches from the list mocks.Books starts with,
   every request of the run allowed by a guard, such as FreshDraw, an AddBooks whose draw
   is no ID already in mocks.Books. A run never reorders mocks.Books, never repeats a book
   and never adds one that AddBooks did not store. -/
namespace BookHandlers

open Strconv

inductive Request where
  | addBooks (read : Except String Bytes) (draw : Fin 100)
  | getAllBooks
  | getBook (vars : Vars)
  | deleteBook (vars : Vars)

variable {α : Type}

section Runs

variable [Inhabited α] (unmarshal : Bytes → Book α → Book α × Option String)

def handle (books : List (Book α)) : Request → Option (List (Book α) × Response (Payload α))
  | .addBooks read draw => addBooks unmarshal read draw books
  | .getAllBooks => some (books, getAllBooks books)
  | .getBook vars => some (books, getBook vars books)
  | .deleteBook vars => some (deleteBook vars books)

inductive Reachable (allowed : List (Book α) → Request → Prop) (init : List (Book α)) :
    List (Book α) → Prop
  | init : Reachable allowed init init
  | step {books next : List (Book α)} {response : Response (Payload α)} (request : Request) :
      Reachable allowed init books → allowed books request →
      handle unmarshal books request = some (next, response) → Reachable allowed init next

def anyRequest (_ : List (Book α)) (_ : Request) : Prop := True

def FreshDraw (books : List (Book α)) : Request → Prop
  | .addBooks _ draw => ∀ book ∈ books, book.ID ≠ draw.val
  | _ => True

theorem handle_cases {books next : List (Book α)} {response : Response (Payload α)}
    {request : Request} (handled : handle unmarshal books request = some (next, response)) :
    (∃ body draw, request = .addBooks (.ok body) draw ∧ next = books ++ [newBook unmarshal body draw]) ∨
      (∃ id : Int, next = books.eraseP (fun book => book.ID = id)) ∨ next = books := by
  cases request with
  | addBooks read draw =>
      cases read with
      | error failure => cases handled
      | ok body =>
          cases handled
          exact .inl ⟨body, draw, rfl, rfl⟩
  | getAllBooks => cases handled; exact .inr (.inr rfl)
  | getBook vars => cases handled; exact .inr (.inr rfl)
  | deleteBook vars =>
      simp only [handle, deleteBook, delete_book_for_erase, Option.some.injEq, Prod.mk.injEq] at handled
      exact .inr (.inl ⟨_, handled.1.symm⟩)

def run (books : List (Book α)) : List Request → Option (List (Book α))
  | [] => some books
  | request :: rest =>
      match handle unmarshal books request with
      | some (next, _) => run next rest
      | none => none

def serve (books : List (Book α)) : List Request → Option (List (Book α) × List (Response (Payload α)))
  | [] => some (books, [])
  | request :: rest =>
      match handle unmarshal books request with
      | some (next, response) => (serve next rest).map fun served => (served.1, response :: served.2)
      | none => none

theorem serve_map_fst (books : List (Book α)) (requests : List Request) :
    (serve unmarshal books requests).map Prod.fst = run unmarshal books requests := by
  induction requests generalizing books with
  | nil => rfl
  | cons request rest ih =>
      cases handled : handle unmarshal books request with
      | none => simp [serve, run, handled]
      | some result => simp [serve, run, handled, ← ih, Option.map_map, Function.comp_def]

def storedBy : List Request → List (Book α)
  | [] => []
  | .addBooks (.ok body) draw :: rest => newBook unmarshal body draw :: storedBy rest
  | _ :: rest => storedBy rest

theorem stored_by_tail (request : Request) (rest : List Request) :
    (storedBy unmarshal rest).Sublist (storedBy unmarshal (request :: rest)) := by
  rcases request with ⟨_ | body, draw⟩ | _ | _ | _ <;> simp [storedBy]

theorem run_step {books final : List (Book α)} {request : Request} {rest : List Request}
    (ran : run unmarshal books (request :: rest) = some final) :
    ∃ next response, handle unmarshal books request = some (next, response) ∧
      run unmarshal next rest = some final := by
  unfold run at ran
  split at ran
  · exact ⟨_, _, ‹_›, ran⟩
  · cases ran

theorem run_sublist_stored (requests : List Request) (books final : List (Book α))
    (ran : run unmarshal books requests = some final) :
    final.Sublist (books ++ storedBy unmarshal requests) := by
  induction requests generalizing books with
  | nil =>
      cases ran
      simp
  | cons request rest ih =>
      obtain ⟨next, response, handled, ran⟩ := run_step unmarshal ran
      have later := ih next ran
      rcases handle_cases unmarshal handled with ⟨body, draw, rfl, rfl⟩ | ⟨id, rfl⟩ | rfl
      · simpa [storedBy] using later
      · exact later.trans (((List.eraseP_sublist _).append (stored_by_tail unmarshal _ rest)))
      · exact later.trans ((List.Sublist.refl _).append (stored_by_tail unmarshal _ rest))

theorem run_sublist_stored_add_delete :
    run (fun (_ : Bytes) (book : Book Unit) => (book, none)) [⟨150, ()⟩]
        [.addBooks (.ok []) 5, .deleteBook [("id", [49, 53, 48])]] = some [⟨5, ()⟩] ∧
      [(⟨5, ()⟩ : Book Unit)].Sublist ([⟨150, ()⟩] ++
        storedBy (fun (_ : Bytes) (book : Book Unit) => (book, none))
          [.addBooks (.ok []) 5, .deleteBook [("id", [49, 53, 48])]]) :=
  ⟨by decide, run_sublist_stored _ _ _ _ (by decide)⟩

section Invariants

variable {allowed : List (Book α) → Request → Prop} {init : List (Book α)}

theorem fresh_step_ids_distinct {books next : List (Book α)} {response : Response (Payload α)}
    {request : Request} (distinct : IdsDistinct books) (fresh : FreshDraw books request)
    (handled : handle unmarshal books request = some (next, response)) : IdsDistinct next := by
  rcases handle_cases unmarshal handled with ⟨body, draw, rfl, rfl⟩ | ⟨id, rfl⟩ | rfl
  · exact (ids_distinct_append _ _).mpr ⟨distinct, fresh⟩
  · exact ids_distinct_sublist (List.eraseP_sublist _) distinct
  · exact distinct

theorem fresh_reachable_ids_distinct {books : List (Book α)} (distinct : IdsDistinct init)
    (reached : Reachable unmarshal FreshDraw init books) : IdsDistinct books := by
  induction reached with
  | init => exact distinct
  | step request _ fresh handled ih => exact fresh_step_ids_distinct unmarshal ih fresh handled

end Invariants

theorem fresh_draws_keep_ids_distinct (init : List (Book α)) (distinct : IdsDistinct init)
    (books : List (Book α)) (reached : Reachable unmarshal FreshDraw init books) :
    IdsDistinct books ∧
      (∀ body (draw : Fin 100),
        (IdsDistinct (books ++ [newBook unmarshal body draw]) ↔ ∀ book ∈ books, book.ID ≠ draw.val) ∧
        ((∀ book ∈ books, book.ID ≠ draw.val) →
          Reachable unmarshal FreshDraw init (books ++ [newBook unmarshal body draw]) ∧
          ∀ vars, (atoi (idParam vars)).1 = draw.val →
            getBook vars (books ++ [newBook unmarshal body draw]) =
              jsonResponse statusOK (.book (newBook unmarshal body draw)))) ∧
      ∀ vars, ∀ book ∈ (deleteBook vars books).1, book.ID ≠ (atoi (idParam vars)).1 := by
  have now := fresh_reachable_ids_distinct unmarshal distinct reached
  refine ⟨now, fun body draw => ⟨?_, fun fresh => ⟨?_, fun vars read => ?_⟩⟩, fun vars => ?_⟩
  · simpa [now] using ids_distinct_append books (newBook unmarshal body draw)
  · exact .step (.addBooks (.ok body) draw) reached fresh rfl
  · rw [getBook, read, get_book_loop_find, List.find?_append,
      List.find?_eq_none.mpr (by simpa using fresh)]
    simp [newBook]
  · rw [deleteBook, delete_book_for_erase]
    exact ids_distinct_erase books _ now

theorem fresh_draws_after_one_add :
    IdsDistinct ([] : List (Book Unit)) ∧
      Reachable (fun (_ : Bytes) (book : Book Unit) => (book, none)) FreshDraw [] [⟨5, ()⟩] ∧
      IdsDistinct [(⟨5, ()⟩ : Book Unit)] ∧
      (∀ body (draw : Fin 100),
        (IdsDistinct ([⟨5, ()⟩] ++ [newBook (fun _ book => (book, none)) body draw]) ↔
          ∀ book ∈ [(⟨5, ()⟩ : Book Unit)], book.ID ≠ draw.val) ∧
        ((∀ book ∈ [(⟨5, ()⟩ : Book Unit)], book.ID ≠ draw.val) →
          Reachable (fun _ book => (book, none)) FreshDraw []
            ([⟨5, ()⟩] ++ [newBook (fun _ book => (book, none)) body draw]) ∧
          ∀ vars, (atoi (idParam vars)).1 = draw.val →
            getBook vars ([⟨5, ()⟩] ++ [newBook (fun _ book => (book, none)) body draw]) =
              jsonResponse statusOK (.book (newBook (fun _ book => (book, none)) body draw)))) ∧
      ∀ vars, ∀ book ∈ (deleteBook vars [(⟨5, ()⟩ : Book Unit)]).1, book.ID ≠ (atoi (idParam vars)).1 :=
  have reached : Reachable (fun (_ : Bytes) (book : Book Unit) => (book, none)) FreshDraw [] [⟨5, ()⟩] :=
    .step (.addBooks (.ok []) 5) .init (by simp [FreshDraw]) rfl
  ⟨by decide, reached, fresh_draws_keep_ids_distinct (fun _ book => (book, none)) [] (by decide) _ reached⟩

theorem colliding_draws_share_id :
    Reachable (fun (body : Bytes) (book : Book Nat) => ({ book with fields := body.length }, none))
        anyRequest [] [⟨7, 1⟩, ⟨7, 2⟩] ∧
      IdsDistinct ([] : List (Book Nat)) ∧ ¬ IdsDistinct [(⟨7, 1⟩ : Book Nat), ⟨7, 2⟩] ∧
      getBookLoop 7 [(⟨7, 1⟩ : Book Nat), ⟨7, 2⟩] = jsonResponse statusOK (.book ⟨7, 1⟩) ∧
      (deleteBookFor 7 [(⟨7, 1⟩ : Book Nat), ⟨7, 2⟩]).1 = [⟨7, 2⟩] :=
  ⟨.step (.addBooks (.ok [1, 2]) 7) (.step (.addBooks (.ok [1]) 7) .init trivial rfl) trivial rfl,
    by decide, by decide, rfl, rfl⟩

end Runs

theorem decimal_id_selects (vars : Vars) (books : List (Book α)) (id : Int)
    (decimal : decimalSpec (idParam vars) = some id) (lower : -2 ^ 63 ≤ id) (upper : id < 2 ^ 63) :
    getBook vars books = getBookLoop id books ∧ deleteBook vars books = deleteBookFor id books := by
  have read : atoi (idParam vars) = (id, none) := (atoi_accepts _ id).mpr ⟨decimal, lower, upper⟩
  exact ⟨by rw [getBook, read], by rw [deleteBook, read]⟩

theorem decimal_id_selects_minus_seven :
    decimalSpec (idParam [("id", [45, 55])]) = some (-7) ∧ -2 ^ 63 ≤ (-7 : Int) ∧ (-7 : Int) < 2 ^ 63 ∧
      getBook [("id", [45, 55])] [(⟨-7, ()⟩ : Book Unit)] = getBookLoop (-7) [⟨-7, ()⟩] ∧
      deleteBook [("id", [45, 55])] [(⟨-7, ()⟩ : Book Unit)] = deleteBookFor (-7) [⟨-7, ()⟩] :=
  ⟨by decide, by decide, by decide, decimal_id_selects _ _ _ (by decide) (by decide) (by decide)⟩

end BookHandlers
