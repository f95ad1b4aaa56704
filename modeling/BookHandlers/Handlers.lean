import Mathlib
import BookHandlers.Model

set_option autoImplicit false

/- The four handlers of package handlers, each a function of mocks.Books and of what its
   request carries; each writes to the fresh ResponseWriter of its request. json.Unmarshal
   into models.Book is the parameter unmarshal: from the body and the book it decodes
   into it gives the book and the error it reports. The draw is what rand.Intn(100)
   returned, and the read is what ioutil.ReadAll returned: log.Fatalln on its error ends
   the process, which AddBooks returns as none. DeleteBook's range loop splices the array
   it reads from, and the break after the splice keeps it from reading the shifted books:
   the model's loop returns at the splice. -/
namespace BookHandlers

open Strconv

variable {α : Type}

def jsonResponse (code : Nat) (v : Payload α) : Response (Payload α) :=
  ((Response.empty.add "Content-Type" "application/json").writeHeader code).encode v

section AddBooks

variable [Inhabited α] (unmarshal : Bytes → Book α → Book α × Option String)

def newBook (body : Bytes) (draw : Fin 100) : Book α :=
  { (unmarshal body default).1 with ID := draw.val }

def addBooks (read : Except String Bytes) (draw : Fin 100) (books : List (Book α)) :
    Option (List (Book α) × Response (Payload α)) :=
  match read with
  | .error _ => none
  | .ok body =>
      some (books ++ [newBook unmarshal body draw],
        ((Response.empty.writeHeader statusCreated).add "Content-Type" "application/json").encode
          (.text "created"))

end AddBooks

def getAllBooks (books : List (Book α)) : Response (Payload α) :=
  jsonResponse statusOK (.books books)

def getBookLoop (id : Int) : List (Book α) → Response (Payload α)
  | [] => .empty
  | book :: rest => if book.ID = id then jsonResponse statusOK (.book book) else getBookLoop id rest

def getBook (vars : Vars) (books : List (Book α)) : Response (Payload α) :=
  getBookLoop (atoi (idParam vars)).1 books

def deleteBookLoop (id : Int) (books : List (Book α)) :
    Nat → List (Book α) → List (Book α) × Response (Payload α)
  | _, [] => (books, .empty)
  | index, book :: rest =>
      if book.ID = id then
        (books.take index ++ books.drop (index + 1), jsonResponse statusOK (.text "Deleted"))
      else deleteBookLoop id books (index + 1) rest

def deleteBookFor (id : Int) (books : List (Book α)) : List (Book α) × Response (Payload α) :=
  deleteBookLoop id books 0 books

def deleteBook (vars : Vars) (books : List (Book α)) : List (Book α) × Response (Payload α) :=
  deleteBookFor (atoi (idParam vars)).1 books

theorem get_book_loop_find (id : Int) (books : List (Book α)) :
    getBookLoop id books = match books.find? (fun book => book.ID = id) with
      | some book => jsonResponse statusOK (.book book)
      | none => .empty := by
  induction books with
  | nil => rfl
  | cons book rest ih =>
      by_cases same : book.ID = id
      · simp [getBookLoop, same]
      · simp [getBookLoop, same, ih]

theorem get_book_loop_empty_iff (id : Int) (books : List (Book α)) :
    getBookLoop id books = .empty ↔ ∀ book ∈ books, book.ID ≠ id := by
  rw [get_book_loop_find]
  cases found : books.find? (fun book => book.ID = id) with
  | none => simpa using List.find?_eq_none.mp found
  | some book =>
      have matched : book.ID = id := by simpa using List.find?_some found
      exact ⟨fun sent => (nomatch congrArg Response.status sent),
        fun absent => (absent book (List.mem_of_find?_eq_some found) matched).elim⟩

theorem delete_book_loop_erase (id : Int) (before rest : List (Book α))
    (skipped : ∀ book ∈ before, book.ID ≠ id) :
    deleteBookLoop id (before ++ rest) before.length rest =
      (before ++ rest.eraseP (fun book => book.ID = id),
        if rest.any (fun book => book.ID = id) then jsonResponse statusOK (.text "Deleted")
        else .empty) := by
  induction rest generalizing before with
  | nil => simp [deleteBookLoop]
  | cons book rest ih =>
      by_cases same : book.ID = id
      · simp [deleteBookLoop, same]
      · have step := ih (before ++ [book]) (by
          simp only [List.mem_append, List.mem_singleton]
          rintro other (member | rfl)
          exacts [skipped other member, same])
        simp only [List.append_assoc, List.singleton_append, List.length_append,
          List.length_singleton] at step
        simp [deleteBookLoop, same, step]

theorem delete_book_for_erase (id : Int) (books : List (Book α)) :
    deleteBookFor id books =
      (books.eraseP (fun book => book.ID = id),
        if books.any (fun book => book.ID = id) then jsonResponse statusOK (.text "Deleted")
        else .empty) := by
  simpa using delete_book_loop_erase id [] books (by simp)

theorem delete_book_removes_first (id : Int) (books : List (Book α)) :
    ((∀ book ∈ books, book.ID ≠ id) ∧ (deleteBookFor id books).1 = books) ∨
      ∃ before book after, books = before ++ book :: after ∧ book.ID = id ∧
        (∀ other ∈ before, other.ID ≠ id) ∧ (deleteBookFor id books).1 = before ++ after := by
  rw [delete_book_for_erase]
  by_cases present : ∃ book ∈ books, book.ID = id
  · exact .inr (erase_first_split books id present)
  · push_neg at present
    exact .inl ⟨present, erase_absent books id present⟩

theorem book_lookup_responses (id : Int) (books : List (Book α)) :
    getBookLoop id books = (match books.find? (fun book => book.ID = id) with
      | some book => jsonResponse statusOK (.book book)
      | none => .empty) ∧
    (deleteBookFor id books).2 =
      (if books.any (fun book => book.ID = id) then jsonResponse statusOK (.text "Deleted")
      else .empty) ∧
    (Response.empty : Response (Payload α)).sentStatus = statusOK := by
  rw [get_book_loop_find, delete_book_for_erase]
  exact ⟨rfl, rfl, rfl⟩

theorem get_book_missing_writes_nothing :
    (getBookLoop 1 ([] : List (Book Unit))).sentStatus = statusOK ∧
      (getBookLoop 1 ([] : List (Book Unit))).body = [] ∧
      (deleteBookFor 1 ([] : List (Book Unit))).2.sentStatus = statusOK ∧
      (deleteBookFor 1 ([] : List (Book Unit))).2.body = [] :=
  ⟨rfl, rfl, rfl, rfl⟩

theorem add_books_ignores_unmarshal_error [Inhabited α]
    (unmarshal : Bytes → Book α → Book α × Option String) (read : Except String Bytes)
    (draw : Fin 100) (books : List (Book α)) :
    (addBooks unmarshal read draw books = none ↔ ∃ failure, read = .error failure) ∧
      ∀ body, read = .ok body → ∃ response,
        addBooks unmarshal read draw books = some (books ++ [newBook unmarshal body draw], response) ∧
        response.sentStatus = statusCreated ∧ response.body = [.text "created"] ∧
        (newBook unmarshal body draw).ID = draw ∧
        (newBook unmarshal body draw).fields = (unmarshal body default).1.fields := by
  cases read with
  | error failure => simp [addBooks]
  | ok body =>
      refine ⟨by simp [addBooks], fun given same => ?_⟩
      cases same
      exact ⟨_, rfl, rfl, rfl, rfl, rfl⟩

theorem add_books_created_on_bad_json :
    ((fun (_ : Bytes) (book : Book Unit) => (book, some "unexpected end of JSON input")) [123]
        default).2.isSome ∧
      addBooks (fun _ book => (book, some "unexpected end of JSON input")) (.ok [123]) 0
          ([] : List (Book Unit)) =
        some ([⟨0, ()⟩], ⟨[], some statusCreated, [.text "created"]⟩) :=
  ⟨rfl, rfl⟩

end BookHandlers
