import Mathlib
import BookHandlers.Strconv

set_option autoImplicit false

/- The data the book handlers share. models.Book and mocks.Books are not in the
   repository: the handlers read the ID field of a book, and the rest of the record is
   the parameter α; mocks.Books is the list threaded through every handler. The
   ResponseWriter keeps what net/http sends: Header().Add after WriteHeader no longer
   changes the header, a second WriteHeader is ignored, and the first Write (here a
   json.Encoder.Encode of a value) writes status 200 when none was written. A handler
   that writes nothing is answered 200 with an empty body. mux.Vars gives the path
   variables of the route, and vars["id"] is "" when there is none. -/
namespace BookHandlers

open Strconv

structure Book (α : Type) where
  ID : Int
  fields : α
deriving DecidableEq, Repr, Inhabited

inductive Payload (α : Type) where
  | text (s : String)
  | book (book : Book α)
  | books (books : List (Book α))
deriving DecidableEq, Repr

structure Response (β : Type) where
  header : List (String × String)
  status : Option Nat
  body : List β
deriving DecidableEq, Repr

namespace Response

variable {β : Type}

def empty : Response β := ⟨[], none, []⟩

def add (w : Response β) (key value : String) : Response β :=
  if w.status.isNone then { w with header := w.header ++ [(key, value)] } else w

def writeHeader (w : Response β) (code : Nat) : Response β :=
  if w.status.isNone then { w with status := some code } else w

def encode (w : Response β) (v : β) : Response β :=
  { w with status := some (w.status.getD 200), body := w.body ++ [v] }

def sentStatus (w : Response β) : Nat := w.status.getD 200

end Response

def statusOK : Nat := 200

def statusCreated : Nat := 201

abbrev Vars := List (String × Bytes)

def idParam (vars : Vars) : Bytes := (vars.lookup "id").getD []

variable {α : Type}

def IdsDistinct (books : List (Book α)) : Prop := (books.map Book.ID).Nodup

instance (books : List (Book α)) : Decidable (IdsDistinct books) :=
  inferInstanceAs (Decidable (books.map Book.ID).Nodup)

theorem ids_distinct_append (books : List (Book α)) (book : Book α) :
    IdsDistinct (books ++ [book]) ↔ IdsDistinct books ∧ ∀ other ∈ books, other.ID ≠ book.ID := by
  simp only [IdsDistinct, List.map_append, List.map_cons, List.map_nil, List.nodup_append,
    List.nodup_cons, List.not_mem_nil, not_false_eq_true, List.nodup_nil, and_self, true_and,
    List.disjoint_singleton, List.mem_map, not_exists, not_and]

theorem ids_distinct_sublist {books kept : List (Book α)} (sub : kept.Sublist books)
    (distinct : IdsDistinct books) : IdsDistinct kept :=
  (sub.map Book.ID).nodup distinct

theorem erase_first_split (books : List (Book α)) (id : Int) (present : ∃ book ∈ books, book.ID = id) :
    ∃ before first after, books = before ++ first :: after ∧ first.ID = id ∧
      (∀ other ∈ before, other.ID ≠ id) ∧
      books.eraseP (fun book => book.ID = id) = before ++ after := by
  obtain ⟨book, member, same⟩ := present
  obtain ⟨first, before, after, absent, matched, split, erased⟩ :=
    @List.exists_of_eraseP _ (fun book => decide (book.ID = id)) books book member (by simpa using same)
  exact ⟨before, first, after, split, by simpa using matched, by simpa using absent, erased⟩

theorem erase_absent (books : List (Book α)) (id : Int) (absent : ∀ book ∈ books, book.ID ≠ id) :
    books.eraseP (fun book => book.ID = id) = books :=
  List.eraseP_of_forall_not (by simpa using absent)

theorem ids_distinct_erase (books : List (Book α)) (id : Int) (distinct : IdsDistinct books) :
    ∀ book ∈ books.eraseP (fun book => book.ID = id), book.ID ≠ id := by
  by_cases present : ∃ book ∈ books, book.ID = id
  · obtain ⟨before, first, after, split, matched, absent, erased⟩ := erase_first_split books id present
    rw [erased]
    subst split
    have unique : first.ID ∉ after.map Book.ID := by
      simp only [IdsDistinct, List.map_append, List.map_cons, List.nodup_append,
        List.nodup_cons] at distinct
      exact distinct.2.1.1
    intro other member
    rcases List.mem_append.mp member with inBefore | inAfter
    · exact absent other inBefore
    · exact fun same => unique (List.mem_map.mpr ⟨other, inAfter, same.trans matched.symm⟩)
  · push_neg at present
    rwa [erase_absent books id present]

end BookHandlers
