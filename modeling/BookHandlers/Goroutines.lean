import Mathlib
import BookHandlers.Slice
import BookHandlers.Server

set_option autoImplicit false

/- The handlers as goroutines. net/http serves each request on a goroutine of its own, and
   the four handlers share mocks.Books with no lock. A goroutine is its request and where it
   is in its handler, with the locals it holds there; a step makes at most one access to a
   word others can see. A read of mocks.Books loads its three words, ptr, len and cap, in
   that order, and a store writes them one at a time in the order the compiler emits: the
   result of DeleteBook's splice ptr, len, cap; the append of AddBooks, which assigns its
   result back to mocks.Books, writes cap and ptr only when it grew the array, then len,
   and only then the book at the new last index. A range loop copies each element word by
   word into its variable before it compares the ID, and Encode reads each element so. A
   memmove, also the one in growslice, loads a word into a register and stores it, and
   growslice first allocates a zeroed array of growCap newLen oldCap books: the runtime's
   rule for the new capacity is the parameter. The splice
   append(mocks.Books[:index], mocks.Books[index+1:]...) loads mocks.Books once for each
   slice expression, panics when index exceeds the first capacity or index+1 the second
   length, and moves the later books down, in place or into a grown array. A panic ends
   the goroutine with no response, which net/http recovers; log.Fatalln ends the process.
   Each goroutine writes to a ResponseWriter of its own, so its response is built when its
   handler returns. -/
namespace BookHandlers

open Strconv

inductive Lookup where
  | get (id : Int)
  | delete (id : Int)
deriving DecidableEq, Repr

def Lookup.id : Lookup → Int
  | .get id | .delete id => id

variable {α : Type}

inductive Site (α : Type) where
  | range (lookup : Lookup)
  | encode
  | append (book : Book α)
  | low (index : Nat)
  | high (index : Nat) (low : Header)
deriving DecidableEq, Repr

inductive Growth (α : Type) where
  | append (book : Book α)
  | splice (src srcAt count : Nat)
deriving DecidableEq, Repr

inductive Then (α : Type) where
  | append (grown : Header) (book : Book α)
  | spliceGrown (grown : Header) (later : Move)
  | splice (result : Header)
deriving DecidableEq, Repr

inductive Pc (α : Type) where
  | start
  | loadPtr (site : Site α)
  | loadLen (site : Site α) (ptr : Nat)
  | loadCap (site : Site α) (ptr len : Nat)
  | rangeID (lookup : Lookup) (h : Header) (index : Nat)
  | rangeFields (lookup : Lookup) (h : Header) (index : Nat) (ID : Int)
  | encodeID (h : Header) (read : List (Book α))
  | encodeFields (h : Header) (read : List (Book α)) (ID : Int)
  | grow (growth : Growth α) (old : Header) (newLen : Nat)
  | moveID (next : Then α) (m : Move) (k : Nat)
  | moveIDStore (next : Then α) (m : Move) (k : Nat) (ID : Int)
  | moveFields (next : Then α) (m : Move) (k : Nat)
  | moveFieldsStore (next : Then α) (m : Move) (k : Nat) (fields : α)
  | storeCap (grown : Header) (book : Book α)
  | storePtr (grown : Header) (book : Book α)
  | storeLen (result : Header) (book : Book α)
  | storeBookID (result : Header) (book : Book α)
  | storeBookFields (result : Header) (book : Book α)
  | assignPtr (result : Header)
  | assignLen (result : Header)
  | assignCap (result : Header)
  | done (response : Response (Payload α))
  | panicked
  | wild
  | exited
deriving DecidableEq, Repr

structure Goroutine (α : Type) where
  request : Request
  pc : Pc α

structure Shared (α : Type) where
  memory : Memory α
  books : Header

structure Process (α : Type) where
  shared : Shared α
  goroutines : List (Goroutine α)

inductive Event where
  | spawn (request : Request)
  | step (goroutine : Nat)

def created : Response (Payload α) :=
  ((Response.empty.writeHeader statusCreated).add "Content-Type" "application/json").encode (.text "created")

def Lookup.found : Lookup → Nat → Book α → Pc α
  | .get _, _, book => .done (jsonResponse statusOK (.book book))
  | .delete _, index, _ => .loadPtr (.low index)

def Site.loaded : Site α → Header → Pc α
  | .range lookup, h => .rangeID lookup h 0
  | .encode, h => .encodeID h []
  | .append book, h =>
      if h.len + 1 ≤ h.cap then .storeLen ⟨h.ptr, h.len + 1, h.cap⟩ book else .grow (.append book) h (h.len + 1)
  | .low index, h => if index ≤ h.cap then .loadPtr (.high index h) else .panicked
  | .high index first, h =>
      if index + 1 ≤ h.len then
        if index + (h.len - (index + 1)) ≤ first.cap then
          .moveID (.splice ⟨first.ptr, index + (h.len - (index + 1)), first.cap⟩)
            ⟨h.ptr, index + 1, first.ptr, index, h.len - (index + 1)⟩ 0
        else
          .grow (.splice h.ptr (index + 1) (h.len - (index + 1))) ⟨first.ptr, index, first.cap⟩
            (index + (h.len - (index + 1)))
      else .panicked

def Growth.then : Growth α → Header → Nat → Then α
  | .append book, grown, _ => .append grown book
  | .splice src srcAt count, grown, len => .spliceGrown grown ⟨src, srcAt, grown.ptr, len, count⟩

def Then.next : Then α → Pc α
  | .append grown book => .storeCap grown book
  | .spliceGrown grown later => .moveID (.splice grown) later 0
  | .splice result => .assignPtr result

def Pc.isExited : Pc α → Bool
  | .exited => true
  | _ => false

theorem eq_exited_of_is_exited {pc : Pc α} (stopped : pc.isExited = true) : pc = .exited := by
  cases pc <;> first | rfl | cases stopped

def Process.exited (p : Process α) : Bool := p.goroutines.any fun g => g.pc.isExited

def Live (goroutines : List (Goroutine α)) : Prop := ∀ g ∈ goroutines, g.pc.isExited = false

def Process.init (memory : Memory α) (books : Header) : Process α := ⟨⟨memory, books⟩, []⟩

section Steps

variable [Inhabited α] (unmarshal : Bytes → Book α → Book α × Option String) (growCap : Nat → Nat → Nat)

def Pc.step : Pc α → Shared α → Option (Pc α × Shared α)
  | .loadPtr site, s => some (.loadLen site s.books.ptr, s)
  | .loadLen site ptr, s => some (.loadCap site ptr s.books.len, s)
  | .loadCap site ptr len, s => some (site.loaded ⟨ptr, len, s.books.cap⟩, s)
  | .rangeID lookup h index, s =>
      if index < h.len then
        some ((s.memory.slot h.ptr index).elim .wild fun book => .rangeFields lookup h index book.ID, s)
      else some (.done .empty, s)
  | .rangeFields lookup h index ID, s =>
      some ((s.memory.slot h.ptr index).elim .wild fun book =>
        if ID = lookup.id then lookup.found index ⟨ID, book.fields⟩ else .rangeID lookup h (index + 1), s)
  | .encodeID h read, s =>
      if read.length < h.len then
        some ((s.memory.slot h.ptr read.length).elim .wild fun book => .encodeFields h read book.ID, s)
      else some (.done (jsonResponse statusOK (.books read)), s)
  | .encodeFields h read ID, s =>
      some ((s.memory.slot h.ptr read.length).elim .wild fun book => .encodeID h (read ++ [⟨ID, book.fields⟩]), s)
  | .grow growth old newLen, s =>
      some (.moveID (growth.then ⟨s.memory.length, newLen, growCap newLen old.cap⟩ old.len)
          ⟨old.ptr, 0, s.memory.length, 0, old.len⟩ 0,
        { s with memory := s.memory ++ [List.replicate (growCap newLen old.cap) default] })
  | .moveID next m k, s =>
      if k < m.count then
        some ((s.memory.slot m.src (m.srcAt + k)).elim .wild fun book => .moveIDStore next m k book.ID, s)
      else some (next.next, s)
  | .moveIDStore next m k ID, s =>
      some ((s.memory.storeID m.dst (m.dstAt + k) ID).elim (.wild, s) fun memory =>
        (.moveFields next m k, { s with memory := memory }))
  | .moveFields next m k, s =>
      some ((s.memory.slot m.src (m.srcAt + k)).elim .wild fun book => .moveFieldsStore next m k book.fields, s)
  | .moveFieldsStore next m k fields, s =>
      some ((s.memory.storeFields m.dst (m.dstAt + k) fields).elim (.wild, s) fun memory =>
        (.moveID next m (k + 1), { s with memory := memory }))
  | .storeCap grown book, s => some (.storePtr grown book, { s with books := { s.books with cap := grown.cap } })
  | .storePtr grown book, s => some (.storeLen grown book, { s with books := { s.books with ptr := grown.ptr } })
  | .storeLen result book, s =>
      some (.storeBookID result book, { s with books := { s.books with len := result.len } })
  | .storeBookID result book, s =>
      some ((s.memory.storeID result.ptr (result.len - 1) book.ID).elim (.wild, s) fun memory =>
        (.storeBookFields result book, { s with memory := memory }))
  | .storeBookFields result book, s =>
      some ((s.memory.storeFields result.ptr (result.len - 1) book.fields).elim (.wild, s) fun memory =>
        (.done created, { s with memory := memory }))
  | .assignPtr result, s => some (.assignLen result, { s with books := { s.books with ptr := result.ptr } })
  | .assignLen result, s => some (.assignCap result, { s with books := { s.books with len := result.len } })
  | .assignCap result, s =>
      some (.done (jsonResponse statusOK (.text "Deleted")), { s with books := { s.books with cap := result.cap } })
  | _, _ => none

def Request.begin : Request → Pc α
  | .addBooks (.error _) _ => .exited
  | .addBooks (.ok body) draw => .loadPtr (.append (newBook unmarshal body draw))
  | .getAllBooks => .loadPtr .encode
  | .getBook vars => .loadPtr (.range (.get (atoi (idParam vars)).1))
  | .deleteBook vars => .loadPtr (.range (.delete (atoi (idParam vars)).1))

def goroutineStep (request : Request) : Pc α → Shared α → Option (Pc α × Shared α)
  | .start, s => some (request.begin unmarshal, s)
  | pc, s => pc.step growCap s

def soloRun (request : Request) : Nat → Pc α → Shared α → Pc α × Shared α
  | 0, pc, s => (pc, s)
  | n + 1, pc, s =>
      match goroutineStep unmarshal growCap request pc s with
      | some next => soloRun request n next.1 next.2
      | none => (pc, s)

def Process.next (p : Process α) : Event → Option (Process α)
  | .spawn request => some { p with goroutines := p.goroutines ++ [⟨request, .start⟩] }
  | .step i =>
      match p.goroutines[i]? with
      | some g =>
          (goroutineStep unmarshal growCap g.request g.pc p.shared).map fun next =>
            ⟨next.2, p.goroutines.set i ⟨g.request, next.1⟩⟩
      | none => none

def Process.apply (p : Process α) (e : Event) : Process α :=
  if p.exited then p else (Process.next unmarshal growCap p e).getD p

def Process.run (p : Process α) (events : List Event) : Process α :=
  events.foldl (Process.apply unmarshal growCap) p

section StepCases

variable {request : Request} {s : Shared α} {h : Header} {book : Book α}

theorem step_range_id (lookup : Lookup) {k : Nat} (within : k < h.len) (read : s.memory.slot h.ptr k = some book) :
    goroutineStep unmarshal growCap request (.rangeID lookup h k) s = some (.rangeFields lookup h k book.ID, s) := by
  simp [goroutineStep, Pc.step, within, read]

theorem step_range_end (lookup : Lookup) {k : Nat} (beyond : h.len ≤ k) :
    goroutineStep unmarshal growCap request (.rangeID lookup h k) s = some (.done .empty, s) := by
  simp [goroutineStep, Pc.step, Nat.not_lt.mpr beyond]

theorem step_range_fields (lookup : Lookup) {k : Nat} {ID : Int} (read : s.memory.slot h.ptr k = some book) :
    goroutineStep unmarshal growCap request (.rangeFields lookup h k ID) s =
      some (if ID = lookup.id then lookup.found k ⟨ID, book.fields⟩ else .rangeID lookup h (k + 1), s) := by
  simp [goroutineStep, Pc.step, read]

theorem step_encode_id {read : List (Book α)} (within : read.length < h.len)
    (loaded : s.memory.slot h.ptr read.length = some book) :
    goroutineStep unmarshal growCap request (.encodeID h read) s = some (.encodeFields h read book.ID, s) := by
  simp [goroutineStep, Pc.step, within, loaded]

theorem step_encode_end {read : List (Book α)} (beyond : h.len ≤ read.length) :
    goroutineStep unmarshal growCap request (.encodeID h read) s =
      some (.done (jsonResponse statusOK (.books read)), s) := by
  simp [goroutineStep, Pc.step, Nat.not_lt.mpr beyond]

theorem step_encode_fields {read : List (Book α)} {ID : Int} (loaded : s.memory.slot h.ptr read.length = some book) :
    goroutineStep unmarshal growCap request (.encodeFields h read ID) s =
      some (.encodeID h (read ++ [⟨ID, book.fields⟩]), s) := by
  simp [goroutineStep, Pc.step, loaded]

theorem step_move_id {next : Then α} {m : Move} {k : Nat} (within : k < m.count)
    (read : s.memory.slot m.src (m.srcAt + k) = some book) :
    goroutineStep unmarshal growCap request (.moveID next m k) s = some (.moveIDStore next m k book.ID, s) := by
  simp [goroutineStep, Pc.step, within, read]

theorem step_move_end {next : Then α} {m : Move} {k : Nat} (beyond : m.count ≤ k) :
    goroutineStep unmarshal growCap request (.moveID next m k) s = some (next.next, s) := by
  simp [goroutineStep, Pc.step, Nat.not_lt.mpr beyond]

theorem step_move_id_wild {next : Then α} {m : Move} {k : Nat} (within : k < m.count)
    (outside : s.memory.slot m.src (m.srcAt + k) = none) :
    goroutineStep unmarshal growCap request (.moveID next m k) s = some (.wild, s) := by
  simp [goroutineStep, Pc.step, within, outside]

theorem step_move_id_store {next : Then α} {m : Move} {k : Nat} {ID : Int}
    (present : s.memory.slot m.dst (m.dstAt + k) = some book) :
    goroutineStep unmarshal growCap request (.moveIDStore next m k ID) s =
      some (.moveFields next m k, ⟨s.memory.put m.dst (m.dstAt + k) { book with ID := ID }, s.books⟩) := by
  simp [goroutineStep, Pc.step, Memory.store_id_of_slot present]

theorem step_move_fields {next : Then α} {m : Move} {k : Nat}
    (read : s.memory.slot m.src (m.srcAt + k) = some book) :
    goroutineStep unmarshal growCap request (.moveFields next m k) s =
      some (.moveFieldsStore next m k book.fields, s) := by
  simp [goroutineStep, Pc.step, read]

theorem step_move_fields_store {next : Then α} {m : Move} {k : Nat} {fields : α}
    (present : s.memory.slot m.dst (m.dstAt + k) = some book) :
    goroutineStep unmarshal growCap request (.moveFieldsStore next m k fields) s =
      some (.moveID next m (k + 1), ⟨s.memory.put m.dst (m.dstAt + k) { book with fields := fields }, s.books⟩) := by
  simp [goroutineStep, Pc.step, Memory.store_fields_of_slot present]

theorem step_grow (growth : Growth α) (old : Header) (newLen : Nat) (s : Shared α) :
    goroutineStep unmarshal growCap request (.grow growth old newLen) s =
      some (.moveID (growth.then ⟨s.memory.length, newLen, growCap newLen old.cap⟩ old.len)
          ⟨old.ptr, 0, s.memory.length, 0, old.len⟩ 0,
        ⟨s.memory ++ [List.replicate (growCap newLen old.cap) default], s.books⟩) := rfl

theorem step_store_cap (t : Header) (book : Book α) (s : Shared α) :
    goroutineStep unmarshal growCap request (.storeCap t book) s =
      some (.storePtr t book, ⟨s.memory, { s.books with cap := t.cap }⟩) := rfl

theorem step_store_ptr (t : Header) (book : Book α) (s : Shared α) :
    goroutineStep unmarshal growCap request (.storePtr t book) s =
      some (.storeLen t book, ⟨s.memory, { s.books with ptr := t.ptr }⟩) := rfl

theorem step_store_len (t : Header) (book : Book α) (s : Shared α) :
    goroutineStep unmarshal growCap request (.storeLen t book) s =
      some (.storeBookID t book, ⟨s.memory, { s.books with len := t.len }⟩) := rfl

theorem step_store_book_id {t : Header} {slot : Book α} (present : s.memory.slot t.ptr (t.len - 1) = some slot) :
    goroutineStep unmarshal growCap request (.storeBookID t book) s =
      some (.storeBookFields t book, ⟨s.memory.put t.ptr (t.len - 1) { slot with ID := book.ID }, s.books⟩) := by
  simp [goroutineStep, Pc.step, Memory.store_id_of_slot present]

theorem step_store_book_id_wild {t : Header} (outside : s.memory.slot t.ptr (t.len - 1) = none) :
    goroutineStep unmarshal growCap request (.storeBookID t book) s = some (.wild, s) := by
  simp [goroutineStep, Pc.step, Memory.storeID, outside]

theorem step_store_book_fields {t : Header} {slot : Book α} (present : s.memory.slot t.ptr (t.len - 1) = some slot) :
    goroutineStep unmarshal growCap request (.storeBookFields t book) s =
      some (.done created, ⟨s.memory.put t.ptr (t.len - 1) { slot with fields := book.fields }, s.books⟩) := by
  simp [goroutineStep, Pc.step, Memory.store_fields_of_slot present]

end StepCases

@[simp] theorem run_nil (p : Process α) : Process.run unmarshal growCap p [] = p := rfl

theorem run_append (p : Process α) (first later : List Event) :
    Process.run unmarshal growCap p (first ++ later) =
      Process.run unmarshal growCap (Process.run unmarshal growCap p first) later :=
  List.foldl_append _ _ _ _

theorem solo_run_succ {request : Request} {pc pc' : Pc α} {s s' : Shared α}
    (stepped : goroutineStep unmarshal growCap request pc s = some (pc', s')) (n : Nat) :
    soloRun unmarshal growCap request (n + 1) pc s = soloRun unmarshal growCap request n pc' s' := by
  simp [soloRun, stepped]

theorem solo_run_stuck {request : Request} {pc : Pc α} {s : Shared α}
    (stuck : goroutineStep unmarshal growCap request pc s = none) (n : Nat) :
    soloRun unmarshal growCap request n pc s = (pc, s) := by
  cases n <;> simp [soloRun, stuck]

theorem solo_run_add (request : Request) (m n : Nat) (pc : Pc α) (s : Shared α) :
    soloRun unmarshal growCap request (m + n) pc s =
      soloRun unmarshal growCap request n (soloRun unmarshal growCap request m pc s).1
        (soloRun unmarshal growCap request m pc s).2 := by
  induction m generalizing pc s with
  | zero => simp [soloRun]
  | succ m ih =>
      cases stepped : goroutineStep unmarshal growCap request pc s with
      | none => simp only [solo_run_stuck unmarshal growCap stepped]
      | some next =>
          rw [Nat.add_right_comm, solo_run_succ unmarshal growCap stepped, solo_run_succ unmarshal growCap stepped, ih]

theorem solo_run_done (request : Request) (response : Response (Payload α)) (s : Shared α) (n : Nat) :
    soloRun unmarshal growCap request n (.done response) s = (.done response, s) :=
  solo_run_stuck unmarshal growCap (by rfl) n

theorem solo_run_exited (request : Request) (s : Shared α) (n : Nat) :
    soloRun unmarshal growCap request n .exited s = (.exited, s) :=
  solo_run_stuck unmarshal growCap (by rfl) n

theorem run_exited {p : Process α} (stopped : p.exited) (events : List Event) :
    Process.run unmarshal growCap p events = p := by
  induction events with
  | nil => rfl
  | cons e rest ih => simpa [Process.run, Process.apply, stopped] using ih

omit [Inhabited α] in
theorem exited_of_live {s : Shared α} {goroutines : List (Goroutine α)} (live : Live goroutines) :
    (⟨s, goroutines⟩ : Process α).exited = false := by
  simpa [Process.exited, List.any_eq_false] using live

omit [Inhabited α] in
theorem live_set {goroutines : List (Goroutine α)} (live : Live goroutines) (i : Nat) (g : Goroutine α)
    (alive : g.pc.isExited = false) : Live (goroutines.set i g) := fun other member => by
  rcases List.mem_or_eq_of_mem_set member with old | rfl
  exacts [live other old, alive]

omit [Inhabited α] in
theorem set_found {goroutines : List (Goroutine α)} {i : Nat} {g : Goroutine α} (found : goroutines[i]? = some g) :
    goroutines.set i g = goroutines := by
  apply List.ext_getElem?
  intro j
  rw [List.getElem?_set]
  by_cases same : i = j
  · subst same
    simp [(List.getElem?_eq_some_iff.mp found).1, found]
  · simp [same]

theorem run_spawn {s : Shared α} {goroutines : List (Goroutine α)} (live : Live goroutines) (request : Request)
    (rest : List Event) :
    Process.run unmarshal growCap ⟨s, goroutines⟩ (.spawn request :: rest) =
      Process.run unmarshal growCap ⟨s, goroutines ++ [⟨request, .start⟩]⟩ rest := by
  simp [Process.run, Process.apply, exited_of_live live, Process.next]

theorem run_solo {s : Shared α} {goroutines : List (Goroutine α)} {i : Nat} {g : Goroutine α}
    (live : Live goroutines) (found : goroutines[i]? = some g) (n : Nat) :
    Process.run unmarshal growCap ⟨s, goroutines⟩ (List.replicate n (.step i)) =
      ⟨(soloRun unmarshal growCap g.request n g.pc s).2,
        goroutines.set i ⟨g.request, (soloRun unmarshal growCap g.request n g.pc s).1⟩⟩ := by
  induction n generalizing s goroutines g with
  | zero => simp [soloRun, set_found found]
  | succ n ih =>
      have within := (List.getElem?_eq_some_iff.mp found).1
      cases stepped : goroutineStep unmarshal growCap g.request g.pc s with
      | none =>
          have same : Process.apply unmarshal growCap ⟨s, goroutines⟩ (.step i) = ⟨s, goroutines⟩ := by
            simp [Process.apply, Process.next, found, stepped]
          have rest : Process.run unmarshal growCap ⟨s, goroutines⟩ (List.replicate n (.step i)) =
              ⟨s, goroutines⟩ := by
            simpa [solo_run_stuck unmarshal growCap stepped, set_found found] using @ih s goroutines g live found
          rw [List.replicate_succ, Process.run, List.foldl_cons, same, ← Process.run, rest,
            solo_run_stuck unmarshal growCap stepped, set_found found]
      | some next =>
          have moved : Process.apply unmarshal growCap ⟨s, goroutines⟩ (.step i) =
              ⟨next.2, goroutines.set i ⟨g.request, next.1⟩⟩ := by
            simp [Process.apply, exited_of_live live, Process.next, found, stepped]
          have found' : (goroutines.set i ⟨g.request, next.1⟩)[i]? = some ⟨g.request, next.1⟩ :=
            List.getElem?_set_self within
          rw [List.replicate_succ, Process.run, List.foldl_cons, moved, ← Process.run,
            solo_run_succ unmarshal growCap stepped]
          cases alive : next.1.isExited
          · rw [ih (live_set live i _ alive) found', List.set_set]
          · have stopped : (⟨next.2, goroutines.set i ⟨g.request, next.1⟩⟩ : Process α).exited := by
              simp only [Process.exited, List.any_eq_true]
              exact ⟨_, List.getElem_mem (by simpa using within), by simpa [List.getElem_set_self] using alive⟩
            rw [run_exited unmarshal growCap stopped, eq_exited_of_is_exited alive, solo_run_exited]

end Steps

theorem live_pair {first second : Goroutine α} (alive : first.pc.isExited = false)
    (alive' : second.pc.isExited = false) : Live [first, second] := by
  simp [Live, alive, alive']

end BookHandlers
