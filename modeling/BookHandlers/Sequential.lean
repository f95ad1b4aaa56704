import Mathlib
import BookHandlers.Solo

set_option autoImplicit false

/- Requests served one at a time by goroutines. serialSchedule spawns the goroutine of
   each request and gives it fuel steps before the next request arrives; with fuel enough
   for the longest handler on the longest list the run can reach, every goroutine has
   returned before the next is spawned. On such a schedule the goroutines answer as serve,
   the serial server, does over the view of mocks.Books, and leave mocks.Books within its
   array and viewing serve's final list; a body read that fails ends the process where
   serve stops. -/
namespace BookHandlers

open Strconv

variable {α : Type}

def serialSchedule (fuel : Nat) : Nat → List Request → List Event
  | _, [] => []
  | i, request :: rest => .spawn request :: (List.replicate fuel (.step i) ++ serialSchedule fuel (i + 1) rest)

def answered : List Request → List (Response (Payload α)) → List (Goroutine α) :=
  List.zipWith fun request response => ⟨request, .done response⟩

theorem live_append {goroutines : List (Goroutine α)} (live : Live goroutines) {g : Goroutine α}
    (alive : g.pc.isExited = false) : Live (goroutines ++ [g]) := by
  intro other member
  rcases List.mem_append.mp member with old | last
  · exact live other old
  · rw [List.mem_singleton.mp last]
    exact alive

section Serial

variable [Inhabited α] (unmarshal : Bytes → Book α → Book α × Option String) (growCap : Nat → Nat → Nat)

theorem handle_length {books next : List (Book α)} {request : Request} {response : Response (Payload α)}
    (handled : handle unmarshal books request = some (next, response)) : next.length ≤ books.length + 1 := by
  rcases handle_cases unmarshal handled with ⟨_, _, -, rfl⟩ | ⟨_, rfl⟩ | rfl
  · simp
  · exact (List.length_eraseP_le _).trans (Nat.le_succ _)
  · exact Nat.le_succ _

theorem run_serial_first {s : Shared α} {goroutines : List (Goroutine α)} (live : Live goroutines)
    (fuel : Nat) (request : Request) (rest : List Request) :
    Process.run unmarshal growCap ⟨s, goroutines⟩ (serialSchedule fuel goroutines.length (request :: rest)) =
      Process.run unmarshal growCap
        ⟨(soloRun unmarshal growCap request fuel .start s).2,
          goroutines ++ [⟨request, (soloRun unmarshal growCap request fuel .start s).1⟩]⟩
        (serialSchedule fuel (goroutines.length + 1) rest) := by
  rw [serialSchedule, run_spawn unmarshal growCap live, run_append,
    run_solo unmarshal growCap (live_append live (g := ⟨request, .start⟩) rfl) (List.getElem?_concat_length goroutines _),
    List.set_append_right _ _ le_rfl, Nat.sub_self, List.set_cons_zero]

theorem serial_schedule_serves (grows : ∀ len cap, len ≤ growCap len cap) (fuel : Nat) (requests : List Request)
    (s : Shared α) (goroutines : List (Goroutine α)) (fits : s.memory.Fits s.books) (live : Live goroutines)
    (enough : 4 * (s.books.len + requests.length) + 14 ≤ fuel) :
    (∀ final responses, serve unmarshal (s.memory.view s.books) requests = some (final, responses) →
      ∃ s', Process.run unmarshal growCap ⟨s, goroutines⟩ (serialSchedule fuel goroutines.length requests) =
          ⟨s', goroutines ++ answered requests responses⟩ ∧ s'.memory.Fits s'.books ∧ s'.memory.view s'.books = final) ∧
    (serve unmarshal (s.memory.view s.books) requests = none →
      (Process.run unmarshal growCap ⟨s, goroutines⟩ (serialSchedule fuel goroutines.length requests)).exited) := by
  induction requests generalizing s goroutines with
  | nil =>
      refine ⟨fun final responses served => ?_, fun served => by cases served⟩
      cases served
      exact ⟨s, by simp [serialSchedule, answered], fits, rfl⟩
  | cons request rest ih =>
      have solo := solo_refines unmarshal growCap request grows fits (fuel - (4 * s.books.len + 14))
      rw [show 4 * s.books.len + 14 + (fuel - (4 * s.books.len + 14)) = fuel by simp at enough; omega] at solo
      rw [run_serial_first unmarshal growCap live]
      cases handled : handle unmarshal (s.memory.view s.books) request with
      | none =>
          refine ⟨fun _ _ served => by simp [serve, handled] at served, fun _ => ?_⟩
          rw [solo.2 handled, run_exited unmarshal growCap (by simp [Process.exited, Pc.isExited])]
          simp [Process.exited, Pc.isExited]
      | some result =>
          obtain ⟨next, response⟩ := result
          obtain ⟨s₁, ran, fits₁, viewed⟩ := solo.1 next response handled
          have longer := handle_length unmarshal handled
          rw [← viewed, Memory.length_view fits₁, Memory.length_view fits] at longer
          have later := ih s₁ (goroutines ++ [⟨request, .done response⟩]) fits₁
            (live_append live (g := ⟨request, .done response⟩) rfl)
            (by simp at enough ⊢; omega)
          rw [viewed, List.length_append, List.length_singleton] at later
          rw [ran]
          refine ⟨fun final responses served => ?_, fun served => later.2 (by simpa [serve, handled] using served)⟩
          cases rest_served : serve unmarshal next rest with
          | none => simp [serve, handled, rest_served] at served
          | some outcome =>
              simp only [serve, handled, rest_served, Option.map_some', Option.some.injEq] at served
              obtain ⟨s', finished, fits', final'⟩ := later.1 outcome.1 outcome.2 rest_served
              cases served
              exact ⟨s', by rw [finished, List.append_assoc]; rfl, fits', final'⟩

theorem serial_requests_serve (grows : ∀ len cap, len ≤ growCap len cap) (memory : Memory α) (books : Header)
    (fits : memory.Fits books) (requests : List Request) (fuel : Nat)
    (enough : 4 * (books.len + requests.length) + 14 ≤ fuel) :
    (∀ final responses, serve unmarshal (memory.view books) requests = some (final, responses) →
      ∃ s, Process.run unmarshal growCap (Process.init memory books) (serialSchedule fuel 0 requests) =
          ⟨s, answered requests responses⟩ ∧ s.memory.Fits s.books ∧ s.memory.view s.books = final) ∧
    (serve unmarshal (memory.view books) requests = none →
      (Process.run unmarshal growCap (Process.init memory books) (serialSchedule fuel 0 requests)).exited) :=
  serial_schedule_serves unmarshal growCap grows fuel requests ⟨memory, books⟩ [] fits (fun _ absent => nomatch absent)
    enough

end Serial

theorem serial_requests_serve_add_get_delete :
    (∀ len cap : Nat, len ≤ max len (2 * cap)) ∧ Memory.Fits [[(⟨1, ()⟩ : Book Unit)]] ⟨0, 1, 1⟩ ∧
      4 * (1 + 3) + 14 ≤ 30 ∧
      ∃ s, Process.run (fun (_ : Bytes) (book : Book Unit) => (book, none)) (fun len cap => max len (2 * cap))
          (Process.init [[⟨1, ()⟩]] ⟨0, 1, 1⟩)
          (serialSchedule 30 0 [.addBooks (.ok []) 7, .getAllBooks, .deleteBook [("id", [49])]]) =
        ⟨s, answered [.addBooks (.ok []) 7, .getAllBooks, .deleteBook [("id", [49])]]
          [created, jsonResponse statusOK (.books [⟨1, ()⟩, ⟨7, ()⟩]), jsonResponse statusOK (.text "Deleted")]⟩ ∧
        s.memory.Fits s.books ∧ s.memory.view s.books = [⟨7, ()⟩] :=
  ⟨fun _ _ => le_max_left _ _, by decide, by decide,
    (serial_requests_serve _ _ (fun _ _ => le_max_left _ _) _ _ (by decide) _ _ (by decide)).1 _ _ (by decide)⟩

end BookHandlers
