/-! Cutting a sequence after every separator, and the text of a line: its end, a line feed and
one carriage return directly before it, does not belong to it. -/
namespace BuildRunner.Text

/-- The parts of a sequence, each ending after a separator; the last may lack one. -/
def pieces {α : Type} [DecidableEq α] (separator : α) : List α → List (List α)
  | [] => []
  | a :: rest =>
    if a = separator then [a] :: pieces separator rest
    else
      match pieces separator rest with
      | [] => [[a]]
      | piece :: more => (a :: piece) :: more

/-- The parts that do end after a separator. -/
def completePieces {α : Type} [DecidableEq α] (separator : α) (s : List α) : List (List α) :=
  (pieces separator s).filter (·.getLast? == some separator)

/-- A piece without its line end. A carriage return counts only before a line feed. -/
def lineOf (piece : List Char) : List Char :=
  match piece.reverse with
  | '\n' :: '\r' :: rest => rest.reverse
  | '\n' :: rest => rest.reverse
  | _ => piece

def lines (s : List Char) : List (List Char) := (pieces '\n' s).map lineOf

/-- A piece without all line feeds and carriage returns at its end. -/
def chomp (piece : List Char) : List Char :=
  (piece.reverse.dropWhile fun c => c == '\n' || c == '\r').reverse

/-- Cutting loses nothing. -/
theorem flatten_pieces {α : Type} [DecidableEq α] (separator : α) (s : List α) :
    (pieces separator s).flatten = s := by
  fun_induction pieces separator s <;> simp_all

theorem ne_nil_of_mem_pieces {α : Type} [DecidableEq α] {separator : α} {s piece : List α}
    (h : piece ∈ pieces separator s) : piece ≠ [] := by
  fun_induction pieces separator s with
  | case1 => exact absurd h List.not_mem_nil
  | case2 rest ih =>
    rcases List.mem_cons.mp h with rfl | h
    · exact List.cons_ne_nil _ _
    · exact ih h
  | case3 a rest =>
    rw [List.mem_singleton.mp h]
    exact List.cons_ne_nil _ _
  | case4 a rest _ first more eq ih =>
    rcases List.mem_cons.mp h with rfl | h
    · exact List.cons_ne_nil _ _
    · exact ih (eq ▸ List.mem_cons_of_mem _ h)

end BuildRunner.Text
