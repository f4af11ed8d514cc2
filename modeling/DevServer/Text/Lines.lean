/-!
# Lines

A line ends at a feed, and a return in front of the feed belongs to the ending. What follows the
last feed is a line too, unless it is empty.
-/

namespace DevServer.Text

/-- A line without the return that its ending may begin with. -/
def dropReturn [DecidableEq α] (ret : α) (line : List α) : List α :=
  if line.getLast? = some ret then line.dropLast else line

/-- The first line and what follows its feed, if there is a feed. -/
def cutLine [DecidableEq α] (feed : α) : List α → Option (List α × List α)
  | [] => none
  | a :: s =>
    if a = feed then some ([], s) else (cutLine feed s).map fun (line, rest) => (a :: line, rest)

theorem eq_of_cutLine [DecidableEq α] {feed : α} {s line rest : List α}
    (h : cutLine feed s = some (line, rest)) : s = line ++ feed :: rest := by
  induction s generalizing line with
  | nil => cases h
  | cons a s ih =>
    simp only [cutLine] at h
    split at h
    · cases h
      simp_all
    · obtain ⟨⟨l, r⟩, hr, he⟩ := Option.map_eq_some_iff.1 h
      cases he
      simp [ih hr]

/-- All lines of a text. -/
def linesOf [DecidableEq α] (feed ret : α) (s : List α) : List (List α) :=
  match _h : cutLine feed s with
  | some (line, rest) => dropReturn ret line :: linesOf feed ret rest
  | none => if s = [] then [] else [s]
termination_by s.length
decreasing_by
  have := eq_of_cutLine _h
  subst this
  simp only [List.length_append, List.length_cons]
  omega

def lines (s : String) : List String := (linesOf '\n' '\r' s.toList).map String.ofList

end DevServer.Text
