/-!
# Path patterns

A pattern is a path in which a name in braces stands for one segment, which is empty where two
slashes meet, and a name after a star, in braces at the end, for all that is left. A brace is written twice to stand for itself.
-/

namespace DevServer.Http

/-- What a pattern is written in. -/
inductive Mark where
  | opening
  | closing
  | letter (c : Char)
  deriving DecidableEq, Repr

def Mark.ofText : List Char → List Mark
  | '{' :: '{' :: cs => letter '{' :: ofText cs
  | '}' :: '}' :: cs => letter '}' :: ofText cs
  | '{' :: cs => opening :: ofText cs
  | '}' :: cs => closing :: ofText cs
  | c :: cs => letter c :: ofText cs
  | [] => []

/-- What a path is matched against, from left to right. -/
inductive Piece where
  | letter (c : Char)
  /-- A segment or the end of one; at the end of a path it is not empty. -/
  | segment
  /-- All that is left, not empty. -/
  | rest
  deriving DecidableEq, Repr

/-- Reads a name up to the closing brace. No star and no slash may stand in it. -/
def nameEnd? : List Mark → Option (List Mark)
  | .closing :: ms => some ms
  | .letter c :: ms => if c = '*' || c = '/' then none else nameEnd? ms
  | .opening :: ms => nameEnd? ms
  | [] => none

theorem nameEnd?_length {ms rest : List Mark} (h : nameEnd? ms = some rest) :
    rest.length < ms.length := by
  induction ms with
  | nil => simp [nameEnd?] at h
  | cons m ms ih =>
    cases m with
    | closing => simp only [nameEnd?, Option.some.injEq] at h; simp [h]
    | opening => exact Nat.lt_succ_of_lt (ih h)
    | letter c =>
      simp only [nameEnd?] at h
      split at h
      · cases h
      · exact Nat.lt_succ_of_lt (ih h)

/-- Whether something in braces may end here. -/
def endsSegment : List Mark → Bool
  | [] => true
  | m :: _ => m == .letter '/'

/--
The pieces that marks stand for. The first letter in braces can be anything but a closing brace;
a star there makes the name match all that is left, and has a name after it.
-/
def Piece.ofMarks? : List Mark → Option (List Piece)
  | [] => some []
  | .letter c :: ms => (ofMarks? ms).map (letter c :: ·)
  | .closing :: _ => none
  | .opening :: ms =>
    match ms with
    | [] => none
    | first :: ms =>
      if first = .closing || first = .letter '}' then none
      else if first = .letter '*' && ms.head? = some .closing then none
      else
        match _h : nameEnd? ms with
        | none => none
        | some after =>
          if first = .letter '*' then if after.isEmpty then some [rest] else none
          else if endsSegment after then (ofMarks? after).map (segment :: ·)
          else none
  termination_by ms => ms.length
  decreasing_by
    · simp
    · have := nameEnd?_length _h
      simp
      omega

structure Pattern where
  pieces : List Piece
  deriving DecidableEq, Repr

namespace Pattern

/-- A pattern has fewer names of segments than this. -/
def maxNames : Nat := 26

/-- Whether a segment of the text begins as segments no longer do. -/
def hasOldName : List Char → Bool
  | '/' :: c :: cs => c == ':' || c == '*' || hasOldName (c :: cs)
  | _ :: cs => hasOldName cs
  | [] => false

/-- The pattern that a text stands for. It begins with a slash. -/
def ofText? (text : String) : Option Pattern :=
  let cs := text.toList
  if cs.head? != some '/' || hasOldName cs then none
  else (Piece.ofMarks? (Mark.ofText cs)).bind fun pieces =>
    if pieces.count .segment < maxNames then some ⟨pieces⟩ else none

/-- The pattern that only `path` matches. -/
def exact (path : String) : Pattern := ⟨path.toList.map .letter⟩

def matchPieces : List Piece → List Char → Bool
  | [], cs => cs.isEmpty
  | .letter c :: ps, cs =>
    match cs with
    | [] => false
    | d :: cs => c == d && matchPieces ps cs
  | .segment :: ps, cs => !cs.isEmpty && matchPieces ps (cs.dropWhile (· != '/'))
  | .rest :: _, cs => !cs.isEmpty

def accepts (p : Pattern) (path : String) : Bool := matchPieces p.pieces path.toList

end Pattern

end DevServer.Http
