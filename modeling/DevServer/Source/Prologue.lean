import DevServer.Text.Blank
import DevServer.Text.Reader

/-!
# Directive prologues

The prologue of a module is its leading run of string statements. `skipTrivia` passes over blanks
and comments, `directive?` reads one statement, and `directives` reads them all, after a byte-order
mark and a hashbang line. A string counts as a statement when a semicolon follows it, or a line
break, or the end of the text.
-/

namespace DevServer.Source

open Text

/-- What a block comment holds and what follows it, for the text after its opening. -/
def closeComment : List Char → Option (List Char × List Char)
  | '*' :: '/' :: rest => some ([], rest)
  | c :: rest => (closeComment rest).map fun (body, after) => (c :: body, after)
  | [] => none

theorem length_of_closeComment {s body after : List Char}
    (h : closeComment s = some (body, after)) : after.length < s.length := by
  fun_induction closeComment s generalizing body with
  | case1 rest =>
    obtain ⟨rfl, rfl⟩ : [] = body ∧ rest = after := by simpa using h
    simp only [List.length_cons]
    omega
  | case2 c rest _ ih =>
    obtain ⟨⟨b, a⟩, hb, hp⟩ := Option.map_eq_some_iff.1 h
    simp only [Prod.mk.injEq] at hp
    have := ih (hp.2 ▸ hb)
    simp only [List.length_cons]
    omega
  | case3 => simp at h

theorem length_dropWhile_le (p : Char → Bool) (s : List Char) :
    (s.dropWhile p).length ≤ s.length :=
  (List.dropWhile_sublist p).length_le

/--
The text after blanks and comments, and whether a line break was among them. A comment that never
closes reaches the end of the text.
-/
def skipTrivia (s : List Char) (crossed : Bool) : List Char × Bool :=
  match s with
  | '/' :: '/' :: rest => skipTrivia (rest.dropWhile (· != '\n')) crossed
  | '/' :: '*' :: rest =>
    match _h : closeComment rest with
    | some (body, after) => skipTrivia after (crossed || body.contains '\n')
    | none => ([], crossed)
  | c :: rest => if isBlank c then skipTrivia rest (crossed || c == '\n') else (c :: rest, crossed)
  | [] => ([], crossed)
termination_by s.length
decreasing_by
  · have := length_dropWhile_le (· != '\n') rest
    simp only [List.length_cons]
    omega
  · have := length_of_closeComment _h
    simp only [List.length_cons]
    omega
  · simp

theorem length_skipTrivia_le (s : List Char) (crossed : Bool) :
    (skipTrivia s crossed).1.length ≤ s.length := by
  fun_induction skipTrivia s crossed with
  | case1 crossed rest ih =>
    have := length_dropWhile_le (· != '\n') rest
    simp only [List.length_cons]
    omega
  | case2 crossed rest body after h ih =>
    have := length_of_closeComment h
    simp only [List.length_cons]
    omega
  | case3 => simp
  | case4 crossed c rest _ _ _ ih =>
    simp only [List.length_cons]
    omega
  | case5 => simp
  | case6 => simp

/-- A character that may stand inside a string opened by `quote`. -/
def isPlain (quote c : Char) : Bool := c != quote && c != '\n' && c != '\\'

/-- The text of the string statement that `s` begins with, and what follows the statement. -/
def directive? (s : List Char) : Option (List Char × List Char) :=
  match (skipTrivia s false).1 with
  | quote :: body =>
    if quote = '"' ∨ quote = '\'' then
      match body.dropWhile (isPlain quote) with
      | closing :: after =>
        if closing = quote then
          match skipTrivia after false with
          | (';' :: rest, _) => some (body.takeWhile (isPlain quote), rest)
          | (rest, crossed) =>
            if crossed || rest.isEmpty then some (body.takeWhile (isPlain quote), rest) else none
        else none
      | [] => none
    else none
  | [] => none

theorem length_of_directive? {s text rest : List Char} (h : directive? s = some (text, rest)) :
    rest.length < s.length := by
  have h0 := length_skipTrivia_le s false
  unfold directive? at h
  split at h
  next quote body hs =>
    rw [hs] at h0
    split at h
    · split at h
      next closing after hb =>
        have h1 : (closing :: after).length ≤ body.length := hb ▸ length_dropWhile_le _ body
        have h2 := length_skipTrivia_le after false
        split at h
        · split at h
          next r c hr => simp at h; simp_all; omega
          next r c _ hr => split at h <;> simp at h; simp_all; omega
        · simp at h
      next => simp at h
    · simp at h
  next => simp at h

/-- The texts of the string statements that `s` begins with. -/
def statements (s : List Char) : List (List Char) :=
  match _h : directive? s with
  | some (text, rest) => text :: statements rest
  | none => []
termination_by s.length
decreasing_by exact length_of_directive? _h

/-- The text without a hashbang line; the line break that ends the line stays. -/
def dropHashbang : List Char → List Char
  | '#' :: '!' :: rest => rest.dropWhile (· != '\n')
  | s => s

/-- The directive texts of a module, in order. -/
def directives (source : String) : List String :=
  (statements (dropHashbang (dropMark source.toList))).map String.ofList

end DevServer.Source
