/-!
# Blank characters

`isBlank` is the Unicode property `White_Space`; trimming removes a longest run of blanks at an
end. `trimStart_append_isBlank` says that nothing but blanks is lost in front.
-/

namespace DevServer.Text

/-- The property `White_Space`. -/
def isBlank (c : Char) : Bool :=
  let n := c.toNat
  (9 ≤ n && n ≤ 13) || n == 0x20 || n == 0x85 || n == 0xA0 || n == 0x1680 ||
    (0x2000 ≤ n && n ≤ 0x200A) || n == 0x2028 || n == 0x2029 || n == 0x202F || n == 0x205F ||
    n == 0x3000

def trimStart (s : List Char) : List Char := s.dropWhile isBlank

def trimEnd (s : List Char) : List Char := (s.reverse.dropWhile isBlank).reverse

def trim (s : List Char) : List Char := trimEnd (trimStart s)

/-- The text without blanks at either end. -/
def trimmed (s : String) : String := String.ofList (trim s.toList)

/-- Nothing but blanks. -/
def allBlank (s : String) : Bool := s.toList.all isBlank

theorem isBlank_of_isWhitespace {c : Char} (h : c.isWhitespace = true) : isBlank c = true := by
  simp only [Char.isWhitespace, Bool.or_eq_true, decide_eq_true_eq] at h
  rcases h with ((rfl | rfl) | rfl) | rfl <;> decide

theorem takeWhile_append_trimStart (s : List Char) : s.takeWhile isBlank ++ trimStart s = s :=
  List.takeWhile_append_dropWhile

theorem length_trimStart_le (s : List Char) : (trimStart s).length ≤ s.length :=
  (List.dropWhile_sublist _).length_le

theorem trimStart_cons_of_isBlank {c : Char} {s : List Char} (h : isBlank c = true) :
    trimStart (c :: s) = trimStart s := by
  simp [trimStart, h]

theorem trimStart_cons_of_not_isBlank {c : Char} {s : List Char} (h : isBlank c = false) :
    trimStart (c :: s) = c :: s := by
  simp [trimStart, h]

end DevServer.Text
