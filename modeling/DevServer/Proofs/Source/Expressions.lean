import DevServer.Source.ModuleKind
import DevServer.Proofs.Source.Directives

/-!
# Strings that begin an expression

A string is no statement when an expression goes on behind it (`GoesOn`), be it on the same line or
on a later one. Reading goes by line breaks alone: such a string is not taken for a directive as long
as there is no line break between the two (`directives_expression`), and otherwise it is
(`expression_taken_for_directive`).
-/

namespace DevServer.Source

/-- The characters with which an expression goes on after a string, a line break or not. -/
def continuing : List Char := ['.', '(', '[', ',', '*', '%', '?', '&', '|', '^', '=']

def GoesOn (s : List Char) : Prop := ∃ c ∈ continuing, s.head? = some c

/-- What goes on with an expression is neither trivia nor a string, and no semicolon. -/
theorem of_mem_continuing : ∀ c ∈ continuing,
    Text.isBlank c = false ∧ c ≠ '/' ∧ c ≠ ';' ∧ ¬IsQuote c := by
  simp [continuing, Text.isBlank, IsQuote]

section
variable {q : Char} {b t s : List Char}

theorem GoesOn.ne_nil (hs : GoesOn s) : s ≠ [] := by
  obtain ⟨c, -, hc⟩ := hs
  rintro rfl
  cases hc

theorem GoesOn.skipTrivia (hs : GoesOn s) (crossed : Bool) :
    skipTrivia s crossed = (s, crossed) := by
  obtain ⟨c, hc, hhead⟩ := hs
  obtain ⟨r, rfl⟩ := List.head?_eq_some_iff.mp hhead
  obtain ⟨hblank, hslash, -, -⟩ := of_mem_continuing c hc
  rw [skipTrivia_cons hslash, hblank]
  rfl

theorem GoesOn.longestTrivia (hs : GoesOn s) (ht : Trivia t s) : LongestTrivia t s :=
  (longestTrivia_iff false).mpr ⟨ht, by rw [ht.skip hs.ne_nil, hs.skipTrivia]⟩

/-- No directive begins where an expression goes on. -/
theorem GoesOn.statements_eq_nil (hs : GoesOn s) : statements s = [] := by
  refine statements_of_none (Option.eq_none_iff_forall_ne_some.mpr fun ⟨b, r⟩ hsome => ?_)
  obtain ⟨q, b', after, hq, -, hskip, -⟩ := of_directive? hsome
  obtain ⟨c, hc, hhead⟩ := hs
  rw [GoesOn.skipTrivia ⟨c, hc, hhead⟩] at hskip
  dsimp only at hskip
  rw [hskip] at hhead
  cases hhead
  exact (of_mem_continuing _ hc).2.2.2 hq

/-- A string in front of an expression is closed by a line break only. -/
theorem GoesOn.closes?_eq (hs : GoesOn s) (ht : Trivia t s) :
    closes? b (t ++ s) = if '\n' ∈ t then some (b, s) else none := by
  have hsemi : s.head? ≠ some ';' := by
    obtain ⟨c, hc, hhead⟩ := hs
    rw [hhead]
    exact fun h => (of_mem_continuing c hc).2.2.1 (Option.some.inj h)
  rw [closes?_of_ne ((hs.longestTrivia ht).skip hs.ne_nil false) hsemi]
  simp [hs.ne_nil]

theorem statements_expression (hq : IsQuote q) (hb : Plain q b) (ht : Trivia t s) (hs : GoesOn s) :
    statements (q :: (b ++ q :: (t ++ s))) = if '\n' ∈ t then [b] else [] := by
  have hd : directive? (q :: (b ++ q :: (t ++ s))) = if '\n' ∈ t then some (b, s) else none := by
    rw [directive?_eq_closes? hq hb (by rw [hq.skipTrivia]), hs.closes?_eq ht]
  split at hd
  · next hbreak => rw [if_pos hbreak, statements_of_some hd, hs.statements_eq_nil]
  · next hbreak => rw [if_neg hbreak, statements_of_none hd]

/-- Nothing is taken off the front of a text that begins with a quote. -/
theorem IsQuote.remaining (hq : IsQuote q) (s : List Char) : Remaining (q :: s) (q :: s) := by
  refine ⟨_, .none ?_, .none ?_⟩
  · rcases hq with rfl | rfl <;> simp
  · rcases hq with rfl | rfl <;> simp

theorem directives_of_quote {source : String} (hq : IsQuote q) (hs : source.toList = q :: s) :
    directives source = (statements (q :: s)).map String.ofList := by
  rw [directives, hs, dropHashbang_dropMark_eq_iff.mpr (hq.remaining s)]

/-- **A string that begins an expression is taken for a directive just when a line break follows it**,
before the expression goes on. -/
theorem directives_expression (source : String) (hq : IsQuote q) (hb : Plain q b)
    (ht : Trivia t s) (hs : GoesOn s) (hsource : source.toList = q :: (b ++ q :: (t ++ s))) :
    directives source = (if '\n' ∈ t then [String.ofList b] else []) ∧
      ModuleKind.ofSource source =
        if '\n' ∈ t then (ModuleKind.ofDirective? (String.ofList b)).getD .server else .server := by
  have hd : directives source = if '\n' ∈ t then [String.ofList b] else [] := by
    rw [directives_of_quote hq hsource, statements_expression hq hb ht hs]
    split <;> rfl
  refine ⟨hd, ?_⟩
  rw [ModuleKind.ofSource, hd]
  split
  · cases hk : ModuleKind.ofDirective? (String.ofList b) <;> simp [hk]
  · rfl

/-- The comment in front of the expression has no line break. -/
theorem directives_expression_same_line :
    IsQuote '\'' ∧ Plain '\'' "use client".toList ∧ Trivia " /* a */ ".toList ".length".toList ∧
      GoesOn ".length".toList ∧ directives "'use client' /* a */ .length" = [] ∧
      ModuleKind.ofSource "'use client' /* a */ .length" = .server := by
  have hq : IsQuote '\'' := .inr rfl
  have hb : Plain '\'' "use client".toList := by unfold Plain; decide
  have ht : Trivia " /* a */ ".toList ".length".toList := by
    have hclosed : Trivia ('/' :: '*' :: ([' ', 'a', ' '] ++ '*' :: '/' :: [' '])) ".length".toList :=
      .block (by unfold Unclosed; decide) (.blank (by decide) (.none _))
    exact .blank (by decide) hclosed
  have hs : GoesOn ".length".toList := ⟨'.', by decide, rfl⟩
  have h := directives_expression "'use client' /* a */ .length" hq hb ht hs rfl
  have hno : '\n' ∉ " /* a */ ".toList := by decide
  rw [if_neg hno, if_neg hno] at h
  exact ⟨hq, hb, ht, hs, h⟩

/-- An expression that goes on in the next line makes its module one for the client. -/
theorem expression_taken_for_directive :
    ¬∀ (source : String) (q : Char) (b t s : List Char), IsQuote q → Plain q b → Trivia t s →
      GoesOn s → source.toList = q :: (b ++ q :: (t ++ s)) → directives source = [] := by
  intro hall
  have hq : IsQuote '\'' := .inr rfl
  have hb : Plain '\'' "use client".toList := by unfold Plain; decide
  have ht : Trivia ['\n'] ".length".toList := .blank (by decide) (.none _)
  have hs : GoesOn ".length".toList := ⟨'.', by decide, rfl⟩
  have hsource : "'use client'\n.length".toList =
      '\'' :: ("use client".toList ++ '\'' :: (['\n'] ++ ".length".toList)) := rfl
  have hnone := hall _ _ _ _ _ hq hb ht hs hsource
  rw [directives_of_quote hq hsource, statements_expression hq hb ht hs, if_pos (by decide)] at hnone
  cases hnone

end

end DevServer.Source
