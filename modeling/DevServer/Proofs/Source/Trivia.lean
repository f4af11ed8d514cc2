import DevServer.Source.Prologue

/-!
# Trivia

`Trivia t r`: the text `t` consists of white space and comments, in front of the text `r`. What
follows matters, since a line comment has to reach up to a line break or to the end. A text begins
with one longest trivia (`LongestTrivia`), and passing over trivia is passing over that
(`longestTrivia_iff`, `exists_longestTrivia`).
-/

namespace DevServer.Source

open Text

/-! ## The grammar -/

/-- The end of a block comment is not in the text. -/
def Unclosed (body : List Char) : Prop := ¬['*', '/'] <:+: body

/-- White space and comments in front of a text. -/
inductive Trivia : List Char → List Char → Prop where
  | none (r : List Char) : Trivia [] r
  | blank {c : Char} {t r : List Char} (hc : isBlank c = true) (h : Trivia t r) : Trivia (c :: t) r
  /-- A line comment reaches up to the next line break, or to the end. -/
  | line {body t r : List Char} (hb : '\n' ∉ body) (he : t ++ r = [] ∨ (t ++ r).head? = some '\n')
    (h : Trivia t r) : Trivia ('/' :: '/' :: (body ++ t)) r
  | block {body t r : List Char} (hb : Unclosed body) (h : Trivia t r) :
    Trivia ('/' :: '*' :: (body ++ '*' :: '/' :: t)) r
  /-- A block comment that never closes reaches to the end. -/
  | openBlock {body : List Char} (hb : Unclosed body) : Trivia ('/' :: '*' :: body) []

/-- No longer part of the text in front is trivia. -/
def LongestTrivia (t r : List Char) : Prop :=
  Trivia t r ∧ ∀ t' r', t' ++ r' = t ++ r → Trivia t' r' → t'.length ≤ t.length

theorem Trivia.append {t t' r : List Char} (h : Trivia t (t' ++ r)) (h' : Trivia t' r) :
    Trivia (t ++ t') r := by
  generalize hr : t' ++ r = r' at h
  induction h with
  | none => exact h'
  | blank hc _ ih => exact .blank hc (ih hr)
  | line hb he _ ih =>
    subst hr
    have := Trivia.line hb (by rwa [List.append_assoc]) (ih rfl)
    simpa using this
  | block hb _ ih => simpa using Trivia.block hb (ih hr)
  | openBlock hb =>
    obtain ⟨rfl, rfl⟩ := List.append_eq_nil_iff.mp hr
    simpa using Trivia.openBlock hb

/-! ## Comments -/

theorem ne_slash_of_isBlank {c : Char} (h : isBlank c = true) : c ≠ '/' := by
  rintro rfl
  revert h
  decide

theorem unclosed_cons {c : Char} {body : List Char} :
    Unclosed (c :: body) ↔ ¬['*', '/'] <+: c :: body ∧ Unclosed body := by
  rw [Unclosed, Unclosed, List.infix_cons_iff, not_or]

theorem closeComment_cons {c : Char} {s : List Char} (h : ¬['*', '/'] <+: c :: s) :
    closeComment (c :: s) = (closeComment s).map fun (body, after) => (c :: body, after) := by
  refine closeComment.eq_2 c s fun rest hc hs => h ?_
  rw [hc, hs]
  exact ⟨rest, rfl⟩

/-- A block comment closes at its first end. -/
theorem closeComment_append {body : List Char} (hb : Unclosed body) (after : List Char) :
    closeComment (body ++ '*' :: '/' :: after) = some (body, after) := by
  induction body with
  | nil => rfl
  | cons c body ih =>
    obtain ⟨hc, hb⟩ := unclosed_cons.mp hb
    have hc' : ¬['*', '/'] <+: c :: (body ++ '*' :: '/' :: after) := by
      rcases body with _ | ⟨d, body⟩
      · rintro ⟨l, hl⟩
        simp at hl
      · rintro ⟨l, hl⟩
        simp only [List.cons_append, List.nil_append, List.cons.injEq] at hl
        obtain ⟨rfl, rfl, -⟩ := hl
        exact hc ⟨body, rfl⟩
    rw [List.cons_append, closeComment_cons hc', ih hb]
    rfl

theorem of_closeComment {s body after : List Char} (h : closeComment s = some (body, after)) :
    Unclosed body ∧ s = body ++ '*' :: '/' :: after := by
  induction s generalizing body with
  | nil => cases h
  | cons c s ih =>
    by_cases hc : ['*', '/'] <+: c :: s
    · obtain ⟨rest, hr⟩ := hc
      cases hr
      cases h
      exact ⟨by simp [Unclosed], rfl⟩
    · rw [closeComment_cons hc] at h
      obtain ⟨⟨b, a⟩, hs, he⟩ := Option.map_eq_some_iff.mp h
      cases he
      obtain ⟨hb, rfl⟩ := ih hs
      refine ⟨unclosed_cons.mpr ⟨fun ⟨l, hl⟩ => hc ⟨l ++ '*' :: '/' :: after, ?_⟩, hb⟩, rfl⟩
      rw [← List.append_assoc, hl]
      rfl

theorem closeComment_eq_none_iff {s : List Char} : closeComment s = none ↔ Unclosed s := by
  induction s with
  | nil => simp [closeComment, Unclosed]
  | cons c s ih =>
    rw [unclosed_cons]
    by_cases hc : ['*', '/'] <+: c :: s
    · obtain ⟨rest, hr⟩ := hc
      cases hr
      simp [closeComment]
    · rw [closeComment_cons hc, Option.map_eq_none_iff, ih]
      exact ⟨fun h => ⟨hc, h⟩, And.right⟩

/-- A line comment ends at its line break. -/
theorem dropWhile_line {body s : List Char} (hb : '\n' ∉ body)
    (hs : s = [] ∨ s.head? = some '\n') : (body ++ s).dropWhile (· != '\n') = s := by
  have hall : ∀ c ∈ body, (c != '\n') = true := by
    rintro c hc
    exact bne_iff_ne.mpr fun h => hb (h ▸ hc)
  rw [List.dropWhile_append_of_pos hall]
  rcases s with _ | ⟨c, s⟩
  · rfl
  · have hc : c = '\n' := by simpa using hs
    simp [hc]

theorem takeWhile_line (s : List Char) : '\n' ∉ s.takeWhile (· != '\n') := fun h => by
  have hall : (s.takeWhile (· != '\n')).all (· != '\n') = true := List.all_takeWhile
  exact absurd (List.all_eq_true.mp hall _ h) (by decide)

theorem head?_dropWhile_line (s : List Char) :
    s.dropWhile (· != '\n') = [] ∨ (s.dropWhile (· != '\n')).head? = some '\n' := by
  rcases hd : s.dropWhile (· != '\n') with _ | ⟨c, l⟩
  · exact .inl rfl
  · have := List.head?_dropWhile_not (· != '\n') s
    rw [hd] at this
    right
    simpa using this

/-! ## Passing over trivia -/

theorem skipTrivia_nil (crossed : Bool) : skipTrivia [] crossed = ([], crossed) := by
  rw [skipTrivia.eq_def]

theorem skipTrivia_cons {c : Char} (hc : c ≠ '/') (s : List Char) (crossed : Bool) :
    skipTrivia (c :: s) crossed =
      if isBlank c then skipTrivia s (crossed || c == '\n') else (c :: s, crossed) := by
  rw [skipTrivia.eq_def]
  split
  · next h => exact absurd (List.cons.inj h).1 hc
  · next h => exact absurd (List.cons.inj h).1 hc
  · next h => cases h; rfl
  · next h => cases h

theorem skipTrivia_blank {c : Char} (hc : isBlank c = true) (s : List Char) (crossed : Bool) :
    skipTrivia (c :: s) crossed = skipTrivia s (crossed || c == '\n') := by
  rw [skipTrivia_cons (ne_slash_of_isBlank hc), if_pos hc]

theorem skipTrivia_line (s : List Char) (crossed : Bool) :
    skipTrivia ('/' :: '/' :: s) crossed = skipTrivia (s.dropWhile (· != '\n')) crossed := by
  rw [skipTrivia.eq_def]
  rfl

theorem skipTrivia_openComment (s : List Char) (crossed : Bool) :
    skipTrivia ('/' :: '*' :: s) crossed = match closeComment s with
      | some (body, after) => skipTrivia after (crossed || body.contains '\n')
      | none => ([], crossed) := by
  rw [skipTrivia.eq_def]
  split
  · next h => exact absurd (List.cons.inj (List.cons.inj h).2).1 (by decide)
  · next h =>
    cases h
    split
    · next h => rw [h]
    · next h => rw [h]
  · next hno h =>
    cases h
    exact absurd rfl (hno s rfl)
  · next h => cases h

theorem skipTrivia_block {s body after : List Char} (h : closeComment s = some (body, after))
    (crossed : Bool) :
    skipTrivia ('/' :: '*' :: s) crossed = skipTrivia after (crossed || body.contains '\n') := by
  rw [skipTrivia_openComment, h]

theorem skipTrivia_openBlock {s : List Char} (h : closeComment s = none) (crossed : Bool) :
    skipTrivia ('/' :: '*' :: s) crossed = ([], crossed) := by
  rw [skipTrivia_openComment, h]

/-- Trivia makes no difference but for its line breaks. -/
theorem Trivia.skip {t r : List Char} (h : Trivia t r) (hr : r ≠ []) (crossed : Bool) :
    skipTrivia (t ++ r) crossed = skipTrivia r (crossed || t.contains '\n') := by
  induction h generalizing crossed with
  | none => simp
  | blank hc _ ih =>
    rw [List.cons_append, skipTrivia_blank hc, ih hr, List.contains_cons, Bool.or_assoc,
      Bool.beq_comm]
  | @line body t r hb he _ ih =>
    have hc : body.contains '\n' = false := by simpa using hb
    rw [List.cons_append, List.cons_append, List.append_assoc, skipTrivia_line,
      dropWhile_line hb he, ih hr]
    simp [hb]
  | @block body t r hb _ ih =>
    have hs : '/' :: '*' :: (body ++ '*' :: '/' :: t) ++ r =
        '/' :: '*' :: (body ++ '*' :: '/' :: (t ++ r)) := by simp
    rw [hs, skipTrivia_block (closeComment_append hb _), ih hr]
    simp [Bool.or_assoc]
  | openBlock => exact absurd rfl hr

/-- Nothing is left of trivia that reaches to the end. -/
theorem Trivia.skip_all {t : List Char} (h : Trivia t []) (crossed : Bool) :
    (skipTrivia t crossed).1 = [] := by
  generalize hr : [] = r at h
  induction h generalizing crossed with
  | none =>
    rw [skipTrivia_nil]
    exact hr
  | blank hc _ ih => rw [skipTrivia_blank hc, ih _ hr]
  | @line body t r hb he _ ih =>
    subst hr
    rw [List.append_nil] at he
    rw [skipTrivia_line, dropWhile_line hb he, ih _ rfl]
  | block hb _ ih => rw [skipTrivia_block (closeComment_append hb _), ih _ hr]
  | openBlock hb => rw [skipTrivia_openBlock (closeComment_eq_none_iff.mpr hb)]

theorem Trivia.length_skip_le {t r : List Char} (h : Trivia t r) (crossed : Bool) :
    (skipTrivia (t ++ r) crossed).1.length ≤ r.length := by
  by_cases hr : r = []
  · subst hr
    exact Nat.le_of_eq (by rw [List.append_nil, h.skip_all])
  · rw [h.skip hr]
    exact length_skipTrivia_le ..

/-- What is passed over is trivia, and its line breaks are noticed unless it reaches to the end. -/
theorem exists_trivia (s : List Char) (crossed : Bool) :
    ∃ t, s = t ++ (skipTrivia s crossed).1 ∧ Trivia t (skipTrivia s crossed).1 ∧
      ((skipTrivia s crossed).1 ≠ [] →
        (skipTrivia s crossed).2 = (crossed || t.contains '\n')) := by
  fun_induction skipTrivia s crossed with
  | case1 crossed rest ih =>
    obtain ⟨t, ht, htr, hn⟩ := ih
    have hline := takeWhile_line rest
    refine ⟨'/' :: '/' :: (rest.takeWhile (· != '\n') ++ t), ?_,
      .line hline (ht ▸ head?_dropWhile_line rest) htr, fun h => ?_⟩
    · rw [List.cons_append, List.cons_append, List.append_assoc, ← ht,
        List.takeWhile_append_dropWhile]
    · rw [hn h]
      simp [hline]
  | case2 crossed rest body after h ih =>
    obtain ⟨t, ht, htr, hn⟩ := ih
    obtain ⟨hb, rfl⟩ := of_closeComment h
    refine ⟨'/' :: '*' :: (body ++ '*' :: '/' :: t), ?_, .block hb htr, fun h => ?_⟩
    · conv => lhs; rw [ht]
      simp
    · rw [hn h]
      simp [Bool.or_assoc]
  | case3 crossed rest h =>
    exact ⟨_, (List.append_nil _).symm, .openBlock (closeComment_eq_none_iff.mp h),
      fun h => absurd rfl h⟩
  | case4 crossed c rest _ _ hc ih =>
    obtain ⟨t, ht, htr, hn⟩ := ih
    refine ⟨c :: t, by rw [List.cons_append, ← ht], .blank hc htr, fun h => ?_⟩
    rw [hn h, List.contains_cons, Bool.or_assoc, Bool.beq_comm]
  | case5 => exact ⟨[], rfl, .none _, fun _ => by simp⟩
  | case6 => exact ⟨[], rfl, .none _, fun h => absurd rfl h⟩

/-- **Passing over trivia leaves what follows the longest trivia.** -/
theorem longestTrivia_iff {t r : List Char} (crossed : Bool) :
    LongestTrivia t r ↔ Trivia t r ∧ (skipTrivia (t ++ r) crossed).1 = r := by
  obtain ⟨t₀, hs, h₀, -⟩ := exists_trivia (t ++ r) crossed
  have hlen := congrArg List.length hs
  simp only [List.length_append] at hlen
  constructor
  · rintro ⟨h, hmax⟩
    refine ⟨h, ?_⟩
    have hle := hmax t₀ _ hs.symm h₀
    have hge := h.length_skip_le crossed
    exact (List.append_inj' hs (by omega)).2.symm
  · rintro ⟨h, hr⟩
    refine ⟨h, fun t' r' he h' => ?_⟩
    have hge := h'.length_skip_le crossed
    rw [he, hr] at hge
    have := congrArg List.length he
    simp only [List.length_append] at this
    omega

/-- Every text begins with a longest trivia. -/
theorem exists_longestTrivia (s : List Char) (crossed : Bool) :
    ∃ t, s = t ++ (skipTrivia s crossed).1 ∧ LongestTrivia t (skipTrivia s crossed).1 := by
  obtain ⟨t, hs, ht, -⟩ := exists_trivia s crossed
  exact ⟨t, hs, (longestTrivia_iff crossed).mpr ⟨ht, by rw [← hs]⟩⟩

section
variable {t r : List Char}

theorem LongestTrivia.skip_fst (h : LongestTrivia t r) (crossed : Bool) :
    (skipTrivia (t ++ r) crossed).1 = r := ((longestTrivia_iff crossed).mp h).2

/-- The line breaks of the longest trivia are noticed, unless it reaches to the end. -/
theorem LongestTrivia.skip (h : LongestTrivia t r) (hr : r ≠ []) (crossed : Bool) :
    skipTrivia (t ++ r) crossed = (r, crossed || t.contains '\n') := by
  obtain ⟨t₀, hs, -, hn⟩ := exists_trivia (t ++ r) crossed
  have hfst := h.skip_fst crossed
  rw [hfst] at hs hn
  obtain rfl := List.append_cancel_right hs
  exact Prod.ext hfst (hn hr)

/-- No trivia begins after the longest one. -/
theorem LongestTrivia.rest (h : LongestTrivia t r) : LongestTrivia [] r := by
  refine ⟨.none r, fun t' r' he h' => ?_⟩
  have happ : Trivia (t ++ t') r' := Trivia.append (by rw [he]; exact h.1) h'
  have hle := h.2 (t ++ t') r' (by rw [List.append_assoc, he]; rfl) happ
  rw [List.length_append] at hle
  rw [List.length_nil]
  omega

theorem LongestTrivia.prepend {t₀ : List Char} (h₀ : Trivia t₀ (t ++ r)) (h : LongestTrivia t r) :
    LongestTrivia (t₀ ++ t) r := by
  refine (longestTrivia_iff false).mpr ⟨h₀.append h.1, ?_⟩
  rw [List.append_assoc]
  by_cases hs : t ++ r = []
  · rw [hs] at h₀
    rw [hs, List.append_nil, h₀.skip_all, (List.append_eq_nil_iff.mp hs).2]
  · rw [h₀.skip hs, h.skip_fst]

end

end DevServer.Source
