import DevServer.Proofs.Source.Trivia

/-!
# The grammar of directive prologues

`Directive b d r`: the text `d` is a string statement with the string `b`, in front of the text `r`.
A prologue is one directive after the other, up to where no further one begins (`Prologue`), and the
directives of a module are those of the text that is left without a byte-order mark and a hashbang
line (`Remaining`). Reading takes exactly the prologue, and so directives that are written in any
way that fits are read back (`directives_prologue`).
-/

namespace DevServer.Source

open Text

/-! ## The grammar -/

def IsQuote (q : Char) : Prop := q = '"' ∨ q = '\''

/-- A text that can stand between quotes. -/
def Plain (q : Char) (b : List Char) : Prop := q ∉ b ∧ '\n' ∉ b ∧ '\\' ∉ b

/-- A string statement in front of a text. Trivia follows the string, as much as there can be, and
then a semicolon; without a semicolon the trivia has a line break or reaches to the end. -/
inductive Directive (b : List Char) : List Char → List Char → Prop where
  | semicolon {q : Char} {lead tail r : List Char} (hq : IsQuote q) (hb : Plain q b)
    (hl : Trivia lead (q :: (b ++ q :: (tail ++ ';' :: r)))) (ht : LongestTrivia tail (';' :: r)) :
    Directive b (lead ++ q :: (b ++ q :: (tail ++ [';']))) r
  | lineBreak {q : Char} {lead tail r : List Char} (hq : IsQuote q) (hb : Plain q b)
    (hl : Trivia lead (q :: (b ++ q :: (tail ++ r)))) (ht : LongestTrivia tail r)
    (hs : r.head? ≠ some ';') (he : '\n' ∈ tail ∨ r = []) :
    Directive b (lead ++ q :: (b ++ q :: tail)) r

/-- A text begins with directives that have these strings, and with no more directives. -/
inductive Prologue : List (List Char) → List Char → Prop where
  | code {s : List Char} (h : ∀ b d r, s = d ++ r → ¬Directive b d r) : Prologue [] s
  | directive {b d r : List Char} {bs : List (List Char)} (hd : Directive b d r)
    (h : Prologue bs r) : Prologue (b :: bs) (d ++ r)

/-- What is left of a text without a byte-order mark in front. -/
inductive WithoutMark : List Char → List Char → Prop where
  | mark (s : List Char) : WithoutMark ('\uFEFF' :: s) s
  | none {s : List Char} (h : s.head? ≠ some '\uFEFF') : WithoutMark s s

/-- What is left of a text without a hashbang line in front, from the line break on. -/
inductive WithoutHashbang : List Char → List Char → Prop where
  | hashbang {line s : List Char} (hl : '\n' ∉ line) (hs : s = [] ∨ s.head? = some '\n') :
    WithoutHashbang ('#' :: '!' :: (line ++ s)) s
  | none {s : List Char} (h : ¬['#', '!'] <+: s) : WithoutHashbang s s

/-- The text of a module in which its prologue is looked for. -/
def Remaining (source s : List Char) : Prop :=
  ∃ m, WithoutMark source m ∧ WithoutHashbang m s

/-! ## Strings -/

theorem IsQuote.skipTrivia {q : Char} (hq : IsQuote q) (s : List Char) (crossed : Bool) :
    skipTrivia (q :: s) crossed = (q :: s, crossed) := by
  rcases hq with rfl | rfl <;> exact skipTrivia_cons (by decide) s crossed

theorem skipTrivia_semicolon (s : List Char) (crossed : Bool) :
    skipTrivia (';' :: s) crossed = (';' :: s, crossed) :=
  skipTrivia_cons (by decide) s crossed

theorem isPlain_iff {q c : Char} : isPlain q c = true ↔ c ≠ q ∧ c ≠ '\n' ∧ c ≠ '\\' := by
  simp [isPlain, and_assoc]

theorem isPlain_self (q : Char) : isPlain q q = false := by simp [isPlain]

section
variable {q : Char} {b : List Char}

theorem isPlain_of_mem (hb : Plain q b) {c : Char} (hc : c ∈ b) : isPlain q c = true :=
  isPlain_iff.mpr ⟨fun h => hb.1 (h ▸ hc), fun h => hb.2.1 (h ▸ hc), fun h => hb.2.2 (h ▸ hc)⟩

/-- A string ends at the first quote. -/
theorem takeWhile_plain (hb : Plain q b) (s : List Char) :
    (b ++ q :: s).takeWhile (isPlain q) = b := by
  rw [List.takeWhile_append_of_pos fun _ => isPlain_of_mem hb, List.takeWhile_cons, isPlain_self]
  simp

theorem dropWhile_plain (hb : Plain q b) (s : List Char) :
    (b ++ q :: s).dropWhile (isPlain q) = q :: s := by
  rw [List.dropWhile_append_of_pos fun _ => isPlain_of_mem hb, List.dropWhile_cons, isPlain_self]
  simp

theorem plain_takeWhile (q : Char) (s : List Char) : Plain q (s.takeWhile (isPlain q)) := by
  have hall : (s.takeWhile (isPlain q)).all (isPlain q) = true := List.all_takeWhile
  rw [List.all_eq_true] at hall
  exact ⟨fun h => (isPlain_iff.mp (hall _ h)).1 rfl, fun h => (isPlain_iff.mp (hall _ h)).2.1 rfl,
    fun h => (isPlain_iff.mp (hall _ h)).2.2 rfl⟩

end

/-! ## What follows a string -/

/-- The string `b` with what is left, if what follows it makes it a statement. -/
def closes? (b s : List Char) : Option (List Char × List Char) :=
  match skipTrivia s false with
  | (';' :: r, _) => some (b, r)
  | (r, crossed) => if crossed || r.isEmpty then some (b, r) else none

/-- Trivia and a semicolon, or trivia with a line break or to the end. -/
inductive Closes : List Char → List Char → Prop where
  | semicolon {tail r : List Char} (ht : LongestTrivia tail (';' :: r)) :
    Closes (tail ++ ';' :: r) r
  | lineBreak {tail r : List Char} (ht : LongestTrivia tail r) (hs : r.head? ≠ some ';')
    (he : '\n' ∈ tail ∨ r = []) : Closes (tail ++ r) r

section
variable {b s r x : List Char}

theorem closes?_semicolon {crossed : Bool} (h : skipTrivia s false = (';' :: r, crossed)) :
    closes? b s = some (b, r) := by
  rw [closes?, h]
  rfl

theorem closes?_of_ne {crossed : Bool} (h : skipTrivia s false = (r, crossed))
    (hs : r.head? ≠ some ';') :
    closes? b s = if crossed || r.isEmpty then some (b, r) else none := by
  rw [closes?, h]
  rcases r with _ | ⟨c, r⟩
  · rfl
  · split
    · next he =>
      cases he
      exact absurd rfl hs
    · next he =>
      cases he
      rfl

theorem closes?_eq_some_iff : closes? b s = some (x, r) ↔ x = b ∧ Closes s r := by
  constructor
  · intro h
    obtain ⟨tail, hs, ht⟩ := exists_longestTrivia s false
    by_cases hsemi : (skipTrivia s false).1.head? = some ';'
    · obtain ⟨r', hr⟩ := List.head?_eq_some_iff.mp hsemi
      rw [closes?_semicolon (Prod.ext hr rfl)] at h
      cases h
      rw [hr] at hs ht
      rw [hs]
      exact ⟨rfl, .semicolon ht⟩
    · rw [closes?_of_ne rfl hsemi] at h
      split at h
      · next hc =>
        cases h
        refine ⟨rfl, ?_⟩
        have hbreak : '\n' ∈ tail ∨ (skipTrivia s false).1 = [] := by
          by_cases hr : (skipTrivia s false).1 = []
          · exact .inr hr
          · have hskip := ht.skip hr false
            rw [← hs] at hskip
            rw [hskip] at hc
            simpa [hr] using hc
        have := Closes.lineBreak ht hsemi hbreak
        rwa [← hs] at this
      · cases h
  · rintro ⟨rfl, ⟨ht⟩ | ⟨ht, hs, he⟩⟩
    · exact closes?_semicolon (ht.skip (List.cons_ne_nil _ _) false)
    · rename_i tail
      by_cases hr : r = []
      · have hall := ht.skip_fst false
        rw [closes?_of_ne (Prod.ext hall rfl) hs]
        simp [hr]
      · have hn : '\n' ∈ tail := he.resolve_right hr
        rw [closes?_of_ne (ht.skip hr false) hs]
        simp [hn]

end

/-! ## One directive -/

section
variable {s b d r x : List Char}

theorem directive?_eq_closes? {q : Char} {after : List Char} (hq : IsQuote q) (hb : Plain q b)
    (hs : (skipTrivia s false).1 = q :: (b ++ q :: after)) :
    directive? s = closes? b after := by
  have hq' : q = '"' ∨ q = '\'' := hq
  simp only [directive?, hs, hq', ↓reduceIte, dropWhile_plain hb, takeWhile_plain hb]
  rfl

theorem of_directive? (h : directive? s = some (x, r)) : ∃ q b after, IsQuote q ∧ Plain q b ∧
    (skipTrivia s false).1 = q :: (b ++ q :: after) ∧ closes? b after = some (x, r) := by
  have hd := h
  unfold directive? at h
  split at h
  · next q body hs =>
    split at h
    · next hq =>
      split at h
      · next closing after hb =>
        split at h
        · next hc =>
          subst hc
          have hbody : body.takeWhile (isPlain closing) ++ closing :: after = body := by
            rw [← hb, List.takeWhile_append_dropWhile]
          have hs' : (skipTrivia s false).1 =
              closing :: (body.takeWhile (isPlain closing) ++ closing :: after) := by
            rw [hbody, hs]
          have hp := plain_takeWhile closing body
          exact ⟨closing, _, after, hq, hp, hs', by rw [← hd, directive?_eq_closes? hq hp hs']⟩
        · cases h
      · cases h
    · cases h
  · cases h

/-- **One directive is read where one begins.** -/
theorem directive?_eq_some_iff :
    directive? s = some (b, r) ↔ ∃ d, s = d ++ r ∧ Directive b d r := by
  constructor
  · intro h
    obtain ⟨q, b', after, hq, hb, hs, hafter⟩ := of_directive? h
    obtain ⟨rfl, hc⟩ := closes?_eq_some_iff.mp hafter
    obtain ⟨lead, hl, hlt⟩ := exists_longestTrivia s false
    rw [hs] at hl hlt
    cases hc with
    | @semicolon tail r ht =>
      exact ⟨lead ++ q :: (b ++ q :: (tail ++ [';'])), by rw [hl]; simp,
        .semicolon hq hb hlt.1 ht⟩
    | @lineBreak tail r ht hsemi he =>
      exact ⟨lead ++ q :: (b ++ q :: tail), by rw [hl]; simp, .lineBreak hq hb hlt.1 ht hsemi he⟩
  · rintro ⟨d, rfl, hd⟩
    -- trivia in front of a quote is passed over, whatever follows the quote
    have hread {q : Char} {lead after : List Char} (hq : IsQuote q) (hb : Plain q b)
        (hl : Trivia lead (q :: (b ++ q :: after))) (hc : Closes after r) :
        directive? (lead ++ q :: (b ++ q :: after)) = some (b, r) := by
      have hs : (skipTrivia (lead ++ q :: (b ++ q :: after)) false).1 = q :: (b ++ q :: after) := by
        rw [hl.skip (List.cons_ne_nil _ _), hq.skipTrivia]
      rw [directive?_eq_closes? hq hb hs]
      exact closes?_eq_some_iff.mpr ⟨rfl, hc⟩
    cases hd with
    | semicolon hq hb hl ht => simpa using hread hq hb hl (.semicolon ht)
    | lineBreak hq hb hl ht hsemi he => simpa using hread hq hb hl (.lineBreak ht hsemi he)

end

/-! ## The whole prologue -/

section
variable {s r : List Char}

theorem statements_of_some {b : List Char} (h : directive? s = some (b, r)) :
    statements s = b :: statements r := by
  rw [statements]
  split
  · next h' => rw [h] at h'; cases h'; rfl
  · next h' => rw [h] at h'; cases h'

theorem statements_of_none (h : directive? s = none) : statements s = [] := by
  rw [statements]
  split
  · next h' => rw [h] at h'; cases h'
  · rfl

/-- Trivia in front of a prologue makes no difference. -/
theorem statements_append {t : List Char} (h : LongestTrivia t r) :
    statements (t ++ r) = statements r := by
  have hd : directive? (t ++ r) = directive? r := by
    have hr : (skipTrivia r false).1 = r := h.rest.skip_fst false
    simp only [directive?, h.skip_fst, hr]
  cases hr : directive? r with
  | none => rw [statements_of_none hr, statements_of_none (hd.trans hr)]
  | some p => rw [statements_of_some hr, statements_of_some (hd.trans hr)]

theorem prologue_statements (s : List Char) : Prologue (statements s) s := by
  fun_induction statements s with
  | case1 s b r h ih =>
    obtain ⟨d, rfl, hd⟩ := directive?_eq_some_iff.mp h
    exact .directive hd ih
  | case2 s h =>
    refine .code fun b d r hs hd => ?_
    rw [directive?_eq_some_iff.mpr ⟨d, hs, hd⟩] at h
    cases h

theorem Prologue.statements_eq {bs : List (List Char)} (h : Prologue bs s) : statements s = bs := by
  induction h with
  | @code s h =>
    refine statements_of_none (Option.eq_none_iff_forall_ne_some.mpr fun ⟨b, r⟩ hsome => ?_)
    obtain ⟨d, hs, hd⟩ := directive?_eq_some_iff.mp hsome
    exact h b d r hs hd
  | @directive b d r bs hd _ ih =>
    rw [statements_of_some (directive?_eq_some_iff.mpr ⟨d, rfl, hd⟩), ih]

theorem statements_eq_iff {bs : List (List Char)} : statements s = bs ↔ Prologue bs s :=
  ⟨fun h => h ▸ prologue_statements s, Prologue.statements_eq⟩

theorem dropMark_eq_iff : dropMark s = r ↔ WithoutMark s r := by
  constructor
  · rintro rfl
    unfold dropMark
    split
    · exact .mark _
    · next h =>
      refine .none fun hh => ?_
      obtain ⟨l, rfl⟩ := List.head?_eq_some_iff.mp hh
      exact h l rfl
  · rintro (_ | h)
    · rfl
    · unfold dropMark
      split
      · exact absurd rfl h
      · rfl

theorem dropHashbang_eq_iff : dropHashbang s = r ↔ WithoutHashbang s r := by
  constructor
  · rintro rfl
    unfold dropHashbang
    split
    · next rest =>
      have := WithoutHashbang.hashbang (takeWhile_line rest) (head?_dropWhile_line rest)
      rwa [List.takeWhile_append_dropWhile] at this
    · next h => exact .none fun ⟨l, hl⟩ => h l hl.symm
  · rintro (⟨hl, hs⟩ | h)
    · exact dropWhile_line hl hs
    · unfold dropHashbang
      split
      · next rest => exact absurd ⟨rest, rfl⟩ h
      · rfl

theorem dropHashbang_dropMark_eq_iff : dropHashbang (dropMark s) = r ↔ Remaining s r := by
  constructor
  · exact fun h => ⟨_, dropMark_eq_iff.mp rfl, dropHashbang_eq_iff.mp h⟩
  · rintro ⟨m, hm, hr⟩
    rw [dropMark_eq_iff.mpr hm, dropHashbang_eq_iff.mpr hr]

end

/-! ## Writing directives -/

/-- One way to write a directive. -/
structure Written where
  lead : List Char
  quote : Char
  text : List Char
  tail : List Char
  semicolon : Bool
  deriving DecidableEq, Repr

/-- The rest of a text after what may separate two directives. -/
def Written.separated (w : Written) (rest : List Char) : List Char :=
  if w.semicolon then ';' :: rest else rest

/-- Directives as they are written, in front of some code. -/
def render (code : List Char) : List Written → List Char
  | [] => code
  | w :: ws =>
    w.lead ++ w.quote :: (w.text ++ w.quote :: (w.tail ++ w.separated (render code ws)))

/-- The code begins, after its trivia, neither with a quote nor with a semicolon. -/
def IsCode (code : List Char) : Prop :=
  ∃ t c, code = t ++ c ∧ LongestTrivia t c ∧ c.head? ≠ some ';' ∧
    ∀ q, IsQuote q → c.head? ≠ some q

/-- What is written fits together: trivia is where trivia has to be, a string can stand between its
quotes, and a semicolon, a line break or the end separates it from what follows. -/
def Fits (code : List Char) : List Written → Prop
  | [] => IsCode code
  | w :: ws =>
    IsQuote w.quote ∧ Plain w.quote w.text ∧
    Trivia w.lead (w.quote :: (w.text ++ w.quote :: (w.tail ++ w.separated (render code ws)))) ∧
    Trivia w.tail (w.separated (render code ws)) ∧
    (w.semicolon = true ∨ '\n' ∈ w.tail ∨ ws = [] ∧ Trivia code []) ∧ Fits code ws

section
variable {code : List Char} {w : Written} {ws : List Written}

/-- What is written begins, after its trivia, with a quote, and code with neither a quote nor a
semicolon. -/
theorem Fits.head (h : Fits code ws) : (skipTrivia (render code ws) false).1.head? ≠ some ';' := by
  cases ws with
  | nil =>
    obtain ⟨t, c, rfl, ht, hsemi, -⟩ := h
    rw [render, ht.skip_fst]
    exact hsemi
  | cons w ws =>
    obtain ⟨hq, -, hl, -⟩ := h
    rw [render, hl.skip (List.cons_ne_nil _ _), hq.skipTrivia]
    rcases hq with hq | hq <;> simp [hq]

/-- What follows a string that is written makes it a statement, and leaves the rest of what is
written but for trivia. -/
theorem Fits.closes (h : Fits code (w :: ws)) : ∃ r,
    Closes (w.tail ++ w.separated (render code ws)) r ∧
      statements r = statements (render code ws) := by
  obtain ⟨-, -, -, ht, hsep, hws⟩ := h
  rw [Written.separated] at ht ⊢
  split at ht
  · next hw =>
    rw [if_pos hw]
    refine ⟨_, .semicolon ((longestTrivia_iff false).mpr ⟨ht, ?_⟩), rfl⟩
    rw [ht.skip (List.cons_ne_nil _ _), skipTrivia_semicolon]
  · next hw =>
    rw [if_neg hw]
    obtain ⟨t, hs, hlong⟩ := exists_longestTrivia (render code ws) false
    have hhead := hws.head
    generalize (skipTrivia (render code ws) false).1 = r at hs hlong hhead
    rw [hs] at ht ⊢
    rw [← List.append_assoc]
    refine ⟨r, .lineBreak (hlong.prepend ht) hhead ?_, (statements_append hlong).symm⟩
    rcases hsep with hsep | hsep | ⟨rfl, hcode⟩
    · exact absurd hsep hw
    · exact .inl (List.mem_append_left _ hsep)
    · have hall := hcode.skip_all false
      rw [show code = t ++ r from hs, hlong.skip_fst] at hall
      exact .inr hall

theorem statements_render (h : Fits code ws) :
    statements (render code ws) = ws.map Written.text := by
  induction ws with
  | nil =>
    obtain ⟨t, c, hcode, ht, -, hquote⟩ := h
    refine statements_of_none (Option.eq_none_iff_forall_ne_some.mpr fun ⟨b, r⟩ hsome => ?_)
    obtain ⟨q, b, after, hq, -, hs, -⟩ := of_directive? hsome
    rw [render, hcode, ht.skip_fst] at hs
    exact hquote q hq (by rw [hs]; rfl)
  | cons w ws ih =>
    obtain ⟨r, hc, hr⟩ := h.closes
    obtain ⟨hq, hb, hl, -, -, hws⟩ := h
    have hs : (skipTrivia (render code (w :: ws)) false).1 =
        w.quote :: (w.text ++ w.quote :: (w.tail ++ w.separated (render code ws))) := by
      rw [render, hl.skip (List.cons_ne_nil _ _), hq.skipTrivia]
    have hd : directive? (render code (w :: ws)) = some (w.text, r) := by
      rw [directive?_eq_closes? hq hb hs]
      exact closes?_eq_some_iff.mpr ⟨rfl, hc⟩
    rw [statements_of_some hd, hr, ih hws, List.map_cons]

end

/-! ## The directives of a module -/

theorem Trivia.head?_ne {t r : List Char} {c : Char} (h : Trivia t r) (hb : isBlank c = false)
    (hc : c ≠ '/') (hr : r.head? ≠ some c) : (t ++ r).head? ≠ some c := by
  cases h with
  | none => exact hr
  | @blank d t _ hd =>
    intro heq
    cases heq
    rw [hd] at hb
    cases hb
  | line | block | openBlock => exact fun heq => hc (Option.some.inj heq).symm

/-- Nothing is taken off the front of directives that are written. -/
theorem Fits.remaining {code : List Char} {ws : List Written} (h : Fits code ws) (hne : ws ≠ []) :
    Remaining (render code ws) (render code ws) := by
  cases ws with
  | nil => exact absurd rfl hne
  | cons w ws =>
    obtain ⟨hq, -, hl, -⟩ := h
    have hhead {c : Char} (hb : isBlank c = false) (hc : c ≠ '/') (hn : ¬IsQuote c) :
        (render code (w :: ws)).head? ≠ some c := by
      refine hl.head?_ne hb hc fun heq => hn ?_
      rwa [← Option.some.inj heq]
    refine ⟨_, .none (hhead (by decide) (by decide) (by simp [IsQuote])), .none ?_⟩
    rintro ⟨l, hl⟩
    exact hhead (c := '#') (by decide) (by decide) (by simp [IsQuote]) (by rw [← hl]; rfl)

/-- **The directives of a module are those of its prologue**, and directives that are written in
front of some code are read back. -/
theorem directives_prologue (source : String) :
    (∀ bs : List String, directives source = bs ↔
      ∃ s, Remaining source.toList s ∧ Prologue (bs.map String.toList) s) ∧
    ∀ (code : List Char) (ws : List Written), Fits code ws →
      (Remaining source.toList (render code ws) ∨ ws ≠ [] ∧ source.toList = render code ws) →
      directives source = ws.map (String.ofList ·.text) := by
  have hmap (l : List (List Char)) (bs : List String) :
      l.map String.ofList = bs ↔ l = bs.map String.toList := by
    constructor
    · rintro rfl
      simp [Function.comp_def]
    · rintro rfl
      simp [Function.comp_def]
  refine ⟨fun bs => ?_, fun code ws hfits hsource => ?_⟩
  · rw [directives, hmap, statements_eq_iff]
    constructor
    · exact fun h => ⟨_, dropHashbang_dropMark_eq_iff.mp rfl, h⟩
    · rintro ⟨s, hs, h⟩
      rwa [dropHashbang_dropMark_eq_iff.mpr hs]
  · have hrem : Remaining source.toList (render code ws) := by
      rcases hsource with hrem | ⟨hne, hs⟩
      · exact hrem
      · rw [hs]
        exact hfits.remaining hne
    rw [directives, dropHashbang_dropMark_eq_iff.mpr hrem, statements_render hfits, List.map_map]
    rfl

/-- The second directive has no semicolon, and a comment ends with its line. -/
def strictClient : List Written :=
  [⟨['\n'], '\'', "use strict".toList, [], true⟩,
    ⟨[], '"', "use client".toList, [' ', '/', '/', '\n'], false⟩]

/-- They are read behind a byte-order mark and a hashbang line. -/
theorem directives_prologue_strictClient : Fits ['x'] strictClient ∧
    Remaining "\uFEFF#!node\n'use strict';\"use client\" //\nx".toList (render ['x'] strictClient) ∧
    directives "\uFEFF#!node\n'use strict';\"use client\" //\nx" = ["use strict", "use client"] := by
  have hcode : LongestTrivia [] ['x'] :=
    (longestTrivia_iff false).mpr ⟨.none _, by rw [List.nil_append, skipTrivia_cons (by decide)]; rfl⟩
  have htail : Trivia [' ', '/', '/', '\n'] ['x'] := by
    have hbreak : Trivia ['\n'] ['x'] := .blank (by decide) (.none _)
    have hline : Trivia ('/' :: '/' :: ([] ++ ['\n'])) ['x'] :=
      .line List.not_mem_nil (.inr rfl) hbreak
    exact .blank (by decide) hline
  have hfits : Fits ['x'] strictClient := by
    refine ⟨.inr rfl, by unfold Plain; decide, .blank (by decide) (.none _), .none _, .inl rfl,
      .inl rfl, by unfold Plain; decide, .none _, htail, .inr (.inl (by decide)),
      [], ['x'], rfl, hcode, by decide, ?_⟩
    rintro q (rfl | rfl) <;> decide
  have hrem : Remaining "\uFEFF#!node\n'use strict';\"use client\" //\nx".toList
      (render ['x'] strictClient) :=
    ⟨_, .mark _, .hashbang (show '\n' ∉ "node".toList by decide) (.inr rfl)⟩
  exact ⟨hfits, hrem, (directives_prologue _).2 _ _ hfits (.inl hrem)⟩

end DevServer.Source
