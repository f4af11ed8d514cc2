import DevServer.Http.Router

/-!
# Which texts are patterns

`Spells ms ps`: the marks `ms` are a spelling of the pieces `ps`. A text is a pattern (`IsPattern`)
if it begins with a slash, uses no old way to begin a name and spells some pieces, and these are the
texts that the reader of patterns takes (`Pattern.ofText?_isSome_iff`). A pattern that only one path
without braces matches is that path (`Pattern.ofText?_eq_exact_iff`), so that a router can be made
for every pattern but the paths of the probes (`Router.new?_isSome_iff`).
-/

namespace DevServer.Http

/-! ### Names in braces -/

/-- What may stand in braces after the first mark. -/
def IsName (name : List Mark) : Prop :=
  ∀ m ∈ name, m ≠ .closing ∧ m ≠ .letter '*' ∧ m ≠ .letter '/'

theorem isName_nil : IsName [] := List.forall_mem_nil _

theorem isName_cons {m : Mark} {name : List Mark} :
    IsName (m :: name) ↔ (m ≠ .closing ∧ m ≠ .letter '*' ∧ m ≠ .letter '/') ∧ IsName name :=
  List.forall_mem_cons

theorem nameEnd?_cons {m : Mark} (hm : m ≠ .closing) (ms : List Mark) :
    nameEnd? (m :: ms) = if m = .letter '*' ∨ m = .letter '/' then none else nameEnd? ms := by
  cases m with
  | opening => simp [nameEnd?]
  | closing => exact absurd rfl hm
  | letter c => simp [nameEnd?]

/-- A name ends at the first closing brace. -/
theorem nameEnd?_eq_some_iff {ms after : List Mark} :
    nameEnd? ms = some after ↔ ∃ name, IsName name ∧ ms = name ++ .closing :: after := by
  constructor
  · intro h
    induction ms with
    | nil => cases h
    | cons m ms ih =>
      by_cases hm : m = .closing
      · subst hm
        cases h
        exact ⟨[], isName_nil, rfl⟩
      · rw [nameEnd?_cons hm] at h
        split at h
        · cases h
        case isFalse hc =>
          obtain ⟨name, hn, rfl⟩ := ih h
          exact ⟨m :: name, isName_cons.mpr ⟨⟨hm, not_or.mp hc⟩, hn⟩, rfl⟩
  · rintro ⟨name, hn, rfl⟩
    induction name with
    | nil => rfl
    | cons m name ih =>
      obtain ⟨⟨hm, hc⟩, hn'⟩ := isName_cons.mp hn
      rw [List.cons_append, nameEnd?_cons hm, if_neg (not_or.mpr hc)]
      exact ih hn'

/-! ### The grammar of patterns -/

/-- Marks that spell pieces. -/
inductive Spells : List Mark → List Piece → Prop where
  | nil : Spells [] []
  | letter {ms : List Mark} {ps : List Piece} (c : Char) (h : Spells ms ps) :
    Spells (.letter c :: ms) (.letter c :: ps)
  /-- The name of a segment, which the segment ends with. -/
  | segment {first : Mark} {name after : List Mark} {ps : List Piece}
    (hf : first ≠ .closing ∧ first ≠ .letter '}' ∧ first ≠ .letter '*') (hn : IsName name)
    (ha : after = [] ∨ after.head? = some (.letter '/')) (h : Spells after ps) :
    Spells (.opening :: first :: (name ++ .closing :: after)) (.segment :: ps)
  /-- A name after a star, which the text ends with. -/
  | rest {name : List Mark} (h0 : name ≠ []) (hn : IsName name) :
    Spells (.opening :: .letter '*' :: (name ++ [.closing])) [.rest]

theorem endsSegment_iff {ms : List Mark} :
    endsSegment ms = true ↔ ms = [] ∨ ms.head? = some (.letter '/') := by
  cases ms <;> simp [endsSegment]

/-- A name that is not empty does not end at once. -/
theorem head?_name {name after : List Mark} (hn : IsName name) :
    (name ++ .closing :: after).head? = some .closing ↔ name = [] := by
  cases name with
  | nil => simp
  | cons m name => simpa using (isName_cons.mp hn).1.1

theorem spells_of_ofMarks? {ms : List Mark} {ps : List Piece} (h : Piece.ofMarks? ms = some ps) :
    Spells ms ps := by
  fun_induction Piece.ofMarks? ms generalizing ps with
  | case1 =>
    cases h
    exact .nil
  | case2 c ms ih =>
    obtain ⟨qs, hq, rfl⟩ := Option.map_eq_some_iff.mp h
    exact .letter c (ih hq)
  | case8 ms after hend hafter _ hhead =>
    obtain ⟨name, hn, rfl⟩ := nameEnd?_eq_some_iff.mp hend
    obtain rfl := List.isEmpty_iff.mp hafter
    cases h
    exact .rest (fun h0 => hhead (by simp [h0])) hn
  | case10 first ms hfirst _ after hend hstar hafter ih =>
    obtain ⟨name, hn, rfl⟩ := nameEnd?_eq_some_iff.mp hend
    obtain ⟨qs, hq, rfl⟩ := Option.map_eq_some_iff.mp h
    simp only [Bool.or_eq_true, decide_eq_true_eq, not_or] at hfirst
    exact .segment ⟨hfirst.1, hfirst.2, hstar⟩ hn (endsSegment_iff.mp hafter) (ih hq)
  | _ => cases h

/-- What is in braces is read up to the end of the name. -/
theorem Piece.ofMarks?_opening {first : Mark} {name after : List Mark}
    (hf : first ≠ .closing ∧ first ≠ .letter '}') (hn : IsName name)
    (h0 : first = .letter '*' → name ≠ []) :
    ofMarks? (.opening :: first :: (name ++ .closing :: after)) =
      if first = .letter '*' then if after.isEmpty then some [rest] else none
      else if endsSegment after then (ofMarks? after).map (segment :: ·)
      else none := by
  have hend : nameEnd? (name ++ .closing :: after) = some after :=
    nameEnd?_eq_some_iff.mpr ⟨name, hn, rfl⟩
  have hhead : ¬(first = .letter '*' ∧ (name ++ .closing :: after).head? = some .closing) :=
    fun ⟨hstar, hh⟩ => h0 hstar ((head?_name hn).mp hh)
  rw [ofMarks?, if_neg (by simpa using hf), if_neg (by simpa using hhead)]
  split
  case h_1 hnone => rw [hend] at hnone; cases hnone
  case h_2 after' hsome =>
    obtain rfl : after = after' := Option.some.inj (hend.symm.trans hsome)
    rfl

theorem Spells.ofMarks?_eq {ms : List Mark} {ps : List Piece} (h : Spells ms ps) :
    Piece.ofMarks? ms = some ps := by
  induction h with
  | nil => rw [Piece.ofMarks?]
  | letter c _ ih => rw [Piece.ofMarks?, ih, Option.map_some]
  | segment hf hn ha _ ih =>
    obtain ⟨hclosing, hbrace, hstar⟩ := hf
    rw [Piece.ofMarks?_opening ⟨hclosing, hbrace⟩ hn (fun h => absurd h hstar), if_neg hstar,
      if_pos (endsSegment_iff.mpr ha), ih, Option.map_some]
  | rest h0 hn => rw [Piece.ofMarks?_opening (by simp) hn fun _ => h0]; rfl

/-- The reader of marks takes the spellings of pieces and nothing else. -/
theorem Piece.ofMarks?_eq_some_iff {ms : List Mark} {ps : List Piece} :
    ofMarks? ms = some ps ↔ Spells ms ps :=
  ⟨spells_of_ofMarks?, Spells.ofMarks?_eq⟩

/-! ### Patterns -/

/-- The text is a path pattern. -/
structure IsPattern (text : String) : Prop where
  slash : text.toList.head? = some '/'
  /-- Names once began with a colon or a star after a slash. -/
  noOldName : ¬['/', ':'] <:+: text.toList ∧ ¬['/', '*'] <:+: text.toList
  spelled : ∃ ps, Spells (Mark.ofText text.toList) ps ∧ ps.count .segment < Pattern.maxNames

theorem hasOldName_iff (cs : List Char) :
    Pattern.hasOldName cs = true ↔ ['/', ':'] <:+: cs ∨ ['/', '*'] <:+: cs := by
  fun_induction Pattern.hasOldName cs with
  | case1 c cs ih =>
    have hstep (d : Char) : ['/', d] <:+: '/' :: c :: cs ↔ c = d ∨ ['/', d] <:+: c :: cs := by
      rw [List.infix_cons_iff]
      simp [eq_comm]
    simp only [Bool.or_eq_true, beq_iff_eq, ih, hstep]
    exact or_or_or_comm
  | case2 d cs hd ih =>
    have hstep (c : Char) : ['/', c] <:+: d :: cs ↔ ['/', c] <:+: cs := by
      rw [List.infix_cons_iff, or_iff_right]
      rintro ⟨rest, he⟩
      injection he with hd' hcs
      exact hd c rest hd'.symm hcs.symm
    simp only [ih, hstep]
  | case3 => simp

theorem hasOldName_eq_false_iff {cs : List Char} :
    Pattern.hasOldName cs = false ↔ ¬['/', ':'] <:+: cs ∧ ¬['/', '*'] <:+: cs := by
  rw [← Bool.not_eq_true, hasOldName_iff, not_or]

theorem Pattern.ofText?_eq_some_iff {text : String} {p : Pattern} :
    ofText? text = some p ↔ text.toList.head? = some '/' ∧ hasOldName text.toList = false ∧
      Spells (Mark.ofText text.toList) p.pieces ∧ p.pieces.count .segment < maxNames := by
  obtain ⟨ps⟩ := p
  simp only [ofText?]
  split
  case isTrue h =>
    refine ⟨nofun, fun ⟨hslash, hold, _⟩ => ?_⟩
    simp [hslash, hold] at h
  case isFalse h =>
    simp only [Bool.or_eq_true, bne_iff_ne, ne_eq, not_or, Decidable.not_not,
      Bool.not_eq_true] at h
    simp only [Option.bind_eq_some_iff, Piece.ofMarks?_eq_some_iff, Option.ite_none_right_eq_some,
      Option.some.injEq, Pattern.mk.injEq]
    constructor
    · rintro ⟨qs, hqs, hn, rfl⟩
      exact ⟨h.1, h.2, hqs, hn⟩
    · rintro ⟨-, -, hps, hn⟩
      exact ⟨ps, hps, hn, rfl⟩

/-- The texts that are read as patterns. -/
theorem Pattern.ofText?_isSome_iff (text : String) : (ofText? text).isSome ↔ IsPattern text := by
  rw [Option.isSome_iff_exists]
  constructor
  · rintro ⟨p, hp⟩
    obtain ⟨hslash, ho, hps, hn⟩ := ofText?_eq_some_iff.mp hp
    exact ⟨hslash, hasOldName_eq_false_iff.mp ho, p.pieces, hps, hn⟩
  · rintro ⟨hslash, ho, ps, hps, hn⟩
    exact ⟨⟨ps⟩, ofText?_eq_some_iff.mpr ⟨hslash, hasOldName_eq_false_iff.mpr ho, hps, hn⟩⟩

/-! ### Paths without braces -/

/-- There are no braces among the letters. -/
def IsPlain (cs : List Char) : Prop := '{' ∉ cs ∧ '}' ∉ cs

instance (cs : List Char) : Decidable (IsPlain cs) := inferInstanceAs (Decidable (_ ∧ _))

theorem isPlain_cons {c : Char} {cs : List Char} :
    IsPlain (c :: cs) ↔ (c ≠ '{' ∧ c ≠ '}') ∧ IsPlain cs := by
  simp only [IsPlain, List.mem_cons, not_or]
  grind

/-- Letters without braces are read from themselves, and from nothing else. -/
theorem Mark.ofText_eq_map_iff {cs ds : List Char} (hd : IsPlain ds) :
    ofText cs = ds.map .letter ↔ cs = ds := by
  -- A brace among `cs` gives a mark that no letter of `ds` is.
  fun_induction Mark.ofText cs generalizing ds with
  | case5 c cs _ _ _ _ ih =>
    cases ds with
    | nil => simp
    | cons d ds =>
      rw [List.map_cons, List.cons.injEq, List.cons.injEq, Mark.letter.injEq,
        ih (isPlain_cons.mp hd).2]
  | case6 => simp [eq_comm]
  | _ =>
    cases ds with
    | nil => simp
    | cons d ds =>
      obtain ⟨⟨hopening, hclosing⟩, -⟩ := isPlain_cons.mp hd
      simp [hopening.symm, hclosing.symm]

theorem spells_map_letter {ms : List Mark} {cs : List Char} :
    Spells ms (cs.map .letter) ↔ ms = cs.map .letter := by
  induction cs generalizing ms with
  | nil =>
    constructor
    · rintro ⟨⟩
      rfl
    · rintro rfl
      exact .nil
  | cons c cs ih =>
    constructor
    · rintro (_ | ⟨_, h⟩)
      rw [ih.mp h]
      rfl
    · rintro rfl
      exact .letter c (ih.mpr rfl)

theorem isPattern_of_isPlain {text : String} (hp : IsPlain text.toList)
    (hs : text.toList.head? = some '/') (ho : Pattern.hasOldName text.toList = false) :
    IsPattern text where
  slash := hs
  noOldName := hasOldName_eq_false_iff.mp ho
  spelled := by
    refine ⟨text.toList.map .letter, ?_, ?_⟩
    · rw [(Mark.ofText_eq_map_iff hp).mpr rfl]
      exact spells_map_letter.mpr rfl
    · rw [List.count_eq_zero.mpr (by simp)]
      decide

/-- The pattern that only one path without braces matches is written as that path. -/
theorem Pattern.eq_exact_iff {text path : String} {p : Pattern} (h : ofText? text = some p)
    (hp : IsPlain path.toList) : p = .exact path ↔ text = path := by
  obtain ⟨-, -, hps, -⟩ := ofText?_eq_some_iff.mp h
  constructor
  · rintro rfl
    exact String.toList_inj.mp ((Mark.ofText_eq_map_iff hp).mp (spells_map_letter.mp hps))
  · rintro rfl
    have hex : Spells (Mark.ofText text.toList) (text.toList.map .letter) :=
      spells_map_letter.mpr ((Mark.ofText_eq_map_iff hp).mpr rfl)
    have heq := hps.ofMarks?_eq.symm.trans hex.ofMarks?_eq
    exact congrArg Pattern.mk (Option.some.inj heq)

/-! ### Routers -/

theorem isPlain_healthPath : IsPlain healthPath.toList := by decide

theorem isPlain_livePath : IsPlain livePath.toList := by decide

/-- There is a router for every pattern but the paths of the probes. -/
theorem Router.new?_isSome_iff (path : String) :
    (new? path).isSome ↔ IsPattern path ∧ path ≠ healthPath ∧ path ≠ livePath := by
  rw [← Pattern.ofText?_isSome_iff, new?]
  cases h : Pattern.ofText? path with
  | none => simp
  | some p =>
    rw [ne_eq, ne_eq, ← Pattern.eq_exact_iff h isPlain_healthPath,
      ← Pattern.eq_exact_iff h isPlain_livePath]
    simp [Option.isSome_ite']

end DevServer.Http
