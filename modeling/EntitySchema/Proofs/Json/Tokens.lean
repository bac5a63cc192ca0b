import EntitySchema.Proofs.Json.RoundTrip
import Mathlib.Data.List.TakeWhile

/-!
# Proofs/Json/Tokens — numbers and strings are read as they are spelled

The grammar of tokens: a number in any of its notations (`Numeral.SpelledBy`), a string with every
escape of a character (`Literal.SpelledBy`), and the white space around them.  The reader finds a
token in front of whatever ends it, and where it has found one, what it has read spells the token.
-/

namespace EntitySchema.Json

/-! ## The grammar -/

/-- White space between tokens. -/
def Blank (cs : List Char) : Prop := ∀ c ∈ cs, isSpace c = true

/-- What `P` says, with white space around it. -/
def Spaced (P : List Char → Prop) (cs : List Char) : Prop :=
  ∃ before token after, cs = before ++ (token ++ after) ∧ Blank before ∧ Blank after ∧ P token

/-- Digits, one at least. -/
def SpellsDigits (ds : List Nat) (cs : List Char) : Prop :=
  cs ≠ [] ∧ (∀ c ∈ cs, c.isDigit) ∧ ds = cs.map fun c => c.toNat - '0'.toNat

/-- A fraction, or nothing for none. -/
def SpellsFraction : Option (List Nat) → List Char → Prop
  | none, cs => cs = []
  | some ds, cs => ∃ digits, cs = '.' :: digits ∧ SpellsDigits ds digits

/-- The sign of an exponent, which may be left out in front of a positive one. -/
def SpellsSign (negative : Bool) (cs : List Char) : Prop :=
  if negative then cs = ['-'] else cs = [] ∨ cs = ['+']

/-- An exponent, or nothing for none. -/
def SpellsExponent : Option (Bool × List Nat) → List Char → Prop
  | none, cs => cs = []
  | some (negative, ds), cs => ∃ mark sign digits, cs = mark :: (sign ++ digits) ∧
      (mark = 'e' ∨ mark = 'E') ∧ SpellsSign negative sign ∧ SpellsDigits ds digits

/-- A number: of several digits in front of the point, the first is no zero. -/
def Numeral.SpelledBy (n : Numeral) (cs : List Char) : Prop :=
  ∃ whole fraction exponent,
    cs = (if n.negative then ['-'] else []) ++ (whole ++ (fraction ++ exponent)) ∧
    SpellsDigits n.whole whole ∧ (∀ d ds, n.whole ≠ 0 :: d :: ds) ∧
    SpellsFraction n.fraction fraction ∧ SpellsExponent n.exponent exponent

/-- A character as it is or escaped by a letter, or a code unit in four digits. -/
inductive Piece.SpelledBy : Piece → List Char → Prop
  | plain {c : Char} : c ≠ '"' → c ≠ '\\' → ¬ c.toNat < 0x20 → Piece.SpelledBy (.char c) [c]
  | letter {e c : Char} : letterEscape? e = some c → Piece.SpelledBy (.char c) ['\\', e]
  | unit {a b c d : Char} {u : Nat} : unitValue? a b c d = some u →
      Piece.SpelledBy (.unit u) ['\\', 'u', a, b, c, d]

/-- Pieces, one behind the other. -/
def SpellsPieces : List Piece → List Char → Prop
  | [], cs => cs = []
  | p :: ps, cs => ∃ first rest, cs = first ++ rest ∧ p.SpelledBy first ∧ SpellsPieces ps rest

/-- A string, with its quotation marks. -/
def Literal.SpelledBy (l : Literal) (cs : List Char) : Prop :=
  l.fault = none ∧ ∃ body, cs = '"' :: (body ++ ['"']) ∧ SpellsPieces l.pieces body

/-! ## White space -/

theorem Blank.nil : Blank [] := fun _ h => absurd h List.not_mem_nil

theorem skipSpace_append {before : List Char} (h : Blank before) (cs : List Char) :
    skipSpace (before ++ cs) = skipSpace cs := List.dropWhile_append_of_pos h

theorem skipSpace_skipSpace (cs : List Char) : skipSpace (skipSpace cs) = skipSpace cs := by
  induction cs with
  | nil => rfl
  | cons c cs ih =>
    by_cases h : isSpace c = true
    · have hc : skipSpace (c :: cs) = skipSpace cs := List.dropWhile_cons_of_pos h
      rw [hc, ih]
    · exact congrArg skipSpace (skipSpace_cons (Bool.eq_false_iff.mpr h) cs)

/-- White space and a first token. -/
theorem exists_skipSpace (cs : List Char) : ∃ before, Blank before ∧ cs = before ++ skipSpace cs :=
  ⟨cs.takeWhile isSpace, fun _ h => List.mem_takeWhile_imp h, List.takeWhile_append_dropWhile.symm⟩

theorem skipSpace_eq_nil_iff {cs : List Char} : skipSpace cs = [] ↔ Blank cs :=
  List.dropWhile_eq_nil_iff

/-- What may stand behind a number: whatever does not go on with it. -/
def EndsNumber (cs : List Char) : Prop :=
  ∀ c ∈ cs.head?, c.isDigit = false ∧ c ≠ '.' ∧ c ≠ 'e' ∧ c ≠ 'E'

theorem EndsNumber.nil : EndsNumber [] := fun _ h => nomatch h

theorem EndsNumber.cons {c : Char} (h : c.isDigit = false ∧ c ≠ '.' ∧ c ≠ 'e' ∧ c ≠ 'E')
    (cs : List Char) : EndsNumber (c :: cs) := by
  intro d hd
  obtain rfl := Option.some.inj hd
  exact h

/-- White space ends a number. -/
theorem EndsNumber.append {after rest : List Char} (ha : Blank after) (hr : EndsNumber rest) :
    EndsNumber (after ++ rest) := by
  cases after with
  | nil => exact hr
  | cons c cs =>
    have hc := ha c List.mem_cons_self
    simp only [isSpace, Bool.or_eq_true, decide_eq_true_eq] at hc
    rw [List.cons_append]
    rcases hc with ((rfl | rfl) | rfl) | rfl
    all_goals exact EndsNumber.cons (by decide) _

/-! ## Numbers -/

section Numbers

variable {ds : List Nat} {cs rest : List Char}

/-- What does not go on with digits. -/
def EndsDigits (cs : List Char) : Prop := ∀ c ∈ cs.head?, c.isDigit = false

theorem SpellsDigits.ne_nil (h : SpellsDigits ds cs) : ds ≠ [] :=
  h.2.2 ▸ mt List.map_eq_nil_iff.mp h.1

theorem SpellsDigits.spanDigits (h : SpellsDigits ds cs) (hr : EndsDigits rest) :
    spanDigits (cs ++ rest) = (ds, rest) := by
  rw [h.2.2]
  exact spanDigits_append h.2.1 hr

/-- Digits that were read, and what stands behind them. -/
theorem spellsDigits_of_spanDigits (h : spanDigits cs = (ds, rest)) (hne : ds ≠ []) :
    ∃ digits, cs = digits ++ rest ∧ SpellsDigits ds digits := by
  obtain ⟨rfl, rfl⟩ := Prod.mk.inj h
  exact ⟨cs.takeWhile Char.isDigit, List.takeWhile_append_dropWhile.symm,
    fun he => hne (he ▸ rfl), fun _ hc => List.mem_takeWhile_imp hc, rfl⟩

theorem readDigits_eq_ok_iff : readDigits cs = .ok (ds, rest) ↔
    spanDigits cs = (ds, rest) ∧ ds ≠ [] := by
  rw [readDigits]
  cases hs : spanDigits cs with
  | mk es cs' =>
    cases es with
    | nil =>
      refine ⟨nofun, fun ⟨h, hne⟩ => absurd ?_ hne⟩
      exact (Prod.mk.inj h).1.symm
    | cons e es =>
      refine ⟨fun h => ⟨Except.ok.inj h, ?_⟩, fun h => congrArg Except.ok h.1⟩
      rintro rfl
      exact nomatch Except.ok.inj h

theorem readWhole_eq_ok_iff : readWhole cs = .ok (ds, rest) ↔
    spanDigits cs = (ds, rest) ∧ ds ≠ [] ∧ ∀ d es, ds ≠ 0 :: d :: es := by
  rw [readWhole]
  split
  · next hs =>
    rw [hs]
    exact ⟨fun h => absurd h (by simp), fun h => absurd (Prod.mk.inj h.1).1.symm h.2.1⟩
  · next hs =>
    rw [hs]
    exact ⟨fun h => absurd h (by simp), fun h => absurd (Prod.mk.inj h.1).1.symm (h.2.2 _ _)⟩
  · next hne hz =>
    refine ⟨fun h => ?_, fun h => congrArg Except.ok h.1⟩
    have hs := Except.ok.inj h
    refine ⟨hs, fun he => ?_, fun d es he => ?_⟩
    · exact hne rest (hs.trans (by rw [he]))
    · exact hz d es rest (hs.trans (by rw [he]))

theorem SpellsFraction.read {fraction : Option (List Nat)} (h : SpellsFraction fraction cs)
    (hr : EndsDigits rest) (hp : ∀ c ∈ rest.head?, c ≠ '.') :
    readFraction (cs ++ rest) = .ok (fraction, rest) := by
  cases fraction with
  | none =>
    obtain rfl := h
    cases rest with
    | nil => rfl
    | cons c rest =>
      rw [List.nil_append, readFraction]
      intro _ he
      exact hp c rfl (List.cons.inj he).1
  | some ds =>
    obtain ⟨digits, rfl, hd⟩ := h
    have hread : readDigits (digits ++ rest) = .ok (ds, rest) :=
      readDigits_eq_ok_iff.mpr ⟨hd.spanDigits hr, hd.ne_nil⟩
    rw [List.cons_append, readFraction, hread]
    rfl

theorem spellsFraction_of_read {fraction : Option (List Nat)}
    (h : readFraction cs = .ok (fraction, rest)) :
    ∃ token, cs = token ++ rest ∧ SpellsFraction fraction token := by
  unfold readFraction at h
  split at h
  · next cs =>
    obtain ⟨⟨ds, behind⟩, hd, he⟩ := map_eq_ok.mp h
    obtain ⟨rfl, rfl⟩ := Prod.mk.inj he
    obtain ⟨hs, hne⟩ := readDigits_eq_ok_iff.mp hd
    obtain ⟨digits, rfl, hdigits⟩ := spellsDigits_of_spanDigits hs hne
    exact ⟨'.' :: digits, rfl, digits, rfl, hdigits⟩
  · obtain ⟨rfl, rfl⟩ := Prod.mk.inj (Except.ok.inj h)
    exact ⟨[], rfl, rfl⟩

theorem SpellsSign.read {negative : Bool} {digits : List Char} (h : SpellsSign negative cs)
    (hd : SpellsDigits ds digits) :
    readExponentSign (cs ++ (digits ++ rest)) = (negative, digits ++ rest) := by
  cases negative with
  | true =>
    obtain rfl : cs = ['-'] := h
    rfl
  | false =>
    rcases (h : cs = [] ∨ cs = ['+']) with rfl | rfl
    · obtain ⟨c, digits, rfl⟩ := List.exists_cons_of_ne_nil hd.1
      have hc := hd.2.1 c List.mem_cons_self
      rw [List.nil_append, List.cons_append, readExponentSign]
      · intro _ he
        rw [(List.cons.inj he).1] at hc
        exact absurd hc (by decide)
      · intro _ he
        rw [(List.cons.inj he).1] at hc
        exact absurd hc (by decide)
    · rfl

theorem spellsSign_of_read {negative : Bool} (h : readExponentSign cs = (negative, rest)) :
    ∃ sign, cs = sign ++ rest ∧ SpellsSign negative sign := by
  unfold readExponentSign at h
  split at h
  · obtain ⟨rfl, rfl⟩ := Prod.mk.inj h
    exact ⟨['+'], rfl, Or.inr rfl⟩
  · obtain ⟨rfl, rfl⟩ := Prod.mk.inj h
    exact ⟨['-'], rfl, rfl⟩
  · obtain ⟨rfl, rfl⟩ := Prod.mk.inj h
    exact ⟨[], rfl, Or.inl rfl⟩

theorem SpellsExponent.read {exponent : Option (Bool × List Nat)} (h : SpellsExponent exponent cs)
    (hr : EndsNumber rest) : readExponent (cs ++ rest) = .ok (exponent, rest) := by
  cases exponent with
  | none =>
    obtain rfl := h
    cases rest with
    | nil => rfl
    | cons c rest =>
      obtain ⟨-, -, he, hE⟩ := hr c rfl
      exact if_neg (not_or.mpr ⟨he, hE⟩)
  | some x =>
    obtain ⟨negative, ds⟩ := x
    obtain ⟨mark, sign, digits, rfl, hm, hs, hd⟩ := h
    have hread : readDigits (digits ++ rest) = .ok (ds, rest) :=
      readDigits_eq_ok_iff.mpr ⟨hd.spanDigits fun c hc => (hr c hc).1, hd.ne_nil⟩
    rw [List.cons_append, List.append_assoc, readExponent, if_pos hm, hs.read hd]
    dsimp only
    rw [hread]
    rfl

theorem spellsExponent_of_read {exponent : Option (Bool × List Nat)}
    (h : readExponent cs = .ok (exponent, rest)) :
    ∃ token, cs = token ++ rest ∧ SpellsExponent exponent token := by
  cases cs with
  | nil =>
    obtain ⟨rfl, rfl⟩ := Prod.mk.inj (Except.ok.inj h)
    exact ⟨[], rfl, rfl⟩
  | cons mark cs =>
    rw [readExponent] at h
    split at h
    · next hm =>
      cases hs : readExponentSign cs with
      | mk negative behind =>
        rw [hs] at h
        dsimp only at h
        obtain ⟨sign, rfl, hsign⟩ := spellsSign_of_read hs
        obtain ⟨⟨ds, behind⟩, hd, he⟩ := map_eq_ok.mp h
        obtain ⟨rfl, rfl⟩ := Prod.mk.inj he
        obtain ⟨hspan, hne⟩ := readDigits_eq_ok_iff.mp hd
        obtain ⟨digits, rfl, hdigits⟩ := spellsDigits_of_spanDigits hspan hne
        exact ⟨mark :: (sign ++ digits), by simp, mark, sign, digits, rfl, hm, hsign, hdigits⟩
    · obtain ⟨rfl, rfl⟩ := Prod.mk.inj (Except.ok.inj h)
      exact ⟨[], rfl, rfl⟩

theorem SpellsExponent.endsDigits {exponent : Option (Bool × List Nat)}
    (h : SpellsExponent exponent cs) (hr : EndsNumber rest) :
    ∀ c ∈ (cs ++ rest).head?, c.isDigit = false ∧ c ≠ '.' := by
  intro c hc
  cases exponent with
  | none =>
    obtain rfl := h
    exact ⟨(hr c hc).1, (hr c hc).2.1⟩
  | some x =>
    obtain ⟨mark, sign, digits, rfl, hm, -⟩ := h
    obtain rfl := Option.some.inj hc
    rcases hm with rfl | rfl
    all_goals decide

theorem SpellsFraction.endsDigits {fraction : Option (List Nat)} (h : SpellsFraction fraction cs)
    (hr : EndsDigits rest) : EndsDigits (cs ++ rest) := by
  intro c hc
  cases fraction with
  | none =>
    obtain rfl := h
    exact hr c hc
  | some ds =>
    obtain ⟨digits, rfl, -⟩ := h
    obtain rfl := Option.some.inj hc
    rfl

/-- A number does not begin with white space. -/
theorem Numeral.SpelledBy.exists_eq_cons {n : Numeral} (h : n.SpelledBy cs) :
    ∃ c tail, cs = c :: tail ∧ (c = '-' ∨ c.isDigit) := by
  obtain ⟨whole, fraction, exponent, rfl, hw, -⟩ := h
  obtain ⟨c, tail, rfl⟩ := List.exists_cons_of_ne_nil hw.1
  have hc := hw.2.1 c List.mem_cons_self
  cases n.negative with
  | true => exact ⟨'-', _, rfl, Or.inl rfl⟩
  | false => exact ⟨c, _, rfl, Or.inr hc⟩

/-- The parts of a number behind its sign. -/
def Numeral.readUnsigned (negative : Bool) (cs : List Char) :
    Except TextFault (Numeral × List Char) := do
  let (whole, cs) ← readWhole cs
  let (fraction, cs) ← readFraction cs
  let (exponent, cs) ← readExponent cs
  return (⟨negative, whole, fraction, exponent⟩, cs)

theorem Numeral.read_of_ne (h : ∀ tail, cs ≠ '-' :: tail) :
    Numeral.read cs = Numeral.readUnsigned false cs := by
  rw [Numeral.read]
  · rfl
  · exact h

theorem Numeral.readUnsigned_eq_ok_iff {negative : Bool} {n : Numeral} :
    Numeral.readUnsigned negative cs = .ok (n, rest) ↔
      n.negative = negative ∧ ∃ cs₁ cs₂, readWhole cs = .ok (n.whole, cs₁) ∧
        readFraction cs₁ = .ok (n.fraction, cs₂) ∧ readExponent cs₂ = .ok (n.exponent, rest) := by
  rw [Numeral.readUnsigned]
  constructor
  · intro h
    obtain ⟨⟨whole, cs₁⟩, hw, h⟩ := bind_eq_ok.mp h
    obtain ⟨⟨fraction, cs₂⟩, hf, h⟩ := bind_eq_ok.mp h
    obtain ⟨⟨exponent, cs₃⟩, he, h⟩ := bind_eq_ok.mp h
    obtain ⟨rfl, rfl⟩ := Prod.mk.inj (Except.ok.inj h)
    exact ⟨rfl, cs₁, cs₂, hw, hf, he⟩
  · rintro ⟨rfl, cs₁, cs₂, hw, hf, he⟩
    exact bind_eq_ok.mpr ⟨_, hw, bind_eq_ok.mpr ⟨_, hf, bind_eq_ok.mpr ⟨_, he, rfl⟩⟩⟩

/-- **A number is read as it is spelled.** -/
theorem Numeral.SpelledBy.read {n : Numeral} (h : n.SpelledBy cs) (hr : EndsNumber rest) :
    Numeral.read (cs ++ rest) = .ok (n, rest) := by
  obtain ⟨whole, fraction, exponent, rfl, hw, hz, hf, he⟩ := h
  have hbehind := he.endsDigits hr
  have hunsigned : Numeral.readUnsigned n.negative (whole ++ (fraction ++ (exponent ++ rest)))
      = .ok (n, rest) := by
    refine Numeral.readUnsigned_eq_ok_iff.mpr ⟨rfl, fraction ++ (exponent ++ rest),
      exponent ++ rest, readWhole_eq_ok_iff.mpr ⟨?_, hw.ne_nil, hz⟩, ?_, he.read hr⟩
    · exact hw.spanDigits (hf.endsDigits fun c hc => (hbehind c hc).1)
    · exact hf.read (fun c hc => (hbehind c hc).1) fun c hc => (hbehind c hc).2
  rw [List.append_assoc, List.append_assoc, List.append_assoc]
  cases hn : n.negative with
  | true =>
    rw [hn] at hunsigned
    exact hunsigned
  | false =>
    rw [hn] at hunsigned
    refine (Numeral.read_of_ne fun tail ht => ?_).trans hunsigned
    obtain ⟨c, digits, rfl⟩ := List.exists_cons_of_ne_nil hw.1
    have hc := hw.2.1 c List.mem_cons_self
    rw [(List.cons.inj ht).1] at hc
    exact absurd hc (by decide)

theorem Numeral.spelledBy_of_readUnsigned {negative : Bool} {n : Numeral}
    (h : Numeral.readUnsigned negative cs = .ok (n, rest)) :
    ∃ token, cs = token ++ rest ∧ n.SpelledBy ((if negative then ['-'] else []) ++ token) := by
  obtain ⟨rfl, cs₁, cs₂, hw, hf, he⟩ := Numeral.readUnsigned_eq_ok_iff.mp h
  obtain ⟨hs, hne, hz⟩ := readWhole_eq_ok_iff.mp hw
  obtain ⟨whole, rfl, hwhole⟩ := spellsDigits_of_spanDigits hs hne
  obtain ⟨fraction, rfl, hfraction⟩ := spellsFraction_of_read hf
  obtain ⟨exponent, rfl, hexponent⟩ := spellsExponent_of_read he
  exact ⟨whole ++ (fraction ++ exponent), by simp, whole, fraction, exponent, rfl, hwhole, hz,
    hfraction, hexponent⟩

theorem Numeral.spelledBy_of_read {n : Numeral} (h : Numeral.read cs = .ok (n, rest)) :
    ∃ token, cs = token ++ rest ∧ n.SpelledBy token := by
  by_cases hm : ∃ tail, cs = '-' :: tail
  · obtain ⟨tail, rfl⟩ := hm
    obtain ⟨token, rfl, ht⟩ := Numeral.spelledBy_of_readUnsigned h
    exact ⟨'-' :: token, rfl, ht⟩
  · rw [Numeral.read_of_ne fun tail ht => hm ⟨tail, ht⟩] at h
    exact Numeral.spelledBy_of_readUnsigned h

end Numbers

/-! ## Strings -/

theorem Piece.SpelledBy.read {p : Piece} {cs : List Char} (h : p.SpelledBy cs) (rest : List Char) :
    Literal.read (cs ++ rest) = .cons p (Literal.read rest) := by
  cases h with
  | plain hq hb hc => exact Literal.read_plain hq hb hc rest
  | letter he =>
    refine Literal.read_letter he ?_ rest
    rintro rfl
    exact nomatch he
  | unit hu => exact Literal.read_unit hu rest

theorem SpellsPieces.read : ∀ {ps : List Piece} {cs : List Char}, SpellsPieces ps cs →
    ∀ rest, Literal.read (cs ++ '"' :: rest) = ⟨⟨ps, none⟩, some rest⟩
  | [], _, h, rest => by
      obtain rfl := h
      exact Literal.read_quote rest
  | p :: ps, _, h, rest => by
      obtain ⟨first, others, rfl, hp, hps⟩ := h
      rw [List.append_assoc, hp.read, SpellsPieces.read hps]
      rfl

/-- A literal that ends in front of `rest`, closed. -/
def Literal.ClosesAt (l : Literal) (cs rest : List Char) : Prop :=
  l.fault = none ∧ ∃ body, cs = body ++ '"' :: rest ∧ SpellsPieces l.pieces body

/-- A piece is put in front of what closes. -/
theorem Literal.Scan.closesAt_cons {p : Piece} {first cs rest : List Char} {l : Literal}
    (hp : p.SpelledBy first)
    (ih : ∀ l, Literal.read cs = ⟨l, some rest⟩ → l.ClosesAt cs rest)
    (h : Literal.Scan.cons p (Literal.read cs) = ⟨l, some rest⟩) :
    l.ClosesAt (first ++ cs) rest := by
  cases hr : Literal.read cs with
  | mk l' r =>
    rw [hr] at h
    obtain ⟨rfl, rfl⟩ := Literal.Scan.mk.inj h
    obtain ⟨hf, body, rfl, hb⟩ := ih l' hr
    exact ⟨hf, first ++ body, (List.append_assoc ..).symm, first, body, rfl, hp, hb⟩

/-- **A literal that was read to its end is spelled by what was read.** -/
theorem Literal.closesAt_of_read {cs rest : List Char} : ∀ {l : Literal},
    Literal.read cs = ⟨l, some rest⟩ → l.ClosesAt cs rest := by
  have hbroken : ∀ {f : TextFault} {l : Literal}, Literal.Scan.broken f ≠ ⟨l, some rest⟩ :=
    fun h => nomatch (Literal.Scan.mk.inj h).2
  induction cs using Literal.read.induct with
  | case1 => exact fun h => absurd h hbroken
  | case2 cs =>
    intro l h
    rw [Literal.read_quote] at h
    obtain ⟨rfl, hr⟩ := Literal.Scan.mk.inj h
    obtain rfl := Option.some.inj hr
    exact ⟨rfl, [], rfl, rfl⟩
  | case3 => exact fun h => absurd h hbroken
  | case4 a b c d cs u hu _ ih =>
    intro l h
    rw [Literal.read_unit hu] at h
    exact Scan.closesAt_cons (.unit hu) (fun _ => ih) h
  | case5 a b c d cs hu =>
    intro l h
    rw [Literal.read, if_neg (by decide), if_pos rfl] at h
    simp only [if_true, hu] at h
    exact absurd h hbroken
  | case6 cs hcs =>
    intro l h
    rw [Literal.read, if_neg (by decide), if_pos rfl] at h
    · exact absurd h hbroken
    · exact hcs
  | case7 e cs hne c he _ ih =>
    intro l h
    rw [Literal.read_letter he hne] at h
    exact Scan.closesAt_cons (.letter he) (fun _ => ih) h
  | case8 e cs hne he =>
    intro l h
    unfold Literal.read at h
    rw [if_neg (by decide), if_pos rfl] at h
    simp only [if_neg hne, he] at h
    exact absurd h hbroken
  | case9 c cs hq hb hc =>
    intro l h
    unfold Literal.read at h
    rw [if_neg hq, if_neg hb, if_pos hc] at h
    exact absurd h hbroken
  | case10 c cs hq hb hc ih =>
    intro l h
    rw [Literal.read_plain hq hb hc] at h
    exact Scan.closesAt_cons (.plain hq hb hc) (fun _ => ih) h

end EntitySchema.Json
