import EntitySchema.Proofs.Json.Spelling

/-!
# Proofs/Json/Truncation — what a text is read as when it ends too early

Reading goes from left to right, so a text that is cut off is read like the whole one up to the cut.
What stood in front of it is in the tree as before, and in place of what was being read there is the
fault that the text ended (`Node.Cut`).  The one thing that can go unnoticed is a cut between the
digits of a number, which leaves another number (`Node.Shortened`).

A sign, a point and the mark of an exponent do not end a number, so a number cut behind them is a
fault like a number that was spelled wrong.  Hence the law is for texts whose numbers are all plain
(`Numeral.IsPlain`): the beginning of what was read as a value is that value with the same text
behind it less what was cut off, or a cut of it (`readValue_cut`).
-/

namespace EntitySchema.Json

/-! ## Trees of texts that end too early -/

/-- A number without sign, fraction and exponent, below `2 ^ 64`. -/
structure Numeral.IsPlain (n : Numeral) : Prop where
  unsigned : n.negative = false
  fraction : n.fraction = none
  exponent : n.exponent = none
  bound : digitsValue n.whole < powerOf 2 64

mutual

/-- Every number in the value is as wanted. -/
def Node.AllNumbers (wanted : Numeral → Prop) : Node → Prop
  | .null => True
  | .bool _ => True
  | .number n => wanted n
  | .string _ => True
  | .array items _ => itemNumbers wanted items
  | .object members _ => memberNumbers wanted members
  | .keyless first => first.AllNumbers wanted
  | .fault _ => True

/-- Every number in the items is as wanted. -/
def itemNumbers (wanted : Numeral → Prop) : List Node → Prop
  | [] => True
  | n :: rest => n.AllNumbers wanted ∧ itemNumbers wanted rest

/-- Every number in the members is as wanted. -/
def memberNumbers (wanted : Numeral → Prop) : List (Literal × Node) → Prop
  | [] => True
  | (_, n) :: rest => n.AllNumbers wanted ∧ memberNumbers wanted rest

end

/-- The literal `l'` is what is left of `l` in a text that ends inside of it or in front of it. -/
structure Literal.Cut (l l' : Literal) : Prop where
  fault : ∃ u, l'.fault = some (.truncated u)
  pieces : l'.pieces <+: l.pieces

/-- The value `v'` is what is left of `v` in a text that ends right behind it. -/
inductive Node.Shortened : Node → Node → Prop
  | same (v : Node) : Node.Shortened v v
  /-- Nobody can tell that there were more digits. -/
  | number (n : Numeral) {n' : Numeral} : n'.IsPlain → Node.Shortened (.number n) (.number n')

mutual

/-- The value `v'` is what is left of `v` in a text that ends inside of it or in front of it. -/
inductive Node.Cut : Node → Node → Prop
  | nothing (v : Node) {u : Unfinished} : (TextFault.truncated u).isInsideToken = false →
      Node.Cut v (.fault (.truncated u))
  | null : Node.Cut .null (.fault (.truncated .word))
  | bool (b : Bool) : Node.Cut (.bool b) (.fault (.truncated .word))
  | string {l l' : Literal} : l.Cut l' → Node.Cut (.string l) (.string l')
  | array {items items' : List Node} {f : Option TextFault} : ItemsCut items items' f →
      Node.Cut (.array items none) (.array items' f)
  | object {ms ms' : List (Literal × Node)} {f : Option TextFault} : MembersCut ms ms' f →
      Node.Cut (.object ms none) (.object ms' f)

/-- What is left of items, and the fault in place of the closing bracket. -/
inductive ItemsCut : List Node → List Node → Option TextFault → Prop
  | ended (items : List Node) : ItemsCut items [] (some (.truncated .list))
  | inside {v v' : Node} (items : List Node) : v.Cut v' → ItemsCut (v :: items) [v'] none
  | later {v v' : Node} {items items' : List Node} {f : Option TextFault} : v.Shortened v' →
      ItemsCut items items' f → ItemsCut (v :: items) (v' :: items') f

/-- What is left of members, and the fault in place of the closing brace. -/
inductive MembersCut :
    List (Literal × Node) → List (Literal × Node) → Option TextFault → Prop
  | ended (ms : List (Literal × Node)) : MembersCut ms [] (some (.truncated .object))
  | key {k k' : Literal} (v v' : Node) (ms : List (Literal × Node)) : k.Cut k' →
      MembersCut ((k, v) :: ms) [(k', v')] none
  | inside (k : Literal) {v v' : Node} (ms : List (Literal × Node)) : v.Cut v' →
      MembersCut ((k, v) :: ms) [(k, v')] none
  | later (k : Literal) {v v' : Node} {ms ms' : List (Literal × Node)} {f : Option TextFault} :
      v.Shortened v' → MembersCut ms ms' f → MembersCut ((k, v) :: ms) ((k, v') :: ms') f

end

/-- What the beginning of a text is read as, where the whole is read as `v` with `rest` behind it and
`more` is what was cut off. -/
inductive Node.ReadCut (v : Node) (rest more : List Char) : Scan Node → Prop
  | inside {v' : Node} : v.Cut v' → Node.ReadCut v rest more ⟨v', none⟩
  | behind {rest' : List Char} : rest = rest' ++ more → Node.ReadCut v rest more ⟨v, some rest'⟩
  | number {n n' : Numeral} : v = .number n → n'.IsPlain →
      Node.ReadCut v rest more ⟨.number n', some []⟩

/-- The same of items or members. -/
inductive BodyReadCut {α : Type} (cut : List α → List α → Option TextFault → Prop) (parts : List α)
    (rest more : List Char) : Scan (Body α) → Prop
  | inside {parts' : List α} {f : Option TextFault} : cut parts parts' f →
      BodyReadCut cut parts rest more ⟨⟨parts', f⟩, none⟩
  | behind {rest' : List Char} : rest = rest' ++ more →
      BodyReadCut cut parts rest more ⟨⟨parts, none⟩, some rest'⟩

section Reading

variable {p q rest tail : List Char}

/-! ## White space -/

/-- The first token of a text is that of its beginning, unless the cut is in front of it. -/
theorem skipSpace_of_append {d : Char} (h : skipSpace (p ++ q) = d :: tail) :
    skipSpace p = [] ∨ ∃ tail', skipSpace p = d :: tail' ∧ tail = tail' ++ q := by
  rw [skipSpace, List.dropWhile_append] at h
  cases hp : skipSpace p with
  | nil => exact Or.inl rfl
  | cons c tail' =>
    have hdrop : p.dropWhile isSpace = c :: tail' := hp
    rw [hdrop, List.isEmpty_cons, if_neg Bool.false_ne_true, List.cons_append] at h
    obtain ⟨rfl, rfl⟩ := List.cons.inj h
    exact Or.inr ⟨tail', rfl, rfl⟩

theorem skipSpace_append_of_eq_cons {d : Char} (h : skipSpace p = d :: tail) (q : List Char) :
    skipSpace (p ++ q) = d :: (tail ++ q) := by
  have hdrop : p.dropWhile isSpace = d :: tail := h
  rw [skipSpace, List.dropWhile_append, hdrop, List.isEmpty_cons, if_neg Bool.false_ne_true,
    List.cons_append]

theorem isSpace_of_skipSpace {d : Char} (h : skipSpace p = d :: tail) : isSpace d = false := by
  have hhead := List.head?_dropWhile_not isSpace p
  rw [show p.dropWhile isSpace = d :: tail from h] at hhead
  exact hhead

theorem length_lt_of_skipSpace {d : Char} (h : skipSpace p = d :: tail) :
    tail.length < p.length := by
  have hle : (skipSpace p).length ≤ p.length := List.length_dropWhile_le ..
  rw [h, List.length_cons] at hle
  exact hle

/-! ## Words -/

theorem readWord_cut {v w : Node} (hw : w.Cut (.fault (.truncated .word))) :
    ∀ {word p : List Char}, readWord w word (p ++ q) = ⟨v, some rest⟩ →
      v.ReadCut rest q (readWord w word p)
  | [], p, h => by
      obtain ⟨rfl, hr⟩ := Scan.mk.inj h
      exact .behind (Option.some.inj hr).symm
  | _ :: _, [], h => by
      obtain ⟨rfl, -⟩ := eq_of_readWord h
      exact .inside hw
  | c :: word, d :: p, h => by
      rw [List.cons_append, readWord] at h
      rw [readWord]
      split at h
      · next hd =>
        rw [if_pos hd]
        exact readWord_cut hw h
      · exact absurd h Scan.stopped_ne

/-! ## Numbers -/

theorem endsDigits_of_spanDigits {ds : List Nat} {cs : List Char}
    (h : spanDigits cs = (ds, rest)) : EndsDigits rest := by
  obtain ⟨-, rfl⟩ := Prod.mk.inj h
  intro c hc
  have hhead := List.head?_dropWhile_not Char.isDigit cs
  rw [hc] at hhead
  exact hhead

/-- Where no fraction was found there is no point. -/
theorem eq_of_readFraction_none {cs : List Char} (h : readFraction cs = .ok (none, rest)) :
    rest = cs ∧ ∀ c ∈ rest.head?, c ≠ '.' := by
  unfold readFraction at h
  split at h
  · obtain ⟨_, -, he⟩ := map_eq_ok.mp h
    exact absurd he (by simp)
  · next hne =>
    obtain rfl := (Prod.mk.inj (Except.ok.inj h)).2
    refine ⟨rfl, fun c hc hpoint => ?_⟩
    obtain ⟨tail, rfl⟩ := List.head?_eq_some_iff.mp hc
    exact hne tail (by rw [hpoint])

/-- Where no exponent was found there is no mark of one. -/
theorem eq_of_readExponent_none {cs : List Char} (h : readExponent cs = .ok (none, rest)) :
    rest = cs ∧ ∀ c ∈ rest.head?, c ≠ 'e' ∧ c ≠ 'E' := by
  cases cs with
  | nil =>
    obtain rfl := (Prod.mk.inj (Except.ok.inj h)).2
    exact ⟨rfl, nofun⟩
  | cons c cs =>
    rw [readExponent] at h
    split at h
    · obtain ⟨_, -, he⟩ := map_eq_ok.mp h
      exact absurd he (by simp)
    · next hmark =>
      obtain rfl := (Prod.mk.inj (Except.ok.inj h)).2
      refine ⟨rfl, fun d hd => ?_⟩
      obtain rfl := Option.some.inj hd
      exact not_or.mp hmark

/-- Behind a plain number stands nothing that would go on with it. -/
theorem Numeral.endsNumber_of_read {n : Numeral} (hn : n.IsPlain) {cs : List Char}
    (h : Numeral.read cs = .ok (n, rest)) : EndsNumber rest := by
  have hunsigned : Numeral.readUnsigned false cs = .ok (n, rest) := by
    by_cases hsign : ∃ tail, cs = '-' :: tail
    · obtain ⟨tail, rfl⟩ := hsign
      have hsigned : Numeral.readUnsigned true tail = .ok (n, rest) := h
      have hnegative := (Numeral.readUnsigned_eq_ok_iff.mp hsigned).1
      exact absurd (hn.unsigned.symm.trans hnegative) Bool.false_ne_true
    · rwa [Numeral.read_of_ne fun tail ht => hsign ⟨tail, ht⟩] at h
  obtain ⟨-, cs₁, cs₂, hw, hf, he⟩ := Numeral.readUnsigned_eq_ok_iff.mp hunsigned
  rw [hn.fraction] at hf
  rw [hn.exponent] at he
  obtain ⟨rfl, hmark⟩ := eq_of_readExponent_none he
  obtain ⟨rfl, hpoint⟩ := eq_of_readFraction_none hf
  have hdigit := endsDigits_of_spanDigits (readWhole_eq_ok_iff.mp hw).1
  exact fun c hc => ⟨hdigit c hc, hpoint c hc, hmark c hc⟩

theorem le_foldl_digits (ds : List Nat) : ∀ n : Nat, n ≤ ds.foldl (fun n d => n * 10 + d) n := by
  induction ds with
  | nil => exact fun n => Nat.le_refl n
  | cons d ds ih =>
    intro n
    have hstep : n ≤ n * 10 + d := by omega
    exact hstep.trans (ih _)

theorem digitsValue_le_append (ds es : List Nat) : digitsValue ds ≤ digitsValue (ds ++ es) := by
  rw [digitsValue, digitsValue, List.foldl_append]
  exact le_foldl_digits es _

/-- A plain number is spelled by its digits. -/
theorem Numeral.SpelledBy.spellsDigits {n : Numeral} (hn : n.IsPlain) {cs : List Char}
    (h : n.SpelledBy cs) : SpellsDigits n.whole cs := by
  obtain ⟨whole, fraction, exponent, rfl, hw, -, hf, he⟩ := h
  rw [hn.fraction] at hf
  rw [hn.exponent] at he
  obtain rfl : fraction = [] := hf
  obtain rfl : exponent = [] := he
  rwa [hn.unsigned, if_neg Bool.false_ne_true, List.append_nil, List.nil_append, List.append_nil]

/-- Some of the first digits of a plain number spell another one. -/
theorem Numeral.IsPlain.exists_shorter {n : Numeral} (hn : n.IsPlain) {cs more : List Char}
    (h : n.SpelledBy (cs ++ more)) (hne : cs ≠ []) :
    ∃ n' : Numeral, n'.IsPlain ∧ n'.SpelledBy cs := by
  obtain ⟨-, hall, hwhole⟩ := h.spellsDigits hn
  obtain ⟨_, _, _, -, -, hzero, -⟩ := h
  let digits := cs.map fun c => c.toNat - '0'.toNat
  let others := more.map fun c => c.toNat - '0'.toNat
  have hwhole : n.whole = digits ++ others := by rw [hwhole, List.map_append]
  have hle := digitsValue_le_append digits others
  rw [← hwhole] at hle
  have hspells : SpellsDigits digits cs :=
    ⟨hne, fun c hc => hall c (List.mem_append_left _ hc), rfl⟩
  have hfirst : ∀ d ds, digits ≠ 0 :: d :: ds := by
    intro d ds he
    rw [he] at hwhole
    exact hzero d (ds ++ others) hwhole
  exact ⟨⟨false, digits, none, none⟩, ⟨rfl, rfl, rfl, Nat.lt_of_le_of_lt hle hn.bound⟩,
    cs, [], [], by simp, hspells, hfirst, rfl, rfl⟩

theorem readNumber_cut {v : Node} {c : Char} (hv : v.AllNumbers Numeral.IsPlain)
    (h : readNumber (c :: (p ++ q)) = ⟨v, some rest⟩) : v.ReadCut rest q (readNumber (c :: p)) := by
  rw [readNumber] at h
  split at h
  · next n behind hread =>
    obtain ⟨rfl, hr⟩ := Scan.mk.inj h
    obtain rfl := Option.some.inj hr
    obtain ⟨token, htext, htoken⟩ := Numeral.spelledBy_of_read hread
    rw [← List.cons_append] at htext
    rcases List.append_eq_append_iff.mp htext with ⟨more, rfl, rfl⟩ | ⟨rest', hp, rfl⟩
    · -- the cut is between the digits, or right behind them
      obtain ⟨n', hn', hspelled⟩ := hv.exists_shorter htoken (List.cons_ne_nil c p)
      have hshort := hspelled.read EndsNumber.nil
      rw [List.append_nil] at hshort
      rw [readNumber, hshort]
      exact .number rfl hn'
    · have hend : EndsNumber rest' := by
        intro d hd
        obtain ⟨tail, rfl⟩ := List.head?_eq_some_iff.mp hd
        exact Numeral.endsNumber_of_read hv hread d rfl
      rw [readNumber, hp, htoken.read hend]
      exact .behind rfl
  · exact absurd h Scan.stopped_ne

/-! ## Strings -/

/-- What the beginning of a literal is read as, where the whole is read as `l` with `rest` behind
it. -/
inductive Literal.ReadCut (l : Literal) (rest more : List Char) : Literal.Scan → Prop
  | inside {l' : Literal} : l.Cut l' → Literal.ReadCut l rest more ⟨l', none⟩
  | behind {rest' : List Char} : rest = rest' ++ more → Literal.ReadCut l rest more ⟨l, some rest'⟩

theorem Literal.Cut.nothing (l : Literal) (u : Unfinished) : l.Cut ⟨[], some (.truncated u)⟩ :=
  ⟨⟨u, rfl⟩, List.nil_prefix⟩

theorem Literal.ReadCut.truncated (l : Literal) (rest more : List Char) (u : Unfinished) :
    l.ReadCut rest more (.broken (.truncated u)) := .inside (.nothing l u)

theorem Literal.ReadCut.cons {l : Literal} {s : Literal.Scan} {piece : Piece} {more : List Char}
    (h : l.ReadCut rest more s) :
    Literal.ReadCut ⟨piece :: l.pieces, l.fault⟩ rest more (.cons piece s) := by
  cases h with
  | inside hl =>
    obtain ⟨hf, hp⟩ := hl
    exact .inside ⟨hf, List.cons_prefix_cons.mpr ⟨rfl, hp⟩⟩
  | behind hr => exact .behind hr

theorem utf8Size_of_hexValue? {c : Char} {v : Nat} (h : Text.hexValue? c = some v) :
    c.utf8Size = 1 := by
  have hle : ∀ d : Char, d.val ≤ 127 → c ≤ d → c.utf8Size = 1 := fun d hd hc =>
    Char.utf8Size_eq_one_iff.mpr (UInt32.le_trans hc hd)
  rw [Text.hexValue?] at h
  split at h
  · next hc => exact hle '9' (by decide) hc.2
  split at h
  · next hc => exact hle 'f' (by decide) hc.2
  split at h
  · next hc => exact hle 'F' (by decide) hc.2
  · exact nomatch h

/-- The digits of a code unit take one byte each. -/
theorem utf8Size_of_unitValue? {a b c d : Char} {u : Nat} (h : unitValue? a b c d = some u) :
    ∀ x ∈ [a, b, c, d], x.utf8Size = 1 := by
  obtain ⟨_, ha, h⟩ := Option.bind_eq_some_iff.mp h
  obtain ⟨_, hb, h⟩ := Option.bind_eq_some_iff.mp h
  obtain ⟨_, hc, h⟩ := Option.bind_eq_some_iff.mp h
  obtain ⟨_, hd, -⟩ := Option.bind_eq_some_iff.mp h
  simp only [List.forall_mem_cons]
  exact ⟨utf8Size_of_hexValue? ha, utf8Size_of_hexValue? hb, utf8Size_of_hexValue? hc,
    utf8Size_of_hexValue? hd, nofun⟩

theorem byteCount_eq_length {cs : List Char} (h : ∀ c ∈ cs, c.utf8Size = 1) :
    byteCount cs = cs.length := by
  have hfold : ∀ (cs : List Char) (n : Nat), (∀ c ∈ cs, c.utf8Size = 1) →
      cs.foldl (fun n c => n + c.utf8Size) n = n + cs.length := by
    intro cs
    induction cs with
    | nil => exact fun n _ => rfl
    | cons c cs ih =>
      intro n h
      obtain ⟨hc, hcs⟩ := List.forall_mem_cons.mp h
      rw [List.foldl_cons, ih _ hcs, hc, List.length_cons]
      omega
  rw [byteCount, hfold cs 0 h, Nat.zero_add]

/-- A code unit of which fewer than four digits are there is cut off. -/
theorem Literal.read_unit_cut {cs : List Char} (h : ∀ c ∈ cs, c.utf8Size = 1) (hl : cs.length < 4) :
    Literal.read ('\\' :: 'u' :: cs) = .broken (.truncated .string) := by
  have hcount : byteCount (cs.take 4) < 4 := by
    rw [List.take_of_length_le (by omega), byteCount_eq_length h]
    exact hl
  rw [Literal.read, if_neg (by decide), if_pos rfl]
  · rw [if_pos rfl, unitFault, if_pos hcount]
  · rintro a b c d rest rfl
    simp only [List.length_cons] at hl
    omega

/-- A piece that is cut off. -/
theorem Piece.SpelledBy.read_cut {piece : Piece} {more : List Char}
    (h : piece.SpelledBy (p ++ more)) (hmore : more ≠ []) :
    Literal.read p = .broken (.truncated .string) := by
  generalize htoken : p ++ more = token at h
  have hlength : p.length < token.length := by
    rw [← htoken, List.length_append]
    exact Nat.lt_add_of_pos_right (List.length_pos_of_ne_nil hmore)
  match p, h with
  | [], _ => rfl
  | c :: p, .plain _ _ _ => exact absurd hlength (by simp)
  | c :: d :: p, .letter _ => exact absurd hlength (by simp)
  | [c], .letter _ =>
    obtain ⟨rfl, -⟩ := List.cons.inj htoken
    rfl
  | [c], .unit _ =>
    obtain ⟨rfl, -⟩ := List.cons.inj htoken
    rfl
  | c :: d :: cs, @unit h₁ h₂ h₃ h₄ _ hu =>
    obtain ⟨rfl, hrest⟩ := List.cons.inj htoken
    obtain ⟨rfl, hdigits⟩ := List.cons.inj hrest
    have hdigits : cs ++ more = [h₁, h₂, h₃, h₄] := hdigits
    refine Literal.read_unit_cut (fun x hx => utf8Size_of_unitValue? hu x ?_) ?_
    · rw [← hdigits]
      exact List.mem_append_left _ hx
    · simp only [List.length_cons, List.length_nil] at hlength
      omega

/-- **The beginning of a string is the string, or a cut of it.** -/
theorem SpellsPieces.read_cut : ∀ {ps : List Piece} {p body : List Char}, SpellsPieces ps body →
    p ++ q = body ++ '"' :: rest → Literal.ReadCut ⟨ps, none⟩ rest q (Literal.read p)
  | ps, [], _, _, _ => .truncated ..
  | [], c :: p, _, h, htext => by
      obtain rfl := h
      obtain ⟨rfl, hrest⟩ := List.cons.inj htext
      rw [Literal.read_quote]
      exact .behind hrest.symm
  | piece :: ps, c :: p, _, h, htext => by
      obtain ⟨first, others, rfl, hpiece, hps⟩ := h
      rw [List.append_assoc] at htext
      rcases List.append_eq_append_iff.mp htext with ⟨more, rfl, hq⟩ | ⟨p', hp, hrest⟩
      · by_cases hmore : more = []
        · rw [hmore, List.append_nil] at hpiece
          rw [← List.append_nil (c :: p), hpiece.read]
          exact .cons (.truncated ⟨ps, none⟩ rest q .string)
        · rw [hpiece.read_cut hmore]
          exact .truncated ..
      · rw [hp, hpiece.read]
        exact (SpellsPieces.read_cut hps hrest.symm).cons

theorem Literal.read_cut {l : Literal} (h : Literal.read (p ++ q) = ⟨l, some rest⟩) :
    l.ReadCut rest q (Literal.read p) := by
  obtain ⟨pieces, fault⟩ := l
  obtain ⟨hf, body, htext, hbody⟩ :=
    (Literal.closesAt_of_read h : Literal.ClosesAt ⟨pieces, fault⟩ (p ++ q) rest)
  obtain rfl : fault = none := hf
  exact hbody.read_cut htext

/-! ## Values -/

/-- What stands behind a value, up to the next mark: the text ended in the value, it ended in front
of the mark, or the mark was reached. -/
theorem Node.ReadCut.next {v : Node} {s : Scan Node} {d : Char} (h : v.ReadCut rest q s)
    (hs : skipSpace rest = d :: tail) :
    (∃ v', s = ⟨v', none⟩ ∧ v.Cut v') ∨
      (∃ v' rest', s = ⟨v', some rest'⟩ ∧ skipSpace rest' = [] ∧ v.Shortened v') ∨
      ∃ rest' tail', s = ⟨v, some rest'⟩ ∧ rest = rest' ++ q ∧ skipSpace rest' = d :: tail' ∧
        tail = tail' ++ q := by
  cases h with
  | inside hv => exact Or.inl ⟨_, rfl, hv⟩
  | @behind rest' hr =>
    rw [hr] at hs
    rcases skipSpace_of_append hs with hs | ⟨tail', hs, htail⟩
    · exact Or.inr (Or.inl ⟨v, rest', rfl, hs, .same v⟩)
    · exact Or.inr (Or.inr ⟨rest', tail', rfl, hr, hs, htail⟩)
  | number hv hn =>
    subst hv
    exact Or.inr (Or.inl ⟨_, [], rfl, rfl, .number _ hn⟩)

theorem length_le_of_readValue {n : Nat} {v : Node} {cs : List Char}
    (h : readValue n cs = ⟨v, some rest⟩) : rest.length ≤ cs.length := by
  obtain ⟨before, token, rfl, -⟩ := spelledBy_of_readValue h
  simp only [List.length_append]
  omega

theorem length_lt_of_readLiteral {l : Literal} {cs : List Char}
    (h : Literal.read cs = ⟨l, some rest⟩) : rest.length < cs.length := by
  obtain ⟨-, body, rfl, -⟩ := Literal.closesAt_of_read h
  simp only [List.length_append, List.length_cons]
  omega

/-- An item is put in front of what is left of others. -/
theorem BodyReadCut.cons_item {v : Node} {items : List Node} {s : Scan (Body Node)}
    (h : BodyReadCut ItemsCut items rest q s) :
    BodyReadCut ItemsCut (v :: items) rest q (.cons v s) := by
  cases h with
  | inside hitems => exact .inside (.later (.same v) hitems)
  | behind hr => exact .behind hr

/-- A member is put in front of what is left of others. -/
theorem BodyReadCut.cons_member {k : Literal} {v : Node} {ms : List (Literal × Node)}
    {s : Scan (Body (Literal × Node))} (h : BodyReadCut MembersCut ms rest q s) :
    BodyReadCut MembersCut ((k, v) :: ms) rest q (.cons (k, v) s) := by
  cases h with
  | inside hms => exact .inside (.later k (.same v) hms)
  | behind hr => exact .behind hr

/-- An item and a comma behind it. -/
theorem readItems_comma {n : Nat} {v : Node} {cs cs₁ cs₂ : List Char}
    (h : readValue n cs = ⟨v, some cs₁⟩) (hs : skipSpace cs₁ = ',' :: cs₂)
    (hne : (skipSpace cs₂).head? ≠ some ']') :
    readItems (n + 1) cs = .cons v (readItems n cs₂) := by
  simp [readItems, h, hs, hne]

/-- Items that were read do not begin with the closing bracket. -/
theorem head?_skipSpace_ne {n : Nat} {items : List Node} {fault : Option TextFault} {cs : List Char}
    (h : readItems n cs = ⟨⟨items, fault⟩, some rest⟩) : (skipSpace cs).head? ≠ some ']' := by
  obtain ⟨-, hne, body, rfl, hbody⟩ := spellsItems_of_readItems h
  obtain ⟨v, items, rfl⟩ := List.exists_cons_of_ne_nil hne
  obtain ⟨c, tail, hs, hc⟩ := hbody.exists_skipSpace (']' :: rest)
  rw [hs]
  exact fun he => hc (Option.some.inj he)

/-- A list that was read, from behind its opening bracket: it was empty, or had items. -/
theorem readValue_bracket_cases {n : Nat} {v : Node} {cs : List Char}
    (h : readValue (n + 1) ('[' :: cs) = ⟨v, some rest⟩) :
    (skipSpace cs = ']' :: rest ∧ v = .array [] none) ∨
      ∃ d ds items, skipSpace cs = d :: ds ∧ d ≠ ']' ∧ v = .array items none ∧
        readItems n cs = ⟨⟨items, none⟩, some rest⟩ := by
  cases hs : skipSpace cs with
  | nil =>
    simp [readValue, skipSpace_cons (c := '[') (by decide), hs] at h
  | cons d ds =>
    by_cases hd : d = ']'
    · subst hd
      simp only [readValue, skipSpace_cons (c := '[') (by decide), hs, Char.reduceEq,
        Char.reduceIsDigit, Bool.false_eq_true, or_self, if_false, if_true] at h
      obtain ⟨rfl, hr⟩ := Scan.mk.inj h
      exact Or.inl ⟨by rw [Option.some.inj hr], rfl⟩
    · rw [readValue_items hs hd] at h
      obtain ⟨rfl, hr⟩ := Scan.mk.inj h
      have hitems : readItems n cs = ⟨⟨(readItems n cs).result.parts, (readItems n cs).result.fault⟩,
          some rest⟩ := by rw [← hr]
      have hfault := (spellsItems_of_readItems hitems).1
      rw [hfault] at hitems ⊢
      exact Or.inr ⟨d, ds, _, rfl, hd, rfl, hitems⟩

/-- An object that was read, from behind its opening brace: it was empty, or had members. -/
theorem readValue_brace_cases {n : Nat} {v : Node} {cs : List Char}
    (h : readValue (n + 1) ('\x7b' :: cs) = ⟨v, some rest⟩) :
    (skipSpace cs = '\x7d' :: rest ∧ v = .object [] none) ∨
      ∃ ds ms, skipSpace cs = '"' :: ds ∧ v = .object ms none ∧
        readMembers n ds = ⟨⟨ms, none⟩, some rest⟩ := by
  cases hs : skipSpace cs with
  | nil =>
    simp [readValue, skipSpace_cons (c := '\x7b') (by decide), hs] at h
  | cons d ds =>
    simp only [readValue, skipSpace_cons (c := '\x7b') (by decide), hs, Char.reduceEq,
      Char.reduceIsDigit, Bool.false_eq_true, or_self, if_false, if_true] at h
    split at h
    · next hd =>
      obtain ⟨rfl, hr⟩ := Scan.mk.inj h
      exact Or.inl ⟨by rw [hd, Option.some.inj hr], rfl⟩
    split at h
    · next hd =>
      obtain ⟨rfl, hr⟩ := Scan.mk.inj h
      have hms : readMembers n ds = ⟨⟨(readMembers n ds).result.parts,
          (readMembers n ds).result.fault⟩, some rest⟩ := by rw [← hr]
      have hfault := (spellsMembers_of_readMembers hms).1
      rw [hfault] at hms ⊢
      exact Or.inr ⟨ds, _, by rw [hd], rfl, hms⟩
    · exact absurd h Scan.stopped_ne

/-- What `n` steps read is cut as it should be, in however many steps its beginning is read. -/
structure CutLaw (n : Nat) : Prop where
  value : ∀ {m : Nat} {v : Node} {p q rest : List Char}, readValue n (p ++ q) = ⟨v, some rest⟩ →
    v.AllNumbers Numeral.IsPlain → 2 * p.length < m → v.ReadCut rest q (readValue m p)
  items : ∀ {m : Nat} {items : List Node} {p q rest : List Char},
    readItems n (p ++ q) = ⟨⟨items, none⟩, some rest⟩ → itemNumbers Numeral.IsPlain items →
      2 * p.length + 1 < m → BodyReadCut ItemsCut items rest q (readItems m p)
  members : ∀ {m : Nat} {ms : List (Literal × Node)} {p q rest : List Char},
    readMembers n (p ++ q) = ⟨⟨ms, none⟩, some rest⟩ → memberNumbers Numeral.IsPlain ms →
      2 * p.length + 1 < m → BodyReadCut MembersCut ms rest q (readMembers m p)

theorem readString_cut {v : Node} (h : (⟨.string (Literal.read (p ++ q)).literal,
    (Literal.read (p ++ q)).rest⟩ : Scan Node) = ⟨v, some rest⟩) :
    v.ReadCut rest q ⟨.string (Literal.read p).literal, (Literal.read p).rest⟩ := by
  obtain ⟨rfl, hr⟩ := Scan.mk.inj h
  have hcut := Literal.read_cut
    (show Literal.read (p ++ q) = ⟨(Literal.read (p ++ q)).literal, some rest⟩ by rw [← hr])
  revert hcut
  generalize (Literal.read (p ++ q)).literal = l
  generalize Literal.read p = s
  intro hcut
  cases hcut with
  | inside hl => exact .inside (.string hl)
  | behind hr => exact .behind hr

namespace CutLaw

variable {n m : Nat} (ih : CutLaw n)

include ih

/-- The beginning of a list, from behind its opening bracket. -/
theorem array {v : Node} (h : readValue (n + 1) ('[' :: (p ++ q)) = ⟨v, some rest⟩)
    (hv : v.AllNumbers Numeral.IsPlain) (hm : 2 * p.length + 1 < m) :
    v.ReadCut rest q (readValue (m + 1) ('[' :: p)) := by
  have hopened : skipSpace p = [] →
      readValue (m + 1) ('[' :: p) = ⟨.array [] (some (.truncated .list)), none⟩ := by
    intro hp
    simp [readValue, skipSpace_cons (c := '[') (by decide), hp]
  rcases readValue_bracket_cases h with ⟨hs, rfl⟩ | ⟨d, ds, items, hs, hd, rfl, hread⟩
  · rcases skipSpace_of_append hs with hp | ⟨rest', hp, hrest⟩
    · rw [hopened hp]
      exact .inside (.array (.ended _))
    · have hclosed : readValue (m + 1) ('[' :: p) = ⟨.array [] none, some rest'⟩ := by
        simp [readValue, skipSpace_cons (c := '[') (by decide), hp]
      rw [hclosed]
      exact .behind hrest
  · rcases skipSpace_of_append hs with hp | ⟨ds', hp, -⟩
    · rw [hopened hp]
      exact .inside (.array (.ended _))
    · rw [readValue_items hp hd]
      have hcut := ih.items hread hv hm
      generalize readItems m p = s at hcut ⊢
      cases hcut with
      | inside hitems => exact .inside (.array hitems)
      | behind hrest => exact .behind hrest

/-- The beginning of an object, from behind its opening brace. -/
theorem object {v : Node} (h : readValue (n + 1) ('\x7b' :: (p ++ q)) = ⟨v, some rest⟩)
    (hv : v.AllNumbers Numeral.IsPlain) (hm : 2 * p.length + 1 < m) :
    v.ReadCut rest q (readValue (m + 1) ('\x7b' :: p)) := by
  have hopened : skipSpace p = [] →
      readValue (m + 1) ('\x7b' :: p) = ⟨.object [] (some (.truncated .object)), none⟩ := by
    intro hp
    simp [readValue, skipSpace_cons (c := '\x7b') (by decide), hp]
  rcases readValue_brace_cases h with ⟨hs, rfl⟩ | ⟨ds, ms, hs, rfl, hread⟩
  · rcases skipSpace_of_append hs with hp | ⟨rest', hp, hrest⟩
    · rw [hopened hp]
      exact .inside (.object (.ended _))
    · have hclosed : readValue (m + 1) ('\x7b' :: p) = ⟨.object [] none, some rest'⟩ := by
        simp [readValue, skipSpace_cons (c := '\x7b') (by decide), hp]
      rw [hclosed]
      exact .behind hrest
  · rcases skipSpace_of_append hs with hp | ⟨ds', hp, rfl⟩
    · rw [hopened hp]
      exact .inside (.object (.ended _))
    · have hlen := length_lt_of_skipSpace hp
      rw [readValue_members hp]
      have hcut := ih.members (m := m) hread hv (by omega)
      generalize readMembers m ds' = s at hcut ⊢
      cases hcut with
      | inside hms => exact .inside (.object hms)
      | behind hrest => exact .behind hrest

theorem value_succ {v : Node} (h : readValue (n + 1) (p ++ q) = ⟨v, some rest⟩)
    (hv : v.AllNumbers Numeral.IsPlain) (hm : 2 * p.length < m) :
    v.ReadCut rest q (readValue m p) := by
  obtain ⟨m, rfl⟩ := Nat.exists_eq_succ_of_ne_zero (Nat.ne_zero_of_lt hm)
  have hread : readValue (m + 1) (skipSpace p) = readValue (m + 1) p := readValue_skipSpace
  rw [← hread]
  cases hp : skipSpace p with
  | nil => exact .inside (.nothing v rfl)
  | cons c p' =>
    have hlen := length_lt_of_skipSpace hp
    rw [← readValue_skipSpace, skipSpace_append_of_eq_cons hp q] at h
    have hc := isSpace_of_skipSpace hp
    by_cases hlist : c = '['
    · subst hlist
      exact ih.array h hv (by omega)
    by_cases hobject : c = '\x7b'
    · subst hobject
      exact ih.object h hv (by omega)
    rw [readValue, skipSpace_cons hc] at h ⊢
    dsimp only at h ⊢
    by_cases hc : c = 'n'
    · rw [if_pos hc] at h ⊢
      exact readWord_cut .null h
    rw [if_neg hc] at h ⊢
    by_cases hc : c = 't'
    · rw [if_pos hc] at h ⊢
      exact readWord_cut (.bool true) h
    rw [if_neg hc] at h ⊢
    by_cases hc : c = 'f'
    · rw [if_pos hc] at h ⊢
      exact readWord_cut (.bool false) h
    rw [if_neg hc] at h ⊢
    by_cases hc : c = '-' ∨ c.isDigit
    · rw [if_pos hc] at h ⊢
      exact readNumber_cut hv h
    rw [if_neg hc] at h ⊢
    by_cases hc : c = '"'
    · rw [if_pos hc] at h ⊢
      exact readString_cut h
    rw [if_neg hc, if_neg hlist, if_neg hobject] at h
    exact absurd h Scan.stopped_ne

/-- The first item: the text ended by the mark behind it, or the mark was reached. -/
theorem first_item {v : Node} {cs₁ : List Char} {d : Char}
    (hv : readValue n (p ++ q) = ⟨v, some cs₁⟩) (hplain : v.AllNumbers Numeral.IsPlain)
    (hs : skipSpace cs₁ = d :: tail) (hm : 2 * p.length < m) (rest : List Char) :
    (∀ items, BodyReadCut ItemsCut (v :: items) rest q (readItems (m + 1) p)) ∨
      ∃ rest' tail', readValue m p = ⟨v, some rest'⟩ ∧ skipSpace rest' = d :: tail' ∧
        tail = tail' ++ q ∧ tail'.length < p.length := by
  rcases (ih.value hv hplain hm).next hs with ⟨v', hread, hcut⟩ | ⟨v', rest', hread, hend, hshort⟩ |
    ⟨rest', tail', hread, rfl, hmark, htail⟩
  · have hitems : readItems (m + 1) p = ⟨⟨[v'], none⟩, none⟩ := by
      simp [readItems, hread, Scan.stop]
    exact Or.inl fun items => hitems ▸ .inside (.inside items hcut)
  · have hitems : readItems (m + 1) p = ⟨⟨[v'], some (.truncated .list)⟩, none⟩ := by
      simp [readItems, hread, hend, Scan.stop]
    exact Or.inl fun items => hitems ▸ .inside (.later hshort (.ended items))
  · have hlen := length_lt_of_skipSpace hmark
    have hle := length_le_of_readValue hv
    simp only [List.length_append] at hle
    exact Or.inr ⟨rest', tail', hread, hmark, htail, by omega⟩

theorem items_succ {items : List Node}
    (h : readItems (n + 1) (p ++ q) = ⟨⟨items, none⟩, some rest⟩)
    (hitems : itemNumbers Numeral.IsPlain items) (hm : 2 * p.length + 1 < m) :
    BodyReadCut ItemsCut items rest q (readItems m p) := by
  obtain ⟨m, rfl⟩ := Nat.exists_eq_succ_of_ne_zero (Nat.ne_zero_of_lt hm)
  have hsteps : 2 * p.length < m := by omega
  obtain ⟨v, cs₁, hv, ⟨hs, rfl, -⟩ | ⟨cs₂, others, hs, rfl, ho⟩⟩ := readItems_inv h
  · rcases ih.first_item hv hitems.1 hs hsteps rest with hcut | ⟨rest', tail', hv', hs', htail, -⟩
    · exact hcut []
    · rw [readItems_close hv' hs']
      exact .behind htail
  · rcases ih.first_item hv hitems.1 hs hsteps rest with
      hcut | ⟨rest', tail', hv', hs', rfl, hlen⟩
    · exact hcut others
    · have hne : (skipSpace tail').head? ≠ some ']' := fun hclose => by
        obtain ⟨ds, hds⟩ := List.head?_eq_some_iff.mp hclose
        refine head?_skipSpace_ne ho ?_
        rw [skipSpace_append_of_eq_cons hds]
        rfl
      rw [readItems_comma hv' hs' hne]
      exact (ih.items ho hitems.2 (by omega)).cons_item

/-- The first member: the text ended by the mark behind it, or the mark was reached. -/
theorem first_member {k : Literal} {v : Node} {cs₁ cs₂ cs₃ : List Char} {d : Char}
    (hk : Literal.read (p ++ q) = ⟨k, some cs₁⟩) (hcolon : skipSpace cs₁ = ':' :: cs₂)
    (hv : readValue n cs₂ = ⟨v, some cs₃⟩) (hplain : v.AllNumbers Numeral.IsPlain)
    (hs : skipSpace cs₃ = d :: tail) (hm : 2 * p.length < m) (rest : List Char) :
    (∀ ms, BodyReadCut MembersCut ((k, v) :: ms) rest q (readMembers (m + 1) p)) ∨
      ∃ cs₁' cs₂' rest' tail', Literal.read p = ⟨k, some cs₁'⟩ ∧ skipSpace cs₁' = ':' :: cs₂' ∧
        readValue m cs₂' = ⟨v, some rest'⟩ ∧ skipSpace rest' = d :: tail' ∧ tail = tail' ++ q ∧
        tail'.length < p.length := by
  have hcut := Literal.read_cut hk
  have hlen := length_lt_of_readLiteral hk
  generalize hread : Literal.read p = s at hcut
  cases hcut with
  | @inside k' hcut =>
    have hms : readMembers (m + 1) p = ⟨⟨[(k', .null)], none⟩, none⟩ := by
      simp [readMembers, hread, Scan.stop]
    exact Or.inl fun ms => hms ▸ .inside (.key v .null ms hcut)
  | @behind cs₁' hr =>
    rw [hr] at hcolon
    rcases skipSpace_of_append hcolon with hend | ⟨cs₂', hcolon', rfl⟩
    · have hms : readMembers (m + 1) p = ⟨⟨[(k, .fault (.truncated .object))], none⟩, none⟩ := by
        simp [readMembers, hread, hend, Scan.stop]
      exact Or.inl fun ms => hms ▸ .inside (.inside k ms (.nothing v rfl))
    · have hlen₂ := length_lt_of_skipSpace hcolon'
      rw [hr] at hlen
      simp only [List.length_append] at hlen
      rcases (ih.value (m := m) hv hplain (by omega)).next hs with ⟨v', hread', hcut⟩ |
        ⟨v', rest', hread', hend, hshort⟩ | ⟨rest', tail', hread', rfl, hmark, htail⟩
      · have hms : readMembers (m + 1) p = ⟨⟨[(k, v')], none⟩, none⟩ := by
          simp [readMembers, hread, hcolon', hread', Scan.stop]
        exact Or.inl fun ms => hms ▸ .inside (.inside k ms hcut)
      · have hms : readMembers (m + 1) p = ⟨⟨[(k, v')], some (.truncated .object)⟩, none⟩ := by
          simp [readMembers, hread, hcolon', hread', hend, Scan.stop]
        exact Or.inl fun ms => hms ▸ .inside (.later k hshort (.ended ms))
      · have hlen₃ := length_lt_of_skipSpace hmark
        have hle := length_le_of_readValue hv
        simp only [List.length_append] at hle
        exact Or.inr ⟨cs₁', cs₂', rest', tail', rfl, hcolon', hread', hmark, htail, by omega⟩

theorem members_succ {ms : List (Literal × Node)}
    (h : readMembers (n + 1) (p ++ q) = ⟨⟨ms, none⟩, some rest⟩)
    (hms : memberNumbers Numeral.IsPlain ms) (hm : 2 * p.length + 1 < m) :
    BodyReadCut MembersCut ms rest q (readMembers m p) := by
  obtain ⟨m, rfl⟩ := Nat.exists_eq_succ_of_ne_zero (Nat.ne_zero_of_lt hm)
  have hsteps : 2 * p.length < m := by omega
  obtain ⟨k, v, cs₁, cs₂, cs₃, hk, hcolon, hv,
    ⟨hs, rfl, -⟩ | ⟨cs₄, tail, others, hs, hquote, rfl, ho⟩⟩ := readMembers_inv h
  · rcases ih.first_member hk hcolon hv hms.1 hs hsteps rest with
      hcut | ⟨cs₁', cs₂', rest', tail', hk', hcolon', hv', hs', htail, -⟩
    · exact hcut []
    · rw [readMembers_close hk' hcolon' hv' hs']
      exact .behind htail
  · rcases ih.first_member hk hcolon hv hms.1 hs hsteps rest with
      hcut | ⟨cs₁', cs₂', rest', tail', hk', hcolon', hv', hs', rfl, hlen⟩
    · exact hcut others
    · rcases skipSpace_of_append hquote with hend | ⟨next, hquote', rfl⟩
      · obtain ⟨⟨k₂, v₂⟩, others, rfl⟩ :=
          List.exists_cons_of_ne_nil (spellsMembers_of_readMembers ho).2.1
        have hread : readMembers (m + 1) p
            = .cons (k, v) (.stop (brokenMember (.truncated .value)) none none) := by
          simp [readMembers, hk', hcolon', hv', hs', hend]
        rw [hread]
        exact .cons_member (.inside (.key _ _ _ (.nothing k₂ .value)))
      · have hlen' := length_lt_of_skipSpace hquote'
        rw [readMembers_more hk' hcolon' hv' hs' hquote']
        exact (ih.members ho hms.2 (by omega)).cons_member

end CutLaw

/-- **The beginning of what is read is read as it, or as a cut of it.** -/
theorem cutLaw : ∀ n : Nat, CutLaw n
  | 0 => ⟨fun h => absurd h Scan.stopped_ne, fun h => absurd h Scan.stopped_ne,
      fun h => absurd h Scan.stopped_ne⟩
  | n + 1 => ⟨(cutLaw n).value_succ, (cutLaw n).items_succ, (cutLaw n).members_succ⟩

end Reading

/-- Every number that the text spells is plain. -/
def PlainNumbers (text : String) : Prop :=
  ∀ v : Node, v.Spells text → v.AllNumbers Numeral.IsPlain

theorem Node.Spells.plainNumbers {v : Node} {text : String} (h : v.Spells text)
    (hv : v.AllNumbers Numeral.IsPlain) : PlainNumbers text := fun w hw => by
  rwa [hw.unique h]

/-- **The beginning of a text that spells a value is read as a cut of it**, unless nothing but white
space was cut off, or the value is a number. -/
theorem Node.Spells.read_cut {v : Node} {text front rest : String} (h : v.Spells text)
    (hplain : PlainNumbers text) (htext : text = front ++ rest) (hrest : ¬ Blank rest.toList) :
    (∃ v', Node.read front.toList = ⟨v', none⟩ ∧ v.Cut v') ∨ ∃ n, v = .number n := by
  obtain ⟨after, hread, hblank⟩ := Node.spells_iff.mp h
  rw [htext, String.toList_append, Node.read] at hread
  have hcut := (cutLaw _).value (m := 2 * front.toList.length + 1) hread (hplain v h)
    (Nat.lt_succ_self _)
  rw [Node.read]
  generalize readValue (2 * front.toList.length + 1) front.toList = s at hcut ⊢
  cases hcut with
  | inside hv => exact Or.inl ⟨_, rfl, hv⟩
  | behind hafter =>
    rw [hafter] at hblank
    exact absurd (fun c hc => hblank c (List.mem_append_right _ hc)) hrest
  | number hv => exact Or.inr ⟨_, hv⟩

end EntitySchema.Json
