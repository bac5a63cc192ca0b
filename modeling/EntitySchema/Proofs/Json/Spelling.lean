import EntitySchema.Proofs.Json.Tokens

/-!
# Proofs/Json/Spelling — a text is read as the tree that it spells

The grammar of values, said of trees: which characters spell a node, with white space around every
token (`Node.SpelledBy`).  Only trees without a fault are spelled at all.  The reader goes from left
to right and knows no grammar; `Node.spells_iff` says that it follows this one: it finds a tree, and
nothing but space behind it, just if the text spells the tree.
-/

namespace EntitySchema.Json

/-! ## The grammar -/

mutual

/-- The characters that spell a value. -/
def Node.SpelledBy : Node → List Char → Prop
  | .null, cs => cs = ['n', 'u', 'l', 'l']
  | .bool true, cs => cs = ['t', 'r', 'u', 'e']
  | .bool false, cs => cs = ['f', 'a', 'l', 's', 'e']
  | .number n, cs => n.SpelledBy cs
  | .string l, cs => l.SpelledBy cs
  | .array items f, cs => f = none ∧ ∃ body, cs = '[' :: (body ++ [']']) ∧ SpellsItems items body
  | .object members f, cs =>
    f = none ∧ ∃ body, cs = '\x7b' :: (body ++ ['\x7d']) ∧ SpellsMembers members body
  | .keyless _, _ => False
  | .fault _, _ => False

/-- Items with commas between them. -/
def SpellsItems : List Node → List Char → Prop
  | [], cs => Blank cs
  | [n], cs => Spaced n.SpelledBy cs
  | n :: rest, cs =>
    ∃ first others, cs = first ++ ',' :: others ∧ Spaced n.SpelledBy first ∧ SpellsItems rest others

/-- Members with commas between them. -/
def SpellsMembers : List (Literal × Node) → List Char → Prop
  | [], cs => Blank cs
  | [(k, n)], cs =>
    ∃ key value, cs = key ++ ':' :: value ∧ Spaced k.SpelledBy key ∧ Spaced n.SpelledBy value
  | (k, n) :: rest, cs =>
    ∃ key value others, cs = key ++ ':' :: (value ++ ',' :: others) ∧ Spaced k.SpelledBy key ∧
      Spaced n.SpelledBy value ∧ SpellsMembers rest others

end

/-- A text that spells a tree. -/
def Node.Spells (n : Node) (text : String) : Prop := Spaced n.SpelledBy text.toList

/-! ## Reading what is spelled -/

section Reading

variable {n : Nat} {cs rest : List Char}

theorem readValue_skipSpace : readValue n (skipSpace cs) = readValue n cs := by
  cases n with
  | zero => rfl
  | succ n => rw [readValue, readValue, skipSpace_skipSpace]

theorem readItems_skipSpace : readItems n (skipSpace cs) = readItems n cs := by
  cases n with
  | zero => rfl
  | succ n => rw [readItems, readItems, readValue_skipSpace]

/-- A value begins with a character that is neither space nor a closing bracket. -/
theorem Node.SpelledBy.exists_eq_cons {v : Node} (h : v.SpelledBy cs) :
    ∃ c tail, cs = c :: tail ∧ isSpace c = false ∧ c ≠ ']' := by
  unfold Node.SpelledBy at h
  split at h
  · exact ⟨_, _, h, by decide, by decide⟩
  · exact ⟨_, _, h, by decide, by decide⟩
  · exact ⟨_, _, h, by decide, by decide⟩
  · obtain ⟨c, tail, rfl, hc⟩ := Numeral.SpelledBy.exists_eq_cons h
    refine ⟨c, tail, rfl, ?_⟩
    rcases hc with rfl | hc
    · decide
    · refine ⟨isSpace_of_isDigit hc, ?_⟩
      rintro rfl
      exact absurd hc (by decide)
  · obtain ⟨-, body, rfl, -⟩ := h
    exact ⟨_, _, rfl, by decide, by decide⟩
  · obtain ⟨-, body, rfl, -⟩ := h
    exact ⟨_, _, rfl, by decide, by decide⟩
  · obtain ⟨-, body, rfl, -⟩ := h
    exact ⟨_, _, rfl, by decide, by decide⟩
  · exact absurd h id
  · exact absurd h id

/-- White space in front of a token goes unnoticed. -/
theorem readValue_append {before : List Char} (h : Blank before) :
    readValue n (before ++ cs) = readValue n cs := by
  rw [← readValue_skipSpace, skipSpace_append h, readValue_skipSpace]

/-- A value with space around it, up to the mark behind it. -/
theorem skipSpace_mark {after : List Char} (h : Blank after) {mark : Char}
    (hm : isSpace mark = false) : skipSpace (after ++ mark :: rest) = mark :: rest := by
  rw [skipSpace_append h, skipSpace_cons hm]

theorem readValue_numeral {c : Char} (hc : c = '-' ∨ c.isDigit) :
    readValue (n + 1) (c :: cs) = readNumber (c :: cs) := by
  rcases hc with rfl | hc
  · simp [readValue, skipSpace_cons (c := '-') (by decide)]
  · exact readValue_number hc cs

theorem readValue_items {d : Char} {ds : List Char} (h : skipSpace cs = d :: ds) (hd : d ≠ ']') :
    readValue (n + 1) ('[' :: cs) =
      ⟨.array (readItems n cs).result.parts (readItems n cs).result.fault,
        (readItems n cs).rest⟩ := by
  have hitems : readItems n (d :: ds) = readItems n cs := by rw [← h, readItems_skipSpace]
  simp [readValue, skipSpace_cons (c := '[') (by decide), h, hd, hitems]

theorem readValue_members {ds : List Char} (h : skipSpace cs = '"' :: ds) :
    readValue (n + 1) ('\x7b' :: cs) =
      ⟨.object (readMembers n ds).result.parts (readMembers n ds).result.fault,
        (readMembers n ds).rest⟩ := by
  simp [readValue, skipSpace_cons (c := '\x7b') (by decide), h]

variable {v : Node} {k : Literal} {cs₁ cs₂ cs₃ cs₄ : List Char}

theorem readItems_close (h : readValue n cs = ⟨v, some cs₁⟩) (hs : skipSpace cs₁ = ']' :: rest) :
    readItems (n + 1) cs = ⟨⟨[v], none⟩, some rest⟩ := by
  simp [readItems, h, hs, Scan.stop]

theorem readItems_more {d : Char} {ds : List Char} (h : readValue n cs = ⟨v, some cs₁⟩)
    (hs : skipSpace cs₁ = ',' :: cs₂) (hd : skipSpace cs₂ = d :: ds) (hne : d ≠ ']') :
    readItems (n + 1) cs = .cons v (readItems n cs₂) := by
  simp [readItems, h, hs, hd, hne]

theorem readMembers_close (hk : Literal.read cs = ⟨k, some cs₁⟩) (hc : skipSpace cs₁ = ':' :: cs₂)
    (hv : readValue n cs₂ = ⟨v, some cs₃⟩) (hs : skipSpace cs₃ = '\x7d' :: rest) :
    readMembers (n + 1) cs = ⟨⟨[(k, v)], none⟩, some rest⟩ := by
  simp [readMembers, hk, hc, hv, hs, Scan.stop]

theorem readMembers_more {ds : List Char} (hk : Literal.read cs = ⟨k, some cs₁⟩)
    (hc : skipSpace cs₁ = ':' :: cs₂) (hv : readValue n cs₂ = ⟨v, some cs₃⟩)
    (hs : skipSpace cs₃ = ',' :: cs₄) (hq : skipSpace cs₄ = '"' :: ds) :
    readMembers (n + 1) cs = .cons (k, v) (readMembers n ds) := by
  simp [readMembers, hk, hc, hv, hs, hq]

theorem SpellsItems.exists_skipSpace {vs : List Node} (h : SpellsItems (v :: vs) cs)
    (rest : List Char) : ∃ c tail, skipSpace (cs ++ rest) = c :: tail ∧ c ≠ ']' := by
  have hspaced : ∀ {cs rest : List Char}, Spaced v.SpelledBy cs →
      ∃ c tail, skipSpace (cs ++ rest) = c :: tail ∧ c ≠ ']' := by
    rintro cs rest ⟨before, token, after, rfl, hb, -, ht⟩
    obtain ⟨c, tail, rfl, hs, hne⟩ := ht.exists_eq_cons
    refine ⟨c, tail ++ (after ++ rest), ?_, hne⟩
    rw [List.append_assoc, List.append_assoc, skipSpace_append hb, List.cons_append,
      skipSpace_cons hs]
  cases vs with
  | nil => exact hspaced h
  | cons w vs =>
    obtain ⟨first, others, rfl, hf, -⟩ := h
    rw [List.append_assoc]
    exact hspaced hf

/-- A key as it is read, from behind its quotation mark to the colon. -/
theorem Spaced.exists_key {key : List Char} (h : Spaced k.SpelledBy key) :
    ∃ tail, (∀ behind, skipSpace (key ++ behind) = '"' :: (tail ++ behind)) ∧
      ∀ behind, ∃ cs₁, Literal.read (tail ++ ':' :: behind) = ⟨k, some cs₁⟩ ∧
        skipSpace cs₁ = ':' :: behind := by
  obtain ⟨before, token, after, rfl, hb, ha, hf, body, rfl, hbody⟩ := h
  refine ⟨body ++ '"' :: after, fun behind => ?_, fun behind => ?_⟩
  · rw [List.append_assoc, skipSpace_append hb]
    simp only [List.cons_append, List.append_assoc, List.nil_append]
    exact skipSpace_cons (by decide) _
  · obtain ⟨pieces, fault⟩ := k
    obtain rfl : fault = none := hf
    refine ⟨after ++ ':' :: behind, ?_, skipSpace_mark ha (by decide)⟩
    rw [List.append_assoc, List.cons_append]
    exact hbody.read _

end Reading

mutual

/-- **A value is read as it is spelled**, whatever ends it. -/
theorem Node.SpelledBy.read : ∀ {v : Node} {n : Nat} {cs rest : List Char}, v.SpelledBy cs →
    2 * cs.length ≤ n → EndsNumber rest → readValue n (cs ++ rest) = ⟨v, some rest⟩
  | v, 0, cs, rest, h, hn, _ => by
      obtain ⟨c, tail, rfl, -⟩ := h.exists_eq_cons
      rw [List.length_cons] at hn
      omega
  | .null, n + 1, cs, rest, h, _, _ => by
      obtain rfl : cs = ['n', 'u', 'l', 'l'] := h
      simp [readValue, skipSpace_cons (c := 'n') (by decide), readWord]
  | .bool true, n + 1, cs, rest, h, _, _ => by
      obtain rfl : cs = ['t', 'r', 'u', 'e'] := h
      simp [readValue, skipSpace_cons (c := 't') (by decide), readWord]
  | .bool false, n + 1, cs, rest, h, _, _ => by
      obtain rfl : cs = ['f', 'a', 'l', 's', 'e'] := h
      simp [readValue, skipSpace_cons (c := 'f') (by decide), readWord]
  | .number m, n + 1, cs, rest, h, _, hr => by
      have hread := Numeral.SpelledBy.read h hr
      obtain ⟨c, tail, rfl, hc⟩ := Numeral.SpelledBy.exists_eq_cons h
      rw [List.cons_append] at hread ⊢
      rw [readValue_numeral hc, readNumber, hread]
  | .string ⟨pieces, fault⟩, n + 1, cs, rest, h, _, _ => by
      obtain ⟨rfl, body, rfl, hb⟩ : fault = none ∧ ∃ body, cs = '"' :: (body ++ ['"']) ∧
        SpellsPieces pieces body := h
      have hread := hb.read rest
      simp [readValue, skipSpace_cons (c := '"') (by decide), hread]
  | .array [] f, n + 1, cs, rest, h, _, _ => by
      obtain ⟨rfl, body, rfl, hb⟩ : f = none ∧ ∃ body, cs = '[' :: (body ++ [']']) ∧
        Blank body := h
      have hs : skipSpace (body ++ ']' :: rest) = ']' :: rest := skipSpace_mark hb (by decide)
      simp [readValue, skipSpace_cons (c := '[') (by decide), hs]
  | .array (v :: vs) f, n + 1, cs, rest, h, hn, _ => by
      obtain ⟨rfl, body, rfl, hb⟩ : f = none ∧ ∃ body, cs = '[' :: (body ++ [']']) ∧
        SpellsItems (v :: vs) body := h
      simp only [List.length_append, List.length_cons, List.length_nil] at hn
      have hread : readItems n (body ++ ']' :: rest) = _ := hb.read (by omega)
      obtain ⟨c, tail, hs, hne⟩ := hb.exists_skipSpace (']' :: rest)
      rw [List.cons_append, List.append_assoc, List.singleton_append, readValue_items hs hne, hread]
  | .object [] f, n + 1, cs, rest, h, _, _ => by
      obtain ⟨rfl, body, rfl, hb⟩ : f = none ∧ ∃ body, cs = '\x7b' :: (body ++ ['\x7d']) ∧
        Blank body := h
      have hs : skipSpace (body ++ '\x7d' :: rest) = '\x7d' :: rest := skipSpace_mark hb (by decide)
      simp [readValue, skipSpace_cons (c := '\x7b') (by decide), hs]
  | .object (m :: ms) f, n + 1, cs, rest, h, hn, _ => by
      obtain ⟨rfl, body, rfl, hb⟩ : f = none ∧ ∃ body, cs = '\x7b' :: (body ++ ['\x7d']) ∧
        SpellsMembers (m :: ms) body := h
      simp only [List.length_append, List.length_cons, List.length_nil] at hn
      obtain ⟨tail, hs, hread⟩ := hb.read rest (show 2 * body.length < n by omega)
      rw [List.cons_append, List.append_assoc, List.singleton_append, readValue_members (hs _),
        hread]

/-- Items are read up to the closing bracket. -/
theorem SpellsItems.read : ∀ {v : Node} {vs : List Node} {n : Nat} {cs rest : List Char},
    SpellsItems (v :: vs) cs → 2 * cs.length < n →
      readItems n (cs ++ ']' :: rest) = ⟨⟨v :: vs, none⟩, some rest⟩
  | _, _, 0, _, _, _, hn => absurd hn (Nat.not_lt_zero _)
  | v, [], n + 1, cs, rest, h, hn => by
      obtain ⟨before, token, after, rfl, hb, ha, ht⟩ : Spaced v.SpelledBy cs := h
      simp only [List.length_append] at hn
      have hread : readValue n (before ++ (token ++ after) ++ ']' :: rest)
          = ⟨v, some (after ++ ']' :: rest)⟩ := by
        rw [List.append_assoc, readValue_append hb, List.append_assoc]
        exact ht.read (by omega) (.append ha (.cons (by decide) rest))
      exact readItems_close hread (skipSpace_mark ha (by decide))
  | v, w :: vs, n + 1, cs, rest, h, hn => by
      obtain ⟨first, others, rfl, ⟨before, token, after, rfl, hb, ha, ht⟩, ho⟩ :
        ∃ first others, cs = first ++ ',' :: others ∧ Spaced v.SpelledBy first ∧
          SpellsItems (w :: vs) others := h
      simp only [List.length_append, List.length_cons] at hn
      have hread : readValue n (before ++ (token ++ after) ++ ',' :: (others ++ ']' :: rest))
          = ⟨v, some (after ++ ',' :: (others ++ ']' :: rest))⟩ := by
        rw [List.append_assoc, readValue_append hb, List.append_assoc]
        exact ht.read (by omega) (.append ha (.cons (by decide) _))
      obtain ⟨c, tail, hs, hne⟩ := ho.exists_skipSpace (']' :: rest)
      rw [List.append_assoc, List.cons_append,
        readItems_more hread (skipSpace_mark ha (by decide)) hs hne, ho.read (by omega)]
      rfl

/-- Members are read up to the closing brace. -/
theorem SpellsMembers.read : ∀ {m : Literal × Node} {ms : List (Literal × Node)} {n : Nat}
    {cs : List Char}, SpellsMembers (m :: ms) cs → ∀ rest, 2 * cs.length < n →
      ∃ tail, (∀ behind, skipSpace (cs ++ behind) = '"' :: (tail ++ behind)) ∧
        readMembers n (tail ++ '\x7d' :: rest) = ⟨⟨m :: ms, none⟩, some rest⟩
  | _, _, 0, _, _, _, hn => absurd hn (Nat.not_lt_zero _)
  | (k, v), [], n + 1, cs, h, rest, hn => by
      obtain ⟨key, value, rfl, hk, before, token, after, rfl, hb, ha, ht⟩ :
        ∃ key value, cs = key ++ ':' :: value ∧ Spaced k.SpelledBy key ∧
          Spaced v.SpelledBy value := h
      simp only [List.length_append, List.length_cons] at hn
      obtain ⟨tail, hs, hkey⟩ := hk.exists_key
      obtain ⟨cs₁, hread, hcolon⟩ :=
        hkey (before ++ (token ++ after) ++ '\x7d' :: rest)
      have hvalue : readValue n (before ++ (token ++ after) ++ '\x7d' :: rest)
          = ⟨v, some (after ++ '\x7d' :: rest)⟩ := by
        rw [List.append_assoc, readValue_append hb, List.append_assoc]
        exact ht.read (by omega) (.append ha (.cons (by decide) rest))
      refine ⟨tail ++ ':' :: (before ++ (token ++ after)), fun behind => ?_, ?_⟩
      · rw [List.append_assoc, hs, List.append_assoc]
      · rw [List.append_assoc]
        exact readMembers_close hread hcolon hvalue (skipSpace_mark ha (by decide))
  | (k, v), m :: ms, n + 1, cs, h, rest, hn => by
      obtain ⟨key, value, others, rfl, hk, ⟨before, token, after, rfl, hb, ha, ht⟩, ho⟩ :
        ∃ key value others, cs = key ++ ':' :: (value ++ ',' :: others) ∧ Spaced k.SpelledBy key ∧
          Spaced v.SpelledBy value ∧ SpellsMembers (m :: ms) others := h
      simp only [List.length_append, List.length_cons] at hn
      obtain ⟨tail, hs, hkey⟩ := hk.exists_key
      obtain ⟨next, hnext, hothers⟩ := ho.read rest (show 2 * others.length < n by omega)
      obtain ⟨cs₁, hread, hcolon⟩ :=
        hkey (before ++ (token ++ after) ++ ',' :: (others ++ '\x7d' :: rest))
      have hvalue : readValue n (before ++ (token ++ after) ++ ',' :: (others ++ '\x7d' :: rest))
          = ⟨v, some (after ++ ',' :: (others ++ '\x7d' :: rest))⟩ := by
        rw [List.append_assoc, readValue_append hb, List.append_assoc]
        exact ht.read (by omega) (.append ha (.cons (by decide) _))
      refine ⟨tail ++ ':' :: (before ++ (token ++ after) ++ ',' :: others), fun behind => ?_, ?_⟩
      · rw [List.append_assoc, hs]
        exact congrArg _ (List.append_assoc ..).symm
      · have htext : tail ++ ':' :: (before ++ (token ++ after) ++ ',' :: others) ++ '\x7d' :: rest
            = tail ++ ':' :: (before ++ (token ++ after) ++ ',' :: (others ++ '\x7d' :: rest)) := by
          simp only [List.append_assoc, List.cons_append]
        rw [htext, readMembers_more hread hcolon hvalue (skipSpace_mark ha (by decide)) (hnext _),
          hothers]
        rfl

end

/-! ## Spelling what is read -/

/-- Reading that stopped at a fault is not reading that has text behind it. -/
theorem Scan.stopped_ne {α : Type} {a b : α} {rest : List Char} :
    (⟨a, none⟩ : Scan α) ≠ ⟨b, some rest⟩ :=
  fun h => Option.some_ne_none rest (Scan.mk.inj h).2.symm

theorem eq_of_readWord {v w : Node} {rest : List Char} : ∀ {word cs : List Char},
    readWord w word cs = ⟨v, some rest⟩ → v = w ∧ cs = word ++ rest
  | [], cs, h => by
      obtain ⟨rfl, hr⟩ := Scan.mk.inj h
      exact ⟨rfl, Option.some.inj hr⟩
  | _ :: _, [], h => absurd h Scan.stopped_ne
  | w :: word, c :: cs, h => by
      rw [readWord] at h
      split at h
      · next hc =>
        obtain ⟨rfl, rfl⟩ := eq_of_readWord h
        exact ⟨rfl, by rw [hc, List.cons_append]⟩
      · exact absurd h Scan.stopped_ne

theorem spelledBy_of_readNumber {v : Node} {cs rest : List Char}
    (h : readNumber cs = ⟨v, some rest⟩) : ∃ token, cs = token ++ rest ∧ v.SpelledBy token := by
  rw [readNumber] at h
  split at h
  · next n behind hn =>
    obtain ⟨rfl, hr⟩ := Scan.mk.inj h
    obtain rfl := Option.some.inj hr
    exact Numeral.spelledBy_of_read hn
  · exact absurd h Scan.stopped_ne

theorem SpellsItems.cons {v : Node} {vs : List Node} {first others : List Char} (hne : vs ≠ [])
    (hf : Spaced v.SpelledBy first) (ho : SpellsItems vs others) :
    SpellsItems (v :: vs) (first ++ ',' :: others) := by
  cases vs with
  | nil => exact absurd rfl hne
  | cons w vs => exact ⟨first, others, rfl, hf, ho⟩

theorem SpellsMembers.cons {k : Literal} {v : Node} {ms : List (Literal × Node)}
    {key value others : List Char} (hne : ms ≠ []) (hk : Spaced k.SpelledBy key)
    (hv : Spaced v.SpelledBy value) (ho : SpellsMembers ms others) :
    SpellsMembers ((k, v) :: ms) (key ++ ':' :: (value ++ ',' :: others)) := by
  cases ms with
  | nil => exact absurd rfl hne
  | cons m ms => exact ⟨key, value, others, rfl, hk, hv, ho⟩

/-- What was read from an opening bracket on. -/
theorem readValue_bracket_inv {n : Nat} {v : Node} {cs tail rest : List Char}
    (hs : skipSpace cs = '[' :: tail) (h : readValue (n + 1) cs = ⟨v, some rest⟩) :
    (∃ token, '[' :: tail = token ++ rest ∧ v.SpelledBy token) ∨
      ∃ items fault, v = .array items fault ∧
        readItems n tail = ⟨⟨items, fault⟩, some rest⟩ := by
  simp only [readValue, hs, Char.reduceEq, Char.reduceIsDigit, Bool.false_eq_true, or_self,
    if_false, if_true] at h
  obtain ⟨before, hb, hd⟩ := exists_skipSpace tail
  split at h
  · exact absurd h Scan.stopped_ne
  · next d ds hds =>
    split at h
    · next hclose =>
      obtain ⟨rfl, hr⟩ := Scan.mk.inj h
      obtain rfl := Option.some.inj hr
      rw [hds, hclose] at hd
      exact Or.inl ⟨'[' :: (before ++ [']']), by simp [hd], rfl, before, rfl, hb⟩
    · rw [← hds, readItems_skipSpace] at h
      obtain ⟨rfl, hr⟩ := Scan.mk.inj h
      exact Or.inr ⟨_, _, rfl, by rw [← hr]⟩

/-- What was read from an opening brace on. -/
theorem readValue_brace_inv {n : Nat} {v : Node} {cs tail rest : List Char}
    (hs : skipSpace cs = '\x7b' :: tail) (h : readValue (n + 1) cs = ⟨v, some rest⟩) :
    (∃ token, '\x7b' :: tail = token ++ rest ∧ v.SpelledBy token) ∨
      ∃ before key members fault, tail = before ++ '"' :: key ∧ Blank before ∧
        v = .object members fault ∧ readMembers n key = ⟨⟨members, fault⟩, some rest⟩ := by
  simp only [readValue, hs, Char.reduceEq, Char.reduceIsDigit, Bool.false_eq_true, or_self,
    if_false, if_true] at h
  obtain ⟨before, hb, hd⟩ := exists_skipSpace tail
  split at h
  · exact absurd h Scan.stopped_ne
  · next d ds hds =>
    rw [hds] at hd
    split at h
    · next hclose =>
      obtain ⟨rfl, hr⟩ := Scan.mk.inj h
      obtain rfl := Option.some.inj hr
      rw [hclose] at hd
      exact Or.inl ⟨'\x7b' :: (before ++ ['\x7d']), by simp [hd], rfl, before, rfl, hb⟩
    split at h
    · next hquote =>
      rw [hquote] at hd
      obtain ⟨rfl, hr⟩ := Scan.mk.inj h
      exact Or.inr ⟨before, ds, _, _, hd, hb, rfl, by rw [← hr]⟩
    · exact absurd h Scan.stopped_ne

/-- What a value that was read to its end begins with: a token of its own, or a bracket or a brace
and what was read behind it. -/
theorem readValue_inv {n : Nat} {v : Node} {cs rest : List Char}
    (h : readValue (n + 1) cs = ⟨v, some rest⟩) :
    (∃ token, skipSpace cs = token ++ rest ∧ v.SpelledBy token) ∨
    (∃ tail items fault, skipSpace cs = '[' :: tail ∧ v = .array items fault ∧
      readItems n tail = ⟨⟨items, fault⟩, some rest⟩) ∨
    ∃ before tail members fault, skipSpace cs = '\x7b' :: (before ++ '"' :: tail) ∧ Blank before ∧
      v = .object members fault ∧ readMembers n tail = ⟨⟨members, fault⟩, some rest⟩ := by
  have hread := h
  rw [readValue] at h
  cases ht : skipSpace cs with
  | nil =>
    rw [ht] at h
    exact absurd h Scan.stopped_ne
  | cons c tail =>
    rw [ht] at h
    dsimp only at h
    split at h
    · next hc =>
      obtain ⟨rfl, rfl⟩ := eq_of_readWord h
      exact Or.inl ⟨['n', 'u', 'l', 'l'], by rw [hc]; rfl, rfl⟩
    split at h
    · next hc =>
      obtain ⟨rfl, rfl⟩ := eq_of_readWord h
      exact Or.inl ⟨['t', 'r', 'u', 'e'], by rw [hc]; rfl, rfl⟩
    split at h
    · next hc =>
      obtain ⟨rfl, rfl⟩ := eq_of_readWord h
      exact Or.inl ⟨['f', 'a', 'l', 's', 'e'], by rw [hc]; rfl, rfl⟩
    split at h
    · exact Or.inl (spelledBy_of_readNumber h)
    split at h
    · next hc =>
      obtain ⟨rfl, hr⟩ := Scan.mk.inj h
      obtain ⟨hf, body, rfl, hbody⟩ :=
        (Literal.closesAt_of_read (by rw [← hr]) : (Literal.read tail).literal.ClosesAt tail rest)
      exact Or.inl ⟨'"' :: (body ++ ['"']), by simp [hc], hf, body, rfl, hbody⟩
    split at h
    · next hc =>
      subst hc
      rcases readValue_bracket_inv ht hread with hv | ⟨items, fault, hv, hi⟩
      · exact Or.inl hv
      · exact Or.inr (Or.inl ⟨tail, items, fault, rfl, hv, hi⟩)
    split at h
    · next hc =>
      subst hc
      rcases readValue_brace_inv ht hread with hv | ⟨before, key, members, fault, rfl, hb, hv, hm⟩
      · exact Or.inl hv
      · exact Or.inr (Or.inr ⟨before, key, members, fault, rfl, hb, hv, hm⟩)
    · exact absurd h Scan.stopped_ne

/-- Items that were read to the closing bracket: the one last read, or one more in front of
others. -/
theorem readItems_inv {n : Nat} {items : List Node} {fault : Option TextFault} {cs rest : List Char}
    (h : readItems (n + 1) cs = ⟨⟨items, fault⟩, some rest⟩) :
    ∃ v cs₁, readValue n cs = ⟨v, some cs₁⟩ ∧
      ((skipSpace cs₁ = ']' :: rest ∧ items = [v] ∧ fault = none) ∨
      ∃ cs₂ others, skipSpace cs₁ = ',' :: cs₂ ∧ items = v :: others ∧
        readItems n cs₂ = ⟨⟨others, fault⟩, some rest⟩) := by
  rw [readItems] at h
  cases hv : readValue n cs with
  | mk v behind =>
    rw [hv] at h
    cases behind with
    | none => exact absurd h Scan.stopped_ne
    | some cs₁ =>
      refine ⟨v, cs₁, rfl, ?_⟩
      dsimp only at h
      split at h
      · exact absurd h Scan.stopped_ne
      · next c cs₂ hs =>
        split at h
        · next hc =>
          obtain ⟨hb, hr⟩ := Scan.mk.inj h
          obtain ⟨rfl, rfl⟩ := Body.mk.inj hb
          obtain rfl := Option.some.inj hr
          exact Or.inl ⟨by rw [hs, hc], rfl, rfl⟩
        split at h
        · next hc =>
          split at h
          · exact absurd h Scan.stopped_ne
          · obtain ⟨hb, hr⟩ := Scan.mk.inj h
            obtain ⟨rfl, rfl⟩ := Body.mk.inj hb
            exact Or.inr ⟨cs₂, _, by rw [hs, hc], rfl, by rw [← hr]⟩
        · exact absurd h Scan.stopped_ne

/-- Where members were read to the closing brace, a first member was: a key, a colon and a value. -/
theorem exists_member_of_readMembers {n : Nat} {b : Body (Literal × Node)} {cs rest : List Char}
    (h : readMembers (n + 1) cs = ⟨b, some rest⟩) :
    ∃ k v cs₁ cs₂ cs₃, Literal.read cs = ⟨k, some cs₁⟩ ∧ skipSpace cs₁ = ':' :: cs₂ ∧
      readValue n cs₂ = ⟨v, some cs₃⟩ := by
  rw [readMembers] at h
  cases hk : Literal.read cs with
  | mk k behind =>
    rw [hk] at h
    cases behind with
    | none => exact absurd h Scan.stopped_ne
    | some cs₁ =>
      dsimp only [Option.map_some] at h
      cases hs : skipSpace cs₁ with
      | nil =>
        rw [hs] at h
        exact absurd h Scan.stopped_ne
      | cons c cs₂ =>
        rw [hs] at h
        dsimp only at h
        split at h
        · next hc =>
          cases hv : readValue n cs₂ with
          | mk v behind =>
            rw [hv] at h
            cases behind with
            | none => exact absurd h Scan.stopped_ne
            | some cs₃ => exact ⟨k, v, cs₁, cs₂, cs₃, rfl, by rw [hs, hc], hv⟩
        · exact absurd h Scan.stopped_ne

/-- Members that were read to the closing brace: the one last read, or one more in front of
others. -/
theorem readMembers_inv {n : Nat} {members : List (Literal × Node)} {fault : Option TextFault}
    {cs rest : List Char} (h : readMembers (n + 1) cs = ⟨⟨members, fault⟩, some rest⟩) :
    ∃ k v cs₁ cs₂ cs₃, Literal.read cs = ⟨k, some cs₁⟩ ∧ skipSpace cs₁ = ':' :: cs₂ ∧
      readValue n cs₂ = ⟨v, some cs₃⟩ ∧
      ((skipSpace cs₃ = '\x7d' :: rest ∧ members = [(k, v)] ∧ fault = none) ∨
      ∃ cs₄ tail others, skipSpace cs₃ = ',' :: cs₄ ∧ skipSpace cs₄ = '"' :: tail ∧
        members = (k, v) :: others ∧ readMembers n tail = ⟨⟨others, fault⟩, some rest⟩) := by
  obtain ⟨k, v, cs₁, cs₂, cs₃, hk, hcolon, hv⟩ := exists_member_of_readMembers h
  refine ⟨k, v, cs₁, cs₂, cs₃, hk, hcolon, hv, ?_⟩
  simp only [readMembers, hk, Option.map_some, hcolon, if_true, hv] at h
  split at h
  · next hs => exact absurd hs (Option.some_ne_none _)
  · exact absurd h Scan.stopped_ne
  · next d cs₄ hd =>
    have hd := Option.some.inj hd
    split at h
    · next hclose =>
      obtain ⟨hb, hr⟩ := Scan.mk.inj h
      obtain ⟨rfl, rfl⟩ := Body.mk.inj hb
      obtain rfl := Option.some.inj hr
      exact Or.inl ⟨by rw [hd, hclose], rfl, rfl⟩
    split at h
    · next hcomma =>
      split at h
      · exact absurd h Scan.stopped_ne
      · next e tail he =>
        split at h
        · next hquote =>
          obtain ⟨hb, hr⟩ := Scan.mk.inj h
          obtain ⟨rfl, rfl⟩ := Body.mk.inj hb
          exact Or.inr ⟨cs₄, tail, _, by rw [hd, hcomma], by rw [he, hquote], rfl, by rw [← hr]⟩
        split at h
        · exact absurd h Scan.stopped_ne
        · exact absurd h Scan.stopped_ne
    · exact absurd h Scan.stopped_ne

/-- White space in front of what is spelled, and behind it. -/
theorem Spaced.intro {P : List Char → Prop} {before token after : List Char} (hb : Blank before)
    (ht : P token) (ha : Blank after) : Spaced P (before ++ (token ++ after)) :=
  ⟨before, token, after, rfl, hb, ha, ht⟩

mutual

/-- **A value that was read to its end is spelled by what was read.** -/
theorem spelledBy_of_readValue : ∀ {n : Nat} {v : Node} {cs rest : List Char},
    readValue n cs = ⟨v, some rest⟩ →
      ∃ before token, cs = before ++ (token ++ rest) ∧ Blank before ∧ v.SpelledBy token
  | 0, v, cs, rest, h => absurd h Scan.stopped_ne
  | n + 1, v, cs, rest, h => by
      obtain ⟨before, hb, hcs⟩ := exists_skipSpace cs
      suffices hs : ∃ token, skipSpace cs = token ++ rest ∧ v.SpelledBy token by
        obtain ⟨token, ht, hv⟩ := hs
        exact ⟨before, token, by rw [← ht]; exact hcs, hb, hv⟩
      rcases readValue_inv h with ht | ⟨tail, items, fault, hs, rfl, hi⟩ |
        ⟨space, tail, members, fault, hs, hspace, rfl, hm⟩
      · exact ht
      · obtain ⟨hf, -, body, rfl, hbody⟩ := spellsItems_of_readItems hi
        exact ⟨'[' :: (body ++ [']']), by simp [hs], hf, body, rfl, hbody⟩
      · obtain ⟨hf, -, body, rfl, hbody⟩ := spellsMembers_of_readMembers hm
        exact ⟨'\x7b' :: (space ++ '"' :: body ++ ['\x7d']), by simp [hs], hf, space ++ '"' :: body,
          rfl, hbody space hspace⟩

theorem spellsItems_of_readItems : ∀ {n : Nat} {items : List Node} {fault : Option TextFault}
    {cs rest : List Char}, readItems n cs = ⟨⟨items, fault⟩, some rest⟩ →
      fault = none ∧ items ≠ [] ∧ ∃ body, cs = body ++ ']' :: rest ∧ SpellsItems items body
  | 0, items, fault, cs, rest, h => absurd h Scan.stopped_ne
  | n + 1, items, fault, cs, rest, h => by
      obtain ⟨v, cs₁, hv, hcase⟩ := readItems_inv h
      obtain ⟨before, token, rfl, hb, ht⟩ := spelledBy_of_readValue hv
      obtain ⟨after, ha, hcs₁⟩ := exists_skipSpace cs₁
      rcases hcase with ⟨hs, rfl, rfl⟩ | ⟨cs₂, others, hs, rfl, ho⟩
      · rw [hs] at hcs₁
        exact ⟨rfl, List.cons_ne_nil _ _, before ++ (token ++ after), by simp [hcs₁],
          .intro hb ht ha⟩
      · obtain ⟨hf, hne, body, rfl, hbody⟩ := spellsItems_of_readItems ho
        rw [hs] at hcs₁
        exact ⟨hf, List.cons_ne_nil _ _, before ++ (token ++ after) ++ ',' :: body, by simp [hcs₁],
          .cons hne (.intro hb ht ha) hbody⟩

theorem spellsMembers_of_readMembers : ∀ {n : Nat} {members : List (Literal × Node)}
    {fault : Option TextFault} {cs rest : List Char},
    readMembers n cs = ⟨⟨members, fault⟩, some rest⟩ →
      fault = none ∧ members ≠ [] ∧ ∃ body, cs = body ++ '\x7d' :: rest ∧
        ∀ before, Blank before → SpellsMembers members (before ++ '"' :: body)
  | 0, members, fault, cs, rest, h => absurd h Scan.stopped_ne
  | n + 1, members, fault, cs, rest, h => by
      obtain ⟨k, v, cs₁, cs₂, cs₃, hk, hcolon, hv, hcase⟩ := readMembers_inv h
      obtain ⟨hfault, literal, rfl, hliteral⟩ := Literal.closesAt_of_read hk
      obtain ⟨space, hspace, hcs₁⟩ := exists_skipSpace cs₁
      obtain ⟨before, token, rfl, hb, ht⟩ := spelledBy_of_readValue hv
      obtain ⟨after, ha, hcs₃⟩ := exists_skipSpace cs₃
      rw [hcolon] at hcs₁
      -- the key, from its quotation mark to the colon
      have hkey : ∀ front, Blank front →
          Spaced k.SpelledBy (front ++ ('"' :: (literal ++ ['"']) ++ space)) :=
        fun front hfront => .intro hfront ⟨hfault, literal, rfl, hliteral⟩ hspace
      rcases hcase with ⟨hs, rfl, rfl⟩ | ⟨cs₄, tail, others, hs, hquote, rfl, ho⟩
      · rw [hs] at hcs₃
        refine ⟨rfl, List.cons_ne_nil _ _,
          literal ++ '"' :: (space ++ ':' :: (before ++ (token ++ after))), by simp [hcs₁, hcs₃],
          fun front hfront => ?_⟩
        exact ⟨_, _, by simp, hkey front hfront, .intro hb ht ha⟩
      · obtain ⟨hf, hne, body, rfl, hbody⟩ := spellsMembers_of_readMembers ho
        obtain ⟨gap, hgap, hcs₄⟩ := exists_skipSpace cs₄
        rw [hs] at hcs₃
        rw [hquote] at hcs₄
        refine ⟨hf, List.cons_ne_nil _ _,
          literal ++ '"' :: (space ++ ':' ::
            (before ++ (token ++ after) ++ ',' :: (gap ++ '"' :: body))),
          by simp [hcs₁, hcs₃, hcs₄], fun front hfront => ?_⟩
        have h := SpellsMembers.cons hne (hkey front hfront) (.intro hb ht ha) (hbody gap hgap)
        simpa using h

end

/-! ## The law -/

/-- **A text is read as a tree, with nothing but space behind it, just if it spells the tree.** -/
theorem Node.spells_iff {v : Node} {text : String} :
    v.Spells text ↔ ∃ rest, Node.read text.toList = ⟨v, some rest⟩ ∧ Blank rest := by
  constructor
  · rintro ⟨before, token, after, hcs, hb, ha, ht⟩
    have hend : EndsNumber after := by
      have h := EndsNumber.append ha .nil
      rwa [List.append_nil] at h
    refine ⟨after, ?_, ha⟩
    rw [Node.read, hcs, readValue_append hb]
    refine ht.read ?_ hend
    simp only [List.length_append]
    omega
  · rintro ⟨after, hread, ha⟩
    obtain ⟨before, token, hcs, hb, ht⟩ := spelledBy_of_readValue hread
    exact ⟨before, token, after, hcs, hb, ha, ht⟩

/-- **A text spells one tree at most.** -/
theorem Node.Spells.unique {v w : Node} {text : String} (hv : v.Spells text) (hw : w.Spells text) :
    v = w := by
  obtain ⟨_, hv, -⟩ := Node.spells_iff.mp hv
  obtain ⟨_, hw, -⟩ := Node.spells_iff.mp hw
  exact (Scan.mk.inj (hv.symm.trans hw)).1

/-- A value's compact written form spells its tree. -/
theorem Value.node_spells (v : Value) : v.node.Spells v.text := by
  refine Node.spells_iff.mpr ⟨[], ?_, Blank.nil⟩
  rw [Value.text, String.toList_ofList, Node.read_chars]

end EntitySchema.Json
