import EntitySchema.Json.Reader
import EntitySchema.Json.Value
import Mathlib.Data.List.Basic

/-!
# Proofs/Json/RoundTrip — what is written is read back

`Value.node` is the tree that a value's written form stands for: strings spelled by the pieces of
their escapes, digits for a number, no fault anywhere.  `Node.read_chars` says that reading the
written form gives this tree, and `Literal.text_ofText` that a string in it spells the text that was
written.
-/

namespace EntitySchema.Json

/-! ## Strings -/

/-- The piece that a character's written form is read as. -/
def Piece.ofChar (c : Char) : Piece :=
  if c.toNat < 0x20 ∧ c ∉ ['\x08', '\t', '\n', '\x0c', '\r'] then .unit c.toNat else .char c

/-- The literal that a text's written form is read as. -/
def Literal.ofText (s : String) : Literal := ⟨s.toList.map Piece.ofChar, none⟩

/-- The four digits behind `\u` spell the code point of a control character. -/
theorem unitValue?_control {n : Nat} (h : n < 0x20) :
    unitValue? '0' '0' (Text.hexDigit (n / 16)) (Text.hexDigit (n % 16)) = some n := by
  have h₀ : Text.hexValue? '0' = some 0 := by decide
  have h₁ := Text.hexValue?_hexDigit (n / 16) (by omega)
  have h₂ := Text.hexValue?_hexDigit (n % 16) (by omega)
  rw [unitValue?, h₀, h₁, h₂]
  simp only [Option.bind_eq_bind, Option.bind_some, Option.pure_def, Option.some.injEq]
  omega

theorem Literal.read_quote (cs : List Char) : Literal.read ('"' :: cs) = ⟨⟨[], none⟩, some cs⟩ := by
  unfold Literal.read
  rw [if_pos rfl]

theorem Literal.read_letter {e c : Char} (h : letterEscape? e = some c) (hu : e ≠ 'u')
    (cs : List Char) : Literal.read ('\\' :: e :: cs) = .cons (.char c) (Literal.read cs) := by
  conv_lhs => unfold Literal.read
  rw [if_neg (by decide), if_pos rfl]
  simp only [if_neg hu, h]

theorem Literal.read_unit {a b c d : Char} {u : Nat} (h : unitValue? a b c d = some u)
    (cs : List Char) :
    Literal.read ('\\' :: 'u' :: a :: b :: c :: d :: cs) = .cons (.unit u) (Literal.read cs) := by
  rw [Literal.read, if_neg (by decide), if_pos rfl]
  simp only [if_true, h]

theorem Literal.read_plain {c : Char} (hq : c ≠ '"') (hb : c ≠ '\\') (hc : ¬ c.toNat < 0x20)
    (cs : List Char) : Literal.read (c :: cs) = .cons (.char c) (Literal.read cs) := by
  conv_lhs => unfold Literal.read
  rw [if_neg hq, if_neg hb, if_neg hc]

/-- **The written form of a character is read as one piece.** -/
theorem Literal.read_escapeChar (c : Char) (cs : List Char) :
    Literal.read (escapeChar c ++ cs) = .cons (Piece.ofChar c) (Literal.read cs) := by
  by_cases hc : c ∈ ['"', '\\', '\x08', '\t', '\n', '\x0c', '\r']
  · simp only [List.mem_cons, List.not_mem_nil, or_false] at hc
    rcases hc with rfl | rfl | rfl | rfl | rfl | rfl | rfl
    all_goals exact Literal.read_letter (by decide) (by decide) cs
  · simp only [List.mem_cons, List.not_mem_nil, or_false, not_or] at hc
    obtain ⟨hq, hb, h₁, h₂, h₃, h₄, h₅⟩ := hc
    rw [escapeChar, if_neg hq, if_neg hb, if_neg h₁, if_neg h₂, if_neg h₃, if_neg h₄, if_neg h₅]
    by_cases h : c.toNat < 0x20
    · have hp : Piece.ofChar c = .unit c.toNat := if_pos ⟨h, by simp [h₁, h₂, h₃, h₄, h₅]⟩
      rw [if_pos h, hp]
      exact Literal.read_unit (unitValue?_control h) cs
    · have hp : Piece.ofChar c = .char c := if_neg fun hn => h hn.1
      rw [if_neg h, hp]
      exact Literal.read_plain hq hb h cs

/-- **The written form of a text is read as its literal.** -/
theorem Literal.read_escaped (s : List Char) (rest : List Char) :
    Literal.read (s.flatMap escapeChar ++ '"' :: rest)
      = ⟨⟨s.map Piece.ofChar, none⟩, some rest⟩ := by
  induction s with
  | nil => exact Literal.read_quote rest
  | cons c s ih =>
    rw [List.flatMap_cons, List.append_assoc, Literal.read_escapeChar, ih]
    rfl

/-- A character's piece spells the character. -/
theorem Piece.decode_ofChar (c : Char) (ps : List Piece) :
    Piece.decode none (.ofChar c :: ps) = (Piece.decode none ps).map (c :: ·) := by
  rw [Piece.ofChar]
  split
  · next h =>
    -- a control character is no half of a pair
    have ht : isTrailing c.toNat = false := by
      simp only [isTrailing, Bool.and_eq_false_iff, decide_eq_false_iff_not]
      omega
    have hl : isLeading c.toNat = false := by
      simp only [isLeading, Bool.and_eq_false_iff, decide_eq_false_iff_not]
      omega
    conv_lhs => unfold Piece.decode
    simp [ht, hl]
  · rw [Piece.decode]

/-- **A written text spells itself.** -/
theorem Literal.text_ofText (s : String) : (Literal.ofText s).text = .ok s := by
  have hd : ∀ cs : List Char, Piece.decode none (cs.map Piece.ofChar) = .ok cs := by
    intro cs
    induction cs with
    | nil => rfl
    | cons c cs ih =>
      rw [List.map_cons, Piece.decode_ofChar, ih]
      rfl
  rw [Literal.text, Literal.ofText, hd]
  exact congrArg Except.ok String.ofList_toList

/-! ## Numbers -/

/-- The numeral that a number's written form is read as. -/
def Numeral.ofNat (n : Nat) : Numeral where
  negative := false
  whole := (Nat.toDigits 10 n).map fun c => c.toNat - '0'.toNat
  fraction := none
  exponent := none

/-- What may stand behind a value: nothing, a comma or a closing mark. -/
def Ends (cs : List Char) : Prop := ∀ c ∈ cs.head?, c = ',' ∨ c = ']' ∨ c = '\x7d'

theorem Ends.not_isDigit {cs : List Char} (h : Ends cs) : ∀ c ∈ cs.head?, c.isDigit = false := by
  intro c hc
  rcases h c hc with rfl | rfl | rfl
  all_goals decide

theorem head?_toDigits_ne_zero {n : Nat} (h : 0 < n) : (Nat.toDigits 10 n).head? ≠ some '0' := by
  induction n using Nat.strongRecOn with
  | ind n ih =>
    by_cases hn : n < 10
    · rw [Nat.toDigits_of_lt_base hn]
      have hd : ∀ m : Fin 10, 0 < m.val → [m.val.digitChar].head? ≠ some '0' := by decide
      exact hd ⟨n, hn⟩ h
    · rw [Nat.toDigits_of_base_le (by omega) (by omega), List.head?_append_of_ne_nil _
        Nat.toDigits_ne_nil]
      exact ih (n / 10) (by omega) (by omega)

theorem spanDigits_append {ds rest : List Char} (hd : ∀ c ∈ ds, c.isDigit)
    (hr : ∀ c ∈ rest.head?, c.isDigit = false) :
    spanDigits (ds ++ rest) = (ds.map fun c => c.toNat - '0'.toNat, rest) := by
  have ht : rest.takeWhile Char.isDigit = [] ∧ rest.dropWhile Char.isDigit = rest := by
    cases rest with
    | nil => exact ⟨rfl, rfl⟩
    | cons c cs =>
      have hc := hr c rfl
      exact ⟨List.takeWhile_cons_of_neg (by simp [hc]), List.dropWhile_cons_of_neg (by simp [hc])⟩
  rw [spanDigits, List.takeWhile_append_of_pos hd, List.dropWhile_append_of_pos hd, ht.1, ht.2,
    List.append_nil]

/-- A number is written with digits, one at least. -/
theorem exists_toDigits_eq_cons (n : Nat) :
    ∃ c cs, Nat.toDigits 10 n = c :: cs ∧ c.isDigit := by
  obtain ⟨c, cs, hc⟩ := List.exists_cons_of_ne_nil (Nat.toDigits_ne_nil (n := n) (b := 10))
  have hm : c ∈ Nat.toDigits 10 n := hc ▸ List.mem_cons_self
  exact ⟨c, cs, hc, Nat.isDigit_of_mem_toDigits (by decide) (by decide) hm⟩

/-- The digits of a number are read as they are: the first is no zero, unless it is the only one. -/
theorem readWhole_toDigits (n : Nat) {rest : List Char} (hr : Ends rest) :
    readWhole (Nat.toDigits 10 n ++ rest) = .ok ((Numeral.ofNat n).whole, rest) := by
  have hd : ∀ c ∈ Nat.toDigits 10 n, c.isDigit := fun c hc =>
    Nat.isDigit_of_mem_toDigits (by decide) (by decide) hc
  rw [readWhole, spanDigits_append hd hr.not_isDigit]
  change _ = Except.ok ((Nat.toDigits 10 n).map (fun c => c.toNat - '0'.toNat), rest)
  rcases Nat.eq_zero_or_pos n with rfl | hn
  · rw [Nat.toDigits_zero]
    rfl
  · have hz := head?_toDigits_ne_zero hn
    cases h : Nat.toDigits 10 n with
    | nil => exact absurd h Nat.toDigits_ne_nil
    | cons c cs =>
      rw [h] at hz hd
      have hc : c.toNat - '0'.toNat ≠ 0 := by
        have hge := (Char.isDigit_iff_toNat.mp (hd c List.mem_cons_self)).1
        have hne : c.toNat ≠ '0'.toNat := fun e => hz (congrArg some (Char.toNat_inj.mp e))
        omega
      rw [List.map_cons]
      split
      · next heq => exact absurd (congrArg Prod.fst heq) (List.cons_ne_nil _ _)
      · next heq => exact absurd (List.cons.inj (congrArg Prod.fst heq)).1 hc
      · rfl

theorem Numeral.read_toDigits (n : Nat) {rest : List Char} (hr : Ends rest) :
    Numeral.read (Nat.toDigits 10 n ++ rest) = .ok (Numeral.ofNat n, rest) := by
  have hf : readFraction rest = .ok (none, rest) := by
    cases rest with
    | nil => rfl
    | cons c cs => rcases hr c rfl with rfl | rfl | rfl <;> rfl
  have he : readExponent rest = .ok (none, rest) := by
    cases rest with
    | nil => rfl
    | cons c cs => rcases hr c rfl with rfl | rfl | rfl <;> rfl
  have hw := readWhole_toDigits n hr
  have hm : ∀ cs, Nat.toDigits 10 n ++ rest ≠ '-' :: cs := by
    intro cs hcs
    obtain ⟨c, ds, hc, hd⟩ := exists_toDigits_eq_cons n
    rw [hc, List.cons_append] at hcs
    rw [(List.cons.inj hcs).1] at hd
    exact absurd hd (by decide)
  rw [Numeral.read, hw]
  · change (readFraction rest >>= _) = _
    rw [hf]
    change (readExponent rest >>= _) = _
    rw [he]
    rfl
  · exact hm

/-! ## Values -/

mutual

/-- The tree that a value's written form is read as. -/
def Value.node : Value → Node
  | .null => .null
  | .bool b => .bool b
  | .number n => .number (Numeral.ofNat n)
  | .string s => .string (Literal.ofText s)
  | .array items => .array (itemNodes items) none
  | .object members => .object (memberNodes members) none

/-- The trees that written items are read as. -/
def itemNodes : List Value → List Node
  | [] => []
  | v :: rest => v.node :: itemNodes rest

/-- The trees that written members are read as. -/
def memberNodes : List (String × Value) → List (Literal × Node)
  | [] => []
  | (k, v) :: rest => (Literal.ofText k, v.node) :: memberNodes rest

end

theorem skipSpace_cons {c : Char} (h : isSpace c = false) (cs : List Char) :
    skipSpace (c :: cs) = c :: cs := List.dropWhile_cons_of_neg (by simp [h])

theorem isSpace_of_isDigit {c : Char} (h : c.isDigit) : isSpace c = false := by
  by_contra hs
  simp only [isSpace, Bool.not_eq_false, Bool.or_eq_true, decide_eq_true_eq] at hs
  rcases hs with ((rfl | rfl) | rfl) | rfl
  all_goals exact absurd h (by decide)

/-- A written value begins with a character that is neither space nor a closing bracket. -/
theorem Value.exists_chars_eq_cons (v : Value) :
    ∃ c cs, v.chars = c :: cs ∧ isSpace c = false ∧ c ≠ ']' := by
  cases v with
  | null => exact ⟨'n', _, rfl, by decide, by decide⟩
  | bool b =>
    cases b with
    | true => exact ⟨'t', _, rfl, by decide, by decide⟩
    | false => exact ⟨'f', _, rfl, by decide, by decide⟩
  | number n =>
    obtain ⟨c, cs, hc, hd⟩ := exists_toDigits_eq_cons n
    refine ⟨c, cs, hc, isSpace_of_isDigit hd, ?_⟩
    rintro rfl
    exact absurd hd (by decide)
  | string s => exact ⟨'"', _, rfl, by decide, by decide⟩
  | array items => exact ⟨'[', _, rfl, by decide, by decide⟩
  | object members => exact ⟨'\x7b', _, rfl, by decide, by decide⟩

/-! ## Steps of the reader -/

theorem itemsChars_cons_cons (v w : Value) (vs : List Value) :
    itemsChars (v :: w :: vs) = v.chars ++ ',' :: itemsChars (w :: vs) := rfl

/-- …and so do written items. -/
theorem exists_itemsChars_eq_cons (v : Value) (vs : List Value) :
    ∃ c cs, itemsChars (v :: vs) = c :: cs ∧ isSpace c = false ∧ c ≠ ']' := by
  obtain ⟨c, cs, hc, h⟩ := v.exists_chars_eq_cons
  cases vs with
  | nil => exact ⟨c, cs, hc, h⟩
  | cons w vs =>
    refine ⟨c, cs ++ ',' :: itemsChars (w :: vs), ?_, h⟩
    rw [itemsChars_cons_cons, hc, List.cons_append]

theorem readValue_number {n : Nat} {c : Char} (hc : c.isDigit) (cs : List Char) :
    readValue (n + 1) (c :: cs) = readNumber (c :: cs) := by
  have hs := isSpace_of_isDigit hc
  have h : ∀ d : Char, d.isDigit = false → c ≠ d := fun d hd e => by simp [← e, hc] at hd
  simp [readValue, skipSpace_cons hs, h 'n' (by decide), h 't' (by decide), h 'f' (by decide), hc]

theorem readValue_string {n : Nat} (s : String) (rest : List Char) :
    readValue (n + 1) (quote s ++ rest) = ⟨.string (Literal.ofText s), some rest⟩ := by
  have hq : quote s ++ rest = '"' :: (s.toList.flatMap escapeChar ++ '"' :: rest) := by
    simp [quote]
  rw [hq]
  simp [readValue, skipSpace_cons (c := '"') (by decide), Literal.read_escaped, Literal.ofText]

theorem readValue_array {n : Nat} {d : Char} (hs : isSpace d = false) (hd : d ≠ ']')
    (ds : List Char) :
    readValue (n + 1) ('[' :: d :: ds) =
      ⟨.array (readItems n (d :: ds)).result.parts (readItems n (d :: ds)).result.fault,
        (readItems n (d :: ds)).rest⟩ := by
  simp [readValue, skipSpace_cons (c := '[') (by decide), skipSpace_cons hs, hd]

theorem readValue_object {n : Nat} (ds : List Char) :
    readValue (n + 1) ('\x7b' :: '"' :: ds) =
      ⟨.object (readMembers n ds).result.parts (readMembers n ds).result.fault,
        (readMembers n ds).rest⟩ := by
  simp [readValue, skipSpace_cons (c := '\x7b') (by decide),
    skipSpace_cons (c := '"') (by decide)]

theorem readItems_last {n : Nat} {cs rest : List Char} {v : Node}
    (h : readValue n cs = ⟨v, some (']' :: rest)⟩) :
    readItems (n + 1) cs = ⟨⟨[v], none⟩, some rest⟩ := by
  simp [readItems, h, skipSpace_cons (c := ']') (by decide), Scan.stop]

theorem readItems_next {n : Nat} {cs rest : List Char} {c : Char} {v : Node}
    (hs : isSpace c = false) (hc : c ≠ ']') (h : readValue n cs = ⟨v, some (',' :: c :: rest)⟩) :
    readItems (n + 1) cs = .cons v (readItems n (c :: rest)) := by
  simp [readItems, h, skipSpace_cons (c := ',') (by decide), skipSpace_cons hs, hc]

theorem readMembers_last {n : Nat} {k : String} {cs rest : List Char} {v : Node}
    (h : readValue n cs = ⟨v, some ('\x7d' :: rest)⟩) :
    readMembers (n + 1) (k.toList.flatMap escapeChar ++ '"' :: ':' :: cs)
      = ⟨⟨[(Literal.ofText k, v)], none⟩, some rest⟩ := by
  simp [readMembers, Literal.read_escaped, Literal.ofText, h, skipSpace_cons (c := ':') (by decide),
    skipSpace_cons (c := '\x7d') (by decide), Scan.stop]

theorem readMembers_next {n : Nat} {k : String} {cs rest : List Char} {v : Node}
    (h : readValue n cs = ⟨v, some (',' :: '"' :: rest)⟩) :
    readMembers (n + 1) (k.toList.flatMap escapeChar ++ '"' :: ':' :: cs)
      = .cons (Literal.ofText k, v) (readMembers n rest) := by
  simp [readMembers, Literal.read_escaped, Literal.ofText, h, skipSpace_cons (c := ':') (by decide),
    skipSpace_cons (c := ',') (by decide), skipSpace_cons (c := '"') (by decide)]

/-! ## The law -/

mutual

/-- **The written form of a value is read as its tree**, whatever stands behind it. -/
theorem readValue_chars : ∀ (v : Value) (n : Nat) (rest : List Char),
    2 * v.chars.length ≤ n → Ends rest → readValue n (v.chars ++ rest) = ⟨v.node, some rest⟩
  | v, 0, rest, hn, _ => by
      obtain ⟨c, cs, hc, -⟩ := v.exists_chars_eq_cons
      rw [hc, List.length_cons] at hn
      omega
  | .null, n + 1, rest, _, _ => by
      simp [Value.chars, Value.node, readValue, skipSpace_cons (c := 'n') (by decide), readWord]
  | .bool true, n + 1, rest, _, _ => by
      simp [Value.chars, Value.node, readValue, skipSpace_cons (c := 't') (by decide), readWord]
  | .bool false, n + 1, rest, _, _ => by
      simp [Value.chars, Value.node, readValue, skipSpace_cons (c := 'f') (by decide), readWord]
  | .number m, n + 1, rest, _, hr => by
      rw [Value.chars, Value.node]
      have hm := Numeral.read_toDigits m hr
      obtain ⟨c, cs, hc, hd⟩ := exists_toDigits_eq_cons m
      rw [hc, List.cons_append] at hm ⊢
      rw [readValue_number hd, readNumber, hm]
  | .string s, n + 1, rest, _, _ => readValue_string s rest
  | .array [], n + 1, rest, _, _ => by
      simp [Value.chars, itemsChars, Value.node, itemNodes, readValue,
        skipSpace_cons (c := '[') (by decide), skipSpace_cons (c := ']') (by decide)]
  | .array (v :: vs), n + 1, rest, hn, _ => by
      have hl : 2 * (itemsChars (v :: vs)).length < n := by
        simp only [Value.chars, List.length_append, List.length_cons] at hn
        omega
      have h := readItems_chars v vs n rest hl
      obtain ⟨c, cs, hc, hs, hne⟩ := exists_itemsChars_eq_cons v vs
      have ht : (Value.array (v :: vs)).chars ++ rest
          = '[' :: (itemsChars (v :: vs) ++ ']' :: rest) := by simp [Value.chars]
      rw [ht, Value.node]
      rw [hc, List.cons_append] at h ⊢
      rw [readValue_array hs hne, h]
  | .object [], n + 1, rest, _, _ => by
      simp [Value.chars, membersChars, Value.node, memberNodes, readValue,
        skipSpace_cons (c := '\x7b') (by decide), skipSpace_cons (c := '\x7d') (by decide)]
  | .object ((k, v) :: ms), n + 1, rest, hn, _ => by
      have hl : 2 * (membersChars ((k, v) :: ms)).length < n := by
        simp only [Value.chars, List.length_append, List.length_cons] at hn
        omega
      obtain ⟨cs, hc, h⟩ := readMembers_chars k v ms n rest hl
      have ht : (Value.object ((k, v) :: ms)).chars ++ rest
          = '\x7b' :: '"' :: (cs ++ '\x7d' :: rest) := by simp [Value.chars, hc]
      rw [ht, Value.node, readValue_object, h]

/-- Items are read up to the closing bracket. -/
theorem readItems_chars : ∀ (v : Value) (vs : List Value) (n : Nat) (rest : List Char),
    2 * (itemsChars (v :: vs)).length < n →
      readItems n (itemsChars (v :: vs) ++ ']' :: rest) = ⟨⟨itemNodes (v :: vs), none⟩, some rest⟩
  | v, vs, 0, rest, hn => absurd hn (Nat.not_lt_zero _)
  | v, [], n + 1, rest, hn => by
      have h := readValue_chars v n (']' :: rest) (by rw [itemsChars] at hn; omega) (by simp [Ends])
      rw [itemsChars, readItems_last h, itemNodes, itemNodes]
  | v, w :: vs, n + 1, rest, hn => by
      simp only [itemsChars, List.length_append, List.length_cons] at hn
      have h := readValue_chars v n (',' :: (itemsChars (w :: vs) ++ ']' :: rest)) (by omega)
        (by simp [Ends])
      have ht := readItems_chars w vs n rest (by omega)
      obtain ⟨c, cs, hc, hs, hne⟩ := exists_itemsChars_eq_cons w vs
      rw [hc, List.cons_append] at h ht
      rw [itemsChars_cons_cons, List.append_assoc, List.cons_append, hc, List.cons_append,
        readItems_next hs hne h, ht, itemNodes]
      rfl

/-- Members are read up to the closing brace. -/
theorem readMembers_chars : ∀ (k : String) (v : Value) (ms : List (String × Value)) (n : Nat)
    (rest : List Char), 2 * (membersChars ((k, v) :: ms)).length < n →
      ∃ cs, membersChars ((k, v) :: ms) = '"' :: cs ∧
        readMembers n (cs ++ '\x7d' :: rest) = ⟨⟨memberNodes ((k, v) :: ms), none⟩, some rest⟩
  | k, v, ms, 0, rest, hn => absurd hn (Nat.not_lt_zero _)
  | k, v, [], n + 1, rest, hn => by
      simp only [membersChars, List.length_append, List.length_cons] at hn
      have h := readValue_chars v n ('\x7d' :: rest) (by omega) (by simp [Ends])
      refine ⟨k.toList.flatMap escapeChar ++ '"' :: ':' :: v.chars, ?_, ?_⟩
      · simp [membersChars, quote]
      · rw [List.append_assoc, List.cons_append, List.cons_append, readMembers_last h]
        rfl
  | k, v, (k', v') :: ms, n + 1, rest, hn => by
      simp only [membersChars, List.length_append, List.length_cons] at hn
      obtain ⟨cs, hc, ht⟩ := readMembers_chars k' v' ms n rest (by omega)
      have h := readValue_chars v n (',' :: '"' :: (cs ++ '\x7d' :: rest)) (by omega)
        (by simp [Ends])
      refine ⟨k.toList.flatMap escapeChar ++ '"' :: ':' :: (v.chars ++ ',' :: '"' :: cs), ?_, ?_⟩
      · simp [membersChars, quote, ← hc]
      · rw [List.append_assoc, List.cons_append, List.cons_append, List.append_assoc,
          List.cons_append, List.cons_append, readMembers_next h, ht]
        rfl

end

/-- **A written value is read back whole, and nothing is left over.** -/
theorem Node.read_chars (v : Value) : Node.read v.chars = ⟨v.node, some []⟩ := by
  have h := readValue_chars v (2 * v.chars.length + 1) [] (by omega) (by simp [Ends])
  rwa [List.append_nil] at h

end EntitySchema.Json
