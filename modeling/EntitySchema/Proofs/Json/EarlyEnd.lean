import EntitySchema.Proofs.Json.Entries
import EntitySchema.Proofs.Json.Truncation

/-!
# Proofs/Json/EarlyEnd — readers notice where a text ended

A reader walks a tree in the order of the text.  So if it accepts a value, then of what is left of
that value in a text that ends too early it says so, and nothing else: it has met nothing wrong up to
there, and it asks for what is missing, or whether it fits, only behind that place (`NoticesEnd`).
For records that is a matter of their fields (`Shape.noticesEnd`), and for maps of their values
(`NoticesEnd.asMap`).

These readers refuse every number, so a number that was cut between two digits is none of theirs;
whoever passes over unknown members takes the one number as well as the other (`PassesOver`).
-/

namespace EntitySchema.Json

/-! ## Outcomes -/

/-- The text ended. -/
def Fault.ended (u : Unfinished) : Fault := .text (.truncated u)

section Outcomes

variable {ε α β : Type} {ended : Unfinished → ε} {x : Except ε α}

/-- The outcome is that the text ended, which is the fault `ended`. -/
def IsCutOff (ended : Unfinished → ε) (x : Except ε α) : Prop := ∃ u, x = .error (ended u)

theorem IsCutOff.bind (h : IsCutOff ended x) (f : α → Except ε β) : IsCutOff ended (x >>= f) := by
  obtain ⟨u, rfl⟩ := h
  exact ⟨u, rfl⟩

theorem IsCutOff.behind {f : α → Except ε β} {a : α} (hx : x = .ok a) (h : IsCutOff ended (f a)) :
    IsCutOff ended (x >>= f) := by
  rw [hx]
  exact h

theorem IsCutOff.map (h : IsCutOff ended x) (f : α → β) : IsCutOff ended (x.map f) := by
  obtain ⟨u, rfl⟩ := h
  exact ⟨u, rfl⟩

theorem IsCutOff.ofText {x : Except TextFault α} (h : IsCutOff .truncated x) :
    IsCutOff Fault.ended (Taken.ofText x) := by
  obtain ⟨u, rfl⟩ := h
  exact ⟨u, rfl⟩

/-- The end of the text is met in the parts of a list or an object, or right behind them. -/
def IsNoticed (ended : Unfinished → ε) (x : Except ε α) (fault : Option TextFault) : Prop :=
  IsCutOff ended x ∨ (∃ a, x = .ok a) ∧ ∃ u, fault = some (.truncated u)

theorem IsNoticed.behind {f : α → Except ε β} {a : α} {fault : Option TextFault} (hx : x = .ok a)
    (h : IsNoticed ended (f a) fault) : IsNoticed ended (x >>= f) fault := by
  rw [hx]
  exact h

theorem IsNoticed.pass {x : Except TextFault α} {fault : Option TextFault}
    (h : IsNoticed .truncated x fault) : IsCutOff .truncated (x >>= fun _ => pass fault) := by
  rcases h with h | ⟨⟨a, rfl⟩, u, rfl⟩
  · exact h.bind _
  · exact ⟨u, rfl⟩

theorem IsNoticed.takePass {x : Taken α} {fault : Option TextFault} {f : α → Taken β}
    (h : IsNoticed Fault.ended x fault) (hf : ∀ a u, fault = some (.truncated u) →
      IsCutOff Fault.ended (f a)) : IsCutOff Fault.ended (x >>= f) := by
  rcases h with h | ⟨⟨a, rfl⟩, u, hu⟩
  · exact h.bind _
  · exact hf a u hu

end Outcomes

/-! ## Strings -/

/-- A code unit in a text stands for a character, or is the first half of a pair. -/
theorem Piece.decode_unit_cases {stop : Option TextFault} {v : Nat} {ps : List Piece}
    {cs : List Char} (h : Piece.decode stop (.unit v :: ps) = .ok cs) :
    ¬ isTrailing v ∧ ((¬ isLeading v ∧ ∃ cs', Piece.decode stop ps = .ok cs') ∨
      isLeading v ∧ ∃ w ps' cs', ps = .unit w :: ps' ∧ isTrailing w ∧
        Piece.decode stop ps' = .ok cs') := by
  unfold Piece.decode at h
  by_cases ht : isTrailing v = true
  · rw [if_pos ht] at h
    contradiction
  refine ⟨ht, ?_⟩
  rw [if_neg ht] at h
  by_cases hl : isLeading v = true
  · rw [if_pos hl] at h
    split at h
    · next w ps' =>
      split at h
      · next hw =>
        obtain ⟨cs', h, -⟩ := map_eq_ok.mp h
        exact Or.inr ⟨hl, w, ps', cs', rfl, hw, h⟩
      · contradiction
    · contradiction
    · contradiction
  · rw [if_neg hl] at h
    obtain ⟨cs', h, -⟩ := map_eq_ok.mp h
    exact Or.inl ⟨hl, cs', h⟩

theorem Piece.decode_unit {stop : Option TextFault} {v : Nat} (ht : ¬ isTrailing v)
    (hl : ¬ isLeading v) (ps : List Piece) :
    Piece.decode stop (.unit v :: ps) = (Piece.decode stop ps).map (Char.ofNat v :: ·) := by
  rw [Piece.decode.eq_def]
  dsimp only
  rw [if_neg ht, if_neg hl]

theorem Piece.decode_pair {stop : Option TextFault} {v w : Nat} (ht : ¬ isTrailing v)
    (hl : isLeading v) (hw : isTrailing w) (ps : List Piece) :
    Piece.decode stop (.unit v :: .unit w :: ps)
      = (Piece.decode stop ps).map (pairChar v w :: ·) := by
  rw [Piece.decode.eq_def]
  dsimp only
  rw [if_neg ht, if_pos hl, if_pos hw]

/-- A first half at the end of a text that breaks off is not alone: the text goes on. -/
theorem Piece.decode_half {u : Unfinished} {v : Nat} (ht : ¬ isTrailing v) (hl : isLeading v) :
    Piece.decode (some (.truncated u)) [.unit v] = .error (.truncated u) := by
  rw [Piece.decode, if_neg ht, if_pos hl]
  rfl

/-- Some of the first pieces of a text spell no text: it goes on. -/
theorem Piece.decode_cut (u : Unfinished) : ∀ {ps ps' : List Piece} {cs : List Char},
    Piece.decode none ps = .ok cs → ps' <+: ps →
      IsCutOff .truncated (Piece.decode (some (.truncated u)) ps')
  | _, [], _, _, _ => ⟨u, rfl⟩
  | _, .char c :: ps', _, h, hp => by
      obtain ⟨more, rfl⟩ := hp
      obtain ⟨_, h, -⟩ := map_eq_ok.mp h
      exact (Piece.decode_cut u h (List.prefix_append ps' more)).map _
  | _, [.unit v], _, h, hp => by
      obtain ⟨more, rfl⟩ := hp
      obtain ⟨ht, hcase⟩ := Piece.decode_unit_cases h
      by_cases hl : isLeading v = true
      · exact ⟨u, Piece.decode_half ht hl⟩
      · rw [Piece.decode_unit ht hl]
        exact ⟨u, rfl⟩
  | _, .unit v :: p :: ps', _, h, hp => by
      obtain ⟨more, rfl⟩ := hp
      obtain ⟨ht, ⟨hl, cs', h⟩ | ⟨hl, w, ps, cs', hps, hw, h⟩⟩ := Piece.decode_unit_cases h
      · rw [Piece.decode_unit ht hl]
        exact (Piece.decode_cut u h (List.prefix_append (p :: ps') more)).map _
      · obtain ⟨rfl, rfl⟩ := List.cons.inj hps
        rw [Piece.decode_pair ht hl hw]
        exact (Piece.decode_cut u h (List.prefix_append ps' more)).map _

theorem Literal.Cut.text {l l' : Literal} {s : String} (hcut : l.Cut l') (hl : l.Says s) :
    IsCutOff .truncated l'.text := by
  obtain ⟨⟨u, hu⟩, hp⟩ := hcut
  have htext : (Piece.decode l.fault l.pieces).map String.ofList = .ok s := hl
  rw [hl.fault] at htext
  obtain ⟨cs, hdecode, -⟩ := map_eq_ok.mp htext
  rw [Literal.text, hu]
  exact (Piece.decode_cut u hdecode hp).map _

theorem Literal.Cut.skip {l l' : Literal} (hcut : l.Cut l') : IsCutOff .truncated l'.skip := by
  obtain ⟨⟨u, hu⟩, -⟩ := hcut
  exact ⟨u, by rw [Literal.skip, hu]⟩

/-- It is the end of the text still to whoever passes over the member. -/
theorem Literal.Cut.skipKey {l l' : Literal} (hcut : l.Cut l') :
    IsCutOff .truncated (l'.skip.mapError TextFault.skippedKey) := by
  obtain ⟨u, hu⟩ := hcut.skip
  rw [hu]
  cases u with
  | value => exact ⟨.object, rfl⟩
  | _ => exact ⟨_, rfl⟩

/-! ## Passing over values -/

/-- The end of the text is a fault like any other only inside a number. -/
theorem TextFault.skipped_of_truncated {u : Unfinished}
    (h : (TextFault.truncated u).isInsideToken = false) :
    (TextFault.truncated u).skipped = .truncated u := by
  cases u with
  | number => contradiction
  | _ => rfl

/-- The value of a plain number is an integer. -/
theorem Numeral.IsPlain.value {n : Numeral} (h : n.IsPlain) :
    n.value = .ok (.integer (digitsValue n.whole)) := by
  have hbound : digitsValue n.whole < significandBound := h.bound
  rw [Numeral.value, h.fraction, h.exponent, h.unsigned]
  exact if_pos hbound

theorem Node.Shortened.skip {v v' : Node} (h : v.Shortened v') (hv : v.skip = .ok ()) :
    v'.skip = .ok () := by
  cases h with
  | same => exact hv
  | number => rfl

theorem Node.Shortened.keep {v v' : Node} {room : Nat} (h : v.Shortened v')
    (hv : v.keep room = .ok ()) : v'.keep room = .ok () := by
  cases h with
  | same => exact hv
  | number n hn =>
    rw [Node.keep, hn.value]
    rfl

mutual

/-- **Passing over what is left of a value comes to the end of the text.** -/
theorem Node.Cut.skip : ∀ {v v' : Node}, v.Cut v' → v.skip = .ok () → IsCutOff .truncated v'.skip
  | _, _, .nothing v hu, _ => ⟨_, congrArg Except.error (TextFault.skipped_of_truncated hu)⟩
  | _, _, .null, _ => ⟨_, rfl⟩
  | _, _, .bool _, _ => ⟨_, rfl⟩
  | _, _, .string hl, _ => hl.skip
  | _, _, .array hitems, h => by
      obtain ⟨_, h, -⟩ := bind_eq_ok.mp h
      exact (ItemsCut.skip hitems h).pass
  | _, _, .object hms, h => by
      obtain ⟨_, h, -⟩ := bind_eq_ok.mp h
      exact (MembersCut.skip hms h).pass

theorem ItemsCut.skip : ∀ {items items' : List Node} {f : Option TextFault},
    ItemsCut items items' f → skipItems items = .ok () → IsNoticed .truncated (skipItems items') f
  | _, _, _, .ended _, _ => Or.inr ⟨⟨_, rfl⟩, _, rfl⟩
  | _, _, _, .inside _ hv, h => by
      obtain ⟨_, h, -⟩ := bind_eq_ok.mp h
      exact Or.inl ((Node.Cut.skip hv h).bind _)
  | _, _, _, .later hv hitems, h => by
      obtain ⟨_, hskip, h⟩ := bind_eq_ok.mp h
      exact .behind (hv.skip hskip) (ItemsCut.skip hitems h)

theorem MembersCut.skip : ∀ {ms ms' : List (Literal × Node)} {f : Option TextFault},
    MembersCut ms ms' f → skipMembers ms = .ok () → IsNoticed .truncated (skipMembers ms') f
  | _, _, _, .ended _, _ => Or.inr ⟨⟨_, rfl⟩, _, rfl⟩
  | _, _, _, .key _ _ _ hk, _ => Or.inl (hk.skipKey.bind _)
  | _, _, _, .inside k _ hv, h => by
      obtain ⟨_, hk, h⟩ := bind_eq_ok.mp h
      obtain ⟨_, h, -⟩ := bind_eq_ok.mp h
      exact .behind hk (Or.inl ((Node.Cut.skip hv h).bind _))
  | _, _, _, .later k hv hms, h => by
      obtain ⟨_, hk, h⟩ := bind_eq_ok.mp h
      obtain ⟨_, hskip, h⟩ := bind_eq_ok.mp h
      exact .behind hk (.behind (hv.skip hskip) (MembersCut.skip hms h))

end

mutual

/-- **Keeping what is left of a value comes to the end of the text.** -/
theorem Node.Cut.keep : ∀ {v v' : Node} {room : Nat}, v.Cut v' → v.keep room = .ok () →
    IsCutOff .truncated (v'.keep room)
  | _, _, _, .nothing _ _, _ => ⟨_, rfl⟩
  | _, _, _, .null, _ => ⟨_, rfl⟩
  | _, _, _, .bool _, _ => ⟨_, rfl⟩
  | _, _, _, .string hl, h => by
      obtain ⟨s, hs, -⟩ := map_eq_ok.mp h
      exact (hl.text hs).map _
  | _, _, 0, .array _, h => nomatch h
  | _, _, 0, .object _, h => nomatch h
  | _, _, _ + 1, .array hitems, h => by
      obtain ⟨_, h, -⟩ := bind_eq_ok.mp h
      exact (ItemsCut.keep hitems h).pass
  | _, _, _ + 1, .object hms, h => by
      obtain ⟨_, h, -⟩ := bind_eq_ok.mp h
      exact (MembersCut.keep hms h).pass

theorem ItemsCut.keep : ∀ {items items' : List Node} {f : Option TextFault} {room : Nat},
    ItemsCut items items' f → keepItems room items = .ok () →
      IsNoticed .truncated (keepItems room items') f
  | _, _, _, _, .ended _, _ => Or.inr ⟨⟨_, rfl⟩, _, rfl⟩
  | _, _, _, _, .inside _ hv, h => by
      obtain ⟨_, h, -⟩ := bind_eq_ok.mp h
      exact Or.inl ((Node.Cut.keep hv h).bind _)
  | _, _, _, _, .later hv hitems, h => by
      obtain ⟨_, hkeep, h⟩ := bind_eq_ok.mp h
      exact .behind (hv.keep hkeep) (ItemsCut.keep hitems h)

theorem MembersCut.keep : ∀ {ms ms' : List (Literal × Node)} {f : Option TextFault} {room : Nat},
    MembersCut ms ms' f → keepMembers room ms = .ok () →
      IsNoticed .truncated (keepMembers room ms') f
  | _, _, _, _, .ended _, _ => Or.inr ⟨⟨_, rfl⟩, _, rfl⟩
  | _, _, _, _, .key _ _ _ hk, h => by
      obtain ⟨s, hs, -⟩ := bind_eq_ok.mp h
      exact Or.inl ((hk.text hs).bind _)
  | _, _, _, _, .inside k _ hv, h => by
      obtain ⟨_, hk, h⟩ := bind_eq_ok.mp h
      obtain ⟨_, h, -⟩ := bind_eq_ok.mp h
      exact .behind hk (Or.inl ((Node.Cut.keep hv h).bind _))
  | _, _, _, _, .later k hv hms, h => by
      obtain ⟨_, hk, h⟩ := bind_eq_ok.mp h
      obtain ⟨_, hkeep, h⟩ := bind_eq_ok.mp h
      exact .behind hk (.behind (hv.keep hkeep) (MembersCut.keep hms h))

end

/-! ## Taking values -/

section Taking

variable {α σ : Type} {take : Node → Taken α}

/-- The reader refuses numbers, and says of what is left of a value that the text ended. -/
structure NoticesEnd (take : Node → Taken α) : Prop where
  number : ∀ n a, take (.number n) ≠ .ok a
  cut : ∀ {v v' : Node} {a : α}, take v = .ok a → v.Cut v' → IsCutOff Fault.ended (take v')

/-- The reader passes over numbers, and says of what is left of a value that the text ended. -/
structure PassesOver (other : Node → Taken Unit) : Prop where
  number : ∀ {n : Numeral}, n.IsPlain → other (.number n) = .ok ()
  cut : ∀ {v v' : Node}, other v = .ok () → v.Cut v' → IsCutOff Fault.ended (other v')

theorem ofText_eq_ok {β : Type} {x : Except TextFault β} {b : β} (h : Taken.ofText x = .ok b) :
    x = .ok b := by
  cases x with
  | error f => exact nomatch h
  | ok c => exact congrArg Except.ok (Except.ok.inj h)

theorem passesOver_skip : PassesOver fun n => .ofText n.skip where
  number _ := rfl
  cut h hcut := (hcut.skip (ofText_eq_ok h)).ofText

theorem passesOver_keep (room : Nat) : PassesOver fun n => .ofText (n.keep room) where
  number hn := by
    rw [Node.keep, hn.value]
    rfl
  cut h hcut := (hcut.keep (ofText_eq_ok h)).ofText

/-- A value that was taken is not the rest of a number. -/
theorem NoticesEnd.eq_of_shortened (h : NoticesEnd take) {v v' : Node} {a : α}
    (hv : take v = .ok a) (hshort : v.Shortened v') : v' = v := by
  cases hshort with
  | same => rfl
  | number n => exact absurd hv (h.number n a)

theorem PassesOver.of_shortened {other : Node → Taken Unit} (h : PassesOver other) {v v' : Node}
    (hv : other v = .ok ()) (hshort : v.Shortened v') : other v' = .ok () := by
  cases hshort with
  | same => exact hv
  | number n hn => exact h.number hn

theorem NoticesEnd.map {β : Type} (h : NoticesEnd take) (f : α → β) :
    NoticesEnd fun n => (take n).map f where
  number n b hb := by
    obtain ⟨a, ha, -⟩ := map_eq_ok.mp hb
    exact h.number n a ha
  cut hb hcut := by
    obtain ⟨a, ha, -⟩ := map_eq_ok.mp hb
    exact (h.cut ha hcut).map f

theorem noticesEnd_asString : NoticesEnd Node.asString where
  number n a := Node.refuse_ne_ok
  cut h hcut := by
    cases hcut with
    | nothing => exact ⟨_, rfl⟩
    | string hl => exact (hl.text (ofText_eq_ok h)).ofText
    | _ => exact nomatch h

theorem noticesEnd_asBool : NoticesEnd Node.asBool where
  number n a := Node.refuse_ne_ok
  cut h hcut := by
    cases hcut with
    | nothing => exact ⟨_, rfl⟩
    | bool => exact ⟨_, rfl⟩
    | string => exact absurd h Node.refuse_ne_ok
    | _ => exact nomatch h

/-- A value that may be missing is as it is, or `null`, of which less is left than of a value. -/
theorem NoticesEnd.asOption (h : NoticesEnd take)
    (hfault : ∀ u, IsCutOff Fault.ended (take (.fault (.truncated u)))) :
    NoticesEnd (Node.asOption take) where
  number n a ha := (h.map some).number n a ha
  cut ha hcut := by
    cases hcut with
    | nothing => exact (hfault _).map _
    | null => exact (hfault _).map _
    | bool => exact (hfault _).map _
    | string hl => exact (h.map some).cut ha (.string hl)
    | array hitems => exact (h.map some).cut ha (.array hitems)
    | object hms => exact (h.map some).cut ha (.object hms)

/-- What is left of members is taken up to the end of the text. -/
theorem NoticesEnd.takeMembers (h : NoticesEnd take) {ms ms' : List (Literal × Node)}
    {f : Option TextFault} {m r : OrderedMap α} (hcut : MembersCut ms ms' f)
    (hms : Node.takeMembers take m ms = .ok r) :
    IsNoticed Fault.ended (Node.takeMembers take m ms') f := by
  induction ms generalizing ms' m with
  | nil =>
    cases hcut with
    | ended => exact Or.inr ⟨⟨_, rfl⟩, _, rfl⟩
  | cons member ms ih =>
    cases hcut with
    | ended => exact Or.inr ⟨⟨_, rfl⟩, _, rfl⟩
    | @key k k' v v' _ hk =>
      obtain ⟨s, hs, -⟩ := bind_eq_ok.mp hms
      exact Or.inl ((hk.text (ofText_eq_ok hs)).ofText.bind _)
    | inside k _ hv =>
      obtain ⟨s, hs, hms⟩ := bind_eq_ok.mp hms
      obtain ⟨a, ha, -⟩ := bind_eq_ok.mp hms
      exact .behind hs (Or.inl ((h.cut ha hv).bind _))
    | later k hv hcut =>
      obtain ⟨s, hs, hms⟩ := bind_eq_ok.mp hms
      obtain ⟨a, ha, hms⟩ := bind_eq_ok.mp hms
      rw [h.eq_of_shortened ha hv]
      exact .behind hs (.behind ha (ih hcut hms))

/-- **A map is read up to the end of the text.** -/
theorem NoticesEnd.asMap (h : NoticesEnd take) : NoticesEnd (Node.asMap take) where
  number n a := Node.refuse_ne_ok
  cut ha hcut := by
    cases hcut with
    | nothing => exact ⟨_, rfl⟩
    | object hms =>
      obtain ⟨r, hr, -⟩ := bind_eq_ok.mp ha
      refine (h.takeMembers hms hr).takePass fun m u hu => ?_
      rw [hu]
      exact ⟨u, rfl⟩
    | string => exact absurd ha Node.refuse_ne_ok
    | _ => exact nomatch ha

/-! ## Records -/

variable {fields : List (FieldReader σ)} {other : Node → Taken Unit} {seen : List String} {s : σ}

theorem noticesEnd_optional (h : NoticesEnd take) (key : String) (set : α → σ → σ) :
    NoticesEnd (optional key take set).take := h.map set

theorem noticesEnd_required (h : NoticesEnd take) (key : String) (set : α → σ → σ) :
    NoticesEnd (required key take set).take := h.map set

/-- What is left of the members of a record is taken up to the end of the text. -/
theorem takeMembers_cut (hf : ∀ f ∈ fields, NoticesEnd f.take) (ho : PassesOver other)
    {ms ms' : List (Literal × Node)} {fault : Option TextFault} {r : List String × σ}
    (hcut : MembersCut ms ms' fault) (hms : Shape.takeMembers fields other seen s ms = .ok r) :
    IsNoticed Fault.ended (Shape.takeMembers fields other seen s ms') fault := by
  induction ms generalizing ms' seen s with
  | nil =>
    cases hcut with
    | ended => exact Or.inr ⟨⟨_, rfl⟩, _, rfl⟩
  | cons member ms ih =>
    cases hcut with
    | ended => exact Or.inr ⟨⟨_, rfl⟩, _, rfl⟩
    | @key k k' v v' _ hk =>
      obtain ⟨key, hkey, -⟩ := takeMembers_cons_eq_ok_iff.mp hms
      exact Or.inl ((hk.text hkey).ofText.bind _)
    | @inside k v v' _ hv =>
      obtain ⟨key, hkey, ⟨hfind, hother, -⟩ | ⟨f, set, hfind, hseen, hset, -⟩⟩ :=
        takeMembers_cons_eq_ok_iff.mp hms
      · refine .behind (ofText_text_eq_ok_iff.mpr hkey) (Or.inl ?_)
        rw [hfind]
        exact (ho.cut hother hv).bind _
      · refine .behind (ofText_text_eq_ok_iff.mpr hkey) (Or.inl ?_)
        rw [hfind]
        dsimp only
        rw [if_neg (mt List.contains_iff_mem.mp hseen)]
        exact ((hf f (List.mem_of_find?_eq_some hfind)).cut hset hv).bind _
    | @later k v v' _ _ _ hv hcut =>
      obtain ⟨key, hkey, ⟨hfind, hother, hms⟩ | ⟨f, set, hfind, hseen, hset, hms⟩⟩ :=
        takeMembers_cons_eq_ok_iff.mp hms
      · refine .behind (ofText_text_eq_ok_iff.mpr hkey) ?_
        rw [hfind]
        exact .behind (ho.of_shortened hother hv) (ih hcut hms)
      · refine .behind (ofText_text_eq_ok_iff.mpr hkey) ?_
        rw [(hf f (List.mem_of_find?_eq_some hfind)).eq_of_shortened hset hv, hfind]
        dsimp only
        rw [if_neg (mt List.contains_iff_mem.mp hseen)]
        exact .behind hset (ih hcut hms)

variable {shape : Shape σ}

/-- What is left of the items of a record is taken up to the end of the text. -/
theorem takeItems_cut {items items' : List Node} {fault : Option TextFault} {index : Nat} {s' : σ}
    (hf : ∀ f ∈ fields, NoticesEnd f.take) (hcut : ItemsCut items items' fault)
    (h : shape.takeItems none index s fields items = .ok s') :
    IsCutOff Fault.ended (shape.takeItems fault index s fields items') := by
  have hended : ∀ {fields : List (FieldReader σ)} {index : Nat} {s : σ}, IsCutOff Fault.ended
      (shape.takeItems (some (.truncated .list)) index s fields []) := by
    intro fields index s
    cases fields with
    | nil => exact ⟨_, rfl⟩
    | cons f fields => exact ⟨_, rfl⟩
  induction items generalizing fields items' index s with
  | nil =>
    cases hcut with
    | ended => exact hended
  | cons v items ih =>
    cases fields with
    | nil => exact absurd (Shape.takeItems_nil_eq_ok h).1 (List.cons_ne_nil _ _)
    | cons f fields =>
      obtain ⟨set, hset, h⟩ := bind_eq_ok.mp h
      obtain ⟨hfirst, hf⟩ := List.forall_mem_cons.mp hf
      cases hcut with
      | ended => exact hended
      | inside _ hv => exact (hfirst.cut hset hv).bind _
      | @later _ _ _ items'' _ hv hcut =>
        have hrest := ih hf hcut h
        rw [hfirst.eq_of_shortened hset hv, Shape.takeItems, hset]
        exact hrest

/-- **A record is read up to the end of the text**, from either spelling. -/
theorem Shape.noticesEnd (hf : ∀ f ∈ shape.fields, NoticesEnd f.take) :
    NoticesEnd shape.take where
  number n a := Node.refuse_ne_ok
  cut h hcut := by
    cases hcut with
    | nothing => exact ⟨_, rfl⟩
    | array hitems => exact takeItems_cut hf hitems h
    | object hms =>
      obtain ⟨r, hr, -⟩ := bind_eq_ok.mp h
      refine (takeMembers_cut hf passesOver_skip hms hr).takePass fun r u hu => ?_
      rw [hu]
      exact ⟨u, rfl⟩
    | string => exact absurd h Node.refuse_ne_ok
    | _ => exact nomatch h

end Taking

end EntitySchema.Json
