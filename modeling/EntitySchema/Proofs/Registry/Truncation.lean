import EntitySchema.Proofs.Json.EarlyEnd
import EntitySchema.Proofs.Registry.Respelling

/-!
# Proofs/Registry/Truncation — a registry text that is cut off is told by that

The text of a registry that ends in front of its last token is not read, whatever was read up to
there, and the fault is that it ended (`Registry.read_truncated`).  Neither a required field that is
still to come nor a flag of the wrong type in an entity whose end was not reached is reported
instead.

Numbers can stand under unknown keys only, where they are passed over or kept.  They have to be
plain for the law to hold: cut behind its sign or its point a number is no number, which whoever
passes over it reports as a fault of its own (`Registry.not_read_truncated_of_sign`).
-/

namespace EntitySchema

open Json

/-! ## Readers of a registry -/

theorem Forms.noticesEnd : NoticesEnd Forms.shape.take := by
  refine Shape.noticesEnd ?_
  simp only [Forms.shape, List.forall_mem_cons]
  exact ⟨noticesEnd_optional noticesEnd_asString .., noticesEnd_optional noticesEnd_asString ..,
    List.forall_mem_nil _⟩

/-- A text that may be missing. -/
theorem noticesEnd_asOption_asString : NoticesEnd (Node.asOption Node.asString) :=
  noticesEnd_asString.asOption fun u => ⟨u, rfl⟩

theorem Timestamps.noticesEnd : NoticesEnd Timestamps.shape.take := by
  refine Shape.noticesEnd ?_
  simp only [Timestamps.shape, List.forall_mem_cons]
  exact ⟨noticesEnd_optional noticesEnd_asOption_asString ..,
    noticesEnd_optional noticesEnd_asOption_asString .., List.forall_mem_nil _⟩

theorem Attribute.noticesEnd : NoticesEnd Attribute.shape.take := by
  refine Shape.noticesEnd ?_
  simp only [Attribute.shape, List.forall_mem_cons]
  exact ⟨noticesEnd_required noticesEnd_asString .., noticesEnd_optional noticesEnd_asBool ..,
    noticesEnd_optional noticesEnd_asBool .., noticesEnd_optional noticesEnd_asBool ..,
    noticesEnd_optional noticesEnd_asOption_asString .., noticesEnd_optional noticesEnd_asBool ..,
    noticesEnd_optional noticesEnd_asBool .., noticesEnd_optional noticesEnd_asBool ..,
    List.forall_mem_nil _⟩

namespace Multiplicity

theorem noticesEnd_takeUnit : NoticesEnd takeUnit where
  number n a := Node.refuse_ne_ok
  cut h hcut := by
    cases hcut with
    | nothing => exact ⟨_, rfl⟩
    | null => exact ⟨_, rfl⟩
    | string => exact absurd h Node.refuse_ne_ok
    | _ => exact nomatch h

theorem eq_nil_of_checkClosed {rest : List (Literal × Node)} {u : Unit}
    (h : checkClosed rest none = .ok u) : rest = [] := by
  cases rest with
  | nil => rfl
  | cons m rest => exact nomatch h

theorem take_nothing {u : Unfinished} (h : (TextFault.truncated u).isInsideToken = false) :
    take (.fault (.truncated u)) = .error (.text (.truncated u)) := by
  rw [take, h]
  rfl

/-- What is left of an object with the word over `null`. -/
theorem take_object_cut {ms ms' : List (Literal × Node)} {f : Option TextFault} {m : Multiplicity}
    (h : take (.object ms none) = .ok m) (hcut : MembersCut ms ms' f) :
    IsCutOff Fault.ended (take (.object ms' f)) := by
  cases hcut with
  | ended => exact ⟨.value, rfl⟩
  | key v v' rest hk =>
    obtain ⟨s, hs, -⟩ := bind_eq_ok.mp h
    exact (hk.text (ofText_eq_ok hs)).ofText.bind _
  | inside k rest hv =>
    obtain ⟨s, hs, h⟩ := bind_eq_ok.mp h
    obtain ⟨m', hm, h⟩ := bind_eq_ok.mp h
    obtain ⟨_, hunit, -⟩ := bind_eq_ok.mp h
    exact .behind hs (.behind hm ((noticesEnd_takeUnit.cut hunit hv).bind _))
  | later k hv hrest =>
    obtain ⟨s, hs, h⟩ := bind_eq_ok.mp h
    obtain ⟨m', hm, h⟩ := bind_eq_ok.mp h
    obtain ⟨_, hunit, h⟩ := bind_eq_ok.mp h
    obtain ⟨_, hclosed, -⟩ := bind_eq_ok.mp h
    -- it was the only member, so the text ends in front of the closing brace
    obtain rfl := eq_nil_of_checkClosed hclosed
    cases hrest with
    | ended =>
      rw [noticesEnd_takeUnit.eq_of_shortened hunit hv]
      exact .behind hs (.behind hm (.behind hunit ⟨_, rfl⟩))

end Multiplicity

/-- A multiplicity is a word, or an object with the word over `null`; the object may break off
anywhere. -/
theorem Multiplicity.noticesEnd : NoticesEnd Multiplicity.take where
  number n a := nofun
  cut h hcut := by
    cases hcut with
    | nothing v hu => exact ⟨_, take_nothing hu⟩
    | string hl =>
      obtain ⟨s, hs, -⟩ := bind_eq_ok.mp h
      exact (hl.text (ofText_eq_ok hs)).ofText.bind _
    | object hms => exact take_object_cut h hms
    | _ => exact nomatch h

theorem Association.noticesEnd : NoticesEnd Association.shape.take := by
  refine Shape.noticesEnd ?_
  simp only [Association.shape, List.forall_mem_cons]
  exact ⟨noticesEnd_optional noticesEnd_asString .., noticesEnd_required noticesEnd_asString ..,
    noticesEnd_optional noticesEnd_asOption_asString ..,
    noticesEnd_required Multiplicity.noticesEnd .., List.forall_mem_nil _⟩

theorem Entity.noticesEnd_fieldReaders : ∀ f ∈ Entity.fieldReaders, NoticesEnd f.take := by
  simp only [Entity.fieldReaders, List.forall_mem_cons]
  exact ⟨noticesEnd_optional noticesEnd_asString .., noticesEnd_optional Forms.noticesEnd ..,
    noticesEnd_optional Attribute.noticesEnd.asMap ..,
    noticesEnd_optional Association.noticesEnd.asMap ..,
    noticesEnd_optional (Timestamps.noticesEnd.asOption fun u => ⟨u, rfl⟩) ..,
    List.forall_mem_nil _⟩

/-- The flags of an entity are looked at behind its closing brace, so the end of the text is met
first. -/
theorem Entity.noticesEnd : NoticesEnd Entity.take where
  number n a := Node.refuse_ne_ok
  cut h hcut := by
    cases hcut with
    | nothing => exact ⟨_, rfl⟩
    | object hms =>
      obtain ⟨r, hr, -⟩ := bind_eq_ok.mp h
      refine (takeMembers_cut Entity.noticesEnd_fieldReaders (passesOver_keep _) hms hr).takePass
        fun r u hu => ?_
      rw [hu]
      exact ⟨u, rfl⟩
    | string => exact absurd h Node.refuse_ne_ok
    | _ => exact nomatch h

namespace Registry

theorem noticesEnd : NoticesEnd shape.take :=
  Shape.noticesEnd (List.forall_mem_cons.mpr
    ⟨noticesEnd_optional Entity.noticesEnd.asMap .., List.forall_mem_nil _⟩)

/-- **A registry text that is cut off is told by that.**  Of a text that is read, and whose numbers
are unsigned integers below `2 ^ 64`, no beginning is read that ends in front of the last character
that is not white space; and the fault of it is that the text ended. -/
theorem read_truncated {text front rest : String} {r : Registry} (h : read text = .ok r)
    (hplain : PlainNumbers text) (htext : text = front ++ rest)
    (hrest : ∃ c ∈ rest.toList, isSpace c = false) :
    ∃ u, read front = .error (.text (.truncated u)) := by
  obtain ⟨v, hv, models, htake, -⟩ := read_eq_ok_iff.mp h
  have hblank : ¬ Blank rest.toList := fun hblank => by
    obtain ⟨c, hc, hspace⟩ := hrest
    exact Bool.false_ne_true (hspace.symm.trans (hblank c hc))
  rcases hv.read_cut hplain htext hblank with ⟨v', hread, hcut⟩ | ⟨n, rfl⟩
  · rw [read, hread]
    exact (noticesEnd.cut htake hcut).bind _
  · exact absurd htake (noticesEnd.number n models)

/-- The text of the respelled bee up to the first digit of its number. -/
def beeFront : String :=
  "\x7b\"models\":\x7b\"bee\":\x7b\"name\":\"wasp\",\"naming\":[\"\",\"hive\"],\"stripes\":[4"

/-- What is left of the number is a number too; the end of the text is noticed all the same. -/
theorem read_truncated_bee :
    (∃ r, read beeRespelled.text = .ok r) ∧ PlainNumbers beeRespelled.text ∧
      beeRespelled.text = beeFront ++ "2]\x7d\x7d\x7d" ∧
      (∃ c ∈ "2]\x7d\x7d\x7d".toList, isSpace c = false) ∧
      ∃ u, read beeFront = .error (.text (.truncated u)) := by
  have hok : (read beeRespelled.text).isOk = true := by decide +kernel
  obtain ⟨r, hr⟩ := exists_eq_ok_of_isOk hok
  have hplain : PlainNumbers beeRespelled.text :=
    beeRespelled.node_spells.plainNumbers
      ⟨⟨⟨trivial, ⟨trivial, trivial, trivial⟩, ⟨⟨rfl, rfl, rfl, by decide⟩, trivial⟩, trivial⟩,
        trivial⟩, trivial⟩
  have htext : beeRespelled.text = beeFront ++ "2]\x7d\x7d\x7d" := by decide +kernel
  have hrest : ∃ c ∈ "2]\x7d\x7d\x7d".toList, isSpace c = false := ⟨']', by decide, by decide⟩
  exact ⟨⟨r, hr⟩, hplain, htext, hrest, read_truncated hr hplain htext hrest⟩

/-- **A number that is not plain can be cut to something that is no number**: behind the sign the
fault is another. -/
theorem not_read_truncated_of_sign :
    ¬ ∀ (text front rest : String) (r : Registry), read text = .ok r → text = front ++ rest →
      (∃ c ∈ rest.toList, isSpace c = false) → ∃ u, read front = .error (.text (.truncated u)) := by
  intro h
  have hok : (read "\x7b\"x\":-1\x7d").isOk = true := by decide +kernel
  have hfront : read "\x7b\"x\":-" = .error (.text (.malformed .invalidNumber)) := by cbv
  obtain ⟨r, hr⟩ := exists_eq_ok_of_isOk hok
  obtain ⟨u, hu⟩ := h _ "\x7b\"x\":-" "1\x7d" r hr (by decide) ⟨'1', by decide, by decide⟩
  rw [hfront] at hu
  cases hu

end Registry

end EntitySchema
