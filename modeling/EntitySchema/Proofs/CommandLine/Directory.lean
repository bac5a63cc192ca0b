import EntitySchema.CommandLine.Directory
import Mathlib.Data.List.Basic

/-!
# Proofs/CommandLine/Directory — a file that was written stands where its path leads

Writing puts a content under one key and leaves every other key as it is; which key, is found by
walking along the path.  What the walk came upon is still there afterwards: folders stay folders,
and the new file makes none of its own path, since its key splits into the names that it was made of
(`Path.parts_key`).  So the path leads to the new file then (`Directory.place_insert`).
-/

namespace EntitySchema

/-! ## Keys and their parts -/

theorem notMem_of_mem_splitOn {a : Char} : ∀ {cs l : List Char}, l ∈ cs.splitOn a → a ∉ l
  | [], l, h => by
      rw [List.splitOn_nil, List.mem_singleton] at h
      exact h ▸ List.not_mem_nil
  | c :: cs, l, h => by
      have ih : ∀ l ∈ cs.splitOn a, a ∉ l := fun l hl => notMem_of_mem_splitOn hl
      rw [List.splitOn_cons_eq_if_modifyHead] at h
      split at h
      · rcases List.mem_cons.mp h with rfl | h
        · exact List.not_mem_nil
        · exact ih l h
      · next hc =>
        obtain ⟨first, rest, hs⟩ := List.exists_cons_of_ne_nil (List.splitOn_ne_nil a cs)
        rw [hs] at ih h
        rcases List.mem_cons.mp h with rfl | h
        · have ha : a ≠ c := fun e => hc (beq_iff_eq.mpr e.symm)
          exact List.not_mem_cons_of_ne_of_not_mem ha (ih first List.mem_cons_self)
        · exact ih l (List.mem_cons_of_mem _ h)

theorem Path.isName_of_mem_parts {path part : String} (h : part ∈ Path.parts path) :
    Path.IsName part := by
  obtain ⟨l, hl, rfl⟩ := List.mem_map.mp h
  rw [Path.IsName, String.toList_ofList]
  exact notMem_of_mem_splitOn hl

/-- **A key splits into the names that it was made of.** -/
theorem Path.parts_key {names : List String} (hne : names ≠ []) (h : ∀ n ∈ names, Path.IsName n) :
    Path.parts (Directory.key names) = names := by
  have hslash : "/".toList = ['/'] := by decide
  rw [Path.parts, Directory.key, String.toList_intercalate, hslash, List.splitOn_intercalate,
    List.map_map]
  · exact (List.map_congr_left fun n _ => String.ofList_toList).trans (List.map_id _)
  · intro l hl
    obtain ⟨n, hn, rfl⟩ := List.mem_map.mp hl
    exact h n hn
  · exact fun he => hne (List.map_eq_nil_iff.mp he)

namespace Directory

variable {d : Directory} {key : String} {content : ByteArray}

/-! ## What is there after writing -/

/-- The parts name a folder for the sake of a key. -/
def Holds (names : List String) (k : String) : Prop :=
  names.isPrefixOf (Path.parts k) = true ∧ names.length < (Path.parts k).length

theorem hasFolder_iff {names : List String} : d.hasFolder names = true ↔
    (names.isPrefixOf d.home = true ∨ d.folders.any (names.isPrefixOf ·) = true) ∨
      ∃ k ∈ d.files.keys, Holds names k := by
  simp only [hasFolder, Bool.or_eq_true, List.any_eq_true (l := d.files.keys), Bool.and_eq_true,
    decide_eq_true_eq, Holds]

theorem mem_keys_insert {k : String} :
    k ∈ (d.insert key content).files.keys ↔ k ∈ d.files.keys ∨ k = key := by
  rw [insert, OrderedMap.keys_insert]
  split
  · next h => exact ⟨Or.inl, fun hk => hk.elim id fun e => e ▸ h⟩
  · rw [List.mem_append, List.mem_singleton]

/-- Folders stay folders. -/
theorem hasFolder_insert {names : List String} (h : d.hasFolder names = true) :
    (d.insert key content).hasFolder names = true := by
  refine hasFolder_iff.mpr ((hasFolder_iff.mp h).imp_right fun ⟨k, hk, hp⟩ => ?_)
  exact ⟨k, mem_keys_insert.mpr (Or.inl hk), hp⟩

/-- The new file is no folder. -/
theorem hasFolder_insert_key {names : List String} (hne : names ≠ [])
    (hn : ∀ n ∈ names, Path.IsName n) (h : d.hasFolder names = false) :
    (d.insert (Directory.key names) content).hasFolder names = false := by
  refine Bool.eq_false_iff.mpr fun hi => Bool.eq_false_iff.mp h ?_
  rcases hasFolder_iff.mp hi with hlisted | ⟨k, hk, hp⟩
  · exact hasFolder_iff.mpr (Or.inl hlisted)
  · rcases mem_keys_insert.mp hk with hk | rfl
    · exact hasFolder_iff.mpr (Or.inr ⟨k, hk, hp⟩)
    · rw [Holds, Path.parts_key hne hn] at hp
      exact absurd hp.2 (Nat.lt_irrefl _)

theorem get?_insert_key : (d.insert key content).files.get? key = some content := by
  rw [insert, OrderedMap.get?_insert, if_pos rfl]

/-! ## Walking again -/

/-- Does a place have the key: of the file that is there, or of the one that could be written? -/
def Place.HasKey (key : String) : Place → Prop
  | .file k _ => k = key
  | .vacant k => k = key
  | _ => False

/-- Where a walk ends, it has the key of all names on its way. -/
theorem hasKey_end {here names : List String} {n : String}
    (h : Place.HasKey key (match d.files.get? (Directory.key (here ++ [n])) with
      | some content =>
        if names.isEmpty then .file (Directory.key (here ++ [n])) content else .throughFile
      | none => if names.isEmpty then .vacant (Directory.key (here ++ [n])) else .nowhere)) :
    names = [] ∧ Directory.key (here ++ [n]) = key := by
  cases names with
  | nil =>
    refine ⟨rfl, ?_⟩
    split at h
    · exact h
    · exact h
  | cons m names =>
    split at h
    · exact absurd h id
    · exact absurd h id

/-- **A walk to a key leads to the file written there.** -/
theorem walk_insert : ∀ {here names : List String}, (∀ n ∈ here ++ names, Path.IsName n) →
    (d.walk here names).HasKey key → (d.insert key content).walk here names = .file key content
  | _, [], _, h => absurd h id
  | here, n :: names, hn, h => by
      have hsub : ∀ {ns : List String}, ns ⊆ here ++ n :: names → ∀ m ∈ ns, Path.IsName m :=
        fun hs m hm => hn m (hs hm)
      rw [walk] at h ⊢
      by_cases hdot : isDot n = true
      · rw [if_pos hdot] at h ⊢
        exact walk_insert (hsub (by simp)) h
      rw [if_neg hdot] at h ⊢
      by_cases hup : n = ".."
      · rw [if_pos hup] at h ⊢
        refine walk_insert (hsub ?_) h
        have hhere : here.dropLast ⊆ here ++ n :: names := fun m hm =>
          List.mem_append_left _ (List.dropLast_subset here hm)
        exact List.append_subset.mpr ⟨hhere, by simp⟩
      rw [if_neg hup] at h ⊢
      by_cases hlong : maxNameBytes < n.utf8ByteSize
      · rw [if_pos hlong] at h
        exact absurd h id
      rw [if_neg hlong] at h ⊢
      by_cases hf : d.hasFolder (here ++ [n]) = true
      · dsimp only at h ⊢
        rw [if_pos hf] at h
        rw [if_pos (hasFolder_insert hf)]
        exact walk_insert (hsub (by simp)) h
      · -- the walk ends here, before and after: no folder has come about
        dsimp only at h ⊢
        rw [if_neg hf] at h
        obtain ⟨rfl, rfl⟩ := hasKey_end h
        have hf' : (d.insert (Directory.key (here ++ [n])) content).hasFolder (here ++ [n])
            = false := hasFolder_insert_key (by simp) (hsub (by simp)) (Bool.eq_false_iff.mpr hf)
        rw [hf', get?_insert_key]
        rfl

/-! ## Writing and reading -/

/-- A file whose use is refused has no key to be written under. -/
theorem permit_map_eq_ok_iff {use : Use} {k : String} :
    (d.permit use k).map (fun _ => k) = .ok key ↔ d.refusal use k = none ∧ k = key := by
  rw [permit]
  split
  · next hr => exact iff_of_false nofun fun h => nomatch hr.symm.trans h.1
  · next hr => exact ⟨fun h => ⟨hr, Except.ok.inj h⟩, fun h => congrArg Except.ok h.2⟩

/-- A path that can be written leads to the key found for it. -/
theorem hasKey_place {path : String} (h : d.writableKey path = .ok key) :
    (d.place path).HasKey key := by
  rw [writableKey] at h
  split at h
  · split at h <;> exact nomatch h
  · split at h
    · next hp =>
      rw [hp]
      exact (permit_map_eq_ok_iff.mp h).2
    · next hp =>
      rw [hp]
      exact (permit_map_eq_ok_iff.mp h).2
    all_goals exact nomatch h

/-- **A path leads to the file that was written under it.** -/
theorem place_insert {path : String} (h : d.writableKey path = .ok key) :
    (d.insert key content).place path = .file key content := by
  have hk := hasKey_place h
  rw [place] at hk ⊢
  split at hk
  · exact absurd hk id
  · next hp =>
    rw [if_neg hp]
    rw [locate] at hk ⊢
    split at hk
    · exact absurd hk id
    · next hlong =>
      rw [if_neg hlong]
      refine walk_insert (fun n hn => ?_) hk
      rcases List.mem_append.mp hn with hn | hn
      · split at hn
        · exact absurd hn List.not_mem_nil
        · exact d.home_names n hn
      · exact Path.isName_of_mem_parts hn

theorem fromUTF8?_toUTF8 (text : String) : String.fromUTF8? text.toUTF8 = some text := by
  rw [String.fromUTF8?, String.toUTF8_eq_toByteArray, dif_pos text.isValidUTF8]
  rfl

/-- A text is what its bytes are read as. -/
theorem decodeFile_toUTF8 (text : String) : decodeFile text.toUTF8 = .ok text := by
  rw [decodeFile, fromUTF8?_toUTF8]

/-- **What was written is read back**, if reading is not refused. -/
theorem read_insert {path text : String} (h : d.writableKey path = .ok key)
    (hr : d.refusal .reading key = none) : (d.insert key text.toUTF8).read path = .ok text := by
  have hp : (d.insert key text.toUTF8).permit .reading key = .ok () := by
    rw [permit]
    exact hr ▸ rfl
  rw [read, place_insert h]
  dsimp only
  rw [hp]
  exact decodeFile_toUTF8 text

end Directory

end EntitySchema
