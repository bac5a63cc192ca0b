import Mathlib.Data.List.Forall2
import EntitySchema.Schema.Request

/-!
# Proofs/Schema/Splicing — extensions leave what is generated as it is

The text of a schema with extensions is that of the schema without them, but for three places: each
type fragment is a block of its own in front of the queries, and the two root types have their
fragments as further lines behind the fields that are generated (`Request.extensions_spliced`).  So a
root type without fields gets its braces from its fragments.

What a fragment becomes is said without the writer: a block of it is told by `Sdl.IsBlockOf`, a line
of it by `Sdl.IsLineOf`, and a root type by the lines between its braces (`Sdl.rootBlock`).
-/

namespace EntitySchema

namespace Sdl

/-! ## What becomes of a fragment -/

/-- The text ends in a line break. -/
def EndsInBreak (s : String) : Prop := ∃ body, s = body ++ "\n"

/-- The text ends in one line break and not in two. -/
def EndsInOneBreak (s : String) : Prop :=
  ∃ body last, last ≠ '\n' ∧ s = body ++ String.singleton last ++ "\n"

/-- The block of a fragment: the fragment itself, with a line break behind it unless it ends in
one. -/
inductive IsBlockOf (fragment : String) : String → Prop
  | asItIs : EndsInBreak fragment → IsBlockOf fragment fragment
  | ended : ¬ EndsInBreak fragment → IsBlockOf fragment (fragment ++ "\n")

/-- The text `t` is `s` without the white space at its end. -/
structure Trims (s t : String) : Prop where
  blank : ∃ tail : String, s = t ++ tail ∧ ∀ c ∈ tail.toList, Text.isBlank c = true
  last : ∀ c ∈ t.toList.getLast?, Text.isBlank c = false

/-- The line of a fragment: behind so many spaces, and without the white space at its end. -/
def IsLineOf (indent : Nat) (fragment line : String) : Prop :=
  ∃ body, Trims fragment body ∧ line = String.ofList (List.replicate indent ' ') ++ body ++ "\n"

/-- The line of a field that is generated, behind so many spaces. -/
def fieldLine (indent : Nat) (f : Field) : String :=
  String.ofList (List.replicate indent ' ') ++ f.text ++ "\n"

/-- The block of a root type with the given lines between its braces; without lines it has no
braces. -/
def rootBlock (name : String) (lines : List String) : String :=
  if lines = [] then "type " ++ name ++ "\n"
  else "type " ++ name ++ " \x7b\n" ++ String.join lines ++ "\x7d\n"

/-- The fragments are further lines of a root type, behind those of its fields. -/
structure SplicedRoot (indent : Nat) (name : String) (fields : List Field) (fragments : List String)
    (block spliced : String) : Prop where
  bare : block = rootBlock name (fields.map (fieldLine indent))
  lines : ∃ added, List.Forall₂ (IsLineOf indent) fragments added ∧
    spliced = rootBlock name (fields.map (fieldLine indent) ++ added)

theorem endsInBreak_iff {s : String} : EndsInBreak s ↔ s.toList.getLast? = some '\n' := by
  rw [List.getLast?_eq_some_iff]
  refine ⟨fun ⟨body, h⟩ => ⟨body.toList, by rw [h, String.toList_append]; rfl⟩,
    fun ⟨body, h⟩ => ⟨String.ofList body, ?_⟩⟩
  rw [← String.toList_inj, h, String.toList_append, String.toList_ofList]
  rfl

theorem isBlockOf_fragmentText (s : String) : IsBlockOf s (fragmentText s) := by
  rw [fragmentText]
  split
  · next h => exact .asItIs (endsInBreak_iff.mpr h)
  · next h => exact .ended (mt endsInBreak_iff.mp h)

theorem trims_trimEnd (s : String) : Trims s (Text.trimEnd s) where
  blank := by
    obtain ⟨tail, htail, hblank⟩ := Text.dropBlankEnd_append s.toList
    refine ⟨String.ofList tail, ?_, by rwa [String.toList_ofList]⟩
    rw [Text.trimEnd, ← String.ofList_append, ← htail, String.ofList_toList]
  last := by
    rw [Text.trimEnd, String.toList_ofList]
    exact Text.getLast?_dropBlankEnd s.toList

theorem isLineOf_trimEnd (indent : Nat) (s : String) :
    IsLineOf indent s (indentation indent ++ Text.trimEnd s ++ "\n") :=
  ⟨_, trims_trimEnd s, rfl⟩

/-! ## Blocks -/

/-- **A root type is written line by line.** -/
theorem TypeDefinition.text_object (indent : Nat) {t : TypeDefinition} (ht : t.kind = .object) :
    t.text indent = rootBlock t.name (t.fields.map (fieldLine indent) ++
      t.fragments.map fun s => indentation indent ++ Text.trimEnd s ++ "\n") := by
  have hlines : t.lines.map (fun l => indentation indent ++ l ++ "\n")
      = t.fields.map (fieldLine indent) ++
        t.fragments.map fun s => indentation indent ++ Text.trimEnd s ++ "\n" := by
    rw [TypeDefinition.lines, List.map_append, List.map_map, List.map_map]
    rfl
  have hempty : t.isEmpty = true ↔ t.fields.map (fieldLine indent) ++
      (t.fragments.map fun s => indentation indent ++ Text.trimEnd s ++ "\n") = [] := by
    rw [TypeDefinition.isEmpty, Bool.and_eq_true, List.isEmpty_iff, List.isEmpty_iff,
      List.append_eq_nil_iff, List.map_eq_nil_iff, List.map_eq_nil_iff]
  rw [TypeDefinition.text, ht, hlines, rootBlock]
  by_cases h : t.isEmpty = true
  · rw [if_pos h, if_pos (hempty.mp h)]
    rfl
  · rw [if_neg h, if_neg (mt hempty.mpr h), ← String.append_assoc, ← String.append_assoc]
    rfl

theorem EndsInOneBreak.of_append (front : String) {s : String} (h : EndsInOneBreak s) :
    EndsInOneBreak (front ++ s) := by
  obtain ⟨body, last, hlast, rfl⟩ := h
  exact ⟨front ++ body, last, hlast, by rw [String.append_assoc, String.append_assoc,
    String.append_assoc]⟩

/-- A root type ends in one line break if its name does not end in one. -/
theorem endsInOneBreak_rootBlock {name : String} (hname : EndsInOneBreak (name ++ "\n"))
    (lines : List String) : EndsInOneBreak (rootBlock name lines) := by
  have hbrace : EndsInOneBreak "\x7d\n" := ⟨"", '\x7d', by decide, by decide⟩
  rw [rootBlock]
  split
  · rw [String.append_assoc]
    exact hname.of_append _
  · exact hbrace.of_append _

/-- The last of several blocks stands at the end of the text. -/
theorem exists_intercalate_append (sep s : String) :
    ∀ blocks : List String, ∃ front, sep.intercalate (blocks ++ [s]) = front ++ s
  | [] => ⟨"", by rw [List.nil_append, String.empty_append]; rfl⟩
  | b :: blocks => by
    obtain ⟨front, h⟩ := exists_intercalate_append sep s blocks
    refine ⟨b ++ sep ++ front, ?_⟩
    rw [List.cons_append, String.intercalate_cons_of_ne_nil (by simp), h]
    simp only [String.append_assoc]

/-- The blocks of a document. -/
def Document.blocks (indent : Nat) (d : Document) : List String := d.map (Definition.text indent)

end Sdl

namespace Request

open Sdl Schema

/-- The request without its extensions. -/
def bare (q : Request) : Request := { q with config := { q.config with extensions := {} } }

/-- The blocks in front of the fragments and the root types. -/
def firstBlocks (q : Request) : List String :=
  Document.blocks q.config.indent (.type operatorInputType :: entityDefinitions q.registry)

theorem blocks_document (q : Request) :
    q.document.blocks q.config.indent
      = q.firstBlocks ++ q.config.extensions.types.map fragmentText ++
        [q.queryType.text q.config.indent, q.mutationType.text q.config.indent] := by
  rw [document, Document.blocks, List.map_append, List.map_append, List.map_map]
  rfl

theorem blocks_document_bare (q : Request) :
    q.bare.document.blocks q.config.indent
      = q.firstBlocks ++
        [q.bare.queryType.text q.config.indent, q.bare.mutationType.text q.config.indent] := by
  have h := blocks_document q.bare
  rwa [show q.bare.config.extensions.types.map fragmentText = [] from rfl, List.append_nil] at h

/-- A root type without its fragments, and with them. -/
theorem splicedRoot (indent : Nat) (name : String) (fields : List Field) (fragments : List String) :
    SplicedRoot indent name fields fragments
      (TypeDefinition.text indent ⟨.object, name, fields, []⟩)
      (TypeDefinition.text indent ⟨.object, name, fields, fragments⟩) where
  bare := by
    rw [TypeDefinition.text_object indent rfl, List.map_nil, List.append_nil]
  lines := by
    refine ⟨_, ?_, TypeDefinition.text_object indent rfl⟩
    exact List.forall₂_map_right_iff.mpr
      (List.forall₂_same.mpr fun s _ => isLineOf_trimEnd indent s)

/-- **Extensions are spliced in.**  What is generated without extensions are some blocks and the two
root types, with an empty line between neighbours.  With extensions the text has the same blocks in
the same order, and in front of the queries a block for each type fragment, and in the root types a
line for each of their fragments.  The text ends in one line break. -/
theorem extensions_spliced (q : Request) :
    ∃ before query mutation added query' mutation',
      q.bare.document.blocks q.config.indent = before ++ [query, mutation] ∧
      q.bare.text = "\n".intercalate (before ++ [query, mutation]) ∧
      q.text = "\n".intercalate (before ++ added ++ [query', mutation']) ∧
      List.Forall₂ IsBlockOf q.config.extensions.types added ∧
      SplicedRoot q.config.indent "Query" q.queryType.fields q.config.extensions.queries
        query query' ∧
      SplicedRoot q.config.indent "Mutation" q.mutationType.fields q.config.extensions.mutations
        mutation mutation' ∧
      EndsInOneBreak q.text := by
  have htext : q.text = "\n".intercalate (q.firstBlocks ++
      q.config.extensions.types.map fragmentText ++
        [q.queryType.text q.config.indent, q.mutationType.text q.config.indent]) := by
    rw [← blocks_document]
    rfl
  refine ⟨q.firstBlocks, q.bare.queryType.text q.config.indent,
    q.bare.mutationType.text q.config.indent, q.config.extensions.types.map fragmentText,
    q.queryType.text q.config.indent, q.mutationType.text q.config.indent,
    q.blocks_document_bare, ?_, htext, ?_, splicedRoot .., splicedRoot .., ?_⟩
  · rw [← blocks_document_bare]
    rfl
  · exact List.forall₂_map_right_iff.mpr (List.forall₂_same.mpr fun s _ => isBlockOf_fragmentText s)
  · have hname : EndsInOneBreak ("Mutation" ++ "\n") := ⟨"Mutatio", 'n', by decide, by decide⟩
    obtain ⟨front, h⟩ := exists_intercalate_append "\n" (q.mutationType.text q.config.indent)
      (q.firstBlocks ++ q.config.extensions.types.map fragmentText ++
        [q.queryType.text q.config.indent])
    rw [htext, show ∀ (l : List String) (a b : String), l ++ [a, b] = l ++ [a] ++ [b] by simp, h,
      TypeDefinition.text_object q.config.indent rfl]
    exact (endsInOneBreak_rootBlock hname _).of_append front

end Request

end EntitySchema
