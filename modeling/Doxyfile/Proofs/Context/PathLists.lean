import Mathlib.Data.Set.Function
import Doxyfile.Proofs.Context.Outcome

/-!
# What a written list tells

A list of paths is written with a space in front of every entry. When no entry has a space in it,
the written list tells every entry: cut at its spaces it is an empty piece and then the entries
(`PathList.pieces_joined`). Empty entries are told as well, and so is whether there are any: a list
of one empty entry is written as a space, the empty list as nothing.

A template that asks for a single field is rendered to the field as it is written
(`Context.render_asking`). For the fields that hold lists the output therefore tells the list.
-/

namespace Doxyfile

namespace PathList

/-- No entry has a space in it. -/
def Unspaced (paths : List String) : Prop :=
  ∀ path ∈ paths, ' ' ∉ path.toList

instance : DecidablePred Unspaced := fun paths =>
  inferInstanceAs (Decidable (∀ path ∈ paths, ' ' ∉ path.toList))

/-- The pieces of a text between its spaces. -/
def pieces (text : String) : List String :=
  (text.split ' ').toList.map String.Slice.copy

theorem joined_eq_join (paths : List String) :
    joined paths = String.join (paths.map (" " ++ ·)) := by
  induction paths with
  | nil => rfl
  | cons path paths ih => rw [joined, ih, List.map_cons, String.join_cons]

/-- **Lists one behind the other** are written one behind the other. -/
theorem joined_append (front back : List String) :
    joined (front ++ back) = joined front ++ joined back := by
  rw [joined_eq_join, joined_eq_join, joined_eq_join, List.map_append, String.join_append]

/-- **A list is written as its entries behind an empty one**, with a space between any two. -/
theorem joined_eq_intercalate (paths : List String) :
    joined paths = " ".intercalate ("" :: paths) := by
  induction paths with
  | nil => rfl
  | cons path paths ih =>
    rw [joined, ih, String.append_assoc, ← String.intercalate_cons_append, String.append_empty,
      String.intercalate_cons_cons, String.empty_append]

/-- **Cut at its spaces a written list is an empty piece and then the entries.** -/
theorem pieces_joined {paths : List String} (h : Unspaced paths) :
    pieces (joined paths) = "" :: paths := by
  have hunspaced : ∀ piece ∈ "" :: paths, ' ' ∉ piece.toList :=
    List.forall_mem_cons.mpr ⟨List.not_mem_nil, h⟩
  have hsplit := String.toList_split_intercalate hunspaced
  rw [if_neg (List.cons_ne_nil _ _)] at hsplit
  rw [joined_eq_intercalate]
  exact hsplit

theorem injOn_joined : Set.InjOn joined {paths | Unspaced paths} := by
  intro paths hpaths others hothers heq
  have hpieces := pieces_joined hpaths
  rw [heq, pieces_joined hothers] at hpieces
  exact (List.cons.inj hpieces).2.symm

end PathList

/-! ## Fields that hold lists -/

/-- The list that a field holds; only three fields hold one. -/
def Values.list? (values : Values) : Field → Option (List String)
  | .input => some values.input
  | .examplePath => some values.examplePath
  | .stripFromPath => some values.stripFromPath
  | _ => none

/-- A template that asks for one field and holds nothing else. -/
def Template.asking (field : Field) : String :=
  "<%= " ++ field.name ++ " %>"

theorem Values.text_of_list? {values : Values} {field : Field} {paths : List String}
    (h : values.list? field = some paths) : values.text field = PathList.joined paths := by
  cases field <;> cases h <;> rfl

theorem Template.parse_asking (field : Field) :
    Template.parse (asking field) =
      .ok ⟨[.field ⟨field.name, ⟨4, 4 + field.name.utf8ByteSize⟩⟩]⟩ := by
  cases field <;> decide +kernel

namespace Context

/-- **A template that asks for one field is rendered to the field** as it is written. -/
theorem render_asking {context : Context} {field : Field}
    (h : context.template = Template.asking field) :
    context.render = .ok (context.values.text field) := by
  have hparse := Template.parse_asking field
  have hresolve (span : Span) :
      context.resolve ⟨field.name, span⟩ = .ok (context.values.text field) := by
    simp only [resolve, field?, Field.ofName?_name, Option.map_some]
  rw [render, parsed, h, hparse]
  show (context.resolve _).bind _ = _
  rw [hresolve]
  show Except.ok (context.values.text field ++ "") = _
  rw [String.append_empty]

/-- **A written list tells the list.** Lists one behind the other are written one behind the other.
As long as no entry has a space in it, a written list is cut at its spaces into an empty piece and
its entries, so no two lists are written alike. A template that asks for nothing but a field with
such a list is rendered to the written list, and from no other list to the same text. -/
theorem render_tells_list :
    (∀ front back : List String,
        PathList.joined (front ++ back) = PathList.joined front ++ PathList.joined back) ∧
      (∀ paths, PathList.Unspaced paths →
        PathList.pieces (PathList.joined paths) = "" :: paths) ∧
      Set.InjOn PathList.joined {paths | PathList.Unspaced paths} ∧
      ∀ (field : Field) (context : Context) (paths : List String),
        context.values.list? field = some paths → context.template = Template.asking field →
          context.render = .ok (PathList.joined paths) ∧
            (PathList.Unspaced paths → ∀ (other : Context) (others : List String),
              other.values.list? field = some others → other.template = context.template →
                PathList.Unspaced others → other.render = context.render → others = paths) := by
  refine ⟨PathList.joined_append, fun paths => PathList.pieces_joined, PathList.injOn_joined,
    fun field context paths hlist htemplate => ?_⟩
  have hrender : context.render = .ok (PathList.joined paths) := by
    rw [render_asking htemplate, Values.text_of_list? hlist]
  refine ⟨hrender, fun hpaths other others hother hsame hothers heq => ?_⟩
  rw [hrender, render_asking (hsame.trans htemplate), Values.text_of_list? hother] at heq
  exact PathList.injOn_joined hothers hpaths (Except.ok.inj heq)

/-- Empty entries at both ends around one with a tab in it, against the list without the last. -/
theorem render_tells_list_empty_entries :
    let context := Context.ofSettings "<%= input %>" { input := some ["", "a\tb", ""] }
    PathList.Unspaced ["", "a\tb", ""] ∧ PathList.pieces "  a\tb " = ["", "", "a\tb", ""] ∧
      context.render = .ok "  a\tb " ∧
      ∀ other : Context, other.values.input = ["", "a\tb"] → other.template = "<%= input %>" →
        other.render ≠ context.render := by
  intro context
  have hpaths : PathList.Unspaced ["", "a\tb", ""] := by decide
  have hothers : PathList.Unspaced ["", "a\tb"] := by decide
  obtain ⟨-, hpieces, -, hlists⟩ := render_tells_list
  obtain ⟨hrender, htells⟩ := hlists .input context _ rfl (by decide)
  refine ⟨hpaths, hpieces _ hpaths, hrender, fun other hinput htemplate heq => ?_⟩
  have hlist : other.values.list? .input = some ["", "a\tb"] := congrArg some hinput
  exact absurd (htells hpaths other _ hlist htemplate hothers heq) (by decide)

end Context

end Doxyfile
