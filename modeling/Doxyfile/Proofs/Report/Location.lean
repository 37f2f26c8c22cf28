import Doxyfile.Proofs.Context.Failure
import Doxyfile.Proofs.Report.Lines
import Doxyfile.Proofs.Template.Faults
import Doxyfile.Proofs.Template.WellFormed
import Doxyfile.Report.Drawing

/-!
# Reports point at the place of the error

A drawing is complete (`Report.Complete`) when its header names a line and a column, a line of the
source of that number is drawn, and the label stands below it; the title alone is not. A report is
drawn completely when its span is in order and inside of a source of ASCII characters, and then the
header names the place where the span starts (`Report.draw_complete`). Every report of an error that
a template is refused with has such a span (`Template.reports_within`).

Reports are drawn by code that may do something else: reject a span, or stop the program. A
`Report.Writer` stands for any such code, and `Writer.Documented` says when it may do that. No
report of a refused template lets it (`Report.points`).

`Context.format_points_at_errors` is about the errors themselves. It gives title, span and label of
what is drawn for each of them, and does not read them off the reports that the program makes.
-/

namespace Doxyfile

namespace Report

/-- The span is in order and inside of the text. -/
structure Within (report : Report) (text : String) : Prop where
  ordered : report.span.start ≤ report.span.stop
  inside : report.span.stop ≤ text.utf8ByteSize

/-! ## Complete drawings -/

/-- **The picture shows a line of the source and the label of the report**: the line with its number
in the margin, and the label at the end of a line below. -/
def Shows (report : Report) (width : Nat) (line : Line) (picture : String) : Prop :=
  ∃ arm below, picture =
    numbered width line ++ arm ++ report.drawLine line ++ below ++ " " ++ report.label ++ "\n"

/-- **The drawing of the report is complete** and points at a line and a column: there are the
title, a header with the file and this place, the line of that number in the source, the label and
the line that closes the report. -/
def Complete (report : Report) (filename : String) (source : List Char) (line column : Nat)
    (drawing : String) : Prop :=
  ∃ width shown picture, shown ∈ Line.all source ∧ shown.number = line ∧
    report.Shows width shown picture ∧
    drawing = Ink.red.paint "Error:" ++ " " ++ report.title ++ "\n" ++
      spaces (width + 2) ++ Ink.frame.paintEach ['╭', '─', '['] ++
      filename ++ ":" ++ toString line ++ ":" ++ toString column ++ Ink.frame.paint "]" ++ "\n" ++
      spaces (width + 2) ++ Ink.frame.paint "│" ++ "\n" ++ picture ++ footer width

variable {report : Report} {source : List Char}

theorem underlined_shows {line : Line} (h : report.span.stop ≤ line.stop) (width : Nat) :
    report.Shows width line (report.underlined width line) := by
  rw [underlined, if_neg (Nat.not_lt.mpr h)]
  let middle := (report.span.start + report.span.stop) / 2 - line.start
  let columns := line.columns (report.span.stop - line.start + 2)
  refine ⟨"", blankMargin width ++ report.underline line middle 0 columns ++ "\n" ++
    blankMargin width ++ arrow middle 0 columns, ?_⟩
  simp only [String.append_assoc, String.empty_append, middle, columns]

theorem bracketed_shows {last : Line} (h : report.span.stop ≤ last.stop) (width : Nat)
    (first : Line) : report.Shows width first (report.bracketed width first last) := by
  let reach := 3 + (last.columns (last.content.length + 2)).foldl (· + ·) 0
  refine ⟨arm '╭', (if first.index + 1 < last.index then gap width else "") ++
    numbered width last ++ arm '├' ++ report.drawLine last ++
    blankMargin width ++ Ink.red.paint "│" ++ spaces reach ++ "\n" ++
    blankMargin width ++ Ink.red.paint "╰" ++ Ink.red.paintEach (List.replicate reach '─'), ?_⟩
  simp only [bracketed, closing, h, decide_true, Bool.not_true, Bool.or_false, if_true,
    decide_eq_true_eq, String.append_assoc, reach]

/-- **A span inside of a source starts on some line, and ends on one that it does not go past.** -/
theorem exists_extent? (hsource : source ≠ []) (hordered : report.span.start ≤ report.span.stop)
    (hinside : report.span.stop ≤ source.length) :
    ∃ first last, report.extent? source = some (first, last) ∧
      Line.at? source report.span.start = some first ∧ last ∈ Line.all source ∧
      report.span.stop ≤ last.stop := by
  obtain ⟨first, hfirst, hstop, -⟩ := Line.exists_at? hsource (Nat.le_trans hordered hinside)
  by_cases hempty : report.span.start = report.span.stop
  · refine ⟨first, first, ?_, hfirst, Line.mem_all_of_at? hfirst, hempty ▸ hstop⟩
    rw [extent?, hfirst]
    exact if_pos hempty
  · obtain ⟨last, hlast, -, hbehind⟩ :=
      Line.exists_at? hsource (by omega : report.span.stop - 1 ≤ source.length)
    refine ⟨first, last, ?_, hfirst, Line.mem_all_of_at? hlast, ?_⟩
    · rw [extent?, hfirst, hlast]
      exact if_neg hempty
    · have := hbehind (by omega)
      omega

/-- **A report about a stretch of an ASCII source is drawn completely**, and points at the place
where the stretch starts. -/
theorem draw_complete (hascii : Text.Ascii source) (hsource : source ≠ [])
    (hordered : report.span.start ≤ report.span.stop) (hinside : report.span.stop ≤ source.length)
    (filename : String) :
    report.Complete filename source (Line.numberAt source report.span.start)
      (Line.columnAt source report.span.start) (report.draw filename source) := by
  obtain ⟨first, last, hextent, hfirst, hlast, hstop⟩ := exists_extent? hsource hordered hinside
  have hmem := Line.mem_all_of_at? hfirst
  have hpicture : report.Shows (digits last) first
      (if first.index = last.index then report.underlined (digits last) first
        else report.bracketed (digits last) first last) := by
    split
    next hindex =>
      rw [Line.eq_of_index_eq hmem hlast hindex]
      exact underlined_shows hstop _
    next => exact bracketed_shows hstop _ first
  refine ⟨digits last, first, _, hmem, Line.at?_number hascii hfirst, hpicture, ?_⟩
  rw [draw, hextent, ← Line.at?_number hascii hfirst, ← Line.at?_column hascii hfirst]
  simp only [body, header, location, String.append_assoc]

end Report

/-! ## The spans of errors -/

/-- **Every report of a refused template is about a stretch of it.** -/
theorem Template.reports_within {text : String} {error : RenderError}
    (h : Template.refusal? text = some error) : ∀ report ∈ error.reports, report.Within text := by
  intro report hreport
  cases error with
  | malformed errors =>
    obtain ⟨told, htold, rfl⟩ := List.mem_map.mp hreport
    have herrors := parse_error_iff_tags.mp (refusal?_malformed_iff.mp h)
    rcases herrors with ⟨-, rfl⟩ | ⟨tags, htags, -, rfl⟩
    · obtain rfl := List.mem_singleton.mp htold
      exact ⟨Nat.le_refl _, Nat.le_of_eq (Text.utf8ByteSize_eq text).symm⟩
    · obtain ⟨tag, htag, rfl⟩ := List.mem_map.mp htold
      have hat := (Direct.tagsOf_located htags).1 tag (List.mem_filter.mp htag).1
      exact ⟨Nat.le_of_lt (Tag.start_lt_stop hat), (Text.utf8ByteSize_eq text).symm ▸ hat.stop_le⟩
  | unresolved reference suggestions =>
    obtain rfl := List.mem_singleton.mp hreport
    obtain ⟨template, hparse, ⟨before, after, hreferences, -⟩, -⟩ := refusal?_unresolved_iff.mp h
    have hmem : reference ∈ template.references := by
      rw [hreferences]
      exact List.mem_append_right before List.mem_cons_self
    obtain ⟨hordered, hinside⟩ := stop_lt_of_parse hparse hmem
    exact ⟨hordered, Nat.le_of_lt hinside⟩

/-- The empty template is not refused. -/
theorem Template.ne_nil_of_refusal? {text : String} {error : RenderError}
    (h : Template.refusal? text = some error) : text.toList ≠ [] := by
  intro hnil
  rw [String.toList_eq_nil_iff.mp hnil] at h
  cases h

/-! ## Writing reports -/

namespace Report

/-- What writing a report comes to. -/
inductive Written where
  | drawing (text : String)
  /-- Nothing can be written. -/
  | failed
  /-- The program stops. -/
  | panicked
deriving DecidableEq, Repr

/-- Code that writes a report about a source that stands in a file. -/
abbrev Writer := Report → String → List Char → Written

/-- **What is known of the code that writes reports**: it panics only on a span that ends before it
starts, fails only on one that goes past the source, and else draws the report. -/
structure Writer.Documented (writer : Writer) : Prop where
  panics : ∀ {report filename source}, writer report filename source = .panicked →
    report.span.stop < report.span.start
  fails : ∀ {report filename source}, writer report filename source = .failed →
    source.length < report.span.stop
  draws : ∀ {report filename source text}, writer report filename source = .drawing text →
    text = report.draw filename source

/-- A report as it is shown with a writer: drawn, or the file and the title when the writer fails.
There is none when it panics. -/
def shown (writer : Writer) (filename : String) (source : List Char) (report : Report) :
    Option String :=
  match writer report filename source with
  | .drawing text => some text
  | .failed => some (filename ++ ": " ++ report.title)
  | .panicked => none

/-- A report with its span inside of the source is drawn. -/
theorem Writer.Documented.write_eq {writer : Writer} (h : writer.Documented) {report : Report}
    {source : List Char} (hordered : report.span.start ≤ report.span.stop)
    (hinside : report.span.stop ≤ source.length) (filename : String) :
    writer report filename source = .drawing (report.draw filename source) := by
  cases hwrite : writer report filename source with
  | drawing text => rw [h.draws hwrite]
  | failed => exact absurd (h.fails hwrite) (Nat.not_lt.mpr hinside)
  | panicked => exact absurd (h.panics hwrite) (Nat.not_lt.mpr hordered)

end Report

/-- The reports of an error as they are shown with a writer, if it does not panic. -/
def RenderError.formatWith (writer : Report.Writer) (error : RenderError)
    (source filename : String) : Option String :=
  (error.reports.mapM (Report.shown writer filename source.toList)).map (String.intercalate "\n")

/-- Reports that a writer draws are shown as they are drawn. -/
theorem Report.mapM_shown {writer : Report.Writer} {filename : String} {source : List Char}
    {reports : List Report}
    (h : ∀ report ∈ reports, writer report filename source =
      .drawing (report.draw filename source)) :
    reports.mapM (shown writer filename source) = some (reports.map (·.draw filename source)) := by
  induction reports with
  | nil => rfl
  | cons report reports ih =>
    have hshown : report.shown writer filename source = some (report.draw filename source) := by
      rw [shown, h report (.head _)]
    rw [List.mapM_cons, hshown, ih fun other hother => h other (.tail _ hother)]
    rfl

/-- An error whose reports are all drawn is shown as it is drawn. -/
theorem RenderError.formatWith_eq {writer : Report.Writer} {error : RenderError}
    {source filename : String}
    (h : ∀ report ∈ error.reports, writer report filename source.toList =
      .drawing (report.draw filename source.toList)) :
    error.formatWith writer source filename = some (error.format source filename) := by
  rw [formatWith, Report.mapM_shown h]
  rfl

/-! ## What is shown of an error -/

/-- **A drawing of the report points at its place in a template** that stands in a file. The span is
a stretch of the template, and the drawing is complete and points at the line and the column of the
character at which that stretch starts. Code that writes reports and does as documented makes this
drawing: it does not panic, and it does not fail. -/
structure Report.Points (report : Report) (template filename drawing : String) : Prop where
  within : report.Within template
  complete :
    let source := template.toList
    let place := Text.charsBefore source report.span.start
    report.Complete filename source (Line.numberAt source place) (Line.columnAt source place)
      drawing
  written : ∀ writer : Report.Writer, writer.Documented →
    writer report filename template.toList = .drawing drawing

/-- **A report about a stretch of an ASCII template points at its place** as it is drawn. -/
theorem Report.points {report : Report} {template : String} (hascii : Text.Ascii template.toList)
    (htemplate : template.toList ≠ []) (h : report.Within template) (filename : String) :
    report.Points template filename (report.draw filename template.toList) := by
  have hordered := h.ordered
  -- bytes of the template are its characters
  have hinside : report.span.stop ≤ template.toList.length := by
    rw [← Text.byteLength_ascii hascii, ← Text.utf8ByteSize_eq]
    exact h.inside
  have hplace := Text.charsBefore_ascii hascii (Nat.le_trans hordered hinside)
  refine ⟨h, ?_, fun writer hwriter => hwriter.write_eq hordered hinside filename⟩
  simp only [hplace]
  exact draw_complete hascii htemplate hordered hinside filename

/-- The report of an error in the text, told in full. -/
theorem Report.ofSyntaxError_eq (error : Template.SyntaxError) :
    ofSyntaxError error = ⟨error.message, error.span,
      if error.expected = [] then error.message
      else error.message ++ "\nExpected: " ++ String.intercalate ", " error.expected⟩ := by
  unfold ofSyntaxError
  cases error.expected with
  | nil => rfl
  | cons expected others => rfl

/-- The report of a name that no field has, told in full. -/
theorem Report.ofUnresolved_eq (reference : Reference) (suggestions : List String) :
    ofUnresolved reference suggestions = ⟨"unresolved field '" ++ reference.name ++ "'",
      reference.span,
      if suggestions = [] then "not a known field"
      else "did you mean " ++ String.intercalate " or " suggestions ++ "?"⟩ := by
  cases suggestions with
  | nil => rfl
  | cons suggestion others => rfl

/-- **Reports point at the place of the error.** Let the template of a context be ASCII, and let
rendering or checking the context fail. For errors in the text, what is shown is one drawing for
each of them, in their order: it points at the start of this error's span, its title is the message
of the error, and its label also tells what was expected. For a name that no field has, it is one
drawing that points at the start of the name; its title tells the name, and its label the
suggestions, if there are any. Every report that is made of the error is about a stretch of the
template, and code that writes reports and does as documented shows all of this. -/
theorem Context.format_points_at_errors (context : Context)
    (hascii : Text.Ascii context.template.toList) (filename : String) (error : RenderError)
    (herror : context.render = .error error ∨ context.check = .error error) :
    (match error with
      | .malformed errors =>
        ∃ drawings, error.format context.template filename = String.intercalate "\n" drawings ∧
          List.Forall₂ (fun told drawing =>
            let label :=
              if told.expected = [] then told.message
              else told.message ++ "\nExpected: " ++ String.intercalate ", " told.expected
            Report.Points ⟨told.message, told.span, label⟩ context.template filename drawing)
            errors drawings
      | .unresolved reference suggestions =>
        let label :=
          if suggestions = [] then "not a known field"
          else "did you mean " ++ String.intercalate " or " suggestions ++ "?"
        Report.Points ⟨"unresolved field '" ++ reference.name ++ "'", reference.span, label⟩
          context.template filename (error.format context.template filename)) ∧
      (∀ report ∈ error.reports, report.Within context.template) ∧
      ∀ writer : Report.Writer, writer.Documented →
        error.formatWith writer context.template filename =
          some (error.format context.template filename) := by
  have hrefusal : Template.refusal? context.template = some error := by
    rcases herror with herror | herror
    · exact render_error_iff.mp herror
    · exact check_error_iff.mp herror
  have hwithin := Template.reports_within hrefusal
  have hpoints : ∀ report ∈ error.reports, report.Points context.template filename
      (report.draw filename context.template.toList) := fun report hreport =>
    Report.points hascii (Template.ne_nil_of_refusal? hrefusal) (hwithin report hreport) filename
  refine ⟨?_, hwithin, fun writer hwriter =>
    RenderError.formatWith_eq fun report hreport => (hpoints report hreport).written writer hwriter⟩
  cases error with
  | malformed errors =>
    refine ⟨errors.map fun told => (Report.ofSyntaxError told).draw filename
      context.template.toList, ?_, ?_⟩
    · rw [RenderError.format, RenderError.reports, List.map_map]
      rfl
    · rw [List.forall₂_map_right_iff, List.forall₂_same]
      intro told htold
      have hdrawn := hpoints _ (List.mem_map_of_mem htold)
      rw [Report.ofSyntaxError_eq] at hdrawn ⊢
      exact hdrawn
  | unresolved reference suggestions =>
    have hformat : (RenderError.unresolved reference suggestions).format context.template filename =
        (Report.ofUnresolved reference suggestions).draw filename context.template.toList := rfl
    have hdrawn := hpoints _ (List.mem_singleton_self _)
    rw [← hformat, Report.ofUnresolved_eq] at hdrawn
    exact hdrawn

/-- The code that looks at the span before it draws. -/
def Report.Writer.careful : Report.Writer := fun report filename source =>
  if report.span.stop < report.span.start then .panicked
  else if source.length < report.span.stop then .failed
  else .drawing (report.draw filename source)

theorem Report.Writer.careful_documented : Report.Writer.careful.Documented where
  panics h := by grind [careful]
  fails h := by grind [careful]
  draws h := by grind [careful]

/-- An empty tag behind a carriage return and a line feed and a tag for code over two lines behind a
vertical tab, in a template that ends with a line break; and a misspelt name behind a form feed. -/
theorem Context.format_points_at_tags_and_name :
    let tags := Context.ofTemplate "a\r\nb <%= %>\x0bc<% x\n%>\n"
    let empty : Template.SyntaxError := ⟨⟨5, 11⟩, "empty output tag", ["field name"]⟩
    let code : Template.SyntaxError :=
      ⟨⟨13, 20⟩, "code tags are not supported, use '<%=' to insert a field", []⟩
    let name := Context.ofTemplate "\x0c<%= verison %>\n"
    let misspelt : RenderError := .unresolved ⟨"verison", ⟨5, 12⟩⟩ ["version"]
    Report.Writer.careful.Documented ∧
      (Text.Ascii tags.template.toList ∧ tags.render = .error (.malformed [empty, code]) ∧
        ∃ first second,
          RenderError.formatWith .careful (.malformed [empty, code]) tags.template "t.erb" =
            some (first ++ "\n" ++ second) ∧
          Report.Complete ⟨empty.message, empty.span, "empty output tag\nExpected: field name"⟩
            "t.erb" tags.template.toList 2 3 first ∧
          Report.Complete ⟨code.message, code.span, code.message⟩
            "t.erb" tags.template.toList 3 2 second) ∧
      Text.Ascii name.template.toList ∧ name.check = .error misspelt ∧
        ∃ drawing, misspelt.formatWith .careful name.template "t.erb" = some drawing ∧
          Report.Complete ⟨"unresolved field 'verison'", ⟨5, 12⟩, "did you mean version?"⟩
            "t.erb" name.template.toList 2 5 drawing := by
  intro tags empty code name misspelt
  refine ⟨Report.Writer.careful_documented, ?_, ?_⟩
  · have hascii : Text.Ascii tags.template.toList := by decide +kernel
    have hrender : tags.render = .error (.malformed [empty, code]) :=
      render_error_iff.mpr (by decide +kernel)
    obtain ⟨⟨drawings, hformat, hdrawings⟩, -, hwriter⟩ :=
      tags.format_points_at_errors hascii "t.erb" _ (.inl hrender)
    obtain ⟨first, others, hfirst, hothers, rfl⟩ := List.forall₂_cons_left_iff.mp hdrawings
    obtain ⟨second, rest, hsecond, hrest, rfl⟩ := List.forall₂_cons_left_iff.mp hothers
    obtain rfl := List.forall₂_nil_left_iff.mp hrest
    refine ⟨hascii, hrender, first, second, ?_, ?_, ?_⟩
    · rw [hwriter _ Report.Writer.careful_documented, hformat]
      rfl
    · convert hfirst.complete using 1 <;> decide +kernel
    · convert hsecond.complete using 1 <;> decide +kernel
  · have hascii : Text.Ascii name.template.toList := by decide +kernel
    have hcheck : name.check = .error misspelt := check_error_iff.mpr (by decide +kernel)
    obtain ⟨hpoints, -, hwriter⟩ :=
      name.format_points_at_errors hascii "t.erb" misspelt (.inr hcheck)
    refine ⟨hascii, hcheck, _, hwriter _ Report.Writer.careful_documented, ?_⟩
    convert hpoints.complete using 1 <;> decide +kernel

end Doxyfile
