import Doxyfile.Proofs.Template.DirectScan
import Doxyfile.Proofs.Template.Names

/-!
# Writing a template down

Every list of segments has written forms that parse to it, as long as no text in it is empty or
stands next to another text and every field has a field name. `Written` is a segment with one such
form: a field may stand between any blanks, and of a comment, which is read as no more than that it
is one, the content is chosen. `Written.source` is the form itself and `Written.segment` what it is
read as.

The one thing to guard against in literal text is an opener. `Written.escape` writes `<%%` for each
`<%`, and nothing else needs an escape: outside of a tag a closer is text.

The round trip is proved on the direct scan (`Written.segments_written`), where a written text only
adds to the literal characters and a written tag is left behind whole. What it needs of a comment's
content is named in `Written.Closable`. A field between blanks has it by itself, since nothing in it
begins a delimiter.
-/

namespace Doxyfile.Template

/-- A segment together with a way to write it. -/
inductive Written where
  /-- Literal text. -/
  | text (content : List Char)
  /-- A field, with the blanks in front of its name and behind it. -/
  | field (name left right : List Char)
  /-- A comment with its content. -/
  | comment (content : List Char)
deriving DecidableEq, Repr

namespace Written

/-- Literal text as it is written: every `<%` becomes `<%%`. -/
def escape : List Char → List Char
  | '<' :: '%' :: cs => '<' :: '%' :: '%' :: escape cs
  | c :: cs => c :: escape cs
  | [] => []

/-- The characters that are written. -/
def source : Written → List Char
  | .text content => escape content
  | .field name left right => ['<', '%', '='] ++ (left ++ name ++ right) ++ ['%', '>']
  | .comment content => ['<', '%', '#'] ++ content ++ ['%', '>']

/-- The byte at which a field's name is written, when the field is written from byte `start` on. -/
def nameStart (start : Nat) (left : List Char) : Nat :=
  start + Text.byteLength (['<', '%', '='] ++ left)

/-- What is read of it, when it is written from byte `start` on. -/
def segment (start : Nat) : Written → Segment
  | .text content => .text (String.ofList content)
  | .field name left _ =>
    .field ⟨String.ofList name, ⟨nameStart start left, nameStart start left + Text.byteLength name⟩⟩
  | .comment _ => .comment

/-- What is read of all of them, written one after the other from byte `start` on. -/
def segmentsFrom (start : Nat) : List Written → List Segment
  | [] => []
  | part :: parts =>
    part.segment start :: segmentsFrom (start + Text.byteLength part.source) parts

/-- Whether it is literal text. -/
def isText : Written → Bool
  | .text _ => true
  | .field _ _ _ => false
  | .comment _ => false

/-- **The content of a tag leaves its closer alone**: it holds no `%>`, and does not end where the
closer behind it would read differently. -/
structure Closable (content : List Char) : Prop where
  closer : ¬ ['%', '>'] <:+: content
  less : ¬ ['<'] <:+ content
  opener : ¬ ['<', '%'] <:+ content
  hyphen : ¬ ['-'] <:+ content

/-- **What makes a written form sound**: a text that is not empty, a field name between blanks, a
comment that leaves its closer alone. -/
def Sound : Written → Prop
  | .text content => content ≠ []
  | .field name left right =>
    isFieldName name = true ∧ (∀ c ∈ left, Text.isBlank c = true) ∧
      ∀ c ∈ right, Text.isBlank c = true
  | .comment content => Closable content

/-- **No text stands next to another one.** -/
def Apart : List Written → Prop
  | .text _ :: .text _ :: _ => False
  | _ :: parts => Apart parts
  | [] => True

/-! ## Literal text -/

theorem escape_head? (cs : List Char) : (escape cs).head? = cs.head? := by
  fun_cases escape cs <;> rfl

/-- **Escaped text is read as what it was**, whatever comes before it, in front of anything but a
`%`. -/
theorem segments_escape (content : List Char) {rest : List Char} (h : rest.head? ≠ some '%')
    (before run : List Char) :
    Direct.segments before run (escape content ++ rest) =
      Direct.segments (before ++ escape content) (run ++ content) rest := by
  fun_induction escape content generalizing before run with
  | case1 cs ih =>
    show Direct.segments before run ('<' :: '%' :: '%' :: (escape cs ++ rest)) = _
    rw [Direct.segments, ih]
    simp only [List.append_assoc, List.cons_append, List.nil_append]
  | case2 c cs hopen ih =>
    have hchar : c ≠ '<' ∨ (escape cs ++ rest).head? ≠ some '%' := by
      by_cases hc : c = '<'
      · refine .inr ?_
        rw [List.head?_append, escape_head?]
        cases cs with
        | nil => exact h
        | cons d ds =>
          rintro hd
          obtain rfl : d = '%' := Option.some.inj hd
          exact hopen ds hc rfl
      · exact .inl hc
    rw [List.cons_append, Direct.segments_char hchar, ih]
    simp only [List.append_assoc, List.cons_append, List.nil_append]
  | case3 => simp only [List.append_nil, List.nil_append]

/-! ## The ending of a written tag -/

/-- Behind a character that is neither of them, one or two characters end a text only when they end
what stands there. -/
theorem suffix_of_suffix_behind {a b c : Char} (ha : a ≠ c) (hb : b ≠ c)
    (front content : List Char) :
    ([a] <:+ front ++ [c] ++ content → [a] <:+ content) ∧
      ([a, b] <:+ front ++ [c] ++ content → [a, b] <:+ content) := by
  rcases List.eq_nil_or_concat content with rfl | ⟨init, d, rfl⟩
  · rw [List.append_nil, List.singleton_suffix_append_singleton_iff, pair_suffix_append_singleton]
    exact ⟨fun h => absurd h ha, fun h => absurd h.2 hb⟩
  · rw [List.concat_eq_append, ← List.append_assoc, List.singleton_suffix_append_singleton_iff,
      pair_suffix_append_singleton, List.singleton_suffix_append_singleton_iff,
      pair_suffix_append_singleton]
    refine ⟨id, fun h => ⟨?_, h.2⟩⟩
    rcases List.eq_nil_or_concat init with rfl | ⟨init', e, rfl⟩
    · rw [List.append_nil, List.singleton_suffix_append_singleton_iff] at h
      exact absurd h.1 ha
    · rw [List.concat_eq_append, ← List.append_assoc,
        List.singleton_suffix_append_singleton_iff] at h
      rw [List.concat_eq_append, List.singleton_suffix_append_singleton_iff]
      exact h.1

/-- **A tag ends behind content that holds no `%>`** and does not end like an opener. -/
theorem ending_of_suffix {content : List Char} (hcloser : ¬ ['%', '>'] <:+: content)
    (hless : ¬ ['<'] <:+ content) (hopener : ¬ ['<', '%'] <:+ content) {kind : TagKind}
    (hkind : kind ≠ .code) (before rest : List Char) :
    ending (before ++ kind.source) (content ++ '%' :: '>' :: rest) = some ⟨content, rest⟩ := by
  obtain ⟨c, hsource, hne⟩ : ∃ c, kind.source = ['<', '%'] ++ [c] ∧ '<' ≠ c ∧ '%' ≠ c := by
    cases kind with
    | output => exact ⟨'=', rfl, by decide, by decide⟩
    | comment => exact ⟨'#', rfl, by decide, by decide⟩
    | code => exact absurd rfl hkind
  have hsuffix := suffix_of_suffix_behind hne.1 hne.2 (before ++ ['<', '%']) content
  have hends : endsAt (before ++ ['<', '%'] ++ [c] ++ content) ('%' :: '>' :: rest) = true :=
    endsAt_iff.mpr ⟨⟨rest, rfl⟩, fun hlast => hless (hsuffix.1 hlast),
      fun hlast => hopener (hsuffix.2 hlast)⟩
  rw [hsource, ← List.append_assoc, Inside.of_no_closer hcloser, ending_here hends]
  simp only [Option.map_some, Ending.behind, List.append_nil]

/-- **A tag ends behind content that leaves its closer alone.** -/
theorem Closable.ending_eq {content : List Char} (h : Closable content) {kind : TagKind}
    (hkind : kind ≠ .code) (before rest : List Char) :
    ending (before ++ kind.source) (content ++ '%' :: '>' :: rest) = some ⟨content, rest⟩ :=
  ending_of_suffix h.closer h.less h.opener hkind before rest

theorem Closable.trims_eq_false {content : List Char} (h : Closable content) (rest : List Char) :
    (Ending.mk content rest).trims = false := by
  have hhyphen := h.hyphen
  rw [List.singleton_suffix_iff_getLast?_eq_some] at hhyphen
  simpa only [Ending.trims, beq_eq_false_iff_ne] using hhyphen

/-- The tag keeps all of its content, and no line break behind it is skipped. -/
theorem Closable.untrimmed {content : List Char} (h : Closable content) (rest : List Char) :
    (Ending.mk content rest).body = content ∧ Direct.skipped ⟨content, rest⟩ = [] := by
  have htrims := h.trims_eq_false rest
  constructor
  · rw [Ending.body, htrims]
    rfl
  · rw [Direct.skipped, htrims]
    rfl

/-- **A tag ends at its closer, be it one that trims or not**, behind content that leaves it
alone. -/
theorem Closable.ending_closer {content : List Char} (h : Closable content) {kind : TagKind}
    (hkind : kind ≠ .code) (trims : Bool) (rest : List Char) :
    ∃ found, ending kind.source (content ++ ((Token.closer trims).source ++ rest)) = some found ∧
      found.body = content ∧ found.trims = trims ∧ found.rest = rest := by
  cases trims with
  | false =>
    exact ⟨⟨content, rest⟩, h.ending_eq hkind [] rest, (h.untrimmed rest).1, h.trims_eq_false rest,
      rfl⟩
  | true =>
    -- the hyphen of the closer is the last of the characters in front of the `%>`
    have hending : ending kind.source (content ++ ['-'] ++ '%' :: '>' :: rest) =
        some ⟨content ++ ['-'], rest⟩ := by
      refine ending_of_suffix ?_ ?_ ?_ hkind [] rest
      · rw [List.infix_concat_iff, pair_suffix_append_singleton]
        rintro (hin | hin)
        · exact absurd hin.2 (by decide)
        · exact h.closer hin
      · rw [List.singleton_suffix_append_singleton_iff]
        decide
      · rw [pair_suffix_append_singleton]
        exact fun hin => absurd hin.2 (by decide)
    have htrims : (Ending.mk (content ++ ['-']) rest).trims = true := by
      simp only [Ending.trims, List.getLast?_concat, beq_self_eq_true]
    refine ⟨⟨content ++ ['-'], rest⟩, ?_, ?_, htrims, rfl⟩
    · rw [List.append_assoc] at hending
      exact hending
    · rw [Ending.body, htrims, if_pos rfl, List.dropLast_concat]

/-- Plain characters leave every closer alone. -/
theorem Closable.of_plain {content : List Char} (h : ∀ c ∈ content, isPlain c = true) :
    Closable content := by
  refine ⟨fun hin => ?_, fun hin => ?_, fun hin => ?_, fun hin => ?_⟩
  · exact absurd (h '%' (hin.subset List.mem_cons_self)) (by decide)
  · exact absurd (h '<' (hin.subset List.mem_cons_self)) (by decide)
  · exact absurd (h '<' (hin.subset List.mem_cons_self)) (by decide)
  · exact absurd (h '-' (hin.subset List.mem_cons_self)) (by decide)

/-- So does a field name between blanks. -/
theorem Sound.closable {name left right : List Char} (h : Sound (.field name left right)) :
    Closable (left ++ name ++ right) := by
  obtain ⟨hname, hleft, hright⟩ := h
  refine Closable.of_plain fun c hc => isPlain_of_isBlank_or ?_
  rcases List.mem_append.mp hc with hc | hc
  · rcases List.mem_append.mp hc with hc | hc
    · exact .inl (hleft c hc)
    · exact .inr ((isNameChar_of_isFieldName hname).2 c hc)
  · exact .inl (hright c hc)

/-! ## Written tags under the direct scan -/

/-- **A written tag is read as its segment**; the scan goes on behind it with nothing pending. -/
theorem segments_tag {part : Written} (h : part.Sound) (htag : part.isText = false)
    (before run rest : List Char) :
    Direct.segments before run (part.source ++ rest) =
      (Direct.segments (before ++ part.source) [] rest).map
        (Direct.flush run ++ part.segment (Text.byteLength before) :: ·) := by
  cases part with
  | text content => cases htag
  | field name left right =>
    have hclosable := h.closable
    obtain ⟨hname, hleft, hright⟩ := h
    obtain ⟨htrim, hblanks⟩ := trim_name hleft hname hright
    obtain ⟨hbody, hskipped⟩ := hclosable.untrimmed rest
    have hreference : Direct.reference? (before ++ TagKind.output.source) (left ++ name ++ right) =
        some ⟨String.ofList name, nameStart (Text.byteLength before) left,
          nameStart (Text.byteLength before) left + Text.byteLength name⟩ := by
      unfold Direct.reference? nameStart
      rw [htrim, show (left ++ name ++ right).takeWhile Text.isBlank = left from hblanks,
        if_pos hname]
      simp only [TagKind.source, Text.byteLength_append, Nat.add_assoc]
    have hsource : (Written.field name left right).source ++ rest =
        TagKind.output.source ++ (left ++ name ++ right ++ '%' :: '>' :: rest) := by
      simp only [source, TagKind.source, List.append_assoc, List.cons_append, List.nil_append]
    rw [hsource, Direct.segments_output, hclosable.ending_eq TagKind.noConfusion, Option.bind_some,
      hbody, hreference, Option.bind_some, hskipped, List.length_nil, List.drop_zero,
      List.append_nil]
    simp only [source, TagKind.source, List.append_assoc, segment]
  | comment content =>
    have hclosable : Closable content := h
    obtain ⟨-, hskipped⟩ := hclosable.untrimmed rest
    have hsource : (Written.comment content).source ++ rest =
        TagKind.comment.source ++ (content ++ '%' :: '>' :: rest) := by
      simp only [source, TagKind.source, List.append_assoc, List.cons_append, List.nil_append]
    rw [hsource, Direct.segments_comment, hclosable.ending_eq TagKind.noConfusion, Option.bind_some,
      hskipped, List.length_nil, List.drop_zero, List.append_nil]
    simp only [source, TagKind.source, List.append_assoc, segment]

/-! ## The round trip -/

/-- A written tag starts with its opener. -/
theorem head?_source (part : Written) (htag : part.isText = false) (rest : List Char) :
    (part.source ++ rest).head? = some '<' := by
  cases part with
  | text content => cases htag
  | field name left right => rfl
  | comment content => rfl

/-- Behind a text there is no text. -/
theorem Apart.isText_head? {content : List Char} {parts : List Written}
    (h : Apart (.text content :: parts)) : ∀ part ∈ parts.head?, part.isText = false := by
  intro part hpart
  obtain ⟨others, rfl⟩ := List.head?_eq_some_iff.mp hpart
  cases part with
  | text next => exact h.elim
  | field name left right => rfl
  | comment content => rfl

/-- Behind a text there is nothing or the opener of a tag. -/
theorem Apart.head?_flatMap {content : List Char} {parts : List Written}
    (h : Apart (.text content :: parts)) : (parts.flatMap source).head? ≠ some '%' := by
  cases parts with
  | nil => exact fun h => nomatch h
  | cons part parts =>
    rw [List.flatMap_cons, head?_source part (h.isText_head? part rfl)]
    decide

/-- The parts behind one that stands apart from them stand apart themselves. -/
theorem Apart.tail {part : Written} {parts : List Written} (h : Apart (part :: parts)) :
    Apart parts := by
  cases part with
  | text content =>
    cases parts with
    | nil => trivial
    | cons next parts =>
      cases next with
      | text other => exact h.elim
      | field name left right => exact h
      | comment other => exact h
  | field name left right => exact h
  | comment content => exact h

/-- **The direct scan reads what was written**, part after part. Literal characters may be pending
in front of it, unless it begins with a text, which they would be joined to. -/
theorem segments_written {parts : List Written} (hsound : ∀ part ∈ parts, part.Sound)
    (hapart : Apart parts) (before run : List Char)
    (hrun : run = [] ∨ ∀ part ∈ parts.head?, part.isText = false) :
    Direct.segments before run (parts.flatMap source) =
      some (Direct.flush run ++ segmentsFrom (Text.byteLength before) parts) := by
  induction parts generalizing before run with
  | nil =>
    rw [List.flatMap_nil, Direct.segments, segmentsFrom, List.append_nil]
  | cons part parts ih =>
    have hpart : part.Sound := hsound part List.mem_cons_self
    have hothers : ∀ other ∈ parts, other.Sound := fun other h =>
      hsound other (List.mem_cons_of_mem part h)
    rw [List.flatMap_cons, segmentsFrom, ← Text.byteLength_append]
    cases htext : part.isText with
    | false =>
      rw [segments_tag hpart htext, ih hothers hapart.tail _ [] (.inl rfl)]
      rfl
    | true =>
      cases part with
      | field name left right => cases htext
      | comment content => cases htext
      | text content =>
        have hnone : run = [] := hrun.resolve_right fun h => Bool.noConfusion (h _ rfl)
        have hflush : Direct.flush content = [.text (String.ofList content)] :=
          if_neg fun h => hpart (List.isEmpty_iff.mp h)
        show Direct.segments before run (escape content ++ parts.flatMap source) = _
        rw [hnone, segments_escape content hapart.head?_flatMap, List.nil_append,
          ih hothers hapart.tail _ content (.inr hapart.isText_head?), hflush]
        rfl

end Written

/-- **What is written is read back**: written parts that are sound, no text next to a text, parse to
exactly their segments, every field with the bytes at which its name stands. In particular every
text, whatever it holds, is read back from its escaped form. -/
theorem parse_written :
    (∀ parts : List Written, (∀ part ∈ parts, part.Sound) → Written.Apart parts →
      parse (String.ofList (parts.flatMap Written.source)) =
        .ok ⟨Written.segmentsFrom 0 parts⟩) ∧
    ∀ content : String, content ≠ "" →
      parse (String.ofList (Written.escape content.toList)) = .ok ⟨[.text content]⟩ := by
  have hparts : ∀ parts : List Written, (∀ part ∈ parts, part.Sound) → Written.Apart parts →
      parse (String.ofList (parts.flatMap Written.source)) =
        .ok ⟨Written.segmentsFrom 0 parts⟩ := by
    intro parts hsound hapart
    rw [parse_eq_ok_iff, Direct.scan, String.toList_ofList]
    exact Written.segments_written hsound hapart [] [] (.inl rfl)
  refine ⟨hparts, fun content hcontent => ?_⟩
  have hsound : (Written.text content.toList).Sound := fun h =>
    hcontent (String.toList_eq_nil_iff.mp h)
  have htext := hparts [.text content.toList] (List.forall_mem_singleton.mpr hsound) trivial
  rw [List.flatMap_singleton] at htext
  rw [show Written.escape content.toList = (Written.text content.toList).source from rfl, htext]
  simp only [Written.segmentsFrom, Written.segment, String.ofList_toList]

/-- Blanks of three bytes around a name, text that looks like tags, a line break behind a closer. -/
theorem parse_written_mixed :
    parse "<%%= -%>é<<%=\u2003\nproject_name\t%>\n%>%<%# % <%= %%>" =
        .ok ⟨[.text "<%= -%>é<", .field ⟨"project_name", ⟨18, 30⟩⟩, .text "\n%>%", .comment]⟩ ∧
      parse "<%%%><%%" = .ok ⟨[.text "<%%><%"]⟩ := by
  have hparts := parse_written.1 [.text ['<', '%', '=', ' ', '-', '%', '>', 'é', '<'],
    .field "project_name".toList ['\u2003', '\n'] ['\t'], .text ['\n', '%', '>', '%'],
    .comment [' ', '%', ' ', '<', '%', '=', ' ', '%']]
  have htext := parse_written.2 "<%%><%" (by decide)
  refine ⟨hparts (fun part hpart => ?_) trivial, htext⟩
  simp only [List.mem_cons, List.not_mem_nil, or_false] at hpart
  rcases hpart with rfl | rfl | rfl | rfl
  · exact List.cons_ne_nil _ _
  · exact ⟨by decide, List.all_eq_true.mp rfl, List.all_eq_true.mp rfl⟩
  · exact List.cons_ne_nil _ _
  · exact ⟨by decide, by decide, by decide, by decide⟩

end Doxyfile.Template
