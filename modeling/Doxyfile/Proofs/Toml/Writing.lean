import Doxyfile.Toml.Parse

/-!
# Writing a TOML document

A document can be written with one line for each of its entries: a bare key, an equals sign, and a
text in quotes, a flag, or a list of texts in brackets. Not everything about it is laid down, and
what is left free is a `Style`.

Every value that is written so is read back, whatever follows it on its line (`value_quoted`,
`value_flag`, `value_array`), and so is a document of such lines with distinct keys
(`parse_document`). That the characters of a text come back is an induction over them
(`basicText_escaped`): of each one the escape takes up as much as is written for it.
-/

namespace Doxyfile.Toml

/-- What is free in writing a document. -/
structure Style where
  /-- Whether hexadecimal digits are capital letters. -/
  capital : Bool
  /-- How many spaces follow a comma. -/
  gap : Nat
  /-- Whether the last line ends in a line break, too. -/
  terminated : Bool
deriving DecidableEq, Repr

namespace Style

/-! ## Texts -/

/-- A hexadecimal digit. -/
def digit (style : Style) (value : Nat) : Char :=
  if style.capital then (Nat.digitChar value).toUpper else Nat.digitChar value

/-- A character as it stands in quotes: the quote, the backslash and the controls of ASCII are
escaped, the controls by their code points. -/
def escaped (style : Style) (c : Char) : List Char :=
  if c = '"' then ['\\', '"']
  else if c = '\\' then ['\\', '\\']
  else if c.toNat < 0x20 ∨ c.toNat = 0x7F then
    ['\\', 'u', '0', '0', style.digit (c.toNat / 16), style.digit (c.toNat % 16)]
  else [c]

/-- A text in quotes. -/
def quoted (style : Style) (text : String) : List Char :=
  '"' :: text.toList.flatMap style.escaped ++ ['"']

theorem hexDigit?_digit (style : Style) {value : Nat} (h : value < 16) :
    hexDigit? (style.digit value) = some value := by
  obtain ⟨capital, gap, terminated⟩ := style
  have hall : ∀ capital : Bool, ∀ value < 16,
      hexDigit? (if capital then (Nat.digitChar value).toUpper else Nat.digitChar value) =
        some value := by
    decide
  exact hall capital value h

/-- **The digits of an ASCII character are read as its code point.** -/
theorem codePoint?_digits (style : Style) {c : Char} (h : c.toNat < 128) :
    codePoint? ['0', '0', style.digit (c.toNat / 16), style.digit (c.toNat % 16)] = some c := by
  have hhigh := style.hexDigit?_digit (show c.toNat / 16 < 16 by omega)
  have hlow := style.hexDigit?_digit (show c.toNat % 16 < 16 by omega)
  have hzero : hexDigit? '0' = some 0 := rfl
  have hcode : 16 * (16 * (16 * (16 * 0 + 0) + 0) + c.toNat / 16) + c.toNat % 16 = c.toNat := by
    omega
  have hvalid : c.toNat.isValidChar := c.valid
  simp only [codePoint?, List.mapM_cons, List.mapM_nil, hzero, hhigh, hlow, Option.pure_def,
    Option.bind_eq_bind, Option.bind_some, List.foldl_cons, List.foldl_nil, hcode, if_pos hvalid,
    Char.ofNat_toNat]

/-- **Whatever is written for a character is read as that character.** -/
theorem basicText_escaped (style : Style) (c : Char) (rest : List Char) :
    basicText (style.escaped c ++ rest) = withChar c (basicText rest) := by
  unfold escaped
  split
  next hquote =>
    subst hquote
    rfl
  next hquote =>
    split
    next hslash =>
      subst hslash
      rfl
    next hslash =>
      split
      next hcontrol =>
        have hcode := style.codePoint?_digits (c := c) (by omega)
        show basicText ('\\' :: 'u' :: '0' :: '0' :: _ :: _ :: rest) = _
        rw [basicText, hcode]
        rfl
      next hplain =>
        have hbasic : isBasicChar c = true := by
          simp only [isBasicChar, isCommentChar, Bool.and_eq_true, Bool.or_eq_true, bne_iff_ne,
            decide_eq_true_eq]
          refine ⟨⟨.inr ⟨?_, ?_⟩, hquote⟩, hslash⟩ <;> omega
        show basicText (c :: rest) = _
        rw [basicText, if_pos hbasic]
        · exact hquote
        · exact fun _ _ _ _ _ h => absurd h hslash
        · exact fun _ _ _ _ _ _ _ _ _ h => absurd h hslash
        · exact fun _ _ h => absurd h hslash

/-- **The characters of a text are read back** up to the closing quote. -/
theorem basicText_flatMap_escaped (style : Style) (text rest : List Char) :
    basicText (text.flatMap style.escaped ++ '"' :: rest) = some (text, rest) := by
  induction text with
  | nil => rfl
  | cons c text ih =>
    rw [List.flatMap_cons, List.append_assoc, basicText_escaped, ih]
    rfl

/-- No character begins with a quote as it is written. -/
theorem head?_escaped (style : Style) (c : Char) (rest : List Char) :
    (style.escaped c ++ rest).head? ≠ some '"' := by
  unfold escaped
  split
  next => simp
  next hquote =>
    split
    next => simp
    next =>
      split
      next => simp
      next => exact fun h => hquote (Option.some.inj h)

/-- **A text in quotes is read back**, also an empty one, when no third quote follows. -/
theorem string_quoted (style : Style) (text : String) {rest : List Char}
    (h : rest.head? ≠ some '"') : string (style.quoted text ++ rest) = some (text, rest) := by
  have hread : basicText (text.toList.flatMap style.escaped ++ '"' :: rest) =
      some (text.toList, rest) := style.basicText_flatMap_escaped _ _
  have hlines : ∀ cs, text.toList.flatMap style.escaped ++ '"' :: rest ≠ '"' :: '"' :: cs := by
    intro cs heq
    cases htext : text.toList with
    | nil =>
      rw [htext] at heq
      obtain ⟨-, rfl⟩ := List.cons.inj heq
      exact h rfl
    | cons c others =>
      rw [htext, List.flatMap_cons, List.append_assoc] at heq
      exact style.head?_escaped c _ (by rw [heq]; rfl)
  have hsource : style.quoted text ++ rest =
      '"' :: (text.toList.flatMap style.escaped ++ '"' :: rest) := by
    simp only [quoted, List.cons_append, List.append_assoc, List.nil_append]
  rw [hsource, string, hread]
  · exact congrArg some (Prod.ext String.ofList_toList rfl)
  · exact hlines

/-! ## Values -/

/-- A flag. -/
def flag : Bool → List Char
  | true => "true".toList
  | false => "false".toList

/-- Texts, and what closes the array they are the items of. -/
def items (style : Style) : List String → List Char
  | [] => [']']
  | [text] => style.quoted text ++ [']']
  | text :: texts => style.quoted text ++ ',' :: (List.replicate style.gap ' ' ++ style.items texts)

/-- An array of texts on one line. -/
def array (style : Style) (texts : List String) : List Char :=
  '[' :: style.items texts

theorem value_quoted (style : Style) (depth : Nat) (text : String) {rest : List Char}
    (h : rest.head? ≠ some '"') :
    value depth (style.quoted text ++ rest) = some (.string text, rest) := by
  have hscalar : scalar (style.quoted text ++ rest) = some (.string text, rest) := by
    show (string (style.quoted text ++ rest)).map _ = _
    rw [string_quoted style text h]
    rfl
  cases depth with
  | zero => exact hscalar
  | succ depth => exact hscalar

theorem value_flag (depth : Nat) (on : Bool) (rest : List Char) :
    value depth (flag on ++ rest) = some (.boolean on, rest) := by
  cases depth <;> cases on <;> rfl

/-- Spaces in front of an item are passed over. -/
theorem arrayItems_spaces (item : Reader Value) (limit count : Nat) (rest : List Char) :
    arrayItems item limit (List.replicate count ' ' ++ rest) = arrayItems item limit rest := by
  have hskip : skipFiller false (List.replicate count ' ' ++ rest) = skipFiller false rest := by
    induction count with
    | zero => rfl
    | succ count ih => exact ih
  cases limit with
  | zero => rfl
  | succ limit =>
    unfold arrayItems
    rw [hskip]

/-- **The items of an array are read back** up to its closing bracket. -/
theorem arrayItems_items (style : Style) (depth : Nat) (texts : List String) (rest : List Char)
    {limit : Nat} (h : texts.length < limit) :
    arrayItems (value depth) limit (style.items texts ++ rest) =
      some (texts.map .string, rest) := by
  induction texts generalizing limit with
  | nil =>
    obtain ⟨limit, rfl⟩ := Nat.exists_eq_succ_of_ne_zero (Nat.ne_zero_of_lt h)
    rfl
  | cons text texts ih =>
    obtain ⟨limit, rfl⟩ := Nat.exists_eq_succ_of_ne_zero (Nat.ne_zero_of_lt h)
    cases texts with
    | nil =>
      have hitem : value depth (style.quoted text ++ ']' :: rest) =
          some (.string text, ']' :: rest) := style.value_quoted depth text (by simp)
      rw [items, List.append_assoc]
      show (value depth (style.quoted text ++ ']' :: rest)).bind _ = _
      rw [hitem]
      rfl
    | cons next texts =>
      have hitem : ∀ tail, value depth (style.quoted text ++ ',' :: tail) =
          some (.string text, ',' :: tail) := fun _ => style.value_quoted depth text (by simp)
      have hothers := (arrayItems_spaces (value depth) limit style.gap _).trans
        (ih (Nat.lt_of_succ_lt_succ h))
      rw [items, List.append_assoc, List.cons_append, List.append_assoc]
      · show (value depth (style.quoted text ++ ',' :: _)).bind _ = _
        rw [hitem]
        show (arrayItems (value depth) limit _).bind _ = _
        rw [hothers]
        rfl
      · exact List.cons_ne_nil next texts

theorem length_le_length_items (style : Style) (texts : List String) :
    texts.length ≤ (style.items texts).length := by
  induction texts with
  | nil => exact Nat.zero_le _
  | cons text texts ih =>
    cases texts with
    | nil => simp [items, quoted]
    | cons next texts =>
      rw [items]
      · simp only [List.length_cons, List.length_append] at ih ⊢
        omega
      · exact List.cons_ne_nil next texts

theorem value_array (style : Style) (depth : Nat) (texts : List String) (rest : List Char) :
    value (depth + 1) (style.array texts ++ rest) = some (.array (texts.map .string), rest) := by
  have hlength : texts.length < (style.items texts ++ rest).length + 1 := by
    have := style.length_le_length_items texts
    rw [List.length_append]
    omega
  have hitems := style.arrayItems_items depth texts rest hlength
  show (arrayItems (value depth) ((style.items texts ++ rest).length + 1)
    (style.items texts ++ rest)).bind _ = _
  rw [hitems]
  rfl

end Style

/-- **The characters are read as the value** wherever a value can stand and no quote follows, and
they do not start with a space. -/
structure Written (text : List Char) (value : Value) : Prop where
  skipSpace_append : ∀ rest, skipSpace (text ++ rest) = text ++ rest
  value_append : ∀ rest, rest.head? ≠ some '"' →
    Toml.value maxDepth (text ++ rest) = some (value, rest)

namespace Style

theorem written_quoted (style : Style) (text : String) :
    Written (style.quoted text) (.string text) :=
  ⟨fun _ => rfl, fun _ h => style.value_quoted maxDepth text h⟩

theorem written_flag (on : Bool) : Written (flag on) (.boolean on) :=
  ⟨fun _ => by cases on <;> rfl, fun rest _ => value_flag maxDepth on rest⟩

theorem written_array (style : Style) (texts : List String) :
    Written (style.array texts) (.array (texts.map .string)) :=
  ⟨fun _ => rfl, fun rest _ => style.value_array (maxDepth - 1) texts rest⟩

/-! ## Documents -/

/-- Lines one after the other, with line breaks between them. -/
def document (style : Style) : List (List Char) → List Char
  | [] => []
  | [line] => if style.terminated then line ++ ['\n'] else line
  | line :: lines => line ++ '\n' :: style.document lines

/-- Between a line and those behind it stands what ends the line. -/
theorem exists_document_cons (style : Style) (line : List Char) (lines : List (List Char)) :
    ∃ ending, style.document (line :: lines) = line ++ (ending ++ style.document lines) ∧
      lineEnd? (ending ++ style.document lines) = some (style.document lines) := by
  cases lines with
  | cons next lines => exact ⟨['\n'], rfl, rfl⟩
  | nil =>
    by_cases h : style.terminated
    · exact ⟨['\n'], if_pos h, rfl⟩
    · exact ⟨[], (if_neg h).trans (List.append_nil line).symm, rfl⟩

end Style

/-- **A line of a document**: a key without quotes, and a value as it is written. -/
structure Line where
  key : String
  text : List Char
  value : Value
  key_ne_nil : key.toList ≠ []
  isKeyChar_of_mem : ∀ c ∈ key.toList, isKeyChar c = true
  written : Written text value

namespace Line

/-- The characters of the line. -/
def source (line : Line) : List Char :=
  line.key.toList ++ [' ', '=', ' '] ++ line.text

/-- The line as an entry of a table. -/
def entry (line : Line) : String × Value :=
  (line.key, line.value)

/-- A line begins with the first character of its key. -/
theorem exists_source_append (line : Line) (rest : List Char) :
    ∃ c cs, line.source ++ rest = c :: cs ∧ isKeyChar c = true := by
  obtain ⟨c, cs, hkey⟩ := List.exists_cons_of_ne_nil line.key_ne_nil
  refine ⟨c, cs ++ [' ', '=', ' '] ++ line.text ++ rest, ?_,
    line.isKeyChar_of_mem c (hkey ▸ List.mem_cons_self)⟩
  rw [source, hkey]
  rfl

/-- What is no character of a key begins no line. -/
theorem source_append_ne (line : Line) (rest : List Char) {c : Char} (h : isKeyChar c = false)
    (cs : List Char) : line.source ++ rest ≠ c :: cs := by
  obtain ⟨first, others, hsource, hfirst⟩ := line.exists_source_append rest
  rw [hsource]
  rintro heq
  obtain ⟨rfl, -⟩ := List.cons.inj heq
  exact absurd (hfirst.symm.trans h) (by decide)

theorem skipSpace_source (line : Line) (rest : List Char) :
    skipSpace (line.source ++ rest) = line.source ++ rest := by
  obtain ⟨c, cs, hsource, hc⟩ := line.exists_source_append rest
  rw [hsource]
  refine List.dropWhile_cons_of_neg fun h => ?_
  simp only [isSpace, Bool.or_eq_true, beq_iff_eq] at h
  rcases h with rfl | rfl <;> exact absurd hc (by decide)

/-- A line is not empty, and no comment. -/
theorem lineEnd?_source (line : Line) (rest : List Char) :
    lineEnd? (line.source ++ rest) = none := by
  rw [lineEnd?, skipSpace_source]
  split
  next cs heq => exact absurd heq (line.source_append_ne rest (by decide) cs)
  next =>
    obtain ⟨c, cs, hsource, -⟩ := line.exists_source_append rest
    have hbreak := line.source_append_ne rest (c := '\n') (by decide)
    have hreturn := line.source_append_ne rest (c := '\r') (by decide)
    rw [hsource] at hbreak hreturn ⊢
    show lineBreak? (c :: cs) = none
    rw [lineBreak?]
    · exact hbreak
    · exact fun others => hreturn ('\n' :: others)

/-- **The key of a line is read back** up to the space behind it. -/
theorem simpleKey_source (line : Line) (rest : List Char) :
    simpleKey (line.source ++ rest) =
      some (line.key, ' ' :: '=' :: ' ' :: (line.text ++ rest)) := by
  have hsource : line.source ++ rest =
      line.key.toList ++ ' ' :: '=' :: ' ' :: (line.text ++ rest) := by
    simp only [source, List.append_assoc, List.cons_append, List.nil_append]
  have htake : (line.source ++ rest).takeWhile isKeyChar = line.key.toList := by
    rw [hsource, List.takeWhile_append_of_pos line.isKeyChar_of_mem]
    exact List.append_nil _
  have hdrop : (line.source ++ rest).dropWhile isKeyChar =
      ' ' :: '=' :: ' ' :: (line.text ++ rest) := by
    rw [hsource, List.dropWhile_append_of_pos line.isKeyChar_of_mem]
    rfl
  rw [simpleKey, htake, hdrop]
  · split
    next hnil => exact absurd hnil line.key_ne_nil
    next => rw [String.ofList_toList]
  · exact line.source_append_ne rest (by decide)
  · exact line.source_append_ne rest (by decide)

/-- **A line is read back** as its entry, when the end of a line follows. -/
theorem statement_source (line : Line) {rest after : List Char} (h : lineEnd? rest = some after) :
    statement (line.source ++ rest) = some (.entry [line.key] line.value, after) := by
  have hquote : rest.head? ≠ some '"' := by
    intro hhead
    obtain ⟨tail, rfl⟩ := List.head?_eq_some_iff.mp hhead
    cases h
  have hkey : dottedKey maxDepth (line.source ++ rest) =
      some ([line.key], '=' :: ' ' :: (line.text ++ rest)) := by
    show ((simpleKey (skipSpace (line.source ++ rest))).bind _) = _
    rw [skipSpace_source, simpleKey_source]
    rfl
  have hentry : keyValue (Toml.value maxDepth) (line.source ++ rest) =
      some (([line.key], line.value), rest) := by
    rw [keyValue, hkey]
    show (Toml.value maxDepth (skipSpace (line.text ++ rest))).bind _ = _
    rw [line.written.skipSpace_append, line.written.value_append rest hquote]
    rfl
  rw [statement, hentry]
  · show (lineEnd? rest).bind _ = _
    rw [h]
    rfl
  · exact fun cs => line.source_append_ne rest (by decide) ('[' :: cs)
  · exact line.source_append_ne rest (by decide)

theorem statements_source (line : Line) {rest after : List Char} (h : lineEnd? rest = some after)
    (limit : Nat) :
    statements (limit + 1) (line.source ++ rest) =
      (statements limit after).map (.entry [line.key] line.value :: ·) := by
  rw [statements, skipSpace_source]
  split
  next heq =>
    obtain ⟨c, cs, hsource, -⟩ := line.exists_source_append rest
    rw [heq] at hsource
    cases hsource
  next =>
    rw [lineEnd?_source, line.statement_source h]
    show (statements limit after).bind _ = _
    cases statements limit after <;> rfl

end Line

/-- **A document of lines is read back** as their statements. -/
theorem statements_document (style : Style) (lines : List Line) {limit : Nat}
    (h : lines.length < limit) :
    statements limit (style.document (lines.map Line.source)) =
      some (lines.map fun line => .entry [line.key] line.value) := by
  induction lines generalizing limit with
  | nil =>
    obtain ⟨limit, rfl⟩ := Nat.exists_eq_succ_of_ne_zero (Nat.ne_zero_of_lt h)
    rfl
  | cons line lines ih =>
    obtain ⟨limit, rfl⟩ := Nat.exists_eq_succ_of_ne_zero (Nat.ne_zero_of_lt h)
    obtain ⟨ending, hdocument, hending⟩ :=
      style.exists_document_cons line.source (lines.map Line.source)
    rw [List.map_cons, hdocument, line.statements_source hending, ih (Nat.lt_of_succ_lt_succ h)]
    rfl

theorem length_le_length_document (style : Style) (lines : List Line) :
    lines.length ≤ (style.document (lines.map Line.source)).length := by
  induction lines with
  | nil => exact Nat.zero_le _
  | cons line lines ih =>
    obtain ⟨ending, hdocument, -⟩ :=
      style.exists_document_cons line.source (lines.map Line.source)
    have hpos : line.source.length ≠ 0 := by
      simp [Line.source]
    rw [List.map_cons, hdocument]
    simp only [List.length_cons, List.length_append]
    omega

/-- **Entries with new keys are added** behind those that are there. -/
theorem foldlM_step (lines : List Line) (root : Entries)
    (h : (root.map Prod.fst ++ lines.map Line.key).Nodup) :
    (lines.map fun line => Statement.entry [line.key] line.value).foldlM Builder.step ⟨root, []⟩ =
      some ⟨root ++ lines.map fun line => (line.key, .leaf line.value), []⟩ := by
  induction lines generalizing root with
  | nil => simp
  | cons line lines ih =>
    have hnew : root.lookup line.key = none := by
      rw [List.lookup_eq_none_iff]
      intro entry hentry
      have hne := (List.nodup_append.mp h).2.2 entry.1 (List.mem_map_of_mem hentry) line.key
        List.mem_cons_self
      simpa using hne.symm
    have hstep : Builder.step ⟨root, []⟩ (.entry [line.key] line.value) =
        some ⟨root ++ [(line.key, .leaf line.value)], []⟩ := by
      show (Entries.assign line.value [line.key] root).bind _ = _
      rw [Entries.assign, hnew]
      rfl
    rw [List.map_cons, List.foldlM_cons, hstep]
    show List.foldlM _ _ _ = _
    rw [ih]
    · simp only [List.map_cons, List.append_assoc, List.singleton_append]
    · simpa only [List.map_append, List.map_cons, List.map_nil, List.append_assoc,
        List.singleton_append] using h

/-- The values of entries that are all leaves. -/
theorem values_leaves (lines : List Line) :
    Entries.values (lines.map fun line => (line.key, .leaf line.value)) =
      lines.map Line.entry := by
  induction lines with
  | nil => rfl
  | cons line lines ih =>
    rw [List.map_cons, Entries.values, ih]
    rfl

/-- **A document of lines with distinct keys gives their entries.** -/
theorem parse_document (style : Style) {lines : List Line} (h : (lines.map Line.key).Nodup) :
    parse (String.ofList (style.document (lines.map Line.source))) =
      some (lines.map Line.entry) := by
  have hmark : skipMark (style.document (lines.map Line.source)) =
      style.document (lines.map Line.source) := by
    cases lines with
    | nil => rfl
    | cons line lines =>
      obtain ⟨ending, hdocument, -⟩ :=
        style.exists_document_cons line.source (lines.map Line.source)
      rw [List.map_cons, hdocument, skipMark]
      exact line.source_append_ne _ (by decide)
  have hstatements := statements_document style lines
    (Nat.lt_succ_of_le (length_le_length_document style lines))
  have hbuilt := foldlM_step lines [] h
  simp only [parse, String.toList_ofList, hmark, hstatements, hbuilt, Option.bind_eq_bind,
    Option.bind_some, List.nil_append, values_leaves]

end Doxyfile.Toml
