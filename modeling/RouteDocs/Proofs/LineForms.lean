import Mathlib.Data.List.Basic
import Mathlib.Data.List.TakeWhile
import RouteDocs.Doc.Block
import RouteDocs.Proofs.TextLines

namespace RouteDocs
open Text

/-! ## Writing documentation blocks

A block has the summary, the paragraphs of the description, the known sections as far as there is
something to say, and the other sections as they stand, with an empty line before each of them.

`EndpointDoc.Writable` says what can be written this way: every text is on one line, what begins a
line does not look like a heading, and no text has the signs in it that would end it early.
-/

namespace Doc

/-- A value behind a label. For an empty one there is nothing to write. -/
def spaced (value : Chars) : Chars := if value.isEmpty then [] else ' ' :: value

def headingLine (title : Chars) : Chars := '#' :: ' ' :: title

/-- The bullet of a parameter: `- name (place): description`. -/
def Parameter.line (param : Parameter) : Chars :=
  '-' :: ' ' :: (param.name.toList ++ ' ' :: '(' :: (param.location.word.toList ++
    ')' :: ':' :: spaced param.description.toList))

def RequestBody.lines (body : RequestBody) : List Chars :=
  ("Content-Type:".toList ++ spaced body.contentType.toList) ::
    ((body.schema?.toList.map fun schema => "Schema:".toList ++ spaced schema.toList) ++
      if body.description.toList.isEmpty then [] else [body.description.toList])

/-- A key with its value: `key: value` or `- key: value`. -/
def KeyLine.text (line : KeyLine) : Chars :=
  (if line.item then ['-', ' '] else []) ++ (line.key ++ ':' :: spaced line.value)

def keyed (key value : String) : KeyLine := ⟨key.toList, value.toList, false⟩

def indentedLine (line : Nat × KeyLine) : Chars :=
  List.replicate (indentWidth * line.1) ' ' ++ line.2.text

def Example.valueText (sample : Example) : String := match sample.value with
  | .string text => text
  | _ => ""

def Example.lines (sample : Example) : List (Nat × KeyLine) :=
  (4, ⟨"name".toList, sample.name.toList, true⟩) ::
    ((sample.summary?.toList.map fun summary => (5, keyed "summary" summary)) ++
      [(5, keyed "value" sample.valueText)])

def mediaLines (schema? : Option String) (examples : List Example) : List (Nat × KeyLine) :=
  (schema?.toList.map fun schema => (3, keyed "schema" schema)) ++
    if examples.isEmpty then [] else (3, keyed "examples" "") :: examples.flatMap Example.lines

/-- The bullet of a response: `- status: description`. -/
def statusLine (status : Int) (about : String) : Chars :=
  '-' :: ' ' :: ((toString status).toList ++ ':' :: spaced about.toList)

namespace Response
def headLine : Response -> Chars
  | simple status about => statusLine status about
  | elaborate status .. => statusLine status ""

def block : Response -> List (Nat × KeyLine)
  | simple .. => []
  | elaborate _ about contentType schema? examples =>
    (1, keyed "description" about) :: (1, keyed "content" "") :: (2, keyed contentType "") ::
      mediaLines schema? examples

def lines (resp : Response) : List Chars := resp.headLine :: resp.block.map indentedLine
end Response
end Doc

namespace EndpointDoc
open Doc

def writtenSections (doc : EndpointDoc) : List (Chars × List Chars) :=
  (if doc.parameters.isEmpty then [] else [("Parameters".toList, doc.parameters.map Parameter.line)]) ++
    ((doc.requestBody?.toList.map fun body => ("Request Body".toList, body.lines)) ++
      ((if doc.responses.isEmpty then []
        else [("Responses".toList, doc.responses.values.flatMap Response.lines)]) ++
        doc.extensions.entries.map fun (title, text) =>
          (title.toList, splitAt '\n' text.toList)))

def writtenParts (doc : EndpointDoc) : List (List Chars) :=
  (if doc.description.toList.isEmpty then [] else [splitAt '\n' doc.description.toList]) ++
    doc.writtenSections.map fun (title, lines) => headingLine title :: lines

def write (doc : EndpointDoc) : String := String.ofList (joinWith ['\n']
    (doc.summary.toList :: doc.writtenParts.flatMap fun part => [] :: part))
end EndpointDoc

namespace Doc
def HeadingForm (line : Chars) : Prop :=
  ∃ marks blanks title, (marks = ['#'] \/ marks = ['#', '#']) /\
    blanks ≠ [] /\ (∀ c ∈ blanks, isBlank c = true) /\ (∃ c ∈ title, isBlank c = false) /\
    line = marks ++ (blanks ++ title)

@[mk_iff]
structure Filled (text : String) : Prop where
  oneLine : OneLine text.toList
  filled : text.toList ≠ []

@[mk_iff]
structure Passage (text : String) : Prop extends Filled text where
  unmarked : ¬ HeadingForm text.toList

structure Unenclosed (text : String) : Prop where
  oneLine : OneLine text.toList
  unenclosed : ∀ quote inner, quote = '"' ∨ quote = '\'' -> text.toList ≠ quote :: (inner ++ [quote])

@[mk_iff]
structure Parameter.Writable (param : Parameter) : Prop where
  named : param.name.toList ≠ []
  unbroken : ∀ c ∈ param.name.toList, isBlank c = false ∧ c ≠ '('
  description : OneLine param.description.toList

structure RequestBody.Writable (body : RequestBody) : Prop where
  contentType : Filled body.contentType
  schema : ∀ schema, body.schema? = some schema -> Filled schema
  description : body.description = "" ∨ (Passage body.description ∧
    ¬ "Content-Type:".toList <+: body.description.toList ∧ ¬ "Schema:".toList <+: body.description.toList)

structure Example.Writable (sample : Example) : Prop where
  name : Unenclosed sample.name
  summary : ∀ summary, sample.summary? = some summary -> Unenclosed summary
  value : ∃ text, sample.value = .string text ∧ Unenclosed text ∧
    ∀ c, text.toList.head? = some c -> c ≠ '\x7b' ∧ c ≠ '['

/-- Text that can stand as a key, as media types do: it does not end early, and it does not begin
like an item. -/
@[mk_iff]
structure KeyText (text : String) : Prop extends Filled text where
  unended : ':' ∉ text.toList
  unmarked : ∀ c, text.toList.head? = some c -> c ≠ '-'

def Response.Sayable : Response -> Prop
  | simple _ about => Filled about
  | elaborate _ about contentType schema? examples =>
    Unenclosed about ∧ KeyText contentType ∧
      (∀ schema, schema? = some schema -> Filled schema) ∧ ∀ sample ∈ examples, sample.Writable

structure Response.Writable (resp : Response) : Prop where
  range : 100 <= resp.status ∧ resp.status <= 599
  sayable : resp.Sayable

/-- A line of a section with a title of its own.  It can be indented or empty. -/
@[mk_iff]
structure FreeLine (line : Chars) : Prop where
  flat : Flat line
  ends : ∀ c, line.getLast? = some c -> isBlank c = false
  unmarked : ¬ HeadingForm line

/-- The text of a section with a title of its own: lines, of which the first and the last are not
empty. -/
@[mk_iff]
structure FreeText (text : String) (lines : List Chars) : Prop where
  joined : text.toList = joinWith ['\n'] lines
  free : ∀ line ∈ lines, FreeLine line
  begins : ∃ line, lines.head? = some line ∧ line ≠ []
  ends : ∃ line, lines.getLast? = some line ∧ line ≠ []

def knownTitles : List String := ["Parameters", "Request Body", "Responses"]
end Doc

open Doc in
structure EndpointDoc.Writable (doc : EndpointDoc) : Prop where
  summary : Passage doc.summary
  description : ∃ paragraphs : List String, (∀ paragraph ∈ paragraphs, Passage paragraph) /\
    doc.description.toList = joinWith ['\n', '\n'] (paragraphs.map String.toList)
  parameters : ∀ param ∈ doc.parameters, param.Writable
  requestBody : ∀ body, doc.requestBody? = some body -> body.Writable
  responses : ∀ status resp, (status, resp) ∈ doc.responses.entries ->
    resp.status = status /\ resp.Writable
  extensions : ∀ title text, (title, text) ∈ doc.extensions.entries ->
    Filled title /\ title ∉ knownTitles /\ ∃ lines, FreeText text lines
  unwarned : doc.warnings = []
end RouteDocs

namespace RouteDocs.Doc
open List Text
open Text (OneLine isBlank trim trimStart)

/-!
# Reading written lines

Each form of a line is read back from what is written in it. A reading cuts the line at the first
sign that does not fit: no blank in the name of a parameter, no colon in a key, nothing but digits
in a status.
-/

variable {text rest line value : Chars} {c : Char}

theorem afterBlank?_of_eq_some (found : afterBlank? text = some rest) :
    ∃ blanks, blanks ≠ [] /\ (∀ c ∈ blanks, isBlank c = true) /\ text = blanks ++ rest := by
  cases text with
  | nil => cases found
  | cons first others =>
    rw [afterBlank?] at found
    split at found
    · rename_i blank
      cases found
      refine ⟨first :: others.takeWhile isBlank, cons_ne_nil _ _, ?_, ?_⟩
      · intro c mem
        rcases mem_cons.mp mem with same | later
        · rw [same]
          exact blank
        · exact mem_takeWhile_imp later
      · rw [cons_append, trimStart, takeWhile_append_dropWhile]
    · cases found

theorem afterMarks?_of_eq_some (found : afterMarks? line = some rest) :
    ∃ marks text, (marks = ['#'] \/ marks = ['#', '#']) /\ line = marks ++ text /\
      afterBlank? text = some rest := by
  unfold afterMarks? at found
  split at found
  · exact ⟨['#', '#'], _, .inr rfl, rfl, found⟩
  · exact ⟨['#'], _, .inl rfl, rfl, found⟩
  · cases found

theorem headingTitle?_eq_none (unmarked : ¬ HeadingForm line) : headingTitle? line = none := by
  unfold headingTitle?
  cases marked : afterMarks? line with
  | none => rfl
  | some rest =>
    obtain ⟨marks, text, eitherMarks, rfl, behind⟩ := afterMarks?_of_eq_some marked
    obtain ⟨blanks, present, blank, rfl⟩ := afterBlank?_of_eq_some behind
    have blankRest : isBlankText rest = true := by
      by_contra visible
      simp only [isBlankText, all_eq_true, not_forall, Bool.not_eq_true] at visible
      obtain ⟨c, mem, shown⟩ := visible
      exact unmarked ⟨marks, blanks, rest, eitherMarks, present, blank, ⟨c, mem, shown⟩, rfl⟩
    simp only [blankRest, if_true]

theorem afterMarks?_append (title : Chars) (eitherMarks : marks = ['#'] \/ marks = ['#', '#'])
    (present : blanks ≠ []) (blank : ∀ c ∈ blanks, isBlank c = true) :
    afterMarks? (marks ++ (blanks ++ title)) = some (trimStart title) := by
  obtain ⟨first, others, rfl⟩ := exists_cons_of_ne_nil present
  have here := blank first (.head _)
  have behind : afterBlank? (first :: others ++ title) = some (trimStart title) := by
    rw [cons_append, afterBlank?, if_pos here, trimStart,
      dropWhile_append_of_pos fun c mem => blank c (.tail _ mem)]
    rfl
  have ne : first ≠ '#' := by
    rintro rfl
    cases here
  rcases eitherMarks with rfl | rfl
  · rw [singleton_append, cons_append, afterMarks?.eq_2 _ fun _ same => ?_]
    · exact behind
    · exact ne (cons.inj same).1
  · exact behind

theorem HeadingForm.headingTitle?_ne_none (form : HeadingForm line) :
    headingTitle? line ≠ none := by
  obtain ⟨marks, blanks, title, eitherMarks, present, blank, ⟨c, mem, shown⟩, rfl⟩ := form
  -- The blanks that are passed over at the front of the title are not all of it.
  have visible : isBlankText (trimStart title) = false := by
    rw [<- takeWhile_append_dropWhile (p := isBlank) (l := title)] at mem
    rcases mem_append.mp mem with inBlanks | later
    · rw [mem_takeWhile_imp inBlanks] at shown
      cases shown
    · rw [isBlankText, all_eq_false]
      exact ⟨c, later, by rw [shown]; exact Bool.false_ne_true⟩
  simp only [headingTitle?, afterMarks?_append title eitherMarks present blank, visible,
    Bool.false_eq_true, if_false, ne_eq, reduceCtorEq, not_false_eq_true]

instance (line : Chars) : Decidable (HeadingForm line) :=
  decidable_of_iff (headingTitle? line ≠ none)
    ⟨fun found => Classical.byContradiction fun unmarked => found (headingTitle?_eq_none unmarked),
      HeadingForm.headingTitle?_ne_none⟩

theorem headingTitle?_of_head? (found : line.head? = some c) (ne : c ≠ '#') :
    headingTitle? line = none := by
  apply headingTitle?_eq_none
  rintro ⟨marks, blanks, title, rfl | rfl, -, -, -, rfl⟩
  · exact ne (Option.some.inj found).symm
  · exact ne (Option.some.inj found).symm

theorem headingTitle?_headingLine {title : Chars} (oneLine : OneLine title) (filled : title ≠ []) :
    headingTitle? (headingLine title) = some title := by
  have marked : afterMarks? (headingLine title) = some title :=
    congrArg some (dropWhile_of_head? oneLine.starts)
  have visible : isBlankText title = false := by
    cases title with
    | nil => exact absurd rfl filled
    | cons first rest => rw [isBlankText, all_cons, oneLine.starts first rfl, Bool.false_and]
  simp only [headingTitle?, marked, visible, Bool.false_eq_true, if_false, oneLine.trimEnd_eq]

structure SectionLine (line : Chars) : Prop where
  flat : Flat line
  ends : ∀ c, line.getLast? = some c -> isBlank c = false
  unmarked : headingTitle? line = none

theorem SectionLine.trimEnd_eq (inside : SectionLine line) : trimEnd line = line :=
  dropEndWhile_of_getLast? inside.ends

theorem sectionLine_of_head? (oneLine : OneLine line) (found : line.head? = some c)
    (ne : c ≠ '#') : SectionLine line :=
  ⟨oneLine.flat, oneLine.ends, headingTitle?_of_head? found ne⟩

theorem trim_spaced (unpadded : Unpadded value) : trim (spaced value) = value := by
  unfold spaced
  split
  · rename_i empty
    rw [isEmpty_iff.mp empty]
    rfl
  · exact unpadded.trim_append (forall_mem_singleton.mpr rfl)

theorem oneLine_append_spaced (labelled : OneLine label) (filled : label ≠ [])
    (oneLine : OneLine value) : OneLine (label ++ spaced value) := by
  unfold spaced
  split
  · rw [append_nil]
    exact labelled
  · rename_i notEmpty
    have some : value ≠ [] := fun empty => notEmpty (isEmpty_iff.mpr empty)
    exact labelled.append oneLine filled some (forall_mem_singleton.mpr ⟨by decide, rfl⟩)

theorem afterColon?_spaced (oneLine : OneLine value) :
    afterColon? (':' :: spaced value) = some value :=
  congrArg some (trim_spaced oneLine.unpadded)

theorem afterBullet?_of_starts (starts : ∀ c, text.head? = some c -> isBlank c = false) :
    afterBullet? ('-' :: ' ' :: text) = some text :=
  congrArg some (dropWhile_of_head? starts)

theorem Location.ofWord?_word (location : Location) : Location.ofWord? location.word = some location := by
  cases location <;> decide

theorem Location.place_word (location : Location) :
    String.ofList (lower (trim location.word.toList)) = location.word := by
  cases location <;> decide +kernel

section
variable {param : Parameter}

theorem Parameter.Writable.oneLine (writable : param.Writable) : OneLine param.line := by
  have name : OneLine param.name.toList :=
    oneLine_of_forall fun c mem => (writable.unbroken c mem).1
  have word : Flat param.location.word.toList := by
    cases param.location <;> decide
  have start : OneLine ['-'] := by decide
  have stop : OneLine [')', ':'] := by decide
  have middle : Flat ([' '] ++ (param.name.toList ++ ([' ', '('] ++
      param.location.word.toList))) := by
    simp only [flat_append, name.flat, word, true_and, and_true]
    decide
  have label := start.append stop (cons_ne_nil _ _) (cons_ne_nil _ _) middle
  have whole := oneLine_append_spaced label (by simp) writable.description
  have written : param.line = ['-'] ++ ([' '] ++ (param.name.toList ++ ([' ', '('] ++
      param.location.word.toList)) ++ [')', ':']) ++ spaced param.description.toList := by
    simp only [Parameter.line, append_assoc, cons_append, nil_append]
  rw [written]
  exact whole

theorem parameterBullet?_line (writable : param.Writable) : parameterBullet? param.line = some
      ⟨param.name.toList, param.location.word.toList, param.description.toList⟩ := by
  have nameChars : ∀ c ∈ param.name.toList, isNameChar c = true := by
    intro c mem
    have plain := writable.unbroken c mem
    simp only [isNameChar, plain.1, Bool.not_false, Bool.true_and, bne_iff_ne]
    exact plain.2
  have closing : ')' ∉ param.location.word.toList := by
    cases param.location <;> decide
  have named : param.name.toList.isEmpty = false := isEmpty_eq_false_iff.mpr writable.named
  have bulleted : afterBullet? param.line = some (param.name.toList ++ ' ' :: '(' ::
      (param.location.word.toList ++ ')' :: ':' :: spaced param.description.toList)) := by
    apply afterBullet?_of_starts
    exact forall_head?_append writable.named fun c found =>
      (writable.unbroken c (mem_of_mem_head? found)).1
  -- The name ends at the blank, and the blank is passed over.
  have cut : param.name.toList ++ takeWhile isNameChar (' ' :: '(' ::
      (param.location.word.toList ++ ')' :: ':' :: spaced param.description.toList)) =
      param.name.toList := append_nil _
  have opened : trimStart (dropWhile isNameChar (' ' :: '(' ::
      (param.location.word.toList ++ ')' :: ':' :: spaced param.description.toList))) =
      '(' :: (param.location.word.toList ++ ')' :: ':' :: spaced param.description.toList) := rfl
  unfold parameterBullet?
  simp only [bulleted, Option.bind_eq_bind, Option.bind_some,
    takeWhile_append_of_pos nameChars, dropWhile_append_of_pos nameChars, cut, named,
    Bool.false_eq_true, if_false, opened, splitFirst_append closing,
    afterColon?_spaced writable.description]
  rfl

theorem parameterOn?_line (writable : param.Writable) {line : Line}
    (written : line.text = param.line) :
    parameterOn? line = some param /\ parameterWarnings line = [] := by
  have trimmed : trim line.text = param.line := by rw [written, writable.oneLine.trim_eq]
  have place : ParameterBullet.place
      ⟨param.name.toList, param.location.word.toList, param.description.toList⟩ =
      param.location.word := param.location.place_word
  have filled : param.line.isEmpty = false := rfl
  constructor
  · rw [parameterOn?, trimmed, parameterBullet?_line writable, Option.map_some]
    simp only [place, Location.ofWord?_word, Option.getD_some, String.ofList_toList]
  · simp only [parameterWarnings, trimmed, filled, parameterBullet?_line writable, place,
      Location.ofWord?_word, Bool.false_eq_true, if_false]
end

theorem digitValue?_of_isDigit (digit : c.isDigit = true) :
    digitValue? c = some (c.toNat - '0'.toNat) := by
  have low : '0' <= c && c <= '9' := digit
  rw [digitValue?, if_pos low]

theorem numeral_toDigits (n : Nat) : numeral (Nat.toDigits 10 n) = n := by
  have digits : ∀ c ∈ Nat.toDigits 10 n, (digitValue? c).getD 0 = c.toNat - '0'.toNat := by
    intro c mem
    rw [digitValue?_of_isDigit (Nat.isDigit_of_mem_toDigits (by omega) (by omega) mem),
      Option.getD_some]
  have same : numeral (Nat.toDigits 10 n) = Nat.ofDigitChars 10 (Nat.toDigits 10 n) 0 :=
    foldl_ext _ _ _ fun _ c mem => by rw [digits c mem]
  rw [same, Nat.ofDigitChars_toDigits (by omega) (by omega)]

theorem isDigit_of_mem_toDigits (mem : c ∈ Nat.toDigits 10 n) :
    isDigit c = true /\ isBlank c = false := by
  have digit := Nat.isDigit_of_mem_toDigits (by omega) (by omega) mem
  constructor
  · rw [isDigit, digitValue?_of_isDigit digit]
    rfl
  · have low : 48 <= c.toNat /\ c.toNat <= 57 := by
      simp only [Char.isDigit, Bool.and_eq_true, decide_eq_true_eq] at digit
      exact digit
    simp only [isBlank, Bool.or_eq_false_iff, Bool.and_eq_false_iff, decide_eq_false_iff_not,
      beq_eq_false_iff_ne]
    omega

section
variable {n : Nat} {about : String}

theorem statusLine_eq : statusLine n about =
    '-' :: ' ' :: (Nat.toDigits 10 n ++ ':' :: spaced about.toList) := by
  have written : (toString (n : Int)).toList = Nat.toDigits 10 n := Nat.toList_repr
  rw [statusLine, written]

theorem oneLine_statusLine (oneLine : OneLine about.toList) : OneLine (statusLine n about) := by
  have digits : OneLine (Nat.toDigits 10 n) :=
    oneLine_of_forall fun c mem => (isDigit_of_mem_toDigits mem).2
  have start : OneLine ['-'] := by decide
  have stop : OneLine [':'] := by decide
  have middle : Flat ([' '] ++ Nat.toDigits 10 n) :=
    flat_append.mpr ⟨show Flat [' '] by decide, digits.flat⟩
  have label := start.append stop (cons_ne_nil _ _) (cons_ne_nil _ _) middle
  have whole := oneLine_append_spaced label (by simp) oneLine
  rw [statusLine_eq]
  simpa only [append_assoc, cons_append, nil_append] using whole

theorem responseBullet?_statusLine (oneLine : OneLine about.toList) :
    responseBullet? (statusLine n about) = some ⟨Nat.toDigits 10 n, about.toList⟩ := by
  have digits : ∀ c ∈ Nat.toDigits 10 n, isDigit c = true :=
    fun c mem => (isDigit_of_mem_toDigits mem).1
  have present : (Nat.toDigits 10 n).isEmpty = false := isEmpty_eq_false_iff.mpr Nat.toDigits_ne_nil
  have bulleted : afterBullet? (statusLine n about) =
      some (Nat.toDigits 10 n ++ ':' :: spaced about.toList) := by
    rw [statusLine_eq]
    apply afterBullet?_of_starts
    exact forall_head?_append Nat.toDigits_ne_nil fun c found =>
      (isDigit_of_mem_toDigits (mem_of_mem_head? found)).2
  have cut : Nat.toDigits 10 n ++ takeWhile isDigit (':' :: spaced about.toList) =
      Nat.toDigits 10 n := append_nil _
  have behind : dropWhile isDigit (':' :: spaced about.toList) = ':' :: spaced about.toList := rfl
  unfold responseBullet?
  simp only [bulleted, Option.bind_eq_bind, Option.bind_some, takeWhile_append_of_pos digits,
    dropWhile_append_of_pos digits, cut, present, Bool.false_eq_true, if_false, behind,
    afterColon?_spaced oneLine]
  rfl
end

structure KeyLine.Writable (line : KeyLine) : Prop where
  key : OneLine line.key
  named : line.key ≠ []
  unended : ':' ∉ line.key
  unmarked : ∀ c, line.key.head? = some c -> c ≠ '-'
  value : OneLine line.value

theorem KeyText.writable (isKey : KeyText key) (oneLine : OneLine value) (item : Bool) :
    KeyLine.Writable ⟨key.toList, value, item⟩ :=
  ⟨isKey.oneLine, isKey.filled, isKey.unended, isKey.unmarked, oneLine⟩

/-- A key line of unpadded texts that do not end early. Blanks of any kind may stand inside. -/
structure KeyLine.Plain (line : KeyLine) : Prop where
  key : Unpadded line.key
  named : line.key ≠ []
  unended : ':' ∉ line.key
  unmarked : ∀ c, line.key.head? = some c -> c ≠ '-'
  value : Unpadded line.value
  unbroken : ∀ c ∈ line.key ++ line.value, isLineBreak c = false

/-- A key that begins with something visible and has no colon, a colon and a value. -/
structure Keyed (text key value : Chars) : Prop where
  whole : text = key ++ ':' :: value
  unended : ':' ∉ key
  visible : ∃ c, key.head? = some c /\ isBlank c = false

def ItemOf (text body : Chars) : Prop :=
  ∃ blanks, blanks ≠ [] /\ (∀ c ∈ blanks, isBlank c = true) /\ text = '-' :: (blanks ++ body)

/-- What a line tells. A line that can be read as an item is one. -/
inductive KeyForm (text : Chars) : KeyLine -> Prop
  | item {body key value : Chars} (dashed : ItemOf text body) (keyed : Keyed body key value) :
      KeyForm text ⟨trim key, trim value, true⟩
  | plain {key value : Chars} (keyed : Keyed text key value)
      (undashed : ∀ body, ItemOf text body -> ∀ key value, ¬ Keyed body key value) :
      KeyForm text ⟨trim key, trim value, false⟩

section
variable {line : KeyLine}

theorem splitFirst_eq_some (found : splitFirst sep text = some (pre, behind)) :
    text = pre ++ sep :: behind /\ sep ∉ pre := by
  induction text generalizing pre with
  | nil => cases found
  | cons first rest ih =>
    rw [splitFirst] at found
    split at found
    · rename_i same
      cases found
      exact ⟨by rw [same, nil_append], not_mem_nil⟩
    · rename_i ne
      obtain ⟨⟨start, last⟩, split, same⟩ := Option.map_eq_some_iff.mp found
      cases same
      obtain ⟨rfl, absent⟩ := ih split
      exact ⟨rfl, not_mem_cons_of_ne_of_not_mem (Ne.symm ne) absent⟩

theorem keyValue?_eq_some_iff : keyValue? item text = some content ↔
    ∃ key value, Keyed text key value /\ content = ⟨trim key, trim value, item⟩ := by
  constructor
  · intro found
    cases text with
    | nil => cases found
    | cons first rest =>
      rw [keyValue?] at found
      split at found
      · cases found
      · rename_i starts
        simp only [Bool.or_eq_true, decide_eq_true_eq, not_or, Bool.not_eq_true] at starts
        obtain ⟨⟨key, value⟩, split, rfl⟩ := Option.map_eq_some_iff.mp found
        obtain ⟨whole, absent⟩ := splitFirst_eq_some split
        refine ⟨key, value, ⟨whole, absent, first, ?_, starts.2⟩, rfl⟩
        cases key with
        | nil => exact absurd (cons.inj whole).1 starts.1
        | cons second others => rw [(cons.inj whole).1, head?_cons]
  · rintro ⟨key, value, ⟨rfl, absent, c, found, visible⟩, rfl⟩
    obtain ⟨rest, rfl⟩ := head?_eq_some_iff.mp found
    have ne : c ≠ ':' := fun same => absent (same ▸ .head _)
    rw [cons_append, keyValue?, <- cons_append, splitFirst_append absent]
    simp [ne, visible]

theorem afterDash?_of_item (dashed : ItemOf text body) (keyed : Keyed body key value) :
    afterDash? text = some body := by
  obtain ⟨blanks, present, blank, rfl⟩ := dashed
  obtain ⟨first, others, rfl⟩ := exists_cons_of_ne_nil present
  obtain ⟨c, found, visible⟩ := keyed.visible
  obtain ⟨rest, rfl⟩ := head?_eq_some_iff.mp found
  have starts : ∀ d, body.head? = some d -> isBlank d = false := by
    rw [keyed.whole]
    rintro _ ⟨⟩
    exact visible
  rw [cons_append, afterDash?, afterBlank?, if_pos (blank first (.head _)), trimStart,
    dropWhile_append_of_pos fun d mem => blank d (.tail _ mem), dropWhile_of_head? starts]

theorem itemOf_of_afterDash? (found : afterDash? text = some body) : ItemOf text body := by
  unfold afterDash? at found
  split at found
  · obtain ⟨blanks, present, blank, rfl⟩ := afterBlank?_of_eq_some found
    exact ⟨blanks, present, blank, rfl⟩
  · cases found

/-- Key lines are just those of the form. -/
theorem keyLine?_eq_some_iff : keyLine? text = some content ↔ KeyForm text content := by
  rw [keyLine?]
  constructor
  · intro found
    split at found
    · rename_i body dash
      rw [Option.orElse_eq_orElse, Option.orElse_eq_or, Option.or_eq_some_iff] at found
      rcases found with marked | ⟨unmarked, plain⟩
      · obtain ⟨key, value, keyed, rfl⟩ := keyValue?_eq_some_iff.mp marked
        exact .item (itemOf_of_afterDash? dash) keyed
      · obtain ⟨key, value, keyed, rfl⟩ := keyValue?_eq_some_iff.mp plain
        refine .plain keyed fun other dashed key value inside => ?_
        cases dash.symm.trans (afterDash?_of_item dashed inside)
        cases unmarked.symm.trans (keyValue?_eq_some_iff.mpr ⟨key, value, inside, rfl⟩)
    · rename_i dash
      obtain ⟨key, value, keyed, rfl⟩ := keyValue?_eq_some_iff.mp found
      refine .plain keyed fun other dashed key value inside => ?_
      cases dash.symm.trans (afterDash?_of_item dashed inside)
  · rintro (⟨dashed, keyed⟩ | ⟨keyed, undashed⟩)
    · simp only [afterDash?_of_item dashed keyed, keyValue?_eq_some_iff.mpr ⟨_, _, keyed, rfl⟩]
      rfl
    · have plain : keyValue? false text = some _ := keyValue?_eq_some_iff.mpr ⟨_, _, keyed, rfl⟩
      split
      · rename_i body dash
        have unmarked : keyValue? true body = none := by
          by_contra found
          obtain ⟨content, read⟩ := Option.ne_none_iff_exists'.mp found
          obtain ⟨key, value, inside, -⟩ := keyValue?_eq_some_iff.mp read
          exact undashed body (itemOf_of_afterDash? dash) key value inside
        rw [unmarked]
        exact plain
      · exact plain

theorem KeyLine.Plain.keyLine?_text (plain : line.Plain) : keyLine? line.text = some line := by
  obtain ⟨key, value, item⟩ := line
  obtain ⟨c, rest, rfl⟩ := exists_cons_of_ne_nil plain.named
  have keyed : Keyed (c :: rest ++ ':' :: spaced value) (c :: rest) (spaced value) :=
    ⟨rfl, plain.unended, c, rfl, plain.key.starts c rfl⟩
  have form : KeyForm (KeyLine.text ⟨c :: rest, value, item⟩)
      ⟨trim (c :: rest), trim (spaced value), item⟩ := by
    cases item with
    | true => exact .item ⟨[' '], cons_ne_nil _ _, forall_mem_singleton.mpr rfl, rfl⟩ keyed
    | false =>
      refine .plain keyed fun body dashed => ?_
      obtain ⟨blanks, -, -, same⟩ := dashed
      exact absurd (cons.inj same).1 (plain.unmarked c rfl)
  rw [trim_spaced plain.value, show trim (c :: rest) = c :: rest from plain.key.trim_eq] at form
  exact keyLine?_eq_some_iff.mpr form

theorem KeyLine.Plain.unpadded (plain : line.Plain) : Unpadded line.text := by
  have begins : ∀ c, (line.key ++ ':' :: spaced line.value).head? = some c -> isBlank c = false :=
    forall_head?_append plain.named plain.key.starts
  constructor
  · unfold KeyLine.text
    split
    · rintro _ ⟨⟩
      rfl
    · exact begins
  · intro c found
    rw [KeyLine.text, getLast?_append, getLast?_append_cons, spaced] at found
    split at found
    · cases found
      rfl
    · rename_i filled
      have value : line.value ≠ [] := fun empty => filled (isEmpty_iff.mpr empty)
      rw [getLast?_cons_of_ne_nil (cons_ne_nil _ _), getLast?_cons_of_ne_nil value] at found
      exact plain.value.ends c ((Option.or_of_isSome (getLast?_isSome.mpr value)).symm.trans found)

theorem KeyLine.Writable.plain (writable : line.Writable) : line.Plain where
  key := writable.key.unpadded
  named := writable.named
  unended := writable.unended
  unmarked := writable.unmarked
  value := writable.value.unpadded
  unbroken := forall_mem_append.mpr ⟨fun c mem => (writable.key.flat c mem).2,
    fun c mem => (writable.value.flat c mem).2⟩

theorem KeyLine.Writable.oneLine (writable : line.Writable) : OneLine line.text := by
  have unpadded := writable.plain.unpadded
  refine ⟨?_, unpadded.starts, unpadded.ends⟩
  refine flat_append.mpr ⟨by split <;> decide, flat_append.mpr ⟨writable.key.flat, ?_⟩⟩
  unfold spaced
  split
  · decide
  · exact flat_append.mpr ⟨show Flat [':', ' '] by decide, writable.value.flat⟩
end

instance (text : String) : Decidable (Filled text) := decidable_of_iff _ (filled_iff text).symm

instance (text : String) : Decidable (Passage text) := decidable_of_iff _ (passage_iff text).symm

theorem enclosed_iff : (∃ inner, text = quote :: (inner ++ [quote])) ↔
      text.head? = some quote /\ text.tail.getLast? = some quote := by
  constructor
  · rintro ⟨inner, rfl⟩
    exact ⟨rfl, getLast?_concat⟩
  · rintro ⟨starts, ends⟩
    obtain ⟨tail, rfl⟩ := head?_eq_some_iff.mp starts
    obtain ⟨inner, same⟩ := getLast?_eq_some_iff.mp ends
    exact ⟨inner, congrArg (cons quote) same⟩

instance (text : String) : Decidable (Unenclosed text) :=
  decidable_of_iff (OneLine text.toList /\
      ¬ (text.toList.head? = some '"' ∧ text.toList.tail.getLast? = some '"') /\
      ¬ (text.toList.head? = some '\'' /\ text.toList.tail.getLast? = some '\'')) (by
    simp only [<- enclosed_iff, not_exists]
    constructor
    · rintro ⟨oneLine, double, single⟩
      refine ⟨oneLine, ?_⟩
      rintro quote inner (rfl | rfl)
      · exact double inner
      · exact single inner
    · rintro ⟨oneLine, unenclosed⟩
      exact ⟨oneLine, fun inner => unenclosed _ inner (.inl rfl),
        fun inner => unenclosed _ inner (.inr rfl)⟩)

instance (text : String) : Decidable (KeyText text) :=
  decidable_of_iff (Filled text /\ ':' ∉ text.toList /\ ∀ c ∈ text.toList.head?, c ≠ '-')
    (keyText_iff text).symm

instance (param : Parameter) : Decidable param.Writable :=
  decidable_of_iff _ param.writable_iff.symm

instance (line : Chars) : Decidable (FreeLine line) :=
  decidable_of_iff (Flat line /\ (∀ c ∈ line.getLast?, isBlank c = false) /\ ¬ HeadingForm line)
    (freeLine_iff line).symm

instance (text : String) (lines : List Chars) : Decidable (FreeText text lines) :=
  decidable_of_iff (text.toList = joinWith ['\n'] lines /\ (∀ line ∈ lines, FreeLine line) /\
    (∃ line ∈ lines.head?, line ≠ []) /\ ∃ line ∈ lines.getLast?, line ≠ []) (freeText_iff text lines).symm
end RouteDocs.Doc
