import RouteDocs.Declaration.TypeExpr
import RouteDocs.Proofs.TextLines

/-!
# The grammar of type expressions

A term is the name of a primitive or another name, a word with an expression in brackets, or an
expression with a question mark; an expression is a term with blanks around it. Reading takes the
question mark first and looks for the outermost brackets, without counting them. Every expression
is read as the one tree it spells, and nothing else is read.
-/

namespace RouteDocs
open List

namespace Text
variable {c : Char} {word : Chars}

def blanks : List Nat := range' 9 5 ++ range' 28 5 ++ range' 0x2000 11 ++
  [0x85, 0xA0, 0x1680, 0x2028, 0x2029, 0x202F, 0x205F, 0x3000]

theorem isWord_of_mem_blanks : ∀ n ∈ blanks, isWord (Char.ofNat n) = false := by
  simp only [isWord, isAlphanumeric, isLetter, isNumeric, isAnyDigit, letterRuns, otherDigitRuns,
    otherNumericRuns, lengths, String.toList_append]
  -- The kernel takes lists of letters apart much faster than texts.
  repeat rw [String.toList_ofList]
  decide +kernel

theorem isBlank_of_isWord (inWord : isWord c = true) : isBlank c = false := by
  rw [<- Bool.not_eq_true]
  intro blank
  have listed : c.toNat ∈ blanks := by
    simp only [isBlank, Bool.or_eq_true, Bool.and_eq_true, decide_eq_true_eq, beq_iff_eq] at blank
    simp only [blanks, mem_append, mem_range'_1, mem_cons, not_mem_nil]
    omega
  have outside := isWord_of_mem_blanks c.toNat listed
  rw [Char.ofNat_toNat, inWord] at outside
  cases outside

theorem isWord_of_isAlpha (alpha : c.isAlpha = true) : isWord c = true := by
  have low : c.toNat < asciiEnd := by
    rcases Bool.or_eq_true_iff.mp alpha with upper | small
    · exact Nat.lt_of_le_of_lt (show c.toNat <= 90 from (of_decide_eq_true upper).2) (by decide)
    · exact Nat.lt_of_le_of_lt (show c.toNat <= 122 from
        of_decide_eq_true (Bool.and_eq_true_iff.mp small).2) (by decide)
  have letter : isLetter c = true := (if_pos low).trans alpha
  rw [isWord, isAlphanumeric, letter, Bool.true_or, Bool.or_true]

def Padded (term text : Chars) : Prop := ∃ left right,
  (∀ c ∈ left, isBlank c = true) /\ (∀ c ∈ right, isBlank c = true) /\ text = left ++ term ++ right

theorem exists_dropEndWhile (drop : Char -> Bool) (text : Chars) :
    ∃ right, (∀ c ∈ right, drop c = true) /\ text = dropEndWhile drop text ++ right := by
  induction text with
  | nil => exact ⟨[], forall_mem_nil _, rfl⟩
  | cons c rest ih =>
    obtain ⟨right, dropped, whole⟩ := ih
    rw [dropEndWhile]
    split
    · rename_i none_kept
      rw [none_kept, nil_append] at whole
      split
      · exact ⟨c :: right, forall_mem_cons.mpr ⟨‹_›, dropped⟩, congrArg (c :: ·) whole⟩
      · exact ⟨right, dropped, congrArg (c :: ·) whole⟩
    · exact ⟨right, dropped, congrArg (c :: ·) whole⟩

theorem padded_trim (text : Chars) : Padded (trim text) text := by
  obtain ⟨right, dropped, whole⟩ := exists_dropEndWhile isBlank (text.dropWhile isBlank)
  refine ⟨text.takeWhile isBlank, right, all_eq_true.mp all_takeWhile, dropped, ?_⟩
  rw [trim, trimWhile, append_assoc, <- whole, takeWhile_append_dropWhile]

theorem trim_concat (visible : isBlank c = false) (blank : ∀ c ∈ right, isBlank c = true) :
    trim (front ++ [c] ++ right) = front.dropWhile isBlank ++ [c] := by
  have ended : dropEndWhile isBlank (front.dropWhile isBlank ++ [c]) = front.dropWhile isBlank ++ [c] := by
    refine dropEndWhile_of_getLast? fun d found => ?_
    rw [getLast?_concat] at found
    exact Option.some.inj found ▸ visible
  have begun : (front ++ ([c] ++ right)).dropWhile isBlank =
      front.dropWhile isBlank ++ ([c] ++ right) := by
    rw [dropWhile_append]
    split
    · rename_i empty
      rw [isEmpty_iff.mp empty, nil_append, singleton_append, dropWhile_cons_of_neg]
      rw [visible]
      exact Bool.false_ne_true
    · rfl
  rw [trim, trimWhile, append_assoc, begun, <- append_assoc, dropEndWhile_append _ blank, ended]
end Text

namespace Declaration
open Text Schema

inductive TypeTree where
  | primitive (name : String)
  | reference (name : String)
  | sequence (inner : TypeTree)
  | optional (inner : TypeTree)

def TypeTree.descriptor (resolve : String -> Descriptor) : TypeTree -> Descriptor
  | primitive name => .primitive name
  | reference name => resolve name
  | sequence inner => .sequence (inner.descriptor resolve)
  | optional inner => .optional (inner.descriptor resolve)

/-- What a word stands for before brackets, in large or small letters. -/
inductive Wraps (word : Chars) : (TypeTree -> TypeTree) -> Prop
  | sequence (known : String.ofList (lower word) ∈ sequenceWrappers) : Wraps word .sequence
  | optional (known : String.ofList (lower word) ∈ optionalWrappers) : Wraps word .optional

inductive Term : TypeTree -> Chars -> Prop
  | primitive {name : String} (known : (primitive? name).isSome) :
    Term (.primitive name) name.toList
  | reference {name : String} (other : primitive? name = none) (named : isTypeName name.toList) :
    Term (.reference name) name.toList
  | wrapped {word text term : Chars} {wrap : TypeTree -> TypeTree} {inner : TypeTree}
    (letters : ∀ c ∈ word, isWord c = true) (wraps : Wraps word wrap) (spelled : Term inner term)
    (padded : Padded term text) (line : '\n' ∉ text) : Term (wrap inner) (word ++ '[' :: (text ++ [']']))
  | marked {text term : Chars} {inner : TypeTree} (spelled : Term inner term)
    (padded : Padded term text) : Term (.optional inner) (text ++ ['?'])

def Spells (tree : TypeTree) (text : Chars) : Prop := ∃ term, Term tree term /\ Padded term text

theorem TypeExpr.read_eq (text : Chars) : TypeExpr.read text = match Layer.of (trim text) with
    | .optional inner => .optional (.read inner)
    | .wrapped word inner => .wrapped (String.ofList word) (String.ofList (trim text)) (.read inner)
    | .leaf => .ofLeaf (trim text) := by
  rw [TypeExpr.read]
  split <;> rename_i layer <;> rw [layer]

theorem TypeExpr.read_dropWhile (text : Chars) :
    TypeExpr.read (text.dropWhile isBlank) = TypeExpr.read text := by
  have visible : ∀ c, (text.dropWhile isBlank).head? = some c -> isBlank c = false := by
    intro c found
    have kept := head?_dropWhile_not isBlank text
    rw [found] at kept
    exact kept
  have same : trim (text.dropWhile isBlank) = trim text := by
    rw [trim, trim, trimWhile, trimWhile, dropWhile_of_head? visible]
  rw [TypeExpr.read_eq, TypeExpr.read_eq, same]

variable {text term word : Chars} {tree inner : TypeTree} {wrap : TypeTree -> TypeTree}

theorem trim_padded (padded : Padded term text) (filled : term ≠ [])
    (starts : ∀ c, term.head? = some c -> isBlank c = false)
    (ends : ∀ c, term.getLast? = some c -> isBlank c = false) : trim text = term := by
  obtain ⟨left, right, pre, behind, rfl⟩ := padded
  rw [trim, trimWhile, append_assoc, dropWhile_append_of_pos pre,
    dropWhile_of_head? (forall_head?_append filled starts), dropEndWhile_append _ behind,
    dropEndWhile_of_getLast? ends]

theorem Wraps.ne_nil (wraps : Wraps word wrap) : word ≠ [] := by
  rintro rfl
  have filled : "" ∉ sequenceWrappers ++ optionalWrappers := by decide
  cases wraps with
  | sequence known => exact filled (mem_append_left _ known)
  | optional known => exact filled (mem_append_right _ known)

theorem Wraps.wrap?_eq (wraps : Wraps word wrap) : ∃ outer, wrap? (String.ofList word) = some outer /\
    ∀ resolve inner, (wrap inner).descriptor resolve = outer (inner.descriptor resolve) := by
  rw [wrap?, String.toList_ofList]
  cases wraps with
  | sequence known => exact ⟨_, if_pos known, fun _ _ => rfl⟩
  | optional known =>
    have apart : ∀ small ∈ optionalWrappers, small ∉ sequenceWrappers := by decide
    exact ⟨_, (if_neg (apart _ known)).trans (if_pos known), fun _ _ => rfl⟩

theorem exists_wraps (known : wrap? (String.ofList word) = some outer) :
    ∃ wrap, Wraps word wrap := by
  rw [wrap?, String.toList_ofList] at known
  split at known
  · exact ⟨_, .sequence ‹_›⟩
  · split at known
    · exact ⟨_, .optional ‹_›⟩
    · cases known

theorem isTypeName_of_primitive (known : (primitive? name).isSome) : isTypeName name.toList := by
  have named : ∀ entry ∈ primitiveNames, isTypeName entry.1.toList := by decide +kernel
  obtain ⟨type, found⟩ := Option.isSome_iff_exists.mp known
  obtain ⟨front, back, whole, -⟩ := lookup_eq_some_iff.mp found
  exact named (name, type) (whole ▸ mem_append_right front (.head back))

theorem isWord_or_of_isTypeName (named : isTypeName term) : ∀ c ∈ term, isWord c = true \/ c = '.' := by
  cases term with
  | nil => cases named
  | cons first rest =>
    simp only [isTypeName, Bool.and_eq_true, Bool.or_eq_true, beq_iff_eq, all_eq_true] at named
    refine forall_mem_cons.mpr ⟨.inl ?_, named.2⟩
    rcases named.1 with alpha | rfl
    · exact isWord_of_isAlpha alpha
    · rfl

theorem read_of_isTypeName (named : isTypeName term) (padded : Padded term text) :
    TypeExpr.read text = .ofLeaf term := by
  have letters := isWord_or_of_isTypeName named
  have visible (c : Char) (mem : c ∈ term) : isBlank c = false := by
    rcases letters c mem with inWord | rfl
    · exact isBlank_of_isWord inWord
    · rfl
  have filled : term ≠ [] := fun empty => by
    rw [empty] at named
    cases named
  have leaf : Layer.of term = .leaf := by
    cases layer : Layer.of term with
    | leaf => rfl
    | optional inner =>
      have mark := letters '?' (eq_of_layer_optional layer ▸ mem_append_right _ (.head _))
      exact absurd mark (by decide)
    | wrapped word inner =>
      have whole := (splitWrapper?_eq_some_iff.mp (layer_eq_wrapped_iff.mp layer)).1
      have bracket := letters '[' (whole ▸ mem_append_right _ (.head _))
      exact absurd bracket (by decide)
  rw [TypeExpr.read_eq, trim_padded padded filled (fun c found => visible c (mem_of_head? found))
    fun c found => visible c (mem_of_getLast? found), leaf]

section
variable {resolve : String -> Descriptor}

theorem typeOf_optional (layer : Layer.of (trim text) = .optional within) :
    TypeExpr.typeOf resolve text = (TypeExpr.typeOf resolve within).map .optional := by
  rw [TypeExpr.typeOf, TypeExpr.read_eq, layer]
  rfl

theorem typeOf_wrapped (layer : Layer.of (trim text) = .wrapped word within) :
    TypeExpr.typeOf resolve text = (TypeExpr.typeOf resolve within).bind fun type =>
      match wrap? (String.ofList word) with
      | some wrap => .ok (wrap type)
      | none => .error (.unknownWrapper (String.ofList word) (String.ofList (trim text))) := by
  rw [TypeExpr.typeOf, TypeExpr.read_eq, layer]
  rfl
end

theorem Term.ne_nil (spelled : Term tree term) : term ≠ [] := by
  cases spelled with
  | primitive known =>
    intro empty
    have named := isTypeName_of_primitive known
    rw [empty] at named
    cases named
  | reference _ named =>
    intro empty
    rw [empty] at named
    cases named
  | wrapped => exact append_ne_nil_of_right_ne_nil _ (cons_ne_nil _ _)
  | marked => exact append_ne_nil_of_right_ne_nil _ (cons_ne_nil _ _)

theorem Term.read (spelled : Term tree term) (padded : Padded term text)
    (resolve : String -> Descriptor) : TypeExpr.typeOf resolve text = .ok (tree.descriptor resolve) := by
  induction spelled generalizing text with
  | primitive known =>
    rw [TypeExpr.typeOf, read_of_isTypeName (isTypeName_of_primitive known) padded, TypeExpr.ofLeaf,
      String.ofList_toList, if_pos known]
    rfl
  | reference other named =>
    rw [TypeExpr.typeOf, read_of_isTypeName named padded, TypeExpr.ofLeaf, String.ofList_toList,
      other, Option.isSome_none, if_neg Bool.false_ne_true, if_pos named]
    rfl
  | @wrapped word within _ wrap inner letters wraps spelled around line ih =>
    have filled := wraps.ne_nil
    obtain ⟨outer, known, wrapped⟩ := wraps.wrap?_eq
    have occupied : within ≠ [] := by
      obtain ⟨left, right, -, -, rfl⟩ := around
      exact append_ne_nil_of_left_ne_nil (append_ne_nil_of_right_ne_nil _ spelled.ne_nil) _
    have layer : Layer.of (trim text) = .wrapped word within := by
      rw [trim_padded padded, layer_eq_wrapped_iff, splitWrapper?_eq_some_iff]
      · exact ⟨rfl, filled, letters, occupied, line⟩
      · exact append_ne_nil_of_left_ne_nil filled _
      · exact forall_head?_append filled fun c found =>
          isBlank_of_isWord (letters c (mem_of_head? found))
      · intro c found
        rw [<- cons_append, <- append_assoc, getLast?_concat] at found
        cases found
        rfl
    rw [typeOf_wrapped layer, ih around, known, wrapped]
    rfl
  | @marked within _ inner spelled around ih =>
    obtain ⟨left, right, pre, behind, rfl⟩ := padded
    have layer : Layer.of (trim (left ++ (within ++ ['?']) ++ right)) =
        .optional ((left ++ within).dropWhile isBlank) := by
      rw [<- append_assoc left, trim_concat rfl behind, Layer.of_concat]
    have wider : TypeExpr.typeOf resolve (left ++ within) = .ok (inner.descriptor resolve) := by
      obtain ⟨more, last, blank, ended, rfl⟩ := around
      refine ih ⟨left ++ more, last, forall_mem_append.mpr ⟨pre, blank⟩, ended, ?_⟩
      simp only [append_assoc]
    rw [typeOf_optional layer, TypeExpr.typeOf, TypeExpr.read_dropWhile, <- TypeExpr.typeOf, wider]
    rfl

theorem spelled_or_refused (text : Chars) : (∃ tree, Spells tree text) \/
    ∀ resolve, ∃ fault, TypeExpr.typeOf resolve text = .error fault := by
  induction text using TypeExpr.read.induct with
  | case1 text expr inner layer ih =>
    rcases ih with ⟨tree, term, spelled, padded⟩ | refused
    · refine .inl ⟨.optional tree, _, .marked spelled padded, ?_⟩
      rw [<- eq_of_layer_optional layer]
      exact padded_trim text
    · refine .inr fun resolve => ?_
      obtain ⟨fault, failed⟩ := refused resolve
      exact ⟨fault, by rw [typeOf_optional layer, failed]; rfl⟩
  | case2 text expr word inner layer ih =>
    rcases ih with ⟨tree, term, spelled, padded⟩ | refused
    · cases known : wrap? (String.ofList word) with
      | none =>
        refine .inr fun resolve => ⟨.unknownWrapper (String.ofList word) (String.ofList expr), ?_⟩
        rw [typeOf_wrapped layer, spelled.read padded resolve, known]
        rfl
      | some outer =>
        obtain ⟨wrap, wraps⟩ := exists_wraps known
        obtain ⟨whole, -, letters, -, line⟩ :=
          splitWrapper?_eq_some_iff.mp (layer_eq_wrapped_iff.mp layer)
        refine .inl ⟨wrap tree, _, .wrapped letters wraps spelled padded line, ?_⟩
        rw [<- whole]
        exact padded_trim text
    · refine .inr fun resolve => ?_
      obtain ⟨fault, failed⟩ := refused resolve
      exact ⟨fault, by rw [typeOf_wrapped layer, failed]; rfl⟩
  | case3 text expr layer =>
    have leaf (resolve) : TypeExpr.typeOf resolve text =
        (TypeExpr.ofLeaf (trim text)).descriptor .error fun name => .ok (resolve name) := by
      rw [TypeExpr.typeOf, TypeExpr.read_eq, layer]
    have padded := padded_trim text
    rw [<- String.toList_ofList (l := trim text)] at padded
    unfold TypeExpr.ofLeaf at leaf
    dsimp only at leaf
    split at leaf
    · exact .inl ⟨_, _, .primitive ‹_›, padded⟩
    · split at leaf
      · rename_i other named
        rw [<- String.toList_ofList (l := trim text)] at named
        exact .inl ⟨_, _, .reference (Option.not_isSome_iff_eq_none.mp other) named, padded⟩
      · exact .inr fun resolve => ⟨_, leaf resolve⟩

theorem descriptor_named_injective {other : TypeTree}
    (same : tree.descriptor .named = other.descriptor .named) : tree = other := by
  induction tree generalizing other with
  | primitive | reference =>
    cases other <;> cases same
    rfl
  | sequence inner ih => cases other with
    | sequence => exact congrArg _ (ih (Descriptor.sequence.inj same))
    | _ => cases same
  | optional inner ih => cases other with
    | optional => exact congrArg _ (ih (Descriptor.optional.inj same))
    | _ => cases same

/-- A text is read as the one tree it spells, and refused if it spells none. -/
theorem read_iff_spelled (text : Chars) :
    (∃ tree, Spells tree text /\ (∀ other, Spells other text -> other = tree) /\
        ∀ resolve, TypeExpr.typeOf resolve text = .ok (tree.descriptor resolve)) \/
      (¬ ∃ tree, Spells tree text) /\
        ∀ resolve, ∃ fault, TypeExpr.typeOf resolve text = .error fault := by
  rcases spelled_or_refused text with ⟨tree, term, spelled, padded⟩ | refused
  · refine .inl ⟨tree, ⟨term, spelled, padded⟩, fun other ⟨_, again, around⟩ => ?_, spelled.read padded⟩
    have same := (again.read around .named).symm.trans (spelled.read padded .named)
    exact descriptor_named_injective (Except.ok.inj same)
  · refine .inr ⟨fun ⟨tree, term, spelled, padded⟩ => ?_, refused⟩
    obtain ⟨fault, failed⟩ := refused .named
    cases failed.symm.trans (spelled.read padded .named)
end Declaration
end RouteDocs
