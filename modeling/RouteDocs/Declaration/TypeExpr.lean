import RouteDocs.Schema.Descriptor
import RouteDocs.Schema.Node
import RouteDocs.Text.Lines
import RouteDocs.Text.Case

/-!
# Type expressions

A type is written as the name of a primitive or of a declared type, in a wrapper such as `list[…]`
or `optional[…]`, or with a question mark behind it. Blanks around an expression do not count.
-/

namespace RouteDocs.Declaration
open Text Schema List

inductive TypeExpr where
  | primitive (name : String)
  | reference (name : String)
  | optional (inner : TypeExpr)
  /-- An expression in brackets behind a word; `whole` is the text of both. -/
  | wrapped (wrapper whole : String) (inner : TypeExpr)
  | malformed (text : String)
deriving DecidableEq

inductive Layer where
  | optional (inner : Chars)
  | wrapped (wrapper inner : Chars)
  | leaf
deriving DecidableEq

/-- The word before an opening bracket and what stands between it and a closing
bracket at the end. -/
def splitWrapper? (text : Chars) : Option (Chars × Chars) :=
  match text.takeWhile isWord, text.dropWhile isWord with
  | word, '[' :: rest =>
    match rest.getLast? with
    | some ']' =>
      if word.isEmpty || rest.dropLast.isEmpty || rest.dropLast.contains '\n' then none
      else some (word, rest.dropLast)
    | _ => none
  | _, _ => none

def Layer.of (text : Chars) : Layer := match text.getLast? with
  | some '?' => .optional text.dropLast
  | _ =>
    match splitWrapper? text with
    | some (wrapper, inner) => .wrapped wrapper inner
    | none => .leaf

/-- Whether a text is a name: letters, digits and underscores of any script, and
points, after a first letter or underscore. -/
def isTypeName : Chars -> Bool
  | [] => false
  | c :: rest => (c.isAlpha || c == '_') && rest.all fun d => isWord d || d == '.'

def TypeExpr.ofLeaf (text : Chars) : TypeExpr :=
  let name := String.ofList text
  if (Schema.primitive? name).isSome then .primitive name
  else if isTypeName text then .reference name
  else .malformed name

theorem length_dropEndWhile_le (drop : Char -> Bool) (text : Chars) :
    (dropEndWhile drop text).length <= text.length := by
  induction text with
  | nil => simp [dropEndWhile]
  | cons c rest ih =>
    rw [dropEndWhile]
    split
    · split <;> simp
    · simpa using ih

theorem length_trim_le (text : Chars) : (trim text).length <= text.length :=
  Nat.le_trans (length_dropEndWhile_le _ _) (List.IsSuffix.length_le (dropWhile_suffix _))

theorem Layer.of_concat (text : Chars) : Layer.of (text ++ ['?']) = .optional text := by
  rw [Layer.of, getLast?_concat, dropLast_concat]
  rfl

theorem eq_of_layer_optional {text inner : Chars} (same : Layer.of text = .optional inner) :
    text = inner ++ ['?'] := by
  unfold Layer.of at same
  split at same
  · rename_i last
    obtain ⟨front, rfl⟩ := getLast?_eq_some_iff.mp last
    rw [dropLast_concat] at same
    cases same
    rfl
  · split at same <;> cases same

theorem splitWrapper?_eq_some_iff {text word inner : Chars} :
    splitWrapper? text = some (word, inner) ↔ text = word ++ '[' :: (inner ++ [']']) /\
      word ≠ [] /\ (∀ c ∈ word, isWord c = true) /\ inner ≠ [] /\ '\n' ∉ inner := by
  constructor
  · intro found
    unfold splitWrapper? at found
    split at found
    · rename_i rest behind
      split at found
      · rename_i closed
        obtain ⟨front, rfl⟩ := getLast?_eq_some_iff.mp closed
        rw [dropLast_concat] at found
        split at found
        · cases found
        · rename_i fitting
          simp only [Bool.or_eq_true, not_or, List.isEmpty_iff, contains_eq_mem,
            decide_eq_true_eq] at fitting
          cases found
          refine ⟨?_, fitting.1.1, all_eq_true.mp all_takeWhile, fitting.1.2, fitting.2⟩
          rw [<- behind, takeWhile_append_dropWhile]
      · cases found
    · cases found
  · rintro ⟨rfl, filled, letters, closed, line⟩
    have bracket (rest : Chars) : ('[' :: rest).takeWhile isWord = [] /\
        ('[' :: rest).dropWhile isWord = '[' :: rest := ⟨rfl, rfl⟩
    rw [splitWrapper?, takeWhile_append_of_pos letters, dropWhile_append_of_pos letters,
      (bracket _).1, (bracket _).2, append_nil]
    simp [filled, closed, line]

theorem layer_eq_wrapped_iff {text word inner : Chars} :
    Layer.of text = .wrapped word inner ↔ splitWrapper? text = some (word, inner) := by
  unfold Layer.of
  split
  · rename_i last
    refine ⟨nofun, fun found => ?_⟩
    rw [(splitWrapper?_eq_some_iff.mp found).1, <- cons_append, <- append_assoc,
      getLast?_concat] at last
    cases last
  · split <;> simp_all

theorem length_lt_of_wrapped {text word inner : Chars}
    (same : Layer.of text = .wrapped word inner) : inner.length < text.length := by
  obtain ⟨rfl, -⟩ := splitWrapper?_eq_some_iff.mp (layer_eq_wrapped_iff.mp same)
  simp only [length_append, length_cons]
  omega

def TypeExpr.read (text : Chars) : TypeExpr :=
  let expr := trim text
  match _layer : Layer.of expr with
  | .optional inner => .optional (TypeExpr.read inner)
  | .wrapped wrapper inner =>
    .wrapped (String.ofList wrapper) (String.ofList expr) (TypeExpr.read inner)
  | .leaf => .ofLeaf expr
termination_by text.length
decreasing_by
  · refine Nat.lt_of_lt_of_le ?_ (length_trim_le text)
    have same : trim text = inner ++ ['?'] := eq_of_layer_optional _layer
    rw [same, length_append]
    exact Nat.lt_succ_self _
  · exact Nat.lt_of_lt_of_le (length_lt_of_wrapped _layer) (length_trim_le text)

def sequenceWrappers : List String := ["list", "array", "vec", "sequence"]
def optionalWrappers : List String := ["optional", "option"]

def wrap? (wrapper : String) : Option (Descriptor -> Descriptor) :=
  let word := String.ofList (lower wrapper.toList)
  if word ∈ sequenceWrappers then some .sequence
  else if word ∈ optionalWrappers then some .optional
  else none

/-- What is left of a broken expression when question marks, wrappers and blanks are taken
away from it; each of them makes it shorter, so its length bounds how many there are. -/
def brokenLeaf : Nat -> List Piece -> List Piece
  | 0, pieces => pieces
  | fuel + 1, pieces =>
    let isBlank (piece : Piece) : Bool := piece.is isBlank
    let trimmed := trimWhile isBlank pieces
    match Layer.of (trimmed.flatMap Piece.replaced) with
    | .optional _ => brokenLeaf fuel trimmed.dropLast
    | .wrapped wrapper _ => brokenLeaf fuel (trimmed.drop (wrapper.length + 1)).dropLast
    | .leaf => trimmed

inductive TypeExprFault where
  | malformed (text : String)
  /-- Escapes have broken it; this is its innermost part. -/
  | broken (leaf : List Piece)
  | unknownWrapper (wrapper whole : String)
deriving DecidableEq

def TypeExprFault.message : TypeExprFault -> String
  | malformed text => s!"Cannot parse type expression {Text.quoted text}"
  | broken leaf => s!"Cannot parse type expression {Text.quotedPieces leaf}"
  | unknownWrapper wrapper whole => s!"Unknown type wrapper '{wrapper}' in {Text.quoted whole}"

/-- The type that an expression denotes: names are looked up with `resolve`, and
`fail` reports what is wrong. -/
def TypeExpr.descriptor {m : Type -> Type} [Monad m] (fail : TypeExprFault -> m Descriptor)
    (resolve : String -> m Descriptor) : TypeExpr -> m Descriptor
  | primitive name => pure (.primitive name)
  | reference name => resolve name
  | optional inner => return .optional (<- inner.descriptor fail resolve)
  | wrapped wrapper whole inner => do
    let type <- inner.descriptor fail resolve
    match wrap? wrapper with
    | some wrap => return wrap type
    | none => fail (.unknownWrapper wrapper whole)
  | malformed text => fail (.malformed text)

def TypeExpr.typeOf (resolve : String -> Descriptor) (text : Chars) :
    Except TypeExprFault Descriptor :=
  (TypeExpr.read text).descriptor .error fun name => .ok (resolve name)

def readType (text : String) : Except TypeExprFault Descriptor := TypeExpr.typeOf .named text.toList
end RouteDocs.Declaration
