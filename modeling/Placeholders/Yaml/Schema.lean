/-
What the scalars of a YAML document mean. A plain scalar is null, a truth value, a
number or else a string; a quoted one is a string; a tag of the core types asks for
its type. Whole numbers have up to 64 bits. One that needs more, up to 128 bits, is
no value at all, and beyond that it is a float.
-/
import Placeholders.Number.Reading
import Placeholders.Yaml.Node

namespace Placeholders.Yaml
open Number (Binary64)

/-- The value of a scalar. -/
inductive Value
  | null
  | bool (b : Bool)
  | integer (n : Int)
  | float (x : Binary64)
  | string (t : Text)
deriving DecidableEq, Repr

/-- Is the scalar one of the spellings of null? -/
def isNull (t : Text) : Bool :=
  ["~".toList, "null".toList, "Null".toList, "NULL".toList].contains t

/-- The truth value of a scalar: lower case, capitalised or upper case. -/
def boolOf? (t : Text) : Option Bool :=
  if ["true".toList, "True".toList, "TRUE".toList].contains t then some true
  else if ["false".toList, "False".toList, "FALSE".toList].contains t then some false
  else none

/-- The value of digits in a base, at least one of them. -/
def digitsIn? (base : Nat) (t : Text) : Option Nat :=
  if t.isEmpty then none
  else
    t.foldlM
      (fun n c => ((Text.hexDigit? c).filter (· < base)).map fun d => n * base + d)
      0

/-- The bases that have a mark of their own. -/
def markedBases : List (Text × Nat) := [("0x".toList, 16), ("0o".toList, 8), ("0b".toList, 2)]

/-- The digits after the mark of a base, and the base. -/
def afterMark? (t : Text) : Option (Nat × Text) :=
  markedBases.findSome? fun (mark, base) =>
    if mark.isPrefixOf t then some (base, t.drop mark.length) else none

/-- A zero with digits after it, under a sign or not, is no decimal number. -/
def hasLeadingZero (t : Text) : Bool :=
  let digits := (Number.signOf t).2
  1 < digits.length && digits.head? == some '0' && digits.all Char.isDigit

/-- The text without a plus sign at its start. -/
def withoutPlus : Text → Text
  | '+' :: r => r
  | t => t

/-- The whole number of a scalar, of any size, in base ten or in a marked base. -/
def wholeOf? (t : Text) : Option Int :=
  let magnitude? (t : Text) : Option Nat :=
    match afterMark? t with
    | some (base, digits) => digitsIn? base digits
    | none => digitsIn? 10 t
  if hasLeadingZero t then none
  else
    match t with
    | '-' :: r => (magnitude? r).map fun n => -(n : Int)
    | t => (magnitude? (withoutPlus t)).map Int.ofNat

/-- The float of a scalar; a numeral that is too large for one is none. -/
def floatOf? (t : Text) : Option Binary64 :=
  let unsigned := withoutPlus t
  if [".inf".toList, ".Inf".toList, ".INF".toList].contains unsigned then some (.infinite false)
  else if ["-.inf".toList, "-.Inf".toList, "-.INF".toList].contains t then some (.infinite true)
  else if [".nan".toList, ".NaN".toList, ".NAN".toList].contains t then some .nan
  else if t.head? == some '+' && (unsigned.head?.any fun c => c = '+' || c = '-') then none
  else (Number.readBinary64? unsigned).filter Binary64.isFinite

/-- Does the whole number fit 64 bits, signed or not? -/
def fits64 (n : Int) : Bool := -9223372036854775808 ≤ n && n ≤ 18446744073709551615

/-- Does the whole number fit 128 bits, signed or not? -/
def fits128 (n : Int) : Bool :=
  -170141183460469231731687303715884105728 ≤ n && n ≤ 340282366920938463463374607431768211455

/-- The value of a plain scalar. -/
def Value.ofPlain? (t : Text) : Option Value :=
  if t.isEmpty || isNull t then some .null
  else
    match boolOf? t with
    | some b => some (.bool b)
    | none =>
      match (wholeOf? t).filter fits128 with
      | some n => if fits64 n then some (.integer n) else none
      | none =>
        match if hasLeadingZero t then none else floatOf? t with
        | some x => some (.float x)
        | none => some (.string t)

/-- The tag of a core type. -/
def coreTag (name : Text) : List UInt8 := Text.utf8 ("tag:yaml.org,2002:".toList ++ name)

/-- Does the tag start with a mark, as one of the document's own does? -/
def isOwnTag (tag : List UInt8) : Bool := loneMark.isPrefixOf tag

/-- Does a tag of the document's own name a type? Its bytes may be no text. -/
def namesType (tag : List UInt8) : Bool :=
  isOwnTag tag && match Text.ofUtf8 tag with
    | .ok _ => true
    | .error _ => false

/-- The value of a scalar under its tag. A tag that names a type of the document's own
is no value; if it is no text, it says nothing. -/
def Value.ofScalar? (tag : Option (List UInt8)) (style : Style) (t : Text) : Option Value :=
  let untagged? := if style = .plain then Value.ofPlain? t else some (.string t)
  match tag with
  | none => untagged?
  | some tag =>
    if namesType tag then none
    else if isOwnTag tag then untagged?
    else if tag == coreTag "bool".toList then (boolOf? t).map .bool
    else if tag == coreTag "int".toList then ((wholeOf? t).filter fits64).map .integer
    else if tag == coreTag "float".toList then (floatOf? t).map .float
    else if tag == coreTag "null".toList then (if isNull t then some .null else none)
    else some (.string t)

namespace Document

/-- The value of a node that is a scalar. -/
def value? (d : Document) (n : Node) : Option Value :=
  match d.resolve n with
  | .scalar _ tag style t => Value.ofScalar? tag style t
  | _ => none

/-- The text of a node that is a scalar, however it is written. -/
def text? (d : Document) (n : Node) : Option Text :=
  match d.resolve n with
  | .scalar _ _ _ t => some t
  | _ => none

/-- The truth value of a node: a plain scalar, or a literal one under the tag for it. -/
def bool? (d : Document) (n : Node) : Option Bool :=
  match d.resolve n with
  | .scalar _ tag style t =>
    if style = .plain || (style = .literal && tag == some (coreTag "bool".toList)) then boolOf? t
    else none
  | _ => none

/-- The entries of a mapping; what is not written at all has none. -/
def entries? (d : Document) (n : Node) : Option (List (Node × Node)) :=
  match d.resolve n with
  | .mapping _ entries => some entries
  | .scalar _ _ .plain [] => some []
  | _ => none

/-- The entries of a mapping whose keys are texts. -/
def fields? (d : Document) (n : Node) : Option (List (Text × Node)) := do
  (← d.entries? n).mapM fun (e : Node × Node) => (d.text? e.1).map (·, e.2)

/-- The value of a field, read by a reader. It may be given once, and stands back
for another value when it is not given. -/
def field? {α : Type} (fields : List (Text × Node)) (name : Text) (read : Node → Option α)
    (absent : Option α) : Option α :=
  match fields.filter fun f => f.1 == name with
  | [] => absent
  | [f] => read f.2
  | _ => none

end Document
end Placeholders.Yaml
