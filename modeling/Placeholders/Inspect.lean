/-
The structure of a pattern as the engine will see it, without evaluating
anything: as data, as JSON, and as a listing for people.
-/
import Placeholders.Json.Value
import Placeholders.Pattern.Expression
import Placeholders.Pattern.Segment
import Placeholders.Text.Quoted

namespace Placeholders
open Pattern (Call Expression Segment TokenKind enclose scan)

/-- A stage: its text, its function unless it is blank, and its arguments. -/
structure StageView where
  raw : Text
  function : Option Text
  args : List (Text × TokenKind)
deriving DecidableEq, Repr

/-- A segment with a placeholder taken apart. -/
inductive SegmentView
  | literal (text : Text)
  | placeholder (raw key : Text) (stages : List StageView)
deriving DecidableEq, Repr

/-- The view of a stage. -/
def StageView.of (stage : Text) : StageView :=
  match Call.parse? stage with
  | none => ⟨stage, none, []⟩
  | some call => ⟨stage, some call.function, call.args.map fun token => (token, TokenKind.of token)⟩

/-- The view of a segment. -/
def SegmentView.of : Segment → SegmentView
  | .literal t => .literal t
  | .placeholder body =>
    let expression := Expression.parse body
    .placeholder (enclose body) expression.key (expression.stages.map StageView.of)

/-- The segments of a pattern, taken apart. -/
def inspect (pattern : Text) : List SegmentView := (scan pattern).map SegmentView.of

/-- The name of a token kind in data. -/
def Pattern.TokenKind.name : TokenKind → Text
  | .stringLiteral => "string_literal".toList
  | .integer => "integer".toList
  | .float => "float".toList
  | .opaqueText => "opaque".toList

namespace StageView

/-- A stage as JSON. -/
def toJson (s : StageView) : Json :=
  .object
    [("raw".toList, .string s.raw),
     ("function".toList, s.function.elim .null .string),
     ("args".toList, .array (s.args.map fun (token, kind) =>
       .object [("token".toList, .string token), ("kind".toList, .string kind.name)]))]

/-- The line of a stage in a listing. -/
def toLine (s : StageView) : Text :=
  match s.function with
  | none => "  | <empty stage>\n".toList
  | some function =>
    let args := s.args.map fun (token, kind) => token ++ ':' :: kind.label
    "  | ".toList ++ function ++ " [".toList ++ List.intercalate ", ".toList args ++ "]\n".toList

end StageView

namespace SegmentView

/-- A segment as JSON. -/
def toJson : SegmentView → Json
  | literal t => .object [("kind".toList, .string "literal".toList), ("text".toList, .string t)]
  | placeholder raw key stages =>
    .object
      [("kind".toList, .string "placeholder".toList),
       ("raw".toList, .string raw),
       ("key".toList, .string key),
       ("stages".toList, .array (stages.map StageView.toJson))]

/-- The lines of a segment in a listing. -/
def toLines : SegmentView → Text
  | literal t => "literal ".toList ++ t.quoted ++ ['\n']
  | placeholder raw key stages =>
    "placeholder ".toList ++ raw ++ " key=".toList ++ key.quoted ++ '\n' :: stages.flatMap StageView.toLine

end SegmentView

/-- The listing of a pattern's segments. -/
def listing (segments : List SegmentView) : Text := segments.flatMap SegmentView.toLines

end Placeholders
