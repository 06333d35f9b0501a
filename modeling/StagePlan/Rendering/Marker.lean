import StagePlan.Expression.Execution
import StagePlan.Json.Reader
import StagePlan.Rendering.Tree

namespace StagePlan.Rendering

open Expression

/-!
Rendering single strings. A string that is one output marker becomes the value of its expression;
any other string with markers becomes the text of the template that it is.
-/

/-- What a module with arguments comes to. A failure of the invocation itself has no place. -/
abbrev Invoke := String → Bindings Value → Except RenderError Value

def repeated (piece : List Char) : Nat → List Char → List Char
  | 0, text => text
  | times + 1, text =>
      match Text.dropPiece? piece text with
      | some rest => repeated piece times rest
      | none => text

/-- A text without the marker ends around it. -/
def withoutMarkers (text : List Char) : List Char :=
  let behind := repeated Markup.openOutput text.length (Text.trim text)
  let inner := (repeated Markup.closeOutput.reverse text.length behind.reverse).reverse
  Text.trim inner

/-- What a failure names when a value is needed where there is none: the expression of a marker that
makes up the whole string, or else what stands at the place of the failure. -/
def missingName (source : List Char) (whole? : Option (List Char)) (place? : Option Place) :
    String :=
  String.ofList <|
    match whole? with
    | some expression => expression
    | none =>
        let found :=
          match place?.bind (·.span?) with
          | some span => withoutMarkers (span.cut source)
          | none => []
        if found.isEmpty then Text.trim source else found

/-- The cause that a fault comes to. -/
def causeOf (source : List Char) (whole? : Option (List Char)) (fault : Fault)
    (place? : Option Place) : RenderCause :=
  match fault with
  | .malformed => .malformed .expression
  | .undefined => .unresolvedVariable (missingName source whole? place?)
  | .unknown _ name => .unknownReference name
  | .unknownForItems what =>
      let kind :=
        match what with
        | .filter => "filter"
        | .test => "test"
        | .function => "function"
      let line := (place?.map (·.line)).getD 1
      .unknownReference ("unknown " ++ kind ++ " (in <string>:" ++ toString line ++ ")")
  | .filter name message => .filter name message
  | .predicate name message => .predicate name message
  | .noText x => .encoding (.nonFinite x)
  | .moduleName => .malformed .moduleName
  | .unusable kind => .evaluation (.unusable kind)
  | .operation => .evaluation .operation

/-- The text of a template at a place. -/
def renderTemplate (library : Library) (invoke : Invoke) (visible : Bindings Value)
    (path : List String) (source : List Char) (whole? : Option (List Char)) :
    Except RenderError String :=
  match readBody source with
  | .error .malformed => .error ⟨.malformed .expression, path⟩
  | .error .escape => .error ⟨.evaluation .escape, path⟩
  | .ok body =>
      (writeTemplate library visible body).run
        (fun id arguments => (invoke id arguments).mapError (RenderError.orAt path))
        (fun fault place? => ⟨causeOf source whole? fault place?, path⟩)

/-- A template that writes the document of an expression's value. -/
def documentTemplate (expression : List Char) : List Char :=
  Markup.openOutput ++ ' ' :: '(' :: expression ++ ')' :: ' ' :: '|' :: ' '
    :: Library.documentFilter.toList ++ ' ' :: Markup.closeOutput

/-- What a string becomes. -/
def renderString (library : Library) (invoke : Invoke) (visible : Bindings Value) : Interpret :=
  fun path source =>
    if !Markup.hasMarkers source then .ok (.string source)
    else
      match Markup.expandTags source.toList with
      | .error fault => .error ⟨.malformed (.tag fault), path⟩
      | .ok expanded =>
          match Markup.wholeExpression? expanded with
          | some expression =>
              match renderTemplate library invoke visible path (documentTemplate expression)
                  (some expression) with
              | .error e => .error e
              | .ok document =>
                  match Json.value? document with
                  | some v => .ok v
                  | none => .error ⟨.encoding .unreadable, path⟩
          | none =>
              match renderTemplate library invoke visible path expanded none with
              | .ok text => .ok (.string text)
              | .error e => .error e

end StagePlan.Rendering
