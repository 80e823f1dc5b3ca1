import RecordRules.Calendar.Literal
import RecordRules.Class
import RecordRules.Number.Shortest
import RecordRules.Similarity
import RecordRules.Text.Quoted
import RecordRules.Value.Kind

/-!
Values as text.

Each value has two texts. Its `literal` shows what it is, with quotes around text and constructor
calls around the rest, so that two values that differ look different; `shown` is how it reads
within a sentence. They differ for text, dates, decimal numbers, views of dictionaries, settings and
faults.

An expression is written with `&`, `|` and `~`. A combination by `&` or `|` inside another one gets
brackets, anything else needs none, since `~` binds a single operand.
-/

namespace RecordRules

open Number Calendar

/-- The items of a tuple; a single one is followed by a comma. -/
def tupleText : List String → String
  | [item] => "(" ++ item ++ ",)"
  | items => "(" ++ ", ".intercalate items ++ ")"

/-- The items of a set; an empty one has no braces of its own. -/
def setText (frozen : Bool) (items : List String) : String :=
  let braces := "\x7b" ++ ", ".intercalate items ++ "\x7d"
  match frozen, items with
  | false, [] => "set()"
  | false, _ => braces
  | true, [] => "frozenset()"
  | true, _ => "frozenset(" ++ braces ++ ")"

/-- The entries of a dictionary. -/
def dictText (readOnly : Bool) (entries : List String) : String :=
  let braces := "\x7b" ++ ", ".intercalate entries ++ "\x7d"
  if readOnly then "mappingproxy(" ++ braces ++ ")" else braces

/-- The bounds of a range; a step of one is left out. -/
def rangeText (start stop step : Int) : String :=
  "range(" ++ showInt start ++ ", " ++ showInt stop ++
    (if step = 1 then "" else ", " ++ showInt step) ++ ")"

def boolText (b : Bool) : String :=
  if b then "True" else "False"

/-- A label in quotes; a name shows its symbol and its text. -/
def Label.literal : Label → String
  | .plain s => Text.quoted s
  | .name n => "<" ++ n.title ++ ": " ++ Text.quoted n.text ++ ">"

/-- A pattern with the modes that it was made with; a long source is cut. -/
def Pattern.Compiled.literal (p : Pattern.Compiled) : String :=
  let quoted := Text.quoted p.source
  let modes :=
    (if p.flags.ignoreCase then ["re.IGNORECASE"] else []) ++
      (if p.flags.multiline then ["re.MULTILINE"] else []) ++
      (if p.flags.dotAll then ["re.DOTALL"] else []) ++
      (if p.flags.verbose then ["re.VERBOSE"] else []) ++
      (if p.flags.ascii then ["re.ASCII"] else [])
  "re.compile(" ++ String.ofList (quoted.toList.take 200) ++
    (if modes.isEmpty then "" else ", " ++ "|".intercalate modes) ++ ")"

/-- The settings of an evaluator, one after another. -/
def Config.shownWith (separator : String) (c : Config) : String :=
  separator.intercalate
    ["nested_paths=" ++ boolText c.nestedPaths, "path_separator=" ++ Text.quoted c.separator,
      "log_failures=" ++ boolText c.logFailures]

/-- The text of a fault with these arguments: nothing for none, the argument for a single one, which
a missing key shows in quotes, and otherwise the tuple of them. -/
def argumentsText (quotes : Bool) (shown literals : List String) : String :=
  match shown, literals with
  | [], _ => ""
  | [s], [l] => if quotes then l else s
  | _, ls => tupleText ls

def unknownPredicateText (name : Label) (valid : List Label) (suggestions : List String) :
    String :=
  let sorted := (valid.map Label.text).mergeSort fun a b => !decide (b < a)
  "Unknown predicate: '" ++ name.shown ++ "'." ++
    (if suggestions.isEmpty then ""
      else " Did you mean: " ++ ", ".intercalate suggestions ++ "?") ++
    " Valid predicates: " ++ ", ".intercalate (sorted.take 10) ++ "..."

/-- An operand, in brackets when it is a combination by `&` or `|`. -/
def Expr.bracket (e : Expr) (text : String) : String :=
  match e with
  | .all _ | .any _ => "(" ++ text ++ ")"
  | _ => text

inductive Manner where
  | literal | shown
deriving DecidableEq, Repr

def Manner.pick (manner : Manner) (literal shown : String) : String :=
  match manner with
  | .literal => literal
  | .shown => shown

/-- A message, in quotes where it is to be shown as it is. -/
def Manner.quote (manner : Manner) (message : String) : String :=
  manner.pick (Text.quoted message) message

mutual

def Value.write (manner : Manner) : Value → String
  | .none => "None"
  | .absent => "ABSENT"
  | .bool b => boolText b
  | .int i => showInt i
  | .float _ x => x.text
  | .decimal _ x => manner.pick ("Decimal('" ++ x.text ++ "')") x.text
  | .complex _ re im => Binary.showComplex re im
  | .text label => manner.pick label.literal label.shown
  | .bytes mutable content =>
    if mutable then "bytearray(" ++ Text.quotedArray content ++ ")" else Text.quotedBytes content
  | .date d => manner.pick d.literal d.text
  | .moment m => manner.pick m.literal (m.showWith " ")
  | .time t => manner.pick t.literal t.text
  | .range start stop step => rangeText start stop step
  | .list items => "[" ++ ", ".intercalate (literals items) ++ "]"
  | .tuple items => tupleText (literals items)
  | .set frozen items => setText frozen (literals items)
  | .dict readOnly entries =>
    let es := entryLiterals entries
    manner.pick (dictText readOnly es) (dictText false es)
  | .mapping ⟨_, label, _, _⟩ => "<CustomMap " ++ label ++ ">"
  | .record ⟨_, label, _, _, _, _, _, _, _⟩ => "<Rec " ++ label ++ ">"
  | .type c => c.text
  | .regex p => p.literal
  | .function (.other name) => name
  | .function _ => "<function>"
  | .fault f => f.write manner
  | .predicate (.builtin _ b) => "<" ++ b.title ++ " " ++ b.text ++ ">"
  | .predicate p => "<FunctionPredicate " ++ p.key ++ ">"
  | .expr e => e.literal
  | .rule r => r.literal
  | .ruleSet ⟨rules⟩ => "RuleSet([" ++ ", ".intercalate (ruleLiterals rules) ++ "])"
  | .error e => e.literal
  | .errorSet ⟨groups⟩ => "ErrorSet([" ++ ", ".intercalate (groupLiterals groups) ++ "])"
  | .result ⟨⟨groups⟩⟩ =>
    "Result(errors=ErrorSet([" ++ ", ".intercalate (groupLiterals groups) ++ "]))"
  | .config c =>
    manner.pick ("EvaluatorConfig(" ++ c.shownWith ", " ++ ")") (c.shownWith " ")
  | .evaluator _ => "<Evaluator>"
  | .registry _ => "<PredicateRegistry>"
  | .builder _ => "<RuleSetBuilder>"
  | .validatorClass name _ _ => "<class '__main__." ++ name ++ "'>"
  | .validator _ name _ _ _ => "<" ++ name ++ ">"
termination_by structural v => v

def literals : List Value → List String
  | [] => []
  | v :: vs => v.write .literal :: literals vs
termination_by structural vs => vs

def shownAll : List Value → List String
  | [] => []
  | v :: vs => v.write .shown :: shownAll vs
termination_by structural vs => vs

def entryLiterals : List (Value × Value) → List String
  | [] => []
  | (k, v) :: rest => (k.write .literal ++ ": " ++ v.write .literal) :: entryLiterals rest
termination_by structural es => es

/-- The text that a predicate is registered and reported by. -/
def Predicate.key : Predicate → String
  | .builtin _ b => b.text
  | .custom _ (.text label) _ _ => label.text
  | .custom _ name _ _ => name.write .shown
termination_by structural p => p

def Expr.literal : Expr → String
  | .bound p params => p.key ++ "(" ++ ", ".intercalate (literals params) ++ ")"
  | .all es => " & ".intercalate (operandLiterals es)
  | .any es => " | ".intercalate (operandLiterals es)
  | .negation e => "~" ++ e.bracket e.literal
termination_by structural e => e

def operandLiterals : List Expr → List String
  | [] => []
  | e :: es => e.bracket e.literal :: operandLiterals es
termination_by structural es => es

def Rule.literal : Rule → String
  | ⟨path, e⟩ => "Rule(attribute=" ++ path.literal ++ ", predicate=" ++ e.literal ++ ")"
termination_by structural r => r

def ruleLiterals : List Rule → List String
  | [] => []
  | r :: rs => r.literal :: ruleLiterals rs
termination_by structural rs => rs

def Error.literal : Error → String
  | ⟨path, ruleName, expected, actual⟩ =>
    "Error(attribute=" ++ path.literal ++ ", rule_name=" ++ ruleName.literal ++ ", expected=" ++
      expected.write .literal ++ ", actual=" ++ actual.write .literal ++ ")"
termination_by structural e => e

def errorLiterals : List Error → List String
  | [] => []
  | e :: es => e.literal :: errorLiterals es
termination_by structural es => es

def groupLiterals : List (Label × List Error) → List String
  | [] => []
  | (_, es) :: rest => errorLiterals es ++ groupLiterals rest
termination_by structural gs => gs

/-- The text of a fault: its message, or its class with what it was made of. -/
def Fault.write (manner : Manner) : Fault → String
  | .plain kind arguments =>
    let ls := literals arguments
    manner.pick (kind.className ++ "(" ++ ", ".intercalate ls ++ ")")
      (argumentsText (kind == .key) (shownAll arguments) ls)
  | .engine arguments =>
    let ls := literals arguments
    manner.pick ("ValidationEngineError(" ++ ", ".intercalate ls ++ ")")
      (argumentsText false (shownAll arguments) ls)
  | .unknownPredicate name valid =>
    let close := Similarity.suggestions name.text (valid.map Label.text)
    let message := unknownPredicateText name valid close
    manner.pick ("PredicateNotFoundError(" ++ Text.quoted message ++ ")") message
  | .definition d =>
    manner.pick ("RuleDefinitionError(" ++ d.write .literal ++ ")") (d.write .shown)
  | .badPath path reason =>
    let message :=
      "Invalid attribute path " ++ path.write .literal ++ ": " ++ reason.write .shown
    manner.pick ("InvalidAttributePathError(" ++ Text.quoted message ++ ")") message
  | .evaluation path ruleName origin =>
    let message :=
      "Predicate '" ++ ruleName.write .shown ++ "' raised " ++ origin.className ++
        " while validating '" ++ path.write .shown ++ "': " ++ origin.write .shown
    manner.pick ("PredicateEvaluationError(" ++ Text.quoted message ++ ")") message
  | .resolution path ruleName origin =>
    let message :=
      "Resolving '" ++ path.write .shown ++ "' for rule '" ++ ruleName.write .shown ++
        "' raised " ++ origin.className ++ ": " ++ origin.write .shown
    manner.pick ("AttributeResolutionError(" ++ Text.quoted message ++ ")") message
termination_by structural f => f

def Defect.write (manner : Manner) : Defect → String
  | .stated message _ => message.write manner
  | .parameterCount name expected given =>
    manner.quote ("Predicate '" ++ name ++ "' takes " ++ showNat expected ++
      " parameter(s), got " ++ showNat given)
  | .notClass given => manner.quote ("type? expects a class, got " ++ given.write .literal)
  | .notPattern given => manner.quote ("format? expects a regex, got " ++ given.write .literal)
  | .malformedPattern source reason =>
    manner.quote ("format? pattern " ++ source.literal ++ " does not compile: " ++ reason)
  | .notCollection predicate given =>
    manner.quote (predicate.text ++ " expects a collection of values, got " ++
      given.write .literal)
  | .notLength predicate given =>
    manner.quote (predicate.text ++ " expects " ++
      (if predicate = .size then "an int or a range" else "an int") ++ ", got " ++
      given.write .literal)
  | .fewOperands connective least =>
    manner.quote ("'" ++ connective.text ++ "' needs at least " ++ showNat least ++
      " operand(s)")
  | .notOperand connective given =>
    manner.quote ("'" ++ connective.text ++ "' operand must be a predicate expression, got " ++
      given.write .literal)
  | .notExpression path given =>
    manner.quote ("Rule for '" ++ path.shown ++ "' needs a predicate expression, got " ++
      given.write .literal)
  | .notRule given => manner.quote ("Expected a Rule, got " ++ given.write .literal)
  | .notRuleSet className => manner.quote ("Expected a RuleSet, got " ++ className)
  | .notRules validator className =>
    manner.quote (validator ++ ".rules must be a RuleSet, got " ++ className)
  | .unknownClass given _ =>
    manner.quote ("Unknown type name " ++ given.write .literal ++ ". Known: " ++ Class.aliasList)
  | .emptyGroup connective _ =>
    manner.quote ("'" ++ connective.text ++ "' group has no operands")
  | .crowdedNegation _ => manner.quote "'not' group must contain exactly one operand"
  | .document message _ => manner.quote ("Invalid rule document: " ++ message)
  | .json message => manner.quote ("Invalid JSON: " ++ message)
  | .notObject => manner.quote "Top-level JSON value must be an object"
termination_by structural d => d

end

namespace Value

def literal (v : Value) : String := v.write .literal

def shown (v : Value) : String := v.write .shown

/-- The text by which a registry knows a predicate with this name. -/
def nameKey : Value → String
  | .text label => label.text
  | v => v.shown

end Value

def Fault.message (f : Fault) : String := f.write .shown

def Defect.message (d : Defect) : String := d.write .shown

end RecordRules
