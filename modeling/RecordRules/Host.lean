import RecordRules.Document.Json
import RecordRules.Document.Node
import RecordRules.Expr
import RecordRules.Value.Integers

/-!
What is left to the host.

Four functions that reading a rule document takes are not the engine's own: the text of the document
is taken apart, the tree is matched against the schema, patterns are read, and values are written
into the messages of faults. Each can refuse what it is given. The engine is prepared for text that
is not JSON, for trees that do not match and for patterns that do not follow their grammar. Every
other fault it lets through; in particular, where a message cannot be written, the fault of writing
it takes the place of the fault that it was for.

What else these functions refuse differs from host to host: how deep text, patterns and values may
nest depends on the stack that is left, and which characters have names on the tables at hand. So a
`Host` is a parameter of reading. `Host.standard` is made of the readers of this library, which nest
as deep as they are asked to and know no names.
-/

namespace RecordRules

structure Host where
  /-- The value of a text in JSON, which is refused for not following the grammar. -/
  load : Value → Except (Refusal String) Value
  /-- The rule nodes of a tree, which is refused for not matching the schema. -/
  nodes : Value → Except (Refusal Document.Problem) (List RuleNode)
  /-- Reads a pattern, which is refused for not following the grammar. -/
  compile : Pattern.Compiler
  /-- Writes a value into a message. -/
  quote : Value → Except ForeignFault Unit

/-- The value that the message about a defect quotes. -/
def Defect.quoted? : Defect → Option Value
  | .notClass v | .notPattern v | .notCollection _ v | .notLength _ v | .notOperand _ v
  | .notExpression _ v | .notRule v | .unknownClass v _ => some v
  | .malformedPattern source _ => some (.text source)
  | _ => none

def Fault.quoted? : Fault → Option Value
  | .definition d => d.quoted?
  | .badPath path _ => some path
  | _ => none

namespace Host

def standard : Host where
  load := Json.readFrom
  nodes document := (Document.rulesOf document).mapError .expected
  compile := Pattern.compile
  quote := Value.checkWritable

/-- The checks of predicates whose patterns the host reads. -/
def checks (host : Host) : Checks := fun p params => p.checkBy host.compile params

/-- What comes of a fault when its message is written. -/
def raise (host : Host) (f : Fault) : Fault :=
  match f.quoted?.map host.quote with
  | some (.error g) => g.toFault
  | _ => f

end Host

end RecordRules
