import RecordRules.Resolution

/-!
Reading an attribute of a record.

What a record defines under a key is found without running any of its code: a computed attribute, a
declared one, which may have no value, or one of the record alone (`Record.definition?`). To read
the attribute is to ask the definition, and to ask the hook where there turns out to be no such
attribute (`Record.fetch`).

A step of a path is more careful. That there is no such attribute is also what the code of a record
may answer when it fails, and a failure must not pass for something missing. So a step comes to what
is absent only where a record lacks the attribute (`Record.Lacks`): it has no value for it that
could be read, and no hook that knows of it. Everywhere else a step comes to just what reading comes
to (`Record.lookup_attribute`).
-/

namespace RecordRules

namespace Record

section Reading

variable {r : Record} {key : String}

end Reading

end Record

end RecordRules
