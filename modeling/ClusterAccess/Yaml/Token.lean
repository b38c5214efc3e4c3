import ClusterAccess.Text.Quoted
import ClusterAccess.Value.Calendar

/-!
# Tokens of a document

What a document is made of, once indentation has been turned into brackets. A token list ends with the
end of the document or with a fault; what comes before a fault could still be read.
-/
namespace ClusterAccess.Yaml

/-- Why a document has no value. A document that is not well formed gives `malformed`, whatever the
reason; the others are scalars that their type or their escapes rule out. -/
inductive Fault where
  | malformed
  | codePoint
  | hugeCodePoint
  | emptyNumber
  | integer (base : Nat) (text : String)
  | longInteger (digits : Nat)
  | double (text : String)
  | truth (word : String)
  | timestamp
  | timestampEntries
  | calendar (fault : Calendar.Fault)
  deriving DecidableEq, Repr

def Fault.message : Fault → String
  | .malformed => "invalid YAML"
  | .codePoint => "chr() arg not in range(0x110000)"
  | .hugeCodePoint => "Python int too large to convert to C int"
  | .emptyNumber => "string index out of range"
  | .integer base text => s!"invalid literal for int() with base {base}: {Text.quoted text}"
  | .longInteger digits =>
    s!"Exceeds the limit (4300 digits) for integer string conversion: value has {digits} digits; " ++
      "use sys.set_int_max_str_digits() to increase the limit"
  | .double text => s!"could not convert string to float: {Text.quoted text}"
  | .truth word => Text.quoted word
  | .timestamp => "'NoneType' object has no attribute 'groupdict'"
  | .timestampEntries => "expected string or bytes-like object, got 'list'"
  | .calendar fault => fault.message

def Fault.name : Fault → String
  | .malformed => "YAMLError"
  | .hugeCodePoint => "OverflowError"
  | .emptyNumber => "IndexError"
  | .truth _ => "KeyError"
  | .timestamp => "AttributeError"
  | .timestampEntries => "TypeError"
  | .codePoint | .integer _ _ | .longInteger _ | .double _ | .calendar _ => "ValueError"

/-- A tag as written: a handle to look up and a suffix, or the tag itself. -/
structure TagName where
  handle : Option String
  suffix : String
  deriving DecidableEq, Repr

inductive Directive where
  | version (major minor : Nat)
  | tag (handle : String) (expansion : String)
  | other
  deriving DecidableEq, Repr

inductive Token where
  | directive (d : Directive)
  | documentStart
  | documentEnd
  | blockSequenceStart
  | blockMappingStart
  | blockEnd
  | flowSequenceStart
  | flowSequenceEnd
  | flowMappingStart
  | flowMappingEnd
  | blockEntry
  | flowEntry
  | key
  | value
  | alias (name : String)
  | anchor (name : String)
  | tag (name : TagName)
  | scalar (text : String) (plain : Bool)
  | streamEnd
  | fault (f : Fault)
  deriving DecidableEq, Repr

end ClusterAccess.Yaml
