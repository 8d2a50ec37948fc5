import DocQuery.Query.Vocabulary

/-!
# Compile Errors

A compile error says what is wrong with a token and where the token stands: its index in every
enclosing sequence, from the outermost inward.
-/

namespace DocQuery

/-- The position of a token: its indices from the outermost sequence inward. -/
abbrev TokenPath := List Nat

namespace TokenPath

/-- The position of a token inside of the sequence at this position. -/
def child (path : TokenPath) (index : Nat) : TokenPath := path ++ [index]

/-- The text of a position. -/
def text (path : TokenPath) : String :=
  path.foldl (fun acc index ↦ acc ++ "[" ++ Text.padded 1 index ++ "]") "query"

end TokenPath

/-- A rule that a sequence of tokens has to keep. -/
inductive SequenceRule where
  /-- No connective stands first. -/
  | leadingConnective
  /-- No connective stands last. -/
  | trailingConnective
  /-- No connective follows another. -/
  | adjacentConnectives
  /-- Connectives join either all neighbours or none. -/
  | connectiveCount
deriving DecidableEq, Repr

/-- What is wrong with a token. -/
inductive CompileFault where
  /-- A sequence breaks a rule. -/
  | malformed (rule : SequenceRule) (detail : String)
  /-- The symbol has no meaning for values of the declared type. -/
  | symbolUnhandled (symbol : Symbol) (valueType : ValueType) (key : String)
  /-- The token stands where it has no meaning. -/
  | unhandledToken (detail : String)
deriving DecidableEq

/-- The message of a fault. -/
def CompileFault.message : CompileFault → String
  | malformed _ detail => "malformed query: " ++ detail
  | symbolUnhandled symbol valueType key =>
    "Symbol " ++ symbol.name ++ " is unhandled for " ++ valueType.name ++ " type on '" ++ key ++ "'"
  | unhandledToken detail => detail

/-- The rule that a fault breaks. -/
def CompileFault.rule? : CompileFault → Option SequenceRule
  | malformed rule _ => some rule
  | _ => none

/-- A fault at a position. -/
structure CompileError where
  fault : CompileFault
  path : TokenPath
deriving DecidableEq

namespace CompileError

/-- Whether a sequence breaks a rule. -/
def isMalformed (e : CompileError) : Bool := e.fault.rule?.isSome

/-- The message of an error with its position. -/
def text (e : CompileError) : String := e.fault.message ++ " (at " ++ e.path.text ++ ")"

end CompileError

end DocQuery
