import LspEndpoint.Json.Value

/-!
Decoded params. Positions are zero-based and count UTF-16 code units; a range is half open. A content
change without a range replaces the whole text.
-/
namespace LspEndpoint

structure Position where
  line : Nat
  character : Nat
deriving DecidableEq

structure Range where
  start : Position
  stop : Position
deriving DecidableEq

structure DocumentParams where
  uri : Text
deriving DecidableEq

structure PositionParams where
  uri : Text
  position : Position
deriving DecidableEq

structure RangeParams where
  uri : Text
  range : Range
deriving DecidableEq

structure ReferenceParams where
  uri : Text
  position : Position
  includeDeclaration : Bool
deriving DecidableEq

structure RenameParams where
  uri : Text
  position : Position
  newName : Text
deriving DecidableEq

structure CodeActionParams where
  uri : Text
  range : Range
  context : Json.Members
deriving DecidableEq

/-- Options beyond the two known ones are kept in their order. -/
structure FormattingOptions where
  tabSize : Int
  insertSpaces : Bool
  extra : Json.Members
deriving DecidableEq

structure FormattingParams where
  uri : Text
  options : FormattingOptions
deriving DecidableEq

structure RangeFormattingParams where
  uri : Text
  range : Range
  options : FormattingOptions
deriving DecidableEq

structure OnTypeFormattingParams where
  uri : Text
  position : Position
  character : Text
  options : FormattingOptions
deriving DecidableEq

structure InitializeParams where
  capabilities : Json.Members
  clientInfo : Option Json.Members
deriving DecidableEq

structure ExecuteCommandParams where
  command : Json
  uri : Text
  workDoneToken : Json
deriving DecidableEq

structure ContentChange where
  text : Text
  range : Option Range
deriving DecidableEq

structure DidOpenParams where
  uri : Text
  languageId : Text
  version : Int
  text : Text
deriving DecidableEq

structure DidChangeParams where
  uri : Text
  version : Option Int
  changes : List ContentChange
deriving DecidableEq

structure DidCloseParams where
  uri : Text
deriving DecidableEq

end LspEndpoint
