/-!
# Tokens

A token is a kind, the exact text it was read from and the line it starts on.
Keywords are the words the language reserves, including those it reserves
only to refuse them with a precise message.
-/

namespace ClassroomC

/-- The kinds of token. -/
inductive TokenKind where
  | number
  | char
  | string
  | ident
  | keyword
  | op
  | directive
  | eof
  deriving Repr, BEq, DecidableEq

/-- The upper-case name of a token kind, as token listings show it. -/
def TokenKind.name : TokenKind → String
  | .number => "NUMBER"
  | .char => "CHAR"
  | .string => "STRING"
  | .ident => "IDENT"
  | .keyword => "KEYWORD"
  | .op => "OP"
  | .directive => "DIRECTIVE"
  | .eof => "EOF"

/-- A token: its kind, its text and the line it starts on. -/
structure Token where
  kind : TokenKind
  text : String
  line : Nat
  deriving Repr, BEq, DecidableEq

namespace Token

/-- The words the language reserves. -/
def keywords : List String :=
  ["int", "void", "return", "if", "else", "for", "while", "do", "break", "continue",
    "char", "float", "double", "long", "short", "unsigned", "signed",
    "struct", "switch", "case", "default", "goto", "const", "static"]

/-- Whether the token is the operator `text`. -/
def isOp (token : Token) (text : String) : Bool :=
  token.kind == .op && token.text == text

/-- Whether the token is the keyword `word`. -/
def isKeyword (token : Token) (word : String) : Bool :=
  token.kind == .keyword && token.text == word

/-- How messages name a token: its text in quotes, or `end of input`. -/
def describe (token : Token) : String :=
  if token.kind == .eof then "end of input" else s!"'{token.text}'"

end Token

end ClassroomC
