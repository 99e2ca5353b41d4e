/-!
# Tokens

The lexical vocabulary of a PHP source: every token has a kind, the line on which it ends and a
lexeme, which is its own text for most kinds and the text between the delimiters for strings and
heredocs.
-/

set_option autoImplicit false

namespace Cyclomatic

/-- The kinds of token. -/
inductive Token.Kind where
  | phpTag | leftParen | rightParen | leftBrace | rightBrace | leftBracket | rightBracket | comma
  | dot | minus | plus | semicolon | slash | star | question | colon | pipe | hash | reference
  | modulo | atSign | binaryNegation | bang | bangEqual | bangEqualEqual | equal | equalEqual
  | equalEqualEqual | greater | greaterEqual | less | lessEqual | orOperator | andOperator
  | heredoc | fatArrow | thinArrow | colonColon | identifier | string | number
  deriving DecidableEq, Repr

/-- A token of a source text. -/
structure Token where
  kind : Token.Kind
  /-- The line on which its text ends. -/
  line : Int
  lexeme : String
  deriving DecidableEq, Repr

namespace Token

/-- Every kind, in the order of the vocabulary. -/
def Kind.all : List Kind :=
  [.phpTag, .leftParen, .rightParen, .leftBrace, .rightBrace, .leftBracket, .rightBracket,
   .comma, .dot, .minus, .plus, .semicolon, .slash, .star, .question, .colon, .pipe, .hash,
   .reference, .modulo, .atSign, .binaryNegation, .bang, .bangEqual, .bangEqualEqual, .equal,
   .equalEqual, .equalEqualEqual, .greater, .greaterEqual, .less, .lessEqual, .orOperator,
   .andOperator, .heredoc, .fatArrow, .thinArrow, .colonColon, .identifier, .string, .number]

/-- The name under which a kind is reported. -/
def Kind.name : Kind → String
  | .phpTag => "PHP_TAG"
  | .leftParen => "LEFT_PAREN"
  | .rightParen => "RIGHT_PAREN"
  | .leftBrace => "LEFT_BRACE"
  | .rightBrace => "RIGHT_BRACE"
  | .leftBracket => "LEFT_BRACKET"
  | .rightBracket => "RIGHT_BRACKET"
  | .comma => "COMMA"
  | .dot => "DOT"
  | .minus => "MINUS"
  | .plus => "PLUS"
  | .semicolon => "SEMICOLON"
  | .slash => "SLASH"
  | .star => "STAR"
  | .question => "QUESTION"
  | .colon => "COLON"
  | .pipe => "PIPE"
  | .hash => "HASH"
  | .reference => "REFERENCE"
  | .modulo => "MODULO"
  | .atSign => "AT_SIGN"
  | .binaryNegation => "BINARY_NEGATION"
  | .bang => "BANG"
  | .bangEqual => "BANG_EQUAL"
  | .bangEqualEqual => "BANG_EQUAL_EQUAL"
  | .equal => "EQUAL"
  | .equalEqual => "EQUAL_EQUAL"
  | .equalEqualEqual => "EQUAL_EQUAL_EQUAL"
  | .greater => "GREATER"
  | .greaterEqual => "GREATER_EQUAL"
  | .less => "LESS"
  | .lessEqual => "LESS_EQUAL"
  | .orOperator => "OR_OPERATOR"
  | .andOperator => "AND_OPERATOR"
  | .heredoc => "HEREDOC"
  | .fatArrow => "FAT_ARROW"
  | .thinArrow => "THIN_ARROW"
  | .colonColon => "COLON_COLON"
  | .identifier => "IDENTIFIER"
  | .string => "STRING"
  | .number => "NUMBER"

/-- The kind that is reported under a name. -/
def Kind.ofName? (name : String) : Option Kind := Kind.all.find? (·.name == name)

/-- Whether the token is an identifier; only identifiers can be keywords or name types. -/
def isIdentifier (t : Token) : Bool := t.kind == .identifier

/-- Whether the token selects a member of an object or a class. -/
def isMemberAccess (t : Token) : Bool := t.kind == .thinArrow || t.kind == .colonColon

end Token

end Cyclomatic
