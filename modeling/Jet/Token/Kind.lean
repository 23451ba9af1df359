/-!
# Token kinds

The closed set of token kinds of a Jet text, the upper-case name each kind is shown by, the fixed
symbol of an operator or delimiter, and the tables from source text to kind.

A kind with a symbol is described by that symbol in quotes; every other kind is described by its
name, and the end of the input by words.
-/

namespace Jet

/-- What a token is. -/
inductive Kind where
  | illegal
  | endOfInput
  | identifier
  | integer
  | float
  | string
  | assign
  | plus
  | minus
  | bang
  | asterisk
  | slash
  | percent
  | less
  | greater
  | lessEqual
  | greaterEqual
  | equal
  | notEqual
  | and
  | or
  | comma
  | semicolon
  | colon
  | leftParen
  | rightParen
  | leftBrace
  | rightBrace
  | leftBracket
  | rightBracket
  | fnWord
  | letWord
  | trueWord
  | falseWord
  | nullWord
  | ifWord
  | elseWord
  | returnWord
deriving DecidableEq, Repr, Inhabited

namespace Kind

/-- Every kind, in the order of declaration. -/
def all : List Kind :=
  [illegal, endOfInput, identifier, integer, float, string, assign, plus, minus, bang, asterisk,
    slash, percent, less, greater, lessEqual, greaterEqual, equal, notEqual, and, or, comma,
    semicolon, colon, leftParen, rightParen, leftBrace, rightBrace, leftBracket, rightBracket,
    fnWord, letWord, trueWord, falseWord, nullWord, ifWord, elseWord, returnWord]

/-- The list of all kinds misses none. -/
theorem mem_all (kind : Kind) : kind ∈ all := by
  cases kind <;> decide

/-- The name a kind is shown by. -/
def name : Kind → String
  | illegal => "ILLEGAL"
  | endOfInput => "EOF"
  | identifier => "IDENT"
  | integer => "INT"
  | float => "FLOAT"
  | string => "STRING"
  | assign => "ASSIGN"
  | plus => "PLUS"
  | minus => "MINUS"
  | bang => "BANG"
  | asterisk => "ASTERISK"
  | slash => "SLASH"
  | percent => "PERCENT"
  | less => "LT"
  | greater => "GT"
  | lessEqual => "LE"
  | greaterEqual => "GE"
  | equal => "EQ"
  | notEqual => "NOT_EQ"
  | and => "AND"
  | or => "OR"
  | comma => "COMMA"
  | semicolon => "SEMICOLON"
  | colon => "COLON"
  | leftParen => "LPAREN"
  | rightParen => "RPAREN"
  | leftBrace => "LBRACE"
  | rightBrace => "RBRACE"
  | leftBracket => "LBRACKET"
  | rightBracket => "RBRACKET"
  | fnWord => "FUNCTION"
  | letWord => "LET"
  | trueWord => "TRUE"
  | falseWord => "FALSE"
  | nullWord => "NULL"
  | ifWord => "IF"
  | elseWord => "ELSE"
  | returnWord => "RETURN"

/-- The kind shown by a name. -/
def ofName? (text : String) : Option Kind :=
  all.find? fun kind => kind.name == text

/-- The fixed symbol of an operator or a delimiter. -/
def symbol? : Kind → Option String
  | assign => some "="
  | plus => some "+"
  | minus => some "-"
  | bang => some "!"
  | asterisk => some "*"
  | slash => some "/"
  | percent => some "%"
  | less => some "<"
  | greater => some ">"
  | lessEqual => some "<="
  | greaterEqual => some ">="
  | equal => some "=="
  | notEqual => some "!="
  | and => some "&&"
  | or => some "||"
  | comma => some ","
  | semicolon => some ";"
  | colon => some ":"
  | leftParen => some "("
  | rightParen => some ")"
  | leftBrace => some "\x7b"
  | rightBrace => some "\x7d"
  | leftBracket => some "["
  | rightBracket => some "]"
  | _ => none

/-- The symbol of a kind that has one, else its name. -/
def label (kind : Kind) : String :=
  kind.symbol?.getD kind.name

/-- A kind in the words of an error message. -/
def describe (kind : Kind) : String :=
  match kind, kind.symbol? with
  | endOfInput, _ => "end of input"
  | _, some symbol => "'" ++ symbol ++ "'"
  | kind, none => kind.name

/-- The kind of a word: a keyword's own kind, else an identifier. -/
def ofWord (word : String) : Kind :=
  match word with
  | "fn" => fnWord
  | "let" => letWord
  | "true" => trueWord
  | "false" => falseWord
  | "null" => nullWord
  | "if" => ifWord
  | "else" => elseWord
  | "return" => returnWord
  | _ => identifier

/-- The kind of a two-character operator. -/
def ofPair? : Char → Char → Option Kind
  | '=', '=' => some equal
  | '!', '=' => some notEqual
  | '<', '=' => some lessEqual
  | '>', '=' => some greaterEqual
  | '&', '&' => some and
  | '|', '|' => some or
  | _, _ => none

/-- The kind of a character that stands for itself; any other character is illegal. -/
def ofSymbol : Char → Kind
  | '=' => assign
  | '+' => plus
  | '-' => minus
  | '!' => bang
  | '*' => asterisk
  | '/' => slash
  | '%' => percent
  | '<' => less
  | '>' => greater
  | ',' => comma
  | ';' => semicolon
  | ':' => colon
  | '(' => leftParen
  | ')' => rightParen
  | '\x7b' => leftBrace
  | '\x7d' => rightBrace
  | '[' => leftBracket
  | ']' => rightBracket
  | _ => illegal

/-- How a token of this kind changes the number of open braces. -/
def braceStep : Kind → Int
  | leftBrace => 1
  | rightBrace => -1
  | _ => 0

end Kind

end Jet
