import Switchboard.Number.Written
import Switchboard.Text.Quoted

/-! The words of a script, and what can be wrong with their order. -/
namespace Switchboard.Script

inductive Token
  | name (word : String)
  | text (value : String)
  | number (value : Binary64)
  | dot | comma | assign | plus | minus | star | slash | percent | opening | closing | semicolon
deriving DecidableEq

namespace Token

def shown : Token → String
  | name word => "Ident(" ++ Text.quoted word ++ ")"
  | text value => "Str(" ++ Text.quoted value ++ ")"
  | number value => "Num(" ++ NumberStyle.shown.write value ++ ")"
  | dot => "Dot"
  | comma => "Comma"
  | assign => "Assign"
  | plus => "Plus"
  | minus => "Minus"
  | star => "Star"
  | slash => "Slash"
  | percent => "Percent"
  | opening => "LParen"
  | closing => "RParen"
  | semicolon => "Semi"

end Token

/-- How deep parentheses, arguments and signs may stand inside each other in a statement. -/
def maxNesting : Nat := 64

/-- The tokens that a statement may have. Chains of operators are bounded by nothing else. -/
def maxTokens : Nat := 1024

inductive Misfit
  | unterminatedText
  | danglingEscape
  | badNumber (text : String)
  | unexpectedCharacter (c : Char)
  | tooLong
  | tooDeep
  | noTarget
  | noKey
  | missing (wanted : Token)
  | mismatched (wanted found : Token)
  | unexpected (found : Token)
  | endOfStatement
deriving DecidableEq

def Misfit.message : Misfit → String
  | unterminatedText => "unterminated string"
  | danglingEscape => "dangling escape"
  | badNumber text => "bad number " ++ Text.quoted text
  | unexpectedCharacter c => "unexpected character " ++ Text.quotedChar c
  | tooLong => "statement longer than " ++ toString maxTokens ++ " tokens"
  | tooDeep => "expression nested deeper than " ++ toString maxNesting
  | noTarget => "expected an assignment"
  | noKey => "expected a name after 'vars.'"
  | missing wanted => "expected " ++ wanted.shown
  | mismatched wanted found => "expected " ++ wanted.shown ++ ", found " ++ found.shown
  | unexpected found => "unexpected " ++ found.shown
  | endOfStatement => "unexpected end of statement"

end Switchboard.Script
