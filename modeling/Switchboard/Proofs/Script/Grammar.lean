import Switchboard.Script.Program

/-! What a statement looks like, apart from any way to read it. A phrase is a list of tokens with its tree and its
nesting: a sign, a pair of parentheses and an argument stand one level deeper than what they enclose.
A phrase that is deeper than a statement may be is a phrase nevertheless. -/
namespace Switchboard.Script

inductive IsSum : Token → Operation → Prop
  | plus : IsSum .plus .add
  | minus : IsSum .minus .subtract

inductive IsProduct : Token → Operation → Prop
  | star : IsProduct .star .multiply
  | slash : IsProduct .slash .divide
  | percent : IsProduct .percent .remainder

mutual

/-- Terms between signs of sums, grouped to the left. -/
inductive IsExpr : Nat → List Token → Expr → Prop
  | term : IsTerm n tokens e → IsExpr n tokens e
  | sum : IsExpr n left l → IsSum token operation → IsTerm m right r →
      IsExpr (max n m) (left ++ token :: right) (.binary operation l r)

/-- Operands between signs of products, grouped to the left. -/
inductive IsTerm : Nat → List Token → Expr → Prop
  | unary : IsUnary n tokens e → IsTerm n tokens e
  | product : IsTerm n left l → IsProduct token operation → IsUnary m right r →
      IsTerm (max n m) (left ++ token :: right) (.binary operation l r)

inductive IsUnary : Nat → List Token → Expr → Prop
  | primary : IsPrimary n tokens e → IsUnary n tokens e
  | negate : IsUnary n tokens e → IsUnary (n + 1) (.minus :: tokens) (.negate e)

inductive IsPrimary : Nat → List Token → Expr → Prop
  | text : IsPrimary 0 [.text value] (.text value)
  | number : IsPrimary 0 [.number value] (.number value)
  | variable : IsPrimary 0 [.name "vars", .dot, .name key] (.variable key)
  | name : IsPrimary 0 [.name word] (.name word)
  | group : IsExpr n tokens e → IsPrimary (n + 1) (.opening :: (tokens ++ [.closing])) e
  | call : IsArguments n tokens values →
      IsPrimary n (.name word :: .opening :: (tokens ++ [.closing])) (.call word values)

inductive IsArguments : Nat → List Token → List Expr → Prop
  | nothing : IsArguments 0 [] []
  | values : IsValues n tokens values → IsArguments n tokens values

inductive IsValues : Nat → List Token → List Expr → Prop
  | one : IsExpr n tokens e → IsValues (n + 1) tokens [e]
  | more : IsExpr n first e → IsValues m rest values →
      IsValues (max (n + 1) m) (first ++ .comma :: rest) (e :: values)

end

inductive IsTarget : List Token → Target → Prop
  | variable : IsTarget [.name "vars", .dot, .name key] (.variable key)
  | name : IsTarget [.name word] (.name word)

inductive IsAssignment : Nat → List Token → Statement → Prop
  | assign : IsTarget front target → IsExpr n back value →
      IsAssignment n (front ++ .assign :: back) (.assign target value)

def declarators : List String := ["let", "const", "var"]

/-- A first word that has a meaning of its own is never the name of a target. -/
inductive IsStatement : Nat → List Token → Statement → Prop
  | finish : IsStatement 0 (.name "return" :: tokens) .finish
  | declared : word ∈ declarators → IsAssignment n tokens statement →
      IsStatement n (.name word :: tokens) statement
  | plain : (∀ word ∈ "return" :: declarators, tokens.head? ≠ some (.name word)) →
      IsAssignment n tokens statement → IsStatement n tokens statement

end Switchboard.Script
