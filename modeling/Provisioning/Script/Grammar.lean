import Provisioning.Script.Token
import Provisioning.Script.Tree

/-!
The grammar of script templates. From the loosest to the tightest binding an expression is built
with `if`, `or`, `and`, `not`, comparisons, sums, `~`, products, powers, signs, and last subscripts,
calls, filters and tests. Each reader takes tokens from the front; all of them share a bound on
their depth, which the number of tokens gives.
-/

set_option autoImplicit false

namespace Provisioning.Script

/-- A reader of the front of a list of tokens. -/
abbrev Reader := StateT (List Token) (Except Fault)

namespace Reader

/-- Refuses the tokens. -/
def fail {α : Type} (reason : String) : Reader α :=
  throw (.malformed reason)

/-- The next token, which stays. -/
def peek? : Reader (Option Token) := do
  return (← get).head?

/-- The next lexeme, which stays. -/
def lexeme? : Reader (Option Lexeme) := do
  return (← peek?).map Token.lexeme

/-- The line of the next token. -/
def line : Reader Nat := do
  return ((← peek?).map Token.line).getD 1

/-- Takes one token. -/
def skip : Reader Unit :=
  modify List.tail

/-- Takes the next token if its lexeme satisfies `p`. -/
def skipIf (p : Lexeme → Bool) : Reader Bool := do
  if (← lexeme?).any p then
    skip
    return true
  else return false

/-- Whether the next lexeme satisfies `p`. -/
def nextIs (p : Lexeme → Bool) : Reader Bool := do
  return (← lexeme?).any p

/-- Takes the sign `s`, which must come next. -/
def expectSign (s : String) : Reader Unit := do
  if !(← skipIf (Lexeme.isSign s)) then fail ("expected token '" ++ s ++ "'")

/-- Takes a name, which must come next. -/
def expectName : Reader String := do
  match ← lexeme? with
  | some (.name s) =>
    skip
    return s
  | _ => fail "expected token 'name'"

/-- Whether the next lexeme closes a tag that prints. -/
def isClosePrint : Lexeme → Bool
  | .closePrint => true
  | _ => false

/-- Whether the next lexeme closes a statement. -/
def isCloseBlock : Lexeme → Bool
  | .closeBlock => true
  | _ => false

/-- Takes the end of a statement, which must come next. -/
def expectCloseBlock : Reader Unit := do
  if !(← skipIf isCloseBlock) then fail "expected token 'end of statement block'"

/-- Where a list of expressions without brackets ends: at the end of the tag, at a closing
parenthesis or at one of the given names. -/
def atTupleEnd (names : List String) : Reader Bool :=
  nextIs fun
    | .closePrint | .closeBlock => true
    | .sign s => s == ")"
    | .name s => names.contains s
    | _ => false

end Reader

open Reader

/-- The comparison that a sign stands for. -/
def comparison? (s : String) : Option Comparison :=
  [("==", Comparison.equal), ("!=", .notEqual), ("<", .less), ("<=", .lessEqual),
    (">", .greater), (">=", .greaterEqual)].lookup s

/-- The operator of a sum that a sign stands for. -/
def sumOperator? (s : String) : Option Operator :=
  [("+", Operator.add), ("-", .subtract)].lookup s

/-- The operator of a product that a sign stands for. -/
def productOperator? (s : String) : Option Operator :=
  [("*", Operator.multiply), ("/", .divide), ("//", .floorDivide), ("%", .remainder)].lookup s

/-- The value that a name stands for everywhere. -/
def fixedName? (s : String) : Option Value :=
  [("true", Value.bool true), ("True", .bool true), ("false", .bool false),
    ("False", .bool false), ("none", .null), ("None", .null)].lookup s

/-- The positional and the named arguments of a call. -/
abbrev CallArguments := List Expr × List (String × Expr)

/-- Takes the operator at the front if it is one that `find?` knows. -/
def takeOperator (find? : String → Option Operator) : Reader (Option Operator) := do
  match ← lexeme? with
  | some (.sign s) =>
    match find? s with
    | some op =>
      skip
      return some op
    | none => return none
  | _ => return none

/-- Takes the texts at the front, which stand for one text. -/
def adjacentTexts : List Token → String × List Token
  | ⟨.text s, _⟩ :: rest =>
    let (more, rest) := adjacentTexts rest
    (s ++ more, rest)
  | rest => ("", rest)

/-- Whether a lexeme can start the argument of a test that is written without parentheses. -/
def startsOperand : Lexeme → Bool
  | .name s => !(["else", "or", "and"].contains s)
  | .text _ | .whole _ | .fraction _ => true
  | .sign s => ["(", "[", "\x7b"].contains s
  | _ => false

/-- The further parts of a dotted name. -/
def dottedRest : (fuel : Nat) → String → Reader String
  | 0, _ => fail "too deeply nested"
  | fuel + 1, s => do
    if ← skipIf (Lexeme.isSign ".") then dottedRest fuel (s ++ "." ++ (← expectName))
    else return s

mutual

/-- An expression. -/
def expression : (fuel : Nat) → Reader Expr
  | 0 => fail "too deeply nested"
  | fuel + 1 => do
    let line ← line
    choices fuel line (← disjunction fuel)

/-- The `if` parts behind an expression. -/
def choices : (fuel line : Nat) → Expr → Reader Expr
  | 0, _, _ => fail "too deeply nested"
  | fuel + 1, start, yes => do
    if ← skipIf (Lexeme.isName "if") then
      let condition ← disjunction fuel
      if ← skipIf (Lexeme.isName "else") then
        let no ← expression fuel
        let next ← line
        choices fuel next (.choice condition yes (some no) start)
      else
        let next ← line
        choices fuel next (.choice condition yes none start)
    else return yes

/-- Expressions joined by `or`. -/
def disjunction : (fuel : Nat) → Reader Expr
  | 0 => fail "too deeply nested"
  | fuel + 1 => do disjuncts fuel (← conjunction fuel)

/-- The further parts of a disjunction. -/
def disjuncts : (fuel : Nat) → Expr → Reader Expr
  | 0, _ => fail "too deeply nested"
  | fuel + 1, left => do
    if ← skipIf (Lexeme.isName "or") then disjuncts fuel (.or left (← conjunction fuel))
    else return left

/-- Expressions joined by `and`. -/
def conjunction : (fuel : Nat) → Reader Expr
  | 0 => fail "too deeply nested"
  | fuel + 1 => do conjuncts fuel (← negation fuel)

/-- The further parts of a conjunction. -/
def conjuncts : (fuel : Nat) → Expr → Reader Expr
  | 0, _ => fail "too deeply nested"
  | fuel + 1, left => do
    if ← skipIf (Lexeme.isName "and") then conjuncts fuel (.and left (← negation fuel))
    else return left

/-- A comparison, which may be negated. -/
def negation : (fuel : Nat) → Reader Expr
  | 0 => fail "too deeply nested"
  | fuel + 1 => do
    if ← skipIf (Lexeme.isName "not") then return .not (← negation fuel)
    else
      let first ← sum fuel
      match ← comparisons fuel with
      | [] => return first
      | others => return .compare first others

/-- The comparisons behind an expression. -/
def comparisons : (fuel : Nat) → Reader (List (Comparison × Expr))
  | 0 => fail "too deeply nested"
  | fuel + 1 => do
    match ← get with
    | ⟨.sign s, _⟩ :: rest =>
      match comparison? s with
      | some c =>
        set rest
        let operand ← sum fuel
        return (c, operand) :: (← comparisons fuel)
      | none => return []
    | ⟨.name "in", _⟩ :: rest =>
      set rest
      let operand ← sum fuel
      return (.isIn, operand) :: (← comparisons fuel)
    | ⟨.name "not", _⟩ :: ⟨.name "in", _⟩ :: rest =>
      set rest
      let operand ← sum fuel
      return (.notIn, operand) :: (← comparisons fuel)
    | _ => return []

/-- A sum. -/
def sum : (fuel : Nat) → Reader Expr
  | 0 => fail "too deeply nested"
  | fuel + 1 => do summands fuel (← concatenation fuel)

/-- The further parts of a sum. -/
def summands : (fuel : Nat) → Expr → Reader Expr
  | 0, _ => fail "too deeply nested"
  | fuel + 1, left => do
    match ← takeOperator sumOperator? with
    | some op => summands fuel (.binary op left (← concatenation fuel))
    | none => return left

/-- Expressions whose texts are joined. -/
def concatenation : (fuel : Nat) → Reader Expr
  | 0 => fail "too deeply nested"
  | fuel + 1 => do
    let first ← product fuel
    match ← concatenated fuel with
    | [] => return first
    | others => return .concat (first :: others)

/-- The further parts of a concatenation. -/
def concatenated : (fuel : Nat) → Reader (List Expr)
  | 0 => fail "too deeply nested"
  | fuel + 1 => do
    if ← skipIf (Lexeme.isSign "~") then
      let part ← product fuel
      return part :: (← concatenated fuel)
    else return []

/-- A product. -/
def product : (fuel : Nat) → Reader Expr
  | 0 => fail "too deeply nested"
  | fuel + 1 => do factors fuel (← powers fuel)

/-- The further parts of a product. -/
def factors : (fuel : Nat) → Expr → Reader Expr
  | 0, _ => fail "too deeply nested"
  | fuel + 1, left => do
    match ← takeOperator productOperator? with
    | some op => factors fuel (.binary op left (← powers fuel))
    | none => return left

/-- A power; several exponents are applied from left to right. -/
def powers : (fuel : Nat) → Reader Expr
  | 0 => fail "too deeply nested"
  | fuel + 1 => do exponents fuel (← signed fuel true)

/-- The further exponents of a power. -/
def exponents : (fuel : Nat) → Expr → Reader Expr
  | 0, _ => fail "too deeply nested"
  | fuel + 1, left => do
    if ← skipIf (Lexeme.isSign "**") then
      exponents fuel (.binary .power left (← signed fuel true))
    else return left

/-- An operand with signs before it and, where `filters` says so, filters and tests behind it. -/
def signed : (fuel : Nat) → (filters : Bool) → Reader Expr
  | 0, _ => fail "too deeply nested"
  | fuel + 1, filters => do
    let plain ←
      if ← skipIf (Lexeme.isSign "-") then
        Expr.negative <$> signed fuel false
      else if ← skipIf (Lexeme.isSign "+") then
        Expr.positive <$> signed fuel false
      else operand fuel
    let e ← subscripts fuel plain
    if filters then filtersAndTests fuel e else return e

/-- A name, a constant, or an expression in brackets. -/
def operand : (fuel : Nat) → Reader Expr
  | 0 => fail "too deeply nested"
  | fuel + 1 => do
    match ← get with
    | ⟨.name s, _⟩ :: rest =>
      set rest
      match fixedName? s with
      | some v => return .const v
      | none => return .name s
    | ⟨.text s, _⟩ :: rest =>
      let (more, rest) := adjacentTexts rest
      set rest
      return .const (.text (s ++ more))
    | ⟨.whole n, _⟩ :: rest =>
      set rest
      return .const (.int n)
    | ⟨.fraction x, _⟩ :: rest =>
      set rest
      return .const (.float x)
    | ⟨.sign "(", _⟩ :: rest =>
      set rest
      let e ← expressions fuel true true []
      expectSign ")"
      return e
    | ⟨.sign "[", _⟩ :: rest =>
      set rest
      return .list (← listItems fuel true)
    | ⟨.sign "\x7b", _⟩ :: rest =>
      set rest
      return .dict (← dictEntries fuel true)
    | _ => fail "unexpected token"

/-- One expression, or several with commas between them, which make a tuple. -/
def expressions : (fuel : Nat) → (withChoice inBrackets : Bool) → (ends : List String) →
    Reader Expr
  | 0, _, _, _ => fail "too deeply nested"
  | fuel + 1, withChoice, inBrackets, ends => do
    let (items, isTuple) ← tupleItems fuel withChoice ends
    match isTuple, items with
    | true, items => return .tuple items
    | false, [only] => return only
    | false, _ => if inBrackets then return .tuple [] else fail "Expected an expression"

/-- The items of a tuple, and whether there was a comma. -/
def tupleItems : (fuel : Nat) → (withChoice : Bool) → (ends : List String) →
    Reader (List Expr × Bool)
  | 0, _, _ => fail "too deeply nested"
  | fuel + 1, withChoice, ends => do
    if ← atTupleEnd ends then return ([], false)
    let e ← if withChoice then expression fuel else disjunction fuel
    if ← skipIf (Lexeme.isSign ",") then
      let (more, _) ← tupleItems fuel withChoice ends
      return (e :: more, true)
    else return ([e], false)

/-- The items of a list up to its closing bracket. -/
def listItems : (fuel : Nat) → (isFirst : Bool) → Reader (List Expr)
  | 0, _ => fail "too deeply nested"
  | fuel + 1, isFirst => do
    if ← skipIf (Lexeme.isSign "]") then return []
    if !isFirst then expectSign ","
    if !isFirst && (← skipIf (Lexeme.isSign "]")) then return []
    let e ← expression fuel
    return e :: (← listItems fuel false)

/-- The entries of a dictionary up to its closing brace. -/
def dictEntries : (fuel : Nat) → (isFirst : Bool) → Reader (List (Expr × Expr))
  | 0, _ => fail "too deeply nested"
  | fuel + 1, isFirst => do
    if ← skipIf (Lexeme.isSign "\x7d") then return []
    if !isFirst then expectSign ","
    if !isFirst && (← skipIf (Lexeme.isSign "\x7d")) then return []
    let key ← expression fuel
    expectSign ":"
    let value ← expression fuel
    return (key, value) :: (← dictEntries fuel false)

/-- The subscripts and calls behind an expression. -/
def subscripts : (fuel : Nat) → Expr → Reader Expr
  | 0, _ => fail "too deeply nested"
  | fuel + 1, e => do
    match ← get with
    | ⟨.sign ".", _⟩ :: ⟨.name s, _⟩ :: rest =>
      set rest
      subscripts fuel (.member e s)
    | ⟨.sign ".", _⟩ :: ⟨.whole n, _⟩ :: rest =>
      set rest
      subscripts fuel (.item e (.const (.int n)))
    | ⟨.sign ".", _⟩ :: _ => fail "expected name or number"
    | ⟨.sign "[", _⟩ :: rest =>
      set rest
      let parts ← subscriptParts fuel true
      match parts with
      | [.item _ key] => subscripts fuel (.item e key)
      | [.slice _ start stop step] => subscripts fuel (.slice e start stop step)
      | several =>
        let keys := several.map fun
          | .item _ key => key
          | other => other
        subscripts fuel (.item e (.tuple keys))
    | ⟨.sign "(", _⟩ :: rest =>
      set rest
      let (positional, named) ← arguments fuel true
      subscripts fuel (.call e positional named)
    | _ => return e

/-- The parts of a subscript up to its closing bracket: items or slices of the value at hand. -/
def subscriptParts : (fuel : Nat) → (isFirst : Bool) → Reader (List Expr)
  | 0, _ => fail "too deeply nested"
  | fuel + 1, isFirst => do
    if ← skipIf (Lexeme.isSign "]") then return []
    if !isFirst then expectSign ","
    let part ← subscriptPart fuel
    return part :: (← subscriptParts fuel false)

/-- An item or a slice of the value at hand. -/
def subscriptPart : (fuel : Nat) → Reader Expr
  | 0 => fail "too deeply nested"
  | fuel + 1 => do
    let start ← if ← nextIs (Lexeme.isSign ":") then pure none else some <$> expression fuel
    match start, ← skipIf (Lexeme.isSign ":") with
    | some key, false => return .item .filtered key
    | start, _ =>
      let stop ← bound fuel
      let step ← if ← skipIf (Lexeme.isSign ":") then bound fuel else pure none
      return .slice .filtered start stop step

/-- A bound of a slice, which may be left out. -/
def bound : (fuel : Nat) → Reader (Option Expr)
  | 0 => fail "too deeply nested"
  | fuel + 1 => do
    if ← nextIs (fun l ↦ l.isSign ":" || l.isSign "]" || l.isSign ",") then return none
    else some <$> expression fuel

/-- The arguments of a call up to its closing parenthesis, positional ones first. -/
def arguments : (fuel : Nat) → (isFirst : Bool) → Reader CallArguments
  | 0, _ => fail "too deeply nested"
  | fuel + 1, isFirst => do
    if ← skipIf (Lexeme.isSign ")") then return ([], [])
    if !isFirst then expectSign ","
    if !isFirst && (← skipIf (Lexeme.isSign ")")) then return ([], [])
    match ← get with
    | ⟨.name s, _⟩ :: ⟨.sign "=", _⟩ :: rest =>
      set rest
      let e ← expression fuel
      let (positional, named) ← arguments fuel false
      if !positional.isEmpty then fail "invalid syntax for function call expression"
      return ([], (s, e) :: named)
    | _ =>
      let e ← expression fuel
      let (positional, named) ← arguments fuel false
      return (e :: positional, named)

/-- The filters, tests and calls behind an expression. -/
def filtersAndTests : (fuel : Nat) → Expr → Reader Expr
  | 0, _ => fail "too deeply nested"
  | fuel + 1, e => do
    if ← skipIf (Lexeme.isSign "|") then
      let s ← dottedRest fuel (← expectName)
      let (positional, named) ←
        if ← skipIf (Lexeme.isSign "(") then arguments fuel true else pure ([], [])
      filtersAndTests fuel (.filter e s positional named)
    else if ← skipIf (Lexeme.isName "is") then
      let negated ← skipIf (Lexeme.isName "not")
      let s ← dottedRest fuel (← expectName)
      let (positional, named) ← testArguments fuel
      let tested := Expr.test e s positional named
      filtersAndTests fuel (if negated then .not tested else tested)
    else if ← skipIf (Lexeme.isSign "(") then
      let (positional, named) ← arguments fuel true
      filtersAndTests fuel (.call e positional named)
    else return e

/-- The arguments of a test: in parentheses, or a single operand without them. -/
def testArguments : (fuel : Nat) → Reader CallArguments
  | 0 => fail "too deeply nested"
  | fuel + 1 => do
    if ← skipIf (Lexeme.isSign "(") then arguments fuel true
    else if ← nextIs startsOperand then
      if ← nextIs (Lexeme.isName "is") then fail "You cannot chain multiple tests with is"
      let plain ← operand fuel
      return ([← subscripts fuel plain], [])
    else return ([], [])

end

/-- The target that an expression is, if it can be assigned to. -/
def Target.ofOperand? : Expr → Option Target
  | .name s => some (.name s)
  | _ => none

mutual

/-- One target of an assignment. -/
def target : (fuel : Nat) → (members : Bool) → Reader Target
  | 0, _ => fail "too deeply nested"
  | fuel + 1, members => do
    match ← get with
    | ⟨.name s, _⟩ :: ⟨.sign ".", _⟩ :: ⟨.name a, _⟩ :: rest =>
      if members && (fixedName? s).isNone then
        set rest
        return .member s a
      else plainTarget s
    | ⟨.name s, _⟩ :: _ => plainTarget s
    | ⟨.sign "(", _⟩ :: rest =>
      set rest
      let inner ← targets fuel false true []
      expectSign ")"
      return inner
    | _ => fail "cannot assign to this"
where
  /-- A name that is assigned to. -/
  plainTarget (s : String) : Reader Target := do
    skip
    if (fixedName? s).isSome then fail "can't assign to 'const'" else return .name s

/-- One target, or several with commas between them. -/
def targets : (fuel : Nat) → (members inBrackets : Bool) → (ends : List String) → Reader Target
  | 0, _, _, _ => fail "too deeply nested"
  | fuel + 1, members, inBrackets, ends => do
    let (items, isTuple) ← targetItems fuel members ends
    match isTuple, items with
    | true, items => return .tuple items
    | false, [only] => return only
    | false, _ => if inBrackets then return .tuple [] else fail "Expected an expression"

/-- The targets between commas, and whether there was a comma. -/
def targetItems : (fuel : Nat) → (members : Bool) → (ends : List String) →
    Reader (List Target × Bool)
  | 0, _, _ => fail "too deeply nested"
  | fuel + 1, members, ends => do
    if ← atTupleEnd ends then return ([], false)
    let t ← target fuel members
    if ← skipIf (Lexeme.isSign ",") then
      let (more, _) ← targetItems fuel members ends
      return (t :: more, true)
    else return ([t], false)

end

/-- The filters of a block assignment, applied to the captured text. -/
def captureFilters : (fuel : Nat) → Expr → Reader Expr
  | 0, _ => fail "too deeply nested"
  | fuel + 1, e => do
    if ← skipIf (Lexeme.isSign "|") then
      let s ← dottedRest fuel (← expectName)
      let (positional, named) ←
        if ← skipIf (Lexeme.isSign "(") then arguments fuel true else pure ([], [])
      captureFilters fuel (.filter e s positional named)
    else return e

mutual

/-- Statements up to the end of the template or to a tag that starts with one of the names `ends`,
of which the mark but not the name is taken. -/
def statements : (fuel : Nat) → (ends : List String) → Reader (List Stmt)
  | 0, _ => fail "too deeply nested"
  | fuel + 1, ends => do
    match ← get with
    | [] => if ends.isEmpty then return [] else fail "Unexpected end of template"
    | ⟨.data s, _⟩ :: rest =>
      set rest
      return .data s :: (← statements fuel ends)
    | ⟨.openPrint, _⟩ :: rest =>
      set rest
      let e ← expressions fuel true false []
      if !(← skipIf isClosePrint) then fail "expected token 'end of print statement'"
      return .print e :: (← statements fuel ends)
    | ⟨.openBlock, _⟩ :: rest =>
      set rest
      match ← lexeme? with
      | some (.name s) =>
        if ends.contains s then return []
        skip
        let stmt ← statement fuel s
        expectCloseBlock
        return stmt :: (← statements fuel ends)
      | _ => fail "tag name expected"
    | _ => fail "unexpected token"

/-- The body of a statement: what stands between its opening tag and one that starts with one of
the names `ends`. The name is taken. -/
def body : (fuel : Nat) → (ends : List String) → Reader (List Stmt × String)
  | 0, _ => fail "too deeply nested"
  | fuel + 1, ends => do
    let _ ← skipIf (Lexeme.isSign ":")
    expectCloseBlock
    let inner ← statements fuel ends
    return (inner, ← expectName)

/-- The statement that starts with a name; the end of its last tag is left. -/
def statement : (fuel : Nat) → (keyword : String) → Reader Stmt
  | 0, _ => fail "too deeply nested"
  | fuel + 1, keyword => do
    if keyword == "if" then
      let (branches, otherwise) ← conditional fuel
      return .cond branches otherwise
    else if keyword == "for" then
      let t ← targets fuel false false ["in"]
      if !(← skipIf (Lexeme.isName "in")) then fail "expected token 'in'"
      let source ← expressions fuel false false ["recursive"]
      let only ← if ← skipIf (Lexeme.isName "if") then some <$> expression fuel else pure none
      let (inner, ending) ← body fuel ["endfor", "else"]
      if ending == "endfor" then return .loop t source only inner []
      let (otherwise, _) ← body fuel ["endfor"]
      return .loop t source only inner otherwise
    else if keyword == "set" then
      let t ← targets fuel true false []
      if ← skipIf (Lexeme.isSign "=") then return .assign t (← expressions fuel true false [])
      let through ← captureFilters fuel .filtered
      let (inner, _) ← body fuel ["endset"]
      match through with
      | .filtered => return .capture t none inner
      | e => return .capture t (some e) inner
    else fail ("Encountered unknown tag '" ++ keyword ++ "'.")

/-- The branches of a conditional behind the word that opens it. -/
def conditional : (fuel : Nat) → Reader (List (Expr × List Stmt) × List Stmt)
  | 0 => fail "too deeply nested"
  | fuel + 1 => do
    let condition ← expressions fuel false false []
    let (inner, ending) ← body fuel ["elif", "else", "endif"]
    if ending == "elif" then
      let (branches, otherwise) ← conditional fuel
      return ((condition, inner) :: branches, otherwise)
    else if ending == "else" then
      let (otherwise, _) ← body fuel ["endif"]
      return ([(condition, inner)], otherwise)
    else return ([(condition, inner)], [])

end

/-- A template that has been read. -/
structure Template where
  stmts : List Stmt

/-- Reads a template. A chain of at most twenty readers handles each token. -/
def Template.ofText (template : String) : Except Fault Template := do
  let tokens ← Token.ofText template
  let (stmts, _) ← (statements (20 * tokens.length + 20) []).run tokens
  return ⟨stmts⟩

end Provisioning.Script
